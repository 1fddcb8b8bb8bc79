/-
  `TraceModule`, the plug-in for the Floodlight controller: how it sends a trace packet and how
  it reads one from a packet-in.

  Floodlight is not part of the repository. `Floodlight` has the calls the module makes and
  `Floodlight.Faithful` what is relied on: an Ethernet header has 14 bytes, and the payload of a
  frame that was received is what stands behind it. The module is written against an earlier
  `PacketIn`, which took the packet itself; `receive` ends where that call is made.

  * `network`: the module as the `INetwork` of the controller. Without an active switch every call
    throws.
  * `overTheWire_iff`: `receive` skips the 14 header bytes once more, so it reads a packet back
    exactly when the header repeats itself 14 bytes further on, and the record has a port, which
    it then always has (`HeaderRepeats.acceptsPort`).
-/
import JSdnTrace.PacketBytes
import JSdnTrace.TraceAppController

namespace JSdnTrace

open Java

/-- `IOFSwitch`, by its `getId()`. -/
structure IOFSwitch where
  id : DatapathId
  deriving DecidableEq

/-- `OFPacketOut`: the switch it was written to, and what was set on its builder. -/
structure OFPacketOut where
  sw : IOFSwitch
  inPort : OFPort
  output : OFPort
  data : List JByte

inductive OFFlowModCommand where
  | add
  | modify
  | modifyStrict
  | delete
  | deleteStrict
  deriving DecidableEq

inductive OFBufferId where
  | noBuffer
  | of (id : JInt)
  deriving DecidableEq

/-- An output action. -/
structure OFActionOutput where
  port : OFPort
  maxLen : JInt

/-- `OFFlowMod`: which builder made it, and what was set on it. -/
structure OFFlowMod where
  isDelete : Bool
  mtch : Option Match
  cookie : U64
  idleTimeout : JInt
  hardTimeout : JInt
  priority : JInt
  bufferId : OFBufferId
  outPort : OFPort
  /-- The flag `SEND_FLOW_REM`. -/
  sendFlowRem : Bool
  actions : List OFActionOutput

/-- An Ethernet frame of a packet-in, its payload not one that Floodlight parses. -/
structure Ethernet where
  etherType : BitVec 16
  payload : List JByte

/-- What the module uses of Floodlight. -/
structure Floodlight where
  /-- `null` for a switch that is not connected. -/
  getActiveSwitch : DatapathId → Option IOFSwitch
  /-- `Ethernet.serialize()`: destination, source, type and serialized payload. -/
  serialize : MacAddress → MacAddress → BitVec 16 → List JByte → List JByte
  /-- `getPayload().getData()` of a frame that was received. -/
  payloadData : List JByte → List JByte

structure Floodlight.Faithful (fl : Floodlight) : Prop where
  serialize : ∀ dst src type payload, ∃ header : List JByte,
    header.length = 14 ∧ fl.serialize dst src type payload = header ++ payload
  payloadData : ∀ frame, fl.payloadData frame = frame.drop 14

/-- Untagged frames, on a network with the switches `connected`. -/
def Floodlight.untagged (connected : DatapathId → Bool) : Floodlight where
  getActiveSwitch dpid := if connected dpid then some ⟨dpid⟩ else none
  serialize dst src type payload :=
    (longBytes dst.getLong).drop 2 ++ (longBytes src.getLong).drop 2 ++
      [type.extractLsb' 8 8, type.extractLsb' 0 8] ++ payload
  payloadData frame := frame.drop 14

theorem Floodlight.untagged_faithful (connected : DatapathId → Bool) :
    (Floodlight.untagged connected).Faithful where
  serialize _ _ _ _ := ⟨_, rfl, rfl⟩
  payloadData _ := rfl

namespace TraceModule

def traceEther : BitVec 16 := 0x8220

/-! ## Sending -/

/-- `SendTracePacket`: the packet-out that is written to the switch. -/
def sendTracePacket (ofj : OpenFlowJ) (fl : Floodlight) (dpid : JLong) (pkt : TracePacket)
    (p : OFPort) : Except Throwable OFPacketOut := do
  let payload ← pkt.serialize
  let destination ← deref pkt.destinationMAC
  let source ← deref pkt.sourceMAC
  let serialized := fl.serialize destination source traceEther payload
  let sw ← deref (fl.getActiveSwitch (ofj.dpidOf dpid))
  return { sw := sw, inPort := ofj.portController, output := p, data := serialized }

/-- `buildTraceMatch`; the match comes from the factory of the switch. -/
def buildTraceMatch (ofj : OpenFlowJ) (fl : Floodlight) (dpid : JLong) :
    Except Throwable (Option Match) := do
  let _ ← deref (fl.getActiveSwitch (ofj.dpidOf dpid))
  return some ⟨traceEther⟩

/-- `writeFlowMod`: the message that is written to the switch. -/
def writeFlowMod (ofj : OpenFlowJ) (command : OFFlowModCommand) (bufferId : OFBufferId)
    (mtch : Option Match) (outPort : OFPort) : OFFlowMod where
  isDelete := decide (command = .delete)
  mtch := mtch
  cookie := ⟨0⟩
  idleTimeout := 0
  hardTimeout := 0
  priority := 10
  bufferId := bufferId
  outPort := if command = .delete then ofj.portAny else outPort
  sendFlowRem := decide (command ≠ .delete)
  actions := [⟨outPort, 0xffffffff⟩]

/-- `AddFlow`: the switch, and the message that is written to it. -/
def addFlow (ofj : OpenFlowJ) (fl : Floodlight) (dpid : JLong) (m : Option Match) (port : OFPort) :
    Except Throwable (IOFSwitch × OFFlowMod) := do
  let sw ← deref (fl.getActiveSwitch (ofj.dpidOf dpid))
  return (sw, writeFlowMod ofj .add .noBuffer m port)

/-- The module as the controller sees it. -/
def network (ofj : OpenFlowJ) (fl : Floodlight) : INetwork where
  buildTraceMatch := buildTraceMatch ofj fl
  addFlow dpid m port := do
    let _ ← addFlow ofj fl dpid m port
    return ()
  sendTracePacket dpid pkt p := do
    let _ ← sendTracePacket ofj fl dpid pkt p
    return ()

/-! ## Receiving -/

/-- What `receive` does with a message. -/
inductive Received where
  | ignored
  /-- `tracer.PacketIn(tp, sw.getId().getLong())`. -/
  | packetIn (tp : TracePacket) (dpid : JLong)
  /-- A reply is only logged. -/
  | reply (tp : TracePacket)

/-- `tp.deserialize(data, 14, data[14])` on a new packet. -/
def parse (ofj : OpenFlowJ) (draw : Draw) (data : List JByte) : Except Throwable TracePacket := do
  let length ← arrayAt data 14
  (TracePacket.new ofj draw).deserialize ofj data 14 length.toInt

/-- `receive` of a message from `sw`; `eth` is the frame of a packet-in, and another message has
    none. -/
def receive (ofj : OpenFlowJ) (draw : Draw) (sw : IOFSwitch) (eth : Option Ethernet) :
    Except Throwable Received := do
  match eth with
  | none => return .ignored
  | some eth =>
    if eth.etherType = traceEther then
      let tp ←
        match parse ofj draw eth.payload with
        | .ok tp => .ok tp
        | .error e =>
          -- Nothing in `deserialize` throws what is caught, so `tp` would still be new.
          if e = .other "PacketParsingException" then .ok (TracePacket.new ofj draw)
          else .error e
      if tp.request then return .packetIn tp sw.id.getLong else return .reply tp
    else return .ignored

/-- A packet that was sent to a switch, as it is read from the packet-in of the frame. -/
def overTheWire (ofj : OpenFlowJ) (fl : Floodlight) (draw : Draw) (dpid : JLong)
    (pkt : TracePacket) (p : OFPort) : Except Throwable TracePacket := do
  let po ← sendTracePacket ofj fl dpid pkt p
  parse ofj draw (fl.payloadData po.data)

/-! ## What is read 14 bytes into a packet -/

/-- The header that stands 14 bytes into a packet is its own, and byte 14, which is taken for the
    length, fits the packet. -/
structure HeaderRepeats (ofj : OpenFlowJ) (p : TracePacket) (src : MacAddress)
    (address : InetAddress) : Prop where
  length_ge : 37 ≤ (src.getLong.extractLsb' 16 8).toInt
  length_le : 14 + (src.getLong.extractLsb' 16 8).toInt ≤
    TracePacket.packSize + 2 * p.swInfo.contId.units.length
  destinationMAC : p.destinationMAC = some (ofj.macOf (src.getLong.extractLsb' 0 16 ++ p.version ++
    p.maxHops ++ p.probeId.extractLsb' 32 32))
  sourceMAC : p.sourceMAC = some (ofj.macOf (p.probeId.extractLsb' 0 32 ++ p.hop ++
    p.timestamp.extractLsb' 40 24))
  version : p.version = p.timestamp.extractLsb' 32 8
  maxHops : p.maxHops = p.timestamp.extractLsb' 24 8
  probeId : p.probeId = p.timestamp.extractLsb' 0 24 ++ (if p.request then (1 : JByte) else 0) ++
    p.swInfo.dpid.getLong.extractLsb' 32 32
  hop : p.hop = p.swInfo.dpid.getLong.extractLsb' 24 8
  timestamp : p.timestamp = p.swInfo.dpid.getLong.extractLsb' 0 24 ++
    byteAt address.getAddress 0 ++ byteAt address.getAddress 1 ++ byteAt address.getAddress 2 ++
    byteAt address.getAddress 3 ++ p.swInfo.linkLatency.getValue.extractLsb' 56 8
  request : p.request = decide (p.swInfo.linkLatency.getValue.extractLsb' 48 8 = 1)

/-- Two low bytes of `v`, and the four high bytes of `w` at the end. -/
theorem destination_of_header (v w : JLong) (version maxHops : JByte) :
    v.extractLsb' 8 8 ++ v.extractLsb' 0 8 ++ version ++ maxHops ++ w.extractLsb' 56 8 ++
        w.extractLsb' 48 8 ++ w.extractLsb' 40 8 ++ w.extractLsb' 32 8 =
      (v.extractLsb' 0 16 ++ version ++ maxHops ++ w.extractLsb' 32 32 : JLong) := by
  ext i hi
  simp only [BitVec.getElem_append, BitVec.getElem_extractLsb']
  grind

theorem source_of_header (v w : JLong) (hop : JByte) :
    v.extractLsb' 24 8 ++ v.extractLsb' 16 8 ++ v.extractLsb' 8 8 ++ v.extractLsb' 0 8 ++ hop ++
        w.extractLsb' 56 8 ++ w.extractLsb' 48 8 ++ w.extractLsb' 40 8 =
      (v.extractLsb' 0 32 ++ hop ++ w.extractLsb' 40 24 : JLong) := by
  ext i hi
  simp only [BitVec.getElem_append, BitVec.getElem_extractLsb']
  grind

theorem timestamp_of_record (v w : JLong) (b0 b1 b2 b3 : JByte) :
    v.extractLsb' 16 8 ++ v.extractLsb' 8 8 ++ v.extractLsb' 0 8 ++ b0 ++ b1 ++ b2 ++ b3 ++
        w.extractLsb' 56 8 =
      (v.extractLsb' 0 24 ++ b0 ++ b1 ++ b2 ++ b3 ++ w.extractLsb' 56 8 : JLong) := by
  rw [extract_append v (show 16 = 8 + 8 from rfl), extract_append v (show 8 = 0 + 8 from rfl)]

/-- The header 14 bytes into a packet: the low end of the source MAC and what follows it, up to
    the latency of the switch record. -/
theorem readAt_fourteen (ofj : OpenFlowJ) (p : TracePacket) (dst src : MacAddress)
    (address : InetAddress) (rest : List JByte) (sw : SwitchInfo) :
    TracePacket.readAt ofj (p.header dst src ++ (p.swInfo.record address ++ rest)) 14 sw =
      { destinationMAC := some (ofj.macOf (src.getLong.extractLsb' 0 16 ++ p.version ++
          p.maxHops ++ p.probeId.extractLsb' 32 32))
        sourceMAC := some (ofj.macOf (p.probeId.extractLsb' 0 32 ++ p.hop ++
          p.timestamp.extractLsb' 40 24))
        version := p.timestamp.extractLsb' 32 8
        maxHops := p.timestamp.extractLsb' 24 8
        probeId := p.timestamp.extractLsb' 0 24 ++ (if p.request then (1 : JByte) else 0) ++
          p.swInfo.dpid.getLong.extractLsb' 32 32
        hop := p.swInfo.dpid.getLong.extractLsb' 24 8
        timestamp := p.swInfo.dpid.getLong.extractLsb' 0 24 ++ byteAt address.getAddress 0 ++
          byteAt address.getAddress 1 ++ byteAt address.getAddress 2 ++
          byteAt address.getAddress 3 ++ p.swInfo.linkLatency.getValue.extractLsb' 56 8
        request := decide (p.swInfo.linkLatency.getValue.extractLsb' 48 8 = 1)
        swInfo := sw } := by
  rw [← destination_of_header, ← source_of_header, ← TracePacket.latency_of_header,
    ← timestamp_of_record]
  rfl

theorem sameHeader_fourteen_iff {ofj : OpenFlowJ} {p : TracePacket} {dst src : MacAddress}
    {address : InetAddress} {rest : List JByte} {sw : SwitchInfo}
    (hlen : 37 ≤ (src.getLong.extractLsb' 16 8).toInt ∧ 14 + (src.getLong.extractLsb' 16 8).toInt ≤
      TracePacket.packSize + 2 * p.swInfo.contId.units.length) :
    TracePacket.SameHeader
        (TracePacket.readAt ofj (p.header dst src ++ (p.swInfo.record address ++ rest)) 14 sw) p ↔
      HeaderRepeats ofj p src address := by
  rw [readAt_fourteen]
  refine ⟨fun h => ?_, fun h => ?_⟩
  · exact ⟨hlen.1, hlen.2, h.destinationMAC.symm, h.sourceMAC.symm, h.version.symm,
      h.maxHops.symm, h.probeId.symm, h.hop.symm, h.timestamp.symm, h.request.symm⟩
  · exact ⟨h.destinationMAC.symm, h.sourceMAC.symm, h.version.symm, h.maxHops.symm,
      h.probeId.symm, h.hop.symm, h.timestamp.symm, h.request.symm⟩

/-- What `receive` is given of a packet that was sent is the packet itself. -/
theorem overTheWire_eq {ofj : OpenFlowJ} {fl : Floodlight} (hfl : fl.Faithful) (draw : Draw)
    {dpid : JLong} {sw : IOFSwitch} (hsw : fl.getActiveSwitch (ofj.dpidOf dpid) = some sw)
    {p : TracePacket} (port : OFPort) {data : List JByte} (hdata : p.serialize = .ok data) :
    overTheWire ofj fl draw dpid p port = parse ofj draw data := by
  obtain ⟨dst, src, hd, hs⟩ := TracePacket.macs_of_serialize hdata
  obtain ⟨header, hheader, hframe⟩ := hfl.serialize dst src traceEther data
  unfold overTheWire sendTracePacket
  simp only [hdata, hd, hs, hsw, deref_some, ok_bind, pure, Except.pure]
  rw [hfl.payloadData, hframe, ← hheader, List.drop_left]

/-- A packet that was sent comes back from `receive` exactly when its header repeats, and the end
    of the switch id is the number of a port. -/
theorem overTheWire_iff {ofj : OpenFlowJ} (hof : ofj.Faithful) {fl : Floodlight}
    (hfl : fl.Faithful) (draw : Draw) {dpid : JLong} {sw : IOFSwitch}
    (hsw : fl.getActiveSwitch (ofj.dpidOf dpid) = some sw) (p : TracePacket) (port : OFPort)
    {data : List JByte} (hdata : p.serialize = .ok data) (hle : data.length ≤ 127)
    {src : MacAddress} (hs : p.sourceMAC = some src) {address : InetAddress}
    (ha : p.swInfo.ipAddr.getAddress = some address) :
    (∃ tp, overTheWire ofj fl draw dpid p port = .ok tp ∧ tp.SameHeader p) ↔
      HeaderRepeats ofj p src address ∧ ofj.AcceptsPort p.swInfo.lowDpid := by
  have hfit := TracePacket.lt_of_serialize hdata
  obtain ⟨dst, src', address', k, hd, hs', ha', hbytes, hlen, -⟩ :=
    TracePacket.bytes_of_serialize hdata
  cases hs.symm.trans hs'
  cases ha.symm.trans ha'
  rw [Nat.mod_eq_of_lt (by omega)] at hlen
  have hge : 65 ≤ data.length := TracePacket.packSize_le_length hdata
  have hbyte : byteAt data 14 = src.getLong.extractLsb' 16 8 := by
    rw [hbytes]
    rfl
  have hparse : parse ofj draw data = (TracePacket.new ofj draw).deserialize ofj data 14
      (src.getLong.extractLsb' 16 8).toInt := by
    unfold parse
    rw [arrayAt_of_lt (by omega), ok_bind, hbyte]
  rw [overTheWire_eq hfl draw hsw port hdata, hparse]
  rw [← TracePacket.intAt_of_serialize hdata]
  refine ⟨fun h => ?_, fun h => ?_⟩
  · obtain ⟨tp, htp, hsame⟩ := h
    obtain ⟨-, h37, hin, -, hport⟩ := TracePacket.deserialize_eq_ok_iff.mp ⟨tp, htp⟩
    rw [TracePacket.deserialize_eq_ok hof htp, hbytes] at hsame
    exact ⟨(sameHeader_fourteen_iff ⟨h37, by omega⟩).mp hsame, hport⟩
  · obtain ⟨h, hport⟩ := h
    have hle := h.length_le
    have hok : ∃ tp, (TracePacket.new ofj draw).deserialize ofj data 14
        (src.getLong.extractLsb' 16 8).toInt = .ok tp :=
      TracePacket.deserialize_eq_ok_iff.mpr ⟨by omega, h.length_ge, by omega, by omega, hport⟩
    obtain ⟨tp, htp⟩ := hok
    refine ⟨tp, htp, ?_⟩
    rw [TracePacket.deserialize_eq_ok hof htp, hbytes]
    exact (sameHeader_fourteen_iff ⟨h.length_ge, h.length_le⟩).mpr h

/-- The byte that was taken for the length is also a byte of the port, which is therefore none of
    those that `OFPort.of` rejects. -/
theorem HeaderRepeats.acceptsPort {p : TracePacket} {src : MacAddress} {address : InetAddress}
    (h : HeaderRepeats OpenFlowJ.documented p src address) (hs : p.sourceMAC = some src) :
    OpenFlowJ.documented.AcceptsPort p.swInfo.lowDpid := by
  have hsrc : src.getLong = (p.probeId.extractLsb' 0 32 ++ p.hop ++
      p.timestamp.extractLsb' 40 24 : JLong) &&& 0xFFFFFFFFFFFF :=
    congrArg MacAddress.getLong (Option.some_inj.mp (hs.symm.trans h.sourceMAC))
  have hmask : ∀ i < 8, (0xFFFFFFFFFFFF : JLong).getLsbD (16 + i) = true := by decide
  have hbyte : src.getLong.extractLsb' 16 8 = p.swInfo.lowDpid.extractLsb' 16 8 := by
    rw [hsrc, h.timestamp, SwitchInfo.lowDpid]
    ext i hi
    simp only [BitVec.getElem_extractLsb', BitVec.getLsbD_and, BitVec.getLsbD_append,
      BitVec.getLsbD_extractLsb', hmask i hi, Bool.and_true]
    grind
  have hge := h.length_ge
  rw [OpenFlowJ.documented_acceptsPort_iff]
  intro hrejected
  have hFF : p.swInfo.lowDpid.extractLsb' 16 8 = 0xFF := by
    apply BitVec.eq_of_toNat_eq
    rw [BitVec.extractLsb'_toNat, Nat.shiftRight_eq_div_pow]
    show _ / 65536 % 256 = 255
    omega
  rw [hbyte, hFF] at hge
  exact absurd hge (by decide)

/-- From byte 14 of the packet of the unit test no header can be read. -/
theorem unitTestPacket_not_overTheWire :
    (∃ data, TracePacket.unitTestPacket.serialize = .ok data ∧ data.length ≤ 127) ∧
      ¬ ∃ tp, overTheWire OpenFlowJ.documented (.untagged fun _ => true) ⟨0, 0⟩ 1
        TracePacket.unitTestPacket OpenFlowJ.documented.portFlood = .ok tp ∧
        tp.SameHeader TracePacket.unitTestPacket := by
  refine ⟨⟨TracePacket.unitTestPacket.wire ⟨1⟩ ⟨2⟩ (.inet4 0 0 0 0), by decide +kernel,
    by decide⟩, fun h => ?_⟩
  obtain ⟨tp, htp, -⟩ := h
  have hthrows : overTheWire OpenFlowJ.documented (.untagged fun _ => true) ⟨0, 0⟩ 1
      TracePacket.unitTestPacket OpenFlowJ.documented.portFlood = .error .bufferUnderflow := by
    decide +kernel
  rw [hthrows] at htp
  cases htp

/-- A packet whose header does repeat. -/
def repeatingPacket : TracePacket where
  destinationMAC := some ⟨1⟩
  sourceMAC := some ⟨0x280000⟩
  version := 0
  maxHops := 0
  probeId := 0x0000000100000000
  timestamp := 0x2800000000000000
  hop := 0
  swInfo :=
    { dpid := ⟨0x280000⟩
      ipAddr := ⟨.resolved (.inet4 0 0 0 0), 0⟩
      linkLatency := ⟨0x0001000000000000⟩
      ingress := ⟨1⟩
      contId := JString.empty }
  request := true

theorem repeatingPacket_overTheWire_iff :
    (∃ tp, overTheWire OpenFlowJ.documented (.untagged fun _ => true) ⟨0, 0⟩ 1 repeatingPacket
        OpenFlowJ.documented.portFlood = .ok tp ∧ tp.SameHeader repeatingPacket) ↔
      HeaderRepeats OpenFlowJ.documented repeatingPacket ⟨0x280000⟩ (.inet4 0 0 0 0) ∧
        OpenFlowJ.documented.AcceptsPort repeatingPacket.swInfo.lowDpid :=
  overTheWire_iff OpenFlowJ.documented_faithful (Floodlight.untagged_faithful _) ⟨0, 0⟩ rfl
    repeatingPacket OpenFlowJ.documented.portFlood
    (show repeatingPacket.serialize = .ok (repeatingPacket.wire ⟨1⟩ ⟨0x280000⟩ (.inet4 0 0 0 0)) by
      decide +kernel) (by decide) rfl rfl

/-! ## The message as a whole -/

theorem throwsOwn_parse {ofj : OpenFlowJ} (hof : ofj.Faithful) (draw : Draw)
    (data : List JByte) : ThrowsOwn (parse ofj draw data) :=
  (throwsOwn_arrayAt data 14).bind fun _ => TracePacket.throwsOwn_deserialize hof

/-- A trace frame is passed on as it was parsed, or its exception leaves `receive`. -/
theorem receive_trace {ofj : OpenFlowJ} (hof : ofj.Faithful) (draw : Draw) (sw : IOFSwitch)
    (data : List JByte) :
    receive ofj draw sw (some ⟨traceEther, data⟩) =
      (parse ofj draw data).map fun tp =>
        if tp.request then .packetIn tp sw.id.getLong else .reply tp := by
  unfold receive
  cases hparse : parse ofj draw data with
  | ok tp =>
    simp only [hparse, if_true, ok_bind, Except.map]
    split <;> rfl
  | error e =>
    have he : e ≠ .other "PacketParsingException" := fun heq =>
      (throwsOwn_parse hof draw data).doesNotThrow (heq ▸ hparse)
    simp only [hparse, if_true, if_neg he, error_bind, Except.map]

end TraceModule

end JSdnTrace
