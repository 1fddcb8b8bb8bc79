/-
  `deserialize` after `serialize` on a packet that can be sent.

  * `deserialize_wire`: the header comes back; the switch fields are whatever stands at bytes
    21 to 48 of the packet, where the decoder looks for them, not at byte 37, where the encoder
    put them.
  * `deserialize_wire_eq_ok_iff`: so the packet is accepted when the low half of the switch id,
    which stands where the ingress port is looked for, is the number of a port.
  * `RecordInHeader`: the switch fields that stand at bytes 21 to 48 already.
  * `roundTrip_iff`: the packet comes back exactly when it is such a packet.
-/
import JSdnTrace.TracePacket

namespace JSdnTrace

open Java

namespace TracePacket

/-- A packet that can be put on the wire: 48-bit addresses, an IPv4 switch, an ASCII contId. -/
structure WellFormed (p : TracePacket) : Prop where
  dst : ∃ m, p.destinationMAC = some m ∧ m.Is48
  src : ∃ m, p.sourceMAC = some m ∧ m.Is48
  addr : p.swInfo.Ipv4
  ascii : p.swInfo.contId.Ascii

theorem length_wire (p : TracePacket) (dst src : MacAddress) (address : InetAddress)
    (hc : p.swInfo.contId.Ascii) :
    (p.wire dst src address).length = packSize + 2 * p.swInfo.contId.units.length := by
  rw [wire, List.length_append, List.length_append, length_header, List.length_replicate,
    SwitchInfo.length_record, JString.length_getBytes_ascii hc]
  unfold packSize
  omega

/-- The switch record that the decoder finds at index 21 of the packet. -/
def echo (ofj : OpenFlowJ) (p : TracePacket) (dst src : MacAddress) (address : InetAddress) :
    SwitchInfo :=
  SwitchInfo.readAt ofj (SwitchInfo.new ofj) (p.wire dst src address) 21
    ⟨intAt (p.wire dst src address) 41⟩

theorem flag_eq_one (b : Bool) : decide ((if b then (1 : JByte) else 0) = 1) = b := by
  cases b <;> rfl

/-- The header of the packet, read from its own bytes. -/
theorem readAt_wire {ofj : OpenFlowJ} (hof : ofj.Faithful) {p : TracePacket}
    {dst src : MacAddress} (address : InetAddress) (hd : p.destinationMAC = some dst)
    (hs : p.sourceMAC = some src) (hd48 : dst.Is48) (hs48 : src.Is48) (sw : SwitchInfo) :
    readAt ofj (p.wire dst src address) 0 sw = p.setSwInfo sw := by
  have hdst : longAt (p.wire dst src address) 1 = dst.getLong := longAt_longBytes _ []
  have hsrc : longAt (p.wire dst src address) 9 = src.getLong := longAt_longBytes _ []
  have hpid : longAt (p.wire dst src address) 19 = p.probeId := longAt_longBytes _ []
  have htime : longAt (p.wire dst src address) 28 = p.timestamp := longAt_longBytes _ []
  have hflag : decide (byteAt (p.wire dst src address) 36 = 1) = p.request :=
    flag_eq_one p.request
  unfold readAt
  simp only [Nat.zero_add, hdst, hsrc, hpid, htime, hflag, hof.macOf_eq hd48, hof.macOf_eq hs48]
  rw [← hd, ← hs]
  rfl

theorem ingress_of_record (dpid : JLong) :
    dpid.extractLsb' 24 8 ++ dpid.extractLsb' 16 8 ++ dpid.extractLsb' 8 8 ++
        dpid.extractLsb' 0 8 =
      (dpid.extractLsb' 0 32 : JInt) := by
  rw [extract_append dpid (show 24 = 16 + 8 from rfl),
    extract_append dpid (show 16 = 8 + 8 from rfl),
    extract_append dpid (show 8 = 0 + 8 from rfl)]

/-- The end of the switch id stands where the decoder looks for the ingress port. -/
theorem intAt_wire (p : TracePacket) (dst src : MacAddress) (address : InetAddress) :
    intAt (p.wire dst src address) 41 = p.swInfo.lowDpid := ingress_of_record p.swInfo.dpid.getLong

/-- The same for any packet that was built. -/
theorem intAt_of_serialize {p : TracePacket} {data : List JByte} (h : p.serialize = .ok data) :
    intAt data 41 = p.swInfo.lowDpid := by
  obtain ⟨dst, src, address, k, -, -, -, rfl, -⟩ := bytes_of_serialize h
  exact ingress_of_record p.swInfo.dpid.getLong

section Wire

variable {ofj : OpenFlowJ} {p : TracePacket} {dst src : MacAddress} {address : InetAddress}
  (hc : p.swInfo.contId.Ascii)

include hc

theorem deserialize_wire_eq_ok_iff {this : TracePacket} {length : Int}
    (hle : length ≤ (p.wire dst src address).length) :
    (∃ q, deserialize ofj this (p.wire dst src address) 0 length = .ok q) ↔
      37 ≤ length ∧ ofj.AcceptsPort p.swInfo.lowDpid := by
  have hlen := length_wire p dst src address hc
  unfold packSize SwitchInfo.len at hlen
  rw [deserialize_eq_ok_iff, intAt_wire]
  refine ⟨fun h => ⟨h.2.1, h.2.2.2.2⟩, fun h => ⟨Int.le_refl 0, h.1, ?_, ?_, h.2⟩⟩
  · rwa [Int.zero_add]
  · omega

/-- The packet as its receiver sees it: its own header, and the switch record of `echo`. -/
theorem deserialize_wire (hof : ofj.Faithful) (hport : ofj.AcceptsPort p.swInfo.lowDpid)
    (this : TracePacket) (hd : p.destinationMAC = some dst) (hs : p.sourceMAC = some src)
    (hd48 : dst.Is48) (hs48 : src.Is48) {length : Int} (hl : 37 ≤ length)
    (hle : length ≤ (p.wire dst src address).length) :
    deserialize ofj this (p.wire dst src address) 0 length =
      .ok (p.setSwInfo (p.echo ofj dst src address)) := by
  have hok : ∃ q, deserialize ofj this (p.wire dst src address) 0 length = .ok q :=
    (deserialize_wire_eq_ok_iff hc hle).mpr ⟨hl, hport⟩
  obtain ⟨q, hq⟩ := hok
  rw [hq, deserialize_eq_ok hof hq]
  exact congrArg Except.ok (readAt_wire hof address hd hs hd48 hs48 _)

end Wire

/-! ## The switch fields at index 21 -/

theorem dpid_of_header (probeId timestamp : JLong) (hop : JByte) :
    probeId.extractLsb' 40 8 ++ probeId.extractLsb' 32 8 ++ probeId.extractLsb' 24 8 ++
        probeId.extractLsb' 16 8 ++ probeId.extractLsb' 8 8 ++ probeId.extractLsb' 0 8 ++ hop ++
        timestamp.extractLsb' 56 8 =
      (probeId.extractLsb' 0 48 ++ hop ++ timestamp.extractLsb' 56 8 : JLong) := by
  rw [extract_append probeId (show 40 = 32 + 8 from rfl),
    extract_append probeId (show 32 = 24 + 8 from rfl),
    extract_append probeId (show 24 = 16 + 8 from rfl),
    extract_append probeId (show 16 = 8 + 8 from rfl),
    extract_append probeId (show 8 = 0 + 8 from rfl)]

theorem latency_of_header (timestamp dpid : JLong) (flag : JByte) :
    timestamp.extractLsb' 16 8 ++ timestamp.extractLsb' 8 8 ++ timestamp.extractLsb' 0 8 ++
        flag ++ dpid.extractLsb' 56 8 ++ dpid.extractLsb' 48 8 ++ dpid.extractLsb' 40 8 ++
        dpid.extractLsb' 32 8 =
      (timestamp.extractLsb' 0 24 ++ flag ++ dpid.extractLsb' 32 32 : JLong) := by
  ext i hi
  simp only [BitVec.getElem_append, BitVec.getElem_extractLsb']
  grind

/-- `echo` in terms of the packet: probe id, hop, timestamp, type and dpid, cut elsewhere. -/
theorem echo_eq {ofj : OpenFlowJ} (hof : ofj.Faithful) (p : TracePacket) (dst src : MacAddress)
    (address : InetAddress) :
    p.echo ofj dst src address =
      { dpid := ⟨p.probeId.extractLsb' 0 48 ++ p.hop ++ p.timestamp.extractLsb' 56 8⟩
        ipAddr := ⟨.resolved (.inet4 (p.timestamp.extractLsb' 48 8) (p.timestamp.extractLsb' 40 8)
          (p.timestamp.extractLsb' 32 8) (p.timestamp.extractLsb' 24 8)), 0⟩
        linkLatency := ⟨p.timestamp.extractLsb' 0 24 ++ (if p.request then (1 : JByte) else 0) ++
          p.swInfo.dpid.getLong.extractLsb' 32 32⟩
        ingress := ⟨p.swInfo.lowDpid⟩
        contId := JString.empty } := by
  rw [← dpid_of_header, ← latency_of_header]
  unfold echo SwitchInfo.readAt
  rw [hof.dpidOf_eq, hof.u64Of_eq, intAt_wire]
  rfl

/-- The switch fields of `p` are those that stand at bytes 21 to 48 of the packet. -/
structure RecordInHeader (p : TracePacket) : Prop where
  dpid : p.swInfo.dpid.getLong =
    p.probeId.extractLsb' 0 48 ++ p.hop ++ p.timestamp.extractLsb' 56 8
  ipAddr : p.swInfo.ipAddr.getAddress =
    some (.inet4 (p.timestamp.extractLsb' 48 8) (p.timestamp.extractLsb' 40 8)
      (p.timestamp.extractLsb' 32 8) (p.timestamp.extractLsb' 24 8))
  linkLatency : p.swInfo.linkLatency.getValue =
    p.timestamp.extractLsb' 0 24 ++ (if p.request then (1 : JByte) else 0) ++
      p.swInfo.dpid.getLong.extractLsb' 32 32
  ingress : p.swInfo.ingress.getPortNumber = p.swInfo.lowDpid
  contId : p.swInfo.contId = JString.empty

theorem recordInHeader_iff {ofj : OpenFlowJ} (hof : ofj.Faithful) {p : TracePacket}
    (dst src : MacAddress) (address : InetAddress) (hport : p.swInfo.ipAddr.port = 0) :
    p.RecordInHeader ↔ p.echo ofj dst src address = p.swInfo := by
  rw [echo_eq hof]
  refine ⟨fun h => ?_, fun h => ?_⟩
  · obtain ⟨hdpid, hip, hlat, hing, hcont⟩ := h
    rw [← hdpid, ← InetSocketAddress.getAddress_eq_some.mp hip, ← hlat, ← hing, ← hcont, ← hport]
  · exact ⟨congrArg (·.dpid.getLong) h.symm, congrArg (·.ipAddr.getAddress) h.symm,
      congrArg (·.linkLatency.getValue) h.symm, congrArg (·.ingress.getPortNumber) h.symm,
      congrArg (·.contId) h.symm⟩

/-- `new TracePacket().deserialize(p.serialize(), 0, p.serialize().length)`. -/
def roundTrip (ofj : OpenFlowJ) (draw : Draw) (p : TracePacket) : Except Throwable TracePacket := do
  let data ← p.serialize
  deserialize ofj (new ofj draw) data 0 data.length

theorem setSwInfo_eq_self {p : TracePacket} {sw : SwitchInfo} :
    p.setSwInfo sw = p ↔ sw = p.swInfo := by
  refine ⟨fun h => congrArg (·.swInfo) h, fun h => ?_⟩
  rw [h]
  rfl

theorem roundTrip_iff (ofj : OpenFlowJ) (hof : ofj.Faithful) (draw : Draw) (p : TracePacket)
    (haccepts : ofj.AcceptsPort p.swInfo.lowDpid) (hp : p.WellFormed)
    (hport : p.swInfo.ipAddr.port = 0) :
    roundTrip ofj draw p = .ok p ↔ p.RecordInHeader := by
  obtain ⟨dst, hd, hd48⟩ := hp.dst
  obtain ⟨src, hs, hs48⟩ := hp.src
  obtain ⟨b0, b1, b2, b3, ha⟩ := hp.addr
  rw [recordInHeader_iff hof dst src (.inet4 b0 b1 b2 b3) hport]
  have hlen := length_wire p dst src (.inet4 b0 b1 b2 b3) hp.ascii
  by_cases hfit : packSize + 2 * p.swInfo.contId.units.length < 0x80000000
  · have h37 : (37 : Int) ≤ (p.wire dst src (.inet4 b0 b1 b2 b3)).length := by
      rw [hlen]
      unfold packSize
      omega
    unfold roundTrip
    rw [serialize_of_lt hd hs ha hp.ascii hfit, ok_bind,
      deserialize_wire hp.ascii hof haccepts _ hd hs hd48 hs48 h37 (Int.le_refl _), Except.ok.injEq,
      setSwInfo_eq_self]
  · refine ⟨fun h => ?_, fun h => ?_⟩
    · obtain ⟨data, hdata, -⟩ := bind_eq_ok.mp h
      exact absurd (lt_of_serialize hdata) hfit
    · -- `echo` has the empty contId, which is never too long.
      have hempty : p.swInfo.contId = JString.empty := by
        rw [← h, echo_eq hof]
      rw [hempty] at hfit
      exact absurd (by decide) hfit

/-- The packet of `UnitTests.tracePackTest`, its switch address with port 0. -/
def unitTestPacket : TracePacket where
  destinationMAC := some ⟨1⟩
  sourceMAC := some ⟨2⟩
  version := 1
  maxHops := 100
  probeId := 0x0123456789ABCDEF
  timestamp := 0x0000015606A8B1C0
  hop := -1
  swInfo :=
    { dpid := ⟨0⟩
      ipAddr := ⟨.resolved (.inet4 0 0 0 0), 0⟩
      linkLatency := ⟨1⟩
      ingress := ⟨1⟩
      contId := ⟨[0x20], by decide⟩ }
  request := true

theorem unitTestPacket_wellFormed : unitTestPacket.WellFormed where
  dst := ⟨⟨1⟩, rfl, by decide⟩
  src := ⟨⟨2⟩, rfl, by decide⟩
  addr := ⟨0, 0, 0, 0, rfl⟩
  ascii := by decide

theorem unitTestPacket_lost :
    unitTestPacket.WellFormed ∧ unitTestPacket.swInfo.ipAddr.port = 0 ∧
      roundTrip OpenFlowJ.documented ⟨0, 0⟩ unitTestPacket ≠ .ok unitTestPacket :=
  ⟨unitTestPacket_wellFormed, rfl, by decide +kernel⟩

/-- A reply with empty switch fields of the shape `RecordInHeader` asks for. -/
def blankPacket : TracePacket where
  destinationMAC := some ⟨1⟩
  sourceMAC := some ⟨2⟩
  version := 1
  maxHops := 100
  probeId := 0x0102000000000000
  timestamp := 0
  hop := 0
  swInfo :=
    { dpid := ⟨0⟩
      ipAddr := ⟨.resolved (.inet4 0 0 0 0), 0⟩
      linkLatency := ⟨0⟩
      ingress := ⟨0⟩
      contId := JString.empty }
  request := false

theorem blankPacket_wellFormed : blankPacket.WellFormed where
  dst := ⟨⟨1⟩, rfl, by decide⟩
  src := ⟨⟨2⟩, rfl, by decide⟩
  addr := ⟨0, 0, 0, 0, rfl⟩
  ascii := by decide

theorem blankPacket_roundTrip :
    roundTrip OpenFlowJ.documented ⟨0, 0⟩ blankPacket = .ok blankPacket ↔
      blankPacket.RecordInHeader :=
  roundTrip_iff OpenFlowJ.documented OpenFlowJ.documented_faithful ⟨0, 0⟩ blankPacket
    (by decide) blankPacket_wellFormed rfl

end TracePacket

end JSdnTrace
