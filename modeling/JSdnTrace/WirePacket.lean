/-
  Well-formed packets as the controller reads them: `PacketIn` takes the first byte of the
  packet, signed, for its length, and the low half of the switch id for the ingress port.

  * `WirePacket`: a well-formed packet with the bytes that `serialize` makes of it.
  * `toInt_lengthByte`: the length byte is the length, cut to eight bits.
  * `parse_wirePacket`: a packet of 37 to 127 bytes, modulo 256, whose switch id ends in the
    number of a port, is read back but for its switch record.
  * `parse_wirePacket_iff`: every other packet is rejected.
  * `sends_wirePacket`: a packet that is read is answered.
-/
import JSdnTrace.RoundTrip
import JSdnTrace.Run

namespace JSdnTrace

open Java TraceAppController

/-- A well-formed packet that was put on the wire. -/
structure WirePacket where
  pkt : TracePacket
  data : List JByte
  wellFormed : pkt.WellFormed
  serialize_eq : pkt.serialize = .ok data

namespace WirePacket

/-- The bytes of a well-formed packet whose length fits an `int`. -/
def ofWellFormed (pkt : TracePacket) (h : pkt.WellFormed)
    (hlen : TracePacket.packSize + 2 * pkt.swInfo.contId.units.length < 0x80000000) :
    WirePacket where
  pkt := pkt
  data := pkt.serialize.toOption.getD []
  wellFormed := h
  serialize_eq := by
    obtain ⟨dst, hd, -⟩ := h.dst
    obtain ⟨src, hs, -⟩ := h.src
    obtain ⟨b0, b1, b2, b3, ha⟩ := h.addr
    rw [TracePacket.serialize_of_lt hd hs ha h.ascii hlen]
    rfl

/-- The length byte is not negative and covers the header. -/
def LengthReadable (r : WirePacket) : Prop :=
  37 ≤ r.data.length % 256 ∧ r.data.length % 256 ≤ 127

/-- Besides, the switch id ends in the number of a port. -/
structure Readable (ofj : OpenFlowJ) (r : WirePacket) : Prop where
  length : r.LengthReadable
  port : ofj.AcceptsPort r.pkt.swInfo.lowDpid

/-- The bytes of the packet, its addresses named. -/
theorem data_eq_wire (r : WirePacket) :
    ∃ dst src address, r.pkt.destinationMAC = some dst ∧ dst.Is48 ∧
      r.pkt.sourceMAC = some src ∧ src.Is48 ∧ r.data = r.pkt.wire dst src address := by
  obtain ⟨dst, hd, hd48⟩ := r.wellFormed.dst
  obtain ⟨src, hs, hs48⟩ := r.wellFormed.src
  obtain ⟨b0, b1, b2, b3, ha⟩ := r.wellFormed.addr
  exact ⟨dst, src, _, hd, hd48, hs, hs48,
    TracePacket.serialize_eq_ok hd hs ha r.wellFormed.ascii r.serialize_eq⟩

theorem length_data (r : WirePacket) :
    r.data.length = TracePacket.packSize + 2 * r.pkt.swInfo.contId.units.length := by
  obtain ⟨dst, src, address, -, -, -, -, hdata⟩ := r.data_eq_wire
  rw [hdata, TracePacket.length_wire r.pkt dst src address r.wellFormed.ascii]

theorem arrayHead_data (r : WirePacket) : arrayHead r.data = .ok r.pkt.lengthByte := by
  obtain ⟨dst, src, address, -, -, -, -, hdata⟩ := r.data_eq_wire
  rw [hdata]
  rfl

theorem toNat_lengthByte (r : WirePacket) :
    r.pkt.lengthByte.toNat = r.data.length % 256 := by
  unfold TracePacket.lengthByte
  rw [BitVec.toNat_setWidth, TracePacket.toNat_length, length_data]
  omega

theorem toInt_lengthByte (r : WirePacket) :
    r.pkt.lengthByte.toInt =
      if r.data.length % 256 < 128 then (r.data.length % 256 : Int)
      else (r.data.length % 256 : Int) - 256 := by
  rw [BitVec.toInt_eq_toNat_cond, toNat_lengthByte]
  split <;> split <;> omega

theorem lengthReadable_of_le {r : WirePacket} (h : r.data.length ≤ 127) : r.LengthReadable := by
  have hlen := r.length_data
  unfold TracePacket.packSize SwitchInfo.len at hlen
  unfold LengthReadable
  omega

variable {ofj : OpenFlowJ} (draw : Draw) (r : WirePacket)

theorem parse_data : parse ofj draw r.data =
    (TracePacket.new ofj draw).deserialize ofj r.data 0 r.pkt.lengthByte.toInt := by
  unfold parse
  rw [arrayHead_data, ok_bind]

theorem lengthByte_le : r.pkt.lengthByte.toInt ≤ r.data.length := by
  rw [toInt_lengthByte]
  split <;> omega

theorem lengthReadable_iff : r.LengthReadable ↔ 37 ≤ r.pkt.lengthByte.toInt := by
  rw [toInt_lengthByte]
  unfold LengthReadable
  split <;> omega

theorem parse_wirePacket_iff : (∃ q, parse ofj draw r.data = .ok q) ↔ r.Readable ofj := by
  obtain ⟨dst, src, address, -, -, -, -, hdata⟩ := r.data_eq_wire
  have hle := r.lengthByte_le
  rw [parse_data]
  rw [hdata] at hle ⊢
  rw [TracePacket.deserialize_wire_eq_ok_iff r.wellFormed.ascii hle, ← lengthReadable_iff]
  exact ⟨fun h => ⟨h.1, h.2⟩, fun h => ⟨h.length, h.port⟩⟩

theorem parse_of_not_readable (h : ¬ r.Readable ofj) :
    ∃ e, parse ofj draw r.data = .error e := by
  cases hparse : parse ofj draw r.data with
  | ok q => exact absurd ((r.parse_wirePacket_iff draw).mp ⟨q, hparse⟩) h
  | error e => exact ⟨e, rfl⟩

variable (hof : ofj.Faithful)

include hof

/-- The controller reads the packet back, with another switch record. -/
theorem parse_wirePacket (h : r.Readable ofj) :
    ∃ sw, parse ofj draw r.data = .ok (r.pkt.setSwInfo sw) := by
  obtain ⟨dst, src, address, hd, hd48, hs, hs48, hdata⟩ := r.data_eq_wire
  have hle := r.lengthByte_le
  have h37 := r.lengthReadable_iff.mp h.length
  rw [parse_data]
  rw [hdata] at hle ⊢
  exact ⟨_, TracePacket.deserialize_wire r.wellFormed.ascii hof h.port _ hd hs hd48 hs48 h37 hle⟩

/-- The packet of a packet-in of `r`. -/
theorem packet_wirePacket (h : r.Readable ofj) (env : Env) (info : SwitchInfo) :
    ∃ sw, (Event.packetIn env r.data info).packet ofj = some (r.pkt.setSwInfo sw) := by
  obtain ⟨sw, hsw⟩ := r.parse_wirePacket env.packet hof h
  exact ⟨sw, Event.packet_eq_some.mpr ⟨env, r.data, info, rfl, hsw⟩⟩

theorem ofProbe_wirePacket (h : r.Readable ofj) (env : Env) (info : SwitchInfo)
    (probeId : JLong) :
    (Event.packetIn env r.data info).OfProbe ofj probeId ↔ r.pkt.probeId = probeId := by
  obtain ⟨sw, hsw⟩ := r.packet_wirePacket hof h env info
  exact Event.ofProbe_iff_of_some hsw

/-- A packet-in of `r` sends the reply to `r`, numbered by its probe. -/
theorem sends_wirePacket (h : r.Readable ofj) (env : Env) (info : SwitchInfo)
    (n : JLong → Nat) :
    (Event.packetIn env r.data info).sends ofj n =
      [⟨info.dpid.getLong,
        replyPacket env.flooded r.pkt info (BitVec.ofNat 8 (n r.pkt.probeId)), ofj.portFlood,
        env.network.sendTracePacket info.dpid.getLong
          (replyPacket env.flooded r.pkt info (BitVec.ofNat 8 (n r.pkt.probeId)))
          ofj.portFlood⟩] := by
  obtain ⟨sw, hsw⟩ := r.parse_wirePacket env.packet hof h
  rw [Event.sends, hsw]
  rfl

end WirePacket

/-- A reply to a well-formed request is well formed, on a switch with an IPv4 address. -/
theorem replyPacket_wellFormed (draw : ReplyDraw) {request : TracePacket}
    (h : request.WellFormed) {info : SwitchInfo} (hip : info.Ipv4) (hascii : info.contId.Ascii)
    (hop : JByte) : (replyPacket draw request info hop).WellFormed where
  dst := h.src
  src := h.dst
  addr := hip
  ascii := hascii

/-- The probe of a client on host 2 for host 1. -/
def probePacket (probeId : JLong) : TracePacket where
  destinationMAC := some ⟨1⟩
  sourceMAC := some ⟨2⟩
  version := 1
  maxHops := 255
  probeId := probeId
  timestamp := 0
  hop := 0
  swInfo := SwitchInfo.new OpenFlowJ.documented
  request := true

theorem probePacket_wellFormed (probeId : JLong) : (probePacket probeId).WellFormed where
  dst := ⟨⟨1⟩, rfl, by decide⟩
  src := ⟨⟨2⟩, rfl, by decide⟩
  addr := ⟨0, 0, 0, 0, rfl⟩
  ascii := by
    show JString.empty.Ascii
    decide

def probe (probeId : JLong) : WirePacket :=
  .ofWellFormed (probePacket probeId) (probePacket_wellFormed probeId) (by
    show TracePacket.packSize + 2 * 0 < 0x80000000
    decide)

/-- The reply to the probe 5 that has this hop and time. Its probe id is 7. -/
def probeReply (hop : JByte) (time : JLong) : WirePacket :=
  .ofWellFormed
    (replyPacket ⟨⟨7, time⟩, time⟩ (probePacket 5) (SwitchInfo.new OpenFlowJ.documented) hop)
    (replyPacket_wellFormed _ (probePacket_wellFormed 5) ⟨0, 0, 0, 0, rfl⟩
      (show JString.empty.Ascii by decide) hop) (by
    show TracePacket.packSize + 2 * 0 < 0x80000000
    decide)

theorem probe_readable (probeId : JLong) : (probe probeId).Readable OpenFlowJ.documented where
  length := WirePacket.lengthReadable_of_le (by
    rw [WirePacket.length_data]
    show TracePacket.packSize + 2 * 0 ≤ 127
    decide)
  port := by
    show OpenFlowJ.documented.AcceptsPort 0
    decide

end JSdnTrace
