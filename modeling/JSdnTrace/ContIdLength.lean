/-
  The length of the contId in the bytes. `serialize` counts the contId in UTF-16 units, writes
  it in UTF-8, and keeps the length of the whole packet in one byte.

  * `describesLength_iff`: the byte, read as `PacketIn` reads it, is the length of the
    packet up to 31 characters of ASCII.
  * `encodes_iff`: the bytes are written, and counted rightly, exactly when every unit of the
    contId takes one byte and the packet fits an `int`.
-/
import JSdnTrace.WirePacket

namespace JSdnTrace

open Java

namespace TracePacket

/-! ## The length byte -/

/-- The first byte of the bytes of the packet, as an `int`, is how many they are. -/
def DescribesLength (p : TracePacket) : Prop :=
  ∃ data b, p.serialize = .ok data ∧ arrayHead data = .ok b ∧ b.toInt = data.length

theorem describesLength_wirePacket (r : WirePacket) :
    r.pkt.DescribesLength ↔ r.data.length ≤ 127 := by
  have hbyte := r.toInt_lengthByte
  refine ⟨fun h => ?_, fun h => ⟨r.data, r.pkt.lengthByte, r.serialize_eq, r.arrayHead_data, ?_⟩⟩
  · obtain ⟨data, b, hdata, hb, heq⟩ := h
    obtain rfl := Except.ok.inj (r.serialize_eq.symm.trans hdata)
    obtain rfl := Except.ok.inj (r.arrayHead_data.symm.trans hb)
    rw [heq] at hbyte
    split at hbyte <;> omega
  · rw [hbyte, if_pos (by omega)]
    omega

theorem describesLength_iff {p : TracePacket} (h : p.WellFormed) :
    p.DescribesLength ↔ p.swInfo.contId.units.length ≤ 31 := by
  have hshort : ∀ r : WirePacket, r.pkt = p →
      (r.data.length ≤ 127 ↔ p.swInfo.contId.units.length ≤ 31) := by
    intro r hr
    rw [r.length_data, hr]
    unfold packSize SwitchInfo.len
    omega
  refine ⟨fun hd => ?_, fun hn => ?_⟩
  · obtain ⟨data, b, hdata, hb, heq⟩ := hd
    have hle := (describesLength_wirePacket ⟨p, data, h, hdata⟩).mp ⟨data, b, hdata, hb, heq⟩
    exact (hshort ⟨p, data, h, hdata⟩ rfl).mp hle
  · have hfit : packSize + 2 * p.swInfo.contId.units.length < 0x80000000 := by
      unfold packSize SwitchInfo.len
      omega
    exact (describesLength_wirePacket (.ofWellFormed p h hfit)).mpr ((hshort _ rfl).mpr hn)

/-- The packet of `UnitTests`, with another contId. -/
def withContId (s : JString) : TracePacket :=
  unitTestPacket.setSwInfo { unitTestPacket.swInfo with contId := s }

theorem withContId_wellFormed {s : JString} (h : s.Ascii) : (withContId s).WellFormed where
  dst := ⟨⟨1⟩, rfl, by decide⟩
  src := ⟨⟨2⟩, rfl, by decide⟩
  addr := ⟨0, 0, 0, 0, rfl⟩
  ascii := h

/-- With 32 spaces the packet has 129 bytes, and its length byte reads -127. -/
theorem spaces_not_describesLength :
    ¬ (withContId ⟨List.replicate 32 0x20, by decide⟩).DescribesLength := by
  intro h
  have hwell : (withContId ⟨List.replicate 32 0x20, by decide⟩).WellFormed :=
    withContId_wellFormed (by decide)
  have hlen := (describesLength_wirePacket (.ofWellFormed _ hwell (by decide))).mp h
  rw [WirePacket.length_data] at hlen
  change packSize + 2 * 32 ≤ 127 at hlen
  exact absurd hlen (by decide)

theorem unitTestPacket_describesLength : unitTestPacket.DescribesLength :=
  (describesLength_iff unitTestPacket_wellFormed).mpr (by decide)

/-! ## The contId -/

/-- At index `i` there is a word that counts the bytes of `s`, and behind it are these bytes. -/
structure Counted (data : List JByte) (i : Nat) (s : JString) : Prop where
  word : (intAt data i).toNat = s.getBytes.length
  bytes : slice data (i + 4) s.getBytes.length = s.getBytes

/-- Both encoders return, and what they return counts the contId rightly. -/
structure Encodes (p : TracePacket) : Prop where
  record : ∃ bs, p.swInfo.serialize = .ok bs ∧ Counted bs 24 p.swInfo.contId
  packet : ∃ data, p.serialize = .ok data ∧ Counted data 61 p.swInfo.contId

/-- A packet with both MACs and the address of an IPv4 switch, and any contId. -/
structure Addressed (p : TracePacket) : Prop where
  dst : ∃ m, p.destinationMAC = some m ∧ m.Is48
  src : ∃ m, p.sourceMAC = some m ∧ m.Is48
  addr : p.swInfo.Ipv4

theorem counted_record (s : SwitchInfo) (address : InetAddress) (pre post : List JByte)
    (hc : s.contId.getBytes.length = s.contId.units.length) :
    Counted (pre ++ (s.record address ++ post)) (pre.length + 24) s.contId := by
  have hword : intAt (s.record address ++ post) 24 = s.contId.length :=
    intAt_intBytes s.contId.length []
  have hbytes : (s.record address ++ post).drop 28 = s.contId.getBytes ++ post := rfl
  refine ⟨?_, ?_⟩
  · rw [intAt_append, hword, JString.length_toNat, hc]
  · unfold slice
    rw [Nat.add_assoc, ← List.drop_drop, List.drop_left, hbytes, List.take_left]

theorem encodes_iff {p : TracePacket} (h : p.Addressed) :
    p.Encodes ↔ OneByteUnits p.swInfo.contId.units ∧
      packSize + 2 * p.swInfo.contId.units.length < 0x80000000 := by
  rw [← JString.length_getBytes_iff]
  refine ⟨fun he => ?_, fun hfit => ?_⟩
  · obtain ⟨bs, hbs, -⟩ := he.record
    obtain ⟨data, hdata, -⟩ := he.packet
    exact ⟨SwitchInfo.length_getBytes_of_serialize hbs, lt_of_serialize hdata⟩
  · obtain ⟨hc, hlt⟩ := hfit
    obtain ⟨dst, hd, -⟩ := h.dst
    obtain ⟨src, hs, -⟩ := h.src
    obtain ⟨b0, b1, b2, b3, ha⟩ := h.addr
    have hrecord := counted_record p.swInfo (.inet4 b0 b1 b2 b3) [] [] hc
    rw [List.append_nil] at hrecord
    exact ⟨⟨_, SwitchInfo.serialize_of_length ha hc (by unfold packSize at hlt; omega), hrecord⟩,
      ⟨_, serialize_of_length hd hs ha hc hlt,
        counted_record p.swInfo (.inet4 b0 b1 b2 b3) (p.header dst src) _ hc⟩⟩

/-- The one letter é takes two bytes, and the record has room for one. -/
theorem accent_not_encodes : ¬ (withContId ⟨[0xE9], by decide⟩).Encodes := by
  intro h
  obtain ⟨bs, hbs, -⟩ := h.record
  have hlen := SwitchInfo.length_getBytes_of_serialize hbs
  exact absurd hlen (by decide)

theorem unitTestPacket_encodes : unitTestPacket.Encodes :=
  (encodes_iff (p := unitTestPacket) ⟨⟨⟨1⟩, rfl, by decide⟩, ⟨⟨2⟩, rfl, by decide⟩,
    ⟨0, 0, 0, 0, rfl⟩⟩).mpr ⟨(JString.length_getBytes_iff _).mp (by decide), by decide⟩

end TracePacket

end JSdnTrace
