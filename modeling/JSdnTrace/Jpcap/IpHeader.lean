/-
  The IPv4 header of Jpcap, on a machine that stores the low byte of a number first: the header
  that `set_ip` makes of an `IPPacket`, and the `IPPacket` that `analyze_ip` makes of a header.

  * `analyzeIp_bytes`: what is read of a header, field by field.
  * `analyze_setIp_iff`: which packets are read as they were written. The flags for fragments are
    looked for in the wrong byte, and the offset is written with its bytes exchanged.
-/
import JSdnTrace.JpcapFrame

namespace JSdnTrace.Jpcap

open Java

/-! ## Numbers in memory -/

/-- A `u_short` in memory. -/
def shortMemory (v : JShort) : List JByte := [v.extractLsb' 0 8, v.extractLsb' 8 8]

/-- `*(u_short *)(data + i)`. -/
def memoryShortAt (data : List JByte) (i : Nat) : JShort := byteAt data (i + 1) ++ byteAt data i

/-- `htons`, and `ntohs`. -/
def htons (v : JShort) : JShort := v.extractLsb' 0 8 ++ v.extractLsb' 8 8

theorem htons_htons (v : JShort) : htons (htons v) = v := by
  unfold htons
  rw [BitVec.extractLsb'_append_eq_right, BitVec.extractLsb'_append_eq_left,
    extract_append v (show 8 = 0 + 8 from rfl)]
  exact BitVec.extractLsb'_eq_self

theorem memoryShort_append (v : JShort) : v.extractLsb' 8 8 ++ v.extractLsb' 0 8 = v := by
  rw [extract_append v (show 8 = 0 + 8 from rfl)]
  exact BitVec.extractLsb'_eq_self

/-- `struct ip` without options. Its numbers are as the machine reads them. -/
structure Ip where
  tos : JByte
  len : JShort
  id : JShort
  off : JShort
  ttl : JByte
  p : JByte
  sum : JShort
  src : JInt
  dst : JInt

/-- The header in memory: version 4, of five words. -/
def Ip.bytes (ip : Ip) : List JByte :=
  [0x45, ip.tos] ++ shortMemory ip.len ++ shortMemory ip.id ++ shortMemory ip.off ++
    [ip.ttl, ip.p] ++ shortMemory ip.sum ++ intBytes ip.src ++ intBytes ip.dst

theorem Ip.length_bytes (ip : Ip) : ip.bytes.length = 20 := rfl

/-! ## The header of a packet -/

/-- `IPPacket` of version 4. -/
structure IPPacket where
  priority : JByte
  dFlag : Bool
  tFlag : Bool
  rFlag : Bool
  rsvTos : JByte
  length : JShort
  rsvFrag : Bool
  dontFrag : Bool
  moreFrag : Bool
  offset : JShort
  hopLimit : JShort
  protocol : JShort
  ident : JInt
  /-- The four bytes of the `Inet4Address`. -/
  srcIp : JInt
  dstIp : JInt
  /-- May be `null`. -/
  option : Option (List JByte)

/-- `set_ip`, over what stands in the buffer. -/
def setIp (packet : IPPacket) (ip : Ip) : Ip :=
  { ip with
    id := htons (packet.ident.setWidth 16)
    off := (if packet.rsvFrag then 0x8000 else 0) + (if packet.dontFrag then 0x4000 else 0) +
      (if packet.moreFrag then 0x2000 else 0) + htons packet.offset
    ttl := packet.hopLimit.setWidth 8
    tos := (packet.priority <<< 5) + packet.rsvTos + (if packet.dFlag then 0x10 else 0) +
      (if packet.tFlag then 0x08 else 0) + (if packet.rFlag then 0x04 else 0)
    src := packet.srcIp
    dst := packet.dstIp }

/-- `ip_hl<<2`. -/
def ipHeaderLength (data : List JByte) : Nat := (byteAt data 0 &&& 0x0f).toNat * 4

/-- `analyze_ip`. -/
def analyzeIp (data : List JByte) : IPPacket where
  priority := byteAt data 1 >>> 5
  dFlag := decide (byteAt data 1 &&& 0x10 ≠ 0)
  tFlag := decide (byteAt data 1 &&& 0x08 ≠ 0)
  rFlag := decide (byteAt data 1 &&& 0x04 ≠ 0)
  rsvTos := byteAt data 1 &&& 0x3
  length := htons (memoryShortAt data 2)
  rsvFrag := decide (memoryShortAt data 6 &&& 0x8000 ≠ 0)
  dontFrag := decide (memoryShortAt data 6 &&& 0x4000 ≠ 0)
  moreFrag := decide (memoryShortAt data 6 &&& 0x2000 ≠ 0)
  offset := htons (memoryShortAt data 6) &&& 0x1fff
  hopLimit := (byteAt data 8).setWidth 16
  protocol := (byteAt data 9).setWidth 16
  ident := (htons (memoryShortAt data 4)).signExtend 32
  srcIp := intAt data 12
  dstIp := intAt data 16
  option :=
    if 20 < ipHeaderLength data then some (slice data 20 (ipHeaderLength data - 20)) else none

/-- What is read of a header without options. -/
def Ip.analyze (ip : Ip) : IPPacket where
  priority := ip.tos >>> 5
  dFlag := decide (ip.tos &&& 0x10 ≠ 0)
  tFlag := decide (ip.tos &&& 0x08 ≠ 0)
  rFlag := decide (ip.tos &&& 0x04 ≠ 0)
  rsvTos := ip.tos &&& 0x3
  length := htons ip.len
  rsvFrag := decide (ip.off &&& 0x8000 ≠ 0)
  dontFrag := decide (ip.off &&& 0x4000 ≠ 0)
  moreFrag := decide (ip.off &&& 0x2000 ≠ 0)
  offset := htons ip.off &&& 0x1fff
  hopLimit := ip.ttl.setWidth 16
  protocol := ip.p.setWidth 16
  ident := (htons ip.id).signExtend 32
  srcIp := ip.src
  dstIp := ip.dst
  option := none

theorem ipHeaderLength_bytes (ip : Ip) (rest : List JByte) :
    ipHeaderLength (ip.bytes ++ rest) = 20 :=
  show ((0x45 : JByte) &&& 0x0f).toNat * 4 = 20 by decide

theorem memoryShortAt_len (ip : Ip) (rest : List JByte) :
    memoryShortAt (ip.bytes ++ rest) 2 = ip.len := memoryShort_append ip.len

theorem memoryShortAt_off (ip : Ip) (rest : List JByte) :
    memoryShortAt (ip.bytes ++ rest) 6 = ip.off := memoryShort_append ip.off

theorem analyzeIp_bytes (ip : Ip) (rest : List JByte) :
    analyzeIp (ip.bytes ++ rest) = ip.analyze := by
  have hid : memoryShortAt (ip.bytes ++ rest) 4 = ip.id := memoryShort_append ip.id
  have hsrc : intAt (ip.bytes ++ rest) 12 = ip.src := intAt_intBytes ip.src []
  have hdst : intAt (ip.bytes ++ rest) 16 = ip.dst := intAt_intBytes ip.dst []
  unfold analyzeIp
  rw [memoryShortAt_len, hid, memoryShortAt_off, hsrc, hdst, ipHeaderLength_bytes,
    if_neg (lt_irrefl 20)]
  rfl

/-! ## Which headers are kept -/

theorem tos_fields : ∀ (pr : Fin 8) (rs : Fin 4) (d t r : Bool),
    let tos : JByte := (BitVec.ofNat 8 pr <<< 5) + BitVec.ofNat 8 rs + (if d then 0x10 else 0) +
      (if t then 0x08 else 0) + (if r then 0x04 else 0)
    tos >>> 5 = BitVec.ofNat 8 pr ∧ decide (tos &&& 0x10 ≠ 0) = d ∧
      decide (tos &&& 0x08 ≠ 0) = t ∧ decide (tos &&& 0x04 ≠ 0) = r ∧
      tos &&& 0x3 = BitVec.ofNat 8 rs := by
  decide

theorem tos_iff (packet : IPPacket) (buf : Ip) {tos : JByte} (h : tos = (setIp packet buf).tos) :
    (tos >>> 5 = packet.priority ∧ decide (tos &&& 0x10 ≠ 0) = packet.dFlag ∧
        decide (tos &&& 0x08 ≠ 0) = packet.tFlag ∧ decide (tos &&& 0x04 ≠ 0) = packet.rFlag ∧
        tos &&& 0x3 = packet.rsvTos) ↔
      packet.priority.toNat < 8 ∧ packet.rsvTos.toNat < 4 := by
  refine ⟨fun hfields => ?_, fun hrange => ?_⟩
  · obtain ⟨hpriority, -, -, -, hrsv⟩ := hfields
    rw [← hpriority, ← hrsv, BitVec.toNat_ushiftRight, Nat.shiftRight_eq_div_pow]
    refine ⟨?_, ?_⟩
    · have htos := tos.isLt
      omega
    · exact lt_of_le_of_lt Nat.and_le_right (by decide)
  · have hfields := tos_fields ⟨_, hrange.1⟩ ⟨_, hrange.2⟩ packet.dFlag packet.tFlag packet.rFlag
    simp only [BitVec.ofNat_toNat, BitVec.setWidth_eq] at hfields
    rw [h]
    exact hfields

theorem toNat_and_low (v : JShort) : (v &&& 0x1fff).toNat = v.toNat % 8192 :=
  Nat.and_two_pow_sub_one_eq_mod v.toNat 13

theorem add_and_low {f : JShort} (hf : f &&& 0x1fff = 0) (w : JShort) :
    (f + w) &&& 0x1fff = w &&& 0x1fff := by
  have hzero := congrArg BitVec.toNat hf
  apply BitVec.eq_of_toNat_eq
  rw [toNat_and_low] at hzero ⊢
  rw [toNat_and_low, BitVec.toNat_add]
  change (f.toNat + w.toNat) % 65536 % 8192 = w.toNat % 8192
  change f.toNat % 8192 = 0 at hzero
  omega

theorem and_bit {w : Nat} (v : BitVec w) {i : Nat} (h : i < w) :
    decide (v &&& BitVec.twoPow w i ≠ 0) = v.getLsbD i := by
  rw [BitVec.and_twoPow]
  cases v.getLsbD i with
  | false => exact decide_eq_false (not_not.mpr rfl)
  | true =>
    refine decide_eq_true fun hzero => ?_
    have hbit := congrArg (fun u => u.getLsbD i) hzero
    simp [h] at hbit

theorem getLsbD_htons (v : JShort) {i : Nat} (hi : i < 8) :
    (htons v).getLsbD i = v.getLsbD (i + 8) ∧ (htons v).getLsbD (i + 8) = v.getLsbD i := by
  unfold htons
  rw [BitVec.getLsbD_append, BitVec.getLsbD_append, if_pos hi,
    if_neg (Nat.not_lt.mpr (Nat.le_add_left 8 i)), BitVec.getLsbD_extractLsb',
    BitVec.getLsbD_extractLsb']
  simp [hi, Nat.add_comm]

/-- The flags are looked for in the low byte. -/
theorem htons_and_flag (v : JShort) :
    decide (htons v &&& 0x8000 ≠ 0) = v.getLsbD 7 ∧ decide (htons v &&& 0x4000 ≠ 0) = v.getLsbD 6 ∧
      decide (htons v &&& 0x2000 ≠ 0) = v.getLsbD 5 := by
  refine ⟨?_, ?_, ?_⟩
  · exact (and_bit (htons v) (i := 15) (by decide)).trans (getLsbD_htons v (i := 7) (by decide)).2
  · exact (and_bit (htons v) (i := 14) (by decide)).trans (getLsbD_htons v (i := 6) (by decide)).2
  · exact (and_bit (htons v) (i := 13) (by decide)).trans (getLsbD_htons v (i := 5) (by decide)).2

theorem getLsbD_of_and_low {v w : JShort} (h : v &&& 0x1fff = w &&& 0x1fff) {i : Nat}
    (hi : i < 13) : v.getLsbD i = w.getLsbD i := by
  have hbit : ∀ u : JShort, (u &&& 0x1fff).getLsbD i = u.getLsbD i := by
    intro u
    rw [BitVec.getLsbD_and]
    have hmask : ∀ i : Fin 13, (0x1fff : JShort).getLsbD i = true := by decide
    rw [hmask ⟨i, hi⟩, Bool.and_true]
  rw [← hbit v, h, hbit w]

/-- Without a carry the offset keeps its low bits. -/
theorem off_iff (packet : IPPacket) (buf : Ip) {off : JShort}
    (h : off = (setIp packet buf).off) :
    (decide (htons off &&& 0x8000 ≠ 0) = packet.rsvFrag ∧
        decide (htons off &&& 0x4000 ≠ 0) = packet.dontFrag ∧
        decide (htons off &&& 0x2000 ≠ 0) = packet.moreFrag ∧
        off &&& 0x1fff = packet.offset) ↔
      (packet.rsvFrag = false ∧ packet.dontFrag = false ∧ packet.moreFrag = false) ∧
        packet.offset = htons packet.offset &&& 0x1fff := by
  obtain ⟨h7, h6, h5⟩ := htons_and_flag off
  have hlow : off &&& 0x1fff = htons packet.offset &&& 0x1fff := by
    rw [h]
    refine add_and_low ?_ _
    cases packet.rsvFrag <;> cases packet.dontFrag <;> cases packet.moreFrag <;> rfl
  have hbit : packet.offset = htons packet.offset &&& 0x1fff → ∀ i < 8, 5 ≤ i →
      off.getLsbD i = false := by
    intro hoffset i hi hge
    rw [getLsbD_of_and_low hlow (by omega), (getLsbD_htons packet.offset hi).1, hoffset,
      BitVec.getLsbD_and]
    have hmask : ∀ i : Fin 8, 5 ≤ i.val → (0x1fff : JShort).getLsbD (i + 8) = false := by decide
    rw [hmask ⟨i, hi⟩ hge, Bool.and_false]
  rw [h7, h6, h5, hlow]
  refine ⟨fun hfields => ?_, fun hkept => ?_⟩
  · obtain ⟨hr, hd, hm, hoffset⟩ := hfields
    rw [hbit hoffset.symm 7 (by decide) (by decide)] at hr
    rw [hbit hoffset.symm 6 (by decide) (by decide)] at hd
    rw [hbit hoffset.symm 5 (by decide) (by decide)] at hm
    exact ⟨⟨hr.symm, hd.symm, hm.symm⟩, hoffset.symm⟩
  · obtain ⟨⟨hr, hd, hm⟩, hoffset⟩ := hkept
    rw [hr, hd, hm]
    exact ⟨hbit hoffset 7 (by decide) (by decide), hbit hoffset 6 (by decide) (by decide),
      hbit hoffset 5 (by decide) (by decide), hoffset.symm⟩

/-- The fields come back as they were sent. -/
structure IPPacket.HeaderKept (packet : IPPacket) : Prop where
  priority : packet.priority.toNat < 8
  rsvTos : packet.rsvTos.toNat < 4
  flags : packet.rsvFrag = false ∧ packet.dontFrag = false ∧ packet.moreFrag = false
  offset : packet.offset = htons packet.offset &&& 0x1fff
  ident : -0x8000 ≤ packet.ident.toInt ∧ packet.ident.toInt < 0x8000
  hopLimit : packet.hopLimit.toNat < 256
  option : packet.option = none

/-- The flags for fragments do not come back, and an offset only if it is the same with its bytes
    exchanged. -/
theorem analyze_setIp_iff (packet : IPPacket) (buf : Ip) (len : JShort) (p : JByte)
    (sum protocol : JShort) :
    Ip.analyze { setIp packet buf with
        len := htons len, off := htons (setIp packet buf).off, p := p, sum := sum } =
      { packet with length := len, protocol := protocol } ↔
        packet.HeaderKept ∧ p.setWidth 16 = protocol := by
  have htos := tos_iff packet buf rfl
  have hoff := off_iff packet buf rfl
  have hident : (htons (setIp packet buf).id).signExtend 32 = packet.ident ↔
      -0x8000 ≤ packet.ident.toInt ∧ packet.ident.toInt < 0x8000 := by
    rw [← signExtend_setWidth_iff]
    show (htons (htons (packet.ident.setWidth 16))).signExtend 32 = packet.ident ↔ _
    rw [htons_htons]
  have hhop : ((setIp packet buf).ttl.setWidth 16 : JShort) = packet.hopLimit ↔
      packet.hopLimit.toNat < 256 :=
    setWidth_setWidth_iff 256 rfl packet.hopLimit
  have hsrc : (setIp packet buf).src = packet.srcIp := rfl
  have hdst : (setIp packet buf).dst = packet.dstIp := rfl
  unfold Ip.analyze
  rw [IPPacket.mk.injEq]
  simp only [htons_htons, hsrc, hdst, true_and]
  refine ⟨fun h => ?_, fun h => ?_⟩
  · obtain ⟨hp, hd, ht, hr, hrsv, hrf, hdf, hmf, hofs, hlimit, hproto, hid, hoption⟩ := h
    obtain ⟨hpriority, hrsvTos⟩ := htos.mp ⟨hp, hd, ht, hr, hrsv⟩
    obtain ⟨hflags, hoffset⟩ := hoff.mp ⟨hrf, hdf, hmf, hofs⟩
    exact ⟨⟨hpriority, hrsvTos, hflags, hoffset, hident.mp hid, hhop.mp hlimit, hoption.symm⟩,
      hproto⟩
  · obtain ⟨h, hproto⟩ := h
    obtain ⟨hp, hd, ht, hr, hrsv⟩ := htos.mpr ⟨h.priority, h.rsvTos⟩
    obtain ⟨hrf, hdf, hmf, hofs⟩ := hoff.mpr ⟨h.flags, h.offset⟩
    exact ⟨hp, hd, ht, hr, hrsv, hrf, hdf, hmf, hofs, hhop.mpr h.hopLimit, hproto,
      hident.mpr h.ident, h.option.symm⟩

end JSdnTrace.Jpcap
