/-
  `java.lang.String`: at most `2^31 - 1` UTF-16 code units, and `getBytes()` in UTF-8.

  * `encodeUtf8`: one to three bytes a unit, four for a surrogate pair, and `?` for a
    surrogate without its partner (what the JDK's encoder writes).
  * `getBytes_ascii`: an ASCII string has one byte a unit.
  * `eq_of_getBytes_ascii`: an ASCII string is known by its bytes.
  * `length_getBytes_le`, `length_getBytes_iff`: a string has at least one byte a unit, and no
    more exactly when every unit is ASCII or a surrogate that is replaced.
-/
import JSdnTrace.Java.Bytes
import Mathlib.Data.List.Chain

namespace JSdnTrace.Java

def isHighSurrogate (u : JShort) : Bool := decide (0xD800 ≤ u ∧ u ≤ 0xDBFF)

def isLowSurrogate (u : JShort) : Bool := decide (0xDC00 ≤ u ∧ u ≤ 0xDFFF)

/-- The code point of a surrogate pair. -/
def codePoint (hi lo : JShort) : BitVec 21 :=
  (0x10000 : BitVec 21) + ((hi - 0xD800).setWidth 21 <<< 10) + (lo - 0xDC00).setWidth 21

/-- The UTF-8 bytes of a unit that is no surrogate. -/
def utf8Unit (u : JShort) : List JByte :=
  if u < 0x80 then [u.setWidth 8]
  else if u < 0x800 then
    [0xC0 ||| (u.extractLsb' 6 5).setWidth 8, 0x80 ||| (u.extractLsb' 0 6).setWidth 8]
  else
    [0xE0 ||| (u.extractLsb' 12 4).setWidth 8, 0x80 ||| (u.extractLsb' 6 6).setWidth 8,
      0x80 ||| (u.extractLsb' 0 6).setWidth 8]

/-- The four UTF-8 bytes of a supplementary code point. -/
def utf8Pair (c : BitVec 21) : List JByte :=
  [0xF0 ||| (c.extractLsb' 18 3).setWidth 8, 0x80 ||| (c.extractLsb' 12 6).setWidth 8,
    0x80 ||| (c.extractLsb' 6 6).setWidth 8, 0x80 ||| (c.extractLsb' 0 6).setWidth 8]

def encodeUtf8 : List JShort → List JByte
  | [] => []
  | [u] => if isHighSurrogate u || isLowSurrogate u then [0x3F] else utf8Unit u
  | u :: v :: us =>
    if isHighSurrogate u then
      if isLowSurrogate v then utf8Pair (codePoint u v) ++ encodeUtf8 us
      else 0x3F :: encodeUtf8 (v :: us)
    else if isLowSurrogate u then 0x3F :: encodeUtf8 (v :: us)
    else utf8Unit u ++ encodeUtf8 (v :: us)

/-- `java.lang.String`. -/
structure JString where
  units : List JShort
  length_lt : units.length < 0x80000000
  deriving DecidableEq

namespace JString

/-- `""`. -/
def empty : JString := ⟨[], by decide⟩

def length (s : JString) : JInt := BitVec.ofNat 32 s.units.length

def getBytes (s : JString) : List JByte := encodeUtf8 s.units

/-- Every unit is below 128. -/
def Ascii (s : JString) : Prop := ∀ u ∈ s.units, u < 0x80

-- Not by instance search, which would try all 65536 units.
instance (s : JString) : Decidable s.Ascii :=
  decidable_of_iff (s.units.all fun u => decide (u < 0x80)) (by simp [Ascii])

theorem length_toNat (s : JString) : s.length.toNat = s.units.length := by
  have := s.length_lt
  simp only [length, BitVec.toNat_ofNat]
  omega

end JString

theorem encodeUtf8_ascii_cons (u : JShort) (us : List JShort) (h : u < 0x80) :
    encodeUtf8 (u :: us) = u.setWidth 8 :: encodeUtf8 us := by
  have hhi : isHighSurrogate u = false := by
    simp only [isHighSurrogate, decide_eq_false_iff_not, BitVec.le_def, BitVec.lt_def] at h ⊢
    simp at h ⊢
    omega
  have hlo : isLowSurrogate u = false := by
    simp only [isLowSurrogate, decide_eq_false_iff_not, BitVec.le_def, BitVec.lt_def] at h ⊢
    simp at h ⊢
    omega
  have hu : utf8Unit u = [u.setWidth 8] := if_pos h
  cases us with
  | nil => simp [encodeUtf8, hhi, hlo, hu]
  | cons v us => simp [encodeUtf8, hhi, hlo, hu]

theorem encodeUtf8_ascii (us : List JShort) (h : ∀ u ∈ us, u < 0x80) :
    encodeUtf8 us = us.map fun u => u.setWidth 8 := by
  induction us with
  | nil => rfl
  | cons u us ih =>
    rw [encodeUtf8_ascii_cons u us (h u List.mem_cons_self),
      ih fun v hv => h v (List.mem_cons_of_mem _ hv)]
    rfl

theorem JString.getBytes_ascii {s : JString} (h : s.Ascii) :
    s.getBytes = s.units.map fun u => u.setWidth 8 :=
  encodeUtf8_ascii s.units h

theorem JString.length_getBytes_ascii {s : JString} (h : s.Ascii) :
    s.getBytes.length = s.units.length := by
  rw [JString.getBytes_ascii h, List.length_map]

/-- The units of an ASCII string, from its bytes. -/
theorem JString.units_of_getBytes {s : JString} (h : s.Ascii) :
    s.getBytes.map (fun b => b.setWidth 16) = s.units := by
  have hunit : ∀ u ∈ s.units, (u.setWidth 8).setWidth 16 = u := by
    intro u hu
    have hlt : u.toNat < 0x80 := BitVec.lt_def.mp (h u hu)
    apply BitVec.eq_of_toNat_eq
    rw [BitVec.toNat_setWidth, BitVec.toNat_setWidth]
    omega
  rw [JString.getBytes_ascii h, List.map_map]
  exact (List.map_congr_left hunit).trans (List.map_id s.units)

theorem JString.eq_of_getBytes_ascii {s t : JString} (hs : s.Ascii) (ht : t.Ascii)
    (h : s.getBytes = t.getBytes) : s = t := by
  have hunits : s.units = t.units := by
    rw [← JString.units_of_getBytes hs, h, JString.units_of_getBytes ht]
  obtain ⟨us, hus⟩ := s
  obtain ⟨ut, hut⟩ := t
  cases hunits
  rfl

/-! ## Bytes and units -/

theorem length_utf8Unit_pos (u : JShort) : 1 ≤ (utf8Unit u).length := by
  unfold utf8Unit
  split
  · exact Nat.le_refl 1
  · split <;> simp

theorem length_utf8Unit_iff (u : JShort) : (utf8Unit u).length = 1 ↔ u < 0x80 := by
  unfold utf8Unit
  by_cases h : u < 0x80
  · rw [if_pos h]
    exact iff_of_true rfl h
  · rw [if_neg h]
    refine iff_of_false ?_ h
    split <;> simp

/-- Every unit is ASCII or a surrogate, and no two surrogates pair up. -/
def OneByteUnits (us : List JShort) : Prop :=
  (∀ u ∈ us, u < 0x80 ∨ isHighSurrogate u = true ∨ isLowSurrogate u = true) ∧
    us.IsChain fun u v => ¬ (isHighSurrogate u = true ∧ isLowSurrogate v = true)

theorem oneByteUnits_cons_cons {u v : JShort} {us : List JShort} :
    OneByteUnits (u :: v :: us) ↔
      (u < 0x80 ∨ isHighSurrogate u = true ∨ isLowSurrogate u = true) ∧
        ¬ (isHighSurrogate u = true ∧ isLowSurrogate v = true) ∧ OneByteUnits (v :: us) := by
  unfold OneByteUnits
  rw [List.forall_mem_cons, List.isChain_cons_cons]
  tauto

theorem length_encodeUtf8 (us : List JShort) :
    us.length ≤ (encodeUtf8 us).length ∧
      ((encodeUtf8 us).length = us.length ↔ OneByteUnits us) := by
  induction us using encodeUtf8.induct with
  | case1 => exact ⟨Nat.le_refl 0, iff_of_true rfl ⟨by simp, .nil⟩⟩
  | case2 u h =>
    have hlen : (encodeUtf8 [u]).length = 1 := by rw [encodeUtf8, if_pos h]; rfl
    rw [Bool.or_eq_true] at h
    rw [hlen]
    exact ⟨Nat.le_refl 1, iff_of_true rfl ⟨by simpa using Or.inr h, .singleton u⟩⟩
  | case3 u h =>
    have hone : OneByteUnits [u] ↔ u < 0x80 := by
      rw [Bool.or_eq_true] at h
      unfold OneByteUnits
      simp only [List.forall_mem_singleton, List.isChain_singleton]
      tauto
    rw [encodeUtf8, if_neg h, hone]
    exact ⟨length_utf8Unit_pos u, length_utf8Unit_iff u⟩
  | case4 u v us hu hv ih =>
    -- The pair takes four bytes.
    have hlen : (encodeUtf8 (u :: v :: us)).length = (encodeUtf8 us).length + 4 := by
      rw [encodeUtf8, if_pos hu, if_pos hv, List.length_append, Nat.add_comm]
      rfl
    rw [hlen, oneByteUnits_cons_cons, List.length_cons, List.length_cons]
    exact ⟨by omega, iff_of_false (by omega) fun h => h.2.1 ⟨hu, hv⟩⟩
  | case5 u v us hu hv ih =>
    have hlen : (encodeUtf8 (u :: v :: us)).length = (encodeUtf8 (v :: us)).length + 1 := by
      rw [encodeUtf8, if_pos hu, if_neg hv]
      rfl
    rw [hlen, oneByteUnits_cons_cons, List.length_cons, Nat.add_right_cancel_iff, ih.2]
    exact ⟨Nat.add_le_add_right ih.1 1, by tauto⟩
  | case6 u v us hu hl ih =>
    have hlen : (encodeUtf8 (u :: v :: us)).length = (encodeUtf8 (v :: us)).length + 1 := by
      rw [encodeUtf8, if_neg hu, if_pos hl]
      rfl
    rw [hlen, oneByteUnits_cons_cons, List.length_cons, Nat.add_right_cancel_iff, ih.2]
    exact ⟨Nat.add_le_add_right ih.1 1, by tauto⟩
  | case7 u v us hu hl ih =>
    have hlen : (encodeUtf8 (u :: v :: us)).length =
        (utf8Unit u).length + (encodeUtf8 (v :: us)).length := by
      rw [encodeUtf8, if_neg hu, if_neg hl, List.length_append]
    have hpos := length_utf8Unit_pos u
    have hle := ih.1
    rw [hlen, oneByteUnits_cons_cons, ← ih.2, ← length_utf8Unit_iff u, List.length_cons]
    exact ⟨by omega, ⟨fun h => ⟨Or.inl (by omega), fun h' => hu h'.1, by omega⟩, fun h => by
      obtain ⟨hu1, -, hrest⟩ := h
      have hone := hu1.resolve_right (by tauto)
      omega⟩⟩

theorem JString.length_getBytes_le (s : JString) : s.units.length ≤ s.getBytes.length :=
  (length_encodeUtf8 s.units).1

theorem JString.length_getBytes_iff (s : JString) :
    s.getBytes.length = s.units.length ↔ OneByteUnits s.units :=
  (length_encodeUtf8 s.units).2

end JSdnTrace.Java
