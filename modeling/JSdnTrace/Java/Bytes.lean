/-
  Java's fixed-width integers as bit vectors, and the big-endian byte order of
  `java.nio.ByteBuffer`.

  * `intBytes`, `longBytes`: the bytes `putInt` and `putLong` write.
  * `intAt`, `longAt`: the value `getInt` and `getLong` read at an absolute index.
  * `longAt_longBytes`, `intAt_intBytes`: reading back what was written.
  * `longBytes_longAt`, `intBytes_intAt`: writing back what was read, and `slice_eq_map`: the
    same bytes as a part of the array.
  * `longAt_eq_iff`, `intAt_eq_iff`: two values are equal when their bytes are.
-/
import Mathlib.Data.List.Basic
import Mathlib.Data.List.GetD
import Mathlib.Data.List.Range

namespace JSdnTrace.Java

abbrev JByte := BitVec 8
abbrev JShort := BitVec 16
abbrev JInt := BitVec 32
abbrev JLong := BitVec 64

/-- `(byte) n`, signed. -/
theorem toInt_ofNat (n : Nat) :
    (BitVec.ofNat 8 n : JByte).toInt = ((n + 128) % 256 : Nat) - 128 := by
  rw [BitVec.toInt_eq_toNat_cond, BitVec.toNat_ofNat]
  split <;> omega

/-- `(int) (long) v`. -/
theorem setWidth_signExtend (v : JInt) : (v.signExtend 64).setWidth 32 = v := by
  refine BitVec.eq_of_getLsbD_eq fun i hi => ?_
  have hlt : i < 64 := by omega
  rw [BitVec.getLsbD_setWidth, BitVec.getLsbD_signExtend]
  simp [hi, hlt]

/-- `(short) x` is `x` for a short. -/
theorem signExtend_setWidth_iff (x : JInt) :
    (x.setWidth 16).signExtend 32 = x ↔ -0x8000 ≤ x.toInt ∧ x.toInt < 0x8000 := by
  rw [← BitVec.toInt_inj, BitVec.toInt_signExtend_of_le (by decide), BitVec.toInt_setWidth,
    BitVec.toInt_eq_toNat_bmod]
  simp only [Int.bmod_def]
  omega

/-- The low bits of `x` are `x` when it has no others. -/
theorem setWidth_setWidth_iff {v w : Nat} (n : Nat) (hn : (BitVec.allOnes v).toNat + 1 = n)
    (x : BitVec w) : (x.setWidth v).setWidth w = x ↔ x.toNat < n := by
  rw [BitVec.toNat_allOnes, Nat.sub_add_cancel (Nat.two_pow_pos v)] at hn
  rw [← BitVec.toNat_inj, BitVec.toNat_setWidth, BitVec.toNat_setWidth, hn]
  have hle : x.toNat % n ≤ x.toNat := Nat.mod_le ..
  rw [Nat.mod_eq_of_lt (lt_of_le_of_lt hle x.isLt),
    Nat.mod_eq_iff_lt (hn ▸ (Nat.two_pow_pos v).ne')]

/-- The byte at index `i`; every caller has checked the bounds. -/
def byteAt (data : List JByte) (i : Nat) : JByte := data.getD i 0

def intAt (data : List JByte) (i : Nat) : JInt :=
  byteAt data i ++ byteAt data (i + 1) ++ byteAt data (i + 2) ++ byteAt data (i + 3)

def longAt (data : List JByte) (i : Nat) : JLong :=
  byteAt data i ++ byteAt data (i + 1) ++ byteAt data (i + 2) ++ byteAt data (i + 3) ++
    byteAt data (i + 4) ++ byteAt data (i + 5) ++ byteAt data (i + 6) ++ byteAt data (i + 7)

def intBytes (v : JInt) : List JByte :=
  [v.extractLsb' 24 8, v.extractLsb' 16 8, v.extractLsb' 8 8, v.extractLsb' 0 8]

def longBytes (v : JLong) : List JByte :=
  [v.extractLsb' 56 8, v.extractLsb' 48 8, v.extractLsb' 40 8, v.extractLsb' 32 8,
    v.extractLsb' 24 8, v.extractLsb' 16 8, v.extractLsb' 8 8, v.extractLsb' 0 8]

@[simp] theorem intBytes_length (v : JInt) : (intBytes v).length = 4 := rfl

@[simp] theorem longBytes_length (v : JLong) : (longBytes v).length = 8 := rfl

/-! ## Reading back -/

/-- Adjacent slices of `v` join up. -/
theorem extract_append {w : Nat} (v : BitVec w) {hi lo n m : Nat} (h : hi = lo + n) :
    v.extractLsb' hi m ++ v.extractLsb' lo n = v.extractLsb' lo (m + n) :=
  BitVec.extractLsb'_append_extractLsb'_eq_extractLsb' h

theorem intAt_intBytes (v : JInt) (post : List JByte) : intAt (intBytes v ++ post) 0 = v := by
  show v.extractLsb' 24 8 ++ v.extractLsb' 16 8 ++ v.extractLsb' 8 8 ++ v.extractLsb' 0 8 = v
  rw [extract_append v (show 24 = 16 + 8 from rfl), extract_append v (show 16 = 8 + 8 from rfl),
    extract_append v (show 8 = 0 + 8 from rfl)]
  exact BitVec.extractLsb'_eq_self

theorem longAt_longBytes (v : JLong) (post : List JByte) :
    longAt (longBytes v ++ post) 0 = v := by
  show v.extractLsb' 56 8 ++ v.extractLsb' 48 8 ++ v.extractLsb' 40 8 ++ v.extractLsb' 32 8 ++
    v.extractLsb' 24 8 ++ v.extractLsb' 16 8 ++ v.extractLsb' 8 8 ++ v.extractLsb' 0 8 = v
  rw [extract_append v (show 56 = 48 + 8 from rfl), extract_append v (show 48 = 40 + 8 from rfl),
    extract_append v (show 40 = 32 + 8 from rfl), extract_append v (show 32 = 24 + 8 from rfl),
    extract_append v (show 24 = 16 + 8 from rfl), extract_append v (show 16 = 8 + 8 from rfl),
    extract_append v (show 8 = 0 + 8 from rfl)]
  exact BitVec.extractLsb'_eq_self

theorem longBytes_injective : Function.Injective longBytes := by
  intro v w h
  rw [← longAt_longBytes v [], h, longAt_longBytes]

theorem intBytes_injective : Function.Injective intBytes := by
  intro v w h
  rw [← intAt_intBytes v [], h, intAt_intBytes]

/-! ## Writing back -/

theorem intBytes_intAt (data : List JByte) (i : Nat) :
    intBytes (intAt data i) = (List.range 4).map fun k => byteAt data (i + k) := by
  show intBytes (intAt data i) = [byteAt data i, byteAt data (i + 1), byteAt data (i + 2),
    byteAt data (i + 3)]
  unfold intBytes intAt
  simp (disch := decide) only [BitVec.extractLsb'_append_eq_of_le,
    BitVec.extractLsb'_append_eq_right, Nat.reduceSub, BitVec.extractLsb'_eq_self]

theorem longBytes_longAt (data : List JByte) (i : Nat) :
    longBytes (longAt data i) = (List.range 8).map fun k => byteAt data (i + k) := by
  show longBytes (longAt data i) = [byteAt data i, byteAt data (i + 1), byteAt data (i + 2),
    byteAt data (i + 3), byteAt data (i + 4), byteAt data (i + 5), byteAt data (i + 6),
    byteAt data (i + 7)]
  unfold longBytes longAt
  simp (disch := decide) only [BitVec.extractLsb'_append_eq_of_le,
    BitVec.extractLsb'_append_eq_right, Nat.reduceSub, BitVec.extractLsb'_eq_self]

theorem forall_lt_add {P : Nat → Prop} {m n : Nat} :
    (∀ k < m + n, P k) ↔ (∀ k < m, P k) ∧ ∀ k < n, P (m + k) := by
  refine ⟨fun h => ⟨fun k hk => h k (by omega), fun k hk => h (m + k) (by omega)⟩, fun h k hk => ?_⟩
  by_cases hm : k < m
  · exact h.1 k hm
  · have hlast := h.2 (k - m) (by omega)
    rwa [Nat.add_sub_of_le (by omega)] at hlast

theorem intAt_eq_iff {data data' : List JByte} {i j : Nat} :
    intAt data i = intAt data' j ↔ ∀ k < 4, byteAt data (i + k) = byteAt data' (j + k) := by
  rw [← intBytes_injective.eq_iff, intBytes_intAt, intBytes_intAt, List.map_inj_left]
  simp only [List.mem_range]

theorem longAt_eq_iff {data data' : List JByte} {i j : Nat} :
    longAt data i = longAt data' j ↔ ∀ k < 8, byteAt data (i + k) = byteAt data' (j + k) := by
  rw [← longBytes_injective.eq_iff, longBytes_longAt, longBytes_longAt, List.map_inj_left]
  simp only [List.mem_range]

/-! ## Parts of an array -/

/-- An index behind `pre`. -/
theorem byteAt_append (pre data : List JByte) (i : Nat) :
    byteAt (pre ++ data) (pre.length + i) = byteAt data i := by
  unfold byteAt
  rw [List.getD_append_right _ _ _ _ (Nat.le_add_right _ _), Nat.add_sub_cancel_left]

theorem intAt_append (pre data : List JByte) (i : Nat) :
    intAt (pre ++ data) (pre.length + i) = intAt data i := by
  rw [intAt_eq_iff]
  intro k _
  rw [Nat.add_assoc, byteAt_append]

theorem longAt_append (pre data : List JByte) (i : Nat) :
    longAt (pre ++ data) (pre.length + i) = longAt data i := by
  rw [longAt_eq_iff]
  intro k _
  rw [Nat.add_assoc, byteAt_append]

/-- An index of `w`, whatever stands around it. -/
theorem byteAt_inside (pre post : List JByte) {w : List JByte} {i : Nat} (h : i < w.length) :
    byteAt (pre ++ (w ++ post)) (pre.length + i) = byteAt w i := by
  rw [byteAt_append]
  exact List.getD_append _ _ _ _ h

theorem intAt_inside (pre post : List JByte) {w : List JByte} {i : Nat} (h : i + 4 ≤ w.length) :
    intAt (pre ++ (w ++ post)) (pre.length + i) = intAt w i := by
  rw [intAt_eq_iff]
  intro k hk
  rw [Nat.add_assoc, byteAt_inside pre post (by omega)]

theorem longAt_inside (pre post : List JByte) {w : List JByte} {i : Nat} (h : i + 8 ≤ w.length) :
    longAt (pre ++ (w ++ post)) (pre.length + i) = longAt w i := by
  rw [longAt_eq_iff]
  intro k hk
  rw [Nat.add_assoc, byteAt_inside pre post (by omega)]

/-- The `n` bytes of the array from index `i` on. -/
def slice (data : List JByte) (i n : Nat) : List JByte := (data.drop i).take n

theorem slice_eq_map {data : List JByte} {i n : Nat} (h : i + n ≤ data.length) :
    slice data i n = (List.range n).map fun k => byteAt data (i + k) := by
  apply List.ext_getElem
  · simp [slice]
    omega
  · intro k hk hk'
    have hi : i + k < data.length := by
      rw [List.length_map, List.length_range] at hk'
      omega
    simp [slice, byteAt, List.getElem?_eq_getElem hi]

theorem slice_int {data : List JByte} {i : Nat} (h : i + 4 ≤ data.length) :
    slice data i 4 = intBytes (intAt data i) := by
  rw [slice_eq_map h, intBytes_intAt]

theorem slice_long {data : List JByte} {i : Nat} (h : i + 8 ≤ data.length) :
    slice data i 8 = longBytes (longAt data i) := by
  rw [slice_eq_map h, longBytes_longAt]

theorem slice_add (data : List JByte) (i n m : Nat) :
    slice data i (n + m) = slice data i n ++ slice data (i + n) m := by
  unfold slice
  rw [List.take_add, List.drop_drop]

end JSdnTrace.Java
