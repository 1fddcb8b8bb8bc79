/-
  Checksums in ones' complement arithmetic. The words of 16 bits are added, and what they carry
  over is added again. A sum is right when it is all ones, and that does not depend on the order
  of the bytes in a word.

  * `verifies_iff_little`: the sum of the words in either order.
  * `dvd_add_complement`, `verifies_insert_iff`: a block with the complement of its sum in it.
-/
import Mathlib.Algebra.Group.Nat.Even
import Mathlib.Data.Nat.ModEq

namespace JSdnTrace.Lib

def bigEndian (a b : BitVec 8) : Nat := 256 * a.toNat + b.toNat

def littleEndian (a b : BitVec 8) : Nat := a.toNat + 256 * b.toNat

/-- The sum of the words. Behind an odd number of bytes stands a zero. -/
def wordSum (word : BitVec 8 → BitVec 8 → Nat) : List (BitVec 8) → Nat
  | [] => 0
  | [a] => word a 0
  | a :: b :: rest => word a b + wordSum word rest

/-- The ones' complement sum of the words is all ones. -/
def Verifies (data : List (BitVec 8)) : Prop :=
  wordSum bigEndian data ≠ 0 ∧ 65535 ∣ wordSum bigEndian data

/-- What is carried over is added. -/
def fold (sum : Nat) : Nat := sum % 65536 + sum / 65536

/-! ## Sums of words -/

theorem wordSum_append (word : BitVec 8 → BitVec 8 → Nat) {pre : List (BitVec 8)}
    (h : Even pre.length) (post : List (BitVec 8)) :
    wordSum word (pre ++ post) = wordSum word pre + wordSum word post := by
  induction pre using wordSum.induct with
  | case1 => exact (Nat.zero_add _).symm
  | case2 a => exact absurd h Nat.not_even_one
  | case3 a b rest ih =>
    rw [List.length_cons, List.length_cons, Nat.even_add_one, Nat.even_add_one, not_not] at h
    rw [List.cons_append, List.cons_append, wordSum, wordSum, ih h, Nat.add_assoc]

theorem wordSum_little_le (data : List (BitVec 8)) :
    wordSum littleEndian data ≤ 65535 * data.length := by
  induction data using wordSum.induct with
  | case1 => exact le_rfl
  | case2 a =>
    have ha := a.isLt
    simp only [wordSum, littleEndian, List.length_singleton]
    omega
  | case3 a b rest ih =>
    have ha := a.isLt
    have hb := b.isLt
    simp only [wordSum, littleEndian, List.length_cons]
    omega

/-- Exchanging the bytes of each word multiplies the sum by 256. -/
theorem wordSum_little_modEq (data : List (BitVec 8)) :
    wordSum littleEndian data ≡ 256 * wordSum bigEndian data [MOD 65535] := by
  have hword : ∀ a b, littleEndian a b ≡ 256 * bigEndian a b [MOD 65535] := by
    intro a b
    have heq : 256 * bigEndian a b = littleEndian a b + 65535 * a.toNat := by
      unfold bigEndian littleEndian
      omega
    rw [heq]
    exact (Nat.add_mul_mod_self_left ..).symm
  induction data using wordSum.induct with
  | case1 => exact Nat.ModEq.rfl
  | case2 a => exact hword a 0
  | case3 a b rest ih =>
    rw [wordSum, wordSum, Nat.mul_add]
    exact (hword a b).add ih

theorem wordSum_eq_zero_iff (data : List (BitVec 8)) :
    wordSum littleEndian data = 0 ↔ wordSum bigEndian data = 0 := by
  induction data using wordSum.induct with
  | case1 => exact Iff.rfl
  | case2 a =>
    simp only [wordSum, littleEndian, bigEndian]
    omega
  | case3 a b rest ih =>
    simp only [wordSum, Nat.add_eq_zero_iff, ih]
    simp only [littleEndian, bigEndian]
    omega

/-- The order of the bytes in a word does not matter. -/
theorem verifies_iff_little (data : List (BitVec 8)) :
    Verifies data ↔
      wordSum littleEndian data ≠ 0 ∧ 65535 ∣ wordSum littleEndian data := by
  unfold Verifies
  refine and_congr (not_congr (wordSum_eq_zero_iff data).symm) ?_
  rw [(wordSum_little_modEq data).dvd_iff (dvd_refl 65535)]
  have hcoprime : Nat.Coprime 65535 256 := by decide
  exact hcoprime.dvd_mul_left.symm

/-! ## The complement of a sum -/

theorem fold_modEq (sum : Nat) : fold sum ≡ sum [MOD 65535] := by
  unfold fold Nat.ModEq
  omega

theorem fold_fold_le {sum : Nat} (h : sum < 0x100000000) : fold (fold sum) ≤ 65535 := by
  unfold fold
  omega

/-- A sum with its complement is all ones. -/
theorem dvd_add_complement {sum : Nat} (h : sum < 0x100000000) :
    sum + (65535 - fold (fold sum)) ≠ 0 ∧ 65535 ∣ sum + (65535 - fold (fold sum)) := by
  have hle := fold_fold_le h
  have hmod : fold (fold sum) ≡ sum [MOD 65535] := (fold_modEq _).trans (fold_modEq sum)
  refine ⟨fun hzero => ?_, ?_⟩
  · obtain ⟨rfl, hc⟩ := Nat.add_eq_zero_iff.mp hzero
    exact absurd hc (by decide)
  · have hsum := hmod.symm.add_right (65535 - fold (fold sum))
    rw [Nat.add_sub_of_le hle] at hsum
    exact (hsum.dvd_iff (dvd_refl 65535)).mpr (dvd_refl 65535)

/-- A checksum in a place that was zero adds to the sum. -/
theorem verifies_insert_iff {pre : List (BitVec 8)} (h : Even pre.length) (c d : BitVec 8)
    (post : List (BitVec 8)) :
    Verifies (pre ++ c :: d :: post) ↔
      wordSum littleEndian (pre ++ 0 :: 0 :: post) + littleEndian c d ≠ 0 ∧
        65535 ∣ wordSum littleEndian (pre ++ 0 :: 0 :: post) + littleEndian c d := by
  have htotal : wordSum littleEndian (pre ++ c :: d :: post) =
      wordSum littleEndian (pre ++ 0 :: 0 :: post) + littleEndian c d := by
    have hzero : littleEndian 0 0 = 0 := rfl
    rw [wordSum_append _ h, wordSum_append _ h, wordSum, wordSum, hzero]
    omega
  rw [verifies_iff_little, htotal]

end JSdnTrace.Lib
