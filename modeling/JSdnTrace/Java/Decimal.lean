/-
  `Long.toString` and `Integer.toString`: decimal digits, behind a minus sign when negative.

  * `decimal_injective`: a number is known by its digits.
  * `notMem_decimal`: there are no other characters in it.
-/
import JSdnTrace.Java.Bytes

namespace JSdnTrace.Java

/-- `toString` of a signed number of any width. -/
def decimal {w : Nat} (v : BitVec w) : List Char := (toString v.toInt).toList

theorem toList_toString (z : Int) :
    (toString z).toList =
      if 0 ≤ z then Nat.toDigits 10 z.toNat else '-' :: Nat.toDigits 10 (-z).toNat := by
  rw [Int.toString_eq_repr, Int.repr_eq_if]
  split
  · rw [Nat.toList_repr]
  · rw [String.toList_append, Nat.toList_repr]
    rfl

theorem toDigits_injective {m n : Nat} (h : Nat.toDigits 10 m = Nat.toDigits 10 n) : m = n := by
  have hvalue := congrArg (fun digits => Nat.ofDigitChars 10 digits 0) h
  rwa [Nat.ofDigitChars_ten_toDigits, Nat.ofDigitChars_ten_toDigits] at hvalue

theorem isDigit_of_mem_toDigits {n : Nat} {c : Char} (h : c ∈ Nat.toDigits 10 n) :
    c.isDigit = true :=
  Nat.isDigit_of_mem_toDigits (by decide) (by decide) h

/-- Digits do not start with a minus sign. -/
theorem toDigits_ne_minus (m : Nat) (cs : List Char) : Nat.toDigits 10 m ≠ '-' :: cs := by
  intro h
  have hminus : '-' ∈ Nat.toDigits 10 m := h ▸ List.mem_cons_self
  exact absurd (isDigit_of_mem_toDigits hminus) (by decide)

theorem decimal_injective {w : Nat} : Function.Injective (decimal (w := w)) := by
  intro v v' h
  unfold decimal at h
  rw [toList_toString, toList_toString] at h
  apply BitVec.eq_of_toInt_eq
  split at h <;> split at h
  · have hnat := toDigits_injective h
    omega
  · exact absurd h (toDigits_ne_minus _ _)
  · exact absurd h.symm (toDigits_ne_minus _ _)
  · have hnat := toDigits_injective (List.cons.inj h).2
    omega

theorem notMem_decimal {w : Nat} (v : BitVec w) {c : Char} (hdigit : c.isDigit = false)
    (hminus : c ≠ '-') : c ∉ decimal v := by
  intro h
  unfold decimal at h
  rw [toList_toString] at h
  have hfalse : ¬ c.isDigit = true := by rw [hdigit]; decide
  split at h
  · exact hfalse (isDigit_of_mem_toDigits h)
  · rcases List.mem_cons.mp h with heq | hmem
    · exact hminus heq
    · exact hfalse (isDigit_of_mem_toDigits hmem)

end JSdnTrace.Java
