/-
  The adjacent-duplicate filter of a report loop: walk a list, print an element when its key
  differs from the key printed last. On a list sorted by key it keeps elements in strictly
  increasing order (`keepFirst_pairwise`), and of each key the first one (`find?_keepFirst`).
  Only the smallest key can be missing, when it is the key the loop starts from.

  * `filter_mergeSort`: a stable sort keeps the elements of one key in their order.
  * `eq_of_strictly_sorted`, `eq_of_find?_eq`: a strictly increasing list is determined by its
    elements, and by what is found for each key.
-/
import Mathlib.Data.List.Nodup
import Mathlib.Data.List.Sort
import Mathlib.Order.Defs.LinearOrder

namespace JSdnTrace.Lib

section KeepFirst

variable {α κ : Type} [LinearOrder κ]

/-- Keep the elements whose key differs from the last kept one; `last` before the first. -/
def keepFirst (key : α → κ) : κ → List α → List α
  | _, [] => []
  | last, a :: as =>
    if last = key a then keepFirst key last as else a :: keepFirst key (key a) as

variable (key : α → κ)

theorem keepFirst_sublist (last : κ) (as : List α) : (keepFirst key last as).Sublist as := by
  induction as generalizing last with
  | nil => exact List.Sublist.refl _
  | cons a as ih =>
    unfold keepFirst
    split
    · exact (ih last).cons a
    · exact (ih (key a)).cons_cons a

/-- After `last`, only larger keys are kept, each larger than the one before. -/
theorem keepFirst_pairwise_of_le (last : κ) (as : List α) (hle : ∀ a ∈ as, last ≤ key a)
    (hs : as.Pairwise fun a b => key a ≤ key b) :
    (∀ a ∈ keepFirst key last as, last < key a) ∧
      (keepFirst key last as).Pairwise fun a b => key a < key b := by
  induction as generalizing last with
  | nil => exact ⟨fun a ha => absurd ha List.not_mem_nil, List.Pairwise.nil⟩
  | cons a as ih =>
    obtain ⟨ha, has⟩ := List.pairwise_cons.mp hs
    unfold keepFirst
    split
    · exact ih last (fun b hb => hle b (List.mem_cons_of_mem a hb)) has
    · next hne =>
      have hlt : last < key a := lt_of_le_of_ne (hle a List.mem_cons_self) hne
      obtain ⟨hgt, hp⟩ := ih (key a) ha has
      refine ⟨?_, List.pairwise_cons.mpr ⟨hgt, hp⟩⟩
      intro b hb
      rcases List.mem_cons.mp hb with rfl | hb
      · exact hlt
      · exact hlt.trans (hgt b hb)

/-- On a list sorted by key, the kept keys strictly increase. -/
theorem keepFirst_pairwise (last : κ) (as : List α)
    (hs : as.Pairwise fun a b => key a ≤ key b) :
    (keepFirst key last as).Pairwise fun a b => key a < key b := by
  cases as with
  | nil => exact List.Pairwise.nil
  | cons a as =>
    obtain ⟨ha, has⟩ := List.pairwise_cons.mp hs
    unfold keepFirst
    split
    · next hl => exact (keepFirst_pairwise_of_le key last as (hl ▸ ha) has).2
    · exact List.pairwise_cons.mpr (keepFirst_pairwise_of_le key (key a) as ha has)

/-- Of each key the first element is kept; the start key is skipped when no key is smaller. -/
theorem find?_keepFirst (k last : κ) (as : List α) (hs : as.Pairwise fun a b => key a ≤ key b) :
    ((keepFirst key last as).find? fun a => key a = k) =
      if k = last ∧ ∀ a ∈ as, k ≤ key a then none else as.find? fun a => key a = k := by
  induction as generalizing last with
  | nil => simp [keepFirst]
  | cons a as ih =>
    obtain ⟨ha, has⟩ := List.pairwise_cons.mp hs
    have hskip : key a ≠ k → ∀ bs : List α,
        ((a :: bs).find? fun b => key b = k) = bs.find? fun b => key b = k := by
      intro hk bs
      simp [hk]
    unfold keepFirst
    by_cases hl : last = key a
    · rw [if_pos hl, ih last has]
      by_cases hk : k = last
      · have hle : ∀ b ∈ as, k ≤ key b := fun b hb => (hk.trans hl).le.trans (ha b hb)
        rw [if_pos ⟨hk, hle⟩, if_pos ⟨hk, List.forall_mem_cons.mpr ⟨(hk.trans hl).le, hle⟩⟩]
      · have hne : key a ≠ k := fun h => hk (h.symm.trans hl.symm)
        rw [if_neg fun h => hk h.1, if_neg fun h => hk h.1, hskip hne]
    · rw [if_neg hl]
      by_cases hk : key a = k
      · have hfound : ∀ bs : List α, ((a :: bs).find? fun b => key b = k) = some a := by
          intro bs
          simp [hk]
        rw [hfound, hfound, if_neg fun h => hl (h.1.symm.trans hk.symm)]
      · rw [hskip hk, hskip hk, ih (key a) has, if_neg fun h => hk h.1.symm]
        split
        · -- The list is past `k` already.
          next h =>
          have hlt : k < key a := lt_of_le_of_ne (h.2 a List.mem_cons_self) (Ne.symm hk)
          rw [List.find?_eq_none]
          intro b hb
          rw [decide_eq_true_eq]
          exact (hlt.trans_le (ha b hb)).ne'
        · rfl

end KeepFirst

/-- In a strictly increasing list an element is known by its key. -/
theorem eq_of_key_eq {α κ : Type} [LinearOrder κ] (key : α → κ) {xs : List α}
    (hs : xs.Pairwise fun a b => key a < key b) {a b : α} (ha : a ∈ xs) (hb : b ∈ xs)
    (h : key a = key b) : a = b := by
  have hpair : (xs.map key).Pairwise (· < ·) := List.pairwise_map.mpr hs
  have hnodup : (xs.map key).Nodup := hpair.imp ne_of_lt
  exact List.inj_on_of_nodup_map hnodup ha hb h

/-- Two lists strictly increasing in `key` with the same elements are the same list. -/
theorem eq_of_strictly_sorted {α κ : Type} [LinearOrder κ] (key : α → κ) {xs ys : List α}
    (hx : xs.Pairwise fun a b => key a < key b) (hy : ys.Pairwise fun a b => key a < key b)
    (h : ∀ a, a ∈ xs ↔ a ∈ ys) : xs = ys := by
  have nodup : ∀ {zs : List α}, (zs.Pairwise fun a b => key a < key b) → zs.Nodup :=
    fun hz => hz.imp fun hlt heq => absurd (congrArg key heq) hlt.ne
  have hperm : xs.Perm ys := (List.perm_ext_iff_of_nodup (nodup hx) (nodup hy)).mpr h
  exact hperm.eq_of_pairwise (fun a b _ _ hab hba => absurd hab hba.asymm) hx hy

theorem find?_key_eq_some {α κ : Type} [LinearOrder κ] (key : α → κ) {xs : List α}
    (hs : xs.Pairwise fun a b => key a < key b) {k : κ} {a : α} :
    (xs.find? fun a => key a = k) = some a ↔ a ∈ xs ∧ key a = k := by
  have hkey : ∀ b, (xs.find? fun a => key a = k) = some b → key b = k := by
    intro b hb
    have hp := List.find?_some hb
    exact of_decide_eq_true hp
  refine ⟨fun h => ⟨List.mem_of_find?_eq_some h, hkey a h⟩, fun h => ?_⟩
  obtain ⟨ha, hk⟩ := h
  cases hf : xs.find? fun a => key a = k with
  | none => exact absurd (decide_eq_true hk) (List.find?_eq_none.mp hf a ha)
  | some b =>
    rw [eq_of_key_eq key hs (List.mem_of_find?_eq_some hf) ha ((hkey b hf).trans hk.symm)]

/-- A strictly increasing list has at most one element of a key. -/
theorem filter_key_eq {α κ : Type} [LinearOrder κ] (key : α → κ) {xs : List α}
    (hs : xs.Pairwise fun a b => key a < key b) (k : κ) :
    (xs.filter fun a => key a = k) = (xs.find? fun a => key a = k).toList := by
  induction xs with
  | nil => rfl
  | cons a xs ih =>
    obtain ⟨ha, hxs⟩ := List.pairwise_cons.mp hs
    by_cases hk : key a = k
    · have hnone : (xs.filter fun b => key b = k) = [] := by
        rw [List.filter_eq_nil_iff]
        intro b hb
        rw [decide_eq_true_eq]
        exact (hk ▸ ha b hb).ne'
      simp [hk, hnone]
    · simp [hk, ih hxs]

/-- Two strictly increasing lists that find the same for every key are the same list. -/
theorem eq_of_find?_eq {α κ : Type} [LinearOrder κ] (key : α → κ) {xs ys : List α}
    (hx : xs.Pairwise fun a b => key a < key b) (hy : ys.Pairwise fun a b => key a < key b)
    (h : ∀ k, (xs.find? fun a => key a = k) = ys.find? fun a => key a = k) : xs = ys := by
  apply eq_of_strictly_sorted key hx hy
  intro a
  have hxa := find?_key_eq_some key hx (k := key a) (a := a)
  rw [h, find?_key_eq_some key hy] at hxa
  simpa using hxa.symm

/-- Filtering a sorted list of copies gives the copied list, when the copies have every key. -/
theorem keepFirst_eq {α κ : Type} [LinearOrder κ] (key : α → κ) (last : κ) {as bs : List α}
    (hs : as.Pairwise fun a b => key a ≤ key b) (hne : ∀ a ∈ as, key a ≠ last)
    (hb : bs.Pairwise fun a b => key a < key b) (hmem : ∀ a ∈ as, a ∈ bs)
    (hkeys : ∀ b ∈ bs, ∃ a ∈ as, key a = key b) : keepFirst key last as = bs := by
  apply eq_of_find?_eq key (keepFirst_pairwise key last as hs) hb
  intro k
  have hfirst : ((keepFirst key last as).find? fun a => key a = k) =
      as.find? fun a => key a = k := by
    rw [find?_keepFirst key k last as hs]
    split
    · next h =>
      -- No key of the list is `last`.
      rw [eq_comm, List.find?_eq_none]
      intro a ha
      rw [decide_eq_true_eq, h.1]
      exact hne a ha
    · rfl
  rw [hfirst]
  cases hk : as.find? fun a => key a = k with
  | none =>
    rw [eq_comm, List.find?_eq_none]
    intro b hbmem
    obtain ⟨a, ha, hab⟩ := hkeys b hbmem
    rw [← hab]
    exact List.find?_eq_none.mp hk a ha
  | some a =>
    have hak := List.find?_some hk
    have hamem := hmem a (List.mem_of_find?_eq_some hk)
    exact ((find?_key_eq_some key hb).mpr ⟨hamem, of_decide_eq_true hak⟩).symm

/-- A stable sort keeps the elements of one key in their order. -/
theorem filter_mergeSort {α κ : Type} [LinearOrder κ] (key : α → κ) (k : κ) (as : List α) :
    ((as.mergeSort fun a b => key a ≤ key b).filter fun a => key a = k) =
      as.filter fun a => key a = k := by
  have hclass : (as.filter fun a => key a = k).Pairwise
      fun a b => decide (key a ≤ key b) = true := by
    apply List.pairwise_of_forall_mem_list
    intro a ha b hb
    have hak : key a = k := of_decide_eq_true (List.mem_filter.mp ha).2
    have hbk : key b = k := of_decide_eq_true (List.mem_filter.mp hb).2
    exact decide_eq_true (hak.trans hbk.symm).le
  have hsub : (as.filter fun a => key a = k).Sublist (as.mergeSort fun a b => key a ≤ key b) := by
    refine List.sublist_mergeSort (fun a b c hab hbc => ?_) (fun a b => ?_) hclass
      List.filter_sublist
    · rw [decide_eq_true_eq] at *
      exact hab.trans hbc
    · rw [Bool.or_eq_true, decide_eq_true_eq, decide_eq_true_eq]
      exact le_total _ _
  have hfilter := hsub.filter fun a => key a = k
  rw [List.filter_filter] at hfilter
  simp only [Bool.and_self] at hfilter
  have hlength := ((List.mergeSort_perm as fun a b => key a ≤ key b).filter
    fun a => key a = k).length_eq
  exact (hfilter.eq_of_length hlength.symm).symm

end JSdnTrace.Lib
