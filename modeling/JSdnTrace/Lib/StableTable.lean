/-
  A table that is kept sorted by a stable sort, and searched from the front. Of the elements that
  meet a condition, the first with the smallest key is found.

  * `StableTable.insert`: sorting again after an element is added at the end.
  * `StableTable.exists_of_find?`: what is found, in terms of the elements as they were added.
-/
import JSdnTrace.Lib.KeepFirst

namespace JSdnTrace.Lib

variable {α κ : Type} [LinearOrder κ] {key : α → κ}

/-- `t` is sorted, and has the elements of each key in the order of `l`. -/
structure StableTable (key : α → κ) (l t : List α) : Prop where
  sorted : t.Pairwise fun a b => key a ≤ key b
  filter : ∀ k, (t.filter fun a => key a = k) = l.filter fun a => key a = k

namespace StableTable

variable {l t : List α}

theorem nil : StableTable key [] [] := ⟨.nil, fun _ => rfl⟩

theorem insert (h : StableTable key l t) (a : α) :
    StableTable key (l ++ [a]) ((t ++ [a]).mergeSort fun a b => key a ≤ key b) where
  sorted := by
    have hsorted : ((t ++ [a]).mergeSort fun a b => key a ≤ key b).Pairwise
        fun a b => decide (key a ≤ key b) = true := by
      refine List.pairwise_mergeSort (fun a b c hab hbc => ?_) (fun a b => ?_) _
      · rw [decide_eq_true_eq] at hab hbc ⊢
        exact hab.trans hbc
      · rw [Bool.or_eq_true, decide_eq_true_eq, decide_eq_true_eq]
        exact le_total _ _
    exact hsorted.imp of_decide_eq_true
  filter k := by rw [filter_mergeSort, List.filter_append, h.filter, List.filter_append]

theorem mem_iff (h : StableTable key l t) {a : α} : a ∈ t ↔ a ∈ l := by
  have hmem : a ∈ (t.filter fun b => key b = key a) ↔ a ∈ l.filter fun b => key b = key a := by
    rw [h.filter]
  simpa using hmem

/-- What is found comes before all else that meets the condition: before what was added first, it
    has the smaller key, and what was added later has no smaller one. -/
theorem exists_of_find? (h : StableTable key l t) {c : α → Bool} {a : α}
    (hfind : t.find? c = some a) :
    c a = true ∧ ∃ before after, l = before ++ a :: after ∧
      (∀ b ∈ before, c b = true → key a < key b) ∧ ∀ b ∈ after, c b = true → key a ≤ key b := by
  obtain ⟨hc, t₁, t₂, rfl, hnot⟩ := List.find?_eq_some_iff_append.mp hfind
  obtain ⟨-, hsorted, -⟩ := List.pairwise_append.mp h.sorted
  have hle : ∀ b ∈ l, c b = true → key a ≤ key b := by
    intro b hb hcb
    rcases List.mem_append.mp (h.mem_iff.mpr hb) with hb | hb
    · exact absurd hcb (by simpa using hnot b hb)
    · rcases List.mem_cons.mp hb with rfl | hb
      · exact le_rfl
      · exact List.rel_of_pairwise_cons hsorted hb
  have hclass := h.filter (key a)
  simp only [List.filter_append, List.filter_cons, decide_true, if_true] at hclass
  obtain ⟨l₁, l₂, rfl, h₁, h₂⟩ := List.filter_eq_append_iff.mp hclass.symm
  obtain ⟨m₁, m₂, rfl, hm₁, -, -⟩ := List.filter_eq_cons_iff.mp h₂
  refine ⟨hc, l₁ ++ m₁, m₂, (List.append_assoc ..).symm, fun b hb hcb => ?_, fun b hb => ?_⟩
  · refine lt_of_le_of_ne (hle b ?_ hcb) fun heq => ?_
    · rcases List.mem_append.mp hb with hb | hb
      · exact List.mem_append_left _ hb
      · exact List.mem_append_right _ (List.mem_append_left _ hb)
    · rcases List.mem_append.mp hb with hb | hb
      · -- An element of the same key that comes earlier in `l` comes earlier in `t`.
        have hb' : b ∈ l₁.filter fun d => key d = key a :=
          List.mem_filter.mpr ⟨hb, decide_eq_true heq.symm⟩
        rw [h₁] at hb'
        exact absurd hcb (by simpa using hnot b (List.mem_filter.mp hb').1)
      · exact hm₁ b hb (decide_eq_true heq.symm)
  · exact hle b (List.mem_append_right _ (List.mem_append_right _ (List.mem_cons_of_mem a hb)))

end StableTable

end JSdnTrace.Lib
