/-
  Runs as lists of events, newest last.

  * `EachStep R es`: `R` relates every event of the run to the events before it.
  * `inv_of_eachStep`: the invariant rule.
  * `eachStep_iff`: the exact-condition rule. Where one step is safe exactly when it is
    clean, as long as the invariant holds, a run is safe exactly when all its steps are clean.
  * `since`: the part of a run that starts at its last reset.
  * `HeldSince`: one thing happened, and another has held ever since.
  * `mapHistory`: a list transformer that sees the elements before each element.
  * `exists_turn`: of the events that are counted, the one whose turn it is.
-/
import Mathlib.Data.List.Induction

namespace JSdnTrace.Lib

/-- Where a run with one more event can be split: at that event, or before it. -/
theorem split_concat {ε : Type} {es pre post : List ε} {e a : ε}
    (h : es ++ [e] = pre ++ a :: post) :
    (pre = es ∧ a = e ∧ post = []) ∨ ∃ post', post = post' ++ [e] ∧ es = pre ++ a :: post' := by
  rcases List.eq_nil_or_concat post with rfl | ⟨post', b, rfl⟩
  · obtain ⟨rfl, hea⟩ := List.append_inj' h rfl
    exact Or.inl ⟨rfl, (List.singleton_inj.mp hea).symm, rfl⟩
  · rw [List.concat_eq_append, ← List.cons_append, ← List.append_assoc] at h
    obtain ⟨rfl, heb⟩ := List.append_inj' h rfl
    rw [List.singleton_inj.mp heb]
    exact Or.inr ⟨post', List.concat_eq_append, rfl⟩

section EachStep

variable {ε : Type}

/-- `R` holds between each event of `es` and the history before it. -/
def EachStep (R : List ε → ε → Prop) (es : List ε) : Prop :=
  ∀ pre e post, es = pre ++ e :: post → R pre e

theorem eachStep_nil (R : List ε → ε → Prop) : EachStep R [] := by
  intro pre e post h
  exact absurd h.symm (by simp)

theorem eachStep_concat {R : List ε → ε → Prop} {es : List ε} {e : ε} :
    EachStep R (es ++ [e]) ↔ EachStep R es ∧ R es e := by
  refine ⟨fun h => ?_, fun h pre a post hes => ?_⟩
  · refine ⟨fun pre a post hes => h pre a (post ++ [e]) ?_, h es e [] rfl⟩
    rw [hes, List.append_assoc, List.cons_append]
  · obtain ⟨h, he⟩ := h
    rcases split_concat hes with ⟨rfl, rfl, -⟩ | ⟨post', -, rfl⟩
    · exact he
    · exact h pre a post' rfl

theorem eachStep_mem {P : ε → Prop} {es : List ε} :
    EachStep (fun _ e => P e) es ↔ ∀ e ∈ es, P e := by
  refine ⟨fun h e he => ?_, fun h pre e post hes => ?_⟩
  · obtain ⟨pre, post, hes⟩ := List.append_of_mem he
    exact h pre e post hes
  · have he : e ∈ es := by
      rw [hes]
      exact List.mem_append_right pre List.mem_cons_self
    exact h e he

theorem inv_of_eachStep {I : List ε → Prop} {Clean : List ε → ε → Prop} (h0 : I [])
    (hstep : ∀ pre e, I pre → Clean pre e → I (pre ++ [e])) (es : List ε)
    (h : EachStep Clean es) : I es := by
  induction es using List.reverseRecOn with
  | nil => exact h0
  | append_singleton es e ih =>
    obtain ⟨hes, he⟩ := eachStep_concat.mp h
    exact hstep es e (ih hes) he

theorem eachStep_iff {I : List ε → Prop} {Safe Clean : List ε → ε → Prop} (h0 : I [])
    (hstep : ∀ pre e, I pre → Clean pre e → I (pre ++ [e]))
    (hiff : ∀ pre e, I pre → (Safe pre e ↔ Clean pre e)) (es : List ε) :
    EachStep Safe es ↔ EachStep Clean es := by
  induction es using List.reverseRecOn with
  | nil => exact ⟨fun _ => eachStep_nil _, fun _ => eachStep_nil _⟩
  | append_singleton es e ih =>
    rw [eachStep_concat, eachStep_concat, ih]
    exact and_congr_right fun hes => hiff es e (inv_of_eachStep h0 hstep es hes)

end EachStep

section Since

variable {ε : Type} (reset : ε → Prop) [DecidablePred reset]

/-- The events since the last one that resets, that one included, or all of them. -/
def since (es : List ε) : List ε :=
  es.foldl (fun tail e => if reset e then [e] else tail ++ [e]) []

theorem since_concat (es : List ε) (e : ε) :
    since reset (es ++ [e]) = if reset e then [e] else since reset es ++ [e] := by
  unfold since
  rw [List.foldl_append]
  rfl

end Since

section HeldSince

variable {ε : Type} {B A : ε → Prop}

/-- Some event was an `A`, and every event after it a `B`. -/
def HeldSince (B A : ε → Prop) (es : List ε) : Prop :=
  ∃ pre a post, es = pre ++ a :: post ∧ A a ∧ ∀ b ∈ post, B b

theorem not_heldSince_nil : ¬ HeldSince B A [] := by
  intro h
  obtain ⟨pre, a, post, hes, -⟩ := h
  exact absurd hes.symm (by simp)

theorem heldSince_concat {es : List ε} {e : ε} :
    HeldSince B A (es ++ [e]) ↔ A e ∨ (HeldSince B A es ∧ B e) := by
  refine ⟨fun h => ?_, fun h => ?_⟩
  · obtain ⟨pre, a, post, hes, ha, hb⟩ := h
    rcases split_concat hes with ⟨-, rfl, -⟩ | ⟨post', rfl, rfl⟩
    · exact Or.inl ha
    · obtain ⟨hb, he⟩ := List.forall_mem_append.mp hb
      exact Or.inr ⟨⟨pre, a, post', rfl, ha, hb⟩, he e List.mem_cons_self⟩
  · rcases h with he | ⟨⟨pre, a, post, rfl, ha, hb⟩, he⟩
    · exact ⟨es, e, [], rfl, he, fun b hb => absurd hb List.not_mem_nil⟩
    · refine ⟨pre, a, post ++ [e], by rw [List.append_assoc, List.cons_append], ha, ?_⟩
      exact List.forall_mem_append.mpr ⟨hb, List.forall_mem_singleton.mpr he⟩

end HeldSince

section MapHistory

variable {α β : Type}

/-- Map `f` over the list, each element with everything before it, starting after `past`. -/
def mapHistory (f : List α → α → β) : List α → List α → List β
  | _, [] => []
  | past, a :: as => f past a :: mapHistory f (past ++ [a]) as

@[simp] theorem length_mapHistory (f : List α → α → β) (past as : List α) :
    (mapHistory f past as).length = as.length := by
  induction as generalizing past with
  | nil => rfl
  | cons a as ih => rw [mapHistory, List.length_cons, List.length_cons, ih]

theorem mapHistory_concat (f : List α → α → β) (past as : List α) (a : α) :
    mapHistory f past (as ++ [a]) = mapHistory f past as ++ [f (past ++ as) a] := by
  induction as generalizing past with
  | nil => simp [mapHistory]
  | cons b as ih =>
    rw [List.cons_append, mapHistory, ih, mapHistory, List.append_assoc, List.cons_append]
    rfl

theorem flatten_mapHistory_concat (f : List α → α → List β) (past as : List α) (a : α) :
    (mapHistory f past (as ++ [a])).flatten =
      (mapHistory f past as).flatten ++ f (past ++ as) a := by
  rw [mapHistory_concat, List.flatten_append, List.flatten_singleton]

theorem getElem?_mapHistory (f : List α → α → β) (past as : List α) (i : Nat) :
    (mapHistory f past as)[i]? = as[i]?.map (f (past ++ as.take i)) := by
  induction as generalizing past i with
  | nil => rfl
  | cons a as ih =>
    cases i with
    | zero => simp [mapHistory]
    | succ i =>
      simp only [mapHistory, List.getElem?_cons_succ, List.take_succ_cons]
      rw [ih, List.append_assoc, List.cons_append, List.nil_append]

end MapHistory

/-! ## Turns -/

/-- Each event that is counted has its turn. -/
theorem exists_turn {ε : Type} {p : ε → Bool} {es : List ε} {n : Nat} (h : n < es.countP p) :
    ∃ pre e post, es = pre ++ e :: post ∧ p e = true ∧ pre.countP p = n := by
  induction es generalizing n with
  | nil => exact absurd h (Nat.not_lt_zero n)
  | cons a as ih =>
    rw [List.countP_cons] at h
    cases hp : p a with
    | false =>
      rw [hp] at h
      obtain ⟨pre, e, post, rfl, he, hcount⟩ := ih h
      refine ⟨a :: pre, e, post, rfl, he, ?_⟩
      rw [List.countP_cons_of_neg (by simp [hp]), hcount]
    | true =>
      cases n with
      | zero => exact ⟨[], a, as, rfl, hp, rfl⟩
      | succ n =>
        rw [hp, if_pos rfl] at h
        obtain ⟨pre, e, post, rfl, he, hcount⟩ := ih (Nat.lt_of_succ_lt_succ h)
        refine ⟨a :: pre, e, post, rfl, he, ?_⟩
        rw [List.countP_cons_of_pos hp, hcount]

end JSdnTrace.Lib
