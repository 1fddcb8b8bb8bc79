/-
  Reordering a run. An event uses some channels, and two events with no channel in common can be
  exchanged. Then what a run does depends only on the order of the events within each channel.

  * `foldl_front`: an event is moved in front of events that use none of its channels.
  * `Channels.foldl_eq`: two runs with the same events on every channel end in the same state.
-/
import Mathlib.Data.List.Basic

namespace JSdnTrace.Lib

variable {σ ε κ : Type}

/-- `uses` tells which events of `step` may not be exchanged. -/
structure Channels (step : σ → ε → σ) (uses : ε → κ → Prop) : Prop where
  swap : ∀ a b, (∀ c, uses a c → ¬ uses b c) → ∀ s, step (step s a) b = step (step s b) a
  /-- An event on no channel does nothing. -/
  silent : ∀ a, (∀ c, ¬ uses a c) → ∀ s, step s a = s

theorem foldl_front {step : σ → ε → σ} {a : ε} {us : List ε}
    (h : ∀ b ∈ us, ∀ s, step (step s a) b = step (step s b) a) (vs : List ε) (s : σ) :
    (us ++ a :: vs).foldl step s = (us ++ vs).foldl step (step s a) := by
  induction us generalizing s with
  | nil => rfl
  | cons b us ih =>
    obtain ⟨hb, hus⟩ := List.forall_mem_cons.mp h
    rw [List.cons_append, List.foldl_cons, ih hus, ← hb]
    rfl

section Projection

variable (uses : ε → κ → Prop) [∀ e c, Decidable (uses e c)]

/-- The events of a run on the channel `c`. -/
def onChannel (c : κ) (es : List ε) : List ε := es.filter fun e => uses e c

theorem mem_onChannel {c : κ} {es : List ε} {e : ε} :
    e ∈ onChannel uses c es ↔ e ∈ es ∧ uses e c := by
  unfold onChannel
  rw [List.mem_filter, decide_eq_true_eq]

theorem onChannel_cons_pos {c : κ} {a : ε} (h : uses a c) (es : List ε) :
    onChannel uses c (a :: es) = a :: onChannel uses c es :=
  List.filter_cons_of_pos (decide_eq_true h)

theorem onChannel_cons_neg {c : κ} {a : ε} (h : ¬ uses a c) (es : List ε) :
    onChannel uses c (a :: es) = onChannel uses c es :=
  List.filter_cons_of_neg (by simpa using h)

theorem onChannel_append (c : κ) (es es' : List ε) :
    onChannel uses c (es ++ es') = onChannel uses c es ++ onChannel uses c es' :=
  List.filter_append ..

theorem onChannel_eq_nil {c : κ} {es : List ε} (h : ∀ e ∈ es, ¬ uses e c) :
    onChannel uses c es = [] := by
  refine List.eq_nil_iff_forall_not_mem.mpr fun e he => ?_
  obtain ⟨hmem, huse⟩ := (mem_onChannel uses).mp he
  exact h e hmem huse

theorem onChannel_eq_cons {c : κ} {es bs : List ε} {a : ε} (h : onChannel uses c es = a :: bs) :
    ∃ us vs, es = us ++ a :: vs ∧ ∀ b ∈ us, ¬ uses b c := by
  obtain ⟨us, vs, rfl, hus, -, -⟩ := List.filter_eq_cons_iff.mp h
  refine ⟨us, vs, rfl, fun b hb => ?_⟩
  have hnot := hus b hb
  rwa [decide_eq_true_eq] at hnot

/-- Exchanging two events that share no channel changes no projection. -/
theorem onChannel_swap {a b : ε} (h : ∀ c, uses a c → ¬ uses b c) (c : κ) (es : List ε) :
    onChannel uses c (a :: b :: es) = onChannel uses c (b :: a :: es) := by
  by_cases ha : uses a c
  · have hb := h c ha
    rw [onChannel_cons_pos uses ha, onChannel_cons_neg uses hb, onChannel_cons_neg uses hb,
      onChannel_cons_pos uses ha]
  · by_cases hb : uses b c
    · rw [onChannel_cons_neg uses ha, onChannel_cons_pos uses hb, onChannel_cons_pos uses hb,
        onChannel_cons_neg uses ha]
    · rw [onChannel_cons_neg uses ha, onChannel_cons_neg uses hb, onChannel_cons_neg uses hb,
        onChannel_cons_neg uses ha]

end Projection

namespace Channels

variable {step : σ → ε → σ} {uses : ε → κ → Prop}

theorem foldl_silent (h : Channels step uses) {es : List ε} (hes : ∀ e ∈ es, ∀ c, ¬ uses e c)
    (s : σ) : es.foldl step s = s := by
  induction es with
  | nil => rfl
  | cons e es ih =>
    obtain ⟨he, hes⟩ := List.forall_mem_cons.mp hes
    rw [List.foldl_cons, h.silent e he, ih hes]

variable [∀ e c, Decidable (uses e c)]

/-- Where the other run has the first event `a` of a run, nothing before it uses a channel of
    `a`: the first event that does would be `a` again. -/
theorem apart_of_proj {a : ε} {es us vs : List ε} {c : κ} (hus : ∀ b ∈ us, ¬ uses b c)
    (hc : uses a c)
    (hproj : ∀ d, onChannel uses d (a :: es) = onChannel uses d (us ++ a :: vs)) :
    ∀ b ∈ us, ∀ d, uses a d → ¬ uses b d := by
  intro b hb d ha hbd
  have hmem : b ∈ onChannel uses d us := (mem_onChannel uses).mpr ⟨hb, hbd⟩
  obtain ⟨b', bs, hcons⟩ := List.exists_cons_of_ne_nil (List.ne_nil_of_mem hmem)
  have hd := hproj d
  rw [onChannel_cons_pos uses ha, onChannel_append, hcons, List.cons_append] at hd
  obtain ⟨rfl, -⟩ := List.cons.inj hd
  have ha' : a ∈ onChannel uses d us := hcons ▸ List.mem_cons_self
  exact hus a ((mem_onChannel uses).mp ha').1 hc

/-- A run is determined by its projections to the channels. -/
theorem foldl_eq (h : Channels step uses) {es es' : List ε}
    (hproj : ∀ c, onChannel uses c es = onChannel uses c es') (s : σ) :
    es.foldl step s = es'.foldl step s := by
  induction es generalizing es' s with
  | nil =>
    refine (h.foldl_silent (fun e he c huse => ?_) s).symm
    have hmem : e ∈ onChannel uses c es' := (mem_onChannel uses).mpr ⟨he, huse⟩
    rw [← hproj c] at hmem
    exact absurd hmem List.not_mem_nil
  | cons a es ih =>
    by_cases hsilent : ∀ c, ¬ uses a c
    · rw [List.foldl_cons, h.silent a hsilent]
      refine ih (fun c => ?_) s
      rw [← hproj c, onChannel_cons_neg uses (hsilent c)]
    · push Not at hsilent
      obtain ⟨c, hc⟩ := hsilent
      have hfirst := hproj c
      rw [onChannel_cons_pos uses hc] at hfirst
      obtain ⟨us, vs, rfl, hus⟩ := onChannel_eq_cons uses hfirst.symm
      have hapart := apart_of_proj hus hc hproj
      rw [List.foldl_cons, foldl_front fun b hb => h.swap a b (hapart b hb)]
      refine ih (fun d => ?_) (step s a)
      have hd := hproj d
      rw [onChannel_append] at hd ⊢
      by_cases ha : uses a d
      · have hnone := onChannel_eq_nil uses fun b hb => hapart b hb d ha
        rw [onChannel_cons_pos uses ha, hnone, onChannel_cons_pos uses ha] at hd
        rw [hnone]
        exact (List.cons.inj hd).2
      · rwa [onChannel_cons_neg uses ha, onChannel_cons_neg uses ha] at hd

end Channels

end JSdnTrace.Lib
