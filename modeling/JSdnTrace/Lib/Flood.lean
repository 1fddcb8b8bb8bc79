/-
  A flood that is carried out by nested calls: `out p` are the ends that are called from `p`, in
  order, and `calls` lists the calls.

  * `mem_calls`: the ends that are called.
  * `within_of_loopFree`: without loops, the depth of the calls is bounded.
  * `loopFree_of_within`: with a loop, it is not.
  * `nodup_calls`: without loops no node is called twice.
-/
import JSdnTrace.Lib.Wiring
import Mathlib.Data.List.Nodup
import Mathlib.Data.List.Perm.Subperm

namespace JSdnTrace.Lib

open Relation

section Calls

variable {P : Type} (out : P → List P)

/-- From `p` on, fewer than `n` calls are nested. -/
def Within : Nat → P → Prop
  | 0, _ => False
  | n + 1, p => ∀ r ∈ out p, Within n r

/-- The calls from `p` on, as far as the depth `n`. -/
def calls : Nat → P → List P
  | 0, _ => []
  | n + 1, p => p :: (out p).flatMap (calls n)

variable {out}

theorem Within.mono {m n : Nat} (h : m ≤ n) {p : P} (hp : Within out m p) : Within out n p := by
  induction m generalizing n p with
  | zero => exact hp.elim
  | succ m ih =>
    obtain ⟨n, rfl⟩ := Nat.exists_eq_add_of_le' (Nat.one_le_of_lt h)
    exact fun r hr => ih (Nat.le_of_succ_le_succ h) (hp r hr)

theorem calls_mono {m n : Nat} (h : m ≤ n) {p : P} (hp : Within out m p) :
    calls out n p = calls out m p := by
  induction m generalizing n p with
  | zero => exact hp.elim
  | succ m ih =>
    obtain ⟨n, rfl⟩ := Nat.exists_eq_add_of_le' (Nat.one_le_of_lt h)
    unfold calls
    congr 1
    exact List.flatMap_congr fun r hr => ih (Nat.le_of_succ_le_succ h) (hp r hr)

theorem nexts_of_mem_calls {n : Nat} {p x : P} (h : x ∈ calls out n p) :
    ReflTransGen (fun p r => r ∈ out p) p x := by
  induction n generalizing p with
  | zero => exact absurd h List.not_mem_nil
  | succ n ih =>
    rcases List.mem_cons.mp h with rfl | h
    · exact .refl
    · obtain ⟨r, hr, hx⟩ := List.mem_flatMap.mp h
      exact .head hr (ih hx)

theorem mem_calls {n : Nat} {p x : P} (hp : Within out n p) :
    x ∈ calls out n p ↔ ReflTransGen (fun p r => r ∈ out p) p x := by
  refine ⟨nexts_of_mem_calls, fun h => ?_⟩
  induction n generalizing p with
  | zero => exact hp.elim
  | succ n ih =>
    rcases ReflTransGen.cases_head h with rfl | hstep
    · exact List.mem_cons_self
    · obtain ⟨r, hr, hwalk⟩ := hstep
      exact List.mem_cons_of_mem p (List.mem_flatMap.mpr ⟨r, hr, ih (hp r hr) hwalk⟩)

/-- Calls that go round are nested without end. -/
theorem not_within_of_loop {n : Nat} {p c : P} (h : ReflTransGen (fun p r => r ∈ out p) p c)
    (hc : TransGen (fun p r => r ∈ out p) c c) : ¬ Within out n p := by
  induction n generalizing p with
  | zero => exact id
  | succ n ih =>
    intro hp
    obtain ⟨d, hd, hwalk⟩ := TransGen.head'_iff.mp (TransGen.trans_right h hc)
    exact ih hwalk (hp d hd)

/-- Calls that are nested too deep follow a long chain. -/
theorem exists_chain_of_not_within {n : Nat} {p : P} (h : ¬ Within out n p) :
    ∃ l, (p :: l).IsChain (fun p r => r ∈ out p) ∧ l.length = n := by
  induction n generalizing p with
  | zero => exact ⟨[], .singleton p, rfl⟩
  | succ n ih =>
    have hex : ∃ r ∈ out p, ¬ Within out n r := by
      by_contra hall
      push Not at hall
      exact h hall
    obtain ⟨r, hr, hdeep⟩ := hex
    obtain ⟨l, hchain, hlen⟩ := ih hdeep
    exact ⟨r :: l, List.isChain_cons_cons.mpr ⟨hr, hchain⟩, congrArg (· + 1) hlen⟩

/-- A chain of calls that do not go round has no end twice. -/
theorem nodup_of_chain {p : P} {l : List P} (h : (p :: l).IsChain fun p r => r ∈ out p)
    (hno : ∀ c, ReflTransGen (fun p r => r ∈ out p) p c →
      ¬ TransGen (fun p r => r ∈ out p) c c) : (p :: l).Nodup := by
  have hpairs : (p :: l).Pairwise (TransGen fun p r => r ∈ out p) :=
    (h.imp fun _ _ hr => TransGen.single hr).pairwise
  refine hpairs.imp_of_mem fun {a b} ha _ hab heq => ?_
  rw [← heq] at hab
  rcases List.mem_cons.mp ha with rfl | ha
  · exact hno a .refl hab
  · exact hno a (List.rel_of_pairwise_cons hpairs ha).to_reflTransGen hab

theorem mem_of_chain {ends : List P} (hends : ∀ p, ∀ r ∈ out p, r ∈ ends) {p : P} {l : List P}
    (h : (p :: l).IsChain fun p r => r ∈ out p) : ∀ r ∈ l, r ∈ ends := by
  induction l generalizing p with
  | nil => exact fun r hr => absurd hr List.not_mem_nil
  | cons q l ih =>
    obtain ⟨hq, hl⟩ := List.isChain_cons_cons.mp h
    exact List.forall_mem_cons.mpr ⟨hends p q hq, ih hl⟩

/-- Calls that do not go round are not nested deeper than there are ends. -/
theorem within_of_no_loop {ends : List P} (hends : ∀ p, ∀ r ∈ out p, r ∈ ends) {p : P}
    (hno : ∀ c, ReflTransGen (fun p r => r ∈ out p) p c →
      ¬ TransGen (fun p r => r ∈ out p) c c) : Within out (ends.length + 1) p := by
  by_contra hdeep
  obtain ⟨l, hchain, hlen⟩ := exists_chain_of_not_within hdeep
  have hnodup : l.Nodup := (List.nodup_cons.mp (nodup_of_chain hchain hno)).2
  have hle := (hnodup.subperm (mem_of_chain hends hchain)).length_le
  omega

end Calls

/-! ## A flood over wires -/

section Flood

variable {V P : Type} {w : Wiring V P} {out : P → List P} (hout : ∀ p r, r ∈ out p ↔ w.Next p r)

include hout

theorem out_eq_next : (fun p r => r ∈ out p) = w.Next := by
  funext p r
  exact propext (hout p r)

theorem nexts_of_calls {n : Nat} {p x : P} (h : x ∈ calls out n p) :
    ReflTransGen w.Next p x :=
  out_eq_next hout ▸ nexts_of_mem_calls h

/-- Without loops no node is called twice. -/
theorem nodup_calls (hnodup : ∀ p, (out p).Nodup) (n : Nat) {p : P}
    (hfree : w.LoopFree (w.node p)) : ((calls out n p).map w.node).Nodup := by
  induction n generalizing p with
  | zero => exact List.nodup_nil
  | succ n ih =>
    unfold calls
    rw [List.map_cons, List.nodup_cons, List.map_flatMap, List.nodup_flatMap]
    refine ⟨fun hback => ?_, fun r hr => ?_, ?_⟩
    · obtain ⟨r, hr, hmem⟩ := List.mem_flatMap.mp hback
      obtain ⟨x, hx, hnode⟩ := List.mem_map.mp hmem
      exact Wiring.no_return hfree ((hout p r).mp hr) (nexts_of_calls hout hx) hnode
    · exact ih (hfree.of_joined (.single ((hout p r).mp hr).adj))
    · refine (hnodup p).imp_of_mem fun {r r'} hr hr' hne => ?_
      intro v hv hv'
      obtain ⟨x, hx, rfl⟩ := List.mem_map.mp hv
      obtain ⟨x', hx', hnode⟩ := List.mem_map.mp hv'
      exact Wiring.apart hfree ((hout p r).mp hr) ((hout p r').mp hr') hne
        (nexts_of_calls hout hx) (nexts_of_calls hout hx') hnode.symm

/-- Without loops, the calls are not nested deeper than there are ends. -/
theorem within_of_loopFree {ends : List P} (hends : ∀ p, ∀ r ∈ out p, r ∈ ends) {p : P}
    (hfree : w.LoopFree (w.node p)) : Within out (ends.length + 1) p := by
  refine within_of_no_loop hends fun c hc hloop => ?_
  rw [out_eq_next hout] at hc hloop
  exact hfree c (Wiring.joined_of_nexts hc) hloop

/-- There is room for the calls only if no loop is joined to the leaf `p₀` they start from. -/
theorem loopFree_of_within {p₀ p : P} (hp : w.far p₀ = some p)
    (honly : ∀ q, w.node q = w.node p₀ → q = p₀) {n : Nat} (hn : Within out n p) :
    w.LoopFree (w.node p) := by
  by_contra hloop
  obtain ⟨d, hd, hloop⟩ := Wiring.loop_reached hp honly hloop
  unfold Wiring.Loop at hloop
  rw [← out_eq_next hout] at hd hloop
  exact not_within_of_loop hd hloop hn

end Flood

end JSdnTrace.Lib
