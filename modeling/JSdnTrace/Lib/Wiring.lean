/-
  Flooding a network of wires. The ends of the wires belong to nodes, and what arrives at one end
  of a node leaves through all the others.

  * `no_return`, `apart`: without loops, what has left a node does not come back to it, and what
    has left it through two ends does not meet again.
  * `exists_arrival`: what leaves a node arrives at every node that is joined to it.
  * `loop_reached`: a loop is reached from every node that is joined to it.
-/
import Mathlib.Data.List.Chain
import Mathlib.Data.List.Induction
import Mathlib.Logic.Relation

namespace JSdnTrace.Lib

open Relation

/-- Wires between ends `P` of nodes `V`. -/
structure Wiring (V P : Type) where
  node : P → V
  /-- The other end of the wire. -/
  far : P → Option P
  far_symm : ∀ {p q}, far p = some q → far q = some p
  far_ne : ∀ p, far p ≠ some p

namespace Wiring

variable {V P : Type} (w : Wiring V P)

/-- What arrived at `p` leaves through another end of the node and arrives at `r`. -/
def Next (p r : P) : Prop := ∃ q, w.node q = w.node p ∧ q ≠ p ∧ w.far q = some r

/-- Two nodes with a wire between them. -/
def Adj (u v : V) : Prop := ∃ q r, w.node q = u ∧ w.far q = some r ∧ w.node r = v

/-- Nodes with a path of wires between them. -/
def Joined : V → V → Prop := ReflTransGen w.Adj

/-- What arrives at `p` arrives there again. -/
def Loop (p : P) : Prop := TransGen w.Next p p

/-- There is no loop at the nodes that are joined to `v`. -/
def LoopFree (v : V) : Prop := ∀ p, w.Joined v (w.node p) → ¬ w.Loop p

variable {w}

theorem far_inj {p q r : P} (hp : w.far p = some r) (hq : w.far q = some r) : p = q := by
  have hr := w.far_symm hp
  rw [w.far_symm hq] at hr
  exact (Option.some_inj.mp hr).symm

theorem Next.adj {p r : P} (h : w.Next p r) : w.Adj (w.node p) (w.node r) := by
  obtain ⟨q, hq, -, hfar⟩ := h
  exact ⟨q, r, hq, hfar, rfl⟩

theorem joined_of_nexts {p x : P} (h : ReflTransGen w.Next p x) :
    w.Joined (w.node p) (w.node x) :=
  ReflTransGen.lift w.node (fun _ _ hnext => Next.adj hnext) p x h

theorem Adj.symm {u v : V} (h : w.Adj u v) : w.Adj v u := by
  obtain ⟨q, r, hq, hfar, hr⟩ := h
  exact ⟨r, q, hr, w.far_symm hfar, hq⟩

theorem Joined.symm {u v : V} (h : w.Joined u v) : w.Joined v u := by
  induction h with
  | refl => exact .refl
  | tail _ hadj ih => exact .head hadj.symm ih

theorem LoopFree.of_joined {u v : V} (h : w.LoopFree u) (hjoined : w.Joined u v) :
    w.LoopFree v := fun p hp => h p (hjoined.trans hp)

/-- There are no loops where what is handed on comes nearer to an end. -/
theorem loopFree_of_measure (μ : P → Nat) (h : ∀ p r, w.Next p r → μ r < μ p) (v : V) :
    w.LoopFree v := by
  have hwalk : ∀ p r, TransGen w.Next p r → μ r < μ p := by
    intro p r hpr
    induction hpr with
    | single hnext => exact h _ _ hnext
    | tail _ hnext ih => exact (h _ _ hnext).trans ih
  exact fun p _ hloop => (hwalk p p hloop).false

/-! ## The way back -/

theorem Next.exists_far {p r : P} (h : w.Next p r) : ∃ q, w.far r = some q := by
  obtain ⟨q, -, -, hfar⟩ := h
  exact ⟨q, w.far_symm hfar⟩

theorem Next.reverse {p r p' r' : P} (h : w.Next p r) (hp : w.far p = some p')
    (hr : w.far r = some r') : w.Next r' p' := by
  obtain ⟨q, hnode, hne, hfar⟩ := h
  obtain rfl : q = r' := far_inj hfar (w.far_symm hr)
  exact ⟨p, hnode.symm, hne.symm, hp⟩

theorem exists_far_of_nexts {p x p' : P} (h : ReflTransGen w.Next p x) (hp : w.far p = some p') :
    ∃ x', w.far x = some x' := by
  cases h with
  | refl => exact ⟨p', hp⟩
  | tail _ hnext => exact hnext.exists_far

theorem nexts_reverse {p x p' x' : P} (h : ReflTransGen w.Next p x) (hp : w.far p = some p')
    (hx : w.far x = some x') : ReflTransGen w.Next x' p' := by
  induction h generalizing x' with
  | refl =>
    rw [hp] at hx
    rw [Option.some_inj.mp hx]
  | tail hwalk hnext ih =>
    obtain ⟨y', hy⟩ := exists_far_of_nexts hwalk hp
    exact .head (hnext.reverse hy hx) (ih hy)

theorem Loop.reverse {p p' : P} (h : w.Loop p) (hp : w.far p = some p') : w.Loop p' := by
  obtain ⟨r, hnext, hwalk⟩ := TransGen.head'_iff.mp h
  obtain ⟨r', hr⟩ := hnext.exists_far
  exact TransGen.tail' (nexts_reverse hwalk hr hp) (hnext.reverse hp hr)

/-! ## Walks that return to their node -/

theorem nexts_of_chain {a b : P} {l : List P} (h : (a :: l).IsChain w.Next)
    (hb : (a :: l).getLast? = some b) : ReflTransGen w.Next a b := by
  rw [List.getLast?_eq_some_getLast (List.cons_ne_nil a l)] at hb
  exact List.relationReflTransGen_of_exists_isChain_cons l h (Option.some_inj.mp hb)

/-- A walk that ends at the node it started from passes through a loop. The wire that it starts
    with and the one that it ends with are taken off as long as they are the same. -/
theorem exists_loop_of_chain (walk : List P) (hchain : walk.IsChain w.Next) :
    ∀ p x q, walk.head? = some p → walk.getLast? = some x → w.far p = some q →
      w.node q = w.node x → ∃ c ∈ walk, w.Loop c := by
  induction walk using List.bidirectionalRec with
  | nil => exact fun p x q hp => nomatch hp
  | singleton a =>
    intro p x q hp hx hfar hnode
    cases hp
    cases hx
    have hne : q ≠ a := fun h => w.far_ne a (h ▸ hfar)
    exact ⟨a, List.mem_singleton.mpr rfl, .single ⟨q, hnode, hne, w.far_symm hfar⟩⟩
  | cons_append a l b ih =>
    intro p x q hp hx hfar hnode
    cases hp
    rw [← List.cons_append, List.getLast?_concat] at hx
    cases hx
    by_cases hq : q = b
    · subst hq
      cases l with
      | nil =>
        obtain ⟨q', -, hne, hfar'⟩ := (List.isChain_cons_cons.mp hchain).1
        exact absurd (far_inj hfar' hfar) hne
      | cons c l =>
        obtain ⟨hfirst, hmiddle⟩ := List.isChain_cons.mp hchain
        obtain ⟨q', hleave, -, hc⟩ := hfirst c rfl
        obtain ⟨hl, -, hlast⟩ := List.isChain_append.mp hmiddle
        have hy := List.getLast?_eq_some_getLast (List.cons_ne_nil c l)
        obtain ⟨q'', hback, -, hfar''⟩ := hlast _ hy q rfl
        rw [far_inj hfar'' hfar] at hback
        obtain ⟨d, hd, hloop⟩ := ih hl c _ q' rfl hy (w.far_symm hc) (hleave.trans hback)
        exact ⟨d, List.mem_cons_of_mem a (List.mem_append_left _ hd), hloop⟩
    · obtain ⟨c, rest, hrest⟩ := List.exists_cons_of_ne_nil (List.concat_ne_nil b l)
      have hlast : (c :: rest).getLast? = some b := by rw [← hrest, List.getLast?_concat]
      rw [hrest, List.isChain_cons_cons] at hchain
      have hwalk : TransGen w.Next a b :=
        TransGen.head' hchain.1 (nexts_of_chain hchain.2 hlast)
      have hnext : w.Next b a := ⟨q, hnode, hq, w.far_symm hfar⟩
      exact ⟨a, List.mem_cons_self, hwalk.tail hnext⟩

theorem nexts_of_mem_chain {a c : P} {l : List P} (h : (a :: l).IsChain w.Next)
    (hc : c ∈ a :: l) : ReflTransGen w.Next a c := by
  induction l generalizing a with
  | nil => rw [List.mem_singleton.mp hc]
  | cons b l ih =>
    obtain ⟨hab, hl⟩ := List.isChain_cons_cons.mp h
    rcases List.mem_cons.mp hc with rfl | hc
    · exact .refl
    · exact .head hab (ih hl hc)

theorem node_ne_of_nexts {v : V} (hfree : w.LoopFree v) {r x q : P} (hv : w.Joined v (w.node r))
    (hwalk : ReflTransGen w.Next r x) (hr : w.far r = some q) : w.node q ≠ w.node x := by
  intro hnode
  obtain ⟨l, hchain, hlast⟩ := List.exists_isChain_cons_of_relationReflTransGen hwalk
  have hx : (r :: l).getLast? = some x := by
    rw [List.getLast?_eq_some_getLast (List.cons_ne_nil r l), hlast]
  obtain ⟨c, hc, hloop⟩ := exists_loop_of_chain (r :: l) hchain r x q rfl hx hr hnode
  exact hfree c (hv.trans (joined_of_nexts (nexts_of_mem_chain hchain hc))) hloop

/-- What has left a node does not come back to it. -/
theorem no_return {p r x : P} (hfree : w.LoopFree (w.node p)) (hr : w.Next p r)
    (hx : ReflTransGen w.Next r x) : w.node x ≠ w.node p := by
  have hv : w.Joined (w.node p) (w.node r) := .single hr.adj
  obtain ⟨q, hq, -, hfar⟩ := hr
  rw [← hq]
  exact (node_ne_of_nexts hfree hv hx (w.far_symm hfar)).symm

/-- What has left a node through two ends does not meet again. -/
theorem apart {p r r' x x' : P} (hfree : w.LoopFree (w.node p)) (hr : w.Next p r)
    (hr' : w.Next p r') (hne : r ≠ r') (hx : ReflTransGen w.Next r x)
    (hx' : ReflTransGen w.Next r' x') : w.node x ≠ w.node x' := by
  obtain ⟨q, hq, -, hfar⟩ := hr
  have hjoined : w.Joined (w.node p) (w.node x') := joined_of_nexts (.head hr' hx')
  obtain ⟨q', hq', -, hfar'⟩ := hr'
  obtain ⟨y', hy'⟩ := exists_far_of_nexts hx' (w.far_symm hfar')
  -- Back from `x'` to the node of `p`, and on to `x`.
  have hback : ReflTransGen w.Next y' q' := nexts_reverse hx' (w.far_symm hfar') hy'
  have hon : w.Next q' r := by
    refine ⟨q, hq.trans hq'.symm, fun h => hne ?_, hfar⟩
    rw [h, hfar'] at hfar
    exact (Option.some_inj.mp hfar).symm
  have hv : w.Joined (w.node p) (w.node y') := hjoined.tail ⟨x', y', rfl, hy', rfl⟩
  exact (node_ne_of_nexts hfree hv (hback.trans (.head hon hx)) (w.far_symm hy')).symm

/-! ## From an end with a single wire -/

section Leaf

variable {p₀ p : P} (hp : w.far p₀ = some p) (honly : ∀ q, w.node q = w.node p₀ → q = p₀)

include hp honly

/-- What leaves a node with one wire arrives at every node that is joined to it. -/
theorem exists_arrival {v : V} (h : w.Joined (w.node p) v) :
    v = w.node p₀ ∨ ∃ x, ReflTransGen w.Next p x ∧ w.node x = v := by
  induction h with
  | refl => exact Or.inr ⟨p, .refl, rfl⟩
  | tail _ hadj ih =>
    obtain ⟨q, r, hq, hfar, rfl⟩ := hadj
    rcases ih with hleaf | hreached
    · obtain rfl := honly q (hq.trans hleaf)
      rw [hp] at hfar
      obtain rfl := Option.some_inj.mp hfar
      exact Or.inr ⟨p, .refl, rfl⟩
    · obtain ⟨x, hx, rfl⟩ := hreached
      by_cases hne : q = x
      · subst hne
        -- The wire leads back to where the walk came from.
        cases hx with
        | refl =>
          rw [w.far_symm hp] at hfar
          exact Or.inl (congrArg w.node (Option.some_inj.mp hfar).symm)
        | tail hwalk hnext =>
          obtain ⟨q', hq', -, hfar'⟩ := hnext
          rw [w.far_symm hfar'] at hfar
          obtain rfl := Option.some_inj.mp hfar
          exact Or.inr ⟨_, hwalk, hq'.symm⟩
      · exact Or.inr ⟨r, hx.tail ⟨q, hq, hne, hfar⟩, rfl⟩

/-- A loop is reached from every node with one wire that is joined to it. -/
theorem loop_reached (hloop : ¬ w.LoopFree (w.node p)) :
    ∃ d, ReflTransGen w.Next p d ∧ w.Loop d := by
  unfold LoopFree at hloop
  push Not at hloop
  obtain ⟨c, hjoined, hloop⟩ := hloop
  obtain ⟨d, hnext, hwalk⟩ := TransGen.head'_iff.mp hloop
  obtain ⟨q, hq, hne, hfar⟩ := hnext
  rcases exists_arrival hp honly hjoined with hleaf | hreached
  · have hc := honly c hleaf
    exact absurd ((honly q (hq.trans hleaf)).trans hc.symm) hne
  · obtain ⟨x, hx, hnode⟩ := hreached
    by_cases hqx : q = x
    · -- The walk meets the loop head-on, and follows it the other way round.
      subst hqx
      obtain ⟨b, -, hlast⟩ := TransGen.tail'_iff.mp hloop
      obtain ⟨c', hc'⟩ := hlast.exists_far
      exact ⟨c', hx.tail ⟨c, hq.symm, hne.symm, hc'⟩, hloop.reverse hc'⟩
    · have hon : w.Next x d := ⟨q, hq.trans hnode.symm, hqx, hfar⟩
      exact ⟨d, hx.tail hon, TransGen.tail' hwalk ⟨q, hq, hne, hfar⟩⟩

end Leaf

end Wiring

end JSdnTrace.Lib
