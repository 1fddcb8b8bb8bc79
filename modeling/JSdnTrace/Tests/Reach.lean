/-
  The hosts that a flood reaches.

  * `nodup_hosts`, `mem_hosts`: without loops, each host that is joined to the one where the flood
    starts is called once.
  * `messagesOf_heard`: what a host adds to its messages.
-/
import JSdnTrace.Tests.Flooding
import Mathlib.Data.Sum.Basic

namespace JSdnTrace.Tests

open Java Lib Relation

section Network

variable {S H : Type}

/-! ## The hosts that are called -/

def hostsOf (ends : List (End S H)) : List H := ends.filterMap Sum.getRight?

theorem mem_hostsOf {ends : List (End S H)} {h : H} : h ∈ hostsOf ends ↔ .inr h ∈ ends := by
  unfold hostsOf
  rw [List.mem_filterMap]
  refine ⟨fun hex => ?_, fun hmem => ⟨_, hmem, rfl⟩⟩
  obtain ⟨e, hmem, he⟩ := hex
  rwa [Sum.getRight?_eq_some_iff.mp he] at hmem

theorem exists_react_of_mem {react : H → List (Entry H)} {ends : List (End S H)} {entry : Entry H}
    (h : entry ∈ heard react ends) : ∃ h', entry ∈ react h' := by
  obtain ⟨e, -, he⟩ := List.mem_flatMap.mp h
  cases e with
  | inl p => exact absurd he List.not_mem_nil
  | inr h' => exact ⟨h', he⟩

variable [DecidableEq H]

theorem messagesOf_cons (h h' : H) (m : Message) (log : List (Entry H)) :
    messagesOf h (.message h' m :: log) = (if h' = h then [m] else []) ++ messagesOf h log := by
  unfold messagesOf
  by_cases hh : h' = h <;> simp [hh]

theorem messagesOf_heard (h : H) (react : H → List (Entry H)) (ends : List (End S H)) :
    messagesOf h (heard react ends) =
      (hostsOf ends).flatMap fun h' => messagesOf h (react h') := by
  induction ends with
  | nil => rfl
  | cons e ends ih =>
    have hcons : messagesOf h (heard react (e :: ends)) =
        messagesOf h (Sum.elim (fun _ => []) react e) ++ messagesOf h (heard react ends) :=
      List.filterMap_append
    rw [hcons, ih]
    cases e <;> rfl

variable [DecidableEq S] {net : DummyNetwork S H}

/-- The calls that start where a wire leads from an end. -/
def callsOut (net : DummyNetwork S H) (n : Nat) (e : End S H) : List (End S H) :=
  (far net e).toList.flatMap (calls (out net) n)

theorem callsOut_mono {m n : Nat} (h : m ≤ n) {e : End S H}
    (hroom : ∀ r ∈ far net e, Within (out net) m r) : callsOut net n e = callsOut net m e :=
  List.flatMap_congr fun r hr => calls_mono h (hroom r (Option.mem_toList.mp hr))

theorem far_of_plugged {h : H} {w : Wire S H} (hplugged : (net.hosts h).plugged = some w) :
    far net (.inr h) = endOf net (w.fromHost h) := by
  simp only [far, hplugged, Option.bind_some]

theorem callsFrom_fromHost {h : H} {w : Wire S H} (hplugged : (net.hosts h).plugged = some w)
    (n : Nat) : callsFrom net n (w.fromHost h) = callsOut net n (.inr h) := by
  unfold callsFrom callsOut
  rw [far_of_plugged hplugged]

variable (hw : WellWired net)

theorem joined_far {h : H} {p : End S H} (hp : far net (.inr h) = some p) :
    (wiring hw).Joined (.inr h) ((wiring hw).node p) :=
  .single ⟨.inr h, p, rfl, hp, rfl⟩

theorem eq_inr_of_node {h : H} {q : End S H}
    (hq : (wiring hw).node q = (wiring hw).node (.inr h)) : q = .inr h := by
  cases q with
  | inl q => cases hq
  | inr h' =>
    cases hq
    rfl

theorem eq_of_joined {h : H} (hfar : far net (.inr h) = none) {v : S ⊕ H}
    (hjoined : (wiring hw).Joined (.inr h) v) : v = .inr h := by
  rcases ReflTransGen.cases_head hjoined with heq | hstep
  · exact heq.symm
  · obtain ⟨u, hadj, -⟩ := hstep
    obtain ⟨q, r, hq, hr, -⟩ := hadj
    obtain rfl := eq_inr_of_node hw hq
    exact nomatch hfar.symm.trans hr

theorem loopFree_iff_far (h : H) :
    (wiring hw).LoopFree (.inr h) ↔
      ∀ p ∈ far net (.inr h), (wiring hw).LoopFree ((wiring hw).node p) := by
  refine ⟨fun hfree p hp => hfree.of_joined (joined_far hw hp), fun hall => ?_⟩
  cases hfar : far net (.inr h) with
  | some p => exact (hall p hfar).of_joined (joined_far hw hfar).symm
  | none =>
    intro p hjoined hloop
    obtain rfl := eq_inr_of_node hw (eq_of_joined hw hfar hjoined)
    obtain ⟨r, hnext, -⟩ := TransGen.head'_iff.mp hloop
    exact absurd ((mem_out hw _ r).mpr hnext) List.not_mem_nil

variable {h : H} (hfree : (wiring hw).LoopFree (.inr h))

include hfree

theorem nodup_hosts (n : Nat) : (hostsOf (callsOut net n (.inr h))).Nodup := by
  unfold callsOut
  cases hfar : far net (.inr h) with
  | none => exact List.nodup_nil
  | some p =>
    have hnodup := nodup_calls (mem_out hw) (nodup_out hw) n (p := p)
      (hfree.of_joined (joined_far hw hfar))
    rw [Option.toList_some, List.flatMap_singleton]
    have hnode : hostsOf (calls (out net) n p) =
        ((calls (out net) n p).map (wiring hw).node).filterMap Sum.getRight? := by
      unfold hostsOf
      rw [List.filterMap_map]
      refine List.filterMap_congr fun e _ => ?_
      cases e <;> rfl
    rw [hnode]
    refine hnodup.filterMap fun u v h' hu hv => ?_
    rw [Sum.getRight?_eq_some_iff.mp hu, Sum.getRight?_eq_some_iff.mp hv]

/-- The hosts that are called are the others that are joined to the first one. -/
theorem mem_hosts {n : Nat} (hroom : ∀ r ∈ far net (.inr h), Within (out net) n r) {h' : H} :
    h' ∈ hostsOf (callsOut net n (.inr h)) ↔
      h' ≠ h ∧ (wiring hw).Joined (.inr h) (.inr h') := by
  rw [mem_hostsOf]
  unfold callsOut
  cases hfar : far net (.inr h) with
  | none =>
    refine ⟨fun hmem => absurd hmem List.not_mem_nil, fun hex => ?_⟩
    exact absurd (Sum.inr_injective (eq_of_joined hw hfar hex.2)) hex.1
  | some p =>
    have hjoined := joined_far hw hfar
    rw [Option.toList_some, List.flatMap_singleton, mem_calls (hroom p hfar),
      out_eq_next (mem_out hw)]
    refine ⟨fun hwalk => ⟨fun heq => ?_, ?_⟩, fun hex => ?_⟩
    · subst heq
      exact Wiring.node_ne_of_nexts hfree hjoined hwalk (hw.far_symm hfar) rfl
    · exact hjoined.trans (Wiring.joined_of_nexts hwalk)
    · have hother : (wiring hw).Joined ((wiring hw).node p) (.inr h') := hjoined.symm.trans hex.2
      have hp : (wiring hw).far (.inr h) = some p := hfar
      rcases Wiring.exists_arrival hp (fun q => eq_inr_of_node hw) hother with hsame | hreached
      · exact absurd (Sum.inr_injective hsame) hex.1
      · obtain ⟨x, hwalk, hx⟩ := hreached
        obtain rfl : x = .inr h' := eq_inr_of_node hw hx
        exact hwalk

end Network

end JSdnTrace.Tests
