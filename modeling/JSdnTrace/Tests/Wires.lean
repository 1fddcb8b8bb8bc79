/-
  The wires of the simulated network. Their ends are the ports of the switches and the hosts, and
  a port that is disabled is no end.

  * `mem_out`, `nodup_out`: a switch hands a ping on to the other ends of its wires, each once.
  * `find?_flowTable`: a ping is not taken by a flow for other packets.
-/
import JSdnTrace.Lib.Wiring
import JSdnTrace.Tests.DummyNetwork

namespace JSdnTrace.Tests

open Java Lib

/-- A port of a switch, by its number, or a host. -/
abbrev End (S H : Type) := (S × Int) ⊕ H

/-- A ping or its reply. -/
def IPacket.IsPing : IPacket → Prop
  | .ping _ _ => True
  | .pingReply _ _ => True
  | .trace _ => False

/-- A flow for packets of another type. -/
def Flow.NotForPings (f : Flow) : Prop := ∃ m ∈ f.matchCriterea, m.ethType ≠ 0

theorem Flow.not_isMatch_ping {f : Flow} (h : f.NotForPings) {p : IPacket} (hp : p.IsPing)
    (inPort : Int) : f.isMatch p inPort = false := by
  obtain ⟨m, hm, htype⟩ := h
  refine List.all_eq_false.mpr ⟨m, hm, ?_⟩
  unfold Match.isMatch
  cases p with
  | ping source dest => simp [htype]
  | pingReply source dst => simp [htype]
  | trace tp => exact hp.elim

section Network

variable {S H : Type} (net : DummyNetwork S H)

/-- The end that a packet arrives at, unless the port is disabled. -/
def endOf : INetNode S H → Option (End S H)
  | .port sw number =>
    if ((net.switches sw).find number).any (·.isEnabled) then some (.inl (sw, number)) else none
  | .host h => some (.inr h)
  | .net => none

variable {net} in
theorem eq_of_endOf_port {sw : S} {number : Int} {e : End S H}
    (h : endOf net (.port sw number) = some e) : e = .inl (sw, number) := by
  simp only [endOf] at h
  split at h
  · exact (Option.some_inj.mp h).symm
  · cases h

/-- No switch has a flow for pings. -/
def NoPingFlows : Prop := ∀ sw, ∀ f ∈ (net.switches sw).flowTable, f.NotForPings

variable {net} in
theorem find?_flowTable (hq : NoPingFlows net) {p : IPacket} (hp : p.IsPing) (sw : S)
    (number : Int) : ((net.switches sw).flowTable.find? fun f => f.isMatch p number) = none := by
  refine List.find?_eq_none.mpr fun f hf => ?_
  rw [Flow.not_isMatch_ping (hq sw f hf) hp]
  exact Bool.false_ne_true

variable [DecidableEq S] [DecidableEq H]

/-- The other end of the wire. -/
def far : End S H → Option (End S H)
  | .inl (sw, number) =>
    ((net.switches sw).find number).bind fun out =>
      if out.isEnabled then out.plugged.bind fun w => endOf net (w.fromPort sw number) else none
  | .inr h => (net.hosts h).plugged.bind fun w => endOf net (w.fromHost h)

/-- The ends that a switch hands a packet on to over some of its ports, if it came in at
    `number`. -/
def outOver (sw : S) (number : Int) (ports : List (Port S H)) : List (End S H) :=
  (ports.map (·.number)).filterMap fun j =>
    if j = number ∨ j = (net.switches sw).controllerPort then none else far net (.inl (sw, j))

/-- The ends that a packet is handed on to. A host keeps what it is given. -/
def out : End S H → List (End S H)
  | .inl (sw, number) => outOver net sw number (net.switches sw).ports
  | .inr _ => []

/-- Every wire is plugged in at both of its ends, and the controller port of a switch leads to the
    controller. -/
structure WellWired : Prop where
  far_symm : ∀ {p q}, far net p = some q → far net q = some p
  far_ne : ∀ p, far net p ≠ some p
  controller : ∀ sw, ∃ conn,
    (net.switches sw).getPort (net.switches sw).controllerPort = .ok (some conn) ∧
      ∀ w, conn.plugged = some w → w.fromPort sw conn.number = .net

variable {net}

/-- The wires between the switches and the hosts. -/
def wiring (hw : WellWired net) : Wiring (S ⊕ H) (End S H) where
  node := Sum.map Prod.fst id
  far := far net
  far_symm := hw.far_symm
  far_ne := hw.far_ne

theorem far_of_mem {sw : S} {port : Port S H} (h : port ∈ (net.switches sw).ports) :
    far net (.inl (sw, port.number)) =
      if port.isEnabled then port.plugged.bind fun w => endOf net (w.fromPort sw port.number)
      else none := by
  unfold far
  simp only [find_number (net.switches sw) h, Option.bind_some]

theorem adj_of_far (hw : WellWired net) {p q : End S H} (h : far net p = some q) :
    (wiring hw).Adj (Sum.map Prod.fst id p) (Sum.map Prod.fst id q) := ⟨p, q, rfl, h, rfl⟩

theorem next_of_far (hw : WellWired net) {sw : S} {i j : Int} {r : End S H} (hne : i ≠ j)
    (h : far net (.inl (sw, i)) = some r) : (wiring hw).Next (.inl (sw, j)) r := by
  refine ⟨.inl (sw, i), rfl, fun heq => hne ?_, h⟩
  cases heq
  rfl

theorem far_controllerPort (hw : WellWired net) (sw : S) :
    far net (.inl (sw, (net.switches sw).controllerPort)) = none := by
  obtain ⟨conn, hget, hnet⟩ := hw.controller sw
  obtain ⟨hfind, hnumber⟩ := getPort_eq_some (net.switches sw) hget
  unfold far
  simp only [hfind, Option.bind_some]
  split
  · cases hplugged : conn.plugged with
    | none => rfl
    | some w =>
      rw [Option.bind_some, ← hnumber, hnet w hplugged]
      rfl
  · rfl

theorem mem_out (hw : WellWired net) (p r : End S H) :
    r ∈ out net p ↔ (wiring hw).Next p r := by
  cases p with
  | inr h =>
    refine ⟨fun hr => absurd hr List.not_mem_nil, fun hnext => ?_⟩
    obtain ⟨q, hnode, hne, -⟩ := hnext
    cases q with
    | inl q => cases hnode
    | inr h' =>
      cases hnode
      exact absurd rfl hne
  | inl p =>
    obtain ⟨sw, number⟩ := p
    unfold out outOver
    rw [List.mem_filterMap]
    refine ⟨fun hr => ?_, fun hnext => ?_⟩
    · obtain ⟨j, -, hj⟩ := hr
      split at hj
      · cases hj
      · rename_i hother
        rw [not_or] at hother
        refine ⟨.inl (sw, j), rfl, fun heq => ?_, hj⟩
        cases heq
        exact hother.1 rfl
    · obtain ⟨q, hnode, hne, hfar⟩ := hnext
      cases q with
      | inr h' => cases hnode
      | inl q =>
        obtain ⟨sw', j⟩ := q
        cases hnode
        refine ⟨j, ?_, ?_⟩
        · obtain ⟨port, hfind, -⟩ := Option.bind_eq_some_iff.mp hfar
          obtain ⟨hmem, hnumber⟩ := find_eq_some (net.switches sw) hfind
          exact List.mem_map.mpr ⟨port, hmem, hnumber⟩
        · have hcontroller : j ≠ (net.switches sw).controllerPort := by
            intro heq
            rw [heq] at hfar
            exact nomatch (far_controllerPort hw sw).symm.trans hfar
          have hnumber : j ≠ number := fun heq => hne (by rw [heq])
          rw [if_neg (not_or.mpr ⟨hnumber, hcontroller⟩)]
          exact hfar

theorem nodup_out (hw : WellWired net) (p : End S H) : (out net p).Nodup := by
  cases p with
  | inr h => exact List.nodup_nil
  | inl p =>
    obtain ⟨sw, number⟩ := p
    refine (nodup_numbers (net.switches sw)).filterMap fun i j r hi hj => ?_
    split at hi
    · cases hi
    · split at hj
      · cases hj
      · have hback := hw.far_symm (Option.mem_def.mp hi)
        rw [hw.far_symm (Option.mem_def.mp hj)] at hback
        cases hback
        rfl

end Network

end JSdnTrace.Tests
