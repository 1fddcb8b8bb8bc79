/-
  The flow table of a simulated switch.

  * `switchPacketIn_addFlows`: the flow that a packet takes, after any sequence of `AddFlow`.
-/
import JSdnTrace.Lib.StableTable
import JSdnTrace.Tests.Topologies

namespace JSdnTrace.Tests

open Java Lib

theorem Flow.compareTo_le (f g : Flow) : f.compareTo g ≤ 0 ↔ f.priority ≤ g.priority := by
  unfold Flow.compareTo
  split_ifs <;> omega

variable {S H : Type}

/-- A call of `AddFlow`. -/
structure AddFlow where
  m : Match
  outPort : Int
  priority : Int

/-- The flow that `AddFlow` makes. -/
def AddFlow.flow (add : AddFlow) : Flow := ⟨add.outPort, add.priority, [add.m]⟩

/-- The switch after a sequence of `AddFlow`. -/
def addFlows (sw : DummySwitch S H) (adds : List AddFlow) : DummySwitch S H :=
  adds.foldl (fun sw add => sw.addFlow add.m add.outPort add.priority) sw

theorem stableTable_addFlow {sw : DummySwitch S H} {flows : List Flow}
    (h : StableTable Flow.priority flows sw.flowTable) (add : AddFlow) :
    StableTable Flow.priority (flows ++ [add.flow])
      (sw.addFlow add.m add.outPort add.priority).flowTable := by
  have hinsert := h.insert add.flow
  simp only [← Flow.compareTo_le] at hinsert
  exact hinsert

theorem stableTable_addFlows {sw : DummySwitch S H} {flows : List Flow}
    (h : StableTable Flow.priority flows sw.flowTable) (adds : List AddFlow) :
    StableTable Flow.priority (flows ++ adds.map AddFlow.flow) (addFlows sw adds).flowTable := by
  induction adds generalizing sw flows with
  | nil =>
    rw [List.map_nil, List.append_nil]
    exact h
  | cons add adds ih =>
    rw [List.map_cons, List.append_cons]
    exact ih (stableTable_addFlow h add)

section Taken

variable [DecidableEq S] [DecidableEq H] {net : DummyNetwork S H} (packetIn : PacketIn S H)

/-- Whatever flows a switch has been given, a packet takes the one that matches it with the
    smallest priority, and of these the first that was added. Without a match it is flooded. -/
theorem switchPacketIn_addFlows {sw : S} {s : DummySwitch S H} {adds : List AddFlow}
    (hempty : s.flowTable = []) (hsw : net.switches sw = addFlows s adds) (p : IPacket)
    (inPort : Int) :
    (∃ before add after, adds = before ++ add :: after ∧ add.flow.isMatch p inPort = true ∧
      (∀ b ∈ before, b.flow.isMatch p inPort = true → add.priority < b.priority) ∧
      (∀ b ∈ after, b.flow.isMatch p inPort = true → add.priority ≤ b.priority) ∧
      switchPacketIn net packetIn sw p inPort = do
        let out ← liftM ((net.switches sw).getPort add.outPort)
        let out ← liftM (deref out)
        packetOut net packetIn sw out p) ∨
    ((∀ add ∈ adds, add.flow.isMatch p inPort = false) ∧
      switchPacketIn net packetIn sw p inPort = do
        let conn ← liftM ((net.switches sw).getPort (net.switches sw).controllerPort)
        let conn ← liftM (deref conn)
        packetOut net packetIn sw conn p
        floodPorts net packetIn sw p inPort (net.switches sw).ports) := by
  have htable : StableTable Flow.priority [] s.flowTable := by
    rw [hempty]
    exact .nil
  have hadds := stableTable_addFlows htable adds
  rw [← hsw, List.nil_append] at hadds
  unfold switchPacketIn
  cases hfind : (net.switches sw).flowTable.find? fun f => f.isMatch p inPort with
  | none =>
    refine Or.inr ⟨fun add hadd => ?_, rfl⟩
    have hmem := hadds.mem_iff.mpr (List.mem_map_of_mem hadd)
    exact Bool.eq_false_iff.mpr (List.find?_eq_none.mp hfind _ hmem)
  | some f =>
    obtain ⟨hmatch, before, after, hsplit, hbefore, hafter⟩ := hadds.exists_of_find? hfind
    obtain ⟨before, rest, rfl, rfl, hrest⟩ := List.map_eq_append_iff.mp hsplit
    obtain ⟨add, after, rfl, rfl, rfl⟩ := List.map_eq_cons_iff.mp hrest
    refine Or.inl ⟨before, add, after, rfl, hmatch, fun b hb => ?_, fun b hb => ?_, rfl⟩
    · exact hbefore b.flow (List.mem_map_of_mem hb)
    · exact hafter b.flow (List.mem_map_of_mem hb)

/-- The flow of `addFlowTest`, which is not for pings, one for the pings from port 2, and two for
    all pings. -/
def pingFlows : List AddFlow :=
  [⟨⟨1, -1⟩, 4, 100⟩, ⟨⟨2, 0⟩, 4, 50⟩, ⟨⟨0, 0⟩, 3, 50⟩, ⟨⟨0, 0⟩, 2, 80⟩]

/-- The switch of `looped` with these flows. -/
def flowed : DummyNetwork Unit Unit :=
  { looped with switches := fun _ => addFlows (looped.switches ()) pingFlows }

/-- Three of them match a ping from port 2, and two of the three have the smallest number. -/
theorem switchPacketIn_flowed :
    switchPacketIn flowed (packetInAt flowed 9) () (.ping 2 5) 2 = (do
      let out ← liftM ((flowed.switches ()).getPort 4)
      let out ← liftM (deref out)
      packetOut flowed (packetInAt flowed 9) () out (.ping 2 5)) := by
  have hsw : flowed.switches () = addFlows (looped.switches ()) pingFlows := rfl
  rcases switchPacketIn_addFlows (packetInAt flowed 9) rfl hsw (.ping 2 5) 2 with
    ⟨before, add, after, hadds, hmatch, hbefore, -, htaken⟩ | ⟨hnone, -⟩
  · rcases before with _ | ⟨b, _ | ⟨b', before⟩⟩
    · obtain ⟨rfl, -⟩ := List.cons.inj hadds
      exact absurd hmatch (by decide)
    · obtain ⟨rfl, hrest⟩ := List.cons.inj hadds
      obtain ⟨rfl, -⟩ := List.cons.inj hrest
      exact htaken
    · obtain ⟨rfl, hrest⟩ := List.cons.inj hadds
      obtain ⟨rfl, hlast⟩ := List.cons.inj hrest
      have hadd : add ∈ [(⟨⟨0, 0⟩, 3, 50⟩ : AddFlow), ⟨⟨0, 0⟩, 2, 80⟩] := by
        rw [hlast]
        exact List.mem_append_right before List.mem_cons_self
      have hlt := hbefore ⟨⟨2, 0⟩, 4, 50⟩ (by simp) (by decide)
      have hle : ∀ a ∈ [(⟨⟨0, 0⟩, 3, 50⟩ : AddFlow), ⟨⟨0, 0⟩, 2, 80⟩], 50 ≤ a.priority := by decide
      exact absurd (hle add hadd) (not_le.mpr hlt)
  · have hmatches := hnone ⟨⟨2, 0⟩, 4, 50⟩ (by simp [pingFlows])
    exact absurd hmatches (by decide)

end Taken

end JSdnTrace.Tests
