/-
  How a ping spreads through the simulated network: a call of `packetIn` is a flood over its wires.

  * `carries_packetInAt`: with enough room on the stack, the calls are those of the flood.
  * `ends_packetInAt`: a call that returns has had that room, and any other overflows the stack.
-/
import JSdnTrace.Lib.Flood
import JSdnTrace.Tests.Wires

namespace JSdnTrace.Tests

open Java Lib

/-- A call has overflowed the stack, or it has returned and there was room for it. -/
def Ends (room : Prop) (r : Except Throwable Unit) : Prop :=
  r = .error (.error "StackOverflowError") ∨ r = .ok () ∧ room

theorem Ends.mono {room room' : Prop} {r : Except Throwable Unit} (h : Ends room r)
    (himp : room → room') : Ends room' r := h.imp id (And.imp id himp)

theorem Ends.bind {σ : Type} {room room' : Prop} {x : Exec σ Unit} {f : Unit → Exec σ Unit} {s : σ}
    (hx : Ends room (run x s).1) (hf : ∀ s', Ends room' (run (f ()) s').1) :
    Ends (room ∧ room') (run (x >>= f) s).1 := by
  rw [run_bind]
  rcases hrun : run x s with ⟨r, s'⟩
  rw [hrun] at hx
  rcases hx with rfl | ⟨rfl, hroom⟩
  · exact Or.inl rfl
  · exact (hf s').mono fun hroom' => ⟨hroom, hroom'⟩

section Network

variable {S H : Type} [DecidableEq S] [DecidableEq H] {net : DummyNetwork S H}

/-! ## The calls of a flood -/

/-- What the hosts among the ends log, if each logs `react`. -/
def heard (react : H → List (Entry H)) (ends : List (End S H)) : List (Entry H) :=
  ends.flatMap (Sum.elim (fun _ => []) react)

/-- The calls that start at a node. -/
def callsFrom (net : DummyNetwork S H) (n : Nat) (node : INetNode S H) : List (End S H) :=
  (endOf net node).toList.flatMap (calls (out net) n)

/-- There is room for the calls from an end on, and the hosts among them are `good`. -/
structure Room (net : DummyNetwork S H) (good : H → Prop) (n : Nat) (e : End S H) : Prop where
  within : Within (out net) n e
  good : ∀ h, .inr h ∈ calls (out net) n e → good h

section Flood

variable {good : H → Prop} {p : IPacket} {react : H → List (Entry H)} {n : Nat}
  {packetIn : PacketIn S H}

theorem Room.out {e : End S H} (h : Room net good (n + 1) e) :
    ∀ r ∈ out net e, Room net good n r := by
  intro r hr
  refine ⟨h.within r hr, fun h' hmem => h.good h' ?_⟩
  exact List.mem_cons_of_mem e (List.mem_flatMap.mpr ⟨r, hr, hmem⟩)

variable (net good p react n packetIn) in
/-- What is called for the packet logs what is heard. -/
def Carries : Prop :=
  ∀ node dpid log, (∀ e ∈ endOf net node, Room net good n e) →
    run (packetIn node p dpid) log = (.ok (), log ++ heard react (callsFrom net n node))

theorem run_packetOut (hcarries : Carries net good p react n packetIn) {sw : S}
    {port : Port S H} (hmem : port ∈ (net.switches sw).ports)
    (hroom : ∀ e ∈ far net (.inl (sw, port.number)), Room net good n e)
    (log : List (Entry H)) :
    run (packetOut net packetIn sw port p) log =
      (.ok (), log ++ heard react
        ((far net (.inl (sw, port.number))).toList.flatMap (calls (out net) n))) := by
  rw [far_of_mem hmem] at hroom ⊢
  unfold packetOut
  cases hplugged : port.plugged with
  | none => simp [heard]
  | some w =>
    rw [hplugged] at hroom
    by_cases henabled : port.isEnabled
    · simp only [if_pos henabled, Option.bind_some] at hroom ⊢
      exact hcarries _ _ log hroom
    · simp [henabled, heard]

theorem run_floodPorts (hcarries : Carries net good p react n packetIn) {sw : S}
    {number : Int} (ports : List (Port S H)) (hmem : ports ⊆ (net.switches sw).ports)
    (hroom : ∀ e ∈ out net (.inl (sw, number)), Room net good n e) (log : List (Entry H)) :
    run (floodPorts net packetIn sw p number ports) log =
      (.ok (), log ++ heard react ((outOver net sw number ports).flatMap (calls (out net) n))) := by
  induction ports generalizing log with
  | nil => simp [floodPorts, outOver, heard]
  | cons port rest ih =>
    obtain ⟨hport, hrest⟩ := List.cons_subset.mp hmem
    unfold floodPorts
    by_cases hskip : port.number = number ∨ port.number = (net.switches sw).controllerPort
    · rw [if_pos hskip, ih hrest log]
      simp only [outOver, List.map_cons, List.filterMap_cons, if_pos hskip]
    · have hfar : ∀ e ∈ far net (.inl (sw, port.number)), Room net good n e := by
        refine fun e he => hroom e (List.mem_filterMap.mpr ⟨port.number, ?_, ?_⟩)
        · exact List.mem_map_of_mem hport
        · rw [if_neg hskip]
          exact he
      simp only [if_neg hskip, run_bind, run_packetOut hcarries hport hfar, andThen_ok, ih hrest,
        outOver, List.map_cons, List.filterMap_cons]
      cases far net (.inl (sw, port.number)) with
      | none => simp [heard]
      | some e => simp [heard]

theorem run_switchPacketIn (hw : WellWired net) (hq : NoPingFlows net) (hp : p.IsPing)
    (hcarries : Carries net good p react n packetIn) {sw : S} {number : Int}
    (hroom : ∀ e ∈ out net (.inl (sw, number)), Room net good n e) (log : List (Entry H)) :
    run (switchPacketIn net packetIn sw p number) log =
      (.ok (), log ++ heard react ((out net (.inl (sw, number))).flatMap (calls (out net) n))) := by
  obtain ⟨conn, hget, -⟩ := hw.controller sw
  obtain ⟨hfind, hnumber⟩ := getPort_eq_some (net.switches sw) hget
  have hconn := (find_eq_some (net.switches sw) hfind).1
  have hfar := far_controllerPort hw sw
  rw [← hnumber] at hfar
  have hcall := run_packetOut hcarries hconn (by rw [hfar]; exact fun e he => nomatch he) log
  rw [hfar] at hcall
  unfold switchPacketIn
  simp only [find?_flowTable hq hp, hget, run_bind, run_lift, andThen_ok, deref_some, hcall]
  rw [run_floodPorts hcarries _ (List.Subset.refl _) hroom]
  simp [heard, out]

/-- A host that is called with a packet logs `react`, whatever there is room for from `k` on. -/
def Reacts (net : DummyNetwork S H) (good : H → Prop) (p : IPacket) (react : H → List (Entry H))
    (k : Nat) : Prop :=
  ∀ h, good h → ∀ m, k ≤ m → ∀ log,
    run (hostPacketIn net (packetInAt net m) h p) log = (.ok (), log ++ react h)

theorem packetInAt_port_none {sw : S} {number : Int} (h : endOf net (.port sw number) = none)
    (depth : Nat) (p : IPacket) (dpid : JLong) :
    packetInAt net (depth + 1) (.port sw number) p dpid = pure () := by
  simp only [endOf, ite_eq_right_iff, reduceCtorEq, imp_false] at h
  unfold packetInAt
  split
  · rfl
  · rename_i port hsome
    rw [hsome, Option.any_some] at h
    rw [if_neg h]

/-- A packet that a port takes in is handed on. -/
theorem packetInAt_port_some {sw : S} {number : Int} {e : End S H}
    (h : endOf net (.port sw number) = some e) (depth : Nat) (p : IPacket) (dpid : JLong) :
    packetInAt net (depth + 1) (.port sw number) p dpid =
      switchPacketIn net (packetInAt net depth) sw p number := by
  simp only [endOf, Option.ite_none_right_eq_some] at h
  simp only [packetInAt]
  split
  · rename_i hnone
    rw [hnone] at h
    cases h.1
  · rename_i port hsome
    rw [hsome, Option.any_some] at h
    rw [if_pos h.1]

theorem run_packetInAt_none (hp : p.IsPing) (depth : Nat) {node : INetNode S H}
    (h : endOf net node = none) (dpid : JLong) (log : List (Entry H)) :
    run (packetInAt net (depth + 1) node p dpid) log = (.ok (), log) := by
  cases node with
  | host h' => cases h
  | port sw number => rw [packetInAt_port_none h, run_pure]
  | net =>
    cases p with
    | ping source dest => rfl
    | pingReply source dst => rfl
    | trace tp => exact hp.elim

/-- With enough room on the stack, the calls are those of the flood. -/
theorem carries_packetInAt (hw : WellWired net) (hq : NoPingFlows net) (hp : p.IsPing) {k : Nat}
    (hk : 0 < k) (hreact : Reacts net good p react k) (n : Nat) :
    Carries net good p react n (packetInAt net (n + k)) := by
  induction n with
  | zero =>
    intro node dpid log hroom
    have hend : endOf net node = none := by
      refine Option.eq_none_iff_forall_not_mem.mpr fun e he => ?_
      exact (hroom e he).within
    obtain ⟨k, rfl⟩ := Nat.exists_eq_succ_of_ne_zero hk.ne'
    rw [Nat.zero_add, run_packetInAt_none hp k hend]
    simp [callsFrom, hend, heard]
  | succ n ih =>
    intro node dpid log hroom
    rw [Nat.add_right_comm]
    cases hend : endOf net node with
    | none =>
      rw [run_packetInAt_none hp (n + k) hend]
      simp [callsFrom, hend, heard]
    | some e =>
      have he := hroom e hend
      rw [callsFrom, hend, Option.toList_some, List.flatMap_singleton]
      cases node with
      | net => cases hend
      | host h =>
        cases hend
        have hgood : good h := he.good h List.mem_cons_self
        have hcall := hreact h hgood (n + k) (Nat.le_add_left k n) log
        simp [packetInAt, hcall, calls, out, heard]
      | port sw number =>
        obtain rfl := eq_of_endOf_port hend
        rw [packetInAt_port_some hend, run_switchPacketIn hw hq hp ih he.out]
        simp [calls, heard]

end Flood

/-! ## Calls that return -/

section Returns

variable {n : Nat} {packetIn : PacketIn S H}
  (hends : ∀ node p dpid log, p.IsPing →
    Ends (∀ e ∈ endOf net node, Within (out net) n e) (run (packetIn node p dpid) log).1)

include hends

theorem ends_packetOut {p : IPacket} (hp : p.IsPing) {sw : S} {port : Port S H}
    (hmem : port ∈ (net.switches sw).ports) (log : List (Entry H)) :
    Ends (∀ e ∈ far net (.inl (sw, port.number)), Within (out net) n e)
      (run (packetOut net packetIn sw port p) log).1 := by
  rw [far_of_mem hmem]
  unfold packetOut
  cases port.plugged with
  | none => exact Or.inr ⟨rfl, by simp⟩
  | some w =>
    by_cases henabled : port.isEnabled
    · simp only [if_pos henabled, Option.bind_some]
      exact hends _ _ _ log hp
    · exact Or.inr ⟨by simp [henabled], by simp [henabled]⟩

theorem ends_floodPorts {p : IPacket} (hp : p.IsPing) {sw : S} {number : Int}
    (ports : List (Port S H)) (hmem : ports ⊆ (net.switches sw).ports) (log : List (Entry H)) :
    Ends (∀ e ∈ outOver net sw number ports, Within (out net) n e)
      (run (floodPorts net packetIn sw p number ports) log).1 := by
  induction ports generalizing log with
  | nil => exact Or.inr ⟨rfl, by simp [outOver]⟩
  | cons port rest ih =>
    obtain ⟨hport, hrest⟩ := List.cons_subset.mp hmem
    unfold floodPorts
    by_cases hskip : port.number = number ∨ port.number = (net.switches sw).controllerPort
    · rw [if_pos hskip]
      refine (ih hrest log).mono fun hroom e he => hroom e ?_
      simpa only [outOver, List.map_cons, List.filterMap_cons, if_pos hskip] using he
    · rw [if_neg hskip]
      refine ((ends_packetOut hends hp hport log).bind (ih hrest)).mono fun hroom e he => ?_
      obtain ⟨j, hj, he⟩ := List.mem_filterMap.mp he
      rcases List.mem_cons.mp hj with rfl | hj
      · rw [if_neg hskip] at he
        exact hroom.1 e he
      · exact hroom.2 e (List.mem_filterMap.mpr ⟨j, hj, he⟩)

theorem ends_switchPacketIn (hw : WellWired net) (hq : NoPingFlows net) {p : IPacket}
    (hp : p.IsPing) (sw : S) (number : Int) (log : List (Entry H)) :
    Ends (∀ e ∈ out net (.inl (sw, number)), Within (out net) n e)
      (run (switchPacketIn net packetIn sw p number) log).1 := by
  obtain ⟨conn, hget, -⟩ := hw.controller sw
  have hconn := (find_eq_some (net.switches sw) (getPort_eq_some (net.switches sw) hget).1).1
  have hcall := ends_packetOut hends hp hconn log
  unfold switchPacketIn
  simp only [find?_flowTable hq hp, hget]
  exact (hcall.bind (ends_floodPorts hends hp _ (List.Subset.refl _))).mono And.right

theorem ends_hostPacketIn (h : H) {p : IPacket} (hp : p.IsPing) (log : List (Entry H)) :
    Ends True (run (hostPacketIn net packetIn h p) log).1 := by
  cases p with
  | trace tp => exact hp.elim
  | pingReply source dst => exact Or.inr ⟨rfl, trivial⟩
  | ping source dest =>
    simp only [hostPacketIn]
    split
    · unfold sendPingReply
      cases (net.hosts h).plugged with
      | none => exact Or.inr ⟨rfl, trivial⟩
      | some w =>
        have hreply : (IPacket.pingReply ((net.hosts h).ip.setWidth 32)
            ((source.signExtend 64).setWidth 32)).IsPing := trivial
        exact (hends _ _ _ log hreply).mono fun _ => trivial
    · exact Or.inr ⟨rfl, trivial⟩

end Returns

/-- A call that returns has had room for the flood, and any other overflows. -/
theorem ends_packetInAt (hw : WellWired net) (hq : NoPingFlows net) (n : Nat)
    (node : INetNode S H) (p : IPacket) (dpid : JLong) (log : List (Entry H)) (hp : p.IsPing) :
    Ends (∀ e ∈ endOf net node, Within (out net) n e)
      (run (packetInAt net n node p dpid) log).1 := by
  induction n generalizing node p dpid log with
  | zero => exact Or.inl rfl
  | succ n ih =>
    cases hend : endOf net node with
    | none =>
      rw [run_packetInAt_none hp n hend]
      exact Or.inr ⟨rfl, fun e he => nomatch he⟩
    | some e =>
      cases node with
      | net => cases hend
      | host h =>
        cases hend
        refine (ends_hostPacketIn ih h hp log).mono fun _ e he => ?_
        cases he
        exact fun r hr => absurd hr List.not_mem_nil
      | port sw number =>
        obtain rfl := eq_of_endOf_port hend
        rw [packetInAt_port_some hend]
        refine (ends_switchPacketIn ih hw hq hp sw number log).mono fun hroom e he => ?_
        cases he
        exact hroom

end Network

end JSdnTrace.Tests
