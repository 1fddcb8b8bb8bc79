/-
  Pings over the simulated network.

  * `ping_answered`: without loops, every host that is joined to the sender and has the address
    answers a ping once, and every host that is joined to it gets the answer.
  * `ping_returns`: without loops, a ping returns; with a loop, it overflows the stack.

  In both the wires are plugged in at both ends, the controller port of each switch leads to the
  controller (`WellWired`), and no switch has a flow for pings (`NoPingFlows`).
-/
import JSdnTrace.Tests.Topologies
import Mathlib.Algebra.BigOperators.Fin
import Mathlib.Data.Fintype.Card
import Mathlib.Data.Set.Card

namespace JSdnTrace.Tests

open Java Lib Relation

theorem flatMap_ite {α β : Type} (c : α → Prop) [DecidablePred c] (l : List α) (m : β) :
    (l.flatMap fun a => if c a then [m] else []) =
      List.replicate (l.filter (c ·)).length m := by
  induction l with
  | nil => rfl
  | cons a l ih =>
    rw [List.flatMap_cons, ih, List.filter_cons]
    by_cases ha : c a
    · simp [ha, List.replicate_succ]
    · simp [ha]

section Network

variable {S H : Type} [DecidableEq S] [DecidableEq H] {net : DummyNetwork S H}

/-! ## The replies -/

/-- What is logged when `h` replies to a ping. -/
def replies (net : DummyNetwork S H) (n : Nat) (h : H) : List (Entry H) :=
  heard (fun h' => [.message h' (.pingReply ((net.hosts h).ip.setWidth 32))])
    (callsOut net n (.inr h))

/-- What is logged when `h` is called with a ping to `dest`. -/
def answers (net : DummyNetwork S H) (n : Nat) (dest : JInt) (h : H) : List (Entry H) :=
  if dest.signExtend 64 = (net.hosts h).ip then replies net n h else []

variable (hw : WellWired net) (hq : NoPingFlows net) {h : H}

theorem within_far {n : Nat}
    (hroom : ∀ p, (wiring hw).LoopFree ((wiring hw).node p) → Within (out net) n p)
    (hfree : (wiring hw).LoopFree (.inr h)) : ∀ r ∈ far net (.inr h), Within (out net) n r :=
  fun r hr => hroom r (hfree.of_joined (joined_far hw hr))

include hw hq

theorem run_sendPingReply {n m : Nat} (hm : n + 1 ≤ m)
    (hroom : ∀ r ∈ far net (.inr h), Within (out net) n r) (srcIp : JLong) (log : List (Entry H)) :
    run (sendPingReply net (packetInAt net m) h srcIp) log = (.ok (), log ++ replies net n h) := by
  obtain ⟨k, rfl⟩ := Nat.exists_eq_add_of_le' hm
  unfold sendPingReply
  cases hplugged : (net.hosts h).plugged with
  | none =>
    have hfar : far net (.inr h) = none := by simp only [far, hplugged, Option.bind_none]
    simp [replies, callsOut, hfar, heard]
  | some w =>
    let p : IPacket := .pingReply ((net.hosts h).ip.setWidth 32) (srcIp.setWidth 32)
    have hreact : Reacts net (fun _ => True) p
        (fun h' => [.message h' (.pingReply ((net.hosts h).ip.setWidth 32))]) 1 :=
      fun h' _ m _ log' => rfl
    have hcarries := carries_packetInAt hw hq (p := p) trivial Nat.one_pos hreact (k + n)
    have hcall := hcarries (w.fromHost h) (-1) log fun e he => by
      rw [← far_of_plugged hplugged] at he
      exact ⟨(hroom e he).mono (Nat.le_add_left n k), fun _ _ => trivial⟩
    rw [callsFrom_fromHost hplugged, callsOut_mono (Nat.le_add_left n k) hroom] at hcall
    rw [← Nat.add_assoc]
    exact hcall

theorem run_ping {n : Nat}
    (hroom : ∀ p, (wiring hw).LoopFree ((wiring hw).node p) → Within (out net) n p)
    (hfree : (wiring hw).LoopFree (.inr h)) {depth : Nat} (hdepth : n + (n + 1) ≤ depth)
    {w : Wire S H} (hplugged : (net.hosts h).plugged = some w) (src dest : JInt)
    (log : List (Entry H)) :
    run (packetInAt net depth (w.fromHost h) (.ping src dest) (-1)) log =
      (.ok (), log ++ heard (answers net n dest) (callsOut net n (.inr h))) := by
  have hfar := within_far hw hroom hfree
  have hreact : Reacts net (fun h' => (wiring hw).LoopFree (.inr h')) (.ping src dest)
      (answers net n dest) (n + 1) := by
    intro h' hfree' m hm log'
    unfold answers
    simp only [hostPacketIn]
    split
    · exact run_sendPingReply hw hq hm (within_far hw hroom hfree') _ log'
    · simp
  obtain ⟨k, rfl⟩ := Nat.exists_eq_add_of_le' hdepth
  have hcarries := carries_packetInAt hw hq (p := .ping src dest) trivial (Nat.succ_pos n) hreact
    (k + n)
  have hcall := hcarries (w.fromHost h) (-1) log fun e he => by
    rw [← far_of_plugged hplugged] at he
    refine ⟨(hfar e he).mono (Nat.le_add_left n k), fun h' hmem => ?_⟩
    have hjoined := Wiring.joined_of_nexts (nexts_of_calls (mem_out hw) hmem)
    exact hfree.of_joined ((joined_far hw he).trans hjoined)
  rw [callsFrom_fromHost hplugged, callsOut_mono (Nat.le_add_left n k) hfar] at hcall
  rw [← Nat.add_assoc]
  exact hcall

omit hw hq

/-! ## The messages of a host -/

/-- The hosts that answer a ping from `h₁`, and whose answer `h` gets. -/
def Answering (hw : WellWired net) (h₁ : H) (dest : JInt) (h : H) : Set H :=
  {r | r ≠ h₁ ∧ (wiring hw).Joined (.inr h₁) (.inr r) ∧ dest.signExtend 64 = (net.hosts r).ip ∧
    h ≠ r ∧ (wiring hw).Joined (.inr r) (.inr h)}

include hw

theorem messagesOf_replies (hfree : (wiring hw).LoopFree (.inr h)) (n : Nat) (h' : H) :
    messagesOf h' (replies net n h) =
      if h' ∈ hostsOf (callsOut net n (.inr h)) then
        [.pingReply ((net.hosts h).ip.setWidth 32)]
      else [] := by
  have hnodup := nodup_hosts hw hfree n
  have heach : (fun r => messagesOf h'
      [Entry.message r (.pingReply ((net.hosts h).ip.setWidth 32))]) =
        fun r => if r = h' then [Message.pingReply ((net.hosts h).ip.setWidth 32)] else [] := by
    funext r
    rw [messagesOf_cons]
    exact List.append_nil _
  unfold replies
  rw [messagesOf_heard, heach, flatMap_ite, ← List.countP_eq_length_filter]
  have hcount : (hostsOf (callsOut net n (.inr h))).countP (· = h') =
      if h' ∈ hostsOf (callsOut net n (.inr h)) then 1 else 0 := hnodup.count
  rw [hcount]
  split <;> rfl

theorem messagesOf_answers {n : Nat} {h₁ : H} (hfree : (wiring hw).LoopFree (.inr h₁))
    (hroom : ∀ p, (wiring hw).LoopFree ((wiring hw).node p) → Within (out net) n p)
    (dest : JInt) (h : H) :
    messagesOf h (heard (answers net n dest) (callsOut net n (.inr h₁))) =
      List.replicate (Answering hw h₁ dest h).ncard (.pingReply dest) := by
  have hmem : ∀ r, r ∈ hostsOf (callsOut net n (.inr h₁)) ↔
      r ≠ h₁ ∧ (wiring hw).Joined (.inr h₁) (.inr r) := fun r =>
    mem_hosts hw hfree (within_far hw hroom hfree)
  have heach : ∀ r ∈ hostsOf (callsOut net n (.inr h₁)),
      messagesOf h (answers net n dest r) =
        if dest.signExtend 64 = (net.hosts r).ip ∧ h ∈ hostsOf (callsOut net n (.inr r)) then
          [.pingReply dest]
        else [] := by
    intro r hr
    have hfree' := hfree.of_joined ((hmem r).mp hr).2
    unfold answers
    by_cases hip : dest.signExtend 64 = (net.hosts r).ip
    · have hdest : (net.hosts r).ip.setWidth 32 = dest := by rw [← hip, setWidth_signExtend]
      rw [if_pos hip, messagesOf_replies hw hfree', hdest]
      simp only [hip, true_and]
    · rw [if_neg hip, if_neg (fun hex => hip hex.1)]
      rfl
  rw [messagesOf_heard, List.flatMap_congr heach, flatMap_ite]
  congr 1
  have hnodup := nodup_hosts hw hfree n
  rw [← List.toFinset_card_of_nodup (hnodup.filter _), ← Set.ncard_coe_finset]
  congr 1
  ext r
  simp only [List.coe_toFinset, Set.mem_ofPred_eq, List.mem_filter, hmem, decide_eq_true_eq,
    Answering, and_assoc, and_congr_right_iff]
  intro _ hjoined _
  have hfree' := hfree.of_joined hjoined
  exact mem_hosts hw hfree' (within_far hw hroom hfree')

omit hw

/-! ## The stack -/

/-- With a loop, a ping overflows the stack, however large it is. -/
theorem ping_overflows (hw : WellWired net) (hq : NoPingFlows net) {h : H}
    (hloop : ¬ (wiring hw).LoopFree (.inr h)) (dstIp : JLong) (depth : Nat)
    (log : List (Entry H)) :
    (run (sendPingRequest net depth h dstIp) log).1 = .error (.error "StackOverflowError") := by
  unfold sendPingRequest
  rw [run_bind, run_modify, andThen_ok]
  cases hplugged : (net.hosts h).plugged with
  | none =>
    refine absurd ((loopFree_iff_far hw h).mpr fun p hp => ?_) hloop
    simp only [far, hplugged, Option.bind_none] at hp
    cases hp
  | some w =>
    have hping : (IPacket.ping ((net.hosts h).ip.setWidth 32) (dstIp.setWidth 32)).IsPing :=
      trivial
    rcases ends_packetInAt hw hq depth (w.fromHost h) _ (-1)
      (log ++ [.message h (.sendingRequest dstIp)]) hping with hover | hok
    · exact hover
    · refine absurd ((loopFree_iff_far hw h).mpr fun p hp => ?_) hloop
      have hfar : (wiring hw).far (.inr h) = some p := hp
      rw [far_of_plugged hplugged] at hp
      exact loopFree_of_within (mem_out hw) hfar (fun q => eq_inr_of_node hw) (hok.2 p hp)

section Finite

variable [Fintype S] [Fintype H]

/-- The number of ports and hosts. -/
def size (net : DummyNetwork S H) : Nat :=
  ∑ sw, (net.switches sw).ports.length + Fintype.card H

theorem size_linear {n : Nat} (dpids ips : Fin n → JLong) (flows : Fin n → List Flow) :
    size (linear dpids ips flows) = 6 * n := by
  simp [size, linear]
  omega

theorem exists_ends (hw : WellWired net) :
    ∃ ends : List (End S H), ends.length = size net ∧ ∀ p, ∀ r ∈ out net p, r ∈ ends := by
  let ofSwitch : S → List (End S H) := fun sw =>
    (net.switches sw).ports.map fun port => .inl (sw, port.number)
  refine ⟨Finset.univ.toList.flatMap ofSwitch ++ Finset.univ.toList.map .inr, ?_, ?_⟩
  · rw [List.length_append, List.length_flatMap, List.length_map, Finset.length_toList]
    simp only [ofSwitch, List.length_map, Finset.sum_map_toList]
    rfl
  · intro p r hr
    rw [List.mem_append, List.mem_flatMap, List.mem_map]
    obtain ⟨q, -, -, hq⟩ := (mem_out hw p r).mp hr
    cases r with
    | inr h => exact Or.inr ⟨h, Finset.mem_toList.mpr (Finset.mem_univ h), rfl⟩
    | inl r =>
      obtain ⟨sw, number⟩ := r
      obtain ⟨port, hfind, -⟩ := Option.bind_eq_some_iff.mp (hw.far_symm hq)
      obtain ⟨hmem, rfl⟩ := find_eq_some (net.switches sw) hfind
      exact Or.inl ⟨sw, Finset.mem_toList.mpr (Finset.mem_univ sw),
        List.mem_map.mpr ⟨port, hmem, rfl⟩⟩

theorem within_size (hw : WellWired net) (p : End S H)
    (hfree : (wiring hw).LoopFree ((wiring hw).node p)) : Within (out net) (size net + 1) p := by
  obtain ⟨ends, hlength, hends⟩ := exists_ends hw
  rw [← hlength]
  exact within_of_loopFree (mem_out hw) hends hfree

theorem run_sendPingRequest (hw : WellWired net) (hq : NoPingFlows net) {h₁ : H}
    (hplugged : (net.hosts h₁).plugged.isSome) (hfree : (wiring hw).LoopFree (.inr h₁))
    (dstIp : JLong) {depth : Nat} (hdepth : 2 * size net + 3 ≤ depth) (log : List (Entry H)) :
    run (sendPingRequest net depth h₁ dstIp) log =
      (.ok (), log ++ .message h₁ (.sendingRequest dstIp) ::
        heard (answers net (size net + 1) (dstIp.setWidth 32))
          (callsOut net (size net + 1) (.inr h₁))) := by
  obtain ⟨w, hplugged⟩ := Option.isSome_iff_exists.mp hplugged
  unfold sendPingRequest
  rw [run_bind, run_modify, andThen_ok]
  simp only [hplugged]
  rw [run_ping hw hq (within_size hw) hfree (by omega) hplugged]
  simp

/-- Without loops, the ping of a plugged-in sender is answered once by every other host that is joined
    to it and has the address, and every host joined to it hears the answers of the others. -/
theorem ping_answered (hw : WellWired net) (hq : NoPingFlows net) {h₁ : H}
    (hplugged : (net.hosts h₁).plugged.isSome) (hfree : (wiring hw).LoopFree (.inr h₁))
    (dstIp : JLong) {depth : Nat} (hdepth : 2 * size net + 3 ≤ depth) (log : List (Entry H)) :
    ∃ received, run (sendPingRequest net depth h₁ dstIp) log =
        (.ok (), log ++ .message h₁ (.sendingRequest dstIp) :: received) ∧
      (∀ h, messagesOf h received = List.replicate (Answering hw h₁ (dstIp.setWidth 32) h).ncard
        (.pingReply (dstIp.setWidth 32))) ∧
      ∀ tp dpid, .traceApp tp dpid ∉ received := by
  refine ⟨_, run_sendPingRequest hw hq hplugged hfree dstIp hdepth log,
    messagesOf_answers hw hfree (within_size hw) _, fun tp dpid hmem => ?_⟩
  obtain ⟨r, hr⟩ := exists_react_of_mem hmem
  unfold answers at hr
  split at hr
  · obtain ⟨h, hh⟩ := exists_react_of_mem hr
    exact nomatch List.mem_singleton.mp hh
  · exact absurd hr List.not_mem_nil

/-- Three hosts with the same address. -/
def sameAddress : DummyNetwork (Fin 3) (Fin 3) := linear (fun _ => 0) (fun _ => 7) fun _ => []

theorem ping_sameAddress :
    ∃ received, run (sendPingRequest sameAddress 39 0 7) [] =
        (.ok (), [] ++ .message 0 (.sendingRequest 7) :: received) ∧
      (∀ h, messagesOf h received = List.replicate
        (Answering (wellWired_linear (fun _ => 0) (fun _ => 7) fun _ => []) 0 7 h).ncard
        (.pingReply 7)) ∧
      ∀ tp dpid, .traceApp tp dpid ∉ received := by
  have hnone : NoPingFlows sameAddress := fun _ _ hf => absurd hf List.not_mem_nil
  have hdepth : 2 * size sameAddress + 3 ≤ 39 := by
    unfold sameAddress
    rw [size_linear]
  exact ping_answered (wellWired_linear (fun _ => 0) (fun _ => 7) fun _ => []) hnone rfl
    (loopFree_linear _ _ _ _) 7 hdepth []

/-- Without loops at the sender, a ping returns; with a loop, it never does. -/
theorem ping_returns (hw : WellWired net) (hq : NoPingFlows net) (h : H) (dstIp : JLong)
    (log : List (Entry H)) :
    ((wiring hw).LoopFree (.inr h) → ∀ depth, 2 * size net + 3 ≤ depth →
      (run (sendPingRequest net depth h dstIp) log).1 = .ok ()) ∧
    (¬ (wiring hw).LoopFree (.inr h) → ∀ depth,
      (run (sendPingRequest net depth h dstIp) log).1 = .error (.error "StackOverflowError")) := by
  refine ⟨fun hfree depth hdepth => ?_, fun hloop depth => ping_overflows hw hq hloop ..⟩
  cases hplugged : (net.hosts h).plugged with
  | none =>
    unfold sendPingRequest
    rw [hplugged]
    rfl
  | some w => rw [run_sendPingRequest hw hq (by rw [hplugged]; rfl) hfree dstIp hdepth]

/-- A ping over a wire between two ports of one switch goes round until the stack is full. -/
theorem ping_looped :
    ¬ ∃ depth, (run (sendPingRequest looped depth () 1) []).1 = .ok () := by
  intro hex
  obtain ⟨depth, hok⟩ := hex
  have hnone : NoPingFlows looped := fun _ _ hf => absurd hf List.not_mem_nil
  rw [(ping_returns wellWired_looped hnone () 1 []).2 not_loopFree_looped depth] at hok
  cases hok

end Finite

end Network

section Linear

variable {n : Nat} (dpids ips : Fin n → JLong) (flows : Fin n → List Flow)

/-- On a string of any length, a ping between two hosts ends as `longLinearTest` asserts, and
    every other host gets the reply as well. -/
theorem linear_ping (hflows : ∀ i, ∀ f ∈ flows i, f.NotForPings) {h₁ h₂ : Fin n} (hne : h₁ ≠ h₂)
    {ip : JInt} (hip : ips h₂ = ip.signExtend 64)
    (honly : ∀ h, h ≠ h₁ → ips h = ips h₂ → h = h₂) {depth : Nat} (hdepth : 12 * n + 3 ≤ depth) :
    ∃ received,
      run (sendPingRequest (linear dpids ips flows) depth h₁ (ips h₂)) [] = (.ok (), received) ∧
      messagesOf h₁ received = [.sendingRequest (ips h₂), .pingReply ip] ∧
      messagesOf h₂ received = [] ∧
      ∀ h, h ≠ h₁ → h ≠ h₂ → messagesOf h received = [.pingReply ip] := by
  have hw := wellWired_linear dpids ips flows
  have hfree := loopFree_linear dpids ips flows (.inr h₁)
  have hsize : 2 * size (linear dpids ips flows) + 3 ≤ depth := by
    rw [size_linear]
    omega
  have hdest : (ips h₂).setWidth 32 = ip := by rw [hip, setWidth_signExtend]
  have hanswering : ∀ h, (Answering hw h₁ ip h).ncard = if h = h₂ then 0 else 1 := by
    intro h
    by_cases hh : h = h₂
    · rw [if_pos hh, Set.ncard_eq_zero]
      refine Set.eq_empty_of_forall_notMem fun r hr => ?_
      obtain ⟨hr₁, -, hr₂, hr₃, -⟩ := hr
      exact hr₃ (hh.trans (honly r hr₁ (hr₂.symm.trans hip.symm)).symm)
    · rw [if_neg hh, Set.ncard_eq_one]
      refine ⟨h₂, Set.eq_singleton_iff_unique_mem.mpr ⟨?_, fun r hr => ?_⟩⟩
      · exact ⟨hne.symm, joined_linear .., hip.symm, hh, joined_linear ..⟩
      · obtain ⟨hr₁, -, hr₂, -⟩ := hr
        exact honly r hr₁ (hr₂.symm.trans hip.symm)
  have hreceived := messagesOf_answers hw hfree (within_size hw) ip
  have hmessages : ∀ h, messagesOf h (.message h₁ (.sendingRequest (ips h₂)) ::
      heard (answers (linear dpids ips flows) (size (linear dpids ips flows) + 1) ip)
        (callsOut (linear dpids ips flows) (size (linear dpids ips flows) + 1) (.inr h₁))) =
      (if h₁ = h then [.sendingRequest (ips h₂)] else []) ++
        if h = h₂ then [] else [.pingReply ip] := by
    intro h
    rw [messagesOf_cons, hreceived, hanswering]
    congr 1
    split_ifs <;> rfl
  have hrun := run_sendPingRequest hw hflows rfl hfree (ips h₂) hsize []
  rw [hdest, List.nil_append] at hrun
  refine ⟨_, hrun, ?_, ?_, fun h hh₁ hh₂ => ?_⟩
  · rw [hmessages, if_pos rfl, if_neg hne]
    rfl
  · rw [hmessages, if_neg hne, if_pos rfl]
    rfl
  · rw [hmessages, if_neg (Ne.symm hh₁), if_neg hh₂]
    rfl

/-- A string of three switches with the addresses 0, 1 and 2. -/
def ofThree : DummyNetwork (Fin 3) (Fin 3) :=
  linear (fun _ => 0) (fun i => BitVec.ofNat 64 i) fun _ => []

/-- The first of three hosts pings the second. -/
theorem linear_ping_ofThree :
    ∃ received, run (sendPingRequest ofThree 39 0 1) [] = (.ok (), received) ∧
      messagesOf 0 received = [.sendingRequest 1, .pingReply 1] ∧ messagesOf 1 received = [] ∧
      ∀ h : Fin 3, h ≠ 0 → h ≠ 1 → messagesOf h received = [.pingReply 1] := by
  let ips : Fin 3 → JLong := fun i => BitVec.ofNat 64 i
  have hflows : ∀ i : Fin 3, ∀ f ∈ (fun _ => [] : Fin 3 → List Flow) i, f.NotForPings :=
    fun _ _ hf => absurd hf List.not_mem_nil
  have hne : (0 : Fin 3) ≠ 1 := by decide
  have hip : ips 1 = (1 : JInt).signExtend 64 := by decide
  have honly : ∀ h : Fin 3, h ≠ 0 → ips h = ips 1 → h = 1 := by decide
  exact linear_ping (fun _ => 0) ips _ hflows hne hip honly (Nat.le_refl 39)

end Linear

end JSdnTrace.Tests
