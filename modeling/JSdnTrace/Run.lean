/-
  Runs of the controller: any sequence of its three entry points, in any order and on any
  network, from the state after construction. Events that throw are part of a run.

  * `netMap_step`, `hopRec_step`, `sent_step`: what one event does to each part of the state.
  * `nextHop_reached`, `sent_reached`: what a run does. The counter of a probe counts the
    packet-ins of that probe, and the calls made on the network are, event by event, what each
    event sends after the events before it.
  * `packetIn_acts_iff`: a packet-in acts fully or not at all.
-/
import JSdnTrace.Lib.Steps
import JSdnTrace.TraceAppController

namespace JSdnTrace

open Java Lib TraceAppController

/-- One call of an entry point, with what it meets outside the controller. -/
inductive Event where
  | switchInfoReceived (network : INetwork) (dpid : JLong) (mp : List PortMacPair)
  | onPortStatusChange (dpid : JLong) (portNum : JInt) (mac : JLong)
  | packetIn (env : Env) (data : List JByte) (info : SwitchInfo)

namespace Event

def exec (ofj : OpenFlowJ) : Event → Exec World Unit
  | switchInfoReceived network dpid mp =>
    TraceAppController.switchInfoReceived ofj network dpid mp
  | onPortStatusChange dpid portNum mac => TraceAppController.onPortStatusChange dpid portNum mac
  | packetIn env data info => TraceAppController.packetIn ofj env data info

/-- The network calls of the event do not fail. -/
def Reliable : Event → Prop
  | switchInfoReceived network _ _ => network.Reliable
  | onPortStatusChange _ _ _ => True
  | packetIn env _ _ => env.network.Reliable

/-- The packet that a packet-in reads from its bytes. -/
def packet (ofj : OpenFlowJ) : Event → Option TracePacket
  | packetIn env data _ => (parse ofj env.packet data).toOption
  | _ => none

/-- The event is a packet-in of the probe. -/
def OfProbe (ofj : OpenFlowJ) (probeId : JLong) (e : Event) : Prop :=
  (e.packet ofj).map (·.probeId) = some probeId

instance (ofj : OpenFlowJ) (probeId : JLong) : DecidablePred (OfProbe ofj probeId) :=
  fun _ => inferInstanceAs (Decidable (_ = _))

/-- Only a packet-in whose bytes parse has a packet. -/
theorem packet_eq_some {ofj : OpenFlowJ} {e : Event} {p : TracePacket} :
    e.packet ofj = some p ↔
      ∃ env data info, e = packetIn env data info ∧ parse ofj env.packet data = .ok p := by
  refine ⟨fun h => ?_, fun h => ?_⟩
  · cases e with
    | switchInfoReceived network dpid mp => cases h
    | onPortStatusChange dpid portNum mac => cases h
    | packetIn env data info =>
      refine ⟨env, data, info, rfl, ?_⟩
      cases hparse : parse ofj env.packet data with
      | ok q =>
        rw [packet, hparse] at h
        exact congrArg Except.ok (Option.some_inj.mp h)
      | error err =>
        rw [packet, hparse] at h
        cases h
  · obtain ⟨env, data, info, rfl, hparse⟩ := h
    rw [packet, hparse]
    rfl

theorem not_ofProbe_of_none {ofj : OpenFlowJ} {e : Event} (h : e.packet ofj = none)
    {probeId : JLong} : ¬ e.OfProbe ofj probeId := by
  unfold OfProbe
  rw [h]
  intro hnone
  cases hnone

theorem ofProbe_iff_of_some {ofj : OpenFlowJ} {e : Event} {p : TracePacket}
    (h : e.packet ofj = some p) {probeId : JLong} :
    e.OfProbe ofj probeId ↔ p.probeId = probeId := by
  unfold OfProbe
  rw [h]
  exact Option.some_inj

/-- What the event does to the map. -/
def writeNetMap : Event → HashMap JLong (HashMap JLong JInt) → HashMap JLong (HashMap JLong JInt)
  | switchInfoReceived _ dpid mp, netMap =>
    netMap.put dpid (mp.foldl (fun portMap p => portMap.put p.mac p.port) ∅)
  | onPortStatusChange dpid portNum mac, netMap =>
    netMap.put dpid (((netMap.get dpid).getD ∅).put mac portNum)
  | packetIn _ _ _, netMap => netMap

/-- What the event sends, when its probe has been answered `n` times. -/
def sends (ofj : OpenFlowJ) (n : JLong → Nat) : Event → List Sent
  | packetIn env data info =>
    match parse ofj env.packet data with
    | .ok p =>
      let pkt := replyPacket env.flooded p info (BitVec.ofNat 8 (n p.probeId))
      [⟨info.dpid.getLong, pkt, ofj.portFlood,
        env.network.sendTracePacket info.dpid.getLong pkt ofj.portFlood⟩]
    | .error _ => []
  | _ => []

end Event

variable (ofj : OpenFlowJ)

def step (w : World) (e : Event) : World := (run (e.exec ofj) w).2

/-- The state after a run. -/
def reached (es : List Event) : World := es.foldl (step ofj) World.init

@[simp] theorem reached_nil : reached ofj [] = World.init := rfl

@[simp] theorem reached_concat (es : List Event) (e : Event) :
    reached ofj (es ++ [e]) = step ofj (reached ofj es) e := by
  unfold reached
  rw [List.foldl_append]
  rfl

/-! ## One step -/

theorem step_packetIn (w : World) (env : Env) (data : List JByte) (info : SwitchInfo) :
    step ofj w (.packetIn env data info) =
      match parse ofj env.packet data with
      | .ok p => w.answer p.probeId (floodedReply ofj w env p info)
      | .error _ => w := by
  unfold step Event.exec
  cases h : parse ofj env.packet data with
  | ok p => exact run_packetIn_of_ok ofj w env h info
  | error e => exact run_packetIn_of_error ofj w env h info

theorem netMap_step (w : World) (e : Event) :
    (step ofj w e).app.netMap = e.writeNetMap w.app.netMap := by
  cases e with
  | switchInfoReceived network dpid mp =>
    obtain ⟨flows, h⟩ := run_switchInfoReceived ofj w network dpid mp
    exact congrArg (·.app.netMap) h
  | onPortStatusChange dpid portNum mac =>
    exact congrArg (·.2.app.netMap) (run_onPortStatusChange w dpid portNum mac)
  | packetIn env data info =>
    rw [step_packetIn]
    split <;> rfl

/-- An event advances the counter of the probe it reads, and no other. -/
theorem hopRec_step (w : World) (e : Event) :
    (step ofj w e).app.hopRec =
      match e.packet ofj with
      | some p => w.app.hopRec.put p.probeId (nextHop w.app.hopRec p.probeId + 1)
      | none => w.app.hopRec := by
  cases e with
  | switchInfoReceived network dpid mp =>
    obtain ⟨flows, h⟩ := run_switchInfoReceived ofj w network dpid mp
    exact congrArg (·.app.hopRec) h
  | onPortStatusChange dpid portNum mac =>
    exact congrArg (·.2.app.hopRec) (run_onPortStatusChange w dpid portNum mac)
  | packetIn env data info =>
    rw [step_packetIn, Event.packet]
    cases parse ofj env.packet data with
    | ok p => simp only [Except.toOption, World.answer]
    | error e => simp only [Except.toOption]

theorem nextHop_put (hopRec : HashMap JLong JByte) (probeId probeId' : JLong) (hop : JByte) :
    nextHop (hopRec.put probeId hop) probeId' =
      if probeId' = probeId then hop else nextHop hopRec probeId' := by
  unfold nextHop
  rw [HashMap.get_put]
  split <;> rfl

theorem nextHop_step (w : World) (e : Event) (probeId : JLong) :
    nextHop (step ofj w e).app.hopRec probeId =
      if e.OfProbe ofj probeId then nextHop w.app.hopRec probeId + 1
      else nextHop w.app.hopRec probeId := by
  rw [hopRec_step]
  cases hp : e.packet ofj with
  | none => rw [if_neg (Event.not_ofProbe_of_none hp)]
  | some p =>
    dsimp only
    rw [nextHop_put]
    by_cases h : probeId = p.probeId
    · rw [if_pos h, if_pos ((Event.ofProbe_iff_of_some hp).mpr h.symm), h]
    · rw [if_neg h, if_neg fun he => h ((Event.ofProbe_iff_of_some hp).mp he).symm]

/-- `n` is what the counters count. -/
def Counts (w : World) (n : JLong → Nat) : Prop :=
  ∀ probeId, nextHop w.app.hopRec probeId = BitVec.ofNat 8 (n probeId)

theorem sent_step {w : World} {n : JLong → Nat} (hn : Counts w n) (e : Event) :
    (step ofj w e).sent = w.sent ++ e.sends ofj n := by
  cases e with
  | switchInfoReceived network dpid mp =>
    obtain ⟨flows, h⟩ := run_switchInfoReceived ofj w network dpid mp
    exact (congrArg (·.sent) h).trans (List.append_nil _).symm
  | onPortStatusChange dpid portNum mac =>
    exact (congrArg (·.2.sent) (run_onPortStatusChange w dpid portNum mac)).trans
      (List.append_nil _).symm
  | packetIn env data info =>
    rw [step_packetIn, Event.sends]
    cases h : parse ofj env.packet data with
    | ok p =>
      simp only [World.answer, floodedReply, World.reply, hn p.probeId]
    | error e => simp only [List.append_nil]

/-! ## A run -/

/-- The packet-ins of a probe in a run. -/
def probeCount (es : List Event) (probeId : JLong) : Nat :=
  es.countP (Event.OfProbe ofj probeId)

theorem probeCount_concat (es : List Event) (e : Event) (probeId : JLong) :
    probeCount ofj (es ++ [e]) probeId =
      if e.OfProbe ofj probeId then probeCount ofj es probeId + 1
      else probeCount ofj es probeId := by
  unfold probeCount
  rw [List.countP_append, List.countP_singleton]
  by_cases h : e.OfProbe ofj probeId <;> simp [h]

/-- The counter of a probe is the number of its packet-ins, modulo 256. -/
theorem nextHop_reached (es : List Event) : Counts (reached ofj es) (probeCount ofj es) := by
  intro probeId
  induction es using List.reverseRecOn with
  | nil => rfl
  | append_singleton es e ih =>
    rw [reached_concat, nextHop_step, ih, probeCount_concat]
    split
    · rw [BitVec.ofNat_add]
      rfl
    · rfl

/-- The calls on the network, event by event. -/
theorem sent_reached (es : List Event) :
    (reached ofj es).sent =
      (mapHistory (fun past e => e.sends ofj (probeCount ofj past)) [] es).flatten := by
  induction es using List.reverseRecOn with
  | nil => rfl
  | append_singleton es e ih =>
    rw [reached_concat, sent_step ofj (nextHop_reached ofj es), ih, flatten_mapHistory_concat,
      List.nil_append]

/-! ## All or nothing -/

/-- One packet was sent and one counter advanced by one. -/
structure ActsOnce (w w' : World) : Prop where
  sent : ∃ s : Sent, s.result = .ok () ∧ w'.sent = w.sent ++ [s]
  counted : ∃ probeId, w'.app.hopRec.get probeId = some (nextHop w.app.hopRec probeId + 1) ∧
    ∀ other, other ≠ probeId → w'.app.hopRec.get other = w.app.hopRec.get other
  netMap : w'.app.netMap = w.app.netMap

/-- Nothing was sent and both maps are as they were. -/
structure ActsNot (w w' : World) : Prop where
  sent : w'.sent = w.sent
  app : w'.app = w.app

theorem ActsNot.not_actsOnce {w w' : World} (h : ActsNot w w') : ¬ ActsOnce w w' := by
  intro hone
  obtain ⟨s, -, hs⟩ := hone.sent
  rw [h.sent] at hs
  exact absurd (congrArg List.length hs) (by simp)

theorem actsOnce_answer (w : World) {env : Env} (hnet : env.network.Reliable) (p : TracePacket)
    (info : SwitchInfo) : ActsOnce w (w.answer p.probeId (floodedReply ofj w env p info)) where
  sent := ⟨_, hnet.sendTracePacket _ _ _, rfl⟩
  counted := ⟨p.probeId, HashMap.get_put_self _ _ _, fun _ h => HashMap.get_put_of_ne _ _ h⟩
  netMap := rfl

/-- The packet-in acts exactly when its bytes parse, and otherwise not at all. -/
theorem packetIn_acts_iff (w : World) (env : Env) (hnet : env.network.Reliable)
    (data : List JByte) (info : SwitchInfo) :
    (ActsOnce w (step ofj w (.packetIn env data info)) ∨
      ActsNot w (step ofj w (.packetIn env data info))) ∧
    (ActsOnce w (step ofj w (.packetIn env data info)) ↔
      ∃ p, parse ofj env.packet data = .ok p) := by
  rw [step_packetIn]
  cases parse ofj env.packet data with
  | ok p =>
    have hacts := actsOnce_answer ofj w hnet p info
    exact ⟨Or.inl hacts, iff_of_true hacts ⟨p, rfl⟩⟩
  | error e =>
    have hnot : ActsNot w w := ⟨rfl, rfl⟩
    refine ⟨Or.inr hnot, iff_of_false hnot.not_actsOnce fun hok => ?_⟩
    obtain ⟨p, hp⟩ := hok
    cases hp

/-- A request from host 2 to host 1 with probe id 5, built on switch 7. -/
def requestBytes : List JByte :=
  65 :: (longBytes 1 ++ longBytes 2 ++ [1, 255] ++ longBytes 5 ++ [0] ++ longBytes 1000 ++ [1]) ++
    (longBytes 7 ++ [10, 0, 0, 1] ++ longBytes 3 ++ intBytes 2 ++ intBytes 0)

/-- Host 2 is known on port 3 of switch 1 and asks. -/
theorem requestBytes_acts :
    ActsOnce (reached OpenFlowJ.documented [.onPortStatusChange 1 3 2])
      (step OpenFlowJ.documented (reached OpenFlowJ.documented [.onPortStatusChange 1 3 2])
        (.packetIn (Env.accepting 0 0) requestBytes (SwitchInfo.new OpenFlowJ.documented))) :=
  (packetIn_acts_iff OpenFlowJ.documented _ (Env.accepting 0 0) INetwork.accepting_reliable
    requestBytes (SwitchInfo.new OpenFlowJ.documented)).2.mpr ⟨_, rfl⟩

end JSdnTrace
