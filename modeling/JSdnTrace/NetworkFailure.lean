/-
  A network that fails. The controller writes its maps before it calls the network and never
  takes a write back, so a call that throws leaves the state that a call that returns would.

  * `network_unchecked`: what `TraceModule` throws, no handler of the controller catches.
  * `announces_step`, `answersOnce_step`: what one event leaves, however the network ends it.
  * `hops_handed`: the calls made for a probe are numbered from 0, those that throw included.
  * `failing_network`: the three together, over any run.
-/
import JSdnTrace.EndToEnd
import JSdnTrace.Rejection
import JSdnTrace.TraceModule

namespace JSdnTrace

open Java Lib TraceAppController

theorem TraceModule.network_unchecked (ofj : OpenFlowJ) (fl : Floodlight) :
    (TraceModule.network ofj fl).Unchecked := by
  intro dpid pkt p
  have hsend : ThrowsOwn (TraceModule.sendTracePacket ofj fl dpid pkt p) := by
    unfold TraceModule.sendTracePacket
    refine (TracePacket.throwsOwn_serialize pkt).bind fun payload => ?_
    refine (throwsOwn_deref pkt.destinationMAC).bind fun destination => ?_
    refine (throwsOwn_deref pkt.sourceMAC).bind fun source => ?_
    exact (throwsOwn_deref _).bind fun sw => throwsOnly_ok _
  exact hsend.doesNotThrow.bind fun _ => doesNotThrow_ok ()

/-! ## One event -/

/-- The table of the switch was replaced, and nothing else of the controller's. -/
structure Announces (w w' : World) (dpid : JLong) (mp : List PortMacPair) : Prop where
  netMap : w'.app.netMap =
    w.app.netMap.put dpid (mp.foldl (fun portMap p => portMap.put p.mac p.port) ∅)
  hopRec : w'.app.hopRec = w.app.hopRec
  sent : w'.sent = w.sent

/-- One call was made, numbered by the counter of the probe, and ended as `result`; the counter
    was advanced by one, and nothing else was written. -/
structure AnswersOnce (w w' : World) (probeId : JLong) (result : Except Throwable Unit) :
    Prop where
  sent : ∃ s : Sent, s.result = result ∧ s.pkt.hop = nextHop w.app.hopRec probeId ∧
    w'.sent = w.sent ++ [s]
  hopRec : w'.app.hopRec = w.app.hopRec.put probeId (nextHop w.app.hopRec probeId + 1)
  netMap : w'.app.netMap = w.app.netMap

section Step

variable (ofj : OpenFlowJ) (w : World)

theorem announces_step (network : INetwork) (dpid : JLong) (mp : List PortMacPair) :
    Announces w (step ofj w (.switchInfoReceived network dpid mp)) dpid mp := by
  obtain ⟨flows, h⟩ := run_switchInfoReceived ofj w network dpid mp
  have hstep : step ofj w (.switchInfoReceived network dpid mp) = _ := h
  rw [hstep]
  exact ⟨rfl, rfl, rfl⟩

variable {ofj} (hof : ofj.Faithful) {env : Env} (hnet : env.network.Unchecked) (r : WirePacket)
  (info : SwitchInfo)

include hof hnet

/-- A packet-in ends as its call ends. -/
theorem answersOnce_step (hr : r.Readable ofj) :
    AnswersOnce w (step ofj w (.packetIn env r.data info)) r.pkt.probeId
      (run (packetIn ofj env r.data info) w).1 := by
  obtain ⟨sw, hparse⟩ := r.parse_wirePacket env.packet hof hr
  rw [step_packetIn, fst_run_packetIn hof w hnet, hparse]
  exact ⟨⟨_, rfl, rfl, rfl⟩, rfl, rfl⟩

theorem actsNot_step (hr : ¬ r.Readable ofj) :
    ActsNot w (step ofj w (.packetIn env r.data info)) ∧
      ∃ e, (run (packetIn ofj env r.data info) w).1 = .error e := by
  obtain ⟨e, hparse⟩ := r.parse_of_not_readable env.packet hr
  rw [step_packetIn, fst_run_packetIn hof w hnet, hparse]
  exact ⟨⟨rfl, rfl⟩, e, rfl⟩

end Step

/-! ## A run -/

section Run

variable (ofj : OpenFlowJ)

/-- The calls made for a probe, in order. -/
def handed (es : List Event) (probeId : JLong) : List Sent :=
  (mapHistory (fun past e => if e.OfProbe ofj probeId then sentBy ofj past e else []) []
    es).flatten

/-- A packet-in of the probe makes one call, with the number that is the probe's turn. -/
theorem hop_sends {e : Event} {probeId : JLong} (he : e.OfProbe ofj probeId) (n : JLong → Nat) :
    (e.sends ofj n).map (·.pkt.hop) = [BitVec.ofNat 8 (n probeId)] := by
  obtain ⟨p, hpacket, rfl⟩ := Option.map_eq_some_iff.mp he
  obtain ⟨env, data, info, rfl, hparse⟩ := Event.packet_eq_some.mp hpacket
  rw [Event.sends, hparse]
  rfl

theorem hops_handed (es : List Event) (probeId : JLong) :
    (handed ofj es probeId).map (·.pkt.hop) =
      (List.range (probeCount ofj es probeId)).map (BitVec.ofNat 8) := by
  induction es using List.reverseRecOn with
  | nil => rfl
  | append_singleton es e ih =>
    have hconcat : handed ofj (es ++ [e]) probeId =
        handed ofj es probeId ++ if e.OfProbe ofj probeId then sentBy ofj es e else [] := by
      unfold handed
      rw [flatten_mapHistory_concat, List.nil_append]
    rw [hconcat, List.map_append, ih, probeCount_concat]
    by_cases he : e.OfProbe ofj probeId
    · rw [if_pos he, if_pos he, sentBy_eq, hop_sends ofj he, List.range_succ, List.map_append,
        List.map_singleton]
    · rw [if_neg he, if_neg he, List.map_nil, List.append_nil]

variable {ofj} (hof : ofj.Faithful)

include hof

/-- What a network that fails leaves. A packet the controller cannot read is never handed to it. -/
theorem failing_network (es : List Event) (network : INetwork) (dpid : JLong)
    (mp : List PortMacPair) (env : Env) (hnet : env.network.Unchecked) (r : WirePacket)
    (info : SwitchInfo) (probeId : JLong) :
    Announces (reached ofj es) (step ofj (reached ofj es) (.switchInfoReceived network dpid mp))
      dpid mp ∧
    (r.Readable ofj →
      AnswersOnce (reached ofj es) (step ofj (reached ofj es) (.packetIn env r.data info))
        r.pkt.probeId (run (packetIn ofj env r.data info) (reached ofj es)).1) ∧
    (¬ r.Readable ofj →
      ActsNot (reached ofj es) (step ofj (reached ofj es) (.packetIn env r.data info)) ∧
        ∃ e, (run (packetIn ofj env r.data info) (reached ofj es)).1 = .error e) ∧
    (handed ofj es probeId).map (·.pkt.hop) =
      (List.range (probeCount ofj es probeId)).map (BitVec.ofNat 8) :=
  ⟨announces_step ofj _ network dpid mp, answersOnce_step _ hof hnet r info,
    actsNot_step _ hof hnet r info, hops_handed ofj es probeId⟩

omit hof

/-- The plug-in before any switch is connected: every call throws. -/
def disconnected : INetwork :=
  TraceModule.network OpenFlowJ.documented (.untagged fun _ => false)

/-- A packet-in of the probe 5. -/
def probeIn (network : INetwork) : Event :=
  .packetIn { Env.accepting 0 0 with network := network } (probe 5).data
    (SwitchInfo.new OpenFlowJ.documented)

/-- Both maps are written although the calls throw, and the first reply that gets through is
    numbered 1. -/
theorem disconnected_writes :
    ((run ((Event.switchInfoReceived disconnected 1 []).exec OpenFlowJ.documented)
        World.init).1 = .error .nullPointer ∧
      World.init.app.netMap.get 1 = none ∧
      (step OpenFlowJ.documented World.init (.switchInfoReceived disconnected 1 [])).app.netMap.get
        1 = some ∅) ∧
    ((run ((probeIn disconnected).exec OpenFlowJ.documented) World.init).1 =
        .error .nullPointer ∧
      World.init.app.hopRec.get 5 = none ∧
      (step OpenFlowJ.documented World.init (probeIn disconnected)).app.hopRec.get 5 = some 1) ∧
    ((handed OpenFlowJ.documented [probeIn disconnected, probeIn INetwork.accepting] 5).filter
      fun s => s.result = .ok ()).map (·.pkt.hop) = [1] := by
  refine ⟨⟨rfl, rfl, rfl⟩, ⟨?_, rfl, ?_⟩, ?_⟩
  · decide +kernel
  · decide +kernel
  · decide +kernel

theorem disconnected_failing_network :
    Announces (reached OpenFlowJ.documented [probeIn disconnected])
      (step OpenFlowJ.documented (reached OpenFlowJ.documented [probeIn disconnected])
        (.switchInfoReceived disconnected 1 [])) 1 [] ∧
    AnswersOnce (reached OpenFlowJ.documented [probeIn disconnected])
      (step OpenFlowJ.documented (reached OpenFlowJ.documented [probeIn disconnected])
        (probeIn disconnected)) 5
      (run ((probeIn disconnected).exec OpenFlowJ.documented)
        (reached OpenFlowJ.documented [probeIn disconnected])).1 ∧
    (handed OpenFlowJ.documented [probeIn disconnected] 5).map (·.pkt.hop) =
      (List.range (probeCount OpenFlowJ.documented [probeIn disconnected] 5)).map
        (BitVec.ofNat 8) := by
  obtain ⟨hinfo, hreadable, -, hhops⟩ := failing_network OpenFlowJ.documented_faithful
    [probeIn disconnected] disconnected 1 [] { Env.accepting 0 0 with network := disconnected }
    (TraceModule.network_unchecked OpenFlowJ.documented (.untagged fun _ => false)) (probe 5)
    (SwitchInfo.new OpenFlowJ.documented) 5
  exact ⟨hinfo, hreadable (probe_readable 5), hhops⟩

end Run

end JSdnTrace
