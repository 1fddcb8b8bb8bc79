/-
  The trace flow that the module writes to the switches.

  * `flows_after`: each switch that connects is given the trace flow, once and for good.
-/
import JSdnTrace.ModuleRun

namespace JSdnTrace

open Java Lib

namespace TraceModule

variable (ofj : OpenFlowJ) (macNone : MacAddress)

/-- The message of an `AddFlow` call. -/
def flowMod (f : Flow) : OFFlowMod := writeFlowMod ofj .add .noBuffer f.mtch f.port

/-- Packets of the trace type go to the controller, whole, and the flow does not time out. -/
def traceFlowMod : OFFlowMod where
  isDelete := false
  mtch := some ⟨traceEther⟩
  cookie := ⟨0⟩
  idleTimeout := 0
  hardTimeout := 0
  priority := 10
  bufferId := .noBuffer
  outPort := ofj.portController
  sendFlowRem := true
  actions := [⟨ofj.portController, 0xffffffff⟩]

/-- The `AddFlow` call for a switch that connects. It is not made when the switch has gone. -/
def Callback.traceFlow : Callback → Option Flow
  | .switchAdded fl _ getPorts switchId =>
    if (getPorts switchId).isSome ∧
        (fl.getActiveSwitch (ofj.dpidOf switchId.getLong)).isSome then
      some ⟨switchId.getLong, some ⟨traceEther⟩, ofj.portController, .ok ()⟩
    else none
  | _ => none

theorem flows_switchInfoReceived (w : World) (fl : Floodlight) (dpid : JLong)
    (mp : List PortMacPair) :
    (JSdnTrace.step ofj w (.switchInfoReceived (network ofj fl) dpid mp)).flows =
      w.flows ++ if (fl.getActiveSwitch (ofj.dpidOf dpid)).isSome then
        [⟨dpid, some ⟨traceEther⟩, ofj.portController, .ok ()⟩] else [] := by
  show (run (TraceAppController.switchInfoReceived ofj (network ofj fl) dpid mp) w).2.flows = _
  unfold TraceAppController.switchInfoReceived network buildTraceMatch addFlow
  simp only [run_bind, run_get, andThen_ok, run_modify, run_lift, ite_self]
  cases fl.getActiveSwitch (ofj.dpidOf dpid) with
  | none => exact (List.append_nil _).symm
  | some sw => rfl

theorem flows_portStatus (w : World) (r : Option PortStatus) :
    ((r.map PortStatus.toEvent).elim w (JSdnTrace.step ofj w)).flows = w.flows ++ [] := by
  rw [List.append_nil]
  cases r with
  | none => rfl
  | some r =>
    show (JSdnTrace.step ofj w r.toEvent).flows = w.flows
    rw [step_toEvent]
    rfl

theorem flows_step (s : DeviceWorld) (c : Callback) :
    (step ofj macNone s c).tracer.flows = s.tracer.flows ++ (c.traceFlow ofj).toList := by
  rw [step_eq]
  cases c with
  | switchAdded fl keySet getPorts switchId =>
    show World.flows (Option.elim (Option.map _ (getPorts switchId)) _ _) =
      _ ++ Option.toList (if (getPorts switchId).isSome ∧ _ then _ else _)
    cases getPorts switchId with
    | none =>
      rw [if_neg fun h => absurd h.1 (by decide)]
      exact (List.append_nil _).symm
    | some ports =>
      rw [Option.map_some, Option.elim_some, flows_switchInfoReceived]
      simp only [Option.isSome_some, true_and]
      split <;> rfl
  | device c => exact flows_portStatus ofj s.tracer (Callback.device c).portStatus
  | switchPortChanged switchId port type =>
    exact flows_portStatus ofj s.tracer (Callback.switchPortChanged switchId port type).portStatus
  | _ => exact flows_portStatus ofj s.tracer none

theorem flowMod_of_traceFlow {c : Callback} {f : Flow} (h : c.traceFlow ofj = some f) :
    flowMod ofj f = traceFlowMod ofj := by
  cases c with
  | switchAdded fl keySet getPorts switchId =>
    obtain ⟨-, hf⟩ := Option.ite_none_right_eq_some.mp h
    obtain rfl := Option.some_inj.mp hf
    rfl
  | _ => exact absurd h (Option.some_ne_none f).symm

/-- Every call for a flow succeeds, and is for the trace flow of a switch that connected. -/
theorem flows_after (cs : List Callback) :
    (after ofj macNone cs).tracer.flows = cs.filterMap (Callback.traceFlow ofj) ∧
      ∀ f ∈ (after ofj macNone cs).tracer.flows, flowMod ofj f = traceFlowMod ofj := by
  have hflows : (after ofj macNone cs).tracer.flows = cs.filterMap (Callback.traceFlow ofj) := by
    induction cs using List.reverseRecOn with
    | nil => rfl
    | append_singleton cs c ih =>
      rw [after_concat, flows_step, ih, List.filterMap_append]
      cases hc : c.traceFlow ofj <;> simp [hc]
  refine ⟨hflows, fun f hf => ?_⟩
  rw [hflows] at hf
  obtain ⟨c, -, hc⟩ := List.mem_filterMap.mp hf
  exact flowMod_of_traceFlow ofj hc

end TraceModule

end JSdnTrace
