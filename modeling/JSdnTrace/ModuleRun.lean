/-
  Runs of the Floodlight module: any sequence of the callbacks of the device manager and of the
  switch service, from the state after `init`. What `receive` hands on is not part of them.

  * `step_eq`: a callback writes the map of devices, and makes at most one call on the controller.
  * `after_refines`: so the module refines the controller, and its map is the history of what the
    callbacks reported.
-/
import JSdnTrace.PortStatus
import JSdnTrace.SwitchAdded
import JSdnTrace.TraceModule

namespace JSdnTrace

open Java Lib

/-- Floodlight's `PortChangeType`. -/
inductive PortChangeType where
  | add
  | otherUpdate
  | delete
  | up
  | down
  deriving DecidableEq

namespace TraceModule

/-- The hardware address is the one of the port, not of what is plugged into it. -/
def switchPortChanged (switchId : DatapathId) (port : OFPortDesc) (type : PortChangeType) :
    Exec DeviceWorld Unit :=
  if type = .up ∨ type = .add then
    DeviceListener.onTracer (TraceAppController.onPortStatusChange switchId.getLong
      port.getPortNo.getPortNumber port.getHwAddr.getLong)
  else pure ()

/-- A callback, with what it meets outside the module. -/
inductive Callback where
  | device (c : DeviceListener.Callback)
  | switchAdded (fl : Floodlight) (keySet : KeySetOrder MacAddress)
      (getPorts : DatapathId → Option (List OFPortDesc)) (switchId : DatapathId)
  | switchPortChanged (switchId : DatapathId) (port : OFPortDesc) (type : PortChangeType)
  | switchRemoved (switchId : DatapathId)
  | switchActivated (switchId : DatapathId)
  | switchChanged (switchId : DatapathId)
  | deviceIPV4AddrChanged (device : IDevice)
  | deviceIPV6AddrChanged (device : IDevice)
  | deviceVlanChanged (device : IDevice)

/-- Where the host is from now on: at the ports, or nowhere. -/
def attach (devices : HashMap MacAddress (List SwitchPort)) (mac : MacAddress) :
    Option (List SwitchPort) → HashMap MacAddress (List SwitchPort)
  | some ports => devices.put mac ports
  | none => devices.remove mac

theorem get_attach (devices : HashMap MacAddress (List SwitchPort)) (mac mac' : MacAddress)
    (ports : Option (List SwitchPort)) :
    (attach devices mac ports).get mac' = if mac' = mac then ports else devices.get mac' := by
  cases ports with
  | none => exact HashMap.get_remove _ _ _
  | some ports => exact HashMap.get_put _ _ _ _

theorem attach_comm (devices : HashMap MacAddress (List SwitchPort)) {mac mac' : MacAddress}
    (h : mac ≠ mac') (ports ports' : Option (List SwitchPort)) :
    attach (attach devices mac ports) mac' ports' =
      attach (attach devices mac' ports') mac ports := by
  cases ports with
  | none =>
    cases ports' with
    | none => exact HashMap.remove_remove_comm _ _ _
    | some ports' => exact (HashMap.put_remove_of_ne _ _ (Ne.symm h)).symm
  | some ports =>
    cases ports' with
    | none => exact HashMap.put_remove_of_ne _ _ h
    | some ports' => exact HashMap.put_put_of_ne _ _ _ h

namespace Callback

def exec (ofj : OpenFlowJ) (macNone : MacAddress) : Callback → Exec DeviceWorld Unit
  | device c => c.exec
  | switchAdded fl keySet getPorts switchId =>
    TraceModule.switchAdded ofj (network ofj fl) macNone keySet getPorts switchId
  | switchPortChanged switchId port type => TraceModule.switchPortChanged switchId port type
  | switchRemoved _ => pure ()
  | switchActivated _ => pure ()
  | switchChanged _ => pure ()
  | deviceIPV4AddrChanged _ => pure ()
  | deviceIPV6AddrChanged _ => pure ()
  | deviceVlanChanged _ => pure ()

/-- What the callback does to the map of devices. -/
def writeDevices : Callback → HashMap MacAddress (List SwitchPort) →
    HashMap MacAddress (List SwitchPort)
  | device c, devices => attach devices c.mac c.attached
  | _, devices => devices

/-- The host that the callback reports on a port. -/
def portStatus : Callback → Option PortStatus
  | device c => c.report.map fun port =>
      ⟨port.getSwitchDPID.getLong, port.getPort.getPortNumber, c.mac.getLong⟩
  | switchPortChanged switchId port type =>
    if type = .up ∨ type = .add then
      some ⟨switchId.getLong, port.getPortNo.getPortNumber, port.getHwAddr.getLong⟩
    else none
  | _ => none

/-- The call on the controller that the callback makes, when the devices are `devices`. -/
def event (ofj : OpenFlowJ) (macNone : MacAddress)
    (devices : HashMap MacAddress (List SwitchPort)) : Callback → Option Event
  | switchAdded fl keySet getPorts switchId =>
    (getPorts switchId).map fun ports => .switchInfoReceived (network ofj fl) switchId.getLong
      (portMacPairs macNone keySet devices switchId ports)
  | c => c.portStatus.map PortStatus.toEvent

end Callback

variable (ofj : OpenFlowJ) (macNone : MacAddress)

def step (s : DeviceWorld) (c : Callback) : DeviceWorld := (run (c.exec ofj macNone) s).2

/-- The two maps after the callbacks. -/
def after (cs : List Callback) : DeviceWorld := cs.foldl (step ofj macNone) DeviceListener.init

theorem after_concat (cs : List Callback) (c : Callback) :
    after ofj macNone (cs ++ [c]) = step ofj macNone (after ofj macNone cs) c := by
  unfold after
  rw [List.foldl_append]
  rfl

/-! ## One callback -/

theorem step_device (s : DeviceWorld) (c : DeviceListener.Callback) :
    step ofj macNone s (.device c) =
      { devices := (Callback.device c).writeDevices s.devices
        tracer := ((Callback.device c).portStatus.map PortStatus.toEvent).elim s.tracer
          (JSdnTrace.step ofj s.tracer) } := by
  unfold step
  cases c with
  | deviceAdded device =>
    show (run (DeviceListener.deviceAdded device) s).2 = _
    rw [DeviceListener.run_deviceAdded]
    show _ = DeviceWorld.mk _ (Option.elim (Option.map _ (Option.map _
      (DeviceListener.single device.getAttachmentPoints))) _ _)
    cases DeviceListener.single device.getAttachmentPoints with
    | none => rfl
    | some port => rfl
  | deviceRemoved device => rfl
  | deviceMoved device => rfl

theorem step_switchPortChanged (s : DeviceWorld) (switchId : DatapathId) (port : OFPortDesc)
    (type : PortChangeType) :
    step ofj macNone s (.switchPortChanged switchId port type) =
      { devices := s.devices
        tracer := ((Callback.switchPortChanged switchId port type).portStatus.map
          PortStatus.toEvent).elim s.tracer (JSdnTrace.step ofj s.tracer) } := by
  show (run (switchPortChanged switchId port type) s).2 = _
  unfold switchPortChanged
  by_cases h : type = .up ∨ type = .add
  · have hreport : (Callback.switchPortChanged switchId port type).portStatus =
        some ⟨switchId.getLong, port.getPortNo.getPortNumber, port.getHwAddr.getLong⟩ := if_pos h
    rw [if_pos h, DeviceListener.run_onTracer, hreport]
    rfl
  · have hreport : (Callback.switchPortChanged switchId port type).portStatus = none := if_neg h
    rw [if_neg h, hreport]
    rfl

theorem step_switchAdded (s : DeviceWorld) (fl : Floodlight) (keySet : KeySetOrder MacAddress)
    (getPorts : DatapathId → Option (List OFPortDesc)) (switchId : DatapathId) :
    step ofj macNone s (.switchAdded fl keySet getPorts switchId) =
      { devices := s.devices
        tracer := ((Callback.switchAdded fl keySet getPorts switchId).event ofj macNone
          s.devices).elim s.tracer (JSdnTrace.step ofj s.tracer) } := by
  show (run (switchAdded ofj (network ofj fl) macNone keySet getPorts switchId) s).2 =
    DeviceWorld.mk s.devices (Option.elim (Option.map _ (getPorts switchId)) _ _)
  cases hports : getPorts switchId with
  | some ports =>
    rw [run_switchAdded ofj (network ofj fl) macNone keySet hports]
    rfl
  | none =>
    -- The switch has gone, and reading its ports throws.
    unfold switchAdded
    rw [hports, run_bind, run_lift]
    rfl

/-- A callback is a write to the map of devices and at most one event of the controller. -/
theorem step_eq (s : DeviceWorld) (c : Callback) :
    step ofj macNone s c =
      { devices := c.writeDevices s.devices
        tracer := (c.event ofj macNone s.devices).elim s.tracer
          (JSdnTrace.step ofj s.tracer) } := by
  cases c with
  | device c => exact step_device ofj macNone s c
  | switchAdded fl keySet getPorts switchId =>
    exact step_switchAdded ofj macNone s fl keySet getPorts switchId
  | switchPortChanged switchId port type =>
    exact step_switchPortChanged ofj macNone s switchId port type
  | _ => rfl

/-- The call writes one port into one table. -/
def writePort (netMap : HashMap JLong (HashMap JLong JInt)) (r : PortStatus) :
    HashMap JLong (HashMap JLong JInt) :=
  netMap.put r.dpid (((netMap.get r.dpid).getD ∅).put r.mac r.portNum)

theorem step_toEvent (w : World) (r : PortStatus) :
    JSdnTrace.step ofj w r.toEvent = w.setNetMap (writePort w.app.netMap r) :=
  congrArg Prod.snd (TraceAppController.run_onPortStatusChange w r.dpid r.portNum r.mac)

/-! ## The run of the controller -/

/-- The map of devices, which only the callbacks of the device manager write. -/
def devicesAfter (cs : List Callback) : HashMap MacAddress (List SwitchPort) :=
  cs.foldl (fun devices c => c.writeDevices devices) ∅

/-- The calls on the controller, callback by callback. -/
def events (cs : List Callback) : List Event :=
  (mapHistory (fun past c => (c.event ofj macNone (devicesAfter past)).toList) [] cs).flatten

theorem devicesAfter_concat (cs : List Callback) (c : Callback) :
    devicesAfter (cs ++ [c]) = c.writeDevices (devicesAfter cs) := by
  unfold devicesAfter
  rw [List.foldl_append]
  rfl

theorem events_concat (cs : List Callback) (c : Callback) :
    events ofj macNone (cs ++ [c]) =
      events ofj macNone cs ++ (c.event ofj macNone (devicesAfter cs)).toList := by
  unfold events
  rw [flatten_mapHistory_concat, List.nil_append]

theorem devices_after (cs : List Callback) :
    (after ofj macNone cs).devices = devicesAfter cs := by
  induction cs using List.reverseRecOn with
  | nil => rfl
  | append_singleton cs c ih => rw [after_concat, step_eq, devicesAfter_concat, ih]

theorem tracer_after (cs : List Callback) :
    (after ofj macNone cs).tracer = reached ofj (events ofj macNone cs) := by
  induction cs using List.reverseRecOn with
  | nil => rfl
  | append_singleton cs c ih =>
    rw [after_concat, step_eq, events_concat, devices_after, ih]
    cases c.event ofj macNone (devicesAfter cs) with
    | none => rw [Option.toList_none, List.append_nil, Option.elim_none]
    | some e => rw [Option.toList_some, reached_concat, Option.elim_some]

/-- The last attachment points that the device manager reported for the host. -/
def lastAttached (mac : MacAddress) (cs : List Callback) : Option (List SwitchPort) :=
  cs.foldl (fun ports c =>
    match c with
    | .device c => if c.mac = mac then c.attached else ports
    | _ => ports) none

theorem get_devicesAfter (mac : MacAddress) (cs : List Callback) :
    (devicesAfter cs).get mac = lastAttached mac cs := by
  induction cs using List.reverseRecOn with
  | nil => rfl
  | append_singleton cs c ih =>
    rw [devicesAfter_concat]
    unfold lastAttached at ih ⊢
    rw [List.foldl_append, ← ih]
    cases c with
    | device c =>
      show HashMap.get (attach _ c.mac c.attached) mac = if c.mac = mac then c.attached else _
      rw [get_attach]
      simp only [eq_comm]
    | _ => rfl

/-- The module does a run of the controller, with the calls that its callbacks amount to: each
    map holds the latest of what was reported to it. -/
theorem after_refines (cs : List Callback) :
    (after ofj macNone cs).tracer = reached ofj (events ofj macNone cs) ∧
      (∀ mac, (after ofj macNone cs).devices.get mac = lastAttached mac cs) ∧
      ∀ dpid mac, registeredPort (after ofj macNone cs).tracer.app.netMap dpid mac =
        lastWrite dpid mac (events ofj macNone cs) := by
  refine ⟨tracer_after ofj macNone cs, fun mac => ?_, fun dpid mac => ?_⟩
  · rw [devices_after, get_devicesAfter]
  · rw [tracer_after]
    exact registeredPort_reached ofj _ dpid mac

end TraceModule

end JSdnTrace
