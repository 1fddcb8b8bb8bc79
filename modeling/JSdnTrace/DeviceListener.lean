/-
  `TraceModule.DeviceListener`: the map of devices it keeps, and what it tells the controller of
  the callbacks of Floodlight's device manager.

  * `single`: the attachment point of a device that has just one.
  * `location_step`, `registeredPort_step`: what a callback does to each of the two maps.
  * `follows_iff`: the map of the controller follows the map of devices exactly in the runs in
    which `deviceAdded` puts no device on a second switch and nothing else changes where a
    device is. Only `deviceAdded` tells the controller anything, and nothing is ever taken back.
-/
import JSdnTrace.NetMap

namespace JSdnTrace

open Java Lib

/-- Floodlight's `SwitchPort`: where a device is attached. -/
structure SwitchPort where
  getSwitchDPID : DatapathId
  getPort : OFPort
  deriving DecidableEq

/-- Floodlight's `IDevice`, at a callback. -/
structure IDevice where
  getMACAddress : MacAddress
  getAttachmentPoints : List SwitchPort

/-- The listener and the controller it reports to. -/
structure DeviceWorld where
  devices : HashMap MacAddress (List SwitchPort)
  tracer : World

namespace DeviceListener

/-- `new DeviceListener(traceModule)`, with a new controller. -/
def init : DeviceWorld := ⟨∅, World.init⟩

/-- A call on `parent.tracer`. -/
def onTracer (x : Exec World Unit) : Exec DeviceWorld Unit :=
  zoom (·.tracer) (fun w s => { s with tracer := w }) x

def deviceAdded (device : IDevice) : Exec DeviceWorld Unit := do
  let mac := device.getMACAddress
  let ports := device.getAttachmentPoints
  modify fun s => { s with devices := s.devices.put mac ports }
  match ports with
  | [port] =>
    onTracer (TraceAppController.onPortStatusChange port.getSwitchDPID.getLong
      port.getPort.getPortNumber mac.getLong)
  | _ => pure ()

def deviceRemoved (device : IDevice) : Exec DeviceWorld Unit :=
  modify fun s => { s with devices := s.devices.remove device.getMACAddress }

/-- The key that is removed is the device itself, and the keys are `MacAddress`es. -/
def deviceMoved (device : IDevice) : Exec DeviceWorld Unit := do
  modify fun s => { s with devices := s.devices.removeObject (.inr device) }
  modify fun s =>
    { s with devices := s.devices.put device.getMACAddress device.getAttachmentPoints }

/-! ## Callbacks -/

inductive Callback where
  | deviceAdded (device : IDevice)
  | deviceRemoved (device : IDevice)
  | deviceMoved (device : IDevice)

namespace Callback

def exec : Callback → Exec DeviceWorld Unit
  | deviceAdded device => DeviceListener.deviceAdded device
  | deviceRemoved device => DeviceListener.deviceRemoved device
  | deviceMoved device => DeviceListener.deviceMoved device

def mac : Callback → MacAddress
  | deviceAdded device => device.getMACAddress
  | deviceRemoved device => device.getMACAddress
  | deviceMoved device => device.getMACAddress

end Callback

def step (s : DeviceWorld) (c : Callback) : DeviceWorld := (run c.exec s).2

/-- The two maps after the callbacks. -/
def after (cs : List Callback) : DeviceWorld := cs.foldl step init

theorem after_concat (cs : List Callback) (c : Callback) :
    after (cs ++ [c]) = step (after cs) c := by
  unfold after
  rw [List.foldl_append]
  rfl

/-! ## Where a device is -/

/-- The attachment point, when there is exactly one. -/
def single : List SwitchPort → Option SwitchPort
  | [port] => some port
  | _ => none

theorem single_eq_some {ports : List SwitchPort} {port : SwitchPort} :
    single ports = some port ↔ ports = [port] := by
  unfold single
  split
  · simp
  · next h => exact iff_of_false (fun hn => nomatch hn) fun hp => h port hp

/-- Where the listener has the device with this address, when that is one place. -/
def location (s : DeviceWorld) (mac : MacAddress) : Option SwitchPort :=
  (s.devices.get mac).bind single

namespace Callback

/-- The attachment points that the callback leaves its device with. -/
def attached : Callback → Option (List SwitchPort)
  | deviceAdded device => some device.getAttachmentPoints
  | deviceRemoved _ => none
  | deviceMoved device => some device.getAttachmentPoints

/-- Where the callback puts its device, when that is one place. -/
def location (c : Callback) : Option SwitchPort := c.attached.bind single

/-- What the callback tells the controller. -/
def report : Callback → Option SwitchPort
  | deviceAdded device => single device.getAttachmentPoints
  | deviceRemoved _ => none
  | deviceMoved _ => none

theorem location_of_report {c : Callback} {port : SwitchPort} (h : c.report = some port) :
    c.location = some port := by
  cases c with
  | deviceAdded device => exact h
  | deviceRemoved device => cases h
  | deviceMoved device => cases h

end Callback

/-! ## One callback -/

theorem run_onTracer (x : Exec World Unit) (s : DeviceWorld) :
    run (onTracer x) s = ((run x s.tracer).1, { s with tracer := (run x s.tracer).2 }) :=
  run_zoom _ _ x s

/-- A device is put into the map, and its port is reported when it has one. -/
theorem run_deviceAdded (device : IDevice) (s : DeviceWorld) :
    (run (deviceAdded device) s).2 =
      { devices := s.devices.put device.getMACAddress device.getAttachmentPoints
        tracer :=
          match single device.getAttachmentPoints with
          | some port => (run (TraceAppController.onPortStatusChange port.getSwitchDPID.getLong
              port.getPort.getPortNumber device.getMACAddress.getLong) s.tracer).2
          | none => s.tracer } := by
  unfold deviceAdded single
  simp only [run_bind, run_modify, andThen_ok]
  split
  · rw [run_onTracer]
  · rfl

theorem get_devices_step (s : DeviceWorld) (c : Callback) (mac : MacAddress) :
    (step s c).devices.get mac = if mac = c.mac then c.attached else s.devices.get mac := by
  unfold step
  cases c with
  | deviceAdded device =>
    rw [Callback.exec, run_deviceAdded]
    exact HashMap.get_put _ _ _ _
  | deviceRemoved device => exact HashMap.get_remove _ _ _
  | deviceMoved device => exact HashMap.get_put _ _ _ _

theorem location_step (s : DeviceWorld) (c : Callback) (mac : MacAddress) :
    location (step s c) mac = if mac = c.mac then c.location else location s mac := by
  unfold location
  rw [get_devices_step]
  split <;> rfl

theorem netMap_onPortStatusChange (w : World) (dpid : JLong) (portNum : JInt) (mac : JLong) :
    (run (TraceAppController.onPortStatusChange dpid portNum mac) w).2.app.netMap =
      (Event.onPortStatusChange dpid portNum mac).writeNetMap w.app.netMap :=
  congrArg (·.2.app.netMap) (TraceAppController.run_onPortStatusChange w dpid portNum mac)

/-- The table of the controller changes only where the callback reports a port. -/
theorem registeredPort_step (s : DeviceWorld) (c : Callback) (dpid mac : JLong) :
    registeredPort (step s c).tracer.app.netMap dpid mac =
      match c.report with
      | some port =>
        if port.getSwitchDPID.getLong = dpid ∧ c.mac.getLong = mac then
          some port.getPort.getPortNumber
        else registeredPort s.tracer.app.netMap dpid mac
      | none => registeredPort s.tracer.app.netMap dpid mac := by
  unfold step
  cases c with
  | deviceAdded device =>
    rw [Callback.exec, run_deviceAdded, Callback.report]
    cases single device.getAttachmentPoints with
    | none => rfl
    | some port =>
      dsimp only
      rw [netMap_onPortStatusChange, registeredPort_onPortStatusChange]
      rfl
  | deviceRemoved device => rfl
  | deviceMoved device => rfl

/-! ## A run of callbacks -/

/-- The controller has a host on a port exactly when the listener has it there alone. -/
def Follows (s : DeviceWorld) : Prop :=
  ∀ dpid mac port, registeredPort s.tracer.app.netMap dpid mac = some port ↔
    s.devices.get ⟨mac⟩ = some [⟨⟨dpid⟩, ⟨port⟩⟩]

theorem follows_init : Follows init := by
  intro dpid mac port
  exact iff_of_false (fun h => nomatch h) fun h => nomatch h

/-- The callback tells the controller what it changes: a device that is put on one port was on
    no other switch, and any other callback leaves the device where it was. -/
def Clean (s : DeviceWorld) (c : Callback) : Prop :=
  match c.report with
  | some port => ∀ port', location s c.mac = some port' → port'.getSwitchDPID = port.getSwitchDPID
  | none => location s c.mac = c.location

theorem location_eq_some {s : DeviceWorld} {mac : MacAddress} {port : SwitchPort} :
    location s mac = some port ↔ s.devices.get mac = some [port] := by
  unfold location
  rw [Option.bind_eq_some_iff]
  refine ⟨fun h => ?_, fun h => ⟨[port], h, rfl⟩⟩
  obtain ⟨ports, hports, hsingle⟩ := h
  rw [hports, single_eq_some.mp hsingle]

theorem follows_iff_location {s : DeviceWorld} :
    Follows s ↔ ∀ dpid mac port, registeredPort s.tracer.app.netMap dpid mac = some port ↔
      location s ⟨mac⟩ = some ⟨⟨dpid⟩, ⟨port⟩⟩ := by
  unfold Follows
  simp only [location_eq_some]

/-- A callback that reports nothing is followed when it leaves its device where it was. -/
theorem follows_step_iff_of_none {s : DeviceWorld} (h : Follows s) {c : Callback}
    (hreport : c.report = none) : Follows (step s c) ↔ location s c.mac = c.location := by
  have hs := follows_iff_location.mp h
  rw [follows_iff_location]
  simp only [registeredPort_step, location_step, hreport]
  refine ⟨fun hstep => ?_, fun hclean dpid mac port => ?_⟩
  · apply Option.ext
    intro port
    have hc := hstep port.getSwitchDPID.getLong c.mac.getLong port.getPort.getPortNumber
    rw [hs, if_pos rfl] at hc
    exact hc
  · rw [hs]
    by_cases hm : (⟨mac⟩ : MacAddress) = c.mac
    · rw [if_pos hm, hm, hclean]
    · rw [if_neg hm]

/-- A callback that reports a port is followed when its device was on no other switch. -/
theorem follows_step_iff_of_some {s : DeviceWorld} (h : Follows s) {c : Callback}
    {port : SwitchPort} (hreport : c.report = some port) :
    Follows (step s c) ↔
      ∀ port', location s c.mac = some port' → port'.getSwitchDPID = port.getSwitchDPID := by
  have hs := follows_iff_location.mp h
  rw [follows_iff_location]
  simp only [registeredPort_step, location_step, hreport, Callback.location_of_report hreport]
  refine ⟨fun hstep port' hport' => ?_, fun hclean dpid mac p => ?_⟩
  · -- The controller would still have the device on the switch of `port'`.
    by_contra hne
    have hold := (hs port'.getSwitchDPID.getLong c.mac.getLong
      port'.getPort.getPortNumber).mpr hport'
    have hc := hstep port'.getSwitchDPID.getLong c.mac.getLong port'.getPort.getPortNumber
    rw [if_neg fun heq => hne (congrArg DatapathId.mk heq.1.symm), if_pos rfl] at hc
    exact hne (congrArg (·.getSwitchDPID) (Option.some_inj.mp (hc.mp hold)).symm)
  · by_cases hm : (⟨mac⟩ : MacAddress) = c.mac
    · rw [if_pos hm, ← hm]
      by_cases hd : port.getSwitchDPID.getLong = dpid
      · rw [if_pos ⟨hd, rfl⟩, ← hd, Option.some_inj, Option.some_inj]
        refine ⟨fun hp => by rw [← hp], fun hp => by rw [hp]⟩
      · rw [if_neg fun heq => hd heq.1, hs, hm]
        refine iff_of_false (fun hold => ?_) fun hnew => ?_
        · exact hd (congrArg DatapathId.getLong (hclean _ hold)).symm
        · exact hd (by rw [Option.some_inj.mp hnew])
    · rw [if_neg hm, if_neg fun heq => hm (congrArg MacAddress.mk heq.2.symm), hs]

theorem follows_step_iff {s : DeviceWorld} (h : Follows s) (c : Callback) :
    Follows (step s c) ↔ Clean s c := by
  unfold Clean
  cases hreport : c.report with
  | none => exact follows_step_iff_of_none h hreport
  | some port => exact follows_step_iff_of_some h hreport

/-- The two maps agree after every callback exactly when every callback is clean. -/
theorem follows_iff (cs : List Callback) :
    EachStep (fun pre c => Follows (after (pre ++ [c]))) cs ↔
      EachStep (fun pre c => Clean (after pre) c) cs := by
  refine eachStep_iff (I := fun pre => Follows (after pre)) follows_init (fun pre c h hc => ?_)
    (fun pre c h => ?_) cs
  · rw [after_concat]
    exact (follows_step_iff h c).mpr hc
  · rw [after_concat]
    exact follows_step_iff h c

/-- A host that moves to switch 2 stays on switch 1 for the controller. -/
theorem movedDevice_not_follows :
    ¬ EachStep (fun pre c => Follows (after (pre ++ [c])))
      [.deviceAdded ⟨⟨5⟩, [⟨⟨1⟩, ⟨1⟩⟩]⟩, .deviceMoved ⟨⟨5⟩, [⟨⟨2⟩, ⟨1⟩⟩]⟩] := by
  intro h
  have hfollows := h [.deviceAdded ⟨⟨5⟩, [⟨⟨1⟩, ⟨1⟩⟩]⟩] (.deviceMoved ⟨⟨5⟩, [⟨⟨2⟩, ⟨1⟩⟩]⟩) [] rfl
  have hold : registeredPort (after [.deviceAdded ⟨⟨5⟩, [⟨⟨1⟩, ⟨1⟩⟩]⟩]).tracer.app.netMap 1 5 =
      some 1 := rfl
  have hdevices := (hfollows 1 5 1).mp hold
  exact absurd hdevices (by decide)

end DeviceListener

end JSdnTrace
