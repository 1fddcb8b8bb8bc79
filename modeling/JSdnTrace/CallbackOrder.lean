/-
  The order of the callbacks. Those about different hosts commute, so only the order of the
  callbacks about each host matters.

  * `channels_about`: callbacks that are about no host in common commute.
  * `after_eq_of_sameOrder`: callbacks about different hosts can come in any order.
-/
import JSdnTrace.Lib.Channels
import JSdnTrace.ModuleRun

namespace JSdnTrace

open Java Lib

namespace TraceModule

variable (ofj : OpenFlowJ) (macNone : MacAddress)

/-- The callback reads or writes what is known of the host. A switch that connects is searched
    for every host. -/
def Callback.About : Callback → MacAddress → Prop
  | .device c, mac => c.mac = mac
  | .switchAdded _ _ _ _, _ => True
  | .switchPortChanged _ port type, mac => (type = .up ∨ type = .add) ∧ port.getHwAddr = mac
  | _, _ => False

instance (c : Callback) (mac : MacAddress) : Decidable (c.About mac) := by
  unfold Callback.About
  split <;> infer_instance

/-- Two hosts are written in either order, also into one table. -/
theorem writePort_comm (netMap : HashMap JLong (HashMap JLong JInt)) {r r' : PortStatus}
    (h : r.mac ≠ r'.mac) :
    writePort (writePort netMap r) r' = writePort (writePort netMap r') r := by
  unfold writePort
  by_cases hd : r.dpid = r'.dpid
  · rw [hd, HashMap.get_put_self, HashMap.get_put_self, HashMap.put_put, HashMap.put_put,
      Option.getD_some, Option.getD_some, HashMap.put_put_of_ne _ _ _ h]
  · rw [HashMap.get_put_of_ne _ _ (Ne.symm hd), HashMap.get_put_of_ne _ _ hd,
      HashMap.put_put_of_ne _ _ _ hd]

namespace Callback

theorem about_of_portStatus {c : Callback} {r : PortStatus} (h : c.portStatus = some r) :
    c.About ⟨r.mac⟩ := by
  cases c with
  | device c =>
    obtain ⟨port, -, rfl⟩ := Option.map_eq_some_iff.mp h
    exact rfl
  | switchPortChanged switchId port type =>
    obtain ⟨htype, hr⟩ := Option.ite_none_right_eq_some.mp h
    obtain rfl := Option.some_inj.mp hr
    exact ⟨htype, rfl⟩
  | _ => exact absurd h (Option.some_ne_none r).symm

theorem writeDevices_comm {c c' : Callback} (h : ∀ mac, c.About mac → ¬ c'.About mac)
    (devices : HashMap MacAddress (List SwitchPort)) :
    c'.writeDevices (c.writeDevices devices) = c.writeDevices (c'.writeDevices devices) := by
  cases c with
  | device c =>
    cases c' with
    | device c' =>
      exact attach_comm devices (fun heq => h c.mac rfl heq.symm) _ _
    | _ => rfl
  | _ => rfl

/-- A callback about no host does nothing. -/
theorem silent {c : Callback} (h : ∀ mac, ¬ c.About mac)
    (devices : HashMap MacAddress (List SwitchPort)) :
    c.writeDevices devices = devices ∧ c.event ofj macNone devices = none := by
  cases c with
  | device c => exact absurd rfl (h c.mac)
  | switchAdded fl keySet getPorts switchId => exact absurd trivial (h macNone)
  | switchPortChanged switchId port type =>
    refine ⟨rfl, ?_⟩
    have hnone : (switchPortChanged switchId port type).portStatus = none :=
      if_neg fun htype => h port.getHwAddr ⟨htype, rfl⟩
    show Option.map _ (switchPortChanged switchId port type).portStatus = none
    rw [hnone, Option.map_none]
  | _ => exact ⟨rfl, rfl⟩

/-- Every callback but `switchAdded` makes its call whatever the devices are. -/
theorem event_eq_or (c : Callback) :
    (∀ mac, c.About mac) ∨
      ∀ devices, c.event ofj macNone devices = c.portStatus.map PortStatus.toEvent := by
  cases c with
  | switchAdded fl keySet getPorts switchId => exact Or.inl fun _ => trivial
  | _ => exact Or.inr fun _ => rfl

end Callback

theorem step_silent {c : Callback} (h : ∀ mac, ¬ c.About mac) (s : DeviceWorld) :
    step ofj macNone s c = s := by
  obtain ⟨hdevices, hevent⟩ := Callback.silent ofj macNone h s.devices
  rw [step_eq, hdevices, hevent, Option.elim_none]

theorem channels_about : Channels (step ofj macNone) Callback.About where
  swap c c' h s := by
    rcases c.event_eq_or ofj macNone with hall | hc
    · rw [step_silent ofj macNone fun mac => h mac (hall mac),
        step_silent ofj macNone fun mac => h mac (hall mac)]
    rcases c'.event_eq_or ofj macNone with hall | hc'
    · rw [step_silent ofj macNone fun mac hmac => h mac hmac (hall mac),
        step_silent ofj macNone fun mac hmac => h mac hmac (hall mac)]
    simp only [step_eq, hc, hc', Callback.writeDevices_comm h]
    cases hr : c.portStatus with
    | none => rfl
    | some r =>
      cases hr' : c'.portStatus with
      | none => rfl
      | some r' =>
        have hne : r.mac ≠ r'.mac := fun heq =>
          h ⟨r.mac⟩ (Callback.about_of_portStatus hr) (heq ▸ Callback.about_of_portStatus hr')
        simp only [Option.map_some, Option.elim_some, step_toEvent]
        exact congrArg (fun m => DeviceWorld.mk _ (s.tracer.setNetMap m))
          (writePort_comm s.tracer.app.netMap hne)
  silent c h s := step_silent ofj macNone h s

/-- Two runs with the same callbacks in the same order about each host end in the same state. -/
theorem after_eq_of_sameOrder {cs cs' : List Callback}
    (h : ∀ mac, onChannel Callback.About mac cs = onChannel Callback.About mac cs') :
    after ofj macNone cs = after ofj macNone cs' :=
  (channels_about ofj macNone).foldl_eq h DeviceListener.init

/-- The switch 1 connects, and a host is found on its port 3. -/
def hostFound (mac : MacAddress) : List Callback :=
  [.switchAdded (.untagged fun _ => true) macOrder (fun _ => some []) ⟨1⟩,
    .device (.deviceAdded ⟨mac, [⟨⟨1⟩, ⟨3⟩⟩]⟩)]

/-- A host that moves meanwhile does not disturb it. -/
theorem after_hostFound_eq :
    after OpenFlowJ.documented ⟨0⟩
        (.device (.deviceMoved ⟨⟨6⟩, []⟩) :: .device (.deviceAdded ⟨⟨5⟩, [⟨⟨1⟩, ⟨3⟩⟩]⟩) ::
          hostFound ⟨7⟩) =
      after OpenFlowJ.documented ⟨0⟩
        (.device (.deviceAdded ⟨⟨5⟩, [⟨⟨1⟩, ⟨3⟩⟩]⟩) :: .device (.deviceMoved ⟨⟨6⟩, []⟩) ::
          hostFound ⟨7⟩) :=
  after_eq_of_sameOrder OpenFlowJ.documented ⟨0⟩ fun mac =>
    onChannel_swap Callback.About (fun mac h6 h5 => by
      have heq : (⟨6⟩ : MacAddress) = ⟨5⟩ := Eq.trans h6 (Eq.symm h5)
      exact absurd heq (by decide)) mac _

end TraceModule

end JSdnTrace
