/-
  `TraceModule.switchAdded`: the table that a new switch is announced with, from its ports and
  the map of devices.

  * `run_switchAdded`: the table goes to the controller, as one event of its run.
  * `findMacOnPort_eq`: the search returns a device whose single attachment point is the port,
    or `MacAddress.NONE` when there is none. Which of several it returns is up to the hash order.
  * `mem_portMacPairs`: a port is announced when a device was found, under the address of the
    port and not of the device.
  * `announcesSingles_iff`: so the table is that of the devices exactly when no port with a
    device has another one, and each has the address of its device.
-/
import JSdnTrace.DeviceListener

namespace JSdnTrace

open Java

/-- `OFPortDesc`: a port of a switch. -/
structure OFPortDesc where
  getPortNo : OFPort
  getHwAddr : MacAddress

namespace TraceModule

/-- The loop of `findMacOnPort` over the keys still to visit. -/
def findLoop (macNone : MacAddress) (map : HashMap MacAddress (List SwitchPort))
    (target : List SwitchPort) : List MacAddress → MacAddress
  | [] => macNone
  | addr :: addrs =>
    if map.get addr = some target then addr else findLoop macNone map target addrs

/-- `macNone` is the constant `MacAddress.NONE`. -/
def findMacOnPort (macNone : MacAddress) (keySet : KeySetOrder MacAddress)
    (map : HashMap MacAddress (List SwitchPort)) (p : OFPort) (dpid : DatapathId) : MacAddress :=
  findLoop macNone map [⟨dpid, p⟩] (keySet.visit map.keySet)

/-- The loop of `switchAdded` over the ports of the switch. -/
def portMacPairs (macNone : MacAddress) (keySet : KeySetOrder MacAddress)
    (devices : HashMap MacAddress (List SwitchPort)) (switchId : DatapathId) :
    List OFPortDesc → List PortMacPair
  | [] => []
  | p :: ports =>
    if p.getHwAddr.getLong.toInt < 0 then
      portMacPairs macNone keySet devices switchId ports
    else
      let addr := findMacOnPort macNone keySet devices p.getPortNo switchId
      -- A comparison of references; the constant is the only object of its value.
      if addr ≠ macNone then
        ⟨p.getHwAddr.getLong, p.getPortNo.getPortNumber⟩ ::
          portMacPairs macNone keySet devices switchId ports
      else portMacPairs macNone keySet devices switchId ports

/-- `switchAdded`; the ports are those of the active switch, which is `null` when it has gone. -/
def switchAdded (ofj : OpenFlowJ) (network : INetwork) (macNone : MacAddress)
    (keySet : KeySetOrder MacAddress) (getPorts : DatapathId → Option (List OFPortDesc))
    (switchId : DatapathId) : Exec DeviceWorld Unit := do
  let ports ← liftM (deref (getPorts switchId))
  let s ← get
  let pm := portMacPairs macNone keySet s.devices switchId ports
  DeviceListener.onTracer
    (TraceAppController.switchInfoReceived ofj network switchId.getLong pm)

/-- The controller is given the table, and the map of devices stays as it is. -/
theorem run_switchAdded (ofj : OpenFlowJ) (network : INetwork) (macNone : MacAddress)
    (keySet : KeySetOrder MacAddress) {getPorts : DatapathId → Option (List OFPortDesc)}
    {switchId : DatapathId} {ports : List OFPortDesc} (h : getPorts switchId = some ports)
    (s : DeviceWorld) :
    run (switchAdded ofj network macNone keySet getPorts switchId) s =
      ((run (TraceAppController.switchInfoReceived ofj network switchId.getLong
          (portMacPairs macNone keySet s.devices switchId ports)) s.tracer).1,
        { s with tracer := step ofj s.tracer (.switchInfoReceived network switchId.getLong
          (portMacPairs macNone keySet s.devices switchId ports)) }) := by
  unfold switchAdded
  rw [run_bind, run_lift, h, deref_some, andThen_ok, run_bind, run_get, andThen_ok,
    DeviceListener.run_onTracer]
  rfl

/-! ## The search -/

/-- The one attachment point of the device `m` is the port `p` of the switch. -/
def OnPort (devices : HashMap MacAddress (List SwitchPort)) (dpid : DatapathId) (p : OFPort)
    (m : MacAddress) : Prop :=
  devices.get m = some [⟨dpid, p⟩]

section Search

variable {macNone : MacAddress} {devices : HashMap MacAddress (List SwitchPort)}
  {dpid : DatapathId} {p : OFPort}

theorem findLoop_eq (macNone : MacAddress) (map : HashMap MacAddress (List SwitchPort))
    (target : List SwitchPort) (keys : List MacAddress) :
    map.get (findLoop macNone map target keys) = some target ∨
      (findLoop macNone map target keys = macNone ∧ ∀ k ∈ keys, map.get k ≠ some target) := by
  induction keys with
  | nil => exact Or.inr ⟨rfl, fun k hk => absurd hk List.not_mem_nil⟩
  | cons k keys ih =>
    unfold findLoop
    split
    · next h => exact Or.inl h
    · next h =>
      rcases ih with hfound | ⟨hnone, hall⟩
      · exact Or.inl hfound
      · exact Or.inr ⟨hnone, List.forall_mem_cons.mpr ⟨h, hall⟩⟩

theorem OnPort.mem_keySet {m : MacAddress} (h : OnPort devices dpid p m) :
    m ∈ devices.keySet :=
  HashMap.mem_keySet.mpr (HashMap.mem_iff_get.mpr ⟨_, h⟩)

/-- Whatever the order, the search finds a device on the port, or that there is none. -/
theorem findMacOnPort_eq (macNone : MacAddress) (keySet : KeySetOrder MacAddress) :
    OnPort devices dpid p (findMacOnPort macNone keySet devices p dpid) ∨
      (findMacOnPort macNone keySet devices p dpid = macNone ∧
        ∀ m, ¬ OnPort devices dpid p m) := by
  rcases findLoop_eq macNone devices [⟨dpid, p⟩] (keySet.visit devices.keySet) with
    hfound | ⟨hnone, hall⟩
  · exact Or.inl hfound
  · refine Or.inr ⟨hnone, fun m hm => ?_⟩
    exact hall m ((keySet.mem_visit _ m).mpr hm.mem_keySet) hm

/-- Any device on the port is found in some order. -/
theorem findMacOnPort_first {m : MacAddress} (h : OnPort devices dpid p m)
    (keySet : KeySetOrder MacAddress) :
    findMacOnPort macNone (keySet.first m) devices p dpid = m := by
  unfold findMacOnPort
  rw [KeySetOrder.visit_first _ h.mem_keySet, findLoop]
  exact if_pos h

end Search

/-! ## The table -/

section Table

variable {macNone : MacAddress} {devices : HashMap MacAddress (List SwitchPort)}
  {dpid : DatapathId} {ports : List OFPortDesc}

/-- A port is announced under its own hardware address. -/
theorem mem_portMacPairs {keySet : KeySetOrder MacAddress} {pm : PortMacPair} :
    pm ∈ portMacPairs macNone keySet devices dpid ports ↔
      ∃ d ∈ ports, 0 ≤ d.getHwAddr.getLong.toInt ∧
        findMacOnPort macNone keySet devices d.getPortNo dpid ≠ macNone ∧
        pm = ⟨d.getHwAddr.getLong, d.getPortNo.getPortNumber⟩ := by
  induction ports with
  | nil => simp [portMacPairs]
  | cons d ports ih =>
    rw [List.exists_mem_cons_iff, ← ih, portMacPairs]
    by_cases hneg : d.getHwAddr.getLong.toInt < 0
    · rw [if_pos hneg]
      refine (or_iff_right ?_).symm
      exact fun h => absurd h.1 (by omega)
    · rw [if_neg hneg]
      dsimp only
      by_cases haddr : findMacOnPort macNone keySet devices d.getPortNo dpid = macNone
      · rw [if_neg (not_not.mpr haddr)]
        refine (or_iff_right ?_).symm
        exact fun h => h.2.1 haddr
      · rw [if_pos haddr, List.mem_cons]
        refine or_congr_left ?_
        exact ⟨fun h => ⟨by omega, haddr, h⟩, fun h => h.2.2⟩

/-- `m` is the one device on the port. -/
def OnlyOnPort (devices : HashMap MacAddress (List SwitchPort)) (dpid : DatapathId) (p : OFPort)
    (m : MacAddress) : Prop :=
  ∀ m', OnPort devices dpid p m' ↔ m' = m

/-- In any order of the keys, the table has the ports with exactly one device, under the address
    of the device. -/
def AnnouncesSingles (macNone : MacAddress) (devices : HashMap MacAddress (List SwitchPort))
    (dpid : DatapathId) (ports : List OFPortDesc) : Prop :=
  ∀ keySet (m : MacAddress) (p : OFPort),
    (⟨m.getLong, p.getPortNumber⟩ : PortMacPair) ∈ portMacPairs macNone keySet devices dpid ports ↔
      (∃ d ∈ ports, d.getPortNo = p) ∧ OnlyOnPort devices dpid p m

/-- No device is on the port alone. -/
def NoneOnPort (devices : HashMap MacAddress (List SwitchPort)) (dpid : DatapathId)
    (p : OFPort) : Prop :=
  ∀ m, ¬ OnPort devices dpid p m

theorem onPort_of_found {keySet : KeySetOrder MacAddress} {p : OFPort}
    (h : findMacOnPort macNone keySet devices p dpid ≠ macNone) :
    OnPort devices dpid p (findMacOnPort macNone keySet devices p dpid) :=
  (findMacOnPort_eq macNone keySet).resolve_right fun hnone => h hnone.1

/-- Addresses in increasing order. -/
def macOrder : KeySetOrder MacAddress :=
  .increasing (fun m => m.getLong.toNat) fun _ _ heq =>
    congrArg MacAddress.mk (BitVec.eq_of_toNat_eq heq)

theorem announced_of_onPort (h : AnnouncesSingles macNone devices dpid ports) {d : OFPortDesc}
    (hd : d ∈ ports) (hhw : 0 ≤ d.getHwAddr.getLong.toInt) {m : MacAddress}
    (hm : OnPort devices dpid d.getPortNo m) (hnone : m ≠ macNone) :
    OnlyOnPort devices dpid d.getPortNo d.getHwAddr := by
  have hfound : findMacOnPort macNone (macOrder.first m) devices d.getPortNo dpid ≠ macNone := by
    rwa [findMacOnPort_first hm]
  exact ((h _ _ _).mp (mem_portMacPairs.mpr ⟨d, hd, hhw, hfound, rfl⟩)).2

/-- The one device on a port is found in every order. -/
theorem findMacOnPort_of_only {p : OFPort} {m : MacAddress} (h : OnlyOnPort devices dpid p m)
    (keySet : KeySetOrder MacAddress) : findMacOnPort macNone keySet devices p dpid = m := by
  rcases findMacOnPort_eq macNone keySet with hon | ⟨-, hnone⟩
  · exact (h _).mp hon
  · exact absurd ((h m).mpr rfl) (hnone m)

/-- The constant is never announced. -/
theorem not_onlyOnPort_macNone (h : AnnouncesSingles macNone devices dpid ports)
    {d : OFPortDesc} (hd : d ∈ ports) : ¬ OnlyOnPort devices dpid d.getPortNo macNone := by
  intro honly
  obtain ⟨d', -, -, hfound, heq⟩ :=
    mem_portMacPairs.mp ((h macOrder macNone d.getPortNo).mpr ⟨⟨d, hd, rfl⟩, honly⟩)
  have hport : d.getPortNo = d'.getPortNo :=
    congrArg (fun pm : PortMacPair => OFPort.mk pm.port) heq
  rw [← hport] at hfound
  exact hfound (findMacOnPort_of_only honly macOrder)

theorem single_of_announces (h : AnnouncesSingles macNone devices dpid ports) {d : OFPortDesc}
    (hd : d ∈ ports) (hhw : 0 ≤ d.getHwAddr.getLong.toInt) :
    NoneOnPort devices dpid d.getPortNo ∨
      (d.getHwAddr ≠ macNone ∧ OnlyOnPort devices dpid d.getPortNo d.getHwAddr) := by
  by_cases hex : ∃ m, OnPort devices dpid d.getPortNo m ∧ m ≠ macNone
  · obtain ⟨m, hm, hnone⟩ := hex
    have honly := announced_of_onPort h hd hhw hm hnone
    exact Or.inr ⟨(honly m).mp hm ▸ hnone, honly⟩
  · push Not at hex
    refine Or.inl fun m hm => ?_
    obtain rfl := hex m hm
    exact not_onlyOnPort_macNone h hd fun m' => ⟨hex m', fun heq => heq ▸ hm⟩

/-- The table is right exactly when each port has no device, or one whose address is that of
    the port. -/
theorem announcesSingles_iff (macNone : MacAddress)
    (devices : HashMap MacAddress (List SwitchPort)) (dpid : DatapathId) (ports : List OFPortDesc)
    (hhw : ∀ d ∈ ports, 0 ≤ d.getHwAddr.getLong.toInt) :
    AnnouncesSingles macNone devices dpid ports ↔
      ∀ d ∈ ports, NoneOnPort devices dpid d.getPortNo ∨
        (d.getHwAddr ≠ macNone ∧ OnlyOnPort devices dpid d.getPortNo d.getHwAddr) := by
  refine ⟨fun h d hd => single_of_announces h hd (hhw d hd),
    fun h keySet m p => ⟨fun hmem => ?_, fun hsingle => ?_⟩⟩
  · obtain ⟨d, hd, -, hfound, heq⟩ := mem_portMacPairs.mp hmem
    have hmac : m = d.getHwAddr := congrArg (fun pm : PortMacPair => MacAddress.mk pm.mac) heq
    have hport : p = d.getPortNo := congrArg (fun pm : PortMacPair => OFPort.mk pm.port) heq
    rcases h d hd with hnone | ⟨-, honly⟩
    · exact absurd (onPort_of_found hfound) (hnone _)
    · rw [hmac, hport]
      exact ⟨⟨d, hd, rfl⟩, honly⟩
  · obtain ⟨⟨d, hd, rfl⟩, hm⟩ := hsingle
    have hon := (hm m).mpr rfl
    rcases h d hd with hnone | ⟨hmacNone, honly⟩
    · exact absurd hon (hnone m)
    · have hfound : findMacOnPort macNone keySet devices d.getPortNo dpid ≠ macNone := by
        rwa [findMacOnPort_of_only honly]
      rw [(honly m).mp hon]
      exact mem_portMacPairs.mpr ⟨d, hd, hhw d hd, hfound, rfl⟩

end Table

/-- The switch 7, with the device 1 on its port 3. -/
def oneDevice : HashMap MacAddress (List SwitchPort) := HashMap.put ∅ ⟨1⟩ [⟨⟨7⟩, ⟨3⟩⟩]

theorem onlyOnPort_oneDevice : OnlyOnPort oneDevice ⟨7⟩ ⟨3⟩ ⟨1⟩ := by
  intro m
  unfold OnPort oneDevice
  rw [HashMap.get_put]
  simp

/-- The port is announced with its own address 2. -/
theorem oneDevice_not_announcesSingles :
    ¬ AnnouncesSingles ⟨0⟩ oneDevice ⟨7⟩ [⟨⟨3⟩, ⟨2⟩⟩] := by
  intro h
  have honly := announced_of_onPort h List.mem_cons_self (by decide)
    ((onlyOnPort_oneDevice _).mpr rfl) (by decide)
  exact absurd ((honly ⟨1⟩).mp ((onlyOnPort_oneDevice _).mpr rfl)) (by decide)

theorem oneDevice_announcesSingles : AnnouncesSingles ⟨0⟩ oneDevice ⟨7⟩ [⟨⟨3⟩, ⟨1⟩⟩] :=
  (announcesSingles_iff ⟨0⟩ oneDevice ⟨7⟩ [⟨⟨3⟩, ⟨1⟩⟩] (by decide)).mpr fun d hd => by
    obtain rfl := List.mem_singleton.mp hd
    exact Or.inr ⟨by decide, onlyOnPort_oneDevice⟩

end TraceModule

end JSdnTrace
