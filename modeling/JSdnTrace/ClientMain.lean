/-
  `TraceClient.main`: from the command line to the probe on the wire and the report.

  What the client asks of OpenFlowJ, of the JVM and of Jpcap, and what it is answered, is a
  `ClientEnv`; each call may throw an exception, which `main` catches, or an `Error`, which it
  does not. The text of `debug.txt` is not modelled, nor is the `TCP` object that is never sent.

  * `throwsOnly_mainBody`: what is thrown inside `main`.
  * `main_spec`: only an `Error` of a call leaves `main`. It sends the probe exactly when the
    arguments and the device are in order, and then it prints the report unless a frame of the
    trace type cannot be decoded.
-/
import JSdnTrace.JpcapFrame
import JSdnTrace.Rejection

namespace JSdnTrace

open Java Lib TraceAppController TraceClient

namespace Java

/-- `xs[i]` of an array of objects. -/
def elementAt {α : Type} (xs : List α) (i : Nat) : Except Throwable α :=
  match xs[i]? with
  | some x => .ok x
  | none => .error .arrayIndexOutOfBounds

theorem elementAt_eq_ok {α : Type} {xs : List α} {i : Nat} {x : α} :
    elementAt xs i = .ok x ↔ xs[i]? = some x := by
  unfold elementAt
  cases xs[i]? <;> simp

/-- The sign of a number, and what stands behind it. -/
def signOf : List JShort → Bool × List JShort
  | [] => (false, [])
  | u :: us => if u = 0x2D then (true, us) else if u = 0x2B then (false, us) else (false, u :: us)

/-- `Integer.parseInt`, where `digit` is `Character.digit(c, 10)`. -/
def parseInt (digit : JShort → Option Nat) (s : JString) : Except Throwable JInt :=
  let (negative, us) := signOf s.units
  match us.mapM digit with
  | some (d :: ds) =>
    let n := (d :: ds).foldl (fun n d => 10 * n + d) 0
    if n < 0x80000000 then .ok (if negative then -BitVec.ofNat 32 n else BitVec.ofNat 32 n)
    else if negative ∧ n = 0x80000000 then .ok (BitVec.ofNat 32 n)
    else .error (.other "NumberFormatException")
  | _ => .error (.other "NumberFormatException")

end Java

/-- `java.net.NetworkInterface`. -/
structure NetworkInterface where
  /-- May be `null`. -/
  getHardwareAddress : Except Throwable (Option (List JByte))

/-- What the client is started with and what its calls return. -/
structure ClientEnv where
  args : List JString
  /-- `MacAddress.of(String)`. -/
  macOfString : JString → Except Throwable { m : MacAddress // m.Is48 }
  /-- `MacAddress.of(byte[])`. -/
  macOfBytes : List JByte → Except Throwable { m : MacAddress // m.Is48 }
  /-- `NetworkInterface.getByName`, which may be `null`. -/
  getByName : JString → Except Throwable (Option NetworkInterface)
  /-- The names of `JpcapCaptor.getDeviceList()`, which may be `null`. -/
  getDeviceList : Except Throwable (Option (List JString))
  digit : JShort → Option Nat
  /-- `JpcapCaptor.openDevice`, by the name of the device and the timeout. -/
  openDevice : JString → JInt → Except Throwable Unit
  /-- `pcap_sendpacket`. -/
  sendPacket : Frame → Except Throwable Unit
  /-- What `new TracePacket()` draws. -/
  draw : Draw
  /-- `start.getTime()`. -/
  getTime : JLong
  /-- What `processPacket` hands to the callback. -/
  captured : List RawCapture
  /-- Writing `debug.txt`. -/
  writeDebug : Except Throwable Unit

/-- A call of the environment ends in `e`. -/
inductive ClientEnv.Throws (env : ClientEnv) (e : Throwable) : Prop
  | macOfString (s : JString) (h : env.macOfString s = .error e)
  | macOfBytes (bytes : List JByte) (h : env.macOfBytes bytes = .error e)
  | getByName (name : JString) (h : env.getByName name = .error e)
  | getHardwareAddress (name : JString) (ni : NetworkInterface)
      (hni : env.getByName name = .ok (some ni)) (h : ni.getHardwareAddress = .error e)
  | getDeviceList (h : env.getDeviceList = .error e)
  | openDevice (name : JString) (timeout : JInt) (h : env.openDevice name timeout = .error e)
  | sendPacket (f : Frame) (h : env.sendPacket f = .error e)
  | writeDebug (h : env.writeDebug = .error e)

/-- The static fields of the client, and what it has put on the wire and printed. -/
structure MainWorld where
  client : TraceClient
  sent : List Frame
  printed : List Entry

namespace TraceClient

section Main

variable (ofj : OpenFlowJ) (parsed : Frame → List JByte) (env : ClientEnv)

/-- The packet `toSend`, for the host `dst` and from the address `src`. -/
def probeOf (dst src : MacAddress) : TracePacket :=
  ((((TracePacket.new ofj env.draw).setDestination (some dst)).setSource (some src)).setMaxHops
    255).setType true

/-- `MacAddress.of(ni.getHardwareAddress())`. -/
def sourceOf (name : JString) : Except Throwable { m : MacAddress // m.Is48 } := do
  let ni ← env.getByName name
  let ni ← deref ni
  let address ← ni.getHardwareAddress
  let address ← deref address
  env.macOfBytes address

/-- The loop over the devices. -/
def deviceOf (name : JString) : Except Throwable (Option JString) := do
  let interfaces ← env.getDeviceList
  let interfaces ← deref interfaces
  return interfaces.find? fun curr => curr = name

def timeoutOf : Except Throwable JInt :=
  if env.args.length < 3 then .ok 10000
  else elementAt env.args 2 >>= parseInt env.digit

/-- The part of `main` up to the packet that is sent. -/
def prepare : Except Throwable EthernetPacket := do
  let arg ← elementAt env.args 0
  let mac ← env.macOfString arg
  let name ← elementAt env.args 1
  let source ← sourceOf env name
  let ji ← deviceOf env name
  let timeout ← timeoutOf env
  let ji ← deref ji
  env.openDevice ji timeout
  translateToPcap (probeOf ofj env mac.val source.val)

/-- `JpcapSender.sendPacket`. A packet past the end of the buffer ends the process. -/
def sendPacket (p : EthernetPacket) : Exec MainWorld Unit :=
  match p.nativeSendPacket with
  | none => throw (.error "SIGSEGV")
  | some f => do
    liftM (env.sendPacket f)
    modify fun w => { w with sent := w.sent ++ [f] }

/-- `JpcapCaptor.processPacket`. An exception of the callback is thrown by it, and the frames behind
    are not handed over. -/
def processPacket : List RawCapture → Exec MainWorld Unit
  | [] => pure ()
  | rc :: rcs => do
    zoom (·.client) (fun c w => { w with client := c })
      (receivePacket ofj rc.draw (Jpcap.getPacket parsed rc.frame))
    processPacket rcs

/-- The body of the `try`. -/
def mainBody : Exec MainWorld Unit := do
  modify fun w => { w with client := start w.client.startTime }
  let jTrace ← liftM (prepare ofj env)
  modify fun w => { w with client := { w.client with startTime := env.getTime } }
  sendPacket env jTrace
  processPacket ofj parsed env.captured
  modify fun w => { w with printed := w.printed ++ w.client.report }
  liftM env.writeDebug

/-- The `catch` is of `Exception`. -/
def main : Exec MainWorld Unit :=
  tryCatch (mainBody ofj parsed env)
    (fun
      | .error c => throw (.error c)
      | _ => pure ())

/-! ## The probe -/

/-- The bytes of the probe. -/
def probeWire (dst src : MacAddress) : List JByte :=
  (probeOf ofj env dst src).wire dst src (.inet4 0 0 0 0)

theorem length_probeWire (dst src : MacAddress) :
    (probeWire ofj env dst src).length = TracePacket.packSize :=
  TracePacket.length_wire _ dst src _ (show JString.empty.Ascii by decide)

/-- Its Ethernet packet. -/
def probeEthernet (dst src : MacAddress) : EthernetPacket where
  dstMac := dst.getBytes
  srcMac := src.getBytes
  frametype := 0x8220
  data := probeWire ofj env dst src
  length_dstMac := dst.length_getBytes
  length_srcMac := src.length_getBytes

theorem length_setPacket_probe (dst src : MacAddress) :
    (probeEthernet ofj env dst src).setPacket.length = 79 := by
  rw [EthernetPacket.length_setPacket]
  show 14 + (probeWire ofj env dst src).length = 79
  rw [length_probeWire]
  rfl

/-- Its frame. -/
def probeFrame (dst src : MacAddress) : Frame where
  bytes := (probeEthernet ofj env dst src).setPacket
  header_lt := by
    rw [length_setPacket_probe]
    decide
  fits := by
    rw [length_setPacket_probe]
    decide

theorem nativeSendPacket_probe (dst src : MacAddress) :
    (probeEthernet ofj env dst src).nativeSendPacket = some (probeFrame ofj env dst src) := by
  have hfit : (probeEthernet ofj env dst src).setPacket.length ≤ EthernetPacket.maxPacketSize := by
    rw [length_setPacket_probe]
    decide
  unfold EthernetPacket.nativeSendPacket
  rw [dif_pos hfit]
  congr 2

theorem serialize_probeOf (dst src : MacAddress) :
    (probeOf ofj env dst src).serialize = .ok (probeWire ofj env dst src) :=
  TracePacket.serialize_of_lt rfl rfl rfl (show JString.empty.Ascii by decide)
    (show TracePacket.packSize + 2 * 0 < 0x80000000 by decide)

theorem translateToPcap_probe (dst src : MacAddress) :
    translateToPcap (probeOf ofj env dst src) = .ok (probeEthernet ofj env dst src) := by
  unfold translateToPcap
  rw [serialize_probeOf]
  rfl

/-! ## When it is sent -/

/-- The device `name` has the hardware address `src`. -/
def HasAddress (name : JString) (src : MacAddress) : Prop :=
  ∃ ni address h, env.getByName name = .ok (some ni) ∧
    ni.getHardwareAddress = .ok (some address) ∧ env.macOfBytes address = .ok ⟨src, h⟩

/-- Jpcap knows the device. -/
def HasDevice (name : JString) : Prop :=
  ∃ devices, env.getDeviceList = .ok (some devices) ∧ name ∈ devices

/-- `timeout` is the third argument, or the default. -/
def Timeout (timeout : JInt) : Prop :=
  if env.args.length < 3 then timeout = 10000
  else ∃ arg, env.args[2]? = some arg ∧ parseInt env.digit arg = .ok timeout

/-- The arguments name the host `dst` and a device with the address `src` that Jpcap opens. -/
structure Ready (dst src : MacAddress) : Prop where
  destination : ∃ arg h, env.args[0]? = some arg ∧ env.macOfString arg = .ok ⟨dst, h⟩
  device : ∃ name timeout, env.args[1]? = some name ∧ HasAddress env name src ∧
    HasDevice env name ∧ Timeout env timeout ∧ env.openDevice name timeout = .ok ()

theorem sourceOf_eq_ok {name : JString} {src : MacAddress} :
    (∃ h, sourceOf env name = .ok ⟨src, h⟩) ↔ HasAddress env name src := by
  unfold sourceOf HasAddress
  simp only [bind_eq_ok, deref_eq_ok]
  refine ⟨fun h => ?_, fun h => ?_⟩
  · obtain ⟨hsrc, _, hni, ni, rfl, _, haddress, address, rfl, hsource⟩ := h
    exact ⟨ni, address, hsrc, hni, haddress, hsource⟩
  · obtain ⟨ni, address, hsrc, hni, haddress, hsource⟩ := h
    exact ⟨hsrc, _, hni, ni, rfl, _, haddress, address, rfl, hsource⟩

/-- The loop finds the device of the name, if there is one. -/
theorem deviceOf_eq_ok {name ji : JString} :
    deviceOf env name = .ok (some ji) ↔ ji = name ∧ HasDevice env name := by
  have hfind : ∀ devices : List JString,
      (devices.find? fun curr => curr = name) = some ji ↔ ji = name ∧ name ∈ devices := by
    intro devices
    refine ⟨fun h => ?_, fun h => ?_⟩
    · have heq := List.find?_some h
      rw [decide_eq_true_eq] at heq
      exact ⟨heq, heq ▸ List.mem_of_find?_eq_some h⟩
    · obtain ⟨rfl, hmem⟩ := h
      have hsome : (devices.find? fun curr => curr = ji).isSome :=
        List.find?_isSome.mpr ⟨ji, hmem, decide_eq_true rfl⟩
      obtain ⟨curr, hcurr⟩ := Option.isSome_iff_exists.mp hsome
      have heq := List.find?_some hcurr
      rw [decide_eq_true_eq] at heq
      rw [hcurr, heq]
  unfold deviceOf HasDevice
  simp only [bind_eq_ok, deref_eq_ok, pure, Except.pure, Except.ok.injEq, hfind]
  refine ⟨fun h => ?_, fun h => ?_⟩
  · obtain ⟨_, hlist, devices, rfl, heq, hmem⟩ := h
    exact ⟨heq, devices, hlist, hmem⟩
  · obtain ⟨heq, devices, hlist, hmem⟩ := h
    exact ⟨_, hlist, devices, rfl, heq, hmem⟩

theorem timeoutOf_eq_ok {timeout : JInt} :
    timeoutOf env = .ok timeout ↔ Timeout env timeout := by
  unfold timeoutOf Timeout
  split
  · rw [Except.ok.injEq, eq_comm]
  · simp only [bind_eq_ok, elementAt_eq_ok]

theorem prepare_eq_ok {p : EthernetPacket} :
    prepare ofj env = .ok p ↔
      ∃ dst src, Ready env dst src ∧ p = probeEthernet ofj env dst src := by
  unfold prepare
  refine ⟨fun h => ?_, fun h => ?_⟩
  · obtain ⟨arg, harg, h⟩ := bind_eq_ok.mp h
    obtain ⟨⟨dst, hdst⟩, hmac, h⟩ := bind_eq_ok.mp h
    obtain ⟨name, hname, h⟩ := bind_eq_ok.mp h
    obtain ⟨⟨src, hsrc⟩, hsource, h⟩ := bind_eq_ok.mp h
    obtain ⟨found, hfound, h⟩ := bind_eq_ok.mp h
    obtain ⟨timeout, htimeout, h⟩ := bind_eq_ok.mp h
    obtain ⟨ji, hji, h⟩ := bind_eq_ok.mp h
    obtain ⟨_, hopen, h⟩ := bind_eq_ok.mp h
    rw [deref_eq_ok.mp hji] at hfound
    obtain ⟨heq, hdevice⟩ := (deviceOf_eq_ok env).mp hfound
    rw [heq] at hopen
    rw [translateToPcap_probe] at h
    exact ⟨dst, src, ⟨⟨arg, hdst, elementAt_eq_ok.mp harg, hmac⟩, name, timeout,
      elementAt_eq_ok.mp hname, (sourceOf_eq_ok env).mp ⟨hsrc, hsource⟩, hdevice,
      (timeoutOf_eq_ok env).mp htimeout, hopen⟩, (Except.ok.inj h).symm⟩
  · obtain ⟨dst, src, ⟨⟨arg, hdst, harg, hmac⟩, name, timeout, hname, haddress, hdevice,
      htimeout, hopen⟩, rfl⟩ := h
    obtain ⟨hsrc, hsource⟩ := (sourceOf_eq_ok env).mpr haddress
    rw [elementAt_eq_ok.mpr harg, ok_bind, hmac, ok_bind, elementAt_eq_ok.mpr hname, ok_bind,
      hsource, ok_bind, (deviceOf_eq_ok env).mpr ⟨rfl, hdevice⟩, ok_bind,
      (timeoutOf_eq_ok env).mpr htimeout, ok_bind, deref_some, ok_bind, hopen, ok_bind]
    exact translateToPcap_probe ofj env dst src

/-! ## What arrives -/

/-- A frame of the trace type holds the 49 bytes that are decoded, with a port at index 41. -/
def Decodes (rc : RawCapture) : Prop :=
  rc.IsTrace → 63 ≤ rc.frame.bytes.length ∧ ofj.AcceptsPort (intAt rc.frame.payload 41)

/-- The stores that the frames leave. -/
theorem foldl_receivePacket (startTime : JLong) (rcs : List RawCapture) :
    rcs.foldl (fun c rc =>
        (run (receivePacket ofj rc.draw (Jpcap.getPacket parsed rc.frame)) c).2)
      (start startTime) = capture ofj startTime (rcs.map (·.toCapture parsed)) := by
  unfold capture
  rw [List.foldl_map]
  rfl

section Arrival

variable {ofj} (hof : ofj.Faithful)

include hof

theorem fst_run_receivePacket (c : TraceClient) (rc : RawCapture) :
    (run (receivePacket ofj rc.draw (Jpcap.getPacket parsed rc.frame)) c).1 = .ok () ↔
      Decodes ofj rc := by
  unfold Decodes
  by_cases htrace : rc.IsTrace
  · have hget : Jpcap.getPacket parsed rc.frame = ⟨.ethernet 0x8220, rc.frame.payload⟩ := by
      have hlink := (rc.datalink_toCapture parsed).mpr htrace
      have hdata := RawCapture.data_toCapture parsed htrace
      exact congrArg₂ Packet.mk hlink hdata
    have hlen := rc.frame.length_bytes
    have hbytes : 49 ≤ rc.frame.payload.length ↔ 63 ≤ rc.frame.bytes.length := by omega
    rw [hget, returns_receivePacket_iff hof, hbytes, forall_prop_of_true htrace]
  · have hlink : (Jpcap.getPacket parsed rc.frame).datalink ≠ .ethernet 0x8220 :=
      fun h => htrace ((rc.datalink_toCapture parsed).mp h)
    unfold receivePacket
    rw [if_neg hlink]
    exact iff_of_true rfl fun h => absurd h htrace

/-- The frames are handed over one by one, as long as the callback returns. -/
theorem run_processPacket (rcs : List RawCapture) (w : MainWorld) :
    ((∀ rc ∈ rcs, Decodes ofj rc) → run (processPacket ofj parsed rcs) w =
      (.ok (), { w with client := rcs.foldl (fun c rc =>
        (run (receivePacket ofj rc.draw (Jpcap.getPacket parsed rc.frame)) c).2) w.client })) ∧
    ((¬ ∀ rc ∈ rcs, Decodes ofj rc) →
      ∃ e c, run (processPacket ofj parsed rcs) w = (.error e, { w with client := c })) := by
  induction rcs generalizing w with
  | nil => exact ⟨fun _ => rfl, fun h => absurd (List.forall_mem_nil _) h⟩
  | cons rc rcs ih =>
    have hstep := fst_run_receivePacket parsed hof w.client rc
    unfold processPacket
    rw [run_bind, run_zoom, List.forall_mem_cons]
    cases hrun : (run (receivePacket ofj rc.draw (Jpcap.getPacket parsed rc.frame)) w.client).1 with
    | error e =>
      rw [hrun] at hstep
      have hnot : ¬ Decodes ofj rc := fun h => nomatch hstep.mpr h
      exact ⟨fun h => absurd h.1 hnot, fun _ => ⟨e, _, rfl⟩⟩
    | ok a =>
      have hdecodes : Decodes ofj rc := hstep.mp hrun
      obtain ⟨hok, herror⟩ := ih { w with
        client := (run (receivePacket ofj rc.draw (Jpcap.getPacket parsed rc.frame)) w.client).2 }
      refine ⟨fun h => hok h.2, fun h => herror fun hall => h ⟨hdecodes, hall⟩⟩

end Arrival

/-! ## What `main` leaves -/

theorem snd_run_main (w : MainWorld) :
    (run (main ofj parsed env) w).2 = (run (mainBody ofj parsed env) w).2 := by
  unfold main
  rw [run_tryCatch]
  rcases run (mainBody ofj parsed env) w with ⟨r, w'⟩
  cases r with
  | ok a => rfl
  | error e => cases e <;> rfl

/-- The client when the probe is sent. -/
def sending (w : MainWorld) : MainWorld := { w with client := start env.getTime }

theorem run_sendPacket_probe (dst src : MacAddress) (w : MainWorld) :
    run (sendPacket env (probeEthernet ofj env dst src)) w =
      andThen (fun _ => modify fun w => { w with sent := w.sent ++ [probeFrame ofj env dst src] })
        (env.sendPacket (probeFrame ofj env dst src), w) := by
  unfold sendPacket
  rw [nativeSendPacket_probe]
  exact run_bind _ _ w

theorem run_mainBody_of_ready {dst src : MacAddress} (h : Ready env dst src) (w : MainWorld) :
    run (mainBody ofj parsed env) w =
      andThen (fun _ => do
          processPacket ofj parsed env.captured
          modify fun w => { w with printed := w.printed ++ w.client.report }
          liftM env.writeDebug)
        (run (sendPacket env (probeEthernet ofj env dst src)) (sending env w)) := by
  have hprepare : prepare ofj env = .ok (probeEthernet ofj env dst src) :=
    (prepare_eq_ok ofj env).mpr ⟨dst, src, h, rfl⟩
  unfold mainBody
  rw [run_bind, run_modify, andThen_ok, run_bind, run_lift, hprepare, andThen_ok, run_bind,
    run_modify, andThen_ok, run_bind]
  rfl

/-- The wire takes the probe. -/
def Sends (dst src : MacAddress) : Prop :=
  Ready env dst src ∧ env.sendPacket (probeFrame ofj env dst src) = .ok ()

section Outcome

variable {ofj} (hof : ofj.Faithful)

include hof

theorem run_mainBody_of_sends {dst src : MacAddress} (h : Sends ofj env dst src)
    (w : MainWorld) :
    ((∀ rc ∈ env.captured, Decodes ofj rc) → (run (mainBody ofj parsed env) w).2 =
      { client := capture ofj env.getTime (env.captured.map (·.toCapture parsed))
        sent := w.sent ++ [probeFrame ofj env dst src]
        printed := w.printed ++
          (capture ofj env.getTime (env.captured.map (·.toCapture parsed))).report }) ∧
    ((¬ ∀ rc ∈ env.captured, Decodes ofj rc) → ∃ c, (run (mainBody ofj parsed env) w).2 =
      { w with client := c, sent := w.sent ++ [probeFrame ofj env dst src] }) := by
  obtain ⟨hready, hsend⟩ := h
  rw [run_mainBody_of_ready ofj parsed env hready, run_sendPacket_probe, hsend, andThen_ok,
    run_modify, andThen_ok, run_bind]
  obtain ⟨hok, herror⟩ := run_processPacket parsed hof env.captured
    ⟨start env.getTime, w.sent ++ [probeFrame ofj env dst src], w.printed⟩
  simp only [sending]
  refine ⟨fun hall => ?_, fun hnot => ?_⟩
  · rw [hok hall, andThen_ok, run_bind, run_modify, andThen_ok, run_lift]
    simp only [foldl_receivePacket]
  · obtain ⟨e, c, hrun⟩ := herror hnot
    rw [hrun, andThen_error]
    exact ⟨c, rfl⟩

end Outcome

end Main

/-- `"00:00:00:00:00:01"`. -/
def firstHost : JString :=
  ⟨[0x30, 0x30, 0x3A, 0x30, 0x30, 0x3A, 0x30, 0x30, 0x3A, 0x30, 0x30, 0x3A, 0x30, 0x30, 0x3A,
    0x30, 0x31], by decide⟩

/-- `"eth0"`. -/
def eth0 : JString := ⟨[0x65, 0x74, 0x68, 0x30], by decide⟩

/-- Host 2 looks for host 1 on `eth0`, and captures the frames `captured`. -/
def secondHost (captured : List RawCapture) : ClientEnv where
  args := [firstHost, eth0]
  macOfString s :=
    if s = firstHost then .ok ⟨⟨1⟩, by decide⟩ else .error .illegalArgument
  macOfBytes bytes :=
    if bytes = [0, 0, 0, 0, 0, 2] then .ok ⟨⟨2⟩, by decide⟩ else .error .illegalArgument
  getByName name := .ok (if name = eth0 then some ⟨.ok (some [0, 0, 0, 0, 0, 2])⟩ else none)
  getDeviceList := .ok (some [eth0])
  digit u := if 0x30 ≤ u ∧ u ≤ 0x39 then some (u.toNat - 0x30) else none
  openDevice _ _ := .ok ()
  sendPacket _ := .ok ()
  draw := ⟨5, 0⟩
  getTime := 0
  captured := captured
  writeDebug := .ok ()

theorem secondHost_sends (captured : List RawCapture) :
    Sends OpenFlowJ.documented (secondHost captured) ⟨1⟩ ⟨2⟩ where
  left :=
    { destination := ⟨firstHost, by decide, rfl, rfl⟩
      device := ⟨eth0, 10000, rfl, ⟨⟨.ok (some [0, 0, 0, 0, 0, 2])⟩, _, by decide, rfl, rfl, rfl⟩,
        ⟨[eth0], rfl, List.mem_singleton.mpr rfl⟩, rfl, rfl⟩ }
  right := rfl

/-- Without the native library of Jpcap. -/
example : (run (main OpenFlowJ.documented (fun _ => [])
    { secondHost [] with getDeviceList := .error (.error "UnsatisfiedLinkError") })
      ⟨start 0, [], []⟩).1 = .error (.error "UnsatisfiedLinkError") := rfl

end TraceClient

end JSdnTrace
