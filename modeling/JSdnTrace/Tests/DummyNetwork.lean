/-
  The simulated network of `traceapp.tests`: switches with flow tables, hosts that ping each
  other, and the wires between them.

  A packet is handed on by nested calls of `packetIn`, so the depth of the stack is a parameter;
  past it a call throws `StackOverflowError`. The wires are plugged in at both ends before the
  first packet is sent. The trace app that the network drives is the earlier one, which took a
  `TracePacket`; what it is given is logged.

  * `find_number`: a switch finds its ports by their numbers.
-/
import JSdnTrace.TracePacket
import Mathlib.Data.List.Nodup

namespace JSdnTrace.Tests

open Java

/-- `IPacket`: the packets that are told apart. -/
inductive IPacket where
  | ping (source dest : JInt)
  | pingReply (source dst : JInt)
  | trace (tp : TracePacket)

/-- `Match`; the fields that `isMatch` does not read are left out. -/
structure Match where
  inPort : Int
  ethType : Int

def Match.isMatch (m : Match) (p : IPacket) (inPort : Int) : Bool :=
  if m.inPort ≠ inPort ∧ 0 < m.inPort then false
  else
    match p with
    | .ping _ _ => decide (m.ethType = 0)
    | .pingReply _ _ => decide (m.ethType = 0)
    | .trace _ => decide (m.ethType = 0x8220)

structure Flow where
  outPort : Int
  priority : Int
  matchCriterea : List Match

namespace Flow

def isMatch (f : Flow) (p : IPacket) (inPort : Int) : Bool :=
  f.matchCriterea.all fun m => m.isMatch p inPort

def compareTo (f g : Flow) : Int :=
  if g.priority = f.priority then 0 else if f.priority > g.priority then 1 else -1

end Flow

/-- `INetNode`: the ports of the switches `S`, the hosts `H`, and the `DummyNetwork` in the role
    of the controller. -/
inductive INetNode (S H : Type) where
  | port (sw : S) (number : Int)
  | host (h : H)
  | net
  deriving DecidableEq

structure Wire (S H : Type) where
  left : INetNode S H
  right : INetNode S H

structure Port (S H : Type) where
  number : Int
  isEnabled : Bool
  plugged : Option (Wire S H)

/-- The ports are numbered from 1. -/
structure DummySwitch (S H : Type) where
  dpid : JLong
  ports : List (Port S H)
  flowTable : List Flow
  controllerPort : Int
  numbered : ports.map (·.number) = (List.range ports.length).map fun i : Nat => (i : Int) + 1

structure DummyHost (S H : Type) where
  ip : JLong
  plugged : Option (Wire S H)

structure DummyNetwork (S H : Type) where
  switches : S → DummySwitch S H
  hosts : H → DummyHost S H

/-- What is added to the `messages` of a host. -/
inductive Message where
  | sendingRequest (dstIp : JLong)
  | unreachable
  | pingReply (source : JInt)
  | traceReply (tp : TracePacket)

/-- A message of a host, or a packet for the trace app. -/
inductive Entry (H : Type) where
  | message (h : H) (m : Message)
  | traceApp (tp : TracePacket) (dpid : JLong)

/-- `messages` of a host, as far as it was added to in `log`. -/
def messagesOf {H : Type} [DecidableEq H] (h : H) (log : List (Entry H)) : List Message :=
  log.filterMap fun
    | .message h' m => if h' = h then some m else none
    | .traceApp _ _ => none

namespace DummySwitch

variable {S H : Type}

/-- `AddFlow`; the sort is stable. -/
def addFlow (sw : DummySwitch S H) (m : Match) (outPort priority : Int) : DummySwitch S H :=
  let flows := sw.flowTable ++ [⟨outPort, priority, [m]⟩]
  { sw with flowTable := flows.mergeSort fun f g => f.compareTo g ≤ 0 }

/-- The binary search over the ports. -/
def find (sw : DummySwitch S H) (number : Int) : Option (Port S H) :=
  sw.ports.find? fun out => out.number = number

/-- `getPort`; `null` for a negative number. -/
def getPort (sw : DummySwitch S H) (number : Int) : Except Throwable (Option (Port S H)) :=
  if number < 0 then .ok none
  else
    match sw.find number with
    | some out => .ok (some out)
    | none => .error .indexOutOfBounds

end DummySwitch

section Calls

variable {S H : Type} [DecidableEq S] [DecidableEq H] (net : DummyNetwork S H)

/-- The other end of a wire that is plugged into a port. -/
def Wire.fromPort (w : Wire S H) (sw : S) (number : Int) : INetNode S H :=
  if w.right = .port sw number then w.left else w.right

/-- The other end of a wire that is plugged into a host. -/
def Wire.fromHost (w : Wire S H) (h : H) : INetNode S H :=
  if w.left = .host h then w.right else w.left

/-- `INetNode.packetIn(p, dpid, port)`; no node reads `port`. -/
abbrev PacketIn (S H : Type) := INetNode S H → IPacket → JLong → Exec (List (Entry H)) Unit

variable (packetIn : PacketIn S H)

/-- `Port.packetOut`. -/
def packetOut (sw : S) (out : Port S H) (p : IPacket) : Exec (List (Entry H)) Unit :=
  match out.plugged with
  | none => pure ()
  | some w =>
    if out.isEnabled then packetIn (w.fromPort sw out.number) p (net.switches sw).dpid else pure ()

/-- The loop over the ports: not back where the packet came from, nor to the controller. -/
def floodPorts (sw : S) (p : IPacket) (inPort : Int) : List (Port S H) →
    Exec (List (Entry H)) Unit
  | [] => pure ()
  | out :: rest =>
    if out.number = inPort ∨ out.number = (net.switches sw).controllerPort then
      floodPorts sw p inPort rest
    else do
      packetOut net packetIn sw out p
      floodPorts sw p inPort rest

/-- `DummySwitch.packetIn`. -/
def switchPacketIn (sw : S) (p : IPacket) (inPort : Int) : Exec (List (Entry H)) Unit :=
  match (net.switches sw).flowTable.find? fun f => f.isMatch p inPort with
  | some f => do
    let out ← liftM ((net.switches sw).getPort f.outPort)
    let out ← liftM (deref out)
    packetOut net packetIn sw out p
  | none => do
    let conn ← liftM ((net.switches sw).getPort (net.switches sw).controllerPort)
    let conn ← liftM (deref conn)
    packetOut net packetIn sw conn p
    floodPorts net packetIn sw p inPort (net.switches sw).ports

/-- `sendPingReply`. -/
def sendPingReply (h : H) (srcIp : JLong) : Exec (List (Entry H)) Unit :=
  match (net.hosts h).plugged with
  | none => pure ()
  | some w =>
    packetIn (w.fromHost h) (.pingReply ((net.hosts h).ip.setWidth 32) (srcIp.setWidth 32)) (-1)

/-- `DummyHost.packetIn`. -/
def hostPacketIn (h : H) : IPacket → Exec (List (Entry H)) Unit
  | .ping source dest =>
    if dest.signExtend 64 = (net.hosts h).ip then
      sendPingReply net packetIn h (source.signExtend 64)
    else pure ()
  | .pingReply source _ => modify fun log => log ++ [.message h (.pingReply source)]
  | .trace tp => modify fun log => log ++ [.message h (.traceReply tp)]

/-- `DummyNetwork.packetIn`. A ping to the network itself is not answered. -/
def netPacketIn (p : IPacket) (dpid : JLong) : Exec (List (Entry H)) Unit :=
  match p with
  | .trace tp => modify fun log => log ++ [.traceApp tp dpid]
  | _ => pure ()

/-- `packetIn` of a node, with room for `depth` nested calls. -/
def packetInAt : Nat → PacketIn S H
  | 0, _, _, _ => throw (.error "StackOverflowError")
  | depth + 1, .port sw number, p, _ =>
    match (net.switches sw).find number with
    | none => pure ()
    | some inPort =>
      if inPort.isEnabled then switchPacketIn net (packetInAt depth) sw p number else pure ()
  | depth + 1, .host h, p, _ => hostPacketIn net (packetInAt depth) h p
  | _ + 1, .net, p, dpid => netPacketIn p dpid

/-- `sendPingRequest`. -/
def sendPingRequest (depth : Nat) (h : H) (dstIp : JLong) : Exec (List (Entry H)) Unit := do
  modify fun log => log ++ [.message h (.sendingRequest dstIp)]
  match (net.hosts h).plugged with
  | none => modify fun log => log ++ [.message h .unreachable]
  | some w =>
    packetInAt net depth (w.fromHost h)
      (.ping ((net.hosts h).ip.setWidth 32) (dstIp.setWidth 32)) (-1)

end Calls

/-! ## Ports by number -/

section Numbers

variable {S H : Type} (sw : DummySwitch S H)

theorem nodup_numbers : (sw.ports.map (·.number)).Nodup := by
  rw [sw.numbered]
  refine List.nodup_range.map fun i j h => ?_
  omega

theorem find_eq_some {number : Int} {out : Port S H} (h : sw.find number = some out) :
    out ∈ sw.ports ∧ out.number = number := by
  unfold DummySwitch.find at h
  have hnumber := List.find?_some h
  rw [decide_eq_true_eq] at hnumber
  exact ⟨List.mem_of_find?_eq_some h, hnumber⟩

theorem getPort_eq_some {number : Int} {out : Port S H}
    (h : sw.getPort number = .ok (some out)) : sw.find number = some out ∧ out.number = number := by
  have hfind : sw.find number = some out := by
    unfold DummySwitch.getPort at h
    split at h
    · cases h
    · split at h
      · cases h
        assumption
      · cases h
  exact ⟨hfind, (find_eq_some sw hfind).2⟩

/-- A port is found by its number. -/
theorem find_number {out : Port S H} (h : out ∈ sw.ports) : sw.find out.number = some out := by
  have hinj := List.inj_on_of_nodup_map (nodup_numbers sw)
  cases hfind : sw.find out.number with
  | none =>
    have hnone := List.find?_eq_none.mp hfind out h
    exact absurd (decide_eq_true rfl) hnone
  | some out' =>
    obtain ⟨hmem, hnumber⟩ := find_eq_some sw hfind
    rw [hinj hmem h hnumber]

end Numbers

end JSdnTrace.Tests
