/-
  `core.TraceAppController` and the `INetwork` it drives. A method is a block over `World`: the
  two maps of the controller and the calls the network has completed. A method that throws
  keeps the writes it made before.

  A table of `netMap` is created by one call and stored under one key, so no two keys share
  one, and writing into it is a `put` of the written table. `writeMapToFile` only reads the map.
  References handed in from outside (boxed ids, port pairs, the fields of a `SwitchInfo`) are
  not null.

  * `searchForSwitch_eq_ok`, `searchForSwitch_eq_of_unique`: what the search returns, for any
    order of the keys.
  * `run_sendReply`, `run_handleTrace`, `run_packetIn_of_ok`, `run_packetIn_of_error`,
    `run_switchInfoReceived`, `run_onPortStatusChange`: what each method does, on any network.
-/
import JSdnTrace.Java.HashMap
import JSdnTrace.TracePacket

namespace JSdnTrace

open Java

/-- `core.PortMacPair`. -/
structure PortMacPair where
  mac : JLong
  port : JInt

/-- An OpenFlow match on the Ethernet type. -/
structure Match where
  ethType : BitVec 16

/-- `core.INetwork`: each call completes or throws. -/
structure INetwork where
  buildTraceMatch : JLong → Except Throwable (Option Match)
  addFlow : JLong → Option Match → OFPort → Except Throwable Unit
  sendTracePacket : JLong → TracePacket → OFPort → Except Throwable Unit

/-- No network call throws. -/
structure INetwork.Reliable (network : INetwork) : Prop where
  buildTraceMatch : ∀ dpid, ∃ m, network.buildTraceMatch dpid = .ok m
  addFlow : ∀ dpid m port, network.addFlow dpid m port = .ok ()
  sendTracePacket : ∀ dpid pkt port, network.sendTracePacket dpid pkt port = .ok ()

/-- A network that accepts every call. -/
def INetwork.accepting : INetwork where
  buildTraceMatch _ := .ok (some ⟨0x8220⟩)
  addFlow _ _ _ := .ok ()
  sendTracePacket _ _ _ := .ok ()

theorem INetwork.accepting_reliable : INetwork.accepting.Reliable where
  buildTraceMatch _ := ⟨_, rfl⟩
  addFlow _ _ _ := rfl
  sendTracePacket _ _ _ := rfl

structure TraceAppController where
  netMap : HashMap JLong (HashMap JLong JInt)
  hopRec : HashMap JLong JByte

/-- An `AddFlow` call, and how it ended. -/
structure Flow where
  dpid : JLong
  mtch : Option Match
  port : OFPort
  result : Except Throwable Unit

/-- A `SendTracePacket` call, and how it ended. -/
structure Sent where
  dpid : JLong
  pkt : TracePacket
  port : OFPort
  result : Except Throwable Unit

/-- The controller and the calls it has made on the network, newest last. -/
structure World where
  app : TraceAppController
  flows : List Flow
  sent : List Sent

/-- `new TraceAppController(network)`, before any call. -/
def World.init : World := ⟨⟨∅, ∅⟩, [], []⟩

def World.setNetMap (w : World) (netMap : HashMap JLong (HashMap JLong JInt)) : World :=
  { w with app := { w.app with netMap := netMap } }

def World.setHopRec (w : World) (hopRec : HashMap JLong JByte) : World :=
  { w with app := { w.app with hopRec := hopRec } }

@[simp] theorem World.setHopRec_hopRec (w : World) (m : HashMap JLong JByte) :
    (w.setHopRec m).app.hopRec = m := rfl

@[simp] theorem World.setHopRec_setHopRec (w : World) (m m' : HashMap JLong JByte) :
    (w.setHopRec m).setHopRec m' = w.setHopRec m' := rfl

/-- What `sendReply` draws: the new packet, and the `Date` set on it. -/
structure ReplyDraw where
  created : Draw
  now : JLong

/-- What one `PacketIn` meets: the network, the order of the hash keys, and the values drawn
    for the packet read, for a reply sent to a known port and for a flooded one. -/
structure Env where
  network : INetwork
  keySet : KeySetOrder JLong
  packet : Draw
  routed : ReplyDraw
  flooded : ReplyDraw

/-- Keys in increasing order, every id drawn is `probeId` and the clock stands at `now`. -/
def Env.accepting (probeId now : JLong) : Env where
  network := INetwork.accepting
  keySet := KeySetOrder.increasing BitVec.toNat fun _ _ => BitVec.eq_of_toNat_eq
  packet := ⟨probeId, now⟩
  routed := ⟨⟨probeId, now⟩, now⟩
  flooded := ⟨⟨probeId, now⟩, now⟩

namespace TraceAppController

/-! ## The methods -/

def switchInfoReceived (ofj : OpenFlowJ) (network : INetwork) (dpid : JLong)
    (mp : List PortMacPair) : Exec World Unit := do
  let portMap := mp.foldl (fun portMap p => portMap.put p.mac p.port) ∅
  let w ← get
  -- The source has the same put in both branches.
  if w.app.netMap.size = 0 then
    modify fun w => w.setNetMap (w.app.netMap.put dpid portMap)
  else
    modify fun w => w.setNetMap (w.app.netMap.put dpid portMap)
  let m ← liftM (network.buildTraceMatch dpid)
  let result := network.addFlow dpid m ofj.portController
  modify fun w => { w with flows := w.flows ++ [⟨dpid, m, ofj.portController, result⟩] }
  liftM result

/-- The loop of `searchForSwitch` over the keys still to visit. -/
def searchLoop (mac : JLong) (toSearch : HashMap JLong (HashMap JLong JInt)) :
    List JLong → Except Throwable JLong
  | [] => .ok (-1)
  | l :: ls => do
    let m ← deref (toSearch.get l)
    if m.containsKey mac then .ok l else searchLoop mac toSearch ls

def searchForSwitch (keySet : KeySetOrder JLong) (mac : JLong)
    (toSearch : HashMap JLong (HashMap JLong JInt)) : Except Throwable JLong :=
  searchLoop mac toSearch (keySet.visit toSearch.keySet)

def sendReply (ofj : OpenFlowJ) (network : INetwork) (draw : ReplyDraw) (dpid : JLong)
    (request : TracePacket) (p : OFPort) (info : SwitchInfo) : Exec World Unit := do
  let reply := TracePacket.new ofj draw.created
  let reply := reply.setDestination request.sourceMAC
  let reply := reply.setSource request.destinationMAC
  let reply := reply.setMaxHops 255
  let reply := reply.setType false
  let reply := reply.setTimestamp draw.now
  let reply := reply.setSwInfo info
  let w ← get
  if !w.app.hopRec.containsKey request.probeId then
    modify fun w => w.setHopRec (w.app.hopRec.put request.probeId 0)
  let w ← get
  let hop ← liftM (deref (w.app.hopRec.get request.probeId))
  let reply := reply.setHop hop
  -- The counter moves before the call, so it has moved when the call throws.
  modify fun w => w.setHopRec (w.app.hopRec.put request.probeId (hop + 1))
  let result := network.sendTracePacket dpid reply p
  modify fun w => { w with sent := w.sent ++ [⟨dpid, reply, p, result⟩] }
  liftM result

/-- The port is looked up with the `MacAddress` itself, in a table whose keys are `Long`s, and
    any null on the way, in the network included, is answered by flooding. -/
def handleTrace (ofj : OpenFlowJ) (env : Env) (p : TracePacket) (info : SwitchInfo) :
    Exec World Unit := do
  -- The source also reads `netMap.get(info.getDpid())`, and does not use it.
  let w ← get
  let source ← liftM (deref p.sourceMAC)
  let returnSw ← liftM (searchForSwitch env.keySet source.getLong w.app.netMap)
  tryCatch
    (do
      let table ← liftM (deref (w.app.netMap.get returnSw))
      let returnPort ← liftM (deref (table.getObject (.inr source)))
      let port ← liftM (ofj.portOf returnPort)
      sendReply ofj env.network env.routed returnSw p port info)
    (fun
      | .nullPointer =>
        sendReply ofj env.network env.flooded info.dpid.getLong p ofj.portFlood info
      | e => throw e)

/-- `pkt.deserialize(data, 0, data[0])` on a new packet. -/
def parse (ofj : OpenFlowJ) (draw : Draw) (data : List JByte) : Except Throwable TracePacket := do
  let length ← arrayHead data
  (TracePacket.new ofj draw).deserialize ofj data 0 length.toInt

def packetIn (ofj : OpenFlowJ) (env : Env) (data : List JByte) (info : SwitchInfo) :
    Exec World Unit :=
  tryCatch
    (do
      let pkt ← liftM (parse ofj env.packet data)
      handleTrace ofj env pkt info)
    (printStackTrace "PacketParsingException")

def onPortStatusChange (dpid : JLong) (portNum : JInt) (mac : JLong) : Exec World Unit := do
  let w ← get
  if !w.app.netMap.containsKey dpid then
    let newMap := HashMap.put ∅ mac portNum
    modify fun w => w.setNetMap (w.app.netMap.put dpid newMap)
  else
    let map ← liftM (deref (w.app.netMap.get dpid))
    if !map.containsKey mac then
      modify fun w => w.setNetMap (w.app.netMap.put dpid (map.put mac portNum))
    else
      modify fun w => w.setNetMap (w.app.netMap.put dpid ((map.remove mac).put mac portNum))

/-! ## The search -/

/-- `mac` is in the table of the switch `dpid`. -/
def OnSwitch (netMap : HashMap JLong (HashMap JLong JInt)) (dpid mac : JLong) : Prop :=
  ∃ table, netMap.get dpid = some table ∧ mac ∈ table

theorem OnSwitch.mem {netMap : HashMap JLong (HashMap JLong JInt)} {dpid mac : JLong}
    (h : OnSwitch netMap dpid mac) : dpid ∈ netMap := by
  obtain ⟨table, ht, -⟩ := h
  exact HashMap.mem_iff_get.mpr ⟨table, ht⟩

theorem searchLoop_cons {netMap : HashMap JLong (HashMap JLong JInt)} {l : JLong}
    (h : l ∈ netMap) (mac : JLong) (ls : List JLong) :
    (OnSwitch netMap l mac ∧ searchLoop mac netMap (l :: ls) = .ok l) ∨
      (¬ OnSwitch netMap l mac ∧
        searchLoop mac netMap (l :: ls) = searchLoop mac netMap ls) := by
  obtain ⟨table, ht⟩ := HashMap.mem_iff_get.mp h
  have hloop : searchLoop mac netMap (l :: ls) =
      if table.containsKey mac then .ok l else searchLoop mac netMap ls := by
    rw [searchLoop, ht, deref_some, ok_bind]
  by_cases hm : mac ∈ table
  · exact Or.inl ⟨⟨table, ht, hm⟩, hloop.trans (if_pos (HashMap.containsKey_iff.mpr hm))⟩
  · refine Or.inr ⟨fun hon => ?_, hloop.trans (if_neg fun h => hm (HashMap.containsKey_iff.mp h))⟩
    obtain ⟨table', ht', hmem⟩ := hon
    have heq : table = table' := Option.some_inj.mp (ht.symm.trans ht')
    exact hm (heq ▸ hmem)

theorem searchLoop_eq_ok {netMap : HashMap JLong (HashMap JLong JInt)} (mac : JLong)
    (ls : List JLong) (hls : ∀ l ∈ ls, l ∈ netMap) :
    ∃ r, searchLoop mac netMap ls = .ok r ∧
      ((r ∈ ls ∧ OnSwitch netMap r mac) ∨ (r = -1 ∧ ∀ l ∈ ls, ¬ OnSwitch netMap l mac)) := by
  induction ls with
  | nil => exact ⟨-1, rfl, Or.inr ⟨rfl, fun l hl => absurd hl List.not_mem_nil⟩⟩
  | cons l ls ih =>
    rcases searchLoop_cons (hls l List.mem_cons_self) mac ls with ⟨hon, heq⟩ | ⟨hoff, heq⟩
    · exact ⟨l, heq, Or.inl ⟨List.mem_cons_self, hon⟩⟩
    · obtain ⟨r, hr, h⟩ := ih fun k hk => hls k (List.mem_cons_of_mem l hk)
      refine ⟨r, heq.trans hr, ?_⟩
      rcases h with ⟨hmem, hon⟩ | ⟨rfl, hnone⟩
      · exact Or.inl ⟨List.mem_cons_of_mem l hmem, hon⟩
      · exact Or.inr ⟨rfl, List.forall_mem_cons.mpr ⟨hoff, hnone⟩⟩

/-- Whatever the order, the search finds a switch that has `mac`, or `-1` when none has. -/
theorem searchForSwitch_eq_ok (keySet : KeySetOrder JLong) (mac : JLong)
    (netMap : HashMap JLong (HashMap JLong JInt)) :
    ∃ r, searchForSwitch keySet mac netMap = .ok r ∧
      (OnSwitch netMap r mac ∨ (r = -1 ∧ ∀ l, ¬ OnSwitch netMap l mac)) := by
  have hmem : ∀ l, l ∈ keySet.visit netMap.keySet ↔ l ∈ netMap :=
    fun l => (keySet.mem_visit _ l).trans HashMap.mem_keySet
  obtain ⟨r, hr, h⟩ := searchLoop_eq_ok mac (keySet.visit netMap.keySet) fun l => (hmem l).mp
  refine ⟨r, hr, ?_⟩
  rcases h with ⟨-, hon⟩ | ⟨rfl, hnone⟩
  · exact Or.inl hon
  · exact Or.inr ⟨rfl, fun l hon => hnone l ((hmem l).mpr hon.mem) hon⟩

/-- The search for a MAC on one switch finds the switch, in any order of the keys. -/
theorem searchForSwitch_eq_of_unique {netMap : HashMap JLong (HashMap JLong JInt)}
    {dpid mac : JLong} (hon : OnSwitch netMap dpid mac)
    (hunique : ∀ dpid', OnSwitch netMap dpid' mac → dpid' = dpid) (keySet : KeySetOrder JLong) :
    searchForSwitch keySet mac netMap = .ok dpid := by
  obtain ⟨r, hr, h⟩ := searchForSwitch_eq_ok keySet mac netMap
  rcases h with hron | ⟨-, hnone⟩
  · rw [hr, hunique r hron]
  · exact absurd hon (hnone dpid)

/-! ## Symbolic execution -/

/-- The hop the next reply to `probeId` gets. -/
def nextHop (hopRec : HashMap JLong JByte) (probeId : JLong) : JByte :=
  (hopRec.get probeId).getD 0

/-- The packet that `sendReply` sends. -/
def replyPacket (draw : ReplyDraw) (request : TracePacket) (info : SwitchInfo) (hop : JByte) :
    TracePacket where
  destinationMAC := request.sourceMAC
  sourceMAC := request.destinationMAC
  version := 1
  maxHops := 255
  probeId := draw.created.nextLong
  timestamp := draw.now
  hop := hop
  swInfo := info
  request := false

end TraceAppController

open TraceAppController

/-- The `SendTracePacket` call that answers `request`. -/
def World.reply (w : World) (network : INetwork) (draw : ReplyDraw) (dpid : JLong)
    (request : TracePacket) (p : OFPort) (info : SwitchInfo) : Sent :=
  let pkt := replyPacket draw request info (nextHop w.app.hopRec request.probeId)
  ⟨dpid, pkt, p, network.sendTracePacket dpid pkt p⟩

/-- The counter of the probe is advanced and the reply is logged. -/
def World.answer (w : World) (probeId : JLong) (reply : Sent) : World where
  app := ⟨w.app.netMap, w.app.hopRec.put probeId (nextHop w.app.hopRec probeId + 1)⟩
  flows := w.flows
  sent := w.sent ++ [reply]

namespace TraceAppController

variable (ofj : OpenFlowJ) (w : World)

/-- The counter is advanced before the network is called, so also when the call throws. -/
theorem run_sendReply (network : INetwork) (draw : ReplyDraw) (dpid : JLong)
    (request : TracePacket) (p : OFPort) (info : SwitchInfo) :
    run (sendReply ofj network draw dpid request p info) w =
      ((w.reply network draw dpid request p info).result,
        w.answer request.probeId (w.reply network draw dpid request p info)) := by
  unfold sendReply
  simp only [run_bind, run_get, andThen_ok]
  cases hseen : w.app.hopRec.get request.probeId with
  | some hop =>
    have hk := HashMap.containsKey_of_get_some hseen
    have hnext : nextHop w.app.hopRec request.probeId = hop := by rw [nextHop, hseen]; rfl
    simp only [hk, Bool.not_true, Bool.false_eq_true, if_false, run_bind, run_get, andThen_ok,
      hseen, deref_some, run_lift, run_modify, World.reply, World.answer, hnext]
    rfl
  | none =>
    have hk := HashMap.containsKey_of_get_none hseen
    have hnext : nextHop w.app.hopRec request.probeId = 0 := by rw [nextHop, hseen]; rfl
    simp only [hk, Bool.not_false, if_true, run_bind, run_get, andThen_ok, run_modify,
      World.setHopRec_hopRec, HashMap.get_put_self, HashMap.put_put, World.setHopRec_setHopRec,
      deref_some, run_lift, World.reply, World.answer, hnext]
    rfl

/-- The look-up by `MacAddress` finds no port, so the reply is always flooded. -/
theorem run_handleTrace (env : Env) {p : TracePacket} {source : MacAddress}
    (hs : p.sourceMAC = some source) (info : SwitchInfo) :
    run (handleTrace ofj env p info) w =
      run (sendReply ofj env.network env.flooded info.dpid.getLong p ofj.portFlood info) w := by
  obtain ⟨returnSw, hret, -⟩ := searchForSwitch_eq_ok env.keySet source.getLong w.app.netMap
  unfold handleTrace
  simp only [run_bind, run_get, andThen_ok, hs, deref_some, run_lift, hret, run_tryCatch]
  cases w.app.netMap.get returnSw <;> rfl

theorem sourceMAC_of_parse {draw : Draw} {data : List JByte} {p : TracePacket}
    (h : parse ofj draw data = .ok p) : ∃ source, p.sourceMAC = some source := by
  obtain ⟨length, -, h⟩ := bind_eq_ok.mp h
  obtain ⟨h0, hl, hle, -⟩ := TracePacket.window_of_deserialize_eq_ok h
  rw [TracePacket.deserialize_of_le h0 hl hle] at h
  cases hsw : (SwitchInfo.new ofj).deserialize ofj data 21 SwitchInfo.len with
  | error e =>
    rw [hsw] at h
    cases h
  | ok swInfo =>
    rw [hsw] at h
    cases h
    exact ⟨_, rfl⟩

/-- The reply of one `PacketIn`: flooded on the switch the packet came in on. -/
def floodedReply (w : World) (env : Env) (p : TracePacket) (info : SwitchInfo) : Sent :=
  w.reply env.network env.flooded info.dpid.getLong p ofj.portFlood info

/-- Bytes that parse are answered. -/
theorem run_packetIn_of_ok (env : Env) {data : List JByte} {p : TracePacket}
    (h : parse ofj env.packet data = .ok p) (info : SwitchInfo) :
    (run (packetIn ofj env data info) w).2 =
      w.answer p.probeId (floodedReply ofj w env p info) := by
  obtain ⟨source, hs⟩ := sourceMAC_of_parse ofj h
  unfold packetIn
  rw [snd_run_tryCatch_print, run_bind, run_lift, h, andThen_ok,
    run_handleTrace ofj w env hs, run_sendReply]
  rfl

/-- Bytes that do not parse change nothing, whether the exception is caught or not. -/
theorem run_packetIn_of_error (env : Env) {data : List JByte} {e : Throwable}
    (h : parse ofj env.packet data = .error e) (info : SwitchInfo) :
    (run (packetIn ofj env data info) w).2 = w := by
  unfold packetIn
  rw [snd_run_tryCatch_print, run_bind, run_lift, h, andThen_error]

/-- The table is replaced before the flow is pushed, so also when the network throws. -/
theorem run_switchInfoReceived (network : INetwork) (dpid : JLong) (mp : List PortMacPair) :
    ∃ flows, (run (switchInfoReceived ofj network dpid mp) w).2 =
      { w.setNetMap (w.app.netMap.put dpid
        (mp.foldl (fun portMap p => portMap.put p.mac p.port) ∅)) with flows := flows } := by
  unfold switchInfoReceived
  simp only [run_bind, run_get, andThen_ok, run_modify, run_lift, ite_self]
  cases network.buildTraceMatch dpid with
  | error e => exact ⟨w.flows, rfl⟩
  | ok m => exact ⟨_, rfl⟩

/-- The pair is written into the switch's table, which is created when there is none. -/
theorem run_onPortStatusChange (dpid : JLong) (portNum : JInt) (mac : JLong) :
    run (onPortStatusChange dpid portNum mac) w =
      (.ok (), w.setNetMap (w.app.netMap.put dpid
        (((w.app.netMap.get dpid).getD ∅).put mac portNum))) := by
  unfold onPortStatusChange
  simp only [run_bind, run_get, andThen_ok]
  cases hmap : w.app.netMap.get dpid with
  | none =>
    have hk := HashMap.containsKey_of_get_none hmap
    simp [hk]
  | some map =>
    have hk := HashMap.containsKey_of_get_some hmap
    simp [hk, run_bind, HashMap.remove_put]

end TraceAppController

end JSdnTrace
