/-
  The map of the network as a function of the calls that wrote it.

  * `Event.writes`: the ports that one event writes for a MAC on a switch, oldest first.
  * `lastWrite`: the latest write since the switch last connected, which replaces its table.
  * `netMap_reached_iff`: after any run the map holds the latest writes, and its keys are the
    switches that were named. Packet-ins write nothing.
-/
import JSdnTrace.Run

namespace JSdnTrace

open Java Lib

namespace Event

/-- The ports that the event writes for `mac` on the switch `dpid`. -/
def writes (dpid mac : JLong) : Event → List JInt
  | switchInfoReceived _ d mp => if d = dpid then (mp.filter (·.mac = mac)).map (·.port) else []
  | onPortStatusChange d portNum m => if d = dpid ∧ m = mac then [portNum] else []
  | packetIn _ _ _ => []

/-- The switch connects, and its table starts afresh. -/
def Connects (dpid : JLong) : Event → Prop
  | switchInfoReceived _ d _ => d = dpid
  | _ => False

instance (dpid : JLong) : DecidablePred (Connects dpid)
  | switchInfoReceived _ d _ => inferInstanceAs (Decidable (d = dpid))
  | onPortStatusChange _ _ _ => inferInstanceAs (Decidable False)
  | packetIn _ _ _ => inferInstanceAs (Decidable False)

/-- The event is a call about the switch. -/
def Names (dpid : JLong) : Event → Prop
  | switchInfoReceived _ d _ => d = dpid
  | onPortStatusChange d _ _ => d = dpid
  | packetIn _ _ _ => False

end Event

/-- The latest port written for `mac` on `dpid` since the switch connected. -/
def lastWrite (dpid mac : JLong) (es : List Event) : Option JInt :=
  ((since (Event.Connects dpid) es).flatMap (Event.writes dpid mac)).getLast?

/-- `netMap.get(dpid).get(mac)`, absent when there is no table. -/
def registeredPort (netMap : HashMap JLong (HashMap JLong JInt)) (dpid mac : JLong) :
    Option JInt :=
  (netMap.get dpid).bind fun table => table.get mac

/-! ## One event -/

theorem lastWrite_concat (dpid mac : JLong) (es : List Event) (e : Event) :
    lastWrite dpid mac (es ++ [e]) =
      (e.writes dpid mac).getLast?.or
        (if e.Connects dpid then none else lastWrite dpid mac es) := by
  unfold lastWrite
  rw [since_concat]
  split
  · simp
  · rw [List.flatMap_append, List.getLast?_append, List.flatMap_singleton]

/-- An event writes its own ports and keeps the others, unless it replaces the table. -/
theorem registeredPort_writeNetMap (netMap : HashMap JLong (HashMap JLong JInt)) (e : Event)
    (dpid mac : JLong) :
    registeredPort (e.writeNetMap netMap) dpid mac =
      (e.writes dpid mac).getLast?.or
        (if e.Connects dpid then none else registeredPort netMap dpid mac) := by
  unfold registeredPort
  cases e with
  | switchInfoReceived network d mp =>
    rw [Event.writeNetMap, HashMap.get_put, Event.writes]
    by_cases h : d = dpid
    · have hc : Event.Connects dpid (.switchInfoReceived network d mp) := h
      rw [if_pos h.symm, if_pos h, if_pos hc, Option.bind_some, HashMap.get_foldl_put,
        HashMap.get_empty]
    · have hc : ¬ Event.Connects dpid (.switchInfoReceived network d mp) := h
      rw [if_neg (Ne.symm h), if_neg h, if_neg hc]
      rfl
  | onPortStatusChange d portNum m =>
    have hc : ¬ Event.Connects dpid (.onPortStatusChange d portNum m) := id
    rw [Event.writeNetMap, HashMap.get_put, Event.writes, if_neg hc]
    by_cases hd : d = dpid
    · subst hd
      rw [if_pos rfl, Option.bind_some, HashMap.get_put]
      by_cases hm : m = mac
      · rw [if_pos hm.symm, if_pos ⟨rfl, hm⟩]
        rfl
      · rw [if_neg (Ne.symm hm), if_neg fun h => hm h.2]
        cases netMap.get d <;> rfl
    · rw [if_neg (Ne.symm hd), if_neg fun h => hd h.1]
      rfl
  | packetIn env data info => rfl

/-- A reported port replaces the port of that MAC on that switch. -/
theorem registeredPort_onPortStatusChange (netMap : HashMap JLong (HashMap JLong JInt))
    (d : JLong) (portNum : JInt) (m dpid mac : JLong) :
    registeredPort ((Event.onPortStatusChange d portNum m).writeNetMap netMap) dpid mac =
      if d = dpid ∧ m = mac then some portNum else registeredPort netMap dpid mac := by
  have hc : ¬ Event.Connects dpid (.onPortStatusChange d portNum m) := id
  rw [registeredPort_writeNetMap, if_neg hc, Event.writes]
  split <;> rfl

theorem mem_writeNetMap (netMap : HashMap JLong (HashMap JLong JInt)) (e : Event) (dpid : JLong) :
    dpid ∈ e.writeNetMap netMap ↔ e.Names dpid ∨ dpid ∈ netMap := by
  cases e with
  | switchInfoReceived network d mp =>
    exact HashMap.mem_put.trans (or_congr_left eq_comm)
  | onPortStatusChange d portNum m =>
    exact HashMap.mem_put.trans (or_congr_left eq_comm)
  | packetIn env data info => exact (or_iff_right id).symm

/-! ## A run -/

variable (ofj : OpenFlowJ)

theorem registeredPort_reached (es : List Event) (dpid mac : JLong) :
    registeredPort (reached ofj es).app.netMap dpid mac = lastWrite dpid mac es := by
  induction es using List.reverseRecOn with
  | nil => rfl
  | append_singleton es e ih =>
    rw [reached_concat, netMap_step, registeredPort_writeNetMap, ih, lastWrite_concat]

theorem mem_netMap_reached (es : List Event) (dpid : JLong) :
    dpid ∈ (reached ofj es).app.netMap ↔ ∃ e ∈ es, e.Names dpid := by
  induction es using List.reverseRecOn with
  | nil => exact iff_of_false Finmap.notMem_empty (by simp)
  | append_singleton es e ih =>
    rw [reached_concat, netMap_step, mem_writeNetMap, ih]
    simp [or_comm, or_and_right, exists_or]

/-- The map is the history of the calls: for each switch and MAC the latest write, for each
    switch a table exactly when it was named. -/
theorem netMap_reached_iff (es : List Event) (dpid : JLong) :
    (∀ mac, registeredPort (reached ofj es).app.netMap dpid mac = lastWrite dpid mac es) ∧
      (dpid ∈ (reached ofj es).app.netMap ↔ ∃ e ∈ es, e.Names dpid) :=
  ⟨registeredPort_reached ofj es dpid, mem_netMap_reached ofj es dpid⟩

end JSdnTrace
