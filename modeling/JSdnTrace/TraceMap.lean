/-
  `writeMapToFile`: the text that `TraceMap.txt` is given, and when the file is up to date.

  * `mapText_eq`: the text is a header and the lines of the map, in the order of the hash keys.
  * `readLines_lines`: the map is read back from its lines, whatever the order.
  * `mapText_injective`: so the file determines the map.
  * `upToDate_iff`: the file is up to date after every call exactly when no call that throws has
    changed the map. `SwitchInfoReceived` writes the file last, after its calls on the network.
-/
import JSdnTrace.Java.Decimal
import JSdnTrace.Lib.Delimited
import JSdnTrace.Run

namespace JSdnTrace

open Java Lib

/-- The orders in which the loops visit the switches, and the table of each switch. -/
structure MapOrder where
  switches : KeySetOrder JLong
  table : JLong → KeySetOrder JLong

/-- A line of the file behind its header. -/
inductive MapLine where
  | switch (id : JLong)
  | entry (mac : JLong) (port : JInt)

def MapLine.text : MapLine → List Char
  | switch id => "Switch: ".toList ++ (decimal id ++ ['\n'])
  | entry mac port => '\t' :: decimal mac ++ (" : ".toList ++ (decimal port ++ ['\n']))

namespace TraceAppController

/-- The loop over the keys of the table of `id` still to visit. -/
def tableLoop (netMap : HashMap JLong (HashMap JLong JInt)) (id : JLong) :
    List JLong → Except Throwable (List Char)
  | [] => .ok []
  | mac :: macs => do
    let table ← deref (netMap.get id)
    let port ← deref (table.get mac)
    let rest ← tableLoop netMap id macs
    return MapLine.text (.entry mac port) ++ rest

/-- The loop over the switches still to visit. -/
def mapLoop (o : MapOrder) (netMap : HashMap JLong (HashMap JLong JInt)) :
    List JLong → Except Throwable (List Char)
  | [] => .ok []
  | id :: ids => do
    let table ← deref (netMap.get id)
    let entries ← tableLoop netMap id ((o.table id).visit table.keySet)
    let rest ← mapLoop o netMap ids
    return MapLine.text (.switch id) ++ (entries ++ rest)

/-- The string that `writeMapToFile` builds. -/
def mapText (o : MapOrder) (netMap : HashMap JLong (HashMap JLong JInt)) :
    Except Throwable (List Char) := do
  let rest ← mapLoop o netMap (o.switches.visit netMap.keySet)
  return "--TraceApp Map Info--\n".toList ++ rest

/-! ## The lines -/

/-- The entries of a table. -/
def tableLines (table : HashMap JLong JInt) (macs : List JLong) : List MapLine :=
  macs.map fun mac => .entry mac ((table.get mac).getD 0)

/-- The lines of the switches `ids`. -/
def linesOf (o : MapOrder) (netMap : HashMap JLong (HashMap JLong JInt)) (ids : List JLong) :
    List MapLine :=
  ids.flatMap fun id =>
    .switch id :: tableLines ((netMap.get id).getD ∅)
      ((o.table id).visit ((netMap.get id).getD ∅).keySet)

def lines (o : MapOrder) (netMap : HashMap JLong (HashMap JLong JInt)) : List MapLine :=
  linesOf o netMap (o.switches.visit netMap.keySet)

theorem tableLoop_eq {netMap : HashMap JLong (HashMap JLong JInt)} {id : JLong}
    {table : HashMap JLong JInt} (ht : netMap.get id = some table) (macs : List JLong)
    (hmacs : ∀ mac ∈ macs, mac ∈ table) :
    tableLoop netMap id macs = .ok ((tableLines table macs).flatMap MapLine.text) := by
  induction macs with
  | nil => rfl
  | cons mac macs ih =>
    obtain ⟨hmac, hmacs⟩ := List.forall_mem_cons.mp hmacs
    obtain ⟨port, hport⟩ := HashMap.mem_iff_get.mp hmac
    rw [tableLoop, ht, deref_some, ok_bind, hport, deref_some, ok_bind, ih hmacs, ok_bind]
    unfold tableLines
    rw [List.map_cons, List.flatMap_cons, hport]
    rfl

theorem mapLoop_eq (o : MapOrder) (netMap : HashMap JLong (HashMap JLong JInt))
    (ids : List JLong) (hids : ∀ id ∈ ids, id ∈ netMap) :
    mapLoop o netMap ids = .ok ((linesOf o netMap ids).flatMap MapLine.text) := by
  induction ids with
  | nil => rfl
  | cons id ids ih =>
    obtain ⟨hid, hids⟩ := List.forall_mem_cons.mp hids
    obtain ⟨table, ht⟩ := HashMap.mem_iff_get.mp hid
    have hmacs : ∀ mac ∈ (o.table id).visit table.keySet, mac ∈ table := fun mac hmac =>
      HashMap.mem_keySet.mp (((o.table id).mem_visit _ mac).mp hmac)
    rw [mapLoop, ht, deref_some, ok_bind, tableLoop_eq ht _ hmacs, ok_bind, ih hids, ok_bind]
    unfold linesOf
    rw [List.flatMap_cons, List.flatMap_append, ht, Option.getD_some, List.flatMap_cons,
      List.append_assoc]
    rfl

/-- The text of the file: a header and the lines. -/
def fileText (o : MapOrder) (netMap : HashMap JLong (HashMap JLong JInt)) : List Char :=
  "--TraceApp Map Info--\n".toList ++ (lines o netMap).flatMap MapLine.text

/-- Building the text throws nothing. -/
theorem mapText_eq (o : MapOrder) (netMap : HashMap JLong (HashMap JLong JInt)) :
    mapText o netMap = .ok (fileText o netMap) := by
  unfold mapText
  rw [mapLoop_eq o netMap _ fun id hid =>
    HashMap.mem_keySet.mp ((o.switches.mem_visit _ id).mp hid)]
  rfl

/-! ## Reading the lines -/

/-- A reader keeps the switch it is at, and the map so far. -/
def readLine (s : JLong × HashMap JLong (HashMap JLong JInt)) :
    MapLine → JLong × HashMap JLong (HashMap JLong JInt)
  | .switch id => (id, s.2.put id ∅)
  | .entry mac port => (s.1, s.2.put s.1 (((s.2.get s.1).getD ∅).put mac port))

def readLines (ls : List MapLine) : HashMap JLong (HashMap JLong JInt) :=
  (ls.foldl readLine (0, ∅)).2

theorem foldl_tableLines (table : HashMap JLong JInt) (macs : List JLong) (id : JLong)
    (netMap : HashMap JLong (HashMap JLong JInt)) (t : HashMap JLong JInt) :
    (tableLines table macs).foldl readLine (id, netMap.put id t) =
      (id, netMap.put id (macs.foldl (fun t mac => t.put mac ((table.get mac).getD 0)) t)) := by
  induction macs generalizing t with
  | nil => rfl
  | cons mac macs ih =>
    show (tableLines table macs).foldl readLine (id, (netMap.put id t).put id
      (((netMap.put id t).get id).getD ∅ |>.put mac ((table.get mac).getD 0))) = _
    rw [HashMap.get_put_self, Option.getD_some, HashMap.put_put, ih]
    rfl

theorem foldl_linesOf (o : MapOrder) (netMap : HashMap JLong (HashMap JLong JInt))
    (ids : List JLong) (s : JLong × HashMap JLong (HashMap JLong JInt)) :
    ((linesOf o netMap ids).foldl readLine s).2 =
      ids.foldl (fun m id => m.put id ((netMap.get id).getD ∅)) s.2 := by
  induction ids generalizing s with
  | nil => rfl
  | cons id ids ih =>
    unfold linesOf at ih ⊢
    rw [List.flatMap_cons, List.cons_append, List.foldl_cons, List.foldl_append]
    show ((linesOf o netMap ids).foldl readLine
      ((tableLines _ _).foldl readLine (id, s.2.put id ∅))).2 = _
    rw [foldl_tableLines, HashMap.foldl_put_visit]
    exact ih (id, s.2.put id ((netMap.get id).getD ∅))

/-- The map is read back from its lines. -/
theorem readLines_lines (o : MapOrder) (netMap : HashMap JLong (HashMap JLong JInt)) :
    readLines (lines o netMap) = netMap := by
  unfold readLines lines
  rw [foldl_linesOf]
  exact HashMap.foldl_put_visit o.switches netMap ∅

/-! ## Reading the text -/

theorem delimits_switch : Delimits (fun _ : JLong => True)
    (fun id => MapLine.text (.switch id)) fun id => id := by
  refine Delimits.literal (Delimits.terminated '\n' (fun id _ => ?_) fun a b _ _ h => ?_) _
  · exact notMem_decimal id (by decide) (by decide)
  · exact decimal_injective h

theorem text_entry (mac : JLong) (port : JInt) :
    MapLine.text (.entry mac port) =
      ['\t'] ++ ((decimal mac ++ [' ']) ++ (": ".toList ++ (decimal port ++ ['\n']))) := by
  rw [List.append_assoc (decimal mac)]
  rfl

/-- The blank ends the address, and the line the port. -/
theorem delimits_entry : Delimits (fun _ : JLong × JInt => True)
    (fun e => MapLine.text (.entry e.1 e.2)) fun e => (e.1, e.2) := by
  simp only [text_entry]
  refine Delimits.literal (Delimits.append ?_ fun mac => Delimits.literal ?_ _) _
  · exact Delimits.terminated ' ' (fun e _ => notMem_decimal e.1 (by decide) (by decide))
      fun a b _ _ h => decimal_injective h
  · exact Delimits.terminated '\n' (fun e _ => notMem_decimal e.2 (by decide) (by decide))
      fun a b _ _ h => decimal_injective h

theorem delimits_line : Delimits (fun _ : MapLine => True) MapLine.text fun l => l := by
  intro a b _ _ xs ys h
  cases a with
  | switch id =>
    cases b with
    | switch id' =>
      obtain ⟨hid, hrest⟩ := delimits_switch id id' trivial trivial xs ys h
      exact ⟨congrArg MapLine.switch hid, hrest⟩
    | entry mac port => exact absurd (List.cons.inj h).1 (by decide)
  | entry mac port =>
    cases b with
    | switch id => exact absurd (List.cons.inj h).1 (by decide)
    | entry mac' port' =>
      obtain ⟨he, hrest⟩ := delimits_entry (mac, port) (mac', port') trivial trivial xs ys h
      exact ⟨congrArg (fun e => MapLine.entry e.1 e.2) he, hrest⟩

/-- Two maps with the same file are the same map, in whatever order they were written. -/
theorem mapText_injective {o o' : MapOrder} {netMap netMap' : HashMap JLong (HashMap JLong JInt)}
    (h : mapText o netMap = mapText o' netMap') : netMap = netMap' := by
  rw [mapText_eq, mapText_eq] at h
  have hlines := delimits_line.flatMap_inj (fun l _ => ?_) (fun _ _ => trivial)
    (fun _ _ => trivial) (List.append_cancel_left (Except.ok.inj h))
  · rw [List.map_id', List.map_id'] at hlines
    rw [← readLines_lines o netMap, hlines, readLines_lines]
  · cases l <;> exact List.cons_ne_nil _ _

/-- The text of a map can be the text of another map in no order of its keys. -/
theorem mapText_eq_iff (o : MapOrder) (netMap netMap' : HashMap JLong (HashMap JLong JInt)) :
    (∃ o', mapText o netMap = mapText o' netMap') ↔ netMap = netMap' := by
  refine ⟨fun hex => ?_, fun heq => ⟨o, by rw [heq]⟩⟩
  obtain ⟨o', htext⟩ := hex
  exact mapText_injective htext

end TraceAppController

/-! ## The file -/

/-- How an attempt to write the file ends. Its exceptions are caught and printed. -/
inductive FileWrite where
  | written
  | notOpened
  /-- Opening the file has emptied it, and `n` characters were written. -/
  | cut (n : Nat)

/-- What is in the file after the attempt. -/
def FileWrite.leaves (text : List Char) (file : Option (List Char)) : FileWrite →
    Option (List Char)
  | written => some text
  | notOpened => file
  | cut n => some (text.take n)

/-- The controller and `TraceMap.txt`, when there is one. -/
structure MapWorld where
  tracer : World
  file : Option (List Char)

/-- A call of an entry point, with what its write to the file meets. -/
structure MapCall where
  event : Event
  order : MapOrder
  write : FileWrite

namespace TraceAppController

def writeMapToFile (o : MapOrder) (write : FileWrite) : Exec MapWorld Unit := do
  let s ← get
  let text ← liftM (mapText o s.tracer.app.netMap)
  modify fun s => { s with file := write.leaves text s.file }

/-- What a method does before it writes the file. -/
def onController (x : Exec World Unit) : Exec MapWorld Unit :=
  zoom (·.tracer) (fun w s => { s with tracer := w }) x

end TraceAppController

open TraceAppController

section File

variable (ofj : OpenFlowJ)

/-- `SwitchInfoReceived` and `OnPortStatusChange` end with `writeMapToFile`. -/
def MapCall.exec (c : MapCall) : Exec MapWorld Unit :=
  match c.event with
  | .packetIn _ _ _ => onController (c.event.exec ofj)
  | _ => do
    onController (c.event.exec ofj)
    writeMapToFile c.order c.write

def mapStep (s : MapWorld) (c : MapCall) : MapWorld := (run (c.exec ofj) s).2

/-- The controller and the file after the calls. -/
def mapAfter (cs : List MapCall) : MapWorld := cs.foldl (mapStep ofj) ⟨World.init, none⟩

theorem mapAfter_concat (cs : List MapCall) (c : MapCall) :
    mapAfter ofj (cs ++ [c]) = mapStep ofj (mapAfter ofj cs) c := by
  unfold mapAfter
  rw [List.foldl_append]
  rfl

theorem run_onController (x : Exec World Unit) (s : MapWorld) :
    run (onController x) s = ((run x s.tracer).1, { s with tracer := (run x s.tracer).2 }) :=
  run_zoom _ _ x s

/-- The file shows the map that the controller has. Without a file that is the empty map. -/
def UpToDate (s : MapWorld) : Prop :=
  match s.file with
  | none => s.tracer.app.netMap = ∅
  | some text => ∃ o, mapText o s.tracer.app.netMap = .ok text

/-- The call throws. -/
def Throws (w : World) (e : Event) : Prop := ∃ err, (run (e.exec ofj) w).1 = .error err

/-- The call gets to the file, or has left the map as it was. -/
def KeepsFile (s : MapWorld) (c : MapCall) : Prop :=
  Throws ofj s.tracer c.event → c.event.writeNetMap s.tracer.app.netMap = s.tracer.app.netMap

theorem upToDate_of_fileText {s : MapWorld} (o : MapOrder)
    (h : s.file = some (fileText o s.tracer.app.netMap)) : UpToDate s := by
  unfold UpToDate
  rw [h]
  exact ⟨o, mapText_eq _ _⟩

/-- A file that is left as it is fits no other map. -/
theorem upToDate_iff_of_file_eq {s s' : MapWorld} (h : UpToDate s) (hfile : s'.file = s.file) :
    UpToDate s' ↔ s'.tracer.app.netMap = s.tracer.app.netMap := by
  unfold UpToDate at *
  rw [hfile]
  cases hs : s.file with
  | none =>
    rw [hs] at h
    rw [show s.tracer.app.netMap = ∅ from h]
  | some text =>
    rw [hs] at h
    obtain ⟨o, ho⟩ := h
    refine ⟨fun hnew => ?_, fun hsame => ⟨o, hsame ▸ ho⟩⟩
    obtain ⟨o', ho'⟩ := hnew
    exact mapText_injective (ho'.trans ho.symm)

/-! ## One call -/

theorem mapStep_packetIn (s : MapWorld) (env : Env) (data : List JByte) (info : SwitchInfo)
    (o : MapOrder) (write : FileWrite) :
    mapStep ofj s ⟨.packetIn env data info, o, write⟩ =
      { s with tracer := step ofj s.tracer (.packetIn env data info) } := by
  show (run (onController _) s).2 = _
  rw [run_onController]
  rfl

/-- The two methods that change the map write the file when they get that far. -/
theorem mapStep_writer (s : MapWorld) {c : MapCall}
    (hc : ∀ env data info, c.event ≠ .packetIn env data info) :
    mapStep ofj s c =
      { tracer := step ofj s.tracer c.event
        file :=
          match (run (c.event.exec ofj) s.tracer).1 with
          | .ok _ => c.write.leaves (fileText c.order (step ofj s.tracer c.event).app.netMap) s.file
          | .error _ => s.file } := by
  have hexec : c.exec ofj =
      (do onController (c.event.exec ofj); writeMapToFile c.order c.write) := by
    unfold MapCall.exec
    split
    · next hevent => exact absurd hevent (hc _ _ _)
    · rfl
  unfold mapStep
  rw [hexec, run_bind, run_onController]
  cases hrun : (run (c.event.exec ofj) s.tracer).1 with
  | error err => rfl
  | ok a =>
    rw [andThen_ok]
    unfold writeMapToFile
    simp only [run_bind, run_get, andThen_ok, run_lift, mapText_eq, run_modify]
    rfl

/-- A file that was up to date stays so exactly when a call that throws has not changed the
    map. -/
theorem upToDate_step_iff {s : MapWorld} (h : UpToDate s) {c : MapCall}
    (hwrite : c.write = .written) : UpToDate (mapStep ofj s c) ↔ KeepsFile ofj s c := by
  by_cases hc : ∀ env data info, c.event ≠ .packetIn env data info
  · have hstep := mapStep_writer ofj s hc
    unfold KeepsFile Throws
    cases hrun : (run (c.event.exec ofj) s.tracer).1 with
    | ok a =>
      rw [hrun, hwrite] at hstep
      rw [hstep]
      refine iff_of_true (upToDate_of_fileText c.order rfl) fun hthrows => ?_
      obtain ⟨err, herr⟩ := hthrows
      cases herr
    | error err =>
      rw [hrun] at hstep
      have hfile : (mapStep ofj s c).file = s.file := by rw [hstep]
      rw [upToDate_iff_of_file_eq h hfile, hstep, netMap_step]
      exact ⟨fun hsame _ => hsame, fun hkeep => hkeep ⟨err, rfl⟩⟩
  · push Not at hc
    obtain ⟨env, data, info, hevent⟩ := hc
    obtain ⟨event, o, write⟩ := c
    obtain rfl : event = .packetIn env data info := hevent
    have hstep := mapStep_packetIn ofj s env data info o write
    have hfile : (mapStep ofj s ⟨.packetIn env data info, o, write⟩).file = s.file := by rw [hstep]
    rw [upToDate_iff_of_file_eq h hfile, hstep, netMap_step]
    exact iff_of_true rfl fun _ => rfl

/-! ## A run -/

/-- A call whose write to the file succeeds. -/
def MapCall.written (c : Event × MapOrder) : MapCall := ⟨c.1, c.2, .written⟩

/-- The file is up to date after every call exactly when every call that throws leaves the map
    as it was. -/
theorem upToDate_iff (cs : List (Event × MapOrder)) :
    EachStep (fun pre c => UpToDate (mapAfter ofj ((pre ++ [c]).map .written))) cs ↔
      EachStep (fun pre c => KeepsFile ofj (mapAfter ofj (pre.map .written)) (.written c)) cs := by
  have hstep : ∀ pre c, UpToDate (mapAfter ofj (pre.map .written)) →
      (UpToDate (mapAfter ofj ((pre ++ [c]).map .written)) ↔
        KeepsFile ofj (mapAfter ofj (pre.map .written)) (.written c)) := by
    intro pre c h
    rw [List.map_append, List.map_singleton, mapAfter_concat]
    exact upToDate_step_iff ofj h rfl
  exact eachStep_iff (I := fun pre => UpToDate (mapAfter ofj (pre.map .written)))
    rfl (fun pre c h hc => (hstep pre c h).mpr hc) hstep cs

end File

end JSdnTrace
