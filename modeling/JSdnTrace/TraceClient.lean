/-
  `core.TraceClient`: the callback that collects the replies, and the report that `main` makes
  of them. The rest of `main` is in `ClientMain`; the text of `debug.txt` is not modelled. An
  entry is the whole packet with its two latencies: more than the lines printed of it, which
  leave out its addresses and its probe id.

  * `capture_eq`: after any capture the three stores are those of the packets that decoded.
  * `report_eq`: the report is `keepFirst` of the packets, sorted by hop.
-/
import JSdnTrace.Java.HashMap
import JSdnTrace.Lib.KeepFirst
import JSdnTrace.TracePacket

namespace JSdnTrace

open Java Lib

/-- The link-layer header that Jpcap reads. -/
inductive DatalinkPacket where
  | ethernet (frametype : JShort)
  | other
  deriving DecidableEq

/-- `jpcap.packet.Packet`: a captured frame. -/
structure Packet where
  datalink : DatalinkPacket
  data : List JByte

/-- A frame, and what `new TracePacket()` draws when it is received. -/
structure Capture where
  frame : Packet
  draw : Draw

/-- The static fields of `TraceClient`. -/
structure TraceClient where
  packets : List TracePacket
  worstLatencies : HashMap JByte JLong
  bestLatencies : HashMap JByte JLong
  startTime : JLong

/-- What the report has of one packet: the packet itself, of which `main` prints the hop, the
    timestamp and the switch, and its latencies. One that is not in its map is `null`. -/
structure Entry where
  tp : TracePacket
  worst : Option JLong
  best : Option JLong

namespace TraceClient

/-- The stores when the probe is sent. -/
def start (startTime : JLong) : TraceClient := ⟨[], ∅, ∅, startTime⟩

/-- `TraceReceiver.receivePacket`. -/
def receivePacket (ofj : OpenFlowJ) (draw : Draw) (p : Packet) : Exec TraceClient Unit :=
  if p.datalink = .ethernet 0x8220 then
    tryCatch
      (do
        let response ← liftM
          ((TracePacket.new ofj draw).deserialize ofj p.data 0 p.data.length)
        modify fun c => { c with packets := c.packets ++ [response] }
        let c ← get
        let latency := response.timestamp - c.startTime
        let bestLatency := response.timestamp - c.startTime - response.swInfo.linkLatency.getValue
        modify fun c =>
          { c with worstLatencies := c.worstLatencies.put response.hop latency }
        modify fun c =>
          { c with bestLatencies := c.bestLatencies.put response.hop bestLatency })
      (printStackTrace "PacketParsingException")
  else pure ()

/-- The stores after a capture. A callback that throws keeps what it wrote. -/
def capture (ofj : OpenFlowJ) (startTime : JLong) (cs : List Capture) : TraceClient :=
  cs.foldl (fun c f => (run (receivePacket ofj f.draw f.frame) c).2) (start startTime)

/-- The loop of `main` over the sorted array, after the hop `lastHop` was printed. -/
def printLoop (c : TraceClient) : Int → List TracePacket → List Entry
  | _, [] => []
  | lastHop, tp :: arr =>
    if lastHop = tp.hop.toInt then printLoop c lastHop arr
    else ⟨tp, c.worstLatencies.get tp.hop, c.bestLatencies.get tp.hop⟩ ::
      printLoop c tp.hop.toInt arr

/-- The end of `main`: `Arrays.sort`, which is stable, and the loop. -/
def report (c : TraceClient) : List Entry :=
  c.printLoop (-1) (c.packets.mergeSort fun a b => a.compareTo b ≤ 0)

/-! ## The stores after a capture -/

/-- The packet that a frame is collected as. -/
def decode (ofj : OpenFlowJ) (f : Capture) : Option TracePacket :=
  if f.frame.datalink = .ethernet 0x8220 then
    ((TracePacket.new ofj f.draw).deserialize ofj f.frame.data 0 f.frame.data.length).toOption
  else none

/-- The stores that hold the packets `tps`. -/
def holding (startTime : JLong) (tps : List TracePacket) : TraceClient where
  packets := tps
  worstLatencies := tps.foldl (fun m tp => m.put tp.hop (tp.timestamp - startTime)) ∅
  bestLatencies := tps.foldl
    (fun m tp => m.put tp.hop (tp.timestamp - startTime - tp.swInfo.linkLatency.getValue)) ∅
  startTime := startTime

theorem receivePacket_holding (ofj : OpenFlowJ) (startTime : JLong) (tps : List TracePacket)
    (f : Capture) :
    (run (receivePacket ofj f.draw f.frame) (holding startTime tps)).2 =
      holding startTime (tps ++ (decode ofj f).toList) := by
  unfold receivePacket decode
  by_cases htype : f.frame.datalink = .ethernet 0x8220
  · rw [if_pos htype, if_pos htype, snd_run_tryCatch_print, run_bind, run_lift]
    cases (TracePacket.new ofj f.draw).deserialize ofj f.frame.data 0 f.frame.data.length with
    | error e =>
      show holding startTime tps = holding startTime (tps ++ [])
      rw [List.append_nil]
    | ok response =>
      simp only [andThen_ok, run_bind, run_modify, run_get, Except.toOption, Option.toList_some,
        holding, List.foldl_append, List.foldl_cons, List.foldl_nil]
  · rw [if_neg htype, if_neg htype, run_pure, Option.toList_none, List.append_nil]

theorem capture_eq (ofj : OpenFlowJ) (startTime : JLong) (cs : List Capture) :
    capture ofj startTime cs = holding startTime (cs.filterMap (decode ofj)) := by
  induction cs using List.reverseRecOn with
  | nil => rfl
  | append_singleton cs f ih =>
    unfold capture at *
    rw [List.foldl_append, ih, List.foldl_cons, List.foldl_nil, receivePacket_holding,
      List.filterMap_append]
    congr 2

/-! ## The report -/

/-- The entry of a packet. -/
def entry (c : TraceClient) (tp : TracePacket) : Entry :=
  ⟨tp, c.worstLatencies.get tp.hop, c.bestLatencies.get tp.hop⟩

theorem printLoop_eq (c : TraceClient) (lastHop : Int) (arr : List TracePacket) :
    c.printLoop lastHop arr = (keepFirst (·.hop.toInt) lastHop arr).map c.entry := by
  induction arr generalizing lastHop with
  | nil => rfl
  | cons tp arr ih =>
    unfold printLoop keepFirst
    split
    · exact ih lastHop
    · rw [List.map_cons, ih tp.hop.toInt]
      rfl

theorem report_eq (c : TraceClient) :
    c.report = (keepFirst (·.hop.toInt) (-1)
      (c.packets.mergeSort fun a b => a.compareTo b ≤ 0)).map c.entry :=
  printLoop_eq c (-1) _

theorem compareTo_le_zero {a b : TracePacket} :
    a.compareTo b ≤ 0 ↔ a.hop.toInt ≤ b.hop.toInt := by
  unfold TracePacket.compareTo
  split
  · omega
  · split
    · next h => rw [h]; omega
    · next h =>
      have hne : a.hop.toInt ≠ b.hop.toInt := fun heq => h (BitVec.eq_of_toInt_eq heq)
      omega

/-- `Arrays.sort` sorts by hop. -/
theorem pairwise_sort (tps : List TracePacket) :
    (tps.mergeSort fun a b => a.compareTo b ≤ 0).Pairwise
      fun a b => a.hop.toInt ≤ b.hop.toInt := by
  refine (List.pairwise_mergeSort ?_ ?_ tps).imp fun h => compareTo_le_zero.mp (of_decide_eq_true h)
  · intro a b c hab hbc
    rw [decide_eq_true_eq, compareTo_le_zero] at *
    exact hab.trans hbc
  · intro a b
    rw [Bool.or_eq_true, decide_eq_true_eq, decide_eq_true_eq, compareTo_le_zero,
      compareTo_le_zero]
    exact le_total _ _

end TraceClient

end JSdnTrace
