/-
  The three stores of the client after any capture.

  * `decode_eq`: the frames that are collected, and what each is collected as. The draw of
    `new TracePacket()` leaves no trace.
  * `get_worst_holding`, `get_best_holding`: the maps hold, for each hop, the latencies of the
    packet that was collected last.
  * `stores_consistent`: the list and the two maps agree after every capture, and a frame that
    is not collected changes none of them.
-/
import JSdnTrace.TraceClient

namespace JSdnTrace

open Java Lib

namespace Packet

/-- A frame of the trace type, long enough to be decoded and with a port in its record. -/
def IsTrace (ofj : OpenFlowJ) (p : Packet) : Prop :=
  p.datalink = .ethernet 0x8220 ∧ 49 ≤ p.data.length ∧ ofj.AcceptsPort (intAt p.data 41)

instance (ofj : OpenFlowJ) : DecidablePred (IsTrace ofj) :=
  fun _ => inferInstanceAs (Decidable (_ ∧ _ ∧ _))

/-- The hop byte of a trace frame. -/
def hop (p : Packet) : JByte := byteAt p.data 27

def timestamp (p : Packet) : JLong := longAt p.data 28

/-- The bytes that the link latency is decoded from. -/
def latency (p : Packet) : JLong := longAt p.data 33

/-- The type byte of a trace frame is the one of a request. -/
def IsRequest (p : Packet) : Prop := byteAt p.data 36 = 1

instance : DecidablePred IsRequest := fun _ => inferInstanceAs (Decidable (_ = _))

end Packet

namespace TraceClient

/-! ## What is collected -/

/-- The packet that a trace frame is collected as. -/
def packetOf (ofj : OpenFlowJ) (p : Packet) : TracePacket :=
  TracePacket.readAt ofj p.data 0
    (SwitchInfo.readAt ofj (SwitchInfo.new ofj) p.data 21 ⟨intAt p.data 41⟩)

/-- The trace frames of a capture, in the order of their arrival. -/
def traceFrames (ofj : OpenFlowJ) (cs : List Capture) : List Packet :=
  (cs.map (·.frame)).filter (·.IsTrace ofj)

section Decode

variable {ofj : OpenFlowJ} (hof : ofj.Faithful)

include hof

theorem decode_eq (f : Capture) :
    decode ofj f = if f.frame.IsTrace ofj then some (packetOf ofj f.frame) else none := by
  unfold decode
  by_cases htype : f.frame.datalink = .ethernet 0x8220
  · rw [if_pos htype]
    have hok : (∃ q, (TracePacket.new ofj f.draw).deserialize ofj f.frame.data 0
        f.frame.data.length = .ok q) ↔
          49 ≤ f.frame.data.length ∧ ofj.AcceptsPort (intAt f.frame.data 41) :=
      TracePacket.deserialize_array_eq_ok_iff
    cases hdata : (TracePacket.new ofj f.draw).deserialize ofj f.frame.data 0
        f.frame.data.length with
    | ok q =>
      rw [if_pos ⟨htype, hok.mp ⟨q, hdata⟩⟩, TracePacket.deserialize_eq_ok hof hdata]
      rfl
    | error e =>
      have hnot : ¬ f.frame.IsTrace ofj := by
        intro h
        obtain ⟨q, hq⟩ := hok.mpr h.2
        rw [hdata] at hq
        cases hq
      rw [if_neg hnot]
      rfl
  · rw [if_neg htype, if_neg fun h => htype h.1]

theorem decodings_eq (cs : List Capture) :
    cs.filterMap (decode ofj) = (traceFrames ofj cs).map (packetOf ofj) := by
  unfold traceFrames
  induction cs with
  | nil => rfl
  | cons f cs ih =>
    rw [List.filterMap_cons, decode_eq hof, List.map_cons, List.filter_cons, ih]
    by_cases h : f.frame.IsTrace ofj
    · rw [if_pos h, if_pos (decide_eq_true h)]
      rfl
    · rw [if_neg h, if_neg (by rwa [decide_eq_true_eq])]

end Decode

/-! ## What the maps hold -/

/-- The packets of one hop, in the order in which they were collected. -/
def withHop (hop : JByte) (tps : List TracePacket) : List TracePacket :=
  tps.filter fun tp => tp.hop = hop

theorem withHop_eq_nil {hop : JByte} {tps : List TracePacket} :
    withHop hop tps = [] ↔ hop ∉ tps.map (·.hop) := by
  unfold withHop
  rw [List.filter_eq_nil_iff, List.mem_map]
  simp

/-- A loop of puts by hop leaves the value of the last packet of the hop. -/
theorem get_foldl_hop (value : TracePacket → JLong) (tps : List TracePacket) (hop : JByte) :
    (tps.foldl (fun m tp => m.put tp.hop (value tp)) (∅ : HashMap JByte JLong)).get hop =
      (withHop hop tps).getLast?.map value := by
  unfold withHop
  rw [HashMap.get_foldl_put, HashMap.get_empty, Option.or_none, List.getLast?_map]

theorem get_worst_holding (startTime : JLong) (tps : List TracePacket) (hop : JByte) :
    (holding startTime tps).worstLatencies.get hop =
      (withHop hop tps).getLast?.map fun tp => tp.timestamp - startTime :=
  get_foldl_hop (fun tp => tp.timestamp - startTime) tps hop

theorem get_best_holding (startTime : JLong) (tps : List TracePacket) (hop : JByte) :
    (holding startTime tps).bestLatencies.get hop =
      (withHop hop tps).getLast?.map fun tp =>
        tp.timestamp - startTime - tp.swInfo.linkLatency.getValue :=
  get_foldl_hop (fun tp => tp.timestamp - startTime - tp.swInfo.linkLatency.getValue) tps hop

/-- A map that holds something of the last packet of each hop has the hops of the packets. -/
theorem containsKey_of_get_last {V : Type} {m : HashMap JByte V} {tps : List TracePacket}
    {value : TracePacket → V} (h : ∀ hop, m.get hop = (withHop hop tps).getLast?.map value)
    (hop : JByte) : m.containsKey hop = true ↔ hop ∈ tps.map (·.hop) := by
  rw [HashMap.containsKey_iff, ← not_iff_not, ← HashMap.get_eq_none, h, Option.map_eq_none_iff,
    List.getLast?_eq_none_iff, withHop_eq_nil]

/-- Every packet of the report was collected. -/
theorem mem_packets_of_mem_report {c : TraceClient} {en : Entry} (h : en ∈ c.report) :
    ∃ tp ∈ c.packets, en = c.entry tp := by
  rw [report_eq] at h
  obtain ⟨tp, htp, rfl⟩ := List.mem_map.mp h
  exact ⟨tp, List.mem_mergeSort.mp ((keepFirst_sublist _ _ _).subset htp), rfl⟩

/-! ## The stores after a capture -/

/-- The stores are those of the packets collected, and the report finds every latency. -/
structure Consistent (ofj : OpenFlowJ) (startTime : JLong) (cs : List Capture) (c : TraceClient) :
    Prop where
  packets : c.packets = cs.filterMap (decode ofj)
  worstKeys : ∀ hop, c.worstLatencies.containsKey hop = true ↔ hop ∈ c.packets.map (·.hop)
  bestKeys : ∀ hop, c.bestLatencies.containsKey hop = true ↔ hop ∈ c.packets.map (·.hop)
  worst : ∀ hop tp, (withHop hop c.packets).getLast? = some tp →
    c.worstLatencies.get hop = some (tp.timestamp - startTime)
  best : ∀ hop tp, (withHop hop c.packets).getLast? = some tp →
    c.bestLatencies.get hop =
      some (tp.timestamp - startTime - tp.swInfo.linkLatency.getValue)
  report : ∀ en ∈ c.report, (∃ worst, en.worst = some worst) ∧ ∃ best, en.best = some best

theorem consistent_holding (ofj : OpenFlowJ) (startTime : JLong) (cs : List Capture) :
    Consistent ofj startTime cs (holding startTime (cs.filterMap (decode ofj))) where
  packets := rfl
  worstKeys := containsKey_of_get_last (get_worst_holding startTime _)
  bestKeys := containsKey_of_get_last (get_best_holding startTime _)
  worst hop tp h := by
    rw [get_worst_holding]
    exact congrArg (Option.map _) h
  best hop tp h := by
    rw [get_best_holding]
    exact congrArg (Option.map _) h
  report en hen := by
    obtain ⟨tp, htp, rfl⟩ := mem_packets_of_mem_report hen
    have hkey : tp.hop ∈ (holding startTime (cs.filterMap (decode ofj))).packets.map (·.hop) :=
      List.mem_map_of_mem htp
    have hworst := (containsKey_of_get_last (get_worst_holding startTime _) tp.hop).mpr hkey
    have hbest := (containsKey_of_get_last (get_best_holding startTime _) tp.hop).mpr hkey
    exact ⟨HashMap.mem_iff_get.mp (HashMap.containsKey_iff.mp hworst),
      HashMap.mem_iff_get.mp (HashMap.containsKey_iff.mp hbest)⟩

/-- The stores agree after any capture, and a frame that is not collected, because it is of
    another type or because its callback throws, leaves them as they were. -/
theorem stores_consistent (ofj : OpenFlowJ) (startTime : JLong) (cs : List Capture) :
    Consistent ofj startTime cs (capture ofj startTime cs) ∧
      ∀ f, decode ofj f = none →
        (run (receivePacket ofj f.draw f.frame) (capture ofj startTime cs)).2 =
          capture ofj startTime cs := by
  rw [capture_eq]
  refine ⟨consistent_holding ofj startTime cs, fun f hf => ?_⟩
  rw [receivePacket_holding, hf, Option.toList_none, List.append_nil]

end TraceClient

end JSdnTrace
