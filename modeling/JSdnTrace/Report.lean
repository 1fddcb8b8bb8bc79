/-
  The report that `main` prints. Hop by hop it shows the packet that was collected first, with
  the latencies of the packet that was collected last.

  * `find?_report`, `find?_report_holding`: what the report has for a hop.
  * `listsOnce_iff`: every hop is printed once, by its first packet, unless the smallest hop
    is -1, which the loop takes for printed before it starts.
-/
import JSdnTrace.Stores

namespace JSdnTrace

open Java Lib

namespace TraceClient

/-! ## Hop by hop -/

/-- No hop is below -1, where the loop starts: a packet of the hop -1 is not printed. -/
def Skipped (tps : List TracePacket) (hop : JByte) : Prop :=
  hop = -1 ∧ ∀ tp ∈ tps, -1 ≤ tp.hop.toInt

instance (tps : List TracePacket) (hop : JByte) : Decidable (Skipped tps hop) :=
  inferInstanceAs (Decidable (_ ∧ _))

theorem sort_eq (tps : List TracePacket) :
    (tps.mergeSort fun a b => a.compareTo b ≤ 0) =
      tps.mergeSort fun a b => a.hop.toInt ≤ b.hop.toInt := by
  congr 1
  funext a b
  exact decide_eq_decide.mpr compareTo_le_zero

theorem report_increasing (c : TraceClient) :
    c.report.Pairwise fun a b => a.tp.hop.toInt < b.tp.hop.toInt := by
  rw [report_eq, List.pairwise_map]
  exact keepFirst_pairwise _ _ _ (pairwise_sort _)

theorem find?_sort (tps : List TracePacket) (hop : JByte) :
    ((tps.mergeSort fun a b => a.compareTo b ≤ 0).find? fun tp => tp.hop.toInt = hop.toInt) =
      (withHop hop tps).head? := by
  have hkey : (fun tp : TracePacket => decide (tp.hop.toInt = hop.toInt)) =
      fun tp => decide (tp.hop = hop) := by
    funext tp
    exact decide_eq_decide.mpr BitVec.toInt_inj
  rw [← List.head?_filter, sort_eq, filter_mergeSort fun tp : TracePacket => tp.hop.toInt, hkey]
  rfl

/-- The entry of a hop shows the packet that was collected first. -/
theorem find?_report (c : TraceClient) (hop : JByte) :
    (c.report.find? fun en => en.tp.hop.toInt = hop.toInt) =
      if Skipped c.packets hop then none else (withHop hop c.packets).head?.map c.entry := by
  have hskipped : (hop.toInt = -1 ∧ ∀ tp ∈ c.packets.mergeSort (fun a b => a.compareTo b ≤ 0),
      hop.toInt ≤ tp.hop.toInt) ↔ Skipped c.packets hop := by
    unfold Skipped
    simp only [List.mem_mergeSort]
    rw [← BitVec.toInt_inj]
    exact and_congr_right fun h => by rw [h]
  rw [report_eq, List.find?_map]
  show Option.map _ ((keepFirst _ _ _).find? fun tp : TracePacket => tp.hop.toInt = hop.toInt) = _
  rw [find?_keepFirst (fun tp : TracePacket => tp.hop.toInt) _ _ _ (pairwise_sort _), find?_sort]
  by_cases h : Skipped c.packets hop
  · rw [if_pos h, if_pos (hskipped.mpr h)]
    rfl
  · rw [if_neg h, if_neg fun h' => h (hskipped.mp h')]

/-- What is printed for a hop whose packets are `same`. -/
def entryOf (startTime : JLong) (same : List TracePacket) : Option Entry :=
  same.head?.map fun tp =>
    { tp := tp
      worst := same.getLast?.map fun last => last.timestamp - startTime
      best := same.getLast?.map fun last =>
        last.timestamp - startTime - last.swInfo.linkLatency.getValue }

/-- Its latencies are those of the packet that was collected last. -/
theorem find?_report_holding (startTime : JLong) (tps : List TracePacket) (hop : JByte) :
    ((holding startTime tps).report.find? fun en => en.tp.hop.toInt = hop.toInt) =
      if Skipped tps hop then none else entryOf startTime (withHop hop tps) := by
  rw [find?_report]
  show ite (Skipped tps hop) none ((withHop hop tps).head?.map _) = _
  unfold entryOf
  congr 1
  apply Option.map_congr
  intro tp htp
  have hhop : tp.hop = hop := of_decide_eq_true (List.mem_filter.mp (List.mem_of_head? htp)).2
  unfold entry
  rw [get_worst_holding, get_best_holding, hhop]

/-- Two reports that have the same for every hop are the same. -/
theorem report_ext {c c' : TraceClient}
    (h : ∀ hop : JByte, (c.report.find? fun en => en.tp.hop.toInt = hop.toInt) =
      c'.report.find? fun en => en.tp.hop.toInt = hop.toInt) : c.report = c'.report := by
  apply eq_of_find?_eq (fun en : Entry => en.tp.hop.toInt) (report_increasing c)
    (report_increasing c')
  intro k
  by_cases hk : ∃ hop : JByte, hop.toInt = k
  · obtain ⟨hop, rfl⟩ := hk
    exact h hop
  · have hnone : ∀ ens : List Entry, (ens.find? fun en => en.tp.hop.toInt = k) = none := by
      intro ens
      rw [List.find?_eq_none]
      intro en _
      rw [decide_eq_true_eq]
      exact fun hen => hk ⟨_, hen⟩
    rw [hnone, hnone]

/-! ## Every hop once -/

/-- The entries show each hop that was collected once, in increasing order, by the packet of the
    hop that was collected first. -/
structure ListsOnce (tps : List TracePacket) (entries : List Entry) : Prop where
  increasing : entries.Pairwise fun a b => a.tp.hop.toInt < b.tp.hop.toInt
  first : ∀ hop, (entries.filter fun en => en.tp.hop = hop).map (·.tp) =
    (withHop hop tps).head?.toList

theorem filter_report (c : TraceClient) (hop : JByte) :
    (c.report.filter fun en => en.tp.hop = hop).map (·.tp) =
      if Skipped c.packets hop then [] else (withHop hop c.packets).head?.toList := by
  have hkey : (fun en : Entry => decide (en.tp.hop = hop)) =
      fun en => decide (en.tp.hop.toInt = hop.toInt) := by
    funext en
    exact decide_eq_decide.mpr BitVec.toInt_inj.symm
  rw [hkey, filter_key_eq (fun en : Entry => en.tp.hop.toInt) (report_increasing c), find?_report]
  split
  · rfl
  · cases (withHop hop c.packets).head? <;> rfl

/-- A hop is shown by its first packet, unless it was collected and is skipped. -/
theorem filter_report_eq_first_iff (c : TraceClient) (hop : JByte) :
    (c.report.filter fun en => en.tp.hop = hop).map (·.tp) =
        (withHop hop c.packets).head?.toList ↔
      (Skipped c.packets hop → hop ∉ c.packets.map (·.hop)) := by
  rw [filter_report, ← withHop_eq_nil]
  by_cases h : Skipped c.packets hop
  · rw [if_pos h, eq_comm, Option.toList_eq_nil_iff, List.head?_eq_none_iff]
    exact ⟨fun hnil _ => hnil, fun hnil => hnil h⟩
  · rw [if_neg h]
    exact iff_of_true rfl fun h' => absurd h' h

/-- Some packet has the hop -1 and none a smaller one: it is the hop that is not printed. -/
theorem listsOnce_iff (c : TraceClient) :
    ListsOnce c.packets c.report ↔
      ((∃ tp ∈ c.packets, tp.hop = -1) → ∃ tp ∈ c.packets, tp.hop.toInt < -1) := by
  have hfirst : ListsOnce c.packets c.report ↔
      ∀ hop, Skipped c.packets hop → hop ∉ c.packets.map (·.hop) :=
    ⟨fun h hop => (filter_report_eq_first_iff c hop).mp (h.first hop),
      fun h => ⟨report_increasing c, fun hop => (filter_report_eq_first_iff c hop).mpr (h hop)⟩⟩
  rw [hfirst]
  refine ⟨fun h hex => ?_, fun h hop hskipped hmem => ?_⟩
  · by_contra hsmaller
    push Not at hsmaller
    obtain ⟨tp, htp, hhop⟩ := hex
    exact h (-1) ⟨rfl, hsmaller⟩ (List.mem_map.mpr ⟨tp, htp, hhop⟩)
  · obtain ⟨rfl, hge⟩ := hskipped
    obtain ⟨tp, htp, hhop⟩ := List.mem_map.mp hmem
    obtain ⟨tp', htp', hlt⟩ := h ⟨tp, htp, hhop⟩
    exact absurd (hge tp' htp') (by omega)

/-- One reply of the hop -1. -/
def lastHopOnly : TraceClient :=
  holding 0 [(TracePacket.new OpenFlowJ.documented ⟨0, 0⟩).setHop (-1)]

theorem lastHopOnly_not_listsOnce : ¬ ListsOnce lastHopOnly.packets lastHopOnly.report := by
  intro h
  have hfirst := h.first (-1)
  rw [filter_report, if_pos (by decide)] at hfirst
  exact absurd hfirst (by decide)

end TraceClient

end JSdnTrace
