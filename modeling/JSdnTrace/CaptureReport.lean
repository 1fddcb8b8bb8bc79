/-
  The report of a capture.

  * `find?_report_capture`: what is printed for a hop, in terms of the captured frames.
  * `latenciesBelong_iff`: the latencies printed are those of the packet printed exactly when
    the first and the last frame of each hop carry the same ones.
  * `report_eq_of_same_frames`: neither the order of the frames nor copies of them matter, as
    long as the frames of one hop are copies of one frame.
  * `report_replies_iff`: the requests among the frames do not matter exactly when the first
    and the last frame of each hop are replies.
-/
import JSdnTrace.Report
import JSdnTrace.WirePacket

namespace JSdnTrace

open Java Lib

namespace TraceClient

/-- The trace frames of one hop, in the order of their arrival. -/
def framesWith (ofj : OpenFlowJ) (hop : JByte) (cs : List Capture) : List Packet :=
  (traceFrames ofj cs).filter fun f => f.hop = hop

/-- A hop of the capture is printed, unless it is -1 and there is none below. -/
def Prints (ofj : OpenFlowJ) (cs : List Capture) (hop : JByte) : Prop :=
  hop = -1 → ∃ f ∈ traceFrames ofj cs, f.hop.toInt < -1

instance (cs : List Capture) (hop : JByte) : Decidable (Prints ofj cs hop) :=
  inferInstanceAs (Decidable (_ → _))

/-- For each printed hop, `P` holds of its first and its last frame. -/
def FirstAndLast (ofj : OpenFlowJ) (cs : List Capture) (P : Packet → Packet → Prop) : Prop :=
  ∀ hop, Prints ofj cs hop → ∀ f g, (framesWith ofj hop cs).head? = some f →
    (framesWith ofj hop cs).getLast? = some g → P f g

variable {ofj : OpenFlowJ}

section Capture

variable (hof : ofj.Faithful)

include hof

theorem withHop_decodings (cs : List Capture) (hop : JByte) :
    withHop hop (cs.filterMap (decode ofj)) = (framesWith ofj hop cs).map (packetOf ofj) := by
  rw [decodings_eq hof]
  exact List.filter_map

theorem skipped_decodings (cs : List Capture) (hop : JByte) :
    ¬ Skipped (cs.filterMap (decode ofj)) hop ↔ Prints ofj cs hop := by
  unfold Skipped Prints
  rw [decodings_eq hof, not_and]
  refine forall_congr' fun _ => ?_
  rw [List.forall_mem_map]
  push Not
  rfl

/-- What is printed for a hop comes from the first and the last frame of the hop. -/
theorem find?_report_capture (startTime : JLong) (cs : List Capture) (hop : JByte) :
    ((capture ofj startTime cs).report.find? fun en => en.tp.hop.toInt = hop.toInt) =
      if Prints ofj cs hop then entryOf startTime ((framesWith ofj hop cs).map (packetOf ofj))
      else none := by
  rw [capture_eq, find?_report_holding, withHop_decodings hof, ← ite_not]
  exact if_congr (skipped_decodings hof cs hop) rfl rfl

/-- The entry of a hop whose first frame is `f` and whose last is `g`. -/
def entryFrom (ofj : OpenFlowJ) (startTime : JLong) (f g : Packet) : Entry :=
  ⟨packetOf ofj f, some (g.timestamp - startTime), some (g.timestamp - startTime - g.latency)⟩

theorem entryOf_frames (startTime : JLong) {fs : List Packet} {en : Entry} :
    entryOf startTime (fs.map (packetOf ofj)) = some en ↔
      ∃ f g, fs.head? = some f ∧ fs.getLast? = some g ∧ en = entryFrom ofj startTime f g := by
  have hlatency : ∀ g, (packetOf ofj g).swInfo.linkLatency.getValue = g.latency :=
    fun g => hof.getValue_u64Of _
  unfold entryOf
  rw [List.head?_map, List.getLast?_map]
  cases fs with
  | nil => simp
  | cons f fs =>
    rw [List.head?_cons, List.getLast?_cons]
    simp only [Option.map_some, hlatency, Option.some.injEq, exists_and_left, exists_eq_left']
    exact eq_comm

theorem find?_report_eq_some (startTime : JLong) (cs : List Capture) (hop : JByte) {en : Entry} :
    ((capture ofj startTime cs).report.find? fun en => en.tp.hop.toInt = hop.toInt) = some en ↔
      Prints ofj cs hop ∧ ∃ f g, (framesWith ofj hop cs).head? = some f ∧
        (framesWith ofj hop cs).getLast? = some g ∧ en = entryFrom ofj startTime f g := by
  rw [find?_report_capture hof, Option.ite_none_right_eq_some, entryOf_frames hof]

theorem mem_report (startTime : JLong) {cs : List Capture} {hop : JByte} {f g : Packet}
    (hprints : Prints ofj cs hop) (hf : (framesWith ofj hop cs).head? = some f)
    (hg : (framesWith ofj hop cs).getLast? = some g) :
    entryFrom ofj startTime f g ∈ (capture ofj startTime cs).report :=
  List.mem_of_find?_eq_some
    ((find?_report_eq_some hof startTime cs hop).mpr ⟨hprints, f, g, hf, hg, rfl⟩)

end Capture

/-! ## Latencies of the packet printed -/

/-- The latencies printed with a packet are its own. -/
structure OwnLatencies (startTime : JLong) (en : Entry) : Prop where
  worst : en.worst = some (en.tp.timestamp - startTime)
  best : en.best = some (en.tp.timestamp - startTime - en.tp.swInfo.linkLatency.getValue)

def LatenciesBelong (startTime : JLong) (entries : List Entry) : Prop :=
  ∀ en ∈ entries, OwnLatencies startTime en

/-- The two latencies determine the timestamp and the link latency. -/
theorem latencies_inj {startTime t t' l l' : JLong} :
    t - startTime = t' - startTime ∧ t - startTime - l = t' - startTime - l' ↔
      t = t' ∧ l = l' := by
  rw [BitVec.sub_left_inj]
  refine and_congr_right fun htime => ?_
  rw [htime, BitVec.sub_right_inj]

section Latencies

variable (hof : ofj.Faithful)

include hof

theorem ownLatencies_entryFrom {startTime : JLong} {f g : Packet} :
    OwnLatencies startTime (entryFrom ofj startTime f g) ↔
      f.timestamp = g.timestamp ∧ f.latency = g.latency := by
  have hpair : OwnLatencies startTime (entryFrom ofj startTime f g) ↔
      g.timestamp - startTime = f.timestamp - startTime ∧
        g.timestamp - startTime - g.latency = f.timestamp - startTime - f.latency := by
    have hlatency : (packetOf ofj f).swInfo.linkLatency.getValue = f.latency :=
      hof.getValue_u64Of _
    refine ⟨fun h => ⟨Option.some_inj.mp h.worst, ?_⟩, fun h => ⟨congrArg some h.1, ?_⟩⟩
    · rw [← hlatency]
      exact Option.some_inj.mp h.best
    · rw [← hlatency] at h
      exact congrArg some h.2
  rw [hpair, latencies_inj]
  exact and_congr eq_comm eq_comm

/-- Every latency printed belongs to the packet it is printed with exactly when the first and
    the last frame of each printed hop carry the same timestamp and the same link latency. -/
theorem latenciesBelong_iff (startTime : JLong) (cs : List Capture) :
    LatenciesBelong startTime (capture ofj startTime cs).report ↔
      FirstAndLast ofj cs fun f g => f.timestamp = g.timestamp ∧ f.latency = g.latency := by
  refine ⟨fun h hop hprints f g hf hg => ?_, fun h en hen => ?_⟩
  · exact (ownLatencies_entryFrom hof).mp (h _ (mem_report hof startTime hprints hf hg))
  · have hfound := (find?_key_eq_some (fun en : Entry => en.tp.hop.toInt)
      (report_increasing _)).mpr ⟨hen, rfl⟩
    obtain ⟨hprints, f, g, hf, hg, rfl⟩ := (find?_report_eq_some hof startTime cs _).mp hfound
    exact (ownLatencies_entryFrom hof).mpr (h _ hprints f g hf hg)

end Latencies

/-- The frame of a packet between host 2 and host 1. -/
def onWire (p : TracePacket) : Capture :=
  ⟨⟨.ethernet 0x8220, p.wire ⟨1⟩ ⟨2⟩ (.inet4 0 0 0 0)⟩, ⟨0, 0⟩⟩

/-- A reply to the probe 5. -/
def replyAt (hop : JByte) (time : JLong) : Capture :=
  onWire ((((probePacket 5).setType false).setHop hop).setTimestamp time)

/-- Two replies of the hop 0: the first is printed with the latencies of the second. -/
theorem replyAt_latencies :
    ¬ LatenciesBelong 0 (capture OpenFlowJ.documented 0 [replyAt 0 1, replyAt 0 2]).report := by
  intro h
  have hmem := mem_report OpenFlowJ.documented_faithful 0
    (show Prints OpenFlowJ.documented [replyAt 0 1, replyAt 0 2] 0 by decide) rfl rfl
  have hworst := (h _ hmem).worst
  exact absurd hworst (by decide)

/-- A reply that is captured twice. -/
theorem replyAt_latenciesBelong :
    LatenciesBelong 0 (capture OpenFlowJ.documented 0 [replyAt 0 1, replyAt 0 1]).report :=
  (latenciesBelong_iff OpenFlowJ.documented_faithful 0 _).mpr (by
    intro hop _ f g hf hg
    have hone : ∀ p ∈ traceFrames OpenFlowJ.documented [replyAt 0 1, replyAt 0 1],
        p = (replyAt 0 1).frame :=
      fun p hp => List.eq_of_mem_replicate (n := 2) hp
    rw [hone f (List.mem_filter.mp (List.mem_of_head? hf)).1,
      hone g (List.mem_filter.mp (List.mem_of_getLast? hg)).1]
    exact ⟨rfl, rfl⟩)

/-! ## Order and copies -/

theorem mem_traceFrames {cs : List Capture} {f : Packet} :
    f ∈ traceFrames ofj cs ↔ f ∈ cs.map (·.frame) ∧ f.IsTrace ofj := by
  unfold traceFrames
  rw [List.mem_filter, decide_eq_true_eq]

theorem mem_framesWith {cs : List Capture} {hop : JByte} {f : Packet} :
    f ∈ framesWith ofj hop cs ↔ f ∈ traceFrames ofj cs ∧ f.hop = hop := by
  unfold framesWith
  rw [List.mem_filter, decide_eq_true_eq]

/-- Trace frames with the same bytes are the same frame. -/
theorem eq_of_data_eq {cs : List Capture} {f g : Packet} (hf : f ∈ traceFrames ofj cs)
    (hg : g ∈ traceFrames ofj cs) (h : f.data = g.data) : f = g := by
  obtain ⟨-, hf, -⟩ := mem_traceFrames.mp hf
  obtain ⟨-, hg, -⟩ := mem_traceFrames.mp hg
  cases f
  cases g
  congr 1
  exact hf.trans hg.symm

/-- In a list of copies the first and the last are any of them. -/
theorem first_last_of_copies {fs : List Packet} (h : ∀ f ∈ fs, ∀ g ∈ fs, f = g)
    {P : Packet → Packet → Prop} :
    (∃ f g, fs.head? = some f ∧ fs.getLast? = some g ∧ P f g) ↔ ∃ f ∈ fs, P f f := by
  refine ⟨fun hex => ?_, fun hex => ?_⟩
  · obtain ⟨f, g, hf, hg, hP⟩ := hex
    have hmem := List.mem_of_head? hf
    obtain rfl := h f hmem g (List.mem_of_getLast? hg)
    exact ⟨f, hmem, hP⟩
  · obtain ⟨f, hf, hP⟩ := hex
    have hall : fs = List.replicate fs.length f :=
      List.eq_replicate_of_mem fun g hg => h g hg f hf
    have hne : fs.length ≠ 0 := (List.length_pos_of_mem hf).ne'
    rw [hall, List.head?_replicate, List.getLast?_replicate, if_neg hne]
    exact ⟨f, f, rfl, rfl, hP⟩

section Copies

variable (hof : ofj.Faithful)

include hof

/-- The report depends on the set of the captured frames only, as long as the trace frames of
    one hop have the same bytes. -/
theorem report_eq_of_same_frames (startTime : JLong) (cs cs' : List Capture)
    (hsame : ∀ f, f ∈ cs.map (·.frame) ↔ f ∈ cs'.map (·.frame))
    (hcopies : ∀ f ∈ traceFrames ofj cs, ∀ g ∈ traceFrames ofj cs,
      f.hop = g.hop → f.data = g.data) :
    (capture ofj startTime cs).report = (capture ofj startTime cs').report := by
  have htrace : ∀ f, f ∈ traceFrames ofj cs ↔ f ∈ traceFrames ofj cs' := by
    intro f
    rw [mem_traceFrames, mem_traceFrames, hsame]
  apply report_ext
  intro hop
  have hwith : ∀ f, f ∈ framesWith ofj hop cs ↔ f ∈ framesWith ofj hop cs' := by
    intro f
    rw [mem_framesWith, mem_framesWith, htrace]
  have hone : ∀ f ∈ framesWith ofj hop cs, ∀ g ∈ framesWith ofj hop cs, f = g := by
    intro f hf g hg
    obtain ⟨hf, hfhop⟩ := mem_framesWith.mp hf
    obtain ⟨hg, hghop⟩ := mem_framesWith.mp hg
    exact eq_of_data_eq hf hg (hcopies f hf g hg (hfhop.trans hghop.symm))
  have hone' : ∀ f ∈ framesWith ofj hop cs', ∀ g ∈ framesWith ofj hop cs', f = g :=
    fun f hf g hg => hone f ((hwith f).mpr hf) g ((hwith g).mpr hg)
  have hprints : Prints ofj cs hop ↔ Prints ofj cs' hop := by
    unfold Prints
    simp only [htrace]
  ext en
  rw [find?_report_eq_some hof, find?_report_eq_some hof, first_last_of_copies hone,
    first_last_of_copies hone', hprints]
  simp only [hwith]

end Copies

/-- The replies of two hops arrive in one order and, one of them twice, in the other. -/
theorem replyAt_delivered :
    (capture OpenFlowJ.documented 0 [replyAt 0 1, replyAt 1 2, replyAt 0 1]).report =
      (capture OpenFlowJ.documented 0 [replyAt 1 2, replyAt 0 1]).report :=
  report_eq_of_same_frames OpenFlowJ.documented_faithful 0 _ _
    (by
      intro f
      simp only [List.map_cons, List.map_nil, List.mem_cons, List.not_mem_nil, or_false]
      tauto)
    (by decide)

/-! ## Requests among the frames -/

/-- The captured frames that are no requests. -/
def replies (cs : List Capture) : List Capture := cs.filter fun f => ¬ f.frame.IsRequest

theorem framesWith_replies (hop : JByte) (cs : List Capture) :
    framesWith ofj hop (replies cs) = (framesWith ofj hop cs).filter fun f => ¬ f.IsRequest := by
  have hframes : (replies cs).map (·.frame) =
      (cs.map (·.frame)).filter fun f => ¬ f.IsRequest := by
    rw [List.filter_map]
    rfl
  unfold framesWith traceFrames
  simp only [hframes, List.filter_filter]
  congr 1
  funext f
  ac_rfl

theorem mem_framesWith_replies {hop : JByte} {cs : List Capture} {f : Packet} :
    f ∈ framesWith ofj hop (replies cs) ↔ f ∈ framesWith ofj hop cs ∧ ¬ f.IsRequest := by
  rw [framesWith_replies, List.mem_filter, decide_eq_true_eq]

/-- Removing elements does not change the first and the last, when they are kept. -/
theorem ends_filter {α : Type} {p : α → Bool} {xs : List α}
    (h : ∀ a b, xs.head? = some a → xs.getLast? = some b → p a = true ∧ p b = true) :
    (xs.filter p).head? = xs.head? ∧ (xs.filter p).getLast? = xs.getLast? := by
  rcases List.eq_nil_or_concat' xs with rfl | ⟨ys, b, rfl⟩
  · exact ⟨rfl, rfl⟩
  · obtain ⟨a, zs, hzs⟩ := List.exists_cons_of_ne_nil (List.concat_ne_nil b ys)
    obtain ⟨hpa, hpb⟩ := h a b (by rw [hzs]; rfl) List.getLast?_concat
    refine ⟨?_, ?_⟩
    · rw [hzs, List.filter_cons_of_pos hpa, List.head?_cons, List.head?_cons]
    · rw [List.filter_append, List.filter_singleton, hpb]
      exact List.getLast?_concat.trans List.getLast?_concat.symm

/-- The latency bytes include the type byte. -/
theorem isRequest_congr {f g : Packet} (h : f.latency = g.latency) :
    f.IsRequest ↔ g.IsRequest := by
  have htype : byteAt f.data 36 = byteAt g.data 36 := longAt_eq_iff.mp h 3 (by omega)
  unfold Packet.IsRequest
  rw [htype]

/-- The two frames that an entry comes from are requests, or they are not. -/
theorem isRequest_of_entryFrom_eq {startTime : JLong} {f g f' g' : Packet}
    (h : entryFrom ofj startTime f g = entryFrom ofj startTime f' g') :
    (f.IsRequest ↔ f'.IsRequest) ∧ (g.IsRequest ↔ g'.IsRequest) := by
  have htype : decide f.IsRequest = decide f'.IsRequest := congrArg (·.tp.request) h
  have hworst : g.timestamp - startTime = g'.timestamp - startTime :=
    Option.some_inj.mp (congrArg (·.worst) h)
  have hbest : g.timestamp - startTime - g.latency = g'.timestamp - startTime - g'.latency :=
    Option.some_inj.mp (congrArg (·.best) h)
  obtain ⟨-, hlatency⟩ := latencies_inj.mp ⟨hworst, hbest⟩
  exact ⟨decide_eq_decide.mp htype, isRequest_congr hlatency⟩

theorem ends_replies {cs : List Capture} {hop : JByte} (hprints : Prints ofj cs hop)
    (h : FirstAndLast ofj cs fun f g => ¬ f.IsRequest ∧ ¬ g.IsRequest) :
    (framesWith ofj hop (replies cs)).head? = (framesWith ofj hop cs).head? ∧
      (framesWith ofj hop (replies cs)).getLast? = (framesWith ofj hop cs).getLast? := by
  rw [framesWith_replies]
  apply ends_filter
  intro f g hf hg
  rw [decide_eq_true_eq, decide_eq_true_eq]
  exact h hop hprints f g hf hg

/-- A hop below -1 that was captured is still there when its first frame is no request. -/
theorem prints_replies {cs : List Capture} {hop : JByte}
    (h : FirstAndLast ofj cs fun f g => ¬ f.IsRequest ∧ ¬ g.IsRequest) :
    Prints ofj cs hop ↔ Prints ofj (replies cs) hop := by
  refine forall_congr' fun _ => ⟨fun hex => ?_, fun hex => ?_⟩
  · obtain ⟨f, hf, hlt⟩ := hex
    have hprints : Prints ofj cs f.hop := by
      intro heq
      rw [heq] at hlt
      exact absurd hlt (by decide)
    have hhead := (ends_replies hprints h).1
    cases hfirst : (framesWith ofj f.hop cs).head? with
    | none =>
      rw [List.head?_eq_none_iff] at hfirst
      exact absurd (mem_framesWith.mpr ⟨hf, rfl⟩) (hfirst ▸ List.not_mem_nil)
    | some first =>
      rw [hfirst] at hhead
      obtain ⟨hmem, hhop⟩ := mem_framesWith.mp (List.mem_of_head? hhead)
      exact ⟨first, hmem, hhop ▸ hlt⟩
  · obtain ⟨f, hf, hlt⟩ := hex
    have hmem := (mem_framesWith_replies.mp (mem_framesWith.mpr ⟨hf, rfl⟩)).1
    exact ⟨f, (mem_framesWith.mp hmem).1, hlt⟩

section Requests

variable (hof : ofj.Faithful)

include hof

theorem ends_of_report_eq {startTime : JLong} {cs : List Capture}
    (h : (capture ofj startTime cs).report = (capture ofj startTime (replies cs)).report) :
    FirstAndLast ofj cs fun f g => ¬ f.IsRequest ∧ ¬ g.IsRequest := by
  intro hop hprints f g hf hg
  have hfound := (find?_report_eq_some hof startTime cs hop).mpr ⟨hprints, f, g, hf, hg, rfl⟩
  rw [h] at hfound
  obtain ⟨-, f', g', hf', hg', hentry⟩ := (find?_report_eq_some hof startTime _ hop).mp hfound
  obtain ⟨hfirst, hlast⟩ := isRequest_of_entryFrom_eq hentry
  have hf'' := (mem_framesWith_replies.mp (List.mem_of_head? hf')).2
  have hg'' := (mem_framesWith_replies.mp (List.mem_of_getLast? hg')).2
  exact ⟨fun hreq => hf'' (hfirst.mp hreq), fun hreq => hg'' (hlast.mp hreq)⟩

/-- The requests do not show in the report exactly when the first and the last frame of each
    printed hop are replies. -/
theorem report_replies_iff (startTime : JLong) (cs : List Capture) :
    (capture ofj startTime cs).report = (capture ofj startTime (replies cs)).report ↔
      FirstAndLast ofj cs fun f g => ¬ f.IsRequest ∧ ¬ g.IsRequest := by
  refine ⟨ends_of_report_eq hof, fun h => report_ext fun hop => ?_⟩
  ext en
  rw [find?_report_eq_some hof, find?_report_eq_some hof, ← prints_replies h]
  refine and_congr_right fun hprints => ?_
  obtain ⟨hhead, hlast⟩ := ends_replies hprints h
  rw [hhead, hlast]

end Requests

/-- The request itself is captured before its reply. -/
theorem request_reported :
    (capture OpenFlowJ.documented 0 [onWire (probePacket 5), replyAt 0 1]).report ≠
      (capture OpenFlowJ.documented 0 (replies [onWire (probePacket 5), replyAt 0 1])).report := by
  intro h
  have hends := ends_of_report_eq OpenFlowJ.documented_faithful h 0 (by decide) _ _ rfl rfl
  exact absurd hends (by decide)

/-- Between two replies of its hop it is not reported. -/
theorem request_not_reported :
    (capture OpenFlowJ.documented 0
        [replyAt 0 1, onWire (probePacket 5), replyAt 0 1]).report =
      (capture OpenFlowJ.documented 0
        (replies [replyAt 0 1, onWire (probePacket 5), replyAt 0 1])).report :=
  (report_replies_iff OpenFlowJ.documented_faithful 0 _).mpr (by
    intro hop _ f g hf hg
    by_cases h : hop = 0
    · subst h
      cases hf
      cases hg
      decide
    · have hnone : ∀ p ∈ traceFrames OpenFlowJ.documented
          [replyAt 0 1, onWire (probePacket 5), replyAt 0 1], p.hop = 0 := by decide
      obtain ⟨hmem, hhop⟩ := mem_framesWith.mp (List.mem_of_head? hf)
      exact absurd (hhop.symm.trans (hnone f hmem)) h)

end TraceClient

end JSdnTrace
