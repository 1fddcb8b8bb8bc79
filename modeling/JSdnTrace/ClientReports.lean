/-
  The probe of `TraceClient.main` at the controller, and the replies to it at the device of the
  client.

  * `main_reports`: `main` prints the replies that arrived, of all that arrives.
-/
import JSdnTrace.ClientMain

namespace JSdnTrace

open Java Lib TraceAppController TraceClient

namespace TraceClient

section Main

variable (ofj : OpenFlowJ) (parsed : Frame → List JByte) (env : ClientEnv)

theorem Ready.is48 {dst src : MacAddress} (h : Ready env dst src) : dst.Is48 ∧ src.Is48 := by
  obtain ⟨⟨_, hdst, -⟩, _, _, -, ⟨_, _, hsrc, -⟩, -⟩ := h
  exact ⟨hdst, hsrc⟩

/-- The probe, with its bytes. -/
def probeOnWire {dst src : MacAddress} (h : Ready env dst src) : WirePacket where
  pkt := probeOf ofj env dst src
  data := probeWire ofj env dst src
  wellFormed :=
    { dst := ⟨dst, rfl, h.is48.1⟩
      src := ⟨src, rfl, h.is48.2⟩
      addr := ⟨0, 0, 0, 0, rfl⟩
      ascii := show JString.empty.Ascii by decide }
  serialize_eq := serialize_probeOf ofj env dst src

theorem payload_probeFrame {dst src : MacAddress} (h : Ready env dst src) :
    (probeFrame ofj env dst src).payload = (probeOnWire ofj env h).data := rfl

/-- The frame is a packet-out of the module, with one of the packets `ps`. -/
def FromModule (fl : Floodlight) (ps : List TracePacket) (f : Frame) : Prop :=
  ∃ p ∈ ps, ∃ dpid port po,
    TraceModule.sendTracePacket ofj fl dpid p port = .ok po ∧ f.bytes = po.data

theorem frameBytes_of_fromModule {fl : Floodlight} (hfl : fl.Untagged) {ps : List TracePacket}
    {f : Frame} (h : FromModule ofj fl ps f) : ∃ p ∈ ps, FrameBytes p f.bytes := by
  obtain ⟨p, hp, dpid, port, po, hpo, hbytes⟩ := h
  exact ⟨p, hp, hbytes ▸ frameBytes_of_sendTracePacket hfl hpo⟩

theorem decodes_of_frameBytes {rc : RawCapture} {p : TracePacket}
    (h : FrameBytes p rc.frame.bytes) (hport : ofj.AcceptsPort p.swInfo.lowDpid) :
    Decodes ofj rc := by
  intro _
  obtain ⟨-, -, hdata⟩ := getPacket_of_frameBytes (fun _ => []) h
  have hlong : 65 ≤ rc.frame.payload.length := TracePacket.packSize_le_length hdata
  have hlen := rc.frame.length_bytes
  rw [TracePacket.intAt_of_serialize hdata]
  exact ⟨by omega, hport⟩

/-- The probe of `main` is given to the controller among the traffic of others, and frames of its
    replies reach the device of the client among frames of other types: `main` prints the replies
    that arrived, once each, in the order in which they were sent. -/
theorem main_reports {ofj : OpenFlowJ} (hof : ofj.Faithful) {fl : Floodlight}
    (hfl : fl.Untagged) {dst src : MacAddress} (h : Sends ofj env dst src) (w : MainWorld)
    (es : List Event) (hes : TraceRun ofj (probeOnWire ofj env h.1) es)
    (hcaptured : ∀ rc ∈ env.captured, rc.IsTrace →
      FromModule ofj fl (repliesTo ofj (probeOnWire ofj env h.1) es) rc.frame) :
    (run (main ofj parsed env) w).2.sent = w.sent ++ [probeFrame ofj env dst src] ∧
      (probeFrame ofj env dst src).payload = (probeOnWire ofj env h.1).data ∧
      ∃ entries, (run (main ofj parsed env) w).2.printed = w.printed ++ entries ∧
        List.Forall₂ (Shows env.getTime)
          ((repliesTo ofj (probeOnWire ofj env h.1) es).filter (arrived env.captured)) entries := by
  have hframes : ∀ rc ∈ env.captured, rc.IsTrace →
      ∃ p ∈ repliesTo ofj (probeOnWire ofj env h.1) es, FrameBytes p rc.frame.bytes :=
    fun rc hrc htrace => frameBytes_of_fromModule ofj hfl (hcaptured rc hrc htrace)
  have hps := numbered_repliesTo hof hes
  have hall : ∀ rc ∈ env.captured, Decodes ofj rc := by
    intro rc hrc htrace
    obtain ⟨p, hp, hbytes⟩ := hframes rc hrc htrace
    exact decodes_of_frameBytes ofj hbytes (hps.accepted p hp) htrace
  have hrun := (run_mainBody_of_sends parsed env hof h w).1 hall
  rw [snd_run_main, hrun]
  exact ⟨rfl, payload_probeFrame ofj env h.1, _, rfl,
    report_of_rawCaptures parsed hof hps hframes env.getTime⟩

end Main

/-- A packet is known by what was sent. -/
theorem wirePacket_ext {r r' : WirePacket} (h : r.pkt = r'.pkt) : r = r' := by
  obtain ⟨pkt, data, hwf, hdata⟩ := r
  obtain ⟨pkt', data', hwf', hdata'⟩ := r'
  dsimp only at h
  subst h
  rw [hdata] at hdata'
  cases hdata'
  rfl

theorem probeOnWire_secondHost (captured : List RawCapture) :
    probeOnWire OpenFlowJ.documented (secondHost captured) (secondHost_sends captured).1 =
      probe 5 :=
  wirePacket_ext rfl

/-- The frame of a reply to the probe 5, from the switch 0. -/
def probeReplyFrame (hop : JByte) (time : JLong) : Frame where
  bytes := (⟨2⟩ : MacAddress).getBytes ++ (⟨1⟩ : MacAddress).getBytes ++ shortBytes 0x8220 ++
    (probeReply hop time).data
  header_lt := by
    rw [List.length_append, (probeReply hop time).length_data]
    show 14 < 14 + (TracePacket.packSize + 2 * 0)
    decide
  fits := by
    rw [List.length_append, (probeReply hop time).length_data]
    show 14 + (TracePacket.packSize + 2 * 0) < 0x8000
    decide

theorem probeReplyFrame_fromModule {ps : List TracePacket} {hop : JByte} {time : JLong}
    (h : (probeReply hop time).pkt ∈ ps) :
    FromModule OpenFlowJ.documented (.untagged fun _ => true) ps (probeReplyFrame hop time) := by
  refine ⟨_, h, 0, OpenFlowJ.documented.portFlood,
    { sw := ⟨⟨0⟩⟩
      inPort := OpenFlowJ.documented.portController
      output := OpenFlowJ.documented.portFlood
      data := (probeReplyFrame hop time).bytes }, ?_, rfl⟩
  unfold TraceModule.sendTracePacket
  rw [(probeReply hop time).serialize_eq]
  rfl

/-- A frame of no content and of type ARP. -/
def arpFrame : Frame where
  bytes := List.replicate 12 0xFF ++ shortBytes 0x0806 ++ List.replicate 46 0
  header_lt := by decide
  fits := by decide

/-- The last of three replies overtakes the first and is captured twice, with a frame of another
    type between. The second reply is lost. -/
def repliesCaptured : List RawCapture :=
  [⟨probeReplyFrame 2 4, ⟨1, 0⟩⟩, ⟨arpFrame, ⟨2, 0⟩⟩, ⟨probeReplyFrame 0 0, ⟨3, 0⟩⟩,
    ⟨probeReplyFrame 2 4, ⟨4, 0⟩⟩]

theorem repliesCaptured_trace {rc : RawCapture} (hrc : rc ∈ repliesCaptured) (h : rc.IsTrace) :
    rc.frame = probeReplyFrame 0 0 ∨ rc.frame = probeReplyFrame 2 4 := by
  have harp : arpFrame.frametype ≠ 0x8220 := by decide
  simp only [repliesCaptured, List.mem_cons, List.not_mem_nil, or_false] at hrc
  rcases hrc with rfl | rfl | rfl | rfl
  · exact Or.inr rfl
  · exact absurd h harp
  · exact Or.inl rfl
  · exact Or.inr rfl

/-- The run of `probeRun`, in which the probe 6 comes in between the copies of the probe 5. -/
theorem secondHost_reports :
    ∃ entries, (run (main OpenFlowJ.documented (fun _ => []) (secondHost repliesCaptured))
        ⟨start 0, [], []⟩).2.printed = [] ++ entries ∧
      List.Forall₂ (Shows 0)
        ([(probeReply 0 0).pkt, (probeReply 1 2).pkt, (probeReply 2 4).pkt].filter
          (arrived repliesCaptured)) entries := by
  have hprobe := probeOnWire_secondHost repliesCaptured
  have hreplies : repliesTo OpenFlowJ.documented (probeOnWire OpenFlowJ.documented
      (secondHost repliesCaptured) (secondHost_sends _).1) probeRun =
      [(probeReply 0 0).pkt, (probeReply 1 2).pkt, (probeReply 2 4).pkt] := by
    rw [hprobe, repliesTo_probe]
  have hreports := main_reports (fun _ => []) (secondHost repliesCaptured)
    OpenFlowJ.documented_faithful (Floodlight.untagged_untagged fun _ => true)
    (secondHost_sends _) ⟨start 0, [], []⟩ probeRun (hprobe ▸ traceRun_probe)
    (by
      intro rc hrc htrace
      rw [hreplies]
      rcases repliesCaptured_trace hrc htrace with hframe | hframe <;> rw [hframe]
      · exact probeReplyFrame_fromModule (by simp)
      · exact probeReplyFrame_fromModule (by simp))
  rw [hreplies] at hreports
  exact hreports.2.2

end TraceClient

end JSdnTrace
