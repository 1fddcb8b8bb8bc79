/-
  From the request to the report: the request of one probe is given to the controller up to 128
  times among the traffic of others, its replies are lost, copied and reordered on their way to
  the client, and the client prints the replies that arrived, once each, in the order in which
  the controller sent them.

  * `hops_repliesTo`: the replies to a request are numbered from 0.
  * `report_of_frames`: what the client reports of frames that carry numbered replies.
  * `report_repliesTo`: the two together.
-/
import JSdnTrace.TraceClient
import JSdnTrace.WirePacket

namespace JSdnTrace

open Java Lib TraceAppController TraceClient

/-! ## The replies to a request -/

/-- The event gives the bytes of `r` to `PacketIn`. -/
def Event.Carries (r : WirePacket) : Event → Prop
  | .packetIn _ data _ => data = r.data
  | _ => False

instance (r : WirePacket) : DecidablePred (Event.Carries r)
  | .packetIn _ data _ => inferInstanceAs (Decidable (data = r.data))
  | .switchInfoReceived _ _ _ => inferInstanceAs (Decidable False)
  | .onPortStatusChange _ _ _ => inferInstanceAs (Decidable False)

section Replies

variable (ofj : OpenFlowJ)

/-- What the event `e` sends after `past`. -/
def sentBy (past : List Event) (e : Event) : List Sent :=
  (reached ofj (past ++ [e])).sent.drop (reached ofj past).sent.length

/-- The packets sent in answer to `r`, in the order in which its copies were handled. -/
def repliesTo (r : WirePacket) (es : List Event) : List TracePacket :=
  (mapHistory (fun past e => if e.Carries r then (sentBy ofj past e).map (·.pkt) else [])
    [] es).flatten

/-- A run in which the only packet-ins of the probe of `r` carry `r`, at most 128 times. Of the
    switches they come from, `OFPort.of` is asked about the end of the id. -/
structure TraceRun (r : WirePacket) (es : List Event) : Prop where
  readable : r.Readable ofj
  only : ∀ e ∈ es, e.OfProbe ofj r.pkt.probeId → e.Carries r
  switches : ∀ env info, .packetIn env r.data info ∈ es →
    info.Ipv4 ∧ info.contId.Ascii ∧ ofj.AcceptsPort info.lowDpid
  atMost : es.countP (Event.Carries r) ≤ 128

theorem sentBy_eq (past : List Event) (e : Event) :
    sentBy ofj past e = e.sends ofj (probeCount ofj past) := by
  unfold sentBy
  rw [reached_concat, sent_step ofj (nextHop_reached ofj past), List.drop_left]

theorem repliesTo_concat (r : WirePacket) (es : List Event) (e : Event) :
    repliesTo ofj r (es ++ [e]) =
      repliesTo ofj r es ++
        if e.Carries r then (e.sends ofj (probeCount ofj es)).map (·.pkt) else [] := by
  unfold repliesTo
  rw [flatten_mapHistory_concat, List.nil_append, sentBy_eq]

variable {ofj} (hof : ofj.Faithful) {r : WirePacket}

include hof

theorem ofProbe_of_carries (hr : r.Readable ofj) {e : Event} (h : e.Carries r) :
    e.OfProbe ofj r.pkt.probeId := by
  cases e with
  | switchInfoReceived network dpid mp => exact absurd h id
  | onPortStatusChange dpid portNum mac => exact absurd h id
  | packetIn env data info =>
    obtain rfl : data = r.data := h
    exact (r.ofProbe_wirePacket hof hr env info _).mpr rfl

/-- A copy of the request is answered with the number `n` of its probe. -/
theorem sends_of_carries (hr : r.Readable ofj) {e : Event} (h : e.Carries r)
    (n : JLong → Nat) :
    ∃ env info, e = .packetIn env r.data info ∧
      (e.sends ofj n).map (·.pkt) =
        [replyPacket env.flooded r.pkt info (BitVec.ofNat 8 (n r.pkt.probeId))] := by
  cases e with
  | switchInfoReceived network dpid mp => exact absurd h id
  | onPortStatusChange dpid portNum mac => exact absurd h id
  | packetIn env data info =>
    obtain rfl : data = r.data := h
    refine ⟨env, info, rfl, ?_⟩
    rw [r.sends_wirePacket hof hr env info n]
    rfl

theorem probeCount_eq (hr : r.Readable ofj) (es : List Event)
    (honly : ∀ e ∈ es, e.OfProbe ofj r.pkt.probeId → e.Carries r) :
    probeCount ofj es r.pkt.probeId = es.countP (Event.Carries r) := by
  apply List.countP_congr
  intro e he
  rw [decide_eq_true_eq, decide_eq_true_eq]
  exact ⟨honly e he, ofProbe_of_carries hof hr⟩

/-- The replies are numbered from 0. -/
theorem hops_repliesTo (hr : r.Readable ofj) (es : List Event)
    (honly : ∀ e ∈ es, e.OfProbe ofj r.pkt.probeId → e.Carries r) :
    (repliesTo ofj r es).map (·.hop) =
      (List.range (es.countP (Event.Carries r))).map (BitVec.ofNat 8) := by
  induction es using List.reverseRecOn with
  | nil => rfl
  | append_singleton es e ih =>
    obtain ⟨hes, he⟩ := List.forall_mem_append.mp honly
    rw [repliesTo_concat, List.map_append, ih hes, List.countP_append, List.countP_singleton]
    by_cases hc : e.Carries r
    · obtain ⟨env, info, rfl, hsends⟩ := sends_of_carries hof hr hc (probeCount ofj es)
      rw [if_pos hc, hsends, if_pos (decide_eq_true hc), List.range_succ, List.map_append,
        probeCount_eq hof hr es hes]
      rfl
    · rw [if_neg hc, if_neg (by rwa [decide_eq_true_eq])]
      simp

theorem mem_repliesTo (hr : r.Readable ofj) (es : List Event) {p : TracePacket}
    (hp : p ∈ repliesTo ofj r es) :
    ∃ env info hop, .packetIn env r.data info ∈ es ∧
      p = replyPacket env.flooded r.pkt info hop := by
  induction es using List.reverseRecOn with
  | nil => exact absurd hp List.not_mem_nil
  | append_singleton es e ih =>
    rw [repliesTo_concat] at hp
    rcases List.mem_append.mp hp with hp | hp
    · obtain ⟨env, info, hop, hmem, heq⟩ := ih hp
      exact ⟨env, info, hop, List.mem_append_left _ hmem, heq⟩
    · by_cases hc : e.Carries r
      · obtain ⟨env, info, rfl, hsends⟩ := sends_of_carries hof hr hc (probeCount ofj es)
        rw [if_pos hc, hsends] at hp
        exact ⟨env, info, _, by simp, List.mem_singleton.mp hp⟩
      · rw [if_neg hc] at hp
        exact absurd hp List.not_mem_nil

end Replies

/-! ## Numbered replies -/

/-- Packets that can be sent and read, with increasing hops from 0. -/
structure Numbered (ofj : OpenFlowJ) (ps : List TracePacket) : Prop where
  wellFormed : ∀ p ∈ ps, p.WellFormed
  accepted : ∀ p ∈ ps, ofj.AcceptsPort p.swInfo.lowDpid
  increasing : ps.Pairwise fun p q => p.hop.toInt < q.hop.toInt
  nonneg : ∀ p ∈ ps, 0 ≤ p.hop.toInt

theorem toInt_ofNat_of_lt {i : Nat} (h : i < 128) : (BitVec.ofNat 8 i).toInt = i := by
  rw [toInt_ofNat]
  omega

theorem numbered_repliesTo {ofj : OpenFlowJ} (hof : ofj.Faithful) {r : WirePacket}
    {es : List Event} (h : TraceRun ofj r es) : Numbered ofj (repliesTo ofj r es) := by
  have hhops := hops_repliesTo hof h.readable es h.only
  have hatMost := h.atMost
  have hsmall : ∀ i ∈ List.range (es.countP (Event.Carries r)), i < 128 := by
    intro i hi
    have hlt := List.mem_range.mp hi
    omega
  have hmap : (repliesTo ofj r es).map (·.hop.toInt) =
      (List.range (es.countP (Event.Carries r))).map fun i : Nat => (i : Int) := by
    have hcomp := congrArg (List.map BitVec.toInt) hhops
    rw [List.map_map, List.map_map] at hcomp
    exact hcomp.trans (List.map_congr_left fun i hi => toInt_ofNat_of_lt (hsmall i hi))
  refine ⟨fun p hp => ?_, fun p hp => ?_, ?_, fun p hp => ?_⟩
  · obtain ⟨env, info, hop, hmem, rfl⟩ := mem_repliesTo hof h.readable es hp
    obtain ⟨hip, hascii, -⟩ := h.switches env info hmem
    exact replyPacket_wellFormed env.flooded r.wellFormed hip hascii hop
  · obtain ⟨env, info, hop, hmem, rfl⟩ := mem_repliesTo hof h.readable es hp
    exact (h.switches env info hmem).2.2
  · have hpair : ((repliesTo ofj r es).map (·.hop.toInt)).Pairwise (· < ·) := by
      rw [hmap, List.pairwise_map]
      exact List.pairwise_lt_range.imp fun hlt => Int.ofNat_lt.mpr hlt
    exact List.pairwise_map.mp hpair
  · have hmem : p.hop.toInt ∈ (repliesTo ofj r es).map (·.hop.toInt) := List.mem_map_of_mem hp
    rw [hmap] at hmem
    obtain ⟨i, -, hi⟩ := List.mem_map.mp hmem
    omega

/-! ## The client -/

/-- The frame carries a serialization of one of `ps`. -/
def FrameOf (ps : List TracePacket) (f : Capture) : Prop :=
  f.frame.datalink = .ethernet 0x8220 ∧ ∃ p ∈ ps, p.serialize = .ok f.frame.data

/-- Some captured frame carries `p`. -/
def captured (cs : List Capture) (p : TracePacket) : Bool :=
  cs.any fun f => p.serialize = .ok f.frame.data

/-- The entry shows the packet `p`, and how long after `startTime` it was stamped. -/
structure Shows (startTime : JLong) (p : TracePacket) (en : Entry) : Prop where
  hop : en.tp.hop = p.hop
  timestamp : en.tp.timestamp = p.timestamp
  source : en.tp.sourceMAC = p.sourceMAC
  destination : en.tp.destinationMAC = p.destinationMAC
  probeId : en.tp.probeId = p.probeId
  worst : en.worst = some (p.timestamp - startTime)

/-- What a receiver makes of `p`. -/
def received (ofj : OpenFlowJ) (p : TracePacket) : TracePacket :=
  (TracePacket.roundTrip ofj ⟨0, 0⟩ p).toOption.getD p

section Client

variable {ofj : OpenFlowJ} (hof : ofj.Faithful)

include hof

theorem received_spec {p : TracePacket} (hp : p.WellFormed)
    (hport : ofj.AcceptsPort p.swInfo.lowDpid) {data : List JByte}
    (hdata : p.serialize = .ok data) :
    (∀ this, TracePacket.deserialize ofj this data 0 data.length = .ok (received ofj p)) ∧
      ∃ sw, received ofj p = p.setSwInfo sw := by
  obtain ⟨dst, src, address, hd, hd48, hs, hs48, hwire⟩ :=
    (WirePacket.mk p data hp hdata).data_eq_wire
  have hlen := (WirePacket.mk p data hp hdata).length_data
  dsimp only at hwire hlen
  have h37 : (37 : Int) ≤ data.length := by
    unfold TracePacket.packSize at hlen
    omega
  have hread : ∀ this, TracePacket.deserialize ofj this data 0 data.length =
      .ok (p.setSwInfo (p.echo ofj dst src address)) := by
    intro this
    have hle : (data.length : Int) ≤ (p.wire dst src address).length := by rw [hwire]
    rw [hwire] at h37 hle ⊢
    exact TracePacket.deserialize_wire hp.ascii hof hport this hd hs hd48 hs48 h37 hle
  have hreceived : received ofj p = p.setSwInfo (p.echo ofj dst src address) := by
    unfold received TracePacket.roundTrip
    rw [hdata, ok_bind, hread]
    rfl
  exact ⟨fun this => (hread this).trans (congrArg Except.ok hreceived.symm), _, hreceived⟩

section Capture

variable {ps : List TracePacket} (hps : Numbered ofj ps) {cs : List Capture}
  (hcs : ∀ f ∈ cs, FrameOf ps f)

omit hof in
theorem mem_captured {p : TracePacket} :
    p ∈ ps.filter (captured cs) ↔ p ∈ ps ∧ ∃ f ∈ cs, p.serialize = .ok f.frame.data := by
  rw [List.mem_filter]
  unfold captured
  simp

include hps

theorem received_of_mem {p : TracePacket} (hp : p ∈ ps.filter (captured cs)) :
    ∃ sw, received ofj p = p.setSwInfo sw := by
  obtain ⟨hmem, f, -, hdata⟩ := mem_captured.mp hp
  exact (received_spec hof (hps.wellFormed p hmem) (hps.accepted p hmem) hdata).2

/-- The received packet has the hop of the packet sent. -/
theorem hop_received {p : TracePacket} (hp : p ∈ ps.filter (captured cs)) :
    (received ofj p).hop = p.hop := by
  obtain ⟨sw, hsw⟩ := received_of_mem hof hps hp
  rw [hsw]
  rfl

include hcs

/-- The client collects the captured packets and nothing else. -/
theorem mem_decodings {tp : TracePacket} :
    tp ∈ cs.filterMap (decode ofj) ↔ ∃ p ∈ ps.filter (captured cs), tp = received ofj p := by
  have hdecode : ∀ f ∈ cs, ∀ p ∈ ps, p.serialize = .ok f.frame.data →
      decode ofj f = some (received ofj p) := by
    intro f hf p hp hdata
    unfold decode
    rw [if_pos (hcs f hf).1,
      (received_spec hof (hps.wellFormed p hp) (hps.accepted p hp) hdata).1]
    rfl
  rw [List.mem_filterMap]
  refine ⟨fun hframe => ?_, fun hsent => ?_⟩
  · obtain ⟨f, hf, htp⟩ := hframe
    obtain ⟨-, p, hp, hdata⟩ := hcs f hf
    rw [hdecode f hf p hp hdata] at htp
    exact ⟨p, mem_captured.mpr ⟨hp, f, hf, hdata⟩, (Option.some_inj.mp htp).symm⟩
  · obtain ⟨p, hp, rfl⟩ := hsent
    obtain ⟨hmem, f, hf, hdata⟩ := mem_captured.mp hp
    exact ⟨f, hf, hdecode f hf p hmem hdata⟩

/-- The packets that the report prints are the captured ones, in the order of `ps`. -/
theorem keepFirst_decodings :
    keepFirst (·.hop.toInt) (-1)
        ((cs.filterMap (decode ofj)).mergeSort fun a b => a.compareTo b ≤ 0) =
      (ps.filter (captured cs)).map (received ofj) := by
  have hhop : ∀ p ∈ ps.filter (captured cs), (received ofj p).hop = p.hop :=
    fun p hp => hop_received hof hps hp
  have hmem : ∀ tp, tp ∈ (cs.filterMap (decode ofj)).mergeSort (fun a b => a.compareTo b ≤ 0) ↔
      ∃ p ∈ ps.filter (captured cs), tp = received ofj p := by
    intro tp
    rw [List.mem_mergeSort, mem_decodings hof hps hcs]
  apply keepFirst_eq (fun tp : TracePacket => tp.hop.toInt) (-1) (pairwise_sort _)
  · intro tp htp
    obtain ⟨p, hp, rfl⟩ := (hmem tp).mp htp
    have hnonneg := hps.nonneg p (mem_captured.mp hp).1
    rw [hhop p hp]
    omega
  · rw [List.pairwise_map]
    refine (hps.increasing.filter _).imp_of_mem fun hp hq hlt => ?_
    rwa [hhop _ hp, hhop _ hq]
  · intro tp htp
    obtain ⟨p, hp, rfl⟩ := (hmem tp).mp htp
    exact List.mem_map_of_mem hp
  · intro tp htp
    obtain ⟨p, hp, rfl⟩ := List.mem_map.mp htp
    exact ⟨_, (hmem _).mpr ⟨p, hp, rfl⟩, rfl⟩

/-- The latency stored for a hop is that of the one packet with the hop. -/
theorem worst_decodings (startTime : JLong) {p : TracePacket}
    (hp : p ∈ ps.filter (captured cs)) :
    (holding startTime (cs.filterMap (decode ofj))).worstLatencies.get p.hop =
      some (p.timestamp - startTime) := by
  have hsame : ∀ tp ∈ cs.filterMap (decode ofj), tp.hop = p.hop → tp = received ofj p := by
    intro tp htp hhop
    obtain ⟨q, hq, rfl⟩ := (mem_decodings hof hps hcs).mp htp
    rw [hop_received hof hps hq] at hhop
    rw [eq_of_key_eq (·.hop.toInt) (hps.increasing.filter _) hq hp (congrArg BitVec.toInt hhop)]
  have hin : received ofj p ∈ cs.filterMap (decode ofj) :=
    (mem_decodings hof hps hcs).mpr ⟨p, hp, rfl⟩
  obtain ⟨sw, hsw⟩ := received_of_mem hof hps hp
  apply HashMap.get_foldl_put_of_forall
  · exact ⟨_, hin, hop_received hof hps hp⟩
  · intro tp htp hhop
    rw [hsame tp htp hhop, hsw]
    rfl

/-- The report shows the captured packets, one entry each, in the order of `ps`. -/
theorem report_of_frames (startTime : JLong) :
    List.Forall₂ (Shows startTime) (ps.filter (captured cs))
      (capture ofj startTime cs).report := by
  rw [report_eq, capture_eq]
  show List.Forall₂ _ _ ((keepFirst _ _ ((cs.filterMap (decode ofj)).mergeSort _)).map _)
  rw [keepFirst_decodings hof hps hcs, List.forall₂_map_right_iff, List.forall₂_map_right_iff,
    List.forall₂_same]
  intro p hp
  obtain ⟨sw, hsw⟩ := received_of_mem hof hps hp
  have hworst := worst_decodings hof hps hcs startTime hp
  unfold entry
  rw [hsw]
  exact ⟨rfl, rfl, rfl, rfl, rfl, hworst⟩

end Capture

/-- The client reports the replies that reached it, once each, in the order of the requests. -/
theorem report_repliesTo (r : WirePacket) (es : List Event) (h : TraceRun ofj r es)
    (startTime : JLong) (cs : List Capture) (hcs : ∀ f ∈ cs, FrameOf (repliesTo ofj r es) f) :
    (repliesTo ofj r es).length = es.countP (Event.Carries r) ∧ (repliesTo ofj r es).Nodup ∧
      List.Forall₂ (Shows startTime) ((repliesTo ofj r es).filter (captured cs))
        (capture ofj startTime cs).report := by
  have hps := numbered_repliesTo hof h
  refine ⟨?_, ?_, report_of_frames hof hps hcs startTime⟩
  · have hlen := congrArg List.length (hops_repliesTo hof h.readable es h.only)
    rwa [List.length_map, List.length_map, List.length_range] at hlen
  · refine hps.increasing.imp fun hlt heq => ?_
    rw [heq] at hlt
    exact lt_irrefl _ hlt

end Client

/-- A probe of host 2 is handled at this time. -/
def probeEvent (probeId time : JLong) : Event :=
  .packetIn (Env.accepting 7 time) (probe probeId).data (SwitchInfo.new OpenFlowJ.documented)

/-- The probe 5 comes in three times. Between, host 2 is found and sends the probe 6. -/
def probeRun : List Event :=
  [probeEvent 5 0, .onPortStatusChange 1 3 2, probeEvent 6 1, probeEvent 5 2, probeEvent 5 4]

theorem traceRun_probe : TraceRun OpenFlowJ.documented (probe 5) probeRun where
  readable := probe_readable 5
  only := by decide +kernel
  switches env info hmem := by
    have hinfo : info = SwitchInfo.new OpenFlowJ.documented := by
      simp only [probeRun, probeEvent, List.mem_cons, Event.packetIn.injEq, List.not_mem_nil,
        reduceCtorEq, or_false, false_or] at hmem
      tauto
    subst hinfo
    exact ⟨⟨0, 0, 0, 0, rfl⟩, show JString.empty.Ascii by decide, by decide⟩
  atMost := List.countP_le_length.trans (by decide)

theorem repliesTo_probe :
    repliesTo OpenFlowJ.documented (probe 5) probeRun =
      [(probeReply 0 0).pkt, (probeReply 1 2).pkt, (probeReply 2 4).pkt] := by
  decide +kernel

/-- A frame of the trace type with this packet. -/
def frameOf (r : WirePacket) : Capture := ⟨⟨.ethernet 0x8220, r.data⟩, ⟨0, 0⟩⟩

/-- The last reply overtakes the first and is captured twice; the one between them is lost. -/
def probeCapture : List Capture :=
  [frameOf (probeReply 2 4), frameOf (probeReply 0 0), frameOf (probeReply 2 4)]

example : (repliesTo OpenFlowJ.documented (probe 5) probeRun).filter (captured probeCapture) =
    [(probeReply 0 0).pkt, (probeReply 2 4).pkt] := by decide +kernel

theorem probe_reported :
    (repliesTo OpenFlowJ.documented (probe 5) probeRun).length =
        probeRun.countP (Event.Carries (probe 5)) ∧
      (repliesTo OpenFlowJ.documented (probe 5) probeRun).Nodup ∧
      List.Forall₂ (Shows 0)
        ((repliesTo OpenFlowJ.documented (probe 5) probeRun).filter (captured probeCapture))
        (capture OpenFlowJ.documented 0 probeCapture).report :=
  report_repliesTo OpenFlowJ.documented_faithful (probe 5) probeRun traceRun_probe 0 probeCapture
    (by
      rw [repliesTo_probe]
      intro f hf
      simp only [probeCapture, List.mem_cons, List.not_mem_nil, or_false] at hf
      rcases hf with rfl | rfl | rfl
      · exact ⟨rfl, _, by simp, (probeReply 2 4).serialize_eq⟩
      · exact ⟨rfl, _, by simp, (probeReply 0 0).serialize_eq⟩
      · exact ⟨rfl, _, by simp, (probeReply 2 4).serialize_eq⟩)

end JSdnTrace
