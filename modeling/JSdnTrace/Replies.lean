/-
  Which packets the controller answers, with what, and how often.

  * `sent_requests`: in a run whose packet-ins all carry well-formed packets, one reply for
    each, in order, numbered by the earlier packet-ins of its probe. `replies_numbered` says
    it reply by reply.
  * `storm_free_iff`: a packet of the reply type is answered like any other, so the calls are
    bounded by the requests exactly in the runs that are given no reply back.
  * `attributable_iff`: a reply carries an id of its own, so it can be attributed exactly when
    the id that was drawn for it is the id of the probe.
-/
import JSdnTrace.WirePacket

namespace JSdnTrace

open Java Lib TraceAppController

/-! ## Runs over well-formed packets -/

/-- A packet-in of a packet short enough for its length byte, whose switch id ends in the number of
    a port. -/
structure Request (ofj : OpenFlowJ) where
  env : Env
  wire : WirePacket
  info : SwitchInfo
  readable : wire.Readable ofj

/-- An event whose packet-in, if it is one, carries a well-formed packet. -/
inductive Input (ofj : OpenFlowJ) where
  | switchInfoReceived (network : INetwork) (dpid : JLong) (mp : List PortMacPair)
  | onPortStatusChange (dpid : JLong) (portNum : JInt) (mac : JLong)
  | packetIn (q : Request ofj)

section Runs

variable {ofj : OpenFlowJ}

def Input.toEvent : Input ofj → Event
  | switchInfoReceived network dpid mp => .switchInfoReceived network dpid mp
  | onPortStatusChange dpid portNum mac => .onPortStatusChange dpid portNum mac
  | packetIn q => .packetIn q.env q.wire.data q.info

def Input.request : Input ofj → Option (Request ofj)
  | packetIn q => some q
  | _ => none

/-- The packet-ins of a run, in order. -/
def requests (is : List (Input ofj)) : List (Request ofj) := is.filterMap Input.request

/-- The earlier packet-ins of the probe. -/
def earlier (past : List (Request ofj)) (probeId : JLong) : Nat :=
  past.countP fun q => q.wire.pkt.probeId = probeId

theorem earlier_concat (past : List (Request ofj)) (q : Request ofj) (probeId : JLong) :
    earlier (past ++ [q]) probeId =
      if q.wire.pkt.probeId = probeId then earlier past probeId + 1 else earlier past probeId := by
  unfold earlier
  rw [List.countP_append, List.countP_singleton]
  by_cases h : q.wire.pkt.probeId = probeId <;> simp [h]

/-- The call that answers `q` after `past`. -/
def Request.reply (past : List (Request ofj)) (q : Request ofj) : Sent :=
  let pkt := replyPacket q.env.flooded q.wire.pkt q.info
    (BitVec.ofNat 8 (earlier past q.wire.pkt.probeId))
  ⟨q.info.dpid.getLong, pkt, ofj.portFlood,
    q.env.network.sendTracePacket q.info.dpid.getLong pkt ofj.portFlood⟩

end Runs

section Numbering

variable {ofj : OpenFlowJ} (hof : ofj.Faithful)

theorem requests_concat (is : List (Input ofj)) (i : Input ofj) :
    requests (is ++ [i]) = requests is ++ i.request.toList := by
  unfold requests
  rw [List.filterMap_append]
  cases h : i.request <;> simp [h]

theorem packetIn_of_request {i : Input ofj} {q : Request ofj} (h : i.request = some q) :
    i = .packetIn q := by
  cases i with
  | packetIn q' =>
    cases h
    rfl
  | switchInfoReceived network dpid mp => cases h
  | onPortStatusChange dpid portNum mac => cases h

theorem reliable_of_mem_requests {is : List (Input ofj)} (h : ∀ i ∈ is, i.toEvent.Reliable)
    {q : Request ofj} (hq : q ∈ requests is) : q.env.network.Reliable := by
  obtain ⟨i, hi, hiq⟩ := List.mem_filterMap.mp hq
  obtain rfl := packetIn_of_request hiq
  exact h _ hi

/-- The events without a packet send nothing. -/
theorem sends_of_request_none {i : Input ofj} (h : i.request = none) (n : JLong → Nat) :
    i.toEvent.packet ofj = none ∧ i.toEvent.sends ofj n = [] := by
  cases i with
  | packetIn q => cases h
  | switchInfoReceived network dpid mp => exact ⟨rfl, rfl⟩
  | onPortStatusChange dpid portNum mac => exact ⟨rfl, rfl⟩

include hof

theorem sends_packetIn (past : List (Request ofj)) (q : Request ofj) :
    (Input.packetIn q).toEvent.sends ofj (earlier past) = [q.reply past] :=
  q.wire.sends_wirePacket hof q.readable q.env q.info (earlier past)

theorem probeCount_toEvent (is : List (Input ofj)) (probeId : JLong) :
    probeCount ofj (is.map Input.toEvent) probeId = earlier (requests is) probeId := by
  induction is using List.reverseRecOn with
  | nil => rfl
  | append_singleton is i ih =>
    rw [List.map_append, List.map_singleton, probeCount_concat, ih, requests_concat]
    cases hi : i.request with
    | none =>
      rw [if_neg (Event.not_ofProbe_of_none (sends_of_request_none hi fun _ => 0).1)]
      exact congrArg (earlier · probeId) (List.append_nil _).symm
    | some q =>
      obtain rfl := packetIn_of_request hi
      rw [Option.toList_some, earlier_concat]
      exact if_congr (q.wire.ofProbe_wirePacket hof q.readable q.env q.info probeId) rfl rfl

/-- One call for each packet-in, numbered by the earlier packet-ins of its probe. -/
theorem sent_requests (is : List (Input ofj)) :
    (reached ofj (is.map Input.toEvent)).sent =
      mapHistory Request.reply [] (requests is) := by
  induction is using List.reverseRecOn with
  | nil => rfl
  | append_singleton is i ih =>
    have hn : probeCount ofj (is.map Input.toEvent) = earlier (requests is) :=
      funext (probeCount_toEvent hof is)
    rw [List.map_append, List.map_singleton, reached_concat,
      sent_step ofj (nextHop_reached ofj _), hn, ih, requests_concat]
    cases hi : i.request with
    | none =>
      rw [(sends_of_request_none hi _).2, Option.toList_none, List.append_nil, List.append_nil]
    | some q =>
      obtain rfl := packetIn_of_request hi
      rw [sends_packetIn hof, Option.toList_some, mapHistory_concat, List.nil_append]

/-- Reply by reply: who it goes to, what it carries and its number. -/
theorem replies_numbered (is : List (Input ofj)) (hrel : ∀ i ∈ is, i.toEvent.Reliable) :
    (reached ofj (is.map Input.toEvent)).sent.length = (requests is).length ∧
      ∀ k q, (requests is)[k]? = some q →
        ∃ s, (reached ofj (is.map Input.toEvent)).sent[k]? = some s ∧
          s.result = .ok () ∧
          s.pkt.destinationMAC = q.wire.pkt.sourceMAC ∧
          s.pkt.sourceMAC = q.wire.pkt.destinationMAC ∧
          s.pkt.request = false ∧
          s.pkt.swInfo = q.info ∧
          s.pkt.hop = BitVec.ofNat 8 (earlier ((requests is).take k) q.wire.pkt.probeId) := by
  rw [sent_requests hof]
  refine ⟨length_mapHistory _ _ _, fun k q hk => ?_⟩
  refine ⟨q.reply ((requests is).take k), ?_, ?_, rfl, rfl, rfl, rfl, rfl⟩
  · rw [getElem?_mapHistory, hk]
    rfl
  · exact (reliable_of_mem_requests hrel (List.mem_of_getElem? hk)).sendTracePacket _ _ _

end Numbering

/-- The probe `probeId` arrives at a switch with default settings; every id drawn is 7. -/
def probeRequest (probeId : JLong) : Request OpenFlowJ.documented where
  env := Env.accepting 7 0
  wire := probe probeId
  info := SwitchInfo.new OpenFlowJ.documented
  readable := probe_readable probeId

/-- Two probes, in turns, while a host is found. -/
def probeRequests : List (Input OpenFlowJ.documented) :=
  [.packetIn (probeRequest 5), .packetIn (probeRequest 6), .onPortStatusChange 1 3 2,
    .packetIn (probeRequest 5)]

theorem probeRequest_replied :
    (reached OpenFlowJ.documented (probeRequests.map Input.toEvent)).sent.length = 3 ∧
      ∀ k q, (requests probeRequests)[k]? = some q →
        ∃ s, (reached OpenFlowJ.documented (probeRequests.map Input.toEvent)).sent[k]? = some s ∧
          s.result = .ok () ∧
          s.pkt.destinationMAC = q.wire.pkt.sourceMAC ∧
          s.pkt.sourceMAC = q.wire.pkt.destinationMAC ∧
          s.pkt.request = false ∧
          s.pkt.swInfo = q.info ∧
          s.pkt.hop =
            BitVec.ofNat 8 (earlier ((requests probeRequests).take k) q.wire.pkt.probeId) :=
  replies_numbered OpenFlowJ.documented_faithful probeRequests (by
    intro i hi
    simp only [probeRequests, List.mem_cons, List.not_mem_nil, or_false] at hi
    rcases hi with rfl | rfl | rfl | rfl
    · exact INetwork.accepting_reliable
    · exact INetwork.accepting_reliable
    · exact trivial
    · exact INetwork.accepting_reliable)

/-! ## Replies that come back -/

namespace Event

/-- A packet-in of a packet with the request flag. -/
def isRequest (ofj : OpenFlowJ) (e : Event) : Bool := (e.packet ofj).any (·.request)

/-- A packet-in of a packet of the reply type. -/
def isReply (ofj : OpenFlowJ) (e : Event) : Bool := (e.packet ofj).any (!·.request)

theorem length_sends (ofj : OpenFlowJ) (n : JLong → Nat) (e : Event) :
    (e.sends ofj n).length = if (e.packet ofj).isSome then 1 else 0 := by
  cases e with
  | switchInfoReceived network dpid mp => rfl
  | onPortStatusChange dpid portNum mac => rfl
  | packetIn env data info =>
    rw [sends, packet]
    cases parse ofj env.packet data <;> rfl

theorem isSome_packet {ofj : OpenFlowJ} {e : Event} (h : e.isReply ofj = false) :
    (e.packet ofj).isSome = e.isRequest ofj := by
  unfold isReply at h
  unfold isRequest
  cases hp : e.packet ofj with
  | none => rfl
  | some p =>
    rw [hp] at h
    simpa using h

end Event

section Storm

variable (ofj : OpenFlowJ)

/-- The calls made never exceed the requests received, and a packet of the reply type leaves
    the controller as it was. -/
def StormFree (pre : List Event) (e : Event) : Prop :=
  (reached ofj (pre ++ [e])).sent.length ≤ (pre ++ [e]).countP (Event.isRequest ofj) ∧
    (e.isReply ofj → (reached ofj (pre ++ [e])).app = (reached ofj pre).app)

/-- An answered packet is never one that changes nothing: its counter has moved. -/
theorem app_step_ne {e : Event} {p : TracePacket} (h : e.packet ofj = some p) (w : World) :
    (step ofj w e).app ≠ w.app := by
  intro happ
  have hnext := nextHop_step ofj w e p.probeId
  rw [happ, if_pos ((Event.ofProbe_iff_of_some h).mpr rfl)] at hnext
  bv_omega

theorem length_sent_concat (pre : List Event) (e : Event) :
    (reached ofj (pre ++ [e])).sent.length =
      (reached ofj pre).sent.length + if (e.packet ofj).isSome then 1 else 0 := by
  rw [reached_concat, sent_step ofj (nextHop_reached ofj pre), List.length_append,
    Event.length_sends]

/-- One call for each request so far. -/
def OnePerRequest (pre : List Event) : Prop :=
  (reached ofj pre).sent.length = pre.countP (Event.isRequest ofj)

theorem onePerRequest_concat {pre : List Event} {e : Event} (h : OnePerRequest ofj pre)
    (he : e.isReply ofj = false) : OnePerRequest ofj (pre ++ [e]) := by
  unfold OnePerRequest at *
  rw [length_sent_concat, h, Event.isSome_packet he, List.countP_append, List.countP_singleton]

theorem stormFree_iff {pre : List Event} {e : Event} (h : OnePerRequest ofj pre) :
    StormFree ofj pre e ↔ e.isReply ofj = false := by
  refine ⟨fun h => ?_, fun he => ?_⟩
  · obtain ⟨-, hsame⟩ := h
    by_contra hreply
    rw [Bool.not_eq_false] at hreply
    have happ := hsame hreply
    rw [reached_concat] at happ
    obtain ⟨p, hp, -⟩ := Option.any_eq_true _ _ |>.mp hreply
    exact app_step_ne ofj hp _ happ
  · refine ⟨(onePerRequest_concat ofj h he).le, fun hreply => ?_⟩
    rw [he] at hreply
    exact absurd hreply (by decide)

/-- A run is free of storms exactly when no reply is given back to it. -/
theorem storm_free_iff (es : List Event) :
    EachStep (StormFree ofj) es ↔ ∀ e ∈ es, e.isReply ofj = false := by
  rw [← eachStep_mem]
  exact eachStep_iff (I := OnePerRequest ofj) rfl (fun _ _ h he => onePerRequest_concat ofj h he)
    (fun _ _ h => stormFree_iff ofj h) es

theorem isRequest_packetIn {ofj : OpenFlowJ} (hof : ofj.Faithful) (q : Request ofj) :
    (Input.packetIn q).toEvent.isRequest ofj = q.wire.pkt.request := by
  obtain ⟨sw, hsw⟩ := q.wire.packet_wirePacket hof q.readable q.env q.info
  unfold Event.isRequest
  rw [Input.toEvent, hsw]
  rfl

end Storm

/-- The reply to `probeRequest 5`, flooded back into the controller. -/
def returnedReply : Request OpenFlowJ.documented where
  env := Env.accepting 7 0
  wire := probeReply 0 0
  info := SwitchInfo.new OpenFlowJ.documented
  readable :=
    { length := WirePacket.lengthReadable_of_le (by
        rw [WirePacket.length_data]
        show TracePacket.packSize + 2 * 0 ≤ 127
        decide)
      port := (probe_readable 5).port }

/-- The controller answers its own reply. -/
theorem returnedReply_storms :
    (reached OpenFlowJ.documented ([Input.packetIn (probeRequest 5)].map Input.toEvent)).sent.map
        (·.pkt) = [returnedReply.wire.pkt] ∧
      ¬ EachStep (StormFree OpenFlowJ.documented)
        ([Input.packetIn (probeRequest 5), .packetIn returnedReply].map Input.toEvent) := by
  refine ⟨?_, fun h => ?_⟩
  · rw [sent_requests OpenFlowJ.documented_faithful]
    rfl
  · obtain ⟨hle, -⟩ := h [(Input.packetIn (probeRequest 5)).toEvent]
      (Input.packetIn returnedReply).toEvent [] rfl
    have hsent := sent_requests OpenFlowJ.documented_faithful
      [.packetIn (probeRequest 5), .packetIn returnedReply]
    have hlen := congrArg List.length hsent
    rw [length_mapHistory] at hlen
    have hcount : [(Input.packetIn (probeRequest 5)).toEvent,
        (Input.packetIn returnedReply).toEvent].countP
          (Event.isRequest OpenFlowJ.documented) = 1 := by
      rw [List.countP_cons, List.countP_singleton,
        isRequest_packetIn OpenFlowJ.documented_faithful,
        isRequest_packetIn OpenFlowJ.documented_faithful]
      rfl
    have htwo : (requests [.packetIn (probeRequest 5), .packetIn returnedReply]).length ≤ 1 := by
      rw [← hlen, ← hcount]
      exact hle
    exact absurd htwo (by decide)

/-! ## Whose reply it is -/

section Attribution

variable (ofj : OpenFlowJ)

/-- In the run `es` the packet `p` was read and answered by the call `s`. -/
def Answered (es : List Event) (p : TracePacket) (s : Sent) : Prop :=
  ∃ pre e post, es = pre ++ e :: post ∧ e.packet ofj = some p ∧
    (reached ofj (pre ++ [e])).sent = (reached ofj pre).sent ++ [s]

/-- `reply` is what `ConvertToReply` makes of `request`, up to the fields it does not set. -/
def LikeConvertToReply (request reply : TracePacket) : Prop :=
  ∃ r, request.convertToReply = some r ∧ reply.destinationMAC = r.destinationMAC ∧
    reply.sourceMAC = r.sourceMAC ∧ reply.request = r.request ∧ reply.probeId = r.probeId

/-- Every reply to a request is like `ConvertToReply`, and replies to requests of different
    probes carry different ids. -/
structure Attributable (es : List Event) : Prop where
  like : ∀ p s, Answered ofj es p s → p.request = true → LikeConvertToReply p s.pkt
  apart : ∀ p s p' s', Answered ofj es p s → Answered ofj es p' s' → p.request = true →
    p'.request = true → p.probeId ≠ p'.probeId → s.pkt.probeId ≠ s'.pkt.probeId

theorem answered_iff {es : List Event} {p : TracePacket} {s : Sent} :
    Answered ofj es p s ↔ ∃ pre env data info post,
      es = pre ++ .packetIn env data info :: post ∧ parse ofj env.packet data = .ok p ∧
        s = floodedReply ofj (reached ofj pre) env p info := by
  refine ⟨fun h => ?_, fun h => ?_⟩
  · obtain ⟨pre, e, post, hes, hp, hs⟩ := h
    obtain ⟨env, data, info, rfl, hparse⟩ := Event.packet_eq_some.mp hp
    refine ⟨pre, env, data, info, post, hes, hparse, ?_⟩
    rw [reached_concat, step_packetIn, hparse] at hs
    have hlast := List.append_cancel_left hs
    exact (List.singleton_inj.mp hlast).symm
  · obtain ⟨pre, env, data, info, post, hes, hparse, rfl⟩ := h
    have hpacket := Event.packet_eq_some.mpr ⟨env, data, info, rfl, hparse⟩
    refine ⟨pre, .packetIn env data info, post, hes, hpacket, ?_⟩
    rw [reached_concat, step_packetIn, hparse]
    rfl

/-- Only the id can differ from `ConvertToReply`. -/
theorem likeConvertToReply_iff (w : World) (env : Env) {p : TracePacket} (info : SwitchInfo)
    (hp : p.request = true) :
    LikeConvertToReply p (floodedReply ofj w env p info).pkt ↔
      env.flooded.created.nextLong = p.probeId := by
  have hconvert : p.convertToReply = some { p with
      request := false
      sourceMAC := p.destinationMAC
      destinationMAC := p.sourceMAC } := by
    rw [TracePacket.convertToReply, hp, if_neg (by decide)]
  refine ⟨fun h => ?_, fun hid => ⟨_, hconvert, rfl, rfl, rfl, hid⟩⟩
  obtain ⟨r, hr, -, -, -, hid⟩ := h
  have heq := Option.some_inj.mp (hconvert.symm.trans hr)
  rw [← heq] at hid
  exact hid

/-- The replies of a run can be attributed exactly when the id drawn for each is its probe's. -/
theorem attributable_iff (es : List Event) :
    Attributable ofj es ↔ ∀ env data info p, .packetIn env data info ∈ es →
      parse ofj env.packet data = .ok p → p.request = true →
        env.flooded.created.nextLong = p.probeId := by
  refine ⟨fun h env data info p hmem hparse hp => ?_, fun hdrawn => ?_⟩
  · obtain ⟨pre, post, hes⟩ := List.append_of_mem hmem
    have hanswered := (answered_iff ofj).mpr ⟨pre, env, data, info, post, hes, hparse, rfl⟩
    exact (likeConvertToReply_iff ofj _ env info hp).mp (h.like p _ hanswered hp)
  · have hid : ∀ p s, Answered ofj es p s → p.request = true → LikeConvertToReply p s.pkt ∧
        s.pkt.probeId = p.probeId := by
      intro p s hanswered hp
      obtain ⟨pre, env, data, info, post, rfl, hparse, rfl⟩ := (answered_iff ofj).mp hanswered
      have h := hdrawn env data info p (by simp) hparse hp
      exact ⟨(likeConvertToReply_iff ofj _ env info hp).mpr h, h⟩
    refine ⟨fun p s h hp => (hid p s h hp).1, fun p s p' s' h h' hp hp' hne heq => ?_⟩
    rw [(hid p s h hp).2, (hid p' s' h' hp').2] at heq
    exact hne heq

end Attribution

/-- The reply to the probe 5 carries the id 7. -/
theorem probeRequest_not_attributable :
    ¬ Attributable OpenFlowJ.documented [(Input.packetIn (probeRequest 5)).toEvent] := by
  intro h
  obtain ⟨sw, hsw⟩ := (probe 5).parse_wirePacket ⟨7, 0⟩ OpenFlowJ.documented_faithful
    (probe_readable 5)
  have hanswered := (answered_iff OpenFlowJ.documented).mpr
    ⟨[], Env.accepting 7 0, (probe 5).data, SwitchInfo.new OpenFlowJ.documented, [], rfl, hsw, rfl⟩
  have hid := (likeConvertToReply_iff OpenFlowJ.documented _ _ _ rfl).mp
    (h.like _ _ hanswered rfl)
  exact absurd (show (7 : JLong) = 5 from hid) (by decide)

end JSdnTrace
