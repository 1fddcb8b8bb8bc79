/-
  Where the reply to a request is sent. `HandleTrace` looks the port up with the `MacAddress`
  of the host in a table keyed by `Long`, finds nothing, and floods the reply on the switch the
  request came in on, whatever the map says.

  * `sendsReply_step_iff`: the reply to a well-formed packet, when the packet is read, is flooded.
  * `routesReply_iff`: in which states that is what the map asks for.
-/
import JSdnTrace.PortStatus
import JSdnTrace.WirePacket

namespace JSdnTrace

open Java TraceAppController

/-- From `w` to `w'` one reply to `request` is sent on `dpid` out of `port`. -/
def SendsReply (w w' : World) (dpid : JLong) (port : OFPort) (request : TracePacket) : Prop :=
  ∃ s, w'.sent = w.sent ++ [s] ∧ s.dpid = dpid ∧ s.port = port ∧
    s.pkt.destinationMAC = request.sourceMAC ∧ s.pkt.sourceMAC = request.destinationMAC ∧
    s.pkt.request = false

/-- The reply goes out of the port that the map has for the source of the request, when the
    source is on one switch, and is flooded on the switch of `info` when it is on none. -/
structure RoutesReply (ofj : OpenFlowJ) (w w' : World) (request : TracePacket)
    (info : SwitchInfo) : Prop where
  known : ∀ mac dpid q, request.sourceMAC = some mac →
    registeredPort w.app.netMap dpid mac.getLong = some q →
    (∀ dpid', OnSwitch w.app.netMap dpid' mac.getLong → dpid' = dpid) →
      ∃ port, ofj.portOf q = .ok port ∧ SendsReply w w' dpid port request
  unknown : ∀ mac, request.sourceMAC = some mac →
    (∀ dpid, ¬ OnSwitch w.app.netMap dpid mac.getLong) →
      SendsReply w w' info.dpid.getLong ofj.portFlood request

variable {ofj : OpenFlowJ}

/-- Of a host on two switches nothing is asked. -/
theorem routesReply_of_ne {w : World} (w' : World) {request : TracePacket} (info : SwitchInfo)
    {mac : MacAddress} (hs : request.sourceMAC = some mac) {dpid dpid' : JLong}
    (hne : dpid ≠ dpid') (hon : OnSwitch w.app.netMap dpid mac.getLong)
    (hon' : OnSwitch w.app.netMap dpid' mac.getLong) : RoutesReply ofj w w' request info where
  known m d q hm _ hone := by
    cases hs.symm.trans hm
    exact absurd ((hone dpid hon).trans (hone dpid' hon').symm) hne
  unknown m hm hnone := by
    cases hs.symm.trans hm
    exact absurd hon (hnone dpid)

variable (hof : ofj.Faithful)

include hof

/-- The reply is flooded, when the packet can be read. -/
theorem sendsReply_step_iff (w : World) (env : Env) (r : WirePacket) (info : SwitchInfo)
    (dpid : JLong) (port : OFPort) :
    SendsReply w (step ofj w (.packetIn env r.data info)) dpid port r.pkt ↔
      r.Readable ofj ∧ dpid = info.dpid.getLong ∧ port = ofj.portFlood := by
  rw [step_packetIn]
  by_cases hr : r.Readable ofj
  · obtain ⟨sw, hsw⟩ := r.parse_wirePacket env.packet hof hr
    rw [hsw]
    refine ⟨fun hsends => ?_, fun hflood => ?_⟩
    · obtain ⟨s, hs, rfl, rfl, -⟩ := hsends
      have hlast := List.append_cancel_left hs
      obtain rfl := (List.singleton_inj.mp hlast).symm
      exact ⟨hr, rfl, rfl⟩
    · obtain ⟨-, rfl, rfl⟩ := hflood
      exact ⟨_, rfl, rfl, rfl, rfl, rfl, rfl⟩
  · obtain ⟨e, hparse⟩ := r.parse_of_not_readable env.packet hr
    rw [hparse]
    refine iff_of_false (fun hsends => ?_) fun h => hr h.1
    obtain ⟨s, hs, -⟩ := hsends
    have hlen := congrArg List.length hs
    exact absurd hlen (by simp)

/-- The reply goes where the map says when the host is on several switches, where the map says
    nothing, or the packet is read and the map has no other place for it than the flood. -/
theorem routesReply_iff (es : List Event) (env : Env) (r : WirePacket) (info : SwitchInfo)
    (mac : MacAddress) (hs : r.pkt.sourceMAC = some mac) :
    RoutesReply ofj (reached ofj es) (step ofj (reached ofj es) (.packetIn env r.data info)) r.pkt
        info ↔
      (∃ dpid dpid', dpid ≠ dpid' ∧ OnSwitch (reached ofj es).app.netMap dpid mac.getLong ∧
        OnSwitch (reached ofj es).app.netMap dpid' mac.getLong) ∨
      (r.Readable ofj ∧ ∀ dpid q,
        registeredPort (reached ofj es).app.netMap dpid mac.getLong = some q →
          dpid = info.dpid.getLong ∧ ofj.portOf q = .ok ofj.portFlood) := by
  generalize reached ofj es = w
  by_cases hmany : ∃ dpid dpid', dpid ≠ dpid' ∧ OnSwitch w.app.netMap dpid mac.getLong ∧
      OnSwitch w.app.netMap dpid' mac.getLong
  · refine iff_of_true ?_ (Or.inl hmany)
    obtain ⟨dpid, dpid', hne, hon, hon'⟩ := hmany
    exact routesReply_of_ne _ info hs hne hon hon'
  · rw [or_iff_right hmany]
    push Not at hmany
    refine ⟨fun hroutes => ?_, fun hcond => ?_⟩
    · obtain ⟨hknown, hunknown⟩ := hroutes
      have hroute : ∀ dpid q, registeredPort w.app.netMap dpid mac.getLong = some q →
          r.Readable ofj ∧ dpid = info.dpid.getLong ∧ ofj.portOf q = .ok ofj.portFlood := by
        intro dpid q hq
        have hon : OnSwitch w.app.netMap dpid mac.getLong := onSwitch_iff.mpr ⟨q, hq⟩
        obtain ⟨port, hport, hsends⟩ := hknown mac dpid q hs hq fun dpid' hon' =>
          by_contra fun hne => hmany dpid' dpid hne hon' hon
        obtain ⟨hr, hdpid, rfl⟩ := (sendsReply_step_iff hof w env r info _ _).mp hsends
        exact ⟨hr, hdpid, hport⟩
      refine ⟨?_, fun dpid q hq => (hroute dpid q hq).2⟩
      by_cases hnone : ∀ dpid, ¬ OnSwitch w.app.netMap dpid mac.getLong
      · exact ((sendsReply_step_iff hof w env r info _ _).mp (hunknown mac hs hnone)).1
      · push Not at hnone
        obtain ⟨dpid, hon⟩ := hnone
        obtain ⟨q, hq⟩ := onSwitch_iff.mp hon
        exact (hroute dpid q hq).1
    · obtain ⟨hr, hroute⟩ := hcond
      refine ⟨fun m dpid q hm hq _ => ?_, fun _ _ _ => ?_⟩
      · cases hs.symm.trans hm
        obtain ⟨rfl, hport⟩ := hroute dpid q hq
        exact ⟨_, hport, (sendsReply_step_iff hof w env r info _ _).mpr ⟨hr, rfl, rfl⟩⟩
      · exact (sendsReply_step_iff hof w env r info _ _).mpr ⟨hr, rfl, rfl⟩

omit hof

/-- Host 2 is registered on the switch its probe comes in on, on a port of the number of the flood
    port. -/
theorem probe_routesReply :
    RoutesReply OpenFlowJ.documented
      (reached OpenFlowJ.documented [.onPortStatusChange 0 0xFFFFFFFB 2])
      (step OpenFlowJ.documented
        (reached OpenFlowJ.documented [.onPortStatusChange 0 0xFFFFFFFB 2])
        (.packetIn (Env.accepting 7 0) (probe 5).data (SwitchInfo.new OpenFlowJ.documented)))
      (probe 5).pkt (SwitchInfo.new OpenFlowJ.documented) :=
  (routesReply_iff OpenFlowJ.documented_faithful [.onPortStatusChange 0 0xFFFFFFFB 2]
    (Env.accepting 7 0) (probe 5) (SwitchInfo.new OpenFlowJ.documented) ⟨2⟩ rfl).mpr (Or.inr (by
    refine ⟨probe_readable 5, fun dpid q hq => ?_⟩
    have hreg := registeredPort_tables OpenFlowJ.documented [] ⟨0, 0xFFFFFFFB, 2⟩ dpid 2
    have hq' := hreg.symm.trans hq
    obtain ⟨⟨rfl, -⟩, hport⟩ := Option.ite_none_right_eq_some.mp hq'
    obtain rfl := Option.some_inj.mp hport
    exact ⟨rfl, rfl⟩))

/-- Host 2 is known on port 3 of switch 1, and its reply is flooded on switch 0 all the same. -/
theorem knownHost_not_routed :
    ¬ RoutesReply OpenFlowJ.documented
      (reached OpenFlowJ.documented [.onPortStatusChange 1 3 2])
      (step OpenFlowJ.documented (reached OpenFlowJ.documented [.onPortStatusChange 1 3 2])
        (.packetIn (Env.accepting 7 0) (probe 5).data (SwitchInfo.new OpenFlowJ.documented)))
      (probe 5).pkt (SwitchInfo.new OpenFlowJ.documented) := by
  intro h
  have hreg : ∀ dpid, registeredPort
      (reached OpenFlowJ.documented [.onPortStatusChange 1 3 2]).app.netMap dpid 2 =
        if 1 = dpid ∧ (2 : JLong) = 2 then some 3 else none :=
    fun dpid => registeredPort_tables OpenFlowJ.documented [] ⟨1, 3, 2⟩ dpid 2
  have hone : ∀ dpid, OnSwitch
      (reached OpenFlowJ.documented [.onPortStatusChange 1 3 2]).app.netMap dpid 2 → dpid = 1 := by
    intro dpid hon
    obtain ⟨p, hp⟩ := onSwitch_iff.mp hon
    by_contra hne
    rw [hreg, if_neg fun hd => hne hd.1.symm] at hp
    cases hp
  obtain ⟨port, -, hsends⟩ := h.known ⟨2⟩ 1 3 rfl (by rw [hreg]; rfl) hone
  obtain ⟨-, hdpid, -⟩ := (sendsReply_step_iff OpenFlowJ.documented_faithful _ _ _ _ _ _).mp hsends
  exact absurd (show (1 : JLong) = 0 from hdpid) (by decide)

end JSdnTrace
