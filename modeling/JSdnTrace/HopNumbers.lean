/-
  The order of the replies. The client sorts them by `compareTo`, which compares the hops as
  signed bytes, and the controller numbers them with a byte that wraps.

  * `hop_sentBy`: the number of a reply counts the packet-ins of its probe before it.
  * `hopsIncrease_iff`: the replies to the requests of a probe increase exactly when their
    counts do, seen as signed bytes. With nothing but requests in a run, a probe may be
    answered 128 times.
-/
import JSdnTrace.EndToEnd
import JSdnTrace.NetworkFailure

namespace JSdnTrace

open Java Lib TraceAppController TraceClient

section HopNumbers

variable (ofj : OpenFlowJ)

/-- After `pre` the run gives a request of the probe to `PacketIn`. -/
def RequestAt (es : List Event) (probeId : JLong) (pre : List Event) (e : Event) : Prop :=
  ∃ post p, es = pre ++ e :: post ∧ e.packet ofj = some p ∧ p.probeId = probeId ∧
    p.request = true

/-- The replies to any two requests of a probe: the later one is greater for the client. -/
def HopsIncrease (es : List Event) : Prop :=
  ∀ probeId pre e pre' e', RequestAt ofj es probeId pre e → RequestAt ofj es probeId pre' e' →
    pre.length < pre'.length →
    ∀ s ∈ sentBy ofj pre e, ∀ s' ∈ sentBy ofj pre' e', 0 < s'.pkt.compareTo s.pkt

variable {ofj}

theorem RequestAt.ofProbe {es pre : List Event} {probeId : JLong} {e : Event}
    (h : RequestAt ofj es probeId pre e) : e.OfProbe ofj probeId := by
  obtain ⟨post, p, -, hp, hprobe, -⟩ := h
  exact (Event.ofProbe_iff_of_some hp).mpr hprobe

/-- A request gets one reply, with the number of its turn. -/
theorem hop_sentBy {es pre : List Event} {probeId : JLong} {e : Event}
    (h : RequestAt ofj es probeId pre e) :
    (sentBy ofj pre e).map (·.pkt.hop) = [BitVec.ofNat 8 (probeCount ofj pre probeId)] := by
  rw [sentBy_eq]
  exact hop_sends ofj h.ofProbe _

/-- The order of two numbers for the client. -/
theorem zero_lt_compareTo {a b : TracePacket} {m n : Nat} (ha : a.hop = BitVec.ofNat 8 m)
    (hb : b.hop = BitVec.ofNat 8 n) :
    0 < b.compareTo a ↔ (m + 128) % 256 < (n + 128) % 256 := by
  rw [← not_le, compareTo_le_zero, ha, hb, toInt_ofNat, toInt_ofNat]
  omega

theorem zero_lt_compareTo_replies {es pre pre' : List Event} {probeId : JLong} {e e' : Event}
    (h : RequestAt ofj es probeId pre e) (h' : RequestAt ofj es probeId pre' e') :
    (∀ s ∈ sentBy ofj pre e, ∀ s' ∈ sentBy ofj pre' e', 0 < s'.pkt.compareTo s.pkt) ↔
      (probeCount ofj pre probeId + 128) % 256 < (probeCount ofj pre' probeId + 128) % 256 := by
  obtain ⟨s, hs, hhop⟩ := List.map_eq_singleton_iff.mp (hop_sentBy h)
  obtain ⟨s', hs', hhop'⟩ := List.map_eq_singleton_iff.mp (hop_sentBy h')
  rw [hs, hs']
  simp only [List.mem_singleton, forall_eq]
  exact zero_lt_compareTo hhop hhop'

variable (ofj)

/-- Of any two requests of a probe the later one has the larger signed count before it. -/
def CountsIncrease (es : List Event) : Prop :=
  ∀ probeId pre e pre' e', RequestAt ofj es probeId pre e → RequestAt ofj es probeId pre' e' →
    pre.length < pre'.length →
    (probeCount ofj pre probeId + 128) % 256 < (probeCount ofj pre' probeId + 128) % 256

theorem hopsIncrease_iff_counts (es : List Event) :
    HopsIncrease ofj es ↔ CountsIncrease ofj es := by
  refine forall_congr' fun probeId => forall_congr' fun pre => forall_congr' fun e =>
    forall_congr' fun pre' => forall_congr' fun e' => ?_
  refine forall_congr' fun h => forall_congr' fun h' => forall_congr' fun _ => ?_
  exact zero_lt_compareTo_replies h h'

/-! ## Runs of requests -/

/-- Only requests are given to `PacketIn`. -/
def OnlyRequests (es : List Event) : Prop :=
  ∀ e ∈ es, ∀ p, e.packet ofj = some p → p.request = true

theorem probeCount_le_of_prefix {pre es : List Event} (h : pre <+: es) (probeId : JLong) :
    probeCount ofj pre probeId ≤ probeCount ofj es probeId :=
  h.sublist.countP_le

variable {ofj}

/-- A request takes its turn before every later event. -/
theorem probeCount_lt {es pre pre' : List Event} {probeId : JLong} {e : Event}
    (h : RequestAt ofj es probeId pre e) (hpre' : pre' <+: es) (hlt : pre.length < pre'.length) :
    probeCount ofj pre probeId < probeCount ofj pre' probeId := by
  have hcount := probeCount_concat ofj pre e probeId
  rw [if_pos h.ofProbe] at hcount
  obtain ⟨post, p, hes, -⟩ := h
  have hpre : pre ++ [e] <+: es := ⟨post, by rw [hes, List.append_assoc]; rfl⟩
  have hle := probeCount_le_of_prefix ofj
    (List.prefix_of_prefix_length_le hpre hpre' (by
      rw [List.length_append]
      exact hlt)) probeId
  omega

theorem RequestAt.isPrefix {es pre : List Event} {probeId : JLong} {e : Event}
    (h : RequestAt ofj es probeId pre e) : pre <+: es := by
  obtain ⟨post, p, hes, -⟩ := h
  exact ⟨e :: post, hes.symm⟩

theorem exists_requestAt {es : List Event} (honly : OnlyRequests ofj es) {probeId : JLong}
    {n : Nat} (h : n < probeCount ofj es probeId) :
    ∃ pre e, RequestAt ofj es probeId pre e ∧ probeCount ofj pre probeId = n := by
  obtain ⟨pre, e, post, hes, he, hcount⟩ := exists_turn h
  obtain ⟨p, hp, hprobe⟩ := Option.map_eq_some_iff.mp (of_decide_eq_true he)
  have hmem : e ∈ es := by
    rw [hes]
    exact List.mem_append_right pre List.mem_cons_self
  exact ⟨pre, e, ⟨post, p, hes, hp, hprobe, honly e hmem p hp⟩, hcount⟩

theorem countsIncrease_iff {es : List Event} (honly : OnlyRequests ofj es) :
    CountsIncrease ofj es ↔ ∀ probeId, probeCount ofj es probeId ≤ 128 := by
  refine ⟨fun h probeId => ?_, fun h probeId pre e pre' e' he he' hlt => ?_⟩
  · -- The turns 0 and 128 are numbered 0 and -128.
    by_contra hmore
    obtain ⟨pre, e, he, h0⟩ := exists_requestAt honly (show 0 < probeCount ofj es probeId by omega)
    obtain ⟨pre', e', he', h128⟩ :=
      exists_requestAt honly (show 128 < probeCount ofj es probeId by omega)
    have hlt : pre.length < pre'.length := by
      by_contra hge
      have hle := probeCount_le_of_prefix ofj
        (List.prefix_of_prefix_length_le he'.isPrefix he.isPrefix (by omega)) probeId
      omega
    have hcounts := h probeId pre e pre' e' he he' hlt
    rw [h0, h128] at hcounts
    exact absurd hcounts (by decide)
  · have hfirst := probeCount_lt he he'.isPrefix hlt
    have hsecond := probeCount_lt he' (List.prefix_refl es) (by
      obtain ⟨post', p', hes, -⟩ := he'
      simp [hes])
    have hatMost := h probeId
    omega

/-- The replies are in the order of the requests, for the client, exactly when the counts of
    the packet-ins before them are, as signed bytes. In a run of requests that is as long as
    no probe has more than 128. -/
theorem hopsIncrease_iff (es : List Event) :
    (HopsIncrease ofj es ↔ CountsIncrease ofj es) ∧
      (OnlyRequests ofj es →
        (HopsIncrease ofj es ↔ ∀ probeId, probeCount ofj es probeId ≤ 128)) := by
  refine ⟨hopsIncrease_iff_counts ofj es, fun honly => ?_⟩
  rw [hopsIncrease_iff_counts, countsIncrease_iff honly]

/-! ## The probe 5 again and again -/

theorem onlyRequests_probe (n : Nat) :
    OnlyRequests OpenFlowJ.documented (List.replicate n (probeEvent 5 0)) := by
  intro e he p hp
  obtain rfl := List.eq_of_mem_replicate he
  obtain ⟨sw, hsw⟩ := (probe 5).packet_wirePacket OpenFlowJ.documented_faithful (probe_readable 5)
    (Env.accepting 7 0) (SwitchInfo.new OpenFlowJ.documented)
  rw [← Option.some_inj.mp (hsw.symm.trans hp)]
  rfl

theorem probeCount_probe (n : Nat) :
    probeCount OpenFlowJ.documented (List.replicate n (probeEvent 5 0)) 5 = n := by
  have hprobe : (probeEvent 5 0).OfProbe OpenFlowJ.documented 5 :=
    ((probe 5).ofProbe_wirePacket OpenFlowJ.documented_faithful (probe_readable 5) _ _ 5).mpr rfl
  unfold probeCount
  rw [List.countP_replicate, if_pos (decide_eq_true hprobe)]

/-- The 129th reply sorts before the first. -/
theorem probe_129_not_hopsIncrease :
    ¬ HopsIncrease OpenFlowJ.documented (List.replicate 129 (probeEvent 5 0)) := by
  rw [hopsIncrease_iff_counts, countsIncrease_iff (onlyRequests_probe 129)]
  intro h
  have hcount := h 5
  rw [probeCount_probe] at hcount
  exact absurd hcount (by decide)

theorem probe_128_hopsIncrease :
    HopsIncrease OpenFlowJ.documented (List.replicate 128 (probeEvent 5 0)) :=
  ((hopsIncrease_iff _).2 (onlyRequests_probe 128)).mpr fun probeId => by
    have hle := List.countP_le_length (p := Event.OfProbe OpenFlowJ.documented probeId)
      (l := List.replicate 128 (probeEvent 5 0))
    rwa [List.length_replicate] at hle

end HopNumbers

end JSdnTrace
