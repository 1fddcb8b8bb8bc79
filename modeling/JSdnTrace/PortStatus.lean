/-
  Runs of `OnPortStatusChange`: what its comments promise, and when it keeps the promise.

  * `located_iff`: a host is on one switch exactly in the runs that never report a MAC on two
    switches. The table of the old switch is not touched when a host moves.
  * `portLaw_iff`: the table of a switch has one MAC for each port exactly in the runs that
    report no `-1` and never replace the MAC of a port. The `-1` that signals a removed address
    is stored like an address, and a new MAC on a port is put beside the old one.
-/
import JSdnTrace.NetMap

namespace JSdnTrace

open Java Lib TraceAppController

/-- The arguments of one `OnPortStatusChange` call. -/
structure PortStatus where
  dpid : JLong
  portNum : JInt
  mac : JLong

def PortStatus.toEvent (r : PortStatus) : Event := .onPortStatusChange r.dpid r.portNum r.mac

variable (ofj : OpenFlowJ)

/-- `netMap` after the calls `rs`. -/
def tables (rs : List PortStatus) : HashMap JLong (HashMap JLong JInt) :=
  (reached ofj (rs.map PortStatus.toEvent)).app.netMap

theorem registeredPort_tables (rs : List PortStatus) (r : PortStatus) (dpid mac : JLong) :
    registeredPort (tables ofj (rs ++ [r])) dpid mac =
      if r.dpid = dpid ∧ r.mac = mac then some r.portNum
      else registeredPort (tables ofj rs) dpid mac := by
  unfold tables
  rw [List.map_append, List.map_singleton, reached_concat, netMap_step]
  exact registeredPort_onPortStatusChange _ _ _ _ _ _

theorem onSwitch_iff {netMap : HashMap JLong (HashMap JLong JInt)} {dpid mac : JLong} :
    OnSwitch netMap dpid mac ↔ ∃ p, registeredPort netMap dpid mac = some p := by
  unfold OnSwitch registeredPort
  simp only [HashMap.mem_iff_get, Option.bind_eq_some_iff]
  refine ⟨fun hon => ?_, fun hreg => ?_⟩
  · obtain ⟨table, ht, p, hp⟩ := hon
    exact ⟨p, table, ht, hp⟩
  · obtain ⟨p, table, ht, hp⟩ := hreg
    exact ⟨table, ht, p, hp⟩

theorem not_onSwitch_nil (dpid mac : JLong) : ¬ OnSwitch (tables ofj []) dpid mac := by
  intro hon
  obtain ⟨p, hp⟩ := onSwitch_iff.mp hon
  cases hp

theorem onSwitch_tables_concat (rs : List PortStatus) (r : PortStatus) (dpid mac : JLong) :
    OnSwitch (tables ofj (rs ++ [r])) dpid mac ↔
      (r.dpid = dpid ∧ r.mac = mac) ∨ OnSwitch (tables ofj rs) dpid mac := by
  rw [onSwitch_iff, onSwitch_iff, registeredPort_tables]
  by_cases h : r.dpid = dpid ∧ r.mac = mac <;> simp [h]

/-! ## One switch for each host -/

/-- A MAC stays on every switch it was ever reported on. -/
theorem onSwitch_tables (rs : List PortStatus) (dpid mac : JLong) :
    OnSwitch (tables ofj rs) dpid mac ↔ ∃ r ∈ rs, r.dpid = dpid ∧ r.mac = mac := by
  induction rs using List.reverseRecOn with
  | nil => exact iff_of_false (not_onSwitch_nil ofj dpid mac) (by simp)
  | append_singleton rs r ih =>
    rw [onSwitch_tables_concat, ih]
    simp [or_comm, or_and_right, exists_or]

/-- Every MAC is on one switch, and the search for the MAC just reported finds its switch. -/
structure Located (pre : List PortStatus) (r : PortStatus) : Prop where
  unique : ∀ mac dpid dpid', OnSwitch (tables ofj (pre ++ [r])) dpid mac →
    OnSwitch (tables ofj (pre ++ [r])) dpid' mac → dpid = dpid'
  found : ∀ keySet, searchForSwitch keySet r.mac (tables ofj (pre ++ [r])) = .ok r.dpid

theorem located_of_functional {pre : List PortStatus} {r : PortStatus}
    (h : ∀ a ∈ pre ++ [r], ∀ b ∈ pre ++ [r], a.mac = b.mac → a.dpid = b.dpid) :
    Located ofj pre r := by
  have unique : ∀ mac dpid dpid', OnSwitch (tables ofj (pre ++ [r])) dpid mac →
      OnSwitch (tables ofj (pre ++ [r])) dpid' mac → dpid = dpid' := by
    intro mac dpid dpid' hon hon'
    obtain ⟨a, ha, rfl, rfl⟩ := (onSwitch_tables ofj _ _ _).mp hon
    obtain ⟨b, hb, rfl, hmac⟩ := (onSwitch_tables ofj _ _ _).mp hon'
    exact h a ha b hb hmac.symm
  have hr : OnSwitch (tables ofj (pre ++ [r])) r.dpid r.mac :=
    (onSwitch_tables ofj _ _ _).mpr ⟨r, by simp, rfl, rfl⟩
  exact ⟨unique, searchForSwitch_eq_of_unique hr fun dpid' hon => unique r.mac dpid' r.dpid hon hr⟩

theorem located_iff (rs : List PortStatus) :
    EachStep (Located ofj) rs ↔ ∀ a ∈ rs, ∀ b ∈ rs, a.mac = b.mac → a.dpid = b.dpid := by
  refine ⟨fun h a ha b hb hmac => ?_, fun h pre r post hrs => ?_⟩
  · rcases List.eq_nil_or_concat rs with rfl | ⟨pre, r, rfl⟩
    · exact absurd ha List.not_mem_nil
    · rw [List.concat_eq_append] at h ha hb
      exact (h pre r [] rfl).unique a.mac a.dpid b.dpid
        ((onSwitch_tables ofj _ _ _).mpr ⟨a, ha, rfl, rfl⟩)
        ((onSwitch_tables ofj _ _ _).mpr ⟨b, hb, rfl, hmac.symm⟩)
  · have hsub : ∀ c ∈ pre ++ [r], c ∈ rs := by
      intro c hc
      rw [hrs]
      rcases List.mem_append.mp hc with hc | hc
      · exact List.mem_append_left _ hc
      · exact List.mem_append_right _ (List.mem_cons.mpr (Or.inl (List.mem_singleton.mp hc)))
    exact located_of_functional ofj fun a ha b hb => h a (hsub a ha) b (hsub b hb)

/-- A host that moves from switch 1 to switch 2 is then on both. -/
theorem movedHost_not_located :
    ¬ EachStep (Located OpenFlowJ.documented) [⟨1, 1, 5⟩, ⟨2, 1, 5⟩] := by
  intro h
  have hon : ∀ dpid, dpid = 1 ∨ dpid = 2 →
      OnSwitch (tables OpenFlowJ.documented [⟨1, 1, 5⟩, ⟨2, 1, 5⟩]) dpid 5 := by
    intro dpid hd
    rw [onSwitch_tables]
    rcases hd with rfl | rfl <;> simp
  have heq := (h [⟨1, 1, 5⟩] ⟨2, 1, 5⟩ [] rfl).unique 5 1 2 (hon 1 (Or.inl rfl))
    (hon 2 (Or.inr rfl))
  exact absurd heq (by decide)

/-! ## One MAC for each port -/

/-- The MACs that the table of `dpid` maps to the port `p`. -/
def macsOn (netMap : HashMap JLong (HashMap JLong JInt)) (dpid : JLong) (p : JInt) : Set JLong :=
  {mac | registeredPort netMap dpid mac = some p}

/-- The last call for the port `p` of `dpid` passed `mac`, and `mac` has not since been reported
    on another port of `dpid`. -/
def OnPort (rs : List PortStatus) (dpid : JLong) (p : JInt) (mac : JLong) : Prop :=
  HeldSince (fun r => r.dpid = dpid → r.portNum ≠ p ∧ (r.mac = mac → r.portNum = p))
    (· = ⟨dpid, p, mac⟩) rs

/-- The law of the port table after the calls `rs`. -/
structure PortLaw (rs : List PortStatus) : Prop where
  occupied : ∀ dpid p mac, mac ≠ -1 → OnPort rs dpid p mac →
    macsOn (tables ofj rs) dpid p = {mac}
  vacant : ∀ dpid p, (∀ mac, mac ≠ -1 → ¬ OnPort rs dpid p mac) →
    macsOn (tables ofj rs) dpid p = ∅
  removed : ∀ dpid, ¬ OnSwitch (tables ofj rs) dpid (-1)

/-- The call reports an address, and no other address is on that port. -/
structure FreshOnPort (pre : List PortStatus) (r : PortStatus) : Prop where
  isMac : r.mac ≠ -1
  alone : ∀ mac, registeredPort (tables ofj pre) r.dpid mac = some r.portNum → mac = r.mac

theorem mem_macsOn_concat {rs : List PortStatus} {r : PortStatus} {dpid mac : JLong} {p : JInt} :
    mac ∈ macsOn (tables ofj (rs ++ [r])) dpid p ↔
      (r = ⟨dpid, p, mac⟩) ∨
        (¬ (r.dpid = dpid ∧ r.mac = mac) ∧ mac ∈ macsOn (tables ofj rs) dpid p) := by
  show registeredPort _ _ _ = _ ↔ _ ∨ (_ ∧ registeredPort _ _ _ = _)
  rw [registeredPort_tables]
  obtain ⟨d, q, m⟩ := r
  by_cases h : d = dpid ∧ m = mac
  · obtain ⟨rfl, rfl⟩ := h
    simp
  · simp only [if_neg h, PortStatus.mk.injEq]
    refine ⟨fun hreg => Or.inr ⟨h, hreg⟩, fun hmem => ?_⟩
    · rcases hmem with ⟨hd, -, hm⟩ | ⟨-, hreg⟩
      · exact absurd ⟨hd, hm⟩ h
      · exact hreg

theorem portLaw_nil : PortLaw ofj [] where
  occupied _ _ _ _ h := absurd h not_heldSince_nil
  vacant dpid p _ := by
    apply Set.eq_empty_of_forall_notMem
    intro mac hmac
    exact not_onSwitch_nil ofj dpid mac (onSwitch_iff.mpr ⟨p, hmac⟩)
  removed dpid := not_onSwitch_nil ofj dpid (-1)

/-- The port of a lawful call is free of other addresses. -/
theorem PortLaw.freshOnPort {pre : List PortStatus} {r : PortStatus}
    (h : PortLaw ofj (pre ++ [r])) : FreshOnPort ofj pre r := by
  have hmac : r.mac ≠ -1 := by
    intro hr
    exact h.removed r.dpid ((onSwitch_tables_concat ofj _ _ _ _).mpr (Or.inl ⟨rfl, hr⟩))
  refine ⟨hmac, fun mac hreg => ?_⟩
  by_contra hne
  have hon : OnPort (pre ++ [r]) r.dpid r.portNum r.mac := heldSince_concat.mpr (Or.inl rfl)
  have hmem : mac ∈ macsOn (tables ofj (pre ++ [r])) r.dpid r.portNum :=
    (mem_macsOn_concat ofj).mpr (Or.inr ⟨fun h => hne h.2.symm, hreg⟩)
  rw [h.occupied _ _ _ hmac hon] at hmem
  exact hne hmem

/-- After a call for a free port, the port holds what was last reported on it. -/
theorem PortLaw.occupied_concat {pre : List PortStatus} {r : PortStatus} (h : PortLaw ofj pre)
    (hr : FreshOnPort ofj pre r) {dpid mac : JLong} {p : JInt} (hmac : mac ≠ -1)
    (hon : OnPort (pre ++ [r]) dpid p mac) :
    macsOn (tables ofj (pre ++ [r])) dpid p = {mac} := by
  ext other
  rw [mem_macsOn_concat, Set.mem_singleton_iff]
  rcases heldSince_concat.mp hon with rfl | ⟨hbefore, hkept⟩
  · refine ⟨fun hmem => ?_, fun heq => ?_⟩
    · rcases hmem with heq | ⟨-, hreg⟩
      · exact (congrArg PortStatus.mac heq).symm
      · exact hr.alone other hreg
    · exact Or.inl (by rw [heq])
  · rw [h.occupied dpid p mac hmac hbefore, Set.mem_singleton_iff]
    refine ⟨fun hmem => ?_, fun heq => ?_⟩
    · rcases hmem with rfl | ⟨-, heq⟩
      · exact absurd rfl (hkept rfl).1
      · exact heq
    · refine Or.inr ⟨fun hsame => ?_, heq⟩
      obtain ⟨hport, hmoved⟩ := hkept hsame.1
      exact hport (hmoved (hsame.2.trans heq))

/-- After a call for a free port, no port has an address that is no longer on it. -/
theorem PortLaw.vacant_concat {pre : List PortStatus} {r : PortStatus} (h : PortLaw ofj pre)
    (hr : FreshOnPort ofj pre r) {dpid : JLong} {p : JInt}
    (hnone : ∀ mac, mac ≠ -1 → ¬ OnPort (pre ++ [r]) dpid p mac) :
    macsOn (tables ofj (pre ++ [r])) dpid p = ∅ := by
  apply Set.eq_empty_of_forall_notMem
  intro other hother
  rcases (mem_macsOn_concat ofj).mp hother with rfl | ⟨hnot, hreg⟩
  · exact hnone _ hr.isMac (heldSince_concat.mpr (Or.inl rfl))
  · -- `other` was on the port by the law, so only a call that moves it could free the port.
    by_cases hvacant : ∀ mac, mac ≠ -1 → ¬ OnPort pre dpid p mac
    · rw [h.vacant dpid p hvacant] at hreg
      exact hreg
    · push Not at hvacant
      obtain ⟨mac, hmac, hon⟩ := hvacant
      rw [h.occupied dpid p mac hmac hon] at hreg
      cases hreg
      have hport : r.dpid = dpid → r.portNum ≠ p := by
        intro hd hp
        refine hnone r.mac hr.isMac (heldSince_concat.mpr (Or.inl ?_))
        rw [← hd, ← hp]
      refine hnone other hmac (heldSince_concat.mpr (Or.inr ⟨hon, fun hd => ?_⟩))
      exact ⟨hport hd, fun hm => absurd ⟨hd, hm⟩ hnot⟩

/-- A call for a free port keeps the law. -/
theorem PortLaw.concat {pre : List PortStatus} {r : PortStatus} (h : PortLaw ofj pre)
    (hr : FreshOnPort ofj pre r) : PortLaw ofj (pre ++ [r]) where
  occupied _ _ _ hmac hon := h.occupied_concat ofj hr hmac hon
  vacant _ _ hnone := h.vacant_concat ofj hr hnone
  removed dpid hon := by
    rcases (onSwitch_tables_concat ofj _ _ _ _).mp hon with ⟨-, hmac⟩ | hold
    · exact hr.isMac hmac
    · exact h.removed dpid hold

/-- The law holds after every call exactly when every call reports an address on a port that
    no other address is registered on. -/
theorem portLaw_iff (rs : List PortStatus) :
    EachStep (fun pre r => PortLaw ofj (pre ++ [r])) rs ↔ EachStep (FreshOnPort ofj) rs :=
  eachStep_iff (I := PortLaw ofj) (portLaw_nil ofj) (fun _ _ h hr => h.concat ofj hr)
    (fun _ _ h => ⟨PortLaw.freshOnPort ofj, h.concat ofj⟩) rs

/-- A second host on port 1 of switch 1 leaves the first one registered there. -/
theorem replacedMac_breaks_portLaw :
    ¬ PortLaw OpenFlowJ.documented [⟨1, 1, 5⟩, ⟨1, 1, 6⟩] := by
  intro h
  have hlaw : PortLaw OpenFlowJ.documented ([⟨1, 1, 5⟩] ++ [⟨1, 1, 6⟩]) := h
  have hold : registeredPort (tables OpenFlowJ.documented ([] ++ [⟨1, 1, 5⟩])) 1 5 = some 1 := by
    rw [registeredPort_tables]
    rfl
  have heq := hlaw.freshOnPort.alone 5 hold
  exact absurd heq (by decide)

end JSdnTrace
