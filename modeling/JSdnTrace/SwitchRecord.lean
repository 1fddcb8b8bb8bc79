/-
  The switch record in both directions, at any place of an array.

  * `deserialize_record`: a record is read back wherever it stands, if its ingress port is
    accepted, but for its contId, for which the reader keeps its own.
  * `readBack_iff`: so `deserialize` undoes `serialize` exactly for a reader that has the contId
    already. A contId that makes the record longer than an `int` can count is not written.
  * `readAt_eq_iff`: two places give the same switch exactly when their first 24 bytes agree.
  * `serialize_deserialize`: the 28 bytes of a record without a contId are written back as they
    were read.
-/
import JSdnTrace.SwitchInfo

namespace JSdnTrace

open Java

namespace SwitchInfo

/-! ## What was written -/

/-- The record at index `pre.length` of an array, whatever stands around it. -/
theorem readAt_record {ofj : OpenFlowJ} (hof : ofj.Faithful) (r s : SwitchInfo)
    (b0 b1 b2 b3 : JByte) (pre post : List JByte) (ingress : OFPort) :
    r.readAt ofj (pre ++ (s.record (.inet4 b0 b1 b2 b3) ++ post)) pre.length ingress =
      { dpid := s.dpid
        ipAddr := ⟨.resolved (.inet4 b0 b1 b2 b3), 0⟩
        linkLatency := s.linkLatency
        ingress := ingress
        contId := r.contId } := by
  have hdpid : longAt (s.record (.inet4 b0 b1 b2 b3) ++ post) 0 = s.dpid.getLong :=
    longAt_longBytes _ []
  have hlatency : longAt (s.record (.inet4 b0 b1 b2 b3) ++ post) 12 = s.linkLatency.getValue :=
    longAt_longBytes _ []
  unfold readAt
  rw [longAt_append, byteAt_append, byteAt_append, byteAt_append, byteAt_append, hlatency,
    ← Nat.add_zero pre.length, longAt_append, hdpid, hof.dpidOf_eq, hof.u64Of_eq]
  rfl

/-- The record is read back, with the contId of the reader. -/
theorem deserialize_record {ofj : OpenFlowJ} (hof : ofj.Faithful) (r s : SwitchInfo)
    (hingress : ofj.AcceptsPort s.ingress.getPortNumber) (b0 b1 b2 b3 : JByte)
    (pre post : List JByte) :
    r.deserialize ofj (pre ++ (s.record (.inet4 b0 b1 b2 b3) ++ post)) pre.length
        (s.record (.inet4 b0 b1 b2 b3)).length =
      .ok { s with
        ipAddr := ⟨.resolved (.inet4 b0 b1 b2 b3), 0⟩
        contId := r.contId } := by
  have hlen := length_record s (.inet4 b0 b1 b2 b3)
  have hport : intAt (s.record (.inet4 b0 b1 b2 b3) ++ post) 20 = s.ingress.getPortNumber :=
    intAt_intBytes s.ingress.getPortNumber []
  have hl : (len : Int) ≤ (s.record (.inet4 b0 b1 b2 b3)).length := by omega
  have hle : (pre.length : Int) + (s.record (.inet4 b0 b1 b2 b3)).length ≤
      (pre ++ (s.record (.inet4 b0 b1 b2 b3) ++ post)).length := by
    rw [List.length_append, List.length_append]
    omega
  rw [deserialize_of_le (Int.natCast_nonneg _) hl hle, Int.toNat_natCast, intAt_append, hport,
    hof.portOf_eq hingress]
  exact congrArg Except.ok (readAt_record hof r s b0 b1 b2 b3 pre post _)

/-- `r.deserialize(pre + s.serialize() + post, pre.length, s.serialize().length)`. -/
def readBack (ofj : OpenFlowJ) (r s : SwitchInfo) (pre post : List JByte) :
    Except Throwable SwitchInfo := do
  let bs ← s.serialize
  r.deserialize ofj (pre ++ (bs ++ post)) pre.length bs.length

/-- The reader gets the switch back exactly when it has the contId already. -/
theorem readBack_iff {ofj : OpenFlowJ} (hof : ofj.Faithful) (r s : SwitchInfo)
    (hingress : ofj.AcceptsPort s.ingress.getPortNumber) (pre post : List JByte) (hip : s.Ipv4)
    (hport : s.ipAddr.port = 0) (hascii : s.contId.Ascii) :
    (∃ q, readBack ofj r s pre post = .ok q ∧ q.equals s = true) ↔
      r.contId = s.contId ∧ len + s.contId.units.length < 0x80000000 := by
  obtain ⟨b0, b1, b2, b3, ha⟩ := hip
  unfold readBack
  by_cases hfit : len + s.contId.units.length < 0x80000000
  · rw [serialize_eq ha hascii hfit, ok_bind, deserialize_record hof r s hingress]
    have hadr : (⟨.resolved (.inet4 b0 b1 b2 b3), 0⟩ : InetSocketAddress) = s.ipAddr := by
      rw [← InetSocketAddress.getAddress_eq_some.mp ha, ← hport]
    rw [hadr]
    refine ⟨fun h => ?_, fun h => ?_⟩
    · obtain ⟨q, hq, heq⟩ := h
      cases hq
      exact ⟨congrArg (·.contId) (equals_iff.mp heq), hfit⟩
    · exact ⟨_, rfl, equals_iff.mpr (by rw [h.1])⟩
  · refine iff_of_false (fun h => ?_) fun h => hfit h.2
    obtain ⟨q, hq, -⟩ := h
    obtain ⟨bs, hbs, -⟩ := bind_eq_ok.mp hq
    exact hfit (lt_of_serialize hbs)

/-- A switch of the controller `a`. -/
def namedSwitch : SwitchInfo where
  dpid := ⟨1⟩
  ipAddr := ⟨.resolved (.inet4 10 0 0 1), 0⟩
  linkLatency := ⟨3⟩
  ingress := ⟨2⟩
  contId := ⟨[0x61], by decide⟩

theorem namedSwitch_ipv4 : namedSwitch.Ipv4 := ⟨10, 0, 0, 1, rfl⟩

/-- A new object does not learn the contId. -/
theorem namedSwitch_not_readBack :
    namedSwitch.Ipv4 ∧ namedSwitch.ipAddr.port = 0 ∧ namedSwitch.contId.Ascii ∧
      ¬ ∃ q, readBack OpenFlowJ.documented (new OpenFlowJ.documented) namedSwitch [] [] = .ok q ∧
        q.equals namedSwitch = true := by
  refine ⟨namedSwitch_ipv4, rfl, by decide, fun h => ?_⟩
  obtain ⟨q, hq, heq⟩ := h
  have hread : readBack OpenFlowJ.documented (new OpenFlowJ.documented) namedSwitch [] [] =
      .ok { namedSwitch with contId := JString.empty } := by decide +kernel
  rw [hread] at hq
  cases hq
  exact absurd heq (by decide)

theorem namedSwitch_readBack :
    (∃ q, readBack OpenFlowJ.documented namedSwitch namedSwitch [7] [8, 9] = .ok q ∧
        q.equals namedSwitch = true) ↔
      namedSwitch.contId = namedSwitch.contId ∧
        len + namedSwitch.contId.units.length < 0x80000000 :=
  readBack_iff OpenFlowJ.documented_faithful namedSwitch namedSwitch (by decide) [7] [8, 9]
    namedSwitch_ipv4 rfl (by decide)

/-! ## What was read -/

/-- The fields are 24 bytes, and no two byte sequences give the same fields. -/
theorem readAt_eq_iff {ofj : OpenFlowJ} (hof : ofj.Faithful) {this : SwitchInfo}
    {data data' : List JByte} {i j : Nat} :
    this.readAt ofj data i ⟨intAt data (i + 20)⟩ = this.readAt ofj data' j ⟨intAt data' (j + 20)⟩ ↔
      ∀ k < 24, byteAt data (i + k) = byteAt data' (j + k) := by
  unfold readAt
  simp only [hof.dpidOf_eq, hof.u64Of_eq, SwitchInfo.mk.injEq, DatapathId.mk.injEq, U64.mk.injEq,
    OFPort.mk.injEq, InetSocketAddress.mk.injEq, InetHost.resolved.injEq,
    InetAddress.inet4.injEq, and_true, longAt_eq_iff, intAt_eq_iff]
  have haddr : (∀ k < 4, byteAt data (i + (8 + k)) = byteAt data' (j + (8 + k))) ↔
      byteAt data (i + 8) = byteAt data' (j + 8) ∧ byteAt data (i + 9) = byteAt data' (j + 9) ∧
        byteAt data (i + 10) = byteAt data' (j + 10) ∧
          byteAt data (i + 11) = byteAt data' (j + 11) := by
    simp only [Nat.forall_lt_succ_left, Nat.not_lt_zero, false_imp_iff, implies_true, and_true]
  show _ ↔ ∀ k < 8 + 4 + 8 + 4, byteAt data (i + k) = byteAt data' (j + k)
  rw [forall_lt_add, forall_lt_add, forall_lt_add, haddr]
  simp only [Nat.reduceAdd, Nat.add_assoc, and_assoc]

/-- The fields read at index `i`, written as a record again, are the bytes that were read. -/
theorem record_readAt {ofj : OpenFlowJ} (hof : ofj.Faithful) {data : List JByte} {i : Nat}
    (h : i + len ≤ data.length) (hword : intAt data (i + 24) = 0) :
    ((new ofj).readAt ofj data i ⟨intAt data (i + 20)⟩).record
        (.inet4 (byteAt data (i + 8)) (byteAt data (i + 9)) (byteAt data (i + 10))
          (byteAt data (i + 11))) =
      slice data i len := by
  unfold len at h
  have haddr : slice data (i + 8) 4 = [byteAt data (i + 8), byteAt data (i + 9),
      byteAt data (i + 10), byteAt data (i + 11)] := slice_eq_map (by omega)
  have hlatency : slice data (i + 12) 8 = longBytes (longAt data (i + 12)) :=
    slice_long (by omega)
  have hport : slice data (i + 20) 4 = intBytes (intAt data (i + 20)) := slice_int (by omega)
  have hlength : slice data (i + 24) 4 = intBytes 0 := by
    rw [slice_int (by omega), hword]
  show _ = slice data i (8 + 4 + 8 + 4 + 4)
  rw [slice_add, slice_add, slice_add, slice_add, slice_long (by omega), haddr, hlatency, hport,
    hlength]
  unfold record readAt
  rw [hof.dpidOf_eq, hof.u64Of_eq]
  exact List.append_nil _

/-- A record without a contId is written back byte for byte. -/
theorem serialize_deserialize {ofj : OpenFlowJ} (hof : ofj.Faithful) (data : List JByte) (o : Nat)
    (h : o + 28 ≤ data.length) (hport : ofj.AcceptsPort (intAt data (o + 20)))
    (hword : intAt data (o + 24) = 0) :
    ((new ofj).deserialize ofj data o 28 >>= serialize) = .ok (slice data o 28) := by
  have hl : (len : Int) ≤ 28 := Int.le_refl 28
  have hle : (o : Int) + 28 ≤ data.length := by omega
  have hascii : JString.empty.Ascii := by decide
  have hfit : len + JString.empty.units.length < 0x80000000 := by decide
  have hrecord := record_readAt hof h hword
  have hwrite := serialize_eq (s := (new ofj).readAt ofj data o ⟨intAt data (o + 20)⟩) rfl hascii
    hfit
  rw [deserialize_of_le (Int.natCast_nonneg o) hl hle, Int.toNat_natCast, hof.portOf_eq hport,
    Except.map, ok_bind, hwrite, hrecord]
  rfl

/-- 28 bytes of no encoder: a negative latency, and something on both sides. -/
theorem foreignRecord_serialize :
    ((new OpenFlowJ.documented).deserialize OpenFlowJ.documented
        ([9] ++ List.replicate 24 0xFF ++ [0, 0, 0, 0, 7]) (1 : Nat) 28 >>= serialize) =
      .ok (slice ([9] ++ List.replicate 24 0xFF ++ [0, 0, 0, 0, 7]) 1 28) :=
  serialize_deserialize OpenFlowJ.documented_faithful
    ([9] ++ List.replicate 24 0xFF ++ [0, 0, 0, 0, 7]) 1 (by decide) (by decide) (by decide)

end SwitchInfo

end JSdnTrace
