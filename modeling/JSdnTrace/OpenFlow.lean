/-
  The OpenFlowJ values the trace app handles, and what it uses of the library.

  OpenFlowJ is not part of the repository. An object is identified with the value its getter
  returns, the factories are the fields of `OpenFlowJ`, and `OpenFlowJ.Faithful` states what
  the app relies on: an object that a factory returns has the value the factory was given.
  `MacAddress.of(long)` is only relied on below `2^48`. `OFPort.of` does not take every number:
  which ones it accepts is a condition of each result that needs it.
-/
import JSdnTrace.Java.Effect
import JSdnTrace.Java.Bytes

namespace JSdnTrace

open Java

/-- `org.projectfloodlight.openflow.types.MacAddress`. -/
structure MacAddress where
  getLong : JLong
  deriving DecidableEq, Repr

/-- `org.projectfloodlight.openflow.types.DatapathId`. -/
structure DatapathId where
  getLong : JLong
  deriving DecidableEq, Repr

/-- `org.projectfloodlight.openflow.types.U64`. -/
structure U64 where
  getValue : JLong
  deriving DecidableEq, Repr

/-- `org.projectfloodlight.openflow.types.OFPort`. -/
structure OFPort where
  getPortNumber : JInt
  deriving DecidableEq, Repr

/-- A hardware address of 48 bits. -/
def MacAddress.Is48 (m : MacAddress) : Prop := m.getLong.toNat < 0x1000000000000

instance (m : MacAddress) : Decidable m.Is48 := inferInstanceAs (Decidable (_ < _))

/-- The factories and constants of OpenFlowJ. `OFPort.of` rejects some numbers. -/
structure OpenFlowJ where
  macOf : JLong → MacAddress
  dpidOf : JLong → DatapathId
  u64Of : JLong → U64
  portOf : JInt → Except Throwable OFPort
  dpidNone : DatapathId
  portAny : OFPort
  portFlood : OFPort
  portController : OFPort

/-- `OFPort.of` returns a port for the number. -/
def OpenFlowJ.AcceptsPort (ofj : OpenFlowJ) (v : JInt) : Prop := ∃ p, ofj.portOf v = .ok p

instance (ofj : OpenFlowJ) (v : JInt) : Decidable (ofj.AcceptsPort v) :=
  match h : ofj.portOf v with
  | .ok p => isTrue ⟨p, h⟩
  | .error _ => isFalse fun ⟨_, hp⟩ => nomatch h.symm.trans hp

/-- The getter returns what the factory was given. What `OFPort.of` throws is its
    `IllegalArgumentException`. -/
structure OpenFlowJ.Faithful (ofj : OpenFlowJ) : Prop where
  getLong_macOf : ∀ v : JLong, v.toNat < 0x1000000000000 → (ofj.macOf v).getLong = v
  getLong_dpidOf : ∀ v, (ofj.dpidOf v).getLong = v
  getValue_u64Of : ∀ v, (ofj.u64Of v).getValue = v
  getPortNumber_portOf : ∀ v p, ofj.portOf v = .ok p → p.getPortNumber = v
  portOf_throws : ∀ v e, ofj.portOf v = .error e → e = .illegalArgument

namespace OpenFlowJ.Faithful

variable {ofj : OpenFlowJ} (h : ofj.Faithful)

include h

theorem macOf_eq {m : MacAddress} (hm : m.Is48) : ofj.macOf m.getLong = m :=
  congrArg MacAddress.mk (h.getLong_macOf m.getLong hm)

theorem dpidOf_eq (v : JLong) : ofj.dpidOf v = ⟨v⟩ :=
  congrArg DatapathId.mk (h.getLong_dpidOf v)

theorem u64Of_eq (v : JLong) : ofj.u64Of v = ⟨v⟩ :=
  congrArg U64.mk (h.getValue_u64Of v)

theorem eq_of_portOf {v : JInt} {p : OFPort} (hp : ofj.portOf v = .ok p) : p = ⟨v⟩ :=
  congrArg OFPort.mk (h.getPortNumber_portOf v p hp)

theorem portOf_eq {v : JInt} (hv : ofj.AcceptsPort v) : ofj.portOf v = .ok ⟨v⟩ := by
  obtain ⟨p, hp⟩ := hv
  rw [hp, h.eq_of_portOf hp]

theorem throwsOwn_portOf (v : JInt) : ThrowsOwn (ofj.portOf v) := by
  intro e he
  rw [h.portOf_throws v e he]
  trivial

end OpenFlowJ.Faithful

/-- The values OpenFlowJ documents: a MAC keeps 48 bits, the special ports are OpenFlow's, and
    between the largest port and the special ones there is none. -/
def OpenFlowJ.documented : OpenFlowJ where
  macOf v := ⟨v &&& 0xFFFFFFFFFFFF⟩
  dpidOf v := ⟨v⟩
  u64Of v := ⟨v⟩
  portOf v :=
    if 0xFFFFFF00 < v.toNat ∧ v.toNat < 0xFFFFFFF8 then .error .illegalArgument else .ok ⟨v⟩
  dpidNone := ⟨0⟩
  portAny := ⟨0xFFFFFFFF⟩
  portFlood := ⟨0xFFFFFFFB⟩
  portController := ⟨0xFFFFFFFD⟩

theorem OpenFlowJ.documented_portOf (v : JInt) : OpenFlowJ.documented.portOf v =
    if 0xFFFFFF00 < v.toNat ∧ v.toNat < 0xFFFFFFF8 then .error .illegalArgument else .ok ⟨v⟩ := rfl

theorem OpenFlowJ.documented_acceptsPort_iff (v : JInt) :
    OpenFlowJ.documented.AcceptsPort v ↔ ¬ (0xFFFFFF00 < v.toNat ∧ v.toNat < 0xFFFFFFF8) := by
  unfold OpenFlowJ.AcceptsPort
  rw [documented_portOf]
  split
  · next h => exact iff_of_false (fun hp => nomatch hp) (not_not.mpr h)
  · next h => exact iff_of_true ⟨_, rfl⟩ h

theorem OpenFlowJ.documented_faithful : OpenFlowJ.documented.Faithful where
  getLong_macOf v h := by
    show v &&& 0xFFFFFFFFFFFF = v
    apply BitVec.eq_of_toNat_eq
    rw [BitVec.toNat_and]
    exact @Nat.and_two_pow_sub_one_of_lt_two_pow 48 v.toNat h
  getLong_dpidOf _ := rfl
  getValue_u64Of _ := rfl
  getPortNumber_portOf v p hp := by
    rw [documented_portOf] at hp
    split at hp
    · cases hp
    · cases hp
      rfl
  portOf_throws v e he := by
    rw [documented_portOf] at he
    split at he
    · cases he
      rfl
    · cases he

end JSdnTrace
