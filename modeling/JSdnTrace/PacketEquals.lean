/-
  `TracePacket.equals`. It hands the other packet, not the switch of the other packet, to the
  `equals` of its `SwitchInfo`. A packet is no `SwitchInfo`, so the call that is compiled is
  `Object.equals`, which compares references.

  * `equals_eq_false`: so no packet equals another, nor itself.
  * `equals_means_agreement_iff`: `equals` means that the fields agree exactly on the packets whose
    fields do not.
-/
import JSdnTrace.RoundTrip

namespace JSdnTrace

open Java

/-- A reference to one of the two kinds of objects, by its address. -/
inductive Reference where
  | tracePacket (address : Nat)
  | switchInfo (address : Nat)
  deriving DecidableEq

/-- `Object.equals`. -/
def Reference.equals (a b : Reference) : Bool := decide (a = b)

/-- A packet in memory: its fields, and where it and its `SwitchInfo` are. -/
structure PacketObject where
  pkt : TracePacket
  address : Nat
  swInfoAddress : Nat

namespace PacketObject

def swInfo (p : PacketObject) : Reference := .switchInfo p.swInfoAddress

def reference (p : PacketObject) : Reference := .tracePacket p.address

/-- `equals(TracePacket)`. -/
def equals (p p2 : PacketObject) : Except Throwable Bool := do
  let destination ← deref p.pkt.destinationMAC
  if some destination ≠ p2.pkt.destinationMAC then return false
  let source ← deref p.pkt.sourceMAC
  if some source ≠ p2.pkt.sourceMAC then return false
  if p.pkt.version ≠ p2.pkt.version then return false
  if p.pkt.maxHops ≠ p2.pkt.maxHops then return false
  if p.pkt.probeId ≠ p2.pkt.probeId then return false
  if p.pkt.hop ≠ p2.pkt.hop then return false
  if !p.swInfo.equals p2.reference then return false
  return true

/-- Both MACs are set. -/
def HasMacs (p : PacketObject) : Prop :=
  (∃ m, p.pkt.destinationMAC = some m) ∧ ∃ m, p.pkt.sourceMAC = some m

/-- The packets agree on the fields that `equals` is meant to compare. -/
structure Agrees (p q : PacketObject) : Prop where
  destinationMAC : p.pkt.destinationMAC = q.pkt.destinationMAC
  sourceMAC : p.pkt.sourceMAC = q.pkt.sourceMAC
  version : p.pkt.version = q.pkt.version
  maxHops : p.pkt.maxHops = q.pkt.maxHops
  probeId : p.pkt.probeId = q.pkt.probeId
  hop : p.pkt.hop = q.pkt.hop
  swInfo : p.pkt.swInfo.equals q.pkt.swInfo = true

theorem agrees_equivalence : Equivalence Agrees where
  refl _ := ⟨rfl, rfl, rfl, rfl, rfl, rfl, SwitchInfo.equals_iff.mpr rfl⟩
  symm h := ⟨h.1.symm, h.2.symm, h.3.symm, h.4.symm, h.5.symm, h.6.symm,
    SwitchInfo.equals_iff.mpr (SwitchInfo.equals_iff.mp h.7).symm⟩
  trans h h' := ⟨h.1.trans h'.1, h.2.trans h'.2, h.3.trans h'.3, h.4.trans h'.4, h.5.trans h'.5,
    h.6.trans h'.6,
    SwitchInfo.equals_iff.mpr
      ((SwitchInfo.equals_iff.mp h.7).trans (SwitchInfo.equals_iff.mp h'.7))⟩

/-- No `SwitchInfo` is a packet. -/
theorem swInfo_equals_reference (p q : PacketObject) : p.swInfo.equals q.reference = false :=
  decide_eq_false fun h => nomatch h

theorem equals_eq_false {p : PacketObject} (hp : p.HasMacs) (q : PacketObject) :
    p.equals q = .ok false := by
  obtain ⟨⟨dst, hd⟩, src, hs⟩ := hp
  unfold equals
  rw [hd, hs, deref_some, deref_some, swInfo_equals_reference]
  -- With the last test failed every branch returns false.
  simp only [ok_bind, Bool.not_false, if_true, ite_self]
  rfl

/-- `equals` is what it is meant to be exactly on packets that do not agree. It is never
    reflexive, and symmetric and transitive because nothing is equal to anything. -/
theorem equals_means_agreement_iff {p : PacketObject} (hp : p.HasMacs) (q r : PacketObject) :
    ((p.equals q = .ok true ↔ Agrees p q) ↔ ¬ Agrees p q) ∧
      p.equals p ≠ .ok true ∧
      (p.equals q = .ok true → q.equals p = .ok true) ∧
      (p.equals q = .ok true → q.equals r = .ok true → p.equals r = .ok true) := by
  have hne : ∀ q', p.equals q' ≠ .ok true := by
    intro q' h
    rw [equals_eq_false hp] at h
    cases h
  refine ⟨?_, hne p, fun h => absurd h (hne q), fun h => absurd h (hne q)⟩
  rw [iff_false_left (hne q)]

/-- The packet of `UnitTests.tracePackTest`, in memory. -/
def unitTestObject : PacketObject := ⟨TracePacket.unitTestPacket, 1, 2⟩

theorem unitTestObject_hasMacs : unitTestObject.HasMacs := ⟨⟨⟨1⟩, rfl⟩, ⟨2⟩, rfl⟩

/-- It does not equal itself. -/
theorem unitTestObject_not_equals :
    ¬ (unitTestObject.equals unitTestObject = .ok true ↔ Agrees unitTestObject unitTestObject) := by
  intro h
  have htrue := h.mpr (agrees_equivalence.refl _)
  rw [equals_eq_false unitTestObject_hasMacs] at htrue
  cases htrue

/-- Another hop, and `equals` is right to say no. -/
theorem unitTestObject_equals_hop :
    unitTestObject.equals
        { unitTestObject with pkt := TracePacket.unitTestPacket.setHop 3 } = .ok true ↔
      Agrees unitTestObject
        { unitTestObject with pkt := TracePacket.unitTestPacket.setHop 3 } :=
  (equals_means_agreement_iff unitTestObject_hasMacs _ unitTestObject).1.mpr
    fun h => absurd h.hop (by decide)

end PacketObject

end JSdnTrace
