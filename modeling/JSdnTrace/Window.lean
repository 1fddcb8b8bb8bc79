/-
  What the decoder does with the window it is given.

  The header is read through the window, the switch record at the absolute index 21, so the two
  are bounded and placed by different things.

  * `deserialize_inside_iff`: a packet that is moved inside a larger array is read as before
    exactly when bytes 21 to 44 of the larger array are those of the packet.
  * `rejectsTruncated_iff`: a window too short for a packet is accepted exactly when it holds the
    37 header bytes, the array has 49 bytes and the number at index 41 is that of a port.
-/
import JSdnTrace.RoundTrip
import JSdnTrace.SwitchRecord

namespace JSdnTrace

open Java

namespace TracePacket

/-! ## Moving a packet -/

theorem readAt_inside (ofj : OpenFlowJ) (pre post : List JByte) {w : List JByte}
    (h : 37 ≤ w.length) (sw : SwitchInfo) :
    readAt ofj (pre ++ (w ++ post)) pre.length sw = readAt ofj w 0 sw := by
  unfold readAt
  simp (disch := omega) only [longAt_inside, byteAt_inside, Nat.zero_add]

/-- A packet that was accepted at the front of its own array is read the same inside a larger
    one exactly when the bytes the switch record is taken from are the same there. -/
theorem deserialize_inside_iff {ofj : OpenFlowJ} (hof : ofj.Faithful) (draw draw' : Draw)
    (w pre post : List JByte) (h65 : 65 ≤ w.length) {q : TracePacket}
    (hq : (new ofj draw).deserialize ofj w 0 w.length = .ok q) :
    (new ofj draw').deserialize ofj (pre ++ (w ++ post)) pre.length w.length = .ok q ↔
      ∀ k < 24, byteAt (pre ++ (w ++ post)) (21 + k) = byteAt w (21 + k) := by
  have hread := deserialize_eq_ok hof hq
  refine ⟨fun h => ?_, fun h => ?_⟩
  · have hmoved := deserialize_eq_ok hof h
    rw [hread] at hmoved
    exact (SwitchInfo.readAt_eq_iff hof).mp (congrArg (·.swInfo) hmoved.symm)
  · -- The port stands at four of the 24 bytes, so it is accepted here as it was there.
    have hport : intAt (pre ++ (w ++ post)) 41 = intAt w 41 :=
      intAt_eq_iff.mpr fun k hk => by
        have hbyte := h (20 + k) (by omega)
        rwa [← Nat.add_assoc] at hbyte
    obtain ⟨-, -, -, -, haccepts⟩ := deserialize_eq_ok_iff.mp ⟨q, hq⟩
    have hlen : (pre ++ (w ++ post)).length = pre.length + (w.length + post.length) := by
      rw [List.length_append, List.length_append]
    have hok : ∃ q', (new ofj draw').deserialize ofj (pre ++ (w ++ post)) pre.length w.length =
        .ok q' :=
      deserialize_eq_ok_iff.mpr ⟨by omega, by omega, by omega, by omega, hport ▸ haccepts⟩
    obtain ⟨q', hq'⟩ := hok
    rw [hq', deserialize_eq_ok hof hq', hread, Int.toNat_natCast,
      readAt_inside ofj pre post (by omega), (SwitchInfo.readAt_eq_iff hof).mpr h]
    rfl

/-- The bytes of `unitTestPacket`. -/
def unitTestBytes : List JByte := unitTestPacket.wire ⟨1⟩ ⟨2⟩ (.inet4 0 0 0 0)

/-- One byte in front, and the switch record is another. -/
theorem unitTestBytes_moved :
    65 ≤ unitTestBytes.length ∧ ∃ q,
      (new OpenFlowJ.documented ⟨0, 0⟩).deserialize OpenFlowJ.documented unitTestBytes 0
        unitTestBytes.length = .ok q ∧
      (new OpenFlowJ.documented ⟨0, 0⟩).deserialize OpenFlowJ.documented
        ([0] ++ (unitTestBytes ++ [])) 1 unitTestBytes.length ≠ .ok q :=
  ⟨by decide, readAt OpenFlowJ.documented unitTestBytes 0 (SwitchInfo.readAt OpenFlowJ.documented
    (SwitchInfo.new OpenFlowJ.documented) unitTestBytes 21 ⟨intAt unitTestBytes 41⟩),
    by decide +kernel, by decide +kernel⟩

/-- A packet with the same byte at indices 20 to 44. -/
def levelPacket : TracePacket :=
  { unitTestPacket with probeId := 0x0900000000000000, timestamp := 0, hop := 0, request := false }

def levelBytes : List JByte := levelPacket.wire ⟨1⟩ ⟨2⟩ (.inet4 0 0 0 0)

/-- It may be moved by one byte. -/
theorem levelBytes_inside_iff :
    (new OpenFlowJ.documented ⟨1, 1⟩).deserialize OpenFlowJ.documented
        ([7] ++ (levelBytes ++ [1, 2])) (1 : Nat) levelBytes.length =
      .ok (readAt OpenFlowJ.documented levelBytes 0 (SwitchInfo.readAt OpenFlowJ.documented
        (SwitchInfo.new OpenFlowJ.documented) levelBytes 21 ⟨intAt levelBytes 41⟩)) ↔
      ∀ k < 24, byteAt ([7] ++ (levelBytes ++ [1, 2])) (21 + k) = byteAt levelBytes (21 + k) :=
  deserialize_inside_iff OpenFlowJ.documented_faithful ⟨0, 0⟩ ⟨1, 1⟩ levelBytes [7] [1, 2]
    (by decide) (by decide +kernel)

example : ∀ k < 24, byteAt ([7] ++ (levelBytes ++ [1, 2])) (21 + k) = byteAt levelBytes (21 + k) :=
  by decide

/-! ## Truncation -/

/-- The window lies in the array and has the size of a packet. -/
def HoldsPacket (data : List JByte) (offset length : Int) : Prop :=
  0 ≤ offset ∧ packSize ≤ length ∧ offset + length ≤ data.length

/-- `deserialize` returns normally. -/
def Accepts (ofj : OpenFlowJ) (this : TracePacket) (data : List JByte) (offset length : Int) :
    Prop :=
  ∃ q, deserialize ofj this data offset length = .ok q

/-- Of the windows without a whole packet just those are accepted that hold a header, in an array
    of 49 bytes with a port at index 41. So are the packets cut down to 49 bytes, and to a window
    of 37, if the switch id ends in the number of a port. -/
theorem rejectsTruncated_iff (ofj : OpenFlowJ) (this : TracePacket) (data : List JByte)
    (offset length : Int) (p : TracePacket) (bytes : List JByte) (hbytes : p.serialize = .ok bytes)
    (k : Nat) (hk : k < packSize) :
    ((Accepts ofj this data offset length → HoldsPacket data offset length) ↔
      ¬ (0 ≤ offset ∧ 37 ≤ length ∧ length < packSize ∧ offset + length ≤ data.length ∧
        49 ≤ data.length ∧ ofj.AcceptsPort (intAt data 41))) ∧
    (¬ Accepts ofj this (bytes.take k) 0 k ↔ k < 49 ∨ ¬ ofj.AcceptsPort p.swInfo.lowDpid) ∧
    (¬ Accepts ofj this bytes 0 k ↔ k < 37 ∨ ¬ ofj.AcceptsPort p.swInfo.lowDpid) := by
  have hlen := packSize_le_length hbytes
  have htake : (bytes.take k).length = k := by
    rw [List.length_take]
    omega
  have hcut : 49 ≤ k → intAt (bytes.take k) 41 = p.swInfo.lowDpid := by
    intro h49
    have hinside := intAt_inside [] (bytes.drop k) (w := bytes.take k) (i := 41) (by omega)
    rw [List.take_append_drop, List.nil_append, List.length_nil, Nat.zero_add] at hinside
    rw [← hinside, intAt_of_serialize hbytes]
  unfold Accepts
  rw [deserialize_eq_ok_iff, deserialize_eq_ok_iff, deserialize_eq_ok_iff, htake,
    intAt_of_serialize hbytes]
  unfold HoldsPacket packSize SwitchInfo.len at *
  refine ⟨?_, ?_, ?_⟩
  · by_cases hport : ofj.AcceptsPort (intAt data 41)
    · simp only [hport, and_true]
      omega
    · simp only [hport, and_false, false_imp_iff, not_false_eq_true]
  · by_cases h49 : 49 ≤ k
    · rw [hcut h49, or_iff_right (by omega)]
      refine not_congr ⟨fun h => h.2.2.2.2, fun h => ⟨?_, ?_, ?_, h49, h⟩⟩ <;> omega
    · exact iff_of_true (fun h => h49 h.2.2.2.1) (Or.inl (by omega))
  · by_cases h37 : 37 ≤ k
    · rw [or_iff_right (by omega)]
      refine not_congr ⟨fun h => h.2.2.2.2, fun h => ⟨?_, ?_, ?_, ?_, h⟩⟩ <;> omega
    · exact iff_of_true (fun h => h37 (by have := h.2.1; omega)) (Or.inl (by omega))

/-- The first 49 bytes of a packet are taken for one. -/
theorem unitTestBytes_truncated :
    unitTestPacket.serialize = .ok unitTestBytes ∧
      Accepts OpenFlowJ.documented (new OpenFlowJ.documented ⟨0, 0⟩) (unitTestBytes.take 49) 0 49 ∧
      ¬ HoldsPacket (unitTestBytes.take 49) 0 49 := by
  refine ⟨by decide +kernel, deserialize_eq_ok_iff.mpr (by decide), fun h => ?_⟩
  exact absurd h.2.1 (by decide)

theorem unitTestBytes_rejectsTruncated_iff :
    ((Accepts OpenFlowJ.documented (new OpenFlowJ.documented ⟨0, 0⟩) unitTestBytes 1 40 →
        HoldsPacket unitTestBytes 1 40) ↔
      ¬ (0 ≤ (1 : Int) ∧ 37 ≤ (40 : Int) ∧ (40 : Int) < packSize ∧
        (1 : Int) + 40 ≤ unitTestBytes.length ∧ 49 ≤ unitTestBytes.length ∧
          OpenFlowJ.documented.AcceptsPort (intAt unitTestBytes 41))) ∧
    (¬ Accepts OpenFlowJ.documented (new OpenFlowJ.documented ⟨0, 0⟩) (unitTestBytes.take 48) 0
      (48 : Nat) ↔ 48 < 49 ∨ ¬ OpenFlowJ.documented.AcceptsPort unitTestPacket.swInfo.lowDpid) ∧
    (¬ Accepts OpenFlowJ.documented (new OpenFlowJ.documented ⟨0, 0⟩) unitTestBytes 0 (48 : Nat) ↔
      48 < 37 ∨ ¬ OpenFlowJ.documented.AcceptsPort unitTestPacket.swInfo.lowDpid) :=
  rejectsTruncated_iff OpenFlowJ.documented (new OpenFlowJ.documented ⟨0, 0⟩)
    unitTestBytes 1 40 unitTestPacket unitTestBytes (by decide +kernel) 48 (by decide)

end TracePacket

end JSdnTrace
