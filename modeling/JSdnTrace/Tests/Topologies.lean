/-
  Networks to ping over.

  * `linear`: the string of switches of `generateRandomNetwork`, each with a host. It has no loops
    and joins all hosts.
  * `looped`: a switch with a wire between two of its ports.
-/
import JSdnTrace.Tests.Reach

namespace JSdnTrace.Tests

open Java Lib Relation

section Linear

variable {n : Nat} (dpids ips : Fin n → JLong) (flows : Fin n → List Flow)

/-- Port 1 of a switch leads to the controller, ports 2 and 3 to the next switch and to the one
    before, and port 4 to its host. -/
def linear : DummyNetwork (Fin n) (Fin n) where
  switches i := {
    dpid := dpids i
    ports := [
      ⟨1, true, some ⟨.net, .port i 1⟩⟩,
      ⟨2, true, if h : i + 1 < n then some ⟨.port i 2, .port ⟨i + 1, h⟩ 3⟩ else none⟩,
      ⟨3, true, if 0 < i.val then some ⟨.port ⟨i - 1, by omega⟩ 2, .port i 3⟩ else none⟩,
      ⟨4, true, some ⟨.host i, .port i 4⟩⟩,
      ⟨5, true, none⟩]
    flowTable := flows i
    controllerPort := 1
    numbered := rfl }
  hosts i := ⟨ips i, some ⟨.host i, .port i 4⟩⟩

/-- The wires of a string. -/
def Link : End (Fin n) (Fin n) → End (Fin n) (Fin n) → Prop
  | .inl (i, a), .inl (j, b) =>
    a = 2 ∧ b = 3 ∧ j.val = i.val + 1 ∨ a = 3 ∧ b = 2 ∧ i.val = j.val + 1
  | .inl (i, a), .inr j => a = 4 ∧ i = j
  | .inr i, .inl (j, b) => b = 4 ∧ i = j
  | .inr _, .inr _ => False

theorem far_port (i : Fin n) (j : Int) :
    far (linear dpids ips flows) (.inl (i, j)) =
      if j = 2 then if h : i.val + 1 < n then some (.inl (⟨i + 1, h⟩, 3)) else none
      else if j = 3 then if 0 < i.val then some (.inl (⟨i - 1, by omega⟩, 2)) else none
      else if j = 4 then some (.inr i)
      else none := by
  by_cases h1 : j = 1
  · simp [far, linear, DummySwitch.find, h1, Wire.fromPort, endOf]
  by_cases h2 : j = 2
  · by_cases h : i.val + 1 < n <;>
      simp [far, linear, DummySwitch.find, h2, h, Wire.fromPort, endOf]
  by_cases h3 : j = 3
  · by_cases h : 0 < i.val <;>
      simp [far, linear, DummySwitch.find, h3, h, Wire.fromPort, endOf]
  by_cases h4 : j = 4
  · simp [far, linear, DummySwitch.find, h4, Wire.fromPort, endOf]
  by_cases h5 : j = 5
  · simp [far, linear, DummySwitch.find, h5]
  simp [far, linear, DummySwitch.find, Ne.symm h1, Ne.symm h2, Ne.symm h3, Ne.symm h4, Ne.symm h5,
    h2, h3, h4]

theorem far_host (i : Fin n) :
    far (linear dpids ips flows) (.inr i) = some (.inl (i, 4)) := by
  simp [far, linear, DummySwitch.find, Wire.fromHost, endOf]

theorem far_linear (p q : End (Fin n) (Fin n)) :
    far (linear dpids ips flows) p = some q ↔ Link p q := by
  cases p with
  | inr i =>
    rw [far_host]
    cases q with
    | inl q => simp [Link, Prod.ext_iff, eq_comm, and_comm]
    | inr j => simp [Link]
  | inl p =>
    obtain ⟨i, a⟩ := p
    rw [far_port]
    cases q with
    | inl q =>
      obtain ⟨j, b⟩ := q
      simp only [Link]
      split_ifs <;> simp [Fin.ext_iff] <;> omega
    | inr j =>
      simp only [Link]
      split_ifs <;> simp [Fin.ext_iff] <;> omega

theorem Link.symm {p q : End (Fin n) (Fin n)} (h : Link p q) : Link q p := by
  cases p with
  | inl p =>
    cases q with
    | inl q =>
      rcases h with ⟨ha, hb, hval⟩ | ⟨ha, hb, hval⟩
      · exact Or.inr ⟨hb, ha, hval⟩
      · exact Or.inl ⟨hb, ha, hval⟩
    | inr j => exact ⟨h.1, h.2.symm⟩
  | inr i =>
    cases q with
    | inl q => exact ⟨h.1, h.2.symm⟩
    | inr j => exact h

theorem not_link_self (p : End (Fin n) (Fin n)) : ¬ Link p p := by
  cases p with
  | inl p =>
    rintro (⟨-, -, hval⟩ | ⟨-, -, hval⟩)
    · omega
    · omega
  | inr i => exact id

theorem wellWired_linear : WellWired (linear dpids ips flows) where
  far_symm h := (far_linear ..).mpr ((far_linear ..).mp h).symm
  far_ne p h := not_link_self p ((far_linear ..).mp h)
  controller i := by
    refine ⟨⟨1, true, some ⟨.net, .port i 1⟩⟩, rfl, fun w hw => ?_⟩
    cases hw
    exact if_pos rfl

/-- How far a packet that has arrived can still go. -/
def toGo : End (Fin n) (Fin n) → Nat
  | .inr _ => 0
  | .inl (i, a) => if a = 3 then n - i else if a = 2 then i + 1 else n + 1

theorem loopFree_linear (v : Fin n ⊕ Fin n) :
    (wiring (wellWired_linear dpids ips flows)).LoopFree v := by
  refine Wiring.loopFree_of_measure toGo (fun p r hnext => ?_) v
  obtain ⟨q, hnode, hne, hfar⟩ := hnext
  have hlink := (far_linear dpids ips flows q r).mp hfar
  cases p with
  | inr i =>
    obtain rfl := eq_inr_of_node _ hnode
    exact absurd rfl hne
  | inl p =>
    obtain ⟨i, a⟩ := p
    cases q with
    | inr j => cases hnode
    | inl q =>
      obtain ⟨j, b⟩ := q
      cases hnode
      have hab : b ≠ a := fun heq => hne (by rw [heq])
      cases r with
      | inr k =>
        simp only [toGo]
        split_ifs <;> omega
      | inl r =>
        obtain ⟨k, c⟩ := r
        simp only [Link] at hlink
        simp only [toGo]
        split_ifs <;> omega

theorem adj_of_link {p q : End (Fin n) (Fin n)} (h : Link p q) :
    (wiring (wellWired_linear dpids ips flows)).Adj (Sum.map Prod.fst id p)
      (Sum.map Prod.fst id q) :=
  adj_of_far (wellWired_linear dpids ips flows) ((far_linear ..).mpr h)

theorem joined_first (i : Nat) (hi : i < n) :
    (wiring (wellWired_linear dpids ips flows)).Joined (.inr ⟨i, hi⟩)
      (.inl ⟨0, Nat.zero_lt_of_lt hi⟩) := by
  have hhost : Link (.inr ⟨i, hi⟩) (.inl (⟨i, hi⟩, 4)) := ⟨rfl, rfl⟩
  refine .head (adj_of_link _ _ _ hhost) ?_
  clear hhost
  induction i with
  | zero => exact .refl
  | succ i ih =>
    have hbefore : Link (.inl (⟨i + 1, hi⟩, 3)) (.inl (⟨i, Nat.lt_of_succ_lt hi⟩, 2)) :=
      Or.inr ⟨rfl, rfl, rfl⟩
    have hadj := adj_of_link dpids ips flows hbefore
    exact .head hadj (ih (Nat.lt_of_succ_lt hi))

theorem joined_linear (i j : Fin n) :
    (wiring (wellWired_linear dpids ips flows)).Joined (.inr i) (.inr j) :=
  (joined_first dpids ips flows i i.isLt).trans (joined_first dpids ips flows j j.isLt).symm

end Linear

section Looped

/-- A wire leads from port 2 to port 3, and port 4 to the host. -/
def looped : DummyNetwork Unit Unit where
  switches _ := {
    dpid := 1
    ports := [
      ⟨1, true, some ⟨.net, .port () 1⟩⟩,
      ⟨2, true, some ⟨.port () 2, .port () 3⟩⟩,
      ⟨3, true, some ⟨.port () 2, .port () 3⟩⟩,
      ⟨4, true, some ⟨.host (), .port () 4⟩⟩]
    flowTable := []
    controllerPort := 1
    numbered := rfl }
  hosts _ := ⟨1, some ⟨.host (), .port () 4⟩⟩

theorem far_looped (j : Int) :
    far looped (.inl ((), j)) =
      if j = 2 then some (.inl ((), 3))
      else if j = 3 then some (.inl ((), 2))
      else if j = 4 then some (.inr ())
      else none := by
  by_cases h1 : j = 1
  · simp [far, looped, DummySwitch.find, h1, Wire.fromPort, endOf]
  by_cases h2 : j = 2
  · simp [far, looped, DummySwitch.find, h2, Wire.fromPort, endOf]
  by_cases h3 : j = 3
  · simp [far, looped, DummySwitch.find, h3, Wire.fromPort, endOf]
  by_cases h4 : j = 4
  · simp [far, looped, DummySwitch.find, h4, Wire.fromPort, endOf]
  simp [far, looped, DummySwitch.find, Ne.symm h1, Ne.symm h2, Ne.symm h3, Ne.symm h4, h2, h3, h4]

theorem far_looped_host : far looped (.inr ()) = some (.inl ((), 4)) := rfl

theorem wellWired_looped : WellWired looped where
  far_symm {p q} h := by
    cases p with
    | inr i =>
      cases h
      rw [far_looped]
      rfl
    | inl p =>
      obtain ⟨i, a⟩ := p
      rw [far_looped] at h
      split_ifs at h with h2 h3 h4
      · cases h
        rw [far_looped, h2]
        rfl
      · cases h
        rw [far_looped, h3]
        rfl
      · cases h
        rw [h4]
        rfl
  far_ne p h := by
    cases p with
    | inr i => cases h
    | inl p =>
      obtain ⟨i, a⟩ := p
      rw [far_looped] at h
      split_ifs at h with h2 h3 h4
      · cases h
        omega
      · cases h
        omega
      · cases h
  controller i := by
    refine ⟨⟨1, true, some ⟨.net, .port () 1⟩⟩, rfl, fun w hw => ?_⟩
    cases hw
    rfl

/-- What comes in at port 3 leaves through port 2 and comes in at port 3 again. -/
theorem not_loopFree_looped : ¬ (wiring wellWired_looped).LoopFree (.inr ()) := by
  intro hfree
  have hfar : far looped (.inl ((), 2)) = some (.inl ((), 3)) := by
    rw [far_looped]
    rfl
  have hjoined : (wiring wellWired_looped).Joined (.inr ()) (.inl ()) :=
    joined_far wellWired_looped far_looped_host
  exact hfree (.inl ((), 3)) hjoined (.single (next_of_far wellWired_looped (by decide) hfar))

end Looped

end JSdnTrace.Tests
