/-
  The mesh networks of `generateRandomNetwork`: a wire between every two switches, and the hosts at
  one of them.

  * `mesh_overflows`: from three switches on, no ping over a mesh returns.
-/
import JSdnTrace.Tests.Ping

namespace JSdnTrace.Tests

open Java Lib Relation

section Mesh

variable {n m : Nat}

/-- The wire at a port. Port 1 leads to the controller; then come the other switches, in the order
    in which they were added, and the hosts if this is the switch `t` they are plugged into. -/
def meshWire (t i : Fin n) (a : Nat) : Option (Wire (Fin n) (Fin m)) :=
  if a = 1 then some ⟨.net, .port i 1⟩
  else if h : 2 ≤ a ∧ a < i + 2 then
    some ⟨.port ⟨a - 2, by omega⟩ (i + 1 : Nat), .port i a⟩
  else if h : i + 2 ≤ a ∧ a ≤ n then
    some ⟨.port i a, .port ⟨a - 1, by omega⟩ (i + 2 : Nat)⟩
  else if h : i = t ∧ n < a ∧ a ≤ n + m then
    some ⟨.host ⟨a - (n + 1), by omega⟩, .port i a⟩
  else none

variable (k : Nat) (t : Fin n) (dpids : Fin n → JLong) (ips : Fin m → JLong)
  (flows : Fin n → List Flow)

/-- Each switch has `k` ports. -/
def mesh : DummyNetwork (Fin n) (Fin m) where
  switches i := {
    dpid := dpids i
    ports := (List.range k).map fun j => ⟨(j + 1 : Nat), true, meshWire t i (j + 1)⟩
    flowTable := flows i
    controllerPort := 1
    numbered := by simp [Function.comp_def] }
  hosts h := ⟨ips h, some ⟨.host h, .port t (n + 1 + h : Nat)⟩⟩

/-- The wires of a mesh. -/
def MeshLink : End (Fin n) (Fin m) → End (Fin n) (Fin m) → Prop
  | .inl (i, a), .inl (j, b) =>
    (j < i ∧ a = (j + 2 : Nat) ∧ b = (i + 1 : Nat)) ∨
      (i < j ∧ a = (j + 1 : Nat) ∧ b = (i + 2 : Nat))
  | .inl (i, a), .inr h => i = t ∧ a = (n + 1 + h : Nat)
  | .inr h, .inl (i, a) => i = t ∧ a = (n + 1 + h : Nat)
  | .inr _, .inr _ => False

theorem MeshLink.symm {p q : End (Fin n) (Fin m)} (h : MeshLink t p q) : MeshLink t q p := by
  cases p with
  | inl p =>
    cases q with
    | inl q =>
      rcases h with ⟨hlt, ha, hb⟩ | ⟨hlt, ha, hb⟩
      · exact Or.inr ⟨hlt, hb, ha⟩
      · exact Or.inl ⟨hlt, hb, ha⟩
    | inr h' => exact h
  | inr h' =>
    cases q with
    | inl q => exact h
    | inr h'' => exact h

theorem not_meshLink_self (p : End (Fin n) (Fin m)) : ¬ MeshLink t p p := by
  cases p with
  | inl p =>
    rintro (⟨hlt, -⟩ | ⟨hlt, -⟩)
    · exact lt_irrefl _ hlt
    · exact lt_irrefl _ hlt
  | inr h => exact id

theorem find_mesh (i : Fin n) {a : Nat} (h : 1 ≤ a ∧ a ≤ k) :
    ((mesh k t dpids ips flows).switches i).find a = some ⟨a, true, meshWire t i a⟩ := by
  obtain ⟨j, rfl⟩ := Nat.exists_eq_add_of_le' h.1
  exact find_number ((mesh k t dpids ips flows).switches i)
    (List.mem_map.mpr ⟨j, List.mem_range.mpr (by omega), rfl⟩)

theorem endOf_mesh (i : Fin n) {a : Nat} (h : 1 ≤ a ∧ a ≤ k) :
    endOf (mesh k t dpids ips flows) (.port i a) = some (.inl (i, (a : Int))) := by
  simp [endOf, find_mesh k t dpids ips flows i h]

theorem far_mesh_host (hk : n + m ≤ k) (h : Fin m) :
    far (mesh k t dpids ips flows) (.inr h) = some (.inl (t, ((n + 1 + h : Nat) : Int))) := by
  have hport : 1 ≤ n + 1 + h.val ∧ n + 1 + h.val ≤ k := by omega
  have hplugged : ((mesh k t dpids ips flows).hosts h).plugged =
      some ⟨.host h, .port t (n + 1 + h : Nat)⟩ := rfl
  rw [far_of_plugged hplugged, ← endOf_mesh k t dpids ips flows t hport]
  unfold Wire.fromHost
  rw [if_pos rfl]

theorem far_mesh_port (i : Fin n) {a : Nat} (h : 1 ≤ a ∧ a ≤ k) :
    far (mesh k t dpids ips flows) (.inl (i, (a : Int))) =
      (meshWire t i a).bind fun w => endOf (mesh k t dpids ips flows) (w.fromPort i a) := by
  simp [far, find_mesh k t dpids ips flows i h]

theorem exists_nat_of_far {i : Fin n} {a : Int} {q : End (Fin n) (Fin m)}
    (h : far (mesh k t dpids ips flows) (.inl (i, a)) = some q) :
    ∃ b : Nat, a = b ∧ 1 ≤ b ∧ b ≤ k := by
  obtain ⟨port, hfind, -⟩ := Option.bind_eq_some_iff.mp h
  obtain ⟨hmem, rfl⟩ := find_eq_some ((mesh k t dpids ips flows).switches i) hfind
  obtain ⟨j, hj, rfl⟩ := List.mem_map.mp hmem
  exact ⟨j + 1, rfl, Nat.le_add_left 1 j, List.mem_range.mp hj⟩

theorem far_before (hk : n + m ≤ k) {i j : Fin n} (h : j < i) :
    far (mesh k t dpids ips flows) (.inl (i, ((j + 2 : Nat) : Int))) =
      some (.inl (j, ((i + 1 : Nat) : Int))) := by
  have hlt : j.val < i.val := h
  rw [far_mesh_port k t dpids ips flows i (by omega)]
  have hwire : meshWire (m := m) t i (j + 2) =
      some ⟨.port j (i + 1 : Nat), .port i (j + 2 : Nat)⟩ := by
    unfold meshWire
    rw [if_neg (by omega), dif_pos (by omega)]
    rfl
  rw [hwire, Option.bind_some, Wire.fromPort, if_pos rfl]
  exact endOf_mesh k t dpids ips flows j (by omega)

theorem far_after (hk : n + m ≤ k) {i j : Fin n} (h : i < j) :
    far (mesh k t dpids ips flows) (.inl (i, ((j + 1 : Nat) : Int))) =
      some (.inl (j, ((i + 2 : Nat) : Int))) := by
  have hlt : i.val < j.val := h
  rw [far_mesh_port k t dpids ips flows i (by omega)]
  have hwire : meshWire (m := m) t i (j + 1) =
      some ⟨.port i (j + 1 : Nat), .port j (i + 2 : Nat)⟩ := by
    unfold meshWire
    rw [if_neg (by omega), dif_neg (by omega), dif_pos (by omega)]
    rfl
  have hne : (INetNode.port j (i + 2 : Nat) : INetNode (Fin n) (Fin m)) ≠
      .port i (j + 1 : Nat) := by
    intro heq
    injection heq with heq
    exact absurd heq h.ne'
  rw [hwire, Option.bind_some, Wire.fromPort, if_neg hne]
  exact endOf_mesh k t dpids ips flows j (by omega)

theorem far_hosts (hk : n + m ≤ k) (h : Fin m) :
    far (mesh k t dpids ips flows) (.inl (t, ((n + 1 + h : Nat) : Int))) = some (.inr h) := by
  have ht := t.isLt
  rw [far_mesh_port k t dpids ips flows t (by omega)]
  have hwire : meshWire t t (n + 1 + h) = some ⟨.host h, .port t (n + 1 + h : Nat)⟩ := by
    unfold meshWire
    rw [if_neg (by omega), dif_neg (by omega), dif_neg (by omega), dif_pos (by omega)]
    simp
  rw [hwire, Option.bind_some, Wire.fromPort, if_pos rfl]
  rfl

theorem far_mesh (hk : n + m ≤ k) (p q : End (Fin n) (Fin m)) :
    far (mesh k t dpids ips flows) p = some q ↔ MeshLink t p q := by
  cases p with
  | inr h =>
    rw [far_mesh_host k t dpids ips flows hk, Option.some_inj]
    cases q with
    | inl q =>
      rw [Sum.inl.injEq, Prod.ext_iff]
      exact and_congr eq_comm eq_comm
    | inr h' => simp [MeshLink]
  | inl p =>
    obtain ⟨i, a⟩ := p
    refine ⟨fun h => ?_, fun h => ?_⟩
    · obtain ⟨b, rfl, hb⟩ := exists_nat_of_far k t dpids ips flows h
      rcases Nat.lt_or_ge b (i + 2) with hlow | hhigh
      · rcases Nat.lt_or_ge b 2 with hone | htwo
        · obtain rfl : b = 1 := by omega
          have hwire : meshWire (m := m) t i 1 = some ⟨.net, .port i (1 : Nat)⟩ := rfl
          rw [far_mesh_port k t dpids ips flows i hb, hwire, Option.bind_some, Wire.fromPort,
            if_pos rfl] at h
          cases h
        · obtain ⟨j, rfl⟩ := Nat.exists_eq_add_of_le' htwo
          have hlt : (⟨j, by omega⟩ : Fin n) < i := Nat.lt_of_add_lt_add_right hlow
          rw [far_before k t dpids ips flows hk hlt] at h
          cases h
          exact Or.inl ⟨hlt, rfl, rfl⟩
      · rcases Nat.lt_or_ge n b with hhost | hswitch
        · by_cases hplugged : i = t ∧ b ≤ n + m
          · obtain ⟨rfl, hle⟩ := hplugged
            obtain ⟨j, rfl⟩ := Nat.exists_eq_add_of_le hhost
            have hfar := far_hosts k i dpids ips flows hk ⟨j, by omega⟩
            rw [show n + 1 + j = n.succ + j from rfl] at hfar
            rw [hfar] at h
            cases h
            exact ⟨rfl, rfl⟩
          · have hwire : meshWire (m := m) t i b = none := by
              unfold meshWire
              rw [if_neg (by omega), dif_neg (by omega), dif_neg (by omega),
                dif_neg fun hex => hplugged ⟨hex.1, hex.2.2⟩]
            rw [far_mesh_port k t dpids ips flows i hb, hwire] at h
            cases h
        · obtain ⟨j, rfl⟩ := Nat.exists_eq_add_of_le' hb.1
          have hlt : i < (⟨j, by omega⟩ : Fin n) := Nat.lt_of_succ_lt_succ hhigh
          rw [far_after k t dpids ips flows hk hlt] at h
          cases h
          exact Or.inr ⟨hlt, rfl, rfl⟩
    · cases q with
      | inl q =>
        obtain ⟨j, b⟩ := q
        rcases h with ⟨hlt, rfl, rfl⟩ | ⟨hlt, rfl, rfl⟩
        · exact far_before k t dpids ips flows hk hlt
        · exact far_after k t dpids ips flows hk hlt
      | inr h' =>
        obtain ⟨rfl, rfl⟩ := h
        exact far_hosts k i dpids ips flows hk h'

theorem wellWired_mesh (hk : n + m ≤ k) : WellWired (mesh k t dpids ips flows) where
  far_symm h :=
    (far_mesh k t dpids ips flows hk ..).mpr ((far_mesh k t dpids ips flows hk ..).mp h).symm
  far_ne p h := not_meshLink_self t p ((far_mesh k t dpids ips flows hk ..).mp h)
  controller i := by
    have hk' : 1 ≤ 1 ∧ 1 ≤ k := ⟨le_rfl, by have hi := i.isLt; omega⟩
    refine ⟨⟨(1 : Nat), true, meshWire t i 1⟩, ?_, fun w hw => ?_⟩
    · show DummySwitch.getPort _ ((1 : Nat) : Int) = _
      unfold DummySwitch.getPort
      rw [if_neg (by decide), find_mesh k t dpids ips flows i hk']
    · cases hw
      exact if_pos rfl

theorem joined_mesh (hk : n + m ≤ k) (h : Fin m) (i : Fin n) :
    (wiring (wellWired_mesh k t dpids ips flows hk)).Joined (.inr h) (.inl i) := by
  have hw := wellWired_mesh k t dpids ips flows hk
  refine .head (adj_of_far hw (far_mesh_host k t dpids ips flows hk h)) ?_
  rcases lt_trichotomy t i with hlt | rfl | hgt
  · exact .single (adj_of_far hw (far_after k t dpids ips flows hk hlt))
  · exact .refl
  · exact .single (adj_of_far hw (far_before k t dpids ips flows hk hgt))

/-- What comes from the first switch to the second leaves for the third, and from there for the
    first. -/
theorem not_loopFree_mesh (hk : n + m ≤ k) (hn : 3 ≤ n) (h : Fin m) :
    ¬ (wiring (wellWired_mesh k t dpids ips flows hk)).LoopFree (.inr h) := by
  intro hfree
  have hw := wellWired_mesh k t dpids ips flows hk
  let s₀ : Fin n := ⟨0, by omega⟩
  let s₁ : Fin n := ⟨1, by omega⟩
  let s₂ : Fin n := ⟨2, by omega⟩
  have h₁₂ : s₁ < s₂ := Nat.one_lt_two
  have h₀₂ : s₀ < s₂ := Nat.two_pos
  have h₀₁ : s₀ < s₁ := Nat.one_pos
  have hne : ((2 + 1 : Nat) : Int) ≠ 2 := by decide
  have hne' : ((0 + 2 : Nat) : Int) ≠ 3 := by decide
  have hto₂ : (wiring hw).Next (.inl (s₁, 2)) (.inl (s₂, 3)) :=
    next_of_far hw hne (far_after k t dpids ips flows hk h₁₂)
  have hto₀ : (wiring hw).Next (.inl (s₂, 3)) (.inl (s₀, 3)) :=
    next_of_far hw hne' (far_before k t dpids ips flows hk h₀₂)
  have hto₁ : (wiring hw).Next (.inl (s₀, 3)) (.inl (s₁, 2)) :=
    next_of_far hw hne' (far_after k t dpids ips flows hk h₀₁)
  have hloop : (wiring hw).Loop (.inl (s₁, 2)) := .head hto₂ (.head hto₀ (.single hto₁))
  exact hfree (.inl (s₁, 2)) (joined_mesh k t dpids ips flows hk h s₁) hloop

/-- From three switches on, a ping over a mesh overflows the stack, whoever sends it. -/
theorem mesh_overflows (hk : n + m ≤ k) (hn : 3 ≤ n) (hflows : ∀ i, ∀ f ∈ flows i, f.NotForPings)
    (h : Fin m) (dstIp : JLong) (depth : Nat) (log : List (Entry (Fin m))) :
    (run (sendPingRequest (mesh k t dpids ips flows) depth h dstIp) log).1 =
      .error (.error "StackOverflowError") :=
  ping_overflows (wellWired_mesh k t dpids ips flows hk) hflows
    (not_loopFree_mesh k t dpids ips flows hk hn h) dstIp depth log

/-- Two hosts at the first of three switches. -/
theorem mesh_overflows_three :
    (run (sendPingRequest (mesh 5 (0 : Fin 3) (fun _ => 0) (fun h : Fin 2 => BitVec.ofNat 64 h)
      fun _ => []) 1000 0 1) []).1 = .error (.error "StackOverflowError") :=
  mesh_overflows 5 0 _ _ _ le_rfl le_rfl (fun _ _ hf => absurd hf List.not_mem_nil) 0 1 1000 []

end Mesh

end JSdnTrace.Tests
