/-
  `java.util.HashMap` as a finite map. The map itself has no order: where the code walks a
  `keySet()`, the order is a parameter (`KeySetOrder`), so a result proved for every
  `KeySetOrder` holds whatever the hash buckets are.

  * `get_put`, `get_remove`: the two laws every other fact comes from.
  * `getObject`: `HashMap.get(Object)` given an object that need not be of the key class.
  * `KeySetOrder.first`: an order that visits a given key first.
  * `foldl_put_visit`: a map is the one that is built of its entries, in any order.
-/
import Mathlib.Data.Finmap
import Mathlib.Data.Finset.Sort
import Mathlib.Order.Lattice

namespace JSdnTrace.Java

/-- `java.util.HashMap<K, V>`. -/
abbrev HashMap (K V : Type) := Finmap fun _ : K => V

namespace HashMap

variable {K V L : Type} [DecidableEq K]

def get (m : HashMap K V) (k : K) : Option V := m.lookup k

def containsKey (m : HashMap K V) (k : K) : Bool := decide (k ∈ m)

def put (m : HashMap K V) (k : K) (v : V) : HashMap K V := m.insert k v

def remove (m : HashMap K V) (k : K) : HashMap K V := m.erase k

def keySet (m : HashMap K V) : Finset K := m.keys

def size (m : HashMap K V) : Nat := m.keys.card

/-- `get(Object)`. An object of another class `L` equals no key, so it finds no entry. -/
def getObject (m : HashMap K V) : K ⊕ L → Option V
  | .inl k => m.get k
  | .inr _ => none

/-- `remove(Object)`, which likewise finds no entry for an object of another class. -/
def removeObject (m : HashMap K V) : K ⊕ L → HashMap K V
  | .inl k => m.remove k
  | .inr _ => m

@[simp] theorem removeObject_inr (m : HashMap K V) (x : L) :
    m.removeObject (.inr x : K ⊕ L) = m := rfl

@[simp] theorem getObject_inl (m : HashMap K V) (k : K) :
    m.getObject (.inl k : K ⊕ L) = m.get k := rfl

@[simp] theorem getObject_inr (m : HashMap K V) (x : L) :
    m.getObject (.inr x : K ⊕ L) = none := rfl

@[simp] theorem get_empty (k : K) : get (∅ : HashMap K V) k = none := Finmap.lookup_empty k

theorem get_put (m : HashMap K V) (k k' : K) (v : V) :
    (m.put k v).get k' = if k' = k then some v else m.get k' := by
  unfold get put
  split
  · next h => rw [h, Finmap.lookup_insert]
  · next h => rw [Finmap.lookup_insert_of_ne _ h]

@[simp] theorem get_put_self (m : HashMap K V) (k : K) (v : V) : (m.put k v).get k = some v := by
  rw [get_put, if_pos rfl]

theorem get_put_of_ne (m : HashMap K V) {k k' : K} (v : V) (h : k' ≠ k) :
    (m.put k v).get k' = m.get k' := by
  rw [get_put, if_neg h]

theorem get_remove (m : HashMap K V) (k k' : K) :
    (m.remove k).get k' = if k' = k then none else m.get k' := by
  unfold get remove
  split
  · next h => rw [h, Finmap.lookup_erase]
  · next h => rw [Finmap.lookup_erase_ne h]

theorem put_put (m : HashMap K V) (k : K) (v w : V) : (m.put k v).put k w = m.put k w :=
  Finmap.insert_insert m

/-- Removing a key before it is put again changes nothing. -/
theorem remove_put (m : HashMap K V) (k : K) (v : V) : (m.remove k).put k v = m.put k v := by
  apply Finmap.ext_lookup
  intro k'
  show ((m.remove k).put k v).get k' = (m.put k v).get k'
  rw [get_put, get_put, get_remove]
  split <;> rfl

/-! Writes for different keys can be exchanged. -/

theorem put_put_of_ne (m : HashMap K V) {k k' : K} (v w : V) (h : k ≠ k') :
    (m.put k v).put k' w = (m.put k' w).put k v :=
  Finmap.insert_insert_of_ne m h

theorem put_remove_of_ne (m : HashMap K V) {k k' : K} (v : V) (h : k ≠ k') :
    (m.put k v).remove k' = (m.remove k').put k v := by
  apply Finmap.ext_lookup
  intro x
  show ((m.put k v).remove k').get x = ((m.remove k').put k v).get x
  rw [get_remove, get_put, get_put, get_remove]
  by_cases hx : x = k
  · rw [if_pos hx, if_pos hx, if_neg (hx ▸ h)]
  · rw [if_neg hx, if_neg hx]

theorem remove_remove_comm (m : HashMap K V) (k k' : K) :
    (m.remove k).remove k' = (m.remove k').remove k :=
  Finmap.erase_erase

/-- A loop of puts: the last entry with the key wins. -/
theorem get_foldl_put {α : Type} (key : α → K) (val : α → V) (as : List α) (m : HashMap K V)
    (k : K) :
    (as.foldl (fun m a => m.put (key a) (val a)) m).get k =
      ((as.filter fun a => key a = k).map val).getLast?.or (m.get k) := by
  induction as using List.reverseRecOn with
  | nil => rfl
  | append_singleton as a ih =>
    rw [List.foldl_append, List.foldl_cons, List.foldl_nil, get_put, ih, List.filter_append,
      List.map_append]
    by_cases h : key a = k
    · rw [if_pos h.symm]
      simp [h]
    · rw [if_neg (Ne.symm h)]
      simp [h]

/-- A loop of puts that puts one value for the key. -/
theorem get_foldl_put_of_forall {α : Type} (key : α → K) (val : α → V) {as : List α}
    (m : HashMap K V) {k : K} {v : V} (hex : ∃ a ∈ as, key a = k)
    (hv : ∀ a ∈ as, key a = k → val a = v) :
    (as.foldl (fun m a => m.put (key a) (val a)) m).get k = some v := by
  have hall : ∀ x ∈ (as.filter fun a => key a = k).map val, x = v := by
    intro x hx
    obtain ⟨a, ha, rfl⟩ := List.mem_map.mp hx
    obtain ⟨ha, hk⟩ := List.mem_filter.mp ha
    exact hv a ha (of_decide_eq_true hk)
  obtain ⟨a, ha, hk⟩ := hex
  have hmem : val a ∈ (as.filter fun a => key a = k).map val :=
    List.mem_map_of_mem (List.mem_filter.mpr ⟨ha, decide_eq_true hk⟩)
  rw [get_foldl_put, List.getLast?_eq_some_getLast (List.ne_nil_of_mem hmem), Option.some_or,
    hall _ (List.getLast_mem _)]

theorem containsKey_iff {m : HashMap K V} {k : K} : m.containsKey k = true ↔ k ∈ m := by
  unfold containsKey
  exact decide_eq_true_iff

theorem mem_iff_get {m : HashMap K V} {k : K} : k ∈ m ↔ ∃ v, m.get k = some v :=
  Finmap.mem_iff

theorem get_eq_none {m : HashMap K V} {k : K} : m.get k = none ↔ k ∉ m :=
  Finmap.lookup_eq_none

theorem containsKey_of_get_some {m : HashMap K V} {k : K} {v : V} (h : m.get k = some v) :
    m.containsKey k = true :=
  containsKey_iff.mpr (mem_iff_get.mpr ⟨v, h⟩)

theorem containsKey_of_get_none {m : HashMap K V} {k : K} (h : m.get k = none) :
    m.containsKey k = false := by
  rw [← Bool.not_eq_true, containsKey_iff]
  exact get_eq_none.mp h

theorem mem_put {m : HashMap K V} {k k' : K} {v : V} : k' ∈ m.put k v ↔ k' = k ∨ k' ∈ m :=
  Finmap.mem_insert

omit [DecidableEq K] in
theorem mem_keySet {m : HashMap K V} {k : K} : k ∈ m.keySet ↔ k ∈ m := Finmap.mem_keys

end HashMap

/-- An order in which a `for` loop may visit the keys of a `keySet()`. -/
structure KeySetOrder (K : Type) where
  visit : Finset K → List K
  nodup_visit : ∀ s, (visit s).Nodup
  mem_visit : ∀ s k, k ∈ visit s ↔ k ∈ s

/-- Keys in increasing order of an injective rank. -/
def KeySetOrder.increasing {K : Type} (rank : K → Nat) (h : Function.Injective rank) :
    KeySetOrder K :=
  letI : LinearOrder K := LinearOrder.lift' rank h
  { visit := fun s => s.sort (· ≤ ·)
    nodup_visit := fun s => s.sort_nodup _
    mem_visit := fun s _ => s.mem_sort _ }

/-- The order `o`, but for the key `k`, which is visited before all others. -/
def KeySetOrder.first {K : Type} [DecidableEq K] (o : KeySetOrder K) (k : K) : KeySetOrder K where
  visit s := if k ∈ s then k :: o.visit (s.erase k) else o.visit s
  nodup_visit s := by
    split
    · have hk : k ∉ o.visit (s.erase k) := by
        rw [o.mem_visit]
        exact Finset.notMem_erase k s
      exact List.nodup_cons.mpr ⟨hk, o.nodup_visit _⟩
    · exact o.nodup_visit s
  mem_visit s a := by
    split
    · next hk =>
      rw [List.mem_cons, o.mem_visit, Finset.mem_erase]
      by_cases ha : a = k
      · rw [ha]
        exact iff_of_true (Or.inl rfl) hk
      · tauto
    · exact o.mem_visit s a

theorem KeySetOrder.visit_first {K : Type} [DecidableEq K] (o : KeySetOrder K) {k : K}
    {s : Finset K} (h : k ∈ s) : (o.first k).visit s = k :: o.visit (s.erase k) :=
  if_pos h

/-- A map that is copied key by key, in any order. -/
theorem HashMap.foldl_put_visit {K V : Type} [DecidableEq K] (o : KeySetOrder K) (m : HashMap K V)
    (v : V) :
    (o.visit m.keySet).foldl (fun m' k => m'.put k ((m.get k).getD v)) ∅ = m := by
  apply Finmap.ext_lookup
  intro k
  show HashMap.get _ k = m.get k
  have hmem : ∀ k', k' ∈ o.visit m.keySet ↔ k' ∈ m :=
    fun k' => (o.mem_visit _ k').trans HashMap.mem_keySet
  cases hk : m.get k with
  | none =>
    rw [HashMap.get_foldl_put (fun k' => k') (fun k' => (m.get k').getD v)]
    have hnone : ((o.visit m.keySet).filter fun k' => k' = k) = [] := by
      rw [List.filter_eq_nil_iff]
      intro k' hk' heq
      rw [of_decide_eq_true heq] at hk'
      exact HashMap.get_eq_none.mp hk ((hmem k).mp hk')
    rw [hnone]
    exact HashMap.get_empty k
  | some w =>
    apply HashMap.get_foldl_put_of_forall (fun k' => k') (fun k' => (m.get k').getD v)
    · exact ⟨k, (hmem k).mpr (HashMap.mem_iff_get.mpr ⟨w, hk⟩), rfl⟩
    · intro k' _ heq
      rw [heq, hk, Option.getD_some]

end JSdnTrace.Java
