/-
  Encodings that can be read off the front of any string.

  `Delimits D enc key`: for the values in `D`, an encoding with anything behind it determines
  the `key` of the value and where the encoding ends. The key is what a reader can learn; it may
  be less than the value.

  * `Delimits.of_length`: an encoding of one length, injective on the key.
  * `Delimits.append`: one encoding after another. The second may depend on the key of the first,
    as a text does on the word that gives its length.
  * `Delimits.field`: the encoding of a field of a larger value.
  * `Delimits.terminated`: a text with an end mark that does not occur in it.
  * `Delimits.flatMap_inj`: a sequence of encodings, where nothing is encoded by nothing.
-/
import Mathlib.Data.List.Basic

namespace JSdnTrace.Lib

variable {α β γ κ μ : Type}

def Delimits (D : α → Prop) (enc : α → List β) (key : α → κ) : Prop :=
  ∀ a b, D a → D b → ∀ xs ys, enc a ++ xs = enc b ++ ys → key a = key b ∧ xs = ys

namespace Delimits

variable {D : α → Prop} {enc enc' : α → List β} {key : α → κ} {key' : α → μ}

theorem of_length (hlen : ∀ a b, D a → D b → (enc a).length = (enc b).length)
    (hinj : ∀ a b, D a → D b → enc a = enc b → key a = key b) : Delimits D enc key := by
  intro a b ha hb xs ys h
  obtain ⟨henc, hrest⟩ := List.append_inj h (hlen a b ha hb)
  exact ⟨hinj a b ha hb henc, hrest⟩

theorem append (h : Delimits D enc key)
    (h' : ∀ k, Delimits (fun a => D a ∧ key a = k) enc' key') :
    Delimits D (fun a => enc a ++ enc' a) fun a => (key a, key' a) := by
  intro a b ha hb xs ys hab
  rw [List.append_assoc, List.append_assoc] at hab
  obtain ⟨hkey, hrest⟩ := h a b ha hb _ _ hab
  obtain ⟨hkey', hend⟩ := h' (key b) a b ⟨ha, hkey⟩ ⟨hb, rfl⟩ _ _ hrest
  exact ⟨Prod.ext hkey hkey', hend⟩

/-- A field of a larger value. -/
theorem field {D : γ → Prop} (h : Delimits (fun _ => True) enc key) (f : γ → α) :
    Delimits D (fun c => enc (f c)) fun c => key (f c) :=
  fun a b _ _ => h (f a) (f b) trivial trivial

/-- A fixed text in front. -/
theorem literal (h : Delimits D enc key) (text : List β) :
    Delimits D (fun a => text ++ enc a) key := by
  intro a b ha hb xs ys hab
  rw [List.append_assoc, List.append_assoc] at hab
  exact h a b ha hb xs ys (List.append_cancel_left hab)

/-- A mark is at the end of what precedes it. -/
theorem eq_of_append_mark {mark : β} {us vs xs ys : List β} (hu : mark ∉ us) (hv : mark ∉ vs)
    (h : us ++ mark :: xs = vs ++ mark :: ys) : us = vs ∧ xs = ys := by
  induction us generalizing vs with
  | nil =>
    cases vs with
    | nil => exact ⟨rfl, (List.cons.inj h).2⟩
    | cons v vs => exact absurd (List.cons.inj h).1 fun heq => hv (heq ▸ List.mem_cons_self)
  | cons u us ih =>
    cases vs with
    | nil => exact absurd (List.cons.inj h).1 fun heq => hu (heq ▸ List.mem_cons_self)
    | cons v vs =>
      obtain ⟨rfl, htail⟩ := List.cons.inj h
      obtain ⟨rfl, hrest⟩ := ih (fun hm => hu (List.mem_cons_of_mem _ hm))
        (fun hm => hv (List.mem_cons_of_mem _ hm)) htail
      exact ⟨rfl, hrest⟩

theorem terminated (mark : β) (hmark : ∀ a, D a → mark ∉ enc a)
    (hinj : ∀ a b, D a → D b → enc a = enc b → key a = key b) :
    Delimits D (fun a => enc a ++ [mark]) key := by
  intro a b ha hb xs ys h
  rw [List.append_assoc, List.append_assoc, List.singleton_append, List.singleton_append] at h
  obtain ⟨henc, hrest⟩ := eq_of_append_mark (hmark a ha) (hmark b hb) h
  exact ⟨hinj a b ha hb henc, hrest⟩

theorem flatMap_inj (h : Delimits D enc key) (hne : ∀ a, D a → enc a ≠ []) {as bs : List α}
    (has : ∀ a ∈ as, D a) (hbs : ∀ b ∈ bs, D b) (heq : as.flatMap enc = bs.flatMap enc) :
    as.map key = bs.map key := by
  induction as generalizing bs with
  | nil =>
    cases bs with
    | nil => rfl
    | cons b bs =>
      rw [List.flatMap_nil, List.flatMap_cons] at heq
      exact absurd (List.append_eq_nil_iff.mp heq.symm).1 (hne b (hbs b List.mem_cons_self))
  | cons a as ih =>
    obtain ⟨ha, has⟩ := List.forall_mem_cons.mp has
    cases bs with
    | nil =>
      rw [List.flatMap_nil, List.flatMap_cons] at heq
      exact absurd (List.append_eq_nil_iff.mp heq).1 (hne a ha)
    | cons b bs =>
      obtain ⟨hb, hbs⟩ := List.forall_mem_cons.mp hbs
      rw [List.flatMap_cons, List.flatMap_cons] at heq
      obtain ⟨hkey, hrest⟩ := h a b ha hb _ _ heq
      rw [List.map_cons, List.map_cons, hkey, ih has hbs hrest]

end Delimits

end JSdnTrace.Lib
