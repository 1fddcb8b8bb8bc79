/-
  Java statements as state transformers that may throw. A throw keeps every write made
  before it: `Exec σ` is exceptions over state, so `catch` runs in the state the throw left.

  * `run_bind`, `run_tryCatch`: the equations that execute a block symbolically.
  * `deref`: reading through a reference that may be null.
  * `ok_bind`, `error_bind`, `bind_eq_ok`: the same for code that touches no heap.
  * `ThrowsOnly.bind`, `RunThrowsOnly.bind`: what code throws, from what its parts throw.
  * `fst_run_tryCatch_print`: a `catch` has no part in what does not throw its class.
  * `run_zoom`: a block that works on a part of the heap.
-/
import Mathlib.Logic.Basic

namespace JSdnTrace.Java

/-- The exceptions the modelled code raises itself, any other `Exception` by its class, and an
    `Error`, which `catch (Exception e)` lets pass, by its class. -/
inductive Throwable where
  | nullPointer
  | indexOutOfBounds
  | arrayIndexOutOfBounds
  | negativeArraySize
  | bufferUnderflow
  | bufferOverflow
  | illegalArgument
  | other (name : String)
  | error (name : String)
  deriving DecidableEq, Repr

/-- A block over the heap `σ`. -/
abbrev Exec (σ : Type) := ExceptT Throwable (StateM σ)

/-- Run a block: what it returned or threw, and the heap it left. -/
def run {σ α : Type} (x : Exec σ α) (s : σ) : Except Throwable α × σ :=
  StateT.run (ExceptT.run x) s

section Except

variable {α β : Type}

@[simp] theorem ok_bind (a : α) (f : α → Except Throwable β) : (Except.ok a >>= f) = f a := rfl

@[simp] theorem error_bind (e : Throwable) (f : α → Except Throwable β) :
    ((Except.error e : Except Throwable α) >>= f) = .error e := rfl

theorem bind_eq_ok {x : Except Throwable α} {f : α → Except Throwable β} {b : β} :
    (x >>= f) = .ok b ↔ ∃ a, x = .ok a ∧ f a = .ok b := by
  cases x <;> simp

theorem bind_eq_error {x : Except Throwable α} {f : α → Except Throwable β} {e : Throwable} :
    (x >>= f) = .error e ↔ x = .error e ∨ ∃ a, x = .ok a ∧ f a = .error e := by
  cases x <;> simp

end Except

/-- Dereference or unbox `x`. -/
def deref {α : Type} : Option α → Except Throwable α
  | some a => .ok a
  | none => .error .nullPointer

@[simp] theorem deref_some {α : Type} (a : α) : deref (some a) = .ok a := rfl

@[simp] theorem deref_none {α : Type} : deref (none : Option α) = .error .nullPointer := rfl

theorem deref_eq_ok {α : Type} {x : Option α} {a : α} : deref x = .ok a ↔ x = some a := by
  cases x <;> simp

section Throws

variable {α β : Type} {name : String}

/-- `x` throws nothing but what satisfies `P`. -/
def ThrowsOnly (P : Throwable → Prop) (x : Except Throwable α) : Prop := ∀ e, x = .error e → P e

theorem throwsOnly_ok {P : Throwable → Prop} (a : α) : ThrowsOnly P (.ok a) := by
  intro e h
  cases h

theorem throwsOnly_error {P : Throwable → Prop} {e : Throwable} (h : P e) :
    ThrowsOnly P (.error e : Except Throwable α) := by
  intro e' he
  cases he
  exact h

/-- What follows is looked at with the value that was returned. -/
theorem ThrowsOnly.bind_of_ok {P : Throwable → Prop} {x : Except Throwable α}
    {f : α → Except Throwable β} (h : ThrowsOnly P x)
    (h' : ∀ a, x = .ok a → ThrowsOnly P (f a)) : ThrowsOnly P (x >>= f) := by
  intro e he
  rcases bind_eq_error.mp he with hx | ⟨a, hx, ha⟩
  · exact h e hx
  · exact h' a hx e ha

theorem ThrowsOnly.bind {P : Throwable → Prop} {x : Except Throwable α}
    {f : α → Except Throwable β} (h : ThrowsOnly P x) (h' : ∀ a, ThrowsOnly P (f a)) :
    ThrowsOnly P (x >>= f) :=
  h.bind_of_ok fun a _ => h' a

theorem ThrowsOnly.mono {P Q : Throwable → Prop} {x : Except Throwable α} (h : ThrowsOnly P x)
    (hPQ : ∀ e, P e → Q e) : ThrowsOnly Q x :=
  fun e he => hPQ e (h e he)

/-- An exception that the modelled code raises itself. -/
def Throwable.IsOwn : Throwable → Prop
  | .other _ => False
  | .error _ => False
  | _ => True

/-- `x` throws nothing but what the modelled code raises itself. -/
abbrev ThrowsOwn (x : Except Throwable α) : Prop := ThrowsOnly Throwable.IsOwn x

theorem throwsOwn_deref (x : Option α) : ThrowsOwn (deref x) := by
  cases x with
  | some a => exact throwsOnly_ok a
  | none => exact throwsOnly_error trivial

/-- `x` does not throw an exception of the class `name`. -/
def DoesNotThrow (name : String) (x : Except Throwable α) : Prop := x ≠ .error (.other name)

theorem doesNotThrow_ok (a : α) : DoesNotThrow name (.ok a) := by
  intro h
  cases h

theorem ThrowsOwn.doesNotThrow {x : Except Throwable α} (h : ThrowsOwn x) : DoesNotThrow name x :=
  fun he => h _ he

theorem DoesNotThrow.bind {x : Except Throwable α} {f : α → Except Throwable β}
    (h : DoesNotThrow name x) (h' : ∀ a, DoesNotThrow name (f a)) :
    DoesNotThrow name (x >>= f) := by
  cases x with
  | ok a => exact h' a
  | error e =>
    intro he
    cases he
    exact h rfl

end Throws

section Run

variable {σ α β : Type}

/-- What follows a block, once the block has been run. -/
def andThen (f : α → Exec σ β) : Except Throwable α × σ → Except Throwable β × σ
  | (.ok a, s) => run (f a) s
  | (.error e, s) => (.error e, s)

@[simp] theorem andThen_ok (f : α → Exec σ β) (a : α) (s : σ) :
    andThen f (.ok a, s) = run (f a) s := rfl

@[simp] theorem andThen_error (f : α → Exec σ β) (e : Throwable) (s : σ) :
    andThen f (.error e, s) = (.error e, s) := rfl

theorem run_bind (x : Exec σ α) (f : α → Exec σ β) (s : σ) :
    run (x >>= f) s = andThen f (run x s) := by
  unfold run
  rw [ExceptT.run_bind, StateT.run_bind]
  rcases h : StateT.run (ExceptT.run x) s with ⟨r, s'⟩
  cases r <;> rfl

@[simp] theorem run_pure (a : α) (s : σ) : run (pure a : Exec σ α) s = (.ok a, s) := rfl

@[simp] theorem run_throw (e : Throwable) (s : σ) :
    run (throw e : Exec σ α) s = (.error e, s) := rfl

@[simp] theorem run_get (s : σ) : run (get : Exec σ σ) s = (.ok s, s) := rfl

@[simp] theorem run_modify (f : σ → σ) (s : σ) :
    run (modify f : Exec σ PUnit) s = (.ok ⟨⟩, f s) := rfl

@[simp] theorem run_lift (x : Except Throwable α) (s : σ) :
    run (liftM x : Exec σ α) s = (x, s) := rfl

/-- A block that starts with code that touches no heap ends as that code does, or as the rest. -/
theorem fst_run_lift_bind (x : Except Throwable α) (f : α → Exec σ β) (s : σ) :
    (run (liftM x >>= f) s).1 = x >>= fun a => (run (f a) s).1 := by
  rw [run_bind, run_lift]
  cases x <;> rfl

/-- `try x catch e => h e`: the handler starts from the heap the throw left. -/
theorem run_tryCatch (x : Exec σ α) (h : Throwable → Exec σ α) (s : σ) :
    run (tryCatch x h) s =
      match run x s with
      | (.ok a, s') => (.ok a, s')
      | (.error e, s') => run (h e) s' := by
  show StateT.run (ExceptT.run (tryCatch x h)) s = _
  unfold run
  rw [ExceptT.run_tryCatch, StateT.run_bind]
  rcases hr : StateT.run (ExceptT.run x) s with ⟨r, s'⟩
  cases r <;> rfl

/-- `catch (C e) { e.printStackTrace(); }`, where `name` is the class `C`. -/
def printStackTrace (name : String) : Throwable → Exec σ Unit
  | .other c => if c = name then pure () else throw (.other c)
  | e => throw e

theorem snd_run_printStackTrace (name : String) (e : Throwable) (s : σ) :
    (run (printStackTrace name e) s).2 = s := by
  unfold printStackTrace
  split
  · split <;> rfl
  · rfl

/-- What is not caught is thrown on. -/
theorem fst_run_tryCatch_print {x : Exec σ Unit} {name : String} {s : σ}
    (h : DoesNotThrow name (run x s).1) :
    (run (tryCatch x (printStackTrace name)) s).1 = (run x s).1 := by
  rw [run_tryCatch]
  revert h
  rcases run x s with ⟨r, s'⟩
  intro h
  cases r with
  | ok a => rfl
  | error e =>
    cases e with
    | other c =>
      have hc : c ≠ name := fun heq => h (by rw [heq])
      simp only [printStackTrace, if_neg hc, run_throw]
    | _ => rfl

/-- A block over the part of the heap that `part` reads and `put` writes. -/
def zoom {τ : Type} (part : σ → τ) (put : τ → σ → σ) (x : Exec τ α) : Exec σ α := do
  let s ← get
  modify (put (run x (part s)).2)
  liftM (run x (part s)).1

theorem run_zoom {τ : Type} (part : σ → τ) (put : τ → σ → σ) (x : Exec τ α) (s : σ) :
    run (zoom part put x) s = ((run x (part s)).1, put (run x (part s)).2 s) := by
  unfold zoom
  simp only [run_bind, run_get, andThen_ok, run_modify, run_lift]

/-- Printing leaves what the block wrote. -/
theorem snd_run_tryCatch_print (x : Exec σ Unit) (name : String) (s : σ) :
    (run (tryCatch x (printStackTrace name)) s).2 = (run x s).2 := by
  rw [run_tryCatch]
  rcases run x s with ⟨r, s'⟩
  cases r with
  | ok a => rfl
  | error e => exact snd_run_printStackTrace name e s'

/-! ## What a block throws -/

/-- Whatever the heap, the block throws nothing but what satisfies `P`. -/
def RunThrowsOnly (P : Throwable → Prop) (x : Exec σ α) : Prop := ∀ s, ThrowsOnly P (run x s).1

section RunThrows

variable {P : Throwable → Prop}

theorem RunThrowsOnly.bind {x : Exec σ α} {f : α → Exec σ β} (h : RunThrowsOnly P x)
    (h' : ∀ a, RunThrowsOnly P (f a)) : RunThrowsOnly P (x >>= f) := by
  intro s
  have hx := h s
  rw [run_bind]
  rcases hrun : run x s with ⟨r, s'⟩
  rw [hrun] at hx
  cases r with
  | ok a =>
    rw [andThen_ok]
    exact h' a s'
  | error e =>
    rw [andThen_error]
    exact throwsOnly_error (hx e rfl)

end RunThrows

end Run

end JSdnTrace.Java
