import Mathlib.Data.Finmap

/-!
# Dispatchables that keep their writes

A dispatchable call of a runtime without transactional storage reads and writes a state and
returns a value or an error; the writes made before an error stay.  `Dispatch σ ε α` is that
monad: an exception over a state, so that `Dispatch.run` returns the final state in both cases.

The `run_*` equations evaluate a `do` block one statement at a time.  They are the simp set
with which a model's functions are unfolded once, into an equation for the whole call.
-/

/-- A call on the state `σ` that returns an `α` or fails with an `ε`, keeping its writes. -/
abbrev Dispatch (σ ε α : Type) := ExceptT ε (StateM σ) α

namespace Dispatch

variable {σ ε α β : Type}

/-- The result of a call together with the state it leaves behind. -/
def run (x : Dispatch σ ε α) (s : σ) : Except ε α × σ :=
  StateT.run (ExceptT.run x) s

/-- Read a part of the state. -/
def read (f : σ → α) : Dispatch σ ε α := do return f (← get)

/-- Change the state. -/
def write (f : σ → σ) : Dispatch σ ε Unit := modify f

/-- The value of an option, or the given error. -/
def okOr : Option α → ε → Dispatch σ ε α
  | some a, _ => pure a
  | none, e => throw e

/-- The state a call leaves behind, whatever it returns. -/
def exec (x : Dispatch σ ε α) (s : σ) : σ := (run x s).2

/-- A call is determined by what it returns and the state it leaves. -/
theorem run_eq_of_fst {x : Dispatch σ ε α} {s : σ} {r : Except ε α} (h : (run x s).1 = r) :
    run x s = (r, exec x s) :=
  Prod.ext h rfl

/-- A call that fails and restores the state it was given leaves that state. -/
theorem exec_of_refused {x : Dispatch σ ε α} {s : σ} (h : ∃ e, run x s = (.error e, s)) :
    exec x s = s := by
  obtain ⟨e, he⟩ := h
  rw [exec, he]

/-- A call that fails does not return a value. -/
theorem run_ne_ok {x : Dispatch σ ε α} {s s' : σ} {a : α} (h : ∃ e, run x s = (.error e, s)) :
    run x s ≠ (.ok a, s') := by
  obtain ⟨e, he⟩ := h
  rw [he]
  intro heq
  cases heq

/-- A returned value leaves the state alone. -/
@[simp] theorem run_pure (a : α) (s : σ) : run (pure a : Dispatch σ ε α) s = (.ok a, s) := rfl

/-- A thrown error leaves the state alone. -/
@[simp] theorem run_throw (e : ε) (s : σ) :
    run (throw e : Dispatch σ ε α) s = (.error e, s) := rfl

/-- Reading returns the part read. -/
@[simp] theorem run_read (f : σ → α) (s : σ) :
    run (read f : Dispatch σ ε α) s = (.ok (f s), s) := rfl

/-- Writing replaces the state. -/
@[simp] theorem run_write (f : σ → σ) (s : σ) :
    run (write f : Dispatch σ ε Unit) s = (.ok (), f s) := rfl

/-- A sequence stops at the first error, in the state the error left. -/
@[simp] theorem run_bind (x : Dispatch σ ε α) (f : α → Dispatch σ ε β) (s : σ) :
    run (x >>= f) s =
      match run x s with
      | (.ok a, s') => run (f a) s'
      | (.error e, s') => (.error e, s') := by
  simp only [run, ExceptT.run, StateT.run, bind, ExceptT.bind, ExceptT.mk, StateT.bind]
  cases x s with
  | mk r s' => cases r <;> rfl

/-- A present option is returned. -/
@[simp] theorem okOr_some (a : α) (e : ε) :
    (okOr (some a) e : Dispatch σ ε α) = pure a := rfl

/-- An absent option is thrown as the error. -/
@[simp] theorem okOr_none (e : ε) : (okOr none e : Dispatch σ ε α) = throw e := rfl

/-- A conditional call runs the branch its condition selects. -/
@[simp] theorem run_ite (c : Prop) [Decidable c] (x y : Dispatch σ ε α) (s : σ) :
    run (if c then x else y) s = if c then run x s else run y s := by
  split <;> rfl

end Dispatch
