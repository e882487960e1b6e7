import XcmAutoBank.Foundation.Dispatch

/-!
# Machines that track each other while a watch is kept

Two machines run the same program over different states, and `view` takes a state of the one to a
state of the other.  The second machine watches itself: `Kept` says that the watch is still kept in
a state.  A step tracks another when it does on the view of a state what the other does on the
state, unless it breaks the watch, and when a broken watch stays broken (`Tracks`).  Steps that
track each other may be put together.

`Dispatch.Follows` says the same of calls, with the values they return.  Its rules follow a `do`
block statement by statement.
-/

variable {σ τ ε α β : Type} {view : σ → τ} {Kept : τ → Prop}

/-- The step `g` does on the view of a state what `f` does on the state unless it breaks the watch,
and it never mends a broken watch. -/
structure Tracks (view : σ → τ) (Kept : τ → Prop) (f : σ → σ) (g : τ → τ) : Prop where
  kept : ∀ t, Kept (g t) → Kept t
  eq : ∀ s, Kept (g (view s)) → g (view s) = view (f s)

/-- Doing nothing tracks doing nothing. -/
theorem Tracks.refl : Tracks view Kept id id := ⟨fun _ h => h, fun _ _ => rfl⟩

/-- Steps one after the other track the same steps one after the other. -/
theorem Tracks.comp {f f' : σ → σ} {g g' : τ → τ} (h : Tracks view Kept f g)
    (h' : Tracks view Kept f' g') : Tracks view Kept (f' ∘ f) (g' ∘ g) where
  kept t ht := h.kept t (h'.kept (g t) ht)
  eq s hs := by
    have hfirst : g (view s) = view (f s) := h.eq s (h'.kept _ hs)
    change Kept (g' (g (view s))) at hs
    change g' (g (view s)) = view (f' (f s))
    rw [hfirst] at hs ⊢
    exact h'.eq (f s) hs

namespace Dispatch

/-- The call `y` does on the view of a state what `x` does on the state and returns the same, unless
it breaks the watch. -/
structure Follows (view : σ → τ) (Kept : τ → Prop) (x : Dispatch σ ε α) (y : Dispatch τ ε α) :
    Prop where
  tracks : Tracks view Kept (exec x) (exec y)
  result : ∀ s, Kept (exec y (view s)) → (run y (view s)).1 = (run x s).1

variable {x : Dispatch σ ε α} {y : Dispatch τ ε α}

/-- While the watch is kept the second call does and returns what the first one does. -/
theorem Follows.run_eq (h : Follows view Kept x y) {s : σ} (hs : Kept (exec y (view s))) :
    run y (view s) = ((run x s).1, view (exec x s)) :=
  Prod.ext (h.result s hs) (h.tracks.eq s hs)

/-- A call that returns without a look at the state follows itself. -/
theorem Follows.pure (a : α) :
    Follows view Kept (pure a : Dispatch σ ε α) (Pure.pure a : Dispatch τ ε α) :=
  ⟨⟨fun _ h => h, fun _ _ => rfl⟩, fun _ _ => rfl⟩

/-- A call that fails at once follows itself. -/
theorem Follows.throw (e : ε) :
    Follows view Kept (throw e : Dispatch σ ε α) (MonadExcept.throw e : Dispatch τ ε α) :=
  ⟨⟨fun _ h => h, fun _ _ => rfl⟩, fun _ _ => rfl⟩

/-- A test of a value follows itself. -/
theorem Follows.okOr (a : Option α) (e : ε) :
    Follows view Kept (okOr a e : Dispatch σ ε α) (Dispatch.okOr a e : Dispatch τ ε α) := by
  cases a with
  | none => exact .throw e
  | some a => exact .pure a

/-- Reading what the view keeps. -/
theorem Follows.read {f : σ → α} {g : τ → α} (h : ∀ s, g (view s) = f s) :
    Follows view Kept (read f : Dispatch σ ε α) (Dispatch.read g : Dispatch τ ε α) :=
  ⟨⟨fun _ h => h, fun _ _ => rfl⟩, fun s _ => congrArg Except.ok (h s)⟩

/-- Writing what the view keeps, out of sight of the watch. -/
theorem Follows.write {f : σ → σ} {g : τ → τ} (hkept : ∀ t, Kept (g t) → Kept t)
    (h : ∀ s, g (view s) = view (f s)) :
    Follows view Kept (write f : Dispatch σ ε Unit) (Dispatch.write g : Dispatch τ ε Unit) :=
  ⟨⟨hkept, fun s _ => h s⟩, fun _ _ => rfl⟩

/-- Statements that follow each other, one after the other. -/
theorem Follows.bind {f : α → Dispatch σ ε β} {g : α → Dispatch τ ε β} (h : Follows view Kept x y)
    (h' : ∀ a, Follows view Kept (f a) (g a)) : Follows view Kept (x >>= f) (y >>= g) := by
  have kept (t : τ) (ht : Kept (exec (y >>= g) t)) : Kept (exec y t) := by
    rw [exec, run_bind] at ht
    rw [exec]
    cases hy : run y t with
    | mk r u =>
      rw [hy] at ht
      cases r with
      | ok a => exact (h' a).tracks.kept u ht
      | error e => exact ht
  have both (s : σ) (hs : Kept (exec (y >>= g) (view s))) :
      run (y >>= g) (view s) = ((run (x >>= f) s).1, view (exec (x >>= f) s)) := by
    have hfirst := h.run_eq (kept (view s) hs)
    rw [exec, run_bind, hfirst] at hs
    rw [exec, run_bind, run_bind, hfirst]
    cases hx : run x s with
    | mk r u =>
      have hu : exec x s = u := congrArg Prod.snd hx
      rw [hx, hu] at hs
      rw [hu]
      cases r with
      | ok a => exact (h' a).run_eq hs
      | error e => rfl
  exact ⟨⟨fun t ht => h.tracks.kept t (kept t ht), fun s hs => congrArg Prod.snd (both s hs)⟩,
    fun s hs => congrArg Prod.fst (both s hs)⟩

/-- Branches that follow each other, under a condition on values. -/
theorem Follows.ite {c : Prop} [Decidable c] {x' : Dispatch σ ε α} {y' : Dispatch τ ε α}
    (h : Follows view Kept x y) (h' : Follows view Kept x' y') :
    Follows view Kept (if c then x else x') (if c then y else y') := by
  split
  · exact h
  · exact h'

/-- A check that fails before the rest of the call. -/
theorem Follows.check {c : Prop} [Decidable c] {e : ε} {f : Unit → Dispatch σ ε α}
    {g : Unit → Dispatch τ ε α} (h : Follows view Kept (f ()) (g ())) :
    Follows view Kept (if c then MonadExcept.throw e >>= f else f ())
      (if c then MonadExcept.throw e >>= g else g ()) :=
  .ite (.bind (.throw e) fun _ => h) h

end Dispatch
