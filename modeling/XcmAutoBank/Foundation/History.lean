import Mathlib.Algebra.BigOperators.Group.List.Basic
import Mathlib.Algebra.GroupWithZero.Nat
import Mathlib.Data.List.Infix

/-!
# Runs of a deterministic machine and their history

A machine is a function `step` from a state and an event to the next state.  `History.after` is
the state after a list of events and `History.Along` says that each event of the list meets a
condition in the state it happens in.

Two ways to speak of the past of a run are kept apart.  `History.Since` says that at some moment an
event met a condition and that an invariant, which may mention the events since, has held from that
moment on; it is proved one event at a time (`Since.concat`, `since_of_start`, `since_of_now`).
`History.collect` lists what the events of a run yield; with `balance_of_collect` a quantity that
every event changes by a debit and a credit changes over a run by the debits and the credits
collected.
-/

namespace History

variable {σ E C : Type} (step : σ → E → σ)

/-- The state after the events of a list. -/
def after (s : σ) : List E → σ
  | [] => s
  | e :: es => after (step s e) es

/-- Each event of the list meets the condition in the state it happens in. -/
def Along (P : σ → E → Prop) (s : σ) : List E → Prop
  | [] => True
  | e :: es => P s e ∧ Along P (step s e) es

/-- What the events of a run yield, in order. -/
def collect (f : σ → E → List C) (s : σ) : List E → List C
  | [] => []
  | e :: es => f s e ++ collect f (step s e) es

/-- At some moment an event met the condition `start`, and from then on `keep` has held of the state
and the events since. -/
def Since (start : σ → E → Prop) (keep : List E → σ → Prop) (s : σ) (es : List E) : Prop :=
  ∃ past e rest, es = past ++ e :: rest ∧ start (after step s past) e ∧
    ∀ mid, mid <+: rest → keep mid (after step s (past ++ e :: mid))

variable {step} {s : σ} {e : E} {es : List E}

/-- Events one after the other. -/
theorem after_append (es' : List E) :
    after step s (es ++ es') = after step (after step s es) es' := by
  induction es generalizing s with
  | nil => rfl
  | cons e es ih => exact ih

/-- One event more. -/
theorem after_concat : after step s (es ++ [e]) = step (after step s es) e := after_append [e]

/-- What every event that meets the condition does to the state, a run does, when doing nothing and
doing one after the other are allowed. -/
theorem Along.related {R : σ → σ → Prop} {P : σ → E → Prop} (h : Along step P s es)
    (hrefl : ∀ s, R s s) (htrans : ∀ {s t u}, R s t → R t u → R s u)
    (hstep : ∀ s e, P s e → R s (step s e)) : R s (after step s es) := by
  induction es generalizing s with
  | nil => exact hrefl s
  | cons e es ih => exact htrans (hstep s e h.1) (ih h.2)

section Map

variable {τ E' : Type} {step' : τ → E' → τ} {view : σ → τ} {f : E → E'} {P Q : σ → E → Prop}
  {P' : τ → E' → Prop}

/-- A machine that does on the view of a state what another one does on the state, for every event
that meets the condition, runs like it. -/
theorem Along.after_map (h : Along step P s es)
    (hstep : ∀ s e, P s e → step' (view s) (f e) = view (step s e)) :
    after step' (view s) (es.map f) = view (after step s es) := by
  induction es generalizing s with
  | nil => rfl
  | cons e es ih =>
    rw [List.map_cons, after, hstep s e h.1]
    exact ih h.2

/-- A condition that every event of a run meets on the view is met along the run of the view. -/
theorem Along.map (h : Along step P s es)
    (hstep : ∀ s e, P s e → step' (view s) (f e) = view (step s e))
    (hview : ∀ s e, P s e → P' (view s) (f e)) : Along step' P' (view s) (es.map f) := by
  induction es generalizing s with
  | nil => exact trivial
  | cons e es ih =>
    refine ⟨hview s e h.1, ?_⟩
    rw [hstep s e h.1]
    exact ih h.2

end Map

/-- A condition on events that all events of the list meet is met along the run. -/
theorem along_of_forall {P : E → Prop} (h : ∀ e ∈ es, P e) :
    Along step (fun _ e => P e) s es := by
  induction es generalizing s with
  | nil => exact trivial
  | cons e es ih =>
    exact ⟨h e List.mem_cons_self, ih fun e' he' => h e' (List.mem_cons_of_mem _ he')⟩

/-- Conditions that agree on every event are met along the same runs. -/
theorem along_congr {P Q : σ → E → Prop} (h : ∀ s e, P s e ↔ Q s e) (s : σ) (es : List E) :
    Along step P s es ↔ Along step Q s es := by
  induction es generalizing s with
  | nil => exact Iff.rfl
  | cons e es ih => exact and_congr (h s e) (ih (step s e))

/-! ### What has held since an event -/

section Since

variable {start : σ → E → Prop} {keep : List E → σ → Prop}

/-- An event that meets the condition starts the period. -/
theorem since_of_start (h : start (after step s es) e) (hk : keep [] (after step s (es ++ [e]))) :
    Since step start keep s (es ++ [e]) := by
  refine ⟨es, e, [], rfl, h, fun mid hmid => ?_⟩
  rw [List.prefix_nil.mp hmid]
  exact hk

/-- An event that keeps the invariant continues the period. -/
theorem Since.concat (h : Since step start keep s es)
    (hk : ∀ rest, keep rest (after step s es) →
      keep (rest ++ [e]) (step (after step s es) e)) :
    Since step start keep s (es ++ [e]) := by
  obtain ⟨past, e', rest, rfl, hstart, hkeep⟩ := h
  refine ⟨past, e', rest ++ [e], by simp, hstart, fun mid hmid => ?_⟩
  rcases List.prefix_concat_iff.mp hmid with rfl | hmid
  · rw [← List.cons_append, ← List.append_assoc, after_concat]
    exact hk rest (hkeep rest List.prefix_rfl)
  · exact hkeep mid hmid

/-- What holds now and did not hold at the start has held since an event that started it. -/
theorem since_of_now {K : σ → Prop} (hs : ¬K s)
    (hstep : ∀ s e, K (step s e) → K s ∨ start s e) (h : K (after step s es)) :
    Since step start (fun _ => K) s es := by
  induction es using List.reverseRecOn with
  | nil => exact absurd h hs
  | append_singleton es e ih =>
    have hnow := h
    rw [after_concat] at hnow
    rcases hstep _ e hnow with hbefore | hstart
    · exact (ih hbefore).concat fun _ _ => hnow
    · exact since_of_start hstart h

/-- The invariant holds now. -/
theorem Since.now (h : Since step start keep s es) : ∃ rest, keep rest (after step s es) := by
  obtain ⟨past, e, rest, rfl, -, hkeep⟩ := h
  exact ⟨rest, hkeep rest List.prefix_rfl⟩

end Since

/-! ### What a run yields -/

section Collect

variable {f : σ → E → List C} {P : σ → E → Prop}

/-- A relation between what was yielded so far and the state, kept by every event that meets the
condition, holds after the run. -/
theorem Along.collected {J : List C → σ → Prop} {cs : List C} (h : Along step P s es)
    (hs : J cs s) (hstep : ∀ s e cs, P s e → J cs s → J (cs ++ f s e) (step s e)) :
    J (cs ++ collect step f s es) (after step s es) := by
  induction es generalizing s cs with
  | nil =>
    rw [collect, List.append_nil]
    exact hs
  | cons e es ih =>
    rw [collect, ← List.append_assoc]
    exact ih h.2 (hstep s e cs h.1 hs)

/-- A quantity that each event changes by the debits and the credits of what it yields changes over
a run by the debits and the credits of all that is collected. -/
theorem balance_of_collect {I : σ → Prop} {V : σ → ℕ} {debit credit : C → ℕ} (hs : I s)
    (h : Along step P s es) (hinv : ∀ s e, P s e → I s → I (step s e))
    (hstep : ∀ s e, P s e → I s →
      V (step s e) + ((f s e).map debit).sum = V s + ((f s e).map credit).sum) :
    V (after step s es) + ((collect step f s es).map debit).sum =
      V s + ((collect step f s es).map credit).sum := by
  induction es generalizing s with
  | nil => rfl
  | cons e es ih =>
    have hrest := ih (hinv s e h.1 hs) h.2
    have hone := hstep s e h.1 hs
    rw [collect, List.map_append, List.map_append, List.sum_append, List.sum_append]
    change V (after step (step s e) es) + _ = _
    omega

end Collect

end History
