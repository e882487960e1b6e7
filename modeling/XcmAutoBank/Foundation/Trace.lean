import XcmAutoBank.Foundation.History

/-!
# Runs with labels

`Traced step s es t` is a run of a relation from `s` to `t` with the labels of its steps.  Two
things are read off such a run.  What holds at the end and did not hold at the start became true in
one of its steps (`Traced.turning`).  And when a step can do something only with a token that was
handed out before, and uses the token up, a run does it at most as often as there are tokens in
stock at the start and labels that earn one (`Traced.budget`).
-/

namespace History

variable {σ E : Type}

/-- A run of a relation, with the labels of its steps. -/
inductive Traced (step : σ → E → σ → Prop) : σ → List E → σ → Prop
  | nil (s : σ) : Traced step s [] s
  | cons {s t u : σ} {e : E} {es : List E} (hstep : step s e t) (hrun : Traced step t es u) :
      Traced step s (e :: es) u

variable {step : σ → E → σ → Prop} {s t : σ} {e : E} {es : List E}

/-- The run of a machine is a run of the relation of its steps. -/
theorem Along.traced {next : σ → E → σ} {P : σ → E → Prop} (h : Along next P s es) :
    Traced (fun s e t => P s e ∧ t = next s e) s es (after next s es) := by
  induction es generalizing s with
  | nil => exact .nil s
  | cons e es ih => exact .cons ⟨h.1, rfl⟩ (ih h.2)

/-- What holds at the end of a run and not at its start became true in one of its steps. -/
theorem Traced.turning {K : σ → Prop} (h : Traced step s es t) (hs : ¬K s) (ht : K t) :
    ∃ pre e post u u', es = pre ++ e :: post ∧ Traced step s pre u ∧ step u e u' ∧
      Traced step u' post t ∧ ¬K u ∧ K u' := by
  induction h with
  | nil s => exact absurd ht hs
  | @cons s t u e es hone hrun ih =>
    by_cases hk : K t
    · exact ⟨[], e, es, s, t, rfl, .nil s, hone, hrun, hs, hk⟩
    · obtain ⟨pre, e', post, v, v', rfl, hpre, hstep, hpost, hbefore, hafter⟩ := ih hk ht
      exact ⟨e :: pre, e', post, v, v', rfl, .cons hone hpre, hstep, hpost, hbefore, hafter⟩

/-- Counting one element more. -/
theorem countP_cons_toNat {α : Type} (p : α → Bool) (a : α) (l : List α) :
    (a :: l).countP p = l.countP p + (p a).toNat := by
  rw [List.countP_cons]
  cases p a <;> rfl

/-- When no step spends more than there is and the token its label may earn, no run does. -/
theorem Traced.budget (h : Traced step s es t) (spent stock : σ → ℕ) (earns : E → Bool)
    (hstep : ∀ s e t, step s e t → spent t + stock t ≤ spent s + stock s + (earns e).toNat) :
    spent t + stock t ≤ spent s + stock s + es.countP earns := by
  induction h with
  | nil s => exact Nat.le_add_right _ _
  | @cons s t u e es hone _ ih =>
    have hfirst := hstep s e t hone
    rw [countP_cons_toNat]
    omega

end History
