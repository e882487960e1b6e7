import XcmAutoBank.Foundation.History

/-!
# Isolation of one user of a machine

A machine serves many users at once, and a user sees a part of its state, the view.  The user is
isolated when the events of others leave the view alone and the view after an own event depends on
the view before it only, as long as the view is one the isolation is promised for.

The view after a run is then the view after the own events of the run, on any machine that shows the
same view at the start (`Isolated.view_after`).  Two runs with the same own events, whatever else
happens between them, cannot be told apart (`Isolated.view_eq`).
-/

namespace History

variable {σ E V : Type}

/-- The view is promised to depend on the own events only: while it meets `I`, for events that meet
`ok`. -/
structure Isolated (step : σ → E → σ) (view : σ → V) (I : V → Prop) (ok : E → Prop)
    (mine : E → Bool) : Prop where
  other : ∀ s e, mine e = false → view (step s e) = view s
  own : ∀ s t e, mine e = true → ok e → I (view s) → view s = view t →
    view (step s e) = view (step t e)
  keeps : ∀ s e, mine e = true → ok e → I (view s) → I (view (step s e))

variable {step : σ → E → σ} {view : σ → V} {I : V → Prop} {ok : E → Prop} {mine : E → Bool}

/-- The view after a run is the view after its own events, on any machine that showed the same view
before. -/
theorem Isolated.view_after (h : Isolated step view I ok mine) {s t : σ} {es : List E}
    (hok : ∀ e ∈ es, mine e = true → ok e) (hs : I (view s)) (hview : view s = view t) :
    view (after step s es) = view (after step t (es.filter mine)) := by
  induction es generalizing s t with
  | nil => exact hview
  | cons e es ih =>
    have hrest : ∀ e' ∈ es, mine e' = true → ok e' :=
      fun e' he' => hok e' (List.mem_cons_of_mem _ he')
    cases hmine : mine e with
    | false =>
      have hsame : view (step s e) = view s := h.other s e hmine
      rw [List.filter_cons_of_neg (by simp [hmine])]
      exact ih hrest (hsame ▸ hs) (hsame.trans hview)
    | true =>
      have he : ok e := hok e List.mem_cons_self hmine
      rw [List.filter_cons_of_pos hmine]
      exact ih hrest (h.keeps s e hmine he hs) (h.own s t e hmine he hs hview)

/-- Two runs with the same own events from states that show the same view end with the same view. -/
theorem Isolated.view_eq (h : Isolated step view I ok mine) {s t : σ} {es es' : List E}
    (hok : ∀ e ∈ es, mine e = true → ok e) (hs : I (view s)) (hview : view s = view t)
    (hes : es.filter mine = es'.filter mine) :
    view (after step s es) = view (after step t es') := by
  have hok' : ∀ e ∈ es', mine e = true → ok e := by
    intro e he hmine
    have hmem : e ∈ es.filter mine := hes ▸ List.mem_filter.mpr ⟨he, hmine⟩
    exact hok e (List.mem_of_mem_filter hmem) hmine
  rw [h.view_after hok hs rfl, hes, h.view_after hok' (hview ▸ hs) hview.symm]

end History
