import Mathlib.Data.List.TakeWhile

/-!
# Loops that stop early

A loop takes a list of items one by one and ends at the first item that stops it, so that the items
behind it are lost.  `Loop.filter_foldl` compares it with taking exactly the items that matter, one
by one: they differ by the lost ones.  When every step only moves on and what it changes is never
undone (`Lasting`), the lost items make no difference exactly when each of them would have changed
nothing (`Lasting.run_iff`).
-/

namespace Loop

variable {σ ι : Type}

/-- Take the items one by one until one stops the loop. -/
def run (stops : ι → Bool) (step : σ → ι → σ) : List ι → σ → σ
  | [], s => s
  | i :: items, s => if stops i then s else run stops step items (step s i)

/-- The items a loop takes. -/
def reached (stops : ι → Bool) (items : List ι) : List ι := items.takeWhile fun i => !stops i

/-- The items a loop does not take, from the one that stops it on. -/
def lost (stops : ι → Bool) (items : List ι) : List ι := items.dropWhile fun i => !stops i

variable {stops matters : ι → Bool} {step : σ → ι → σ}

/-- A loop takes the items it reaches. -/
theorem run_eq (items : List ι) (s : σ) :
    run stops step items s = (reached stops items).foldl step s := by
  induction items generalizing s with
  | nil => rfl
  | cons i items ih =>
    by_cases hi : stops i = true
    · have hnone : reached stops (i :: items) = [] := List.takeWhile_cons_of_neg (by simp [hi])
      rw [hnone, run, if_pos hi]
      rfl
    · have hmore : reached stops (i :: items) = i :: reached stops items :=
        List.takeWhile_cons_of_pos (by simp [hi])
      rw [hmore, run, if_neg hi]
      exact ih (step s i)

/-- Without an item that stops it a loop loses nothing. -/
theorem lost_eq_nil {items : List ι} (h : ∀ i ∈ items, stops i = false) :
    lost stops items = [] := by
  rw [lost, List.dropWhile_eq_nil_iff]
  intro i hi
  rw [h i hi]
  rfl

/-- Items that change nothing may be left out. -/
theorem filter_foldl_of_idle {items : List ι}
    (hidle : ∀ i ∈ items, matters i = false → ∀ s, step s i = s) (s : σ) :
    (items.filter matters).foldl step s = items.foldl step s := by
  induction items generalizing s with
  | nil => rfl
  | cons i items ih =>
    have hrest : ∀ j ∈ items, matters j = false → ∀ s, step s j = s :=
      fun j hj => hidle j (List.mem_cons_of_mem _ hj)
    cases hi : matters i with
    | true =>
      rw [List.filter_cons_of_pos hi]
      exact ih hrest (step s i)
    | false =>
      rw [List.filter_cons_of_neg (by simp [hi]), List.foldl_cons,
        hidle i List.mem_cons_self hi s]
      exact ih hrest s

/-- Taking exactly the items that matter is taking those the loop loses after the loop. -/
theorem filter_foldl (hidle : ∀ i s, stops i = false → matters i = false → step s i = s)
    (items : List ι) (s : σ) :
    (items.filter matters).foldl step s =
      ((lost stops items).filter matters).foldl step (run stops step items s) := by
  have hsplit : items = reached stops items ++ lost stops items :=
    (List.takeWhile_append_dropWhile).symm
  have hreached : ∀ i ∈ reached stops items, matters i = false → ∀ s, step s i = s := by
    intro i hi hmatters s
    have hstops : (!stops i) = true := List.mem_takeWhile_imp (p := fun i => !stops i) hi
    exact hidle i s (by simpa using hstops) hmatters
  calc (items.filter matters).foldl step s
      = ((reached stops items ++ lost stops items).filter matters).foldl step s := by
        rw [← hsplit]
    _ = ((lost stops items).filter matters).foldl step
          (((reached stops items).filter matters).foldl step s) := by
        rw [List.filter_append, List.foldl_append]
    _ = ((lost stops items).filter matters).foldl step (run stops step items s) := by
        rw [filter_foldl_of_idle hreached, run_eq]

/-! ### Steps whose effect lasts -/

/-- Every step moves on along `Le`, and once a step has left the states that are the same, moving on
does not lead back. -/
structure Lasting (Same Le : σ → σ → Prop) (step : σ → ι → σ) : Prop where
  same : Equivalence Same
  refl : ∀ s, Le s s
  trans : ∀ {s t u}, Le s t → Le t u → Le s u
  step_le : ∀ s i, Le s (step s i)
  lasts : ∀ {s u i}, Le (step s i) u → Same s u → Same s (step s i)

section Lasting

variable {Same Le : σ → σ → Prop}

/-- Any number of steps moves on. -/
theorem Lasting.foldl_le (h : Lasting Same Le step) (items : List ι) (s : σ) :
    Le s (items.foldl step s) := by
  induction items generalizing s with
  | nil => exact h.refl s
  | cons i items ih => exact h.trans (h.step_le s i) (ih (step s i))

/-- Steps together change nothing exactly when each of them changes nothing, which is said of the
state before all of them. -/
theorem Lasting.foldl_same_iff (h : Lasting Same Le step) {Moot : σ → ι → Prop}
    (hmoot : ∀ s i, Same s (step s i) ↔ Moot s i)
    (hcongr : ∀ {s t i}, Same s t → Moot s i → Moot t i) (items : List ι) (s : σ) :
    Same s (items.foldl step s) ↔ ∀ i ∈ items, Moot s i := by
  induction items generalizing s with
  | nil => exact iff_of_true (h.same.refl s) fun i hi => absurd hi List.not_mem_nil
  | cons i items ih =>
    rw [List.foldl_cons, List.forall_mem_cons]
    constructor
    · intro hsame
      have hfirst : Same s (step s i) := h.lasts (h.foldl_le items _) hsame
      have hrest : Same (step s i) (items.foldl step (step s i)) :=
        h.same.trans (h.same.symm hfirst) hsame
      refine ⟨(hmoot s i).mp hfirst, fun j hj => ?_⟩
      exact hcongr (h.same.symm hfirst) ((ih (step s i)).mp hrest j hj)
    · rintro ⟨hi, hrest⟩
      have hfirst : Same s (step s i) := (hmoot s i).mpr hi
      have hitems : ∀ j ∈ items, Moot (step s i) j := fun j hj => hcongr hfirst (hrest j hj)
      exact h.same.trans hfirst ((ih (step s i)).mpr hitems)

/-- A loop leaves the same state as taking exactly the items that matter, if and only if the items
it loses would change nothing. -/
theorem Lasting.run_iff (h : Lasting Same Le step)
    (hidle : ∀ i s, stops i = false → matters i = false → step s i = s)
    {Moot : σ → ι → Prop} (hmoot : ∀ s i, Same s (step s i) ↔ Moot s i)
    (hcongr : ∀ {s t i}, Same s t → Moot s i → Moot t i) (items : List ι) (s : σ) :
    Same (run stops step items s) ((items.filter matters).foldl step s) ↔
      ∀ i ∈ (lost stops items).filter matters, Moot ((reached stops items).foldl step s) i := by
  rw [filter_foldl hidle, h.foldl_same_iff hmoot hcongr, run_eq]

end Lasting

end Loop
