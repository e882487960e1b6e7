import Mathlib.Data.Finmap
import Mathlib.Algebra.BigOperators.Group.Finset.Basic

/-!
# Finite maps: lookups and sums over the entries

`Finmap.ofLookup S f` is the finite map whose lookups are those of `f`, a partial function defined
inside the finite set `S`.

`Finmap.sumBy m g` adds `g k v` over the entries `(k, v)` of a finite map `m`.  The sum is
read off the lookups of `m` alone (`sumBy_congr`), grows by the new summand when a fresh key is
inserted (`sumBy_insert`) and splits off the summand of a key that is erased (`sumBy_erase`).
-/

namespace Finmap

variable {K V W M : Type} [DecidableEq K] [AddCommMonoid M]

/-- The sum of `g k v` over the entries `(k, v)` of a finite map. -/
def sumBy (m : Finmap fun _ : K => V) (g : K → V → M) : M :=
  ∑ k ∈ m.keys, (m.lookup k).elim 0 (g k)

/-- Looking up a key after an insertion. -/
theorem lookup_insert_ite (m : Finmap fun _ : K => V) (k k' : K) (v : V) :
    (m.insert k v).lookup k' = if k' = k then some v else m.lookup k' := by
  split_ifs with h
  · rw [h, lookup_insert]
  · exact lookup_insert_of_ne m h

/-- Looking up a key after an erasure. -/
theorem lookup_erase_ite (m : Finmap fun _ : K => V) (k k' : K) :
    (m.erase k).lookup k' = if k' = k then none else m.lookup k' := by
  split_ifs with h
  · rw [h, lookup_erase]
  · exact lookup_erase_ne h

/-- Inserting a key that is missing keeps the other entries. -/
theorem lookup_insert_of_notMem {m : Finmap fun _ : K => V} {k k' : K} {v v' : V} (h : k ∉ m)
    (hv : m.lookup k' = some v) : (m.insert k v').lookup k' = some v := by
  have hne : k' ≠ k := by
    rintro rfl
    exact h (mem_of_lookup_eq_some hv)
  rw [lookup_insert_of_ne m hne, hv]

/-- Erasing a key that is missing changes nothing. -/
theorem erase_of_notMem {m : Finmap fun _ : K => V} {k : K} (h : k ∉ m) : m.erase k = m := by
  refine ext_lookup fun k' => ?_
  rw [lookup_erase_ite]
  split_ifs with hk
  · rw [hk, lookup_eq_none.mpr h]
  · rfl

/-- A key that is found is one of the keys. -/
theorem mem_keys_of_lookup {m : Finmap fun _ : K => V} {k : K} {v : V}
    {S : Finset K} (hkeys : m.keys = S) (h : m.lookup k = some v) : k ∈ S := by
  rw [← hkeys, mem_keys]
  exact mem_of_lookup_eq_some h

/-- The finite map with the lookups of a partial function, restricted to a finite set. -/
def ofLookup (S : Finset K) (f : K → Option V) : Finmap fun _ : K => V :=
  keysLookupEquiv.symm ⟨(S.filter fun k => (f k).isSome, fun k => if k ∈ S then f k else none),
    fun k => by by_cases hk : k ∈ S <;> simp [hk]⟩

/-- A partial function defined inside the finite set is the lookup of its finite map. -/
theorem lookup_ofLookup {S : Finset K} {f : K → Option V} (h : ∀ k, f k ≠ none → k ∈ S) (k : K) :
    (ofLookup S f).lookup k = f k := by
  rw [ofLookup, keysLookupEquiv_symm_apply_lookup]
  by_cases hk : k ∈ S
  · exact if_pos hk
  · have hf : f k = none := by
      by_contra hf
      exact hk (h k hf)
    rw [hf]
    exact if_neg hk

/-- A key outside the map contributes nothing. -/
theorem elim_lookup_of_notMem {m : Finmap fun _ : K => V} {k : K} (h : k ∉ m.keys)
    (g : V → M) : (m.lookup k).elim 0 g = 0 := by
  rw [lookup_eq_none.mpr (mt mem_keys.mpr h), Option.elim_none]

/-- The sum may be taken over any finite set that contains the keys. -/
theorem sumBy_eq_sum {m : Finmap fun _ : K => V} {S : Finset K} (h : m.keys ⊆ S)
    (g : K → V → M) : m.sumBy g = ∑ k ∈ S, (m.lookup k).elim 0 (g k) :=
  Finset.sum_subset h fun _ _ hk => elim_lookup_of_notMem hk _

/-- Two maps whose keys contribute the same summands have the same sum. -/
theorem sumBy_congr {m : Finmap fun _ : K => V} {m' : Finmap fun _ : K => W} {g : K → V → M}
    {g' : K → W → M} (h : ∀ k, (m.lookup k).elim 0 (g k) = (m'.lookup k).elim 0 (g' k)) :
    m.sumBy g = m'.sumBy g' := by
  have hm : m.keys ⊆ m.keys ∪ m'.keys := Finset.subset_union_left
  have hm' : m'.keys ⊆ m.keys ∪ m'.keys := Finset.subset_union_right
  rw [sumBy_eq_sum hm, sumBy_eq_sum hm']
  exact Finset.sum_congr rfl fun k _ => h k

/-- The sum of a pointwise sum is the sum of the two sums. -/
theorem sumBy_add (m : Finmap fun _ : K => V) (g g' : K → V → M) :
    m.sumBy (fun k v => g k v + g' k v) = m.sumBy g + m.sumBy g' := by
  rw [sumBy, sumBy, sumBy, ← Finset.sum_add_distrib]
  refine Finset.sum_congr rfl fun k _ => ?_
  cases m.lookup k with
  | none => simp
  | some v => rfl

/-- The entry of a key that is erased splits off the sum. -/
theorem sumBy_erase {m : Finmap fun _ : K => V} {k : K} {v : V} (h : m.lookup k = some v)
    (g : K → V → M) : m.sumBy g = g k v + (m.erase k).sumBy g := by
  have hk : k ∈ m.keys := mem_keys.mpr (mem_of_lookup_eq_some h)
  rw [sumBy, sumBy, keys_erase, ← Finset.add_sum_erase _ _ hk, h, Option.elim_some]
  congr 1
  refine Finset.sum_congr rfl fun k' hk' => ?_
  rw [lookup_erase_ne (Finset.ne_of_mem_erase hk')]

/-- Inserting a fresh key adds its summand. -/
theorem sumBy_insert {m : Finmap fun _ : K => V} {k : K} (h : k ∉ m) (v : V)
    (g : K → V → M) : (m.insert k v).sumBy g = g k v + m.sumBy g := by
  rw [sumBy_erase (lookup_insert m)]
  congr 1
  refine sumBy_congr fun k' => ?_
  rw [lookup_erase_ite, lookup_insert_ite]
  split_ifs with hk
  · rw [hk, lookup_eq_none.mpr h]
  · rfl

/-- A sum with summands at one key only is the summand of that key. -/
theorem sumBy_ite (m : Finmap fun _ : K => V) (k : K) (g : V → M) :
    m.sumBy (fun k' v => if k = k' then g v else 0) = (m.lookup k).elim 0 g := by
  by_cases hk : k ∈ m.keys
  · rw [sumBy, Finset.sum_eq_single_of_mem k hk]
    · simp
    · intro k' _ hne
      cases m.lookup k' with
      | none => rfl
      | some v => simp [hne.symm]
  · rw [elim_lookup_of_notMem hk, sumBy]
    refine Finset.sum_eq_zero fun k' hk' => ?_
    have hne : k ≠ k' := fun h => hk (h ▸ hk')
    cases m.lookup k' with
    | none => rfl
    | some v => simp [hne]

/-! ### Related maps -/

section Related

variable {r : V → W → Prop} {m : Finmap fun _ : K => V} {m' : Finmap fun _ : K => W} {k : K}
  {v : V} {w : W}

/-- Two finite maps with the same keys and related values. -/
def Related (r : V → W → Prop) (m : Finmap fun _ : K => V) (m' : Finmap fun _ : K => W) : Prop :=
  ∀ k, Option.Rel r (m.lookup k) (m'.lookup k)

/-- A value of the first map has a related value in the second. -/
theorem Related.lookup (h : Related r m m') (hv : m.lookup k = some v) :
    ∃ w, m'.lookup k = some w ∧ r v w := by
  have hk := h k
  rw [hv] at hk
  cases hw : m'.lookup k with
  | none =>
    rw [hw] at hk
    cases hk
  | some w =>
    rw [hw] at hk
    exact ⟨w, rfl, Option.rel_some_some.mp hk⟩

/-- A key that is missing in the first map is missing in the second. -/
theorem Related.notMem (h : Related r m m') (hk : k ∉ m) : k ∉ m' := by
  have hrel := h k
  rw [lookup_eq_none.mpr hk] at hrel
  rw [← lookup_eq_none]
  cases hw : m'.lookup k with
  | none => rfl
  | some w =>
    rw [hw] at hrel
    cases hrel

/-- Inserting related values keeps the maps related. -/
theorem Related.insert (h : Related r m m') (hr : r v w) :
    Related r (m.insert k v) (m'.insert k w) := by
  intro k'
  rw [lookup_insert_ite, lookup_insert_ite]
  split_ifs
  · exact .some hr
  · exact h k'

/-- Replacing a value by another one related to the same keeps the maps related. -/
theorem Related.insert_left (h : Related r m m') (hw : m'.lookup k = some w) (hr : r v w) :
    Related r (m.insert k v) m' := by
  intro k'
  rw [lookup_insert_ite]
  split_ifs with hk
  · rw [hk, hw]
    exact .some hr
  · exact h k'

/-- Erasing a key keeps the maps related. -/
theorem Related.erase (h : Related r m m') : Related r (m.erase k) (m'.erase k) := by
  intro k'
  rw [lookup_erase_ite, lookup_erase_ite]
  split_ifs
  · exact .none
  · exact h k'

end Related

end Finmap
