import XcmAutoBank.Common.Settlement
import XcmAutoBank.Foundation.FiniteMap

/-!
# What the events tell about the orders

An observer of a chain sees the events and not the storage.  Each kind of event marks the order of
a device as placed or as closed, or says nothing about orders.  The journal of a list of events is
what its marks add up to, and a call is `Journaled` when what it does to the stored orders is what
the marks of the events it deposits say.
-/

namespace XcmAutoBank.Storage

variable {A O D E L C : Type} [DecidableEq A]

/-- What one event makes of what is known about the order of a device. -/
def mark (marks : E → Option (A × Option C)) (d : A) (known : Option C) (e : E) : Option C :=
  match marks e with
  | some (x, c) => if x = d then c else known
  | none => known

/-- What the events tell about the order of a device. -/
def journal (marks : E → Option (A × Option C)) (events : List E) (d : A) : Option C :=
  events.foldl (mark marks d) none

/-- The events a call deposits tell what it does to the orders, seen through `digest`. -/
def Journaled (marks : E → Option (A × Option C)) (digest : O → C) (s s' : Storage A O D E L) :
    Prop :=
  ∃ evs, s'.events = s.events ++ evs ∧ ∀ d, (s'.orders.lookup d).map digest =
    evs.foldl (mark marks d) ((s.orders.lookup d).map digest)

variable {marks : E → Option (A × Option C)} {digest : O → C} {s t s' : Storage A O D E L} {d x : A}
  {e : E} {evs : List E} {known : Option C}

/-- Events without marks tell nothing. -/
theorem foldl_mark_of_silent (h : ∀ e ∈ evs, marks e = none) :
    evs.foldl (mark marks d) known = known := by
  induction evs generalizing known with
  | nil => rfl
  | cons e evs ih =>
    have he : mark marks d known e = known := by rw [mark, h e List.mem_cons_self]
    rw [List.foldl_cons, he]
    exact ih fun e' he' => h e' (List.mem_cons_of_mem _ he')

/-- A call that keeps the orders and deposits events without marks is journaled. -/
theorem journaled_of_silent (horders : s'.orders = s.orders) (hevents : s'.events = s.events ++ evs)
    (h : ∀ e ∈ evs, marks e = none) : Journaled marks digest s s' :=
  ⟨evs, hevents, fun d => by rw [foldl_mark_of_silent h, horders]⟩

/-- A call that changes neither orders nor events is journaled. -/
theorem journaled_of_same (horders : s'.orders = s.orders) (hevents : s'.events = s.events) :
    Journaled marks digest s s' :=
  journaled_of_silent horders (by rw [hevents, List.append_nil])
    fun e he => absurd he List.not_mem_nil

/-- A call that stores an order is journaled when an event marks it as placed, and the events after
it say nothing. -/
theorem journaled_of_stored {o : O} (horders : s'.orders = s.orders.insert x o)
    (hevents : s'.events = s.events ++ e :: evs) (he : marks e = some (x, some (digest o)))
    (h : ∀ e ∈ evs, marks e = none) : Journaled marks digest s s' := by
  refine ⟨e :: evs, hevents, fun d => ?_⟩
  rw [List.foldl_cons, foldl_mark_of_silent h, mark, he, horders, Finmap.lookup_insert_ite]
  by_cases hd : x = d
  · rw [if_pos hd.symm]
    exact (if_pos hd).symm
  · rw [if_neg (Ne.symm hd)]
    exact (if_neg hd).symm

/-- A call that removes the order of a device is journaled when an event marks it as closed. -/
theorem journaled_of_erased (horders : s'.orders = s.orders.erase x)
    (hevents : s'.events = s.events ++ [e]) (he : marks e = some (x, none)) :
    Journaled marks digest s s' := by
  refine ⟨[e], hevents, fun d => ?_⟩
  rw [List.foldl_cons, List.foldl_nil, mark, he, horders, Finmap.lookup_erase_ite]
  by_cases hd : x = d
  · rw [if_pos hd.symm]
    exact (if_pos hd).symm
  · rw [if_neg (Ne.symm hd)]
    exact (if_neg hd).symm

/-- Calls one after the other are journaled. -/
theorem Journaled.trans (h : Journaled marks digest s t) (h' : Journaled marks digest t s') :
    Journaled marks digest s s' := by
  obtain ⟨evs, hevents, horders⟩ := h
  obtain ⟨evs', hevents', horders'⟩ := h'
  refine ⟨evs ++ evs', by rw [hevents', hevents, List.append_assoc], fun d => ?_⟩
  rw [List.foldl_append, horders', horders]

/-- What journaled calls lead to from an empty storage, the journal tells. -/
theorem Journaled.journal_eq {ledger : L} (h : Journaled marks digest (Storage.init ledger) s)
    (d : A) : (s.orders.lookup d).map digest = journal marks s.events d := by
  obtain ⟨evs, hevents, horders⟩ := h
  have hall : s.events = evs := hevents
  rw [horders, hall]
  rfl

end XcmAutoBank.Storage
