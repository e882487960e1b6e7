import XcmAutoBank.Common.Runtime
import XcmAutoBank.Foundation.History

/-!
# The template pallet

One stored number that any account may set or increment.  An increment at the largest number fails
with `StorageOverflow`, so the number never wraps: it counts from the last number that was set, and
stays at the largest one (`something_of_run`).
-/

namespace XcmAutoBank.Template

open History

variable {A : Type}

inductive Event (AccountId : Type) where
  | somethingStored (something : UInt32) (who : AccountId)
  deriving DecidableEq, Repr

inductive Error where
  | noneValue
  | storageOverflow
  deriving DecidableEq, Repr

/-- The storage of the pallet. -/
structure State (AccountId : Type) where
  something : Option UInt32
  /-- The events deposited, oldest first. -/
  events : List (Event AccountId)

/-- Nothing is stored. -/
def State.init : State A := ⟨none, []⟩

/-- The sum of two numbers, if it is one. -/
def checkedAdd (a b : UInt32) : Option UInt32 :=
  if a.toNat + b.toNat < UInt32.size then some (a + b) else none

/-! ### Dispatchables -/

/-- Store a number. -/
def doSomething (origin : Origin A) (something : UInt32) : Call (State A) Error Unit := do
  let who ← ensureSigned origin
  Dispatch.write fun s => { s with something := some something }
  Dispatch.write fun s => { s with events := s.events ++ [.somethingStored something who] }

/-- Increment the stored number; there may be none, or it may be the largest one. -/
def causeError (origin : Origin A) : Call (State A) Error Unit := do
  let _who ← ensureSigned origin
  match ← Dispatch.read State.something with
  | none => throw (.module .noneValue)
  | some old =>
    let new ← Dispatch.okOr (checkedAdd old 1) (.module .storageOverflow)
    Dispatch.write fun s => { s with something := some new }

/-- The calls of the pallet. -/
inductive Op (A : Type) where
  | doSomething (origin : Origin A) (something : UInt32)
  | causeError (origin : Origin A)

/-- The call an operation makes. -/
def Op.call : Op A → Call (State A) Error Unit
  | .doSomething origin something => Template.doSomething origin something
  | .causeError origin => Template.causeError origin

/-- The storage after one operation, whatever it returns. -/
def perform (s : State A) (op : Op A) : State A := op.call.exec s

/-- A number is stored. -/
def Op.stores : Op A → Bool
  | .doSomething (.signed _) _ => true
  | _ => false

/-- An increment is asked for. -/
def Op.increments : Op A → Bool
  | .causeError (.signed _) => true
  | _ => false

/-! ### One operation -/

variable {s : State A} {v : UInt32}

/-- The sum is a number as long as it fits. -/
theorem checkedAdd_one (h : v.toNat + 1 < UInt32.size) :
    ∃ w, checkedAdd v 1 = some w ∧ w.toNat = v.toNat + 1 := by
  have hfits : v.toNat + (1 : UInt32).toNat < UInt32.size := h
  refine ⟨v + 1, if_pos hfits, ?_⟩
  rw [UInt32.toNat_add]
  exact Nat.mod_eq_of_lt h

/-- The largest number has no successor. -/
theorem checkedAdd_one_eq_none (h : ¬v.toNat + 1 < UInt32.size) : checkedAdd v 1 = none :=
  if_neg h

/-- A signed increment of a stored number replaces it by its successor, or fails when there is
none. -/
theorem causeError_run (h : s.something = some v) (who : A) :
    (∃ w, w.toNat = v.toNat + 1 ∧ v.toNat + 1 < UInt32.size ∧
      (causeError (.signed who)).run s = (.ok (), { s with something := some w })) ∨
    (v.toNat + 1 = UInt32.size ∧
      (causeError (.signed who)).run s = (.error (.module .storageOverflow), s)) := by
  by_cases hfits : v.toNat + 1 < UInt32.size
  · obtain ⟨w, hw, hsucc⟩ := checkedAdd_one hfits
    exact .inl ⟨w, hsucc, hfits, by simp [causeError, h, hw]⟩
  · have hlt : v.toNat < UInt32.size := v.toNat_lt
    refine .inr ⟨by omega, ?_⟩
    simp [causeError, h, checkedAdd_one_eq_none hfits]

/-- An operation that stores no number counts its increment, up to the largest number. -/
theorem something_of_perform (h : s.something = some v) {op : Op A} (hop : op.stores = false) :
    ∃ w, (perform s op).something = some w ∧
      w.toNat = min (v.toNat + if op.increments then 1 else 0) (UInt32.size - 1) := by
  have hlt : v.toNat < UInt32.size := v.toNat_lt
  have kept (hsame : perform s op = s) (hidle : op.increments = false) :
      ∃ w, (perform s op).something = some w ∧
        w.toNat = min (v.toNat + if op.increments then 1 else 0) (UInt32.size - 1) := by
    refine ⟨v, by rw [hsame, h], ?_⟩
    simp only [hidle, Bool.false_eq_true, if_false]
    omega
  cases op with
  | doSomething origin something =>
    cases origin with
    | signed who => cases hop
    | root => exact kept rfl rfl
    | none => exact kept rfl rfl
  | causeError origin =>
    cases origin with
    | signed who =>
      have hone : (if (Op.causeError (.signed who) : Op A).increments then 1 else 0) = 1 := rfl
      rw [hone]
      rcases causeError_run h who with ⟨w, hw, hfits, hrun⟩ | ⟨hmax, hrun⟩
      · refine ⟨w, by rw [perform, Op.call, Dispatch.exec, hrun], ?_⟩
        omega
      · refine ⟨v, by rw [perform, Op.call, Dispatch.exec, hrun, h], ?_⟩
        omega
    | root => exact kept rfl rfl
    | none => exact kept rfl rfl

/-! ### Runs -/

/-- A stored number counts the increments up to the largest number. -/
theorem something_of_increments {ops : List (Op A)} (hops : ∀ op ∈ ops, op.stores = false)
    (h : s.something = some v) :
    ∃ w, (after perform s ops).something = some w ∧
      w.toNat = min (v.toNat + ops.countP Op.increments) (UInt32.size - 1) := by
  induction ops generalizing s v with
  | nil =>
    have hlt : v.toNat < UInt32.size := v.toNat_lt
    refine ⟨v, h, ?_⟩
    rw [List.countP_nil]
    omega
  | cons op ops ih =>
    obtain ⟨w, hw, hvalue⟩ := something_of_perform h (hops op List.mem_cons_self)
    obtain ⟨x, hx, hrest⟩ := ih (fun op' hop' => hops op' (List.mem_cons_of_mem _ hop')) hw
    refine ⟨x, hx, ?_⟩
    rw [hrest, hvalue, List.countP_cons]
    omega

/-- After any operations the stored number is the last one that was set, plus one for every signed
increment since then, up to the largest number; the next signed increment fails exactly when this
number is reached, and then changes nothing. -/
theorem something_of_run (s : State A) (past rest : List (Op A)) (who : A) (v : UInt32)
    (hrest : ∀ op ∈ rest, op.stores = false) :
    let t := after perform s (past ++ .doSomething (.signed who) v :: rest)
    ∃ w, t.something = some w ∧
      w.toNat = min (v.toNat + rest.countP Op.increments) (UInt32.size - 1) ∧
      ∀ caller, (causeError (.signed caller)).run t = (.error (.module .storageOverflow), t) ↔
        UInt32.size ≤ v.toNat + rest.countP Op.increments + 1 := by
  have hstored : (after perform s (past ++ [.doSomething (.signed who) v])).something = some v := by
    rw [after_concat]
    rfl
  have hsplit : past ++ Op.doSomething (.signed who) v :: rest =
      (past ++ [.doSomething (.signed who) v]) ++ rest := by simp
  rw [hsplit, after_append]
  obtain ⟨w, hw, hvalue⟩ := something_of_increments hrest hstored
  refine ⟨w, hw, hvalue, fun caller => ?_⟩
  rcases causeError_run hw caller with ⟨x, -, hfits, hrun⟩ | ⟨hmax, hrun⟩
  · rw [hrun]
    constructor
    · intro h
      cases (Prod.ext_iff.mp h).1
    · omega
  · refine iff_of_true hrun ?_
    omega

/-- A number set close to the largest one is incremented twice by signed calls: the second increment
of the two is lost, and so is every other. -/
theorem something_of_run_largest :
    ∃ w, (after perform State.init [.doSomething (.signed (1 : UInt64)) 4294967294,
        .causeError (.signed 2), .causeError .root, .causeError (.signed 3)]).something = some w ∧
      w.toNat = 4294967295 := by
  obtain ⟨w, hw, hvalue, -⟩ := something_of_run (State.init : State UInt64) []
    [.causeError (.signed 2), .causeError .root, .causeError (.signed 3)] 1 4294967294 (by decide)
  exact ⟨w, hw, hvalue⟩

end XcmAutoBank.Template
