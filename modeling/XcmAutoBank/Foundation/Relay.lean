import Mathlib.Data.List.Perm.Basic
import Mathlib.Data.List.Perm.Subperm
import Mathlib.Data.Set.Insert
import Mathlib.Data.Nat.Notation
import Mathlib.Logic.Relation

/-!
# Handing items to a worker over lossy channels

An issuer keeps one open item at a time.  It sends the item to a worker, who holds one item at a
time and sends it back with an answer; the item the issuer has open when an answer arrives is
settled.  Both channels may lose and reorder what is in flight, and the issuer may withdraw its
item and issue another one while the first is still under way.

Every item has a number.  The worker answers it once at most (`Sound.once`) and has not answered
what it still holds (`Sound.unanswered`).  Answers carry no name the issuer sees, so an answer can
settle a later item than the one it is about.  An item that was issued while nothing was under way
(`clear`) is safe from this: as long as it is open, all that is under way is that item (`Tracked`).
An issuer who waits for an answer before it gives an item up is always safe: one copy of an item is
under way at most, and it is the open one (`Single`).
The numbers of the items, and the record of what was received and answered, are there to be
reasoned about only.
-/

namespace Relay

variable {τ κ : Type}

/-- An item with the number of its issue. -/
abbrev Item (τ : Type) := ℕ × τ

/-- The issuer, the worker, what is in flight between them and the record of the past. -/
@[ext] structure State (τ κ : Type) where
  /-- How many items were issued. -/
  count : ℕ
  issued : Option (Item τ)
  /-- Nothing was under way when the open item was issued. -/
  clear : Bool
  requests : List (Item τ)
  held : Option (Item τ)
  answers : List (Item τ × κ)
  /-- The items the worker has received. -/
  received : Set (Item τ)
  /-- The answers the worker has given. -/
  answered : Set (Item τ × κ)

/-- No item is under way. -/
structure State.Quiet (s : State τ κ) : Prop where
  requests : s.requests = []
  held : s.held = none
  answers : s.answers = []

/-- The numbers of the items the worker has yet to answer. -/
def State.pending (s : State τ κ) : List ℕ := (s.held.toList ++ s.requests).map Prod.fst

/-- Nothing has been issued. -/
def State.init : State τ κ := ⟨0, none, false, [], none, [], ∅, ∅⟩

/-- A message that was sent is in flight, or lost at once. -/
def Sent {α : Type} (x : α) (sent : List α) : Prop := sent = [] ∨ sent = [x]

/-- What can happen in one step. -/
inductive Step : State τ κ → State τ κ → Prop
  | idle (s : State τ κ) : Step s s
  | issue (s : State τ κ) (x : τ) (clear : Bool) (sent : List (Item τ)) (hopen : s.issued = none)
      (hclear : clear = true → s.Quiet) (hsent : Sent (s.count + 1, x) sent) :
      Step s { s with
        count := s.count + 1, issued := some (s.count + 1, x), clear := clear
        requests := s.requests ++ sent }
  | withdraw (s : State τ κ) : Step s { s with issued := none }
  | receive (s : State τ κ) (pre post : List (Item τ)) (i : Item τ)
      (hrequest : s.requests = pre ++ i :: post) (hfree : s.held = none) :
      Step s { s with
        requests := pre ++ post, held := some i, received := insert i s.received }
  | answer (s : State τ κ) (i : Item τ) (k : κ) (sent : List (Item τ × κ))
      (hheld : s.held = some i) (hsent : Sent (i, k) sent) :
      Step s { s with
        held := none, answers := s.answers ++ sent, answered := insert (i, k) s.answered }
  | settle (s : State τ κ) (pre post : List (Item τ × κ)) (p : Item τ × κ)
      (hanswer : s.answers = pre ++ p :: post) :
      Step s { s with answers := pre ++ post, issued := none }
  | loseRequest (s : State τ κ) (pre post : List (Item τ)) (i : Item τ)
      (hrequest : s.requests = pre ++ i :: post) : Step s { s with requests := pre ++ post }
  | loseAnswer (s : State τ κ) (pre post : List (Item τ × κ)) (p : Item τ × κ)
      (hanswer : s.answers = pre ++ p :: post) : Step s { s with answers := pre ++ post }

/-- What the record says about the items, in every state. -/
structure Sound (s : State τ κ) : Prop where
  pending_le : ∀ n ∈ s.pending, n ≤ s.count
  pending_nodup : s.pending.Nodup
  received_le : ∀ i ∈ s.received, i.1 ≤ s.count
  held_received : ∀ i, s.held = some i → i ∈ s.received
  answered_received : ∀ p ∈ s.answered, p.1 ∈ s.received
  answer_answered : ∀ p ∈ s.answers, p ∈ s.answered
  unanswered : ∀ n ∈ s.pending, ∀ p ∈ s.answered, p.1.1 ≠ n
  once : ∀ p ∈ s.answered, ∀ q ∈ s.answered, p.1.1 = q.1.1 → p = q

/-- All that is under way is the item `i`. -/
structure Tracked (s : State τ κ) (i : Item τ) : Prop where
  request : ∀ j ∈ s.requests, j = i
  held : ∀ j, s.held = some j → j = i
  answer : ∀ p ∈ s.answers, p.1 = i

/-- The record is sound, and an item that was issued while nothing was under way is tracked. -/
structure Invariant (s : State τ κ) : Prop where
  sound : Sound s
  tracked : ∀ i, s.issued = some i → s.clear = true → Tracked s i

/-- Before the first issue there is nothing to track. -/
theorem invariant_init : Invariant (State.init : State τ κ) := by
  constructor
  · constructor
    · intro n hn
      cases hn
    · exact List.nodup_nil
    all_goals
      intro x hx
      cases hx
  · intro i hi
    cases hi

/-! ### One step -/

section Step

variable {s t : State τ κ}

/-- What is left after one element is taken out was there before. -/
theorem mem_of_mem_erased {α : Type} {pre post l : List α} {x y : α} (hl : l = pre ++ x :: post)
    (hy : y ∈ pre ++ post) : y ∈ l := by
  rw [hl]
  rcases List.mem_append.mp hy with h | h
  · exact List.mem_append_left _ h
  · exact List.mem_append_right _ (List.mem_cons_of_mem _ h)

/-- What is sent is the message, if anything. -/
theorem Sent.eq {α : Type} {x y : α} {sent : List α} (h : Sent x sent) (hy : y ∈ sent) :
    y = x := by
  rcases h with rfl | rfl
  · cases hy
  · exact List.mem_singleton.mp hy

/-- A record stays sound when nothing is received or answered and no message appears. -/
theorem Sound.of_sublist (hs : Sound s) (hpending : t.pending.Sublist s.pending)
    (hcount : s.count = t.count) (hheld : t.held = s.held) (hreceived : t.received = s.received)
    (hanswers : ∀ p ∈ t.answers, p ∈ s.answers) (hanswered : t.answered = s.answered) :
    Sound t where
  pending_le n hn := hcount ▸ hs.pending_le n (hpending.subset hn)
  pending_nodup := hs.pending_nodup.sublist hpending
  received_le i hi := hcount ▸ hs.received_le i (hreceived ▸ hi)
  held_received i hi := by
    rw [hreceived]
    exact hs.held_received i (hheld ▸ hi)
  answered_received p hp := by
    rw [hreceived]
    exact hs.answered_received p (hanswered ▸ hp)
  answer_answered p hp := by
    rw [hanswered]
    exact hs.answer_answered p (hanswers p hp)
  unanswered n hn p hp := hs.unanswered n (hpending.subset hn) p (hanswered ▸ hp)
  once p hp q hq := hs.once p (hanswered ▸ hp) q (hanswered ▸ hq)

/-- A new item has a new number. -/
theorem Sound.issue (hs : Sound s) {x : τ} {clear : Bool} {sent : List (Item τ)}
    (hsent : Sent (s.count + 1, x) sent) :
    Sound { s with
      count := s.count + 1, issued := some (s.count + 1, x), clear := clear
      requests := s.requests ++ sent } := by
  rcases hsent with rfl | rfl
  · rw [List.append_nil]
    exact ⟨fun n hn => (hs.pending_le n hn).trans (Nat.le_succ _), hs.pending_nodup,
      fun i hi => (hs.received_le i hi).trans (Nat.le_succ _), hs.held_received,
      hs.answered_received, hs.answer_answered, hs.unanswered, hs.once⟩
  · have hpending : (s.held.toList ++ (s.requests ++ [(s.count + 1, x)])).map Prod.fst =
        s.pending ++ [s.count + 1] := by
      simp [State.pending]
    have hmem : ∀ n ∈ s.pending ++ [s.count + 1], n ∈ s.pending ∨ n = s.count + 1 := by
      simp
    constructor
    · intro n hn
      rw [State.pending, hpending] at hn
      rcases hmem n hn with hn | rfl
      · exact (hs.pending_le n hn).trans (Nat.le_succ _)
      · exact Nat.le_refl _
    · rw [State.pending, hpending, List.nodup_append]
      refine ⟨hs.pending_nodup, by simp, ?_⟩
      intro n hn m hm
      have hle := hs.pending_le n hn
      rw [List.mem_singleton.mp hm]
      omega
    · exact fun i hi => (hs.received_le i hi).trans (Nat.le_succ _)
    · exact hs.held_received
    · exact hs.answered_received
    · exact hs.answer_answered
    · intro n hn p hp
      rw [State.pending, hpending] at hn
      rcases hmem n hn with hn | rfl
      · exact hs.unanswered n hn p hp
      · have hle := hs.received_le p.1 (hs.answered_received p hp)
        omega
    · exact hs.once

/-- Every step keeps the record sound. -/
theorem Step.sound (h : Step s t) (hs : Sound s) : Sound t := by
  cases h with
  | idle => exact hs
  | issue x clear sent hopen hclear hsent => exact hs.issue hsent
  | withdraw =>
    exact hs.of_sublist (List.Sublist.refl _) rfl rfl rfl (fun _ hp => hp) rfl
  | receive pre post i hrequest hfree =>
    have hpending : s.pending.Perm ((i :: (pre ++ post)).map Prod.fst) := by
      rw [State.pending, hfree, hrequest]
      exact List.perm_middle.map _
    refine ⟨fun n hn => hs.pending_le n (hpending.mem_iff.mpr hn),
      hpending.nodup_iff.mp hs.pending_nodup, ?_, ?_, ?_, hs.answer_answered,
      fun n hn => hs.unanswered n (hpending.mem_iff.mpr hn), hs.once⟩
    · rintro j (rfl | hj)
      · exact hs.pending_le _ (hpending.mem_iff.mpr (by simp))
      · exact hs.received_le j hj
    · intro j hj
      obtain rfl := Option.some.inj hj
      exact Set.mem_insert i _
    · exact fun p hp => Set.mem_insert_of_mem _ (hs.answered_received p hp)
  | answer i k sent hheld hsent =>
    have hpending : s.pending = i.1 :: s.requests.map Prod.fst := by
      simp [State.pending, hheld]
    have hfresh : ∀ p ∈ s.answered, p.1.1 ≠ i.1 := hs.unanswered i.1 (by simp [hpending])
    have hnodup := hs.pending_nodup
    rw [hpending, List.nodup_cons] at hnodup
    refine ⟨fun n hn => hs.pending_le n ?_, hnodup.2, hs.received_le, ?_, ?_, ?_, ?_, ?_⟩
    · rw [hpending]
      exact List.mem_cons_of_mem _ hn
    · rintro j ⟨⟩
    · rintro p (rfl | hp)
      · exact hs.held_received i hheld
      · exact hs.answered_received p hp
    · intro p hp
      rcases List.mem_append.mp hp with hp | hp
      · exact Set.mem_insert_of_mem _ (hs.answer_answered p hp)
      · rw [hsent.eq hp]
        exact Set.mem_insert _ _
    · rintro n hn p (rfl | hp)
      · rintro rfl
        exact hnodup.1 hn
      · exact hs.unanswered n (by rw [hpending]; exact List.mem_cons_of_mem _ hn) p hp
    · rintro p (rfl | hp) q (rfl | hq) hpq
      · rfl
      · exact absurd hpq.symm (hfresh q hq)
      · exact absurd hpq (hfresh p hp)
      · exact hs.once p hp q hq hpq
  | settle pre post p hanswer =>
    exact hs.of_sublist (List.Sublist.refl _) rfl rfl rfl
      (fun _ hp => mem_of_mem_erased hanswer hp) rfl
  | loseRequest pre post i hrequest =>
    have hsub : (pre ++ post).Sublist s.requests := by
      rw [hrequest]
      exact (List.sublist_cons_self i post).append_left pre
    exact hs.of_sublist ((hsub.append_left _).map _) rfl rfl rfl (fun _ hp => hp) rfl
  | loseAnswer pre post p hanswer =>
    exact hs.of_sublist (List.Sublist.refl _) rfl rfl rfl
      (fun _ hp => mem_of_mem_erased hanswer hp) rfl

/-- Every step that keeps the open item keeps it tracked. -/
theorem Step.tracked (h : Step s t) {i : Item τ} (hi : t.issued = some i) (hc : t.clear = true)
    (htracked : s.issued = some i → s.clear = true → Tracked s i) : Tracked t i := by
  cases h with
  | idle => exact htracked hi hc
  | issue x clear sent hopen hclear hsent =>
    obtain rfl := Option.some.inj hi
    have hquiet := hclear hc
    refine ⟨fun j hj => ?_, fun j hj => ?_, fun p hp => ?_⟩
    · change j ∈ s.requests ++ sent at hj
      rw [hquiet.requests, List.nil_append] at hj
      exact hsent.eq hj
    · change s.held = some j at hj
      rw [hquiet.held] at hj
      cases hj
    · change p ∈ s.answers at hp
      rw [hquiet.answers] at hp
      cases hp
  | withdraw => cases hi
  | settle pre post p hanswer => cases hi
  | receive pre post j hrequest hfree =>
    have ht := htracked hi hc
    refine ⟨fun k hk => ht.request k (mem_of_mem_erased hrequest hk), fun k hk => ?_, ht.answer⟩
    rw [← Option.some.inj hk]
    exact ht.request j (by rw [hrequest]; simp)
  | answer j k sent hheld hsent =>
    have ht := htracked hi hc
    refine ⟨ht.request, ?_, fun p hp => ?_⟩
    · rintro l ⟨⟩
    · rcases List.mem_append.mp hp with hp | hp
      · exact ht.answer p hp
      · rw [hsent.eq hp]
        exact ht.held j hheld
  | loseRequest pre post j hrequest =>
    have ht := htracked hi hc
    exact ⟨fun k hk => ht.request k (mem_of_mem_erased hrequest hk), ht.held, ht.answer⟩
  | loseAnswer pre post p hanswer =>
    have ht := htracked hi hc
    exact ⟨ht.request, ht.held, fun q hq => ht.answer q (mem_of_mem_erased hanswer hq)⟩

/-- Every step keeps the invariant. -/
theorem Step.invariant (h : Step s t) (hs : Invariant s) : Invariant t :=
  ⟨h.sound hs.sound, fun i hi hc => h.tracked hi hc (hs.tracked i)⟩

/-- Over any run of steps the invariant holds. -/
theorem invariant_of_reflTransGen (h : Relation.ReflTransGen Step s t) (hs : Invariant s) :
    Invariant t := by
  induction h with
  | refl => exact hs
  | tail _ hstep ih => exact hstep.invariant ih

end Step

/-! ### What an answer tells -/

variable {s : State τ κ} {i : Item τ} {p : Item τ × κ}

/-- An answer that arrives for a clear item is about that item. -/
theorem Invariant.answer_eq (h : Invariant s) (hi : s.issued = some i) (hc : s.clear = true)
    (hp : p ∈ s.answers) : p.1 = i :=
  (h.tracked i hi hc).answer p hp

/-- The worker has received every item an answer is about. -/
theorem Sound.answer_received (h : Sound s) (hp : p ∈ s.answers) : p.1 ∈ s.received :=
  h.answered_received p (h.answer_answered p hp)

/-- The worker has given no other answer than the one in flight. -/
theorem Sound.answer_only (h : Sound s) (hp : p ∈ s.answers) {k : κ} (hk : (p.1, k) ∈ s.answered) :
    k = p.2 :=
  congrArg Prod.snd (h.once (p.1, k) hk p (h.answer_answered p hp) rfl)

/-- The worker has not answered the item it holds. -/
theorem Sound.held_unanswered (h : Sound s) (hi : s.held = some i) (k : κ) :
    (i, k) ∉ s.answered := by
  intro hk
  have hpending : i.1 ∈ s.pending := by simp [State.pending, hi]
  exact h.unanswered i.1 hpending (i, k) hk rfl

/-! ### One copy of the open item -/

/-- The items that are under way. -/
def State.copies (s : State τ κ) : List (Item τ) :=
  s.requests ++ s.held.toList ++ s.answers.map Prod.fst

/-- One copy of an item is under way at most, and it is the item the issuer has open. -/
structure Single (s : State τ κ) : Prop where
  length_le : s.copies.length ≤ 1
  issued : ∀ i ∈ s.copies, s.issued = some i

/-- The issuer gives its open item up for an answer only. -/
def Keeps (s t : State τ κ) : Prop :=
  ∀ i, s.issued = some i → t.issued = some i ∨ t.answers.length < s.answers.length

section Single

variable {s t : State τ κ}

/-- Before the first issue nothing is under way. -/
theorem single_init : Single (State.init : State τ κ) :=
  ⟨Nat.zero_le _, fun _ hi => absurd hi List.not_mem_nil⟩

/-- Copies that move or vanish stay copies of the open item. -/
theorem Single.of_subperm (hs : Single s) (hcopies : List.Subperm t.copies s.copies)
    (hissued : t.issued = s.issued) : Single t := by
  refine ⟨hcopies.length_le.trans hs.length_le, fun i hi => ?_⟩
  rw [hissued]
  exact hs.issued i (hcopies.subset hi)

/-- Without an open item nothing is under way. -/
theorem Single.quiet (hs : Single s) (hopen : s.issued = none) : s.copies = [] := by
  rw [List.eq_nil_iff_forall_not_mem]
  intro i hi
  have hissued := hs.issued i hi
  rw [hopen] at hissued
  cases hissued

/-- A step that gives the open item up for an answer only keeps one copy of it at most. -/
theorem Step.single (h : Step s t) (hkeeps : Keeps s t) (hs : Single s) : Single t := by
  cases h with
  | idle => exact hs
  | issue x clear sent hopen hclear hsent =>
    have hquiet := hs.quiet hopen
    rw [State.copies, List.append_eq_nil_iff, List.append_eq_nil_iff] at hquiet
    obtain ⟨⟨hrequests, hheld⟩, hanswers⟩ := hquiet
    have hcopies : State.copies { s with
        count := s.count + 1, issued := some (s.count + 1, x), clear := clear
        requests := s.requests ++ sent } = sent := by
      simp [State.copies, hrequests, hheld, hanswers]
    constructor
    · rw [hcopies]
      rcases hsent with rfl | rfl
      · exact Nat.zero_le _
      · exact Nat.le_refl _
    · intro i hi
      rw [hcopies] at hi
      rw [hsent.eq hi]
  | withdraw =>
    cases hopen : s.issued with
    | none => exact hs.of_subperm (List.Subperm.refl _) hopen.symm
    | some i =>
      -- no answer has left, so the item could not have been given up
      rcases hkeeps i hopen with hkept | hless
      · cases hkept
      · exact absurd hless (Nat.lt_irrefl _)
  | receive pre post i hrequest hfree =>
    refine hs.of_subperm (List.Perm.subperm ?_) rfl
    simp only [State.copies, hrequest, hfree, Option.toList_some, Option.toList_none,
      List.append_nil]
    refine List.Perm.append_right _ ?_
    have hfront : (pre ++ post ++ [i]).Perm (i :: (pre ++ post)) := List.perm_append_singleton _ _
    exact hfront.trans List.perm_middle.symm
  | answer i k sent hheld hsent =>
    refine hs.of_subperm ?_ rfl
    simp only [State.copies, hheld, Option.toList_some, Option.toList_none, List.append_nil,
      List.map_append]
    rcases hsent with rfl | rfl
    · have hsub : List.Sublist (s.requests ++ (s.answers.map Prod.fst ++ []))
          (s.requests ++ [i] ++ s.answers.map Prod.fst) := by
        rw [List.append_nil, List.append_assoc]
        exact (List.sublist_append_right _ _).append_left _
      exact hsub.subperm
    · rw [List.append_assoc]
      exact (List.perm_append_comm.append_left _).subperm
  | settle pre post p hanswer =>
    have hlength := hs.length_le
    simp only [State.copies, hanswer, List.length_append, List.length_map, List.length_cons]
      at hlength
    have hnone : State.copies { s with answers := pre ++ post, issued := none } = [] := by
      rw [← List.length_eq_zero_iff]
      simp only [State.copies, List.length_append, List.length_map]
      omega
    refine ⟨by rw [hnone]; exact Nat.zero_le _, fun i hi => ?_⟩
    rw [hnone] at hi
    cases hi
  | loseRequest pre post i hrequest =>
    have hsub : (pre ++ post).Sublist s.requests := by
      rw [hrequest]
      exact (List.sublist_cons_self i post).append_left pre
    exact hs.of_subperm ((hsub.append_right _).append_right _).subperm rfl
  | loseAnswer pre post p hanswer =>
    have hsub : (pre ++ post).Sublist s.answers := by
      rw [hanswer]
      exact (List.sublist_cons_self p post).append_left pre
    exact hs.of_subperm ((hsub.map _).append_left _).subperm rfl

end Single

end Relay
