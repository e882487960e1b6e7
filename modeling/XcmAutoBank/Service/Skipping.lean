import XcmAutoBank.Service.Outcome
import XcmAutoBank.Common.Atomic
import XcmAutoBank.Foundation.Loop

/-!
# Bytes that end a batch on the service chain

The handler returns at the first item that is not a new order, be it bytes that do not decode or a
message meant for a client chain, and all that comes behind it in the batch is lost.  A loss shows
unless every order that is lost would be refused in the storage the batch has led to: messages only
ever store orders and add to reserves, so what one message does, no later one undoes.
-/

namespace XcmAutoBank.Service

open ReservableCurrency LawfulCurrency Storage

variable {A P L : Type} [DecidableEq A] [ReservableCurrency L A] [Codec A] [Codec P]

/-- One item of a batch: the sender, the block it was sent in and its bytes. -/
abbrev Item := ParaId × RelayBlockNumber × List UInt8

/-- Receive the order one item brings; any other item is skipped. -/
def handleItem (selfParaId : ParaId) (env : ServiceEnv A P) (s : State A P L) (item : Item) :
    State A P L :=
  match (Codec.decode item.2.2 : Option (XCMPMessageOf A P × List UInt8)) with
  | some (.newOrder client b, _) =>
    (orderReceived selfParaId env (receivedOrder b item.1 client) b.device).exec s
  | _ => s

section Reading

variable (A P)

/-- Bytes that decode to a message of a client chain, the messages this pallet handles. -/
def isHandled (item : Item) : Bool :=
  match (Codec.decode item.2.2 : Option (XCMPMessageOf A P × List UInt8)) with
  | some (.newOrder .., _) => true
  | _ => false

/-- Whatever is not handled ends the batch. -/
def endsBatch (item : Item) : Bool := !isHandled A P item

end Reading

/-- Handle exactly the items with a message this pallet handles, one by one. -/
def handleEach (selfParaId : ParaId) (env : ServiceEnv A P) (items : List Item)
    (s : State A P L) : State A P L :=
  (items.filter (isHandled A P)).foldl (handleItem selfParaId env) s

/-- An item that finds nothing to do: an order that is refused, or a local one whose device cannot
reserve its penalty. -/
def Moot (selfParaId : ParaId) (env : ServiceEnv A P) (s : State A P L) (item : Item) : Prop :=
  ∀ (client : A) (b : OrderBaseOf A P) (rest : List UInt8),
    Codec.decode item.2.2 = some ((.newOrder client b : XCMPMessageOf A P), rest) →
    ∀ dev state,
      Receives selfParaId env s (receivedOrder b item.1 client) b.device dev state →
      item.1 = selfParaId ∧ free s.ledger b.device < dev.penalty.toNat

/-- Every order behind the first item that is not an order finds nothing to do in the storage that
the items before that item lead to. -/
def NothingLost (selfParaId : ParaId) (env : ServiceEnv A P) (items : List Item)
    (s : State A P L) : Prop :=
  ∀ item ∈ (Loop.lost (endsBatch A P) items).filter (isHandled A P),
    Moot selfParaId env
      ((Loop.reached (endsBatch A P) items).foldl (handleItem selfParaId env) s) item

/-- Orders are stored and reserves added to on the way from one storage to another. -/
structure Winds (s t : State A P L) : Prop where
  orders : ∀ d o, s.orders.lookup d = some o → t.orders.lookup d = some o
  reserved : ∀ a : A, reserved s.ledger a ≤ ReservableCurrency.reserved t.ledger a

variable {selfParaId : ParaId} {env : ServiceEnv A P} {s t u : State A P L} {d client : A}
  {o : OrderOf A P} {b : OrderBaseOf A P} {item : Item} {rest : List UInt8}

/-! ### One item -/

/-- A new order is received. -/
theorem handleItem_of_decode
    (h : Codec.decode item.2.2 = some ((.newOrder client b : XCMPMessageOf A P), rest)) :
    handleItem selfParaId env s item =
      (orderReceived selfParaId env (receivedOrder b item.1 client) b.device).exec s := by
  simp only [handleItem, h]

omit [DecidableEq A] in
/-- What is handled is a new order. -/
theorem newOrder_of_isHandled (h : isHandled A P item = true) :
    ∃ (client : A) (b : OrderBaseOf A P) (rest : List UInt8),
      Codec.decode item.2.2 = some ((.newOrder client b : XCMPMessageOf A P), rest) := by
  unfold isHandled at h
  split at h
  · rename_i client b rest hdec
    exact ⟨client, b, rest, hdec⟩
  · cases h

/-- Whatever is not a new order changes nothing. -/
theorem handleItem_of_skipped (h : isHandled A P item = false) :
    handleItem selfParaId env s item = s := by
  unfold handleItem
  split
  · rename_i client b rest hdec
    simp [isHandled, hdec] at h
  · rfl

/-- Whatever is not a new order ends the batch. -/
theorem handleXcmpMessages_of_skipped {items : List Item} {maxWeight : Weight}
    (h : isHandled A P item = false) :
    handleXcmpMessages selfParaId env (item :: items) maxWeight s = (s, 0) := by
  unfold handleXcmpMessages
  split
  · rename_i client b rest hdec
    simp [isHandled, hdec] at h
  · rfl
  · rfl

/-- A batch is a loop over its items. -/
theorem handleXcmpMessages_loop (items : List Item) (maxWeight : Weight) (s : State A P L) :
    (handleXcmpMessages selfParaId env items maxWeight s).1 =
      Loop.run (endsBatch A P) (handleItem selfParaId env) items s := by
  induction items generalizing s with
  | nil => rfl
  | cons item items ih =>
    cases hhandled : isHandled A P item with
    | false =>
      have hends : endsBatch A P item = true := by simp [endsBatch, hhandled]
      rw [handleXcmpMessages_of_skipped hhandled, Loop.run, if_pos hends]
    | true =>
      have hends : ¬endsBatch A P item = true := by simp [endsBatch, hhandled]
      obtain ⟨client, b, rest, hdec⟩ := newOrder_of_isHandled hhandled
      rw [Loop.run, if_neg hends, ← ih, handleItem_of_decode hdec]
      simp only [handleXcmpMessages, hdec]

/-- A batch of orders loses nothing. -/
theorem nothingLost_of_orders {items : List Item}
    (h : ∀ item ∈ items, isHandled A P item = true) : NothingLost selfParaId env items s := by
  have hends : ∀ item ∈ items, endsBatch A P item = false := by
    intro item hitem
    rw [endsBatch, h item hitem]
    rfl
  intro item hitem
  rw [Loop.lost_eq_nil hends] at hitem
  cases hitem

/-! ### What items do -/

omit [Codec A] [Codec P] in
/-- The same storage has been reached without storing or reserving anything. -/
theorem winds_of_same (h : s.Same t) : Winds s t :=
  ⟨fun d o ho => by rw [h.orders, ho], fun a => (h.reserved a).ge⟩

omit [Codec A] [Codec P] in
/-- Storing orders and adding to reserves goes on. -/
theorem Winds.trans (h : Winds s t) (h' : Winds t u) : Winds s u :=
  ⟨fun d o ho => h'.orders d o (h.orders d o ho), fun a => (h.reserved a).trans (h'.reserved a)⟩

section Lawful

variable [LawfulCurrency L A]

omit [Codec A] [Codec P] in
/-- An order passes the checks in every storage with the same orders, profiles and balances. -/
theorem receives_of_same {dev : DeviceProfile} {state : DeviceState} (h : s.Same t)
    (hr : Receives selfParaId env t o d dev state) : Receives selfParaId env s o d dev state where
  before := hr.before
  fresh := by
    rw [← h.orders]
    exact hr.fresh
  profile := by
    rw [← h.device]
    exact hr.profile
  ready := hr.ready
  enough := hr.enough
  answer := hr.answer
  solvent hlocal := by
    rw [canReserve_iff, ← h.free, ← canReserve_iff]
    exact hr.solvent hlocal

/-- An item that finds nothing to do finds nothing in the same storage. -/
theorem Moot.congr (h : s.Same t) (hmoot : Moot selfParaId env s item) :
    Moot selfParaId env t item := by
  intro client b rest hdec dev state hr
  rw [h.free]
  exact hmoot client b rest hdec dev state (receives_of_same h hr)

variable (selfParaId env s o d) in
/-- A received order changes nothing, or it is stored, or its device's penalty is reserved. -/
theorem orderReceived_outcome :
    let s' := (orderReceived selfParaId env o d).exec s
    let moot := ∀ dev state, Receives selfParaId env s o d dev state →
      o.paraid = selfParaId ∧ free s.ledger d < dev.penalty.toNat
    s.Same s' ∧ moot ∨ ¬moot ∧ (∀ a : A, reserved s.ledger a ≤ reserved s'.ledger a) ∧
      (d ∉ s.orders ∧ s'.orders = s.orders.insert d o ∨
        s'.orders = s.orders ∧ reserved s.ledger d < reserved s'.ledger d) := by
  intro s' moot
  by_cases hr : ∃ dev state, Receives selfParaId env s o d dev state
  · obtain ⟨dev, state, hr⟩ := hr
    have hmoot : moot ↔ o.paraid = selfParaId ∧ free s.ledger d < dev.penalty.toNat := by
      constructor
      · exact fun h => h dev state hr
      · intro h dev' state' hr'
        obtain rfl := Option.some.inj (hr.profile.symm.trans hr'.profile)
        exact h
    have hrun := orderReceived_run hr
    by_cases hlocal : o.paraid = selfParaId
    · rw [if_pos hlocal] at hrun
      cases hl₁ : reserve s.ledger d dev.penalty.toNat with
      | error e =>
        have hs' : s' = s := by simp only [s', Dispatch.exec, hrun, hl₁]
        refine .inl ⟨by rw [hs']; exact .refl s, hmoot.mpr ⟨hlocal, ?_⟩⟩
        exact (reserve_error_iff _ _ _).mp ⟨e, hl₁⟩
      | ok l₁ =>
        have hrich : dev.penalty.toNat ≤ free s.ledger d :=
          (reserve_ok_iff _ _ _).mp ⟨l₁, hl₁⟩
        have hnot : ¬moot := by
          rw [hmoot]
          rintro ⟨-, hpoor⟩
          omega
        refine .inr ⟨hnot, ?_⟩
        cases hl₂ : reserve l₁ o.client o.fee.toNat with
        | error e =>
          have hs' : s' = s.withLedger l₁ := by simp only [s', Dispatch.exec, hrun, hl₁, hl₂]
          -- the client could pay before the penalty was reserved, so it is the device itself
          have hpoor := (reserve_error_iff _ _ _).mp ⟨e, hl₂⟩
          have hfee := (canReserve_iff _ _ _).mp (hr.solvent hlocal)
          rw [free_reserve hl₁] at hpoor
          have hpenalty : 0 < dev.penalty.toNat := by
            by_contra hzero
            simp only [Nat.not_lt, Nat.le_zero] at hzero
            rw [hzero, ite_self] at hpoor
            omega
          rw [hs']
          refine ⟨fun a => ?_, .inr ⟨rfl, ?_⟩⟩
          · rw [withLedger_ledger, reserved_reserve hl₁]
            exact Nat.le_add_right _ _
          · rw [withLedger_ledger, reserved_reserve hl₁, if_pos rfl]
            omega
        | ok l₂ =>
          have hs' : s' = stored selfParaId env.toEnv s o d dev state l₂ := by
            simp only [s', Dispatch.exec, hrun, hl₁, hl₂]
          rw [hs']
          refine ⟨fun a => ?_, .inl ⟨hr.fresh, rfl⟩⟩
          change reserved s.ledger a ≤ reserved l₂ a
          rw [reserved_reserve hl₂, reserved_reserve hl₁]
          omega
    · rw [if_neg hlocal] at hrun
      have hs' : s' = stored selfParaId env.toEnv s o d dev state s.ledger := by
        simp only [s', Dispatch.exec, hrun]
      rw [hs']
      exact .inr ⟨fun h => hlocal (hmoot.mp h).1, fun a => Nat.le_refl _, .inl ⟨hr.fresh, rfl⟩⟩
  · have hs' : s' = s := Dispatch.exec_of_refused (orderReceived_refused hr)
    refine .inl ⟨by rw [hs']; exact .refl s, fun dev state h => ?_⟩
    exact absurd ⟨dev, state, h⟩ hr

variable (selfParaId env s o d) in
/-- A received order is stored, adds to a reserve or changes nothing, and never the other way
round. -/
theorem winds_of_orderReceived : Winds s ((orderReceived selfParaId env o d).exec s) := by
  rcases orderReceived_outcome selfParaId env s d o with
    ⟨hsame, -⟩ | ⟨-, hreserved, ⟨hfresh, horders⟩ | ⟨horders, -⟩⟩
  · exact winds_of_same hsame
  · refine ⟨fun x ox hx => ?_, hreserved⟩
    rw [horders, Finmap.lookup_insert_of_notMem hfresh hx]
  · exact ⟨fun x ox hx => by rw [horders, hx], hreserved⟩

/-- What a received order does is never undone by storing orders and adding to reserves. -/
theorem same_of_winds (h : Winds ((orderReceived selfParaId env o d).exec s) u)
    (hsame : s.Same u) : s.Same ((orderReceived selfParaId env o d).exec s) := by
  rcases orderReceived_outcome selfParaId env s d o with
    ⟨hkept, -⟩ | ⟨-, -, ⟨hfresh, horders⟩ | ⟨-, hmore⟩⟩
  · exact hkept
  · have hstored : u.orders.lookup d = some o :=
      h.orders d o (by rw [horders, Finmap.lookup_insert])
    rw [hsame.orders] at hstored
    exact absurd (Finmap.mem_of_lookup_eq_some hstored) hfresh
  · have hle := h.reserved d
    rw [hsame.reserved] at hle
    exact absurd hmore (Nat.not_lt.mpr hle)

variable (selfParaId env s) in
/-- An item that is handled changes nothing exactly when it finds nothing to do. -/
theorem same_handleItem_iff (item : Item) :
    s.Same (handleItem selfParaId env s item) ↔ Moot selfParaId env s item := by
  cases hhandled : isHandled A P item with
  | false =>
    rw [handleItem_of_skipped hhandled]
    refine iff_of_true (.refl s) fun client b rest h => ?_
    simp [isHandled, h] at hhandled
  | true =>
    obtain ⟨client, b, rest, hdec⟩ := newOrder_of_isHandled hhandled
    have hmoot : Moot selfParaId env s item ↔ ∀ dev state,
        Receives selfParaId env s (receivedOrder b item.1 client) b.device dev state →
        item.1 = selfParaId ∧ free s.ledger b.device < dev.penalty.toNat := by
      constructor
      · exact fun h => h client b rest hdec
      · intro h client' b' rest' hdec'
        obtain ⟨hm, rfl⟩ := Prod.mk.inj (Option.some.inj (hdec.symm.trans hdec'))
        obtain ⟨rfl, rfl⟩ := XCMPMessage.newOrder.inj hm
        exact h
    rw [handleItem_of_decode hdec, hmoot]
    rcases orderReceived_outcome selfParaId env s b.device (receivedOrder b item.1 client) with
      ⟨hsame, h⟩ | ⟨h, -, ⟨hfresh, horders⟩ | ⟨-, hmore⟩⟩
    · exact iff_of_true hsame h
    · refine iff_of_false (fun hsame => ?_) h
      rw [← hsame.orders, horders] at hfresh
      exact hfresh (Finmap.mem_insert.mpr (.inl rfl))
    · refine iff_of_false (fun hsame => ?_) h
      rw [hsame.reserved] at hmore
      exact absurd hmore (Nat.lt_irrefl _)

variable (selfParaId env) in
/-- Items only ever store orders and add to reserves, and that lasts. -/
theorem handleItem_lasting : Loop.Lasting Storage.Same Winds
    (handleItem selfParaId env : State A P L → Item → State A P L) where
  same := ⟨.refl, .symm, .trans⟩
  refl s := winds_of_same (.refl s)
  trans := .trans
  step_le s item := by
    cases hhandled : isHandled A P item with
    | false =>
      rw [handleItem_of_skipped hhandled]
      exact winds_of_same (.refl s)
    | true =>
      obtain ⟨client, b, rest, hdec⟩ := newOrder_of_isHandled hhandled
      rw [handleItem_of_decode hdec]
      exact winds_of_orderReceived selfParaId env s _ _
  lasts {s u item} h hsame := by
    cases hhandled : isHandled A P item with
    | false =>
      rw [handleItem_of_skipped hhandled]
      exact .refl s
    | true =>
      obtain ⟨client, b, rest, hdec⟩ := newOrder_of_isHandled hhandled
      rw [handleItem_of_decode hdec] at h ⊢
      exact same_of_winds h hsame

/-- A batch does what its messages do one by one exactly when nothing is lost that would find
something to do. -/
theorem same_handleEach_iff (items : List Item) (maxWeight : Weight) :
    (handleXcmpMessages selfParaId env items maxWeight s).1.Same
        (handleEach selfParaId env items s) ↔ NothingLost selfParaId env items s := by
  rw [handleXcmpMessages_loop]
  refine (handleItem_lasting selfParaId env).run_iff (fun item s hends h => ?_)
    (fun s item => same_handleItem_iff selfParaId env s item) Moot.congr items s
  simp [endsBatch, h] at hends

end Lawful

end XcmAutoBank.Service
