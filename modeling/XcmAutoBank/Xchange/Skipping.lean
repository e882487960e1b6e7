import XcmAutoBank.Xchange.Handler
import XcmAutoBank.Foundation.Loop

/-!
# Bytes that end a batch on the client chain

The handler returns at the first bytes that do not decode, and all that comes behind them in the
batch is lost.  A loss shows unless every settlement message that is lost finds nothing to settle in
the storage the batch has led to: messages only ever close orders and drain reserves, so what one
message does, no later one undoes.
-/

namespace XcmAutoBank.Xchange

open ReservableCurrency LawfulCurrency Storage

variable {A P L : Type} [DecidableEq A] [ReservableCurrency L A] [Codec A] [Codec P]

/-- One item of a batch: the sender, the block it was sent in and its bytes. -/
abbrev Item := ParaId × RelayBlockNumber × List UInt8

/-- Hand one item to the arm of its message; bytes that do not decode are skipped. -/
def handleItem (env : Env) (s : State A P L) (item : Item) : State A P L :=
  match (Codec.decode item.2.2 : Option (XCMPMessageOf A P × List UInt8)) with
  | some (m, _) => handleMessage env s m
  | none => s

section Reading

variable (A P)

/-- Bytes that do not decode end the batch. -/
def endsBatch (item : Item) : Bool :=
  (Codec.decode item.2.2 : Option (XCMPMessageOf A P × List UInt8)).isNone

/-- Bytes that decode to a message of a service chain, the messages this pallet handles. -/
def isHandled (item : Item) : Bool :=
  match (Codec.decode item.2.2 : Option (XCMPMessageOf A P × List UInt8)) with
  | none | some (.newOrder .., _) => false
  | some (.orderAccept .., _) | some (.orderReject .., _) | some (.orderDone .., _) => true

end Reading

/-- Handle exactly the items with a message this pallet handles, one by one. -/
def handleEach (env : Env) (batch : Batch) (s : State A P L) : State A P L :=
  (batch.filter (isHandled A P)).foldl (handleItem env) s

/-- An item that finds nothing to do: an acceptance, or a settlement message whose device has no
order or no profile, or that is stuck. -/
def Moot (env : Env) (s : State A P L) (item : Item) : Prop :=
  ∀ (m : XCMPMessageOf A P) (rest : List UInt8), Codec.decode item.2.2 = some (m, rest) →
    ∀ c d, SettlesFor c d m → ∀ o dev, s.Holds d o dev → Stuck env s o dev m

/-- Every message behind the first bytes that do not decode finds nothing to do in the storage that
the items before those bytes lead to. -/
def NothingLost (env : Env) (batch : Batch) (s : State A P L) : Prop :=
  ∀ item ∈ (Loop.lost (endsBatch A P) batch).filter (isHandled A P),
    Moot env ((Loop.reached (endsBatch A P) batch).foldl (handleItem env) s) item

/-- Orders are closed and reserves drained on the way from one storage to another. -/
structure Unwinds (s t : State A P L) : Prop where
  orders : ∀ d, t.orders.lookup d = s.orders.lookup d ∨ t.orders.lookup d = none
  reserved : ∀ a : A, reserved t.ledger a ≤ ReservableCurrency.reserved s.ledger a

variable {env : Env} {s t u : State A P L} {d c : A} {o : OrderOf A P} {dev : DeviceProfile}
  {m : XCMPMessageOf A P} {item : Item}

/-! ### One item -/

/-- An item that decodes is handed to its arm. -/
theorem handleItem_of_decode {rest : List UInt8} (h : Codec.decode item.2.2 = some (m, rest)) :
    handleItem env s item = handleMessage env s m := by
  simp only [handleItem, h]

/-- An item that does not decode changes nothing. -/
theorem handleItem_of_endsBatch (h : endsBatch A P item = true) : handleItem env s item = s := by
  simp only [handleItem, Option.isNone_iff_eq_none.mp h]

/-- A batch is a loop over its items. -/
theorem handleXcmpMessages_loop (batch : Batch) (maxWeight : Weight) (s : State A P L) :
    (handleXcmpMessages env batch maxWeight s).1 =
      Loop.run (endsBatch A P) (handleItem env) batch s := by
  induction batch generalizing s with
  | nil => rfl
  | cons item iter ih =>
    cases hdec : (Codec.decode item.2.2 : Option (XCMPMessageOf A P × List UInt8)) with
    | none =>
      have hends : endsBatch A P item = true := Option.isNone_iff_eq_none.mpr hdec
      rw [handleXcmpMessages_undecodable hdec, Loop.run, if_pos hends]
    | some p =>
      obtain ⟨m, rest⟩ := p
      have hends : ¬endsBatch A P item = true := by simp [endsBatch, hdec]
      rw [handleXcmpMessages_cons hdec, Loop.run, if_neg hends, handleItem_of_decode hdec]
      exact ih _

/-- An order that arrives at the client chain is skipped. -/
theorem handleItem_of_skipped (hends : endsBatch A P item = false)
    (hhandled : isHandled A P item = false) : handleItem env s item = s := by
  cases hdec : (Codec.decode item.2.2 : Option (XCMPMessageOf A P × List UInt8)) with
  | none => simp [endsBatch, hdec] at hends
  | some p =>
    obtain ⟨m, rest⟩ := p
    rw [handleItem_of_decode hdec]
    cases m with
    | newOrder client b => rfl
    | orderAccept client device => simp [isHandled, hdec] at hhandled
    | orderReject client device onoff => simp [isHandled, hdec] at hhandled
    | orderDone client device onoff => simp [isHandled, hdec] at hhandled

/-- A batch that decodes loses nothing. -/
theorem nothingLost_of_decodes {batch : Batch}
    (h : ∀ item ∈ batch, endsBatch A P item = false) : NothingLost env batch s := by
  intro item hitem
  rw [Loop.lost_eq_nil h] at hitem
  cases hitem

/-! ### What items do -/

omit [Codec A] [Codec P] in
/-- The same storage has been reached without draining anything. -/
theorem unwinds_of_same (h : s.Same t) : Unwinds s t :=
  ⟨fun d => .inl (by rw [h.orders]), fun a => (h.reserved a).le⟩

omit [Codec A] [Codec P] in
/-- Closing orders and draining reserves goes on. -/
theorem Unwinds.trans (h : Unwinds s t) (h' : Unwinds t u) : Unwinds s u := by
  refine ⟨fun d => ?_, fun a => (h'.reserved a).trans (h.reserved a)⟩
  rcases h'.orders d with hkept | hgone
  · rw [hkept]
    exact h.orders d
  · exact .inr hgone

omit [DecidableEq A] [Codec A] [Codec P] in
/-- A stuck message is stuck in every storage with the same orders, profiles and balances. -/
theorem stuck_of_same (h : s.Same t) (hstuck : Stuck env s o dev m) : Stuck env t o dev m := by
  have htotal : ∀ a : A, total t.ledger a = total s.ledger a := by
    intro a
    rw [total, total, h.free, h.reserved]
  cases m with
  | newOrder client b => exact hstuck
  | orderAccept client device => exact hstuck
  | orderReject client device onoff =>
    simp only [Stuck, htotal, h.reserved] at hstuck ⊢
    exact hstuck
  | orderDone client device onoff =>
    simp only [Stuck, htotal] at hstuck ⊢
    exact hstuck

/-- An item that finds nothing to do finds nothing in the same storage. -/
theorem Moot.congr (h : s.Same t) (hmoot : Moot env s item) : Moot env t item := by
  intro m rest hdec c d hsettles o dev ht
  have hs : s.Holds d o dev := ⟨h.orders ▸ ht.order, h.device ▸ ht.profile⟩
  exact stuck_of_same h (hmoot m rest hdec c d hsettles o dev hs)

omit [DecidableEq A] [Codec A] [Codec P] in
/-- A message settles one device. -/
theorem SettlesFor.device_unique {c' d' : A} (h : SettlesFor c d m) (h' : SettlesFor c' d' m) :
    d' = d := by
  cases h with
  | orderReject onoff =>
    cases h'
    rfl
  | orderDone onoff =>
    cases h'
    rfl

section Lawful

variable [LawfulCurrency L A]

omit [Codec A] [Codec P] in
variable (env s m) in
/-- A message changes nothing, or it closes an order or takes its fee and is not stuck. -/
theorem handleMessage_outcome :
    s.Same (handleMessage env s m) ∧
        (∀ c d, SettlesFor c d m → ∀ o dev, s.Holds d o dev → Stuck env s o dev m) ∨
      ∃ c d o dev, SettlesFor c d m ∧ s.Holds d o dev ∧ ¬Stuck env s o dev m ∧
        (ClosedFor s (handleMessage env s m) c d o dev ∨
          FeeTaken s (handleMessage env s m) c d o) := by
  by_cases hsettles : ∃ c d, SettlesFor c d m
  · obtain ⟨c, d, hsettles⟩ := hsettles
    by_cases hs : ∃ o dev, s.Holds d o dev
    · obtain ⟨o, dev, hs⟩ := hs
      rcases settlement_outcome env hsettles hs with ⟨hsame, hstuck⟩ | ⟨hstuck, hmoved⟩
      · refine .inl ⟨hsame, fun c' d' hsettles' o' dev' hs' => ?_⟩
        obtain rfl := hsettles.device_unique hsettles'
        obtain ⟨rfl, rfl⟩ := hs.unique hs'
        exact hstuck
      · exact .inr ⟨c, d, o, dev, hsettles, hs, hstuck, hmoved⟩
    · rw [handleMessage_refused hsettles hs]
      refine .inl ⟨.refl s, fun c' d' hsettles' o' dev' hs' => ?_⟩
      obtain rfl := hsettles.device_unique hsettles'
      exact absurd ⟨o', dev', hs'⟩ hs
  · refine .inl ⟨?_, fun c d h => absurd ⟨c, d, h⟩ hsettles⟩
    cases m with
    | newOrder client b => exact .refl s
    | orderAccept client device => exact ⟨rfl, rfl, fun _ => rfl, fun _ => rfl⟩
    | orderReject c d onoff => exact absurd ⟨c, d, .orderReject onoff⟩ hsettles
    | orderDone c d onoff => exact absurd ⟨c, d, .orderDone onoff⟩ hsettles

omit [Codec A] [Codec P] in
variable (env s m) in
/-- A message closes an order, takes its fee or changes nothing, and never the other way round. -/
theorem unwinds_of_message : Unwinds s (handleMessage env s m) := by
  rcases handleMessage_outcome env s m with ⟨hsame, -⟩ | ⟨c, d, o, dev, -, hs, -, hclosed | hfee⟩
  · exact unwinds_of_same hsame
  · refine ⟨fun x => ?_, fun a => ?_⟩
    · rw [hclosed.orders, Finmap.lookup_erase_ite]
      split_ifs
      · exact .inr rfl
      · exact .inl rfl
    · rw [hclosed.reserved]
      omega
  · refine ⟨fun x => .inl (by rw [hfee.orders]), fun a => ?_⟩
    rw [hfee.reserved]
    omega

omit [Codec A] [Codec P] in
/-- What a message does is never undone by closing orders and draining reserves. -/
theorem same_of_unwinds (h : Unwinds (handleMessage env s m) u) (hsame : s.Same u) :
    s.Same (handleMessage env s m) := by
  rcases handleMessage_outcome env s m with ⟨hkept, -⟩ | ⟨c, d, o, dev, -, hs, -, hclosed | hfee⟩
  · exact hkept
  · have hgone : u.orders.lookup d = none := by
      rcases h.orders d with hkept | hgone
      · rw [hkept, hclosed.orders, Finmap.lookup_erase]
      · exact hgone
    rw [hsame.orders, hs.order] at hgone
    cases hgone
  · have hle := h.reserved c
    have hmoved := hfee.moved
    rw [hsame.reserved, hfee.reserved, if_pos rfl] at hle
    omega

variable (env s) in
/-- An item changes nothing exactly when it finds nothing to do. -/
theorem same_handleItem_iff (item : Item) :
    s.Same (handleItem env s item) ↔ Moot env s item := by
  cases hdec : (Codec.decode item.2.2 : Option (XCMPMessageOf A P × List UInt8)) with
  | none =>
    rw [handleItem_of_endsBatch (Option.isNone_iff_eq_none.mpr hdec)]
    refine iff_of_true (.refl s) fun m rest h => ?_
    rw [hdec] at h
    cases h
  | some p =>
    obtain ⟨m, rest⟩ := p
    have hmoot : Moot env s item ↔
        ∀ c d, SettlesFor c d m → ∀ o dev, s.Holds d o dev → Stuck env s o dev m := by
      constructor
      · exact fun h => h m rest hdec
      · intro h m' rest' hdec'
        obtain ⟨rfl, rfl⟩ := Prod.mk.inj (Option.some.inj (hdec.symm.trans hdec'))
        exact h
    rw [handleItem_of_decode hdec, hmoot]
    rcases handleMessage_outcome env s m with
      ⟨hsame, hstuck⟩ | ⟨c, d, o, dev, hsettles, hs, hstuck, hmoved⟩
    · exact iff_of_true hsame hstuck
    · refine iff_of_false (fun hsame => ?_) fun h => hstuck (h c d hsettles o dev hs)
      rcases hmoved with hclosed | hfee
      · exact hclosed.not_same hs hsame
      · exact hfee.not_same hsame

variable (env) in
/-- Items only ever close orders and drain reserves, and that lasts. -/
theorem handleItem_lasting :
    Loop.Lasting Storage.Same Unwinds (handleItem env : State A P L → Item → State A P L) where
  same := ⟨.refl, .symm, .trans⟩
  refl s := unwinds_of_same (.refl s)
  trans := .trans
  step_le s item := by
    cases hdec : (Codec.decode item.2.2 : Option (XCMPMessageOf A P × List UInt8)) with
    | none =>
      rw [handleItem_of_endsBatch (Option.isNone_iff_eq_none.mpr hdec)]
      exact unwinds_of_same (.refl s)
    | some p =>
      rw [handleItem_of_decode hdec]
      exact unwinds_of_message env s p.1
  lasts {s u item} h hsame := by
    cases hdec : (Codec.decode item.2.2 : Option (XCMPMessageOf A P × List UInt8)) with
    | none =>
      rw [handleItem_of_endsBatch (Option.isNone_iff_eq_none.mpr hdec)]
      exact .refl s
    | some p =>
      rw [handleItem_of_decode hdec] at h ⊢
      exact same_of_unwinds h hsame

/-- A batch does what its messages do one by one exactly when nothing is lost that would find
something to do. -/
theorem same_handleEach_iff (batch : Batch) (maxWeight : Weight) :
    (handleXcmpMessages env batch maxWeight s).1.Same (handleEach env batch s) ↔
      NothingLost env batch s := by
  rw [handleXcmpMessages_loop]
  exact (handleItem_lasting env).run_iff (fun item s hends h => handleItem_of_skipped hends h)
    (fun s item => same_handleItem_iff env s item) Moot.congr batch s

end Lawful

end XcmAutoBank.Xchange
