import XcmAutoBank.Xchange.Skipping
import XcmAutoBank.Foundation.Posting

/-!
# Settlements in any order

As long as the reserves back the stored orders, a settlement message that names the client of its
order, and accounts that own something, is a posting: it pays the full fee and the full penalty and
settles the order of its device, and it looks at nothing else.  So messages for different devices
lead to the same storage in every order, even where they draw on the reserve of one account.
-/

namespace XcmAutoBank.Xchange

open Posting ReservableCurrency LawfulCurrency Storage

variable {A P L : Type} [DecidableEq A] [ReservableCurrency L A]

/-! ### Messages as postings -/

/-- The client and the device a message names. -/
def parties : XCMPMessageOf A P → A × A
  | .newOrder client b => (client, b.device)
  | .orderAccept client d | .orderReject client d _ | .orderDone client d _ => (client, d)

/-- What is stored for a device: its order and its profile. -/
abbrev Slot (A P : Type) := Option (OrderOf A P) × Option DeviceProfile

/-- What is stored for the devices, and the balances. -/
def books (s : State A P L) : Books A (Slot A P) where
  slot d := (s.orders.lookup d, s.device.lookup d)
  free := free s.ledger
  reserved := reserved s.ledger

/-- Remove an order and set the state of the profile it was stored with. -/
def settleSlot (onoff : Bool) : Slot A P → Slot A P
  | (some _, some dev) => (none, some (settledProfile dev onoff))
  | slot => slot

/-- An amount that is due when there are an order and a profile. -/
def due (amount : OrderOf A P → DeviceProfile → A → ℕ) : Slot A P → A → ℕ
  | (some o, some dev) => amount o dev
  | _ => fun _ => 0

/-- What a settlement releases: the fee at the client and the penalty at the device. -/
def backing (client d : A) (o : OrderOf A P) (dev : DeviceProfile) (a : A) : ℕ :=
  (if a = client then o.fee.toNat else 0) + if a = d then dev.penalty.toNat else 0

/-- The posting a message makes. -/
def posting (env : Env) : XCMPMessageOf A P → Post A (Slot A P)
  | .newOrder _ b => ⟨b.device, id, fun _ _ => 0, fun _ _ => 0⟩
  | .orderAccept _ d => ⟨d, id, fun _ _ => 0, fun _ _ => 0⟩
  | .orderReject client d onoff =>
    { account := d
      settle := settleSlot onoff
      credit := due fun o dev a => (if a = client then o.fee.toNat else 0) +
        if a = penaltyPayee env.now o.untilTime d client then dev.penalty.toNat else 0
      release := due (backing client d) }
  | .orderDone client d onoff =>
    { account := d
      settle := settleSlot onoff
      credit := due fun o dev a => (if a = d then o.fee.toNat else 0) +
        if a = penaltyPayee env.now o.untilTime d client then dev.penalty.toNat else 0
      release := due (backing client d) }

/-- The messages are due in a storage: its reserves are exact, the messages are for different
devices, each names the client of the order it is about, and all accounts they name own
something. -/
structure Due (b : A → ℕ) (s : State A P L) (ms : List (XCMPMessageOf A P)) : Prop where
  escrowed : ExactlyEscrowed b s
  distinct : (ms.map fun m => (parties m).2).Nodup
  named : ∀ m ∈ ms, ∀ o, s.orders.lookup (parties m).2 = some o → o.client = (parties m).1
  funded : ∀ m ∈ ms, free s.ledger (parties m).1 ≠ 0 ∧ free s.ledger (parties m).2 ≠ 0

variable {env : Env} {s s' : State A P L} {c d : A} {o : OrderOf A P} {dev : DeviceProfile}
  {m : XCMPMessageOf A P} {ms : List (XCMPMessageOf A P)} {b : A → ℕ} {onoff : Bool}

/-- Storages with the same books have the same orders, profiles and balances. -/
theorem same_of_books (h : books s' = books s) : s.Same s' where
  orders := Finmap.ext_lookup fun d => congrArg (fun t => (t.slot d).1) h
  device := Finmap.ext_lookup fun d => congrArg (fun t => (t.slot d).2) h
  free a := congrFun (congrArg Books.free h) a
  reserved a := congrFun (congrArg Books.reserved h) a

/-- Without an order or a profile there is nothing to settle and nothing due. -/
theorem idle_of_not_holds (h : ¬∃ o dev, s.Holds d o dev) :
    (∀ onoff, settleSlot onoff ((books s).slot d) = (books s).slot d) ∧
      ∀ (amount : OrderOf A P → DeviceProfile → A → ℕ) (a : A),
        due amount ((books s).slot d) a = 0 := by
  have hslot : (books s).slot d = (s.orders.lookup d, s.device.lookup d) := rfl
  rw [hslot]
  cases ho : s.orders.lookup d with
  | none => exact ⟨fun _ => rfl, fun _ _ => rfl⟩
  | some o =>
    cases hd : s.device.lookup d with
    | none => exact ⟨fun _ => rfl, fun _ _ => rfl⟩
    | some dev => exact absurd ⟨o, dev, ho, hd⟩ h

/-- The slot of a device with an order and a profile. -/
theorem slot_of_holds (hs : s.Holds d o dev) : (books s).slot d = (some o, some dev) :=
  Prod.ext hs.order hs.profile

/-- The books after the order of a device is closed. -/
theorem books_closed {dev' : DeviceProfile} {l : L} {e : Event A} {p : Post A (Slot A P)}
    (hslot : p.settle ((books s).slot p.account) = (none, some dev'))
    (hfree : ∀ a, free l a = free s.ledger a + p.credit ((books s).slot p.account) a)
    (hreserved : ∀ a, reserved l a = reserved s.ledger a - p.release ((books s).slot p.account) a) :
    books (s.closed p.account dev' l e) = post (books s) p := by
  refine Books.ext (funext fun x => ?_) (funext hfree) (funext hreserved)
  change ((s.closed p.account dev' l e).orders.lookup x,
    (s.closed p.account dev' l e).device.lookup x) =
      Function.update (books s).slot p.account (p.settle ((books s).slot p.account)) x
  rw [hslot, closed_orders, closed_device, Finmap.lookup_erase_ite, Finmap.lookup_insert_ite]
  by_cases hx : x = p.account
  · rw [hx, Function.update_self, if_pos rfl, if_pos rfl]
  · rw [Function.update_of_ne hx, if_neg hx, if_neg hx]
    rfl

variable [LawfulCurrency L A]

/-- A reject message that is due makes its posting. -/
theorem books_onReject (hs : s.Holds d o dev) (hclient : o.client = c)
    (hbacked : ∀ a, backing o.client d o dev a ≤ reserved s.ledger a)
    (hfunded : free s.ledger c ≠ 0) :
    books (handleMessage env s (.orderReject c d onoff)) =
      post (books s) (posting env (.orderReject c d onoff)) := by
  subst hclient
  have hrun : (onReject env o.client d onoff).run s = _ := onReject_run hs o.client onoff
  have hc := hbacked o.client
  have hd := hbacked d
  simp only [backing, if_true] at hc hd
  cases hl : settlePenalty env.now o.untilTime (unreserve s.ledger o.client o.fee.toNat) d o.client
      dev.penalty.toNat with
  | error e =>
    obtain ⟨-, -, -, hzero⟩ := settlePenalty_error_iff.mp ⟨e, hl⟩
    rw [total_unreserve, total] at hzero
    omega
  | ok l =>
    have hs' : handleMessage env s (.orderReject o.client d onoff) =
        s.closed d (settledProfile dev onoff) l (.reject o.client d) := by
      simp only [handleMessage, hrun, hl]
    rw [hs']
    refine books_closed (p := posting env (.orderReject o.client d onoff)) ?_ (fun a => ?_)
      fun a => ?_
    · change settleSlot onoff ((books s).slot d) = _
      rw [slot_of_holds hs]
      rfl
    · change free l a = free s.ledger a + due _ ((books s).slot d) a
      rw [slot_of_holds hs, free_settlePenalty hl, free_unreserve, reserved_unreserve]
      have hfee : min o.fee.toNat (reserved s.ledger o.client) = o.fee.toNat := by omega
      have hpenalty : min dev.penalty.toNat
          (reserved s.ledger d - if d = o.client then o.fee.toNat else 0) = dev.penalty.toNat := by
        omega
      rw [hfee, hpenalty, Nat.add_assoc]
      rfl
    · change reserved l a = reserved s.ledger a - due _ ((books s).slot d) a
      rw [slot_of_holds hs, reserved_released hl, Nat.sub_sub]
      rfl

/-- A done message that is due makes its posting. -/
theorem books_onDone (hs : s.Holds d o dev) (hclient : o.client = c)
    (hbacked : ∀ a, backing o.client d o dev a ≤ reserved s.ledger a)
    (hfunded : free s.ledger c ≠ 0) (hfunded' : free s.ledger d ≠ 0) :
    books (handleMessage env s (.orderDone c d onoff)) =
      post (books s) (posting env (.orderDone c d onoff)) := by
  subst hclient
  have hrun : (onDone env o.client d onoff).run s = _ := onDone_run hs o.client onoff
  have hc := hbacked o.client
  have hd := hbacked d
  simp only [backing, if_true] at hc hd
  cases hl₁ : repatriateReserved s.ledger o.client d o.fee.toNat .free with
  | error e =>
    obtain ⟨-, -, hzero⟩ := (repatriate_error_iff _ _ _ _).mp ⟨e, hl₁⟩
    rw [total] at hzero
    omega
  | ok l₁ =>
    cases hl : settlePenalty env.now o.untilTime l₁ d o.client dev.penalty.toNat with
    | error e =>
      obtain ⟨-, -, -, hzero, -⟩ := (settle_done_error_iff hl₁).mp ⟨e, hl⟩
      exact absurd hzero hfunded
    | ok l =>
      have hs' : handleMessage env s (.orderDone o.client d onoff) =
          s.closed d (settledProfile dev onoff) l (.done o.client d) := by
        simp only [handleMessage, hrun, hl₁, hl]
      rw [hs']
      refine books_closed (p := posting env (.orderDone o.client d onoff)) ?_ (fun a => ?_)
        fun a => ?_
      · change settleSlot onoff ((books s).slot d) = _
        rw [slot_of_holds hs]
        rfl
      · change free l a = free s.ledger a + due _ ((books s).slot d) a
        rw [slot_of_holds hs, free_settlePenalty hl, free_repatriate hl₁, reserved_repatriate hl₁]
        have hfee : min o.fee.toNat (reserved s.ledger o.client) = o.fee.toNat := by omega
        have hpenalty : min dev.penalty.toNat
            (reserved s.ledger d - if d = o.client then o.fee.toNat else 0) =
              dev.penalty.toNat := by
          omega
        rw [hfee, hpenalty, Nat.add_assoc]
        rfl
      · change reserved l a = reserved s.ledger a - due _ ((books s).slot d) a
        rw [slot_of_holds hs, reserved_settlePenalty hl, reserved_repatriate hl₁, Nat.sub_sub]
        rfl

/-! ### One message -/

omit [LawfulCurrency L A] in
/-- The exact reserves back every stored order with a profile. -/
theorem ExactlyEscrowed.backed (he : ExactlyEscrowed b s) (hs : s.Holds d o dev) (a : A) :
    backing o.client d o dev a ≤ reserved s.ledger a :=
  he.backing_le hs a

omit [LawfulCurrency L A] in
/-- Closing an order keeps the reserves exact, whether or not the other orders have profiles. -/
theorem Closes.escrowed (h : Closes s s' d o dev) (he : ExactlyEscrowed b s) :
    ExactlyEscrowed b s' := by
  intro a
  obtain ⟨dev', hdevice⟩ := h.device
  have hfees : feesHeld s a = (if a = o.client then o.fee.toNat else 0) + feesHeld s' a := by
    rw [feesHeld, feesHeld, h.orders]
    exact Finmap.sumBy_erase h.holds.order _
  have hpenalty : penaltyHeld s a =
      (if a = d then dev.penalty.toNat else 0) + penaltyHeld s' a := by
    unfold penaltyHeld
    rw [h.orders, hdevice, Finmap.lookup_erase_ite, Finmap.lookup_insert_ite]
    by_cases ha : a = d
    · rw [ha, h.holds.order, h.holds.profile]
      simp
    · simp [ha]
  rw [h.reserved, he a]
  omega

omit [LawfulCurrency L A] in
/-- An order whose fee was paid by its client is closed. -/
theorem closes_of_closedFor (hs : s.Holds d o dev) (hclient : o.client = c)
    (h : ClosedFor s s' c d o dev) : Closes s s' d o dev := by
  subst hclient
  exact ⟨hs, h.orders, h.device, h.reserved⟩

omit [ReservableCurrency L A] [LawfulCurrency L A] [DecidableEq A] in
/-- A settlement message names its client and its device. -/
theorem SettlesFor.parties_eq (h : SettlesFor c d m) : parties m = (c, d) := by
  cases h with
  | orderReject onoff => rfl
  | orderDone onoff => rfl

omit [ReservableCurrency L A] [LawfulCurrency L A] in
/-- A message posts to the device it names. -/
theorem posting_account (env : Env) (m : XCMPMessageOf A P) :
    (posting env m).account = (parties m).2 := by
  cases m with
  | newOrder client order => rfl
  | orderAccept client device => rfl
  | orderReject client device onoff => rfl
  | orderDone client device onoff => rfl

/-- A message that is due makes its posting. -/
theorem Due.books_handleMessage (h : Due b s (m :: ms)) :
    books (handleMessage env s m) = post (books s) (posting env m) := by
  have hfunded := h.funded m List.mem_cons_self
  have hnamed := h.named m List.mem_cons_self
  cases m with
  | newOrder client order => exact (post_of_idle rfl (fun _ => rfl) fun _ => rfl).symm
  | orderAccept client device => exact (post_of_idle rfl (fun _ => rfl) fun _ => rfl).symm
  | orderReject c d onoff =>
    by_cases hs : ∃ o dev, s.Holds d o dev
    · obtain ⟨o, dev, hs⟩ := hs
      exact books_onReject hs (hnamed o hs.order) (h.escrowed.backed hs) hfunded.1
    · obtain ⟨hsettle, hdue⟩ := idle_of_not_holds hs
      rw [handleMessage_refused (.orderReject onoff) hs]
      exact (post_of_idle (hsettle onoff) (hdue _) (hdue _)).symm
  | orderDone c d onoff =>
    by_cases hs : ∃ o dev, s.Holds d o dev
    · obtain ⟨o, dev, hs⟩ := hs
      exact books_onDone hs (hnamed o hs.order) (h.escrowed.backed hs) hfunded.1 hfunded.2
    · obtain ⟨hsettle, hdue⟩ := idle_of_not_holds hs
      rw [handleMessage_refused (.orderDone onoff) hs]
      exact (post_of_idle (hsettle onoff) (hdue _) (hdue _)).symm

/-- A message that is due keeps the reserves exact. -/
theorem Due.escrowed_handleMessage (h : Due b s (m :: ms)) :
    ExactlyEscrowed b (handleMessage env s m) := by
  have hbooks : books (handleMessage env s m) = post (books s) (posting env m) :=
    h.books_handleMessage
  rcases handleMessage_outcome env s m with
    ⟨hsame, -⟩ | ⟨c, d, o, dev, hsettles, hs, -, hclosed | hfee⟩
  · intro a
    have hreserved : reserved (handleMessage env s m).ledger a = reserved s.ledger a :=
      hsame.reserved a
    rw [hreserved, h.escrowed a, feesHeld, feesHeld, penaltyHeld, penaltyHeld, hsame.orders,
      hsame.device]
  · have hclient : o.client = c := by
      have hnamed := h.named m List.mem_cons_self o
      rw [hsettles.parties_eq] at hnamed
      exact hnamed hs.order
    exact (closes_of_closedFor hs hclient hclosed).escrowed h.escrowed
  · -- the posting has removed the order, so it was not the fee alone that was taken
    have hslot : (books (handleMessage env s m)).slot d =
        (posting env m).settle ((books s).slot d) := by
      have haccount : (posting env m).account = d := by
        rw [posting_account, hsettles.parties_eq]
      rw [hbooks, ← haccount]
      exact Function.update_self _ _ _
    have hgone : (handleMessage env s m).orders.lookup d = none := by
      rw [slot_of_holds hs] at hslot
      cases hsettles with
      | orderReject onoff => exact congrArg Prod.fst hslot
      | orderDone onoff => exact congrArg Prod.fst hslot
    rw [hfee.orders, hs.order] at hgone
    cases hgone

/-- The messages behind one that is due stay due. -/
theorem Due.tail (h : Due b s (m :: ms)) : Due b (handleMessage env s m) ms := by
  have hbooks : books (handleMessage env s m) = post (books s) (posting env m) :=
    h.books_handleMessage
  have hdistinct := h.distinct
  rw [List.map_cons, List.nodup_cons] at hdistinct
  refine ⟨h.escrowed_handleMessage, hdistinct.2, fun m' hm' o ho => ?_, fun m' hm' => ?_⟩
  · have hne : (parties m').2 ≠ (posting env m).account := by
      rw [posting_account]
      rintro heq
      exact hdistinct.1 (List.mem_map.mpr ⟨m', hm', heq⟩)
    have hslot : (books (handleMessage env s m)).slot (parties m').2 =
        (books s).slot (parties m').2 := by
      rw [hbooks, post_slot_of_ne hne]
    have hkept : s.orders.lookup (parties m').2 = some o :=
      (congrArg Prod.fst hslot).symm.trans ho
    exact h.named m' (List.mem_cons_of_mem _ hm') o hkept
  · have hfree : ∀ a : A, free s.ledger a ≤ free (handleMessage env s m).ledger a := by
      intro a
      have ha : (books (handleMessage env s m)).free a =
          (post (books s) (posting env m)).free a := by
        rw [hbooks]
      exact (Nat.le_add_right _ _).trans ha.ge
    obtain ⟨hclient, hdevice⟩ := h.funded m' (List.mem_cons_of_mem _ hm')
    have hclient' := hfree (parties m').1
    have hdevice' := hfree (parties m').2
    exact ⟨by omega, by omega⟩

/-! ### Batches -/

/-- Messages that are due make their postings. -/
theorem Due.books_foldl (h : Due b s ms) :
    books (ms.foldl (handleMessage env) s) = (ms.map (posting env)).foldl post (books s) := by
  induction ms generalizing s with
  | nil => rfl
  | cons m ms ih =>
    rw [List.foldl_cons, List.map_cons, List.foldl_cons, ih h.tail, h.books_handleMessage]

/-- Messages that are due lead to the same storage in every order. -/
theorem Due.same_of_perm (h : Due b s ms) {ms' : List (XCMPMessageOf A P)} (hperm : ms.Perm ms') :
    (ms.foldl (handleMessage env) s).Same (ms'.foldl (handleMessage env) s) := by
  have h' : Due b s ms' := by
    refine ⟨h.escrowed, (hperm.map _).nodup_iff.mp h.distinct, fun m hm => ?_, fun m hm => ?_⟩
    · exact h.named m (hperm.mem_iff.mpr hm)
    · exact h.funded m (hperm.mem_iff.mpr hm)
  have hdistinct : ((ms.map (posting env)).map Post.account).Nodup := by
    have haccounts : (ms.map (posting env)).map Post.account = ms.map fun m => (parties m).2 := by
      rw [List.map_map]
      exact List.map_congr_left fun m _ => posting_account env m
    rw [haccounts]
    exact h.distinct
  refine same_of_books ?_
  rw [h.books_foldl, h'.books_foldl]
  exact (foldl_post_perm (hperm.map _) hdistinct _).symm

section Batches

variable [Codec A] [Codec P]

/-- The messages in a batch. -/
def messages (batch : Batch) : List (XCMPMessageOf A P) :=
  batch.filterMap fun item => (Codec.decode item.2.2).map Prod.fst

omit [LawfulCurrency L A] in
/-- A batch that decodes hands its messages to their arms one by one. -/
theorem handleXcmpMessages_messages {batch : Batch}
    (h : ∀ item ∈ batch, endsBatch A P item = false) (maxWeight : Weight) (s : State A P L) :
    (handleXcmpMessages env batch maxWeight s).1 =
      (messages batch : List (XCMPMessageOf A P)).foldl (handleMessage env) s := by
  induction batch generalizing s with
  | nil => rfl
  | cons item batch ih =>
    have hrest : ∀ x ∈ batch, endsBatch A P x = false :=
      fun x hx => h x (List.mem_cons_of_mem _ hx)
    have hitem := h item List.mem_cons_self
    cases hdec : (Codec.decode item.2.2 : Option (XCMPMessageOf A P × List UInt8)) with
    | none => simp [endsBatch, hdec] at hitem
    | some p =>
      obtain ⟨m, rest⟩ := p
      have hmessages : (messages (item :: batch) : List (XCMPMessageOf A P)) =
          m :: messages batch := List.filterMap_cons_some (by rw [hdec]; rfl)
      rw [handleXcmpMessages_cons hdec, hmessages, List.foldl_cons]
      exact ih hrest _

/-- In every exactly escrowed storage and at every time, messages for pairwise different devices,
each of which names the client of the order its device has, if it has one, lead to the same orders,
profiles and balances in every order of the batch, as long as every account they name owns
something free. -/
theorem settlements_commute {batch batch' : Batch} (hperm : batch.Perm batch')
    (hdecodes : ∀ item ∈ batch, endsBatch A P item = false) (h : Due b s (messages batch))
    (maxWeight : Weight) :
    (handleXcmpMessages env batch maxWeight s).1.Same
      (handleXcmpMessages env batch' maxWeight s).1 := by
  rw [handleXcmpMessages_messages hdecodes,
    handleXcmpMessages_messages fun item hitem => hdecodes item (hperm.mem_iff.mpr hitem)]
  exact h.same_of_perm (hperm.filterMap _)

end Batches

/-- Every account owns 100 and devices 2 and 3 have registered. -/
def twoDevices : State UInt64 UInt64 (Balances UInt64) :=
  Dispatch.exec (register (.signed 3) 2000 15 20 true)
    (Dispatch.exec (register (.signed 2) 2000 10 20 true) (Storage.init (Balances.uniform 100)))

/-- Client 1 has ordered both devices, device 3 until time 40 only. -/
def twoOrders : State UInt64 UInt64 (Balances UInt64) :=
  Dispatch.exec (order (Env.online 0) (.signed 1) ⟨40, 8, 20, 3⟩)
    (Dispatch.exec (order (Env.online 0) (.signed 1) ⟨100, 7, 30, 2⟩) twoDevices)

/-- The reserves of the two orders are exact over the baseline zero. -/
theorem twoOrders_escrowed : ExactlyEscrowed (fun _ => 0) twoOrders := by
  let oneOrder : State UInt64 UInt64 (Balances UInt64) :=
    Dispatch.exec (order (Env.online 0) (.signed 1) ⟨100, 7, 30, 2⟩) twoDevices
  have hfirst : OkStep twoDevices oneOrder :=
    ⟨Env.online 0, .order (.signed 1) ⟨100, 7, 30, 2⟩, trivial,
      Dispatch.run_eq_of_fst (by decide)⟩
  have hsecond : OkStep oneOrder twoOrders :=
    ⟨Env.online 0, .order (.signed 1) ⟨40, 8, 20, 3⟩, trivial,
      Dispatch.run_eq_of_fst (by decide)⟩
  have hempty : twoDevices.orders = ∅ := rfl
  exact (escrowed_of_run (profiled_of_empty hempty) (fun _ => rfl)
    ((Relation.ReflTransGen.single hfirst).tail hsecond)).2

/-- One order is done in time and the other rejected late, in either order. -/
theorem settlements_commute_two :
    (handleXcmpMessages (Env.online 50)
        [(2000, 0, Codec.encode (.orderDone 1 2 true : XCMPMessageOf UInt64 UInt64)),
          (2000, 1, Codec.encode (.orderReject 1 3 false : XCMPMessageOf UInt64 UInt64))]
        0 twoOrders).1.Same
      (handleXcmpMessages (Env.online 50)
        [(2000, 1, Codec.encode (.orderReject 1 3 false : XCMPMessageOf UInt64 UInt64)),
          (2000, 0, Codec.encode (.orderDone 1 2 true : XCMPMessageOf UInt64 UInt64))]
        0 twoOrders).1 := by
  have hmessages : (messages [(2000, 0, Codec.encode
      (.orderDone 1 2 true : XCMPMessageOf UInt64 UInt64)), (2000, 1, Codec.encode
        (.orderReject 1 3 false : XCMPMessageOf UInt64 UInt64))] :
          List (XCMPMessageOf UInt64 UInt64)) = [.orderDone 1 2 true, .orderReject 1 3 false] := by
    decide
  have hdue : Due (fun _ => 0) twoOrders
      [(.orderDone 1 2 true : XCMPMessageOf UInt64 UInt64), .orderReject 1 3 false] := by
    refine ⟨twoOrders_escrowed, by decide, fun m hm o ho => ?_, by decide⟩
    rcases List.mem_cons.mp hm with rfl | hm
    · cases ho
      rfl
    · obtain rfl := List.mem_singleton.mp hm
      cases ho
      rfl
  exact settlements_commute (.swap _ _ _) (by decide) (hmessages ▸ hdue) 0

end XcmAutoBank.Xchange
