import XcmAutoBank.Xchange.Settlement

/-!
# Batches of messages

The handler takes a batch of bytes with their senders, decodes them one by one and never looks at
a sender.  A device's order therefore survives a batch exactly when every settlement message for
the device that is reached is stuck (`unharmed_iff`), whoever sent it.
-/

namespace XcmAutoBank.Xchange

open ReservableCurrency LawfulCurrency Storage

variable {A P L : Type} [DecidableEq A] [ReservableCurrency L A] [Codec A] [Codec P]

/-- Messages as they arrive: the sender, the block they were sent in and their bytes. -/
abbrev Batch := List (ParaId × RelayBlockNumber × List UInt8)

/-- No message of the batch comes from a parachain. -/
def Batch.Foreign (paraid : ParaId) (batch : Batch) : Prop := ∀ item ∈ batch, item.1 ≠ paraid

/-- Handling a batch from storage `s` hands the message `m` to its arm in storage `t`. -/
inductive Handles (env : Env) :
    State A P L → Batch → State A P L → XCMPMessageOf A P → Prop
  | head {s : State A P L} {m : XCMPMessageOf A P} {sender : ParaId} {sentAt : RelayBlockNumber}
      {data rest : List UInt8} {iter : Batch} (h : Codec.decode data = some (m, rest)) :
      Handles env s ((sender, sentAt, data) :: iter) s m
  | tail {s t : State A P L} {m m' : XCMPMessageOf A P} {sender : ParaId}
      {sentAt : RelayBlockNumber} {data rest : List UInt8} {iter : Batch}
      (h : Codec.decode data = some (m', rest))
      (ht : Handles env (handleMessage env s m') iter t m) :
      Handles env s ((sender, sentAt, data) :: iter) t m

/-- A batch leaves a device alone: its order and profile are as before, and no message for the
device has moved a balance. -/
structure Unharmed (env : Env) (s : State A P L) (batch : Batch) (maxWeight : Weight) (d : A) :
    Prop where
  order : (handleXcmpMessages env batch maxWeight s).1.orders.lookup d = s.orders.lookup d
  profile : (handleXcmpMessages env batch maxWeight s).1.device.lookup d = s.device.lookup d
  unpaid : ∀ (t : State A P L) c m, Handles env s batch t m → SettlesFor c d m → ∀ a : A,
    free (handleMessage env t m).ledger a = free t.ledger a ∧
    reserved (handleMessage env t m).ledger a = reserved t.ledger a

variable {env : Env} {s t : State A P L} {d : A} {o : OrderOf A P} {dev : DeviceProfile}
  {m : XCMPMessageOf A P} {batch : Batch} {maxWeight : Weight}

/-- A message that does not decode ends the batch. -/
theorem handleXcmpMessages_undecodable {sender : ParaId} {sentAt : RelayBlockNumber}
    {data : List UInt8} (h : (Codec.decode data : Option (XCMPMessageOf A P × _)) = none) :
    handleXcmpMessages env ((sender, sentAt, data) :: batch) maxWeight s = (s, 0) := by
  simp [handleXcmpMessages, h]

/-- A message that decodes is handled before the rest of the batch. -/
theorem handleXcmpMessages_cons {sender : ParaId} {sentAt : RelayBlockNumber}
    {data rest : List UInt8} (h : Codec.decode data = some (m, rest)) :
    handleXcmpMessages env ((sender, sentAt, data) :: batch) maxWeight s =
      handleXcmpMessages env batch maxWeight (handleMessage env s m) := by
  simp [handleXcmpMessages, h]

/-! ### One message -/

omit [Codec A] [Codec P] in
/-- No message brings an order. -/
theorem handleMessage_gone (h : d ∉ s.orders) : d ∉ (handleMessage env s m).orders := by
  rcases handleMessage_kept_or_gone env s m d with ⟨hkept, -⟩ | ⟨-, hgone⟩
  · rw [← Finmap.lookup_eq_none] at h ⊢
    rw [hkept, h]
  · exact hgone

omit [Codec A] [Codec P] in
/-- A device whose order is not removed keeps its order and profile. -/
theorem holds_handleMessage (hs : s.Holds d o dev) (h : d ∈ (handleMessage env s m).orders) :
    (handleMessage env s m).Holds d o dev := by
  rcases handleMessage_kept_or_gone env s m d with ⟨horder, hprofile⟩ | ⟨-, hgone⟩
  · exact ⟨horder.trans hs.order, hprofile.trans hs.profile⟩
  · exact absurd h hgone

/-! ### A batch -/

/-- No batch brings an order. -/
theorem handleXcmpMessages_gone (h : d ∉ s.orders) :
    d ∉ (handleXcmpMessages env batch maxWeight s).1.orders := by
  induction batch generalizing s with
  | nil => exact h
  | cons item iter ih =>
    obtain ⟨sender, sentAt, data⟩ := item
    cases hdec : (Codec.decode data : Option (XCMPMessageOf A P × List UInt8)) with
    | none =>
      rw [handleXcmpMessages_undecodable hdec]
      exact h
    | some p =>
      obtain ⟨m, rest⟩ := p
      rw [handleXcmpMessages_cons hdec]
      exact ih (handleMessage_gone h)

/-- An order that is there after the batch was there, with its profile, before and after every
message. -/
theorem Handles.holds (h : Handles env s batch t m) (hs : s.Holds d o dev)
    (hend : d ∈ (handleXcmpMessages env batch maxWeight s).1.orders) :
    t.Holds d o dev ∧ d ∈ (handleMessage env t m).orders := by
  induction h with
  | head hdec =>
    refine ⟨hs, ?_⟩
    by_contra hgone
    rw [handleXcmpMessages_cons hdec] at hend
    exact handleXcmpMessages_gone hgone hend
  | tail hdec _ ih =>
    rw [handleXcmpMessages_cons hdec] at hend
    refine ih (holds_handleMessage hs ?_) hend
    by_contra hgone
    exact handleXcmpMessages_gone hgone hend

section Lawful

variable [LawfulCurrency L A]

omit [Codec A] [Codec P] in
/-- A settlement message that keeps the order and moves nothing is stuck. -/
theorem stuck_of_unpaid {c : A} (hm : SettlesFor c d m) (hs : s.Holds d o dev)
    (h : d ∈ (handleMessage env s m).orders)
    (hunpaid : ∀ a : A, reserved (handleMessage env s m).ledger a = reserved s.ledger a) :
    Stuck env s o dev m := by
  rcases settlement_outcome env hm hs with ⟨-, hstuck⟩ | ⟨-, hclosed | hfee⟩
  · exact hstuck
  · exact absurd h (by simp [hclosed.orders])
  · have hmoved := hfee.moved
    have hc := hunpaid c
    rw [hfee.reserved, if_pos rfl] at hc
    omega

omit [Codec A] [Codec P] in
/-- A stuck settlement message leaves the storage the same. -/
theorem Stuck.same {c : A} (h : Stuck env s o dev m) (hm : SettlesFor c d m)
    (hs : s.Holds d o dev) : s.Same (handleMessage env s m) := by
  rcases settlement_outcome env hm hs with ⟨hsame, -⟩ | ⟨hstuck, -⟩
  · exact hsame
  · exact absurd h hstuck

/-- A batch in which every settlement message for a device is stuck keeps its order and profile. -/
theorem holds_of_stuck (hs : s.Holds d o dev)
    (hstuck : ∀ t c m, Handles env s batch t m → SettlesFor c d m → Stuck env t o dev m) :
    (handleXcmpMessages env batch maxWeight s).1.Holds d o dev := by
  induction batch generalizing s with
  | nil => exact hs
  | cons item iter ih =>
    obtain ⟨sender, sentAt, data⟩ := item
    cases hdec : (Codec.decode data : Option (XCMPMessageOf A P × List UInt8)) with
    | none =>
      rw [handleXcmpMessages_undecodable hdec]
      exact hs
    | some p =>
      obtain ⟨m, rest⟩ := p
      rw [handleXcmpMessages_cons hdec]
      have hnext : (handleMessage env s m).Holds d o dev := by
        refine holds_handleMessage hs ?_
        rcases handleMessage_kept_or_gone env s m d with ⟨hkept, -⟩ | ⟨⟨c, hm⟩, -⟩
        · exact Finmap.mem_of_lookup_eq_some (hkept.trans hs.order)
        · have hsame := (hstuck s c m (.head hdec) hm).same hm hs
          exact Finmap.mem_of_lookup_eq_some ((congrArg _ hsame.orders).trans hs.order)
      exact ih hnext fun t c m' h => hstuck t c m' (.tail hdec h)

/-- A batch without a message from the device's service chain leaves the device alone exactly when
every settlement message for it that the batch reaches is stuck in the storage it meets. -/
theorem unharmed_iff (hs : s.Holds d o dev) :
    (batch.Foreign dev.paraId → Unharmed env s batch maxWeight d) ↔
      (batch.Foreign dev.paraId →
        ∀ t c m, Handles env s batch t m → SettlesFor c d m → Stuck env t o dev m) := by
  refine imp_congr_right fun _ => ⟨fun h t c m hm hsettles => ?_, fun h => ?_⟩
  · have hend : d ∈ (handleXcmpMessages env batch maxWeight s).1.orders :=
      Finmap.mem_of_lookup_eq_some (h.order.trans hs.order)
    obtain ⟨ht, hkept⟩ := hm.holds hs hend
    exact stuck_of_unpaid hsettles ht hkept fun a => (h.unpaid t c m hm hsettles a).2
  · have hend : (handleXcmpMessages env batch maxWeight s).1.Holds d o dev := holds_of_stuck hs h
    refine ⟨hend.order.trans hs.order.symm, hend.profile.trans hs.profile.symm, ?_⟩
    intro t c m hm hsettles a
    obtain ⟨ht, -⟩ := hm.holds hs (Finmap.mem_of_lookup_eq_some hend.order)
    have hsame := (h t c m hm hsettles).same hsettles ht
    exact ⟨hsame.free a, hsame.reserved a⟩

end Lawful

omit [DecidableEq A] [ReservableCurrency L A] [Codec A] [Codec P] in
/-- A batch of one message from another parachain. -/
theorem Batch.foreign_singleton {paraid sender : ParaId} (h : sender ≠ paraid)
    (sentAt : RelayBlockNumber) (data : List UInt8) :
    Batch.Foreign paraid [(sender, sentAt, data)] := by
  intro item hitem
  rw [List.mem_singleton.mp hitem]
  exact h

/-- The first order is routed to parachain 2000; parachain 2002 says that it is done. -/
theorem unharmed_iff_foreign_done :
    (Batch.Foreign 2000
        [(2002, 0, Codec.encode (.orderDone 1 2 true : XCMPMessageOf UInt64 UInt64))] →
      Unharmed (Env.online 50) firstOrder
        [(2002, 0, Codec.encode (.orderDone 1 2 true : XCMPMessageOf UInt64 UInt64))] 0 2) ↔
    (Batch.Foreign 2000
        [(2002, 0, Codec.encode (.orderDone 1 2 true : XCMPMessageOf UInt64 UInt64))] →
      ∀ t c m, Handles (Env.online 50) firstOrder
        [(2002, 0, Codec.encode (.orderDone 1 2 true : XCMPMessageOf UInt64 UInt64))] t m →
        SettlesFor c 2 m → Stuck (Env.online 50) t ⟨100, 7, 30, 1, 0⟩ ⟨10, 20, 2000, .busy⟩ m) :=
  unharmed_iff firstOrder_holds

/-- The first order is routed to parachain 2000; a done message of parachain 2002 removes it. -/
theorem not_unharmed_foreign_done :
    ¬∀ (env : Env) (s : State UInt64 UInt64 (Balances UInt64)) (batch : Batch)
      (maxWeight : Weight) (d : UInt64) (o : OrderOf UInt64 UInt64) (dev : DeviceProfile),
      Reachable s → s.Holds d o dev → batch.Foreign dev.paraId →
      (handleXcmpMessages env batch maxWeight s).1.orders.lookup d = s.orders.lookup d ∧
      (handleXcmpMessages env batch maxWeight s).1.device.lookup d = s.device.lookup d := by
  intro h
  have hreach : Reachable firstOrder :=
    ⟨_, Relation.ReflTransGen.mono (fun _ _ => OkStep.step) _ _ firstOrder_run⟩
  have hkept := h (Env.online 50) firstOrder
    [(2002, 0, Codec.encode (.orderDone 1 2 true : XCMPMessageOf UInt64 UInt64))] 0 2 _ _ hreach
    firstOrder_holds (Batch.foreign_singleton (by decide) _ _)
  have hgone : (handleXcmpMessages (Env.online 50)
      [(2002, 0, Codec.encode (.orderDone 1 2 true : XCMPMessageOf UInt64 UInt64))] 0
      firstOrder).1.orders.lookup 2 = none := by decide
  rw [hgone] at hkept
  exact absurd hkept.1 (by decide)

end XcmAutoBank.Xchange
