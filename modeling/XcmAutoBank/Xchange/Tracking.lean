import XcmAutoBank.Xchange.Entry
import XcmAutoBank.Common.Tracking

/-!
# The client pallet over a currency with an existential deposit

Every call of the pallet, statement by statement, does on the watched balances of a ledger what it
does on the ledger, and a batch does so message by message (`tracks_exec`).
-/

namespace XcmAutoBank.Xchange

open ReservableCurrency Storage Dispatch

variable {A P L : Type} [DecidableEq A] [ReservableCurrency L A] {deposit : ℕ}

/-! ### Calls that leave the ledger alone -/

omit [DecidableEq A] in
/-- The test call only sends. -/
theorem follows_test (env : Env) (origin : Origin A) :
    Storage.Follows (test env origin : Call (State A P L) Error Unit)
      (test env origin : Call (State A P (Watched A deposit)) Error Unit) := by
  unfold test
  apply Follows.bind (follows_sendXcm env _ _)
  intro result
  cases result with
  | ok _ => exact .pure ()
  | error _ => exact .throw _

/-- A registration. -/
theorem follows_register (origin : Origin A) (paraid : ParaId) (penalty : Balance) (wcd : Moment)
    (onoff : Bool) :
    Storage.Follows (register origin paraid penalty wcd onoff : Call (State A P L) Error Unit)
      (register origin paraid penalty wcd onoff :
        Call (State A P (Watched A deposit)) Error Unit) := by
  unfold register
  apply Follows.bind (follows_ensureSigned origin)
  intro id
  apply Follows.bind (follows_containsKey id)
  intro _
  apply Follows.check
  exact .bind (follows_insertDevice id _) fun _ => follows_depositEvent _

/-- The reaping hook. -/
theorem follows_onKilledAccount (who : A) :
    Storage.Follows (onKilledAccount who : Call (State A P L) Error Unit)
      (onKilledAccount who : Call (State A P (Watched A deposit)) Error Unit) := by
  unfold onKilledAccount
  apply Follows.bind (follows_getDevice who)
  intro dev
  cases dev with
  | none => exact .pure ()
  | some dev => exact .ite (follows_removeDevice who) (follows_insertDevice who _)

/-! ### Calls that reserve and pay -/

section Ledger

variable [DepositCurrency L A deposit]

/-- An order. -/
theorem follows_order [Codec A] [Codec P] (env : Env) (origin : Origin A) (b : OrderBaseOf A P) :
    Storage.Follows (order env origin b : Call (State A P L) Error Unit)
      (order env origin b : Call (State A P (Watched A deposit)) Error Unit) := by
  unfold order
  apply Follows.bind (follows_ensureSigned origin)
  intro who
  apply Follows.check
  apply Follows.bind (follows_containsKey b.device)
  intro _
  apply Follows.check
  apply Follows.bind (follows_getDevice b.device)
  intro dev
  apply Follows.bind (.okOr dev _)
  intro dev
  -- the state of the device, the time it needs and the client's balance are checked
  apply Follows.check
  apply Follows.check
  apply Follows.bind (follows_canReserve who b.fee)
  intro _
  apply Follows.check
  apply Follows.bind (follows_reserve b.device dev.penalty)
  intro _
  apply Follows.bind (follows_reserve who b.fee)
  intro _
  apply Follows.bind (follows_insertOrder b.device _)
  intro _
  apply Follows.bind (follows_sendXcm env dev.paraId _)
  intro _
  exact .bind (follows_insertDevice b.device _) fun _ => follows_depositEvent _

/-- A rejected order. -/
theorem follows_orderReject (who : A) (o : OrderOf A P) (now : Moment) (device : A)
    (dev : DeviceProfile) :
    Storage.Follows (orderReject who o now device dev : Call (State A P L) Error Unit)
      (orderReject who o now device dev : Call (State A P (Watched A deposit)) Error Unit) := by
  unfold orderReject
  apply Follows.bind (follows_unreserve who o.fee)
  intro _
  apply follows_penalty
  apply Follows.bind (follows_removeOrder device)
  intro _
  exact .bind (follows_insertDevice device dev) fun _ => follows_depositEvent _

/-- A cancellation. -/
theorem follows_cancel (env : Env) (origin : Origin A) (device : A) :
    Storage.Follows (cancel env origin device : Call (State A P L) Error Unit)
      (cancel env origin device : Call (State A P (Watched A deposit)) Error Unit) := by
  unfold cancel
  apply Follows.bind (follows_ensureSigned origin)
  intro who
  apply Follows.bind (follows_getOrder device)
  intro o
  apply Follows.bind (.okOr o _)
  intro o
  apply Follows.check
  apply Follows.bind (follows_getDevice device)
  intro dev
  apply Follows.bind (.okOr dev _)
  intro dev
  exact follows_orderReject who o env.now device dev

/-- A message that rejects an order. -/
theorem follows_onReject (env : Env) (who device : A) (onoff : Bool) :
    Storage.Follows (onReject env who device onoff : Call (State A P L) Error Unit)
      (onReject env who device onoff : Call (State A P (Watched A deposit)) Error Unit) := by
  unfold onReject
  apply Follows.bind (follows_getOrder device)
  intro o
  apply Follows.bind (.okOr o _)
  intro o
  apply Follows.bind (follows_getDevice device)
  intro dev
  apply Follows.bind (.okOr dev _)
  intro dev
  exact follows_orderReject who o env.now device _

/-- A message that an order is done. -/
theorem follows_onDone (env : Env) (who device : A) (onoff : Bool) :
    Storage.Follows (onDone env who device onoff : Call (State A P L) Error Unit)
      (onDone env who device onoff : Call (State A P (Watched A deposit)) Error Unit) := by
  unfold onDone
  apply Follows.bind (follows_getOrder device)
  intro o
  apply Follows.bind (.okOr o _)
  intro o
  apply Follows.bind (follows_getDevice device)
  intro dev
  apply Follows.bind (.okOr dev _)
  intro dev
  apply Follows.bind (follows_repatriateReserved who device o.fee)
  intro _
  apply follows_penalty
  apply Follows.bind (follows_removeOrder device)
  intro _
  exact .bind (follows_insertDevice device _) fun _ => follows_depositEvent _

/-! ### Entries -/

variable [Codec A] [Codec P]

/-- Every call. -/
theorem follows_call (env : Env) (op : Op A P) :
    Storage.Follows (op.call env : Call (State A P L) Error Unit)
      (op.call env : Call (State A P (Watched A deposit)) Error Unit) := by
  cases op with
  | test origin => exact follows_test env origin
  | order origin b => exact follows_order env origin b
  | cancel origin device => exact follows_cancel env origin device
  | register origin paraid penalty wcd onoff =>
    exact follows_register origin paraid penalty wcd onoff
  | onAccept who device => exact follows_depositEvent _
  | onReject who device onoff => exact follows_onReject env who device onoff
  | onDone who device onoff => exact follows_onDone env who device onoff
  | onKilledAccount who => exact follows_onKilledAccount who

/-- Every message. -/
theorem tracks_message (env : Env) (m : XCMPMessageOf A P) :
    Tracks (watched deposit) Kept (fun s : State A P L => handleMessage env s m)
      (fun t => handleMessage env t m) := by
  cases m with
  | newOrder client b => exact .refl
  | orderAccept client device => exact (follows_call env (.onAccept client device)).tracks
  | orderReject client device onoff => exact (follows_onReject env client device onoff).tracks
  | orderDone client device onoff => exact (follows_onDone env client device onoff).tracks

/-- Every batch, message by message. -/
theorem tracks_batch (env : Env) (items : Batch) (maxWeight : Weight) :
    Tracks (watched deposit) Kept
      (fun s : State A P L => (handleXcmpMessages env items maxWeight s).1)
      (fun t => (handleXcmpMessages env items maxWeight t).1) := by
  induction items with
  | nil => exact .refl
  | cons item items ih =>
    obtain ⟨sender, sentAt, data⟩ := item
    cases hdec : (Codec.decode data : Option (XCMPMessageOf A P × List UInt8)) with
    | none =>
      simp only [handleXcmpMessages_undecodable hdec]
      exact .refl
    | some p =>
      simp only [handleXcmpMessages_cons hdec]
      exact (tracks_message env p.1).comp ih

/-- Whatever enters the pallet. -/
theorem tracks_exec (env : Env) (entry : Entry A P) :
    Tracks (watched deposit) Kept (fun s : State A P L => entry.exec env s)
      (fun t => entry.exec env t) := by
  cases entry with
  | call op => exact (follows_call env op).tracks
  | batch items maxWeight => exact tracks_batch env items maxWeight

end Ledger

end XcmAutoBank.Xchange
