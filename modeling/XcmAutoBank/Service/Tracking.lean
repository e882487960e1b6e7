import XcmAutoBank.Service.Entry
import XcmAutoBank.Common.Tracking

/-!
# The service pallet over a currency with an existential deposit

Every call of the pallet, statement by statement, does on the watched balances of a ledger what it
does on the ledger, and a batch does so order by order (`tracks_exec`).
-/

namespace XcmAutoBank.Service

open ReservableCurrency Storage Dispatch

variable {A P L : Type} [DecidableEq A] [ReservableCurrency L A] {deposit : ℕ}

/-! ### Calls that leave the ledger alone -/

/-- A registration. -/
theorem follows_register (origin : Origin A) (penalty : Balance) (wcd : Moment) (onoff : Bool) :
    Storage.Follows (register origin penalty wcd onoff : Call (State A P L) Error Unit)
      (register origin penalty wcd onoff : Call (State A P (Watched A deposit)) Error Unit) := by
  unfold register
  apply Follows.bind (follows_ensureSigned origin)
  intro id
  apply Follows.bind (follows_containsKey id)
  intro _
  apply Follows.check
  exact .bind (follows_insertDevice id _) fun _ => follows_depositEvent _

/-- A device that switches itself on or off. -/
theorem follows_setState (origin : Origin A) (onoff : Bool) :
    Storage.Follows (setState origin onoff : Call (State A P L) Error Unit)
      (setState origin onoff : Call (State A P (Watched A deposit)) Error Unit) := by
  unfold setState
  apply Follows.bind (follows_ensureSigned origin)
  intro id
  apply Follows.bind (follows_getDevice id)
  intro dev
  apply Follows.bind (.okOr dev _)
  intro dev
  exact .bind (.okOr _ _) fun state => follows_insertDevice id _

/-- The reaping hook. -/
theorem follows_onKilledAccount (who : A) :
    Storage.Follows (onKilledAccount who : Call (State A P L) Error Unit)
      (onKilledAccount who : Call (State A P (Watched A deposit)) Error Unit) := by
  unfold onKilledAccount
  apply Follows.bind (follows_getDevice who)
  intro dev
  cases dev with
  | none => exact .pure ()
  | some dev => exact .ite (follows_removeDevice who) (.pure ())

variable [Codec A] [Codec P]

/-- A device takes on its order. -/
theorem follows_orderAccept (selfParaId : ParaId) (env : ServiceEnv A P) (o : OrderOf A P)
    (now : Moment) (device : A) (dev : DeviceProfile) :
    Storage.Follows (orderAccept selfParaId env o now device dev : Call (State A P L) Error Unit)
      (orderAccept selfParaId env o now device dev :
        Call (State A P (Watched A deposit)) Error Unit) := by
  unfold orderAccept
  apply Follows.bind (follows_insertDevice device _)
  intro _
  exact .ite (.bind (follows_sendXcm env.toEnv o.paraid _) fun _ => follows_depositEvent _)
    (follows_depositEvent _)

/-- An order that is stored, and taken on by a device that accepts it. -/
theorem follows_store (selfParaId : ParaId) (env : ServiceEnv A P) (o : OrderOf A P)
    (device : A) (dev : DeviceProfile) :
    Storage.Follows
      (do
        Orders.insert device o
        depositEvent (.newOrder device)
        if dev.state = .accepted then
          orderAccept selfParaId env o env.now device dev
        else
          Device.insert device dev : Call (State A P L) Error Unit)
      (do
        Orders.insert device o
        depositEvent (.newOrder device)
        if dev.state = .accepted then
          orderAccept selfParaId env o env.now device dev
        else
          Device.insert device dev : Call (State A P (Watched A deposit)) Error Unit) := by
  apply Follows.bind (follows_insertOrder device o)
  intro _
  apply Follows.bind (follows_depositEvent _)
  intro _
  exact .ite (follows_orderAccept selfParaId env o env.now device dev)
    (follows_insertDevice device dev)

omit [Codec A] [Codec P] in
/-- An order that leaves the storage. -/
theorem follows_close (device : A) (dev : DeviceProfile) :
    Storage.Follows
      (do
        Orders.remove device
        Device.insert device dev
        depositEvent (.reject device) : Call (State A P L) Error Unit)
      (do
        Orders.remove device
        Device.insert device dev
        depositEvent (.reject device) : Call (State A P (Watched A deposit)) Error Unit) := by
  apply Follows.bind (follows_removeOrder device)
  intro _
  exact .bind (follows_insertDevice device dev) fun _ => follows_depositEvent _

/-! ### Calls that reserve and pay -/

section Ledger

variable [DepositCurrency L A deposit]

/-- A finished order. -/
theorem follows_orderDone (selfParaId : ParaId) (env : ServiceEnv A P) (o : OrderOf A P)
    (now : Moment) (device : A) (dev : DeviceProfile) (onoff : Bool) :
    Storage.Follows
      (orderDone selfParaId env o now device dev onoff : Call (State A P L) Error Unit)
      (orderDone selfParaId env o now device dev onoff :
        Call (State A P (Watched A deposit)) Error Unit) := by
  unfold orderDone
  apply Follows.bind (follows_insertDevice device _)
  intro _
  apply Follows.ite
  · apply Follows.bind (follows_repatriateReserved o.client device o.fee)
    intro _
    exact follows_penalty (follows_depositEvent _)
  · exact .bind (follows_sendXcm env.toEnv o.paraid _) fun _ => follows_depositEvent _

/-- A rejected order. -/
theorem follows_orderReject (selfParaId : ParaId) (env : ServiceEnv A P)
    (order : Option (OrderOf A P)) (now : Moment) (device : A) (dev : DeviceProfile)
    (onoff : Bool) :
    Storage.Follows
      (orderReject selfParaId env order now device dev onoff : Call (State A P L) Error Unit)
      (orderReject selfParaId env order now device dev onoff :
        Call (State A P (Watched A deposit)) Error Unit) := by
  unfold orderReject
  cases order with
  | none => exact follows_close device dev
  | some o =>
    apply Follows.ite
    · apply Follows.bind (follows_unreserve o.client o.fee)
      intro _
      exact follows_penalty (follows_close device dev)
    · exact .bind (follows_sendXcm env.toEnv o.paraid _) fun _ => follows_close device dev

/-- An order that is received. -/
theorem follows_orderReceived (selfParaId : ParaId) (env : ServiceEnv A P) (o : OrderOf A P)
    (device : A) :
    Storage.Follows (orderReceived selfParaId env o device : Call (State A P L) Error Unit)
      (orderReceived selfParaId env o device :
        Call (State A P (Watched A deposit)) Error Unit) := by
  unfold orderReceived
  apply Follows.check
  apply Follows.bind (follows_containsKey device)
  intro _
  apply Follows.check
  apply Follows.bind (follows_getDevice device)
  intro dev
  apply Follows.bind (.okOr dev _)
  intro dev
  -- the state of the device and the time it needs are checked, then the device is asked
  apply Follows.check
  apply Follows.check
  apply Follows.bind (.okOr _ _)
  intro state
  apply Follows.ite
  · apply Follows.bind (follows_canReserve o.client o.fee)
    intro _
    apply Follows.check
    apply Follows.bind (follows_reserve device dev.penalty)
    intro _
    apply Follows.bind (follows_reserve o.client o.fee)
    intro _
    exact follows_store selfParaId env o device { dev with state := state }
  · exact follows_store selfParaId env o device { dev with state := state }

/-- An order of a local client. -/
theorem follows_order (selfParaId : ParaId) (env : ServiceEnv A P) (origin : Origin A)
    (b : OrderBaseOf A P) :
    Storage.Follows (order selfParaId env origin b : Call (State A P L) Error Unit)
      (order selfParaId env origin b : Call (State A P (Watched A deposit)) Error Unit) := by
  unfold order
  apply Follows.bind (follows_ensureSigned origin)
  intro who
  exact follows_orderReceived selfParaId env _ b.device

/-- A cancellation. -/
theorem follows_cancel (selfParaId : ParaId) (env : ServiceEnv A P) (origin : Origin A)
    (device : A) :
    Storage.Follows (cancel selfParaId env origin device : Call (State A P L) Error Unit)
      (cancel selfParaId env origin device :
        Call (State A P (Watched A deposit)) Error Unit) := by
  unfold cancel
  apply Follows.bind (follows_ensureSigned origin)
  intro who
  apply Follows.bind (follows_getOrder device)
  intro o
  apply Follows.bind (.okOr o _)
  intro o
  apply Follows.check
  apply Follows.bind (follows_getDevice device)
  intro dev
  apply Follows.bind (.okOr dev _)
  intro dev
  exact follows_orderReject selfParaId env (some o) env.now device dev false

/-- A device that takes on its order or rejects it. -/
theorem follows_accept (selfParaId : ParaId) (env : ServiceEnv A P) (origin : Origin A)
    (reject onoff : Bool) :
    Storage.Follows (accept selfParaId env origin reject onoff : Call (State A P L) Error Unit)
      (accept selfParaId env origin reject onoff :
        Call (State A P (Watched A deposit)) Error Unit) := by
  unfold accept
  apply Follows.bind (follows_ensureSigned origin)
  intro id
  apply Follows.bind (follows_getOrder id)
  intro o
  apply Follows.bind (follows_getDevice id)
  intro dev
  apply Follows.bind (.okOr dev _)
  intro dev
  apply Follows.ite
  · apply Follows.check
    exact follows_orderReject selfParaId env o env.now id _ onoff
  · apply Follows.check
    apply Follows.bind (.okOr o _)
    intro o
    apply Follows.check
    exact follows_orderAccept selfParaId env o env.now id dev

/-- A device that is done. -/
theorem follows_done (selfParaId : ParaId) (env : ServiceEnv A P) (origin : Origin A)
    (onoff : Bool) :
    Storage.Follows (done selfParaId env origin onoff : Call (State A P L) Error Unit)
      (done selfParaId env origin onoff : Call (State A P (Watched A deposit)) Error Unit) := by
  unfold done
  apply Follows.bind (follows_ensureSigned origin)
  intro id
  apply Follows.bind (follows_getDevice id)
  intro dev
  apply Follows.bind (.okOr dev _)
  intro dev
  apply Follows.check
  apply Follows.bind (follows_takeOrder id)
  intro o
  apply Follows.bind (.okOr o _)
  intro o
  exact follows_orderDone selfParaId env o env.now id dev onoff

/-! ### Entries -/

/-- Every call. -/
theorem follows_call (selfParaId : ParaId) (env : ServiceEnv A P) (op : Op A P) :
    Storage.Follows (op.call selfParaId env : Call (State A P L) Error Unit)
      (op.call selfParaId env : Call (State A P (Watched A deposit)) Error Unit) := by
  cases op with
  | order origin b => exact follows_order selfParaId env origin b
  | cancel origin device => exact follows_cancel selfParaId env origin device
  | accept origin reject onoff => exact follows_accept selfParaId env origin reject onoff
  | done origin onoff => exact follows_done selfParaId env origin onoff
  | register origin penalty wcd onoff => exact follows_register origin penalty wcd onoff
  | setState origin onoff => exact follows_setState origin onoff
  | orderReceived o device => exact follows_orderReceived selfParaId env o device
  | onKilledAccount who => exact follows_onKilledAccount who

/-- Every batch, order by order. -/
theorem tracks_batch (selfParaId : ParaId) (env : ServiceEnv A P)
    (items : List (ParaId × RelayBlockNumber × List UInt8)) (maxWeight : Weight) :
    Tracks (watched deposit) Kept
      (fun s : State A P L => (handleXcmpMessages selfParaId env items maxWeight s).1)
      (fun t => (handleXcmpMessages selfParaId env items maxWeight t).1) := by
  induction items with
  | nil => exact .refl
  | cons item items ih =>
    obtain ⟨sender, sentAt, data⟩ := item
    cases hdec : (Codec.decode data : Option (XCMPMessageOf A P × List UInt8)) with
    | none =>
      simp only [handleXcmpMessages, hdec]
      exact .refl
    | some p =>
      obtain ⟨m, rest⟩ := p
      cases m with
      | newOrder client b =>
        simp only [handleXcmpMessages, hdec]
        exact (follows_orderReceived selfParaId env _ b.device).tracks.comp ih
      | orderAccept client device =>
        simp only [handleXcmpMessages, hdec]
        exact .refl
      | orderReject client device onoff =>
        simp only [handleXcmpMessages, hdec]
        exact .refl
      | orderDone client device onoff =>
        simp only [handleXcmpMessages, hdec]
        exact .refl

/-- Whatever enters the pallet. -/
theorem tracks_exec (selfParaId : ParaId) (env : ServiceEnv A P) (entry : Entry A P) :
    Tracks (watched deposit) Kept (fun s : State A P L => entry.exec selfParaId env s)
      (fun t => entry.exec selfParaId env t) := by
  cases entry with
  | call op => exact (follows_call selfParaId env op).tracks
  | batch items maxWeight => exact tracks_batch selfParaId env items maxWeight

end Ledger

end XcmAutoBank.Service
