import XcmAutoBank.Service.Message
import XcmAutoBank.Common.WorkingTime
import XcmAutoBank.Foundation.History

/-!
# The working time on the service chain

An order is stored by `orderReceived` only, for a local client or for a message, and always after
the check of the working time (`timeChecked_of_exec`).  A batch may store orders on many devices,
but what it stores on one device does not touch the profile of another.  A profile has the working
time of the last registration of its device (`declared_since`).
-/

namespace XcmAutoBank.Service

open ReservableCurrency Storage History

variable {A P L : Type} [DecidableEq A]

/-- A device without an order registers with a working time. -/
def Declares (d : A) (w : Moment) (s : State A P L) (e : ServiceEnv A P × Entry A P) : Prop :=
  d ∉ s.orders ∧ ∃ penalty onoff, e.2 = .call (.register (.signed d) penalty w onoff)

variable [ReservableCurrency L A] [Codec A] [Codec P]

/-- The storage after one entry in its environment. -/
def enter (selfParaId : ParaId) (s : State A P L) (e : ServiceEnv A P × Entry A P) : State A P L :=
  e.2.exec selfParaId e.1 s

variable {selfParaId : ParaId} {env : ServiceEnv A P} {s s' t : State A P L} {d x : A}
  {o : OrderOf A P} {dev dev' : DeviceProfile}

/-! ### The working times -/

/-- Receiving an order keeps the working times. -/
theorem keepsTime_of_orderReceived :
    KeepsTime DeviceProfile.wcd d s ((orderReceived selfParaId env o x).exec s) := by
  rcases orderReceived_exec selfParaId env s x o with
    hsame | ⟨dev, state, l, hr, ⟨hpenalty, -, -⟩ | ⟨hstored, -, -⟩⟩
  · rw [hsame]
    exact keepsTime_of_lookup rfl
  · rw [hpenalty]
    exact keepsTime_of_lookup rfl
  · rw [hstored]
    exact keepsTime_of_insert hr.profile rfl rfl

omit [ReservableCurrency L A] in
/-- Closing an order keeps the working times. -/
theorem keepsTime_of_closed {l : L} {ev : Event A} {msg : XCMPMessageOf A P}
    (hdev : s.device.lookup x = some dev) (hwcd : dev'.wcd = dev.wcd) :
    KeepsTime DeviceProfile.wcd d s
      ((notified selfParaId env.toEnv o msg s).closed x dev' l ev) :=
  keepsTime_of_insert hdev (by rw [closed_device, notified_device]) hwcd

/-- Rejecting an order keeps the working times. -/
theorem keepsTime_of_reject {f : Call (State A P L) Error Unit} {onoff : Bool}
    (hf : f.run s = (orderReject selfParaId env (s.orders.lookup x) env.now x dev' onoff).run s)
    (hdev : s.device.lookup x = some dev) (hwcd : dev'.wcd = dev.wcd) :
    KeepsTime DeviceProfile.wcd d s (f.exec s) := by
  rw [Dispatch.exec, hf]
  cases ho : s.orders.lookup x with
  | none =>
    rw [orderReject_none_run]
    exact keepsTime_of_insert hdev rfl hwcd
  | some o =>
    rw [orderReject_run]
    split
    · exact keepsTime_of_closed hdev hwcd
    · exact keepsTime_of_lookup rfl

omit [ReservableCurrency L A] [Codec A] [Codec P] in
/-- Reaping an account keeps the working times. -/
theorem keepsTime_of_killed (who : A) :
    KeepsTime DeviceProfile.wcd d s ((onKilledAccount who).exec s) := by
  obtain ⟨m, hrun, hm⟩ := onKilledAccount_run s who
  rw [Dispatch.exec, hrun]
  by_cases hd : d = who
  · subst hd
    intro w hw
    rw [workingTime, hm, if_pos rfl] at hw
    rw [workingTime]
    cases hdev : s.device.lookup d with
    | none =>
      rw [hdev] at hw
      cases hw
    | some dev =>
      rw [hdev, Option.bind_some] at hw
      split_ifs at hw
      · cases hw
      · exact hw
  · exact keepsTime_of_lookup ((hm d).trans (if_neg hd))

/-- A working time after an entry was there before or is declared by it. -/
theorem declared_of_enter (s : State A P L) (e : ServiceEnv A P × Entry A P) (w : Moment)
    (hw : (enter selfParaId s e).workingTime DeviceProfile.wcd d = some w) :
    s.workingTime DeviceProfile.wcd d = some w ∨ Declares d w s e := by
  obtain ⟨env, entry⟩ := e
  suffices h : KeepsTime DeviceProfile.wcd d s (entry.exec selfParaId env s) ∨
      Declares d w s (env, entry) from h.imp_left fun hkeeps => hkeeps w hw
  cases entry with
  | batch items maxWeight =>
    exact .inl (handleXcmpMessages_induction selfParaId env (R := KeepsTime DeviceProfile.wcd d)
      (fun s => keepsTime_of_lookup rfl) KeepsTime.trans items maxWeight
      (fun item _ s client b => keepsTime_of_orderReceived) s)
  | call op =>
    cases op with
    | order origin b =>
      change KeepsTime _ d s ((order selfParaId env origin b).exec s) ∨ _
      by_cases hwho : ∃ who, origin = .signed who
      · obtain ⟨who, rfl⟩ := hwho
        rw [order_signed]
        exact .inl keepsTime_of_orderReceived
      · rw [Dispatch.exec_of_refused (order_unsigned (fun who heq => hwho ⟨who, heq⟩) b)]
        exact .inl (keepsTime_of_lookup rfl)
    | cancel origin x =>
      change KeepsTime _ d s ((cancel selfParaId env origin x).exec s) ∨ _
      by_cases hc : ∃ o dev, Cancels env s origin x o dev
      · obtain ⟨o, dev, hc⟩ := hc
        exact .inl (keepsTime_of_reject (cancel_reject_run hc) hc.holds.profile rfl)
      · rw [Dispatch.exec_of_refused (cancel_refused hc)]
        exact .inl (keepsTime_of_lookup rfl)
    | accept origin reject onoff =>
      change KeepsTime _ d s ((accept selfParaId env origin reject onoff).exec s) ∨ _
      cases reject with
      | false =>
        rcases accept_exec selfParaId env s origin onoff with hsame | ⟨x, o, dev, ht, htaken⟩
        · rw [hsame]
          exact .inl (keepsTime_of_lookup rfl)
        · rw [htaken]
          exact .inl (keepsTime_of_insert ht.holds.profile rfl rfl)
      | true =>
        by_cases hr : ∃ x dev, Rejects s origin x dev
        · obtain ⟨x, dev, hr⟩ := hr
          exact .inl (keepsTime_of_reject (accept_reject_run hr onoff) hr.profile rfl)
        · rw [Dispatch.exec_of_refused (accept_reject_refused hr onoff)]
          exact .inl (keepsTime_of_lookup rfl)
    | done origin onoff =>
      change KeepsTime _ d s ((done selfParaId env origin onoff).exec s) ∨ _
      rcases done_exec selfParaId env s origin onoff with
        hsame | ⟨x, o, dev, l, hf, ⟨-, hclosed⟩ | ⟨-, hdropped, -⟩⟩
      · rw [hsame]
        exact .inl (keepsTime_of_lookup rfl)
      · rw [hclosed]
        exact .inl (keepsTime_of_closed hf.holds.profile rfl)
      · rw [hdropped]
        exact .inl (keepsTime_of_insert hf.holds.profile rfl rfl)
    | register origin penalty wcd onoff =>
      change (Dispatch.exec (register origin penalty wcd onoff) s).workingTime
        DeviceProfile.wcd d = some w at hw
      change KeepsTime _ d s ((register origin penalty wcd onoff).exec s) ∨ _
      rcases register_exec s origin penalty wcd onoff with hsame | ⟨id, rfl, hid, hwritten⟩
      · rw [hsame]
        exact .inl (keepsTime_of_lookup rfl)
      · rw [hwritten] at hw ⊢
        by_cases hd : d = id
        · subst hd
          rw [workingTime, Finmap.lookup_insert] at hw
          obtain rfl := Option.some.inj hw
          exact .inr ⟨hid, penalty, onoff, rfl⟩
        · exact .inl (keepsTime_of_lookup (Finmap.lookup_insert_of_ne _ hd))
    | setState origin onoff =>
      change KeepsTime _ d s ((setState origin onoff).exec s) ∨ _
      rcases setState_exec s origin onoff with hsame | ⟨x, dev, state, hsw, hwritten⟩
      · rw [hsame]
        exact .inl (keepsTime_of_lookup rfl)
      · rw [hwritten]
        exact .inl (keepsTime_of_insert hsw.profile rfl rfl)
    | orderReceived o x => exact .inl keepsTime_of_orderReceived
    | onKilledAccount who => exact .inl (keepsTime_of_killed who)

/-- A working time has stood since the registration that declared it. -/
theorem declared_since {ledger : L} {es : List (ServiceEnv A P × Entry A P)} {w : Moment}
    (hw : (after (enter selfParaId) (Storage.init ledger : State A P L) es).workingTime
      DeviceProfile.wcd d = some w) :
    Since (enter selfParaId) (Declares d w) (fun _ t => t.workingTime DeviceProfile.wcd d = some w)
      (Storage.init ledger : State A P L) es :=
  since_of_now (workingTime_init ledger d w) (fun s e => declared_of_enter s e w) hw

/-! ### The check -/

/-- Whatever an operation returns, the orders it stores have passed the check. -/
theorem timeChecked_of_call (op : Op A P) :
    TimeChecked DeviceProfile.wcd env.now s ((op.call selfParaId env).exec s) := by
  rcases outcome_of_call selfParaId env s op with hu | ⟨x, -, hx⟩
  · exact timeChecked_of_kept fun d o ho => by rwa [hu.orders] at ho
  · intro d o hd
    by_cases hdx : d = x
    · subst hdx
      cases hx.deed with
      | none hu => exact absurd (by rw [← hu.orders, hd.stored]) hd.new
      | stored o' dev state hr ho _ _ _ =>
        obtain rfl := Option.some.inj (ho.symm.trans hd.stored)
        exact ⟨dev.wcd, by rw [workingTime, hr.profile]; rfl, hr.enough⟩
      | taken o' dev hs _ hs' _ _ =>
        obtain rfl := Option.some.inj (hs'.order.symm.trans hd.stored)
        exact absurd hs.order hd.new
      | closed o' dev dev' v onoff _ hgone _ _ _ _ _ =>
        exact absurd (Finmap.mem_of_lookup_eq_some hd.stored) hgone
      | idle _ ho _ _ _ => exact absurd (ho.symm.trans hd.stored) hd.new
    · exact absurd ((hx.frame.orders d hdx).symm.trans hd.stored) hd.new

/-- Orders stay stored, profiles are kept where there is no order, and new orders have passed the
check. -/
structure ChecksTime (now : Moment) (s s' : State A P L) : Prop where
  orders : ∀ d o, s.orders.lookup d = some o → s'.orders.lookup d = some o
  profiles : ∀ d, d ∉ s'.orders → s'.device.lookup d = s.device.lookup d
  checked : TimeChecked DeviceProfile.wcd now s s'

omit [ReservableCurrency L A] [Codec A] [Codec P] in
/-- The orders of two batches are checked when those of each are. -/
theorem ChecksTime.trans {now : Moment} (h : ChecksTime now s t) (h' : ChecksTime now t s') :
    ChecksTime now s s' where
  orders d o ho := h'.orders d o (h.orders d o ho)
  profiles d hd := by
    rw [h'.profiles d hd]
    apply h.profiles
    intro hmem
    obtain ⟨o, ho⟩ := Finmap.mem_iff.mp hmem
    apply hd
    exact Finmap.mem_of_lookup_eq_some (h'.orders d o ho)
  checked d o hd := by
    by_cases ht : t.orders.lookup d = some o
    · exact h.checked d o ⟨ht, hd.new⟩
    · -- the device had no order in between, so its profile was the same at the start
      have hfree : d ∉ t.orders := by
        intro hmem
        obtain ⟨o', ho'⟩ := Finmap.mem_iff.mp hmem
        obtain rfl := Option.some.inj ((h'.orders d o' ho').symm.trans hd.stored)
        exact ht ho'
      obtain ⟨w, hw, hchecked⟩ := h'.checked d o ⟨hd.stored, ht⟩
      rw [workingTime, h.profiles d hfree] at hw
      exact ⟨w, hw, hchecked⟩

/-- A received order is checked. -/
theorem checksTime_of_orderReceived :
    ChecksTime env.now s ((orderReceived selfParaId env o x).exec s) where
  orders d o' ho := orders_of_orderReceived ho
  profiles d hd := by
    rcases orderReceived_exec selfParaId env s x o with
      hsame | ⟨dev, state, l, -, ⟨hpenalty, -, -⟩ | ⟨hstored, -, -⟩⟩
    · rw [hsame]
    · rw [hpenalty]
      rfl
    · rw [hstored] at hd ⊢
      have hne : d ≠ x := by
        rintro rfl
        exact hd (Finmap.mem_insert.mpr (.inl rfl))
      exact Finmap.lookup_insert_of_ne _ hne
  checked := timeChecked_of_call (.orderReceived o x)

/-- Whatever enters the pallet, the orders it stores have passed the check. -/
theorem timeChecked_of_exec (env : ServiceEnv A P) (entry : Entry A P) (s : State A P L) :
    TimeChecked DeviceProfile.wcd env.now s (entry.exec selfParaId env s) := by
  cases entry with
  | call op => exact timeChecked_of_call op
  | batch items maxWeight =>
    have hbatch := handleXcmpMessages_induction selfParaId env (R := ChecksTime env.now)
      (fun s => ⟨fun d o ho => ho, fun d hd => rfl, timeChecked_of_kept fun d o ho => ho⟩)
      ChecksTime.trans items maxWeight
      (fun item _ s client b => checksTime_of_orderReceived) s
    exact hbatch.checked

/-- Along a run from an empty storage, every order that is stored leaves its device the working time
exactly when the sum of the check fits for every order that is stored. -/
theorem timeLeft_along_iff (ledger : L) (es : List (ServiceEnv A P × Entry A P)) :
    Along (enter selfParaId)
        (fun s e => TimeLeft DeviceProfile.wcd e.1.now s (enter selfParaId s e))
        (Storage.init ledger : State A P L) es ↔
      Along (enter selfParaId)
        (fun s e => TimeFits DeviceProfile.wcd e.1.now s (enter selfParaId s e))
        (Storage.init ledger : State A P L) es :=
  along_congr (fun s e => (timeChecked_of_exec e.1 e.2 s).timeLeft_iff) _ es

end XcmAutoBank.Service
