import XcmAutoBank.Xchange.Consistency
import XcmAutoBank.Common.WorkingTime

/-!
# The working time on the client chain

`order` is the only entry that gives a device an order, and it checks the working time of the
profile it finds (`timeChecked_of_exec`).  A profile has the working time of the last registration
of its device (`declared_since`): nothing else writes it.
-/

namespace XcmAutoBank.Xchange

open ReservableCurrency Storage History

variable {A P L : Type} [DecidableEq A]

/-- A device without an order registers with a working time. -/
def Declares (d : A) (w : Moment) (s : State A P L) (e : Env × Entry A P) : Prop :=
  d ∉ s.orders ∧ ∃ paraid penalty onoff,
    e.2 = .call (.register (.signed d) paraid penalty w onoff)

variable [ReservableCurrency L A]

variable {env : Env} {s s' : State A P L} {d : A} {o : OrderOf A P} {dev : DeviceProfile}

/-! ### The working times -/

omit [ReservableCurrency L A] in
/-- Closing an order keeps the working times. -/
theorem keepsTime_of_closed {x : A} {dev' : DeviceProfile} {l : L} {ev : Event A}
    (hs : s.Holds x o dev) (hwcd : dev'.wcd = dev.wcd) :
    KeepsTime DeviceProfile.wcd d s (s.closed x dev' l ev) :=
  keepsTime_of_insert hs.profile rfl hwcd

/-- A message keeps the working times. -/
theorem keepsTime_of_message (m : XCMPMessageOf A P) :
    KeepsTime DeviceProfile.wcd d s (handleMessage env s m) := by
  cases m with
  | newOrder client order => exact keepsTime_of_lookup rfl
  | orderAccept client device => exact keepsTime_of_lookup rfl
  | orderReject c x onoff =>
    change KeepsTime _ d s ((onReject env c x onoff).exec s)
    rcases onReject_exec env s c x onoff with hsame | ⟨o, dev, hs, hfee | ⟨l, -, hclosed⟩⟩
    · rw [hsame]
      exact keepsTime_of_lookup rfl
    · rw [hfee]
      exact keepsTime_of_lookup rfl
    · rw [hclosed]
      exact keepsTime_of_closed hs rfl
  | orderDone c x onoff =>
    change KeepsTime _ d s ((onDone env c x onoff).exec s)
    rcases onDone_exec env s c x onoff with hsame | ⟨o, dev, l₁, hs, -, hfee | ⟨l, -, hclosed⟩⟩
    · rw [hsame]
      exact keepsTime_of_lookup rfl
    · rw [hfee]
      exact keepsTime_of_lookup rfl
    · rw [hclosed]
      exact keepsTime_of_closed hs rfl

omit [ReservableCurrency L A] in
/-- Reaping an account keeps the working times. -/
theorem keepsTime_of_killed (who : A) :
    KeepsTime DeviceProfile.wcd d s ((onKilledAccount who).exec s) := by
  obtain ⟨m, hrun, hm⟩ := onKilledAccount_run s who
  rw [Dispatch.exec, hrun]
  by_cases hd : d = who
  · subst hd
    intro w hw
    have hlookup : m.lookup d = (s.device.lookup d).bind afterKill := (hm d).trans (if_pos rfl)
    rw [workingTime] at hw ⊢
    rw [hlookup] at hw
    cases hdev : s.device.lookup d with
    | none =>
      rw [hdev] at hw
      cases hw
    | some dev =>
      rw [hdev, Option.bind_some, afterKill] at hw
      split_ifs at hw
      · cases hw
      · exact hw
  · exact keepsTime_of_lookup ((hm d).trans (if_neg hd))

variable [Codec A] [Codec P]

/-- A working time after an entry was there before or is declared by it. -/
theorem declared_of_enter (s : State A P L) (e : Env × Entry A P) (w : Moment)
    (hw : (enter s e).workingTime DeviceProfile.wcd d = some w) :
    s.workingTime DeviceProfile.wcd d = some w ∨ Declares d w s e := by
  obtain ⟨env, entry⟩ := e
  suffices h : KeepsTime DeviceProfile.wcd d s (entry.exec env s) ∨ Declares d w s (env, entry) from
    h.imp_left fun hkeeps => hkeeps w hw
  cases entry with
  | batch items maxWeight =>
    exact .inl (handleXcmpMessages_induction (R := KeepsTime DeviceProfile.wcd d)
      (fun s => keepsTime_of_lookup rfl) KeepsTime.trans (fun s m => keepsTime_of_message m) items
      maxWeight s)
  | call op =>
    cases op with
    | test origin =>
      obtain ⟨r, sent, hrun⟩ := test_run env origin s
      change KeepsTime _ d s ((test env origin).exec s) ∨ _
      rw [Dispatch.exec, hrun]
      exact .inl (keepsTime_of_lookup rfl)
    | order origin b =>
      change KeepsTime _ d s ((order env origin b).exec s) ∨ _
      rcases order_exec env s origin b with
        hsame | ⟨who, dev, l₁, hs, -, hpenalty | ⟨l₂, -, hrun⟩⟩
      · rw [hsame]
        exact .inl (keepsTime_of_lookup rfl)
      · rw [hpenalty]
        exact .inl (keepsTime_of_lookup rfl)
      · rw [Dispatch.exec, hrun]
        exact .inl (keepsTime_of_insert hs.profile rfl rfl)
    | cancel origin x =>
      change KeepsTime _ d s ((cancel env origin x).exec s) ∨ _
      rcases cancel_exec env s x origin with hsame | ⟨o, dev, hs, hfee | ⟨l, -, hclosed⟩⟩
      · rw [hsame]
        exact .inl (keepsTime_of_lookup rfl)
      · rw [hfee]
        exact .inl (keepsTime_of_lookup rfl)
      · rw [hclosed]
        exact .inl (keepsTime_of_closed hs.holds rfl)
    | register origin paraid penalty wcd onoff =>
      change (Dispatch.exec (register origin paraid penalty wcd onoff) s).workingTime
        DeviceProfile.wcd d = some w at hw
      change KeepsTime _ d s ((register origin paraid penalty wcd onoff).exec s) ∨ _
      rcases register_exec s onoff origin paraid penalty wcd with
        hsame | ⟨id, rfl, hid, hwritten⟩
      · rw [hsame]
        exact .inl (keepsTime_of_lookup rfl)
      · rw [hwritten] at hw ⊢
        by_cases hd : d = id
        · subst hd
          rw [workingTime, Finmap.lookup_insert] at hw
          obtain rfl := Option.some.inj hw
          exact .inr ⟨hid, paraid, penalty, onoff, rfl⟩
        · exact .inl (keepsTime_of_lookup (Finmap.lookup_insert_of_ne _ hd))
    | onAccept who x => exact .inl (keepsTime_of_lookup rfl)
    | onReject who x onoff =>
      exact .inl (keepsTime_of_message (.orderReject who x onoff : XCMPMessageOf A P))
    | onDone who x onoff =>
      exact .inl (keepsTime_of_message (.orderDone who x onoff : XCMPMessageOf A P))
    | onKilledAccount who => exact .inl (keepsTime_of_killed who)

/-- A working time has stood since the registration that declared it. -/
theorem declared_since {ledger : L} {es : List (Env × Entry A P)} {w : Moment}
    (hw : (after enter (Storage.init ledger : State A P L) es).workingTime DeviceProfile.wcd d =
      some w) :
    Since enter (Declares d w) (fun _ t => t.workingTime DeviceProfile.wcd d = some w)
      (Storage.init ledger : State A P L) es :=
  since_of_now (workingTime_init ledger d w) (fun s e => declared_of_enter s e w) hw

/-! ### The check -/

/-- Whatever enters the pallet, the orders it stores have passed the check. -/
theorem timeChecked_of_exec (env : Env) (entry : Entry A P) (s : State A P L) :
    TimeChecked DeviceProfile.wcd env.now s (entry.exec env s) := by
  intro d o hd
  cases fate_of_exec env entry s d with
  | cleared hc =>
    cases hc with
    | kept ho _ => exact absurd (ho.symm.trans hd.stored) hd.new
    | freed hgone _ => exact absurd (Finmap.mem_of_lookup_eq_some hd.stored) hgone
  | killed _ ho _ => exact absurd (ho.symm.trans hd.stored) hd.new
  | placed o' dev hp ho _ =>
    obtain rfl := Option.some.inj (ho.symm.trans hd.stored)
    obtain ⟨who, b, -, rfl, rfl, hok⟩ := hp.called
    obtain ⟨who', dev', l₁, l₂, ha, -⟩ := order_ok (Prod.ext hok rfl)
    exact ⟨dev'.wcd, by rw [workingTime, ha.profile]; rfl, ha.enough⟩

/-- Along a run from an empty storage, every order that is stored leaves its device the working time
exactly when the sum of the check fits for every order that is stored. -/
theorem timeLeft_along_iff (ledger : L) (es : List (Env × Entry A P)) :
    Along enter (fun s e => TimeLeft DeviceProfile.wcd e.1.now s (enter s e))
        (Storage.init ledger : State A P L) es ↔
      Along enter (fun s e => TimeFits DeviceProfile.wcd e.1.now s (enter s e))
        (Storage.init ledger : State A P L) es :=
  along_congr (fun s e => (timeChecked_of_exec e.1 e.2 s).timeLeft_iff) _ es

end XcmAutoBank.Xchange
