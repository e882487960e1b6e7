import XcmAutoBank.Xchange.Entry

/-!
# Orders and profiles on the client chain

A stored order was placed at some moment of the run, and from then on the profile of its device has
carried the terms of that moment; only the reaping of its account has retagged it
(`placed_since`).  So a device with an order cannot be ordered again or registered anew, and a
settlement always finds a profile.
-/

namespace XcmAutoBank.Xchange

open ReservableCurrency Storage History

variable {A P L : Type} [DecidableEq A] [ReservableCurrency L A] [Codec A] [Codec P]

/-- The storage after one entry in its environment. -/
def enter (s : State A P L) (e : Env × Entry A P) : State A P L := e.2.exec e.1 s

/-- The order is placed on a device with the profile. -/
def PlacedOn (d : A) (o : OrderOf A P) (dev : DeviceProfile) (s : State A P L)
    (e : Env × Entry A P) : Prop :=
  Places e.1 e.2 s d o dev

/-- The account was reaped in one of the entries. -/
def Killed (d : A) (es : List (Env × Entry A P)) : Prop :=
  ∃ env, (env, .call (.onKilledAccount d)) ∈ es

/-- The order is stored, and the profile of its device has the terms of another one; it is busy, or
its account was reaped. -/
def OnTerms (d : A) (o : OrderOf A P) (dev₀ : DeviceProfile) (es : List (Env × Entry A P))
    (s : State A P L) : Prop :=
  ∃ dev, s.Holds d o dev ∧
    (dev.penalty = dev₀.penalty ∧ dev.wcd = dev₀.wcd ∧ dev.paraId = dev₀.paraId) ∧
    (dev.state = .busy ∨ dev.state = .timewait) ∧ (dev.state = .timewait → Killed d es)

/-- A device can neither be ordered nor registered. -/
structure Bound (s : State A P L) (d : A) : Prop where
  order : ∀ env origin (b : OrderBaseOf A P), b.device = d →
    ∃ e, (order env origin b).run s = (.error e, s)
  register : ∀ paraid penalty wcd onoff,
    ∃ e, (register (.signed d) paraid penalty wcd onoff).run s = (.error e, s)

/-- No settlement and no cancel for a device fails for want of its profile. -/
structure ProfileFound (s : State A P L) (d : A) : Prop where
  onReject : ∀ env who onoff, ((onReject env who d onoff).run s).1 ≠ .error (.module .noDevice)
  onDone : ∀ env who onoff, ((onDone env who d onoff).run s).1 ≠ .error (.module .noDevice)
  cancel : ∀ env origin, ((cancel env origin d).run s).1 ≠ .error (.module .noDevice)

variable {env : Env} {s s' : State A P L} {d : A} {o : OrderOf A P} {dev dev₀ : DeviceProfile}
  {entry : Entry A P} {es : List (Env × Entry A P)} {ledger : L}

/-! ### One entry -/

omit [DecidableEq A] [Codec A] [Codec P] in
/-- An account reaped before stays reaped. -/
theorem Killed.concat (h : Killed d es) (e : Env × Entry A P) : Killed d (es ++ [e]) := by
  obtain ⟨env, hmem⟩ := h
  exact ⟨env, List.mem_append_left _ hmem⟩

/-- While its order stays stored, a device keeps its terms. -/
theorem onTerms_of_fate (h : OnTerms d o dev₀ es s) (hf : Fate env entry s s' d)
    (ho' : d ∈ s'.orders) : OnTerms d o dev₀ (es ++ [(env, entry)]) s' := by
  obtain ⟨dev, hs, hterms, hstate, hkilled⟩ := h
  cases hf with
  | cleared hc =>
    cases hc with
    | kept ho hd =>
      exact ⟨dev, ⟨ho.trans hs.order, hd.trans hs.profile⟩, hterms, hstate,
        fun htimewait => (hkilled htimewait).concat _⟩
    | freed ho _ => exact absurd ho' ho
  | placed o' dev' hp _ _ => exact absurd (Finmap.mem_of_lookup_eq_some hs.order) hp.fresh
  | killed he ho hd =>
    have hoff : dev.state ≠ .off := by
      rcases hstate with hbusy | htimewait
      · simp [hbusy]
      · simp [htimewait]
    rw [hs.profile, Option.bind_some, afterKill, if_neg hoff] at hd
    exact ⟨_, ⟨ho.trans hs.order, hd⟩, hterms, .inr rfl, fun _ => ⟨env, by simp [he]⟩⟩

omit [ReservableCurrency L A] [Codec A] [Codec P] in
/-- An order is placed on the terms of the moment. -/
theorem onTerms_of_placed (ho : s'.orders.lookup d = some o)
    (hd : s'.device.lookup d = some { dev with state := .busy }) : OnTerms d o dev [] s' :=
  ⟨_, ⟨ho, hd⟩, ⟨rfl, rfl, rfl⟩, .inl rfl, fun htimewait => by cases htimewait⟩

/-- No entry accepts an order on the client chain. -/
theorem not_accepted_of_fate (h : ∀ dev, s.device.lookup d = some dev → dev.state ≠ .accepted)
    (hf : Fate env entry s s' d) :
    ∀ dev, s'.device.lookup d = some dev → dev.state ≠ .accepted := by
  intro dev hdev
  cases hf with
  | cleared hc =>
    cases hc with
    | kept _ hd => exact h dev (hd.symm.trans hdev)
    | freed _ hd =>
      rcases hd with hd | ⟨dev', hd, hstate⟩
      · exact h dev (hd.symm.trans hdev)
      · obtain rfl := Option.some.inj (hdev.symm.trans hd)
        rcases hstate with hstate | hstate <;> simp [hstate]
  | placed _ dev' _ _ hd =>
    obtain rfl := Option.some.inj (hdev.symm.trans hd)
    simp
  | killed _ _ hd =>
    rw [hd] at hdev
    obtain ⟨dev', -, hafter⟩ := Option.bind_eq_some_iff.mp hdev
    unfold afterKill at hafter
    split_ifs at hafter
    obtain rfl := Option.some.inj hafter
    simp

/-! ### What a stored order excludes -/

/-- A device with a stored order is bound. -/
theorem bound_of_mem (hd : d ∈ s.orders) : Bound s d where
  order env origin b hb := by
    refine order_refused ?_
    rintro ⟨who, dev, h⟩
    exact h.fresh (hb ▸ hd)
  register paraid penalty wcd onoff := by
    refine register_refused ?_ paraid penalty wcd onoff
    rintro ⟨id, hid, hfresh⟩
    obtain rfl := Origin.signed.inj hid
    exact hfresh hd

omit [Codec A] [Codec P] in
/-- A device whose order comes with a profile has its profile found. -/
theorem profileFound_of_holds (h : ∀ o, s.orders.lookup d = some o → ∃ dev, s.Holds d o dev) :
    ProfileFound s d := by
  cases ho : s.orders.lookup d with
  | none =>
    -- the missing order is reported first
    constructor
    · intro env who onoff
      simp [Xchange.onReject, ho]
    · intro env who onoff
      simp [Xchange.onDone, ho]
    · intro env origin
      cases origin <;> simp [Xchange.cancel, ensureSigned, ho]
  | some o =>
    obtain ⟨dev, hs⟩ := h o ho
    constructor
    · intro env who onoff
      rw [onReject_run hs]
      split <;> simp
    · intro env who onoff
      rw [onDone_run hs]
      split
      · simp
      · split <;> simp
    · intro env origin
      cases origin with
      | root => simp [Xchange.cancel, ensureSigned]
      | none => simp [Xchange.cancel, ensureSigned]
      | signed who =>
        by_cases hc : env.now < o.untilTime ∨ o.client ≠ who
        · simp [Xchange.cancel, ho, hc]
        · obtain ⟨hlate, hwho⟩ := not_or.mp hc
          obtain rfl := not_not.mp hwho
          rw [cancel_run ⟨hs, rfl, hlate⟩]
          split <;> simp

/-! ### Histories -/

/-- A stored order was placed at some moment, and has been stored on the terms of that moment since
then. -/
theorem onTerms_since (es : List (Env × Entry A P)) :
    ∀ d o, (after enter (Storage.init ledger) es).orders.lookup d = some o →
      ∃ dev₀, Since enter (PlacedOn d o dev₀) (OnTerms d o dev₀)
        (Storage.init ledger : State A P L) es := by
  induction es using List.reverseRecOn with
  | nil =>
    intro d o ho
    exact absurd ho (init_orders_ne ledger d o)
  | append_singleton es e ih =>
    intro d o ho
    let s : State A P L := after enter (Storage.init ledger) es
    have hafter : after enter (Storage.init ledger) (es ++ [e]) = e.2.exec e.1 s := after_concat
    rw [hafter] at ho
    have hf : Fate e.1 e.2 s (e.2.exec e.1 s) d := fate_of_exec e.1 e.2 s d
    by_cases hold : s.orders.lookup d = some o
    · obtain ⟨dev₀, hsince⟩ := ih d o hold
      exact ⟨dev₀, hsince.concat fun rest hterms =>
        onTerms_of_fate hterms hf (Finmap.mem_of_lookup_eq_some ho)⟩
    · -- the order was not there before, so this entry has placed it
      cases hf with
      | cleared hc =>
        cases hc with
        | kept ho' _ => exact absurd (ho'.symm.trans ho) hold
        | freed hgone _ => exact absurd (Finmap.mem_of_lookup_eq_some ho) hgone
      | killed _ ho' _ => exact absurd (ho'.symm.trans ho) hold
      | placed o' dev hp ho' hd =>
        obtain rfl := Option.some.inj (ho.symm.trans ho')
        refine ⟨dev, since_of_start hp ?_⟩
        rw [hafter]
        exact onTerms_of_placed ho hd

/-- No device of the client chain ever accepts an order. -/
theorem not_accepted_after (es : List (Env × Entry A P)) (d : A) :
    ∀ dev, (after enter (Storage.init ledger : State A P L) es).device.lookup d = some dev →
      dev.state ≠ .accepted := by
  induction es using List.reverseRecOn with
  | nil =>
    intro dev hdev
    exact absurd hdev (init_device_ne ledger d dev)
  | append_singleton es e ih =>
    rw [after_concat]
    exact not_accepted_of_fate ih (fate_of_exec e.1 e.2 _ d)

/-- After any entries from an empty storage: every stored order was placed on a device that has been
busy with it on the same terms since then, or was abandoned because its account was reaped since
then, and the device can neither be ordered nor registered; no settlement misses a profile; and no
device has accepted. -/
theorem placed_since (ledger : L) (es : List (Env × Entry A P)) (d : A) :
    (∀ o, (after enter (Storage.init ledger) es).orders.lookup d = some o →
      (∃ dev₀, Since enter (PlacedOn d o dev₀) (OnTerms d o dev₀)
        (Storage.init ledger : State A P L) es) ∧
      Bound (after enter (Storage.init ledger : State A P L) es) d) ∧
    ProfileFound (after enter (Storage.init ledger : State A P L) es) d ∧
    ∀ dev, (after enter (Storage.init ledger : State A P L) es).device.lookup d = some dev →
      dev.state ≠ .accepted := by
  refine ⟨fun o ho => ?_, profileFound_of_holds fun o ho => ?_, not_accepted_after es d⟩
  · exact ⟨onTerms_since es d o ho, bound_of_mem (Finmap.mem_of_lookup_eq_some ho)⟩
  · obtain ⟨dev₀, hsince⟩ := onTerms_since es d o ho
    obtain ⟨rest, dev, hs, -⟩ := hsince.now
    exact ⟨dev, hs⟩

end XcmAutoBank.Xchange
