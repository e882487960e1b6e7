import XcmAutoBank.System.Copies
import XcmAutoBank.Foundation.History

/-!
# Agreement when nothing is in flight

What the transport refuses or loses, and what a chain refuses when it is delivered, is gone without
notice.  When nothing that concerns a device goes missing in this way and the client chain cancels
nothing, no order for the device is lost between the chains: exactly one copy of every open order
is under way.  As soon as nothing for the device is in flight, both chains store the same order for
it, or none (`agree_of_lossless_run`).
-/

namespace XcmAutoBank.System

variable {A P LA LB : Type} [DecidableEq A] [Codec A] [Codec P]

/-- Nothing that concerns the device goes missing in a step: its new order and the message that
closes it are taken by the transport, a delivered order is stored, a delivered message closes the
order, and no message about the device is lost. -/
def Lossless (paras : Paras) (d : A) (w : World A P LA LB) (action : Action A P)
    (w' : World A P LA LB) : Prop :=
  match action with
  | .clock | .transfer => True
  | .client _ => d ∉ w.client.orders → d ∈ w'.client.orders →
    ∀ m ∈ w'.client.sent.drop w.client.sent.length, m.accepted = true ∧ m.dest = paras.service
  | .service _ => d ∈ w.service.orders → d ∉ w'.service.orders →
    ∀ m ∈ w'.service.sent.drop w.service.sent.length, m.accepted = true
  | .deliverRequest i => (w.requests[i]?.bind (Request.copy P d)).isSome →
    (w'.storedCopy paras d).isSome
  | .deliverAnswer i => (w.answers[i]?.bind (Answer.copy d)).isSome → d ∉ w'.client.orders
  | .loseRequest i => w.requests[i]?.bind (Request.copy P d) = none
  | .loseAnswer i => w.answers[i]?.bind (Answer.copy d) = none

/-- A run of the two chains from any balances, with nothing stored or in flight at the start, in
which no order is cancelled on the client chain and nothing that concerns the device goes
missing. -/
def LosslessRun [ReservableCurrency LA A] [ReservableCurrency LB A] (paras : Paras) (d : A)
    (w : World A P LA LB) : Prop :=
  ∃ clientNow serviceNow clientLedger serviceLedger, Relation.ReflTransGen
    (fun w w' => ∃ action : Action A P, (∀ origin x, action ≠ .client (.cancel origin x)) ∧
      Step paras w action w' ∧ Lossless paras d w action w')
    (World.init clientNow serviceNow clientLedger serviceLedger) w

/-- No order for the device and no message that closes one is in flight. -/
structure World.Silent (w : World A P LA LB) (d : A) : Prop where
  requests : ∀ r ∈ w.requests, r.copy P d = none
  answers : ∀ a ∈ w.answers, a.copy d = none

variable {paras : Paras} {w w' : World A P LA LB} {d : A} {c : Copy A P}

/-! ### Where a copy is -/

/-- A copy is in flight to the service chain, stored there or in flight back. -/
theorem mem_copies : c ∈ w.copies paras d ↔ (∃ r ∈ w.requests, r.copy P d = some c) ∨
    w.storedCopy paras d = some c ∨ ∃ a ∈ w.answers, a.copy d = some c := by
  simp only [World.copies, List.mem_append, List.mem_filterMap, Option.mem_toList, or_assoc]

/-- What is in flight besides one element is in flight without it. -/
theorem mem_erased_of_mem {α : Type} {pre post : List α} {x y : α} (hy : y ∈ pre ++ x :: post)
    (hne : y ≠ x) : y ∈ pre ++ post := by
  rcases List.mem_append.mp hy with h | h
  · exact List.mem_append_left _ h
  · rcases List.mem_cons.mp h with heq | h
    · exact absurd heq hne
    · exact List.mem_append_right _ h

omit [Codec A] [Codec P] in
/-- A stored copy is an order of the client chain. -/
theorem storedCopy_eq_some : w.storedCopy paras d = some c ↔
    ∃ o, w.service.orders.lookup d = some o ∧ o.paraid = paras.client ∧ c = .stored o := by
  unfold World.storedCopy
  cases ho : w.service.orders.lookup d with
  | none => simp
  | some o =>
    constructor
    · intro h
      dsimp only at h
      split_ifs at h with hparaid
      exact ⟨o, rfl, hparaid, (Option.some.inj h).symm⟩
    · rintro ⟨o', ho', hparaid, rfl⟩
      obtain rfl := Option.some.inj ho'
      exact if_pos hparaid

/-- A message that the transport took is sent to its destination. -/
theorem outgoing_of_accepted {m : Sent} {sent : List Sent} (h : m.accepted = true) :
    outgoing m.dest sent (sent ++ [m]) = [m.message.call] := by
  rw [outgoing_append, List.filter_cons_of_pos (by simp [h])]
  rfl

section Lawful

variable [LawfulCodec A] [LawfulCodec P]

/-- The bytes of a new order are a copy for its device. -/
theorem Request.copy_newOrder {r : Request A} {client : A} {b : OrderBaseOf A P}
    (h : r.data = Codec.encode (.newOrder client b : XCMPMessageOf A P)) :
    r.copy P b.device = some (.requested client b) := by
  simp [Request.copy, h, readMessage_encode]

/-- The bytes of a closing message are a copy for its device. -/
theorem Answer.copy_message {a : Answer A P} {client : A} {v : Verdict} {onoff : Bool}
    (h : a.data = Codec.encode (v.message client d onoff : XCMPMessageOf A P)) :
    a.copy d = some (.closing client) := by
  cases v <;> simp [Answer.copy, Verdict.message, h, readMessage_encode]

end Lawful

/-! ### One step -/

section Steps

/-- An order that the client chain stores and the transport takes is in flight. -/
theorem copy_of_client [LawfulCodec A] [LawfulCodec P] {s' : Xchange.State A P LA}
    (h : Xchange.Effect w.client s') (hfresh : d ∉ w.client.orders) (hnew : d ∈ s'.orders)
    (htaken : ∀ m ∈ s'.sent.drop w.client.sent.length,
      m.accepted = true ∧ m.dest = paras.service) :
    ∃ c, c ∈ (w.afterClient paras s').copies paras d := by
  cases h with
  | keeps ms hsent hquiet horders =>
    obtain ⟨o, ho⟩ := Finmap.mem_iff.mp hnew
    rcases horders d with hkept | hnone
    · exact absurd (Finmap.mem_of_lookup_eq_some (hkept.symm.trans ho)) hfresh
    · rw [hnone] at ho
      cases ho
  | places who b dest result hfree horders hsent =>
    have hd : d = b.device := by
      by_contra hne
      rw [horders, Finmap.mem_insert] at hnew
      exact hnew.elim hne hfresh
    subst hd
    have haccepted := htaken _ (by rw [hsent, List.drop_left]; exact List.mem_singleton_self _)
    have hout : outgoing paras.service w.client.sent s'.sent =
        [Codec.encode (.newOrder who b : XCMPMessageOf A P)] := by
      rw [hsent, ← haccepted.2]
      exact outgoing_of_accepted haccepted.1
    have hflight : ∃ r ∈ (w.afterClient paras s').requests,
        r.data = Codec.encode (.newOrder who b : XCMPMessageOf A P) :=
      ⟨_, List.mem_append_right _ (List.mem_map_of_mem (hout ▸ List.mem_singleton_self _)), rfl⟩
    obtain ⟨r, hr, hdata⟩ := hflight
    exact ⟨_, mem_copies.mpr (.inl ⟨r, hr, Request.copy_newOrder hdata⟩)⟩

omit [Codec A] [Codec P] in
/-- A stored copy stays stored when its order stays. -/
theorem storedCopy_congr (horder : w'.service.orders.lookup d = w.service.orders.lookup d) :
    w'.storedCopy paras d = w.storedCopy paras d := by
  simp only [World.storedCopy, horder]

/-- A copy that is stored when a dispatchable of the service chain is called stays stored, or the
message that closes the order is in flight. -/
theorem copy_of_service [LawfulCodec A] [LawfulCodec P] {op : Service.Op A P}
    {s' : Service.State A P LB} {records : List (Record A P)}
    (h : Service.Effect paras.service op w.service s') (hc : w.storedCopy paras d = some c)
    (htaken : d ∉ s'.orders → ∀ m ∈ s'.sent.drop w.service.sent.length, m.accepted = true) :
    ∃ c, c ∈ (w.afterService paras s' w.held records).copies paras d := by
  obtain ⟨o, ho, hparaid, rfl⟩ := storedCopy_eq_some.mp hc
  have hmem : d ∈ w.service.orders := Finmap.mem_of_lookup_eq_some ho
  have kept (hkept : s'.orders.lookup d = w.service.orders.lookup d) :
      ∃ c, c ∈ (w.afterService paras s' w.held records).copies paras d :=
    ⟨_, mem_copies.mpr (.inr (.inl ((storedCopy_congr hkept).trans hc)))⟩
  cases h with
  | keeps ms hsent haccept horders => exact kept (by rw [horders])
  | stores x o' ms hsent haccept hlocal hfresh horders =>
    have hne : d ≠ x := by
      rintro rfl
      exact hfresh hmem
    exact kept (by rw [horders, Finmap.lookup_insert_of_ne _ hne])
  | closesLocal x o' ho' hlocal horders hsent =>
    have hne : d ≠ x := by
      rintro rfl
      obtain rfl := Option.some.inj (ho.symm.trans ho')
      exact paras.distinct (hparaid.symm.trans hlocal)
    exact kept (by rw [horders, Finmap.lookup_erase_ne hne])
  | closesRemote x o' onoff result hdevice ho' hremote horders hsent =>
    by_cases hne : d = x
    · subst hne
      obtain rfl := Option.some.inj (ho.symm.trans ho')
      have hgone : d ∉ s'.orders := by simp [horders]
      have haccepted := htaken hgone _
        (by rw [hsent, List.drop_left]; exact List.mem_singleton_self _)
      have hout : outgoing paras.client w.service.sent s'.sent =
          [Codec.encode (op.verdict.message o.client d onoff : XCMPMessageOf A P)] := by
        rw [hsent, ← hparaid]
        exact outgoing_of_accepted haccepted
      have hflight : ∃ a ∈ (w.afterService paras s' w.held records).answers, a.data =
          Codec.encode (op.verdict.message o.client d onoff : XCMPMessageOf A P) :=
        ⟨_, List.mem_append_right _ (List.mem_map_of_mem (hout ▸ List.mem_singleton_self _)), rfl⟩
      obtain ⟨a, ha, hdata⟩ := hflight
      exact ⟨_, mem_copies.mpr (.inr (.inr ⟨a, ha, Answer.copy_message hdata⟩))⟩
    · exact kept (by rw [horders, Finmap.lookup_erase_ne hne])

variable [LawfulCodec A] [LawfulCodec P] [ReservableCurrency LA A] [ReservableCurrency LB A]

omit [LawfulCodec A] [LawfulCodec P] [ReservableCurrency LA A] in
/-- A delivered message leaves the other copies where they are, and stores what it brings. -/
theorem copy_of_deliverRequest (env : Service.ServiceEnv A P) {pre post : List (Request A)}
    {r : Request A} {held : A → ℕ} {records : List (Record A P)}
    (hflight : w.requests = pre ++ r :: post) (hc : c ∈ w.copies paras d)
    (hstored : (r.copy P d).isSome →
      (({ w with requests := pre ++ post }.afterService paras
        (handleRequest paras env r.data w.service) held records).storedCopy paras d).isSome) :
    ∃ c, c ∈ ({ w with requests := pre ++ post }.afterService paras
      (handleRequest paras env r.data w.service) held records).copies paras d := by
  cases hr : r.copy P d with
  | some c' =>
    obtain ⟨c'', hc''⟩ := Option.isSome_iff_exists.mp (hstored (by rw [hr]; rfl))
    exact ⟨c'', mem_copies.mpr (.inr (.inl hc''))⟩
  | none =>
    refine ⟨c, mem_copies.mpr ?_⟩
    rcases mem_copies.mp hc with ⟨r', hr', hcopy⟩ | hstored | ⟨a, ha, hcopy⟩
    · have hne : r' ≠ r := by
        rintro rfl
        rw [hr] at hcopy
        cases hcopy
      exact .inl ⟨r', mem_erased_of_mem (hflight ▸ hr') hne, hcopy⟩
    · have hmem : d ∈ w.service.orders := by
        obtain ⟨o, ho, -, -⟩ := storedCopy_eq_some.mp hstored
        exact Finmap.mem_of_lookup_eq_some ho
      have hkept : (handleRequest paras env r.data w.service).orders.lookup d =
          w.service.orders.lookup d := by
        rcases handleRequest_cases paras env r.data w.service with
          ⟨horders, -⟩ | ⟨client, b, ms, -, hfresh, horders, -, -⟩
        · rw [horders]
        · have hne : d ≠ b.device := by
            rintro rfl
            exact hfresh hmem
          rw [horders, Finmap.lookup_insert_of_ne _ hne]
      exact .inr (.inl ((storedCopy_congr hkept).trans hstored))
    · exact .inr (.inr ⟨a, List.mem_append_left _ ha, hcopy⟩)

/-- A step that loses nothing of the device's keeps a copy of its order under way. -/
theorem copy_of_step {action : Action A P} (h : Step paras w action w')
    (hlossless : Lossless paras d w action w')
    (hw : d ∈ w.client.orders → ∃ c, c ∈ w.copies paras d) (ho : d ∈ w'.client.orders) :
    ∃ c, c ∈ w'.copies paras d := by
  cases h with
  | clock => exact hw ho
  | transfer => exact hw ho
  | client env op hnow hop =>
    by_cases hmem : d ∈ w.client.orders
    · obtain ⟨c, hc⟩ := hw hmem
      refine ⟨c, mem_copies.mpr ?_⟩
      rcases mem_copies.mp hc with ⟨r, hr, hcopy⟩ | hrest
      · exact .inl ⟨r, List.mem_append_left _ hr, hcopy⟩
      · exact .inr hrest
    · exact copy_of_client (Xchange.effect_of_call hop) hmem ho (hlossless hmem ho)
  | service env op hnow hop =>
    obtain ⟨c, hc⟩ := hw ho
    rcases mem_copies.mp hc with ⟨r, hr, hcopy⟩ | hstored | ⟨a, ha, hcopy⟩
    · exact ⟨c, mem_copies.mpr (.inl ⟨r, hr, hcopy⟩)⟩
    · have hmem : d ∈ w.service.orders := by
        obtain ⟨o, ho, -, -⟩ := storedCopy_eq_some.mp hstored
        exact Finmap.mem_of_lookup_eq_some ho
      exact copy_of_service (Service.effect_of_call hop) hstored (hlossless hmem)
    · exact ⟨c, mem_copies.mpr (.inr (.inr ⟨a, List.mem_append_left _ ha, hcopy⟩))⟩
  | deliverRequest env pre post r hnow hflight =>
    obtain ⟨c, hc⟩ := hw ho
    refine copy_of_deliverRequest env hflight hc fun hsome => hlossless ?_
    simpa [hflight] using hsome
  | deliverAnswer env pre post a hnow hflight =>
    have hmem : d ∈ w.client.orders := by
      rcases (handleAnswer_cases paras env a.data w.client).2 d with hkept | hnone
      · rw [← Finmap.lookup_isSome] at ho ⊢
        rwa [← hkept]
      · exact absurd ho (Finmap.lookup_eq_none.mp hnone)
    -- the message did not close the order, so it is not about the device
    have hother : a.copy d = none := by
      by_contra hsome
      refine hlossless ?_ ho
      simpa [hflight, Option.isSome_iff_ne_none] using hsome
    obtain ⟨c, hc⟩ := hw hmem
    refine ⟨c, mem_copies.mpr ?_⟩
    rcases mem_copies.mp hc with ⟨r, hr, hcopy⟩ | hstored | ⟨a', ha', hcopy⟩
    · exact .inl ⟨r, List.mem_append_left _ hr, hcopy⟩
    · exact .inr (.inl hstored)
    · have hne : a' ≠ a := by
        rintro rfl
        rw [hother] at hcopy
        cases hcopy
      exact .inr (.inr ⟨a', mem_erased_of_mem (hflight ▸ ha') hne, hcopy⟩)
  | loseRequest pre post r hflight =>
    have hother : r.copy P d = none := by simpa [Lossless, hflight] using hlossless
    obtain ⟨c, hc⟩ := hw ho
    refine ⟨c, mem_copies.mpr ?_⟩
    rcases mem_copies.mp hc with ⟨r', hr', hcopy⟩ | hrest
    · have hne : r' ≠ r := by
        rintro rfl
        rw [hother] at hcopy
        cases hcopy
      exact .inl ⟨r', mem_erased_of_mem (hflight ▸ hr') hne, hcopy⟩
    · exact .inr hrest
  | loseAnswer pre post a hflight =>
    have hother : a.copy d = none := by simpa [Lossless, hflight] using hlossless
    obtain ⟨c, hc⟩ := hw ho
    refine ⟨c, mem_copies.mpr ?_⟩
    rcases mem_copies.mp hc with ⟨r, hr, hcopy⟩ | hstored | ⟨a', ha', hcopy⟩
    · exact .inl ⟨r, hr, hcopy⟩
    · exact .inr (.inl hstored)
    · have hne : a' ≠ a := by
        rintro rfl
        rw [hother] at hcopy
        cases hcopy
      exact .inr (.inr ⟨a', mem_erased_of_mem (hflight ▸ ha') hne, hcopy⟩)

/-! ### Runs -/

omit [LawfulCodec A] [LawfulCodec P] in
/-- A run in which nothing goes missing is a run without a cancellation. -/
theorem LosslessRun.uncancelled (h : LosslessRun paras d w) : Uncancelled paras w := by
  obtain ⟨clientNow, serviceNow, clientLedger, serviceLedger, hrun⟩ := h
  refine ⟨clientNow, serviceNow, clientLedger, serviceLedger,
    Relation.ReflTransGen.mono ?_ _ _ hrun⟩
  rintro w w' ⟨action, hcancel, hstep, -⟩
  exact ⟨action, hcancel, hstep⟩

omit [LawfulCodec A] [LawfulCodec P] in
/-- A run in which nothing goes missing goes on with moves that lose nothing. -/
theorem losslessRun_play {moves : List (Move A P)} (h : LosslessRun paras d w)
    (hmoves : History.Along (World.move paras) (fun w m =>
      (∀ origin x, m.action ≠ .client (.cancel origin x)) ∧
        Lossless paras d w m.action (w.move paras m)) w moves) :
    LosslessRun paras d (w.play paras moves) := by
  induction moves generalizing w with
  | nil => exact h
  | cons m moves ih =>
    obtain ⟨⟨hcancel, hlossless⟩, hrest⟩ := hmoves
    refine ih ?_ hrest
    rcases World.move_cases paras w m with hmove | hstep
    · rw [hmove]
      exact h
    · obtain ⟨clientNow, serviceNow, clientLedger, serviceLedger, hrun⟩ := h
      exact ⟨clientNow, serviceNow, clientLedger, serviceLedger,
        hrun.tail ⟨m.action, hcancel, hstep, hlossless⟩⟩

/-- In a run in which nothing goes missing a copy of every open order is under way. -/
theorem copy_of_losslessRun (h : LosslessRun paras d w) (ho : d ∈ w.client.orders) :
    ∃ c, c ∈ w.copies paras d := by
  obtain ⟨clientNow, serviceNow, clientLedger, serviceLedger, hrun⟩ := h
  induction hrun with
  | refl => exact absurd ho Finmap.notMem_empty
  | tail _ hstep ih =>
    obtain ⟨action, -, hstep, hlossless⟩ := hstep
    exact copy_of_step hstep hlossless ih ho

/-- In every run without a cancellation in which nothing that concerns a device goes missing, one
copy of the order for the device is under way when the client chain stores an order for it, and none
otherwise.  When nothing for the device is in flight, the service chain stores an order of the
client chain for it exactly when the client chain does, and it is the same order. -/
theorem agree_of_lossless_run (h : LosslessRun paras d w) :
    (w.copies paras d).length = (if d ∈ w.client.orders then 1 else 0) ∧
      (w.Silent d →
        (∀ o, w.client.orders.lookup d = some o → ∃ o', w.service.orders.lookup d = some o' ∧
          o'.paraid = paras.client ∧ Copy.Of o (.stored o')) ∧
        ∀ o', w.service.orders.lookup d = some o' → o'.paraid = paras.client →
          ∃ o, w.client.orders.lookup d = some o ∧ Copy.Of o (.stored o')) := by
  obtain ⟨hsingle, hlabel⟩ := single_of_uncancelled d h.uncancelled
  have hle : (w.copies paras d).length ≤ 1 := (length_copies_le hlabel).trans hsingle.length_le
  have hof : ∀ c ∈ w.copies paras d, ∃ o, w.client.orders.lookup d = some o ∧ c.Of o := by
    intro c hc
    obtain ⟨i, hi, hof⟩ := item_of_mem_copies hlabel hc
    obtain ⟨o, ho, rfl⟩ := Option.map_eq_some_iff.mp (hsingle.issued i hi)
    exact ⟨o, ho, hof o rfl⟩
  refine ⟨?_, fun hsilent => ⟨fun o ho => ?_, fun o' ho' hparaid => ?_⟩⟩
  · split_ifs with hmem
    · obtain ⟨c, hc⟩ := copy_of_losslessRun h hmem
      have hpos := List.length_pos_of_mem hc
      omega
    · rw [List.length_eq_zero_iff, List.eq_nil_iff_forall_not_mem]
      intro c hc
      obtain ⟨o, ho, -⟩ := hof c hc
      exact hmem (Finmap.mem_of_lookup_eq_some ho)
  · obtain ⟨c, hc⟩ := copy_of_losslessRun h (Finmap.mem_of_lookup_eq_some ho)
    obtain ⟨o₁, ho₁, hcopy⟩ := hof c hc
    obtain rfl := Option.some.inj (ho.symm.trans ho₁)
    rcases mem_copies.mp hc with ⟨r, hr, hflight⟩ | hstored | ⟨a, ha, hflight⟩
    · cases (hsilent.requests r hr).symm.trans hflight
    · obtain ⟨o', ho', hparaid, rfl⟩ := storedCopy_eq_some.mp hstored
      exact ⟨o', ho', hparaid, hcopy⟩
    · cases (hsilent.answers a ha).symm.trans hflight
  · exact hof _ (mem_copies.mpr (.inr (.inl (storedCopy_eq_some.mpr ⟨o', ho', hparaid, rfl⟩))))

end Steps

/-- Device 2 registers on both chains, and an order for it reaches the service chain. -/
def orderArrived : World UInt64 UInt64 (Balances UInt64) (Balances UInt64) :=
  (World.init 0 0 (Balances.uniform 100) (Balances.uniform 100)).play twoChains
    [.client (.register (.signed 2) 2000 10 20 true) trivial,
      .service (.register (.signed 2) 10 20 true) trivial,
      .client (.order (.signed 1) ⟨100, 7, 30, 2⟩) trivial,
      .passRequest .busy]

/-- Nothing is in flight then, and both chains store the order. -/
theorem agree_of_lossless_run_arrived :
    ∃ o', orderArrived.service.orders.lookup 2 = some o' ∧ o'.paraid = 2001 ∧
      Copy.Of (⟨100, 7, 30, 1, 0⟩ : OrderOf UInt64 UInt64) (.stored o') := by
  have hrun : LosslessRun twoChains 2 orderArrived :=
    losslessRun_play ⟨0, 0, _, _, .refl⟩
      ⟨⟨by simp [Move.action], fun _ h => absurd h (by decide)⟩,
        ⟨by simp [Move.action], fun h => absurd h (by decide)⟩,
        ⟨by simp [Move.action], fun _ _ => by decide⟩,
        ⟨by simp [Move.action], fun _ => by decide⟩, trivial⟩
  have hsilent : orderArrived.Silent 2 := ⟨by decide, by decide⟩
  exact ((agree_of_lossless_run hrun).2 hsilent).1 _ (by decide)

end XcmAutoBank.System
