import XcmAutoBank.Xchange.Handler
import XcmAutoBank.Service.Message
import XcmAutoBank.Common.Wire

/-!
# What bytes can do

The handlers take bytes from any sibling chain.  With canonical codecs of accounts and payloads the
bytes of an item can do one thing only: when they begin with the encoding of a message, the message
is handled, whatever follows; otherwise the batch ends there.  At most one encoding begins any
bytes, so nothing in an item is open to two readings, and a message that is cut short does nothing
(`acted_on_encodings`).
-/

namespace XcmAutoBank.System

open CanonicalCodec

variable {A P LA LB : Type}

/-- One item of a batch: the sender, the block it was sent in and its bytes. -/
abbrev Item := ParaId × RelayBlockNumber × List UInt8

variable [Codec A] [Codec P]

/-- Each item begins with the encoding of a message. -/
def BeginWith (items : List Item) (ms : List (XCMPMessageOf A P)) : Prop :=
  List.Forall₂ (fun item m => Codec.encode m <+: item.2.2) items ms

/-- The operations of items that each begin with the encoding of an order. -/
def BeginWithOrders (items : List Item) (ops : List (Service.Op A P)) : Prop :=
  List.Forall₂ (fun item op => ∃ client b, op = .newOrder item.1 client b ∧
    Codec.encode (.newOrder client b : XCMPMessageOf A P) <+: item.2.2) items ops

/-- What is left of a batch is nothing, and all the weight is returned; or it starts with an item
that no encoding of a kind begins, and none is. -/
def EndsAt (kind : XCMPMessageOf A P → Prop) (left : List Item) (weight maxWeight : Weight) :
    Prop :=
  (left = [] ∧ weight = maxWeight) ∨
    ∃ item rest, left = item :: rest ∧ (∀ m, kind m → ¬Codec.encode m <+: item.2.2) ∧ weight = 0

variable [DecidableEq A] [ReservableCurrency LA A] [ReservableCurrency LB A] [LawfulCodec A]
  [LawfulCodec P] [CanonicalCodec A] [CanonicalCodec P]

/-- The client chain handles the messages that its items begin with, up to an item that begins with
none. -/
theorem handled_as_messages (env : Env) (items : List Item) (maxWeight : Weight)
    (s : Xchange.State A P LA) :
    ∃ taken left ms, items = taken ++ left ∧ BeginWith taken ms ∧
      EndsAt (fun _ : XCMPMessageOf A P => True) left
        (Xchange.handleXcmpMessages env items maxWeight s).2 maxWeight ∧
      (Xchange.handleXcmpMessages env items maxWeight s).1 =
        ms.foldl (Xchange.handleMessage env) s := by
  induction items generalizing s with
  | nil => exact ⟨[], [], [], rfl, .nil, .inl ⟨rfl, rfl⟩, rfl⟩
  | cons item iter ih =>
    cases hdec : (Codec.decode item.2.2 : Option (XCMPMessageOf A P × List UInt8)) with
    | none =>
      rw [Xchange.handleXcmpMessages_undecodable hdec]
      exact ⟨[], item :: iter, [], rfl, .nil,
        .inr ⟨item, iter, rfl, fun m _ => decode_eq_none_iff.mp hdec m, rfl⟩, rfl⟩
    | some p =>
      obtain ⟨m, rest⟩ := p
      rw [Xchange.handleXcmpMessages_cons hdec]
      obtain ⟨taken, left, ms, hsplit, hbegin, hends, hstate⟩ := ih (Xchange.handleMessage env s m)
      refine ⟨item :: taken, left, m :: ms, by rw [hsplit]; rfl, .cons ?_ hbegin, hends, hstate⟩
      exact ⟨rest, (decode_eq_some_iff.mp hdec).symm⟩

/-- The service chain receives the orders that its items begin with, up to an item that begins with
none. -/
theorem received_as_orders (selfParaId : ParaId) (env : Service.ServiceEnv A P)
    (items : List Item) (maxWeight : Weight) (s : Service.State A P LB) :
    ∃ taken left ops, items = taken ++ left ∧ BeginWithOrders taken ops ∧
      EndsAt (fun m : XCMPMessageOf A P => ∃ client b, m = .newOrder client b) left
        (Service.handleXcmpMessages selfParaId env items maxWeight s).2 maxWeight ∧
      (Service.handleXcmpMessages selfParaId env items maxWeight s).1 =
        ops.foldl (fun s op => (op.call selfParaId env).exec s) s := by
  induction items generalizing s with
  | nil => exact ⟨[], [], [], rfl, .nil, .inl ⟨rfl, rfl⟩, rfl⟩
  | cons item iter ih =>
    obtain ⟨sender, sentAt, data⟩ := item
    have stop (h : ∀ client b, ¬Codec.encode (.newOrder client b : XCMPMessageOf A P) <+: data)
        (hrun : Service.handleXcmpMessages selfParaId env ((sender, sentAt, data) :: iter) maxWeight
          s = (s, 0)) :
        ∃ taken left ops, (sender, sentAt, data) :: iter = taken ++ left ∧
          BeginWithOrders taken ops ∧
          EndsAt (fun m : XCMPMessageOf A P => ∃ client b, m = .newOrder client b) left
            (Service.handleXcmpMessages selfParaId env ((sender, sentAt, data) :: iter) maxWeight
              s).2 maxWeight ∧
          (Service.handleXcmpMessages selfParaId env ((sender, sentAt, data) :: iter) maxWeight
            s).1 = ops.foldl (fun s op => (op.call selfParaId env).exec s) s := by
      rw [hrun]
      refine ⟨[], _, [], rfl, .nil, .inr ⟨_, iter, rfl, ?_, rfl⟩, rfl⟩
      rintro m ⟨client, b, rfl⟩
      exact h client b
    have other {m : XCMPMessageOf A P} {rest : List UInt8}
        (hdec : Codec.decode data = some (m, rest)) (hm : ∀ client b, m ≠ .newOrder client b)
        (client : A) (b : OrderBaseOf A P) :
        ¬Codec.encode (.newOrder client b : XCMPMessageOf A P) <+: data := by
      rintro ⟨tail, rfl⟩
      rw [LawfulCodec.decode_encode] at hdec
      exact hm client b (congrArg Prod.fst (Option.some.inj hdec)).symm
    cases hdec : (Codec.decode data : Option (XCMPMessageOf A P × List UInt8)) with
    | none =>
      refine stop (fun client b => decode_eq_none_iff.mp hdec _) ?_
      simp only [Service.handleXcmpMessages, hdec]
    | some p =>
      obtain ⟨m, rest⟩ := p
      cases m with
      | newOrder client b =>
        have hrun : Service.handleXcmpMessages selfParaId env ((sender, sentAt, data) :: iter)
            maxWeight s = Service.handleXcmpMessages selfParaId env iter maxWeight
              (((Service.Op.newOrder sender client b).call selfParaId env).exec s) := by
          simp only [Service.handleXcmpMessages, hdec]
          rfl
        rw [hrun]
        obtain ⟨taken, left, ops, hsplit, hbegin, hends, hstate⟩ := ih
          (((Service.Op.newOrder sender client b).call selfParaId env).exec s)
        refine ⟨_ :: taken, left, .newOrder sender client b :: ops, by rw [hsplit]; rfl,
          .cons ⟨client, b, rfl, ?_⟩ hbegin, hends, hstate⟩
        exact ⟨rest, (decode_eq_some_iff.mp hdec).symm⟩
      | orderAccept client device =>
        refine stop (other hdec fun _ _ h => by cases h) ?_
        simp only [Service.handleXcmpMessages, hdec]
      | orderReject client device onoff =>
        refine stop (other hdec fun _ _ h => by cases h) ?_
        simp only [Service.handleXcmpMessages, hdec]
      | orderDone client device onoff =>
        refine stop (other hdec fun _ _ h => by cases h) ?_
        simp only [Service.handleXcmpMessages, hdec]

omit [DecidableEq A] [CanonicalCodec A] [CanonicalCodec P] in
/-- At most one encoding begins any bytes. -/
theorem encoding_unique {m m' : XCMPMessageOf A P} {data : List UInt8}
    (h : Codec.encode m <+: data) (h' : Codec.encode m' <+: data) : m = m' := by
  obtain ⟨tail, rfl⟩ := h
  obtain ⟨tail', htail⟩ := h'
  have hread : some (m', tail') = some (m, tail) := by
    rw [← LawfulCodec.decode_encode m', ← LawfulCodec.decode_encode m, htail]
  exact (congrArg Prod.fst (Option.some.inj hread)).symm

/-- A message that is cut short ends the batch on both chains. -/
theorem handled_of_truncated (selfParaId : ParaId) (env : Service.ServiceEnv A P)
    (iter : List Item) (maxWeight : Weight) (s : Xchange.State A P LA) (t : Service.State A P LB)
    (sender : ParaId) (sentAt : RelayBlockNumber) {m : XCMPMessageOf A P} {data : List UInt8}
    (h : data <+: Codec.encode m) (hne : data ≠ Codec.encode m) :
    Xchange.handleXcmpMessages env.toEnv ((sender, sentAt, data) :: iter) maxWeight s = (s, 0) ∧
      Service.handleXcmpMessages selfParaId env ((sender, sentAt, data) :: iter) maxWeight t =
        (t, 0) := by
  have hdec : (Codec.decode data : Option (XCMPMessageOf A P × List UInt8)) = none :=
    decode_of_truncated h hne
  refine ⟨Xchange.handleXcmpMessages_undecodable hdec, ?_⟩
  simp only [Service.handleXcmpMessages, hdec]

/-- With canonical codecs, on both chains and for every batch of bytes from any sibling chains:
what a batch does is handle the messages whose encodings begin its items, one by one, up to an item
that no encoding of a message, on the service chain of an order, begins; all the weight is returned
when there is no such item, and none when there is.  At most one encoding begins any bytes, and a
message that is cut short ends the batch. -/
theorem acted_on_encodings (selfParaId : ParaId) (env : Service.ServiceEnv A P)
    (items : List Item) (maxWeight : Weight) (s : Xchange.State A P LA)
    (t : Service.State A P LB) :
    (∃ taken left ms, items = taken ++ left ∧ BeginWith taken ms ∧
      EndsAt (fun _ : XCMPMessageOf A P => True) left
        (Xchange.handleXcmpMessages env.toEnv items maxWeight s).2 maxWeight ∧
      (Xchange.handleXcmpMessages env.toEnv items maxWeight s).1 =
        ms.foldl (Xchange.handleMessage env.toEnv) s) ∧
    (∃ taken left ops, items = taken ++ left ∧ BeginWithOrders taken ops ∧
      EndsAt (fun m : XCMPMessageOf A P => ∃ client b, m = .newOrder client b) left
        (Service.handleXcmpMessages selfParaId env items maxWeight t).2 maxWeight ∧
      (Service.handleXcmpMessages selfParaId env items maxWeight t).1 =
        ops.foldl (fun t op => (op.call selfParaId env).exec t) t) ∧
    (∀ (m m' : XCMPMessageOf A P) data,
      Codec.encode m <+: data → Codec.encode m' <+: data → m = m') ∧
    ∀ (sender : ParaId) (sentAt : RelayBlockNumber) (m : XCMPMessageOf A P) data,
      data <+: Codec.encode m → data ≠ Codec.encode m →
      Xchange.handleXcmpMessages env.toEnv ((sender, sentAt, data) :: items) maxWeight s = (s, 0) ∧
        Service.handleXcmpMessages selfParaId env ((sender, sentAt, data) :: items) maxWeight t =
          (t, 0) :=
  ⟨handled_as_messages env.toEnv items maxWeight s,
    received_as_orders selfParaId env items maxWeight t, fun _ _ _ => encoding_unique,
    fun sender sentAt _ _ h hne =>
      handled_of_truncated selfParaId env items maxWeight s t sender sentAt h hne⟩

/-- What a batch with a message, some bytes behind it and half of another message does. -/
theorem acted_on_encodings_cut :
    let items : List Item := [(2000, 0,
      Codec.encode (.orderAccept 1 2 : XCMPMessageOf UInt64 UInt64) ++ [7, 7]), (2000, 1, [3, 1])]
    ∃ taken left ms, items = taken ++ left ∧ BeginWith taken ms ∧
      EndsAt (fun _ : XCMPMessageOf UInt64 UInt64 => True) left
        (Xchange.handleXcmpMessages (Env.online 0) items 9 Xchange.firstOrder).2 9 ∧
      (Xchange.handleXcmpMessages (Env.online 0) items 9 Xchange.firstOrder).1 =
        ms.foldl (Xchange.handleMessage (Env.online 0)) Xchange.firstOrder := by
  intro items
  let t : Service.State UInt64 UInt64 (Balances UInt64) := Storage.init (Balances.uniform 50)
  exact (acted_on_encodings 2000 (.online 0 .busy) items 9 Xchange.firstOrder t).1

end XcmAutoBank.System
