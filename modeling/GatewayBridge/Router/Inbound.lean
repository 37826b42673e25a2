import GatewayBridge.Router.Outbound

/-!
# Streams from the router

`NewMonitoredDownlinkStream` of `api/router/client_streams.go`, which `SubscribeGatewayTX` calls,
with its method `Close`, which `UnSubscribeGatewayTX` calls. One goroutine keeps a session
with the router: it subscribes, receives messages until an error, waits, and subscribes
again. A message goes into a channel with room for ten, or is dropped. The loop of
`SubscribeGatewayTX` takes them from there.

A session has a context of its own, and `s.cancel` cancels that of the last `Subscribe`. `Close`
waits until the goroutine has subscribed, sets the flag `closing`, and calls `s.cancel`; the
goroutine looks at the flag when a session has ended. What gRPC does is free.

What is taken from the channel is in order (`delivered_in_order`). That the goroutine was
subscribed when `Close` began to wait does not mean that it still is when `Close` goes on:
if its session has ended in between, it looks at the flag too early and subscribes once more, with
a context that `Close` does not cancel. `misses_iff` says when this can happen.
-/

namespace GatewayBridge.Router

open GatewayBridge.Go GatewayBridge.Process

universe u

/-! ### The goroutine and `Close` -/

/-- Where the goroutine is; in a session, with the context of the session. -/
inductive Keeper (M : Type u) where
  /-- In `s.client.Subscribe()`. -/
  | subscribing
  /-- At `s.setup.Done()`, with the context of the subscription. -/
  | subscribed (n : ℕ) (r : Connect)
  /-- At `s.setup.Add(1)`. -/
  | retrying
  /-- In `time.Sleep(backoff.Backoff(retries))`. -/
  | sleeping
  /-- In `client.Recv()`. -/
  | receiving (n : ℕ)
  /-- At `if message != nil`. -/
  | received (n : ℕ) (message : Option M) (err : Bool)
  /-- At `if s.closing`. -/
  | checking
  /-- At `close(s.ch)`. -/
  | closing
  /-- At its end. -/
  | ended

/-- Where a call of `Close` is. -/
inductive Canceller where
  /-- In `s.setup.Wait()`. -/
  | waiting
  /-- At `s.closing = true`. -/
  | flagging
  /-- At `s.cancel()`. -/
  | cancelling
  /-- Back at its caller. -/
  | returned

/-- A stream. -/
structure Inbound (M : Type u) where
  /-- The messages in `s.ch`. -/
  ch : List M := []
  /-- `s.ch` is closed. -/
  chClosed : Bool := false
  /-- `s.closing`. -/
  closing : Bool := false
  /-- The counter of `s.setup`. -/
  setup : ℤ := 1
  /-- `retries`. -/
  retries : ℕ := 0
  /-- `s.cancel`: the context that it cancels. -/
  cancel : Option ℕ := none
  /-- The contexts so far, and whether they are cancelled. -/
  contexts : List Bool := []
  /-- The goroutine. -/
  keeper : Keeper M := .subscribing
  /-- The calls of `Close`. -/
  closers : List Canceller := []

variable {M : Type u}

/-- `if s.cancel != nil { s.cancel() }`. -/
def Inbound.callCancel (s : Inbound M) : Inbound M :=
  match s.cancel with
  | none => s
  | some n => { s with contexts := s.contexts.set n true }

/-- What a stream does in a step. -/
inductive InAct (M : Type u) where
  /-- `s.client.Subscribe()` returns, with a context. -/
  | subscribe (r : Connect)
  /-- `s.setup.Done()`, and what follows up to the next call. -/
  | setupDone
  /-- `s.setup.Add(1)`. -/
  | setupAdd
  /-- `time.Sleep` returns. -/
  | wake
  /-- `client.Recv()` returns. -/
  | recv (message : Option M) (err : Bool)
  /-- The message goes into the channel. -/
  | accept (m : M)
  /-- The message is dropped. -/
  | drop (m : M)
  /-- There is no message. -/
  | skip
  /-- `if s.closing`. -/
  | check
  /-- `close(s.ch)`. -/
  | closeChannel
  /-- The loop of `SubscribeGatewayTX` takes a message. -/
  | consume (m : M)
  /-- `Close` is called. -/
  | close
  /-- `Close`: `s.setup.Wait()` returns. -/
  | closeWaited (i : ℕ)
  /-- `Close`: `s.closing = true`. -/
  | closeFlag (i : ℕ)
  /-- `Close`: `s.cancel()`. -/
  | closeCancel (i : ℕ)

/-- Where the goroutine goes on after a message: `if err != nil { break }`. -/
def Inbound.afterRecv (s : Inbound M) (n : ℕ) (err : Bool) : Inbound M :=
  if err then { s with keeper := .checking } else { s with retries := 0, keeper := .receiving n }

/-- What a step does. -/
inductive Inbound.Step (s : Inbound M) : InAct M → Inbound M → Prop
  | subscribe (r : Connect) : s.keeper = .subscribing → Step s (.subscribe r) { s with
      cancel := some s.contexts.length
      contexts := s.contexts ++ [false]
      keeper := .subscribed s.contexts.length r }
  | setupDoneOk (n : ℕ) : s.keeper = .subscribed n .ok →
      Step s .setupDone { s with setup := s.setup - 1, keeper := .receiving n }
  | setupDoneCanceled (n : ℕ) : s.keeper = .subscribed n .canceled →
      Step s .setupDone { s with setup := s.setup - 1, keeper := .closing }
  | setupDoneFailed (n : ℕ) : s.keeper = .subscribed n .failed →
      Step s .setupDone { s with setup := s.setup - 1, keeper := .retrying }
  | setupAdd : s.keeper = .retrying → Step s .setupAdd { s with setup := s.setup + 1, keeper := .sleeping }
  | wake : s.keeper = .sleeping → Step s .wake { s with retries := s.retries + 1, keeper := .subscribing }
  | recv (n : ℕ) (message : Option M) (err : Bool) : s.keeper = .receiving n →
      Step s (.recv message err) { s with keeper := .received n message err }
  | accept (n : ℕ) (m : M) (err : Bool) : s.keeper = .received n (some m) err →
      s.ch.length < defaultBufferSize →
      Step s (.accept m) ({ s with ch := s.ch ++ [m] }.afterRecv n err)
  | drop (n : ℕ) (m : M) (err : Bool) : s.keeper = .received n (some m) err →
      defaultBufferSize ≤ s.ch.length → Step s (.drop m) (s.afterRecv n err)
  | skip (n : ℕ) (err : Bool) : s.keeper = .received n none err → Step s .skip (s.afterRecv n err)
  | check : s.keeper = .checking → Step s .check { s with keeper := if s.closing then .closing else .retrying }
  | closeChannel : s.keeper = .closing → Step s .closeChannel { s with chClosed := true, keeper := .ended }
  | consume (m : M) (ms : List M) : s.ch = m :: ms → Step s (.consume m) { s with ch := ms }
  | close : Step s .close { s with closers := s.closers ++ [.waiting] }
  | closeWaited (i : ℕ) : s.closers[i]? = some .waiting → s.setup = 0 →
      Step s (.closeWaited i) { s with closers := s.closers.set i .flagging }
  | closeFlag (i : ℕ) : s.closers[i]? = some .flagging →
      Step s (.closeFlag i) { s with closing := true, closers := s.closers.set i .cancelling }
  | closeCancel (i : ℕ) : s.closers[i]? = some .cancelling →
      Step s (.closeCancel i) { s.callCancel with closers := s.closers.set i .returned }

variable {s s' : Inbound M} {a : InAct M} {tr : List (InAct M)} {n i : ℕ}

@[simp] theorem Inbound.afterRecv_ch (err : Bool) : (s.afterRecv n err).ch = s.ch := by
  cases err <;> rfl

@[simp] theorem Inbound.afterRecv_closing (err : Bool) : (s.afterRecv n err).closing = s.closing := by
  cases err <;> rfl

@[simp] theorem Inbound.afterRecv_cancel (err : Bool) : (s.afterRecv n err).cancel = s.cancel := by
  cases err <;> rfl

@[simp] theorem Inbound.afterRecv_contexts (err : Bool) : (s.afterRecv n err).contexts = s.contexts := by
  cases err <;> rfl

@[simp] theorem Inbound.afterRecv_closers (err : Bool) : (s.afterRecv n err).closers = s.closers := by
  cases err <;> rfl

@[simp] theorem Inbound.callCancel_ch : s.callCancel.ch = s.ch := by
  unfold callCancel
  split <;> rfl

@[simp] theorem Inbound.callCancel_closing : s.callCancel.closing = s.closing := by
  unfold callCancel
  split <;> rfl

@[simp] theorem Inbound.callCancel_cancel : s.callCancel.cancel = s.cancel := by
  unfold callCancel
  split <;> rfl

@[simp] theorem Inbound.callCancel_keeper : s.callCancel.keeper = s.keeper := by
  unfold callCancel
  split <;> rfl

@[simp] theorem Inbound.length_callCancel : s.callCancel.contexts.length = s.contexts.length := by
  unfold callCancel
  split <;> simp

/-! ### In order -/

/-- The messages that the router sent. -/
def arrived (tr : List (InAct M)) : List M :=
  tr.filterMap fun
    | .recv message _ => message
    | _ => none

/-- The messages that went into the channel. -/
def buffered (tr : List (InAct M)) : List M :=
  tr.filterMap fun
    | .accept m => some m
    | _ => none

/-- The messages that were taken from the channel. -/
def consumed (tr : List (InAct M)) : List M :=
  tr.filterMap fun
    | .consume m => some m
    | _ => none

/-- The message that the goroutine has received and not yet put into the channel. -/
def Keeper.held : Keeper M → List M
  | .received _ (some m) _ => [m]
  | _ => []

theorem arrived_append (tr₁ tr₂ : List (InAct M)) : arrived (tr₁ ++ tr₂) = arrived tr₁ ++ arrived tr₂ :=
  List.filterMap_append

theorem buffered_append (tr₁ tr₂ : List (InAct M)) : buffered (tr₁ ++ tr₂) = buffered tr₁ ++ buffered tr₂ :=
  List.filterMap_append

theorem consumed_append (tr₁ tr₂ : List (InAct M)) : consumed (tr₁ ++ tr₂) = consumed tr₁ ++ consumed tr₂ :=
  List.filterMap_append

/-- What a step does to the messages in the channel. -/
theorem Inbound.ch_step (hs : s.Step a s') : s.ch ++ buffered [a] = consumed [a] ++ s'.ch := by
  cases hs with
  | consume m ms hch => simp [hch, buffered, consumed]
  | _ => simp [buffered, consumed]

/-- What a step does to the message in the hands of the goroutine. -/
theorem Inbound.held_step (hs : s.Step a s') :
    (buffered [a] ++ s'.keeper.held).Sublist (s.keeper.held ++ arrived [a]) := by
  cases hs with
  | recv n message err hk => cases message <;> simp [hk, buffered, arrived, Keeper.held]
  | accept n m err hk | drop n m err hk => cases err <;> simp [hk, buffered, Keeper.held, afterRecv]
  | skip n err hk => cases err <;> simp [buffered, Keeper.held, afterRecv]
  | check hk => cases hc : s.closing <;> simp [hk, buffered, Keeper.held]
  | subscribe | setupDoneOk | setupDoneCanceled | setupDoneFailed | setupAdd | wake | closeChannel =>
    simp [buffered, Keeper.held]
  | consume | close | closeWaited | closeFlag | closeCancel => simp [buffered, arrived]

theorem room_of_trace (h : Trace Inbound.Step {} tr s) : s.ch.length ≤ defaultBufferSize := by
  refine h.invariant_state (I := fun s => s.ch.length ≤ defaultBufferSize) (Nat.zero_le _) ?_
  intro s a s' hroom hs
  cases hs with
  | accept n m err hk hlt =>
    rw [Inbound.afterRecv_ch, List.length_append, List.length_singleton]
    exact hlt
  | consume m ms hch =>
    rw [hch, List.length_cons] at hroom
    exact Nat.le_of_succ_le hroom
  | _ => simpa using hroom

theorem buffered_eq (h : Trace Inbound.Step {} tr s) : buffered tr = consumed tr ++ s.ch := by
  induction h with
  | nil => rfl
  | @snoc tr s₁ s₂ a _ hs ih =>
    rw [buffered_append, consumed_append, ih, List.append_assoc, List.append_assoc, Inbound.ch_step hs]

theorem buffered_sublist (h : Trace Inbound.Step {} tr s) :
    (buffered tr ++ s.keeper.held).Sublist (arrived tr) := by
  induction h with
  | nil => exact List.Sublist.refl _
  | @snoc tr s₁ s₂ a _ hs ih =>
    rw [buffered_append, arrived_append, List.append_assoc]
    refine ((Inbound.held_step hs).append_left (buffered tr)).trans ?_
    rw [← List.append_assoc]
    exact ih.append_right _

/-- What is taken was sent by the router. -/
theorem consumed_sublist (h : Trace Inbound.Step {} tr s) : (consumed tr).Sublist (arrived tr) := by
  have hbuffered := (List.sublist_append_left _ _).trans (buffered_sublist h)
  rw [buffered_eq h] at hbuffered
  exact (List.sublist_append_left _ _).trans hbuffered

/-- **What is taken from the channel is in order, and once.** It is followed by what is still in the channel,
and both are a part of what the router sent. -/
theorem delivered_in_order (h : Trace Inbound.Step {} tr s) :
    buffered tr = consumed tr ++ s.ch ∧ (consumed tr ++ s.ch).Sublist (arrived tr) ∧
      s.ch.length ≤ defaultBufferSize := by
  have heq := buffered_eq h
  refine ⟨heq, ?_, room_of_trace h⟩
  rw [← heq]
  exact (List.sublist_append_left _ _).trans (buffered_sublist h)

/-- A session in which two messages have arrived, and one was taken. -/
def deliveredState : Inbound ℕ where
  ch := [2]
  setup := 0
  cancel := some 0
  contexts := [false]
  keeper := .receiving 0

theorem delivered_in_order_two : ∃ tr, Trace Inbound.Step {} tr deliveredState ∧
    consumed tr = [1] ∧ (consumed tr ++ deliveredState.ch).Sublist (arrived tr) := by
  have htrace : Trace Inbound.Step {} [InAct.subscribe .ok, .setupDone, .recv (some 1) false, .accept 1,
      .recv (some 2) false, .accept 2, .consume 1] deliveredState :=
    .cons (.subscribe .ok rfl) <| .cons (.setupDoneOk 0 rfl) <| .cons (.recv 0 (some 1) false rfl) <|
      .cons (.accept 0 1 false rfl (by decide)) <| .cons (.recv 0 (some 2) false rfl) <|
      .cons (.accept 0 2 false rfl (by decide)) <| .cons (.consume 1 [2] rfl) .nil
  exact ⟨_, htrace, rfl, (delivered_in_order htrace).2.1⟩

/-! ### Closing -/

/-- The context of the session that the goroutine keeps. -/
def Keeper.context : Keeper M → Option ℕ
  | .subscribed n _ => some n
  | .receiving n => some n
  | .received n _ _ => some n
  | _ => none

/-- The goroutine is on its way to a subscription. -/
def Keeper.Early : Keeper M → Prop
  | .subscribing => True
  | .subscribed _ .failed => True
  | .retrying => True
  | .sleeping => True
  | _ => False

/-- `s.cancel` cancels the context of the session. -/
def Inbound.Cancels (s : Inbound M) : Prop :=
  ∀ n, s.keeper.context = some n → s.cancel = some n ∧ n < s.contexts.length

theorem Inbound.Cancels.step (h : s.Cancels) (hs : s.Step a s') : s'.Cancels := by
  intro k hk
  cases hs with
  | subscribe r hkeeper =>
    cases hk
    simp
  | setupDoneOk n hkeeper => exact h k (by rw [hkeeper]; exact hk)
  | recv n message err hkeeper => exact h k (by rw [hkeeper]; exact hk)
  | accept n m err hkeeper | drop n m err hkeeper | skip n err hkeeper =>
    cases err with
    | true => cases hk
    | false => exact h k (by rw [hkeeper]; exact hk)
  | check hkeeper =>
    cases hc : s.closing
    · rw [hc] at hk
      cases hk
    · rw [hc] at hk
      cases hk
  | setupDoneCanceled | setupDoneFailed | setupAdd | wake | closeChannel => cases hk
  | consume | close | closeWaited | closeFlag => exact h k hk
  | closeCancel i hi => simpa using h k (by simpa using hk)

theorem cancels_of_trace (h : Trace Inbound.Step {} tr s) : s.Cancels :=
  h.invariant_state (by rintro _ ⟨⟩) fun _ _ _ hc hs => hc.step hs

/-- The flag is set by every call that is about to cancel. -/
theorem flagged_of_trace (h : Trace Inbound.Step {} tr s) (hi : .cancelling ∈ s.closers) :
    s.closing = true := by
  refine h.invariant_state (I := fun s => .cancelling ∈ s.closers → s.closing = true) (by simp) ?_ hi
  intro s a s' hflag hs hmem
  cases hs with
  | closeFlag => rfl
  | close => exact hflag (by simpa using hmem)
  | closeWaited i hi | closeCancel i hi =>
    have hold := (List.mem_or_eq_of_mem_set hmem).resolve_right (by rintro ⟨⟩)
    simpa using hflag hold
  | accept | drop | skip => simpa using hflag (by simpa using hmem)
  | _ => exact hflag hmem

/-- Call `i` of `Close` can return while the goroutine receives in a session that is not cancelled. -/
def Inbound.Misses (s : Inbound M) (i : ℕ) : Prop :=
  ∃ tr s' n, Trace Inbound.Step s tr s' ∧ s'.closers[i]? = some .returned ∧ s'.keeper = .receiving n ∧
    s'.contexts[n]? = some false

/-- Call `i` of `Close` has cancelled the session there is, or is about to, and no other will begin. -/
structure Inbound.Caught (s : Inbound M) (i : ℕ) : Prop where
  /-- The flag is set. -/
  closing : s.closing = true
  /-- The goroutine is not on its way to a subscription. -/
  late : ¬ s.keeper.Early
  /-- `s.cancel` is that of the session. -/
  cancels : s.Cancels
  /-- The session is cancelled, or is about to be. -/
  caught : s.closers[i]? = some .cancelling ∨ ∀ n, s.keeper.context = some n → s.contexts[n]? = some true

/-- A call of `Close` that is about to cancel stays so until it does. -/
theorem cancelling_set {closers : List Canceller} {c d : Canceller} {j : ℕ} (hj : closers[j]? = some c)
    (hc : c ≠ .cancelling) (hi : closers[i]? = some .cancelling) : (closers.set j d)[i]? = some .cancelling := by
  have hne : j ≠ i := by
    rintro rfl
    rw [hj] at hi
    exact hc (Option.some.inj hi)
  rw [List.getElem?_set_ne hne]
  exact hi

theorem contexts_callCancel (h : s.Cancels) (hn : s.keeper.context = some n) :
    s.callCancel.contexts[n]? = some true := by
  obtain ⟨hcancel, hlt⟩ := h n hn
  unfold Inbound.callCancel
  rw [hcancel]
  exact List.getElem?_set_self hlt

theorem Inbound.Caught.step (h : s.Caught i) (hs : s.Step a s') : s'.Caught i := by
  have hcancels := h.cancels.step hs
  cases hs with
  | subscribe r hk | setupAdd hk | wake hk | setupDoneFailed n hk =>
    exact absurd (by rw [hk]; trivial) h.late
  | setupDoneOk n hk =>
    refine ⟨h.closing, id, hcancels, h.caught.imp_right fun hall k hn => ?_⟩
    exact hall k (by rw [hk]; exact hn)
  | recv n message err hk =>
    refine ⟨h.closing, id, hcancels, h.caught.imp_right fun hall k hn => ?_⟩
    exact hall k (by rw [hk]; exact hn)
  | setupDoneCanceled n hk => exact ⟨h.closing, id, hcancels, .inr (by rintro _ ⟨⟩)⟩
  | closeChannel hk => exact ⟨h.closing, id, hcancels, .inr (by rintro _ ⟨⟩)⟩
  | check hk =>
    refine ⟨h.closing, ?_, hcancels, .inr ?_⟩
    · rw [h.closing]
      exact id
    · rw [h.closing]
      rintro _ ⟨⟩
  | accept n m err hk | drop n m err hk | skip n err hk =>
    cases err with
    | true => exact ⟨h.closing, id, hcancels, .inr (by rintro _ ⟨⟩)⟩
    | false =>
      refine ⟨h.closing, id, hcancels, h.caught.imp_right fun hall k hn => ?_⟩
      exact hall k (by rw [hk]; exact hn)
  | consume => exact ⟨h.closing, h.late, hcancels, h.caught⟩
  | close =>
    refine ⟨h.closing, h.late, hcancels, h.caught.imp_left fun hi => ?_⟩
    rw [List.getElem?_append_left (List.getElem?_eq_some_iff.mp hi).1]
    exact hi
  | closeWaited j hj =>
    exact ⟨h.closing, h.late, hcancels, h.caught.imp_left (cancelling_set hj (by rintro ⟨⟩))⟩
  | closeFlag j hj =>
    exact ⟨rfl, h.late, hcancels, h.caught.imp_left (cancelling_set hj (by rintro ⟨⟩))⟩
  | closeCancel j hj =>
    refine ⟨by simpa using h.closing, by simpa using h.late, hcancels, .inr fun k hn => ?_⟩
    exact contexts_callCancel h.cancels (by simpa using hn)

/-- On its way to a subscription, the goroutine does not look at the flag. -/
theorem exists_subscribing (h : s.keeper.Early) :
    ∃ tr s', Trace Inbound.Step s tr s' ∧ s'.keeper = .subscribing ∧ s'.closers = s.closers := by
  cases hk : s.keeper with
  | subscribing => exact ⟨[], s, .nil, hk, rfl⟩
  | sleeping => exact ⟨_, _, .single (.wake hk), rfl, rfl⟩
  | retrying => exact ⟨_, _, .cons (.setupAdd hk) (.single (.wake rfl)), rfl, rfl⟩
  | subscribed n r =>
    rw [hk] at h
    cases r with
    | failed =>
      exact ⟨_, _, .cons (.setupDoneFailed n hk) (.cons (.setupAdd rfl) (.single (.wake rfl))), rfl, rfl⟩
    | ok | canceled => exact h.elim
  | receiving | received | checking | closing | ended =>
    rw [hk] at h
    exact h.elim

/-- **When `Close` misses the session.** Once a call of `Close` has set the flag, it can return with a
session that goes on and is not cancelled, if and only if the goroutine was on its way to a subscription
when the flag was set. -/
theorem misses_iff (h : Trace Inbound.Step {} tr s) (hi : s.closers[i]? = some .cancelling) :
    s.Misses i ↔ s.keeper.Early := by
  constructor
  · rintro ⟨tr', s', n, ht, hreturned, hkeeper, hcontext⟩
    by_contra hlate
    have hflag := flagged_of_trace h (List.mem_of_getElem? hi)
    have hcaught : s'.Caught i :=
      ht.invariant_state (I := fun s => s.Caught i) ⟨hflag, hlate, cancels_of_trace h, .inl hi⟩
        fun _ _ _ hc hs => hc.step hs
    rcases hcaught.caught with hcancelling | hall
    · rw [hreturned] at hcancelling
      cases hcancelling
    · rw [hall n (by rw [hkeeper]; rfl)] at hcontext
      cases hcontext
  · intro hearly
    -- `Close` cancels the old context and returns, and then the goroutine subscribes
    have hearly₁ : ({ s.callCancel with closers := s.closers.set i .returned } : Inbound M).keeper.Early := by
      simpa using hearly
    obtain ⟨tr', s', ht, hk, hclosers⟩ := exists_subscribing hearly₁
    have hreturned : s'.closers[i]? = some .returned := by
      rw [hclosers]
      exact List.getElem?_set_self (List.getElem?_eq_some_iff.mp hi).1
    have htrace := ((Trace.cons (.closeCancel i hi) ht).snoc (.subscribe .ok hk)).snoc (.setupDoneOk _ rfl)
    refine ⟨_, _, s'.contexts.length, htrace, hreturned, rfl, ?_⟩
    exact List.getElem?_concat_length

/-- `Close` waits while a session is there; it ends, and the flag is set after the goroutine has looked. -/
def missedState : Inbound ℕ where
  closing := true
  setup := 0
  cancel := some 0
  contexts := [false]
  keeper := .retrying
  closers := [.cancelling]

theorem trace_missed : ∃ tr, Trace Inbound.Step {} tr missedState :=
  ⟨_, .cons (.subscribe .ok rfl) <| .cons (.setupDoneOk 0 rfl) <| .cons .close <|
    .cons (.closeWaited 0 rfl rfl) <| .cons (.recv 0 none true rfl) <| .cons (.skip 0 true rfl) <|
    .cons (.check rfl) <| .cons (.closeFlag 0 rfl) .nil⟩

theorem misses_missed : missedState.Misses 0 := by
  obtain ⟨tr, htrace⟩ := trace_missed
  exact (misses_iff htrace rfl).mpr trivial

end GatewayBridge.Router
