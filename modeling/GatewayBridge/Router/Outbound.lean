import GatewayBridge.Go.Basic
import GatewayBridge.Process.Trace

/-!
# Streams to the router

`NewMonitoredUplinkStream` and `NewMonitoredGatewayStatusStream` of
`api/router/client_streams.go`, which `newGtw` calls for every gateway. The two are the
same code for two types of messages, so here the type is a parameter.

`Send` puts a message into a channel with room for ten, or drops it. A goroutine, the
monitor, keeps a session with the router: it connects, starts a goroutine that sends and
one that waits for the session to break, and hands the messages of the channel to the
first, one by one, over a second channel without room. When the session breaks it waits and
connects again. `Close` waits until the monitor has connected, and closes the channel.

The goroutines run for ever, so each is a place in its code (`Monitor`, `Sender`, `Receiver`,
`Closer`), and the stream moves in steps. What gRPC does is free: a call returns at any
time, with an error or without.

What is accepted is handed to the sessions, or is in the hands of the monitor, or in the
channel (`accepted_eq`), so it is transmitted in order, and once (`transmitted_in_order`).
-/

namespace GatewayBridge.Router

open GatewayBridge.Go GatewayBridge.Process

universe u

/-- `DefaultBufferSize`. -/
def defaultBufferSize : ℕ := 10

/-! ### The goroutines -/

/-- Where the goroutine is that sends the messages of a session. -/
inductive Sender (M : Type u) where
  /-- At `for message := range ch`. -/
  | ranging
  /-- In `client.Send(message)`. -/
  | sending (message : M)
  /-- At its end. -/
  | ended

/-- Where the goroutine is that waits for a session to break. -/
inductive Receiver where
  /-- In `client.RecvMsg(empty)`. -/
  | receiving
  /-- At `errCh <- err`. -/
  | reporting
  /-- At `close(errCh)`. -/
  | closing
  /-- At its end, with `errCh` closed. -/
  | ended

/-- A session: its channel `ch`, its goroutines, and what gRPC said of its messages. -/
structure Session (M : Type u) where
  /-- `ch` is closed. -/
  chClosed : Bool := false
  /-- The goroutine that sends. -/
  sender : Sender M := .ranging
  /-- The goroutine that waits for an error. -/
  receiver : Receiver := .receiving
  /-- The messages that were transmitted: `client.Send` returned `nil`. -/
  sent : List M := []
  /-- The message for which `client.Send` returned an error. -/
  refused : Option M := none

/-- How `s.client.Uplink()` ended. -/
inductive Connect where
  /-- With a client. -/
  | ok
  /-- With an error of code `Canceled`. -/
  | canceled
  /-- With another error. -/
  | failed
  deriving DecidableEq

/-- Where the monitor is; in a session, with the session. -/
inductive Monitor (M : Type u) where
  /-- In `s.client.Uplink()`. -/
  | connecting
  /-- At `s.setup.Done()`. -/
  | connected (r : Connect)
  /-- At `s.setup.Add(1)`. -/
  | retrying
  /-- In `time.Sleep(backoff.Backoff(retries))`. -/
  | sleeping
  /-- At the `select` of a session. -/
  | monitoring (n : ℕ)
  /-- At `ch <- msg`. -/
  | handing (n : ℕ) (message : M)
  /-- At `close(ch)`. -/
  | finishing (n : ℕ)
  /-- In `client.CloseAndRecv()`. -/
  | leaving (n : ℕ)
  /-- At `if s.closing`. -/
  | checking
  /-- At its end. -/
  | stopped

/-- Where a call of `Close` is. -/
inductive Closer where
  /-- In `s.setup.Wait()`. -/
  | waiting
  /-- At `s.closing = true`. -/
  | flagging
  /-- At `close(s.ch)`. -/
  | closing
  /-- Back at its caller. -/
  | returned

/-- A stream. -/
structure Outbound (M : Type u) where
  /-- The messages in `s.ch`. -/
  ch : List M := []
  /-- `s.ch` is closed. -/
  chClosed : Bool := false
  /-- `s.closing`. -/
  closing : Bool := false
  /-- The counter of `s.setup`. -/
  setup : ℤ := 1
  /-- `retries`. -/
  retries : ℕ := 0
  /-- The monitor. -/
  monitor : Monitor M := .connecting
  /-- The sessions so far. -/
  sessions : List (Session M) := []
  /-- The calls of `Close`. -/
  closers : List Closer := []
  /-- The panic that ended the process. -/
  panicked : Option Panic := none

variable {M : Type u}

/-- Session `n`, which is now `x`. -/
def Outbound.setSession (s : Outbound M) (n : ℕ) (x : Session M) : Outbound M :=
  { s with sessions := s.sessions.set n x }

/-- Call `i` of `Close`, which is now at `c`. -/
def Outbound.setCloser (s : Outbound M) (i : ℕ) (c : Closer) : Outbound M :=
  { s with closers := s.closers.set i c }

/-! ### The steps -/

/-- What a stream does in a step. -/
inductive Act (M : Type u) where
  /-- `Send`: `s.ch <- message`. -/
  | accept (message : M)
  /-- `Send`: the channel is full. -/
  | drop (message : M)
  /-- `Send`: the channel is closed. -/
  | sendPanic (message : M)
  /-- `Close` is called. -/
  | close
  /-- `Close`: `s.setup.Wait()` returns. -/
  | closeWaited (i : ℕ)
  /-- `Close`: `s.closing = true`. -/
  | closeFlag (i : ℕ)
  /-- `Close`: `close(s.ch)`. -/
  | closeChannel (i : ℕ)
  /-- `Close`: the channel is closed already. -/
  | closePanic (i : ℕ)
  /-- `s.client.Uplink()` returns. -/
  | connect (r : Connect)
  /-- `s.setup.Done()`, and what follows up to the next call. -/
  | setupDone
  /-- `s.setup.Add(1)`. -/
  | setupAdd
  /-- `time.Sleep` returns. -/
  | wake
  /-- Ten seconds have passed in the `select`. -/
  | quiet
  /-- `mErr = <-errCh`. -/
  | broken
  /-- `msg, ok := <-s.ch`, with a message. -/
  | take (message : M)
  /-- `msg, ok := <-s.ch`, of a closed channel. -/
  | takeClosed
  /-- `ch <- msg`, received by the sender. -/
  | hand (message : M)
  /-- `close(ch)`. -/
  | finish
  /-- `client.CloseAndRecv()` returns. -/
  | leave
  /-- `if s.closing`. -/
  | check
  /-- `client.Send(message)` returns `nil`. -/
  | transmit (n : ℕ) (message : M)
  /-- `client.Send(message)` returns an error. -/
  | refuse (n : ℕ) (message : M)
  /-- The sender finds `ch` closed. -/
  | rangeEnd (n : ℕ)
  /-- `client.RecvMsg(empty)` returns an error, or `nil`. -/
  | recvMsg (n : ℕ) (err : Bool)
  /-- `close(errCh)`. -/
  | closeErrCh (n : ℕ)

/-- What a step does, in a process that has not panicked. -/
inductive Outbound.Move (s : Outbound M) : Act M → Outbound M → Prop
  | accept (m : M) : s.chClosed = false → s.ch.length < defaultBufferSize →
      Move s (.accept m) { s with ch := s.ch ++ [m] }
  | drop (m : M) : s.chClosed = false → defaultBufferSize ≤ s.ch.length → Move s (.drop m) s
  | sendPanic (m : M) : s.chClosed = true →
      Move s (.sendPanic m) { s with panicked := some .sendOnClosedChannel }
  | close : Move s .close { s with closers := s.closers ++ [.waiting] }
  | closeWaited (i : ℕ) : s.closers[i]? = some .waiting → s.setup = 0 →
      Move s (.closeWaited i) (s.setCloser i .flagging)
  | closeFlag (i : ℕ) : s.closers[i]? = some .flagging →
      Move s (.closeFlag i) { s.setCloser i .closing with closing := true }
  | closeChannel (i : ℕ) : s.closers[i]? = some .closing → s.chClosed = false →
      Move s (.closeChannel i) { s.setCloser i .returned with chClosed := true }
  | closePanic (i : ℕ) : s.closers[i]? = some .closing → s.chClosed = true →
      Move s (.closePanic i) { s with panicked := some .closeOfClosedChannel }
  | connect (r : Connect) : s.monitor = .connecting → Move s (.connect r) { s with monitor := .connected r }
  | setupDoneOk : s.monitor = .connected .ok → Move s .setupDone { s with
      setup := s.setup - 1
      monitor := .monitoring s.sessions.length
      sessions := s.sessions ++ [{}] }
  | setupDoneCanceled : s.monitor = .connected .canceled →
      Move s .setupDone { s with setup := s.setup - 1, monitor := .stopped }
  | setupDoneFailed : s.monitor = .connected .failed →
      Move s .setupDone { s with setup := s.setup - 1, monitor := .retrying }
  | setupAdd : s.monitor = .retrying → Move s .setupAdd { s with setup := s.setup + 1, monitor := .sleeping }
  | wake : s.monitor = .sleeping → Move s .wake { s with retries := s.retries + 1, monitor := .connecting }
  | quiet (n : ℕ) : s.monitor = .monitoring n → Move s .quiet { s with retries := 0 }
  /-- The error is received from the goroutine that sends it. -/
  | broken (n : ℕ) (x : Session M) : s.monitor = .monitoring n → s.sessions[n]? = some x →
      x.receiver = .reporting →
      Move s .broken { s.setSession n { x with receiver := .closing } with monitor := .finishing n }
  /-- `errCh` is closed. -/
  | brokenClosed (n : ℕ) (x : Session M) : s.monitor = .monitoring n → s.sessions[n]? = some x →
      x.receiver = .ended → Move s .broken { s with monitor := .finishing n }
  | take (n : ℕ) (m : M) (ms : List M) : s.monitor = .monitoring n → s.ch = m :: ms →
      Move s (.take m) { s with ch := ms, monitor := .handing n m }
  | takeClosed (n : ℕ) : s.monitor = .monitoring n → s.ch = [] → s.chClosed = true →
      Move s .takeClosed { s with monitor := .finishing n }
  | hand (n : ℕ) (m : M) (x : Session M) : s.monitor = .handing n m → s.sessions[n]? = some x →
      x.sender = .ranging →
      Move s (.hand m) { s.setSession n { x with sender := .sending m } with monitor := .monitoring n }
  | finish (n : ℕ) (x : Session M) : s.monitor = .finishing n → s.sessions[n]? = some x →
      Move s .finish { s.setSession n { x with chClosed := true } with monitor := .leaving n }
  | leave (n : ℕ) : s.monitor = .leaving n → Move s .leave { s with monitor := .checking }
  | check : s.monitor = .checking →
      Move s .check { s with monitor := if s.closing then .stopped else .retrying }
  | transmit (n : ℕ) (m : M) (x : Session M) : s.sessions[n]? = some x → x.sender = .sending m →
      Move s (.transmit n m) (s.setSession n { x with sender := .ranging, sent := x.sent ++ [m] })
  | refuse (n : ℕ) (m : M) (x : Session M) : s.sessions[n]? = some x → x.sender = .sending m →
      Move s (.refuse n m) (s.setSession n { x with sender := .ended, refused := some m })
  | rangeEnd (n : ℕ) (x : Session M) : s.sessions[n]? = some x → x.sender = .ranging → x.chClosed = true →
      Move s (.rangeEnd n) (s.setSession n { x with sender := .ended })
  | recvMsg (n : ℕ) (x : Session M) (err : Bool) : s.sessions[n]? = some x → x.receiver = .receiving →
      Move s (.recvMsg n err) (s.setSession n { x with receiver := if err then .reporting else .closing })
  | closeErrCh (n : ℕ) (x : Session M) : s.sessions[n]? = some x → x.receiver = .closing →
      Move s (.closeErrCh n) (s.setSession n { x with receiver := .ended })

/-- A step. A panic ends the process. -/
def Outbound.Step (s : Outbound M) (a : Act M) (s' : Outbound M) : Prop := s.panicked = none ∧ s.Move a s'

/-! ### Where the messages are -/

/-- The messages that `Send` accepted. -/
def accepted (tr : List (Act M)) : List M :=
  tr.filterMap fun
    | .accept m => some m
    | _ => none

/-- The messages that `Send` was called with, until it panics. -/
def offered (tr : List (Act M)) : List M :=
  tr.filterMap fun
    | .accept m => some m
    | .drop m => some m
    | _ => none

/-- What is accepted was offered. -/
theorem accepted_sublist_offered (tr : List (Act M)) : (accepted tr).Sublist (offered tr) := by
  induction tr with
  | nil => exact List.Sublist.slnil
  | cons a tr ih =>
    cases a with
    | accept m => exact ih.cons_cons m
    | drop m => exact ih.cons m
    | _ => exact ih

/-- The message in the hands of the monitor. -/
def Monitor.held : Monitor M → List M
  | .handing _ m => [m]
  | _ => []

/-- The session that the monitor keeps. -/
def Monitor.session : Monitor M → Option ℕ
  | .monitoring n => some n
  | .handing n _ => some n
  | .finishing n => some n
  | .leaving n => some n
  | _ => none

/-- The message that the sender is sending. -/
def Sender.held : Sender M → List M
  | .sending m => [m]
  | _ => []

/-- The messages that were handed to a session. -/
def Session.handed (x : Session M) : List M := x.sent ++ x.refused.toList ++ x.sender.held

/-- The messages that were handed to the sessions, one session after the other. -/
def Outbound.handed (s : Outbound M) : List M := (s.sessions.map Session.handed).flatten

variable {s s' : Outbound M} {a : Act M} {tr : List (Act M)} {n : ℕ} {m : M} {x y : Session M}

/-- The messages that the monitor handed to its sessions. -/
def handedOver (tr : List (Act M)) : List M :=
  tr.filterMap fun
    | .hand m => some m
    | _ => none

theorem accepted_append (tr₁ tr₂ : List (Act M)) : accepted (tr₁ ++ tr₂) = accepted tr₁ ++ accepted tr₂ :=
  List.filterMap_append

/-- A session is one of several, and a change of it leaves the others alone. -/
theorem Outbound.exists_of_setSession (hx : s.sessions[n]? = some x) (y : Session M) :
    ∃ l₁ l₂, s.sessions = l₁ ++ x :: l₂ ∧ l₁.length = n ∧ (s.setSession n y).sessions = l₁ ++ y :: l₂ := by
  obtain ⟨hlt, rfl⟩ := List.getElem?_eq_some_iff.mp hx
  exact List.exists_of_set hlt

theorem Outbound.handed_setSession (hx : s.sessions[n]? = some x) (hy : y.handed = x.handed) :
    (s.setSession n y).handed = s.handed := by
  obtain ⟨l₁, l₂, hs, -, hset⟩ := exists_of_setSession hx y
  rw [handed, handed, hset, hs]
  simp [hy]

theorem Outbound.handed_setSession_last (hx : s.sessions[n]? = some x) (hlast : n + 1 = s.sessions.length)
    (hy : y.handed = x.handed ++ [m]) : (s.setSession n y).handed = s.handed ++ [m] := by
  obtain ⟨l₁, l₂, hs, hlen, hset⟩ := exists_of_setSession hx y
  have hnil : l₂ = [] := by
    rw [hs, List.length_append, List.length_cons, hlen] at hlast
    exact List.eq_nil_of_length_eq_zero (by omega)
  subst hnil
  rw [handed, handed, hset, hs]
  simp [hy]

/-- Every session has an ended sender if a message of it was refused; and the monitor keeps the last. -/
structure Outbound.Ordered (s : Outbound M) : Prop where
  /-- The session that the monitor keeps is the last. -/
  last : ∀ n, s.monitor.session = some n → n + 1 = s.sessions.length
  /-- A sender whose message was refused has ended. -/
  refused : ∀ x ∈ s.sessions, x.refused ≠ none → x.sender = .ended
  /-- The channel holds no more than it has room for. -/
  room : s.ch.length ≤ defaultBufferSize

/-- A sender that goes on had no message refused. -/
theorem Outbound.Ordered.refused_eq_none (h : s.Ordered) (hx : s.sessions[n]? = some x)
    (hsender : x.sender ≠ .ended) : x.refused = none := by
  by_contra hne
  exact hsender (h.refused x (List.mem_of_getElem? hx) hne)

/-- A step that changes one session, with what it must keep. -/
theorem Outbound.Ordered.setSession (h : s.Ordered) (hx : s.sessions[n]? = some x)
    (hy : y.refused ≠ none → y.sender = .ended) {p : Monitor M}
    (hp : p.session = s.monitor.session ∨ p.session = none) :
    ({ s.setSession n y with monitor := p } : Outbound M).Ordered where
  last k hk := by
    simp only [Outbound.setSession, List.length_set]
    rcases hp with hp | hp
    · exact h.last k (hp ▸ hk)
    · rw [hp] at hk
      cases hk
  refused z hz hne := by
    obtain ⟨l₁, l₂, hs, -, hset⟩ := exists_of_setSession hx y
    simp only [hset, List.mem_append, List.mem_cons] at hz
    rcases hz with hz | rfl | hz
    · exact h.refused z (by simp [hs, hz]) hne
    · exact hy hne
    · exact h.refused z (by simp [hs, hz]) hne
  room := h.room

theorem Outbound.Ordered.of_sessions_eq (h : s.Ordered) (hs : s'.sessions = s.sessions)
    (hp : s'.monitor.session = s.monitor.session ∨ s'.monitor.session = none)
    (hch : s'.ch.length ≤ defaultBufferSize) : s'.Ordered where
  last k hk := by
    rw [hs]
    rcases hp with hp | hp
    · exact h.last k (hp ▸ hk)
    · rw [hp] at hk
      cases hk
  refused z hz hne := h.refused z (hs ▸ hz) hne
  room := hch

theorem Outbound.Ordered.step (h : s.Ordered) (hs : s.Step a s') : s'.Ordered := by
  cases hs.2 with
  | accept m _ hlt =>
    refine h.of_sessions_eq rfl (.inl rfl) ?_
    rw [List.length_append, List.length_singleton]
    exact hlt
  | drop => exact h
  | sendPanic => exact h.of_sessions_eq rfl (.inl rfl) h.room
  | close => exact h.of_sessions_eq rfl (.inl rfl) h.room
  | closeWaited => exact h.of_sessions_eq rfl (.inl rfl) h.room
  | closeFlag => exact h.of_sessions_eq rfl (.inl rfl) h.room
  | closeChannel => exact h.of_sessions_eq rfl (.inl rfl) h.room
  | closePanic => exact h.of_sessions_eq rfl (.inl rfl) h.room
  | connect r hmon => exact h.of_sessions_eq rfl (.inr rfl) h.room
  | setupDoneOk hmon =>
    refine ⟨fun k hk => ?_, fun z hz hne => ?_, h.room⟩
    · cases hk
      rw [List.length_append, List.length_singleton]
    · rcases List.mem_append.mp hz with hz | hz
      · exact h.refused z hz hne
      · rw [List.mem_singleton.mp hz] at hne
        exact absurd rfl hne
  | setupDoneCanceled => exact h.of_sessions_eq rfl (.inr rfl) h.room
  | setupDoneFailed => exact h.of_sessions_eq rfl (.inr rfl) h.room
  | setupAdd => exact h.of_sessions_eq rfl (.inr rfl) h.room
  | wake => exact h.of_sessions_eq rfl (.inr rfl) h.room
  | quiet n hmon => exact h.of_sessions_eq rfl (.inl rfl) h.room
  | broken n x hmon hx hrec =>
    refine h.setSession hx ?_ (.inl ?_)
    · exact h.refused x (List.mem_of_getElem? hx)
    · rw [hmon]
      rfl
  | brokenClosed n x hmon => exact h.of_sessions_eq rfl (.inl (by rw [hmon]; rfl)) h.room
  | take n m ms hmon hch =>
    refine h.of_sessions_eq rfl (.inl (by rw [hmon]; rfl)) ?_
    have hroom := h.room
    rw [hch, List.length_cons] at hroom
    exact Nat.le_of_succ_le hroom
  | takeClosed n hmon => exact h.of_sessions_eq rfl (.inl (by rw [hmon]; rfl)) h.room
  | hand n m x hmon hx hsender =>
    refine h.setSession hx (fun hne => ?_) (.inl (by rw [hmon]; rfl))
    exact absurd (h.refused_eq_none hx (by rw [hsender]; rintro ⟨⟩)) hne
  | finish n x hmon hx =>
    refine h.setSession hx ?_ (.inl ?_)
    · exact h.refused x (List.mem_of_getElem? hx)
    · rw [hmon]
      rfl
  | leave n hmon => exact h.of_sessions_eq rfl (.inr rfl) h.room
  | check hmon =>
    refine h.of_sessions_eq rfl (.inr ?_) h.room
    dsimp only
    split_ifs <;> rfl
  | transmit n m x hx hsender =>
    refine h.setSession hx (fun hne => ?_) (.inl rfl)
    exact absurd (h.refused_eq_none hx (by rw [hsender]; rintro ⟨⟩)) hne
  | refuse n m x hx => exact h.setSession hx (fun _ => rfl) (.inl rfl)
  | rangeEnd n x hx => exact h.setSession hx (fun _ => rfl) (.inl rfl)
  | recvMsg n x err hx =>
    refine h.setSession hx ?_ (.inl rfl)
    exact h.refused x (List.mem_of_getElem? hx)
  | closeErrCh n x hx =>
    refine h.setSession hx ?_ (.inl rfl)
    exact h.refused x (List.mem_of_getElem? hx)

theorem ordered_of_trace (h : Trace Outbound.Step {} tr s) : s.Ordered :=
  h.invariant_state ⟨by rintro _ ⟨⟩, by simp, Nat.zero_le _⟩ fun _ _ _ hord hs => hord.step hs

/-- What a step hands to a session. -/
theorem Outbound.handed_step (hord : s.Ordered) (hs : s.Step a s') : s'.handed = s.handed ++ handedOver [a] := by
  cases hs.2 with
  | setupDoneOk hmon => simp [handed, handedOver, Session.handed, Sender.held]
  | hand n m x hmon hx hsender =>
    refine handed_setSession_last hx (hord.last n (by rw [hmon]; rfl)) ?_
    simp [Session.handed, Sender.held, hsender]
  | transmit n m x hx hsender =>
    refine (handed_setSession hx ?_).trans (List.append_nil _).symm
    simp [Session.handed, Sender.held, hsender, hord.refused_eq_none hx (by rw [hsender]; rintro ⟨⟩)]
  | refuse n m x hx hsender =>
    refine (handed_setSession hx ?_).trans (List.append_nil _).symm
    simp [Session.handed, Sender.held, hsender, hord.refused_eq_none hx (by rw [hsender]; rintro ⟨⟩)]
  | rangeEnd n x hx hsender =>
    refine (handed_setSession hx ?_).trans (List.append_nil _).symm
    simp [Session.handed, Sender.held, hsender]
  | broken n x _ hx =>
    refine (handed_setSession hx ?_).trans (List.append_nil _).symm
    rfl
  | finish n x _ hx =>
    refine (handed_setSession hx ?_).trans (List.append_nil _).symm
    rfl
  | recvMsg n x _ hx =>
    refine (handed_setSession hx ?_).trans (List.append_nil _).symm
    rfl
  | closeErrCh n x hx =>
    refine (handed_setSession hx ?_).trans (List.append_nil _).symm
    rfl
  | _ => exact (List.append_nil _).symm

/-- What a step does to the messages in the channel and in the hands of the monitor. -/
theorem Outbound.held_step (hs : s.Step a s') :
    s.monitor.held ++ s.ch ++ accepted [a] = handedOver [a] ++ (s'.monitor.held ++ s'.ch) := by
  cases hs.2 with
  | check hmon =>
    cases hc : s.closing <;> simp [hmon, Monitor.held, accepted, handedOver]
  | _ => simp_all [Monitor.held, accepted, handedOver, setSession, setCloser]

/-- Every message that was accepted was handed over, or is in the hands of the monitor, or in the channel. -/
theorem accepted_eq (h : Trace Outbound.Step {} tr s) :
    accepted tr = s.handed ++ s.monitor.held ++ s.ch := by
  induction h with
  | nil => rfl
  | @snoc tr s₁ s₂ a ht hs ih =>
    rw [accepted_append, ih, List.append_assoc s₁.handed, List.append_assoc, Outbound.held_step hs,
      Outbound.handed_step (ordered_of_trace ht) hs]
    simp only [List.append_assoc]

/-! ### In order, and once -/

/-- The messages that were transmitted, one session after the other. -/
def Outbound.transmitted (s : Outbound M) : List M := (s.sessions.map Session.sent).flatten

/-- A session transmits what is handed to it, but for the last message at most. -/
theorem Outbound.Ordered.handed_eq (h : s.Ordered) (hx : x ∈ s.sessions) :
    ∃ rest, x.handed = x.sent ++ rest ∧ rest.length ≤ 1 := by
  refine ⟨x.refused.toList ++ x.sender.held, List.append_assoc _ _ _, ?_⟩
  cases hsender : x.sender with
  | sending m =>
    have hnone : x.refused = none := by
      by_contra hne
      have hended := h.refused x hx hne
      rw [hsender] at hended
      cases hended
    simp [hnone, Sender.held]
  | ranging => cases x.refused <;> simp [Sender.held]
  | ended => cases x.refused <;> simp [Sender.held]

/-- What the sessions transmit is part of what was handed to them, and all but one message for each. -/
theorem transmitted_of_handed {sessions : List (Session M)}
    (h : ∀ x ∈ sessions, ∃ rest, x.handed = x.sent ++ rest ∧ rest.length ≤ 1) :
    ((sessions.map Session.sent).flatten).Sublist ((sessions.map Session.handed).flatten) ∧
      (sessions.map Session.handed).flatten.length ≤
        (sessions.map Session.sent).flatten.length + sessions.length := by
  induction sessions with
  | nil => exact ⟨List.Sublist.refl _, le_rfl⟩
  | cons x sessions ih =>
    obtain ⟨rest, heq, hlen⟩ := h x List.mem_cons_self
    obtain ⟨hsub, hle⟩ := ih fun y hy => h y (List.mem_cons_of_mem x hy)
    simp only [List.map_cons, List.flatten_cons, heq, List.length_append, List.length_cons]
    exact ⟨(List.sublist_append_left _ _).append hsub, by omega⟩

/-- What is transmitted was accepted. -/
theorem transmitted_sublist (h : Trace Outbound.Step {} tr s) : s.transmitted.Sublist (accepted tr) := by
  have hord := ordered_of_trace h
  rw [accepted_eq h, List.append_assoc]
  exact (transmitted_of_handed fun x hx => hord.handed_eq hx).1.trans (List.sublist_append_left _ _)

/-- **What is accepted is transmitted in order, and once.** The messages that `Send` accepted are those
handed to the sessions, then the one in the hands of the monitor, then those in the channel. A session
transmits what is handed to it, but for the last message at most. So what is transmitted is a part of
what was accepted, in the same order, and what is not there is one message for each session, one in
the hands of the monitor and ten in the channel. -/
theorem transmitted_in_order (h : Trace Outbound.Step {} tr s) :
    accepted tr = s.handed ++ s.monitor.held ++ s.ch ∧
      (∀ x ∈ s.sessions, ∃ rest, x.handed = x.sent ++ rest ∧ rest.length ≤ 1) ∧
      s.transmitted.Sublist (accepted tr) ∧
      (accepted tr).length ≤ s.transmitted.length + s.sessions.length + 1 + defaultBufferSize := by
  have hord := ordered_of_trace h
  have hsplit := accepted_eq h
  have hone : ∀ x ∈ s.sessions, ∃ rest, x.handed = x.sent ++ rest ∧ rest.length ≤ 1 :=
    fun x hx => hord.handed_eq hx
  obtain ⟨-, hle⟩ := transmitted_of_handed hone
  refine ⟨hsplit, hone, transmitted_sublist h, ?_⟩
  have hheld : s.monitor.held.length ≤ 1 := by cases s.monitor <;> simp [Monitor.held]
  have hroom := hord.room
  rw [hsplit, List.length_append, List.length_append]
  rw [Outbound.handed, Outbound.transmitted]
  omega

/-- Two messages are accepted, and the router refuses the first. -/
def refusedRun : List (Act ℕ) :=
  [.accept 1, .accept 2, .connect .ok, .setupDone, .take 1, .hand 1, .refuse 0 1, .take 2]

/-- The second message is in the hands of the monitor, and nobody takes it. -/
def refusedState : Outbound ℕ where
  setup := 0
  monitor := .handing 0 2
  sessions := [{ sender := .ended, refused := some 1 }]

theorem trace_refused : Trace Outbound.Step {} refusedRun refusedState :=
  .cons ⟨rfl, .accept 1 rfl (by decide)⟩ <| .cons ⟨rfl, .accept 2 rfl (by decide)⟩ <|
    .cons ⟨rfl, .connect .ok rfl⟩ <| .cons ⟨rfl, .setupDoneOk rfl⟩ <|
    .cons ⟨rfl, .take 0 1 [2] rfl rfl⟩ <| .cons ⟨rfl, .hand 0 1 _ rfl rfl rfl⟩ <|
    .cons ⟨rfl, .refuse 0 1 _ rfl rfl⟩ <| .cons ⟨rfl, .take 0 2 [] rfl rfl⟩ .nil

theorem transmitted_in_order_refused :
    accepted refusedRun = [1, 2] ∧ refusedState.transmitted.Sublist [1, 2] ∧ refusedState.handed = [1] := by
  have h := transmitted_in_order trace_refused
  exact ⟨rfl, h.2.2.1, rfl⟩

end GatewayBridge.Router
