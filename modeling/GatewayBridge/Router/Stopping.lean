import GatewayBridge.Router.Outbound

/-!
# How a stream to the router stops

The monitor of a stream is to run until the stream is closed. It also comes to a stop when a
sender ends on an error while the monitor has a message for it: `ch <- msg` is received by
nobody, and the error that the other goroutine has to report is never asked for. From then on
nothing is transmitted, and once the channel is full everything is dropped. There is no
third way (`stuck_iff`).

A stream is closed by `Close`, which waits for the monitor to have connected, sets a flag, and
closes the channel. The counter of the wait group stays at zero or one, and a channel panics only in
a use of the stream after that (`panicked_cases`); that a wait group may also panic when it is
used again before its `Wait` has returned is not part of the model. The flag is only looked at
between two sessions, so one more session may begin after it was set, but not two
(`sessions_after_closing`). Where nothing fails, a stream that is closed transmits all that it
accepted (`drained_of_stopped`).
-/

namespace GatewayBridge.Router

open GatewayBridge.Go GatewayBridge.Process

universe u

variable {M : Type u} {s s' : Outbound M} {a : Act M} {tr : List (Act M)} {n : ℕ} {m : M} {x y : Session M}

/-! ### When the monitor stops -/

/-- The monitor hands a message to a sender that has ended. -/
def Outbound.Wedged (s : Outbound M) : Prop :=
  ∃ n m x, s.monitor = .handing n m ∧ s.sessions[n]? = some x ∧ x.sender = .ended

/-- The monitor can get away from where it is. -/
def Outbound.Moves (s : Outbound M) : Prop :=
  ∃ tr s', Trace Outbound.Step s tr s' ∧ s'.monitor ≠ s.monitor

/-- The last step of a trace takes the monitor away from where it was. -/
theorem moves_of_step {s₁ : Outbound M} {p : Monitor M} (ht : Trace Outbound.Step s tr s₁)
    (hs : s₁.Step a s') (hmon : s.monitor = p) (hne : s'.monitor ≠ p) : s.Moves :=
  ⟨_, _, ht.snoc hs, hmon ▸ hne⟩

/-- In a session, the monitor can always learn that it broke. -/
theorem moves_of_monitoring (hp : s.panicked = none) (hmon : s.monitor = .monitoring n)
    (hx : s.sessions[n]? = some x) : s.Moves := by
  have hlt : n < s.sessions.length := (List.getElem?_eq_some_iff.mp hx).1
  cases hrec : x.receiver with
  | reporting => exact moves_of_step .nil ⟨hp, .broken n x hmon hx hrec⟩ hmon (by rintro ⟨⟩)
  | ended => exact moves_of_step .nil ⟨hp, .brokenClosed n x hmon hx hrec⟩ hmon (by rintro ⟨⟩)
  | receiving =>
    let y : Session M := { x with receiver := .reporting }
    have hy : (s.setSession n y).sessions[n]? = some y := List.getElem?_set_self hlt
    have hrecv : s.Step (.recvMsg n true) (s.setSession n y) := ⟨hp, .recvMsg n x true hx hrec⟩
    exact moves_of_step (.single hrecv) ⟨hp, .broken n y hmon hy rfl⟩ hmon (by rintro ⟨⟩)
  | closing =>
    let y : Session M := { x with receiver := .ended }
    have hy : (s.setSession n y).sessions[n]? = some y := List.getElem?_set_self hlt
    have hclose : s.Step (.closeErrCh n) (s.setSession n y) := ⟨hp, .closeErrCh n x hx hrec⟩
    exact moves_of_step (.single hclose) ⟨hp, .brokenClosed n y hmon hy rfl⟩ hmon (by rintro ⟨⟩)

/-- A sender that has not ended comes to take the message. -/
theorem moves_of_handing (hp : s.panicked = none) (hmon : s.monitor = .handing n m)
    (hx : s.sessions[n]? = some x) (hsender : x.sender ≠ .ended) : s.Moves := by
  have hlt : n < s.sessions.length := (List.getElem?_eq_some_iff.mp hx).1
  cases hs : x.sender with
  | ended => exact absurd hs hsender
  | ranging => exact moves_of_step .nil ⟨hp, .hand n m x hmon hx hs⟩ hmon (by rintro ⟨⟩)
  | sending m' =>
    let y : Session M := { x with sender := .ranging, sent := x.sent ++ [m'] }
    have hy : (s.setSession n y).sessions[n]? = some y := List.getElem?_set_self hlt
    have hsend : s.Step (.transmit n m') (s.setSession n y) := ⟨hp, .transmit n m' x hx hs⟩
    exact moves_of_step (.single hsend) ⟨hp, .hand n m y hmon hy rfl⟩ hmon (by rintro ⟨⟩)

/-- A wedged monitor stays where it is. -/
theorem Outbound.Wedged.step (h : s.Wedged) (hs : s.Step a s') :
    s'.Wedged ∧ s'.monitor = s.monitor ∧ handedOver [a] = [] := by
  obtain ⟨n, m, x, hmon, hx, hsender⟩ := h
  -- a session that moves is another one, or does not move by its sender
  have hset : ∀ k z y, s.sessions[k]? = some z → (z.sender = .ended → y.sender = .ended) →
      (s.setSession k y).Wedged := fun k z y hz hy => by
    by_cases hk : k = n
    · subst hk
      rw [hx, Option.some.injEq] at hz
      subst hz
      exact ⟨k, m, y, hmon, List.getElem?_set_self (List.getElem?_eq_some_iff.mp hx).1, hy hsender⟩
    · refine ⟨n, m, x, hmon, ?_, hsender⟩
      rw [setSession, List.getElem?_set_ne hk]
      exact hx
  cases hs.2 with
  | transmit k m' z hz hzs => exact ⟨hset k z _ hz (by rw [hzs]; rintro ⟨⟩), rfl, rfl⟩
  | refuse k m' z hz _ => exact ⟨hset k z _ hz fun _ => rfl, rfl, rfl⟩
  | rangeEnd k z hz _ _ => exact ⟨hset k z _ hz fun _ => rfl, rfl, rfl⟩
  | recvMsg k z err hz _ => exact ⟨hset k z _ hz id, rfl, rfl⟩
  | closeErrCh k z hz _ => exact ⟨hset k z _ hz id, rfl, rfl⟩
  | hand k m' z hmon' hz hzs =>
    rw [hmon] at hmon'
    cases hmon'
    rw [hx, Option.some.injEq] at hz
    subst hz
    rw [hsender] at hzs
    cases hzs
  | accept | drop | sendPanic | close | closeWaited | closeFlag | closeChannel | closePanic =>
    exact ⟨⟨n, m, x, hmon, hx, hsender⟩, rfl, rfl⟩
  | _ => simp_all

/-- **A wedged stream transmits nothing any more.** The monitor stays where it is, whatever happens, and
so does every message it has not handed over: what is accepted from then on stays in the channel, and once
that is full everything is dropped. -/
theorem wedged_keeps (hord : s.Ordered) (h : s.Wedged) (ht : Trace Outbound.Step s tr s') :
    s'.monitor = s.monitor ∧ s'.handed = s.handed ∧ s'.ch = s.ch ++ accepted tr ∧
      s.ch.length + (accepted tr).length ≤ defaultBufferSize := by
  have hkeeps : s'.Ordered ∧ s'.Wedged ∧ s'.monitor = s.monitor ∧ s'.handed = s.handed ∧
      s'.ch = s.ch ++ accepted tr := by
    induction ht with
    | nil => exact ⟨hord, h, rfl, rfl, (List.append_nil _).symm⟩
    | @snoc tr s₁ s₂ a _ hs ih =>
      obtain ⟨hord₁, hw₁, hmon₁, hhanded₁, hch₁⟩ := ih
      obtain ⟨hw₂, hmon₂, hover⟩ := hw₁.step hs
      have hhanded₂ := Outbound.handed_step hord₁ hs
      have hheld := Outbound.held_step hs
      rw [hover, List.append_nil] at hhanded₂
      rw [hover, hmon₂, List.nil_append, List.append_assoc, List.append_cancel_left_eq] at hheld
      refine ⟨hord₁.step hs, hw₂, hmon₂.trans hmon₁, hhanded₂.trans hhanded₁, ?_⟩
      rw [← hheld, hch₁, accepted_append, List.append_assoc]
  obtain ⟨hord', -, hmon, hhanded, hch⟩ := hkeeps
  refine ⟨hmon, hhanded, hch, ?_⟩
  have hroom := hord'.room
  rw [hch, List.length_append] at hroom
  exact hroom

/-- Where it is neither at its end nor wedged, the monitor can go on. -/
theorem moves_of_not_wedged (hord : s.Ordered) (hp : s.panicked = none) (hstopped : s.monitor ≠ .stopped)
    (hwedged : ¬ s.Wedged) : s.Moves := by
  have hsession : ∀ n, s.monitor.session = some n → ∃ x, s.sessions[n]? = some x := fun n hn => by
    have hlast := hord.last n hn
    exact ⟨_, List.getElem?_eq_getElem (by omega)⟩
  cases hmon : s.monitor with
  | stopped => exact absurd hmon hstopped
  | connecting => exact moves_of_step .nil ⟨hp, .connect .failed hmon⟩ hmon (by rintro ⟨⟩)
  | connected r =>
    cases r with
    | ok => exact moves_of_step .nil ⟨hp, .setupDoneOk hmon⟩ hmon (by rintro ⟨⟩)
    | canceled => exact moves_of_step .nil ⟨hp, .setupDoneCanceled hmon⟩ hmon (by rintro ⟨⟩)
    | failed => exact moves_of_step .nil ⟨hp, .setupDoneFailed hmon⟩ hmon (by rintro ⟨⟩)
  | retrying => exact moves_of_step .nil ⟨hp, .setupAdd hmon⟩ hmon (by rintro ⟨⟩)
  | sleeping => exact moves_of_step .nil ⟨hp, .wake hmon⟩ hmon (by rintro ⟨⟩)
  | monitoring n =>
    obtain ⟨x, hx⟩ := hsession n (by rw [hmon]; rfl)
    exact moves_of_monitoring hp hmon hx
  | handing n m =>
    obtain ⟨x, hx⟩ := hsession n (by rw [hmon]; rfl)
    exact moves_of_handing hp hmon hx fun hended => hwedged ⟨n, m, x, hmon, hx, hended⟩
  | finishing n =>
    obtain ⟨x, hx⟩ := hsession n (by rw [hmon]; rfl)
    exact moves_of_step .nil ⟨hp, .finish n x hmon hx⟩ hmon (by rintro ⟨⟩)
  | leaving n => exact moves_of_step .nil ⟨hp, .leave n hmon⟩ hmon (by rintro ⟨⟩)
  | checking => exact moves_of_step .nil ⟨hp, .check hmon⟩ hmon (by cases s.closing <;> rintro ⟨⟩)

theorem stopped_keeps (hstopped : s.monitor = .stopped) (ht : Trace Outbound.Step s tr s') :
    s'.monitor = .stopped := by
  refine ht.invariant_state (I := fun s' => s'.monitor = .stopped) hstopped fun s₁ a s₂ h₁ hs => ?_
  cases hs.2 with
  | _ => simp_all [Outbound.setSession, Outbound.setCloser]

/-- **The monitor comes to a stop in two ways**: at its end, or wedged; anywhere else it can go on. Once
it is wedged no message is handed over any more, and what is accepted stays in the channel until that
is full. -/
theorem stuck_iff (h : Trace Outbound.Step {} tr s) (hp : s.panicked = none) :
    ((∀ tr' s', Trace Outbound.Step s tr' s' → s'.monitor = s.monitor) ↔
      s.monitor = .stopped ∨ s.Wedged) ∧
    (s.Wedged → ∀ tr' s', Trace Outbound.Step s tr' s' → s'.handed = s.handed ∧
      s'.ch = s.ch ++ accepted tr' ∧ s.ch.length + (accepted tr').length ≤ defaultBufferSize) := by
  have hord := ordered_of_trace h
  refine ⟨⟨fun hstuck => ?_, ?_⟩, fun hw tr' s' ht => (wedged_keeps hord hw ht).2⟩
  · by_contra hno
    rw [not_or] at hno
    obtain ⟨tr', s', ht, hne⟩ := moves_of_not_wedged hord hp hno.1 hno.2
    exact hne (hstuck tr' s' ht)
  · rintro (hstopped | hw) tr' s' ht
    · rw [hstopped]
      exact stopped_keeps hstopped ht
    · exact (wedged_keeps hord hw ht).1

theorem wedged_refused : refusedState.Wedged := ⟨0, 2, _, rfl, rfl, rfl⟩

theorem stuck_refused :
    refusedState.Wedged ∧ ∀ tr' s', Trace Outbound.Step refusedState tr' s' → s'.monitor = .handing 0 2 :=
  ⟨wedged_refused, (stuck_iff trace_refused rfl).1.mpr (.inr wedged_refused)⟩

/-! ### Closing -/

/-- What the wait group counts: the monitor is on its way to a session. -/
def Monitor.pending : Monitor M → ℤ
  | .connecting => 1
  | .connected _ => 1
  | .sleeping => 1
  | _ => 0

theorem setup_step (h : s.setup = s.monitor.pending) (hs : s.Step a s') : s'.setup = s'.monitor.pending := by
  cases hs.2 with
  | setupDoneOk hmon | setupDoneCanceled hmon | setupDoneFailed hmon => simp [h, hmon, Monitor.pending]
  | setupAdd hmon => simp [h, hmon, Monitor.pending]
  | check hmon => cases hc : s.closing <;> simp [h, hmon, Monitor.pending]
  | connect _ hmon | wake hmon | broken _ _ hmon | brokenClosed _ _ hmon | take _ _ _ hmon | takeClosed _ hmon
  | hand _ _ _ hmon | finish _ _ hmon | leave _ hmon => exact h.trans (by rw [hmon]; rfl)
  | _ => exact h

/-- The counter of the wait group is one on the way to a session, and zero otherwise. -/
theorem setup_eq (h : Trace Outbound.Step {} tr s) : s.setup = s.monitor.pending :=
  h.invariant_state (I := fun s => s.setup = s.monitor.pending) rfl fun _ _ _ hsetup hs => setup_step hsetup hs

/-- How far the calls of `Close` are. -/
structure Outbound.Closes (s : Outbound M) : Prop where
  /-- The channel was closed by a call that returned. -/
  closed : s.chClosed = true → .returned ∈ s.closers
  /-- A call sets the flag before it closes the channel. -/
  flagged : .closing ∈ s.closers ∨ .returned ∈ s.closers → s.closing = true
  /-- What panics. -/
  panicked : s.panicked = none ∨
    (s.panicked = some .sendOnClosedChannel ∧ .returned ∈ s.closers) ∨
    (s.panicked = some .closeOfClosedChannel ∧ .returned ∈ s.closers ∧ .closing ∈ s.closers)

theorem mem_setCloser {closers : List Closer} {i : ℕ} {c c' d : Closer} (hi : closers[i]? = some c)
    (hd : d ∈ closers) (hne : d ≠ c) : d ∈ closers.set i c' := by
  obtain ⟨k, hk⟩ := List.mem_iff_getElem?.mp hd
  have hki : i ≠ k := by
    rintro rfl
    rw [hi] at hk
    exact hne (Option.some.inj hk).symm
  exact List.mem_of_getElem? ((List.getElem?_set_ne hki).trans hk)

theorem Outbound.Closes.of_eq (h : s.Closes) (hcl : s'.closers = s.closers) (hch : s'.chClosed = s.chClosed)
    (hc : s'.closing = s.closing) (hp : s'.panicked = s.panicked) : s'.Closes := by
  refine ⟨?_, ?_, ?_⟩
  · rw [hch, hcl]
    exact h.closed
  · rw [hcl, hc]
    exact h.flagged
  · rw [hp, hcl]
    exact h.panicked

theorem Outbound.Closes.step (h : s.Closes) (hs : s.Step a s') : s'.Closes := by
  have hp := hs.1
  cases hs.2 with
  | sendPanic m hclosed => exact ⟨h.closed, h.flagged, .inr (.inl ⟨rfl, h.closed hclosed⟩)⟩
  | closePanic i hi hclosed =>
    exact ⟨h.closed, h.flagged, .inr (.inr ⟨rfl, h.closed hclosed, List.mem_of_getElem? hi⟩)⟩
  | close =>
    refine ⟨fun hcl => List.mem_append_left _ (h.closed hcl), ?_, .inl hp⟩
    simpa using h.flagged
  | closeWaited i hi =>
    refine ⟨fun hcl => mem_setCloser hi (h.closed hcl) (by rintro ⟨⟩), ?_, .inl hp⟩
    rintro (hmem | hmem)
    · exact h.flagged (.inl ((List.mem_or_eq_of_mem_set hmem).resolve_right (by rintro ⟨⟩)))
    · exact h.flagged (.inr ((List.mem_or_eq_of_mem_set hmem).resolve_right (by rintro ⟨⟩)))
  | closeFlag i hi =>
    exact ⟨fun hcl => mem_setCloser hi (h.closed hcl) (by rintro ⟨⟩), fun _ => rfl, .inl hp⟩
  | closeChannel i hi hclosed =>
    refine ⟨fun _ => ?_, fun _ => h.flagged (.inl (List.mem_of_getElem? hi)), .inl hp⟩
    exact List.mem_of_getElem? (List.getElem?_set_self (List.getElem?_eq_some_iff.mp hi).1)
  | _ => exact h.of_eq rfl rfl rfl rfl

theorem closes_of_trace (h : Trace Outbound.Step {} tr s) : s.Closes :=
  h.invariant_state ⟨by rintro ⟨⟩, by simp, .inl rfl⟩ fun _ _ _ hcl hs => hcl.step hs

/-- **What can panic.** The counter of the wait group never goes below zero. A panic of a channel is that of a
`Send` after a `Close` returned, or of a second `Close` after one returned. -/
theorem panicked_cases (h : Trace Outbound.Step {} tr s) :
    (s.setup = 0 ∨ s.setup = 1) ∧
      (s.panicked = none ∨
        (s.panicked = some .sendOnClosedChannel ∧ .returned ∈ s.closers) ∨
        (s.panicked = some .closeOfClosedChannel ∧ .returned ∈ s.closers ∧ .closing ∈ s.closers)) := by
  refine ⟨?_, (closes_of_trace h).panicked⟩
  rw [setup_eq h]
  cases s.monitor <;> simp [Monitor.pending]

/-- A message is accepted, and the stream is closed. -/
def closedRun : List (Act ℕ) :=
  [.accept 1, .connect .ok, .setupDone, .close, .closeWaited 0, .closeFlag 0, .take 1, .hand 1,
    .transmit 0 1, .closeChannel 0, .takeClosed, .finish, .leave, .check]

/-- The message was transmitted, and the monitor has ended. -/
def closedState : Outbound ℕ where
  chClosed := true
  closing := true
  setup := 0
  monitor := .stopped
  sessions := [{ chClosed := true, sent := [1] }]
  closers := [.returned]

theorem trace_closed : Trace Outbound.Step {} closedRun closedState :=
  .cons ⟨rfl, .accept 1 rfl (by decide)⟩ <| .cons ⟨rfl, .connect .ok rfl⟩ <|
    .cons ⟨rfl, .setupDoneOk rfl⟩ <| .cons ⟨rfl, .close⟩ <| .cons ⟨rfl, .closeWaited 0 rfl rfl⟩ <|
    .cons ⟨rfl, .closeFlag 0 rfl⟩ <| .cons ⟨rfl, .take 0 1 [] rfl rfl⟩ <|
    .cons ⟨rfl, .hand 0 1 _ rfl rfl rfl⟩ <| .cons ⟨rfl, .transmit 0 1 _ rfl rfl⟩ <|
    .cons ⟨rfl, .closeChannel 0 rfl rfl⟩ <| .cons ⟨rfl, .takeClosed 0 rfl rfl rfl⟩ <|
    .cons ⟨rfl, .finish 0 _ rfl rfl⟩ <| .cons ⟨rfl, .leave 0 rfl⟩ <| .cons ⟨rfl, .check rfl⟩ .nil

theorem panicked_after_close :
    ∃ (tr : List (Act ℕ)) (s : Outbound ℕ), Trace Outbound.Step {} tr s ∧
      s.panicked = some .sendOnClosedChannel ∧ (s.setup = 0 ∨ s.setup = 1) := by
  have htrace := trace_closed.snoc ⟨rfl, .sendPanic 2 rfl⟩
  exact ⟨_, _, htrace, rfl, (panicked_cases htrace).1⟩

/-- The monitor is between two sessions. -/
def Monitor.between : Monitor M → Bool
  | .connecting => true
  | .connected _ => true
  | .retrying => true
  | .sleeping => true
  | _ => false

/-- The sessions so far, and the one the monitor is on its way to. -/
def Outbound.begun (s : Outbound M) : ℕ := s.sessions.length + if s.monitor.between then 1 else 0

theorem closing_step (hc : s.closing = true) (hs : s.Step a s') : s'.closing = true := by
  cases hs.2 with
  | closeFlag => rfl
  | _ => exact hc

theorem begun_step (hc : s.closing = true) (hs : s.Step a s') : s'.begun ≤ s.begun := by
  unfold Outbound.begun
  cases hs.2 with
  | setupDoneOk hmon => simp [hmon, Monitor.between]
  | check hmon => simp [hmon, hc, Monitor.between]
  | connect _ hmon | setupDoneCanceled hmon | setupDoneFailed hmon | setupAdd hmon | wake hmon
  | brokenClosed _ _ hmon | take _ _ _ hmon | takeClosed _ hmon | leave _ hmon => simp [hmon, Monitor.between]
  | broken _ _ hmon | hand _ _ _ hmon | finish _ _ hmon => simp [hmon, Monitor.between, Outbound.setSession]
  | transmit | refuse | rangeEnd | recvMsg | closeErrCh =>
    rw [Outbound.setSession, List.length_set]
  | _ => exact le_rfl

/-- **After `Close` there is at most one more session**, and none if the monitor kept one when the flag was
set. -/
theorem sessions_after_closing (hc : s.closing = true) (ht : Trace Outbound.Step s tr s') :
    s'.sessions.length ≤ s.sessions.length + if s.monitor.between then 1 else 0 := by
  have hbegun : s'.closing = true ∧ s'.begun ≤ s.begun := by
    induction ht with
    | nil => exact ⟨hc, le_rfl⟩
    | snoc _ hs ih => exact ⟨closing_step ih.1 hs, le_trans (begun_step ih.1 hs) ih.2⟩
  exact le_trans (Nat.le_add_right _ _) hbegun.2

/-- The flag was set just after the monitor had looked at it. -/
def overtakenState : Outbound ℕ where
  closing := true
  setup := 0
  monitor := .retrying
  sessions := [{ chClosed := true, receiver := .closing }]
  closers := [.closing]

theorem trace_overtaken : ∃ tr, Trace Outbound.Step {} tr overtakenState :=
  ⟨_, .cons ⟨rfl, .connect .ok rfl⟩ <| .cons ⟨rfl, .setupDoneOk rfl⟩ <| .cons ⟨rfl, .close⟩ <|
    .cons ⟨rfl, .closeWaited 0 rfl rfl⟩ <| .cons ⟨rfl, .recvMsg 0 _ true rfl rfl⟩ <|
    .cons ⟨rfl, .broken 0 _ rfl rfl rfl⟩ <| .cons ⟨rfl, .finish 0 _ rfl rfl⟩ <|
    .cons ⟨rfl, .leave 0 rfl⟩ <| .cons ⟨rfl, .check rfl⟩ <| .cons ⟨rfl, .closeFlag 0 rfl⟩ .nil⟩

theorem sessions_after_overtaken :
    (∃ tr, Trace Outbound.Step {} tr overtakenState) ∧
      ∃ tr s', Trace Outbound.Step overtakenState tr s' ∧ s'.sessions.length = 2 ∧
        s'.sessions.length ≤ overtakenState.sessions.length + 1 := by
  have htrace : Trace Outbound.Step overtakenState _ _ :=
    .cons ⟨rfl, .setupAdd rfl⟩ <| .cons ⟨rfl, .wake rfl⟩ <| .cons ⟨rfl, .connect .ok rfl⟩ <|
      .cons ⟨rfl, .setupDoneOk rfl⟩ .nil
  exact ⟨trace_overtaken, _, _, htrace, rfl, sessions_after_closing rfl htrace⟩

/-- Nothing went wrong: no session broke, no connection was canceled, and no message was refused. -/
def Smooth (tr : List (Act M)) : Prop :=
  ∀ a ∈ tr, a ≠ .broken ∧ a ≠ .connect .canceled ∧ ∀ n m, a ≠ .refuse n m

/-- The monitor is done with its session. -/
def Monitor.done : Monitor M → Bool
  | .finishing _ => true
  | .leaving _ => true
  | .checking => true
  | .stopped => true
  | _ => false

/-- What a stream without failures has drained. -/
structure Outbound.Drains (s : Outbound M) : Prop where
  /-- The monitor is not told to stop by the connection. -/
  connected : s.monitor ≠ .connected .canceled
  /-- It is done with a session only when the channel is closed and empty. -/
  drained : s.monitor.done = true → s.ch = [] ∧ s.chClosed = true
  /-- No message was refused. -/
  refused : ∀ x ∈ s.sessions, x.refused = none

theorem Outbound.Drains.setSession (h : s.Drains) (hx : s.sessions[n]? = some x)
    (hy : y.refused = x.refused) : ∀ z ∈ (s.setSession n y).sessions, z.refused = none := by
  intro z hz
  rcases List.mem_or_eq_of_mem_set hz with hz | rfl
  · exact h.refused z hz
  · exact hy.trans (h.refused x (List.mem_of_getElem? hx))

theorem Outbound.Drains.step (h : s.Drains) (hcl : s.Closes) (hs : s.Step a s')
    (ha : a ≠ .broken ∧ a ≠ .connect .canceled ∧ ∀ n m, a ≠ .refuse n m) : s'.Drains := by
  cases hs.2 with
  | accept m hopen =>
    refine ⟨h.connected, fun hd => ?_, h.refused⟩
    rw [(h.drained hd).2] at hopen
    cases hopen
  | closeChannel => exact ⟨h.connected, fun hd => ⟨(h.drained hd).1, rfl⟩, h.refused⟩
  | connect r hmon =>
    refine ⟨fun he => ?_, by rintro ⟨⟩, h.refused⟩
    cases he
    exact ha.2.1 rfl
  | setupDoneOk hmon =>
    refine ⟨by rintro ⟨⟩, by rintro ⟨⟩, fun z hz => ?_⟩
    rcases List.mem_append.mp hz with hz | hz
    · exact h.refused z hz
    · rw [List.mem_singleton.mp hz]
  | setupDoneCanceled hmon => exact absurd hmon h.connected
  | setupDoneFailed | setupAdd | wake => exact ⟨by rintro ⟨⟩, by rintro ⟨⟩, h.refused⟩
  | broken | brokenClosed => exact absurd rfl ha.1
  | take => exact ⟨by rintro ⟨⟩, by rintro ⟨⟩, h.refused⟩
  | takeClosed n hmon hch hclosed => exact ⟨by rintro ⟨⟩, fun _ => ⟨hch, hclosed⟩, h.refused⟩
  | hand n m x hmon hx =>
    refine ⟨by rintro ⟨⟩, by rintro ⟨⟩, h.setSession hx ?_⟩
    rfl
  | finish n x hmon hx =>
    refine ⟨by rintro ⟨⟩, fun _ => h.drained (by rw [hmon]; rfl), h.setSession hx ?_⟩
    rfl
  | leave n hmon => exact ⟨by rintro ⟨⟩, fun _ => h.drained (by rw [hmon]; rfl), h.refused⟩
  | check hmon =>
    -- the channel is closed, so the flag is set
    have hdrained := h.drained (by rw [hmon]; rfl)
    have hc : s.closing = true := hcl.flagged (.inr (hcl.closed hdrained.2))
    refine ⟨?_, fun _ => hdrained, h.refused⟩
    rw [hc]
    rintro ⟨⟩
  | refuse => exact absurd rfl (ha.2.2 _ _)
  | transmit n m x hx =>
    refine ⟨h.connected, h.drained, h.setSession hx ?_⟩
    rfl
  | rangeEnd n x hx =>
    refine ⟨h.connected, h.drained, h.setSession hx ?_⟩
    rfl
  | recvMsg n x err hx =>
    refine ⟨h.connected, h.drained, h.setSession hx ?_⟩
    rfl
  | closeErrCh n x hx =>
    refine ⟨h.connected, h.drained, h.setSession hx ?_⟩
    rfl
  | _ => exact ⟨h.connected, h.drained, h.refused⟩

/-- **A stream that is closed without a failure loses nothing.** Once the monitor has stopped, every message
that was accepted was handed to a session; and once the senders are done, every one was transmitted. -/
theorem drained_of_stopped (h : Trace Outbound.Step {} tr s) (hsmooth : Smooth tr)
    (hstopped : s.monitor = .stopped) :
    s.handed = accepted tr ∧ ((∀ x ∈ s.sessions, x.sender.held = []) → s.transmitted = accepted tr) := by
  have hdrains : s.Drains := by
    clear hstopped
    induction h with
    | nil => exact ⟨by rintro ⟨⟩, by rintro ⟨⟩, by simp⟩
    | @snoc tr s₁ s₂ a ht hs ih =>
      have hbefore := ih fun b hb => hsmooth b (List.mem_append_left _ hb)
      exact hbefore.step (closes_of_trace ht) hs (hsmooth a (List.mem_append_right _ List.mem_cons_self))
  have hhanded : s.handed = accepted tr := by
    rw [accepted_eq h, hstopped, (hdrains.drained (by rw [hstopped]; rfl)).1]
    simp [Monitor.held]
  refine ⟨hhanded, fun hrest => ?_⟩
  rw [← hhanded, Outbound.transmitted, Outbound.handed]
  congr 1
  refine List.map_congr_left fun x hx => ?_
  simp [Session.handed, hrest x hx, hdrains.refused x hx]

theorem drained_closed : closedState.transmitted = accepted closedRun := by
  refine (drained_of_stopped trace_closed ?_ rfl).2 ?_
  · simp [Smooth, closedRun]
  · simp [closedState, Sender.held]

end GatewayBridge.Router
