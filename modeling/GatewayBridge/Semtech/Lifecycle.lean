import GatewayBridge.Process.Trace
import GatewayBridge.Semtech.SendLoop

/-!
# The life of the backend

The goroutines that `NewBackend` of `gateway/backend.go` starts for the socket, and `Close`. One
reads datagrams and starts a handler for each (`readPackets`), the other writes the
datagrams that it receives from `udpSendChan` (`sendPackets`). Each registers with the wait group
when it begins, and when its loop has returned it looks at the flag `closed`: if it is not set,
it goes on to `log.Fatal`, which ends the process. `Close` sets the flag, closes the channel,
closes the socket, and waits for the wait group.

What the network does is free: a read or a write can fail at any time, and once the socket is
closed it always fails. The goroutines that send on `udpSendChan` are free too. The flag is a
plain field; it is read here as it was written last.

* The process can be ended by `log.Fatal` until the flag is set, and after that only by a
  goroutine that has looked at the flag before; and only after a read or a write failed by itself
  (`exits_iff`).
* Each loop passes on what it gets, in order and once, and loses at most one datagram
  (`passed_in_order`).
* `Close` does not wait for ever, unless a goroutine that was at `log.Fatal` ends the process
  first; and nothing is read or written once it waits, even by a goroutine that has not begun when
  `Close` returns (`close_returns`).
-/

namespace GatewayBridge.Semtech

open GatewayBridge.Go GatewayBridge.Process Prog

/-! ### The goroutines and `Close` -/

/-- Where the goroutine of `readPackets` is. -/
inductive Reader where
  /-- At `b.wg.Add(1)`. -/
  | starting
  /-- In `b.conn.ReadFromUDP(buf)`. -/
  | reading
  /-- At `go func(data []byte)`, with the copy of the data. -/
  | received (addr : UDPAddr) (data : Bytes)
  /-- At `if !b.closed`. -/
  | checking
  /-- At `log.Fatal(err)`. -/
  | exiting
  /-- At `b.wg.Done()`. -/
  | finishing
  /-- At its end. -/
  | ended

/-- Where the goroutine of `sendPackets` is. -/
inductive Writer where
  /-- At `b.wg.Add(1)`. -/
  | starting
  /-- In `range b.udpSendChan`. -/
  | ranging
  /-- It has received a packet. -/
  | received (p : UdpPacket)
  /-- At `if !b.closed`. -/
  | checking
  /-- At `log.Fatal(err)`. -/
  | exiting
  /-- At `b.wg.Done()`. -/
  | finishing
  /-- At its end. -/
  | ended

/-- Where a call of `Close` is. -/
inductive Closer where
  /-- At `b.closed = true`. -/
  | flagging
  /-- At `close(b.udpSendChan)`. -/
  | closingChan
  /-- At `b.conn.Close()`. -/
  | closingConn
  /-- In `b.wg.Wait()`. -/
  | waiting
  /-- Back at its caller, with an error or without. -/
  | returned (err : Bool)

/-- The backend, without its registry. -/
structure Life where
  /-- `b.closed`. -/
  closed : Bool := false
  /-- `udpSendChan` is closed. -/
  sendClosed : Bool := false
  /-- The socket is closed. -/
  connClosed : Bool := false
  /-- The counter of `b.wg`. -/
  wg : ℤ := 0
  /-- The goroutine of `readPackets`. -/
  reader : Reader := .starting
  /-- The goroutine of `sendPackets`. -/
  writer : Writer := .starting
  /-- The calls of `Close`. -/
  closers : List Closer := []
  /-- A goroutine has panicked. -/
  panicked : Bool := false
  /-- `log.Fatal` has ended the process. -/
  exited : Bool := false

/-- What the backend does in a step. -/
inductive LifeAct where
  /-- The reader: `b.wg.Add(1)`. -/
  | readerAdd
  /-- `ReadFromUDP` returns a datagram. -/
  | read (addr : UDPAddr) (data : Bytes)
  /-- A goroutine is started for the datagram. -/
  | handle (addr : UDPAddr) (data : Bytes)
  /-- `ReadFromUDP` returns an error by itself. -/
  | readFails
  /-- `ReadFromUDP` returns an error, as the socket is closed. -/
  | readClosed
  /-- The reader: `if !b.closed`. -/
  | readerChecks
  /-- The reader: `log.Fatal(err)`. -/
  | readerFatal
  /-- The reader: `b.wg.Done()`. -/
  | readerDone
  /-- The writer: `b.wg.Add(1)`. -/
  | writerAdd
  /-- The writer receives a packet from `udpSendChan`. -/
  | send (p : UdpPacket)
  /-- A goroutine sends on the closed channel. -/
  | sendPanics (p : UdpPacket)
  /-- `GetPacketType` returns an error. -/
  | skip (p : UdpPacket)
  /-- `WriteToUDP` succeeds. -/
  | write (p : UdpPacket)
  /-- `WriteToUDP` returns an error by itself. -/
  | writeFails (p : UdpPacket)
  /-- `WriteToUDP` returns an error, as the socket is closed. -/
  | writeClosed (p : UdpPacket)
  /-- `range b.udpSendChan` ends. -/
  | rangeEnds
  /-- The writer: `if !b.closed`. -/
  | writerChecks
  /-- The writer: `log.Fatal(err)`. -/
  | writerFatal
  /-- The writer: `b.wg.Done()`. -/
  | writerDone
  /-- `b.wg.Add(1)` panics. -/
  | addPanics
  /-- `Close` is called. -/
  | close
  /-- `Close`: `b.closed = true`. -/
  | closeFlag (i : ℕ)
  /-- `Close`: `close(b.udpSendChan)`. -/
  | closeChan (i : ℕ)
  /-- `Close`: `close(b.udpSendChan)`, of a closed channel. -/
  | closeChanPanics (i : ℕ)
  /-- `Close`: `b.conn.Close()`. -/
  | closeConn (i : ℕ)
  /-- `Close`: `b.conn.Close()` returns an error. -/
  | closeConnFails (i : ℕ)
  /-- `Close`: `b.wg.Wait()` returns. -/
  | closeWaited (i : ℕ)

/-- The size of the buffer of `readPackets`. -/
def maxDatagram : ℕ := 65507

/-- What a step does. -/
inductive Life.Move (s : Life) : LifeAct → Life → Prop
  | readerAdd : s.reader = .starting → Move s .readerAdd { s with wg := s.wg + 1, reader := .reading }
  | read (addr : UDPAddr) (data : Bytes) : s.reader = .reading → s.connClosed = false →
      data.length ≤ maxDatagram → Move s (.read addr data) { s with reader := .received addr data }
  | handle (addr : UDPAddr) (data : Bytes) : s.reader = .received addr data →
      Move s (.handle addr data) { s with reader := .reading }
  | readFails : s.reader = .reading → s.connClosed = false → Move s .readFails { s with reader := .checking }
  | readClosed : s.reader = .reading → s.connClosed = true → Move s .readClosed { s with reader := .checking }
  | readerGoesOn : s.reader = .checking → s.closed = true →
      Move s .readerChecks { s with reader := .finishing }
  | readerExits : s.reader = .checking → s.closed = false → Move s .readerChecks { s with reader := .exiting }
  | readerFatal : s.reader = .exiting → Move s .readerFatal { s with exited := true }
  | readerDone : s.reader = .finishing → Move s .readerDone { s with wg := s.wg - 1, reader := .ended }
  | writerAdd : s.writer = .starting → Move s .writerAdd { s with wg := s.wg + 1, writer := .ranging }
  | send (p : UdpPacket) : s.writer = .ranging → s.sendClosed = false →
      Move s (.send p) { s with writer := .received p }
  | sendPanics (p : UdpPacket) : s.sendClosed = true → Move s (.sendPanics p) { s with panicked := true }
  | skip (p : UdpPacket) : s.writer = .received p → accepted p = false →
      Move s (.skip p) { s with writer := .ranging }
  | write (p : UdpPacket) : s.writer = .received p → accepted p = true → s.connClosed = false →
      Move s (.write p) { s with writer := .ranging }
  | writeFails (p : UdpPacket) : s.writer = .received p → accepted p = true → s.connClosed = false →
      Move s (.writeFails p) { s with writer := .checking }
  | writeClosed (p : UdpPacket) : s.writer = .received p → accepted p = true → s.connClosed = true →
      Move s (.writeClosed p) { s with writer := .checking }
  | rangeEnds : s.writer = .ranging → s.sendClosed = true → Move s .rangeEnds { s with writer := .checking }
  | writerGoesOn : s.writer = .checking → s.closed = true →
      Move s .writerChecks { s with writer := .finishing }
  | writerExits : s.writer = .checking → s.closed = false → Move s .writerChecks { s with writer := .exiting }
  | writerFatal : s.writer = .exiting → Move s .writerFatal { s with exited := true }
  | writerDone : s.writer = .finishing → Move s .writerDone { s with wg := s.wg - 1, writer := .ended }
  -- an `Add` to a counter of zero before a `Wait` has returned is a misuse, which the wait group may detect
  | addPanics : s.reader = .starting ∨ s.writer = .starting → .waiting ∈ s.closers → s.wg = 0 →
      Move s .addPanics { s with panicked := true }
  | close : Move s .close { s with closers := s.closers ++ [.flagging] }
  | closeFlag (i : ℕ) : s.closers[i]? = some .flagging →
      Move s (.closeFlag i) { s with closed := true, closers := s.closers.set i .closingChan }
  | closeChan (i : ℕ) : s.closers[i]? = some .closingChan → s.sendClosed = false →
      Move s (.closeChan i) { s with sendClosed := true, closers := s.closers.set i .closingConn }
  | closeChanPanics (i : ℕ) : s.closers[i]? = some .closingChan → s.sendClosed = true →
      Move s (.closeChanPanics i) { s with panicked := true }
  | closeConn (i : ℕ) : s.closers[i]? = some .closingConn → s.connClosed = false →
      Move s (.closeConn i) { s with connClosed := true, closers := s.closers.set i .waiting }
  -- the socket may be closed all the same
  | closeConnFails (i : ℕ) (done : Bool) : s.closers[i]? = some .closingConn →
      Move s (.closeConnFails i)
        { s with connClosed := s.connClosed || done, closers := s.closers.set i (.returned true) }
  | closeWaited (i : ℕ) : s.closers[i]? = some .waiting → s.wg = 0 →
      Move s (.closeWaited i) { s with closers := s.closers.set i (.returned false) }

/-- The process goes on. -/
def Life.Live (s : Life) : Prop := s.panicked = false ∧ s.exited = false

/-- A step, while the process goes on. -/
def Life.Step (s : Life) (a : LifeAct) (s' : Life) : Prop := s.Live ∧ s.Move a s'

variable {s s' : Life} {a : LifeAct} {tr tr' : List LifeAct} {i : ℕ}

/-! ### What holds at any time -/

/-- What the wait group counts of the reader. -/
def Reader.count : Reader → ℤ
  | .starting => 0
  | .ended => 0
  | _ => 1

/-- What the wait group counts of the writer. -/
def Writer.count : Writer → ℤ
  | .starting => 0
  | .ended => 0
  | _ => 1

/-- The reader has seen the flag. -/
def Reader.Over : Reader → Prop
  | .finishing => True
  | .ended => True
  | _ => False

/-- The writer has seen the flag. -/
def Writer.Over : Writer → Prop
  | .finishing => True
  | .ended => True
  | _ => False

/-- What a call of `Close` has done so far. -/
def Closer.Did (s : Life) : Closer → Prop
  | .flagging => True
  | .closingChan => s.closed = true
  | .closingConn => s.closed = true ∧ s.sendClosed = true
  | .waiting => s.closed = true ∧ s.sendClosed = true ∧ s.connClosed = true
  | .returned true => s.closed = true ∧ s.sendClosed = true
  | .returned false => s.closed = true ∧ s.sendClosed = true ∧ s.connClosed = true

/-- What holds of the backend at any time. -/
structure LifeInv (s : Life) : Prop where
  wg_eq : s.wg = s.reader.count + s.writer.count
  send_closed : s.sendClosed = true → s.closed = true
  conn_closed : s.connClosed = true → s.closed = true
  reader_over : s.reader.Over → s.closed = true
  writer_over : s.writer.Over → s.closed = true
  closers_did : ∀ k ∈ s.closers, k.Did s

theorem flag_clash {b : Bool} (ht : b = true) (hf : b = false) : False := by
  rw [ht] at hf
  cases hf

theorem wg_step (h : s.wg = s.reader.count + s.writer.count) (hm : s.Move a s') :
    s'.wg = s'.reader.count + s'.writer.count := by
  cases hm with
  | readerAdd hr | readerDone hr =>
    simp only [h, hr, Reader.count]
    omega
  | writerAdd hw | writerDone hw =>
    simp only [h, hw, Writer.count]
    omega
  | read _ _ hr | handle _ _ hr | readFails hr | readClosed hr | readerGoesOn hr | readerExits hr => rw [h, hr]; rfl
  | send _ hw | skip _ hw | write _ hw | writeFails _ hw | writeClosed _ hw | rangeEnds hw
  | writerGoesOn hw | writerExits hw => rw [h, hw]; rfl
  | _ => exact h

/-- Flags stay set. -/
theorem closed_step (hm : s.Move a s') : s.closed = true → s'.closed = true := by
  cases hm with
  | closeFlag => exact fun _ => rfl
  | _ => exact id

theorem sendClosed_step (hm : s.Move a s') : s.sendClosed = true → s'.sendClosed = true := by
  cases hm with
  | closeChan => exact fun _ => rfl
  | _ => exact id

theorem connClosed_step (hm : s.Move a s') : s.connClosed = true → s'.connClosed = true := by
  cases hm with
  | closeConn => exact fun _ => rfl
  | closeConnFails i done => exact fun hc => Bool.or_eq_true_iff.mpr (.inl hc)
  | _ => exact id

theorem Closer.Did.step {k : Closer} (hk : k.Did s) (hm : s.Move a s') : k.Did s' := by
  have hc := closed_step hm
  have hs := sendClosed_step hm
  have hn := connClosed_step hm
  match k, hk with
  | .flagging, _ => trivial
  | .closingChan, h => exact hc h
  | .closingConn, h => exact ⟨hc h.1, hs h.2⟩
  | .returned true, h => exact ⟨hc h.1, hs h.2⟩
  | .waiting, h => exact ⟨hc h.1, hs h.2.1, hn h.2.2⟩
  | .returned false, h => exact ⟨hc h.1, hs h.2.1, hn h.2.2⟩

theorem closers_step (hm : s.Move a s') :
    s'.closers = s.closers ∨ s'.closers = s.closers ++ [.flagging] ∨
      ∃ i k k', s.closers[i]? = some k ∧ s'.closers = s.closers.set i k' ∧ (k.Did s → k'.Did s') := by
  cases hm with
  | close => exact .inr (.inl rfl)
  | closeFlag i hi => exact .inr (.inr ⟨i, _, _, hi, rfl, fun _ => rfl⟩)
  | closeChan i hi => exact .inr (.inr ⟨i, _, _, hi, rfl, fun h => ⟨h, rfl⟩⟩)
  | closeConn i hi => exact .inr (.inr ⟨i, _, _, hi, rfl, fun h => ⟨h.1, h.2, rfl⟩⟩)
  | closeConnFails i _ hi => exact .inr (.inr ⟨i, _, _, hi, rfl, id⟩)
  | closeWaited i hi => exact .inr (.inr ⟨i, _, _, hi, rfl, id⟩)
  | _ => exact .inl rfl

/-- **The invariant is kept.** -/
theorem LifeInv.step (h : LifeInv s) (hs : s.Step a s') : LifeInv s' where
  wg_eq := wg_step h.wg_eq hs.2
  send_closed := by
    cases hs.2 with
    | closeChan i hi => exact fun _ => h.closers_did _ (List.mem_of_getElem? hi)
    | closeFlag => exact fun _ => rfl
    | _ => exact h.send_closed
  conn_closed := by
    cases hs.2 with
    | closeConn i hi | closeConnFails i _ hi => exact fun _ => (h.closers_did _ (List.mem_of_getElem? hi)).1
    | closeFlag => exact fun _ => rfl
    | _ => exact h.conn_closed
  reader_over := by
    cases hs.2 with
    | readerGoesOn _ hc => exact fun _ => hc
    | readerDone hr => exact fun _ => h.reader_over (by rw [hr]; trivial)
    | readerAdd | read | handle | readFails | readClosed | readerExits => exact False.elim
    | closeFlag => exact fun _ => rfl
    | _ => exact h.reader_over
  writer_over := by
    cases hs.2 with
    | writerGoesOn _ hc => exact fun _ => hc
    | writerDone hw => exact fun _ => h.writer_over (by rw [hw]; trivial)
    | writerAdd | send | skip | write | writeFails | writeClosed | rangeEnds | writerExits => exact False.elim
    | closeFlag => exact fun _ => rfl
    | _ => exact h.writer_over
  closers_did := by
    intro k hk
    obtain heq | heq | ⟨i, k₀, k', hi, heq, hdid⟩ := closers_step hs.2
    · rw [heq] at hk
      exact (h.closers_did k hk).step hs.2
    · rw [heq] at hk
      obtain hk | hk := List.mem_append.mp hk
      · exact (h.closers_did k hk).step hs.2
      · rw [List.mem_singleton.mp hk]
        trivial
    · rw [heq] at hk
      obtain hk | rfl := List.mem_or_eq_of_mem_set hk
      · exact (h.closers_did k hk).step hs.2
      · exact hdid (h.closers_did k₀ (List.mem_of_getElem? hi))

theorem lifeInv_of_trace (h : Trace Life.Step {} tr s) : LifeInv s := by
  refine h.invariant_state (I := LifeInv) ?_ fun _ _ _ => LifeInv.step
  exact ⟨rfl, nofun, nofun, nofun, nofun, nofun⟩

/-! ### A run -/

/-- A datagram. -/
def sampleDatagram : UDPAddr × Bytes := (⟨[192, 168, 1, 2], 1700, []⟩, [2, 57, 48, 2])

/-- A datagram and a packet are passed on, and then `Close` is called. -/
def sampleLife : List LifeAct :=
  [.readerAdd, .writerAdd, .read sampleDatagram.1 sampleDatagram.2, .send samplePort0,
    .handle sampleDatagram.1 sampleDatagram.2, .write samplePort0, .close, .closeFlag 0, .closeChan 0,
    .closeConn 0]

/-- `Close` waits for both loops. -/
def sampleShut : Life :=
  { closed := true, sendClosed := true, connClosed := true, wg := 2, reader := .reading, writer := .ranging,
    closers := [.waiting] }

theorem trace_sampleLife : Trace Life.Step {} sampleLife sampleShut :=
  .cons ⟨⟨rfl, rfl⟩, .readerAdd rfl⟩ <| .cons ⟨⟨rfl, rfl⟩, .writerAdd rfl⟩ <|
    .cons ⟨⟨rfl, rfl⟩, .read _ _ rfl rfl (by decide)⟩ <| .cons ⟨⟨rfl, rfl⟩, .send _ rfl rfl⟩ <|
    .cons ⟨⟨rfl, rfl⟩, .handle _ _ rfl⟩ <| .cons ⟨⟨rfl, rfl⟩, .write _ rfl rfl rfl⟩ <|
    .cons ⟨⟨rfl, rfl⟩, .close⟩ <| .cons ⟨⟨rfl, rfl⟩, .closeFlag 0 rfl⟩ <|
    .cons ⟨⟨rfl, rfl⟩, .closeChan 0 rfl rfl⟩ <| .single ⟨⟨rfl, rfl⟩, .closeConn 0 rfl rfl⟩

/-! ### The end of the process -/

/-- Where an error that is not due to `Close` is from. -/
structure Blamed (tr : List LifeAct) (s : Life) : Prop where
  reader : s.reader = .checking → s.closed = false → .readFails ∈ tr
  writer : s.writer = .checking → s.closed = false → ∃ p, .writeFails p ∈ tr
  reader_exiting : s.reader = .exiting → .readFails ∈ tr
  writer_exiting : s.writer = .exiting → ∃ p, .writeFails p ∈ tr
  exited : s.exited = true → s.reader = .exiting ∨ s.writer = .exiting

theorem Blamed.step (hinv : LifeInv s) (h : Blamed tr s) (hs : s.Step a s') : Blamed (tr ++ [a]) s' where
  reader := by
    have hold := fun hr hc => List.mem_append_left [a] (h.reader hr hc)
    cases hs.2 with
    | readFails => exact fun _ _ => List.mem_append_right _ (List.mem_singleton_self _)
    | readClosed _ hn => exact fun _ hc => (flag_clash (hinv.conn_closed hn) hc).elim
    | readerAdd | read | handle | readerGoesOn | readerExits | readerDone => exact nofun
    | closeFlag => exact fun _ => nofun
    | _ => exact hold
  writer := by
    have hold := fun hw hc => (h.writer hw hc).imp fun _ hp => List.mem_append_left [a] hp
    cases hs.2 with
    | writeFails p => exact fun _ _ => ⟨p, List.mem_append_right _ (List.mem_singleton_self _)⟩
    | writeClosed _ _ _ hn => exact fun _ hc => (flag_clash (hinv.conn_closed hn) hc).elim
    | rangeEnds _ hn => exact fun _ hc => (flag_clash (hinv.send_closed hn) hc).elim
    | writerAdd | send | skip | write | writerGoesOn | writerExits | writerDone => exact nofun
    | closeFlag => exact fun _ => nofun
    | _ => exact hold
  reader_exiting := by
    have hold := fun hr => List.mem_append_left [a] (h.reader_exiting hr)
    cases hs.2 with
    | readerExits hr hc => exact fun _ => List.mem_append_left _ (h.reader hr hc)
    | readerAdd | read | handle | readFails | readClosed | readerGoesOn | readerDone => exact nofun
    | _ => exact hold
  writer_exiting := by
    have hold := fun hw => (h.writer_exiting hw).imp fun _ hp => List.mem_append_left [a] hp
    cases hs.2 with
    | writerExits hw hc => exact fun _ => (h.writer hw hc).imp fun _ hp => List.mem_append_left _ hp
    | writerAdd | send | skip | write | writeFails | writeClosed | rangeEnds | writerGoesOn | writerDone =>
      exact nofun
    | _ => exact hold
  exited := by
    have hlive := hs.1.2
    cases hs.2 with
    | readerFatal hr => exact fun _ => .inl hr
    | writerFatal hw => exact fun _ => .inr hw
    | _ => exact fun he => (flag_clash he hlive).elim

theorem blamed_of_trace (h : Trace Life.Step {} tr s) : Blamed tr s := by
  induction h with
  | nil => exact ⟨nofun, nofun, nofun, nofun, nofun⟩
  | snoc h hs ih => exact ih.step (lifeInv_of_trace h) hs

/-- Once the flag is set, no goroutine comes to `log.Fatal` that was not there already. -/
theorem exiting_back (hc : s.closed = true) (ht : Trace Life.Step s tr s') :
    s'.closed = true ∧ (s'.reader = .exiting → s.reader = .exiting) ∧
      (s'.writer = .exiting → s.writer = .exiting) := by
  induction ht with
  | nil => exact ⟨hc, id, id⟩
  | snoc _ hs ih =>
    obtain ⟨hc', hr, hw⟩ := ih
    refine ⟨closed_step hs.2 hc', ?_, ?_⟩
    · cases hs.2 with
      | readerExits _ hopen => exact (flag_clash hc' hopen).elim
      | readerAdd | read | handle | readFails | readClosed | readerGoesOn | readerDone => exact nofun
      | _ => exact hr
    · cases hs.2 with
      | writerExits _ hopen => exact (flag_clash hc' hopen).elim
      | writerAdd | send | skip | write | writeFails | writeClosed | rangeEnds | writerGoesOn
      | writerDone => exact nofun
      | _ => exact hw

/-- After the flag is set, only a goroutine that was at `log.Fatal` then can end the process. -/
theorem exiting_of_exited (h : Trace Life.Step {} tr s) (hc : s.closed = true) (ht : Trace Life.Step s tr' s')
    (he : s'.exited = true) : s.reader = .exiting ∨ s.writer = .exiting := by
  obtain ⟨-, hr, hw⟩ := exiting_back hc ht
  exact ((blamed_of_trace (h.append ht)).exited he).imp hr hw

theorem exits_of_exiting (hlive : s.Live) (hr : s.reader = .exiting) :
    ∃ tr' s', Trace Life.Step s tr' s' ∧ s'.exited = true :=
  ⟨_, _, .single ⟨hlive, .readerFatal hr⟩, rfl⟩

/-- A goroutine that finds the flag unset after an error ends the process. -/
theorem exits_of_checking (hlive : s.Live) (hr : s.reader = .checking) (hc : s.closed = false) :
    ∃ tr' s', Trace Life.Step s tr' s' ∧ s'.exited = true := by
  have hcheck : s.Step .readerChecks { s with reader := .exiting } := ⟨hlive, .readerExits hr hc⟩
  obtain ⟨tr', s', h, he⟩ := exits_of_exiting (s := { s with reader := .exiting }) hlive rfl
  exact ⟨_, s', .cons hcheck h, he⟩

theorem exits_of_reading (hlive : s.Live) (hr : s.reader = .reading) (hc : s.closed = false)
    (hn : s.connClosed = false) : ∃ tr' s', Trace Life.Step s tr' s' ∧ s'.exited = true := by
  have hfail : s.Step .readFails { s with reader := .checking } := ⟨hlive, .readFails hr hn⟩
  obtain ⟨tr', s', h, he⟩ := exits_of_checking (s := { s with reader := .checking }) hlive rfl hc
  exact ⟨_, s', .cons hfail h, he⟩

theorem exits_of_open (hinv : LifeInv s) (hlive : s.Live) (hc : s.closed = false) :
    ∃ tr' s', Trace Life.Step s tr' s' ∧ s'.exited = true := by
  have hn : s.connClosed = false := by
    by_contra hn
    rw [Bool.not_eq_false] at hn
    exact flag_clash (hinv.conn_closed hn) hc
  -- the reader gets to its next read, which fails
  cases hr : s.reader with
  | starting =>
    obtain ⟨tr', s', h', he⟩ :=
      exits_of_reading (s := { s with wg := s.wg + 1, reader := .reading }) hlive rfl hc hn
    exact ⟨_, s', .cons ⟨hlive, .readerAdd hr⟩ h', he⟩
  | reading => exact exits_of_reading hlive hr hc hn
  | received addr data =>
    obtain ⟨tr', s', h', he⟩ := exits_of_reading (s := { s with reader := .reading }) hlive rfl hc hn
    exact ⟨_, s', .cons ⟨hlive, .handle addr data hr⟩ h', he⟩
  | checking => exact exits_of_checking hlive hr hc
  | exiting => exact exits_of_exiting hlive hr
  | finishing | ended =>
    have hover := hinv.reader_over (by rw [hr]; trivial)
    exact (flag_clash hover hc).elim

/-- **When `log.Fatal` can end the process**: as long as no call of `Close` has set the flag, and afterwards
if a goroutine has found it unset before and is at `log.Fatal`; and only when a read or a write has failed by
itself. -/
theorem exits_iff (h : Trace Life.Step {} tr s) (hlive : s.Live) :
    ((∃ tr' s', Trace Life.Step s tr' s' ∧ s'.exited = true) ↔
      s.closed = false ∨ s.reader = .exiting ∨ s.writer = .exiting) ∧
      ∀ tr' s', Trace Life.Step s tr' s' → s'.exited = true →
        .readFails ∈ tr ++ tr' ∨ ∃ p, .writeFails p ∈ tr ++ tr' := by
  constructor
  · constructor
    · rintro ⟨tr', s', h', he⟩
      cases hc : s.closed with
      | false => exact .inl rfl
      | true => exact .inr (exiting_of_exited h hc h' he)
    · rintro (hc | hr | hw)
      · exact exits_of_open (lifeInv_of_trace h) hlive hc
      · exact exits_of_exiting hlive hr
      · exact ⟨_, _, .single ⟨hlive, .writerFatal hw⟩, rfl⟩
  · intro tr' s' h' he
    have hblamed := blamed_of_trace (h.append h')
    exact (hblamed.exited he).imp hblamed.reader_exiting hblamed.writer_exiting

/-- The reader has found the flag unset when `Close` sets it. -/
def lateLife : List LifeAct := [.readerAdd, .readFails, .readerChecks, .close, .closeFlag 0]

theorem trace_lateLife :
    Trace Life.Step {} lateLife { closed := true, wg := 1, reader := .exiting, closers := [.closingChan] } :=
  .cons ⟨⟨rfl, rfl⟩, .readerAdd rfl⟩ <| .cons ⟨⟨rfl, rfl⟩, .readFails rfl rfl⟩ <|
    .cons ⟨⟨rfl, rfl⟩, .readerExits rfl rfl⟩ <| .cons ⟨⟨rfl, rfl⟩, .close⟩ <|
    .single ⟨⟨rfl, rfl⟩, .closeFlag 0 rfl⟩

/-- The process can be ended before `Close` has begun; it can be ended after `Close` has set the flag where
the reader is at `log.Fatal`; and it cannot while `Close` waits for two loops that go on. -/
theorem exits_iff_sample : (∃ tr' s', Trace Life.Step {} tr' s' ∧ s'.exited = true) ∧
    (∃ tr s, Trace Life.Step {} tr s ∧ s.closed = true ∧
      ∃ tr' s', Trace Life.Step s tr' s' ∧ s'.exited = true) ∧
    ¬ ∃ tr' s', Trace Life.Step sampleShut tr' s' ∧ s'.exited = true := by
  refine ⟨(exits_iff .nil ⟨rfl, rfl⟩).1.mpr (.inl rfl), ?_, fun hexit => ?_⟩
  · exact ⟨_, _, trace_lateLife, rfl, (exits_iff trace_lateLife ⟨rfl, rfl⟩).1.mpr (.inr (.inl rfl))⟩
  · obtain hc | hr | hw := (exits_iff trace_sampleLife ⟨rfl, rfl⟩).1.mp hexit
    · cases hc
    · cases hr
    · cases hw

/-! ### In order -/

/-- The packets that are sent on `udpSendChan`. -/
def sentPackets (tr : List LifeAct) : List UdpPacket :=
  tr.filterMap fun
    | .send p => some p
    | _ => none

/-- The packets that are written to the socket. -/
def writtenPackets (tr : List LifeAct) : List UdpPacket :=
  tr.filterMap fun
    | .write p => some p
    | _ => none

/-- The datagrams that are read from the socket. -/
def readDatagrams (tr : List LifeAct) : List (UDPAddr × Bytes) :=
  tr.filterMap fun
    | .read addr data => some (addr, data)
    | _ => none

/-- The datagrams that have a handler. -/
def handledDatagrams (tr : List LifeAct) : List (UDPAddr × Bytes) :=
  tr.filterMap fun
    | .handle addr data => some (addr, data)
    | _ => none

/-- The datagram that the reader has. -/
def Reader.held : Reader → List (UDPAddr × Bytes)
  | .received addr data => [(addr, data)]
  | _ => []

/-- `rest` is what the writer has received and not written. -/
def Writer.Behind (rest : List UdpPacket) : Writer → Prop
  | .starting => rest = []
  | .ranging => rest = []
  | .received p => rest = [p].filter accepted
  | _ => rest.length ≤ 1

theorem Writer.Behind.length_le {w : Writer} {rest : List UdpPacket} (h : w.Behind rest) :
    rest.length ≤ 1 := by
  cases w with
  | starting | ranging =>
    rw [Writer.Behind] at h
    simp [h]
  | received p =>
    rw [Writer.Behind] at h
    rw [h]
    exact List.length_filter_le _ _
  | checking | exiting | finishing | ended => exact h

theorem sentPackets_append : sentPackets (tr ++ tr') = sentPackets tr ++ sentPackets tr' :=
  List.filterMap_append

theorem writtenPackets_append : writtenPackets (tr ++ tr') = writtenPackets tr ++ writtenPackets tr' :=
  List.filterMap_append

theorem readDatagrams_append : readDatagrams (tr ++ tr') = readDatagrams tr ++ readDatagrams tr' :=
  List.filterMap_append

theorem handledDatagrams_append :
    handledDatagrams (tr ++ tr') = handledDatagrams tr ++ handledDatagrams tr' :=
  List.filterMap_append

/-- What a step does to the datagram that the reader has. -/
theorem read_step (hm : s.Move a s') :
    s.reader.held ++ readDatagrams [a] = handledDatagrams [a] ++ s'.reader.held := by
  cases hm with
  | read _ _ hr | handle _ _ hr => simp [hr, Reader.held, readDatagrams, handledDatagrams]
  | readerAdd hr | readFails hr | readClosed hr | readerGoesOn hr | readerExits hr | readerDone hr =>
    simp [hr, Reader.held, readDatagrams, handledDatagrams]
  | _ => simp [readDatagrams, handledDatagrams]

/-- What a step does to the packets that the writer has received and not written. -/
theorem written_step {rest : List UdpPacket} (h : s.writer.Behind rest) (hm : s.Move a s') :
    ∃ rest', rest ++ (sentPackets [a]).filter accepted = writtenPackets [a] ++ rest' ∧
      s'.writer.Behind rest' := by
  have hsame : ∀ {w : Writer}, w.Behind rest → sentPackets [a] = [] → writtenPackets [a] = [] →
      ∃ rest', rest ++ (sentPackets [a]).filter accepted = writtenPackets [a] ++ rest' ∧ w.Behind rest' := by
    intro w hw hsent hwritten
    exact ⟨rest, by simp [hsent, hwritten], hw⟩
  cases hm with
  | writerAdd hw =>
    rw [hw] at h
    exact hsame h rfl rfl
  | send p hw =>
    rw [hw, Writer.Behind] at h
    exact ⟨[p].filter accepted, by rw [h]; rfl, rfl⟩
  | skip p hw hacc =>
    rw [hw, Writer.Behind] at h
    exact hsame (h.trans (by simp [hacc])) rfl rfl
  | write p hw hacc =>
    rw [hw, Writer.Behind] at h
    exact ⟨[], by simp [h, hacc, sentPackets, writtenPackets], rfl⟩
  | writeFails p hw hacc | writeClosed p hw hacc =>
    rw [hw, Writer.Behind] at h
    exact hsame (by simp [Writer.Behind, h, hacc]) rfl rfl
  | rangeEnds hw =>
    rw [hw, Writer.Behind] at h
    exact hsame (by simp [Writer.Behind, h]) rfl rfl
  | writerGoesOn hw | writerExits hw | writerDone hw =>
    rw [hw] at h
    exact hsame h rfl rfl
  | _ => exact hsame h rfl rfl

/-- What has become of the packets and the datagrams. -/
theorem behind_of_trace (h : Trace Life.Step {} tr s) :
    (∃ rest, (sentPackets tr).filter accepted = writtenPackets tr ++ rest ∧ s.writer.Behind rest) ∧
      readDatagrams tr = handledDatagrams tr ++ s.reader.held := by
  induction h with
  | nil => exact ⟨⟨[], rfl, rfl⟩, rfl⟩
  | @snoc tr s₁ s₂ a _ hs ih =>
    obtain ⟨⟨rest, heq, hrest⟩, hread⟩ := ih
    obtain ⟨rest', heq', hrest'⟩ := written_step hrest hs.2
    refine ⟨⟨rest', ?_, hrest'⟩, ?_⟩
    · rw [sentPackets_append, writtenPackets_append, List.filter_append, heq, List.append_assoc, heq',
        List.append_assoc]
    · rw [readDatagrams_append, handledDatagrams_append, hread, List.append_assoc, read_step hs.2,
        List.append_assoc]

/-- **The loops pass on what they get, in order and once.** Of the packets sent on `udpSendChan` that
`GetPacketType` accepts, all are written but one at most, which is in the hands of the writer or could not be
written; of the datagrams read, all have a handler but the one in the hands of the reader. -/
theorem passed_in_order (h : Trace Life.Step {} tr s) :
    (∃ rest, (sentPackets tr).filter accepted = writtenPackets tr ++ rest ∧ rest.length ≤ 1 ∧
      (s.writer = .ranging → rest = [])) ∧
      readDatagrams tr = handledDatagrams tr ++ s.reader.held := by
  obtain ⟨⟨rest, heq, hrest⟩, hread⟩ := behind_of_trace h
  exact ⟨⟨rest, heq, hrest.length_le, fun hw => by rwa [hw] at hrest⟩, hread⟩

theorem passed_in_order_sample : (sentPackets sampleLife).filter accepted = writtenPackets sampleLife ∧
    readDatagrams sampleLife = handledDatagrams sampleLife := by
  obtain ⟨⟨rest, heq, -, hrest⟩, hread⟩ := passed_in_order trace_sampleLife
  exact ⟨by rw [heq, hrest rfl, List.append_nil], by rw [hread]; exact List.append_nil _⟩

/-- The writer does what `sendPackets` does on the packets it has received: the loop passes the same packets
to the socket, and ends with an error exactly when the last of them has not been written. -/
theorem exists_sendPackets_of_trace (h : Trace Life.Step {} tr s) (atEnd : RangeEnd) :
    ∃ outcome ev r n, Runs (writeSem outcome) (sendPackets atEnd (sentPackets tr)).run 0 ev r n ∧
      written ev = (sentPackets tr).filter accepted ∧
      (r = .ok atEnd ↔ writtenPackets tr = (sentPackets tr).filter accepted) := by
  obtain ⟨⟨rest, heq, hrest⟩, -⟩ := behind_of_trace h
  have hle := hrest.length_le
  have hlen : ((sentPackets tr).filter accepted).length = (writtenPackets tr).length + rest.length := by
    rw [heq, List.length_append]
  -- the writes succeed that did
  let outcome : ℕ → Except GwError Unit := fun k =>
    if k < (writtenPackets tr).length then .ok () else .error (.net [])
  have hok : ∀ k, outcome k = .ok () ↔ k < (writtenPackets tr).length := by
    intro k
    by_cases hk : k < (writtenPackets tr).length <;> simp [outcome, hk]
  obtain ⟨ev, r, n, hruns⟩ := exists_sendPackets_runs atEnd outcome 0 (sentPackets tr)
  refine ⟨outcome, ev, r, n, hruns, ?_⟩
  rcases sendPackets_runs hruns with ⟨hall, hw, hr⟩ | ⟨k, e, hlt, hfail, -, hw, hr⟩
  · have hnil : rest = [] := by
      by_contra hne
      have hpos := List.length_pos_iff.mpr hne
      have hlast := hall (writtenPackets tr).length (by omega)
      rw [Nat.zero_add] at hlast
      exact Nat.lt_irrefl _ ((hok _).mp hlast)
    exact ⟨hw, fun _ => by rw [heq, hnil, List.append_nil], fun _ => hr⟩
  · have hk : ¬ k < (writtenPackets tr).length := by
      intro hk
      rw [Nat.zero_add, (hok k).mpr hk] at hfail
      cases hfail
    refine ⟨by rw [hw, List.take_of_length_le (by omega)], fun hr' => ?_, fun hall => ?_⟩
    · rw [hr] at hr'
      cases hr'
    · have hlen' := congrArg List.length hall
      omega

/-! ### After `Close` -/

/-- The steps that the reader has before it at most, once the socket is closed. -/
def Reader.rank : Reader → ℕ
  | .starting => 4
  | .received _ _ => 4
  | .reading => 3
  | .checking => 2
  | .exiting => 1
  | .finishing => 1
  | .ended => 0

/-- The steps that the writer has before it at most, once the channel and the socket are closed. -/
def Writer.rank : Writer → ℕ
  | .starting => 4
  | .received _ => 4
  | .ranging => 3
  | .checking => 2
  | .exiting => 1
  | .finishing => 1
  | .ended => 0

/-- The steps of both loops together; none, once the process has ended. -/
def Life.rank (s : Life) : ℕ := if s.exited then 0 else s.reader.rank + s.writer.rank

/-- The step is one of the reader or of the writer. -/
def LifeAct.ofLoop : LifeAct → Bool
  | .readerAdd | .read _ _ | .handle _ _ | .readFails | .readClosed => true
  | .readerChecks | .readerFatal | .readerDone => true
  | .writerAdd | .send _ | .skip _ | .write _ | .writeFails _ | .writeClosed _ | .rangeEnds => true
  | .writerChecks | .writerFatal | .writerDone => true
  | _ => false

/-- `Close` has done all but wait. -/
structure Life.Shut (s : Life) : Prop where
  closed : s.closed = true
  sendClosed : s.sendClosed = true
  connClosed : s.connClosed = true

theorem Life.Shut.step (h : s.Shut) (hm : s.Move a s') : s'.Shut :=
  ⟨closed_step hm h.closed, sendClosed_step hm h.sendClosed, connClosed_step hm h.connClosed⟩

theorem Life.Shut.trace (h : s.Shut) (ht : Trace Life.Step s tr s') : s'.Shut :=
  ht.invariant_state (I := Life.Shut) h fun _ _ _ h hs => h.step hs.2

theorem shut_of_waiting (h : Trace Life.Step {} tr s) (hi : s.closers[i]? = some .waiting) : s.Shut := by
  obtain ⟨hc, hs, hn⟩ := (lifeInv_of_trace h).closers_did _ (List.mem_of_getElem? hi)
  exact ⟨hc, hs, hn⟩

/-- A step of a loop brings it closer to its end. -/
theorem rank_step (h : s.Shut) (hs : s.Step a s') :
    ([a].filter LifeAct.ofLoop).length + s'.rank ≤ s.rank := by
  have hlive := hs.1.2
  have hrank : s.rank = s.reader.rank + s.writer.rank := by rw [Life.rank, hlive]; rfl
  rw [hrank]
  cases hs.2 with
  | read _ _ _ hn | readFails _ hn | write _ _ _ hn | writeFails _ _ _ hn =>
    exact (flag_clash h.connClosed hn).elim
  | send _ _ hn => exact (flag_clash h.sendClosed hn).elim
  | readerExits _ hc | writerExits _ hc => exact (flag_clash h.closed hc).elim
  | readerAdd hr | handle _ _ hr | readClosed hr | readerGoesOn hr | readerDone hr =>
    simp only [hr, hlive, Life.rank, Reader.rank, LifeAct.ofLoop, List.filter_cons, List.filter_nil,
      if_true, List.length_singleton, Bool.false_eq_true, if_false]
    omega
  | writerAdd hw | skip _ hw | writeClosed _ hw | rangeEnds hw | writerGoesOn hw | writerDone hw =>
    simp only [hw, hlive, Life.rank, Writer.rank, LifeAct.ofLoop, List.filter_cons, List.filter_nil,
      if_true, List.length_singleton, Bool.false_eq_true, if_false]
    omega
  | readerFatal hr =>
    rw [hr]
    exact Nat.le_add_right 1 _
  | writerFatal hw =>
    rw [hw]
    exact Nat.le_add_left 1 _
  | _ =>
    rw [Life.rank, hlive]
    exact (Nat.zero_add _).le

theorem rank_trace (h : s.Shut) (ht : Trace Life.Step s tr s') :
    (tr.filter LifeAct.ofLoop).length + s'.rank ≤ s.rank := by
  induction ht with
  | nil => exact (Nat.zero_add _).le
  | snoc ht hs ih =>
    have hstep := rank_step (h.trace ht) hs
    rw [List.filter_append, List.length_append]
    omega

theorem Reader.rank_le (r : Reader) : r.rank ≤ 4 := by
  cases r <;> simp [Reader.rank]

theorem Writer.rank_le (w : Writer) : w.rank ≤ 4 := by
  cases w <;> simp [Writer.rank]

theorem Life.rank_le (s : Life) : s.rank ≤ 8 := by
  have hr := s.reader.rank_le
  have hw := s.writer.rank_le
  rw [Life.rank]
  split_ifs
  · exact Nat.zero_le _
  · omega

theorem silent_of_shut (h : s.Shut) (ht : Trace Life.Step s tr s') :
    readDatagrams tr = [] ∧ writtenPackets tr = [] := by
  induction ht with
  | nil => exact ⟨rfl, rfl⟩
  | @snoc tr s₁ s₂ a ht hs ih =>
    obtain ⟨hread, hwritten⟩ := ih
    have hshut := h.trace ht
    rw [readDatagrams_append, writtenPackets_append, hread, hwritten]
    cases hs.2 with
    | read _ _ _ hn | write _ _ _ hn => exact (flag_clash hshut.connClosed hn).elim
    | _ => exact ⟨rfl, rfl⟩

/-- A loop that has not ended can go on. -/
theorem loops_go_on (h : s.Shut) (hlive : s.Live) :
    (∃ a s', a.ofLoop = true ∧ s.Step a s') ∨ s.reader = .ended ∧ s.writer = .ended := by
  cases hr : s.reader with
  | starting => exact .inl ⟨_, _, rfl, hlive, .readerAdd hr⟩
  | reading => exact .inl ⟨_, _, rfl, hlive, .readClosed hr h.connClosed⟩
  | received addr data => exact .inl ⟨_, _, rfl, hlive, .handle addr data hr⟩
  | checking => exact .inl ⟨_, _, rfl, hlive, .readerGoesOn hr h.closed⟩
  | exiting => exact .inl ⟨_, _, rfl, hlive, .readerFatal hr⟩
  | finishing => exact .inl ⟨_, _, rfl, hlive, .readerDone hr⟩
  | ended =>
    cases hw : s.writer with
    | starting => exact .inl ⟨_, _, rfl, hlive, .writerAdd hw⟩
    | ranging => exact .inl ⟨_, _, rfl, hlive, .rangeEnds hw h.sendClosed⟩
    | received p =>
      cases hacc : accepted p with
      | false => exact .inl ⟨_, _, rfl, hlive, .skip p hw hacc⟩
      | true => exact .inl ⟨_, _, rfl, hlive, .writeClosed p hw hacc h.connClosed⟩
    | checking => exact .inl ⟨_, _, rfl, hlive, .writerGoesOn hw h.closed⟩
    | exiting => exact .inl ⟨_, _, rfl, hlive, .writerFatal hw⟩
    | finishing => exact .inl ⟨_, _, rfl, hlive, .writerDone hw⟩
    | ended => exact .inr ⟨rfl, rfl⟩

/-- While `Close` waits, a loop can go on or `Close` can. -/
theorem wait_goes_on (hinv : LifeInv s) (h : s.Shut) (hlive : s.Live) (hi : s.closers[i]? = some .waiting) :
    (∃ a s', a.ofLoop = true ∧ s.Step a s') ∨ ∃ s', s.Step (.closeWaited i) s' := by
  obtain hloop | ⟨hr, hw⟩ := loops_go_on h hlive
  · exact .inl hloop
  · have hwg : s.wg = 0 := by
      rw [hinv.wg_eq, hr, hw]
      rfl
    exact .inr ⟨_, hlive, .closeWaited i hi hwg⟩

theorem Reader.count_nonneg (r : Reader) : 0 ≤ r.count := by
  cases r <;> simp [Reader.count]

theorem Writer.count_nonneg (w : Writer) : 0 ≤ w.count := by
  cases w <;> simp [Writer.count]

/-- When `Close` can return: both loops are before their `Add` or after their `Done`. -/
theorem waited_iff (hinv : LifeInv s) (hlive : s.Live) (hi : s.closers[i]? = some .waiting) :
    (∃ s', s.Step (.closeWaited i) s') ↔
      (s.reader = .starting ∨ s.reader = .ended) ∧ (s.writer = .starting ∨ s.writer = .ended) := by
  have hreader : s.reader.count = 0 ↔ s.reader = .starting ∨ s.reader = .ended := by
    cases s.reader <;> simp [Reader.count]
  have hwriter : s.writer.count = 0 ↔ s.writer = .starting ∨ s.writer = .ended := by
    cases s.writer <;> simp [Writer.count]
  have hr := s.reader.count_nonneg
  have hw := s.writer.count_nonneg
  rw [← hreader, ← hwriter]
  constructor
  · rintro ⟨s', -, hm⟩
    cases hm with
    | closeWaited _ _ hwg =>
      rw [hinv.wg_eq] at hwg
      omega
  · rintro ⟨hr, hw⟩
    refine ⟨_, hlive, .closeWaited i hi ?_⟩
    rw [hinv.wg_eq, hr, hw]
    rfl

/-- **`Close` returns.** From when it waits, whatever happens: nothing more is read or written, and
`log.Fatal` ends the process only if a loop was at it by then; the loops make eight steps at most; and as
long as the process goes on and `Close` waits, a loop has a step to make, or `Close` can return. It can
return before a loop has begun, and not before a loop that has begun has ended. -/
theorem close_returns (h : Trace Life.Step {} tr s) (hi : s.closers[i]? = some .waiting)
    (ht : Trace Life.Step s tr' s') :
    readDatagrams tr' = [] ∧ writtenPackets tr' = [] ∧
      (s'.exited = true → s.reader = .exiting ∨ s.writer = .exiting) ∧
      (tr'.filter LifeAct.ofLoop).length ≤ 8 ∧
      (s'.Live → s'.closers[i]? = some .waiting →
        ((∃ a s'', a.ofLoop = true ∧ s'.Step a s'') ∨ ∃ s'', s'.Step (.closeWaited i) s'') ∧
        ((∃ s'', s'.Step (.closeWaited i) s'') ↔
          (s'.reader = .starting ∨ s'.reader = .ended) ∧ (s'.writer = .starting ∨ s'.writer = .ended))) := by
  have hshut := shut_of_waiting h hi
  have hinv := lifeInv_of_trace (h.append ht)
  obtain ⟨hread, hwritten⟩ := silent_of_shut hshut ht
  have hrank := rank_trace hshut ht
  have hle := s.rank_le
  refine ⟨hread, hwritten, exiting_of_exited h hshut.closed ht, by omega, fun hlive' hi' => ?_⟩
  exact ⟨wait_goes_on hinv (hshut.trace ht) hlive' hi', waited_iff hinv hlive' hi'⟩

/-- The loops end, and `Close` can return. -/
theorem close_returns_sample : ∃ tr' s', Trace Life.Step sampleShut tr' s' ∧
    (tr'.filter LifeAct.ofLoop).length ≤ 8 ∧ ∃ s'', s'.Step (.closeWaited 0) s'' := by
  have hend : Trace Life.Step sampleShut
      [.readClosed, .rangeEnds, .writerChecks, .readerChecks, .readerDone, .writerDone]
      { sampleShut with wg := 0, reader := .ended, writer := .ended } :=
    .cons ⟨⟨rfl, rfl⟩, .readClosed rfl rfl⟩ <| .cons ⟨⟨rfl, rfl⟩, .rangeEnds rfl rfl⟩ <|
      .cons ⟨⟨rfl, rfl⟩, .writerGoesOn rfl rfl⟩ <| .cons ⟨⟨rfl, rfl⟩, .readerGoesOn rfl rfl⟩ <|
      .cons ⟨⟨rfl, rfl⟩, .readerDone rfl⟩ <| .single ⟨⟨rfl, rfl⟩, .writerDone rfl⟩
  obtain ⟨-, -, -, hle, hwait⟩ := close_returns (i := 0) trace_sampleLife rfl hend
  exact ⟨_, _, hend, hle, (hwait ⟨rfl, rfl⟩ rfl).2.mpr ⟨.inr rfl, .inr rfl⟩⟩

end GatewayBridge.Semtech
