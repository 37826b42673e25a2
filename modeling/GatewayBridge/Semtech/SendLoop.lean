import GatewayBridge.Semtech.Backend
import GatewayBridge.Semtech.Wire

/-!
# The send loop

`sendPackets` of `gateway/backend.go`: it ranges over `udpSendChan` and writes each
datagram that `GetPacketType` accepts to the socket. The packets it receives are a
list, with what comes after them: the channel is closed, or the loop waits for the
next one. How each call of `WriteToUDP` ends is given by its number.

A failed write returns from the loop. `sendPackets_runs` says how far the loop gets,
and `sendPackets_writes_all_iff` that it gets to the end exactly when no write fails.
-/

namespace GatewayBridge.Semtech

open GatewayBridge.Go GatewayBridge.Process Prog

/-- What the loop does to the socket. -/
inductive WriteEff where
  /-- `b.conn.WriteToUDP(p.data, p.addr)`. -/
  | writeToUDP (p : UdpPacket)

/-- The answers: the error, if any. -/
abbrev WriteEff.Resp : WriteEff → Type
  | .writeToUDP _ => Except GwError Unit

/-- How `range b.udpSendChan` ends when the packets are used up. -/
inductive RangeEnd where
  /-- The channel is closed, and the loop returns `nil`. -/
  | closed
  /-- The loop waits for the next packet. -/
  | waiting
  deriving DecidableEq

/-- `sendPackets`, on the packets it receives. -/
def sendPackets (atEnd : RangeEnd) : List UdpPacket → GoProg GwError WriteEff WriteEff.Resp RangeEnd
  | [] => lift (.ok atEnd)
  | p :: rest =>
      match getPacketType p.data with
      | .error (.err _) => sendPackets atEnd rest
      | .error (.panic panic) => lift (.error (.panic panic))
      | .ok _ => do
          -- the version is read for the log entry
          let _ ← lift (index p.data 0)
          lift (orFail id (← perform (WriteEff.writeToUDP p)))
          sendPackets atEnd rest

/-- The calls of `WriteToUDP` are numbered, and `outcome` says how each ends. -/
def writeSem (outcome : ℕ → Except GwError Unit) : (e : WriteEff) → ℕ → e.Resp → ℕ → Prop
  | .writeToUDP _, n, r, n' => r = outcome n ∧ n' = n + 1

/-- The packets passed to `WriteToUDP`, in order. -/
def written (tr : List (Event WriteEff WriteEff.Resp)) : List UdpPacket :=
  tr.map fun ev => match ev.1 with
    | .writeToUDP p => p

/-- `GetPacketType` accepts the header of the packet. -/
def accepted (p : UdpPacket) : Bool :=
  match getPacketType p.data with
  | .ok _ => true
  | .error _ => false

variable {atEnd : RangeEnd} {outcome : ℕ → Except GwError Unit} {n n' : ℕ}
  {tr : List (Event WriteEff WriteEff.Resp)} {r : Except (Fault GwError) RangeEnd}

/-- A packet that is not accepted is skipped. -/
theorem sendPackets_of_not_accepted {p : UdpPacket} (rest : List UdpPacket) (hp : accepted p = false) :
    sendPackets atEnd (p :: rest) = sendPackets atEnd rest := by
  rcases getPacketType_cases p.data with ⟨e, he⟩ | ⟨v, lo, hi, t, rest', -, -, ht⟩
  · rw [sendPackets, he]
    rfl
  · rw [accepted, ht] at hp
    cases hp

/-- A packet that is accepted is written, and a failed write ends the loop. -/
theorem sendPackets_of_accepted {p : UdpPacket} (rest : List UdpPacket) (hp : accepted p = true) :
    (sendPackets atEnd (p :: rest)).run = .eff (.writeToUDP p) fun answer =>
      match answer with
      | .ok _ => (sendPackets atEnd rest).run
      | .error e => .ret (fail e) := by
  rcases getPacketType_cases p.data with ⟨e, he⟩ | ⟨v, lo, hi, t, rest', hdata, -, ht⟩
  · rw [accepted, he] at hp
    cases hp
  · rw [sendPackets, ht, hdata]
    refine congrArg (Prog.eff (WriteEff.writeToUDP p)) (funext fun answer => ?_)
    cases answer with
    | ok _ => rfl
    | error e => rfl

theorem outcome_shift {k : ℕ} (h₀ : outcome n = .ok ()) (h : ∀ j < k, outcome (n + 1 + j) = .ok ()) :
    ∀ j < k + 1, outcome (n + j) = .ok () := by
  intro j hj
  cases j with
  | zero => exact h₀
  | succ j =>
    have hj' := h j (by omega)
    rwa [Nat.add_right_comm] at hj'

/-- **How far the loop gets**: to the end, or up to the first write that fails. -/
theorem sendPackets_runs {queue : List UdpPacket}
    (h : Runs (writeSem outcome) (sendPackets atEnd queue).run n tr r n') :
    ((∀ k < (queue.filter accepted).length, outcome (n + k) = .ok ()) ∧
      written tr = queue.filter accepted ∧ r = .ok atEnd) ∨
    ∃ k e, k < (queue.filter accepted).length ∧ outcome (n + k) = .error e ∧
      (∀ j < k, outcome (n + j) = .ok ()) ∧
      written tr = (queue.filter accepted).take (k + 1) ∧ r = fail e := by
  induction queue generalizing n tr with
  | nil =>
    obtain ⟨rfl, rfl, rfl⟩ := runs_lift_iff.mp h
    exact .inl ⟨nofun, rfl, rfl⟩
  | cons p rest ih =>
    cases hp : accepted p with
    | false =>
      rw [sendPackets_of_not_accepted rest hp] at h
      rw [List.filter_cons_of_neg (by simp [hp])]
      exact ih h
    | true =>
      rw [sendPackets_of_accepted rest hp] at h
      rw [List.filter_cons_of_pos hp, List.length_cons]
      obtain ⟨answer, _, tr', ⟨hanswer, rfl⟩, rfl, hk⟩ := runs_eff_iff.mp h
      cases answer with
      | error e =>
        obtain ⟨rfl, rfl, -⟩ := runs_ret_iff.mp hk
        exact .inr ⟨0, e, Nat.succ_pos _, hanswer.symm, nofun, rfl, rfl⟩
      | ok _ =>
        rcases ih hk with ⟨hall, hw, hr⟩ | ⟨k, e, hlt, hfail, hbefore, hw, hr⟩
        · exact .inl ⟨outcome_shift hanswer.symm hall, congrArg (p :: ·) hw, hr⟩
        · rw [Nat.add_right_comm] at hfail
          exact .inr ⟨k + 1, e, by omega, hfail, outcome_shift hanswer.symm hbefore, congrArg (p :: ·) hw, hr⟩

/-- The loop runs until it ends or waits. -/
theorem exists_sendPackets_runs (atEnd : RangeEnd) (outcome : ℕ → Except GwError Unit) (n : ℕ)
    (queue : List UdpPacket) :
    ∃ tr r n', Runs (writeSem outcome) (sendPackets atEnd queue).run n tr r n' :=
  exists_runs (fun _ _ n => ⟨outcome n, n + 1, rfl, rfl⟩) (uses_of_forall (fun _ => trivial) _) n

/-- **The loop passes every accepted packet to `WriteToUDP` once, in order, and ends only with the
channel, exactly when none of these writes fails.** -/
theorem sendPackets_writes_all_iff (atEnd : RangeEnd) (outcome : ℕ → Except GwError Unit)
    (queue : List UdpPacket) :
    (∃ tr r n, Runs (writeSem outcome) (sendPackets atEnd queue).run 0 tr r n) ∧
      ∀ tr r n, Runs (writeSem outcome) (sendPackets atEnd queue).run 0 tr r n →
        (written tr = queue.filter accepted ∧ r = .ok atEnd ↔
          ∀ k < (queue.filter accepted).length, outcome k = .ok ()) := by
  refine ⟨exists_sendPackets_runs atEnd outcome 0 queue, fun tr r n h => ?_⟩
  have hruns := sendPackets_runs h
  simp only [Nat.zero_add] at hruns
  rcases hruns with ⟨hall, hw, hr⟩ | ⟨k, e, hlt, hfail, -, -, hr⟩
  · exact ⟨fun _ => hall, fun _ => ⟨hw, hr⟩⟩
  · constructor
    · intro hloop
      rw [hr] at hloop
      cases hloop.2
    · intro hall
      rw [hall k hlt] at hfail
      cases hfail

/-- An acknowledgement, to a gateway that sent from port 0. -/
def samplePort0 : UdpPacket := ⟨some ⟨[192, 168, 1, 2], 0, []⟩, [2, 57, 48, 4]⟩

/-- Two acknowledgements, to two gateways. -/
def sampleQueue : List UdpPacket := [samplePort0, ⟨some ⟨[192, 168, 1, 3], 1700, []⟩, [1, 0, 0, 1]⟩]

/-- Two packets are both written when both writes succeed. -/
theorem sendPackets_writes_both :
    ∃ tr n, Runs (writeSem fun _ => .ok ()) (sendPackets .waiting sampleQueue).run 0 tr (.ok .waiting) n ∧
      written tr = sampleQueue := by
  obtain ⟨⟨tr, r, n, h⟩, hall⟩ := sendPackets_writes_all_iff .waiting (fun _ => .ok ()) sampleQueue
  obtain ⟨hw, rfl⟩ := (hall tr r n h).mpr fun _ _ => rfl
  exact ⟨tr, n, h, hw⟩

/-- A packet after one that goes to port 0 is never written, and the loop ends with the channel open. -/
theorem sendPackets_stops_at_failure :
    ∃ tr n, Runs (writeSem fun k => if k = 0 then .error (.net (str "invalid argument")) else .ok ())
        (sendPackets .waiting sampleQueue).run 0 tr (fail (.net (str "invalid argument"))) n ∧
      written tr ≠ sampleQueue.filter accepted := by
  have hacc : accepted samplePort0 = true := by decide
  refine ⟨[⟨.writeToUDP samplePort0, .error (.net (str "invalid argument"))⟩], 1, ?_, ?_⟩
  · rw [sampleQueue, sendPackets_of_accepted _ hacc]
    exact .eff ⟨rfl, rfl⟩ .ret
  · decide

end GatewayBridge.Semtech
