import GatewayBridge.Semtech.Routing

/-!
# Shutdown

`Close` closes `udpSendChan` first, then the socket, and then waits for the two loops.
The handlers are not among what it waits for, and a datagram can still be read after the
channel is closed, so a handler that is between its decoding and its send panics
(`handler_panics_after_close`).

Whether it comes to that is decided by where the goroutines are when the channel is
closed, and by what starts afterwards (`Orderly`):

* a handler of a PULL_DATA or a PUSH_DATA must be past its acknowledgement, and a `Send`
  past its send, unless it is still to read the registry and finds no gateway there or
  has no text to send (`BeforeSend`);
* no PULL_DATA and no PUSH_DATA may be read any more, and no `Send` called for a
  gateway of the registry.

In the runs whose steps are all orderly nothing is sent on the closed channel
(`no_send_after_close`). A run that takes any other step can go on to such a send
(`late_send_of_start`, `late_send_of_close`), so no part of the condition can be left out.
-/

namespace GatewayBridge.Semtech

open GatewayBridge.Go GatewayBridge.Lora GatewayBridge.Process Prog

variable {J : Codecs} {cb : Callbacks} {h : List BackendEntry} {c : BackendCfg} {i : ℕ} {l : Call}
  {s s' : BackendState} {addr : UDPAddr} {data : Bytes} {txPacket : TXPacketBytes}
  {tr : List (Event Eff Eff.Resp)} {p q : Prog Eff Eff.Resp (Except (Fault GwError) Unit)}

/-! ### The points of the code -/

/-- The gateway of the packet is in the registry, and the PULL_RESP has a text. -/
def Reaches (J : Codecs) (s : BackendState) (txPacket : TXPacketBytes) : Prop :=
  txPacket.txInfo.mac ∈ s.gateways ∧ ∃ pb, J.pullResp.marshal ⟨newTXPKFromTXPacket txPacket⟩ = .ok pb

/-- Where in its code a call has its send on `udpSendChan` before it: `handlePullData` at
`time.Now()`, at `set` and at its acknowledgement, `handlePushData` at its acknowledgement, `Send`
at its send, and at `get` if it is going to find the gateway. -/
def BeforeSend (J : Codecs) (s : BackendState) :
    Call → Prog Eff Eff.Resp (Except (Fault GwError) Unit) → Prop
  | .datagram _ _, .eff .now _ | .datagram _ _, .eff (.set _ _) _ | .datagram _ _, .eff (.udpSend _) _ => True
  | .send txPacket, .eff (.get _) _ => Reaches J s txPacket
  | .send _, .eff (.udpSend _) _ => True
  | _, _ => False

/-- The datagram gets a handler that acknowledges. -/
def Acknowledges (J : Codecs) (data : Bytes) : Prop :=
  (∃ p, PullDataPacket.unmarshalBinary data = .ok p) ∨ ∃ p, PushDataPacket.unmarshalBinary J data = .ok p

/-- The steps of an orderly shutdown: `udpSendChan` is closed when no goroutine is at a point before its
send, and from then on no datagram is read that would be acknowledged, and no `Send` is called that would
reach its gateway. -/
def Orderly (J : Codecs) (c : BackendCfg) : Move Call Eff → Prop
  | .start (.datagram _ data) => c.shared.udpSendClosed = true → ¬ Acknowledges J data
  | .start (.send txPacket) => c.shared.udpSendClosed = true → ¬ Reaches J c.shared txPacket
  | .start _ => True
  | .act _ .closeUdpSendChan => ∀ t ∈ c.threads, ¬ BeforeSend J c.shared t.call t.prog
  | .act _ _ => True

/-! ### From point to point -/

/-- With every registration it makes successful, the program comes to a send on `udpSendChan`. -/
def WillSend : Prog Eff Eff.Resp (Except (Fault GwError) Unit) → Prop
  | .eff .now k => ∀ now, WillSend (k now)
  | .eff (.set _ _) k => WillSend (k (.ok ()))
  | .eff (.udpSend _) _ => True
  | _ => False

theorem WillSend.beforeSend (hq : WillSend q) : BeforeSend J s (.datagram addr data) q := by
  cases q with
  | ret a => exact hq
  | eff e k =>
    cases e with
    | now | set _ _ | udpSend _ => trivial
    | _ => exact hq

/-- A handler is past its acknowledgement, or on its way to it. -/
theorem datagram_point (hex : Exec (handlePacket J addr data).run tr q) : q.Uses Acknowledged ∨ WillSend q := by
  rcases handlePacket_cases J addr data with ⟨p, hp, hrun⟩ | ⟨p, hp, hrun⟩ | ⟨-, -, hrun⟩ | ⟨-, -, -, e, hrun⟩
  · obtain ⟨t₀, t₁, hdata⟩ := exists_isPullData hp
    rw [handlePacket_run_of_isPullData hdata] at hex
    obtain ⟨-, rfl⟩ | ⟨now, _, -, hex⟩ := exec_eff_iff.mp hex
    · exact .inr fun _ => trivial
    obtain ⟨-, rfl⟩ | ⟨answer, _, -, hex⟩ := exec_eff_iff.mp hex
    · exact .inr trivial
    cases answer with
    | error e =>
      obtain ⟨-, rfl⟩ := exec_ret_iff.mp hex
      exact .inl trivial
    | ok _ =>
      obtain ⟨-, rfl⟩ | ⟨answer, _, -, hex⟩ := exec_eff_iff.mp hex
      · exact .inr trivial
      obtain ⟨-, rfl⟩ := exec_ret_iff.mp hex
      exact .inl trivial
  · obtain ⟨ack, k, hpush, hk⟩ := handlePushData_run addr hp
    rw [hrun, hpush] at hex
    obtain ⟨-, rfl⟩ | ⟨answer, _, -, hex⟩ := exec_eff_iff.mp hex
    · exact .inr trivial
    · exact .inl ((hk answer).exec hex).2
  · rw [hrun] at hex
    obtain ⟨-, rfl⟩ := exec_ret_iff.mp hex
    exact .inl trivial
  · rw [hrun] at hex
    obtain ⟨-, rfl⟩ := exec_ret_iff.mp hex
    exact .inl trivial

theorem not_beforeSend_of_acknowledged (hq : q.Uses Acknowledged) : ¬ BeforeSend J s (.datagram addr data) q := by
  cases q with
  | ret a => exact id
  | eff e k =>
    cases e with
    | now | set _ _ | udpSend _ => exact fun _ => hq.1
    | _ => exact id

theorem acknowledges_willSend (hdata : Acknowledges J data) : WillSend (handlePacket J addr data).run := by
  rcases hdata with ⟨p, hp⟩ | ⟨p, hp⟩
  · obtain ⟨t₀, t₁, hdata⟩ := exists_isPullData hp
    rw [handlePacket_run_of_isPullData hdata]
    exact fun _ => trivial
  · obtain ⟨ack, k, hpush, -⟩ := handlePushData_run addr hp
    rw [handlePacket_eq (Packet.DecodedFrom.getPacketType (p := .pushData p) hp)]
    change WillSend (handlePushData J addr data).run
    rw [hpush]
    trivial

/-- Without a text `Send` ends once it has read the registry. -/
theorem send_run_of_no_text (hpb : ∀ pb, J.pullResp.marshal ⟨newTXPKFromTXPacket txPacket⟩ ≠ .ok pb) :
    ∃ k, (send J txPacket).run = .eff (.get txPacket.txInfo.mac) k ∧ ∀ g, ∃ a, k g = .ret a := by
  cases htext : J.pullResp.marshal ⟨newTXPKFromTXPacket txPacket⟩ with
  | ok pb => exact absurd htext (hpb pb)
  | error e =>
    refine ⟨_, rfl, fun g => ?_⟩
    obtain ⟨gw, err⟩ := g
    cases err with
    | some e => exact ⟨_, rfl⟩
    | none =>
      simp only [bind_ret, ExceptT.bindCont, PullRespPacket.marshalBinary, htext]
      exact ⟨_, rfl⟩

theorem send_not_beforeSend {e : Eff} {k : e.Resp → Prog Eff Eff.Resp (Except (Fault GwError) Unit)} {r : e.Resp}
    (hex : Exec (send J txPacket).run tr (.eff e k)) (hs : sem cb e s r s')
    (hnot : ¬ BeforeSend J s (.send txPacket) (.eff e k)) : ¬ BeforeSend J s' (.send txPacket) (k r) := by
  by_cases htext : ∃ pb, J.pullResp.marshal ⟨newTXPKFromTXPacket txPacket⟩ = .ok pb
  · obtain ⟨pb, hpb⟩ := htext
    rw [send_run hpb] at hex
    obtain ⟨-, heq⟩ | ⟨⟨gw, err⟩, _, -, hex⟩ := exec_eff_iff.mp hex
    · -- it reads the registry, and the gateway is not there
      cases heq
      obtain ⟨gw, err⟩ := r
      obtain ⟨hlookup, -⟩ | ⟨-, rfl⟩ := get_answer hs
      · exact absurd ⟨Finmap.mem_of_lookup_eq_some hlookup, pb, hpb⟩ hnot
      · exact id
    cases err with
    | some e =>
      obtain ⟨-, heq⟩ := exec_ret_iff.mp hex
      cases heq
    | none =>
      obtain ⟨-, heq⟩ | ⟨answer, _, -, hex⟩ := exec_eff_iff.mp hex
      · cases heq
        exact absurd trivial hnot
      · obtain ⟨-, heq⟩ := exec_ret_iff.mp hex
        cases heq
  · obtain ⟨k', hrun, hk'⟩ := send_run_of_no_text (not_exists.mp htext)
    rw [hrun] at hex
    obtain ⟨-, heq⟩ | ⟨g, _, -, hex⟩ := exec_eff_iff.mp hex
    · cases heq
      obtain ⟨a, ha⟩ := hk' r
      rw [ha]
      exact id
    · obtain ⟨a, ha⟩ := hk' g
      rw [ha] at hex
      obtain ⟨-, heq⟩ := exec_ret_iff.mp hex
      cases heq

/-- **A goroutine that is not before its send does not come before it again.** -/
theorem not_beforeSend_step {e : Eff} {k : e.Resp → Prog Eff Eff.Resp (Except (Fault GwError) Unit)} {r : e.Resp}
    (hex : Exec (l.body J) tr (.eff e k)) (hs : sem cb e s r s') (hnot : ¬ BeforeSend J s l (.eff e k)) :
    ¬ BeforeSend J s' l (k r) := by
  cases l with
  | datagram addr data =>
    obtain hpast | hwill := datagram_point hex
    · exact not_beforeSend_of_acknowledged (hpast.2 r)
    · exact absurd hwill.beforeSend hnot
  | send txPacket => exact send_not_beforeSend hex hs hnot
  | cleanup => exact id
  | close => exact id

/-- Only a handler that is before its send registers a gateway. -/
theorem beforeSend_of_set {mac : EUI64} {gw : Gateway}
    {k : Except GwError Unit → Prog Eff Eff.Resp (Except (Fault GwError) Unit)}
    (hex : Exec (l.body J) tr (.eff (.set mac gw) k)) : BeforeSend J s l (.eff (.set mac gw) k) := by
  have hallowed := ((Call.body_uses J l).exec hex).2.1
  cases l with
  | datagram addr data => trivial
  | send txPacket => exact hallowed
  | cleanup => exact hallowed
  | close => exact hallowed

/-- What sends is before its send. -/
theorem beforeSend_of_udpSend {p : UdpPacket}
    {k : Except Panic Unit → Prog Eff Eff.Resp (Except (Fault GwError) Unit)}
    (hex : Exec (l.body J) tr (.eff (.udpSend p) k)) : BeforeSend J s l (.eff (.udpSend p) k) := by
  have hallowed := ((Call.body_uses J l).exec hex).2.1
  cases l with
  | datagram addr data => trivial
  | send txPacket => trivial
  | cleanup => exact hallowed
  | close => exact hallowed

/-- With no gateway registered in between, a goroutine is before its send only where it was already. -/
theorem BeforeSend.back (hmem : ∀ mac, mac ∈ s'.gateways → mac ∈ s.gateways) (hp : BeforeSend J s' l p) :
    BeforeSend J s l p := by
  cases p with
  | ret a => cases l <;> exact hp
  | eff e k =>
    cases l with
    | datagram addr data => cases e <;> exact hp
    | send txPacket =>
      cases e with
      | get mac => exact ⟨hmem _ hp.1, hp.2⟩
      | _ => exact hp
    | cleanup => exact hp
    | close => exact hp

theorem mem_gateways_back {e : Eff} {r : e.Resp} (hs : sem cb e s r s') (he : ∀ mac gw, e ≠ .set mac gw)
    (mac : EUI64) (hmac : mac ∈ s'.gateways) : mac ∈ s.gateways := by
  rcases sem_lookup hs (fun gw hev => he mac gw (congrArg Sigma.fst hev)) with hsame | ⟨-, hnone⟩
  · rw [← Finmap.lookup_isSome, ← hsame, Finmap.lookup_isSome]
    exact hmac
  · exact absurd hmac (Finmap.lookup_eq_none.mp hnone)

/-! ### Orderly runs -/

/-- Once the channel is closed, every goroutine is past its send. -/
structure ShutdownInv (J : Codecs) (h : List BackendEntry) (c : BackendCfg) : Prop where
  /-- No goroutine is before its send. -/
  past : c.shared.udpSendClosed = true → ∀ t ∈ c.threads, ¬ BeforeSend J c.shared t.call t.prog
  /-- Nothing has been sent on the closed channel. -/
  sendsOpen : ∀ en ∈ h, ∀ p r, en.event = ⟨.udpSend p, r⟩ → en.pre.udpSendClosed = false

/-- What starts in an orderly step after the channel is closed does not send. -/
theorem not_beforeSend_start (hclosed : c.shared.udpSendClosed = true) (hok : Orderly J c (.start l)) :
    ¬ BeforeSend J c.shared l (l.body J) := by
  cases l with
  | datagram addr data =>
    change ¬ BeforeSend J c.shared (.datagram addr data) (handlePacket J addr data).run
    rcases handlePacket_cases J addr data with ⟨p, hp, -⟩ | ⟨p, hp, -⟩ | ⟨-, -, hrun⟩ | ⟨-, -, -, e, hrun⟩
    · exact absurd (.inl ⟨p, hp⟩) (hok hclosed)
    · exact absurd (.inr ⟨p, hp⟩) (hok hclosed)
    · rw [hrun]
      exact id
    · rw [hrun]
      exact id
  | send txPacket => exact hok hclosed
  | cleanup => exact id
  | close => exact id

theorem ShutdownInv.start (hinv : ShutdownInv J h c) (hok : Orderly J c (.start l)) :
    ShutdownInv J h (c.start (backend J cb) l) where
  past hclosed t ht := by
    rcases List.mem_append.mp ht with ht | ht
    · exact hinv.past hclosed t ht
    · rw [List.mem_singleton.mp ht]
      exact not_beforeSend_start (c := c) hclosed hok
  sendsOpen := hinv.sendsOpen

theorem ShutdownInv.act (hinv : ShutdownInv J h c) {e : Eff}
    {k : e.Resp → Prog Eff Eff.Resp (Except (Fault GwError) Unit)} {r : e.Resp}
    (hi : c.threads[i]? = some ⟨l, .eff e k⟩) (hex : Exec (l.body J) tr (.eff e k))
    (hs : sem cb e c.shared r s') (hok : Orderly J c (.act i e)) :
    ShutdownInv J (h ++ [⟨i, ⟨e, r⟩, c.shared, s'⟩]) (c.act i l (k r) s') where
  past hclosed t ht := by
    -- the channel was closed before, or it is being closed now
    have hpast : ∀ t ∈ c.threads, ¬ BeforeSend J c.shared t.call t.prog := by
      by_cases he : e = .closeUdpSendChan
      · subst he
        exact hok
      · exact hinv.past ((sem_udpSendClosed hs he).symm.trans hclosed)
    have hthread := hpast _ (List.mem_of_getElem? hi)
    rcases List.mem_or_eq_of_mem_set ht with ht | rfl
    · refine fun hp => hpast t ht (hp.back (mem_gateways_back hs ?_))
      rintro mac gw rfl
      exact hthread (beforeSend_of_set hex)
    · exact not_beforeSend_step hex hs hthread
  sendsOpen en hen p r' hev := by
    rcases List.mem_append.mp hen with hen | hen
    · exact hinv.sendsOpen en hen p r' hev
    · rw [List.mem_singleton.mp hen] at hev ⊢
      cases hev
      by_contra hclosed
      exact hinv.past (Bool.not_eq_false _ ▸ hclosed) _ (List.mem_of_getElem? hi) (beforeSend_of_udpSend hex)

theorem shutdownInv_of_run (hr : Run (backend J cb) (Orderly J) {} h c) : ShutdownInv J h c := by
  induction hr with
  | init => exact ⟨nofun, List.forall_mem_nil _⟩
  | start l _ _ hok ih => exact ih.start hok
  | act hr hi hs hok ih => exact ih.act hi (hr.exec hi) hs hok

/-- **In an orderly run nothing is sent on `udpSendChan` after it is closed**, and so no send panics. -/
theorem no_send_after_close (hr : Run (backend J cb) (Orderly J) {} h c) :
    ∀ en ∈ h, ∀ p r, en.event = ⟨.udpSend p, r⟩ → en.pre.udpSendClosed = false ∧ r = .ok () := by
  intro en hen p r hev
  have hopen := (shutdownInv_of_run hr).sendsOpen en hen p r hev
  have hs : sem cb en.event.1 en.pre en.event.2 en.post := hr.linked.sem_of_mem hen
  rw [hev] at hs
  exact ⟨hopen, hs.1.trans (sendAnswer_open hopen)⟩

theorem close_run : close.run = .eff .setClosed fun _ => .eff .closeUdpSendChan fun answer =>
    match answer with
    | .error panic => .ret (.error (.panic panic))
    | .ok _ => .eff .connClose fun answer =>
        match answer with
        | .error e => .ret (fail e)
        | .ok _ => .eff .wgWait fun _ => .ret (.ok ()) := by
  refine congrArg (Prog.eff Eff.setClosed) (funext fun _ =>
    congrArg (Prog.eff Eff.closeUdpSendChan) (funext fun answer => ?_))
  cases answer with
  | error panic => rfl
  | ok _ =>
    refine congrArg (Prog.eff Eff.connClose) (funext fun answer => ?_)
    cases answer with
    | error e => rfl
    | ok _ => rfl

/-! ### Runs that are not orderly -/

/-- Goroutine `i` sends on `udpSendChan` after it was closed. -/
def SendsLate (i : ℕ) (h : List BackendEntry) : Prop :=
  ∃ en ∈ h, en.tid = i ∧ (∃ p, en.event.1 = .udpSend p) ∧ en.pre.udpSendClosed = true

theorem SendsLate.prepend (hlate : SendsLate i h) (en : BackendEntry) : SendsLate i (en :: h) := by
  obtain ⟨en', hen', hsends⟩ := hlate
  exact ⟨en', List.mem_cons_of_mem _ hen', hsends⟩

theorem sendsLate_of_willSend (hr : Run (backend J cb) (fun _ _ => True) {} h c)
    (hclosed : c.shared.udpSendClosed = true) (ht : c.threads[i]? = some ⟨l, q⟩) (hq : WillSend q) :
    ∃ h' c', Run (backend J cb) (fun _ _ => True) {} (h ++ h') c' ∧ SendsLate i h' := by
  induction q generalizing h c with
  | ret a => exact hq.elim
  | eff e k ih =>
    cases e with
    | now =>
      have hact := hr.act (r := (0 : ℤ)) ht (sem_now cb 0 c.shared) trivial
      obtain ⟨h', c', hr', hlate⟩ := ih (0 : ℤ) hact hclosed (Cfg.thread_act_self ht) (hq 0)
      exact ⟨_, c', by rwa [List.append_assoc] at hr', hlate.prepend _⟩
    | set mac gw =>
      have hact := hr.act ht (sem_set_ok cb mac gw c.shared) trivial
      obtain ⟨h', c', hr', hlate⟩ := ih (.ok ()) hact hclosed (Cfg.thread_act_self ht) hq
      exact ⟨_, c', by rwa [List.append_assoc] at hr', hlate.prepend _⟩
    | udpSend p =>
      exact ⟨_, _, hr.act ht (sem_udpSend cb p c.shared) trivial, _, List.mem_singleton_self _, rfl, ⟨p, rfl⟩, hclosed⟩
    | _ => exact hq.elim

/-- **With the channel closed, a goroutine that is before its send can come to it.** -/
theorem sendsLate_of_beforeSend (hr : Run (backend J cb) (fun _ _ => True) {} h c)
    (hclosed : c.shared.udpSendClosed = true) (ht : c.threads[i]? = some ⟨l, q⟩)
    (hq : BeforeSend J c.shared l q) :
    ∃ h' c', Run (backend J cb) (fun _ _ => True) {} (h ++ h') c' ∧ SendsLate i h' := by
  have hex := hr.exec ht
  cases l with
  | datagram addr data =>
    obtain hpast | hwill := datagram_point hex
    · exact absurd hq (not_beforeSend_of_acknowledged hpast)
    · exact sendsLate_of_willSend hr hclosed ht hwill
  | send txPacket =>
    cases q with
    | ret a => exact hq.elim
    | eff e k =>
      cases e with
      | get mac =>
        obtain ⟨hmem, pb, hpb⟩ := hq
        obtain ⟨gw, hgw⟩ := Finmap.mem_iff.mp hmem
        change Exec (send J txPacket).run (performed i h) (.eff (.get mac) k) at hex
        rw [send_run hpb] at hex
        obtain ⟨-, heq⟩ | ⟨⟨gw', err⟩, _, -, hex⟩ := exec_eff_iff.mp hex
        · cases heq
          have hs : sem cb (.get txPacket.txInfo.mac) c.shared (gw, none) c.shared := sem_get_ok hgw
          have hact := hr.act ht hs trivial
          obtain ⟨h', c', hr', hlate⟩ := sendsLate_of_willSend hact hclosed (Cfg.thread_act_self ht) trivial
          exact ⟨_, c', by rwa [List.append_assoc] at hr', hlate.prepend _⟩
        · -- a `Send` reads the registry once
          cases err with
          | some e =>
            obtain ⟨-, heq⟩ := exec_ret_iff.mp hex
            cases heq
          | none =>
            obtain ⟨-, heq⟩ | ⟨answer, _, -, hex⟩ := exec_eff_iff.mp hex
            · cases heq
            · obtain ⟨-, heq⟩ := exec_ret_iff.mp hex
              cases heq
      | udpSend p => exact sendsLate_of_willSend hr hclosed ht trivial
      | _ => exact hq.elim
  | cleanup => exact hq.elim
  | close => exact hq.elim

/-- A call that starts in a step that is not orderly can come to send on the closed channel. -/
theorem late_send_of_start (hr : Run (backend J cb) (fun _ _ => True) {} h c)
    (hstarts : (backend J cb).starts l c.shared) (hbad : ¬ Orderly J c (.start l)) :
    ∃ h' c', Run (backend J cb) (fun _ _ => True) {} (h ++ h') c' ∧ SendsLate c.threads.length h' := by
  have hstart := hr.start l hstarts trivial
  have ht : (c.start (backend J cb) l).threads[c.threads.length]? = some ⟨l, l.body J⟩ :=
    List.getElem?_concat_length
  cases l with
  | datagram addr data =>
    obtain ⟨hclosed, hdata⟩ := Classical.not_imp.mp hbad
    exact sendsLate_of_willSend hstart hclosed ht (acknowledges_willSend (not_not.mp hdata))
  | send txPacket =>
    obtain ⟨hclosed, hreach⟩ := Classical.not_imp.mp hbad
    exact sendsLate_of_beforeSend hstart hclosed ht (not_not.mp hreach)
  | cleanup => exact absurd trivial hbad
  | close => exact absurd trivial hbad

/-- A goroutine that is before its send when the channel is closed can come to send on it. -/
theorem late_send_of_close (hr : Run (backend J cb) (fun _ _ => True) {} h c) {j : ℕ} {l' : Call}
    {k : Except Panic Unit → Prog Eff Eff.Resp (Except (Fault GwError) Unit)}
    (hj : c.threads[j]? = some ⟨l', .eff .closeUdpSendChan k⟩) (ht : c.threads[i]? = some ⟨l, q⟩)
    (hq : BeforeSend J c.shared l q) :
    ∃ en h' c', Run (backend J cb) (fun _ _ => True) {} (h ++ en :: h') c' ∧
      en.tid = j ∧ en.event.1 = .closeUdpSendChan ∧ SendsLate i h' := by
  have hij : j ≠ i := by
    rintro rfl
    cases hj.symm.trans ht
    cases l <;> exact hq
  let r : Except Panic Unit := if c.shared.udpSendClosed then .error .closeOfClosedChannel else .ok ()
  have hs : sem cb .closeUdpSendChan c.shared r { c.shared with udpSendClosed := true } := ⟨rfl, rfl⟩
  have hclose := hr.act hj hs trivial
  have ht' : (c.act j l' (k r) { c.shared with udpSendClosed := true }).threads[i]? = some ⟨l, q⟩ :=
    (List.getElem?_set_ne hij).trans ht
  obtain ⟨h', c', hr', hlate⟩ := sendsLate_of_beforeSend hclose rfl ht' (hq.back fun _ hmac => hmac)
  exact ⟨_, h', c', by rwa [List.append_assoc] at hr', rfl, rfl, hlate⟩

/-! ### Runs of `Close` and a handler -/

/-- A `Close` that begins after the handler of a PULL_DATA is done makes an orderly run. -/
theorem no_send_after_close_idle :
    ∃ h c, Run (backend noCodecs ⟨true, true⟩) (Orderly noCodecs) {} h c ∧
      c.shared.udpSendClosed = true ∧
      ∀ en ∈ h, ∀ p r, en.event = ⟨.udpSend p, r⟩ → en.pre.udpSendClosed = false ∧ r = .ok () := by
  let cb : Callbacks := ⟨true, true⟩
  let addr : UDPAddr := ⟨[192, 168, 1, 2], 1700, []⟩
  let gw : Gateway := ⟨some addr, 0, 2⟩
  let s : BackendState := { gateways := (∅ : Gateways).insert sampleMAC gw }
  have hpull := isPullData_samplePull 1 (.inr rfl : (2 : UInt8) = 1 ∨ _)
  have r₀ : Run (backend noCodecs cb) (Orderly noCodecs) {} [] ⟨{}, []⟩ := .init
  have r₁ := r₀.start_of_body (l := Call.datagram addr _) (handlePacket_run_of_isPullData hpull) rfl nofun
  have r₂ := r₁.act (i := 0) (r := (0 : ℤ)) rfl (sem_now cb 0 {}) trivial
  have r₃ := r₂.act (i := 0) rfl (sem_set_ok cb sampleMAC gw {}) trivial
  have r₄ := r₃.act (i := 0) rfl (sem_udpSend cb _ s) trivial
  have r₅ := r₄.start_of_body (l := Call.close) close_run trivial trivial
  have r₆ := r₅.act (i := 1) (r := ()) rfl (sem_setClosed cb s) trivial
  have r₇ := r₆.act (i := 1) rfl (sem_closeUdpSendChan cb rfl) fun t ht => by
    change t ∈ [_, _] at ht
    rcases List.mem_pair.mp ht with rfl | rfl
    · exact id
    · exact id
  exact ⟨_, _, r₇, rfl, no_send_after_close r₇⟩

/-- A handler that is between its `set` and its acknowledgement when `Close` closes the channel panics. -/
theorem handler_panics_after_close :
    ∃ h c, Run (backend noCodecs ⟨true, true⟩) (fun _ _ => True) {} h c ∧
      (∃ en ∈ h, ∃ p r, en.event = ⟨.udpSend p, r⟩ ∧ en.pre.udpSendClosed = true) ∧
      c.threads[0]? = some ⟨.datagram ⟨[192, 168, 1, 2], 1700, []⟩ (samplePull 2 1),
        .ret (.error (.panic .sendOnClosedChannel))⟩ := by
  let cb : Callbacks := ⟨true, true⟩
  let addr : UDPAddr := ⟨[192, 168, 1, 2], 1700, []⟩
  let gw : Gateway := ⟨some addr, 0, 2⟩
  let s : BackendState := { gateways := (∅ : Gateways).insert sampleMAC gw }
  let s' : BackendState := { s with closed := true, udpSendClosed := true }
  have hpull := isPullData_samplePull 1 (.inr rfl : (2 : UInt8) = 1 ∨ _)
  have r₀ : Run (backend noCodecs cb) (fun _ _ => True) {} [] ⟨{}, []⟩ := .init
  have r₁ := r₀.start_of_body (l := Call.datagram addr _) (handlePacket_run_of_isPullData hpull) rfl trivial
  have r₂ := r₁.act (i := 0) (r := (0 : ℤ)) rfl (sem_now cb 0 {}) trivial
  have r₃ := r₂.act (i := 0) rfl (sem_set_ok cb sampleMAC gw {}) trivial
  have r₄ := r₃.start_of_body (l := Call.close) close_run trivial trivial
  have r₅ := r₄.act (i := 1) (r := ()) rfl (sem_setClosed cb s) trivial
  have r₆ := r₅.act (i := 1) rfl (sem_closeUdpSendChan cb rfl) trivial
  have r₇ := r₆.act (i := 0) rfl (sem_udpSend cb _ s') trivial
  exact ⟨_, _, r₇, ⟨_, List.mem_append_right _ (List.mem_singleton_self _), _, _, rfl, rfl⟩, rfl⟩

end GatewayBridge.Semtech
