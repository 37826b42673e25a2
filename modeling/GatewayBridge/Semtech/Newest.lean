import GatewayBridge.Semtech.Routing

/-!
# Which PULL_DATA wins

Each PULL_DATA is handled by a goroutine of its own, which reads the clock and then
calls `gateways.set`. Nothing orders these goroutines: the entry of a MAC is the one
stored by the handler that called `set` last, in whatever order the datagrams came
(`last_set_wins`). It is the one of the datagram received last, and `lastSeen` does
not go back, in runs where the handlers call `set` in that order.
-/

namespace GatewayBridge.Semtech

open GatewayBridge.Go GatewayBridge.Lora GatewayBridge.Process Prog

/-- What an effect stores for a MAC, and which thread stores it. -/
def registration (mac : EUI64) (en : BackendEntry) : Option (ℕ × Gateway) :=
  match en.event with
  | ⟨.set mac' gw, .ok _⟩ => if mac' = mac then some (en.tid, gw) else none
  | _ => none

/-- What was stored for a MAC, in order. -/
def registrations (mac : EUI64) (h : List BackendEntry) : List (ℕ × Gateway) :=
  h.filterMap (registration mac)

variable {J : Codecs} {cb : Callbacks} {ok : BackendCfg → Move Call Eff → Prop} {h : List BackendEntry}
  {c : BackendCfg} {mac : EUI64} {s : BackendState}

theorem registration_eq_some_iff {en : BackendEntry} {i : ℕ} {gw : Gateway} :
    registration mac en = some (i, gw) ↔ en.tid = i ∧ en.event = ⟨.set mac gw, .ok ()⟩ := by
  obtain ⟨tid, ⟨e, r⟩, pre, post⟩ := en
  constructor
  · intro hreg
    cases e with
    | set mac' gw' =>
      cases r with
      | ok _ =>
        change (if mac' = mac then some (tid, gw') else none) = some (i, gw) at hreg
        split_ifs at hreg with hmac
        subst hmac
        cases hreg
        exact ⟨rfl, rfl⟩
      | error e => cases hreg
    | _ => cases hreg
  · rintro ⟨rfl, hev⟩
    cases hev
    exact if_pos rfl

theorem registrations_snoc_some {en : BackendEntry} {reg : ℕ × Gateway} (hreg : registration mac en = some reg) :
    registrations mac (h ++ [en]) = registrations mac h ++ [reg] := by
  rw [registrations, List.filterMap_append, List.filterMap_cons_some hreg, List.filterMap_nil]
  rfl

theorem registrations_snoc_none {en : BackendEntry} (hreg : registration mac en = none) :
    registrations mac (h ++ [en]) = registrations mac h := by
  rw [registrations, List.filterMap_append, List.filterMap_cons_none hreg, List.filterMap_nil, List.append_nil]
  rfl

/-- An effect that is no registration of a MAC and does not evict it leaves its entry alone. -/
theorem lookup_of_registration_none {en : BackendEntry} (hs : sem cb en.event.1 en.pre en.event.2 en.post)
    (hevict : ¬ Evicts mac en) (hreg : registration mac en = none) :
    en.post.gateways.lookup mac = en.pre.gateways.lookup mac := by
  apply lookup_post_eq hs hevict
  intro gw hset
  rw [registration_eq_some_iff.mpr ⟨rfl, hset⟩] at hreg
  cases hreg

theorem lookup_of_registration_some {en : BackendEntry} (hs : sem cb en.event.1 en.pre en.event.2 en.post)
    {reg : ℕ × Gateway} (hreg : registration mac en = some reg) :
    en.post.gateways.lookup mac = some reg.2 := by
  obtain ⟨-, hset⟩ := registration_eq_some_iff.mp hreg
  rw [hset] at hs
  exact sem_set_lookup hs

/-- Without an eviction, the entry of a MAC is the one that was stored last. -/
theorem lookup_eq_getLast? (hl : Linked (sem cb) {} h s) (hevict : ∀ en ∈ h, ¬ Evicts mac en) :
    s.gateways.lookup mac = (registrations mac h).getLast?.map Prod.snd := by
  induction hl with
  | nil => exact Finmap.lookup_empty mac
  | @snoc h s en hl hpre hs ih =>
    have hen := hevict en (List.mem_append_right _ (List.mem_singleton_self en))
    have hpast := ih fun en' hen' => hevict en' (List.mem_append_left _ hen')
    subst hpre
    cases hreg : registration mac en with
    | some reg =>
      rw [registrations_snoc_some hreg, List.getLast?_concat]
      exact lookup_of_registration_some hs hreg
    | none => rw [registrations_snoc_none hreg, lookup_of_registration_none hs hen hreg, hpast]

/-! ### The handlers behind the registrations -/

theorem mem_registrations {i : ℕ} {gw : Gateway} :
    (i, gw) ∈ registrations mac h ↔ ∃ en ∈ h, en.tid = i ∧ en.event = ⟨.set mac gw, .ok ()⟩ := by
  rw [registrations, List.mem_filterMap]
  simp only [registration_eq_some_iff]

/-- A registration is made by the handler of a PULL_DATA, with the address and version of that. -/
theorem registration_of_handler (hr : Run (backend J cb) ok {} h c) {i : ℕ} {gw : Gateway}
    (hmem : (i, gw) ∈ registrations mac h) :
    ∃ addr data t₀ t₁, c.call i = some (.datagram addr data) ∧
      IsPullData data gw.protocolVersion t₀ t₁ mac ∧ gw.addr = some addr := by
  obtain ⟨en, hen, rfl, hset⟩ := mem_registrations.mp hmem
  exact (registers_of_set hr hen hset).2

theorem isPullData_version {data : Bytes} {mac' : EUI64} {v v' t₀ t₁ t₀' t₁' : UInt8}
    (h : IsPullData data v t₀ t₁ mac) (h' : IsPullData data v' t₀' t₁' mac') : v = v' := by
  obtain ⟨-, rfl⟩ := h
  exact (List.cons.inj h'.2).1

/-- A handler that is done has made a registration, if `onNew` did not fail. -/
theorem handler_registers (hr : Run (backend J cb) ok {} h c) {i : ℕ} {addr : UDPAddr} {data : Bytes}
    {v t₀ t₁ : UInt8} {r : Except (Fault GwError) Unit}
    (hi : c.threads[i]? = some ⟨.datagram addr data, .ret r⟩) (hdata : IsPullData data v t₀ t₁ mac)
    (hcb : ∀ en ∈ h, ∀ gw e, en.event ≠ ⟨.set mac gw, .error e⟩) :
    ∃ gw, (i, gw) ∈ registrations mac h := by
  have hex := hr.exec hi
  change Exec (handlePacket J addr data).run _ _ at hex
  rw [handlePacket_run_of_isPullData hdata] at hex
  rcases exec_eff_iff.mp hex with ⟨-, hret⟩ | ⟨now, tr₁, htr₁, hex₁⟩
  · cases hret
  rcases exec_eff_iff.mp hex₁ with ⟨-, hret⟩ | ⟨answer, tr₂, rfl, -⟩
  · cases hret
  -- the second effect of the thread is its `set`
  obtain ⟨h₁, en₁, h₂, rfl, -, -, hp₂⟩ := performed_eq_cons h htr₁
  obtain ⟨h₃, en₂, h₄, rfl, htid, hev, -⟩ := performed_eq_cons h₂ hp₂
  have hen : en₂ ∈ h₁ ++ en₁ :: (h₃ ++ en₂ :: h₄) := by simp
  cases answer with
  | error e => exact absurd hev (hcb en₂ hen _ e)
  | ok _ => exact ⟨_, mem_registrations.mpr ⟨en₂, hen, htid, hev⟩⟩

theorem le_getLast_of_pairwise {α : Type*} {r : α → α → Prop} {l : List α} {a b : α}
    (hl : l.Pairwise r) (hb : l.getLast? = some b) (ha : a ∈ l) : a = b ∨ r a b := by
  obtain ⟨l', rfl⟩ := List.getLast?_eq_some_iff.mp hb
  rcases List.mem_append.mp ha with ha | ha
  · exact .inr ((List.pairwise_append.mp hl).2.2 a ha b (List.mem_singleton_self b))
  · exact .inl (List.mem_singleton.mp ha)

/-- Where the handlers call `set` in the order their datagrams came, the last datagram wins. -/
theorem lookup_of_last_received (hr : Run (backend J cb) ok {} h c)
    (hevict : ∀ en ∈ h, ¬ Evicts mac en) (hcb : ∀ en ∈ h, ∀ gw e, en.event ≠ ⟨.set mac gw, .error e⟩)
    {i : ℕ} {addr : UDPAddr} {data : Bytes} {v t₀ t₁ : UInt8} {r : Except (Fault GwError) Unit}
    (hi : c.threads[i]? = some ⟨.datagram addr data, .ret r⟩) (hdata : IsPullData data v t₀ t₁ mac)
    (hlast : ∀ j addr' data' v' t₀' t₁', c.call j = some (.datagram addr' data') →
      IsPullData data' v' t₀' t₁' mac → j ≤ i)
    (horder : (registrations mac h).Pairwise fun x y => x.1 < y.1) :
    ∃ now, c.shared.gateways.lookup mac = some ⟨some addr, now, v⟩ := by
  obtain ⟨gwᵢ, hmem⟩ := handler_registers hr hi hdata hcb
  obtain ⟨⟨j, gw⟩, hj⟩ := Option.ne_none_iff_exists'.mp
    (mt List.getLast?_eq_none_iff.mp (List.ne_nil_of_mem hmem))
  obtain ⟨addr', data', t₀', t₁', hcall, hdata', haddr⟩ :=
    registration_of_handler hr (List.mem_of_getLast? hj)
  have hji : j ≤ i := hlast j addr' data' _ t₀' t₁' hcall hdata'
  have hij : j = i := by
    rcases le_getLast_of_pairwise horder hj hmem with heq | hlt
    · exact (congrArg Prod.fst heq).symm
    · exact absurd hji (Nat.not_le_of_lt hlt)
  subst hij
  rw [Cfg.call, hi] at hcall
  cases hcall
  rw [lookup_eq_getLast? hr.linked hevict, hj, isPullData_version hdata hdata', ← haddr]
  exact ⟨gw.lastSeen, rfl⟩

/-! ### `lastSeen` -/

/-- The effect does not set `lastSeen` of a MAC back. -/
def KeepsLastSeen (mac : EUI64) (en : BackendEntry) : Prop :=
  ∀ gw gw', en.pre.gateways.lookup mac = some gw → en.post.gateways.lookup mac = some gw' →
    gw.lastSeen ≤ gw'.lastSeen

/-- A list in order stays so with one more element exactly when that is not below the last. -/
theorem pairwise_concat_lastSeen_iff {l : List (ℕ × Gateway)} {x : ℕ × Gateway}
    (hl : l.Pairwise fun x y => x.2.lastSeen ≤ y.2.lastSeen) :
    (l ++ [x]).Pairwise (fun x y => x.2.lastSeen ≤ y.2.lastSeen) ↔
      ∀ y, l.getLast? = some y → y.2.lastSeen ≤ x.2.lastSeen := by
  rw [List.pairwise_append]
  constructor
  · rintro ⟨-, -, hle⟩ y hy
    exact hle y (List.mem_of_getLast? hy) x (List.mem_singleton_self x)
  · intro hle
    refine ⟨hl, List.pairwise_singleton _ _, fun y hy z hz => ?_⟩
    rw [List.mem_singleton.mp hz]
    obtain ⟨w, hw⟩ := Option.ne_none_iff_exists'.mp (mt List.getLast?_eq_none_iff.mp (List.ne_nil_of_mem hy))
    rcases le_getLast_of_pairwise hl hw hy with rfl | hyw
    · exact hle y hw
    · exact hyw.trans (hle w hw)

/-- `lastSeen` of a MAC never decreases exactly when the clock readings that are stored are in order. -/
theorem keepsLastSeen_iff (hl : Linked (sem cb) {} h s) (hevict : ∀ en ∈ h, ¬ Evicts mac en) :
    (∀ en ∈ h, KeepsLastSeen mac en) ↔
      (registrations mac h).Pairwise fun x y => x.2.lastSeen ≤ y.2.lastSeen := by
  induction hl with
  | nil => simp [registrations]
  | @snoc h s en hl hpre hs ih =>
    have hen := hevict en (List.mem_append_right _ (List.mem_singleton_self en))
    have hevict' : ∀ en' ∈ h, ¬ Evicts mac en' := fun en' hen' => hevict en' (List.mem_append_left _ hen')
    subst hpre
    rw [List.forall_mem_append, List.forall_mem_singleton, ih hevict']
    cases hreg : registration mac en with
    | none =>
      rw [registrations_snoc_none hreg]
      refine and_iff_left ?_
      intro gw gw' hgw hgw'
      rw [lookup_of_registration_none hs hen hreg, hgw] at hgw'
      cases hgw'
      exact le_rfl
    | some reg =>
      have hpre := lookup_eq_getLast? hl hevict'
      have hpost := lookup_of_registration_some hs hreg
      rw [registrations_snoc_some hreg]
      by_cases hpast : (registrations mac h).Pairwise fun x y => x.2.lastSeen ≤ y.2.lastSeen
      · rw [pairwise_concat_lastSeen_iff hpast, and_iff_right hpast]
        constructor
        · intro hkeep y hy
          rw [hy] at hpre
          exact hkeep y.2 reg.2 hpre hpost
        · intro hle gw gw' hgw hgw'
          rw [hpre, Option.map_eq_some_iff] at hgw
          obtain ⟨y, hy, rfl⟩ := hgw
          cases hpost.symm.trans hgw'
          exact hle y hy
      · exact iff_of_false (fun hboth => hpast hboth.1) fun hall => hpast (List.pairwise_append.mp hall).1

/-- **The last `set` wins.** Without evictions and with callbacks that succeed, the entry of a MAC is
the one that was stored last; it has the address and the version of the PULL_DATA received last if the
handlers stored in the order of receipt; and its `lastSeen` never decreases exactly when they stored in
the order of their clock readings. -/
theorem last_set_wins (mac : EUI64) (hr : Run (backend J cb) ok {} h c) (hevict : ∀ en ∈ h, ¬ Evicts mac en)
    (hcb : ∀ en ∈ h, ∀ gw e, en.event ≠ ⟨.set mac gw, .error e⟩) :
    c.shared.gateways.lookup mac = (registrations mac h).getLast?.map Prod.snd ∧
    (∀ i addr data v t₀ t₁ r, c.threads[i]? = some ⟨.datagram addr data, .ret r⟩ →
      IsPullData data v t₀ t₁ mac →
      (∀ j addr' data' v' t₀' t₁', c.call j = some (.datagram addr' data') →
        IsPullData data' v' t₀' t₁' mac → j ≤ i) →
      ((registrations mac h).Pairwise fun x y => x.1 < y.1) →
        ∃ now, c.shared.gateways.lookup mac = some ⟨some addr, now, v⟩) ∧
    ((∀ en ∈ h, KeepsLastSeen mac en) ↔
      (registrations mac h).Pairwise fun x y => x.2.lastSeen ≤ y.2.lastSeen) := by
  refine ⟨lookup_eq_getLast? hr.linked hevict, ?_, keepsLastSeen_iff hr.linked hevict⟩
  intro i addr data v t₀ t₁ r hi hdata hlast horder
  exact lookup_of_last_received hr hevict hcb hi hdata hlast horder

/-- Where the gateway was at first. -/
def oldAddr : UDPAddr := ⟨[192, 168, 1, 2], 1700, []⟩

/-- Where it is now. -/
def newAddr : UDPAddr := ⟨[192, 168, 1, 3], 1700, []⟩

/-- Two PULL_DATA whose handlers call `set` in order: the second wins. -/
theorem last_set_wins_in_order :
    ∃ h c now, Run (backend noCodecs ⟨true, true⟩) (fun _ _ => True) {} h c ∧
      c.threads.map Thread.call = [.datagram oldAddr (samplePull 2 1), .datagram newAddr (samplePull 1 2)] ∧
      c.shared.gateways.lookup sampleMAC = some ⟨some newAddr, now, 1⟩ := by
  let cb : Callbacks := ⟨true, true⟩
  let old : Gateway := ⟨some oldAddr, 10, 2⟩
  let new : Gateway := ⟨some newAddr, 20, 1⟩
  let s₁ : BackendState := { gateways := (∅ : Gateways).insert sampleMAC old }
  let s₂ : BackendState := { gateways := s₁.gateways.insert sampleMAC new }
  have hold := isPullData_samplePull 1 (.inr rfl : (2 : UInt8) = 1 ∨ _)
  have hnew := isPullData_samplePull 2 (.inl rfl : (1 : UInt8) = 1 ∨ _)
  have r₀ : Run (backend noCodecs cb) (fun _ _ => True) {} [] ⟨{}, []⟩ := .init
  have r₁ := r₀.start_of_body (l := Call.datagram oldAddr _) (handlePacket_run_of_isPullData hold) rfl trivial
  have r₂ := r₁.start_of_body (l := Call.datagram newAddr _) (handlePacket_run_of_isPullData hnew) rfl trivial
  have r₃ := r₂.act (i := 0) (r := (10 : ℤ)) rfl (sem_now cb 10 {}) trivial
  have r₄ := r₃.act (i := 1) (r := (20 : ℤ)) rfl (sem_now cb 20 {}) trivial
  have r₅ := r₄.act (i := 0) rfl (sem_set_ok cb sampleMAC old {}) trivial
  have r₆ := r₅.act (i := 1) rfl (sem_set_ok cb sampleMAC new s₁) trivial
  have r₇ := r₆.act (i := 0) rfl (sem_udpSend cb _ s₂) trivial
  have r₈ := r₇.act (i := 1) rfl (sem_udpSend cb _ s₂) trivial
  obtain ⟨-, hlast, -⟩ := last_set_wins sampleMAC r₈ (by simp [Evicts]) (by simp)
  have hwins := hlast 1 newAddr _ 1 2 0 (.ok ()) rfl hnew
  obtain ⟨now, hnow⟩ := hwins (fun j _ _ _ _ _ hcall _ => Nat.le_of_lt_succ (Cfg.lt_of_call hcall)) (by decide)
  exact ⟨_, _, now, r₈, rfl, hnow⟩

/-- Two PULL_DATA whose handlers call `set` the other way round: the first wins, and `lastSeen` goes back. -/
theorem older_pullData_wins :
    ∃ h c, Run (backend noCodecs ⟨true, true⟩) (fun _ _ => True) {} h c ∧
      (∀ en ∈ h, ¬ Evicts sampleMAC en) ∧
      (∀ en ∈ h, ∀ gw e, en.event ≠ ⟨.set sampleMAC gw, .error e⟩) ∧
      c.threads = [⟨.datagram oldAddr (samplePull 2 1), .ret (.ok ())⟩,
        ⟨.datagram newAddr (samplePull 1 2), .ret (.ok ())⟩] ∧
      c.shared.gateways.lookup sampleMAC = some ⟨some oldAddr, 10, 2⟩ ∧
      ¬ ∀ en ∈ h, KeepsLastSeen sampleMAC en := by
  let cb : Callbacks := ⟨true, true⟩
  let old : Gateway := ⟨some oldAddr, 10, 2⟩
  let new : Gateway := ⟨some newAddr, 20, 1⟩
  let s₁ : BackendState := { gateways := (∅ : Gateways).insert sampleMAC new }
  let s₂ : BackendState := { gateways := s₁.gateways.insert sampleMAC old }
  have hold := isPullData_samplePull 1 (.inr rfl : (2 : UInt8) = 1 ∨ _)
  have hnew := isPullData_samplePull 2 (.inl rfl : (1 : UInt8) = 1 ∨ _)
  have r₀ : Run (backend noCodecs cb) (fun _ _ => True) {} [] ⟨{}, []⟩ := .init
  have r₁ := r₀.start_of_body (l := Call.datagram oldAddr _) (handlePacket_run_of_isPullData hold) rfl trivial
  have r₂ := r₁.start_of_body (l := Call.datagram newAddr _) (handlePacket_run_of_isPullData hnew) rfl trivial
  have r₃ := r₂.act (i := 0) (r := (10 : ℤ)) rfl (sem_now cb 10 {}) trivial
  have r₄ := r₃.act (i := 1) (r := (20 : ℤ)) rfl (sem_now cb 20 {}) trivial
  have r₅ := r₄.act (i := 1) rfl (sem_set_ok cb sampleMAC new {}) trivial
  have r₆ := r₅.act (i := 0) rfl (sem_set_ok cb sampleMAC old s₁) trivial
  have r₇ := r₆.act (i := 1) rfl (sem_udpSend cb _ s₂) trivial
  have r₈ := r₇.act (i := 0) rfl (sem_udpSend cb _ s₂) trivial
  refine ⟨_, _, r₈, ?_, ?_, rfl, Finmap.lookup_insert _, fun hkeep => ?_⟩
  · simp [Evicts]
  · simp
  · have horder := (keepsLastSeen_iff r₈.linked (by simp [Evicts])).mp hkeep
    revert horder
    decide

end GatewayBridge.Semtech
