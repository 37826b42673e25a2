import GatewayBridge.Mqtt.Backend

/-!
# Subscriptions survive reconnects

Whenever the backend is connected, `onConnected` of that connection is done and no method
is at work, the broker has the topics of the map and no others
(`subscriptions_survive_reconnects`).

While no method has the lock, the state is `Synced`: the broker has no other topics, and
once `onConnected` of the connection is done it has all of them. A method breaks this
between its request and its change of the map, which `TookOk` describes by the connection
on which the request last took effect: if that is the connection there is, the broker is
synced with the map as it will be; if it is an earlier one, the broker has nothing yet
(`Forgotten`), since the method has had the lock all the while and `onConnected` of the
new connection has to wait for it. Several `onConnected` can be at work at once, of old
connections too, but no method next to them, so each asks for the topics of the map.
-/

namespace GatewayBridge.Mqtt

open GatewayBridge.Go GatewayBridge.Lora

variable {s s' : MqttState} {i j n : ℕ} {l : Call} {p q : Phase} {a : Activity} {T : Finset Bytes}

/-! ### Where the calls are -/

/-- The call is at its `return`, or back at the caller. -/
def Phase.Finished : Phase → Prop
  | .returning _ => True
  | .returned _ => True
  | _ => False

/-- `onConnected` of the connection is done. -/
def MqttState.Handled (s : MqttState) (n : ℕ) : Prop :=
  ∃ (i : ℕ) (a : Activity), s.calls[i]? = some a ∧ a.call = .onConnected n ∧ a.phase.Finished

theorem call_of_set (hcalls : s'.calls = s.calls.set i ⟨l, p⟩) (hj : s'.calls[j]? = some a) :
    (j = i ∧ a = ⟨l, p⟩) ∨ (j ≠ i ∧ s.calls[j]? = some a) := by
  rw [hcalls, List.getElem?_set] at hj
  split_ifs at hj with hij
  · cases hj
    exact .inl ⟨hij.symm, rfl⟩
  · exact .inr ⟨fun h => hij h.symm, hj⟩

theorem call_of_append (hcalls : s'.calls = s.calls ++ [⟨l, p⟩]) (hj : s'.calls[j]? = some a) :
    s.calls[j]? = some a ∨ a = ⟨l, p⟩ := by
  rw [hcalls, List.getElem?_append] at hj
  split_ifs at hj
  · exact .inl hj
  · rw [List.getElem?_singleton] at hj
    split_ifs at hj
    cases hj
    exact .inr rfl

theorem handled_of_append (hcalls : s'.calls = s.calls ++ [⟨l, .start⟩]) (h : s'.Handled n) :
    s.Handled n := by
  obtain ⟨j, a, hj, hcall, hphase⟩ := h
  rcases call_of_append hcalls hj with hj | rfl
  · exact ⟨j, a, hj, hcall, hphase⟩
  · exact hphase.elim

theorem topics_congr (h : s'.gateways = s.gateways) : s'.topics = s.topics := by
  rw [MqttState.topics, h, MqttState.topics]

/-! ### The invariant -/

/-- The broker has no topics but those of `T`, and all of them once `onConnected` is done. -/
def Synced (T : Finset Bytes) (s : MqttState) : Prop :=
  s.subscriptions ⊆ T ∧ ∀ n, s.connection = some n → s.Handled n → T ⊆ s.subscriptions

/-- The broker has nothing, and `onConnected` is not done. -/
def Forgotten (s : MqttState) : Prop :=
  s.subscriptions = ∅ ∧ ∀ n, s.connection = some n → ¬ s.Handled n

/-- What is known of the broker while a method waits, from where its request last took effect. -/
def TookOk (s : MqttState) (request : Request) : Option ℕ → Prop
  | none => Synced s.topics s
  | some m => m < s.connections ∧
      (s.connection = some m → Synced (request.apply s.topics) s) ∧ (s.connection ≠ some m → Forgotten s)

/-- What is known while a method has the lock. -/
def WriterOk (s : MqttState) (l : Call) : Phase → Prop
  | .ready => Synced s.topics s
  | .waiting request took => request = l.request s.gateways ∧ TookOk s request took
  | .granted took => TookOk s (l.request s.gateways) (some took)
  | .returning _ => Synced s.topics s
  | _ => True

/-- What is known while `onConnected` of connection `n` has the lock. -/
def ReaderOk (s : MqttState) (n : ℕ) : Phase → Prop
  | .waiting request took => request = .subscribe s.topics ∧ ∀ m, took = some m →
      n ≤ m ∧ m < s.connections ∧ (s.connection = some m → s.topics ⊆ s.subscriptions)
  | .granted _ => False
  | _ => True

/-- The invariant of the backend and the broker. -/
structure Inv (s : MqttState) : Prop where
  /-- A method has the lock alone. -/
  alone : ∀ (i j : ℕ) (a b : Activity), i ≠ j → s.calls[i]? = some a → s.calls[j]? = some b →
    a.phase.Active → b.phase.Active → ¬ a.call.Method
  /-- The connection there is is the last one. -/
  last : ∀ n, s.connection = some n → n + 1 = s.connections
  /-- `onConnected` was called for it. -/
  called : ∀ n, s.connection = some n → ∃ (i : ℕ) (a : Activity), s.calls[i]? = some a ∧ a.call = .onConnected n
  /-- `onConnected` is called for connections there were. -/
  handler_lt : ∀ (i : ℕ) (a : Activity) (n : ℕ), s.calls[i]? = some a → a.call = .onConnected n → n < s.connections
  /-- Without a connection there are no subscriptions. -/
  offline : s.connection = none → s.subscriptions = ∅
  /-- While no method has the lock, the broker is synced with the map. -/
  free : (∀ (i : ℕ) (a : Activity), s.calls[i]? = some a → a.call.Method → ¬ a.phase.Active) → Synced s.topics s
  /-- While one has it, this is known. -/
  writer : ∀ (i : ℕ) (l : Call) (p : Phase), s.calls[i]? = some ⟨l, p⟩ → l.Method → p.Active → WriterOk s l p
  /-- While `onConnected` has it, this is. -/
  reader : ∀ (i n : ℕ) (p : Phase), s.calls[i]? = some ⟨.onConnected n, p⟩ → p.Active → ReaderOk s n p

theorem inv_init : Inv {} where
  alone i j a b _ ha := by simp at ha
  last n hn := by simp at hn
  called n hn := by simp at hn
  handler_lt i a n ha := by simp at ha
  offline _ := rfl
  free _ := ⟨Finset.Subset.refl _, fun n hn => by simp at hn⟩
  writer i l p hi := by simp at hi
  reader i n p hi := by simp at hi

theorem Forgotten.synced (h : Forgotten s) (T : Finset Bytes) : Synced T s := by
  refine ⟨?_, fun n hn hh => absurd hh (h.2 n hn)⟩
  rw [h.1]
  exact Finset.empty_subset T

/-- Where the broker is as it was and `onConnected` is not further, it is synced as it was. -/
theorem Synced.mono (h : Synced T s) (hsubs : s'.subscriptions = s.subscriptions)
    (hconn : s'.connection = s.connection) (hhandled : ∀ n, s'.Handled n → s.Handled n) : Synced T s' := by
  constructor
  · rw [hsubs]
    exact h.1
  · intro n hn hh
    rw [hsubs]
    exact h.2 n (hconn.symm.trans hn) (hhandled n hh)

/-- What is known while `onConnected` has the lock, where the map is as it was and the broker of a connection
that is still there has more topics. -/
theorem ReaderOk.mono (h : ReaderOk s n p) (hgateways : s'.gateways = s.gateways)
    (hconns : s.connections ≤ s'.connections)
    (hsubs : ∀ m < s.connections, s'.connection = some m →
      s.connection = some m ∧ s.subscriptions ⊆ s'.subscriptions) : ReaderOk s' n p := by
  cases p with
  | waiting request took =>
    obtain ⟨hrequest, htook⟩ := h
    refine ⟨?_, fun m hm => ?_⟩
    · rw [topics_congr hgateways]
      exact hrequest
    · obtain ⟨hle, hlt, hall⟩ := htook m hm
      refine ⟨hle, hlt.trans_le hconns, fun hconn => ?_⟩
      obtain ⟨hconn, hsubset⟩ := hsubs m hlt hconn
      rw [topics_congr hgateways]
      exact (hall hconn).trans hsubset
  | granted took => exact h
  | start => trivial
  | checking => trivial
  | ready => trivial
  | returning err => trivial
  | returned err => trivial

/-! ### Calls that move on -/

/-- What a move of one call leaves alone. -/
structure Moves (s s' : MqttState) (i : ℕ) (l : Call) (q p : Phase) : Prop where
  /-- The call was there. -/
  pre : s.calls[i]? = some ⟨l, q⟩
  /-- It is here now, the others are where they were. -/
  calls : s'.calls = s.calls.set i ⟨l, p⟩
  /-- The connection is the same. -/
  connection : s'.connection = s.connection
  /-- There were no others since. -/
  connections : s'.connections = s.connections

theorem moves_move (h : s.calls[i]? = some ⟨l, q⟩) : Moves s (s.move i l p) i l q p := ⟨h, rfl, rfl, rfl⟩

theorem Moves.post (h : Moves s s' i l q p) : s'.calls[i]? = some ⟨l, p⟩ := by
  rw [h.calls, List.getElem?_set_self (List.getElem?_eq_some_iff.mp h.pre).1]

theorem Moves.exists_call (h : Moves s s' i l q p) (hj : s.calls[j]? = some a) :
    ∃ a', s'.calls[j]? = some a' ∧ a'.call = a.call := by
  by_cases hij : i = j
  · subst hij
    cases h.pre.symm.trans hj
    exact ⟨_, h.post, rfl⟩
  · refine ⟨a, ?_, rfl⟩
    rw [h.calls, List.getElem?_set_ne hij]
    exact hj

theorem Moves.handled (h : Moves s s' i l q p) (hh : s'.Handled n) :
    s.Handled n ∨ (l = .onConnected n ∧ p.Finished) := by
  obtain ⟨j, a, hj, hcall, hphase⟩ := hh
  rcases call_of_set h.calls hj with ⟨-, rfl⟩ | ⟨-, hj⟩
  · exact .inr ⟨hcall, hphase⟩
  · exact .inl ⟨j, a, hj, hcall, hphase⟩

theorem Moves.handled_of_method (h : Moves s s' i l q p) (hl : l.Method) (hh : s'.Handled n) :
    s.Handled n := by
  rcases h.handled hh with hh | ⟨rfl, -⟩
  · exact hh
  · exact hl.elim

/-- The facts about connections do not depend on where the calls are. -/
theorem Inv.of_moves (hinv : Inv s) (h : Moves s s' i l q p)
    (halone : ∀ (i j : ℕ) (a b : Activity), i ≠ j → s'.calls[i]? = some a → s'.calls[j]? = some b →
      a.phase.Active → b.phase.Active → ¬ a.call.Method)
    (hoffline : s.subscriptions = ∅ → s'.connection = none → s'.subscriptions = ∅)
    (hfree : (∀ (i : ℕ) (a : Activity), s'.calls[i]? = some a → a.call.Method → ¬ a.phase.Active) → Synced s'.topics s')
    (hwriter : ∀ (i : ℕ) (l : Call) (p : Phase), s'.calls[i]? = some ⟨l, p⟩ → l.Method → p.Active → WriterOk s' l p)
    (hreader : ∀ (i n : ℕ) (p : Phase), s'.calls[i]? = some ⟨.onConnected n, p⟩ → p.Active → ReaderOk s' n p) :
    Inv s' where
  alone := halone
  last n hn := by
    rw [h.connections]
    exact hinv.last n (h.connection.symm.trans hn)
  called n hn := by
    obtain ⟨j, a, hj, hcall⟩ := hinv.called n (h.connection.symm.trans hn)
    obtain ⟨a', hj', hcall'⟩ := h.exists_call hj
    exact ⟨j, a', hj', hcall'.trans hcall⟩
  handler_lt j a n hj hcall := by
    rw [h.connections]
    rcases call_of_set h.calls hj with ⟨-, rfl⟩ | ⟨-, hj⟩
    · exact hinv.handler_lt i _ n h.pre hcall
    · exact hinv.handler_lt j a n hj hcall
  offline hn := hoffline (hinv.offline (h.connection.symm.trans hn)) hn
  free := hfree
  writer := hwriter
  reader := hreader

/-- **A method moves on that has the lock, or takes it**: nobody else has it, so only what the method leaves
matters. -/
theorem Inv.method_moves (hinv : Inv s) (h : Moves s s' i l q p) (hl : l.Method)
    (halone : ∀ (j : ℕ) (a : Activity), j ≠ i → s.calls[j]? = some a → ¬ a.phase.Active)
    (hoffline : s.subscriptions = ∅ → s'.connection = none → s'.subscriptions = ∅)
    (hok : p.Active → WriterOk s' l p) (hfree : ¬ p.Active → Synced s'.topics s') : Inv s' := by
  have hothers : ∀ (j : ℕ) (a : Activity), j ≠ i → s'.calls[j]? = some a → ¬ a.phase.Active := by
    intro j a hj ha hactive
    rcases call_of_set h.calls ha with ⟨hji, -⟩ | ⟨-, ha⟩
    · exact hj hji
    · exact halone j a hj ha hactive
  refine hinv.of_moves h ?_ hoffline ?_ ?_ ?_
  · intro j k a b hjk ha hb hactive hactive'
    by_cases hj : j = i
    · subst hj
      exact absurd hactive' (hothers k b (fun he => hjk he.symm) hb)
    · exact absurd hactive (hothers j a hj ha)
  · intro hno
    exact hfree (hno i _ h.post hl)
  · intro j l' p' hj hl' hactive
    by_cases hji : j = i
    · subst hji
      cases hj.symm.trans h.post
      exact hok hactive
    · exact absurd hactive (hothers j _ hji hj)
  · intro j n p' hj hactive
    by_cases hji : j = i
    · subst hji
      cases hj.symm.trans h.post
      exact hl.elim
    · exact absurd hactive (hothers j _ hji hj)

/-- **`onConnected` moves on**: no method has the lock, the map stays, and the other `onConnected` at work
only see more topics at the broker. -/
theorem Inv.handler_moves (hinv : Inv s) (h : Moves s s' i (.onConnected n) q p)
    (hmethods : ∀ (j : ℕ) (a : Activity), s.calls[j]? = some a → a.call.Method → ¬ a.phase.Active)
    (hgateways : s'.gateways = s.gateways) (hsubs : s.subscriptions ⊆ s'.subscriptions)
    (hoffline : s.subscriptions = ∅ → s'.connection = none → s'.subscriptions = ∅)
    (hok : p.Active → ReaderOk s' n p) (hsynced : Synced s'.topics s') : Inv s' := by
  have hmethods' : ∀ (j : ℕ) (a : Activity), s'.calls[j]? = some a → a.call.Method → ¬ a.phase.Active := by
    intro j a ha hm
    rcases call_of_set h.calls ha with ⟨-, rfl⟩ | ⟨-, ha⟩
    · exact hm.elim
    · exact hmethods j a ha hm
  refine hinv.of_moves h ?_ hoffline (fun _ => hsynced) ?_ ?_
  · intro j k a b _ ha _ hactive _ hm
    exact hmethods' j a ha hm hactive
  · intro j l' p' hj hl' hactive
    exact absurd hactive (hmethods' j _ hj hl')
  · intro j m p' hj hactive
    rcases call_of_set h.calls hj with ⟨-, he⟩ | ⟨-, hj⟩
    · cases he
      exact hok hactive
    · refine (hinv.reader j m p' hj hactive).mono hgateways h.connections.ge fun k _ hk => ?_
      exact ⟨h.connection.symm.trans hk, hsubs⟩

/-- While a method has the lock, nobody else has it. -/
theorem Inv.no_other (hinv : Inv s) (hi : s.calls[i]? = some ⟨l, q⟩) (hl : l.Method) (hq : q.Active) :
    ∀ (j : ℕ) (a : Activity), j ≠ i → s.calls[j]? = some a → ¬ a.phase.Active :=
  fun j a hji ha hactive => hinv.alone i j _ a (fun he => hji he.symm) hi ha hq hactive hl

/-- While `onConnected` has the lock, no method has it. -/
theorem Inv.no_method (hinv : Inv s) (hi : s.calls[i]? = some ⟨.onConnected n, q⟩) (hq : q.Active) :
    ∀ (j : ℕ) (a : Activity), s.calls[j]? = some a → a.call.Method → ¬ a.phase.Active := by
  intro j a ha hm hactive
  have hji : j ≠ i := by
    rintro rfl
    cases hi.symm.trans ha
    exact hm
  exact hinv.alone j i a _ hji ha hi hactive hq hm

/-! ### Requests -/

theorem Request.apply_mono (request : Request) {T T' : Finset Bytes} (h : T ⊆ T') :
    request.apply T ⊆ request.apply T' := by
  cases request with
  | subscribe topics => exact Finset.union_subset_union_left h
  | unsubscribe topics => exact Finset.sdiff_subset_sdiff h (Finset.Subset.refl _)

/-- A request that takes effect twice does what it does once. -/
theorem Request.apply_apply (request : Request) (T : Finset Bytes) :
    request.apply (request.apply T) = request.apply T := by
  cases request with
  | subscribe topics => simp [Request.apply]
  | unsubscribe topics => simp [Request.apply]

/-- The change of the map is the change of the topics that was asked for. -/
theorem image_store (hl : l.Method) (gateways : Finset EUI64) :
    (l.store gateways).image topic = (l.request gateways).apply (gateways.image topic) := by
  cases l with
  | subscribe mac =>
    rw [Call.store, Call.request, Request.apply, Finset.image_insert, Finset.union_comm,
      Finset.insert_eq]
  | unSubscribe mac =>
    rw [Call.store, Call.request, Request.apply, Finset.image_erase topic_injective,
      Finset.sdiff_singleton_eq_erase]
  | onConnected n => exact hl.elim

theorem Synced.apply {request : Request} (h : Synced T s)
    (hsubs : s'.subscriptions = request.apply s.subscriptions) (hconn : s'.connection = s.connection)
    (hhandled : ∀ n, s'.Handled n → s.Handled n) : Synced (request.apply T) s' := by
  constructor
  · rw [hsubs]
    exact request.apply_mono h.1
  · intro n hn hh
    rw [hsubs]
    exact request.apply_mono (h.2 n (hconn.symm.trans hn) (hhandled n hh))

/-- The request of a method takes effect, once more or for the first time on this connection. -/
theorem TookOk.apply {request : Request} {took : Option ℕ} (h : TookOk s request took)
    (hsubs : s'.subscriptions = request.apply s.subscriptions) (hconn : s'.connection = s.connection)
    (hhandled : ∀ n, s'.Handled n → s.Handled n) : Synced (request.apply s.topics) s' := by
  cases took with
  | none => exact Synced.apply h hsubs hconn hhandled
  | some m =>
    obtain ⟨-, hnow, hpast⟩ := h
    by_cases hm : s.connection = some m
    · rw [← request.apply_apply]
      exact (hnow hm).apply hsubs hconn hhandled
    · exact ((hpast hm).synced s.topics).apply hsubs hconn hhandled

/-- A request without effect on the connection there is leaves the broker synced. -/
theorem TookOk.synced {request : Request} {took : Option ℕ} (h : TookOk s request took)
    (hfail : ∀ n, took = some n → s.connection ≠ some n) : Synced s.topics s := by
  cases took with
  | none => exact h
  | some m => exact (h.2.2 (hfail m rfl)).synced s.topics

/-- A request that took effect leaves the broker synced with the map as it will be. -/
theorem TookOk.synced_apply {request : Request} {m : ℕ} (h : TookOk s request (some m)) :
    Synced (request.apply s.topics) s := by
  by_cases hm : s.connection = some m
  · exact h.2.1 hm
  · exact (h.2.2 hm).synced _

/-- What is known while a method waits, where nothing changed but the place of calls. -/
theorem TookOk.mono {request : Request} {took : Option ℕ} (h : TookOk s request took)
    (hgateways : s'.gateways = s.gateways) (hsubs : s'.subscriptions = s.subscriptions)
    (hconn : s'.connection = s.connection) (hconns : s'.connections = s.connections)
    (hhandled : ∀ n, s'.Handled n → s.Handled n) : TookOk s' request took := by
  have htopics := topics_congr hgateways
  cases took with
  | none =>
    change Synced s'.topics s'
    rw [htopics]
    exact Synced.mono h hsubs hconn hhandled
  | some m =>
    obtain ⟨hlt, hnow, hpast⟩ := h
    refine ⟨by rw [hconns]; exact hlt, fun hm => ?_, fun hm => ?_⟩
    · rw [htopics]
      exact (hnow (hconn.symm.trans hm)).mono hsubs hconn hhandled
    · rw [hconn] at hm
      exact ⟨hsubs.trans (hpast hm).1, fun n hn hh => (hpast hm).2 n (hconn.symm.trans hn) (hhandled n hh)⟩

/-- What is known while a method has the lock follows from what is known while it waits. -/
theorem WriterOk.imp (h : WriterOk s l p) (hgateways : s'.gateways = s.gateways)
    (htook : ∀ request took, TookOk s request took → TookOk s' request took) : WriterOk s' l p := by
  cases p with
  | ready => exact htook (l.request s.gateways) none h
  | returning err => exact htook (l.request s.gateways) none h
  | waiting request took =>
    refine ⟨?_, htook request took h.2⟩
    rw [hgateways]
    exact h.1
  | granted took =>
    rw [WriterOk, hgateways]
    exact htook _ _ h
  | start => trivial
  | checking => trivial
  | returned err => trivial

theorem WriterOk.mono (h : WriterOk s l p) (hgateways : s'.gateways = s.gateways)
    (hsubs : s'.subscriptions = s.subscriptions) (hconn : s'.connection = s.connection)
    (hconns : s'.connections = s.connections) (hhandled : ∀ n, s'.Handled n → s.Handled n) :
    WriterOk s' l p :=
  h.imp hgateways fun _ _ ht => ht.mono hgateways hsubs hconn hconns hhandled

/-! ### The connection -/

/-- Where the session is new, whatever took effect before is forgotten. -/
theorem WriterOk.of_forgotten (h : WriterOk s l p) (hf : Forgotten s') (hgateways : s'.gateways = s.gateways)
    (hconns : s.connections ≤ s'.connections) (hnew : ∀ m < s.connections, s'.connection ≠ some m) :
    WriterOk s' l p := by
  refine h.imp hgateways fun request took ht => ?_
  cases took with
  | none => exact hf.synced s'.topics
  | some m => exact ⟨ht.1.trans_le hconns, fun hm => absurd hm (hnew m ht.1), fun _ => hf⟩

/-- A call at its start does not have the lock. -/
theorem call_of_active (hcalls : s'.calls = s.calls ++ [⟨l, .start⟩]) (hj : s'.calls[j]? = some a)
    (hactive : a.phase.Active) : s.calls[j]? = some a := by
  rcases call_of_append hcalls hj with hj | rfl
  · exact hj
  · exact hactive.elim

theorem Inv.call (hinv : Inv s) (hl : l.Method) : Inv { s with calls := s.calls ++ [⟨l, .start⟩] } where
  alone i j a b hij ha hb hactive hactive' :=
    hinv.alone i j a b hij (call_of_active rfl ha hactive) (call_of_active rfl hb hactive') hactive hactive'
  last := hinv.last
  called n hn := by
    obtain ⟨i, a, hi, hcall⟩ := hinv.called n hn
    exact ⟨i, a, (List.getElem?_append_left (List.getElem?_eq_some_iff.mp hi).1).trans hi, hcall⟩
  handler_lt i a n hi hcall := by
    rcases call_of_append rfl hi with hi | rfl
    · exact hinv.handler_lt i a n hi hcall
    · cases hcall
      exact hl.elim
  offline := hinv.offline
  free hno := by
    refine (hinv.free fun i a hi => ?_).mono rfl rfl fun n hh => handled_of_append rfl hh
    exact hno i a ((List.getElem?_append_left (List.getElem?_eq_some_iff.mp hi).1).trans hi)
  writer i l p hi hl hactive :=
    (hinv.writer i l p (call_of_active rfl hi hactive) hl hactive).mono rfl rfl rfl rfl
      fun n hh => handled_of_append rfl hh
  reader i n p hi hactive := hinv.reader i n p (call_of_active rfl hi hactive) hactive

theorem Inv.lose (hinv : Inv s) : Inv { s with connection := none, subscriptions := ∅ } where
  alone := hinv.alone
  last n hn := by cases hn
  called n hn := by cases hn
  handler_lt := hinv.handler_lt
  offline _ := rfl
  free _ := ⟨Finset.empty_subset _, fun n hn => by cases hn⟩
  writer i l p hi hl hactive := by
    have hf : Forgotten { s with connection := none, subscriptions := ∅ } := ⟨rfl, fun n hn => by cases hn⟩
    exact (hinv.writer i l p hi hl hactive).of_forgotten hf rfl le_rfl fun m _ hm => by cases hm
  reader i n p hi hactive :=
    (hinv.reader i n p hi hactive).mono rfl le_rfl fun m _ hm => by cases hm

/-- The client connects: nothing is subscribed yet, and `onConnected` is still to come. -/
theorem Inv.connect (hinv : Inv s) : Inv { s with
    connection := some s.connections
    connections := s.connections + 1
    subscriptions := ∅
    calls := s.calls ++ [⟨.onConnected s.connections, .start⟩] } := by
  have hnew : ∀ m < s.connections, some s.connections ≠ some m := by
    intro m hlt hm
    cases hm
    exact Nat.lt_irrefl _ hlt
  have hf : Forgotten { s with
      connection := some s.connections
      connections := s.connections + 1
      subscriptions := ∅
      calls := s.calls ++ [⟨.onConnected s.connections, .start⟩] } := by
    refine ⟨rfl, fun n hn hh => ?_⟩
    cases hn
    obtain ⟨i, a, hi, hcall, -⟩ := handled_of_append rfl hh
    exact Nat.lt_irrefl _ (hinv.handler_lt i a _ hi hcall)
  refine ⟨?_, ?_, ?_, ?_, ?_, ?_, ?_, ?_⟩
  · intro i j a b hij ha hb hactive hactive'
    exact hinv.alone i j a b hij (call_of_active rfl ha hactive) (call_of_active rfl hb hactive')
      hactive hactive'
  · intro n hn
    cases hn
    rfl
  · intro n hn
    cases hn
    exact ⟨s.calls.length, _, List.getElem?_concat_length, rfl⟩
  · intro i a n hi hcall
    rcases call_of_append rfl hi with hi | rfl
    · exact Nat.lt_succ_of_lt (hinv.handler_lt i a n hi hcall)
    · cases hcall
      exact Nat.lt_succ_self _
  · intro hn
    cases hn
  · intro _
    exact hf.synced _
  · intro i l p hi hl hactive
    exact (hinv.writer i l p (call_of_active rfl hi hactive) hl hactive).of_forgotten hf rfl
      (Nat.le_succ _) hnew
  · intro i n p hi hactive
    exact (hinv.reader i n p (call_of_active rfl hi hactive) hactive).mono rfl (Nat.le_succ _)
      fun m hlt hm => absurd hm (hnew m hlt)

/-! ### The calls -/

theorem Call.method_or_handler (l : Call) : l.Method ∨ ∃ n, l = .onConnected n := by
  cases l with
  | subscribe mac => exact .inl trivial
  | unSubscribe mac => exact .inl trivial
  | onConnected n => exact .inr ⟨n, rfl⟩

theorem Call.afterSuccess_of_method (hl : l.Method) (took : ℕ) : l.afterSuccess took = .granted took := by
  cases l with
  | subscribe mac => rfl
  | unSubscribe mac => rfl
  | onConnected n => exact hl.elim

theorem Call.afterError_of_method (hl : l.Method) : l.afterError = .returning true := by
  cases l with
  | subscribe mac => rfl
  | unSubscribe mac => rfl
  | onConnected n => exact hl.elim

theorem Inv.lock (hinv : Inv s) (hi : s.calls[i]? = some ⟨l, .start⟩) (hl : l.Method)
    (hnobody : ∀ a ∈ s.calls, ¬ a.phase.Active) : Inv (s.move i l .ready) := by
  have hm := moves_move (p := .ready) hi
  refine hinv.method_moves hm hl ?_ (fun h _ => h) ?_ fun h => absurd trivial h
  · intro j a _ ha
    exact hnobody a (List.mem_of_getElem? ha)
  · intro _
    have hsynced := hinv.free fun j a ha _ => hnobody a (List.mem_of_getElem? ha)
    exact hsynced.mono rfl rfl fun n hh => hm.handled_of_method hl hh

theorem Inv.rlock (hinv : Inv s) (hi : s.calls[i]? = some ⟨.onConnected n, .start⟩)
    (hnobody : ∀ a ∈ s.calls, a.call.Method → ¬ a.phase.Active) :
    Inv (s.move i (.onConnected n) .checking) := by
  have hm := moves_move (p := .checking) hi
  have hmethods : ∀ (j : ℕ) (a : Activity), s.calls[j]? = some a → a.call.Method → ¬ a.phase.Active :=
    fun j a ha => hnobody a (List.mem_of_getElem? ha)
  refine hinv.handler_moves hm hmethods rfl (Finset.Subset.refl _) (fun h _ => h) (fun _ => trivial) ?_
  refine (hinv.free hmethods).mono rfl rfl fun k hh => ?_
  rcases hm.handled hh with hh | ⟨-, hp⟩
  · exact hh
  · exact hp.elim

/-- `onConnected` has the lock and moves on, with the broker as it was. If it is done then, the broker has
all topics. -/
theorem Inv.handler_moves_quietly (hinv : Inv s) (hi : s.calls[i]? = some ⟨.onConnected n, q⟩)
    (hq : q.Active) (hok : p.Active → ReaderOk s n p)
    (hdone : p.Finished → s.connection = some n → s.Handled n ∨ s.topics ⊆ s.subscriptions) :
    Inv (s.move i (.onConnected n) p) := by
  have hm := moves_move (p := p) hi
  have hsynced := hinv.free (hinv.no_method hi hq)
  refine hinv.handler_moves hm (hinv.no_method hi hq) rfl (Finset.Subset.refl _) (fun h _ => h) hok ?_
  refine ⟨hsynced.1, fun k hk hh => ?_⟩
  rcases hm.handled hh with hh | ⟨hcall, hp⟩
  · exact hsynced.2 k hk hh
  · cases hcall
    rcases hdone hp hk with hh | hall
    · exact hsynced.2 n hk hh
    · exact hall

/-- `if len(b.gateways) > 0`: without gateways, there is nothing to subscribe. -/
theorem Inv.check (hinv : Inv s) (hi : s.calls[i]? = some ⟨.onConnected n, .checking⟩) :
    Inv (s.move i (.onConnected n) (if s.gateways = ∅ then .returning false else .ready)) := by
  split_ifs with hempty
  · refine hinv.handler_moves_quietly hi trivial (fun _ => trivial) fun _ _ => .inr ?_
    rw [MqttState.topics, hempty, Finset.image_empty]
    exact Finset.empty_subset _
  · exact hinv.handler_moves_quietly hi trivial (fun _ => trivial) fun h => h.elim

/-- A method has the lock and moves on, with the map and the broker as they were. -/
theorem Inv.method_moves_quietly (hinv : Inv s) (hi : s.calls[i]? = some ⟨l, q⟩) (hl : l.Method) (hq : q.Active)
    (hok : p.Active → WriterOk s l p) (hfree : ¬ p.Active → Synced s.topics s) : Inv (s.move i l p) := by
  have hm := moves_move (p := p) hi
  refine hinv.method_moves hm hl (hinv.no_other hi hl hq) (fun h _ => h) ?_ ?_
  · intro hp
    exact (hok hp).mono rfl rfl rfl rfl fun n hh => hm.handled_of_method hl hh
  · intro hp
    exact (hfree hp).mono rfl rfl fun n hh => hm.handled_of_method hl hh

theorem Inv.request (hinv : Inv s) (hi : s.calls[i]? = some ⟨l, .ready⟩) :
    Inv (s.move i l (.waiting (l.request s.gateways) none)) := by
  rcases l.method_or_handler with hl | ⟨n, rfl⟩
  · have hsynced : Synced s.topics s := hinv.writer i l _ hi hl trivial
    exact hinv.method_moves_quietly hi hl trivial (fun _ => ⟨rfl, hsynced⟩) fun h => absurd trivial h
  · refine hinv.handler_moves_quietly hi trivial (fun _ => ⟨rfl, fun m hm => ?_⟩) fun h => h.elim
    cases hm

/-- The request of a call takes effect. -/
theorem Inv.takeEffect {request : Request} {took : Option ℕ} (hinv : Inv s)
    (hi : s.calls[i]? = some ⟨l, .waiting request took⟩) (hconn : s.connection = some n) :
    Inv { s.move i l (.waiting request (some n)) with subscriptions := request.apply s.subscriptions } := by
  have hm : Moves s { s.move i l (.waiting request (some n)) with
      subscriptions := request.apply s.subscriptions } i l _ _ := ⟨hi, rfl, rfl, rfl⟩
  have hlt : n < s.connections := by
    have := hinv.last n hconn
    omega
  have hoffline : s.connection = none → request.apply s.subscriptions = ∅ := by
    intro hnone
    rw [hconn] at hnone
    cases hnone
  rcases l.method_or_handler with hl | ⟨k, rfl⟩
  · obtain ⟨hrequest, htook⟩ := hinv.writer i l _ hi hl trivial
    refine hinv.method_moves hm hl (hinv.no_other hi hl trivial) (fun _ => hoffline) ?_
      fun h => absurd trivial h
    intro _
    refine ⟨hrequest, hlt, fun _ => ?_, fun hne => absurd hconn hne⟩
    exact htook.apply rfl rfl fun k hh => hm.handled_of_method hl hh
  · -- `onConnected` asks for the topics of the map, so the broker has them all now
    obtain ⟨rfl, -⟩ := hinv.reader i k _ hi trivial
    have hsynced := hinv.free (hinv.no_method hi trivial)
    have hall : s.topics ⊆ s.subscriptions ∪ s.topics := Finset.subset_union_right
    refine hinv.handler_moves hm (hinv.no_method hi trivial) rfl Finset.subset_union_left
      (fun _ => hoffline) ?_ ⟨Finset.union_subset hsynced.1 (Finset.Subset.refl _), fun _ _ _ => hall⟩
    refine fun _ => ⟨rfl, fun m hmn => ?_⟩
    cases hmn
    have hk := hinv.handler_lt i _ k hi rfl
    have hlast := hinv.last n hconn
    exact ⟨by omega, hlt, fun _ => hall⟩

/-- A token has no error. If it is that of `onConnected`, the request took effect on its own connection or a
later one: so on its own, if that is the one there is. -/
theorem Inv.succeed {request : Request} {took : ℕ} (hinv : Inv s)
    (hi : s.calls[i]? = some ⟨l, .waiting request (some took)⟩) : Inv (s.move i l (l.afterSuccess took)) := by
  rcases l.method_or_handler with hl | ⟨n, rfl⟩
  · obtain ⟨hrequest, htook⟩ := hinv.writer i l _ hi hl trivial
    rw [Call.afterSuccess_of_method hl]
    refine hinv.method_moves_quietly hi hl trivial (fun _ => ?_) fun h => absurd trivial h
    rw [WriterOk, ← hrequest]
    exact htook
  · refine hinv.handler_moves_quietly hi trivial (fun _ => trivial) fun _ hconn => .inr ?_
    obtain ⟨hle, hlt, hall⟩ := (hinv.reader i n _ hi trivial).2 took rfl
    have hlast := hinv.last n hconn
    have htook : took = n := by omega
    exact hall (by rw [hconn, htook])

theorem Inv.fail {request : Request} {took : Option ℕ} (hinv : Inv s)
    (hi : s.calls[i]? = some ⟨l, .waiting request took⟩)
    (hfail : ∀ n, took = some n → s.connection ≠ some n) : Inv (s.move i l l.afterError) := by
  rcases l.method_or_handler with hl | ⟨n, rfl⟩
  · obtain ⟨-, htook⟩ := hinv.writer i l _ hi hl trivial
    rw [Call.afterError_of_method hl]
    exact hinv.method_moves_quietly hi hl trivial (fun _ => htook.synced hfail) fun h => absurd trivial h
  · exact hinv.handler_moves_quietly hi trivial (fun _ => trivial) fun h => h.elim

/-- A method changes the map. -/
theorem Inv.store {took : ℕ} (hinv : Inv s) (hi : s.calls[i]? = some ⟨l, .granted took⟩) :
    Inv { s.move i l (.returning false) with gateways := l.store s.gateways } := by
  have hm : Moves s { s.move i l (.returning false) with gateways := l.store s.gateways } i l _ _ :=
    ⟨hi, rfl, rfl, rfl⟩
  rcases l.method_or_handler with hl | ⟨n, rfl⟩
  · have htook : TookOk s (l.request s.gateways) (some took) := hinv.writer i l _ hi hl trivial
    refine hinv.method_moves hm hl (hinv.no_other hi hl trivial) (fun h _ => h) ?_ fun h => absurd trivial h
    intro _
    change Synced ((l.store s.gateways).image topic) _
    rw [image_store hl]
    exact htook.synced_apply.mono rfl rfl fun n hh => hm.handled_of_method hl hh
  · exact (hinv.reader i n _ hi trivial).elim

theorem Inv.unlock {err : Bool} (hinv : Inv s) (hi : s.calls[i]? = some ⟨l, .returning err⟩) :
    Inv (s.move i l (.returned err)) := by
  rcases l.method_or_handler with hl | ⟨n, rfl⟩
  · have hsynced : Synced s.topics s := hinv.writer i l _ hi hl trivial
    exact hinv.method_moves_quietly hi hl trivial (fun h => h.elim) fun _ => hsynced
  · exact hinv.handler_moves_quietly hi trivial (fun h => h.elim) fun _ _ => .inl ⟨i, _, hi, rfl, trivial⟩

/-- **Every step keeps the invariant.** -/
theorem Inv.step (hinv : Inv s) (h : Step s s') : Inv s' := by
  cases h with
  | call l hl => exact hinv.call hl
  | connect _ => exact hinv.connect
  | lose n _ => exact hinv.lose
  | lock i l hi hl hnobody => exact hinv.lock hi hl hnobody
  | rlock i n hi hnobody => exact hinv.rlock hi hnobody
  | check i n hi => exact hinv.check hi
  | request i l hi => exact hinv.request hi
  | takeEffect i l request took n hi hconn => exact hinv.takeEffect hi hconn
  | succeed i l request took hi => exact hinv.succeed hi
  | fail i l request took hi hfail => exact hinv.fail hi hfail
  | store i l took hi => exact hinv.store hi
  | unlock i l err hi => exact hinv.unlock hi

theorem inv_of_reachable (h : Reachable s) : Inv s := by
  induction h with
  | refl => exact inv_init
  | tail _ hstep ih => exact ih.step hstep

/-! ### The result -/

/-- The call has not returned yet. -/
def Activity.Outstanding (a : Activity) : Prop := ∀ err, a.phase ≠ .returned err

/-- **Subscriptions survive reconnects.** In every state of every run in which the client is connected,
`onConnected` of that connection is not outstanding, and neither is a call of `SubscribeGatewayTX` or
`UnSubscribeGatewayTX`, the broker has the topics of the gateways in the map, one for each. -/
theorem subscriptions_survive_reconnects (hr : Reachable s) (hconn : s.connection = some n)
    (hhandler : ∀ a ∈ s.calls, a.call = .onConnected n → ¬ a.Outstanding)
    (hmethods : ∀ a ∈ s.calls, a.call.Method → ¬ a.Outstanding) :
    s.subscriptions = s.gateways.image topic ∧ Function.Injective topic := by
  have hinv := inv_of_reachable hr
  have hreturned : ∀ a : Activity, ¬ a.Outstanding → ∃ err, a.phase = .returned err := by
    intro a ha
    simp only [Activity.Outstanding, not_forall, not_not] at ha
    exact ha
  have hsynced : Synced s.topics s := by
    apply hinv.free
    intro i a hi hl hactive
    obtain ⟨err, herr⟩ := hreturned a (hmethods a (List.mem_of_getElem? hi) hl)
    rw [herr] at hactive
    exact hactive
  have hhandled : s.Handled n := by
    obtain ⟨i, a, hi, hcall⟩ := hinv.called n hconn
    obtain ⟨err, herr⟩ := hreturned a (hhandler a (List.mem_of_getElem? hi) hcall)
    exact ⟨i, a, hi, hcall, by rw [herr]; trivial⟩
  exact ⟨hsynced.1.antisymm (hsynced.2 n hconn hhandled), topic_injective⟩

/-- The backend after a reconnect, with one gateway. -/
def sampleState : MqttState where
  gateways := {sampleMAC}
  connection := some 1
  connections := 2
  subscriptions := {topic sampleMAC}
  calls := [⟨.onConnected 0, .returned false⟩, ⟨.subscribe sampleMAC, .returned false⟩,
    ⟨.onConnected 1, .returned false⟩]

/-- The connection is lost in the middle of a subscription, after the request took effect, and `onConnected`
of the next connection makes up for it. -/
theorem reachable_sampleState : Reachable sampleState := by
  have r₀ : Reachable {} := .refl
  have r₁ : Reachable { connection := some 0, connections := 1, calls := [⟨.onConnected 0, .start⟩] } :=
    r₀.tail (.connect rfl)
  have r₂ : Reachable { connection := some 0, connections := 1, calls := [⟨.onConnected 0, .checking⟩] } :=
    r₁.tail (.rlock 0 0 rfl (by simp [Call.Method]))
  have r₃ : Reachable { connection := some 0, connections := 1, calls := [⟨.onConnected 0, .returning false⟩] } :=
    r₂.tail (.check 0 0 rfl)
  have r₄ : Reachable { connection := some 0, connections := 1, calls := [⟨.onConnected 0, .returned false⟩] } :=
    r₃.tail (.unlock 0 _ false rfl)
  have r₅ := r₄.tail (.call (.subscribe sampleMAC) trivial)
  have r₆ := r₅.tail (.lock 1 _ rfl trivial (by simp [Phase.Active]))
  have r₇ := r₆.tail (.request 1 _ rfl)
  have r₈ := r₇.tail (.takeEffect 1 _ _ _ 0 rfl rfl)
  have r₉ := r₈.tail (.lose 0 rfl)
  have r₁₀ := r₉.tail (.connect rfl)
  have r₁₁ := r₁₀.tail (.succeed 1 _ _ 0 rfl)
  have r₁₂ := r₁₁.tail (.store 1 _ 0 rfl)
  have r₁₃ : Reachable { gateways := {sampleMAC}, connection := some 1, connections := 2, calls := [
      ⟨.onConnected 0, .returned false⟩, ⟨.subscribe sampleMAC, .returned false⟩, ⟨.onConnected 1, .start⟩] } :=
    r₁₂.tail (.unlock 1 _ false rfl)
  have r₁₄ := r₁₃.tail (.rlock 2 1 rfl (by simp [Phase.Active, Call.Method]))
  have r₁₅ := r₁₄.tail (.check 2 1 rfl)
  have r₁₆ := r₁₅.tail (.request 2 _ rfl)
  have r₁₇ := r₁₆.tail (.takeEffect 2 _ _ _ 1 rfl rfl)
  have r₁₈ := r₁₇.tail (.succeed 2 _ _ 1 rfl)
  exact r₁₈.tail (.unlock 2 _ false rfl)

/-- After the reconnect, the subscriptions are those of the map. -/
theorem subscriptions_after_reconnect :
    Reachable sampleState ∧ sampleState.connections = 2 ∧
      sampleState.subscriptions = sampleState.gateways.image topic := by
  have hreturned : ∀ a ∈ sampleState.calls, ¬ a.Outstanding := by
    simp [sampleState, Activity.Outstanding]
  refine ⟨reachable_sampleState, rfl, ?_⟩
  exact (subscriptions_survive_reconnects reachable_sampleState rfl (fun a ha _ => hreturned a ha)
    fun a ha _ => hreturned a ha).1

end GatewayBridge.Mqtt
