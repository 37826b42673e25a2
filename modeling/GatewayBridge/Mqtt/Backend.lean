import GatewayBridge.Lora.Packets
import GatewayBridge.Semtech.Structs
import GatewayBridge.Process.Prog
import Mathlib.Data.Finset.Image
import Mathlib.Logic.Relation

/-!
# The MQTT backend

`Backend` of `backend/mqttpubsub/backend.go`: the handler of a message (`txPacketHandler`), and
the calls that keep the subscriptions, `SubscribeGatewayTX`, `UnSubscribeGatewayTX` and
`onConnected`.

`onConnected` tries again for as long as the broker refuses, so the calls are not programs
with an end but activities with a place in their code (`Phase`), and the backend, its
connection and the broker move in steps (`Step`). The lock of the backend is the
`sync.RWMutex` as its callers use it: a call unlocks what it locked, so who holds the lock
can be seen from where the calls are.

What is assumed of the MQTT client: a request takes effect at the broker at any moment
between the call and the end of `token.Wait()`, on the connection there is at that moment,
and it may do so more than once or never. A token without error says that it did; a token
with an error says that it did not on the connection there is now. `onConnected` is called
for every connection. A connection that is lost takes its subscriptions with it.
-/

namespace GatewayBridge.Mqtt

open GatewayBridge.Go GatewayBridge.Lora GatewayBridge.Process GatewayBridge.Semtech

/-- `fmt.Sprintf("gateway/%s/tx", mac)`. -/
def topic (mac : EUI64) : Bytes := str "gateway/" ++ mac.string ++ str "/tx"

/-- Distinct MACs have distinct topics. -/
theorem topic_injective : Function.Injective topic := by
  intro mac mac' h
  exact EUI64.string_injective (List.append_cancel_left (List.append_cancel_right h))

/-! ### Messages -/

/-- `mqtt.Message`. -/
structure Message where
  /-- The topic it was published on. -/
  topic : Bytes
  /-- Its text. -/
  payload : Bytes
  deriving DecidableEq

/-- What the handler does. -/
inductive HandlerEff where
  /-- `b.txPacketChan <- txPacket`. -/
  | txSend (txPacket : TXPacketBytes)

/-- The answers. -/
abbrev HandlerEff.Resp : HandlerEff → Type
  | .txSend _ => Unit

/-- `Backend.txPacketHandler`, with `encoding/json` on the packets. An error is logged. -/
def txPacketHandler (K : Json TXPacketBytes) (msg : Message) : Prog HandlerEff HandlerEff.Resp Unit :=
  match K.unmarshal msg.payload with
  | .error _ => .ret ()
  | .ok txPacket => Prog.ask (HandlerEff.txSend txPacket)

/-! ### Requests -/

/-- A request to the broker. -/
inductive Request where
  /-- `conn.Subscribe` and `conn.SubscribeMultiple`. -/
  | subscribe (topics : Finset Bytes)
  /-- `conn.Unsubscribe`. -/
  | unsubscribe (topics : Finset Bytes)
  deriving DecidableEq

/-- What a request does to the subscriptions of the session. -/
def Request.apply : Request → Finset Bytes → Finset Bytes
  | .subscribe topics, subscriptions => subscriptions ∪ topics
  | .unsubscribe topics, subscriptions => subscriptions \ topics

/-- A call of the backend. -/
inductive Call where
  /-- `SubscribeGatewayTX(mac)`. -/
  | subscribe (mac : EUI64)
  /-- `UnSubscribeGatewayTX(mac)`. -/
  | unSubscribe (mac : EUI64)
  /-- `onConnected`, of one connection. -/
  | onConnected (connection : ℕ)
  deriving DecidableEq

/-- The call is a method: it takes the write lock. `onConnected` takes the read lock. -/
def Call.Method : Call → Prop
  | .subscribe _ => True
  | .unSubscribe _ => True
  | .onConnected _ => False

/-- The request a call makes, with the map as it is. -/
def Call.request (gateways : Finset EUI64) : Call → Request
  | .subscribe mac => .subscribe {topic mac}
  | .unSubscribe mac => .unsubscribe {topic mac}
  | .onConnected _ => .subscribe (gateways.image topic)

/-- What a method does to the map once the request succeeded. -/
def Call.store : Call → Finset EUI64 → Finset EUI64
  | .subscribe mac, gateways => insert mac gateways
  | .unSubscribe mac, gateways => gateways.erase mac
  | .onConnected _, gateways => gateways

/-- Where a call is. -/
inductive Phase where
  /-- Before `b.mutex.Lock()` or `b.mutex.RLock()`. -/
  | start
  /-- `onConnected`: before `if len(b.gateways) > 0`. -/
  | checking
  /-- Before the request; in `onConnected`, at the top of the loop. -/
  | ready
  /-- In `token.Wait()`, with the connection on which the request last took effect. -/
  | waiting (request : Request) (took : Option ℕ)
  /-- The token of a method has no error; the map is next. -/
  | granted (took : ℕ)
  /-- At a `return`, with or without an error; the deferred unlock is next. -/
  | returning (err : Bool)
  /-- Back at the caller. -/
  | returned (err : Bool)
  deriving DecidableEq

/-- Where a call goes on when its token has an error: `onConnected` tries again. -/
def Call.afterError : Call → Phase
  | .subscribe _ => .returning true
  | .unSubscribe _ => .returning true
  | .onConnected _ => .ready

/-- Where a call goes on when its token has none. -/
def Call.afterSuccess (took : ℕ) : Call → Phase
  | .subscribe _ => .granted took
  | .unSubscribe _ => .granted took
  | .onConnected _ => .returning false

/-! ### Steps -/

/-- A call, with where it is. -/
structure Activity where
  /-- The call. -/
  call : Call
  /-- Where it is. -/
  phase : Phase
  deriving DecidableEq

/-- The backend, its connection, and the broker. -/
structure MqttState where
  /-- `gateways`. -/
  gateways : Finset EUI64 := ∅
  /-- The connection there is. -/
  connection : Option ℕ := none
  /-- How many there were so far. -/
  connections : ℕ := 0
  /-- The subscriptions at the broker. -/
  subscriptions : Finset Bytes := ∅
  /-- The calls that have started. -/
  calls : List Activity := []

/-- The call has the lock. -/
def Phase.Active : Phase → Prop
  | .start => False
  | .returned _ => False
  | _ => True

/-- The topics of the gateways in the map. -/
def MqttState.topics (s : MqttState) : Finset Bytes := s.gateways.image topic

/-- Call `i`, which is `l`, moves on. -/
def MqttState.move (s : MqttState) (i : ℕ) (l : Call) (p : Phase) : MqttState :=
  { s with calls := s.calls.set i ⟨l, p⟩ }

/-- One step of the backend, its connection or the broker. -/
inductive Step (s : MqttState) : MqttState → Prop
  /-- A method is called. -/
  | call (l : Call) : l.Method → Step s { s with calls := s.calls ++ [⟨l, .start⟩] }
  /-- The client connects, and calls `onConnected`. -/
  | connect : s.connection = none → Step s { s with
      connection := some s.connections
      connections := s.connections + 1
      subscriptions := ∅
      calls := s.calls ++ [⟨.onConnected s.connections, .start⟩] }
  /-- The connection is lost; the broker forgets the session. -/
  | lose (n : ℕ) : s.connection = some n → Step s { s with connection := none, subscriptions := ∅ }
  /-- `b.mutex.Lock()`: nobody has the lock. -/
  | lock (i : ℕ) (l : Call) : s.calls[i]? = some ⟨l, .start⟩ → l.Method →
      (∀ a ∈ s.calls, ¬ a.phase.Active) → Step s (s.move i l .ready)
  /-- `b.mutex.RLock()`: no method has the lock. -/
  | rlock (i n : ℕ) : s.calls[i]? = some ⟨.onConnected n, .start⟩ →
      (∀ a ∈ s.calls, a.call.Method → ¬ a.phase.Active) → Step s (s.move i (.onConnected n) .checking)
  /-- `if len(b.gateways) > 0`. -/
  | check (i n : ℕ) : s.calls[i]? = some ⟨.onConnected n, .checking⟩ →
      Step s (s.move i (.onConnected n) (if s.gateways = ∅ then .returning false else .ready))
  /-- The request. -/
  | request (i : ℕ) (l : Call) : s.calls[i]? = some ⟨l, .ready⟩ →
      Step s (s.move i l (.waiting (l.request s.gateways) none))
  /-- The request takes effect. -/
  | takeEffect (i : ℕ) (l : Call) (request : Request) (took : Option ℕ) (n : ℕ) :
      s.calls[i]? = some ⟨l, .waiting request took⟩ → s.connection = some n →
      Step s { s.move i l (.waiting request (some n)) with
        subscriptions := request.apply s.subscriptions }
  /-- `token.Error() == nil`: the request took effect. -/
  | succeed (i : ℕ) (l : Call) (request : Request) (took : ℕ) :
      s.calls[i]? = some ⟨l, .waiting request (some took)⟩ → Step s (s.move i l (l.afterSuccess took))
  /-- `token.Error() != nil`: the request has no effect on the connection there is. -/
  | fail (i : ℕ) (l : Call) (request : Request) (took : Option ℕ) :
      s.calls[i]? = some ⟨l, .waiting request took⟩ → (∀ n, took = some n → s.connection ≠ some n) →
      Step s (s.move i l l.afterError)
  /-- `b.gateways[mac] = struct{}{}` or `delete(b.gateways, mac)`. -/
  | store (i : ℕ) (l : Call) (took : ℕ) : s.calls[i]? = some ⟨l, .granted took⟩ →
      Step s { s.move i l (.returning false) with gateways := l.store s.gateways }
  /-- The deferred unlock. -/
  | unlock (i : ℕ) (l : Call) (err : Bool) : s.calls[i]? = some ⟨l, .returning err⟩ →
      Step s (s.move i l (.returned err))

/-- The states of all runs, from a backend that is not connected yet. -/
def Reachable (s : MqttState) : Prop := Relation.ReflTransGen Step {} s

end GatewayBridge.Mqtt
