import GatewayBridge.Ttn.Publish
import GatewayBridge.Semtech.Registry
import GatewayBridge.Process.Lock

/-!
# The backend of the router, wired to the registry

`type Backend` of `backend/thethingsnetwork/backend.go`, with `getGtw`, `newGtw`,
`SubscribeGatewayTX`, `UnSubscribeGatewayTX`, `PublishGatewayRX` and
`PublishGatewayStats`, and the wiring of `run` in `cmd/lora-gateway-bridge/main.go`:
the registry of `gateway/backend.go` calls `SubscribeGatewayTX` as its `onNew` and
`UnSubscribeGatewayTX` as its `onDelete`.

A `*gtw` is a number, its place among the `gtw`s made so far, and so is a downlink
stream; a stream is open until it is closed. `getGtw` and `newGtw` hold the lock of the
backend to their end and are one effect each. Every other access to a `gtw` is an
effect of its own, so that calls interleave between any two of them. The registry takes
its lock (`BridgeEff.lock`), goes on in single effects too, and releases it.

What `run` sets up before the registry is made does not change any more (`Settings`). The
loop that consumes a downlink stream is `consumeDownlink`; it neither opens nor closes a
stream and is not part of this system.
-/

namespace GatewayBridge.Ttn

open GatewayBridge.Go GatewayBridge.Lora GatewayBridge.Process GatewayBridge.Semtech Prog

/-! ### The state -/

/-- What `run` sets up: `SetAccount`, `SetRxRateLimit`, `AddGateway` and the `Inject` functions. -/
structure Settings where
  /-- `accountServer != nil`. -/
  accountServer : Bool
  /-- `rxRateLimit`. -/
  rxRateLimit : ℚ
  /-- `gatewayConf`. -/
  gatewayConf : Finmap fun _ : EUI64 => GtwConf
  /-- `gatewayStatus`. -/
  gatewayStatus : Status
  /-- The smoothing factor of `NewEWMA1`. -/
  alpha : ℚ

/-- `metrics.StandardEWMA`, in exact arithmetic. -/
structure EWMA where
  /-- Events since the last tick. -/
  uncounted : ℤ := 0
  /-- The smoothing factor. -/
  alpha : ℚ
  /-- Events per nanosecond. -/
  rate : ℚ := 0
  /-- Whether it has ticked. -/
  init : Bool := false
  deriving DecidableEq

/-- `EWMA.Update`. -/
def EWMA.update (a : EWMA) (n : ℤ) : EWMA := { a with uncounted := a.uncounted + n }

/-- `EWMA.Rate`: events per second. -/
def EWMA.perSecond (a : EWMA) : ℚ := a.rate * 10 ^ 9

/-- `EWMA.Tick`. -/
def EWMA.tick (a : EWMA) : EWMA :=
  let instantRate : ℚ := a.uncounted / (5 * 10 ^ 9)
  { a with
    uncounted := 0
    rate := if a.init then a.rate + a.alpha * (instantRate - a.rate) else instantRate
    init := true }

/-- `router.RouterClientForGateway`. -/
structure RouterClient where
  /-- The gateway, as the router knows it. -/
  gatewayID : Bytes
  /-- Its token. -/
  token : Bytes
  deriving DecidableEq

/-- `type gtw`. The streams `uplink` and `status` are made with it, and never change. -/
structure Gtw where
  /-- The gateway, as the router knows it. -/
  id : Bytes
  /-- Its configuration. -/
  conf : Option GtwConf
  /-- The connection to the router. -/
  client : RouterClient
  /-- The downlink stream. -/
  downlink : Option ℕ := none
  /-- How fast uplinks arrive. -/
  rxRate : EWMA
  deriving DecidableEq

/-- The goroutine of `newGtw`, with the answer of the account server. -/
def Gtw.configure (g : Gtw) (settings : AccountGateway) : Gtw :=
  { g with
    conf := some { id := g.id, token := settings.token.getD [], settings := settings }
    client := { g.client with token := settings.token.getD g.client.token } }

/-- `router.DownlinkStream`. -/
structure DownlinkStream where
  /-- The `gtw` whose client it was opened with. -/
  gtw : ℕ
  /-- It was not closed yet. -/
  isOpen : Bool
  deriving DecidableEq

/-- The backend. -/
structure TtnState where
  /-- `gateways`. -/
  gateways : Finmap fun _ : EUI64 => ℕ := ∅
  /-- The `gtw`s made so far. -/
  gtws : List Gtw := []
  /-- The downlink streams opened so far. -/
  streams : List DownlinkStream := []

namespace TtnState

/-- The downlink stream of a `gtw`. -/
def downlink (s : TtnState) (gtw : ℕ) : Option ℕ := s.gtws[gtw]?.bind Gtw.downlink

/-- A change of one `gtw`. -/
def modify (s : TtnState) (gtw : ℕ) (f : Gtw → Gtw) : TtnState := { s with gtws := s.gtws.modify gtw f }

/-- The state with one more stream, an open one. -/
def openStream (s : TtnState) (gtw : ℕ) : TtnState := { s with streams := s.streams ++ [⟨gtw, true⟩] }

/-- The state with the stream closed; it may have been closed before. -/
def closeStream (s : TtnState) (st : ℕ) : TtnState :=
  { s with streams := s.streams.modify st fun stream => { stream with isOpen := false } }

/-- The `gtw` that `newGtw` makes. -/
def freshGtw (cfg : Settings) (mac : EUI64) : Gtw :=
  let conf := cfg.gatewayConf.lookup mac
  let gatewayID := (conf.map GtwConf.id).getD (euiId mac)
  let gatewayToken := (conf.map GtwConf.token).getD (str "token")
  { id := gatewayID, conf := conf, client := ⟨gatewayID, gatewayToken⟩, rxRate := { alpha := cfg.alpha } }

/-- `Backend.newGtw`. -/
def newGtw (cfg : Settings) (mac : EUI64) (s : TtnState) : ℕ × TtnState :=
  match s.gateways.lookup mac with
  | some gtw => (gtw, s)
  | none =>
      (s.gtws.length, { s with
        gateways := s.gateways.insert mac s.gtws.length
        gtws := s.gtws ++ [freshGtw cfg mac] })

end TtnState

/-! ### The programs -/

/-- What the methods of the backend do. -/
inductive TtnEff where
  /-- `b.getGtw(mac)`. -/
  | getGtw (mac : EUI64)
  /-- `b.newGtw(mac)`. -/
  | newGtw (mac : EUI64)
  /-- `pb_router.NewMonitoredDownlinkStream(gtw.client)`. -/
  | newDownlinkStream (gtw : ℕ)
  /-- `gtw.downlink = downlink`. -/
  | setDownlink (gtw : ℕ) (downlink : ℕ)
  /-- `gtw.downlink`. -/
  | downlink (gtw : ℕ)
  /-- `gtw.downlink.Close()`. -/
  | closeDownlink (gtw : ℕ)
  /-- `gtw.rxRate.Update(n)`. -/
  | rxRateUpdate (gtw : ℕ) (n : ℤ)
  /-- `gtw.rxRate.Rate()`. -/
  | rxRate (gtw : ℕ)
  /-- `b.tick()`. -/
  | tick
  /-- `time.Now()`. -/
  | now
  /-- `gtw.uplink.Send(message)`: queued, or dropped if the queue is full. -/
  | uplinkSend (gtw : ℕ) (message : UplinkMessage)
  /-- `gtw.conf`. -/
  | conf (gtw : ℕ)
  /-- `b.accountServer.FindGateway(gtw.id)`: an error is `none`. -/
  | findGateway (gtw : ℕ)
  /-- `gateway.conf = …`. -/
  | configure (gtw : ℕ) (settings : AccountGateway)
  /-- `gtw.status.Send(status)`: queued, or dropped if the queue is full. -/
  | statusSend (gtw : ℕ) (status : Status)

/-- The answers. -/
abbrev TtnEff.Resp : TtnEff → Type
  | .getGtw _ => Option ℕ
  | .newGtw _ => ℕ
  | .newDownlinkStream _ => ℕ
  | .setDownlink _ _ => Unit
  | .downlink _ => Option ℕ
  | .closeDownlink _ => Unit
  | .rxRateUpdate _ _ => Unit
  | .rxRate _ => ℚ
  | .tick => Unit
  | .now => Time
  | .uplinkSend _ _ => Unit
  | .conf _ => Option GtwConf
  | .findGateway _ => Option AccountGateway
  | .configure _ _ => Unit
  | .statusSend _ _ => Unit

/-- A method of the backend. -/
abbrev TtnProg := Prog TtnEff TtnEff.Resp

/-- `gtw := b.getGtw(mac); if gtw == nil { gtw = b.newGtw(mac) }`. -/
def session (mac : EUI64) : TtnProg ℕ := do
  match ← ask (TtnEff.getGtw mac) with
  | some gtw => pure gtw
  | none => ask (TtnEff.newGtw mac)

/-- `Backend.SubscribeGatewayTX`. -/
def subscribeGatewayTX (mac : EUI64) : TtnProg (Except GwError Unit) := do
  let gtw ← session mac
  let downlink ← ask (TtnEff.newDownlinkStream gtw)
  ask (TtnEff.setDownlink gtw downlink)
  pure (.ok ())

/-- `Backend.UnSubscribeGatewayTX`. -/
def unSubscribeGatewayTX (mac : EUI64) : TtnProg (Except GwError Unit) := do
  match ← ask (TtnEff.getGtw mac) with
  | none => pure (.ok ())
  | some gtw =>
      match ← ask (TtnEff.downlink gtw) with
      | none => pure (.ok ())
      | some _ =>
          ask (TtnEff.closeDownlink gtw)
          pure (.ok ())

/-- `b.rxRateLimit > 0 && gtw.rxRate.Rate() > b.rxRateLimit`. -/
def overRate (cfg : Settings) (gtw : ℕ) : TtnProg Bool := do
  if cfg.rxRateLimit > 0 then
    let rate ← ask (TtnEff.rxRate gtw)
    pure (decide (rate > cfg.rxRateLimit))
  else pure false

/-- `Backend.PublishGatewayRX`. -/
def publishGatewayRX (cfg : Settings) (mac : EUI64) (rxPacket : RXPacketBytes) :
    TtnProg (Except GwError Unit) := do
  let gtw ← session mac
  ask (TtnEff.rxRateUpdate gtw 1)
  if ← overRate cfg gtw then pure (.ok ())
  else
    let now ← ask TtnEff.now
    ask (TtnEff.uplinkSend gtw (convertRXPacket now rxPacket))
    pure (.ok ())

/-- `Backend.PublishGatewayStats`. -/
def publishGatewayStats (cfg : Settings) (mac : EUI64) (stats : GatewayStatsPacket) :
    TtnProg (Except GwError Unit) := do
  let gtw ← session mac
  let status := convertStatsPacket cfg.gatewayStatus stats
  match ← ask (TtnEff.conf gtw) with
  | none => ask (TtnEff.statusSend gtw status)
  | some conf => ask (TtnEff.statusSend gtw (completeStatus conf.settings status))
  pure (.ok ())

/-- The goroutine that `newGtw` starts where there is an account server and no configuration. -/
def findConf (gtw : ℕ) : TtnProg (Except GwError Unit) := do
  match ← ask (TtnEff.findGateway gtw) with
  | none => pure (.ok ())
  | some settings =>
      ask (TtnEff.configure gtw settings)
      pure (.ok ())

/-- What the effects do. The clock shows any time, and the account server answers anything. Through
a pointer to no `gtw`, or on a `nil` stream, there is no answer. -/
def ttnSem (cfg : Settings) : (e : TtnEff) → TtnState → e.Resp → TtnState → Prop
  | .getGtw mac, s, r, s' => r = s.gateways.lookup mac ∧ s' = s
  | .newGtw mac, s, r, s' => (r, s') = s.newGtw cfg mac
  | .newDownlinkStream gtw, s, r, s' => r = s.streams.length ∧ s' = s.openStream gtw
  | .setDownlink gtw downlink, s, _, s' => s' = s.modify gtw fun g => { g with downlink := some downlink }
  | .downlink gtw, s, r, s' => s.gtws[gtw]?.map Gtw.downlink = some r ∧ s' = s
  | .closeDownlink gtw, s, _, s' => ∃ st, s.downlink gtw = some st ∧ s' = s.closeStream st
  | .rxRateUpdate gtw n, s, _, s' => s' = s.modify gtw fun g => { g with rxRate := g.rxRate.update n }
  | .rxRate gtw, s, r, s' => s.gtws[gtw]?.map (fun g => g.rxRate.perSecond) = some r ∧ s' = s
  | .tick, s, _, s' => s' = { s with gtws := s.gtws.map fun g => { g with rxRate := g.rxRate.tick } }
  | .now, s, _, s' => s' = s
  | .uplinkSend _ _, s, _, s' => s' = s
  | .conf gtw, s, r, s' => s.gtws[gtw]?.map Gtw.conf = some r ∧ s' = s
  | .findGateway _, s, _, s' => s' = s
  | .configure gtw settings, s, _, s' => s' = s.modify gtw fun g => g.configure settings
  | .statusSend _ _, s, _, s' => s' = s

/-! ### The bridge -/

/-- What the calls of the bridge do. -/
inductive BridgeEff where
  /-- `c.Lock()` of the registry. -/
  | lock
  /-- `c.Unlock()` of the registry. -/
  | unlock
  /-- An effect of the registry. -/
  | registry (e : RegEff)
  /-- An effect of the backend. -/
  | ttn (e : TtnEff)

/-- The answers. -/
abbrev BridgeEff.Resp : BridgeEff → Type
  | .lock => Unit
  | .unlock => Unit
  | .registry e => e.Resp
  | .ttn e => e.Resp

/-- The registry, with its lock, and the backend. -/
structure BridgeState where
  /-- The lock of the registry is taken. -/
  locked : Bool := false
  /-- The registry. -/
  registry : Gateways := ∅
  /-- The backend. -/
  ttn : TtnState := {}

/-- A call of the bridge. -/
abbrev BridgeProg := Prog BridgeEff BridgeEff.Resp

/-- A method of the backend, called by the bridge. -/
def callTtn {α : Type} (p : TtnProg α) : BridgeProg α := p.handle fun e => ask (BridgeEff.ttn e)

/-- The callbacks of `run`, in place of the effects `onNew` and `onDelete` of the registry. -/
def wire : (e : RegEff) → BridgeProg e.Resp
  | .onNew mac => callTtn (subscribeGatewayTX mac)
  | .onDelete mac => callTtn (unSubscribeGatewayTX mac)
  | .lookup mac => ask (BridgeEff.registry (.lookup mac))
  | .store mac gw => ask (BridgeEff.registry (.store mac gw))
  | .delete mac => ask (BridgeEff.registry (.delete mac))
  | .range => ask (BridgeEff.registry .range)
  | .now => ask (BridgeEff.registry .now)

/-- The lock of the registry. -/
def registryLock : Lock BridgeState BridgeEff where
  lock := .lock
  unlock := .unlock
  held s := s.locked = true

/-- `run` sets both callbacks. -/
def runCallbacks : Callbacks := ⟨true, true⟩

/-- A call of the bridge. -/
inductive BridgeCall where
  /-- `gateways.set(mac, gw)`, of a PULL_DATA. -/
  | set (mac : EUI64) (gw : Gateway)
  /-- `gateways.cleanup()`. -/
  | cleanup
  /-- `ttn.PublishGatewayRX(mac, rxPacket)`. -/
  | publishRX (mac : EUI64) (rxPacket : RXPacketBytes)
  /-- `ttn.PublishGatewayStats(mac, stats)`. -/
  | publishStats (mac : EUI64) (stats : GatewayStatsPacket)
  /-- The goroutine of `newGtw`. -/
  | findConf (gtw : ℕ)
  /-- `b.tick()`. -/
  | tick

/-- The program of a call. -/
def BridgeCall.body (cfg : Settings) : BridgeCall → BridgeProg (Except GwError Unit)
  | .set mac gw => registryLock.locked ((Gateways.set runCallbacks mac gw).handle wire)
  | .cleanup => registryLock.locked ((Gateways.cleanup runCallbacks).handle wire)
  | .publishRX mac rxPacket => callTtn (publishGatewayRX cfg mac rxPacket)
  | .publishStats mac stats => callTtn (publishGatewayStats cfg mac stats)
  | .findConf gtw => callTtn (Ttn.findConf gtw)
  | .tick => callTtn (do ask TtnEff.tick; pure (.ok ()))

/-- What the effects do. `onNew` and `onDelete` of the registry are never performed: `wire` has a
program in their place. -/
def bridgeSem (cfg : Settings) : (e : BridgeEff) → BridgeState → e.Resp → BridgeState → Prop
  | .lock, s, _, s' => s.locked = false ∧ s' = { s with locked := true }
  | .unlock, s, _, s' => s' = { s with locked := false }
  | .registry e, s, r, s' =>
      ∃ g, regSem freeWorld e (s.registry, ()) r (g, ()) ∧ s' = { s with registry := g }
  | .ttn e, s, r, s' => ∃ t, ttnSem cfg e s.ttn r t ∧ s' = { s with ttn := t }

/-- The bridge: any calls at once. The account server is asked for a `gtw` without configuration. -/
def bridge (cfg : Settings) :
    System BridgeState BridgeCall BridgeEff BridgeEff.Resp (Except GwError Unit) where
  body := BridgeCall.body cfg
  sem := bridgeSem cfg
  starts
    | .findConf gtw, s => cfg.accountServer = true ∧ s.ttn.gtws[gtw]?.map Gtw.conf = some none
    | _, _ => True

/-- An effect that the bridge performed. -/
abbrev BridgeEntry := Entry BridgeState BridgeEff BridgeEff.Resp

/-- A configuration of the bridge. -/
abbrev BridgeCfg := Cfg BridgeState BridgeCall BridgeEff BridgeEff.Resp (Except GwError Unit)

end GatewayBridge.Ttn
