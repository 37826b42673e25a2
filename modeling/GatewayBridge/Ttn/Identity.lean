import GatewayBridge.Ttn.Sessions

/-!
# Which gateway an uplink is from

The router is told twice which gateway an uplink is from: by the client that the uplink
stream was opened with, whose id `newGtw` of `backend/thethingsnetwork/backend.go` takes
from the configuration, and by `GatewayMetadata.GatewayId` of the message, which
`convertRXPacket` makes from the MAC in the packet. `AddGateway` is what fills the
configuration; `run` calls it before anything is published, and goes on if it fails.

What is proved: `identified_of_mem`, a client keeps the id of its MAC for ever, and
`uplink_identity_iff`, when the message agrees with it.
-/

namespace GatewayBridge.Ttn

open GatewayBridge.Go GatewayBridge.Lora GatewayBridge.Process GatewayBridge.Semtech Prog

/-! ### The configuration -/

/-- How the account server is asked: `auth.AccessToken` or `auth.AccessKey`. -/
inductive Auth where
  /-- With a token. -/
  | accessToken (token : Bytes)
  /-- With a key. -/
  | accessKey (key : Bytes)
  deriving DecidableEq

/-- The errors of `AddGateway`. -/
inductive AddGatewayError where
  /-- The EUI is not one. -/
  | eui (e : EUIError)
  /-- The account server does not answer. -/
  | account
  deriving DecidableEq

/-- A call of `AddGateway`, with what the account server answers; an error of it is `none`. -/
structure AddGateway where
  /-- `accountServer.WithAuth(…).FindGateway(id)`. -/
  findGateway : Auth → Bytes → Option AccountGateway
  /-- The EUI, as text. -/
  euiStr : Bytes
  /-- What the EUI should translate to. -/
  id : Bytes
  /-- The access key. -/
  key : Bytes
  /-- The access token. -/
  token : Bytes

/-- The part of `AddGateway` that asks the account server. -/
def AddGateway.ask (a : AddGateway) (accountServer : Bool) : Option AccountGateway :=
  if accountServer then
    if a.token ≠ [] then a.findGateway (.accessToken a.token) a.id
    else if a.key ≠ [] then a.findGateway (.accessKey a.key) a.id
    else some {}
  else some {}

/-- `Backend.AddGateway`. -/
def Settings.addGateway (cfg : Settings) (a : AddGateway) : Except AddGatewayError Settings :=
  match EUI64.unmarshalText a.euiStr with
  | .error e => .error (.eui e)
  | .ok eui =>
      match a.ask cfg.accountServer with
      | none => .error .account
      | some gtw =>
          let token :=
            match gtw.token with
            | some accessToken => if accessToken ≠ [] then accessToken else a.token
            | none => a.token
          .ok { cfg with
            gatewayConf := cfg.gatewayConf.insert eui { id := a.id, key := a.key, token := token, settings := gtw } }

/-- The calls of `AddGateway` in `run`: an error is logged, and changes nothing. -/
def Settings.configure (cfg : Settings) : List AddGateway → Settings
  | [] => cfg
  | a :: calls =>
      match cfg.addGateway a with
      | .ok cfg' => cfg'.configure calls
      | .error _ => cfg.configure calls

/-- The id with which the router client of a MAC is created. -/
def Settings.gatewayId (cfg : Settings) (mac : EUI64) : Bytes :=
  ((cfg.gatewayConf.lookup mac).map GtwConf.id).getD (euiId mac)

theorem euiId_injective {mac mac' : EUI64} (h : euiId mac = euiId mac') : mac = mac' :=
  EUI64.string_injective (List.append_cancel_left h)

/-! ### The clients -/

variable {cfg : Settings} {t t' : TtnState} {e : TtnEff} {mac : EUI64} {gtw : ℕ}

/-- The client of a MAC has its id. -/
def Identified (cfg : Settings) (t : TtnState) : Prop :=
  ∀ mac gtw, t.gateways.lookup mac = some gtw →
    ∃ g, t.gtws[gtw]? = some g ∧ g.client.gatewayID = cfg.gatewayId mac

theorem identified_empty (cfg : Settings) : Identified cfg {} := by
  intro mac gtw hl
  simp at hl

/-- **Every effect leaves the identity of the clients alone**, and `newGtw` takes it from the
configuration. -/
theorem Identified.change (h : Identified cfg t) (hc : Change cfg t e t') : Identified cfg t' := by
  have hold : ∀ mac gtw, t.gateways.lookup mac = some gtw →
      ∃ g, t'.gtws[gtw]? = some g ∧ g.client.gatewayID = cfg.gatewayId mac := by
    intro mac gtw hl
    obtain ⟨g, hg, hid⟩ := h mac gtw hl
    obtain ⟨g', hg', hid', -⟩ := hc.getElem? hg
    exact ⟨g', hg', hid'.trans hid⟩
  intro mac gtw hl
  rcases hc.gateways with ⟨hgateways, -⟩ | ⟨mac', -, -, hgateways, hgtws⟩
  · rw [hgateways] at hl
    exact hold mac gtw hl
  · by_cases hm : mac = mac'
    · subst hm
      rw [hgateways, Finmap.lookup_insert, Option.some.injEq] at hl
      subst hl
      exact ⟨TtnState.freshGtw cfg mac, by simp [hgtws], rfl⟩
    · rw [hgateways, Finmap.lookup_insert_of_ne _ hm] at hl
      exact hold mac gtw hl

variable {ok : TtnCfg → Move TtnCall TtnEff → Prop} {h : List TtnEntry} {c : TtnCfg}

/-- In every run, the client of a MAC has the id of the MAC, from when it is made. -/
theorem identified_of_mem (hr : Run (backend cfg) ok {} h c) : ∀ en ∈ h, Identified cfg en.pre :=
  hr.linked.invariant_pre (identified_empty cfg) fun _ hen hpre => hpre.change (change_of_mem hr hen)

/-! ### The messages -/

theorem gatewayId_convertRXPacket (now : Time) (rxPacket : RXPacketBytes) :
    (convertRXPacket now rxPacket).gatewayMetadata.gatewayId = euiId rxPacket.rxInfo.mac := by
  unfold convertRXPacket
  rfl

/-- The id of a MAC is the one made from the MAC of the packet: the MAC is configured with that id, or it is
not configured and the packet has it. -/
theorem euiId_eq_gatewayId_iff {mac mac' : EUI64} :
    euiId mac' = cfg.gatewayId mac ↔
      (∀ conf, cfg.gatewayConf.lookup mac = some conf → conf.id = euiId mac') ∧
        (cfg.gatewayConf.lookup mac = none → mac' = mac) := by
  unfold Settings.gatewayId
  cases cfg.gatewayConf.lookup mac with
  | none =>
    simp only [Option.map_none, Option.getD_none, reduceCtorEq, false_implies, implies_true, true_and,
      forall_true_left]
    constructor
    · exact euiId_injective
    · intro hm
      rw [hm]
  | some conf =>
    simp only [Option.map_some, Option.getD_some, Option.some.injEq, forall_eq', reduceCtorEq,
      false_implies, and_true]
    exact eq_comm

/-- **When the two identities of an uplink agree.** Whatever gateways were added and whatever calls
interleave: every uplink is sent by a call of `PublishGatewayRX`, on the stream of a client with the id of
the MAC of the call. The message has that id if the MAC was added with the id that is made from the MAC in
the packet, or was not added and is the MAC in the packet; and only then. -/
theorem uplink_identity_iff (base : Settings) (calls : List AddGateway)
    (hr : Run (backend (base.configure calls)) ok {} h c) :
    ∀ en ∈ h, ∀ gtw message, en.event.1 = .uplinkSend gtw message →
      ∃ mac rxPacket g, c.call en.tid = some (.publishRX mac rxPacket) ∧ en.pre.gtws[gtw]? = some g ∧
        g.client.gatewayID = (base.configure calls).gatewayId mac ∧
        (message.gatewayMetadata.gatewayId = g.client.gatewayID ↔
          (∀ conf, (base.configure calls).gatewayConf.lookup mac = some conf →
            conf.id = euiId rxPacket.rxInfo.mac) ∧
          ((base.configure calls).gatewayConf.lookup mac = none → rxPacket.rxInfo.mac = mac)) := by
  intro en hen gtw message he
  obtain ⟨l, hl, hguar⟩ := guar_backend hr en hen
  rw [he] at hguar
  obtain ⟨hholds, mac, rxPacket, now, rfl, rfl⟩ := hguar
  rcases hholds with hfind | ⟨mac', hmac', hlookup⟩
  · cases hfind
  · cases hmac'
    obtain ⟨g, hg, hid⟩ := identified_of_mem hr en hen mac gtw hlookup
    refine ⟨mac, rxPacket, g, hl, hg, hid, ?_⟩
    rw [gatewayId_convertRXPacket, hid]
    exact euiId_eq_gatewayId_iff

/-- A gateway that is added under a name of its own. -/
def sampleAdd : AddGateway where
  findGateway _ _ := none
  euiStr := str "0102030405060708"
  id := str "my-gateway"
  key := []
  token := []

/-- The settings with it. -/
abbrev namedSettings : Settings := sampleSettings.configure [sampleAdd]

/-- The backend at its first uplink. -/
def namedTtn : TtnState :=
  (TtnState.newGtw namedSettings sampleMAC {}).2.modify 0 fun g => { g with rxRate := g.rxRate.update 1 }

/-- A run in which the gateway sends an uplink. -/
theorem exists_run_named :
    ∃ h c, Run (backend namedSettings) (fun _ _ => True) {} h c ∧ ∃ en ∈ h, en.pre = namedTtn ∧
      en.event.1 = .uplinkSend 0 (convertRXPacket 0 sampleUplink) := by
  have r₀ : Run (backend namedSettings) (fun _ _ => True) {} [] ⟨{}, []⟩ := .init
  have r₁ := r₀.start (TtnCall.publishRX sampleMAC sampleUplink) trivial trivial
  have r₂ : Run (backend namedSettings) _ _ _ ⟨{}, _⟩ :=
    r₁.act (i := 0) (e := TtnEff.getGtw sampleMAC) (r := none) rfl ⟨rfl, rfl⟩ trivial
  have hmade : (backend namedSettings).sem (.newGtw sampleMAC) {} (0 : ℕ)
    (TtnState.newGtw namedSettings sampleMAC {}).2 := rfl
  have r₃ := r₂.act (i := 0) rfl hmade trivial
  have r₄ : Run (backend namedSettings) _ _ _ ⟨namedTtn, _⟩ :=
    r₃.act (i := 0) (e := TtnEff.rxRateUpdate 0 1) (r := ()) rfl rfl trivial
  have hrate : (backend namedSettings).sem (.rxRate 0) namedTtn (0 : ℚ) namedTtn :=
    ⟨congrArg some (zero_mul _), rfl⟩
  have r₅ : Run (backend namedSettings) _ _ _ ⟨namedTtn, _⟩ := r₄.act (i := 0) rfl hrate trivial
  have hnow : (backend namedSettings).sem .now namedTtn (0 : ℤ) namedTtn := rfl
  have r₆ : Run (backend namedSettings) _ _ _ ⟨namedTtn, _⟩ := r₅.act (i := 0) rfl hnow trivial
  have r₇ : Run (backend namedSettings) _ _ _ ⟨namedTtn, _⟩ :=
    r₆.act (i := 0) (e := TtnEff.uplinkSend 0 (convertRXPacket 0 sampleUplink)) (r := ()) rfl rfl trivial
  exact ⟨_, _, r₇, _, List.mem_append_right _ (List.mem_singleton_self _), rfl, rfl⟩

/-- The client of that uplink has the name of the gateway. -/
theorem uplink_identity_named_client :
    ∃ h c, Run (backend namedSettings) (fun _ _ => True) {} h c ∧ ∃ en ∈ h, ∃ mac g,
      en.pre.gtws[0]? = some g ∧ g.client.gatewayID = namedSettings.gatewayId mac := by
  obtain ⟨h, c, hr, en, hen, -, he⟩ := exists_run_named
  obtain ⟨mac, -, g, -, hg, hid, -⟩ := uplink_identity_iff sampleSettings [sampleAdd] hr en hen 0 _ he
  exact ⟨h, c, hr, en, hen, mac, g, hg, hid⟩

/-- The gateway `0102030405060708` was added as `my-gateway`: its uplink is sent on the stream of `my-gateway`
and says it is from `eui-0102030405060708`. -/
theorem uplink_identity_disagrees :
    ∃ h c, Run (backend (sampleSettings.configure [sampleAdd])) (fun _ _ => True) {} h c ∧
      ∃ en ∈ h, ∃ gtw message g, en.event.1 = .uplinkSend gtw message ∧ en.pre.gtws[gtw]? = some g ∧
        g.client.gatewayID = str "my-gateway" ∧
        message.gatewayMetadata.gatewayId = str "eui-0102030405060708" ∧
        message.gatewayMetadata.gatewayId ≠ g.client.gatewayID := by
  obtain ⟨h, c, hr, en, hen, hpre, he⟩ := exists_run_named
  have hmessage := gatewayId_convertRXPacket 0 sampleUplink
  have heui : euiId sampleUplink.rxInfo.mac = str "eui-0102030405060708" := by decide
  refine ⟨h, c, hr, en, hen, 0, _, _, he, by rw [hpre]; rfl, rfl, hmessage.trans heui, ?_⟩
  rw [hmessage, heui]
  decide

end GatewayBridge.Ttn
