import GatewayBridge.Ttn.Sessions

/-!
# What a status is composed of

The status that `PublishGatewayStats` sends has three sources: the packet of the gateway,
what `run` injected, and the record of the account server, if the goroutine of `newGtw`
has it by then. `Composed` says which of them each field is from. The packet comes first;
the record fills in what the packet leaves out.

A record can have a `Location` that is `Empty`, which is what `FindGateway` makes of `false`
and of `{}`: the location is not given, as opposed to `(0, 0)`. `PublishGatewayStats` only
looks whether the pointer is `nil`, and so publishes `(0, 0)` for it. `status_composed_iff`
says that a status is composed as it should be in all other cases.
-/

namespace GatewayBridge.Ttn

open GatewayBridge.Go GatewayBridge.Lora GatewayBridge.Process GatewayBridge.Semtech Prog

/-! ### The sources -/

/-- The packet has a position. -/
def HasPosition (stats : GatewayStatsPacket) : Prop :=
  stats.latitude ≠ 0 ∨ stats.longitude ≠ 0 ∨ stats.altitude ≠ 0

instance (stats : GatewayStatsPacket) : Decidable (HasPosition stats) :=
  inferInstanceAs (Decidable (_ ∨ _ ∨ _))

/-- The text that the packet has under a key, the empty one if it has none. -/
def packetText (stats : GatewayStatsPacket) (key : Bytes) : Bytes := customString stats key []

/-- The position that the record has: that of a location which is not `Empty`. -/
def recordPosition (record : AccountGateway) : Option GPSMetadata :=
  (record.location.filter fun location => !location.empty).map fun location =>
    ⟨float32 location.latitude, float32 location.longitude, truncInt32 record.altitude⟩

/-- The platform that the record has: the brand, and the model after a space. -/
def recordPlatform (record : AccountGateway) : Bytes :=
  record.brand.getD [] ++ (record.model.map fun model => str " " ++ model).getD []

/-- `gatewayStatus`, in which the `Inject` functions set these fields and nobody sets the others. -/
def injected (region bridge : Bytes) (rtt : UInt32) : Status where
  region := region
  bridge := bridge
  rtt := rtt

/-- What a status is composed of: the injected values, and each of position, description and platform from
the packet, else from the record, else absent. -/
structure Composed (region bridge : Bytes) (rtt : UInt32) (stats : GatewayStatsPacket)
    (record : Option AccountGateway) (status : Status) : Prop where
  /-- The region is the one injected. -/
  region : status.region = region
  /-- The bridge is the one injected. -/
  bridge : status.bridge = bridge
  /-- The round-trip time is the one injected. -/
  rtt : status.rtt = rtt
  /-- Where the gateway is. -/
  gps : status.gps =
    if HasPosition stats then
      some ⟨float32 stats.latitude, float32 stats.longitude, truncInt32 stats.altitude⟩
    else record.bind recordPosition
  /-- What the gateway is. -/
  description : status.description =
    if packetText stats (str "description") ≠ [] then packetText stats (str "description")
    else (record.bind AccountGateway.description).getD []
  /-- The kind of gateway. -/
  platform : status.platform =
    if packetText stats (str "platform") ≠ [] then packetText stats (str "platform")
    else (record.map recordPlatform).getD []

/-! ### The status of a call -/

variable {region bridge : Bytes} {rtt : UInt32} {stats : GatewayStatsPacket} {conf : Option GtwConf}

/-- The status that is sent, where `conf` is read from the `gtw`. -/
def sentStatus (gatewayStatus : Status) (stats : GatewayStatsPacket) (conf : Option GtwConf) : Status :=
  match conf with
  | none => convertStatsPacket gatewayStatus stats
  | some conf => completeStatus conf.settings (convertStatsPacket gatewayStatus stats)

/-- The location of the record that was read. -/
def recordLocation (conf : Option GtwConf) : Option Location := conf.bind fun conf => conf.settings.location

/-- A position that the packet leaves out is filled in from any location, given or not. -/
theorem sentStatus_gps (region bridge : Bytes) (rtt : UInt32) (stats : GatewayStatsPacket)
    (conf : Option GtwConf) :
    (sentStatus (injected region bridge rtt) stats conf).gps =
      if HasPosition stats then
        some ⟨float32 stats.latitude, float32 stats.longitude, truncInt32 stats.altitude⟩
      else conf.bind fun conf => conf.settings.location.map fun location =>
        ⟨float32 location.latitude, float32 location.longitude, truncInt32 conf.settings.altitude⟩ := by
  by_cases hpos : HasPosition stats
  · have hgps : (convertStatsPacket (injected region bridge rtt) stats).gps =
        some ⟨float32 stats.latitude, float32 stats.longitude, truncInt32 stats.altitude⟩ := if_pos hpos
    rw [if_pos hpos]
    cases conf with
    | none => exact hgps
    | some conf => rw [sentStatus, completeStatus, hgps]
  · have hgps : (convertStatsPacket (injected region bridge rtt) stats).gps = none := if_neg hpos
    rw [if_neg hpos]
    cases conf with
    | none => exact hgps
    | some conf =>
      rw [sentStatus, completeStatus, hgps]
      cases hloc : conf.settings.location with
      | none => simp [hloc]
      | some location => simp [hloc]

/-- The position is the one it should be, but for an `Empty` location. -/
theorem gps_eq_iff (record : AccountGateway) :
    (record.location.map fun location =>
        (⟨float32 location.latitude, float32 location.longitude, truncInt32 record.altitude⟩ : GPSMetadata)) =
      recordPosition record ↔ ∀ location, record.location = some location → location.empty = false := by
  rw [recordPosition]
  cases hloc : record.location with
  | none => simp
  | some location => cases hempty : location.empty <;> simp [hempty]

theorem composed_sentStatus_iff :
    Composed region bridge rtt stats (conf.map GtwConf.settings)
        (sentStatus (injected region bridge rtt) stats conf) ↔
      HasPosition stats ∨ ∀ location, recordLocation conf = some location → location.empty = false := by
  have hgps : (sentStatus (injected region bridge rtt) stats conf).gps =
      (if HasPosition stats then
        some ⟨float32 stats.latitude, float32 stats.longitude, truncInt32 stats.altitude⟩
      else (conf.map GtwConf.settings).bind recordPosition) ↔
      HasPosition stats ∨ ∀ location, recordLocation conf = some location → location.empty = false := by
    rw [sentStatus_gps]
    by_cases hpos : HasPosition stats
    · rw [if_pos hpos, if_pos hpos]
      exact iff_of_true rfl (.inl hpos)
    · rw [if_neg hpos, if_neg hpos, or_iff_right hpos]
      cases conf with
      | none => simp [recordLocation]
      | some conf => exact gps_eq_iff conf.settings
  constructor
  · intro h
    exact hgps.mp h.gps
  · intro h
    refine ⟨?_, ?_, ?_, hgps.mpr h, ?_, ?_⟩
    · cases conf <;> rfl
    · cases conf <;> rfl
    · cases conf <;> rfl
    · rw [ite_not]
      cases conf with
      | none => exact (ite_eq_right_iff.mpr Eq.symm).symm
      | some conf => rfl
    · rw [ite_not]
      cases conf with
      | none => exact (ite_eq_right_iff.mpr Eq.symm).symm
      | some conf => rfl

/-! ### Calls in a run -/

/-- The statuses that are sent. -/
def statusesSent (tr : List (Event TtnEff TtnEff.Resp)) : List Status :=
  tr.filterMap fun
    | ⟨.statusSend _ status, _⟩ => some status
    | _ => none

variable {cfg : Settings} {mac : EUI64} {tr : List (Event TtnEff TtnEff.Resp)}

theorem statusesSent_eq_nil (h : ∀ ev ∈ tr, ev.1.target = none) : statusesSent tr = [] := by
  rw [statusesSent, List.filterMap_eq_nil_iff]
  rintro ⟨e, r⟩ hev
  cases e with
  | statusSend gtw status => cases h _ hev
  | _ => rfl

/-- A call ends by reading the record of its `gtw` and sending a status, and sends no other. -/
theorem exec_publishGatewayStats {a : Except GwError Unit}
    (h : Exec (publishGatewayStats cfg mac stats) tr (ret a)) :
    ∃ tr₀ gtw conf, statusesSent tr₀ = [] ∧
      tr = tr₀ ++ [⟨.conf gtw, conf⟩, ⟨.statusSend gtw (sentStatus cfg.gatewayStatus stats conf), ()⟩] := by
  obtain ⟨gtw, tr₀, tr₁, h₀, h₁, rfl⟩ := h.bind_ret
  obtain ⟨conf, tr₂, rfl, h₂⟩ := h₁.eff_ret
  refine ⟨tr₀, gtw, conf, statusesSent_eq_nil (target_session h₀), ?_⟩
  cases conf with
  | none =>
    obtain ⟨_, tr₃, rfl, h₃⟩ := h₂.eff_ret
    obtain ⟨rfl, -⟩ := exec_ret_iff.mp h₃
    rfl
  | some conf =>
    obtain ⟨_, tr₃, rfl, h₃⟩ := h₂.eff_ret
    obtain ⟨rfl, -⟩ := exec_ret_iff.mp h₃
    rfl

variable {ok : TtnCfg → Move TtnCall TtnEff → Prop} {h : List TtnEntry} {c : TtnCfg}

/-- The record that a call reads is that of the `gtw` of its MAC, as it is then. -/
theorem conf_read {i gtw : ℕ} {p : TtnProg (Except GwError Unit)} (hr : Run (backend cfg) ok {} h c)
    (ht : c.threads[i]? = some ⟨.publishStats mac stats, p⟩) (hread : ⟨.conf gtw, conf⟩ ∈ performed i h) :
    ∃ en ∈ h, en.tid = i ∧ en.event = ⟨.conf gtw, conf⟩ ∧ en.pre.gateways.lookup mac = some gtw ∧
      en.pre.gtws[gtw]?.map Gtw.conf = some conf := by
  obtain ⟨en, hen, htid, hevent⟩ := mem_performed_iff.mp hread
  have hl : en.pre.gateways.lookup mac = some gtw := lookup_of_entry hr ht rfl hen htid (by rw [hevent]; rfl)
  have hsem := hr.linked.sem_of_mem hen
  rw [hevent] at hsem
  exact ⟨en, hen, htid, hevent, hl, hsem.1⟩

/-- A gateway that is configured with the record of the account server. -/
def locatedConf (location : Location) : GtwConf where
  id := str "gateway"
  token := str "token"
  settings := { location := some location, brand := some (str "Kerlink") }

/-- A bridge that knows that gateway, and has a region and a round-trip time injected. -/
def locatedSettings (location : Location) : Settings where
  accountServer := true
  rxRateLimit := 0
  gatewayConf := Finmap.singleton sampleMAC (locatedConf location)
  gatewayStatus := injected (str "EU_863_870") [] 300
  alpha := 2 / 25

/-- A packet that has nothing in it. -/
def blankStats : GatewayStatsPacket where
  mac := sampleMAC
  time := 0
  latitude := 0
  longitude := 0
  altitude := 0
  rxPacketsReceived := 0
  rxPacketsReceivedOK := 0
  customData := ∅

theorem run_blankStats (location : Location) :
    ∃ h c, Run (backend (locatedSettings location)) (fun _ _ => True) {} h c ∧
      c.threads[0]? = some ⟨.publishStats sampleMAC blankStats, .ret (.ok ())⟩ ∧
      performed 0 h = [⟨.getGtw sampleMAC, none⟩, ⟨.newGtw sampleMAC, (0 : ℕ)⟩] ++
        [⟨.conf 0, some (locatedConf location)⟩, ⟨.statusSend 0
          (sentStatus (locatedSettings location).gatewayStatus blankStats (some (locatedConf location))), ()⟩] := by
  have r₀ : Run (backend (locatedSettings location)) (fun _ _ => True) {} [] ⟨{}, []⟩ := .init
  have r₁ := r₀.start (TtnCall.publishStats sampleMAC blankStats) trivial trivial
  have r₂ : Run (backend (locatedSettings location)) _ _ _ ⟨{}, _⟩ :=
    r₁.act (i := 0) (e := TtnEff.getGtw sampleMAC) (r := none) rfl ⟨rfl, rfl⟩ trivial
  have hmade : (backend (locatedSettings location)).sem (.newGtw sampleMAC) {} (0 : ℕ)
      (TtnState.newGtw (locatedSettings location) sampleMAC {}).2 := rfl
  have r₃ := r₂.act (i := 0) rfl hmade trivial
  have hconf : (backend (locatedSettings location)).sem (.conf 0)
      (TtnState.newGtw (locatedSettings location) sampleMAC {}).2 (some (locatedConf location))
      (TtnState.newGtw (locatedSettings location) sampleMAC {}).2 := ⟨rfl, rfl⟩
  have r₄ := r₃.act (i := 0) rfl hconf trivial
  have r₅ := r₄.act (i := 0) (r := ()) rfl rfl trivial
  exact ⟨_, _, r₅, rfl, rfl⟩

end GatewayBridge.Ttn
