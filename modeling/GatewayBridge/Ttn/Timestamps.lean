import GatewayBridge.Ttn.Publish
import GatewayBridge.Semtech.Status

/-!
# Timestamps

A message to the router has its time in nanoseconds since the Unix epoch, in an `int64`,
and `0` for an unknown time. An `int64` reaches from 1677 to 2262, and a field `time` that is
absent decodes to year 1, so `UnixNano` of a reported time can wrap.

On the uplink path it is guarded: a time that is more than a minute from the present is
replaced by the epoch, and the subtraction in the comparison saturates, so a time that is
too far away to subtract is found to be too far away (`minute_lt_subTime_iff`). `Seconds`
rounds, but never across the minute (`minute_lt_seconds_iff`). The path of the statistics has
no guard. What is published is `0` or exact on just the inputs that `timestamps_exact_iff` names.
-/

namespace GatewayBridge.Ttn

open GatewayBridge.Go GatewayBridge.Lora GatewayBridge.Semtech

variable {t u now : Time}

/-! ### `UnixNano` -/

/-- A time that has its nanoseconds in an `int64`. -/
def FitsInt64 (t : Time) : Prop := -2 ^ 63 ≤ t ∧ t < 2 ^ 63

theorem unixNano_toInt (t : Time) : (unixNano t).toInt = t.bmod (2 ^ 64) := Int64.toInt_ofInt

theorem unixNano_toInt_eq_iff : (unixNano t).toInt = t ↔ FitsInt64 t := by
  rw [unixNano_toInt, FitsInt64]
  constructor
  · intro h
    rw [← h]
    exact ⟨Int.le_bmod (by norm_num), Int.bmod_lt (by norm_num)⟩
  · rintro ⟨hle, hlt⟩
    exact Int.bmod_eq_of_le hle hlt

theorem unixNano_eq_zero_iff : unixNano t = 0 ↔ 2 ^ 64 ∣ t := by
  rw [← Int64.toInt_inj, unixNano_toInt]
  exact Int.dvd_iff_bmod_eq_zero.symm

/-! ### The minute -/

/-- **`Seconds` does not round across a minute.** -/
theorem minute_lt_seconds_iff {d : ℤ} (h : |d| ≤ 2 ^ 63) : 60 < |seconds d| ↔ minute < |d| := by
  have hclose : |(|seconds d| - |(d : ℚ)| / 10 ^ 9)| ≤ 1 / 2 ^ 50 + |(d : ℚ)| / 10 ^ 9 * (1 / 2 ^ 53) := by
    have habs : |(d : ℚ)| / 10 ^ 9 = |(d : ℚ) / 10 ^ 9| := by
      rw [abs_div, abs_of_pos (show (0 : ℚ) < 10 ^ 9 by norm_num)]
    refine le_trans ?_ (abs_seconds_sub_le h)
    rw [habs]
    exact abs_abs_sub_abs_le _ _
  rw [abs_le] at hclose
  rcases lt_trichotomy |d| minute with hlt | heq | hgt
  · -- a nanosecond less is more than the rounding can add
    have hle : |(d : ℚ)| ≤ 60 * 10 ^ 9 - 1 := by
      have hle : |d| ≤ 60 * 10 ^ 9 - 1 := Int.le_sub_one_of_lt hlt
      exact_mod_cast hle
    refine iff_of_false (not_lt.mpr ?_) (not_lt.mpr hlt.le)
    linarith
  · have hsixty : |seconds d| = 60 := by
      rcases (abs_eq (by decide)).mp heq with rfl | rfl
      · rw [minute, seconds_mul (by decide)]
        norm_num
      · rw [minute, ← Int.neg_mul, seconds_mul (by decide)]
        norm_num
    rw [hsixty, heq]
    exact iff_of_false (lt_irrefl _) (lt_irrefl _)
  · have hge : 60 * 10 ^ 9 + 1 ≤ |(d : ℚ)| := by
      have hge : 60 * 10 ^ 9 + 1 ≤ |d| := hgt
      exact_mod_cast hge
    refine iff_of_true ?_ hgt
    linarith

/-- A difference that does not fit is more than a minute either way. -/
theorem minute_lt_subTime_iff : minute < |subTime t u| ↔ minute < |t - u| := by
  rw [subTime, minute, lt_abs, lt_abs]
  omega

theorem abs_subTime_le (t u : Time) : |subTime t u| ≤ 2 ^ 63 := by
  rw [subTime, abs_le]
  omega

/-- The time of an uplink that the router is told. -/
theorem convertRXPacket_time (now : Time) (rxPacket : RXPacketBytes) :
    (convertRXPacket now rxPacket).gatewayMetadata.time =
      if minute < |rxPacket.rxInfo.time - now| then 0 else unixNano rxPacket.rxInfo.time := by
  have hfar : |seconds (subTime rxPacket.rxInfo.time now)| > 60 ↔ minute < |rxPacket.rxInfo.time - now| :=
    (minute_lt_seconds_iff (abs_subTime_le _ _)).trans minute_lt_subTime_iff
  show unixNano (if |seconds (subTime rxPacket.rxInfo.time now)| > 60 then 0 else rxPacket.rxInfo.time) = _
  rw [apply_ite unixNano]
  exact if_congr hfar rfl rfl

/-! ### What is published -/

/-- The timestamp `v` for the time `t`: unknown, or exact. -/
def Faithful (t : Time) (v : Int64) : Prop := v = 0 ∨ v.toInt = t

instance (t : Time) (v : Int64) : Decidable (Faithful t v) := inferInstanceAs (Decidable (_ ∨ _))

theorem faithful_unixNano_iff : Faithful t (unixNano t) ↔ 2 ^ 64 ∣ t ∨ FitsInt64 t := by
  rw [Faithful, unixNano_eq_zero_iff, unixNano_toInt_eq_iff]

/-- The timestamp of an uplink is moreover not a minute away from the present. -/
def FaithfulUplink (now t : Time) (v : Int64) : Prop :=
  Faithful t v ∧ (v ≠ 0 → |v.toInt - now| ≤ minute)

theorem faithfulUplink_iff {rxPacket : RXPacketBytes} :
    FaithfulUplink now rxPacket.rxInfo.time (convertRXPacket now rxPacket).gatewayMetadata.time ↔
      minute < |rxPacket.rxInfo.time - now| ∨ 2 ^ 64 ∣ rxPacket.rxInfo.time ∨ FitsInt64 rxPacket.rxInfo.time := by
  rw [convertRXPacket_time, FaithfulUplink]
  by_cases hfar : minute < |rxPacket.rxInfo.time - now|
  · rw [if_pos hfar]
    exact iff_of_true ⟨.inl rfl, fun hne => absurd rfl hne⟩ (.inl hfar)
  · rw [if_neg hfar, or_iff_right hfar, ← faithful_unixNano_iff]
    refine and_iff_left_of_imp fun hfaithful hne => ?_
    rw [hfaithful.resolve_left hne]
    exact not_lt.mp hfar

/-- The addresses that are added to the statistics leave their time as it is. -/
theorem foldl_addIP_time (ips : List IP) (stats : GatewayStatsPacket) :
    (ips.foldl addIPToGatewayStatsPacket stats).time = stats.time := by
  induction ips generalizing stats with
  | nil => rfl
  | cons ip ips ih => rw [List.foldl_cons, ih, addIPToGatewayStatsPacket_time]

/-- **A published timestamp is `0` or exact** for an uplink more than a minute from the present, for a
time that has its nanoseconds in an `int64`, and for one that wraps to just `0`; and for no other.
This is so of all entries and statistics, in whatever datagram. The addresses `ips` are those
that the front end adds to the statistics. -/
theorem timestamps_exact_iff (mac : EUI64) :
    (∀ (rxpk : RXPK) (rxPacket : RXPacketBytes), newRXPacketFromRXPK mac rxpk = .ok rxPacket →
      ∀ now, FaithfulUplink now rxpk.time (convertRXPacket now rxPacket).gatewayMetadata.time ↔
        minute < |rxpk.time - now| ∨ 2 ^ 64 ∣ rxpk.time ∨ FitsInt64 rxpk.time) ∧
    ∀ (stat : Stat) (ips : List IP) (gatewayStatus : Status),
      Faithful stat.time (convertStatsPacket gatewayStatus
          (ips.foldl addIPToGatewayStatsPacket (newGatewayStatsPacket mac stat))).time ↔
        2 ^ 64 ∣ stat.time ∨ FitsInt64 stat.time := by
  refine ⟨fun rxpk rxPacket hrx now => ?_, fun stat ips gatewayStatus => ?_⟩
  · obtain ⟨-, -, htime, -⟩ := newRXPacketFromRXPK_eq_ok hrx
    rw [← htime]
    exact faithfulUplink_iff
  · rw [convertStatsPacket, foldl_addIP_time]
    exact faithful_unixNano_iff

/-- The uplink and the statistics of the samples, an hour after the uplink was received. -/
theorem timestamps_exact_samples :
    (∃ rxPacket, newRXPacketFromRXPK sampleMAC (sampleEntry 1) = .ok rxPacket ∧
      FaithfulUplink (1364746877528002000 + 60 * minute) (sampleEntry 1).time
        (convertRXPacket (1364746877528002000 + 60 * minute) rxPacket).gatewayMetadata.time) ∧
      Faithful sampleStat.time
        (convertStatsPacket {} (addIPToGatewayStatsPacket (newGatewayStatsPacket sampleMAC sampleStat)
          [192, 168, 1, 2])).time := by
  have hok : newRXPacketFromRXPK sampleMAC (sampleEntry 1) = .ok _ := rfl
  have hiff := timestamps_exact_iff sampleMAC
  refine ⟨⟨_, hok, (hiff.1 (sampleEntry 1) _ hok _).mpr (.inl (by decide))⟩, ?_⟩
  exact (hiff.2 sampleStat [[192, 168, 1, 2]] {}).mpr (.inr ⟨by decide, by decide⟩)

/-- The zero `time.Time`, which a field that is absent keeps: 1 January of year 1. -/
def zeroTime : Time := -62135596800 * 10 ^ 9

/-- A PUSH_DATA with a status that has no time. -/
def timelessPush : PushDataPacket := ⟨2, 12345, sampleMAC, ⟨[], some { sampleStat with time := zeroTime }⟩⟩

/-- The payload of `timelessPush`, written out. -/
def timelessText : Bytes :=
  str "\x7b\"stat\":\x7b\"lati\":46,\"long\":3,\"alti\":145," ++
    str "\"rxnb\":2,\"rxok\":2,\"rxfw\":2,\"ackr\":100,\"dwnb\":2,\"pfrm\":\"IMST\"\x7d\x7d"

/-- A codec that knows that text. -/
def timelessCodecs : Codecs := ⟨.ofTable [(timelessPush.payload, timelessText)], .ofTable [], .ofTable []⟩

/-- The datagram. -/
def timelessData : Bytes := header 2 12345 .pushData ++ sampleMAC.bytes ++ timelessText

/-- A status without a time is published with one in 1754. -/
theorem timeless_status_wraps :
    PushDataPacket.unmarshalBinary timelessCodecs timelessData = .ok timelessPush ∧
      ∃ stat, timelessPush.payload.stat = some stat ∧
        (convertStatsPacket {} (newGatewayStatsPacket sampleMAC stat)).time = -6795364578871345152 ∧
        ¬ Faithful stat.time (convertStatsPacket {} (newGatewayStatsPacket sampleMAC stat)).time := by
  refine ⟨?_, _, rfl, by decide, by decide⟩
  rw [PushDataPacket.unmarshalBinary_eq_ok_iff]
  refine ⟨rfl, timelessText, by simp [timelessText, str], rfl, ?_⟩
  rw [timelessCodecs, Json.ofTable_unmarshal]

end GatewayBridge.Ttn
