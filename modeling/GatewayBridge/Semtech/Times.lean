import GatewayBridge.Go.TimeGrammar

/-!
# Times in JSON

The packets of a gateway carry their times as JSON strings: a `CompactTime` in the
layout of RFC 3339 with nanoseconds, an `ExpandedTime` with a zone name and without a
fraction. This module says which texts each accepts and for which instants, and what
becomes of an instant that is written and read back.

* A `CompactTime` is read back exactly, as long as its year has four digits. Others are
  written all the same, but no text for them is accepted (`compact_roundTrip`).
* An `ExpandedTime` loses its fraction of a second, although one is accepted
  (`expanded_roundTrip`). Its zone names are read as UTC, unless the zone of the
  process knows the name: then the same text is another instant (`ExpandedText.time`).
-/

namespace GatewayBridge.Semtech

open Go

/-! ### `CompactTime` -/

/-- The ISO 8601 'compact' format. -/
abbrev CompactTime := Time

/-- The layout of `CompactTime`, in quotes. -/
def compactLayout : Layout :=
  .text (str "\"") :: (dateLayout ++ .text (str "T") ::
    (clockLayout ++ [.fracSecond9, .iso8601ColonTZ, .text (str "\"")]))

theorem spelling_compactLayout :
    compactLayout.flatMap Chunk.spelling = str "\"2006-01-02T15:04:05.999999999Z07:00\"" := rfl

/-- `MarshalJSON`. -/
def CompactTime.marshalJSON (t : CompactTime) : Bytes := format compactLayout t

/-- `UnmarshalJSON`. -/
def CompactTime.unmarshalJSON (lookupName : LookupName) (data : Bytes) : Option CompactTime :=
  parse lookupName compactLayout data

/-- A time in the compact format, as it is written. -/
structure CompactText where
  /-- Date and time of the day. -/
  stamp : Stamp
  /-- The offset, if it is not `Z`. -/
  offset : Option OffsetText

namespace CompactText

/-- How the time is written. -/
def text (w : CompactText) : Bytes :=
  str "\"" ++ w.stamp.date.text ++ str "T" ++ w.stamp.clock.text ++ OffsetText.zoneText w.offset ++ str "\""

/-- The instant: the offset is taken off. -/
def time (w : CompactText) : Time := w.stamp.reading.time - OffsetText.seconds w.offset * second

end CompactText

theorem no_space_quote : ∀ c ∈ str "\"", c ≠ 32 := List.forall_mem_singleton.mpr (by decide)

theorem no_space_T : ∀ c ∈ str "T", c ≠ 32 := List.forall_mem_singleton.mpr (by decide)

theorem parseChunks_quote {f g : Fields} {s : Bytes} :
    parseChunks [.text (str "\"")] f s = some g ↔ s = str "\"" ∧ f = g := by
  rw [parseChunks_text no_space_quote]
  constructor
  · rintro ⟨s', rfl, h⟩
    rw [parseChunks] at h
    split_ifs at h with hs
    exact ⟨by rw [hs, List.append_nil], Option.some.inj h⟩
  · rintro ⟨rfl, rfl⟩
    exact ⟨[], rfl, rfl⟩

/-- A time whose year does not have four digits is written so that no date can be read. -/
theorem format_ne_text {t : Time} (h : ¬ FourDigits (Reading.ofTime t).date.year) (layout : Layout)
    (d : DateText) (s : Bytes) :
    format (.text (str "\"") :: (dateLayout ++ layout)) t ≠ str "\"" ++ (d.text ++ s) := by
  intro heq
  simp only [format, dateLayout, List.cons_append, List.nil_append, List.flatMap_cons, Chunk.format,
    DateText.text, List.append_assoc, List.append_cancel_left_eq] at heq
  exact year_ne h d.year_ok rfl _ _ heq

section Compact

variable {lookupName : LookupName} {data : Bytes} {t : Time}

/-- A text in the compact format is read as its instant. -/
theorem CompactTime.unmarshalJSON_text (lookupName : LookupName) (w : CompactText) :
    unmarshalJSON lookupName w.text = some w.time := by
  obtain ⟨⟨d, c, hday⟩, o⟩ := w
  refine Option.bind_eq_some_iff.mpr ⟨(stampFields d c).setOffset o, ?_, time_setOffset_iff.mpr ⟨hday, rfl⟩⟩
  simp only [CompactText.text, List.append_assoc]
  refine (parseChunks_text no_space_quote).mpr ⟨_, rfl, ?_⟩
  refine parseChunks_date.mpr ⟨d, _, rfl, ?_⟩
  refine (parseChunks_text no_space_T).mpr ⟨_, rfl, ?_⟩
  refine (parseChunks_clock (.inl rfl)).mpr ⟨c, _, rfl, ends_zoneText o _ _, ?_⟩
  refine parseChunks_cons.mpr ⟨_, _, read_iso8601ColonTZ_iff.mpr ⟨o, rfl, rfl⟩, ?_⟩
  exact parseChunks_quote.mpr ⟨rfl, rfl⟩

/-- A text that is read is one in the compact format. -/
theorem CompactTime.exists_text (h : unmarshalJSON lookupName data = some t) :
    ∃ w : CompactText, data = w.text ∧ t = w.time := by
  obtain ⟨g, hg, ht⟩ := Option.bind_eq_some_iff.mp h
  obtain ⟨_, rfl, h₁⟩ := (parseChunks_text no_space_quote).mp hg
  obtain ⟨d, _, rfl, h₂⟩ := parseChunks_date.mp h₁
  obtain ⟨_, rfl, h₃⟩ := (parseChunks_text no_space_T).mp h₂
  obtain ⟨c, _, rfl, -, h₄⟩ := (parseChunks_clock (.inl rfl)).mp h₃
  obtain ⟨_, _, hzone, h₅⟩ := parseChunks_cons.mp h₄
  obtain ⟨o, rfl, rfl⟩ := read_iso8601ColonTZ_iff.mp hzone
  obtain ⟨rfl, rfl⟩ := parseChunks_quote.mp h₅
  obtain ⟨hday, rfl⟩ := time_setOffset_iff.mp ht
  exact ⟨⟨⟨d, c, hday⟩, o⟩, by simp [CompactText.text], rfl⟩

/-- **`CompactTime` accepts** exactly the texts in the compact format, each for its instant:
a date that exists, an hour of one or two digits, a fraction of any length after a comma or a
point, and `Z` or an offset of up to 24 hours and 60 minutes. The local zone does not matter. -/
theorem compact_accepted_iff :
    CompactTime.unmarshalJSON lookupName data = some t ↔ ∃ w : CompactText, data = w.text ∧ t = w.time := by
  constructor
  · exact CompactTime.exists_text
  · rintro ⟨w, rfl, rfl⟩
    exact CompactTime.unmarshalJSON_text lookupName w

/-- What is written is a text in the compact format, if the year has four digits. -/
theorem CompactTime.marshalJSON_eq_text (t : CompactTime) (h : FourDigits (Reading.ofTime t).date.year) :
    marshalJSON t = CompactText.text ⟨.ofReading (.ofTime t) h, none⟩ := by
  simp [marshalJSON, format, compactLayout, CompactText.text, Stamp.ofReading, ← format_date, ← format_clock,
    Chunk.format, OffsetText.zoneText]

/-- **A `CompactTime` is read back**, to the nanosecond, exactly if its year has four digits.
Any other is written too, but what is written is not accepted. -/
theorem compact_roundTrip (lookupName : LookupName) (t : CompactTime) :
    CompactTime.unmarshalJSON lookupName (CompactTime.marshalJSON t) =
      if FourDigits (Reading.ofTime t).date.year then some t else none := by
  split_ifs with h
  · rw [CompactTime.marshalJSON_eq_text t h, CompactTime.unmarshalJSON_text, CompactText.time,
      Stamp.reading_ofReading, Reading.time_ofTime, OffsetText.seconds, zero_mul, sub_zero]
  · rw [Option.eq_none_iff_forall_ne_some]
    intro u hu
    obtain ⟨w, hw, -⟩ := CompactTime.exists_text hu
    simp only [CompactText.text, List.append_assoc] at hw
    exact format_ne_text h _ _ _ hw

example : CompactTime.marshalJSON (1136239445 * second) = str "\"2006-01-02T22:04:05Z\"" := by
  decide +kernel

end Compact

/-! ### `ExpandedTime` -/

/-- The ISO 8601 'expanded' format. -/
abbrev ExpandedTime := Time

/-- The layout of `ExpandedTime`, in quotes. -/
def expandedLayout : Layout :=
  .text (str "\"") :: (dateLayout ++ .text (str " ") ::
    (clockLayout ++ [.text (str " "), .tz, .text (str "\"")]))

theorem spelling_expandedLayout :
    expandedLayout.flatMap Chunk.spelling = str "\"2006-01-02 15:04:05 MST\"" := rfl

/-- `MarshalJSON`. -/
def ExpandedTime.marshalJSON (t : ExpandedTime) : Bytes := format expandedLayout t

/-- `UnmarshalJSON`. -/
def ExpandedTime.unmarshalJSON (lookupName : LookupName) (data : Bytes) : Option ExpandedTime :=
  parse lookupName expandedLayout data

/-- A time in the expanded format, as it is written. -/
structure ExpandedText where
  /-- Date and time of the day. -/
  stamp : Stamp
  /-- How many spaces there are after the date, besides the one. -/
  gap : ℕ
  /-- How many spaces there are before the zone, besides the one. -/
  gap' : ℕ
  /-- The zone name, if it is not `UTC`. -/
  zone : Option NameText

namespace ExpandedText

/-- How the time is written. -/
def text (w : ExpandedText) : Bytes :=
  str "\"" ++ w.stamp.date.text ++ List.replicate (w.gap + 1) 32 ++ w.stamp.clock.text ++
    List.replicate (w.gap' + 1) 32 ++ NameText.zoneText w.zone ++ str "\""

/-- The instant: what the local zone knows about the name is taken off. -/
def time (lookupName : LookupName) (w : ExpandedText) : Time :=
  w.stamp.reading.time - NameText.seconds lookupName w.stamp.reading.time w.zone * second

end ExpandedText

section Expanded

variable {lookupName : LookupName} {data : Bytes} {t : Time}

/-- A text in the expanded format is read as its instant. -/
theorem ExpandedTime.unmarshalJSON_text (lookupName : LookupName) (w : ExpandedText) :
    unmarshalJSON lookupName w.text = some (w.time lookupName) := by
  obtain ⟨⟨d, c, hday⟩, gap, gap', o⟩ := w
  refine Option.bind_eq_some_iff.mpr ⟨(stampFields d c).setName o, ?_, time_setName_iff.mpr ⟨hday, rfl⟩⟩
  simp only [ExpandedText.text, List.append_assoc]
  refine (parseChunks_text no_space_quote).mpr ⟨_, rfl, ?_⟩
  refine parseChunks_date.mpr ⟨d, _, rfl, ?_⟩
  refine parseChunks_cons.mpr ⟨_, _, read_space_iff.mpr ⟨rfl, c.head_text _, .inr ⟨gap, rfl⟩⟩, ?_⟩
  refine (parseChunks_clock (.inr ⟨rfl, rfl⟩)).mpr ⟨c, _, rfl, FracText.ends_cons rfl rfl _ _, ?_⟩
  refine parseChunks_cons.mpr
    ⟨_, _, read_space_iff.mpr ⟨rfl, NameText.head_zoneText o _, .inr ⟨gap', rfl⟩⟩, ?_⟩
  refine parseChunks_cons.mpr ⟨_, _, (read_tz_iff (endsName_quote [])).mpr ⟨o, rfl, rfl⟩, ?_⟩
  exact parseChunks_quote.mpr ⟨rfl, rfl⟩

/-- A text that is read is one in the expanded format. -/
theorem ExpandedTime.exists_text (h : unmarshalJSON lookupName data = some t) :
    ∃ w : ExpandedText, data = w.text ∧ t = w.time lookupName := by
  obtain ⟨g, hg, ht⟩ := Option.bind_eq_some_iff.mp h
  obtain ⟨_, rfl, h₁⟩ := (parseChunks_text no_space_quote).mp hg
  obtain ⟨d, _, rfl, h₂⟩ := parseChunks_date.mp h₁
  obtain ⟨_, _, hsp, h₃⟩ := parseChunks_cons.mp h₂
  obtain ⟨rfl, -, hgap⟩ := read_space_iff.mp hsp
  obtain ⟨c, _, rfl, -, h₄⟩ := (parseChunks_clock (.inr ⟨rfl, rfl⟩)).mp h₃
  obtain ⟨_, _, hsp', h₅⟩ := parseChunks_cons.mp h₄
  obtain ⟨rfl, -, hgap'⟩ := read_space_iff.mp hsp'
  obtain ⟨_, _, hzone, h₆⟩ := parseChunks_cons.mp h₅
  obtain ⟨rfl, rfl⟩ := parseChunks_quote.mp h₆
  obtain ⟨o, rfl, rfl⟩ := (read_tz_iff (endsName_quote [])).mp hzone
  obtain ⟨hday, rfl⟩ := time_setName_iff.mp ht
  -- the text does not end where a space is looked for
  obtain ⟨gap, rfl⟩ := hgap.resolve_left fun h => by simp [ClockText.text, str] at h
  obtain ⟨gap', rfl⟩ := hgap'.resolve_left fun h => by simp [str] at h
  exact ⟨⟨⟨d, c, hday⟩, gap, gap', o⟩, by simp [ExpandedText.text], rfl⟩

/-- **`ExpandedTime` accepts** exactly the texts in the expanded format, each for its instant:
there may be more than one space, a fraction, and any zone name that `parseTimeZone` knows. -/
theorem expanded_accepted_iff :
    ExpandedTime.unmarshalJSON lookupName data = some t ↔
      ∃ w : ExpandedText, data = w.text ∧ t = w.time lookupName := by
  constructor
  · exact ExpandedTime.exists_text
  · rintro ⟨w, rfl, rfl⟩
    exact ExpandedTime.unmarshalJSON_text lookupName w

example : ExpandedTime.unmarshalJSON (fun _ _ => none) (str "\"2014-01-12 08:59:28 GMT\"") =
    some (1389517168 * second) := by
  decide +kernel

/-- What is written is a text in the expanded format, if the year has four digits. -/
theorem ExpandedTime.marshalJSON_eq_text (t : ExpandedTime) (h : FourDigits (Reading.ofTime t).date.year) :
    marshalJSON t = ExpandedText.text ⟨.ofReading (Reading.ofTime t).beginning h, 0, 0, none⟩ := by
  have hclock : clockLayout.flatMap (Chunk.format (.ofTime t)) =
      (ClockText.ofReading (Reading.ofTime t).beginning).text := by
    rw [← format_clock]
    exact (List.append_nil _).symm
  have hdate := format_date (.ofTime t) h
  simp [marshalJSON, format, expandedLayout, ExpandedText.text, Stamp.ofReading, hclock, hdate,
    Chunk.format, NameText.zoneText, Reading.beginning, str]

/-- **An `ExpandedTime` is read back** to the beginning of its second, exactly if its year has four
digits. -/
theorem expanded_roundTrip (lookupName : LookupName) (t : ExpandedTime) :
    ExpandedTime.unmarshalJSON lookupName (ExpandedTime.marshalJSON t) =
      if FourDigits (Reading.ofTime t).date.year then some (unixSec t * second) else none := by
  split_ifs with h
  · have hreading := Stamp.reading_ofReading (Reading.ofTime t).beginning h
    simp only [ExpandedTime.marshalJSON_eq_text t h, ExpandedTime.unmarshalJSON_text, ExpandedText.time, hreading,
      NameText.seconds, zero_mul, sub_zero, Reading.time_beginning, Reading.time_ofTime]
  · rw [Option.eq_none_iff_forall_ne_some]
    intro u hu
    obtain ⟨w, hw, -⟩ := ExpandedTime.exists_text hu
    simp only [ExpandedText.text, List.append_assoc] at hw
    exact format_ne_text h _ _ _ hw

end Expanded

end GatewayBridge.Semtech
