import GatewayBridge.Semtech.Convert
import GatewayBridge.Go.Decimal
import GatewayBridge.Go.Narrow

/-!
# Data rates, written and read back

A `DatR` goes over the wire as a JSON string (`SF7BW125`) or as a number of bits per
second, and stands for a `DataRate`. `decodeDatR` is the way in: `DatR.UnmarshalJSON`
into a zero `DatR`, then `newDataRateFromDatR`. The way out is `newDatRfromDataRate`,
then `DatR.MarshalJSON`.

`matchLoRaDataRate_eq_some_iff` says what the pattern of a LoRa data rate matches, and
`newDataRateFromDatR_loRa`, `newDataRateFromDatR_fsk` what is made of it. `decodeDatR_encode`
is the round trip, for every data rate that a `DatR` can stand for (`Expressible`).
-/

namespace GatewayBridge.Semtech

open GatewayBridge.Go GatewayBridge.Lora

/-- The data rate that the JSON value `data` stands for. -/
def decodeDatR (data : Bytes) : Except DatRError DataRate :=
  newDataRateFromDatR (DatR.unmarshalJSON {} data)

/-- LoRa, with a spread factor and a bandwidth. -/
def loRa (spreadFactor bandwidth : ℤ) : DataRate where
  modulation := loRaModulation
  spreadFactor := spreadFactor
  bandwidth := bandwidth

/-- FSK, with a bit rate. -/
def fsk (bitRate : ℤ) : DataRate where
  modulation := fskModulation
  bitRate := bitRate

variable {s x y : Bytes} {d : DatR} {dr : DataRate}

/-! ### The pattern -/

/-- `SF`, a number, `BW`, a number. -/
def loRaText (x y : Bytes) : Bytes := str "SF" ++ x ++ str "BW" ++ y

theorem noDigit_bw (s : Bytes) : NoDigit (str "BW" ++ s) := by
  intro c hc
  cases hc
  decide

/-- What the pattern matches at the start of a string. -/
theorem matchLoRaDataRate_eq_some_iff :
    matchLoRaDataRate s = some (x, y) ↔
      ∃ rest, s = loRaText x y ++ rest ∧ Numeral x ∧ Numeral y ∧ NoDigit rest := by
  simp only [matchLoRaDataRate, Option.bind_eq_bind, Option.bind_eq_some_iff, literal_eq_some_iff,
    Prod.exists, digits_eq_some_iff, Option.some.injEq, Prod.mk.injEq]
  constructor
  · rintro ⟨_, rfl, sf, _, ⟨rfl, hsf, -⟩, _, rfl, bw, rest, ⟨rfl, hbw, hrest⟩, rfl, rfl⟩
    exact ⟨rest, by simp [loRaText], hsf, hbw, hrest⟩
  · rintro ⟨rest, rfl, hx, hy, hrest⟩
    refine ⟨_, ?_, x, _, ⟨rfl, hx, noDigit_bw (y ++ rest)⟩, _, rfl, y, rest, ⟨rfl, hy, hrest⟩, rfl, rfl⟩
    simp [loRaText]

theorem leftmost_loRaText (hx : Numeral x) (hy : Numeral y) :
    leftmost matchLoRaDataRate (loRaText x y) = some (x, y) := by
  apply leftmost_of_match
  exact matchLoRaDataRate_eq_some_iff.mpr ⟨[], (List.append_nil _).symm, hx, hy, nofun⟩

theorem loRaText_ne_nil (x y : Bytes) : loRaText x y ≠ [] := by simp [loRaText, str]

/-! ### What a `DatR` stands for -/

/-- The data rate of the two numbers of a LoRa data rate. -/
def ofNumerals (x y : Bytes) : Option DataRate :=
  if digitsValue x < 2 ^ 63 ∧ digitsValue y < 2 ^ 63 then
    some (loRa (digitsValue x) (digitsValue y))
  else none

/-- A LoRa identifier stands for the numbers that the pattern finds in it. -/
theorem newDataRateFromDatR_loRa (hloRa : d.loRa ≠ []) :
    newDataRateFromDatR d = .ok dr ↔
      ∃ x y, leftmost matchLoRaDataRate d.loRa = some (x, y) ∧ ofNumerals x y = some dr := by
  rw [newDataRateFromDatR, if_pos hloRa]
  cases hm : leftmost matchLoRaDataRate d.loRa with
  | none => simp
  | some xy =>
    obtain ⟨x, y⟩ := xy
    obtain ⟨p, t, -, hmatch⟩ := exists_of_leftmost hm
    obtain ⟨rest, -, hx, hy, -⟩ := matchLoRaDataRate_eq_some_iff.mp hmatch
    have hfound : (∃ x' y', some (x, y) = some (x', y') ∧ ofNumerals x' y' = some dr) ↔
        ofNumerals x y = some dr := by simp
    have hsf := atoi_of_numeral hx
    have hbw := atoi_of_numeral hy
    rw [hfound, ofNumerals]
    split_ifs at hsf with hx63
    · split_ifs at hbw with hy63
      · rw [if_pos ⟨hx63, hy63⟩]
        simp [hsf, hbw, loRa]
      · rw [if_neg fun h => hy63 h.2]
        simp [hsf, hbw]
    · rw [if_neg fun h => hx63 h.1]
      simp [hsf]

theorem newDataRateFromDatR_fsk (hloRa : d.loRa = []) :
    newDataRateFromDatR d = .ok dr ↔ d.fsk ≠ 0 ∧ dr = fsk d.fsk.toNat := by
  rw [newDataRateFromDatR, if_neg (not_not.mpr hloRa)]
  by_cases hfsk : d.fsk = 0
  · simp [hfsk]
  · rw [if_pos hfsk, Except.ok.injEq]
    exact ⟨fun h => ⟨hfsk, h.symm⟩, fun h => h.2.symm⟩

/-- The data rates that a `DatR` can stand for. -/
def Expressible (dr : DataRate) : Prop :=
  (∃ sf bw : ℕ, sf < 2 ^ 63 ∧ bw < 2 ^ 63 ∧ dr = loRa sf bw) ∨
    ∃ n : ℕ, 0 < n ∧ n < 2 ^ 32 ∧ dr = fsk n

theorem expressible_of_newDataRateFromDatR (h : newDataRateFromDatR d = .ok dr) : Expressible dr := by
  by_cases hloRa : d.loRa = []
  · obtain ⟨hfsk, rfl⟩ := (newDataRateFromDatR_fsk hloRa).mp h
    refine .inr ⟨d.fsk.toNat, Nat.pos_of_ne_zero fun hz => hfsk ?_, d.fsk.toNat_lt, rfl⟩
    exact UInt32.toNat_inj.mp hz
  · obtain ⟨x, y, -, hxy⟩ := (newDataRateFromDatR_loRa hloRa).mp h
    rw [ofNumerals] at hxy
    split_ifs at hxy with hlt
    cases hxy
    exact .inl ⟨_, _, hlt.1, hlt.2, rfl⟩

/-! ### What a JSON value stands for -/

theorem mem_of_match {p : Bytes × Bytes} (h : matchLoRaDataRate s = some p) : 83 ∈ s := by
  obtain ⟨rest, rfl, -⟩ := matchLoRaDataRate_eq_some_iff.mp h
  exact List.mem_cons_self

/-- Nothing is found where there is no `S`. -/
theorem leftmost_eq_none_of_notMem (h : 83 ∉ s) : leftmost matchLoRaDataRate s = none := by
  cases hm : leftmost matchLoRaDataRate s with
  | none => rfl
  | some xy =>
    obtain ⟨p, t, rfl, ht⟩ := exists_of_leftmost hm
    exact absurd (List.mem_append_right p (mem_of_match ht)) h

/-- A character that stands in no LoRa data rate. -/
def Foreign (c : UInt8) : Prop := isDigit c = false ∧ c ∉ str "SFBW"

instance (c : UInt8) : Decidable (Foreign c) := inferInstanceAs (Decidable (_ ∧ _))

variable {c : UInt8}

theorem Foreign.notMem_loRaText (hc : Foreign c) (hx : Numeral x) (hy : Numeral y) : c ∉ loRaText x y := by
  have hno : ∀ z, Numeral z → c ∉ z := by
    intro z hz hmem
    have := hz.2 c hmem
    rw [hc.1] at this
    cases this
  have hletters : c ∉ str "SF" ++ str "BW" := hc.2
  rw [List.mem_append, not_or] at hletters
  simp only [loRaText, List.mem_append, not_or]
  exact ⟨⟨⟨hletters.1, hno x hx⟩, hletters.2⟩, hno y hy⟩

/-- What is found does not begin with a foreign character. -/
theorem leftmost_cons_foreign (hc : Foreign c) (s : Bytes) :
    leftmost matchLoRaDataRate (c :: s) = leftmost matchLoRaDataRate s := by
  have hno : matchLoRaDataRate (c :: s) = none := by
    rw [Option.eq_none_iff_forall_ne_some]
    intro xy hm
    obtain ⟨rest, hs, -⟩ := matchLoRaDataRate_eq_some_iff.mp hm
    apply hc.2
    rw [(List.cons.inj hs).1]
    decide
  rw [leftmost, hno, Option.none_or]

theorem match_snoc_foreign (hc : Foreign c) (s : Bytes) :
    matchLoRaDataRate (s ++ [c]) = matchLoRaDataRate s := by
  refine Option.ext fun xy => ?_
  obtain ⟨x, y⟩ := xy
  rw [matchLoRaDataRate_eq_some_iff, matchLoRaDataRate_eq_some_iff]
  constructor
  · rintro ⟨rest, hs, hx, hy, hrest⟩
    rcases List.eq_nil_or_concat' rest with rfl | ⟨rest, c', rfl⟩
    · rw [List.append_nil] at hs
      exact absurd (hs ▸ List.mem_append_right s List.mem_cons_self) (hc.notMem_loRaText hx hy)
    · rw [← List.append_assoc] at hs
      obtain ⟨rfl, -⟩ := List.append_inj' hs rfl
      refine ⟨rest, rfl, hx, hy, fun d hd => hrest d ?_⟩
      rw [Option.mem_def] at hd ⊢
      rw [List.head?_append, hd]
      rfl
  · rintro ⟨rest, rfl, hx, hy, hrest⟩
    refine ⟨rest ++ [c], by simp, hx, hy, fun d hd => ?_⟩
    rw [Option.mem_def, List.head?_append] at hd
    cases hr : rest.head? with
    | none =>
      rw [hr] at hd
      cases hd
      exact hc.1
    | some c' =>
      rw [hr] at hd
      cases hd
      exact hrest d hr

/-- What is found does not end with a foreign character. -/
theorem leftmost_snoc_foreign (hc : Foreign c) (s : Bytes) :
    leftmost matchLoRaDataRate (s ++ [c]) = leftmost matchLoRaDataRate s := by
  induction s with
  | nil => exact leftmost_cons_foreign hc []
  | cons d s ih =>
    rw [List.cons_append, leftmost, leftmost, ih, ← List.cons_append, match_snoc_foreign hc]

theorem foreign_quote : Foreign 34 := by decide

/-- Quotes around a text hide nothing in it. -/
theorem leftmost_trim (s : Bytes) :
    leftmost matchLoRaDataRate (trim 34 s) = leftmost matchLoRaDataRate s := by
  have hright : ∀ t b, leftmost matchLoRaDataRate (t ++ List.replicate b 34) = leftmost matchLoRaDataRate t := by
    intro t b
    induction b with
    | zero => rw [List.replicate_zero, List.append_nil]
    | succ b ih => rw [List.replicate_succ', ← List.append_assoc, leftmost_snoc_foreign foreign_quote, ih]
  have hleft : ∀ t a, leftmost matchLoRaDataRate (List.replicate a 34 ++ t) = leftmost matchLoRaDataRate t := by
    intro t a
    induction a with
    | zero => rfl
    | succ a ih => rw [List.replicate_succ, List.cons_append, leftmost_cons_foreign foreign_quote, ih]
  obtain ⟨a, b, hs⟩ := trim_eq 34 s
  conv_rhs => rw [hs]
  rw [hright, hleft]

/-- **What the parser accepts**: a number of 32 bits that is not zero, or any text in which a LoRa data
rate is found whose numbers fit. -/
theorem decodeDatR_eq_ok_iff :
    decodeDatR s = .ok dr ↔
      (Numeral s ∧ 0 < digitsValue s ∧ digitsValue s < 2 ^ 32 ∧ dr = fsk (digitsValue s)) ∨
        ∃ x y, leftmost matchLoRaDataRate s = some (x, y) ∧ ofNumerals x y = some dr := by
  by_cases hnum : Numeral s ∧ digitsValue s < 2 ^ 32
  · have hparse : parseUint 32 s = .ok (digitsValue s) := (parseUint_eq_ok_iff 32).mpr ⟨hnum.1, rfl, hnum.2⟩
    have hno : leftmost matchLoRaDataRate s = none :=
      leftmost_eq_none_of_notMem fun hmem => absurd (hnum.1.2 83 hmem) (by decide)
    have hval : (UInt32.ofNat (digitsValue s)).toNat = digitsValue s := UInt32.toNat_ofNat_of_lt' hnum.2
    rw [decodeDatR, DatR.unmarshalJSON, hparse, newDataRateFromDatR_fsk rfl]
    simp only [hval, hno]
    rw [or_iff_left (by simp), ← UInt32.toNat_inj.ne, hval]
    exact ⟨fun h => ⟨hnum.1, Nat.pos_of_ne_zero h.1, hnum.2, h.2⟩, fun h => ⟨Nat.ne_of_gt h.2.1, h.2.2.2⟩⟩
  · have hloRa : DatR.unmarshalJSON {} s = { loRa := trim 34 s } := by
      rw [DatR.unmarshalJSON]
      cases hparse : parseUint 32 s with
      | error e => rfl
      | ok n =>
        obtain ⟨hs, rfl, hlt⟩ := (parseUint_eq_ok_iff 32).mp hparse
        exact absurd ⟨hs, hlt⟩ hnum
    rw [decodeDatR, hloRa, or_iff_right fun h => hnum ⟨h.1, h.2.2.1⟩, ← leftmost_trim]
    by_cases hnil : trim 34 s = []
    · rw [newDataRateFromDatR_fsk hnil, hnil]
      exact iff_of_false (fun h => h.1 rfl) (by rintro ⟨x, y, h, -⟩; cases h)
    · exact newDataRateFromDatR_loRa hnil

/-! ### The round trip -/

theorem loRaModulation_ne_fskModulation : fskModulation ≠ loRaModulation := by decide

theorem newDatRfromDataRate_loRa (sf bw : ℕ) :
    newDatRfromDataRate (loRa sf bw) = { loRa := loRaText (formatNat sf) (formatNat bw) } := by
  simp [newDatRfromDataRate, loRa, loRaDataRateText, loRaText]

theorem newDatRfromDataRate_fsk (n : ℕ) : newDatRfromDataRate (fsk n) = { fsk := UInt32.ofInt n } := by
  simp [newDatRfromDataRate, fsk, loRaModulation_ne_fskModulation]

/-- A data rate, made into a `DatR`, is still there. -/
theorem newDataRateFromDatR_newDatRfromDataRate (h : Expressible dr) :
    newDataRateFromDatR (newDatRfromDataRate dr) = .ok dr := by
  rcases h with ⟨sf, bw, hsf, hbw, rfl⟩ | ⟨n, hpos, hlt, rfl⟩
  · rw [newDatRfromDataRate_loRa, newDataRateFromDatR_loRa (loRaText_ne_nil _ _)]
    refine ⟨_, _, leftmost_loRaText (numeral_formatNat sf) (numeral_formatNat bw), ?_⟩
    rw [ofNumerals, digitsValue_formatNat, digitsValue_formatNat, if_pos ⟨hsf, hbw⟩]
  · have hn : (UInt32.ofInt (n : ℤ)).toNat = n :=
      Int.ofNat_inj.mp (uint32_exact_iff.mpr ⟨by omega, by omega⟩)
    rw [newDatRfromDataRate_fsk, newDataRateFromDatR_fsk rfl]
    refine ⟨fun hz => ?_, by rw [hn]⟩
    have hz : UInt32.ofInt (n : ℤ) = 0 := hz
    rw [hz] at hn
    exact absurd hn (Nat.ne_of_lt hpos)

/-- **A data rate, written as JSON, is read back.** -/
theorem decodeDatR_encode (h : Expressible dr) :
    decodeDatR (newDatRfromDataRate dr).marshalJSON = .ok dr := by
  rw [decodeDatR_eq_ok_iff]
  rcases h with ⟨sf, bw, hsf, hbw, rfl⟩ | ⟨n, hpos, hlt, rfl⟩
  · right
    rw [newDatRfromDataRate_loRa, DatR.marshalJSON, if_pos (loRaText_ne_nil _ _)]
    refine ⟨formatNat sf, formatNat bw, ?_, ?_⟩
    · rw [show str "\"" = [34] from rfl, leftmost_snoc_foreign foreign_quote, List.singleton_append,
        leftmost_cons_foreign foreign_quote]
      exact leftmost_loRaText (numeral_formatNat sf) (numeral_formatNat bw)
    · rw [ofNumerals, digitsValue_formatNat, digitsValue_formatNat, if_pos ⟨hsf, hbw⟩]
  · left
    have hn : (UInt32.ofInt (n : ℤ)).toNat = n :=
      Int.ofNat_inj.mp (uint32_exact_iff.mpr ⟨by omega, by omega⟩)
    rw [newDatRfromDataRate_fsk, DatR.marshalJSON, if_neg (not_not.mpr rfl), hn, digitsValue_formatNat]
    exact ⟨numeral_formatNat n, hpos, hlt, rfl⟩

end GatewayBridge.Semtech
