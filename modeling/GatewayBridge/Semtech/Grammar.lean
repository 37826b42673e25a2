import GatewayBridge.Semtech.DataRate
import GatewayBridge.Go.Json

/-!
# Which JSON values are data rates

What a gateway may write for `datr` is a string whose whole content is
`SF<digits>BW<digits>` (`IsLoRa`), or an integer (`IsFSK`). The parser does not check
that much: it looks for `SF<digits>BW<digits>` anywhere in the text of the value, be
that a string, an array or an object, and it does not undo the escapes of a string.

`Strict v` is what keeps the two apart: nothing that is no data rate has one written
in it, and a data rate is written without escapes. `parses_exactly_iff` says that the
parser accepts `v` as it should exactly when `v` is `Strict`. Escapes are harmless in
one place, among the zeros of a bandwidth that is zero, once its first digit is there.
-/

namespace GatewayBridge.Semtech

open GatewayBridge.Go GatewayBridge.Lora

/-! ### The grammar -/

/-- The whole content of the string is `SF<x>BW<y>`, and both numbers fit an `int`. -/
structure IsLoRaString (cs : List StringChar) (x y : Bytes) : Prop where
  /-- What the string stands for. -/
  whole : content cs = (loRaText x y).map UInt8.toNat
  /-- The spread factor is a number. -/
  sf : Numeral x
  /-- The bandwidth is a number. -/
  bw : Numeral y
  /-- They fit. -/
  fits : digitsValue x < 2 ^ 63 ∧ digitsValue y < 2 ^ 63

/-- A string that stands for a LoRa data rate. -/
def IsLoRa (v : Token) (sf bw : ℕ) : Prop :=
  ∃ cs x y, v = .string cs ∧ IsLoRaString cs x y ∧ digitsValue x = sf ∧ digitsValue y = bw

/-- An integer that stands for an FSK data rate. -/
def IsFSK (v : Token) (n : ℕ) : Prop :=
  ∃ num : Number, v = .number num ∧ num.neg = false ∧ num.frac = none ∧ num.exp = none ∧
    digitsValue num.int = n ∧ 0 < n ∧ n < 2 ^ 32

/-- The parser makes of `v` what the grammar says, and returns an error where it says nothing. -/
structure ParsesExactly (v : Token) : Prop where
  /-- LoRa data rates. -/
  loRa : ∀ sf bw : ℕ, decodeDatR v.text = .ok (loRa sf bw) ↔ IsLoRa v sf bw
  /-- FSK data rates. -/
  fsk : ∀ n : ℕ, decodeDatR v.text = .ok (fsk n) ↔ IsFSK v n
  /-- Everything else. -/
  other : (∀ sf bw, ¬ IsLoRa v sf bw) → (∀ n, ¬ IsFSK v n) → ∃ e, decodeDatR v.text = .error e

/-! ### What keeps a value unambiguous -/

/-- Somewhere in the text stands `SF<digits>BW<digits>`, the first with numbers that fit. -/
def Found (s : Bytes) : Prop :=
  ∃ x y, leftmost matchLoRaDataRate s = some (x, y) ∧ digitsValue x < 2 ^ 63 ∧ digitsValue y < 2 ^ 63

/-- No escapes; or none up to the first digit of a bandwidth that is zero. -/
def WrittenOut (cs : List StringChar) (x y : Bytes) : Prop :=
  (∀ c ∈ cs, c.isPlain = true) ∨
    digitsValue y = 0 ∧ ∀ c ∈ cs.take ((loRaText x []).length + 1), c.isPlain = true

/-- A data rate is written out, and no other value has one in its text. -/
def Strict : Token → Prop
  | .string cs =>
      (∀ x y, IsLoRaString cs x y → WrittenOut cs x y) ∧
        ((∀ x y, ¬ IsLoRaString cs x y) → ¬ Found (rawText cs))
  | .array inner => ¬ Found inner
  | .object inner => ¬ Found inner
  | _ => True

/-! ### What the parser makes of each kind of value -/

variable {v : Token} {cs : List StringChar} {x y s : Bytes} {dr : DataRate}

theorem ofNumerals_eq_some_iff :
    ofNumerals x y = some dr ↔
      (digitsValue x < 2 ^ 63 ∧ digitsValue y < 2 ^ 63) ∧ dr = loRa (digitsValue x) (digitsValue y) := by
  rw [ofNumerals]
  split_ifs with h
  · rw [Option.some.injEq]
    exact ⟨fun hd => ⟨h, hd.symm⟩, fun hd => hd.2.symm⟩
  · refine iff_of_false (fun hd => ?_) fun hd => h hd.1
    cases hd

/-- A text with a foreign character at both ends is no number: it is searched. -/
theorem decodeDatR_enclosed {a b : UInt8} (ha : Foreign a) (hb : Foreign b) (s : Bytes) :
    decodeDatR ([a] ++ s ++ [b]) = .ok dr ↔
      ∃ x y, leftmost matchLoRaDataRate s = some (x, y) ∧ ofNumerals x y = some dr := by
  have hnum : ¬ Numeral ([a] ++ s ++ [b]) := by
    intro h
    have := h.2 a List.mem_cons_self
    rw [ha.1] at this
    cases this
  rw [decodeDatR_eq_ok_iff, or_iff_right fun h => hnum h.1, leftmost_snoc_foreign hb, List.singleton_append,
    leftmost_cons_foreign ha]

/-- A text without an `S` stands for a number, or for nothing. -/
theorem decodeDatR_of_notMem (h : 83 ∉ s) :
    decodeDatR s = .ok dr ↔
      Numeral s ∧ 0 < digitsValue s ∧ digitsValue s < 2 ^ 32 ∧ dr = fsk (digitsValue s) := by
  rw [decodeDatR_eq_ok_iff, leftmost_eq_none_of_notMem h]
  exact or_iff_left (by rintro ⟨x, y, hnone, -⟩; cases hnone)

theorem fsk_ne_loRa (n sf bw : ℤ) : fsk n ≠ loRa sf bw := by
  intro h
  exact absurd (congrArg DataRate.modulation h) loRaModulation_ne_fskModulation

theorem loRa_inj {sf bw sf' bw' : ℕ} : loRa sf bw = loRa sf' bw' ↔ sf = sf' ∧ bw = bw' := by
  simp [loRa]

theorem fsk_inj {n n' : ℕ} : fsk n = fsk n' ↔ n = n' := by simp [fsk]

theorem exists_error {r : Except DatRError DataRate} (h : ∀ dr, r ≠ .ok dr) : ∃ e, r = .error e := by
  cases r with
  | error e => exact ⟨e, rfl⟩
  | ok dr => exact absurd rfl (h dr)

/-- A value that is refused, and should be. -/
theorem parsesExactly_of_refused (hloRa : ∀ sf bw, ¬ IsLoRa v sf bw) (hfsk : ∀ n, ¬ IsFSK v n)
    (h : ∀ dr, decodeDatR v.text ≠ .ok dr) : ParsesExactly v where
  loRa sf bw := iff_of_false (h _) (hloRa sf bw)
  fsk n := iff_of_false (h _) (hfsk n)
  other _ _ := exists_error h

/-- A value that is no data rate, in whose text one is searched for. -/
theorem parsesExactly_iff_not_found (hloRa : ∀ sf bw, ¬ IsLoRa v sf bw) (hfsk : ∀ n, ¬ IsFSK v n)
    (h : ∀ dr, decodeDatR v.text = .ok dr ↔
      ∃ x y, leftmost matchLoRaDataRate s = some (x, y) ∧ ofNumerals x y = some dr) :
    ParsesExactly v ↔ ¬ Found s := by
  constructor
  · rintro hv ⟨x, y, hm, hfits⟩
    obtain ⟨e, he⟩ := hv.other hloRa hfsk
    have hok := (h _).mpr ⟨x, y, hm, ofNumerals_eq_some_iff.mpr ⟨hfits, rfl⟩⟩
    rw [he] at hok
    cases hok
  · intro hs
    refine parsesExactly_of_refused hloRa hfsk fun dr hok => hs ?_
    obtain ⟨x, y, hm, hdr⟩ := (h dr).mp hok
    exact ⟨x, y, hm, (ofNumerals_eq_some_iff.mp hdr).1⟩

/-! ### Numbers -/

theorem parsesExactly_number (num : Number) : ParsesExactly (.number num) := by
  have hnoLoRa : ∀ sf bw, ¬ IsLoRa (.number num) sf bw := by
    rintro sf bw ⟨cs, x, y, h, -⟩
    cases h
  have hok : ∀ dr, decodeDatR num.text = .ok dr ↔ ∃ n : ℕ, IsFSK (.number num) n ∧ dr = fsk n := by
    intro dr
    have hS : 83 ∉ num.text := fun h => absurd (num.mem_text h) (by decide)
    rw [decodeDatR_of_notMem hS, num.numeral_text_iff]
    constructor
    · rintro ⟨⟨hneg, hfrac, hexp⟩, hpos, hlt, rfl⟩
      have htext := Number.text_of_integer hneg hfrac hexp
      exact ⟨_, ⟨num, rfl, hneg, hfrac, hexp, congrArg digitsValue htext.symm, hpos, hlt⟩, rfl⟩
    · rintro ⟨n, ⟨num', h, hneg, hfrac, hexp, rfl, hpos, hlt⟩, rfl⟩
      cases h
      rw [Number.text_of_integer hneg hfrac hexp]
      exact ⟨⟨hneg, hfrac, hexp⟩, hpos, hlt, rfl⟩
  constructor
  · intro sf bw
    refine iff_of_false (fun h => ?_) (hnoLoRa sf bw)
    obtain ⟨n, -, hn⟩ := (hok _).mp h
    exact fsk_ne_loRa n sf bw hn.symm
  · intro n
    constructor
    · intro h
      obtain ⟨n', hn', heq⟩ := (hok _).mp h
      rw [fsk_inj.mp heq]
      exact hn'
    · intro h
      exact (hok _).mpr ⟨n, h, rfl⟩
  · intro _ hfsk
    refine exists_error fun dr h => ?_
    obtain ⟨n, hn, -⟩ := (hok dr).mp h
    exact hfsk n hn

/-! ### Strings -/

theorem notMem_escape {c : StringChar} (h : c.isPlain = false) : 83 ∉ c.raw := by
  cases c with
  | plain b hb => cases h
  | short e he =>
    have hshort : ∀ e ∈ shortEscapes, 83 ∉ [92, e.1] := by decide
    exact hshort e he
  | unicode d₃ d₂ d₁ d₀ hd =>
    intro hmem
    rcases List.mem_cons.mp hmem with hmem | hmem
    · cases hmem
    rcases List.mem_cons.mp hmem with hmem | hmem
    · cases hmem
    exact absurd (hd 83 hmem) (by decide)

theorem notMem_rawText (h : 83 ∉ content cs) : 83 ∉ rawText cs := by
  induction cs with
  | nil => exact List.not_mem_nil
  | cons c cs ih =>
    rw [content_cons, List.mem_cons, not_or] at h
    rw [rawText_cons, List.mem_append, not_or]
    refine ⟨?_, ih h.2⟩
    cases hc : c.isPlain with
    | false => exact notMem_escape hc
    | true =>
      intro hmem
      have hcode := List.mem_map_of_mem (f := UInt8.toNat) hmem
      rw [StringChar.raw_of_plain hc, List.mem_singleton] at hcode
      exact h.1 hcode

theorem eq_of_codes {s s' : Bytes} (h : s.map UInt8.toNat = s'.map UInt8.toNat) : s = s' :=
  List.map_injective_iff.mpr (fun _ _ => UInt8.toNat_inj.mp) h

theorem loRaText_append (x y z : Bytes) : loRaText x (y ++ z) = loRaText x y ++ z := by
  simp [loRaText]

/-- The two numbers of a LoRa data rate are determined by its text. -/
theorem IsLoRaString.unique {x' y' : Bytes} (h : IsLoRaString cs x y) (h' : IsLoRaString cs x' y') :
    x = x' ∧ y = y' := by
  have htext : loRaText x y = loRaText x' y' := eq_of_codes (h.whole.symm.trans h'.whole)
  have hfound := leftmost_loRaText h.sf h.bw
  rw [htext, leftmost_loRaText h'.sf h'.bw, Option.some.injEq, Prod.mk.injEq] at hfound
  exact ⟨hfound.1.symm, hfound.2.symm⟩

/-- Nothing but the first character of a LoRa data rate is an `S`. -/
theorem notMem_tail_loRaText (hx : Numeral x) (hy : Numeral y) : 83 ∉ (loRaText x y).tail := by
  have hno : ∀ z, Numeral z → 83 ∉ z := fun z hz hmem => absurd (hz.2 83 hmem) (by decide)
  have htail : (loRaText x y).tail = str "F" ++ (x ++ (str "BW" ++ y)) := by simp [loRaText, str]
  rw [htail]
  simp only [List.mem_append, not_or]
  exact ⟨by decide, hno x hx, by decide, hno y hy⟩

/-- After its first character, the text of a LoRa data rate has no `S`. -/
theorem IsLoRaString.notMem_rawText_tail {c : StringChar} (h : IsLoRaString (c :: cs) x y) :
    83 ∉ rawText cs := by
  have htail : content cs = (loRaText x y).tail.map UInt8.toNat := by
    rw [List.map_tail, ← h.whole]
    rfl
  apply notMem_rawText
  rw [htail]
  intro hmem
  obtain ⟨b, hb, hcode⟩ := List.mem_map.mp hmem
  have hb83 : b = 83 := UInt8.toNat_inj.mp hcode
  exact notMem_tail_loRaText h.sf h.bw (hb83 ▸ hb)

/-- In a string that stands for a LoRa data rate, a match can only begin at the beginning. -/
theorem IsLoRaString.match_at_start (h : IsLoRaString cs x y) {p : Bytes × Bytes}
    (hm : leftmost matchLoRaDataRate (rawText cs) = some p) : matchLoRaDataRate (rawText cs) = some p := by
  obtain ⟨q, t, hraw, ht⟩ := exists_of_leftmost hm
  cases q with
  | nil =>
    rw [hraw]
    exact ht
  | cons d q =>
    exfalso
    cases cs with
    | nil => cases hraw
    | cons c cs =>
      have hS := h.notMem_rawText_tail
      have hmem : 83 ∈ q ++ t := List.mem_append_right q (mem_of_match ht)
      rw [rawText_cons] at hraw
      cases hc : c.isPlain with
      | false =>
        have hmem : 83 ∈ c.raw ++ rawText cs := by
          rw [hraw]
          exact List.mem_cons_of_mem d hmem
        exact (List.mem_append.mp hmem).elim (notMem_escape hc) hS
      | true =>
        obtain ⟨b, hb, -⟩ := List.map_eq_singleton_iff.mp (StringChar.raw_of_plain hc)
        rw [hb, List.singleton_append, List.cons_append, List.cons.injEq] at hraw
        rw [hraw.2] at hS
        exact hS hmem

/-- A LoRa data rate written without escapes is found. -/
theorem IsLoRaString.leftmost_of_plain (h : IsLoRaString cs x y) (hplain : ∀ c ∈ cs, c.isPlain = true) :
    leftmost matchLoRaDataRate (rawText cs) = some (x, y) := by
  have htext : rawText cs = loRaText x y := by
    apply eq_of_codes
    rw [← content_of_plain hplain]
    exact h.whole
  rw [htext]
  exact leftmost_loRaText h.sf h.bw

/-- Where the first escape of a LoRa data rate is: what is written before it, and the text. -/
theorem IsLoRaString.split {ps qs : List StringChar} {c : StringChar}
    (h : IsLoRaString (ps ++ c :: qs) x y) (hps : ∀ c ∈ ps, c.isPlain = true) (hc : c.isPlain = false) :
    (rawText ps).length = ps.length ∧ (∃ b t, loRaText x y = rawText ps ++ b :: t) ∧
      ∃ rest, rawText (ps ++ c :: qs) = rawText ps ++ 92 :: rest := by
  have hcontent := content_of_plain hps
  refine ⟨?_, ?_, ?_⟩
  · have := congrArg List.length hcontent
    rw [content, List.length_map, List.length_map] at this
    exact this.symm
  · have hwhole := h.whole
    rw [content, List.map_append, ← content, hcontent, List.map_cons] at hwhole
    obtain ⟨t₁, t₂, htext, ht₁, ht₂⟩ := List.map_eq_append_iff.mp hwhole.symm
    obtain ⟨b, t, rfl, -⟩ := List.map_eq_cons_iff.mp ht₂
    rw [eq_of_codes ht₁] at htext
    exact ⟨b, t, htext⟩
  · obtain ⟨rest, hrest⟩ := StringChar.raw_of_not_plain hc
    rw [rawText_append, rawText_cons, hrest]
    exact ⟨_, rfl⟩

theorem prefix_of_notMem {a p rest rest' : Bytes} {c : UInt8} (hc : c ∉ a) (h : p ++ c :: rest = a ++ rest') :
    a <+: p := by
  rcases List.append_eq_append_iff.mp h with ⟨z, rfl, hrest⟩ | ⟨z, rfl, -⟩
  · cases z with
    | nil =>
      rw [List.append_nil]
    | cons d z =>
      have hd : c = d := (List.cons.inj hrest).1
      rw [hd] at hc
      exact absurd (List.mem_append_right p List.mem_cons_self) hc
  · exact List.prefix_append a z

/-- A data rate is no data rate without its bandwidth. -/
theorem loRaText_not_prefix {x' y' : Bytes} (hx : Numeral x) (hx' : Numeral x') (hy' : Numeral y') :
    ¬ loRaText x' y' <+: loRaText x [] := by
  rintro ⟨z, hz⟩
  have hsf : x ++ str "BW" = x' ++ (str "BW" ++ (y' ++ z)) := by
    simpa [loRaText] using hz.symm
  have hdigits : digits (x ++ str "BW") = some (x, str "BW") :=
    digits_eq_some_iff.mpr ⟨rfl, hx, noDigit_bw []⟩
  rw [hsf, digits_eq_some_iff.mpr ⟨rfl, hx', noDigit_bw _⟩, Option.some.injEq, Prod.mk.injEq] at hdigits
  have hnil : y' = [] := by
    have := congrArg List.length hdigits.2
    simp only [List.length_append] at this
    exact List.eq_nil_of_length_eq_zero (by omega)
  exact hy'.1 hnil

/-- With an escape before the first digit of the bandwidth, nothing is found. -/
theorem IsLoRaString.leftmost_early {ps qs : List StringChar} {c : StringChar}
    (h : IsLoRaString (ps ++ c :: qs) x y) (hps : ∀ c ∈ ps, c.isPlain = true) (hc : c.isPlain = false)
    (hlen : ps.length ≤ (loRaText x []).length) :
    leftmost matchLoRaDataRate (rawText (ps ++ c :: qs)) = none := by
  obtain ⟨hlength, ⟨b, t, htext⟩, rest, hraw⟩ := h.split hps hc
  rw [Option.eq_none_iff_forall_ne_some]
  rintro ⟨x', y'⟩ hm
  obtain ⟨rest', heq, hx', hy', -⟩ := matchLoRaDataRate_eq_some_iff.mp (h.match_at_start hm)
  rw [hraw] at heq
  -- the match ends before the backslash
  have hbefore : loRaText x' y' <+: rawText ps :=
    prefix_of_notMem (Foreign.notMem_loRaText (by decide) hx' hy') heq
  -- but what is written before the backslash ends before the bandwidth
  have hshort : rawText ps <+: loRaText x [] := by
    have hwhole : loRaText x [] <+: loRaText x y := ⟨y, by rw [← loRaText_append, List.nil_append]⟩
    exact List.prefix_of_prefix_length_le ⟨b :: t, htext.symm⟩ hwhole (by omega)
  exact loRaText_not_prefix h.sf hx' hy' (hbefore.trans hshort)

/-- With an escape after the first digit of the bandwidth, the digits before the escape are found. -/
theorem IsLoRaString.leftmost_late {ps qs : List StringChar} {c : StringChar}
    (h : IsLoRaString (ps ++ c :: qs) x y) (hps : ∀ c ∈ ps, c.isPlain = true) (hc : c.isPlain = false)
    (hlen : (loRaText x []).length < ps.length) :
    ∃ y₁ b y₂, y = y₁ ++ b :: y₂ ∧
      leftmost matchLoRaDataRate (rawText (ps ++ c :: qs)) = some (x, y₁) := by
  obtain ⟨hlength, ⟨b, t, htext⟩, rest, hraw⟩ := h.split hps hc
  rw [← List.nil_append y, loRaText_append] at htext
  rcases List.append_eq_append_iff.mp htext with ⟨y₁, hps, hy⟩ | ⟨z, hz, -⟩
  · have hne : y₁ ≠ [] := by
      rintro rfl
      rw [List.append_nil] at hps
      rw [hps] at hlength
      omega
    have hnum : Numeral y₁ := ⟨hne, fun d hd => h.bw.2 d (hy ▸ List.mem_append_left _ hd)⟩
    refine ⟨y₁, b, t, hy, leftmost_of_match (matchLoRaDataRate_eq_some_iff.mpr ?_)⟩
    refine ⟨92 :: rest, ?_, h.sf, hnum, ?_⟩
    · rw [hraw, hps, ← loRaText_append, List.nil_append]
    · intro d hd
      cases hd
      decide
  · have := congrArg List.length hz
    rw [List.length_append] at this
    omega

theorem digitsValue_eq_iff {y₁ y₂ : Bytes} {b : UInt8} :
    digitsValue y₁ = digitsValue (y₁ ++ b :: y₂) ↔ digitsValue (y₁ ++ b :: y₂) = 0 := by
  have hle := le_digitsValue_append (y₁ ++ [b]) y₂
  rw [digitsValue_snoc, List.append_assoc, List.singleton_append] at hle
  omega

/-- With an escape before the first digit of the bandwidth, a data rate is not written out. -/
theorem not_writtenOut {ps qs : List StringChar} {c : StringChar} (hc : c.isPlain = false)
    (hlen : ps.length ≤ (loRaText x []).length) : ¬ WrittenOut (ps ++ c :: qs) x y := by
  have hescape : ∀ {l : List StringChar}, c ∈ l → ¬ ∀ c ∈ l, c.isPlain = true := by
    intro l hmem hall
    rw [hall c hmem] at hc
    cases hc
  rintro (hall | ⟨-, htake⟩)
  · exact hescape (List.mem_append_right ps List.mem_cons_self) hall
  · refine hescape ?_ htake
    rw [List.take_append]
    obtain ⟨k, hk⟩ : ∃ k, (loRaText x []).length + 1 - ps.length = k + 1 :=
      ⟨(loRaText x []).length - ps.length, by omega⟩
    rw [hk, List.take_succ_cons]
    exact List.mem_append_right _ List.mem_cons_self

/-- With an escape after the first digit of the bandwidth, a data rate is written out if its bandwidth is
zero. -/
theorem writtenOut_iff {ps qs : List StringChar} {c : StringChar} (hps : ∀ c ∈ ps, c.isPlain = true)
    (hc : c.isPlain = false) (hlen : (loRaText x []).length < ps.length) :
    WrittenOut (ps ++ c :: qs) x y ↔ digitsValue y = 0 := by
  constructor
  · rintro (hall | ⟨hzero, -⟩)
    · rw [hall c (List.mem_append_right ps List.mem_cons_self)] at hc
      cases hc
    · exact hzero
  · intro hzero
    refine .inr ⟨hzero, ?_⟩
    rw [List.take_append_of_le_length hlen]
    exact fun c' hc' => hps c' (List.mem_of_mem_take hc')

/-- A LoRa data rate is read as it should be exactly when it is written out. -/
theorem IsLoRaString.decodes_iff (h : IsLoRaString cs x y) :
    decodeDatR (Token.string cs).text = .ok (loRa (digitsValue x) (digitsValue y)) ↔ WrittenOut cs x y := by
  have hdecode : ∀ dr, decodeDatR (Token.string cs).text = .ok dr ↔
      ∃ x y, leftmost matchLoRaDataRate (rawText cs) = some (x, y) ∧ ofNumerals x y = some dr :=
    fun dr => decodeDatR_enclosed foreign_quote foreign_quote (rawText cs)
  rw [hdecode]
  by_cases hplain : ∀ c ∈ cs, c.isPlain = true
  · refine iff_of_true ⟨x, y, h.leftmost_of_plain hplain, ?_⟩ (.inl hplain)
    exact ofNumerals_eq_some_iff.mpr ⟨h.fits, rfl⟩
  obtain ⟨ps, c, qs, rfl, hps, hc⟩ := exists_first_escape hplain
  rcases Nat.lt_or_ge (loRaText x []).length ps.length with hlen | hlen
  · -- the bandwidth is read up to the escape
    obtain ⟨y₁, b, y₂, hy, hfound⟩ := h.leftmost_late hps hc hlen
    have hle : digitsValue y₁ ≤ digitsValue y := hy ▸ le_digitsValue_append y₁ (b :: y₂)
    have hfits : digitsValue x < 2 ^ 63 ∧ digitsValue y₁ < 2 ^ 63 :=
      ⟨h.fits.1, Nat.lt_of_le_of_lt hle h.fits.2⟩
    have hsame : (∃ x' y', some (x, y₁) = some (x', y') ∧
        ofNumerals x' y' = some (loRa (digitsValue x) (digitsValue y))) ↔ digitsValue y₁ = digitsValue y := by
      constructor
      · rintro ⟨x', y', hxy, hdr⟩
        cases hxy
        exact (loRa_inj.mp (ofNumerals_eq_some_iff.mp hdr).2).2.symm
      · intro heq
        exact ⟨x, y₁, rfl, ofNumerals_eq_some_iff.mpr ⟨hfits, by rw [heq]⟩⟩
    rw [hfound, hsame, writtenOut_iff hps hc hlen, hy]
    exact digitsValue_eq_iff
  · rw [h.leftmost_early hps hc hlen]
    exact iff_of_false (by rintro ⟨x, y, hnone, -⟩; cases hnone) (not_writtenOut hc hlen)

theorem not_isFSK_string (cs : List StringChar) (n : ℕ) : ¬ IsFSK (.string cs) n := by
  rintro ⟨num, h, -⟩
  cases h

/-- A string stands for one data rate at most. -/
theorem IsLoRaString.isLoRa_iff (h : IsLoRaString cs x y) (sf bw : ℕ) :
    IsLoRa (.string cs) sf bw ↔ sf = digitsValue x ∧ bw = digitsValue y := by
  constructor
  · rintro ⟨cs', x', y', hcs, h', rfl, rfl⟩
    cases hcs
    obtain ⟨rfl, rfl⟩ := h.unique h'
    exact ⟨rfl, rfl⟩
  · rintro ⟨rfl, rfl⟩
    exact ⟨cs, x, y, rfl, h, rfl, rfl⟩

theorem IsLoRaString.strict_iff (h : IsLoRaString cs x y) : Strict (.string cs) ↔ WrittenOut cs x y := by
  constructor
  · intro hs
    exact hs.1 x y h
  · intro hw
    refine ⟨fun x' y' h' => ?_, fun hno => absurd h (hno x y)⟩
    obtain ⟨rfl, rfl⟩ := h.unique h'
    exact hw

/-- A string that stands for a data rate is parsed as it should be exactly when it is read as that. -/
theorem IsLoRaString.parsesExactly_iff (h : IsLoRaString cs x y) :
    ParsesExactly (.string cs) ↔
      decodeDatR (Token.string cs).text = .ok (loRa (digitsValue x) (digitsValue y)) := by
  have hloRa : IsLoRa (.string cs) (digitsValue x) (digitsValue y) := (h.isLoRa_iff _ _).mpr ⟨rfl, rfl⟩
  constructor
  · intro hv
    exact (hv.loRa _ _).mpr hloRa
  · intro hok
    refine ⟨fun sf bw => ?_, fun n => ?_, fun hno => absurd hloRa (hno _ _)⟩
    · rw [hok, Except.ok.injEq, loRa_inj, h.isLoRa_iff]
      exact and_congr eq_comm eq_comm
    · rw [hok]
      refine iff_of_false (fun he => ?_) (not_isFSK_string cs n)
      exact fsk_ne_loRa _ _ _ (Except.ok.inj he).symm

/-- Strings are parsed as they should be exactly when they are strict. -/
theorem parsesExactly_string (cs : List StringChar) : ParsesExactly (.string cs) ↔ Strict (.string cs) := by
  by_cases hex : ∃ x y, IsLoRaString cs x y
  · obtain ⟨x, y, h⟩ := hex
    rw [h.strict_iff, h.parsesExactly_iff]
    exact h.decodes_iff
  · have hno : ∀ x y, ¬ IsLoRaString cs x y := fun x y h => hex ⟨x, y, h⟩
    have hnoLoRa : ∀ sf bw, ¬ IsLoRa (.string cs) sf bw := by
      rintro sf bw ⟨cs', x, y, hcs, h, -⟩
      cases hcs
      exact hno x y h
    rw [parsesExactly_iff_not_found hnoLoRa (not_isFSK_string cs) fun dr =>
      decodeDatR_enclosed foreign_quote foreign_quote (rawText cs)]
    constructor
    · intro hfound
      exact ⟨fun x y h => absurd h (hno x y), fun _ => hfound⟩
    · intro hs
      exact hs.2 hno

/-! ### Every value -/

theorem not_dataRate (hs : ∀ cs, v ≠ .string cs) (hn : ∀ num, v ≠ .number num) :
    (∀ sf bw, ¬ IsLoRa v sf bw) ∧ ∀ n, ¬ IsFSK v n := by
  constructor
  · rintro sf bw ⟨cs, x, y, h, -⟩
    exact hs cs h
  · rintro n ⟨num, h, -⟩
    exact hn num h

theorem parsesExactly_word (hs : ∀ cs, v ≠ .string cs) (hn : ∀ num, v ≠ .number num) (hS : 83 ∉ v.text)
    (hword : ¬ Numeral v.text) : ParsesExactly v := by
  obtain ⟨hloRa, hfsk⟩ := not_dataRate hs hn
  refine parsesExactly_of_refused hloRa hfsk fun dr h => ?_
  exact hword ((decodeDatR_of_notMem hS).mp h).1

/-- **The parser accepts exactly the data rates** among the values that are strict, and no others: a value
is parsed as the grammar says exactly when it is strict. -/
theorem parses_exactly_iff (v : Token) : ParsesExactly v ↔ Strict v := by
  cases v with
  | string cs => exact parsesExactly_string cs
  | number num => exact iff_of_true (parsesExactly_number num) trivial
  | bool b =>
    refine iff_of_true (parsesExactly_word nofun nofun ?_ ?_) trivial
    · cases b <;> decide
    · intro hnum
      cases b
      · exact absurd (hnum.2 102 List.mem_cons_self) (by decide)
      · exact absurd (hnum.2 116 List.mem_cons_self) (by decide)
  | null =>
    refine iff_of_true (parsesExactly_word nofun nofun (by decide) fun hnum => ?_) trivial
    exact absurd (hnum.2 110 List.mem_cons_self) (by decide)
  | array inner =>
    obtain ⟨hloRa, hfsk⟩ := not_dataRate (v := .array inner) nofun nofun
    exact parsesExactly_iff_not_found hloRa hfsk fun dr => decodeDatR_enclosed (by decide) (by decide) inner
  | object inner =>
    obtain ⟨hloRa, hfsk⟩ := not_dataRate (v := .object inner) nofun nofun
    exact parsesExactly_iff_not_found hloRa hfsk fun dr => decodeDatR_enclosed (by decide) (by decide) inner

/-- An array with a data rate in it is taken for that data rate. -/
theorem parses_array : ¬ ∀ v, ParsesExactly v := by
  intro h
  have hok : decodeDatR (Token.array (str "\"SF7BW125\"")).text = .ok (loRa (7 : ℕ) (125 : ℕ)) := by decide
  obtain ⟨cs, x, y, hv, -⟩ := ((h _).loRa 7 125).mp hok
  cases hv

end GatewayBridge.Semtech
