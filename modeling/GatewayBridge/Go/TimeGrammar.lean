import GatewayBridge.Go.TimeFormat

/-!
# What `time.Parse` takes

The texts that the elements of a layout take, as grammars. The lemmas `read_…_iff` say for
each element which text it takes from the start of the input. A date is then a `DateText`
(`parseChunks_date`), a time of the day a `ClockText` (`parseChunks_clock`), an offset an
`OffsetText` (`colonOffset_iff`), and a zone name one of those that `ZoneName` lists
(`parseTimeZone_iff`).
-/

namespace GatewayBridge.Go

/-! ### What the elements take -/

variable {s s' : Bytes} {f f' g : Fields} {layout : Layout} {n : ℕ}

@[simp] theorem digitAt_cons_zero (c : UInt8) (s : Bytes) : digitAt (c :: s) 0 = isDigit c := rfl

@[simp] theorem digitAt_cons_succ (c : UInt8) (s : Bytes) (i : ℕ) : digitAt (c :: s) (i + 1) = digitAt s i := rfl

@[simp] theorem digitAt_nil (i : ℕ) : digitAt [] i = false := rfl

theorem digitAt_zero_eq_false : digitAt s 0 = false ↔ NoDigit s := by
  cases s <;> simp [NoDigit]

/-- `getnum` takes two digits; where it need not be two, one that no other digit follows. -/
theorem getnum_eq_some_iff {fixed : Bool} :
    getnum s fixed = some (n, s') ↔ ∃ x, s = x ++ s' ∧ digitsValue x = n ∧
      (Digits 2 x ∨ fixed = false ∧ Digits 1 x ∧ NoDigit s') := by
  constructor
  · intro h
    match s, h with
    | [], h => cases h
    | c :: s, h =>
      rw [getnum, digitAt_cons_zero, digitAt_cons_succ] at h
      split_ifs at h with hc hc' hfixed
      · -- two digits
        match s, hc', h with
        | c' :: s, hc', h =>
          cases h
          exact ⟨[c, c'], rfl, rfl, .inl ⟨rfl, by simpa using ⟨hc, hc'⟩⟩⟩
      · -- one digit
        cases h
        rw [Bool.not_eq_true] at hfixed hc'
        exact ⟨[c], rfl, rfl, .inr ⟨hfixed, ⟨rfl, by simpa using hc⟩, digitAt_zero_eq_false.mp hc'⟩⟩
  · rintro ⟨x, rfl, rfl, ⟨hlen, hall⟩ | ⟨rfl, ⟨hlen, hall⟩, hs'⟩⟩
    · obtain ⟨c, c', rfl⟩ := List.length_eq_two.mp hlen
      simp only [List.mem_cons, List.not_mem_nil, or_false, forall_eq_or_imp, forall_eq] at hall
      simp [getnum, hall]
    · obtain ⟨c, rfl⟩ := List.length_eq_one_iff.mp hlen
      rw [List.forall_mem_singleton] at hall
      simp [getnum, hall, digitAt_zero_eq_false.mpr hs']

theorem getnum_fixed_iff :
    getnum s true = some (n, s') ↔ ∃ x, s = x ++ s' ∧ digitsValue x = n ∧ Digits 2 x := by
  simp [getnum_eq_some_iff]

theorem cutspace_spaces {s : Bytes} (hs : s.head? ≠ some 32) (k : ℕ) :
    cutspace (List.replicate k 32 ++ s) = s := by
  rw [cutspace, List.dropWhile_append_of_pos (fun c hc => by simpa using List.eq_of_mem_replicate hc)]
  cases s with
  | nil => rfl
  | cons c s =>
    rw [List.head?_cons, ne_eq, Option.some.injEq] at hs
    rw [List.dropWhile_cons_of_neg (by simpa using hs)]

theorem eq_replicate_append_cutspace (s : Bytes) :
    ∃ k, s = List.replicate k 32 ++ cutspace s ∧ (cutspace s).head? ≠ some 32 := by
  induction s with
  | nil => exact ⟨0, rfl, nofun⟩
  | cons c s ih =>
    by_cases hc : c = 32
    · subst hc
      obtain ⟨k, hk, hhead⟩ := ih
      have hcut : cutspace (32 :: s) = cutspace s := rfl
      exact ⟨k + 1, by rw [hcut, List.replicate_succ, List.cons_append, ← hk], hcut ▸ hhead⟩
    · have hcut : cutspace (c :: s) = c :: s := List.dropWhile_cons_of_neg (by simpa using hc)
      exact ⟨0, by rw [hcut, List.replicate_zero, List.nil_append], by rw [hcut]; simpa using hc⟩

theorem skip_of_no_space {p : Bytes} (hp : ∀ c ∈ p, c ≠ 32) : skip s p = some s' ↔ s = p ++ s' := by
  induction p generalizing s with
  | nil => rw [skip, Option.some.injEq, List.nil_append]
  | cons c p ih =>
    rw [List.forall_mem_cons] at hp
    rw [skip, if_neg hp.1]
    cases s with
    | nil => simp
    | cons a s =>
      by_cases ha : a = c
      · simp [ha, ih hp.2]
      · simp [ha]

theorem read_text_iff {p : Bytes} (hp : ∀ c ∈ p, c ≠ 32) :
    Chunk.read layout f s (.text p) = some (f', s') ↔ f' = f ∧ s = p ++ s' := by
  rw [Chunk.read, Option.map_eq_some_iff]
  constructor
  · rintro ⟨t, ht, hf⟩
    cases hf
    exact ⟨rfl, (skip_of_no_space hp).mp ht⟩
  · rintro ⟨rfl, rfl⟩
    exact ⟨s', (skip_of_no_space hp).mpr rfl, rfl⟩

/-- A space of the layout stands for one or more spaces, or for the end of the text. -/
theorem read_space_iff :
    Chunk.read layout f s (.text [32]) = some (f', s') ↔
      f' = f ∧ s'.head? ≠ some 32 ∧ ((s = [] ∧ s' = []) ∨ ∃ k, s = List.replicate (k + 1) 32 ++ s') := by
  have hskip : Chunk.read layout f s (.text [32]) =
      if s ≠ [] ∧ s.head? ≠ some 32 then none else some (f, cutspace s) := by
    rw [Chunk.read, skip, if_pos rfl]
    split_ifs
    · rfl
    · have hcut : cutspace [] = [] := rfl
      rw [hcut, skip, Option.map_some]
  rw [hskip]
  constructor
  · intro h
    split_ifs at h with hs
    cases h
    obtain ⟨k, hk, hhead⟩ := eq_replicate_append_cutspace s
    refine ⟨rfl, hhead, ?_⟩
    cases k with
    | zero =>
      -- no space is there, so nothing is
      rw [List.replicate_zero, List.nil_append] at hk
      rw [← hk] at hhead ⊢
      have : s = [] := by
        by_contra hne
        exact hs ⟨hne, hhead⟩
      exact .inl ⟨this, this⟩
    | succ k => exact .inr ⟨k, hk⟩
  · rintro ⟨rfl, hs', ⟨rfl, rfl⟩ | ⟨k, rfl⟩⟩
    · simp [cutspace]
    · rw [cutspace_spaces hs', if_neg (by simp [List.replicate_succ])]

/-- A number that begins with a digit has no sign. -/
theorem numeral_of_atoi {y : ℤ} (hs : digitAt s 0 = true) (h : atoi s = .ok y) :
    Numeral s ∧ y = digitsValue s := by
  by_cases hn : Numeral s
  · rw [atoi_of_numeral hn] at h
    split_ifs at h
    cases h
    exact ⟨hn, rfl⟩
  · exfalso
    cases s with
    | nil => cases hs
    | cons c s =>
      have hc : c ≠ 45 ∧ c ≠ 43 := by
        constructor <;> rintro rfl <;> cases hs
      have hparse : parseDigits (c :: s) = .error .malformed := by
        rw [parseDigits, if_neg]
        rintro ⟨hne, hall⟩
        exact hn ⟨hne, List.all_eq_true.mp hall⟩
      simp [atoi, hc, hparse] at h

theorem read_longYear_iff :
    Chunk.read layout f s .longYear = some (f', s') ↔
      ∃ x, Digits 4 x ∧ s = x ++ s' ∧ f' = { f with year := digitsValue x } := by
  rw [Chunk.read]
  constructor
  · intro h
    split_ifs at h with hs
    rw [not_or, Nat.not_lt, Bool.not_eq_false] at hs
    obtain ⟨hlen, hdigit⟩ := hs
    have hdigit' : digitAt (s.take 4) 0 = true := by rwa [digitAt, List.getElem?_take_of_lt (by decide)]
    split at h
    · rename_i y hy
      cases h
      obtain ⟨hx, rfl⟩ := numeral_of_atoi hdigit' hy
      refine ⟨s.take 4, ⟨?_, hx.2⟩, (List.take_append_drop 4 s).symm, ?_⟩
      · rw [List.length_take, Nat.min_eq_left hlen]
      · rw [Int.toNat_natCast]
    · cases h
  · rintro ⟨x, hx, rfl, rfl⟩
    have hlt := hx.lt
    have htake : (x ++ s').take 4 = x := by rw [← hx.length_eq, List.take_left]
    have hdrop : (x ++ s').drop 4 = s' := by rw [← hx.length_eq, List.drop_left]
    have hdigit : digitAt (x ++ s') 0 = true := by
      cases x with
      | nil => cases hx.length_eq
      | cons c x => exact hx.all c List.mem_cons_self
    rw [if_neg (by simp [hdigit, hx.length_eq]), htake, hdrop,
      atoi_of_numeral (hx.numeral (by decide)), if_pos (by omega)]
    simp

theorem readNumber_iff {fixed : Bool} {P : ℕ → Prop} [DecidablePred P] {k : ∀ n, P n → Fields} :
    readNumber s fixed P k = some (f', s') ↔
      ∃ x, (Digits 2 x ∨ fixed = false ∧ Digits 1 x ∧ NoDigit s') ∧ ∃ h : P (digitsValue x),
        s = x ++ s' ∧ f' = k (digitsValue x) h := by
  rw [readNumber, Option.bind_eq_some_iff]
  constructor
  · rintro ⟨⟨n, t⟩, hn, hk⟩
    obtain ⟨x, rfl, rfl, hx⟩ := getnum_eq_some_iff.mp hn
    dsimp only at hk
    split_ifs at hk with h
    cases hk
    exact ⟨x, hx, h, rfl, rfl⟩
  · rintro ⟨x, hx, h, rfl, rfl⟩
    exact ⟨_, getnum_eq_some_iff.mpr ⟨x, rfl, rfl, hx⟩, dif_pos h⟩

/-- A number of two digits that must satisfy `P`. -/
theorem readNumber_fixed_iff {P : ℕ → Prop} [DecidablePred P] {k : ∀ n, P n → Fields} :
    readNumber s true P k = some (f', s') ↔
      ∃ x, Digits 2 x ∧ ∃ h : P (digitsValue x), s = x ++ s' ∧ f' = k (digitsValue x) h := by
  simp only [readNumber_iff, Bool.true_eq_false, false_and, or_false]

theorem read_zeroMonth_iff :
    Chunk.read layout f s .zeroMonth = some (f', s') ↔
      ∃ x, Digits 2 x ∧ ∃ h : 1 ≤ digitsValue x ∧ digitsValue x ≤ 12,
        s = x ++ s' ∧ f' = { f with month := digitsValue x, month_mem := h } := by
  rw [Chunk.read, readNumber_fixed_iff]

theorem read_zeroDay_iff :
    Chunk.read layout f s .zeroDay = some (f', s') ↔
      ∃ x, Digits 2 x ∧ s = x ++ s' ∧ f' = { f with day := digitsValue x } := by
  rw [Chunk.read, readNumber_fixed_iff]
  simp only [exists_true_left]

theorem read_hour_iff :
    Chunk.read layout f s .hour = some (f', s') ↔
      ∃ x, (Digits 2 x ∨ Digits 1 x ∧ NoDigit s') ∧ ∃ h : digitsValue x < 24,
        s = x ++ s' ∧ f' = { f with hour := digitsValue x, hour_lt := h } := by
  rw [Chunk.read, readNumber_iff]
  simp only [true_and]

theorem read_zeroMinute_iff :
    Chunk.read layout f s .zeroMinute = some (f', s') ↔
      ∃ x, Digits 2 x ∧ ∃ h : digitsValue x < 60,
        s = x ++ s' ∧ f' = { f with min := digitsValue x, min_lt := h } := by
  rw [Chunk.read, readNumber_fixed_iff]

/-! ### Fractions -/

/-- A fraction of a second, as it is written: a comma or a point, and digits. -/
structure FracText where
  /-- The comma or point. -/
  sep : UInt8
  /-- The digits. -/
  digits : Bytes
  sep_ok : commaOrPeriod sep = true
  digits_ok : Numeral digits

namespace FracText

/-- How the fraction is written; nothing if there is none. -/
def text : Option FracText → Bytes
  | none => []
  | some x => x.sep :: x.digits

/-- The nanoseconds of the fraction. -/
def nsec : Option FracText → ℕ
  | none => 0
  | some x => parseNanoseconds x.digits

/-- The fraction ends before `s`. -/
def Ends (s : Bytes) : Option FracText → Prop
  | none => fraction s = none
  | some _ => NoDigit s

theorem nsec_lt (o : Option FracText) : nsec o < 10 ^ 9 := by
  cases o with
  | none => decide
  | some x => exact parseNanoseconds_lt x.digits_ok.2

/-- A character that is no digit, comma or point ends a fraction. -/
theorem ends_cons {c : UInt8} (hc : isDigit c = false) (hc' : commaOrPeriod c = false) (s : Bytes)
    (o : Option FracText) : Ends (c :: s) o := by
  cases o with
  | none => rw [Ends, fraction, hc', if_neg Bool.false_ne_true]
  | some x =>
    rintro a ⟨⟩
    exact hc

end FracText

/-- `f` with the fraction, if there is one. -/
def Fields.setFrac (f : Fields) : Option FracText → Fields
  | none => f
  | some x => { f with nsec := FracText.nsec (some x), nsec_lt := FracText.nsec_lt _ }

theorem fraction_text (x : FracText) (hs : NoDigit s) :
    fraction (FracText.text (some x) ++ s) = some (FracText.nsec (some x), s) :=
  fraction_iff.mpr ⟨x.sep_ok, x.digits, rfl, x.digits_ok, hs, rfl⟩

/-- A fraction that is read is the one that is written, and it ends there. -/
theorem readFraction_iff : f.readFraction s = (f', s') ↔
    ∃ o, s = FracText.text o ++ s' ∧ FracText.Ends s' o ∧ f' = f.setFrac o := by
  have hread : ∀ o : Option FracText, FracText.Ends s' o →
      f.readFraction (FracText.text o ++ s') = (f.setFrac o, s') := by
    intro o ho
    unfold Fields.readFraction
    cases o with
    | none =>
      split
      · rename_i h
        exact absurd (h.symm.trans ho) nofun
      · rfl
    | some x =>
      split
      · rename_i h
        rw [fraction_text x ho] at h
        cases h
        rfl
      · rename_i h
        exact absurd (h.symm.trans (fraction_text x ho)) nofun
  constructor
  · intro h
    unfold Fields.readFraction at h
    split at h
    · rename_i n t hfrac
      cases h
      cases s with
      | nil => cases hfrac
      | cons c s =>
        obtain ⟨hc, ds, rfl, hds, hno, rfl⟩ := fraction_iff.mp hfrac
        exact ⟨some ⟨c, ds, hc, hds⟩, rfl, hno, rfl⟩
    · rename_i hfrac
      cases h
      exact ⟨none, rfl, hfrac, rfl⟩
  · rintro ⟨o, rfl, ho, rfl⟩
    exact hread o ho

/-! ### Dates and times of the day -/

/-- A date as it is written: its month exists, and perhaps its day. -/
structure DateText where
  /-- The digits of the year. -/
  year : Bytes
  /-- The digits of the month. -/
  month : Bytes
  /-- The digits of the day. -/
  day : Bytes
  year_ok : Digits 4 year
  month_ok : Digits 2 month
  month_mem : 1 ≤ digitsValue month ∧ digitsValue month ≤ 12
  day_ok : Digits 2 day

/-- How the date is written. -/
def DateText.text (d : DateText) : Bytes := d.year ++ str "-" ++ d.month ++ str "-" ++ d.day

/-- A time of the day as it is written. -/
structure ClockText where
  /-- The digits of the hour. -/
  hour : Bytes
  /-- The digits of the minute. -/
  min : Bytes
  /-- The digits of the second. -/
  sec : Bytes
  /-- The fraction of the second. -/
  frac : Option FracText
  hour_ok : Digits 2 hour ∨ Digits 1 hour
  hour_lt : digitsValue hour < 24
  min_ok : Digits 2 min
  min_lt : digitsValue min < 60
  sec_ok : Digits 2 sec
  sec_lt : digitsValue sec < 60

/-- How the time of the day is written. -/
def ClockText.text (c : ClockText) : Bytes :=
  c.hour ++ str ":" ++ c.min ++ str ":" ++ c.sec ++ FracText.text c.frac

theorem ClockText.head_text (c : ClockText) (s : Bytes) : (c.text ++ s).head? ≠ some 32 := by
  have hne : c.hour ≠ [] := by
    intro h
    obtain hlen | hlen := c.hour_ok.imp Digits.length_eq Digits.length_eq <;> simp [h] at hlen
  have hall : ∀ a ∈ c.hour, isDigit a = true := c.hour_ok.elim Digits.all Digits.all
  simp only [text, List.append_assoc]
  rw [List.head?_append_of_ne_nil _ hne]
  intro hhead
  cases hall 32 (List.mem_of_mem_head? hhead)

/-- `f` with the date. -/
def Fields.setDate (f : Fields) (d : DateText) : Fields :=
  { f with
    year := digitsValue d.year
    month := digitsValue d.month
    day := digitsValue d.day
    month_mem := d.month_mem }

/-- `f` with the time of the day. -/
def Fields.setClock (f : Fields) (c : ClockText) : Fields :=
  { f with
    hour := digitsValue c.hour
    min := digitsValue c.min
    sec := digitsValue c.sec
    hour_lt := c.hour_lt
    min_lt := c.min_lt
    sec_lt := c.sec_lt : Fields }.setFrac c.frac

/-- `2006-01-02`. -/
def dateLayout : Layout := [.longYear, .text (str "-"), .zeroMonth, .text (str "-"), .zeroDay]

/-- `15:04:05`. -/
def clockLayout : Layout := [.hour, .text (str ":"), .zeroMinute, .text (str ":"), .zeroSecond]

theorem parseChunks_cons {c : Chunk} :
    parseChunks (c :: layout) f s = some g ↔
      ∃ f' s', c.read layout f s = some (f', s') ∧ parseChunks layout f' s' = some g := by
  rw [parseChunks, Option.bind_eq_some_iff, Prod.exists]

theorem parseChunks_text {p : Bytes} (hp : ∀ c ∈ p, c ≠ 32) :
    parseChunks (.text p :: layout) f s = some g ↔ ∃ s', s = p ++ s' ∧ parseChunks layout f s' = some g := by
  rw [parseChunks_cons]
  constructor
  · rintro ⟨f', s', hread, hrest⟩
    obtain ⟨rfl, hs⟩ := (read_text_iff hp).mp hread
    exact ⟨s', hs, hrest⟩
  · rintro ⟨s', hs, hrest⟩
    exact ⟨f, s', (read_text_iff hp).mpr ⟨rfl, hs⟩, hrest⟩

/-- **What a layout takes for a date.** -/
theorem parseChunks_date :
    parseChunks (dateLayout ++ layout) f s = some g ↔
      ∃ (d : DateText) (s' : Bytes), s = d.text ++ s' ∧ parseChunks layout (f.setDate d) s' = some g := by
  have hdash : ∀ c ∈ str "-", c ≠ 32 := List.forall_mem_singleton.mpr (by decide)
  constructor
  · intro h
    obtain ⟨_, _, hy, h₁⟩ := parseChunks_cons.mp h
    obtain ⟨year, hyear, rfl, rfl⟩ := read_longYear_iff.mp hy
    obtain ⟨_, rfl, h₂⟩ := (parseChunks_text hdash).mp h₁
    obtain ⟨_, _, hm, h₃⟩ := parseChunks_cons.mp h₂
    obtain ⟨month, hmonth, hmem, rfl, rfl⟩ := read_zeroMonth_iff.mp hm
    obtain ⟨_, rfl, h₄⟩ := (parseChunks_text hdash).mp h₃
    obtain ⟨_, s', hd, h₅⟩ := parseChunks_cons.mp h₄
    obtain ⟨day, hday, rfl, rfl⟩ := read_zeroDay_iff.mp hd
    exact ⟨⟨year, month, day, hyear, hmonth, hmem, hday⟩, s', by simp [DateText.text], h₅⟩
  · rintro ⟨d, s', rfl, h⟩
    simp only [DateText.text, List.append_assoc]
    refine parseChunks_cons.mpr ⟨_, _, read_longYear_iff.mpr ⟨d.year, d.year_ok, rfl, rfl⟩, ?_⟩
    refine (parseChunks_text hdash).mpr ⟨_, rfl, ?_⟩
    refine parseChunks_cons.mpr ⟨_, _, read_zeroMonth_iff.mpr ⟨d.month, d.month_ok, d.month_mem, rfl, rfl⟩, ?_⟩
    refine (parseChunks_text hdash).mpr ⟨_, rfl, ?_⟩
    exact parseChunks_cons.mpr ⟨_, _, read_zeroDay_iff.mpr ⟨d.day, d.day_ok, rfl, rfl⟩, h⟩

section Clock

variable {layout' : Layout} (hl : layout' = .fracSecond9 :: layout ∨ layout' = layout ∧ nextFrac layout = false)
include hl

/-- After the seconds a fraction is read, whether the layout has one or not. -/
theorem parseChunks_seconds :
    parseChunks (.zeroSecond :: layout') f s = some g ↔
      ∃ f₁ s₁ f₂ s₂, readNumber s true (· < 60) (fun n h => { f with sec := n, sec_lt := h }) = some (f₁, s₁) ∧
        f₁.readFraction s₁ = (f₂, s₂) ∧ parseChunks layout f₂ s₂ = some g := by
  rw [parseChunks_cons]
  simp only [Chunk.read, Option.map_eq_some_iff, Prod.exists]
  obtain rfl | ⟨rfl, hnext⟩ := hl
  · constructor
    · rintro ⟨_, _, ⟨f₁, s₁, hn, ⟨⟩⟩, h⟩
      obtain ⟨f₂, s₂, hfrac, h'⟩ := parseChunks_cons.mp h
      exact ⟨_, _, f₂, s₂, hn, Option.some.inj hfrac, h'⟩
    · rintro ⟨f₁, s₁, f₂, s₂, hn, hfrac, h⟩
      exact ⟨f₁, s₁, ⟨f₁, s₁, hn, rfl⟩, parseChunks_cons.mpr ⟨f₂, s₂, congrArg some hfrac, h⟩⟩
  · rw [hnext]
    constructor
    · rintro ⟨f₂, s₂, ⟨f₁, s₁, hn, heq⟩, h⟩
      exact ⟨f₁, s₁, f₂, s₂, hn, heq, h⟩
    · rintro ⟨f₁, s₁, f₂, s₂, hn, hfrac, h⟩
      exact ⟨f₂, s₂, ⟨f₁, s₁, hn, hfrac⟩, h⟩

/-- **What a layout takes for a time of the day.** -/
theorem parseChunks_clock :
    parseChunks (clockLayout ++ layout') f s = some g ↔
      ∃ (c : ClockText) (s' : Bytes), s = c.text ++ s' ∧ FracText.Ends s' c.frac ∧
        parseChunks layout (f.setClock c) s' = some g := by
  have hcolon : ∀ c ∈ str ":", c ≠ 32 := List.forall_mem_singleton.mpr (by decide)
  constructor
  · intro h
    obtain ⟨_, _, hh, h₁⟩ := parseChunks_cons.mp h
    obtain ⟨hour, hhour, hhlt, rfl, rfl⟩ := read_hour_iff.mp hh
    obtain ⟨_, rfl, h₂⟩ := (parseChunks_text hcolon).mp h₁
    obtain ⟨_, _, hm, h₃⟩ := parseChunks_cons.mp h₂
    obtain ⟨min, hmin, hmlt, rfl, rfl⟩ := read_zeroMinute_iff.mp hm
    obtain ⟨_, rfl, h₄⟩ := (parseChunks_text hcolon).mp h₃
    obtain ⟨_, _, _, s', hs, hf, h₅⟩ := (parseChunks_seconds hl).mp h₄
    obtain ⟨sec, hsec, hslt, rfl, rfl⟩ := readNumber_fixed_iff.mp hs
    obtain ⟨o, rfl, ho, rfl⟩ := readFraction_iff.mp hf
    have hhour' : Digits 2 hour ∨ Digits 1 hour := hhour.imp id And.left
    exact ⟨⟨hour, min, sec, o, hhour', hhlt, hmin, hmlt, hsec, hslt⟩, s', by simp [ClockText.text], ho, h₅⟩
  · rintro ⟨c, s', rfl, ho, h⟩
    simp only [ClockText.text, List.append_assoc]
    have hnodigit : ∀ t, NoDigit (str ":" ++ t) := by
      rintro t a ⟨⟩
      rfl
    have hhour := c.hour_ok.imp id fun h =>
      And.intro h (hnodigit (c.min ++ (str ":" ++ (c.sec ++ (FracText.text c.frac ++ s')))))
    refine parseChunks_cons.mpr ⟨_, _, read_hour_iff.mpr ⟨c.hour, hhour, c.hour_lt, rfl, rfl⟩, ?_⟩
    refine (parseChunks_text hcolon).mpr ⟨_, rfl, ?_⟩
    refine parseChunks_cons.mpr ⟨_, _, read_zeroMinute_iff.mpr ⟨c.min, c.min_ok, c.min_lt, rfl, rfl⟩, ?_⟩
    refine (parseChunks_text hcolon).mpr ⟨_, rfl, ?_⟩
    exact (parseChunks_seconds hl).mpr ⟨_, _, _, _, readNumber_fixed_iff.mpr ⟨c.sec, c.sec_ok, c.sec_lt, rfl, rfl⟩,
      readFraction_iff.mpr ⟨c.frac, rfl, ho, rfl⟩, h⟩

end Clock

/-! ### Offsets -/

/-- An offset of the zone, as it is written. -/
structure OffsetText where
  /-- The sign is a minus. -/
  neg : Bool
  /-- The digits of the hours. -/
  hour : Bytes
  /-- The digits of the minutes. -/
  min : Bytes
  hour_ok : Digits 2 hour
  hour_le : digitsValue hour ≤ 24
  min_ok : Digits 2 min
  min_le : digitsValue min ≤ 60

namespace OffsetText

/-- How the offset is written. -/
def text (z : OffsetText) : Bytes := (if z.neg then 45 else 43) :: z.hour ++ str ":" ++ z.min

/-- The offset in seconds. -/
def value (z : OffsetText) : ℤ :=
  if z.neg then -((digitsValue z.hour * 60 + digitsValue z.min) * 60)
  else (digitsValue z.hour * 60 + digitsValue z.min) * 60

end OffsetText

theorem getnum_pair_iff {a b : UInt8} {t : Bytes} :
    getnum [a, b] true = some (n, t) ↔ Digits 2 [a, b] ∧ digitsValue [a, b] = n ∧ t = [] := by
  rw [getnum_fixed_iff]
  constructor
  · rintro ⟨x, hx, hn, hd⟩
    obtain ⟨a', b', rfl⟩ := List.length_eq_two.mp hd.length_eq
    cases hx
    exact ⟨hd, hn, rfl⟩
  · rintro ⟨hd, hn, rfl⟩
    exact ⟨[a, b], rfl, hn, hd⟩

/-- An offset that is read is the one that is written. -/
theorem colonOffset_iff {o : ℤ} :
    colonOffset s = some (o, s') ↔ ∃ z : OffsetText, s = z.text ++ s' ∧ o = z.value := by
  constructor
  · intro h
    match s, h with
    | sign :: h₁ :: h₀ :: colon :: m₁ :: m₀ :: t, h =>
      rw [colonOffset] at h
      split at h
      · rename_i hr _ mm _ hhr hmm
        obtain ⟨hh, rfl, rfl⟩ := getnum_pair_iff.mp hhr
        obtain ⟨hm, rfl, rfl⟩ := getnum_pair_iff.mp hmm
        split_ifs at h with hle hplus hminus
        · cases h
          obtain ⟨rfl, hhle, hmle⟩ := hle
          exact ⟨⟨false, _, _, hh, hhle, hm, hmle⟩, congrArg (· :: _) hplus, rfl⟩
        · cases h
          obtain ⟨rfl, hhle, hmle⟩ := hle
          exact ⟨⟨true, _, _, hh, hhle, hm, hmle⟩, congrArg (· :: _) hminus, rfl⟩
      · cases h
  · rintro ⟨⟨neg, hour, min, hh, hhle, hm, hmle⟩, rfl, rfl⟩
    obtain ⟨h₁, h₀, rfl⟩ := List.length_eq_two.mp hh.length_eq
    obtain ⟨m₁, m₀, rfl⟩ := List.length_eq_two.mp hm.length_eq
    have hhr := getnum_pair_iff.mpr ⟨hh, rfl, rfl⟩
    have hmm := getnum_pair_iff.mpr ⟨hm, rfl, rfl⟩
    cases neg <;>
      simp [OffsetText.text, OffsetText.value, str, colonOffset, hhr, hmm, hhle, hmle]

/-- How an offset is written; `Z` if there is none. -/
def OffsetText.zoneText : Option OffsetText → Bytes
  | none => str "Z"
  | some z => z.text

/-- The seconds of an offset. -/
def OffsetText.seconds : Option OffsetText → ℤ
  | none => 0
  | some z => z.value

/-- `f` with the offset. -/
def Fields.setOffset (f : Fields) : Option OffsetText → Fields
  | none => { f with utc := true }
  | some z => { f with zoneOffset := some z.value }

/-- What a layout takes for an offset. -/
theorem read_iso8601ColonTZ_iff :
    Chunk.read layout f s .iso8601ColonTZ = some (f', s') ↔
      ∃ o, s = OffsetText.zoneText o ++ s' ∧ f' = f.setOffset o := by
  rw [Chunk.read]
  constructor
  · intro h
    split_ifs at h with hz
    · cases h
      exact ⟨none, (List.cons_head?_tail hz).symm, rfl⟩
    · obtain ⟨⟨o, t⟩, ho, heq⟩ := Option.map_eq_some_iff.mp h
      cases heq
      obtain ⟨z, rfl, rfl⟩ := colonOffset_iff.mp ho
      exact ⟨some z, rfl, rfl⟩
  · rintro ⟨o, rfl, rfl⟩
    cases o with
    | none => exact if_pos rfl
    | some z =>
      have hsign : (z.text ++ s').head? ≠ some 90 := by
        cases hn : z.neg <;> simp [OffsetText.text, hn]
      rw [OffsetText.zoneText, if_neg hsign, colonOffset_iff.mpr ⟨z, rfl, rfl⟩, Option.map_some,
        Fields.setOffset]

/-- An offset does not begin like a fraction. -/
theorem ends_zoneText (o : Option OffsetText) (s : Bytes) (x : Option FracText) :
    FracText.Ends (OffsetText.zoneText o ++ s) x := by
  cases o with
  | none => exact FracText.ends_cons rfl rfl s x
  | some z =>
    rw [OffsetText.zoneText, OffsetText.text]
    cases z.neg <;> exact FracText.ends_cons rfl rfl _ x

/-! ### Zone names -/

/-- An offset as a zone name: a sign and a number of hours, at most 23. -/
def SignedOffset (z : Bytes) : Prop :=
  ∃ sign ds, z = sign :: ds ∧ (sign = 43 ∨ sign = 45) ∧ Numeral ds ∧ digitsValue ds ≤ 23

/-- A longest run that is as long as the beginning of the text is that beginning. -/
theorem takeWhile_append_eq {p : UInt8 → Bool} {z t : Bytes} (h : ((z ++ t).takeWhile p).length = z.length) :
    (z ++ t).takeWhile p = z := by
  have hpre := List.takeWhile_prefix p (l := z ++ t)
  rw [List.prefix_iff_eq_take] at hpre
  rw [hpre, h, List.take_left]

theorem signedOffset_of_length {z t : Bytes} (h : parseSignedOffset (z ++ t) = z.length) (hz : z ≠ []) :
    SignedOffset z := by
  cases z with
  | nil => exact absurd rfl hz
  | cons sign ds =>
    rw [List.cons_append, parseSignedOffset, List.length_cons] at h
    split_ifs at h with hsign
    obtain ⟨hs, hne, hle⟩ := hsign
    have htake : (ds ++ t).takeWhile isDigit = ds := takeWhile_append_eq (by omega)
    rw [htake] at hne hle
    exact ⟨sign, ds, rfl, hs, ⟨hne, htake ▸ List.all_eq_true.mp List.all_takeWhile⟩, hle⟩

theorem parseSignedOffset_append {z t : Bytes} (hz : SignedOffset z) (ht : NoDigit t) :
    parseSignedOffset (z ++ t) = z.length := by
  obtain ⟨sign, ds, rfl, hs, hds, hle⟩ := hz
  have hdigits := digits_eq_some_iff.mpr ⟨rfl, hds, ht⟩
  rw [digits] at hdigits
  split_ifs at hdigits
  have htake : (ds ++ t).takeWhile isDigit = ds := congrArg Prod.fst (Option.some.inj hdigits)
  rw [List.cons_append, parseSignedOffset]
  simp only [htake]
  rw [if_pos ⟨hs, hds.1, hle⟩, List.length_cons, Nat.add_comm]

/-- A zone name of capital letters: three, or four or five the last of which is a `T`; and `WITA`. -/
structure LettersName (z : Bytes) : Prop where
  upper : ∀ c ∈ z, isUpper c = true
  length_cases : z.length = 3 ∨ (z.length = 4 ∧ (z[3]? = some 84 ∨ z = str "WITA")) ∨
    (z.length = 5 ∧ z[4]? = some 84)

theorem lettersName_of_zone {z t : Bytes} (h : lettersZone (z ++ t) = some z.length) : LettersName z := by
  have hupper : ∀ k, 3 ≤ k → k ≤ 5 → (((z ++ t).take 6).takeWhile isUpper).length = k → k = z.length →
      ∀ c ∈ z, isUpper c = true := by
    rintro k h3 h5 hk rfl
    have hcut : (z ++ t).take 6 = z ++ t.take (6 - z.length) := by
      rw [List.take_append, List.take_of_length_le (by omega)]
    rw [hcut] at hk
    rw [← takeWhile_append_eq hk]
    exact List.all_eq_true.mp List.all_takeWhile
  have hget : ∀ {i}, i < z.length → (z ++ t)[i]? = z[i]? := fun hi => List.getElem?_append_left hi
  rw [lettersZone] at h
  split at h
  · rename_i hk
    split at h
    · rename_i hT
      have hlen : 5 = z.length := Option.some.inj h
      rw [hget (by omega)] at hT
      exact ⟨hupper 5 (by decide) (by decide) hk hlen, .inr (.inr ⟨hlen.symm, hT⟩)⟩
    · cases h
  · rename_i hk
    split at h
    · rename_i hT
      have hlen : 4 = z.length := Option.some.inj h
      rw [hget (by omega), hlen, List.take_left] at hT
      exact ⟨hupper 4 (by decide) (by decide) hk hlen, .inr (.inl ⟨hlen.symm, hT⟩)⟩
    · cases h
  · rename_i hk
    have hlen : 3 = z.length := Option.some.inj h
    exact ⟨hupper 3 (by decide) (by decide) hk hlen, .inl hlen.symm⟩
  · cases h

/-- Capital letters are found where no other follows. -/
theorem lettersZone_append {z t : Bytes} (hz : LettersName z) (ht : ∀ c ∈ t.head?, isUpper c = false) :
    lettersZone (z ++ t) = some z.length := by
  obtain ⟨hupper, hlen⟩ := hz
  have htake : (((z ++ t).take 6).takeWhile isUpper).length = z.length := by
    have hcut : (z ++ t).take 6 = z ++ t.take (6 - z.length) := by
      rw [List.take_append, List.take_of_length_le (by omega)]
    have hstop : (t.take (6 - z.length)).takeWhile isUpper = [] := by
      obtain ⟨k, hk⟩ : ∃ k, 6 - z.length = k + 1 := ⟨5 - z.length, by omega⟩
      cases t with
      | nil => simp
      | cons c t =>
        have hc : isUpper c = false := ht c rfl
        simp [hk, hc]
    rw [hcut, List.takeWhile_append_of_pos hupper, hstop, List.append_nil]
  have hget : ∀ {i}, i < z.length → (z ++ t)[i]? = z[i]? := fun hi => List.getElem?_append_left hi
  rw [lettersZone, htake]
  obtain h3 | ⟨h4, hT⟩ | ⟨h5, hT⟩ := hlen
  · rw [h3]
    rfl
  · have hT' : (z ++ t)[3]? = some 84 ∨ (z ++ t).take 4 = str "WITA" := by
      rwa [hget (by omega), ← h4, List.take_left]
    rw [h4]
    exact if_pos hT'
  · rw [← hget (by omega)] at hT
    rw [h5]
    exact if_pos hT

/-- **The zone names** that `parseTimeZone` knows. -/
inductive ZoneName : Bytes → Prop where
  /-- The two names with a lower-case letter. -/
  | mixed {z : Bytes} (h : z = str "ChST" ∨ z = str "MeST") : ZoneName z
  /-- `GMT`, alone or with an offset. -/
  | gmt {w : Bytes} (h : w = [] ∨ SignedOffset w) : ZoneName (str "GMT" ++ w)
  /-- An offset alone. -/
  | offset {z : Bytes} (h : SignedOffset z) : ZoneName z
  /-- Capital letters that do not begin with `GMT`. -/
  | letters {z : Bytes} (h : LettersName z) (hgmt : z.take 3 ≠ str "GMT") : ZoneName z

theorem zoneName_of_parse {z t : Bytes} (h : parseTimeZone (z ++ t) = some z.length) : ZoneName z := by
  have htake : ∀ {k}, k ≤ z.length → (z ++ t).take k = z.take k := List.take_append_of_le_length
  rw [parseTimeZone] at h
  split_ifs at h with _ hmixed hgmt hsign hzero
  · -- `ChST` and `MeST`
    have hlen : 4 = z.length := Option.some.inj h
    rw [hlen, List.take_left] at hmixed
    exact .mixed hmixed
  · -- `GMT`
    have hlen : 3 + parseSignedOffset ((z ++ t).drop 3) = z.length := Option.some.inj h
    rw [htake (by omega)] at hgmt
    rw [List.drop_append_of_le_length (by omega)] at hlen
    have hz : z = str "GMT" ++ z.drop 3 := by rw [← hgmt, List.take_append_drop]
    have hlen' : parseSignedOffset (z.drop 3 ++ t) = (z.drop 3).length := by
      rw [List.length_drop]
      omega
    rw [hz]
    by_cases hnil : z.drop 3 = []
    · exact .gmt (.inl hnil)
    · exact .gmt (.inr (signedOffset_of_length hlen' hnil))
  · -- an offset alone
    have hlen : parseSignedOffset (z ++ t) = z.length := Option.some.inj h
    refine .offset (signedOffset_of_length hlen ?_)
    rintro rfl
    exact hzero hlen
  · -- letters
    have hz := lettersName_of_zone h
    exact .letters hz fun h3 => hgmt (by rw [htake (by have := hz.length_cases; omega), h3])

/-- What ends a zone name: a character that is no capital letter, digit or sign. -/
structure EndsName (t : Bytes) : Prop where
  ne_nil : t ≠ []
  upper : ∀ c ∈ t.head?, isUpper c = false
  digit : NoDigit t
  sign : ∀ c ∈ t.head?, c ≠ 43 ∧ c ≠ 45

theorem parse_of_zoneName {z t : Bytes} (hz : ZoneName z) (ht : EndsName t) :
    parseTimeZone (z ++ t) = some z.length := by
  rw [parseTimeZone]
  cases hz with
  | mixed h =>
    obtain rfl | rfl := h
    · rw [if_neg (by simp [str]), if_pos (.inl rfl)]
      rfl
    · rw [if_neg (by simp [str]), if_pos (.inr rfl)]
      rfl
  | @gmt w h =>
    have hw : parseSignedOffset (w ++ t) = w.length := by
      obtain rfl | hw := h
      · cases t with
        | nil => rfl
        | cons c t => simp [parseSignedOffset, ht.sign c rfl]
      · exact parseSignedOffset_append hw ht.digit
    rw [if_neg (by simp [str]), if_neg (by simp [str]), if_pos (by simp [str])]
    have hdrop : (str "GMT" ++ w ++ t).drop 3 = w ++ t := rfl
    rw [hdrop, hw, List.length_append]
    rfl
  | offset h =>
    have hlen := parseSignedOffset_append h ht.digit
    obtain ⟨sign, ds, rfl, hs, hds, -⟩ := h
    have hds' := List.length_pos_iff.mpr hds.1
    have ht' := List.length_pos_iff.mpr ht.ne_nil
    rw [hlen, if_neg (by rw [List.length_append, List.length_cons]; omega), if_neg, if_neg,
      if_pos (by simpa using hs), if_neg (by simp)]
    · obtain rfl | rfl := hs <;> simp [str]
    · obtain rfl | rfl := hs <;> simp [str]
  | letters h hgmt =>
    have hzone := lettersZone_append h ht.upper
    obtain ⟨hupper, hlen⟩ := h
    have h3 : 3 ≤ z.length := by omega
    rw [hzone, if_neg (by rw [List.length_append]; omega), if_neg, if_neg, if_neg]
    · -- no sign
      cases z with
      | nil => cases h3
      | cons a z =>
        have ha : isUpper a = true := hupper a List.mem_cons_self
        rintro (h | h) <;> (cases h; cases ha)
    · rwa [List.take_append_of_le_length h3]
    · -- the second letter is a capital
      cases z with
      | nil => cases h3
      | cons a z =>
        cases z with
        | nil => simp at h3
        | cons b z =>
          have hb : isUpper b = true := hupper b (List.mem_cons_of_mem _ List.mem_cons_self)
          rintro (h | h)
          · have : b = 104 := Option.some.inj (congrArg (fun l : Bytes => l[1]?) h)
            subst this
            cases hb
          · have : b = 101 := Option.some.inj (congrArg (fun l : Bytes => l[1]?) h)
            subst this
            cases hb

/-- What begins with `UTC` does so before its end. -/
theorem take_utc_iff {z t : Bytes} (ht : EndsName t) :
    (z ++ t).take 3 = str "UTC" ↔ z.take 3 = str "UTC" := by
  by_cases h3 : 3 ≤ z.length
  · rw [List.take_append_of_le_length h3]
  · refine iff_of_false ?_ fun h => ?_
    · -- what ends the name would be a letter of `UTC`
      intro h
      cases t with
      | nil => exact ht.ne_nil rfl
      | cons c t =>
        obtain ⟨k, hk⟩ : ∃ k, 3 - z.length = k + 1 := ⟨2 - z.length, by omega⟩
        have hc : c ∈ str "UTC" := by
          rw [← h, List.take_append, hk, List.take_succ_cons]
          exact List.mem_append_right _ List.mem_cons_self
        have hall : (str "UTC").all isUpper = true := rfl
        exact Bool.false_ne_true ((ht.upper c rfl).symm.trans (List.all_eq_true.mp hall c hc))
    · have := congrArg List.length h
      rw [List.length_take, Nat.min_eq_right (by omega)] at this
      exact h3 this.ge

theorem endsName_quote (s : Bytes) : EndsName (str "\"" ++ s) where
  ne_nil := nofun
  upper := by
    rintro c ⟨⟩
    rfl
  digit := by
    rintro c ⟨⟩
    rfl
  sign := by
    rintro c ⟨⟩
    decide

theorem ZoneName.ne_nil {z : Bytes} (hz : ZoneName z) : z ≠ [] := by
  rintro rfl
  have hparse := parse_of_zoneName hz (endsName_quote [])
  cases hparse

theorem ZoneName.head_ne_space {z : Bytes} (hz : ZoneName z) : z.head? ≠ some 32 := by
  cases hz with
  | mixed h => obtain rfl | rfl := h <;> exact nofun
  | gmt h => exact nofun
  | offset h =>
    obtain ⟨sign, ds, rfl, rfl | rfl, -⟩ := h <;> exact nofun
  | letters h hgmt =>
    intro hhead
    cases h.upper 32 (List.mem_of_mem_head? hhead)

/-- A zone name other than UTC, as it is written. -/
structure NameText where
  /-- The name. -/
  name : Bytes
  name_ok : ZoneName name
  not_utc : name.take 3 ≠ str "UTC"

/-- How a zone name is written; `UTC` if there is none. -/
def NameText.zoneText : Option NameText → Bytes
  | none => str "UTC"
  | some z => z.name

theorem NameText.head_zoneText (o : Option NameText) (s : Bytes) : (zoneText o ++ s).head? ≠ some 32 := by
  cases o with
  | none => exact nofun
  | some z =>
    rw [zoneText, List.head?_append_of_ne_nil _ z.name_ok.ne_nil]
    exact z.name_ok.head_ne_space

/-- The seconds by which a zone name is off UTC: those that the local zone knows. -/
def NameText.seconds (lookupName : LookupName) (t : Time) : Option NameText → ℤ
  | none => 0
  | some z => (lookupName z.name (unixSec t)).getD 0

/-- `f` with the zone name. -/
def Fields.setName (f : Fields) : Option NameText → Fields
  | none => { f with utc := true }
  | some z => { f with zoneName := z.name }

/-- **What a layout takes for a zone name**, up to something that ends it. -/
theorem read_tz_iff (hs' : EndsName s') :
    Chunk.read layout f s .tz = some (f', s') ↔ ∃ o, s = NameText.zoneText o ++ s' ∧ f' = f.setName o := by
  rw [Chunk.read]
  constructor
  · intro h
    split_ifs at h with hutc
    · cases h
      refine ⟨none, ?_, rfl⟩
      rw [NameText.zoneText, ← hutc, List.take_append_drop]
    · obtain ⟨n, hn, heq⟩ := Option.map_eq_some_iff.mp h
      cases heq
      have hlen : (s.take n).length = n := by
        -- something is left, which ends the name
        have := List.length_pos_iff.mpr hs'.ne_nil
        rw [List.length_drop] at this
        rw [List.length_take]
        omega
      have hz : ZoneName (s.take n) := zoneName_of_parse (t := s.drop n) (by rw [List.take_append_drop, hn, hlen])
      have hutc' : (s.take n).take 3 ≠ str "UTC" := by
        rwa [ne_eq, ← take_utc_iff hs', List.take_append_drop]
      exact ⟨some ⟨s.take n, hz, hutc'⟩, (List.take_append_drop n s).symm, rfl⟩
  · rintro ⟨o, rfl, rfl⟩
    cases o with
    | none => exact if_pos rfl
    | some z =>
      rw [NameText.zoneText, if_neg (by rw [take_utc_iff hs']; exact z.not_utc),
        parse_of_zoneName z.name_ok hs', Option.map_some, List.take_left, List.drop_left, Fields.setName]

/-! ### Stamps -/

/-- A date that exists and a time of the day, as they are written. -/
structure Stamp where
  /-- The date. -/
  date : DateText
  /-- The time of the day. -/
  clock : ClockText
  day_mem : 1 ≤ digitsValue date.day ∧ digitsValue date.day ≤ daysIn (digitsValue date.month) (digitsValue date.year)

namespace Stamp

/-- What a stamp says that clock and calendar show. -/
def reading (x : Stamp) : Reading where
  date :=
    { year := digitsValue x.date.year
      month := digitsValue x.date.month
      day := digitsValue x.date.day
      month_mem := x.date.month_mem
      day_mem := x.day_mem }
  hour := digitsValue x.clock.hour
  min := digitsValue x.clock.min
  sec := digitsValue x.clock.sec
  nsec := FracText.nsec x.clock.frac
  hour_lt := x.clock.hour_lt
  min_lt := x.clock.min_lt
  sec_lt := x.clock.sec_lt
  nsec_lt := FracText.nsec_lt _

end Stamp

/-- What has been read when date and time of the day have. -/
def stampFields (d : DateText) (c : ClockText) : Fields := (Fields.start.setDate d).setClock c

theorem stampFields_eq (d : DateText) (c : ClockText) : stampFields d c =
    { year := digitsValue d.year
      month := digitsValue d.month
      day := digitsValue d.day
      hour := digitsValue c.hour
      min := digitsValue c.min
      sec := digitsValue c.sec
      nsec := FracText.nsec c.frac
      month_mem := d.month_mem
      hour_lt := c.hour_lt
      min_lt := c.min_lt
      sec_lt := c.sec_lt
      nsec_lt := FracText.nsec_lt _ } := by
  rw [stampFields, Fields.setClock]
  cases c.frac <;> rfl

section Times

variable {lookupName : LookupName} {d : DateText} {c : ClockText} {t : Time}

theorem time_setOffset_iff {o : Option OffsetText} :
    Fields.time lookupName ((stampFields d c).setOffset o) = some t ↔
      ∃ h, t = (Stamp.mk d c h).reading.time - OffsetText.seconds o * second := by
  rw [stampFields_eq]
  cases o with
  | none =>
    simp only [OffsetText.seconds, zero_mul, sub_zero]
    exact Fields.time_eq_some_iff
  | some z => exact Fields.time_eq_some_iff

theorem time_setName_iff {o : Option NameText} :
    Fields.time lookupName ((stampFields d c).setName o) = some t ↔
      ∃ h, t = (Stamp.mk d c h).reading.time -
        NameText.seconds lookupName (Stamp.mk d c h).reading.time o * second := by
  rw [stampFields_eq]
  cases o with
  | none =>
    simp only [NameText.seconds, zero_mul, sub_zero]
    exact Fields.time_eq_some_iff
  | some z =>
    have hzone : ∀ f : Fields, f.utc = false → f.zoneOffset = none → ∀ u : Time,
        Fields.inZone lookupName (f.setName (some z)) u =
          u - (lookupName z.name (unixSec u)).getD 0 * second := by
      intro f hutc hoffset u
      simp only [Fields.inZone, Fields.setName, hutc, hoffset, z.name_ok.ne_nil, Bool.false_eq_true, if_false]
      cases lookupName z.name (unixSec u) with
      | some o => rfl
      | none => simp
    rw [Fields.time_eq_some_iff]
    simp only [hzone, NameText.seconds]
    exact Iff.rfl

end Times

/-! ### What is written -/

/-- The fraction that is written for `n` nanoseconds. -/
def FracText.ofNsec (n : ℕ) (hn : n < 10 ^ 9) : Option FracText :=
  if h : n = 0 then none
  else
    some
      { sep := 46
        digits := (appendInt n 9).rdropWhile (· = 48)
        sep_ok := rfl
        digits_ok := (appendNano_digits hn h).1 }

theorem FracText.text_ofNsec {n : ℕ} (hn : n < 10 ^ 9) : text (ofNsec n hn) = appendNano n := by
  rw [ofNsec, appendNano]
  split_ifs <;> rfl

theorem FracText.nsec_ofNsec {n : ℕ} (hn : n < 10 ^ 9) : nsec (ofNsec n hn) = n := by
  rw [ofNsec]
  split_ifs with h
  · exact h.symm
  · exact (appendNano_digits hn h).2

/-- The years that have four digits. -/
def FourDigits (year : ℤ) : Prop := 0 ≤ year ∧ year ≤ 9999

instance (year : ℤ) : Decidable (FourDigits year) := inferInstanceAs (Decidable (_ ∧ _))

/-- How a date is written. -/
def DateText.ofDate (d : Date) (h : FourDigits d.year) : DateText where
  year := appendInt d.year 4
  month := appendInt d.month 2
  day := appendInt d.day 2
  year_ok := by
    obtain ⟨h0, h1⟩ := h
    rw [← Int.toNat_of_nonneg h0]
    exact digits_appendInt (by omega) (by decide)
  month_ok := digits_appendInt (by have := d.month_mem; omega) (by decide)
  month_mem := by
    rw [digitsValue_appendInt]
    exact d.month_mem
  day_ok := by
    have := d.day_mem
    have := daysIn_le d.month d.year
    exact digits_appendInt (by omega) (by decide)

/-- How a time of the day is written. -/
def ClockText.ofReading (r : Reading) : ClockText where
  hour := appendInt r.hour 2
  min := appendInt r.min 2
  sec := appendInt r.sec 2
  frac := FracText.ofNsec r.nsec r.nsec_lt
  hour_ok := .inl (digits_appendInt (by have := r.hour_lt; omega) (by decide))
  hour_lt := by
    rw [digitsValue_appendInt]
    exact r.hour_lt
  min_ok := digits_appendInt (by have := r.min_lt; omega) (by decide)
  min_lt := by
    rw [digitsValue_appendInt]
    exact r.min_lt
  sec_ok := digits_appendInt (by have := r.sec_lt; omega) (by decide)
  sec_lt := by
    rw [digitsValue_appendInt]
    exact r.sec_lt

theorem format_date (r : Reading) (h : FourDigits r.date.year) :
    dateLayout.flatMap (Chunk.format r) = (DateText.ofDate r.date h).text := by
  simp [dateLayout, Chunk.format, DateText.text, DateText.ofDate]

theorem format_clock (r : Reading) :
    clockLayout.flatMap (Chunk.format r) ++ appendNano r.nsec = (ClockText.ofReading r).text := by
  simp [clockLayout, Chunk.format, ClockText.text, ClockText.ofReading, FracText.text_ofNsec]

/-- How a reading is written. -/
def Stamp.ofReading (r : Reading) (h : FourDigits r.date.year) : Stamp where
  date := .ofDate r.date h
  clock := .ofReading r
  day_mem := by
    have hyear : (digitsValue (appendInt r.date.year 4) : ℤ) = r.date.year := by
      rw [← Int.toNat_of_nonneg h.1, digitsValue_appendInt]
    simp only [DateText.ofDate, digitsValue_appendInt, hyear]
    exact r.date.day_mem

/-- **What is written for a reading stands for it.** -/
theorem Stamp.reading_ofReading (r : Reading) (h : FourDigits r.date.year) : (ofReading r h).reading = r := by
  have hyear : (digitsValue (appendInt r.date.year 4) : ℤ) = r.date.year := by
    rw [← Int.toNat_of_nonneg h.1, digitsValue_appendInt]
  apply Reading.ext
  · apply Date.ext
    · exact hyear
    · exact digitsValue_appendInt _ _
    · exact digitsValue_appendInt _ _
  · exact digitsValue_appendInt _ _
  · exact digitsValue_appendInt _ _
  · exact digitsValue_appendInt _ _
  · exact FracText.nsec_ofNsec r.nsec_lt

theorem year_ne {year : ℤ} (h : ¬ FourDigits year) {x : Bytes} (hx : Digits 4 x) {c : UInt8}
    (hc : isDigit c = false) (s t : Bytes) : appendInt year 4 ++ s ≠ x ++ c :: t := by
  intro heq
  by_cases hneg : year < 0
  · -- it begins with a minus sign
    rw [appendInt, if_pos hneg] at heq
    cases x with
    | nil => cases hx.length_eq
    | cons a x =>
      have ha : isDigit a = true := hx.all a List.mem_cons_self
      have hminus : 45 = a := (List.cons.inj heq).1
      rw [← hminus] at ha
      cases ha
  · -- its fifth character is a digit
    have hyear : 10 ^ 4 ≤ year.toNat := by
      rw [FourDigits] at h
      omega
    rw [← Int.toNat_of_nonneg (Int.not_lt.mp hneg)] at heq
    have hlen := lt_length_appendInt hyear 4
    have hget := congrArg (fun l : Bytes => l[4]?) heq
    simp only [List.getElem?_append_left hlen, List.getElem?_append_right hx.length_eq.le, hx.length_eq,
      Nat.sub_self, List.getElem?_cons_zero] at hget
    have := isDigit_of_appendInt (List.mem_of_getElem? hget)
    exact Bool.false_ne_true (hc.symm.trans this)

end GatewayBridge.Go
