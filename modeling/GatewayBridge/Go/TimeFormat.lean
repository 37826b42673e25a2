import GatewayBridge.Go.Calendar
import GatewayBridge.Go.Decimal

/-!
# `time.Format` and `time.Parse`

A layout is a sequence of chunks: literal text, and elements such as `2006` that stand
for a part of the reading of clock and calendar. `format` writes an instant in UTC
according to a layout, `parse` reads one. Both are those of package `time`, for the
elements that the code uses; an error of `Parse` is `none`.

## What parsing allows

`parse` accepts more than `format` writes: an hour may have one digit, a fraction may
follow the seconds even where the layout has none, with a comma or a point and with any
number of digits, of which nine count, and a space of the layout stands for any number of
spaces. An offset may be as large as `24:60`. A zone name that the local zone does not know
is read as UTC (`Fields.inZone`).
-/

namespace GatewayBridge.Go

/-! ### Layouts -/

/-- A chunk of a layout. -/
inductive Chunk where
  /-- Text. -/
  | text (s : Bytes)
  /-- `stdLongYear`. -/
  | longYear
  /-- `stdZeroMonth`. -/
  | zeroMonth
  /-- `stdZeroDay`. -/
  | zeroDay
  /-- `stdHour`. -/
  | hour
  /-- `stdZeroMinute`. -/
  | zeroMinute
  /-- `stdZeroSecond`. -/
  | zeroSecond
  /-- `stdFracSecond9`, with nine digits. -/
  | fracSecond9
  /-- `stdISO8601ColonTZ`. -/
  | iso8601ColonTZ
  /-- `stdTZ`. -/
  | tz
  deriving DecidableEq

/-- How a chunk is spelt in a layout. -/
def Chunk.spelling : Chunk → Bytes
  | text s => s
  | longYear => str "2006"
  | zeroMonth => str "01"
  | zeroDay => str "02"
  | hour => str "15"
  | zeroMinute => str "04"
  | zeroSecond => str "05"
  | fracSecond9 => str ".999999999"
  | iso8601ColonTZ => str "Z07:00"
  | tz => str "MST"

/-- A layout, as `nextStdChunk` cuts it. -/
abbrev Layout := List Chunk

/-! ### Formatting -/

/-- `appendInt`: at least `width` digits. -/
def appendInt (x : ℤ) (width : ℕ) : Bytes :=
  (if x < 0 then [45] else []) ++ List.replicate (width - (formatNat x.natAbs).length) 48 ++
    formatNat x.natAbs

/-- `appendNano` for `.999999999`: no trailing zeros, and nothing at all for zero. -/
def appendNano (n : ℕ) : Bytes :=
  if n = 0 then [] else 46 :: (appendInt n 9).rdropWhile (· = 48)

theorem appendInt_natCast (n width : ℕ) :
    appendInt n width = List.replicate (width - (formatNat n).length) 48 ++ formatNat n := by
  rw [appendInt, if_neg (Int.not_lt.mpr (Int.natCast_nonneg n)), List.nil_append, Int.natAbs_natCast]

/-- Nothing but digits is written for a natural number. -/
theorem isDigit_of_appendInt {n width : ℕ} {c : UInt8} (hc : c ∈ appendInt n width) : isDigit c = true := by
  rw [appendInt_natCast] at hc
  obtain hc | hc := List.mem_append.mp hc
  · rw [List.eq_of_mem_replicate hc]
    rfl
  · exact (numeral_formatNat n).2 c hc

/-- A number of at most `width` digits is written with exactly so many. -/
theorem digits_appendInt {n width : ℕ} (hn : n < 10 ^ width) (hw : 0 < width) :
    Digits width (appendInt n width) := by
  have hlen : (formatNat n).length ≤ width := by
    rw [formatNat]
    split_ifs
    · exact hw
    · rw [List.length_map, List.length_reverse, Nat.digits_length_le_iff (by decide)]
      exact hn
  refine ⟨?_, fun c hc => isDigit_of_appendInt hc⟩
  rw [appendInt_natCast, List.length_append, List.length_replicate, Nat.sub_add_cancel hlen]

/-- `appendInt` writes the number. -/
theorem digitsValue_appendInt (n width : ℕ) : digitsValue (appendInt n width) = n := by
  rw [appendInt_natCast, digitsValue_append, digitsValue_replicate_zero, Nat.zero_mul, Nat.zero_add,
    digitsValue_formatNat]

theorem lt_length_appendInt {n k : ℕ} (hn : 10 ^ k ≤ n) (width : ℕ) : k < (appendInt n width).length := by
  by_contra hle
  have hlt := (Digits.mk rfl fun c hc => isDigit_of_appendInt hc : Digits _ (appendInt n width)).lt
  rw [digitsValue_appendInt] at hlt
  have := Nat.pow_le_pow_right (n := 10) (by decide) (Nat.not_lt.mp hle)
  omega

/-- What a chunk becomes, in UTC. -/
def Chunk.format (r : Reading) : Chunk → Bytes
  | text s => s
  | longYear => appendInt r.date.year 4
  | zeroMonth => appendInt r.date.month 2
  | zeroDay => appendInt r.date.day 2
  | hour => appendInt r.hour 2
  | zeroMinute => appendInt r.min 2
  | zeroSecond => appendInt r.sec 2
  | fracSecond9 => appendNano r.nsec
  | iso8601ColonTZ => str "Z"
  | tz => str "UTC"

/-- `t.UTC().Format(layout)`. -/
def format (layout : Layout) (t : Time) : Bytes := layout.flatMap (Chunk.format (.ofTime t))

/-! ### Parsing -/

/-- `cutspace`. -/
def cutspace (s : Bytes) : Bytes := s.dropWhile (· = 32)

/-- `skip`: the text `p` of the layout, at the start of `s`. -/
def skip (s : Bytes) : Bytes → Option Bytes
  | [] => some s
  | c :: p =>
      if c = 32 then
        if s ≠ [] ∧ s.head? ≠ some 32 then none else skip (cutspace s) (cutspace p)
      else if s.head? = some c then skip s.tail p else none
  termination_by p => p.length
  decreasing_by
    · exact Nat.lt_succ_of_le (List.dropWhile_sublist _).length_le
    · exact Nat.lt_succ_self _

/-- `isDigit(s, i)`. -/
def digitAt (s : Bytes) (i : ℕ) : Bool := s[i]?.any isDigit

/-- `getnum`: a number of two digits, or of one. -/
def getnum (s : Bytes) (fixed : Bool) : Option (ℕ × Bytes) :=
  if digitAt s 0 then
    if digitAt s 1 then some (digitsValue (s.take 2), s.drop 2)
    else if fixed then none else some (digitsValue (s.take 1), s.drop 1)
  else none

/-- `commaOrPeriod`. -/
def commaOrPeriod (c : UInt8) : Bool := c = 46 || c = 44

/-- `parseNanoseconds`, of the digits after the point: the first nine count. -/
def parseNanoseconds (ds : Bytes) : ℕ := digitsValue (ds.take 9) * 10 ^ (9 - (ds.take 9).length)

/-- A fraction of a second, and what follows; `none` where there is none. -/
def fraction : Bytes → Option (ℕ × Bytes)
  | [] => none
  | c :: s =>
      if commaOrPeriod c then (digits s).map fun (ds, s') => (parseNanoseconds ds, s') else none

theorem parseNanoseconds_lt {ds : Bytes} (h : ∀ c ∈ ds, isDigit c = true) : parseNanoseconds ds < 10 ^ 9 := by
  have htake : Digits (ds.take 9).length (ds.take 9) := ⟨rfl, fun c hc => h c (List.mem_of_mem_take hc)⟩
  have hlen : (ds.take 9).length ≤ 9 := by simp
  calc parseNanoseconds ds
    _ < 10 ^ (ds.take 9).length * 10 ^ (9 - (ds.take 9).length) :=
      Nat.mul_lt_mul_of_pos_right htake.lt (Nat.pow_pos (by decide))
    _ = 10 ^ 9 := by rw [← pow_add, Nat.add_sub_cancel' hlen]

/-- A fraction without its trailing zeros. -/
theorem parseNanoseconds_trimmed {ds : Bytes} {k : ℕ} (h : Digits 9 (ds ++ List.replicate k 48)) :
    parseNanoseconds ds = digitsValue (ds ++ List.replicate k 48) := by
  have hlen : ds.length + k = 9 := by
    rw [← List.length_replicate (n := k) (a := (48 : UInt8)), ← List.length_append, h.length_eq]
  have htake : ds.take 9 = ds := List.take_of_length_le (by omega)
  have hk : 9 - ds.length = k := by omega
  rw [parseNanoseconds, htake, hk, digitsValue_append, digitsValue_replicate_zero, List.length_replicate,
    Nat.add_zero]

theorem exists_rdropWhile (s : Bytes) : ∃ k, s = s.rdropWhile (· = 48) ++ List.replicate k 48 := by
  induction s using List.reverseRecOn with
  | nil => exact ⟨0, rfl⟩
  | append_singleton s c ih =>
    by_cases hc : c = 48
    · obtain ⟨k, hk⟩ := ih
      refine ⟨k + 1, ?_⟩
      rw [List.rdropWhile_concat_pos _ _ _ (by simpa using hc), List.replicate_succ', ← List.append_assoc,
        ← hk, hc]
    · refine ⟨0, ?_⟩
      rw [List.rdropWhile_concat_neg _ _ _ (by simpa using hc), List.replicate_zero, List.append_nil]

/-- The digits that `appendNano` writes for `n` nanoseconds stand for them. -/
theorem appendNano_digits {n : ℕ} (hn : n < 10 ^ 9) (hne : n ≠ 0) :
    Numeral ((appendInt n 9).rdropWhile (· = 48)) ∧
      parseNanoseconds ((appendInt n 9).rdropWhile (· = 48)) = n := by
  have hdigits := digits_appendInt hn (by decide : 0 < 9)
  have hvalue := digitsValue_appendInt n 9
  obtain ⟨k, hk⟩ := exists_rdropWhile (appendInt n 9)
  generalize (appendInt n 9).rdropWhile (· = 48) = ds at hk ⊢
  rw [hk] at hdigits hvalue
  refine ⟨⟨?_, fun c hc => hdigits.all c (List.mem_append_left _ hc)⟩, ?_⟩
  · rintro rfl
    rw [List.nil_append, digitsValue_replicate_zero] at hvalue
    exact hne hvalue.symm
  · rw [parseNanoseconds_trimmed hdigits, hvalue]

theorem fraction_iff {c : UInt8} {s s' : Bytes} {n : ℕ} : fraction (c :: s) = some (n, s') ↔
    commaOrPeriod c = true ∧ ∃ ds, s = ds ++ s' ∧ Numeral ds ∧ NoDigit s' ∧ n = parseNanoseconds ds := by
  rw [fraction]
  split_ifs with hc
  · rw [Option.map_eq_some_iff]
    constructor
    · rintro ⟨⟨ds, t⟩, hd, h⟩
      cases h
      obtain ⟨hs, hds, hno⟩ := digits_eq_some_iff.mp hd
      exact ⟨hc, ds, hs, hds, hno, rfl⟩
    · rintro ⟨-, ds, hs, hds, hno, rfl⟩
      exact ⟨(ds, s'), digits_eq_some_iff.mpr ⟨hs, hds, hno⟩, rfl⟩
  · exact iff_of_false nofun fun h => hc h.1

theorem fraction_lt {s s' : Bytes} {n : ℕ} (h : fraction s = some (n, s')) : n < 10 ^ 9 := by
  cases s with
  | nil => cases h
  | cons c s =>
    obtain ⟨-, ds, -, hds, -, rfl⟩ := fraction_iff.mp h
    exact parseNanoseconds_lt hds.2

/-- `parseSignedOffset`: the length of an offset in hours, 0 if there is none. A number too
large for `leadingInt` is larger than 23 as well. -/
def parseSignedOffset : Bytes → ℕ
  | [] => 0
  | sign :: s =>
      let ds := s.takeWhile isDigit
      if (sign = 43 ∨ sign = 45) ∧ ds ≠ [] ∧ digitsValue ds ≤ 23 then 1 + ds.length else 0

/-- `'A' <= c && c <= 'Z'`. -/
def isUpper (c : UInt8) : Bool := 65 ≤ c && c ≤ 90

/-- The letters that `parseTimeZone` counts: at least three, at most five. -/
def lettersZone (s : Bytes) : Option ℕ :=
  match ((s.take 6).takeWhile isUpper).length with
  | 5 => if s[4]? = some 84 then some 5 else none
  | 4 => if s[3]? = some 84 ∨ s.take 4 = str "WITA" then some 4 else none
  | 3 => some 3
  | _ => none

/-- `parseTimeZone`: the length of the zone name at the start. -/
def parseTimeZone (s : Bytes) : Option ℕ :=
  if s.length < 3 then none
  else if s.take 4 = str "ChST" ∨ s.take 4 = str "MeST" then some 4
  else if s.take 3 = str "GMT" then some (3 + parseSignedOffset (s.drop 3))
  else if s.head? = some 43 ∨ s.head? = some 45 then
    if parseSignedOffset s = 0 then none else some (parseSignedOffset s)
  else lettersZone s

/-- What `parse` has read so far: each part that it has checked is in range. -/
structure Fields where
  /-- `year`. -/
  year : ℕ
  /-- `month`. -/
  month : ℕ
  /-- `day`. -/
  day : ℕ
  /-- `hour`. -/
  hour : ℕ
  /-- `min`. -/
  min : ℕ
  /-- `sec`. -/
  sec : ℕ
  /-- `nsec`. -/
  nsec : ℕ
  /-- `z` is `UTC`. -/
  utc : Bool := false
  /-- `zoneOffset`, in seconds. -/
  zoneOffset : Option ℤ := none
  /-- `zoneName`. -/
  zoneName : Bytes := []
  month_mem : 1 ≤ month ∧ month ≤ 12
  hour_lt : hour < 24
  min_lt : min < 60
  sec_lt : sec < 60
  nsec_lt : nsec < 10 ^ 9

theorem january_mem : 1 ≤ 1 ∧ 1 ≤ 12 := by decide

theorem midnight_lt : 0 < 24 := by decide

theorem zero_lt_sixty : 0 < 60 := by decide

theorem zero_lt_nanoseconds : 0 < 10 ^ 9 := by decide

/-- Nothing has been read. A month or a day that the layout does not have is the first. -/
def Fields.start : Fields where
  year := 0
  month := 1
  day := 1
  hour := 0
  min := 0
  sec := 0
  nsec := 0
  month_mem := january_mem
  hour_lt := midnight_lt
  min_lt := zero_lt_sixty
  sec_lt := zero_lt_sixty
  nsec_lt := zero_lt_nanoseconds

/-- What has been read is a reading, if the month has the day. -/
def Fields.reading (f : Fields) (h : 1 ≤ f.day ∧ f.day ≤ daysIn f.month f.year) : Reading where
  date := { year := f.year, month := f.month, day := f.day, month_mem := f.month_mem, day_mem := h }
  hour := f.hour
  min := f.min
  sec := f.sec
  nsec := f.nsec
  hour_lt := f.hour_lt
  min_lt := f.min_lt
  sec_lt := f.sec_lt
  nsec_lt := f.nsec_lt

/-- The fraction at the start of `s`, if there is one, and what follows. -/
def Fields.readFraction (f : Fields) (s : Bytes) : Fields × Bytes :=
  match h : fraction s with
  | some (n, s') => ({ f with nsec := n, nsec_lt := fraction_lt h }, s')
  | none => (f, s)

/-- An offset of the zone, such as `+02:00`, with its value in seconds. -/
def colonOffset : Bytes → Option (ℤ × Bytes)
  | sign :: h₁ :: h₀ :: colon :: m₁ :: m₀ :: s =>
      match getnum [h₁, h₀] true, getnum [m₁, m₀] true with
      | some (hr, _), some (mm, _) =>
          -- the comparisons are not strict: some write 24 hours or 60 minutes
          if colon = 58 ∧ hr ≤ 24 ∧ mm ≤ 60 then
            if sign = 43 then some ((hr * 60 + mm) * 60, s)
            else if sign = 45 then some (-((hr * 60 + mm) * 60), s)
            else none
          else none
      | _, _ => none
  | _ => none

/-- The layout goes on with a fraction of a second, whatever the text before it. -/
def nextFrac : Layout → Bool
  | [] => false
  | .text _ :: layout => nextFrac layout
  | c :: _ => c = .fracSecond9

/-- A number of the layout, and what becomes of it if it is in range. -/
def readNumber (s : Bytes) (fixed : Bool) (P : ℕ → Prop) [DecidablePred P] (k : ∀ n, P n → Fields) :
    Option (Fields × Bytes) :=
  (getnum s fixed).bind fun (n, s') => if h : P n then some (k n h, s') else none

/-- One round of the loop of `parse`: what a chunk takes from the start of `s`, and what
follows. `layout` is the rest of the layout. -/
def Chunk.read (layout : Layout) (f : Fields) (s : Bytes) : Chunk → Option (Fields × Bytes)
  | text p => (skip s p).map fun s' => (f, s')
  | longYear =>
      if s.length < 4 ∨ digitAt s 0 = false then none
      else
        match atoi (s.take 4) with
        | .ok y => some ({ f with year := y.toNat }, s.drop 4)
        | .error _ => none
  | zeroMonth =>
      readNumber s true (fun n => 1 ≤ n ∧ n ≤ 12) fun n h => { f with month := n, month_mem := h }
  | zeroDay => readNumber s true (fun _ => True) fun n _ => { f with day := n }
  | hour => readNumber s false (· < 24) fun n h => { f with hour := n, hour_lt := h }
  | zeroMinute => readNumber s true (· < 60) fun n h => { f with min := n, min_lt := h }
  | zeroSecond =>
      (readNumber s true (· < 60) fun n h => { f with sec := n, sec_lt := h }).map fun (f, s') =>
        -- the layout has no fraction, but the text may
        if nextFrac layout then (f, s') else f.readFraction s'
  | fracSecond9 => some (f.readFraction s)
  | iso8601ColonTZ =>
      if s.head? = some 90 then some ({ f with utc := true }, s.tail)
      else (colonOffset s).map fun (offset, s') => ({ f with zoneOffset := some offset }, s')
  | tz =>
      if s.take 3 = str "UTC" then some ({ f with utc := true }, s.drop 3)
      else (parseTimeZone s).map fun n => ({ f with zoneName := s.take n }, s.drop n)

/-- The loop of `parse`. -/
def parseChunks : Layout → Fields → Bytes → Option Fields
  | [], f, s => if s = [] then some f else none
  | c :: layout, f, s => (c.read layout f s).bind fun (f', s') => parseChunks layout f' s'

/-- `local.lookupName`: the offset of a zone name at that time, if the local zone has the name. -/
abbrev LookupName := Bytes → ℤ → Option ℤ

/-- The instant of a reading in the zone that has been read. A name that the local zone does
not know changes only how the instant is shown. -/
def Fields.inZone (lookupName : LookupName) (f : Fields) (t : Time) : Time :=
  if f.utc then t
  else
    match f.zoneOffset with
    | some offset => t - offset * second
    | none =>
        if f.zoneName = [] then t
        else
          match lookupName f.zoneName (unixSec t) with
          | some offset => t - offset * second
          | none => t

/-- The end of `parse`: the instant, if the month has the day. -/
def Fields.time (lookupName : LookupName) (f : Fields) : Option Time :=
  if h : 1 ≤ f.day ∧ f.day ≤ daysIn f.month f.year then some (f.inZone lookupName (f.reading h).time) else none

theorem Fields.time_eq_some_iff {lookupName : LookupName} {f : Fields} {t : Time} :
    f.time lookupName = some t ↔ ∃ h, t = f.inZone lookupName (f.reading h).time := by
  rw [Fields.time]
  split_ifs with h
  · rw [Option.some.injEq, eq_comm]
    exact ⟨fun ht => ⟨h, ht⟩, fun ⟨_, ht⟩ => ht⟩
  · refine iff_of_false nofun ?_
    rintro ⟨h', -⟩
    exact h h'

/-- `time.Parse`. -/
def parse (lookupName : LookupName) (layout : Layout) (s : Bytes) : Option Time :=
  (parseChunks layout .start s).bind (Fields.time lookupName)

end GatewayBridge.Go
