import GatewayBridge.Go.Basic
import Mathlib

/-!
# Clock and calendar

A `time.Time` counts nanoseconds; what it shows in UTC is a date of the Gregorian
calendar, extended to all years, and a time of the day. This module relates the two.

## The model

* `locate` finds a place in consecutive stretches of given lengths: the number of the
  stretch, and how far into it.
* The months of a year are such stretches, so a day of the year is a month and a day.
  `daysBeforeYear` counts the days before a year, `yearOf` finds the year of a day.
* A `Date` has a month and a day that exist, a `Reading` also an hour, a minute, a
  second and a nanosecond that do.

What is proved is that nothing is lost either way: the days are the dates (`Date.equiv`),
and the instants are the readings (`Reading.equiv`).
-/

namespace GatewayBridge.Go

/-! ### Consecutive stretches -/

/-- The stretch that the place `n` is in, and how far into it. -/
def locate : List ℕ → ℕ → ℕ × ℕ
  | [], n => (0, n)
  | l :: ls, n => if n < l then (0, n) else ((locate ls (n - l)).1 + 1, (locate ls (n - l)).2)

/-- The places before the stretch `i`. -/
def before (ls : List ℕ) (i : ℕ) : ℕ := (ls.take i).sum

@[simp] theorem before_zero (ls : List ℕ) : before ls 0 = 0 := rfl

@[simp] theorem before_cons_succ (l : ℕ) (ls : List ℕ) (i : ℕ) :
    before (l :: ls) (i + 1) = l + before ls i := by
  simp [before]

/-- A place within the stretches is where `locate` says. -/
theorem before_locate {ls : List ℕ} {n : ℕ} (h : n < ls.sum) :
    before ls (locate ls n).1 + (locate ls n).2 = n ∧
      ∃ l, ls[(locate ls n).1]? = some l ∧ (locate ls n).2 < l := by
  induction ls generalizing n with
  | nil => simp at h
  | cons l ls ih =>
    rw [locate]
    split_ifs with hn
    · exact ⟨by simp, l, rfl, hn⟩
    · rw [List.sum_cons] at h
      obtain ⟨hb, l', hl', hlt⟩ := ih (n := n - l) (by omega)
      refine ⟨?_, l', by simpa using hl', hlt⟩
      rw [before_cons_succ]
      omega

/-- `locate` finds the place so far into the stretch `i`. -/
theorem locate_before {ls : List ℕ} {i j l : ℕ} (hl : ls[i]? = some l) (hj : j < l) :
    locate ls (before ls i + j) = (i, j) := by
  induction ls generalizing i with
  | nil => simp at hl
  | cons l' ls ih =>
    cases i with
    | zero =>
      rw [List.getElem?_cons_zero, Option.some.injEq] at hl
      subst hl
      rw [before_zero, Nat.zero_add, locate, if_pos hj]
    | succ i =>
      rw [List.getElem?_cons_succ] at hl
      rw [before_cons_succ, locate, if_neg (by omega)]
      have hsub : l' + before ls i + j - l' = before ls i + j := by omega
      rw [hsub, ih hl]

theorem before_add_lt_sum {ls : List ℕ} {i j l : ℕ} (hl : ls[i]? = some l) (hj : j < l) :
    before ls i + j < ls.sum := by
  induction ls generalizing i with
  | nil => simp at hl
  | cons l' ls ih =>
    rw [List.sum_cons]
    cases i with
    | zero =>
      rw [List.getElem?_cons_zero, Option.some.injEq] at hl
      rw [before_zero]
      omega
    | succ i =>
      rw [List.getElem?_cons_succ] at hl
      have := ih hl
      rw [before_cons_succ]
      omega

/-! ### Years and months -/

/-- `isLeap`. -/
def isLeap (year : ℤ) : Bool := year % 4 = 0 ∧ (year % 100 ≠ 0 ∨ year % 400 = 0)

/-- The lengths of the months. -/
def months (leap : Bool) : List ℕ := [31, if leap then 29 else 28, 31, 30, 31, 30, 31, 31, 30, 31, 30, 31]

/-- `daysIn`: 0 for what is not a month. -/
def daysIn (month : ℕ) (year : ℤ) : ℕ := ((months (isLeap year))[month - 1]?).getD 0

theorem daysIn_le (month : ℕ) (year : ℤ) : daysIn month year ≤ 31 := by
  have hall : ∀ b, ∀ l ∈ months b, l ≤ 31 := by decide
  rw [daysIn]
  cases hm : (months (isLeap year))[month - 1]? with
  | none => exact Nat.zero_le _
  | some l => exact hall _ l (List.mem_of_getElem? hm)

/-- The days of a year. -/
def daysOfYear (year : ℤ) : ℕ := (months (isLeap year)).sum

theorem daysOfYear_eq (year : ℤ) : daysOfYear year = if isLeap year then 366 else 365 := by
  rw [daysOfYear]
  cases isLeap year <;> rfl

/-- A month has as many days as `daysIn` says. -/
theorem getElem?_months {month : ℕ} (hm : 1 ≤ month ∧ month ≤ 12) (year : ℤ) :
    (months (isLeap year))[month - 1]? = some (daysIn month year) := by
  have hlt : month - 1 < (months (isLeap year)).length := by
    simp only [months, List.length_cons, List.length_nil]
    omega
  rw [daysIn, List.getElem?_eq_getElem hlt, Option.getD_some]

/-- The days from the beginning of the year 1 to that of `year`. -/
def daysBeforeYear (year : ℤ) : ℤ := 365 * (year - 1) + (year - 1) / 4 - (year - 1) / 100 + (year - 1) / 400

theorem daysBeforeYear_succ (year : ℤ) :
    daysBeforeYear (year + 1) = daysBeforeYear year + daysOfYear year := by
  rw [daysOfYear_eq]
  simp only [daysBeforeYear, isLeap, decide_eq_true_eq]
  split_ifs <;> push_cast <;> omega

/-- Later years begin later. -/
theorem daysBeforeYear_mono : Monotone daysBeforeYear := by
  intro y y' h
  simp only [daysBeforeYear]
  omega

/-- The days before a year, when the years since the year 1 are counted in cycles. -/
theorem daysBeforeYear_cycles {a b c e : ℤ} (hb : 0 ≤ b ∧ b ≤ 3) (hc : 0 ≤ c ∧ c ≤ 24) (he : 0 ≤ e ∧ e ≤ 3) :
    daysBeforeYear (400 * a + 100 * b + 4 * c + e + 1) = 146097 * a + 36524 * b + 1461 * c + 365 * e := by
  have h4 : (400 * a + 100 * b + 4 * c + e + 1 - 1) / 4 = 100 * a + 25 * b + c := by omega
  have h100 : (400 * a + 100 * b + 4 * c + e + 1 - 1) / 100 = 4 * a + b := by omega
  have h400 : (400 * a + 100 * b + 4 * c + e + 1 - 1) / 400 = a := by omega
  rw [daysBeforeYear, h4, h100, h400]
  omega

/-- The year of a day, counted from the beginning of the year 1: whole cycles of 400, 100,
4 years and of one year are taken off, the last of the shorter cycles being a day longer. -/
def yearOf (day : ℤ) : ℤ :=
  let d := day % 146097
  let n100 := min 3 (d / 36524)
  let d := d - 36524 * n100
  let n4 := d / 1461
  let d := d % 1461
  400 * (day / 146097) + 100 * n100 + 4 * n4 + min 3 (d / 365) + 1

/-- The cycles that `yearOf` takes off, and what is left of the day. -/
theorem yearOf_cycles (day : ℤ) :
    ∃ a b c e r : ℤ, (0 ≤ b ∧ b ≤ 3) ∧ (0 ≤ c ∧ c ≤ 24) ∧ (0 ≤ e ∧ e ≤ 3) ∧
      yearOf day = 400 * a + 100 * b + 4 * c + e + 1 ∧
      day = 146097 * a + 36524 * b + 1461 * c + 365 * e + r ∧ 0 ≤ r ∧
      r ≤ if e = 3 ∧ (c ≠ 24 ∨ b = 3) then 365 else 364 := by
  obtain ⟨b, hb⟩ : ∃ b, min 3 (day % 146097 / 36524) = b := ⟨_, rfl⟩
  have hb' : 0 ≤ b ∧ b ≤ 3 ∧ 36524 * b ≤ day % 146097 ∧ (b = 3 ∨ day % 146097 < 36524 * b + 36524) := by
    omega
  obtain ⟨d, hd⟩ : ∃ d, day % 146097 - 36524 * b = d := ⟨_, rfl⟩
  obtain ⟨e, he⟩ : ∃ e, min 3 (d % 1461 / 365) = e := ⟨_, rfl⟩
  have he' : 0 ≤ e ∧ e ≤ 3 ∧ 365 * e ≤ d % 1461 ∧ (e = 3 ∨ d % 1461 < 365 * e + 365) := by omega
  refine ⟨day / 146097, b, d / 1461, e, d % 1461 - 365 * e, by omega, by omega, by omega, ?_, by omega,
    by omega, ?_⟩
  · simp only [yearOf, hb, hd, he]
  · split_ifs <;> omega

/-- A day is within its year. -/
theorem yearOf_spec (day : ℤ) :
    daysBeforeYear (yearOf day) ≤ day ∧ day < daysBeforeYear (yearOf day + 1) := by
  obtain ⟨a, b, c, e, r, hb, hc, he, hyear, rfl, hr, hr'⟩ := yearOf_cycles day
  rw [daysBeforeYear_succ, daysOfYear_eq, hyear, daysBeforeYear_cycles hb hc he]
  constructor
  · omega
  · have hleap : isLeap (400 * a + 100 * b + 4 * c + e + 1) = true ↔ e = 3 ∧ (c ≠ 24 ∨ b = 3) := by
      simp only [isLeap, decide_eq_true_eq]
      omega
    simp only [hleap]
    split_ifs at hr' ⊢ <;> push_cast <;> omega

/-- The year of a day is the one that the day is within. -/
theorem yearOf_eq {year day : ℤ} (h : daysBeforeYear year ≤ day) (h' : day < daysBeforeYear (year + 1)) :
    yearOf day = year := by
  obtain ⟨hs, hs'⟩ := yearOf_spec day
  have hle : ¬ yearOf day + 1 ≤ year := fun hlt => by
    have := daysBeforeYear_mono hlt
    omega
  have hge : ¬ year + 1 ≤ yearOf day := fun hlt => by
    have := daysBeforeYear_mono hlt
    omega
  omega

/-! ### Dates -/

/-- A date that exists. -/
@[ext] structure Date where
  /-- The year. -/
  year : ℤ
  /-- The month. -/
  month : ℕ
  /-- The day of the month. -/
  day : ℕ
  /-- There are twelve months. -/
  month_mem : 1 ≤ month ∧ month ≤ 12
  /-- The month has the day. -/
  day_mem : 1 ≤ day ∧ day ≤ daysIn month year
  deriving DecidableEq

/-- The days from the beginning of the year 1 to the Unix epoch. -/
def unixEpoch : ℤ := 719162

namespace Date

/-- How many days of the year are before the date. -/
def yday (d : Date) : ℕ := before (months (isLeap d.year)) (d.month - 1) + (d.day - 1)

/-- The days from the Unix epoch to the date. -/
def unixDay (d : Date) : ℤ := daysBeforeYear d.year + d.yday - unixEpoch

theorem yday_lt (d : Date) : d.yday < daysOfYear d.year :=
  before_add_lt_sum (getElem?_months d.month_mem d.year) (by have := d.day_mem; omega)

/-- The date of a day of the year `year`. -/
def ofYday (year : ℤ) (yday : ℕ) (h : yday < daysOfYear year) : Date where
  year := year
  month := (locate (months (isLeap year)) yday).1 + 1
  day := (locate (months (isLeap year)) yday).2 + 1
  month_mem := by
    obtain ⟨-, l, hl, -⟩ := before_locate h
    have hlt : (locate (months (isLeap year)) yday).1 < 12 := (List.getElem?_eq_some_iff.mp hl).1
    omega
  day_mem := by
    obtain ⟨-, l, hl, hlt⟩ := before_locate h
    rw [daysIn, Nat.add_sub_cancel, hl, Option.getD_some]
    omega

theorem yday_ofYday {year : ℤ} {yday : ℕ} (h : yday < daysOfYear year) : (ofYday year yday h).yday = yday :=
  (before_locate h).1

theorem ofYday_yday (d : Date) : ofYday d.year d.yday d.yday_lt = d := by
  have hday := d.day_mem
  have hmonth := d.month_mem
  have hloc : locate (months (isLeap d.year)) d.yday = (d.month - 1, d.day - 1) :=
    locate_before (getElem?_months hmonth d.year) (by omega)
  apply Date.ext
  · rfl
  · change (locate (months (isLeap d.year)) d.yday).1 + 1 = d.month
    rw [hloc]
    exact Nat.sub_add_cancel hmonth.1
  · change (locate (months (isLeap d.year)) d.yday).2 + 1 = d.day
    rw [hloc]
    exact Nat.sub_add_cancel hday.1

theorem ofYday_congr {year year' : ℤ} {yday yday' : ℕ} (h : yday < daysOfYear year)
    (h' : yday' < daysOfYear year') (hyear : year = year') (hyday : yday = yday') :
    ofYday year yday h = ofYday year' yday' h' := by
  subst hyear hyday
  rfl

theorem yday_of_yearOf (day : ℤ) :
    (day - daysBeforeYear (yearOf day)).toNat < daysOfYear (yearOf day) := by
  have h := yearOf_spec day
  rw [daysBeforeYear_succ] at h
  omega

/-- The date that many days from the Unix epoch. -/
def ofUnixDay (n : ℤ) : Date :=
  let day := n + unixEpoch
  ofYday (yearOf day) (day - daysBeforeYear (yearOf day)).toNat (yday_of_yearOf day)

theorem unixDay_ofUnixDay (n : ℤ) : (ofUnixDay n).unixDay = n := by
  have h := (yearOf_spec (n + unixEpoch)).1
  have hyear : (ofUnixDay n).year = yearOf (n + unixEpoch) := rfl
  rw [unixDay, hyear, ofUnixDay, yday_ofYday]
  omega

theorem ofUnixDay_unixDay (d : Date) : ofUnixDay d.unixDay = d := by
  have hlt := d.yday_lt
  have hday : d.unixDay + unixEpoch = daysBeforeYear d.year + d.yday := by
    rw [unixDay]
    omega
  have hyear : yearOf (d.unixDay + unixEpoch) = d.year := by
    apply yearOf_eq
    · omega
    · rw [daysBeforeYear_succ]
      omega
  have hyday : (d.unixDay + unixEpoch - daysBeforeYear d.year).toNat = d.yday := by omega
  calc ofUnixDay d.unixDay
    _ = ofYday d.year d.yday d.yday_lt := ofYday_congr (yday_of_yearOf _) d.yday_lt hyear (by rw [hyear, hyday])
    _ = d := ofYday_yday d

/-- **The days are the dates.** -/
def equiv : Date ≃ ℤ where
  toFun := unixDay
  invFun := ofUnixDay
  left_inv := ofUnixDay_unixDay
  right_inv := unixDay_ofUnixDay

end Date

/-! ### Readings -/

/-- `time.Second`. -/
def second : ℤ := 10 ^ 9

/-- `t.Unix()`: the whole seconds. -/
def unixSec (t : Time) : ℤ := t / second

/-- `t.Nanosecond()`: what is left of the last second. -/
def nanosecond (t : Time) : ℕ := (t % second).toNat

theorem nanosecond_lt (t : Time) : nanosecond t < 10 ^ 9 := by
  have hlt : (t : ℤ) % second < second := Int.emod_lt_of_pos t (by decide)
  rw [second] at hlt
  rw [nanosecond, second]
  omega

theorem unixSec_mul_add (t : Time) : unixSec t * second + nanosecond t = t := by
  have hn : 0 ≤ (t : ℤ) % second := Int.emod_nonneg t (by decide)
  rw [nanosecond, Int.toNat_of_nonneg hn]
  exact Int.ediv_mul_add_emod t second

theorem unixSec_of {s : ℤ} {n : ℕ} (h : n < 10 ^ 9) : unixSec (s * second + n) = s := by
  rw [unixSec, second]
  omega

theorem nanosecond_of {s : ℤ} {n : ℕ} (h : n < 10 ^ 9) : nanosecond (s * second + n) = n := by
  rw [nanosecond, second]
  omega

/-- What clock and calendar show in UTC. -/
@[ext] structure Reading where
  /-- The date. -/
  date : Date
  /-- The hour. -/
  hour : ℕ
  /-- The minute. -/
  min : ℕ
  /-- The second. -/
  sec : ℕ
  /-- The nanosecond. -/
  nsec : ℕ
  hour_lt : hour < 24
  min_lt : min < 60
  sec_lt : sec < 60
  nsec_lt : nsec < 10 ^ 9
  deriving DecidableEq

namespace Reading

/-- `time.Date(…, time.UTC)`: the instant. -/
def time (r : Reading) : Time :=
  (r.date.unixDay * 86400 + r.hour * 3600 + r.min * 60 + r.sec) * second + r.nsec

/-- What clock and calendar show at the instant `t`. -/
def ofTime (t : Time) : Reading where
  date := .ofUnixDay (unixSec t / 86400)
  hour := (unixSec t % 86400 / 3600).toNat
  min := (unixSec t % 3600 / 60).toNat
  sec := (unixSec t % 60).toNat
  nsec := nanosecond t
  hour_lt := by omega
  min_lt := by omega
  sec_lt := by omega
  nsec_lt := nanosecond_lt t

theorem time_ofTime (t : Time) : (ofTime t).time = t := by
  have hsecs : unixSec t / 86400 * 86400 + (unixSec t % 86400 / 3600).toNat * 3600 +
      (unixSec t % 3600 / 60).toNat * 60 + (unixSec t % 60).toNat = unixSec t := by
    omega
  simp only [time, ofTime, Date.unixDay_ofUnixDay, hsecs, unixSec_mul_add]

theorem ofTime_time (r : Reading) : ofTime r.time = r := by
  have hh := r.hour_lt
  have hm := r.min_lt
  have hs := r.sec_lt
  have hsecs : unixSec r.time = r.date.unixDay * 86400 + r.hour * 3600 + r.min * 60 + r.sec :=
    unixSec_of r.nsec_lt
  apply Reading.ext
  · have hday : (r.date.unixDay * 86400 + r.hour * 3600 + r.min * 60 + r.sec) / 86400 = r.date.unixDay := by
      omega
    simp only [ofTime, hsecs, hday, Date.ofUnixDay_unixDay]
  · simp only [ofTime, hsecs]
    omega
  · simp only [ofTime, hsecs]
    omega
  · simp only [ofTime, hsecs]
    omega
  · exact nanosecond_of r.nsec_lt

/-- **The instants are the readings.** -/
def equiv : Reading ≃ Time where
  toFun := time
  invFun := ofTime
  left_inv := ofTime_time
  right_inv := time_ofTime

/-- The reading at the beginning of its second. -/
def beginning (r : Reading) : Reading := { r with nsec := 0, nsec_lt := by decide }

theorem time_beginning (r : Reading) : r.beginning.time = unixSec r.time * second := by
  have hsecs : unixSec r.time = r.date.unixDay * 86400 + r.hour * 3600 + r.min * 60 + r.sec :=
    unixSec_of r.nsec_lt
  rw [hsecs, beginning, time, Nat.cast_zero, add_zero]

end Reading

example : (Reading.ofTime (1400000000 * second)).date.year = 2014 := by decide +kernel

end GatewayBridge.Go
