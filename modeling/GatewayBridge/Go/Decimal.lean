import GatewayBridge.Go.Strconv
import Mathlib.Data.List.Induction
import Mathlib.Tactic.Ring

/-!
# Decimal numbers, printed and read back

What `%d` writes for a natural number is a nonempty string of digits that stands
for that number (`digitsValue_formatNat`), so `strconv.Atoi` and `strconv.ParseUint`
read it back as long as it fits. Of the strings of digits both accept exactly those
whose value is in range (`atoi_of_numeral`, `parseUint_eq_ok_iff`); leading zeros are
accepted too.

`trim_eq` says what `strings.Trim` takes off. For patterns: what `literal` and `digits`
match at the start of a string, and where `leftmost` finds a match.
-/

namespace GatewayBridge.Go

variable {s : Bytes} {n : ℕ} {c : UInt8}

/-! ### Digits -/

theorem isDigit_iff : isDigit c = true ↔ 48 ≤ c.toNat ∧ c.toNat ≤ 57 := by
  simp [isDigit, UInt8.le_iff_toNat_le]

/-- A nonempty string of digits. -/
def Numeral (s : Bytes) : Prop := s ≠ [] ∧ ∀ c ∈ s, isDigit c = true

theorem toNat_digitChar {d : ℕ} (h : d < 10) : (digitChar d).toNat = 48 + d := by
  rw [digitChar, UInt8.toNat_ofNat_of_lt']
  have : UInt8.size = 256 := rfl
  omega

theorem isDigit_digitChar {d : ℕ} (h : d < 10) : isDigit (digitChar d) = true := by
  rw [isDigit_iff, toNat_digitChar h]
  omega

theorem numeral_formatNat (n : ℕ) : Numeral (formatNat n) := by
  rw [formatNat]
  split_ifs with hn
  · exact ⟨by simp, List.forall_mem_singleton.mpr rfl⟩
  · constructor
    · simpa [Nat.digits_eq_nil_iff_eq_zero] using hn
    · intro c hc
      obtain ⟨d, hd, rfl⟩ := List.mem_map.mp hc
      exact isDigit_digitChar (Nat.digits_lt_base (by decide) (List.mem_reverse.mp hd))

@[simp] theorem formatInt_natCast (n : ℕ) : formatInt n = formatNat n := by
  rw [formatInt, if_neg (Int.not_lt.mpr (Int.natCast_nonneg n)), Int.natAbs_natCast]

/-! ### The value of a string of digits -/

theorem digitsValue_nil : digitsValue [] = 0 := rfl

theorem digitsValue_snoc (s : Bytes) (c : UInt8) :
    digitsValue (s ++ [c]) = 10 * digitsValue s + (c.toNat - 48) := by
  simp [digitsValue]

/-- The digits of a number, most significant first, stand for it. -/
theorem digitsValue_map_digitChar {ds : List ℕ} (h : ∀ d ∈ ds, d < 10) :
    digitsValue (ds.reverse.map digitChar) = Nat.ofDigits 10 ds := by
  induction ds with
  | nil => rfl
  | cons d ds ih =>
    rw [List.forall_mem_cons] at h
    rw [List.reverse_cons, List.map_append, List.map_singleton, digitsValue_snoc, ih h.2,
      toNat_digitChar h.1, Nat.ofDigits_cons]
    omega

/-- **What `%d` writes stands for the number.** -/
theorem digitsValue_formatNat (n : ℕ) : digitsValue (formatNat n) = n := by
  rw [formatNat]
  split_ifs with hn
  · rw [hn]
    rfl
  · rw [digitsValue_map_digitChar fun d hd => Nat.digits_lt_base (by decide) hd, Nat.ofDigits_digits]

theorem le_digitsValue_append (s t : Bytes) : digitsValue s ≤ digitsValue (s ++ t) := by
  induction t using List.reverseRecOn with
  | nil => rw [List.append_nil]
  | append_singleton t c ih =>
    rw [← List.append_assoc, digitsValue_snoc]
    omega

/-- The digits of a longer string: those of its end are worth less. -/
theorem digitsValue_append (s t : Bytes) :
    digitsValue (s ++ t) = digitsValue s * 10 ^ t.length + digitsValue t := by
  induction t using List.reverseRecOn with
  | nil => simp [digitsValue_nil]
  | append_singleton t c ih =>
    rw [← List.append_assoc, digitsValue_snoc, digitsValue_snoc, ih, List.length_append, List.length_singleton,
      pow_succ]
    ring

theorem digitsValue_replicate_zero (k : ℕ) : digitsValue (List.replicate k 48) = 0 := by
  induction k with
  | zero => rfl
  | succ k ih =>
    rw [List.replicate_succ', digitsValue_snoc, ih]
    rfl

/-- A string of `n` digits. -/
structure Digits (n : ℕ) (x : Bytes) : Prop where
  length_eq : x.length = n
  all : ∀ c ∈ x, isDigit c = true

/-- Fewer digits, a smaller number. -/
theorem Digits.lt {x : Bytes} (h : Digits n x) : digitsValue x < 10 ^ n := by
  obtain ⟨rfl, hall⟩ := h
  induction x using List.reverseRecOn with
  | nil => exact Nat.one_pos
  | append_singleton x c ih =>
    rw [List.forall_mem_append, List.forall_mem_singleton, isDigit_iff] at hall
    have := ih hall.1
    rw [digitsValue_snoc, List.length_append, List.length_singleton, pow_succ]
    omega

theorem Digits.numeral {x : Bytes} (h : Digits n x) (hn : 0 < n) : Numeral x := by
  refine ⟨?_, h.all⟩
  rintro rfl
  exact hn.ne h.length_eq

/-! ### Reading numbers -/

theorem parseUintFrom_eq_ok_iff (bitSize : ℕ) (t : Bytes) (ht : digitsValue t < 2 ^ bitSize) :
    parseUintFrom bitSize (digitsValue t) s = .ok n ↔
      (∀ c ∈ s, isDigit c = true) ∧ digitsValue (t ++ s) = n ∧ n < 2 ^ bitSize := by
  induction s generalizing t with
  | nil =>
    rw [parseUintFrom, List.append_nil, Except.ok.injEq]
    constructor
    · rintro rfl
      exact ⟨List.forall_mem_nil _, rfl, ht⟩
    · exact fun h => h.2.1
  | cons c s ih =>
    rw [parseUintFrom, List.forall_mem_cons, ← digitsValue_snoc]
    have happ : t ++ c :: s = (t ++ [c]) ++ s := by simp
    by_cases hc : isDigit c = true
    · rw [if_pos hc, happ]
      by_cases hlt : digitsValue (t ++ [c]) < 2 ^ bitSize
      · simp only [hlt, if_true]
        rw [ih _ hlt]
        exact ⟨fun h => ⟨⟨hc, h.1⟩, h.2⟩, fun h => ⟨h.1.2, h.2⟩⟩
      · -- more digits only make it larger
        simp only [hlt, if_false]
        refine iff_of_false nofun ?_
        rintro ⟨-, rfl, hn⟩
        exact hlt (Nat.lt_of_le_of_lt (le_digitsValue_append _ _) hn)
    · rw [if_neg hc]
      exact iff_of_false nofun fun h => hc h.1.1

/-- **`strconv.ParseUint`** accepts the strings of digits whose value is in range. -/
theorem parseUint_eq_ok_iff (bitSize : ℕ) :
    parseUint bitSize s = .ok n ↔ Numeral s ∧ digitsValue s = n ∧ n < 2 ^ bitSize := by
  rw [parseUint, Numeral]
  split_ifs with hs
  · exact iff_of_false nofun fun h => h.1.1 hs
  · have h := parseUintFrom_eq_ok_iff (s := s) (n := n) bitSize [] (Nat.two_pow_pos bitSize)
    rw [digitsValue_nil, List.nil_append] at h
    rw [h]
    exact ⟨fun h => ⟨⟨hs, h.1⟩, h.2⟩, fun h => ⟨h.1.2, h.2⟩⟩

theorem atoi_of_numeral (h : Numeral s) :
    atoi s = if digitsValue s < 2 ^ 63 then .ok (digitsValue s : ℤ) else .error .outOfRange := by
  obtain ⟨hne, hall⟩ := h
  have hparse : parseDigits s = .ok (digitsValue s) := by
    rw [parseDigits, if_pos ⟨hne, List.all_eq_true.mpr hall⟩]
  -- the first character is a digit, so it is no sign
  have hsign : ∀ c, isDigit c = false → s.head? ≠ some c := by
    intro c hc hhead
    have := hall c (List.mem_of_mem_head? (Option.mem_def.mpr hhead))
    rw [hc] at this
    cases this
  have hneg : s.head? ≠ some 45 := hsign 45 (by decide)
  have hpos : s.head? ≠ some 43 := hsign 43 (by decide)
  simp [atoi, hneg, hpos, hparse]

/-! ### Trimming -/

theorem trim_eq (c : UInt8) (s : Bytes) :
    ∃ a b, s = List.replicate a c ++ trim c s ++ List.replicate b c := by
  -- what `takeWhile` takes are copies of `c`
  have htake : ∀ t : Bytes, t.takeWhile (· = c) = List.replicate (t.takeWhile (· = c)).length c := by
    intro t
    rw [List.eq_replicate_iff]
    refine ⟨rfl, fun b hb => ?_⟩
    have := List.all_eq_true.mp (List.all_takeWhile (p := fun b => decide (b = c)) (l := t)) b hb
    simpa using this
  set t := s.dropWhile (· = c) with ht
  refine ⟨(s.takeWhile (· = c)).length, (t.reverse.takeWhile (· = c)).length, ?_⟩
  rw [← htake, List.append_assoc, trim, ← ht, ← List.reverse_replicate, ← htake, ← List.reverse_append,
    List.takeWhile_append_dropWhile, List.reverse_reverse, ht, List.takeWhile_append_dropWhile]

/-! ### Patterns -/

theorem literal_eq_some_iff {p r : Bytes} : literal p s = some r ↔ s = p ++ r := by
  rw [literal]
  constructor
  · intro h
    split_ifs at h with hp
    obtain ⟨t, rfl⟩ := List.isPrefixOf_iff_prefix.mp hp
    rw [List.drop_left, Option.some.injEq] at h
    rw [h]
  · rintro rfl
    rw [if_pos (List.isPrefixOf_iff_prefix.mpr (List.prefix_append p r)), List.drop_left]

/-- No digit at the start. -/
def NoDigit (s : Bytes) : Prop := ∀ c ∈ s.head?, isDigit c = false

theorem digits_eq_some_iff {x r : Bytes} :
    digits s = some (x, r) ↔ s = x ++ r ∧ Numeral x ∧ NoDigit r := by
  rw [digits]
  constructor
  · intro h
    split_ifs at h with hne
    cases h
    refine ⟨List.takeWhile_append_dropWhile.symm, ⟨hne, List.all_eq_true.mp List.all_takeWhile⟩, ?_⟩
    intro c hc
    have := List.head?_dropWhile_not isDigit s
    rw [Option.mem_def.mp hc] at this
    simpa using this
  · rintro ⟨rfl, hx, hr⟩
    have htake : (x ++ r).takeWhile isDigit = x := by
      rw [List.takeWhile_append_of_pos hx.2]
      cases r with
      | nil => simp
      | cons c r => simp [hr c rfl]
    have hdrop : (x ++ r).dropWhile isDigit = r := by
      rw [List.dropWhile_append_of_pos hx.2]
      cases r with
      | nil => simp
      | cons c r => simp [hr c rfl]
    rw [htake, hdrop, if_neg hx.1]

section Leftmost

variable {β : Type} {m : Bytes → Option β} {b : β}

/-- A match at the start is the leftmost. -/
theorem leftmost_of_match (h : m s = some b) : leftmost m s = some b := by
  cases s with
  | nil => exact h
  | cons c s => rw [leftmost, h, Option.some_or]

theorem exists_of_leftmost (h : leftmost m s = some b) : ∃ p t, s = p ++ t ∧ m t = some b := by
  induction s with
  | nil => exact ⟨[], [], rfl, h⟩
  | cons c s ih =>
    rw [leftmost] at h
    cases hm : m (c :: s) with
    | some b' =>
      rw [hm, Option.some_or] at h
      exact ⟨[], c :: s, rfl, hm.trans h⟩
    | none =>
      rw [hm, Option.none_or] at h
      obtain ⟨p, t, rfl, ht⟩ := ih h
      exact ⟨c :: p, t, rfl, ht⟩

end Leftmost

end GatewayBridge.Go
