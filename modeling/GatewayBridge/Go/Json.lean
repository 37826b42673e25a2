import GatewayBridge.Go.Decimal
import Mathlib.Data.List.Nodup

/-!
# JSON values, as they are written

The value that `encoding/json` hands to an `UnmarshalJSON` is the text of one JSON
value, as it stands in the document: `Token` says which texts these are, and
`Token.text` is the text. A string is a list of characters, each written plainly or
with an escape; `content` is what it stands for. Of an array or an object only the
brackets are told apart from what stands between them, which may be anything.

For the way out, `object` is the JSON object that `encoding/json` makes of a struct:
a field tagged `omitempty` is left out when its value is empty, that is false, zero,
a nil pointer, or an empty string.
-/

namespace GatewayBridge.Go

/-! ### Strings -/

/-- A hexadecimal digit, in either case. -/
def isHexDigit (b : UInt8) : Bool := isDigit b || (97 ≤ b && b ≤ 102) || (65 ≤ b && b ≤ 70)

/-- The value of a hexadecimal digit. -/
def hexValue (b : UInt8) : ℕ :=
  if isDigit b then b.toNat - 48 else if 97 ≤ b then b.toNat - 87 else b.toNat - 55

/-- What may follow a backslash, and the character it stands for. -/
def shortEscapes : List (UInt8 × ℕ) :=
  [(34, 34), (92, 92), (47, 47), (98, 8), (102, 12), (110, 10), (114, 13), (116, 9)]

/-- A character of a string, as it is written. -/
inductive StringChar where
  /-- It stands for itself: no control character, quote or backslash. -/
  | plain (b : UInt8) (hb : 32 ≤ b ∧ b ≠ 34 ∧ b ≠ 92)
  /-- A backslash and one more character. -/
  | short (e : UInt8 × ℕ) (he : e ∈ shortEscapes)
  /-- A backslash, `u`, and four hexadecimal digits. -/
  | unicode (d₃ d₂ d₁ d₀ : UInt8) (hd : ∀ d ∈ [d₃, d₂, d₁, d₀], isHexDigit d = true)

namespace StringChar

/-- How it is written. -/
def raw : StringChar → Bytes
  | plain b _ => [b]
  | short e _ => [92, e.1]
  | unicode d₃ d₂ d₁ d₀ _ => [92, 117, d₃, d₂, d₁, d₀]

/-- The code of the character. A byte of a longer UTF-8 sequence stands for itself. -/
def code : StringChar → ℕ
  | plain b _ => b.toNat
  | short e _ => e.2
  | unicode d₃ d₂ d₁ d₀ _ => ((16 * hexValue d₃ + hexValue d₂) * 16 + hexValue d₁) * 16 + hexValue d₀

/-- It is written without an escape. -/
def isPlain : StringChar → Bool
  | plain _ _ => true
  | _ => false

end StringChar

/-- How the characters of a string are written. -/
def rawText (cs : List StringChar) : Bytes := cs.flatMap StringChar.raw

/-- The characters that a string stands for. -/
def content (cs : List StringChar) : List ℕ := cs.map StringChar.code

/-! ### Values -/

/-- A JSON number: a sign, an integer, a fraction and an exponent. -/
structure Number where
  /-- There is a minus sign. -/
  neg : Bool := false
  /-- The integer part: no leading zero, unless it is zero. -/
  int : Bytes
  /-- The digits after the point. -/
  frac : Option Bytes := none
  /-- `e` or `E` with a sign or none, and the digits of the exponent. -/
  exp : Option (Bytes × Bytes) := none
  /-- The integer part is well formed. -/
  int_ok : Numeral int ∧ (int.head? = some 48 → int = [48])
  /-- There is a digit after the point. -/
  frac_ok : ∀ ds ∈ frac, Numeral ds
  /-- The exponent is well formed. -/
  exp_ok : ∀ e ∈ exp, e.1 ∈ [str "e", str "E", str "e+", str "E+", str "e-", str "E-"] ∧ Numeral e.2

/-- How a number is written. -/
def Number.text (n : Number) : Bytes :=
  (if n.neg then str "-" else []) ++ n.int ++ ((n.frac.map fun ds => str "." ++ ds).getD []) ++
    ((n.exp.map fun e => e.1 ++ e.2).getD [])

/-- A JSON value. -/
inductive Token where
  /-- A string. -/
  | string (cs : List StringChar)
  /-- A number. -/
  | number (n : Number)
  /-- `true` or `false`. -/
  | bool (b : Bool)
  /-- `null`. -/
  | null
  /-- An array. -/
  | array (inner : Bytes)
  /-- An object. -/
  | object (inner : Bytes)

/-- How a value is written. -/
def Token.text : Token → Bytes
  | string cs => str "\"" ++ rawText cs ++ str "\""
  | number n => n.text
  | bool b => if b then str "true" else str "false"
  | null => str "null"
  | array inner => str "[" ++ inner ++ str "]"
  | object inner => str "\x7b" ++ inner ++ str "\x7d"

/-! ### Structs -/

/-- What a field of a struct becomes. -/
inductive Value where
  /-- A `bool`. -/
  | bool (b : Bool)
  /-- A number. -/
  | number (q : ℚ)
  /-- A `string`. -/
  | string (s : Bytes)
  /-- The text of the time `t`, written by its own `MarshalJSON`. -/
  | time (t : Time)
  /-- Another text that a `MarshalJSON` wrote. -/
  | raw (text : Bytes)
  /-- A nil pointer. -/
  | null
  deriving DecidableEq

/-- The values that `omitempty` leaves out. -/
def Value.isEmpty : Value → Bool
  | bool b => !b
  | number q => q = 0
  | string s => s = []
  | time _ => false
  | raw _ => false
  | null => true

/-- A field of a struct: its tag and its value. -/
structure Field where
  /-- The key. -/
  key : Bytes
  /-- The value. -/
  value : Value
  /-- It is tagged `omitempty`. -/
  omitempty : Bool := false

/-- What a field contributes to the object. -/
def Field.member (f : Field) : Option (Bytes × Value) :=
  if f.omitempty && f.value.isEmpty then none else some (f.key, f.value)

/-- The JSON object of a struct. -/
def object (fields : List Field) : List (Bytes × Value) := fields.filterMap Field.member

/-- What is in the object of a struct: its fields, without those that are tagged and empty. -/
theorem mem_object_iff {fields : List Field} {k : Bytes} {v : Value} :
    (k, v) ∈ object fields ↔
      ∃ f ∈ fields, f.key = k ∧ f.value = v ∧ (f.omitempty = true → f.value.isEmpty = false) := by
  rw [object, List.mem_filterMap]
  constructor
  · rintro ⟨f, hf, hm⟩
    rw [Field.member] at hm
    split_ifs at hm with hempty
    cases hm
    exact ⟨f, hf, rfl, rfl, by simpa using hempty⟩
  · rintro ⟨f, hf, rfl, rfl, hempty⟩
    refine ⟨f, hf, ?_⟩
    rw [Field.member, if_neg (by simpa using hempty)]

/-- The key of a field has the value of that field, where the keys differ. -/
theorem mem_object_of_mem {fields : List Field} {f : Field} (hkeys : (fields.map Field.key).Nodup)
    (hf : f ∈ fields) {v : Value} :
    (f.key, v) ∈ object fields ↔ v = f.value ∧ (f.omitempty = true → f.value.isEmpty = false) := by
  rw [mem_object_iff]
  constructor
  · rintro ⟨g, hg, hkey, rfl, hempty⟩
    cases List.inj_on_of_nodup_map hkeys hg hf hkey
    exact ⟨rfl, hempty⟩
  · rintro ⟨rfl, hempty⟩
    exact ⟨f, hf, rfl, rfl, hempty⟩

/-! ### Facts about numbers -/

theorem Number.mem_text (n : Number) {b : UInt8} (h : b ∈ n.text) :
    isDigit b = true ∨ b ∈ str "-.eE+" := by
  simp only [Number.text, List.mem_append] at h
  rcases h with ((h | h) | h) | h
  · cases hn : n.neg with
    | false =>
      rw [hn] at h
      cases h
    | true =>
      rw [hn] at h
      rw [List.mem_singleton.mp h]
      decide
  · exact .inl (n.int_ok.1.2 b h)
  · cases hf : n.frac with
    | none =>
      rw [hf] at h
      cases h
    | some ds =>
      rw [hf] at h
      rcases List.mem_append.mp h with h | h
      · rw [List.mem_singleton.mp h]
        decide
      · exact .inl ((n.frac_ok ds hf).2 b h)
  · cases he : n.exp with
    | none =>
      rw [he] at h
      cases h
    | some e =>
      rw [he] at h
      have hmark : ∀ mark ∈ [str "e", str "E", str "e+", str "E+", str "e-", str "E-"],
          mark ⊆ str "-.eE+" := by decide
      obtain ⟨hmem, hds⟩ := n.exp_ok e he
      rcases List.mem_append.mp h with h | h
      · exact .inr (hmark e.1 hmem h)
      · exact .inl (hds.2 b h)

/-- A number is written with digits only when it is an integer without a sign. -/
theorem Number.numeral_text_iff (n : Number) :
    Numeral n.text ↔ n.neg = false ∧ n.frac = none ∧ n.exp = none := by
  constructor
  · rintro ⟨-, hall⟩
    simp only [Number.text, List.forall_mem_append] at hall
    obtain ⟨⟨⟨hneg, -⟩, hfrac⟩, hexp⟩ := hall
    refine ⟨?_, ?_, ?_⟩
    · cases hn : n.neg with
      | false => rfl
      | true =>
        rw [hn] at hneg
        exact absurd (hneg 45 List.mem_cons_self) (by decide)
    · cases hf : n.frac with
      | none => rfl
      | some ds =>
        rw [hf] at hfrac
        exact absurd (hfrac 46 List.mem_cons_self) (by decide)
    · cases he : n.exp with
      | none => rfl
      | some e =>
        rw [he] at hexp
        -- the mark begins with `e` or `E`
        have hmark : ∀ mark ∈ [str "e", str "E", str "e+", str "E+", str "e-", str "E-"],
            mark.any (fun b => !isDigit b) = true := by decide
        obtain ⟨b, hb, hdigit⟩ := List.any_eq_true.mp (hmark e.1 (n.exp_ok e he).1)
        rw [Bool.not_eq_true'] at hdigit
        have := hexp b (List.mem_append_left e.2 hb)
        rw [hdigit] at this
        cases this
  · rintro ⟨hneg, hfrac, hexp⟩
    simpa [Number.text, hneg, hfrac, hexp] using n.int_ok.1

/-- An integer without a sign is written as its digits. -/
theorem Number.text_of_integer {n : Number} (hneg : n.neg = false) (hfrac : n.frac = none)
    (hexp : n.exp = none) : n.text = n.int := by
  simp [Number.text, hneg, hfrac, hexp]

/-! ### Facts about strings -/

variable {c : StringChar} {cs : List StringChar} {b : UInt8}

theorem rawText_cons (c : StringChar) (cs : List StringChar) : rawText (c :: cs) = c.raw ++ rawText cs := rfl

theorem rawText_append (ps qs : List StringChar) : rawText (ps ++ qs) = rawText ps ++ rawText qs :=
  List.flatMap_append

theorem content_cons (c : StringChar) (cs : List StringChar) : content (c :: cs) = c.code :: content cs := rfl

theorem StringChar.raw_of_plain (h : c.isPlain = true) : c.raw.map UInt8.toNat = [c.code] := by
  cases c with
  | plain b hb => rfl
  | short e he => cases h
  | unicode d₃ d₂ d₁ d₀ hd => cases h

/-- An escape begins with a backslash. -/
theorem StringChar.raw_of_not_plain (h : c.isPlain = false) : ∃ rest, c.raw = 92 :: rest := by
  cases c with
  | plain b hb => cases h
  | short e he => exact ⟨_, rfl⟩
  | unicode d₃ d₂ d₁ d₀ hd => exact ⟨_, rfl⟩

theorem content_of_plain (h : ∀ c ∈ cs, c.isPlain = true) : content cs = (rawText cs).map UInt8.toNat := by
  induction cs with
  | nil => rfl
  | cons c cs ih =>
    rw [List.forall_mem_cons] at h
    rw [content_cons, rawText_cons, List.map_append, StringChar.raw_of_plain h.1, ih h.2,
      List.singleton_append]

/-- The first escape of a string. -/
theorem exists_first_escape (h : ¬ ∀ c ∈ cs, c.isPlain = true) :
    ∃ ps c qs, cs = ps ++ c :: qs ∧ (∀ c ∈ ps, c.isPlain = true) ∧ c.isPlain = false := by
  induction cs with
  | nil => exact absurd (List.forall_mem_nil _) h
  | cons c cs ih =>
    cases hc : c.isPlain with
    | false => exact ⟨[], c, cs, rfl, List.forall_mem_nil _, hc⟩
    | true =>
      obtain ⟨ps, c', qs, rfl, hps, hc'⟩ := ih fun hcs => h (List.forall_mem_cons.mpr ⟨hc, hcs⟩)
      exact ⟨c :: ps, c', qs, rfl, List.forall_mem_cons.mpr ⟨hc, hps⟩, hc'⟩

end GatewayBridge.Go
