import GatewayBridge.Go.Basic
import Mathlib.Data.Nat.Digits.Defs

/-!
# Decimal numbers and patterns

How Go code prints an `int` (`%d`), reads one back (`strconv.Atoi`), and finds
the leftmost match of a pattern in a string (`regexp`). A pattern is given by the
function that matches it at the start of a string; the repetitions used here are
of digits and are followed by something that is not a digit, so that matching as
many as possible loses nothing.
-/

namespace GatewayBridge.Go

/-- `0–9`. -/
def isDigit (c : UInt8) : Bool := 48 ≤ c && c ≤ 57

/-- The digit `d`. -/
def digitChar (d : ℕ) : UInt8 := UInt8.ofNat (48 + d)

/-- The hexadecimal digit `d`, in lower case. -/
def hexDigit (d : ℕ) : UInt8 := if d < 10 then UInt8.ofNat (48 + d) else UInt8.ofNat (87 + d)

/-- `hex.EncodeToString`: two digits for each byte. -/
def hexString (s : Bytes) : Bytes := s.flatMap fun b => [hexDigit (b.toNat / 16), hexDigit (b.toNat % 16)]

/-- `%d` of a natural number. -/
def formatNat (n : ℕ) : Bytes :=
  if n = 0 then [48] else (Nat.digits 10 n).reverse.map digitChar

/-- `%d`. -/
def formatInt (i : ℤ) : Bytes := if i < 0 then 45 :: formatNat i.natAbs else formatNat i.natAbs

/-- `%x`. -/
def formatHex (n : ℕ) : Bytes := if n = 0 then [48] else (Nat.digits 16 n).reverse.map hexDigit

/-- The number that a string of digits stands for. -/
def digitsValue (s : Bytes) : ℕ := s.foldl (fun n c => 10 * n + (c.toNat - 48)) 0

/-- The errors of `strconv`. -/
inductive NumError where
  /-- `invalid syntax`. -/
  | malformed
  /-- `value out of range`. -/
  | outOfRange
  deriving DecidableEq, Repr

/-- `strconv.ErrSyntax` and `strconv.ErrRange`. -/
def NumError.message : NumError → Bytes
  | .malformed => str "invalid syntax"
  | .outOfRange => str "value out of range"

/-- The value of a nonempty string of digits. -/
def parseDigits (s : Bytes) : Except NumError ℕ :=
  if s ≠ [] ∧ s.all isDigit then .ok (digitsValue s) else .error .malformed

/-- `strconv.Atoi`, for an `int` of 64 bits. -/
def atoi (s : Bytes) : Except NumError ℤ :=
  let neg := s.head? = some 45
  let digits := if neg ∨ s.head? = some 43 then s.tail else s
  match parseDigits digits with
  | .error e => .error e
  | .ok n =>
      if neg then if n ≤ 2 ^ 63 then .ok (-n) else .error .outOfRange
      else if n < 2 ^ 63 then .ok n else .error .outOfRange

/-- The loop of `strconv.ParseUint`, in base 10: the value so far, and the digits still to be read. -/
def parseUintFrom (bitSize n : ℕ) : Bytes → Except NumError ℕ
  | [] => .ok n
  | c :: s =>
      if isDigit c then
        let n' := 10 * n + (c.toNat - 48)
        if n' < 2 ^ bitSize then parseUintFrom bitSize n' s else .error .outOfRange
      else .error .malformed

/-- `strconv.ParseUint(s, 10, bitSize)`. -/
def parseUint (bitSize : ℕ) (s : Bytes) : Except NumError ℕ :=
  if s = [] then .error .malformed else parseUintFrom bitSize 0 s

/-- `strings.Trim`, for one character. -/
def trim (c : UInt8) (s : Bytes) : Bytes :=
  ((s.dropWhile (· = c)).reverse.dropWhile (· = c)).reverse

/-! ### Patterns -/

variable {β : Type}

/-- The literal `p`, at the start of `s`: what follows it. -/
def literal (p s : Bytes) : Option Bytes := if p.isPrefixOf s then some (s.drop p.length) else none

/-- `\d+` at the start of `s`: the digits, and what follows them. -/
def digits (s : Bytes) : Option (Bytes × Bytes) :=
  if s.takeWhile isDigit = [] then none else some (s.takeWhile isDigit, s.dropWhile isDigit)

/-- `p₁|p₂|…` at the start of `s`: the first alternative that is there, and what follows it. -/
def oneOf (ps : List Bytes) (s : Bytes) : Option (Bytes × Bytes) :=
  ps.findSome? fun p => (literal p s).map fun rest => (p, rest)

/-- The leftmost place of `s` where `m` matches. -/
def leftmost (m : Bytes → Option β) : Bytes → Option β
  | [] => m []
  | c :: s => (m (c :: s)).or (leftmost m s)

example : atoi (formatInt (-125)) = .ok (-125) := by decide

end GatewayBridge.Go
