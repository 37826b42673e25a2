import Mathlib.Algebra.Ring.Int.Defs
import Mathlib.Data.List.Basic

/-!
# Values of Go

What the models of Go code share: byte strings, the two ways in which a Go
computation ends badly, accesses that are checked at run time, and the
little-endian layout of a `uint16`. The build takes the latest Go; where releases
differ, these modules follow the standard library of Go 1.20.

A Go `string` and a Go `[]byte` are both sequences of bytes, so both are `Bytes`.
A computation that returns an `error` can also panic, and the two are different:
an error is a value that the caller inspects, a panic ends the process. `Fault`
keeps them apart, and a fallible computation is an `Except (Fault ε)`.

Indexing and slicing are checked against the length, and a field read through a
pointer is checked against `nil`; a pointer is an `Option`. A definition that
models Go code uses `index`, `slice`, `sliceFrom` and `deref` wherever the code
does, so that the absence of a panic is something to prove.
-/

namespace GatewayBridge.Go

/-- A `[]byte`, or a `string`. -/
abbrev Bytes := List UInt8

/-- A `time.Time`: nanoseconds since the Unix epoch. -/
abbrev Time := ℤ

/-- `time.Minute`. -/
def minute : ℤ := 60 * 10 ^ 9

/-- `t.Sub(u)`: a `time.Duration`, the nearest one if the difference does not fit. -/
def subTime (t u : Time) : ℤ := max (-2 ^ 63) (min (t - u) (2 ^ 63 - 1))

/-- `t.UnixNano()`: the low 64 bits. -/
def unixNano (t : Time) : Int64 := Int64.ofInt t

/-- A string literal. The literals of the code are ASCII, one byte for each character. -/
def str (s : String) : Bytes := s.toList.map fun c => c.toNat.toUInt8

/-! ### Faults -/

/-- The run-time panics. -/
inductive Panic where
  /-- An index or a slice bound out of range. -/
  | indexOutOfRange
  /-- A field read through a `nil` pointer. -/
  | nilDereference
  /-- A send on a closed channel. -/
  | sendOnClosedChannel
  /-- A `close` of a closed channel. -/
  | closeOfClosedChannel
  deriving DecidableEq, Repr

/-- How a computation fails: with an `error` of its own, or with a panic. -/
inductive Fault (ε : Type*) where
  /-- The computation returns the error `e`. -/
  | err (e : ε)
  /-- The computation panics. -/
  | panic (p : Panic)
  deriving DecidableEq, Repr

universe u v

variable {ε : Type u} {α β : Type v}

/-- `return …, e`. -/
def fail (e : ε) : Except (Fault ε) α := .error (.err e)

/-- A call of a function that returns `(α, error)`, followed by `if err != nil { return wrap(err) }`. -/
def orFail {δ : Type*} (wrap : δ → ε) : Except δ α → Except (Fault ε) α
  | .ok a => .ok a
  | .error e => fail (wrap e)

@[simp] theorem orFail_ok {δ : Type*} (wrap : δ → ε) (a : α) :
    orFail wrap (.ok a : Except δ α) = .ok a := rfl

@[simp] theorem orFail_error {δ : Type*} (wrap : δ → ε) (e : δ) :
    orFail wrap (.error e : Except δ α) = fail (wrap e) := rfl

theorem orFail_eq_ok {δ : Type*} {wrap : δ → ε} {x : Except δ α} {a : α} :
    orFail wrap x = .ok a ↔ x = .ok a := by
  cases x with
  | ok b => simp
  | error e => simp [fail]

/-- An operation of the run time that can panic. -/
def orPanic : Except Panic α → Except (Fault ε) α
  | .ok a => .ok a
  | .error p => .error (.panic p)

@[simp] theorem orPanic_ok (a : α) : (orPanic (.ok a) : Except (Fault ε) α) = .ok a := rfl

@[simp] theorem orPanic_error (p : Panic) :
    (orPanic (.error p) : Except (Fault ε) α) = .error (.panic p) := rfl

/-- `s[i]`. -/
def index (s : List α) (i : ℕ) : Except (Fault ε) α :=
  match s[i]? with
  | some a => .ok a
  | none => .error (.panic .indexOutOfRange)

/-- `s[i:j]`. -/
def slice (s : List α) (i j : ℕ) : Except (Fault ε) (List α) :=
  if i ≤ j ∧ j ≤ s.length then .ok ((s.take j).drop i) else .error (.panic .indexOutOfRange)

/-- `s[i:]`. -/
def sliceFrom (s : List α) (i : ℕ) : Except (Fault ε) (List α) :=
  if i ≤ s.length then .ok (s.drop i) else .error (.panic .indexOutOfRange)

/-- The value a pointer points to, read through the pointer. -/
def deref : Option α → Except (Fault ε) α
  | some a => .ok a
  | none => .error (.panic .nilDereference)

@[simp] theorem deref_some (a : α) : (deref (some a) : Except (Fault ε) α) = .ok a := rfl

@[simp] theorem deref_none : (deref none : Except (Fault ε) α) = .error (.panic .nilDereference) := rfl

theorem index_of_getElem? {s : List α} {i : ℕ} {a : α} (h : s[i]? = some a) :
    (index s i : Except (Fault ε) α) = .ok a := by
  rw [index, h]

theorem sliceFrom_append {s t : List α} {i : ℕ} (h : s.length = i) :
    (sliceFrom (s ++ t) i : Except (Fault ε) (List α)) = .ok t := by
  subst h
  rw [sliceFrom, if_pos (by simp), List.drop_left]

/-! ### Sequencing fallible computations -/

@[simp] theorem ok_bind (a : α) (f : α → Except (Fault ε) β) : (Except.ok a >>= f) = f a := rfl

@[simp] theorem error_bind (e : Fault ε) (f : α → Except (Fault ε) β) :
    (Except.error e >>= f) = .error e := rfl

@[simp] theorem fail_bind (e : ε) (f : α → Except (Fault ε) β) : (fail e >>= f) = fail e := rfl

@[simp] theorem fail_ne_ok (e : ε) (a : α) : (fail e : Except (Fault ε) α) ≠ .ok a := nofun

theorem bind_eq_ok {x : Except (Fault ε) α} {f : α → Except (Fault ε) β} {b : β} :
    (x >>= f) = .ok b ↔ ∃ a, x = .ok a ∧ f a = .ok b := by
  cases x with
  | ok a => simp
  | error e => simp

/-! ### Computations that do not panic -/

/-- The computation returns a value or an error of its own. -/
def NoPanic (x : Except (Fault ε) α) : Prop := ∀ p, x ≠ .error (.panic p)

theorem noPanic_ok (a : α) : NoPanic (.ok a : Except (Fault ε) α) := nofun

theorem noPanic_fail (e : ε) : NoPanic (fail e : Except (Fault ε) α) := nofun

theorem noPanic_orFail {δ : Type*} (wrap : δ → ε) (x : Except δ α) : NoPanic (orFail wrap x) := by
  cases x <;> exact nofun

theorem NoPanic.bind {x : Except (Fault ε) α} {f : α → Except (Fault ε) β} (hx : NoPanic x)
    (hf : ∀ a, NoPanic (f a)) : NoPanic (x >>= f) := by
  cases x with
  | ok a => exact hf a
  | error e =>
    rintro p ⟨⟩
    exact hx p rfl

/-- What does not panic and returns no value returns an error. -/
theorem NoPanic.exists_fail {x : Except (Fault ε) α} (hx : NoPanic x) (h : ∀ a, x ≠ .ok a) :
    ∃ e, x = fail e := by
  match x, hx, h with
  | .ok a, _, h => exact absurd rfl (h a)
  | .error (.err e), _, _ => exact ⟨e, rfl⟩
  | .error (.panic p), hx, _ => exact absurd rfl (hx p)

theorem noPanic_sliceFrom {s : List α} {i : ℕ} (h : i ≤ s.length) :
    NoPanic (sliceFrom s i : Except (Fault ε) (List α)) := by
  rw [sliceFrom, if_pos h]
  exact noPanic_ok _

/-! ### `encoding/binary` -/

/-- `binary.LittleEndian.PutUint16`. -/
def putUint16 (v : UInt16) : Bytes := [UInt8.ofNat (v.toNat % 256), UInt8.ofNat (v.toNat / 256)]

/-- `binary.LittleEndian.Uint16`, of two bytes. -/
def uint16 (lo hi : UInt8) : UInt16 := UInt16.ofNat (lo.toNat + 256 * hi.toNat)

theorem uint16_putUint16 (v : UInt16) :
    uint16 (UInt8.ofNat (v.toNat % 256)) (UInt8.ofNat (v.toNat / 256)) = v := by
  have h := v.toNat_lt
  apply UInt16.toNat_inj.mp
  simp only [uint16, UInt8.toNat_ofNat', UInt16.toNat_ofNat']
  omega

theorem putUint16_uint16 (lo hi : UInt8) : putUint16 (uint16 lo hi) = [lo, hi] := by
  have hl := lo.toNat_lt
  have hh := hi.toNat_lt
  have h : (uint16 lo hi).toNat = lo.toNat + 256 * hi.toNat := by
    rw [uint16, UInt16.toNat_ofNat']
    omega
  rw [putUint16, h, Nat.add_mul_mod_self_left, Nat.mod_eq_of_lt hl,
    Nat.add_mul_div_left _ _ (by decide), Nat.div_eq_of_lt hl, Nat.zero_add]
  simp

end GatewayBridge.Go
