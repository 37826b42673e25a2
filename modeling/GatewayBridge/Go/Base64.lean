import GatewayBridge.Go.Basic

/-!
# `base64.StdEncoding`

The standard base64 encoding with padding, as Go's `encoding/base64` has it.
`encodeToString` writes three bytes as four characters of the alphabet and pads
the last group with `=`. `decodeString` reads a group of four at a time and passes
over line breaks; it fails with the offset at which the input stops being base64
(`CorruptInputError`). As in Go, the bits of the last character that padding
leaves over are not looked at.

`decodeString_encodeToString`: decoding gives back what was encoded.
-/

namespace GatewayBridge.Go.Base64

open GatewayBridge.Go

/-- The padding character `=`. -/
def padChar : UInt8 := 61

/-- The character of a sextet: `A–Z`, `a–z`, `0–9`, `+`, `/`. -/
def encodeChar (v : ℕ) : UInt8 :=
  if v < 26 then UInt8.ofNat (v + 65)
  else if v < 52 then UInt8.ofNat (v + 71)
  else if v < 62 then UInt8.ofNat (v - 4)
  else if v = 62 then 43
  else 47

/-- The sextet of a character of the alphabet. -/
def decodeChar (c : UInt8) : Option ℕ :=
  if 65 ≤ c ∧ c ≤ 90 then some (c.toNat - 65)
  else if 97 ≤ c ∧ c ≤ 122 then some (c.toNat - 71)
  else if 48 ≤ c ∧ c ≤ 57 then some (c.toNat + 4)
  else if c = 43 then some 62
  else if c = 47 then some 63
  else none

/-- `EncodeToString`. -/
def encodeToString : Bytes → Bytes
  | [] => []
  | [a] => [encodeChar (a.toNat / 4), encodeChar (a.toNat % 4 * 16), padChar, padChar]
  | [a, b] =>
      [encodeChar (a.toNat / 4), encodeChar (a.toNat % 4 * 16 + b.toNat / 16),
        encodeChar (b.toNat % 16 * 4), padChar]
  | a :: b :: c :: rest =>
      encodeChar (a.toNat / 4) :: encodeChar (a.toNat % 4 * 16 + b.toNat / 16) ::
        encodeChar (b.toNat % 16 * 4 + c.toNat / 64) :: encodeChar (c.toNat % 64) ::
          encodeToString rest

/-- The bytes of a group of four sextets. -/
def byte₀ (v₀ v₁ : ℕ) : UInt8 := UInt8.ofNat (v₀ * 4 + v₁ / 16)

/-- The second byte of a group. -/
def byte₁ (v₁ v₂ : ℕ) : UInt8 := UInt8.ofNat (v₁ % 16 * 16 + v₂ / 4)

/-- The third byte of a group. -/
def byte₂ (v₂ v₃ : ℕ) : UInt8 := UInt8.ofNat (v₂ % 4 * 64 + v₃)

/-- A line break. -/
def isNewline (c : UInt8) : Bool := c == 10 || c == 13

/-- The input from offset `si` on, without the line breaks it starts with, and its offset. -/
def skipNewlines (si : ℕ) : Bytes → ℕ × Bytes
  | [] => (si, [])
  | c :: src => if isNewline c then skipNewlines (si + 1) src else (si, c :: src)

/-- The group that has padding ends the input. -/
def lastGroup (si : ℕ) (src dst : Bytes) : Except ℕ Bytes :=
  match skipNewlines si src with
  | (_, []) => .ok dst
  | (si, _ :: _) => .error si

/-- `Decode`, from offset `si` on, when `decodeQuantum` has read the sextets `dbuf` of a group. -/
def decode (si : ℕ) (dbuf : List ℕ) : Bytes → Except ℕ Bytes
  | [] => if dbuf = [] then .ok [] else .error (si - dbuf.length)
  | c :: src =>
    match decodeChar c with
    | some v =>
      match dbuf with
      | [v₀, v₁, v₂] => do
          let dst ← decode (si + 1) [] src
          .ok (byte₀ v₀ v₁ :: byte₁ v₁ v₂ :: byte₂ v₂ v :: dst)
      | _ => decode (si + 1) (dbuf ++ [v]) src
    | none =>
      if isNewline c then decode (si + 1) dbuf src
      else if c ≠ padChar then .error si
      else
        match dbuf with
        | [v₀, v₁] =>
          -- `==` is expected, and line breaks may stand between
          match skipNewlines (si + 1) src with
          | (si, []) => .error si
          | (si, c :: src) =>
            if c = padChar then lastGroup (si + 1) src [byte₀ v₀ v₁] else .error (si - 1)
        | [v₀, v₁, v₂] => lastGroup (si + 1) src [byte₀ v₀ v₁, byte₁ v₁ v₂]
        | _ => .error si

/-- `DecodeString`. -/
def decodeString (s : Bytes) : Except ℕ Bytes := decode 0 [] s

/-! ### The round trip -/

theorem decodeChar_encodeChar : ∀ v < 64, decodeChar (encodeChar v) = some v := by decide

/-- The first three characters of a group are kept for the fourth. -/
theorem decode_encodeChar {v : ℕ} (hv : v < 64) (si : ℕ) {dbuf : List ℕ} (h : dbuf.length < 3) (src : Bytes) :
    decode si dbuf (encodeChar v :: src) = decode (si + 1) (dbuf ++ [v]) src := by
  rw [decode.eq_def]
  simp only [decodeChar_encodeChar v hv]
  split
  · simp at h
  · rfl

theorem decode_encodeChar_last {v : ℕ} (hv : v < 64) (si v₀ v₁ v₂ : ℕ) {src dst : Bytes}
    (h : decode (si + 1) [] src = .ok dst) :
    decode si [v₀, v₁, v₂] (encodeChar v :: src) =
      .ok (byte₀ v₀ v₁ :: byte₁ v₁ v₂ :: byte₂ v₂ v :: dst) := by
  rw [decode, decodeChar_encodeChar v hv]
  simp only [h]
  rfl

theorem ofNat_eq {a : UInt8} {n : ℕ} (h : n = a.toNat) : UInt8.ofNat n = a := by
  rw [h, UInt8.ofNat_toNat]

theorem decode_encodeToString (bs : Bytes) (si : ℕ) : decode si [] (encodeToString bs) = .ok bs := by
  induction bs using encodeToString.induct generalizing si with
  | case1 => rfl
  | case2 a =>
    have ha := a.toNat_lt
    rw [encodeToString, decode_encodeChar (by omega) _ (by decide), decode_encodeChar (by omega) _ (by simp)]
    refine congrArg Except.ok (congrArg (· :: []) (ofNat_eq ?_))
    omega
  | case3 a b =>
    have ha := a.toNat_lt
    have hb := b.toNat_lt
    rw [encodeToString, decode_encodeChar (by omega) _ (by decide), decode_encodeChar (by omega) _ (by simp),
      decode_encodeChar (by omega) _ (by simp)]
    refine congrArg Except.ok (congrArg₂ (· :: ·) (ofNat_eq ?_) (congrArg (· :: []) (ofNat_eq ?_)))
    · omega
    · omega
  | case4 a b c rest ih =>
    have ha := a.toNat_lt
    have hb := b.toNat_lt
    have hc := c.toNat_lt
    rw [encodeToString, decode_encodeChar (by omega) _ (by decide), decode_encodeChar (by omega) _ (by simp),
      decode_encodeChar (by omega) _ (by simp)]
    refine (decode_encodeChar_last (by omega) _ _ _ _ (ih _)).trans ?_
    refine congrArg Except.ok (congrArg₂ (· :: ·) (ofNat_eq ?_)
      (congrArg₂ (· :: ·) (ofNat_eq ?_) (congrArg (· :: rest) (ofNat_eq ?_))))
    · omega
    · omega
    · omega

/-- Decoding gives back what was encoded. -/
theorem decodeString_encodeToString (bs : Bytes) : decodeString (encodeToString bs) = .ok bs :=
  decode_encodeToString bs 0

example : decodeString (str "QAEBAQGA") = .ok [64, 1, 1, 1, 1, 128] := by decide

end GatewayBridge.Go.Base64
