/-!
# UTF-8

Texts as bytes and back.

- `encode` writes characters, `decode?` reads bytes and refuses what no text encodes to.
- `sequence?` reads one character.
-/

namespace Messaging.Text.Utf8

/-- The bytes of one character. -/
def encodeChar (c : Char) : List UInt8 :=
  let n := c.toNat
  if n < 0x80 then [n.toUInt8]
  else if n < 0x800 then [(0xC0 + n / 0x40).toUInt8, (0x80 + n % 0x40).toUInt8]
  else if n < 0x10000 then
    [(0xE0 + n / 0x1000).toUInt8, (0x80 + n / 0x40 % 0x40).toUInt8, (0x80 + n % 0x40).toUInt8]
  else
    [(0xF0 + n / 0x40000).toUInt8, (0x80 + n / 0x1000 % 0x40).toUInt8,
      (0x80 + n / 0x40 % 0x40).toUInt8, (0x80 + n % 0x40).toUInt8]

/-- The bytes of a list of characters. -/
def encode (cs : List Char) : List UInt8 := cs.flatMap encodeChar

/-- The six bits that a continuation byte carries. -/
def tail? (b : UInt8) : Option Nat :=
  if 0x80 ≤ b.toNat ∧ b.toNat < 0xC0 then some (b.toNat - 0x80) else none

/-- The character of a code point, unless it is a surrogate or out of range. -/
def char? (n : Nat) : Option Char :=
  if h : n.isValidChar then some (Char.ofNatAux n h) else none

/-- The first character of a byte list and the bytes after it; only the shortest form counts. -/
def sequence? : List UInt8 → Option (Char × List UInt8)
  | [] => none
  | b :: rest =>
    let n := b.toNat
    if n < 0x80 then (char? n).map (·, rest)
    else if n < 0xC2 then none
    else if n < 0xE0 then
      match rest with
      | b₁ :: rest => do
        let t₁ ← tail? b₁
        (char? ((n - 0xC0) * 0x40 + t₁)).map (·, rest)
      | _ => none
    else if n < 0xF0 then
      match rest with
      | b₁ :: b₂ :: rest => do
        let t₁ ← tail? b₁
        let t₂ ← tail? b₂
        let code := (n - 0xE0) * 0x1000 + t₁ * 0x40 + t₂
        if code < 0x800 then none else (char? code).map (·, rest)
      | _ => none
    else if n < 0xF5 then
      match rest with
      | b₁ :: b₂ :: b₃ :: rest => do
        let t₁ ← tail? b₁
        let t₂ ← tail? b₂
        let t₃ ← tail? b₃
        let code := (n - 0xF0) * 0x40000 + t₁ * 0x1000 + t₂ * 0x40 + t₃
        if code < 0x10000 then none else (char? code).map (·, rest)
      | _ => none
    else none

/-- Reads at most `fuel` characters. -/
def decodeFuel : Nat → List UInt8 → Option (List Char)
  | _, [] => some []
  | 0, _ :: _ => none
  | fuel + 1, bytes => do
    let (c, rest) ← sequence? bytes
    (decodeFuel fuel rest).map (c :: ·)

/-- The characters of a byte list, if it is well formed. -/
def decode? (bytes : List UInt8) : Option (List Char) := decodeFuel bytes.length bytes

end Messaging.Text.Utf8
