import ApiDocs.Text.Basic

/-! Text as bytes, in UTF-8. Decoding is strict: each character has one form, and surrogates have none. -/

namespace ApiDocs.Text

/-- The byte of a number below 256. -/
def byte (n : Nat) : UInt8 := UInt8.ofNat n

/-- The bytes of a character. -/
def encodeChar (c : Char) : List UInt8 :=
  let n := c.toNat
  if n < 0x80 then [byte n]
  else if n < 0x800 then [byte (0xC0 + n / 0x40), byte (0x80 + n % 0x40)]
  else if n < 0x10000 then [byte (0xE0 + n / 0x1000), byte (0x80 + n / 0x40 % 0x40), byte (0x80 + n % 0x40)]
  else
    [byte (0xF0 + n / 0x40000), byte (0x80 + n / 0x1000 % 0x40), byte (0x80 + n / 0x40 % 0x40), byte (0x80 + n % 0x40)]

/-- The bytes of a text. -/
def encode (s : Text) : List UInt8 := s.flatMap encodeChar

/-- The six bits of a byte that continues a character. -/
def continuation? (b : UInt8) : Option Nat :=
  if 0x80 ≤ b.toNat ∧ b.toNat < 0xC0 then some (b.toNat - 0x80) else none

/-- The character of a number that needs at least `least` for its length. -/
def scalarFrom (least n : Nat) : Option Char :=
  if least ≤ n ∧ n.isValidChar then some (Char.ofNat n) else none

/-- The text of some bytes, if they have one. -/
def decode : List UInt8 → Option Text
  | [] => some []
  | a :: rest =>
    if a.toNat < 0x80 then (decode rest).map (Char.ofNat a.toNat :: ·)
    else if a.toNat < 0xC0 then none
    else if a.toNat < 0xE0 then
      match rest with
      | b :: rest => do
        let c ← scalarFrom 0x80 ((a.toNat - 0xC0) * 0x40 + (← continuation? b))
        (decode rest).map (c :: ·)
      | _ => none
    else if a.toNat < 0xF0 then
      match rest with
      | b :: c :: rest => do
        let d ← scalarFrom 0x800 (((a.toNat - 0xE0) * 0x40 + (← continuation? b)) * 0x40 + (← continuation? c))
        (decode rest).map (d :: ·)
      | _ => none
    else
      match rest with
      | b :: c :: d :: rest => do
        let high := ((a.toNat - 0xF0) * 0x40 + (← continuation? b)) * 0x40 + (← continuation? c)
        let e ← scalarFrom 0x10000 (high * 0x40 + (← continuation? d))
        (decode rest).map (e :: ·)
      | _ => none

end ApiDocs.Text
