import ApiDocs.Double
import ApiDocs.Fault
import ApiDocs.Link.Slot

/-! Whole numbers in slots. A number is written in a base, as a character, or as a fraction, and consists of its sign, its
    base, its digits and what follows them. The digits can be grouped. Padding with zeros after the sign makes more
    digits, so that it is grouped as well. -/

namespace ApiDocs.Link

/-- A number without its sign, as it is written. -/
structure Figure where
  /-- How the base is written. -/
  base : Text := []
  digits : Text := []
  /-- What follows the digits. -/
  tail : Text := []
deriving DecidableEq

namespace Figure

/-! ### Digits -/

/-- Digits in groups, with a mark between them, and with zeros before them up to a width. The digits and the groups are
    given and returned with the last digit first. -/
def grouped (size : Nat) (mark : Char) (width : Nat) (digits : Text) : Text :=
  let count := max 1 (min size (max digits.length width))
  let group := digits.take count ++ List.replicate (count - digits.length) '0'
  if digits.length ≤ count ∧ width ≤ count then group
  else group ++ mark :: grouped size mark (width - count - 1) (digits.drop count)
termination_by digits.length + width
decreasing_by simp only [List.length_drop]; omega

/-- The digits of a slot: a way of writing in another base than ten has groups of four. -/
def arranged (p : Slot) (width : Nat) (digits : Text) : Text :=
  match p.mark with
  | none => Text.widen width digits
  | some mark =>
    let size := if ['b', 'o', 'x', 'X'].any (p.kind == some ·) then 4 else 3
    (grouped size mark width digits.reverse).reverse

/-! ### Ways of writing -/

/-- The number of double precision that is nearest to a number. -/
def nearest (n : Nat) : Nat :=
  match Double.ofRatio false n 1 with
  | .finite _ m e => if e < 0 then n else m * Nat.pow 2 e.toNat
  | _ => n

/-- A number in a base. -/
def inBase (p : Slot) (base : Nat) (sign : Text) (n : Nat) : Figure where
  base := if p.isExplicit then sign else []
  digits := Nat.toDigits base n

/-- A fraction after a point. The point is left out before nothing, unless it is always written. -/
def fraction (isExplicit : Bool) (digits : Text) : Text := if digits.isEmpty && !isExplicit then [] else '.' :: digits

/-- The first digits of a number, of which there are `precision` after the first one, and the power of ten of the first
    one. -/
def leading (n precision : Nat) : Text × Nat :=
  let power := (Text.ofNat n).length - 1
  let rounded :=
    if precision < power then Double.roundDiv n (Nat.pow 10 (power - precision)) else n * Nat.pow 10 (precision - power)
  let digits := Text.ofNat rounded
  if digits.length > precision + 1 then (digits.take (precision + 1), power + 1)
  else (digits ++ List.replicate (precision + 1 - digits.length) '0', power)

/-- A number with a power of ten. What follows the first digit is changed by `trim`. -/
def scientific (p : Slot) (mark : Char) (precision : Nat) (trim : Text → Text) (n : Nat) : Figure :=
  let (digits, power) := leading n precision
  { digits := digits.take 1
    tail := fraction p.isExplicit (trim (digits.drop 1)) ++ [mark, '+'] ++ Text.padded 2 power }

/-- A number with digits after the point. -/
def fixed (p : Slot) (precision : Nat) (n : Nat) : Figure :=
  { digits := Text.ofNat n, tail := fraction p.isExplicit (List.replicate precision '0') }

/-- A number with so many digits in all, with a power of ten if it has more. Zeros at the end of the fraction are left
    out, unless the point is always written. -/
def general (p : Slot) (mark : Char) (precision : Nat) (n : Nat) : Figure :=
  let precision := max 1 precision
  let length := (Text.ofNat n).length
  if precision < length then
    scientific p mark (precision - 1) (if p.isExplicit then id else Text.dropRight (· == '0')) n
  else fixed p (if p.isExplicit then precision - length else 0) n

/-- A number as a fraction, in the way of writing `kind`. -/
def fractional? (p : Slot) (kind : Char) (n : Nat) : Option Figure :=
  let precision := p.precision.getD 6
  let n := nearest n
  if precision ≥ Nat.pow 2 31 then none
  else
    match kind with
    | 'e' | 'E' => some (scientific p kind precision id n)
    | 'f' | 'F' => some (fixed p precision n)
    | 'g' => some (general p 'e' precision n)
    | 'G' => some (general p 'E' precision n)
    | '%' =>
      let figure := fixed p precision (nearest (n * 100))
      some { figure with tail := figure.tail ++ "%" }
    | _ => none

/-- The figure of a whole number in a slot. A slot for whole numbers has no precision, and one for characters has
    nothing that is about numbers. -/
def ofInt (p : Slot) (n : Int) : Except Fault Figure :=
  let kind := p.kind.getD 'd'
  let isWhole := p.precision.isNone && !p.unsignedZero
  if ['b', 'c', 'd', 'n', 'o', 'x', 'X'].contains kind && !isWhole then .error .brokenTemplate
  else if p.mark = some ',' && ['b', 'o', 'x', 'X'].contains kind then .error .brokenTemplate
  else if p.mark.isSome && (kind = 'c' || kind = 'n') then .error .brokenTemplate
  else
    match kind with
    | 'b' => .ok (inBase p 2 "0b" n.natAbs)
    | 'o' => .ok (inBase p 8 "0o" n.natAbs)
    | 'x' => .ok (inBase p 16 "0x" n.natAbs)
    | 'X' =>
      let figure := inBase p 16 "0X" n.natAbs
      .ok { figure with digits := figure.digits.map Char.toUpper }
    | 'd' | 'n' => .ok { digits := Text.ofNat n.natAbs }
    | 'c' =>
      if p.sign.isSome || p.isExplicit then .error .brokenTemplate
      else if n < 0 || n > 0x10FFFF then .error .characterTooLarge
      else .ok { tail := [Char.ofNat n.toNat] }
    | kind => ((fractional? p kind n.natAbs).map .ok).getD (.error .brokenTemplate)

/-! ### Putting together -/

/-- What is written about the sign of a number. -/
def signText (p : Slot) (isNegative : Bool) : Text :=
  if isNegative then "-"
  else
    match p.sign with
    | some '+' => "+"
    | some ' ' => " "
    | _ => []

/-- Puts a figure in its slot. -/
def inSlot (p : Slot) (isNegative : Bool) (figure : Figure) : Text :=
  let align := p.align.getD (if p.hasZero then .inside else .right)
  let sign := signText p isNegative
  let width := p.width.getD 0 - (sign.length + figure.base.length + figure.tail.length)
  let digits :=
    if figure.digits.isEmpty then []
    else arranged p (if p.filler = '0' && align = .inside then width else 0) figure.digits
  let room := width - digits.length
  let padding (n : Nat) : Text := List.replicate n p.filler
  if align = .inside then sign ++ figure.base ++ padding room ++ digits ++ figure.tail
  else
    let before := Slot.roomBefore room align
    padding before ++ sign ++ figure.base ++ digits ++ figure.tail ++ padding (room - before)

end Figure

/-- Puts a whole number in its slot. -/
def Slot.number (p : Slot) (n : Int) : Except Fault Text := do
  return (← Figure.ofInt p n).inSlot p (n < 0)

end ApiDocs.Link
