import ApiDocs.Text.Basic

/-! Numbers of double precision: fractions `m * 2 ^ e` with a mantissa of at most 53 bits. They are read from decimal
    numbers, to the nearest one and from the middle to the one whose mantissa is even, and written with as few digits as
    lead back to them. -/

namespace ApiDocs

/-- A number of double precision. -/
inductive Double
  /-- The number `mantissa * 2 ^ exponent`, or its opposite. -/
  | finite (negative : Bool) (mantissa : Nat) (exponent : Int)
  | infinite (negative : Bool)
  /-- What is no number at all. It is equal to nothing but itself, so each one has a mark that tells it from others. -/
  | undefined (mark : Nat)
deriving DecidableEq

/-- The fraction `factor * 2 ^ exponent`. -/
structure Scaled where
  factor : Int
  exponent : Int
deriving DecidableEq

namespace Scaled

/-- The factors of two fractions for their smaller exponent. -/
def aligned (a b : Scaled) : Int × Int :=
  let least := min a.exponent b.exponent
  (a.factor * Int.pow 2 (a.exponent - least).toNat, b.factor * Int.pow 2 (b.exponent - least).toNat)

/-- Whether two fractions are the same number. -/
def same (a b : Scaled) : Bool := (aligned a b).1 == (aligned a b).2

/-- Whether a fraction is less than another one. -/
def less (a b : Scaled) : Bool := (aligned a b).1 < (aligned a b).2

/-- A whole number. -/
def ofInt (n : Int) : Scaled := ⟨n, 0⟩

end Scaled

namespace Double

/-- The exponent of the finest numbers. -/
def leastExponent : Int := -1074

/-- The exponent of the coarsest numbers. -/
def greatestExponent : Int := 971

/-- Zero. -/
def zero (negative : Bool) : Double := .finite negative 0 leastExponent

/-- The quotient of two numbers, rounded to the nearest one, from the middle to the even one. -/
def roundDiv (a b : Nat) : Nat :=
  let q := a / b
  let r := a % b
  if 2 * r < b then q else if 2 * r = b then q + q % 2 else q + 1

/-- The quotient of `a` and `b * 2 ^ e`, rounded. -/
def roundAt (a b : Nat) (e : Int) : Nat :=
  if e < 0 then roundDiv (a * Nat.pow 2 (-e).toNat) b else roundDiv a (b * Nat.pow 2 e.toNat)

/-- Whether `b * 2 ^ e` is at most `a`. -/
def reaches (a b : Nat) (e : Int) : Bool :=
  if e < 0 then b ≤ a * Nat.pow 2 (-e).toNat else b * Nat.pow 2 e.toNat ≤ a

/-- The number that is nearest to a quotient. -/
def ofRatio (negative : Bool) (a b : Nat) : Double :=
  if a = 0 then zero negative
  else
    let guess : Int := (a.log2 : Int) - b.log2
    let height := if reaches a b guess then guess else guess - 1
    let exponent := max (height - 52) leastExponent
    let mantissa := roundAt a b exponent
    let (mantissa, exponent) := if mantissa = Nat.pow 2 53 then (Nat.pow 2 52, exponent + 1) else (mantissa, exponent)
    if exponent > greatestExponent then .infinite negative else .finite negative mantissa exponent

/-- The number that is nearest to `n * 10 ^ e`. Far from one only the size of the decimal number counts. -/
def ofDecimal (negative : Bool) (n : Nat) (e : Int) : Double :=
  let size := (Text.ofNat n).length + e
  if n = 0 || size < -330 then zero negative
  else if size > 310 then .infinite negative
  else if e < 0 then ofRatio negative n (Nat.pow 10 (-e).toNat)
  else ofRatio negative (n * Nat.pow 10 e.toNat) 1

/-- A number as a fraction. What is infinite is beyond all numbers that can be written down in a file. -/
def scaled? : Double → Option Scaled
  | .finite negative m e => some ⟨if negative then -(m : Int) else m, e⟩
  | .infinite negative => some ⟨if negative then -1 else 1, Int.pow 2 16⟩
  | .undefined _ => none

/-- Whether a number is zero. -/
def isZero : Double → Bool
  | .finite _ m _ => m = 0
  | _ => false

/-! ### Writing -/

/-- The place of the first digit of `a / b`: the largest `p` with `10 ^ p ≤ a / b`, where `a` is not zero. -/
def firstPlace (a b : Nat) : Int :=
  if b ≤ a then (Text.ofNat (a / b)).length - 1
  else
    let steps := (List.range 400).find? fun k => b ≤ a * Nat.pow 10 (k + 1)
    Int.negSucc (steps.getD 0)

/-- The decimal numbers next to `a / b` whose last digit stands at a place, the nearer one first, as factors of the
    place's value. -/
def neighbours (a b : Nat) (place : Int) : List Nat :=
  let (a, b) := if place < 0 then (a * Nat.pow 10 (-place).toNat, b) else (a, b * Nat.pow 10 place.toNat)
  let q := a / b
  if roundDiv a b = q then [q, q + 1] else [q + 1, q]

/-- The digits of a number, as few as lead back to it, and the place of the last one. -/
def shortest (m : Nat) (e : Int) : Nat × Int :=
  let (a, b) := if e < 0 then (m, Nat.pow 2 (-e).toNat) else (m * Nat.pow 2 e.toNat, 1)
  let first := firstPlace a b
  let found := (List.range 17).findSome? fun (k : Nat) =>
    let place := first - k
    ((neighbours a b place).find? fun n => ofDecimal false n place = .finite false m e).map fun n => (n, place)
  found.getD (0, 0)

/-- The digits of a number and the place of the point: the point stands after so many digits. -/
def written (digits : Text) (point : Int) : Text :=
  if -4 < point && point ≤ 16 then
    if point ≤ 0 then "0." ++ List.replicate (-point).toNat '0' ++ digits
    else
      let whole := digits.take point.toNat
      let fraction := digits.drop point.toNat
      whole ++ List.replicate (point.toNat - whole.length) '0' ++ "." ++ (if fraction.isEmpty then ['0'] else fraction)
  else
    let power := point - 1
    let fraction := digits.drop 1
    digits.take 1 ++ (if fraction.isEmpty then [] else '.' :: fraction) ++ "e" ++ (if power < 0 then "-" else "+") ++
      Text.padded 2 power.natAbs

/-- A number as text. It has a point or an exponent, so it is never taken for a whole number. -/
def text : Double → Text
  | .undefined _ => "nan"
  | .infinite negative => if negative then "-inf" else "inf"
  | .finite negative m e =>
    let body :=
      if m = 0 then "0.0".toList
      else
        let (n, place) := shortest m e
        let digits := Text.dropRight (· == '0') (Text.ofNat n)
        written digits ((Text.ofNat n).length + place)
    if negative then '-' :: body else body

end Double
end ApiDocs
