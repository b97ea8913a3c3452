import ApiDocs.Text.Digit

/-! Slots for the values of fields: `[[fill]align][sign][z][#][0][width][mark][.precision][kind]`. All values have slots
    of this form, but a part that means nothing for a value is refused where the value is put in its slot. A text is
    cut to the precision, and then padded to the width. -/

namespace ApiDocs.Link

/-- The largest number that may stand in a template. -/
def largest : Nat := Nat.pow 2 63 - 1

/-- Where a value stands in its slot. -/
inductive Align
  | left
  | right
  | center
  /-- The padding stands between the sign of a number and its digits. -/
  | inside
deriving DecidableEq

/-- A slot for a value. -/
structure Slot where
  fill : Option Char := none
  align : Option Align := none
  /-- What is written about the sign of a number. -/
  sign : Option Char := none
  /-- Whether zero never has a sign. -/
  unsignedZero : Bool := false
  /-- Whether the base of a number, or its point, is always written. -/
  isExplicit : Bool := false
  /-- Whether a zero stands before the width. -/
  hasZero : Bool := false
  width : Option Nat := none
  /-- What stands between groups of digits. -/
  mark : Option Char := none
  precision : Option Nat := none
  /-- The way of writing. -/
  kind : Option Char := none
deriving DecidableEq

namespace Slot

/-! ### Reading -/

/-- The sign of an alignment. -/
def align? (c : Char) : Option Align :=
  [('<', Align.left), ('>', .right), ('^', .center), ('=', .inside)].lookup c

/-- The number at the start of a text, if there is one, and the rest. A number that is too large is refused. -/
def number? (s : Text) : Option (Option Nat × Text) :=
  let digits := (s.takeWhile Text.isDigit).filterMap Text.digit?
  let n := Text.number digits
  if n > largest then none
  else some (if digits.isEmpty then none else some n, s.dropWhile Text.isDigit)

/-- The alignment at the start of a text, perhaps with a character to fill with, and the rest. -/
def alignment (s : Text) : Option Char × Option Align × Text :=
  let plain : Option Char × Option Align × Text :=
    match s with
    | a :: rest => match align? a with
      | some align => (none, some align, rest)
      | none => (none, none, s)
    | [] => (none, none, s)
  match s with
  | fill :: a :: rest => match align? a with
    | some align => (some fill, some align, rest)
    | none => plain
  | _ => plain

/-- The character at the start of a text, if it is one of some, and the rest. -/
def oneOf (chars : List Char) : Text → Option Char × Text
  | c :: rest => if chars.contains c then (some c, rest) else (none, c :: rest)
  | [] => (none, [])

/-- The precision at the start of a text, and the rest. After a dot there must be a number. -/
def precision? (s : Text) : Option (Option Nat × Text) :=
  match s with
  | '.' :: rest =>
    match number? rest with
    | some (some n, rest) => some (some n, rest)
    | _ => none
  | _ => some (none, s)

/-- The way of writing: at most one character. -/
def kind? : Text → Option (Option Char)
  | [] => some none
  | [c] => some (some c)
  | _ => none

/-- Reads a slot. A zero before the width means nothing if there is a character to fill with: it belongs to the width. -/
def parse? (s : Text) : Option Slot := do
  let (fill, align, s) := alignment s
  let (sign, s) := oneOf [' ', '+', '-'] s
  let (unsignedZero, s) := oneOf ['z'] s
  let (explicit, s) := oneOf ['#'] s
  let (zero, s) := oneOf (if fill.isSome then [] else ['0']) s
  let (width, s) ← number? s
  let (mark, s) := oneOf [',', '_'] s
  let (precision, s) ← precision? s
  let kind ← kind? s
  return {
    fill, align, sign, unsignedZero := unsignedZero.isSome, isExplicit := explicit.isSome, hasZero := zero.isSome, width
    mark, precision, kind }

/-! ### Padding -/

/-- The character to fill with. -/
def filler (p : Slot) : Char := p.fill.getD (if p.hasZero then '0' else ' ')

/-- Whether a slot is one for texts. -/
def isForText (p : Slot) : Bool :=
  p.align != some .inside && p.sign.isNone && !p.unsignedZero && !p.isExplicit && p.mark.isNone &&
    (p.kind.isNone || p.kind == some 's')

/-- How much of some room is left before a value. An odd number of characters around a centered value leaves the greater
    part after it. -/
def roomBefore (room : Nat) : Align → Nat
  | .left | .inside => 0
  | .right => room
  | .center => room / 2

/-- Puts a text in its slot. -/
def text? (p : Slot) (value : Text) : Option Text :=
  if p.isForText then
    let value := match p.precision with
      | none => value
      | some n => value.take n
    let room := p.width.getD 0 - value.length
    let before := roomBefore room (p.align.getD .left)
    some (List.replicate before p.filler ++ value ++ List.replicate (room - before) p.filler)
  else none

end Slot
end ApiDocs.Link
