import ApiDocs.Text.Digit
import ApiDocs.Value

/-! Reading JSON. Members keep their order; a member that comes twice keeps its first place and its last value. A number
    with a fraction or an exponent has double precision. Half of a surrogate pair is refused. -/

namespace ApiDocs.Json

export Text (hexDigit?)

/-- The text after the white space at its start. -/
def skipSpace (s : Text) : Text := s.dropWhile fun c => c == ' ' || c == '\n' || c == '\t' || c == '\r'

/-- The UTF-16 unit that four hexadecimal digits stand for. -/
def unit? (a b c d : Char) : Option Nat := do
  let a ← hexDigit? a
  let b ← hexDigit? b
  let c ← hexDigit? c
  let d ← hexDigit? d
  return ((a * 16 + b) * 16 + c) * 16 + d

/-- The character of a one-letter escape. -/
def escape? (c : Char) : Option Char :=
  [('"', '"'), ('\\', '\\'), ('/', '/'), ('b', '\x08'), ('f', '\x0c'), ('n', '\n'), ('r', '\r'), ('t', '\t')].lookup c

/-- The rest of a string whose opening quote was read, and the text after its closing quote. -/
def readString : Text → Option (Text × Text)
  | [] => none
  | '"' :: rest => some ([], rest)
  | '\\' :: 'u' :: a :: b :: c :: d :: rest => do
    let high ← unit? a b c d
    if 0xD800 ≤ high ∧ high < 0xDC00 then
      match rest with
      | '\\' :: 'u' :: a :: b :: c :: d :: rest => do
        let low ← unit? a b c d
        if 0xDC00 ≤ low ∧ low < 0xE000 then
          let (s, rest) ← readString rest
          return (Char.ofNat (0x10000 + (high - 0xD800) * 0x400 + (low - 0xDC00)) :: s, rest)
        else none
      | _ => none
    else if 0xDC00 ≤ high ∧ high < 0xE000 then none
    else
      let (s, rest) ← readString rest
      return (Char.ofNat high :: s, rest)
  | '\\' :: c :: rest => do
    let c ← escape? c
    let (s, rest) ← readString rest
    return (c :: s, rest)
  | c :: rest =>
    if c.toNat < 0x20 then none
    else do
      let (s, rest) ← readString rest
      return (c :: s, rest)

/-- The digits at the start of a text, and the rest. -/
def spanDigits (s : Text) : Text × Text := (s.takeWhile Char.isDigit, s.dropWhile Char.isDigit)

/-- The number of a row of digits. -/
def numberOf (digits : Text) : Nat := digits.foldl (fun n c => 10 * n + (c.toNat - '0'.toNat)) 0

/-- The digits of a fraction, if there is one. After the point there must be a digit. -/
def readFraction (s : Text) : Option (Text × Text) :=
  match s with
  | '.' :: rest => if (spanDigits rest).1.isEmpty then none else some (spanDigits rest)
  | _ => some ([], s)

/-- The exponent, if there is one. -/
def readExponent (s : Text) : Option (Option Int × Text) :=
  match s with
  | [] => some (none, s)
  | c :: rest =>
    if c = 'e' ∨ c = 'E' then
      let (negative, rest) := match rest with
        | '-' :: rest => (true, rest)
        | '+' :: rest => (false, rest)
        | rest => (false, rest)
      let (digits, rest) := spanDigits rest
      if digits.isEmpty then none
      else
        let n : Int := numberOf digits
        some (some (if negative then -n else n), rest)
    else some (none, s)

/-- A number without its sign. The whole part has no needless zeros at its start. -/
def readNumber (negative : Bool) (s : Text) : Option (Value × Text) := do
  let (whole, rest) := spanDigits s
  if whole.isEmpty || (whole.head? == some '0' && whole.length != 1) then none
  let (fraction, rest) ← readFraction rest
  let (exponent, rest) ← readExponent rest
  if fraction.isEmpty && exponent.isNone then
    let n : Int := numberOf whole
    return (.number (if negative then -n else n), rest)
  else
    return (.real (.ofDecimal negative (numberOf (whole ++ fraction)) (exponent.getD 0 - fraction.length)), rest)

mutual

/-- A value at the start of a text without leading space, and what follows it. The first argument bounds the depth. -/
def readValue : Nat → Text → Option (Value × Text)
  | 0, _ => none
  | fuel + 1, s =>
    match s with
    | '"' :: rest => (readString rest).map fun r => (.text r.1, r.2)
    | '[' :: rest =>
      match skipSpace rest with
      | ']' :: rest => some (.list [], rest)
      | rest => (readItems fuel rest).map fun r => (.list r.1, r.2)
    | '{' :: rest =>
      match skipSpace rest with
      | '}' :: rest => some (.table [], rest)
      | rest => (readEntries fuel rest).map fun r => (.table (Ordered.ofList r.1), r.2)
    | '-' :: rest => readNumber true rest
    | 'n' :: 'u' :: 'l' :: 'l' :: rest => some (.null, rest)
    | 't' :: 'r' :: 'u' :: 'e' :: rest => some (.flag true, rest)
    | 'f' :: 'a' :: 'l' :: 's' :: 'e' :: rest => some (.flag false, rest)
    | _ => readNumber false s

/-- The items of a list up to its closing bracket. -/
def readItems : Nat → Text → Option (List Value × Text)
  | 0, _ => none
  | fuel + 1, s => do
    let (item, rest) ← readValue fuel s
    match skipSpace rest with
    | ']' :: rest => return ([item], rest)
    | ',' :: rest =>
      let (items, rest) ← readItems fuel (skipSpace rest)
      return (item :: items, rest)
    | _ => none

/-- The members of an object up to its closing brace. -/
def readEntries : Nat → Text → Option (List (Text × Value) × Text)
  | 0, _ => none
  | fuel + 1, s =>
    match s with
    | '"' :: rest => do
      let (key, rest) ← readString rest
      match skipSpace rest with
      | ':' :: rest => do
        let (value, rest) ← readValue fuel (skipSpace rest)
        match skipSpace rest with
        | '}' :: rest => return ([(key, value)], rest)
        | ',' :: rest =>
          let (entries, rest) ← readEntries fuel (skipSpace rest)
          return ((key, value) :: entries, rest)
        | _ => none
      | _ => none
    | _ => none

end

/-- The value that a JSON text stands for. -/
def parse (s : Text) : Option Value :=
  match readValue (s.length + 1) (skipSpace s) with
  | some (value, rest) => if (skipSpace rest).isEmpty then some value else none
  | none => none

end ApiDocs.Json
