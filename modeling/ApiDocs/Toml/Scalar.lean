import ApiDocs.Text.Digit
import ApiDocs.Value

/-! The smallest parts of a TOML document: white space, comments, keys, strings and numbers. Every reader takes the text
    from where it stands, and gives what it read with the text after it. -/

namespace ApiDocs.Toml

/-- White space within a line. -/
def isSpace (c : Char) : Bool := c == ' ' || c == '\t'

/-- The text after the white space at its start. -/
def skipSpace (s : Text) : Text := s.dropWhile isSpace

/-- Control characters, which may not stand in comments or strings. A tab may. -/
def isControl (c : Char) : Bool := (c.toNat < 0x20 && c != '\t') || c.toNat == 0x7F

/-- The text after a comment, if it starts with one. -/
def skipComment : Text → Option Text
  | '#' :: rest =>
    if (rest.takeWhile (· != '\n')).any isControl then none else some (rest.dropWhile (· != '\n'))
  | s => some s

/-! ### Strings -/

/-- The character that hexadecimal digits stand for. -/
def scalar? (digits : Text) : Option Char := do
  let values ← digits.mapM Text.hexDigit?
  let n := values.foldl (fun n d => 16 * n + d) 0
  if n.isValidChar then some (Char.ofNat n) else none

/-- The character of a one-letter escape. -/
def escape? (c : Char) : Option Char :=
  [('b', '\x08'), ('t', '\t'), ('n', '\n'), ('f', '\x0c'), ('r', '\r'), ('"', '"'), ('\\', '\\')].lookup c

/-- What an escape stands for, from the character after the backslash on. In a string of several lines a backslash at
    the end of a line takes away the white space up to the next text. -/
def readEscape (multiline : Bool) (s : Text) : Option (Text × Text) :=
  match s with
  | [] => none
  | 'u' :: rest => (scalar? (rest.take 4)).bind fun c => if rest.length < 4 then none else some ([c], rest.drop 4)
  | 'U' :: rest => (scalar? (rest.take 8)).bind fun c => if rest.length < 8 then none else some ([c], rest.drop 8)
  | c :: rest =>
    if multiline && (isSpace c || c == '\n') then
      match skipSpace s with
      | '\n' :: rest => some ([], rest.dropWhile fun c => isSpace c || c == '\n')
      | _ => none
    else (escape? c).map fun c => ([c], rest)

/-- The rest of a string with escapes on one line, after its opening quote. The first argument bounds its length. -/
def readBasic : Nat → Text → Option (Text × Text)
  | 0, _ => none
  | fuel + 1, s =>
    match s with
    | [] => none
    | '"' :: rest => some ([], rest)
    | '\\' :: rest => do
      let (escaped, rest) ← readEscape false rest
      let (text, rest) ← readBasic fuel rest
      return (escaped ++ text, rest)
    | c :: rest => do
      if isControl c then none
      let (text, rest) ← readBasic fuel rest
      return (c :: text, rest)

/-- The rest of a string without escapes on one line, after its opening quote. -/
def readLiteral : Text → Option (Text × Text)
  | [] => none
  | '\'' :: rest => some ([], rest)
  | c :: rest => do
    if isControl c then none
    let (text, rest) ← readLiteral rest
    return (c :: text, rest)

/-- The end of a string of several lines, from its closing quotes on: one or two quotes more belong to the string. -/
def closing? (quote : Char) : Text → Option (Text × Text)
  | a :: b :: c :: rest =>
    if a = quote ∧ b = quote ∧ c = quote then
      let extra := (rest.take 2).takeWhile (· == quote)
      some (extra, rest.drop extra.length)
    else none
  | _ => none

/-- The rest of a string of several lines, after its opening quotes. The first argument bounds its length. -/
def readLines (quote : Char) (escapes : Bool) : Nat → Text → Option (Text × Text)
  | 0, _ => none
  | fuel + 1, s =>
    match closing? quote s, s with
    | some ended, _ => some ended
    | none, [] => none
    | none, c :: rest => do
      if escapes && c == '\\' then
        let (escaped, rest) ← readEscape true rest
        let (text, rest) ← readLines quote escapes fuel rest
        return (escaped ++ text, rest)
      else
        if isControl c && c != '\n' then none
        let (text, rest) ← readLines quote escapes fuel rest
        return (c :: text, rest)

/-- The text without a line feed at its start. -/
def dropFeed : Text → Text
  | '\n' :: rest => rest
  | s => s

/-- A string of any of the four kinds. -/
def readString (s : Text) : Option (Text × Text) :=
  match s with
  | '"' :: '"' :: '"' :: rest => readLines '"' true (rest.length + 1) (dropFeed rest)
  | '\'' :: '\'' :: '\'' :: rest => readLines '\'' false (rest.length + 1) (dropFeed rest)
  | '"' :: rest => readBasic (rest.length + 1) rest
  | '\'' :: rest => readLiteral rest
  | _ => none

/-! ### Keys -/

/-- The characters of a key without quotes. -/
def isBare (c : Char) : Bool := c.isAlphanum || c == '-' || c == '_'

/-- One part of a dotted key. Its strings have one line. -/
def readKeyPart (s : Text) : Option (Text × Text) :=
  match s with
  | '"' :: rest => readBasic (rest.length + 1) rest
  | '\'' :: rest => readLiteral rest
  | _ => if (s.takeWhile isBare).isEmpty then none else some (s.takeWhile isBare, s.dropWhile isBare)

/-- A dotted key, and the text after the white space that follows it. The first argument bounds the number of parts. -/
def readKey : Nat → Text → Option (List Text × Text)
  | 0, _ => none
  | fuel + 1, s => do
    let (part, rest) ← readKeyPart s
    match skipSpace rest with
    | '.' :: rest =>
      let (parts, rest) ← readKey fuel (skipSpace rest)
      return (part :: parts, rest)
    | rest => return ([part], rest)

/-! ### Numbers -/

/-- Digits of a base, with single underscores between them. -/
def readDigits (base : Nat) : Text → List Nat × Text
  | [] => ([], [])
  | '_' :: d :: rest =>
    match Text.hexDigit? d with
    | some n => if n < base then let (ds, rest) := readDigits base rest; (n :: ds, rest) else ([], '_' :: d :: rest)
    | none => ([], '_' :: d :: rest)
  | d :: rest =>
    match Text.hexDigit? d with
    | some n => if n < base then let (ds, rest) := readDigits base rest; (n :: ds, rest) else ([], d :: rest)
    | none => ([], d :: rest)

/-- The number of a row of digits that does not start with an underscore. -/
def readNatural (base : Nat) (s : Text) : Option (Nat × Text) :=
  match s with
  | '_' :: _ => none
  | _ =>
    match readDigits base s with
    | ([], _) => none
    | (digits, rest) => some (digits.foldl (fun n d => base * n + d) 0, rest)

/-- A decimal number. Zero has no further digits. -/
def readDecimal (s : Text) : Option (Nat × Text) :=
  match s with
  | '0' :: rest => some (0, rest)
  | _ => readNatural 10 s

/-- The digits at the start of a text, if it starts with one. -/
def readRow (s : Text) : Option (List Nat × Text) :=
  match s with
  | '_' :: _ => none
  | _ =>
    match readDigits 10 s with
    | ([], _) => none
    | found => some found

/-- The digits of a fraction, if there is one. -/
def readFraction (s : Text) : Option (List Nat × Text) :=
  match s with
  | '.' :: rest => readRow rest
  | _ => none

/-- An exponent, if there is one. -/
def readExponent (s : Text) : Option (Int × Text) :=
  match s with
  | [] => none
  | c :: rest =>
    if c = 'e' ∨ c = 'E' then
      let (sign, rest) : Int × Text := match rest with
        | '-' :: rest => (-1, rest)
        | '+' :: rest => (1, rest)
        | rest => (1, rest)
      (readRow rest).map fun r => (sign * (r.1.foldl (fun n d => 10 * n + d) 0 : Nat), r.2)
    else none

/-- A decimal number without its sign. With a fraction or an exponent it has double precision. -/
def readUnsigned (negative : Bool) (s : Text) : Option (Value × Text) := do
  let (whole, rest) ← readDecimal s
  let fraction := readFraction rest
  let rest := (fraction.map (·.2)).getD rest
  let exponent := readExponent rest
  let rest := (exponent.map (·.2)).getD rest
  if fraction.isNone && exponent.isNone then
    return (.number (if negative then -(whole : Int) else whole), rest)
  else
    let digits := (fraction.map (·.1)).getD []
    let n := digits.foldl (fun n d => 10 * n + d) whole
    return (.real (.ofDecimal negative n ((exponent.map (·.1)).getD 0 - digits.length)), rest)

/-- What is infinite, or no number, without its sign. What is no number is known by where it stands in the document. -/
def readSpecial (negative : Bool) (s : Text) : Option (Value × Text) :=
  match s with
  | 'i' :: 'n' :: 'f' :: rest => some (.real (.infinite negative), rest)
  | 'n' :: 'a' :: 'n' :: rest => some (.real (.undefined rest.length), rest)
  | _ => none

/-- A number. Only decimal numbers have a sign. -/
def readNumber (s : Text) : Option (Value × Text) :=
  match s with
  | '+' :: rest => (readUnsigned false rest).or (readSpecial false rest)
  | '-' :: rest => (readUnsigned true rest).or (readSpecial true rest)
  | '0' :: 'x' :: rest => (readNatural 16 rest).map fun r => (.number r.1, r.2)
  | '0' :: 'o' :: rest => (readNatural 8 rest).map fun r => (.number r.1, r.2)
  | '0' :: 'b' :: rest => (readNatural 2 rest).map fun r => (.number r.1, r.2)
  | _ => (readUnsigned false s).or (readSpecial false s)

end ApiDocs.Toml
