import ApiDocs.Moment

/-! Dates and times as TOML documents write them. -/

namespace ApiDocs.Toml

/-- A number of exactly `width` decimal digits. -/
def readWidth (width : Nat) (s : Text) : Option (Nat × Text) :=
  let digits := s.take width
  if digits.length = width && digits.all Char.isDigit then
    some (digits.foldl (fun n c => 10 * n + (c.toNat - '0'.toNat)) 0, s.drop width)
  else none

/-- A number of two digits from `least` to `greatest`. -/
def readPair? (least greatest : Nat) (s : Text) : Option (Nat × Text) := do
  let (n, rest) ← readWidth 2 s
  if least ≤ n ∧ n ≤ greatest then some (n, rest) else none

/-- The text after a character. -/
def skipChar (c : Char) : Text → Option Text
  | d :: rest => if d = c then some rest else none
  | [] => none

/-- The form of a date. Its day may be beyond the end of its month. -/
def readDate (s : Text) : Option (Date × Text) := do
  let (year, rest) ← readWidth 4 s
  let (month, rest) ← readPair? 1 12 (← skipChar '-' rest)
  let (day, rest) ← readPair? 1 31 (← skipChar '-' rest)
  return (⟨year, month, day⟩, rest)

/-- The microseconds of a fraction of a second, if there is one. More than six digits are passed over. -/
def readMicroseconds (s : Text) : Nat × Text :=
  match s with
  | '.' :: rest =>
    let digits := rest.takeWhile Char.isDigit
    if digits.isEmpty then (0, s)
    else
      let six := (digits.take 6 ++ List.replicate (6 - digits.length) '0')
      (six.foldl (fun n c => 10 * n + (c.toNat - '0'.toNat)) 0, rest.dropWhile Char.isDigit)
  | _ => (0, s)

/-- A time. -/
def readTime (s : Text) : Option (Time × Text) := do
  let (hour, rest) ← readPair? 0 23 s
  let (minute, rest) ← readPair? 0 59 (← skipChar ':' rest)
  let (second, rest) ← readPair? 0 59 (← skipChar ':' rest)
  let (microsecond, rest) := readMicroseconds rest
  return (⟨hour, minute, second, microsecond⟩, rest)

/-- The minutes by which clocks are ahead, after the sign. -/
def readAhead (sign : Int) (s : Text) : Option (Int × Text) := do
  let (hour, rest) ← readPair? 0 23 s
  let (minute, rest) ← readPair? 0 59 (← skipChar ':' rest)
  return (sign * (hour * 60 + minute), rest)

/-- How far clocks are ahead, if that is said. -/
def readOffset (s : Text) : Option Int × Text :=
  let found : Option (Int × Text) :=
    match s with
    | 'Z' :: rest => some (0, rest)
    | 'z' :: rest => some (0, rest)
    | '+' :: rest => readAhead 1 rest
    | '-' :: rest => readAhead (-1) rest
    | _ => none
  match found with
  | some (ahead, rest) => (some ahead, rest)
  | none => (none, s)

/-- The time after a date, if there is one. -/
def readDayTime (s : Text) : Option (Time × Text) :=
  match s with
  | 'T' :: rest => readTime rest
  | 't' :: rest => readTime rest
  | ' ' :: rest => readTime rest
  | _ => none

/-- A date or a time, and the text after it. -/
def readMoment (s : Text) : Option (Moment × Text) :=
  match readDate s with
  | some (date, rest) =>
    match readDayTime rest with
    | some (time, rest) =>
      let (ahead, rest) := readOffset rest
      some (.both date time ahead, rest)
    | none => some (.date date, rest)
  | none => (readTime s).map fun found => (.time found.1, found.2)

end ApiDocs.Toml
