import ApiDocs.Fault
import ApiDocs.Text.Utf8
import ApiDocs.Toml.Document
import ApiDocs.Toml.Moment
import ApiDocs.Toml.Scalar

/-! Reading TOML documents. A document is read statement by statement; each one opens a table or gives a key of the open
    table its value. -/

namespace ApiDocs.Toml

/-- The text after white space, line ends and comments. The first argument bounds the number of comments. -/
def skipBetween : Nat → Text → Option Text
  | 0, _ => none
  | fuel + 1, s =>
    match s.dropWhile fun c => isSpace c || c == '\n' with
    | '#' :: rest => (skipComment ('#' :: rest)).bind (skipBetween fuel)
    | rest => some rest

/-- What was read, or the fault that something does not follow the format. -/
def formed {α : Type} : Option α → Except Fault α
  | some found => .ok found
  | none => .error .tomlForm

/-- The number of digits that a decimal number may have. -/
def longestNumber : Nat := 4300

/-- A number, which may not have too many decimal digits. One that starts with a zero is zero or has another base. -/
def readShortNumber (s : Text) : Except Fault (Value × Text) :=
  match readNumber s with
  | some (.number n, rest) =>
    if s.head? != some '0' && Nat.pow 10 longestNumber ≤ n.natAbs then .error .numberTooLong else .ok (.number n, rest)
  | found => formed found

mutual

/-- A value. The first argument bounds the depth. -/
def readValue : Nat → Text → Except Fault (Value × Text)
  | 0, _ => .error .tomlForm
  | fuel + 1, s =>
    match s with
    | '"' :: _ => formed ((readString s).map fun r => (.text r.1, r.2))
    | '\'' :: _ => formed ((readString s).map fun r => (.text r.1, r.2))
    | 't' :: 'r' :: 'u' :: 'e' :: rest => .ok (.flag true, rest)
    | 'f' :: 'a' :: 'l' :: 's' :: 'e' :: rest => .ok (.flag false, rest)
    | '[' :: rest => (readItems fuel rest).map fun r => (.list r.1, r.2)
    | '{' :: rest =>
      match skipSpace rest with
      | '}' :: rest => .ok (.table [], rest)
      | rest => (readMembers fuel [] rest).map fun r => (.table (entryValues r.1), r.2)
    | _ =>
      match readMoment s with
      | some (moment, rest) => if moment.isValid then .ok (.moment moment, rest) else .error .tomlForm
      | none => readShortNumber s

/-- The items of a list up to its closing bracket. A comma may stand after the last one. -/
def readItems : Nat → Text → Except Fault (List Value × Text)
  | 0, _ => .error .tomlForm
  | fuel + 1, s => do
    match ← formed (skipBetween (s.length + 1) s) with
    | ']' :: rest => return ([], rest)
    | rest =>
      let (item, rest) ← readValue fuel rest
      match ← formed (skipBetween (rest.length + 1) rest) with
      | ']' :: rest => return ([item], rest)
      | ',' :: rest =>
        let (items, rest) ← readItems fuel rest
        return (item :: items, rest)
      | _ => throw .tomlForm

/-- The members of a table on one line up to its closing brace, after those that were read. -/
def readMembers : Nat → Entries → Text → Except Fault (Entries × Text)
  | 0, _, _ => .error .tomlForm
  | fuel + 1, entries, s => do
    let (key, rest) ← formed (readKey (s.length + 1) s)
    match rest with
    | '=' :: rest =>
      let (value, rest) ← readValue fuel (skipSpace rest)
      let entries ← formed (entries.assign 0 value key)
      match skipSpace rest with
      | '}' :: rest => return (entries, rest)
      | ',' :: rest => readMembers fuel entries (skipSpace rest)
      | _ => throw .tomlForm
    | _ => throw .tomlForm

end

/-- How far a document is read: its entries, the header of the open table, and the number of headers so far. -/
structure Progress where
  entries : Entries := []
  header : List Text := []
  current : Nat := 0

/-- A header of a table or of a list of tables. -/
def readHeader (progress : Progress) (s : Text) : Option (Progress × Text) := do
  let current := progress.current + 1
  match s with
  | '[' :: '[' :: rest =>
    let (header, rest) ← readKey (rest.length + 1) (skipSpace rest)
    match rest with
    | ']' :: ']' :: rest => return ({ entries := ← progress.entries.append header, header, current }, rest)
    | _ => none
  | '[' :: rest =>
    let (header, rest) ← readKey (rest.length + 1) (skipSpace rest)
    match rest with
    | ']' :: rest => return ({ entries := ← progress.entries.declare current header, header, current }, rest)
    | _ => none
  | _ => none

/-- A key with its value. -/
def readPair (progress : Progress) (s : Text) : Except Fault (Progress × Text) := do
  let (key, rest) ← formed (readKey (s.length + 1) s)
  match rest with
  | '=' :: rest =>
    let (value, rest) ← readValue (rest.length + 1) (skipSpace rest)
    let entries ← formed (progress.entries.inside (Entries.assign progress.current value key) progress.header)
    return ({ progress with entries }, rest)
  | _ => throw .tomlForm

/-- The statement at the start of a line, if there is one. -/
def readStatement (progress : Progress) (s : Text) : Except Fault (Progress × Text) :=
  match s with
  | [] => .ok (progress, [])
  | '\n' :: _ => .ok (progress, s)
  | '#' :: _ => .ok (progress, s)
  | '[' :: _ => formed (readHeader progress s)
  | _ => readPair progress s

/-- The lines of a document. The first argument bounds their number. -/
def readLinesFrom : Nat → Progress → Text → Except Fault Entries
  | 0, _, _ => .error .tomlForm
  | fuel + 1, progress, s => do
    let (progress, rest) ← readStatement progress (skipSpace s)
    match ← formed (skipComment (skipSpace rest)) with
    | [] => return progress.entries
    | '\n' :: rest => readLinesFrom fuel progress rest
    | _ => throw .tomlForm

/-- The text with one line feed for each line end. -/
def plainFeeds : Text → Text
  | '\r' :: '\n' :: rest => '\n' :: plainFeeds rest
  | c :: rest => c :: plainFeeds rest
  | [] => []

/-- The table that a TOML document stands for. Arrays and tables may be nested to any depth: a document is taken to stay
    within what the interpreter's limit on recursion lets it follow. -/
def parse (s : Text) : Except Fault (List (Text × Value)) :=
  (readLinesFrom (s.length + 1) {} (plainFeeds s)).map entryValues

/-- The table of a TOML file. -/
def ofBytes (bytes : List UInt8) : Except Fault (List (Text × Value)) :=
  match Text.decode bytes with
  | none => .error .encoding
  | some s => parse s

end ApiDocs.Toml
