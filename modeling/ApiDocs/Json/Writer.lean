import ApiDocs.Value

/-! JSON text of a value, in ASCII. With an indent every member has a line of its own; without one all is on one line.
    Members keep their order. What is no plain data is written as a string. -/

namespace ApiDocs.Json

/-- A UTF-16 unit as an escape. -/
def unit (n : Nat) : Text := "\\u" ++ Text.hex 4 n

/-- A character of a string. Characters beyond U+FFFF are written as two units. -/
def char (c : Char) : Text :=
  if c = '"' then "\\\""
  else if c = '\\' then "\\\\"
  else if c = '\n' then "\\n"
  else if c = '\r' then "\\r"
  else if c = '\t' then "\\t"
  else if c = '\x08' then "\\b"
  else if c = '\x0c' then "\\f"
  else if 0x20 ≤ c.toNat ∧ c.toNat ≤ 0x7E then [c]
  else if c.toNat < 0x10000 then unit c.toNat
  else unit (0xD800 + (c.toNat - 0x10000) / 0x400) ++ unit (0xDC00 + (c.toNat - 0x10000) % 0x400)

/-- A string with its quotes. -/
def string (s : Text) : Text := '"' :: s.flatMap char ++ ['"']

/-- The start of a line at a depth, if there are lines. -/
def newline (indent : Option Nat) (depth : Nat) : Text :=
  match indent with
  | none => []
  | some width => '\n' :: List.replicate (width * depth) ' '

/-- What stands between two members at a depth. -/
def comma (indent : Option Nat) (depth : Nat) : Text :=
  match indent with
  | none => ", "
  | some _ => ',' :: newline indent depth

/-- Members at a depth between two brackets; without members the brackets stand alone. -/
def bracket (indent : Option Nat) (depth : Nat) (opening closing : Char) (members : List Text) : Text :=
  if members.isEmpty then [opening, closing]
  else opening :: newline indent (depth + 1) ++ Text.join (comma indent (depth + 1)) members ++
    newline indent depth ++ [closing]

/-- A number of double precision. -/
def real : Double → Text
  | .undefined _ => "NaN"
  | .infinite negative => if negative then "-Infinity" else "Infinity"
  | x => x.text

mutual

/-- A value that stands at a depth. -/
def renderAt (indent : Option Nat) (depth : Nat) : Value → Text
  | .null => "null"
  | .flag true => "true"
  | .flag false => "false"
  | .number n => Text.ofInt n
  | .real x => real x
  | .text s => string s
  | .list items => bracket indent depth '[' ']' (renderItems indent (depth + 1) items)
  | .table entries => bracket indent depth '{' '}' (renderEntries indent (depth + 1) entries)
  | .moment moment => string moment.written
  | .other written _ => string written

/-- The items of a list that stand at a depth. -/
def renderItems (indent : Option Nat) (depth : Nat) : List Value → List Text
  | [] => []
  | item :: rest => renderAt indent depth item :: renderItems indent depth rest

/-- The entries of a table that stand at a depth. -/
def renderEntries (indent : Option Nat) (depth : Nat) : List (Text × Value) → List Text
  | [] => []
  | (key, value) :: rest =>
    (string key ++ ": " ++ renderAt indent depth value) :: renderEntries indent depth rest

end

/-- The JSON text of a value. -/
def render (indent : Option Nat) (value : Value) : Text := renderAt indent 0 value

end ApiDocs.Json
