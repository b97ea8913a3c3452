import ApiDocs.Text.Printable

/-! Quoted text: the form in which messages show a text, so that its blanks and controls can be seen. Single quotes
    stand around it, or double ones if it holds a single quote and no double one. -/

namespace ApiDocs.Text

/-- The quote that stands around a text. -/
def quoteFor (s : Text) : Char := if s.contains '\'' && !s.contains '"' then '"' else '\''

/-- A character by its number: two, four or eight hexadecimal digits. -/
def escapeNumber (c : Char) : Text :=
  let n := c.toNat
  if n < 0x100 then "\\x" ++ hex 2 n else if n < 0x10000 then "\\u" ++ hex 4 n else "\\U" ++ hex 8 n

/-- A character between two `quote`s. Printable characters show as they are. -/
def quoteChar (quote : Char) (c : Char) : Text :=
  if c = quote ∨ c = '\\' then ['\\', c]
  else if c = '\n' then "\\n"
  else if c = '\r' then "\\r"
  else if c = '\t' then "\\t"
  else if isPrintable c then [c]
  else escapeNumber c

/-- A text between quotes. -/
def quoted (s : Text) : Text :=
  let quote := quoteFor s
  quote :: s.flatMap (quoteChar quote) ++ [quote]

/-- A text in ASCII: all other characters stand by their numbers. -/
def ascii (s : Text) : Text := s.flatMap fun c => if c.toNat < 0x80 then [c] else escapeNumber c

end ApiDocs.Text
