import ApiDocs.Text.Basic

/-! Blank characters: the white space of Unicode together with the four separators U+001C to U+001F. They part words
    and are trimmed from the ends of a text. -/

namespace ApiDocs.Text

/-- White space, in lines or between them. -/
def isBlank (c : Char) : Bool :=
  let n := c.toNat
  (0x09 ≤ n && n ≤ 0x0D) || (0x1C ≤ n && n ≤ 0x20) || n == 0x85 || n == 0xA0 || n == 0x1680 ||
    (0x2000 ≤ n && n ≤ 0x200A) || n == 0x2028 || n == 0x2029 || n == 0x202F || n == 0x205F || n == 0x3000

/-- The text without the blanks at its start. -/
def trimLeft (s : Text) : Text := s.dropWhile isBlank

/-- The text without the blanks at its end. -/
def trimRight (s : Text) : Text := dropRight isBlank s

/-- The text without the blanks at both ends. -/
def trim (s : Text) : Text := trimRight (trimLeft s)

/-- Whether a text has blanks only; the empty text is one. -/
def allBlank (s : Text) : Bool := s.all isBlank

/-- The words of a text: its longest parts without a blank. -/
def words (s : Text) : List Text := (splitWith isBlank s).filter (· != [])

/-- Whether a text begins with a character that is not blank. -/
def startsSolid : Text → Bool
  | [] => false
  | c :: _ => !isBlank c

end ApiDocs.Text
