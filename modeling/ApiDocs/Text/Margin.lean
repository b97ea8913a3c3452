import ApiDocs.Text.Blank

/-! The margin of a comment. A comment is indented with the code around it, except for its first line; `clean` takes
    that indentation away, together with the empty lines at both ends. -/

namespace ApiDocs.Text

/-- Tabs become spaces up to the next column that is a multiple of eight. Columns are counted from `column` on, and
    again from zero after a line feed or a carriage return. -/
def expandTabs (column : Nat) : Text → Text
  | [] => []
  | c :: rest =>
    if c = '\t' then List.replicate (8 - column % 8) ' ' ++ expandTabs 0 rest
    else if c = '\n' ∨ c = '\r' then c :: expandTabs 0 rest
    else c :: expandTabs (column + 1) rest

/-- How many blanks a line begins with. -/
def indentation (line : Text) : Nat := (line.takeWhile isBlank).length

/-- The least indentation of the lines that are not all blank. -/
def margin (body : List Text) : Option Nat := ((body.filter fun line => !allBlank line).map indentation).min?

/-- The lines without their common margin. -/
def dedent (body : List Text) : List Text :=
  match margin body with
  | none => body
  | some m => body.map (·.drop m)

/-- The lines without the empty ones at the start and at the end. A line of blanks is not empty. -/
def dropEmptyEnds (body : List Text) : List Text :=
  ((body.dropWhile List.isEmpty).reverse.dropWhile List.isEmpty).reverse

/-- A comment without its margin: tabs are expanded, the first line loses its blanks, the others the indentation they
    share, and empty lines at both ends go. -/
def clean (s : Text) : Text :=
  match lines (expandTabs 0 s) with
  | [] => []
  | first :: body => unlines (dropEmptyEnds (trimLeft first :: dedent body))

/-- A text whose first line stands as it is and whose other lines are cleaned. -/
def cleanTail (s : Text) : Text :=
  match cutFirst '\n' s with
  | none => s
  | some (first, body) => first ++ '\n' :: clean body

end ApiDocs.Text
