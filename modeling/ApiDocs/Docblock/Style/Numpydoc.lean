import ApiDocs.Docblock.Outline
import ApiDocs.Text.Cut

/-! The numpydoc style: a title underlined with as many dashes as it has letters starts a section. In most sections a
    line that is not indented starts an entry. No docblock is refused. -/

namespace ApiDocs.Docblock.Numpydoc

/-- What a section is about. -/
inductive Section
  | params
  | raises
  | returns
  | yields
  | examples
  | other
deriving DecidableEq

/-- The titles of sections. -/
def titles : List (Text × Section) :=
  [("Parameters", .params), ("Params", .params), ("Arguments", .params), ("Args", .params),
   ("Other Parameters", .params), ("Other Params", .params), ("Other Arguments", .params), ("Other Args", .params),
   ("Receives", .params), ("Receive", .params), ("Raises", .raises), ("Raise", .raises), ("Warns", .raises),
   ("Warn", .raises), ("Attributes", .params), ("Attribute", .params), ("Returns", .returns), ("Return", .returns),
   ("Yields", .yields), ("Yield", .yields), ("Examples", .examples), ("Example", .examples), ("Warnings", .other),
   ("Warning", .other), ("See Also", .other), ("Related", .other), ("Notes", .other), ("Note", .other),
   ("References", .other), ("Reference", .other)]

/-! ### Sections -/

/-- What follows an underline. Blank lines after it belong to it, up to the last line feed before anything else; on
    its own line only blanks may follow. -/
def afterUnderline? (s : Text) : Option Text :=
  let gap := s.takeWhile Text.isBlank
  let rest := s.dropWhile Text.isBlank
  if rest.isEmpty then some []
  else (Text.cutLast '\n' gap).map fun cut => '\n' :: cut.2 ++ rest

/-- The body of a section whose title a text starts with. -/
def underlined? (title s : Text) : Option Text := do
  let rest ← Text.after? title s
  let gap := rest.takeWhile Text.isBlank
  if gap.getLast? == some '\n' then
    let rest ← Text.after? (List.replicate title.length '-') (rest.dropWhile Text.isBlank)
    afterUnderline? rest
  else none

/-- The body of a note on deprecation at the start of a text. -/
def deprecation? (s : Text) : Option Text := do
  let rest ← Text.after? ".." s
  let rest ← Text.after? "deprecated" (Text.trimLeft rest)
  Text.after? "::" (Text.trimLeft rest)

/-- The section that a text starts with, and its body. -/
def section? (s : Text) : Option (Section × Text) :=
  (titles.findSome? fun title => (underlined? title.1 s).map fun body => (title.2, body)).or
    ((deprecation? s).map fun body => (.other, body))

/-! ### Entries -/

/-- The entries of a body: a line that is not indented, and the cleaned and trimmed text below it. -/
def entries (body : Text) : List (Text × Text) :=
  (Text.cutBefore Text.startsSolid body).2.map fun piece =>
    (piece.takeWhile (· != '\n'), Text.trim (Text.clean (piece.dropWhile (· != '\n'))))

/-- What stands before the first of some marks in a text. -/
def upTo? (marks : List Text) : Text → Option Text
  | [] => if marks.contains [] then some [] else none
  | c :: rest =>
    if marks.any fun mark => mark.isPrefixOf (c :: rest) then some [] else (upTo? marks rest).map (c :: ·)

/-- A type without the marks of an optional parameter and of its default. -/
def bareType (type : Text) : Text :=
  let type := ((Text.before? ", optional" type).or (Text.before? "(optional)" type)).getD type
  (upTo? [", default", "(default)"] type).getD type

/-- A parameter: its name, and perhaps a colon and its type. -/
def param (entry : Text × Text) : Item :=
  match Text.cutFirst ':' entry.1 with
  | none => .param entry.1 none entry.2
  | some (name, type) => .param (Text.trimRight name) (some (bareType (Text.trimLeft type))) entry.2

/-- What is returned: perhaps a name and a colon, and the type. -/
def returns (generator : Bool) (entry : Text × Text) : Item :=
  match Text.cutFirst ':' entry.1 with
  | none => .returns (some entry.1) entry.2 generator
  | some (_, type) => .returns (some (Text.trimLeft type)) entry.2 generator

/-! ### Examples -/

/-- A character that ends a line on display. -/
def isBreak (c : Char) : Bool :=
  let n := c.toNat
  (0x0A ≤ n && n ≤ 0x0D) || (0x1C ≤ n && n ≤ 0x1E) || n == 0x85 || n == 0x2028 || n == 0x2029

/-- A text in which a carriage return and a line feed are one line feed. -/
def joinReturns : Text → Text
  | '\r' :: '\n' :: rest => '\n' :: joinReturns rest
  | c :: rest => c :: joinReturns rest
  | [] => []

/-- The lines of a text on display. A break at the end starts no line. -/
def displayLines (s : Text) : List Text :=
  let parts := Text.splitWith isBreak (joinReturns s)
  if parts.getLast? == some [] then parts.dropLast else parts

/-- How many spaces all lines that are not empty begin with. -/
def commonSpaces (body : List Text) : Nat :=
  (((body.filter fun line => !line.all (· == ' ')).map fun line => (line.takeWhile (· == ' ')).length).min?).getD 0

/-- The lines of a body of examples, from its first to its last line that is not blank. -/
def exampleLines (body : Text) : List Text :=
  let rows := (Text.lines body).map fun line => if line.all (· == ' ') then [] else line
  displayLines (Text.trim (Text.unlines (rows.map (·.drop (commonSpaces rows)))))

/-- How many groups there are of lines with a prompt and the lines that follow them. Lines before the first prompt are
    a group too; `prompted` says whether the line before had one. -/
def groups (prompted : Bool) : List Text → Nat
  | [] => 0
  | line :: rest =>
    let prompt := (">>>".toList).isPrefixOf line
    (if prompt && !prompted then 1 else 0) + groups prompt rest

/-- One item for each group of examples. -/
def examples (body : Text) : List Item :=
  let rows := exampleLines body
  let before := match rows with
    | [] => 0
    | line :: _ => if (">>>".toList).isPrefixOf line then 0 else 1
  List.replicate (before + groups false rows) .other

/-! ### Reading -/

/-- The items of a section. -/
def sectionItems (sect : Section) (body : Text) : List Item :=
  match sect with
  | .params => (entries body).map param
  | .raises => (entries body).map fun entry => .raises (some entry.1) entry.2
  | .returns => (entries body).map (returns false)
  | .yields => (entries body).map (returns true)
  | .examples => examples body
  | .other => [.other]

/-- Reads a docblock. -/
def read (s : Text) : Outline :=
  let (lead, pieces) := Text.cutBefore (fun rest => (section? rest).isSome) (Text.clean s)
  Outline.ofLead lead (pieces.flatMap fun piece =>
    match section? piece with
    | some (sect, body) => sectionItems sect body
    | none => [])

end ApiDocs.Docblock.Numpydoc
