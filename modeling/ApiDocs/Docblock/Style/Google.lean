import ApiDocs.Docblock.Outline
import ApiDocs.Fault
import ApiDocs.Ordered
import ApiDocs.Text.Cut

/-! The Google style: a title with a colon on a line of its own starts a section. Most sections list entries, each of
    them a name, a colon and a description, at the indentation of the first. -/

namespace ApiDocs.Docblock.Google

/-- What a section is about. -/
inductive Section
  | params
  | raises
  | returns
  | yields
  | examples
deriving DecidableEq

namespace Section

/-- Sections that list entries whatever they hold. The others may hold a single text. -/
def isList : Section → Bool
  | .params | .raises => true
  | _ => false

end Section

/-- The titles of sections. -/
def titles : List (Text × Section) :=
  [("Arguments", .params), ("Args", .params), ("Parameters", .params), ("Params", .params), ("Raises", .raises),
   ("Exceptions", .raises), ("Except", .raises), ("Attributes", .params), ("Example", .examples),
   ("Examples", .examples), ("Returns", .returns), ("Yields", .yields)]

/-! ### Sections -/

/-- The space that may follow a title on its line. -/
def isLineSpace (c : Char) : Bool := c == ' ' || c == '\t' || c == '\r' || c == '\x0c' || c == '\x0b'

/-- The title that a line consists of. -/
def title? (line : Text) : Option Text :=
  match Text.cutFirst ':' line with
  | some (title, rest) => if (titles.lookup title).isSome && rest.all isLineSpace then some title else none
  | none => none

/-- The first line of a text. -/
def firstLine (s : Text) : Text := s.takeWhile (· != '\n')

/-- The body of a section: the lines up to the first that is not indented, without empty ones at the ends. -/
def body (piece : Text) : Text :=
  Text.unlines (Text.dropEmptyEnds (((Text.lines piece).drop 1).takeWhile fun line => !Text.startsSolid line))

/-- The sections of a docblock, by their titles. A title that comes again replaces the body of the first. -/
def sections (pieces : List Text) : List (Text × Text) :=
  Ordered.ofList (pieces.filterMap fun piece => (title? (firstLine piece)).map fun title => (title, body piece))

/-! ### Entries -/

/-- Whether an entry starts at a line: the indentation, and then a character that is not blank. -/
def startsEntry (indent : Text) (s : Text) : Bool :=
  match Text.after? indent s with
  | some rest => Text.startsSolid rest
  | none => false

/-- The entries of a section that lists them, without their indentation. -/
def entries (title body : Text) : Except Malformed (List Text) :=
  let indent := body.takeWhile Text.isBlank
  match (Text.cutBefore (startsEntry indent) body).2 with
  | [] => .error (.emptySection title body)
  | pieces => .ok (pieces.map fun piece => Text.stripFeeds (piece.drop indent.length))

/-- Whether a text about what is returned gives a type before a colon: it starts with a word and a colon, or its first
    colon comes after a closing bracket. -/
def hasType (s : Text) : Bool :=
  match Text.cutFirst ':' s with
  | none => false
  | some (before, _) =>
    let word := Text.trimLeft before
    (!word.isEmpty && word.all fun c => !Text.isBlank c) || before.getLast? == some ']'

/-! ### Names with types -/

/-- The type in brackets: the longest text on the line that ends in no blank and is followed by a bracket, where `s`
    stands after the opening bracket. -/
def bracketed? (s : Text) : Option Text :=
  let s := Text.trimLeft s
  let line := firstLine s
  (List.range line.length).reverse.findSome? fun n =>
    let type := line.take (n + 1)
    let closed := (Text.trimLeft (s.drop (n + 1))).head? == some ')'
    if (type.getLast?.any fun c => !Text.isBlank c) && closed then some type else none

/-- The shortest name at the start of `s` that is followed by a type in brackets, and the type. -/
def nameThenType? (s : Text) : Option (Text × Text) :=
  (List.range (firstLine s).length).findSome? fun n =>
    match Text.trimLeft (s.drop (n + 1)) with
    | '(' :: rest => (bracketed? rest).map fun type => (s.take (n + 1), type)
    | _ => none

/-- A name and its type in brackets. The name starts after as many blanks as can be. -/
def typedName? (s : Text) : Option (Text × Text) :=
  (List.range (Text.indentation s + 1)).reverse.findSome? fun n => nameThenType? (s.drop n)

/-- A type without the mark of an optional parameter. -/
def dropOptional (type : Text) : Text :=
  match Text.before? ", optional" type with
  | some type => type
  | none => Docblock.dropOptional type

/-- The item of a parameter, from what stands before and after the colon. -/
def param (before desc : Text) : Item :=
  match typedName? before with
  | some (name, type) => .param name (some (dropOptional type)) desc
  | none => .param before none desc

/-! ### Items -/

/-- What stands before the colon of an entry, on one line. -/
def joinHeader (before : Text) : Text :=
  match Text.cutFirst '\n' before with
  | none => before
  | some (first, rest) => first ++ Text.clean rest

/-- The description of an entry, from what stands after its colon. -/
def description (rest : Text) : Text :=
  Text.stripFeeds (Text.cleanTail ((Text.after? " " rest).getD rest))

/-- The item of an entry with a colon. -/
def entryItem (sect : Section) (entry : Text) : Except Malformed Item :=
  match Text.cutFirst ':' entry with
  | none => .error (.missingColon entry)
  | some (before, rest) =>
    let before := joinHeader before
    let desc := description rest
    .ok <| match sect with
      | .params => param before desc
      | .raises => .raises (some before) desc
      | .returns => .returns (some before) desc false
      | .yields => .returns (some before) desc true
      | .examples => .other

/-- The item of a text in a section. -/
def item (sect : Section) (s : Text) : Except Malformed Item :=
  match sect with
  | .examples => .ok .other
  | .returns => if hasType s then entryItem sect s else .ok (.returns none s false)
  | .yields => if hasType s then entryItem sect s else .ok (.returns none s true)
  | _ => entryItem sect s

/-- The items of a section. -/
def sectionItems (title body : Text) : Except Malformed (List Item) :=
  match titles.lookup title with
  | none => .ok []
  | some sect =>
    if sect.isList then do
      let texts ← entries title body
      texts.mapM (item sect)
    else (item sect (Text.clean body)).map fun found => [found]

/-- Reads a docblock. -/
def read (s : Text) : Except Malformed Outline := do
  let (lead, pieces) := Text.cutBefore (fun rest => (title? (firstLine rest)).isSome) (Text.clean s)
  let found ← (sections pieces).mapM fun sect => sectionItems sect.1 sect.2
  return Outline.ofLead lead found.flatten

end ApiDocs.Docblock.Google
