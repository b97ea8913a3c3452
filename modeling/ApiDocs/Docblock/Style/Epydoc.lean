import ApiDocs.Docblock.Outline
import ApiDocs.Fault
import ApiDocs.Text.Cut

/-! The epydoc style: a line that begins with `@` starts a tag, and the tag runs to the next such line. The word and the
    arguments of a tag are looked for in the whole of it, not only at its start. -/

namespace ApiDocs.Docblock.Epydoc

/-! ### Headers -/

/-- A character that a name can start with: the code points from `A` to `z`, with the signs between the two alphabets. -/
def isNameStart (c : Char) : Bool := 'A' ≤ c && c ≤ 'z'

/-- A character of a name. -/
def isNameChar (c : Char) : Bool := isNameStart c || c.isDigit

/-- Whether a word is a name, perhaps with a question mark behind it. -/
def isArgument : Text → Bool
  | [] => false
  | c :: rest => isNameStart c && (rest.dropWhile isNameChar == [] || rest.dropWhile isNameChar == ['?'])

/-- The arguments between a tag's word and its colon, each after a gap, and the text after the colon. -/
def arguments? : Text → Option (List Text × Text)
  | ':' :: rest => some ([], rest)
  | c :: rest =>
    if Text.isBlank c then do
      let (gap, rest) ← Text.cutFirst ':' rest
      let args := Text.words gap
      if args.isEmpty || Text.trimRight gap != gap || !args.all isArgument then none else some (args, rest)
    else none
  | [] => none

/-- One of the words `keys` with its arguments at the start of a text. -/
def keyword? (keys : List Text) (s : Text) : Option (Text × List Text × Text) :=
  keys.findSome? fun key => do
    let rest ← Text.after? key s
    let (args, rest) ← arguments? rest
    return (key, args, rest)

/-- What a tag is about. -/
inductive Subject
  /-- A parameter or attribute, or its type. -/
  | param (name : Text) (isType : Bool)
  /-- What is returned or yielded, or its type. -/
  | returns (isType generator : Bool)
  /-- What is raised. -/
  | raises (type : Option Text)
  /-- Anything else. -/
  | other
deriving DecidableEq

/-- A parameter or attribute at the start of a text, with the text after the colon. -/
def param? (keys : List Text) (s : Text) : Option (Subject × Text) :=
  match keyword? keys s with
  | some (key, [name], rest) => some (.param name (key == "type".toList), rest)
  | _ => none

/-- A raised error at the start of a text. -/
def raises? (s : Text) : Option (Subject × Text) :=
  match keyword? ["raise"] s with
  | some (_, [], rest) => some (.raises none, rest)
  | some (_, [type], rest) => some (.raises (some type), rest)
  | _ => none

/-- The words for what is returned, with their meaning: whether they give a type, and whether they are about a
    generator. -/
def returnWords : List (Text × Bool × Bool) :=
  [("return", false, false), ("rtype", true, false), ("yield", false, true), ("ytype", true, true)]

/-- A returned value at the start of a text. -/
def returns? (s : Text) : Option (Subject × Text) :=
  match keyword? (returnWords.map Prod.fst) s with
  | some (key, [], rest) => (returnWords.lookup key).map fun word => (.returns word.1 word.2, rest)
  | _ => none

/-- Words that are only good in the forms above. -/
def reserved : List Text :=
  ["param", "ivar", "cvar", "var", "keyword", "type", "return", "rtype", "yield", "ytype"]

/-- Any other word of two characters or more with its arguments at the start of a text. -/
def word? (s : Text) : Option (Text × Text) :=
  match s.takeWhile isNameChar with
  | c :: key =>
    if isNameStart c && !key.isEmpty then
      (arguments? (s.dropWhile isNameChar)).map fun found => (c :: key, found.2)
    else none
  | [] => none

/-- What a chunk is about, with the text after its header. The forms are tried one after the other, each in the whole
    chunk. -/
def subject? (chunk : Text) : Option (Subject × Text) :=
  (Text.search (param? ["param", "keyword", "type"]) chunk).or <|
  (Text.search (param? ["ivar", "cvar", "var"]) chunk).or <|
  (Text.search raises? chunk).or <|
  (Text.search returns? chunk).or <|
  match Text.search word? chunk with
  | some (key, rest) => if reserved.contains key then none else some (.other, rest)
  | none => none

/-- A tag: its subject, and what it says about it. -/
structure Entry where
  subject : Subject
  desc : Text
deriving DecidableEq

/-- Reads a chunk. -/
def entry (chunk : Text) : Except Malformed Entry :=
  match subject? chunk with
  | none => .error (.chunk chunk)
  | some (subject, rest) => .ok ⟨subject, Text.cleanTail (Text.trim rest)⟩

/-! ### Joining the tags of one name

A parameter, its type and its description may stand in tags of their own, in any order; they are joined at the first of
them. What is returned counts as a parameter named `return`. -/

/-- The name under which the tags about a subject are joined. -/
def Subject.name? : Subject → Option Text
  | .param name _ => some name
  | .returns _ _ => some "return"
  | _ => none

/-- Whether the tag gives a type. -/
def Entry.isType (e : Entry) : Bool :=
  match e.subject with
  | .param _ isType => isType
  | .returns isType _ => isType
  | _ => false

/-- Whether a tag for what is returned is about a generator. -/
def Entry.generator? (e : Entry) : Option Bool :=
  match e.subject with
  | .returns _ generator => some generator
  | _ => none

/-- What the last tag of a name says about its type, or about all else. -/
def lastOf (entries : List Entry) (name : Text) (isType : Bool) : Option Text :=
  ((entries.filter fun e => e.subject.name? == some name && e.isType == isType).getLast?).map Entry.desc

/-- The items of tags, where `done` are the names that have theirs already. -/
def items (all : List Entry) (done : List Text) : List Entry → List Item
  | [] => []
  | e :: rest =>
    match e.subject with
    | .param name _ =>
      if done.contains name then items all done rest
      else
        .param name ((lastOf all name true).map dropOptional) ((lastOf all name false).getD []) ::
          items all (name :: done) rest
    | .returns _ generator =>
      if done.contains "return" then items all done rest
      else
        .returns (lastOf all "return" true) ((lastOf all "return" false).getD []) generator ::
          items all ("return" :: done) rest
    | .raises type => .raises type e.desc :: items all done rest
    | .other => .other :: items all done rest

/-- Whether all tags for what is returned agree on whether it is a generator. -/
def agree (entries : List Entry) : Bool :=
  match entries.filterMap Entry.generator? with
  | [] => true
  | first :: rest => rest.all (· == first)

/-- Reads a docblock or a piece of one. -/
def read (s : Text) : Except Malformed Outline := do
  let (lead, chunks) := Text.cutBefore (Text.startsWith '@') (Text.clean s)
  let entries ← chunks.mapM entry
  if agree entries then return Outline.ofLead lead (items entries [] entries)
  else throw .returnsAndYields

end ApiDocs.Docblock.Epydoc
