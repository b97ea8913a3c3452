import ApiDocs.Docblock.Style
import ApiDocs.Docblock.Tag
import ApiDocs.Note
import ApiDocs.Ordered
import ApiDocs.Text.Identifier

/-! Reading a docblock into tags. In a style with a marker every tag is read on its own, so that one malformed tag is
    set aside and the others are read all the same: the text is cut into chunks, each chunk is read as a `Piece`, and
    the pieces are gathered one after the other. Gathering cannot fail. In the other styles a docblock is read as a
    whole, and what is malformed is a fault of the whole. -/

namespace ApiDocs.Docblock

/-! ### Pieces -/

/-- What a chunk says. -/
inductive Piece
  /-- The chunk cannot be read. -/
  | malformed (chunk : Text) (reason : Malformed)
  /-- The type of a parameter; the names are the words after the first. -/
  | paramType (names : List Text) (type : Text)
  /-- The type of what is returned. -/
  | returnType (type : Text)
  /-- Anything else. -/
  | items (items : List Item)
deriving DecidableEq

namespace Piece

/-- The words before the first colon of a chunk, and the text after it. -/
def header (chunk : Text) : List Text × Text :=
  match Text.cutFirst ':' (chunk.drop 1) with
  | none => (Text.words (chunk.drop 1), [])
  | some (words, value) => (Text.words words, Text.trim value)

/-- The first word of a chunk, in lower case. -/
def key (chunk : Text) : Text :=
  match (header chunk).1 with
  | [] => []
  | word :: _ => Text.lower word

/-- A chunk that can be read, with its items. -/
def ofChunk (chunk : Text) (found : List Item) : Piece :=
  if key chunk = "type".toList then .paramType ((header chunk).1.drop 1) (header chunk).2
  else if key chunk = "rtype".toList then .returnType (header chunk).2
  else .items found

/-- Reads a chunk. Only a fault other than bad markup stops the reading. -/
def read (style : Style) (chunk : Text) : Except Fault Piece :=
  match style.read chunk with
  | .ok outline => .ok (ofChunk chunk outline.items)
  | .error (.malformed reason) => .ok (.malformed chunk reason)
  | .error fault => .error fault

/-- What is noted about a piece. -/
def note? : Piece → Option Note
  | .malformed chunk reason =>
    some (.debug ("Skipping malformed tag " ++ Text.quoted (Text.trim chunk) ++ ": " ++ reason.message))
  | _ => none

end Piece

/-- The pieces of some chunks, up to the first chunk that stops the reading, and why it does. -/
def readPieces (style : Style) : List Text → List Piece × Option Fault
  | [] => ([], none)
  | chunk :: rest =>
    match Piece.read style chunk with
    | .ok piece => let (pieces, fault) := readPieces style rest; (piece :: pieces, fault)
    | .error fault => ([], some fault)

/-! ### Gathering -/

/-- The tags so far, and the types that wait for a tag that they belong to. -/
structure Gathered where
  tags : List Tag := []
  paramTypes : List (Text × Text) := []
  returnTypes : List Text := []
deriving DecidableEq

/-- The list with its last element that satisfies `p` changed by `f`, if there is one. -/
def updateLast {α : Type} (p : α → Bool) (f : α → α) : List α → Option (List α)
  | [] => none
  | a :: rest =>
    match updateLast p f rest with
    | some rest => some (a :: rest)
    | none => if p a then some (f a :: rest) else none

namespace Gathered

/-- Adds an item. A tag without a type takes the one that waits for it. -/
def addItem (g : Gathered) : Item → Gathered
  | .param name type desc =>
    let valid := Text.isIdentifier name
    match type with
    | some (c :: rest) =>
      { g with tags := g.tags ++ [{ kind := .param, type := some (c :: rest), param := some name, desc, valid }] }
    | _ =>
      { g with
        tags := g.tags ++ [{ kind := .param, type := g.paramTypes.lookup name, param := some name, desc, valid }]
        paramTypes := Ordered.erase name g.paramTypes }
  | .returns type desc generator =>
    if generator then g
    else
      match type, g.returnTypes with
      | none, waiting :: rest =>
        { g with tags := g.tags ++ [{ kind := .returns, type := some waiting, desc }], returnTypes := rest }
      | _, _ => { g with tags := g.tags ++ [{ kind := .returns, type, desc }] }
  | .raises type desc => { g with tags := g.tags ++ [{ kind := .throws, type, desc }] }
  | .other => g

/-- Whether a tag is a valid one for a parameter. -/
def isParam (name : Text) (tag : Tag) : Bool := tag.kind == .param && tag.valid && tag.param == some name

/-- Whether a tag is for what is returned. -/
def isReturn (tag : Tag) : Bool := tag.kind == .returns

/-- Adds the type of a parameter: to the last tag that is there for it, or to those that wait. A type without exactly one
    name is dropped. -/
def addParamType (g : Gathered) (names : List Text) (type : Text) : Gathered :=
  match names with
  | [name] =>
    match updateLast (isParam name) (fun tag => { tag with type := some type }) g.tags with
    | some tags => { g with tags }
    | none => { g with paramTypes := Ordered.put name type g.paramTypes }
  | _ => g

/-- Adds the type of what is returned: to the last tag for it if that has none, or to those that wait. -/
def addReturnType (g : Gathered) (type : Text) : Gathered :=
  match (g.tags.filter isReturn).getLast? with
  | some { type := none, .. } =>
    match updateLast isReturn (fun tag => { tag with type := some type }) g.tags with
    | some tags => { g with tags }
    | none => g
  | _ => { g with returnTypes := g.returnTypes ++ [type] }

/-- Adds a piece. -/
def add (g : Gathered) : Piece → Gathered
  | .malformed chunk _ => { g with tags := g.tags ++ [Tag.malformed chunk] }
  | .paramType names type => g.addParamType names type
  | .returnType type => g.addReturnType type
  | .items found => found.foldl addItem g

/-- All tags: types of what is returned that still wait make tags of their own. -/
def all (g : Gathered) : List Tag := g.tags ++ g.returnTypes.map fun type => { kind := .returns, type := some type }

/-- What is noted about types of parameters that still wait. -/
def note? (g : Gathered) : Option Note :=
  if g.paramTypes.isEmpty then none
  else some (.debug ("Ignoring types of undeclared params: " ++ Text.join ", " (Ordered.keys g.paramTypes)))

end Gathered

/-- Gathers pieces. -/
def gather (pieces : List Piece) : Gathered := pieces.foldl Gathered.add {}

/-- The tags of an outline. -/
def tagsOf (items : List Item) : List Tag := (items.foldl Gathered.addItem {}).tags

/-! ### Docblocks -/

/-- The outcome of reading a docblock, with the notes that were taken on the way. -/
structure Reading where
  outcome : Except Fault Docblock
  notes : List Note := []

/-- Reads a text as a whole. -/
def readWhole (style : Style) (text : Text) : Except Fault Docblock :=
  (style.read text).map fun outline => ⟨outline.summary, outline.description, tagsOf outline.items⟩

/-- Reads a text tag by tag: what stands before the first tag, and the chunks. -/
def readTagged (style : Style) (lead : Text) (chunks : List Text) : Reading :=
  let (pieces, fault) := readPieces style chunks
  let notes := pieces.filterMap Piece.note?
  match fault with
  | some fault => ⟨.error fault, notes⟩
  | none =>
    let g := gather pieces
    ⟨(style.read lead).map fun outline => ⟨outline.summary, outline.description, g.all⟩, notes ++ g.note?.toList⟩

/-- Reads the comment of a class or method. A blank one is an empty docblock. -/
def readComment (style : Style) (comment : Text) : Reading :=
  let text := Text.clean comment
  if Text.allBlank text then ⟨.ok {}, []⟩
  else
    match style.marker? with
    | none => ⟨readWhole style text, []⟩
    | some marker =>
      match Text.cutBefore (Text.startsWith marker) text with
      | (_, []) => ⟨readWhole style text, []⟩
      | (lead, chunks) => readTagged style lead chunks

end ApiDocs.Docblock
