import ApiDocs.Docblock.Outline
import ApiDocs.Fault
import ApiDocs.Ordered
import ApiDocs.Text.Cut

/-! The reST style: a line that begins with `:` starts a tag, whose header runs to the next colon. The types of
    parameters and of what is returned may stand in tags of their own. -/

namespace ApiDocs.Docblock.Rest

/-- The words of tags for parameters. -/
def paramWords : List Text := ["param", "parameter", "arg", "argument", "attribute", "key", "keyword"]

/-- The words of tags for what is returned. -/
def returnWords : List Text := ["return", "returns"]

/-- The words of tags for what is yielded. -/
def yieldWords : List Text := ["yield", "yields"]

/-- The words of tags for what is raised. -/
def raiseWords : List Text := ["raises", "raise", "except", "exception"]

/-- A tag: the words of its header, and the text after it. -/
structure Entry where
  words : List Text
  desc : Text
deriving DecidableEq

/-- Reads a chunk. -/
def entry (chunk : Text) : Except Malformed Entry :=
  match Text.cutFirst ':' (chunk.dropWhile (· == ':')) with
  | none => .error (.chunk chunk)
  | some (header, rest) => .ok ⟨Text.words header, Text.cleanTail (Text.trim rest)⟩

/-- The type that a header of one or two words gives. -/
def typeWord (key : Text) : List Text → Except Malformed (Option Text)
  | [] => .ok none
  | [type] => .ok (some type)
  | _ => .error (.typeWords key)

/-- What has been read of a docblock: its items, and the types that stand in tags of their own. The type of what is
    returned may be given for a name. -/
structure Content where
  items : List Item := []
  types : List (Text × Text) := []
  returnTypes : List (Option Text × Text) := []

/-- The item of a tag that is not a type. A header needs a word. -/
def item (e : Entry) : Except Fault Item :=
  match e.words with
  | [] => .error .emptyHeader
  | key :: args =>
    if paramWords.contains key then
      match args with
      | [type, name] => .ok (.param name (some (dropOptional type)) e.desc)
      | [name] => .ok (.param name none e.desc)
      | _ => .error (.malformed (.parameterWords key))
    else if returnWords.contains key || yieldWords.contains key then
      match typeWord key args with
      | .ok type => .ok (.returns type e.desc (yieldWords.contains key))
      | .error reason => .error (.malformed reason)
    else if raiseWords.contains key then
      match typeWord key args with
      | .ok type => .ok (.raises type e.desc)
      | .error reason => .error (.malformed reason)
    else .ok .other

/-- Adds a chunk to what has been read. -/
def Content.add (content : Content) (chunk : Text) : Except Fault Content := do
  let e ← (entry chunk).mapError .malformed
  let types := "type".toList
  let returnTypes := "rtype".toList
  match e.words with
  | [key, name] =>
    if key = types then return { content with types := Ordered.put name e.desc content.types }
    else if key = returnTypes then
      return { content with returnTypes := Ordered.put (some name) e.desc content.returnTypes }
    else return { content with items := content.items ++ [← item e] }
  | [key] =>
    if key = returnTypes then return { content with returnTypes := Ordered.put none e.desc content.returnTypes }
    else return { content with items := content.items ++ [← item e] }
  | _ => return { content with items := content.items ++ [← item e] }

/-- A given type, unless it is missing or empty. -/
def orElse (type : Option Text) (other : Option Text) : Option Text :=
  match type with
  | none => other
  | some [] => other
  | some t => some t

/-- An item with the type that stands in a tag of its own. -/
def Content.typed (content : Content) : Item → Item
  | .param name type desc => .param name (orElse type (content.types.lookup name)) desc
  | .returns type desc generator => .returns (orElse type (content.returnTypes.lookup none)) desc generator
  | item => item

/-- Whether an item is about what is returned. -/
def isReturns : Item → Bool
  | .returns .. => true
  | _ => false

/-- All items. Types of what is returned make items of their own if there are none yet. -/
def Content.all (content : Content) : List Item :=
  content.items.map content.typed ++
    if content.items.any isReturns then []
    else content.returnTypes.map fun entry => .returns (some entry.2) [] false

/-- Reads a docblock or a piece of one. -/
def read (s : Text) : Except Fault Outline := do
  let (lead, chunks) := Text.cutBefore (Text.startsWith ':') (Text.clean s)
  let content ← chunks.foldlM Content.add {}
  return Outline.ofLead lead content.all

end ApiDocs.Docblock.Rest
