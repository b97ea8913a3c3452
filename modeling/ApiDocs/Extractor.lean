import ApiDocs.Docblock.Reading
import ApiDocs.Documentation.Basic
import ApiDocs.Insertion
import ApiDocs.Link.Template

/-! Making the documentation of a class from what a source knows about it. Methods of the direct parent are inherited;
    what a grandparent declares is not seen. A method that the parent declares too is left out of the class's own. -/

namespace ApiDocs

/-! ### Reading comments -/

/-- How comments are read. A setting that is not the name of a style shows only when there is something to read. -/
inductive Reader
  | style (chosen : Docblock.Style)
  | unusable (setting : Value)

namespace Reader

/-- The reader of a setting. -/
def ofSetting : Value → Except Fault Reader
  | .text name => (Docblock.Style.named name).map .style
  | setting => .ok (.unusable setting)

/-- Reads a comment. A comment that is absent is an empty docblock. -/
def reading (reader : Reader) (comment : Value) : Docblock.Reading :=
  if comment.truthy then
    match comment with
    | .text text =>
      match reader with
      | .style chosen => Docblock.readComment chosen text
      | .unusable setting =>
        if Text.allBlank (Text.clean text) then ⟨.ok {}, []⟩
        else if setting.isKey then ⟨.error .styleNotName, []⟩
        else ⟨.error .notKey, []⟩
    | _ => ⟨.error .commentNotText, []⟩
  else ⟨.ok {}, []⟩

/-- Reads a comment and takes the notes that belong to it. -/
def read (reader : Reader) (comment : Value) : Act Docblock := do
  let reading := reader.reading comment
  Act.note reading.notes
  Act.ofExcept reading.outcome

end Reader

/-- The fallback that knows only the link of a method. -/
def linkFallback (template : Value) : Fallback := fun id => do
  let link ← Act.ofExcept (Link.linkFor template id)
  return ⟨none, link⟩

/-! ### Sorting names -/

namespace Details

/-- Whether all names are on one scale, so that they can be compared. -/
def areOrdered : Details → Bool
  | [] | [_] => true
  | first :: rest => first.1.scale?.isSome && rest.all fun entry => entry.1.scale? == first.1.scale?

/-- Sorts methods by name. Names that are no numbers have no place in the order: they are sorted among numbers by
    insertion. -/
def sort (details : Details) : Except Fault Details :=
  if !details.areOrdered then .error .namesNotOrdered
  else if details.any (·.1.isUndefined) then .ok (Insertion.sort (fun a b => Value.precedes a.1 b.1) details)
  else .ok (details.mergeSort fun a b => !Value.precedes b.1 a.1)

/-- Whether there is a method of a name. -/
def has (details : Details) (name : Value) : Bool := details.any fun entry => Value.sameKey entry.1 name

/-- Writes the details of the method of a name. -/
def put (name : Value) (detail : Detail) (details : Details) : Details :=
  Ordered.putBy Value.sameKey name detail details

end Details

/-! ### Extraction -/

/-- What is needed to make documentation. -/
structure Extractor where
  source : Source
  reader : Reader
  fallback : Fallback

namespace Extractor

variable (e : Extractor)

/-- The details of a method. Without a summary the fallback is asked. -/
def detail (method : Method) : Act Detail := do
  let docblock ← e.reader.read method.comment
  if docblock.summary.isEmpty then
    Act.note [.debug ("No docblock summary for " ++ method.id ++ ", using fallback lookup")]
    return .ofSuggestion (← Act.ask e.fallback method.id)
  else
    return .ofDocblock method docblock

/-- The description of a class. -/
def description (target : Text) : Act Description := do
  let docblock ← e.reader.read (← e.source.comment target)
  return ⟨docblock.summary, docblock.description⟩

/-- The parent of a class, or null. -/
def parent (target : Text) : Act Value := e.source.parent target

/-- The interfaces of a class. -/
def interfaces (target : Text) : Act (List Value) := e.source.interfaces target

/-- The details of some methods, after those that were found. A later method of the same name takes the place of an
    earlier one. -/
def collect (found : Details) : List Method → Act Details
  | [] => pure found
  | method :: rest => do
    let detail ← e.detail method
    if method.name.isKey then collect (found.put method.name detail) rest else throw .notKey

/-- The methods of a parent. A name that is no text belongs to no class. -/
def parentMethods : Value → Act (List Method)
  | .text name => e.source.methods name
  | name => throw (if name.isKey then .unknownClass name.display else .notKey)

/-- The methods of the parent of a class, sorted by name. -/
def inherited (target : Text) : Act Details := do
  match ← e.parent target with
  | .null => return []
  | parent => Act.ofExcept (Details.sort (← e.collect [] (← e.parentMethods parent)))

/-- The details of some methods whose names are not among `inherited`, after those that were found. -/
def collectOwn (inherited found : Details) : List Method → Act Details
  | [] => pure found
  | method :: rest =>
    if !method.name.isKey then throw .notKey
    else if inherited.has method.name then collectOwn inherited found rest
    else do
      let detail ← e.detail method
      collectOwn inherited (found.put method.name detail) rest

/-- The methods of a class whose names are not among `inherited`. -/
def ownMethods (inherited : Details) (target : Text) : Act Details := do
  e.collectOwn inherited [] (← e.source.methods target)

/-- The methods of a class that its parent does not have. -/
def methods (target : Text) : Act Details := do
  e.ownMethods (← e.inherited target) target

/-- The documentation of a class. -/
def extract (target : Text) : Act Documentation := do
  let inherited ← e.inherited target
  let description ← e.description target
  let parent ← e.parent target
  let interfaces ← e.interfaces target
  let methods ← e.ownMethods inherited target
  return { name := target, description, parent, interfaces, methods, inherited }

/-- The documentation of several classes. With `keepGoing` a class that fails is noted and left out. -/
def extractAll (keepGoing : Bool) : List Text → Act (List Documentation)
  | [] => pure []
  | target :: rest => do
    Act.note [.debug ("Extracting " ++ target)]
    let doc ← tryCatch (some <$> e.extract target) fun fault => do
      if keepGoing then
        Act.note [.warning ("Skipping " ++ target ++ ": " ++ fault.kind ++ ": " ++ fault.describe)]
        return none
      else throw fault
    let docs ← extractAll keepGoing rest
    return doc.toList ++ docs

end Extractor
end ApiDocs
