import ApiDocs.Link.Fields
import ApiDocs.Link.Template
import ApiDocs.Live.Comment
import ApiDocs.Live.Import
import ApiDocs.Live.Shown
import ApiDocs.Ordered
import ApiDocs.Source

/-! Live classes as a source. The registry of the session keeps the names that are known: a name that is asked for is
    looked up once, and parents and interfaces are registered under their own ids, so that they are found again even if
    no module has them. -/

namespace ApiDocs.Live.World

/-- The id of the class at a place: its module and its path. -/
def nameOf (world : World) (id : ClassId) : Text := world.written (world.homeOf id) ++ "." ++ world.pathOf id

/-- Makes a class known under a name. -/
def remember (name : Text) (id : ClassId) : Act Unit :=
  modify fun session => { session with registry := Ordered.put name id session.registry }

/-- Makes a class known under its own id. -/
def register (world : World) (id : ClassId) : Act Text := do
  remember (world.nameOf id) id
  return world.nameOf id

/-- The class of a name, which is known or can be found. -/
def resolve (world : World) (name : Text) : Act ClassId := do
  match (← get).registry.lookup name with
  | some id => return id
  | none =>
    Act.note [.debug ("Resolving class " ++ name)]
    match ← Act.ofExcept (world.find name) with
    | .cls id =>
      remember name id
      return id
    | _ => throw (.notClass name)

/-- What the id of a method stands for. -/
def resolveMethod (world : World) (methodId : Text) : Act Object := do
  let (owner, name) := Link.splitLast methodId
  let id ← world.resolve owner
  match world.attribute? (.cls id) name with
  | some object => return object
  | none => throw .noAttribute

/-- The public method that a class has under a name, if its member is one. -/
def method? (owner : Text) (entry : Text × Member) : Option Method :=
  let (name, member) := entry
  if name.head? = some '_' then none
  else
    match member with
    | .value (.function f) => some ⟨.text name, owner, false, f.isFinal, .ofText? f.comment⟩
    | .value (.static (.function f) isFinal) | .value (.classwide (.function f) isFinal) =>
      some ⟨.text name, owner, true, isFinal || f.isFinal, .ofText? f.comment⟩
    | _ => none

/-- The public methods that a class defines, in order. -/
def methods (world : World) (name : Text) : Act (List Method) := do
  let id ← world.resolve name
  return (world.members id).filterMap (method? name)

/-- Whether a class plays the role of an interface: it has abstract members, or says that it is a protocol. -/
def isInterface (world : World) (id : ClassId) : Bool :=
  ((world.classes[id]?.map (·.isAbstract)).getD false) || world.saysProtocol id

/-- Whether a class counts as no parent, because all classes may have it. -/
def isRoot (id : ClassId) : Bool := id == objectId || id == abstractId || id == genericId

/-- The first base of a class that is neither a root nor an interface. -/
def parentId? (world : World) (id : ClassId) : Option ClassId :=
  (world.bases id).find? fun base => !(isRoot base || world.isInterface base)

/-- The parent of a class. -/
def parent (world : World) (name : Text) : Act Value := do
  let id ← world.resolve name
  match world.parentId? id with
  | some base => return .text (← world.register base)
  | none => return .null

/-- The interfaces of a class. -/
def interfaces (world : World) (name : Text) : Act (List Value) := do
  let id ← world.resolve name
  ((world.bases id).filter world.isInterface).mapM fun base => do return .text (← world.register base)

/-- An object as plain data. What is no data is only known by how it is written. -/
def toValue (world : World) : Object → Value
  | .text s => .text s
  | .number n => .number n
  | .flag set => .flag set
  | .nothing => .null
  | object => .other (world.written object) (world.shown object)

/-- The comment of a class itself, which may be anything. -/
def comment (world : World) (name : Text) : Act Value := do
  let id ← world.resolve name
  return ((world.ownMember? id "__doc__").map fun member => world.toValue (rawMember id "__doc__" member)).getD .null

/-- Live classes as a source. -/
def source (world : World) : Source where
  methods := world.methods
  parent := world.parent
  interfaces := world.interfaces
  comment := world.comment

/-- The first line of a comment. -/
def firstLine (comment : Text) : Text := ((Text.lines (Text.trim comment)).head?).getD []

/-- The first line of the comment that an object has or inherits. -/
def summary? (world : World) (object : Object) : Option Text :=
  match world.commentOf object with
  | some (c :: rest) => some (firstLine (c :: rest))
  | _ => none

/-- The fallback that looks for an inherited comment. -/
def fallback (world : World) (template : Value) : Fallback := fun methodId => do
  let short := world.summary? (← world.resolveMethod methodId)
  Act.note [.debug ("Fallback for " ++ methodId ++ ": " ++ (Value.ofText? short).shown)]
  let link ← Act.ofExcept (Link.linkFor template methodId)
  return ⟨short.filter (!·.isEmpty), link⟩

end ApiDocs.Live.World
