import ApiDocs.Live.Attribute
import ApiDocs.Text.Margin

/-! The comment of an object, which may be inherited. A class takes it from its ancestors. Anything that belongs to a class
    takes it from what the class and its ancestors have under the same name; a function belongs to the class that
    defined it, which must be found again under the path that the function carries and must still have the function. -/

namespace ApiDocs.Live.World

/-- The comment that an object has, if it is not nothing. -/
def ownComment? (world : World) (object : Object) : Option Object :=
  (world.attribute? object "__doc__").filter (· != .nothing)

/-- The first comment of what a class or one of its ancestors has under a name. -/
def firstComment? (world : World) (id : ClassId) (name : Text) : Option Object :=
  (world.order id).findSome? fun id => (world.attribute? (.cls id) name).bind world.ownComment?

/-- The class that defined a function, as it is found now. -/
def definer? (world : World) (f : Function) : Option ClassId :=
  if world.hasHome f.home then
    match world.follow (.home f.home) (Text.dotted f.path).dropLast with
    | .ok (.cls id) => some id
    | _ => none
  else none

/-- The class on which an object that is called with a class is looked for again under its name: the class that it is
    called with, or the class of that class if the object is from there. -/
def methodOwner? (world : World) (callee : Object) (owner : ClassId) (name : Text) : Option ClassId := do
  let found ← world.attribute? (.cls owner) name
  let called ← world.attribute? found "__func__"
  return if called = callee then owner else world.typeOfClass owner

/-- The class, and the name under it, from which an object inherits its comment. -/
def origin? (world : World) : Object → Option (ClassId × Text)
  | .method callee owner =>
    match world.attribute? callee "__name__" with
    | some (.text name) => (world.methodOwner? callee owner name).map fun id => (id, name)
    | _ => none
  | .function f => do
    let id ← world.definer? f
    if world.attribute? (.cls id) f.name = some (.function f) then some (id, f.name) else none
  | .property f => do
    let id ← world.definer? f
    if world.attribute? (.cls id) f.name = some (.property f) then some (id, f.name) else none
  | .bound .operation _ _ _ _ => none
  | .bound _ name _ (.cls id) _ => some (id, name)
  | .bound _ name _ subject _ => some (world.typeOf subject, name)
  | .feature kind name owner help =>
    if world.attribute? (.cls owner) name = some (.feature kind name owner help) then some (owner, name) else none
  | _ => none

/-- The comment that an object inherits. The common ancestor of all classes has none to give to classes. -/
def inheritedComment? (world : World) : Object → Option Object
  | .cls id => ((world.order id).filter (· != objectId)).findSome? fun id => world.ownComment? (.cls id)
  | object => (world.origin? object).bind fun (id, name) => world.firstComment? id name

/-- The comment of an object, without its margin. One that is not a text does not count. -/
def commentOf (world : World) (object : Object) : Option Text :=
  match world.attribute? object "__doc__" with
  | none => none
  | some .nothing =>
    match world.inheritedComment? object with
    | some (.text comment) => some (Text.clean comment)
    | _ => none
  | some (.text comment) => some (Text.clean comment)
  | some _ => none

end ApiDocs.Live.World
