import ApiDocs.Live.Attribute
import ApiDocs.Live.Order
import ApiDocs.Live.Standard
import ApiDocs.Ordered

/-! Declaring live classes. Classes are declared one after the other, and are not changed later, but for the objects
    that are put inside them, and those that are built in not even for these. A class can be found in its module unless
    it is local. Its ancestors are told about a new class: the base of classes with type parameters notes the parameters,
    and the base of protocols decides whether the class is one, which it can only be if all its bases are. -/

namespace ApiDocs.Live

/-! ### Declarations -/

/-- In which way a function belongs to a class. -/
inductive Binding
  | plain
  | static
  | classwide
  | property
deriving DecidableEq

/-- What is marked as final: nothing, the function, or what binds it to its class. -/
inductive Finality
  | none
  | function
  | binding
deriving DecidableEq

/-- What the body of a class defines under a name. -/
inductive Body
  | function (binding : Binding) (comment : Option Text) (final : Finality) (isAbstract : Bool)
  /-- An object as it is. -/
  | value (object : Object)
  /-- An object that is marked to take no object when it is called. -/
  | static (object : Object)
  /-- A class without members. -/
  | inner (comment : Option Text)
  /-- The same thing under another name. -/
  | same (earlier : Text)

/-- The declaration of a class. -/
structure Declaration where
  key : Text
  home : Text
  path : Text
  bases : List Text := []
  comment : Option Text := none
  body : List (Text × Body) := []
  /-- Whether the class cannot be found in a module. -/
  isLocal : Bool := false

namespace World

/-! ### Modules -/

/-- The world with a module, which is empty if it is new. -/
def addHome (world : World) (name : Text) : World :=
  if world.hasHome name then world else { world with homes := world.homes ++ [(name, [])] }

/-- Sets an attribute of a module. -/
def setAttribute (world : World) (home name : Text) (object : Object) : World :=
  { world with homes := Ordered.put home (Ordered.put name object ((world.homes.lookup home).getD [])) world.homes }

/-- The world with a module and those that it is inside of, each an attribute of the one before. The module is given by
    the parts of its name, of which `outer` is done. -/
def addHomes (world : World) (outer : Text) : List Text → World
  | [] => world
  | name :: rest =>
    let full := outer ++ "." ++ name
    let world := if world.hasHome full then world else (world.addHome full).setAttribute outer name (.home full)
    world.addHomes full rest

/-- The world with a module and those that it is inside of. -/
def withHome (world : World) (name : Text) : World :=
  match Text.dotted name with
  | [] => world
  | first :: rest => (world.addHome first).addHomes first rest

/-- Sets a member of a class. -/
def setMember (world : World) (id : ClassId) (name : Text) (member : Member) : World :=
  { world with classes := world.classes.modify id fun c => { c with members := Ordered.put name member c.members } }

/-- The names that classes compute and that can be set all the same. -/
def settableNames : List Text := ["__module__", "__doc__", "__annotations__", "__abstractmethods__"]

/-- Whether an attribute of a class can be set. A class that is built in cannot be changed, no class gets another name
    or other bases, and what the class of a class computes cannot be set on the class. -/
def isSettable (world : World) (id : ClassId) (name : Text) : Bool :=
  !world.isBuiltIn id && (settableNames.contains name || !world.isComputedFor id name)

/-- A class with one of its attributes set. That it lists something as abstract keeps it from having objects. -/
def assigned (name : Text) (object : Object) (c : Class) : Class :=
  { c with
    members := Ordered.put name (.value object) c.members
    isAbstract := if name = "__abstractmethods__".toList then object.truthy else c.isAbstract }

/-- Makes an object available in a module under a path. A path of several names leads through classes. -/
def place (world : World) (home path : Text) (object : Object) : World :=
  let world := world.withHome home
  match Text.cutLast '.' path with
  | none => world.setAttribute home path object
  | some (outer, name) =>
    match world.follow (.home home) (Text.dotted outer) with
    | .ok (.cls owner) =>
      if world.isSettable owner name then { world with classes := world.classes.modify owner (assigned name object) }
      else world
    | _ => world

/-! ### Members -/

/-- What a class has before its body is looked at. -/
def firstMembers (home : Text) (comment : Option Text) : List (Text × Member) :=
  [("__module__", .value (.text home)), ("__doc__", .value (.ofText? comment))]

/-- The list of the references to an object that do not keep it. -/
def references : Text × Member :=
  ("__weakref__", .feature .computed { comment := some "list of weak references to the object (if defined)" })

/-- What stands before the line that ends how a class is called. There is no blank line in it. -/
def signatureIn? : Text → Option Text
  | [] => none
  | c :: rest =>
    if ")\n--\n\n".toList.isPrefixOf (c :: rest) then some [')']
    else if "\n\n".toList.isPrefixOf (c :: rest) then none
    else (signatureIn? rest).map (c :: ·)

/-- How a class is called, if its comment starts with that: its name and, in brackets, what it takes. Nothing is read
    after a NUL. -/
def signature? (name comment : Text) : Option Text :=
  let comment := comment.takeWhile (· != '\x00')
  if (name ++ "(").isPrefixOf comment then signatureIn? (comment.drop name.length) else none

/-- How a class is called that has some members. -/
def signatureOf (name : Text) (members : List (Text × Member)) : Option Text :=
  match members.lookup "__doc__".toList with
  | some (.value (.text comment)) => signature? name comment
  | _ => none

/-- A new class without members, inside the class that is declared. -/
def addInner (world : World) (d : Declaration) (name : Text) (comment : Option Text) : World × ClassId :=
  let id := world.classes.length
  let c : Class := {
    home := d.home, path := d.path ++ "." ++ name, bases := [objectId], order := [id, objectId]
    members := firstMembers d.home comment ++ [references], signature := comment.bind (signature? name) }
  ({ world with classes := world.classes ++ [c] }, id)

/-- A function as a class has it. -/
def bindFunction (f : Function) (final : Finality) : Binding → Object
  | .plain => .function { f with isFinal := final != .none }
  | .static => .static (.function f) (final == .binding)
  | .classwide => .classwide (.function f) (final == .binding)
  | .property => .property f

/-- Adds what the body of a class defines under a name to its members. -/
def addMember (d : Declaration) (state : World × List (Text × Member)) (entry : Text × Body) :
    World × List (Text × Member) :=
  let (world, members) := state
  let (name, body) := entry
  match body with
  | .function binding comment final isAbstract =>
    let f : Function := {
      number := world.functions, home := d.home, path := d.path ++ "." ++ name, name, comment
      isFinal := final == .function, isAbstract }
    ({ world with functions := world.functions + 1 }, Ordered.put name (.value (bindFunction f final binding)) members)
  | .value object => (world, Ordered.put name (.value object) members)
  | .static object => (world, Ordered.put name (.value (.static object false)) members)
  | .inner comment =>
    let (world, id) := world.addInner d name comment
    (world, Ordered.put name (.value (.cls id)) members)
  | .same earlier =>
    match members.lookup earlier with
    | some member => (world, Ordered.put name member members)
    | none => (world, members)

/-- A member of a class as it is kept under its name: some functions are never called on an object, and need not be
    marked for that. -/
def keptMember (name : Text) : Member → Member
  | .value (.function f) =>
    match String.ofList name with
    | "__new__" => .value (.static (.function f) false)
    | "__init_subclass__" | "__class_getitem__" => .value (.classwide (.function f) false)
    | _ => .value (.function f)
  | member => member

/-- The names under which a body defines nothing. A number or a function is refused there; the texts and rows that could
    stand there would rename the class or lay out its objects, which is left out. -/
def reservedNames : List Text := ["__qualname__", "__slots__", "__classcell__"]

/-- Whether some members have one of a name. -/
def isDefined (members : List (Text × Member)) (name : Text) : Bool := (members.lookup name).isSome

/-! ### Bases -/

/-- The classes of keys. -/
def basesOf (world : World) (keys : List Text) : Except Fault (List ClassId) :=
  keys.mapM fun key =>
    match world.keys.lookup key with
    | some id => .ok id
    | none => .error (.unknownClass key)

/-- The bases that a class has when it lists some. The base of classes with type parameters is left to protocols, which
    have it themselves, and a class without bases has the common ancestor. -/
def actualBases (listed : List ClassId) : List ClassId :=
  let bases := if listed.contains protocolId then listed.filter (· != genericId) else listed
  if bases.isEmpty then [objectId] else bases

/-- The class of a new class: of the classes of its bases the one that descends from all others. -/
def typeOver (world : World) (bases : List ClassId) : ClassId :=
  (bases.map world.typeOfClass).foldl (fun type other => if (world.order other).contains type then other else type) typeId

/-- Whether the objects of a class have references to them listed. A class has this from its main base, and the fuel
    bounds how far up it is looked for. -/
def hasReferences (world : World) : Nat → ClassId → Bool
  | 0, _ => false
  | fuel + 1, id =>
    (world.ownMember? id references.1).isSome || ((world.mainBase? id).map (hasReferences world fuel)).getD false

/-! ### Telling the ancestors -/

/-- What an ancestor does when it is told about a new class. -/
inductive Hook
  /-- Notes the type parameters. -/
  | generic
  /-- Decides about protocols. -/
  | protocol
deriving DecidableEq

/-- Whether a member can be called without anything but the class that it was found on. -/
def isHook : Member → Bool
  | .feature _ _ => true
  | .value object =>
    match object with
    | .function _ | .method _ _ | .cls _ | .static (.function _) _ | .static (.method _ _) _ | .static (.cls _) _
    | .classwide (.function _) _ | .classwide (.method _ _) _ => true
    | _ => false

/-- What is done about a new class, by its ancestors in their order. The standard ones let those after them go first;
    any other keeps them from being told. -/
def hooks (world : World) : List ClassId → Except Fault (List Hook)
  | [] => .ok []
  | id :: rest =>
    match world.ownMember? id "__init_subclass__" with
    | none => hooks world rest
    | some member =>
      if id = genericId then (hooks world rest).map (· ++ [.generic])
      else if id = protocolId then (hooks world rest).map (· ++ [.protocol])
      else if isHook member then .ok []
      else .error .hookNotCallable

/-- The standard classes that count as protocols, by module. -/
def honoraryProtocols : List (Text × List Text) := [
  ("collections.abc", ["Callable", "Awaitable", "Iterable", "Iterator", "AsyncIterable", "Hashable", "Sized", "Container",
    "Collection", "Reversible"]),
  ("contextlib", ["AbstractContextManager", "AbstractAsyncContextManager"])]

/-- Whether a class has the module and the name of a standard class that counts as a protocol. -/
def isHonorary (world : World) (id : ClassId) : Bool :=
  match world.homeOf id, world.classes[id]? with
  | .text home, some c => ((honoraryProtocols.lookup home).getD []).contains c.name
  | _, _ => false

/-- Whether a class can be a base of a protocol. -/
def isProtocolBase (world : World) (id : ClassId) : Bool :=
  id == objectId || id == genericId || world.isHonorary id ||
    (world.order id).contains genericId && world.saysProtocol id

/-- Notes the type parameters of a class that lists the base for them `listed` times. -/
def noteParameters (world : World) (id : ClassId) (listed : Nat) : Except Fault World :=
  if listed ≥ 2 || listed = 0 && (world.ownMember? id "__orig_bases__").isSome then .error .genericBases
  else .ok (world.setMember id "__parameters__" (.value (if listed = 0 then .row [] else .thing rowId)))

/-- Decides whether a class is a protocol. One that says so is believed. -/
def decideProtocol (world : World) (id : ClassId) : Except Fault World := do
  let world :=
    if (world.ownMember? id "_is_protocol").any fun member => (rawMember id "_is_protocol" member).truthy then world
    else world.setMember id "_is_protocol" (.value (.flag ((world.bases id).contains protocolId)))
  let world :=
    if (world.ownMember? id "__subclasshook__").isSome then world
    else world.setMember id "__subclasshook__" (.value (.function Standard.followsProtocol))
  if !world.saysProtocol id then return world
  else if !(world.bases id).all world.isProtocolBase then throw .baseNotProtocol
  else if world.attribute? (.cls id) "__init__" = world.attribute? (.cls protocolId) "__init__" then
    return world.setMember id "__init__" (.value (.function Standard.refuseObjects))
  else return world

/-- Does what an ancestor does when it is told about a class. -/
def tell (id : ClassId) (listed : Nat) (world : World) : Hook → Except Fault World
  | .generic => world.noteParameters id listed
  | .protocol => world.decideProtocol id

/-! ### Abstract members -/

/-- Whether an object has to be given by a subclass. -/
def isAbstractObject (world : World) (object : Object) : Bool :=
  ((world.attribute? object "__isabstractmethod__").map (·.truthy)).getD false

/-- The names that a class lists as abstract, if they can be listed. The set of them that a class was given when it was
    declared is not changed later; a class may have something else in its place. -/
def listedAbstract? (world : World) (id : ClassId) : Option (List Text) :=
  match world.ownMember? id "__abstractmethods__" with
  | none | some (.value (.row [])) | some (.value .emptyTable) => some []
  | some (.value (.thing kind)) =>
    if kind = frozenSetId then some ((world.classes[id]?.map (·.abstractNames)).getD []) else none
  | some (.value (.text s)) => some (s.map ([·]))
  | some (.value (.content other)) => some ((world.members other).map (·.1))
  | _ => none

/-- The names that a subclass of a class still has to give: those of its own, and those inherited ones that it has not
    given. -/
def stillAbstract (world : World) (id : ClassId) (inherited : List Text) : List Text :=
  let own := (world.members id).filter fun (name, member) => world.isAbstractObject (rawMember id name member)
  let left := inherited.filter fun name => (world.attribute? (.cls id) name).any world.isAbstractObject
  (own.map (·.1) ++ left).eraseDups

/-- The name under which a class says whether its objects are sequences or tables. -/
def shapeName : Text := "__abc_tpflags__"

/-- Takes out what a class says about the shape of its objects, which cannot be both. -/
def takeShape (world : World) (id : ClassId) : Except Fault World :=
  match world.ownMember? id shapeName with
  | some (.value (.number n)) => if n % 128 / 32 = 3 then .error .shapeNotOne else .ok (withoutShape world)
  | _ => .ok (withoutShape world)
where
  withoutShape (world : World) : World :=
    { world with classes := world.classes.modify id fun c => { c with members := c.members.filter (·.1 != shapeName) } }

/-- Notes the abstract members of a class whose class keeps them. -/
def noteAbstract (world : World) (id : ClassId) : Except Fault World :=
  if !(world.order (world.typeOfClass id)).contains abstractTypeId then .ok world
  else
    match (world.bases id).mapM world.listedAbstract? with
    | none => .error .abstractNotListed
    | some listed =>
      let names := world.stillAbstract id listed.flatten
      let world := (world.setMember id "__abstractmethods__" (.value (.thing frozenSetId))).setMember id "_abc_impl"
        (.value (.thing abstractDataId))
      let change (c : Class) : Class := { c with abstractNames := names, isAbstract := !names.isEmpty }
      takeShape { world with classes := world.classes.modify id change } id

/-! ### Classes -/

/-- The members of a class with what the language adds to them. -/
def completeMembers (members : List (Text × Member)) (isGeneric needsReferences : Bool) : List (Text × Member) :=
  let members := members.map fun (name, member) => (name, keptMember name member)
  let members := if isGeneric then Ordered.put "__orig_bases__".toList (.value (.thing rowId)) members else members
  let members :=
    if isDefined members "__eq__" && !isDefined members "__hash__" then members ++ [("__hash__".toList, .value .nothing)]
    else members
  if needsReferences && !isDefined members references.1 then members ++ [references] else members

/-- Declares a class. -/
def declare (world : World) (d : Declaration) : Except Fault World := do
  let listed ← world.basesOf d.bases
  let bases := actualBases listed
  let (world, members) := d.body.foldl (addMember d) (world, firstMembers d.home d.comment)
  if reservedNames.any (isDefined members) then throw .reservedMember
  let id := world.classes.length
  match orderOf id bases (bases.map world.order) with
  | none => throw .basesNotOrdered
  | some order =>
    let c : Class := { home := d.home, path := d.path, bases, members, order, type := world.typeOver bases }
    let c := { c with signature := signatureOf c.name members }
    let world := { world with classes := world.classes ++ [c], keys := Ordered.put d.key id world.keys }
    let needsReferences := !world.hasReferences world.classes.length id
    let members := completeMembers members (listed.contains genericId) needsReferences
    let world := { world with classes := world.classes.modify id fun c => { c with members } }
    let world ← (← world.hooks order.tail).foldlM (tell id (listed.count genericId)) world
    let world ← world.noteAbstract id
    return if d.isLocal then world else world.place d.home d.path (.cls id)

end World
end ApiDocs.Live
