import ApiDocs.Fault
import ApiDocs.Live.World

/-! The attributes of objects. An attribute is looked for in the object itself and in the object's class and its ancestors.
    What the class computes or stores comes first, then what the object has in itself, then anything else that the class
    has. A class is an object too, and has in itself what it and its ancestors define. -/

namespace ApiDocs.Live.World

/-! ### Attributes that are computed -/

/-- The module of a class, as an object. A class that is not built in may have put something else in its place. -/
def homeOf (world : World) (id : ClassId) : Object :=
  match world.classes[id]? with
  | none => .nothing
  | some c =>
    match c.isBuiltIn, c.members.lookup "__module__".toList with
    | false, some member => rawMember id "__module__" member
    | _, _ => .text c.home

/-- The comment of a class, as an object. A class that is built in may have something else under the name. -/
def classComment (world : World) (id : ClassId) : Object :=
  match world.ownMember? id "__doc__" with
  | some (.feature _ _) => .ofText? (world.classes[id]?.bind (·.comment))
  | some member => memberOfClass id id "__doc__" member
  | none => .nothing

/-- The base of a class from which its objects have their layout: the first one that can be raised, or the first one. -/
def mainBase? (world : World) (id : ClassId) : Option ClassId :=
  let bases := world.bases id
  (bases.find? fun base => (world.order base).contains raisableId).or bases.head?

/-- A number from the layout of the objects of a class. It is known of classes that are built in. -/
def layoutNumber (c : Class) (part : Layout → Nat) : Object :=
  (c.layout.map fun layout => .number (part layout)).getD (.thing numberId)

/-- An attribute of a class that is computed. -/
def computedOfClass? (world : World) (id : ClassId) (c : Class) (name : Text) : Option Object :=
  match String.ofList name with
  | "__name__" => some (.text c.name)
  | "__qualname__" => some (.text c.path)
  | "__module__" => some (world.homeOf id)
  | "__doc__" => some (world.classComment id)
  | "__dict__" => some (.content id)
  | "__bases__" => some (.row c.bases)
  | "__mro__" => some (.row c.order)
  | "__base__" => some (((world.mainBase? id).map .cls).getD .nothing)
  | "__abstractmethods__" => if c.isBuiltIn then none else (c.members.lookup name).map (rawMember id name)
  | "__annotations__" =>
    if c.isBuiltIn then none
    else some (((c.members.lookup name).map (memberOfClass id id name)).getD (.thing tableId))
  | "__text_signature__" => some (.ofText? c.signature)
  | "__basicsize__" => some (layoutNumber c (·.size))
  | "__itemsize__" => some (layoutNumber c (·.itemSize))
  | "__dictoffset__" => some (layoutNumber c (·.table))
  | "__weakrefoffset__" => some (layoutNumber c (·.references))
  | "__flags__" => some (layoutNumber c (·.marks))
  | _ => none

/-- An attribute of a function that is computed. -/
def computedOfFunction? (f : Function) (name : Text) : Option Object :=
  match String.ofList name with
  | "__doc__" => some (.ofText? f.comment)
  | "__name__" => some (.text f.name)
  | "__qualname__" => some (.text f.path)
  | "__module__" => some (.text f.home)
  | "__code__" => some (.thing codeId)
  | "__defaults__" | "__kwdefaults__" | "__closure__" => some .nothing
  | "__globals__" | "__builtins__" | "__annotations__" | "__dict__" => some (.thing tableId)
  | _ => none

/-- An attribute that is computed of an object that is called with a class. -/
def computedOfMethod? (callee : Object) (owner : ClassId) (name : Text) : Option Object :=
  match String.ofList name with
  | "__func__" => some callee
  | "__self__" => some (.cls owner)
  | _ => none

/-- An attribute of a property that is computed. -/
def computedOfProperty? (f : Function) (name : Text) : Option Object :=
  match String.ofList name with
  | "__doc__" => some (.ofText? f.comment)
  | "fget" => some (.function f)
  | "fset" | "fdel" => some .nothing
  | "__isabstractmethod__" => some (.flag f.isAbstract)
  | _ => none

/-- An attribute of a number that is computed. -/
def computedOfNumber? (n : Int) (name : Text) : Option Object :=
  match String.ofList name with
  | "real" | "numerator" => some (.number n)
  | "imag" => some (.number 0)
  | "denominator" => some (.number 1)
  | _ => none

/-- An attribute that is computed of something that a class offers as a feature. -/
def computedOfFeature? (world : World) (own : Text) (owner : ClassId) (help : Help) (name : Text) : Option Object :=
  match String.ofList name with
  | "__doc__" => some (.ofText? help.comment)
  | "__name__" => some (.text own)
  | "__objclass__" => some (.cls owner)
  | "__qualname__" => some (.text (world.pathOf owner ++ "." ++ own))
  | "__text_signature__" => some (.ofText? help.signature)
  | _ => none

/-- The path of something that is built in. A method is found under the class that it is called on, or whose object it
    is called on; all else under the class that defined it. -/
def boundPath (world : World) (kind : Bound) (name : Text) (owner : ClassId) (subject : Object) : Text :=
  match kind, subject with
  | .method, .home _ => name
  | .method, .cls id => world.pathOf id ++ "." ++ name
  | .method, _ => world.pathOf (world.typeOf subject) ++ "." ++ name
  | _, _ => world.pathOf owner ++ "." ++ name

/-- An attribute that is computed of something built in that an object has. -/
def computedOfBound? (world : World) (kind : Bound) (own : Text) (owner : ClassId) (subject : Object) (help : Help)
    (name : Text) : Option Object :=
  match String.ofList name with
  | "__self__" => some subject
  | "__qualname__" => some (.text (world.boundPath kind own owner subject))
  | "__module__" =>
    match subject with
    | .home home => some (.text home)
    | _ => some .nothing
  | _ => world.computedOfFeature? own owner help name

/-- An attribute that is computed of an object with a mark that says what it takes. -/
def computedOfMarked? (object : Object) (name : Text) : Option Object :=
  match String.ofList name, object with
  | "__func__", _ | "__wrapped__", _ => some object
  | "__dict__", .bound .free _ _ _ _ => some .emptyTable
  | "__dict__", _ => some (.thing tableId)
  | _, _ => none

/-- An attribute that is computed of a class with an argument. -/
def computedOfAlias? (origin : ClassId) (argument : Object) (name : Text) : Option Object :=
  match String.ofList name with
  | "__origin__" => some (.cls origin)
  | "__args__" => some (.single argument)
  | "__parameters__" => some (.row [])
  | "__unpacked__" => some (.flag false)
  | "__typing_unpacked_tuple_args__" => some .nothing
  | _ => none

/-- An attribute that is computed of an object of which only the class matters. -/
def computedOfThing? (kind : ClassId) (name : Text) : Option Object :=
  if kind = codeId then
    match String.ofList name with
    | "co_filename" | "co_name" | "co_qualname" => some (.thing textId)
    | "co_consts" | "co_names" | "co_varnames" | "co_cellvars" | "co_freevars" => some (.thing rowId)
    | "co_linetable" | "co_exceptiontable" | "co_lnotab" | "_co_code_adaptive" | "co_code" => some (.thing bytesId)
    | _ => some (.thing numberId)
  else if kind = numberId then some (.thing numberId)
  else none

/-- An attribute of an object that is computed. Every object has its class. -/
def computed? (world : World) (object : Object) (name : Text) : Option Object :=
  if name = "__class__".toList then some (.cls (world.typeOf object))
  else
    match object with
    | .home _ => some (.thing tableId)
    | .cls id => world.classes[id]?.bind fun c => world.computedOfClass? id c name
    | .function f => computedOfFunction? f name
    | .method callee owner => computedOfMethod? callee owner name
    | .property f => computedOfProperty? f name
    | .number n => computedOfNumber? n name
    | .flag set => computedOfNumber? (if set then 1 else 0) name
    | .feature _ own owner help => world.computedOfFeature? own owner help name
    | .bound kind own owner subject help => world.computedOfBound? kind own owner subject help name
    | .static object _ | .classwide object _ => computedOfMarked? object name
    | .alias origin argument => computedOfAlias? origin argument name
    | .thing kind => computedOfThing? kind name
    | _ => none

/-! ### Attributes -/

/-- A member of the class of an object, as the object gives it out. -/
def memberOfObject? (world : World) (object : Object) (owner : ClassId) (name : Text) : Member → Option Object
  | .feature .operation help => some (.bound .operation name owner object help)
  | .feature .method help => some (.bound .method name owner object help)
  | .feature .classwide help => some (.bound .method name owner (.cls (world.typeOf object)) help)
  | .feature .computed _ | .feature .stored _ => world.computed? object name
  | .value (.function f) =>
    match object with
    | .cls id => some (.method (.function f) id)
    | _ => some (.thing methodId)
  | .value (.static found _) => some found
  | .value (.classwide found _) => some (calledWith (world.typeOf object) found)
  | .value (.property _) => some (.thing objectId)
  | .value found => some found

/-- What every module has. -/
def homeAttributes (home : Text) : List (Text × Object) := [
  ("__name__", .text home), ("__doc__", .nothing), ("__package__", .nothing), ("__loader__", .nothing),
  ("__spec__", .nothing)]

/-- The names under which a mark copies the attributes of an object. -/
def copiedNames : List Text := ["__module__", "__name__", "__qualname__", "__doc__", "__annotations__"]

/-- An attribute that a mark has copied from an object. What is built in comes marked, and without copies. -/
def copied? (world : World) (name : Text) : Object → Option Object
  | .bound .free _ _ _ _ => none
  | .static object _ | .classwide object _ => copied? world name object
  | object => if copiedNames.contains name then world.computed? object name else none

/-- What an object itself has under a name. -/
def inside? (world : World) (object : Object) (name : Text) : Option Object :=
  match object with
  | .cls id => world.classMember? id name
  | .home home => ((world.homes.lookup home).bind (·.lookup name)).or ((homeAttributes home).lookup name)
  | .function f =>
    if f.isFinal && name == "__final__".toList || f.isAbstract && name == "__isabstractmethod__".toList then
      some (.flag true)
    else none
  | .static marked isFinal | .classwide marked isFinal =>
    if isFinal && name == "__final__".toList then some (.flag true) else world.copied? name marked
  | _ => none

/-- An attribute of an object. -/
def plainAttribute? (world : World) (object : Object) (name : Text) : Option Object :=
  match world.entry? (world.typeOf object) name with
  | some (owner, member) =>
    if member.isData then world.memberOfObject? object owner name member
    else (world.inside? object name).or (world.memberOfObject? object owner name member)
  | none => world.inside? object name

/-- The attributes that a class with an argument does not take from the class. -/
def aliasNames : List Text := [
  "__class__", "__origin__", "__args__", "__unpacked__", "__parameters__", "__typing_unpacked_tuple_args__",
  "__mro_entries__", "__reduce_ex__", "__reduce__", "__copy__", "__deepcopy__"]

/-- An attribute of an object. What is called with a class has also those of what is called, an object with a mark has
    to be given by a subclass if the object itself has to, and a class with an argument has most of those of the
    class. -/
def attribute? (world : World) (object : Object) (name : Text) : Option Object :=
  match object with
  | .method callee _ => (world.plainAttribute? object name).or (world.attribute? callee name)
  | .static marked _ | .classwide marked _ =>
    if name = "__isabstractmethod__".toList then
      some (.flag (((world.attribute? marked name).map (·.truthy)).getD false))
    else world.plainAttribute? object name
  | .alias origin _ => world.plainAttribute? (if aliasNames.contains name then object else .cls origin) name
  | _ => world.plainAttribute? object name

/-- Follows attributes from an object. -/
def follow (world : World) (object : Object) : List Text → Except Fault Object
  | [] => .ok object
  | name :: rest =>
    match world.attribute? object name with
    | some object => follow world object rest
    | none => .error .noAttribute

/-- Whether a class says that it is a protocol. -/
def saysProtocol (world : World) (id : ClassId) : Bool :=
  ((world.attribute? (.cls id) "_is_protocol").map (·.truthy)).getD false

end ApiDocs.Live.World
