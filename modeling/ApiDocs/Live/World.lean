import ApiDocs.Live.Class

/-! All live classes and the modules in which they can be found, the classes of objects, and members as the objects that
    classes give out. -/

namespace ApiDocs.Live

/-- All classes and modules. -/
structure World where
  classes : List Class
  /-- The modules by name, each with its attributes. -/
  homes : List (Text × List (Text × Object))
  /-- The classes by the names under which declarations refer to them. -/
  keys : List (Text × ClassId)
  /-- How many functions there are. -/
  functions : Nat := 0

namespace World

/-- Whether there is a module of a name. -/
def hasHome (world : World) (name : Text) : Bool := (world.homes.lookup name).isSome

/-- The order of a class. -/
def order (world : World) (id : ClassId) : List ClassId := (world.classes[id]?.map (·.order)).getD []

/-- The bases of a class. -/
def bases (world : World) (id : ClassId) : List ClassId := (world.classes[id]?.map (·.bases)).getD []

/-- The class of a class. -/
def typeOfClass (world : World) (id : ClassId) : ClassId := (world.classes[id]?.map (·.type)).getD typeId

/-- The path of a class. -/
def pathOf (world : World) (id : ClassId) : Text := (world.classes[id]?.map (·.path)).getD []

/-- Whether a class is built in. -/
def isBuiltIn (world : World) (id : ClassId) : Bool := (world.classes[id]?.map (·.isBuiltIn)).getD false

/-- What a class has by itself. -/
def members (world : World) (id : ClassId) : List (Text × Member) := (world.classes[id]?.map (·.members)).getD []

/-- What a class has by itself under a name. -/
def ownMember? (world : World) (id : ClassId) (name : Text) : Option Member :=
  world.classes[id]?.bind fun c => c.members.lookup name

/-- What a class has under a name, by itself or from the first ancestor that has it, and the class that has it. -/
def entry? (world : World) (id : ClassId) (name : Text) : Option (ClassId × Member) :=
  (world.order id).findSome? fun id => (world.ownMember? id name).map fun member => (id, member)

/-- The class of what a class offers as a feature. -/
def featureType : Feature → ClassId
  | .operation => operationId
  | .method => builtinMethodId
  | .classwide => classwideId
  | .computed => computedId
  | .stored => storedId

/-- The class of an object. -/
def typeOf (world : World) : Object → ClassId
  | .home _ => homeId
  | .cls id => world.typeOfClass id
  | .function _ => functionId
  | .method _ _ => methodId
  | .property _ => propertyId
  | .text _ => textId
  | .number _ => numberId
  | .flag _ => flagId
  | .nothing => nothingId
  | .row _ | .single _ => rowId
  | .emptyTable => tableId
  | .content _ => contentId
  | .feature kind _ _ _ => featureType kind
  | .bound .operation _ _ _ _ => boundOperationId
  | .bound _ _ _ _ _ => builtinId
  | .static _ _ => staticId
  | .classwide _ _ => classMethodId
  | .alias _ _ => aliasId
  | .thing kind => kind

/-! ### Members as objects -/

/-- An object that is called with the class `id`. What a property gives then is not known. -/
def calledWith (id : ClassId) : Object → Object
  | .static object _ => object
  | .classwide object _ => calledWith id object
  | .property _ => .thing objectId
  | .method callee owner => .method callee owner
  | object => .method object id

/-- A member as a class that has it gives it out. The member was found on the class `owner`. -/
def memberOfClass (id owner : ClassId) (name : Text) : Member → Object
  | .feature .classwide help => .bound .method name owner (.cls id) help
  | .feature kind help => .feature kind name owner help
  | .value (.static object _) => object
  | .value (.classwide object _) => calledWith id object
  | .value object => object

/-- A member as the content of its class has it. -/
def rawMember (owner : ClassId) (name : Text) : Member → Object
  | .feature kind help => .feature kind name owner help
  | .value object => object

/-- Whether the class of a class computes or stores what classes give out under a name. -/
def isComputedFor (world : World) (id : ClassId) (name : Text) : Bool :=
  (world.entry? (world.typeOfClass id) name).any (·.2.isData)

/-- What a class has under a name, as the class gives it out. -/
def classMember? (world : World) (id : ClassId) (name : Text) : Option Object :=
  (world.entry? id name).map fun (owner, member) => memberOfClass id owner name member

end World
end ApiDocs.Live
