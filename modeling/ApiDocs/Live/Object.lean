import ApiDocs.Text.Basic

/-! Objects that names lead to while a program runs, and what classes have under a name. A class is known by its place
    in a list of all classes, and a function by its number, so that two definitions that look alike are still two. Of
    most objects nothing matters but their class. -/

namespace ApiDocs.Live

/-- The place of a class in the list of all classes. -/
abbrev ClassId := Nat

/-! ### The places of the classes that every program has -/

/-- The class from which all others descend. -/
def objectId : ClassId := 0

/-- The class of classes. -/
def typeId : ClassId := 1

/-- The standard base of classes with abstract members. -/
def abstractId : ClassId := 2

/-- The class of classes with abstract members. -/
def abstractTypeId : ClassId := 3

/-- The standard base of classes with type parameters. -/
def genericId : ClassId := 4

/-- The standard base of protocols. -/
def protocolId : ClassId := 5

/-- The class of protocols, and of the classes that follow one. -/
def protocolTypeId : ClassId := 6

/-- The standard base of everything that can be raised. -/
def raisableId : ClassId := 7

/-- The standard base of errors. -/
def errorId : ClassId := 8

/-- The class of functions. -/
def functionId : ClassId := 9

/-- The class of functions that are bound to what they are called on. -/
def methodId : ClassId := 10

/-- The class of functions that are built in. -/
def builtinId : ClassId := 11

/-- The class of properties. -/
def propertyId : ClassId := 12

/-- The class of whole numbers. -/
def numberId : ClassId := 13

/-- The class of flags. -/
def flagId : ClassId := 14

/-- The class of texts. -/
def textId : ClassId := 15

/-- The class of nothing. -/
def nothingId : ClassId := 16

/-- The class of rows. -/
def rowId : ClassId := 17

/-- The class of tables. -/
def tableId : ClassId := 18

/-- The class of the contents of classes. -/
def contentId : ClassId := 19

/-- The class of sets that do not change. -/
def frozenSetId : ClassId := 20

/-- The class of what is kept about classes with abstract members. -/
def abstractDataId : ClassId := 21

/-- The class of operations that are built in, as classes have them. -/
def operationId : ClassId := 22

/-- The class of methods that are built in, as classes have them. -/
def builtinMethodId : ClassId := 23

/-- The class of methods of classes that are built in, as classes have them. -/
def classwideId : ClassId := 24

/-- The class of attributes that are computed. -/
def computedId : ClassId := 25

/-- The class of attributes that are stored in a place of their own. -/
def storedId : ClassId := 26

/-- The class of operations that are built in, as objects have them. -/
def boundOperationId : ClassId := 27

/-- The class of modules. -/
def homeId : ClassId := 28

/-- The class of the code of functions. -/
def codeId : ClassId := 29

/-- The class of rows of bytes. -/
def bytesId : ClassId := 30

/-- The class of functions that are marked to take no object. -/
def staticId : ClassId := 31

/-- The class of functions that are marked to take a class. -/
def classMethodId : ClassId := 32

/-- The class of classes with arguments. -/
def aliasId : ClassId := 33

/-! ### Objects -/

/-- A function that is defined in the language itself. -/
structure Function where
  /-- Tells the function from all others. -/
  number : Nat
  /-- The module in which it is defined. -/
  home : Text
  /-- The path from the module to the function. -/
  path : Text
  /-- The name under which it was defined. -/
  name : Text
  comment : Option Text := none
  isFinal : Bool := false
  isAbstract : Bool := false
deriving DecidableEq

/-- In which way a class offers something that is built in. -/
inductive Feature
  | operation
  | method
  /-- A method of the class and not of its objects. -/
  | classwide
  /-- An attribute that is computed. -/
  | computed
  /-- An attribute that is stored in a place of its own. -/
  | stored
deriving DecidableEq

/-- In which way something that is built in can be called as it is. -/
inductive Bound
  /-- An operation of an object. -/
  | operation
  /-- A method of an object, of a class or of a module. -/
  | method
  /-- A function that a class has, but that is not called on anything. -/
  | free
deriving DecidableEq

/-- What is said about something that is built in: what it does, and how it is called. -/
structure Help where
  comment : Option Text := none
  signature : Option Text := none
deriving DecidableEq

/-- What a name can lead to. -/
inductive Object
  /-- A module. -/
  | home (name : Text)
  | cls (id : ClassId)
  | function (f : Function)
  /-- An object that is called with a class. -/
  | method (callee : Object) (owner : ClassId)
  /-- A value that a function computes. -/
  | property (f : Function)
  | text (s : Text)
  | number (n : Int)
  | flag (set : Bool)
  | nothing
  /-- A row of classes. -/
  | row (classes : List ClassId)
  /-- A row of one object. -/
  | single (item : Object)
  /-- A table without entries. -/
  | emptyTable
  /-- What a class has, by name. -/
  | content (id : ClassId)
  /-- Something that is built in, as the class `owner` has it. -/
  | feature (kind : Feature) (name : Text) (owner : ClassId) (help : Help)
  /-- Something that is built in and was defined by the class `owner`, as `subject` has it. -/
  | bound (kind : Bound) (name : Text) (owner : ClassId) (subject : Object) (help : Help)
  /-- An object that is marked to take no object when it is called. -/
  | static (object : Object) (isFinal : Bool)
  /-- An object that is marked to take a class when it is called. -/
  | classwide (object : Object) (isFinal : Bool)
  /-- A class with an argument. -/
  | alias (origin : ClassId) (argument : Object)
  /-- Any other object of a class, one that none of the above stands for. -/
  | thing (kind : ClassId)
deriving DecidableEq

namespace Object

/-- A text, or nothing in its absence. -/
def ofText? : Option Text → Object
  | some s => .text s
  | none => .nothing

/-- Whether an object counts as present. Nothing is called to find out: an object of which only the class matters is
    taken to be present, as it is unless its class says otherwise or it can be empty. -/
def truthy : Object → Bool
  | .text s => !s.isEmpty
  | .number n => n != 0
  | .flag set => set
  | .nothing => false
  | .row classes => !classes.isEmpty
  | .emptyTable => false
  | _ => true

end Object

/-! ### Members -/

/-- What a class has under a name. A function is a value like any other object: it makes no difference whether it was
    defined in the body of the class or somewhere else. -/
inductive Member
  /-- Something that is built in. -/
  | feature (kind : Feature) (help : Help)
  /-- An object as it is. -/
  | value (object : Object)
deriving DecidableEq

namespace Member

/-- Whether a member is an attribute that is computed or stored. -/
def isComputed : Member → Bool
  | .feature .computed _ | .feature .stored _ => true
  | _ => false

/-- Whether a member of an object's class goes before what the object itself has. -/
def isData : Member → Bool
  | .value (.property _) => true
  | member => member.isComputed

end Member
end ApiDocs.Live
