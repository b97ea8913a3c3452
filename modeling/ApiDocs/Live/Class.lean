import ApiDocs.Live.Object

/-! Live classes: classes that exist while the program runs, with what their bodies define. -/

namespace ApiDocs.Live

/-- How the objects of a class are laid out, in bytes, and what the class is marked with. -/
structure Layout where
  size : Nat
  /-- The size of each item of an object that has a varying number of them. -/
  itemSize : Nat
  /-- Where the table of attributes is found, or 0. -/
  table : Nat
  /-- Where the list of references to the object is found, or 0. -/
  references : Nat
  /-- The marks, each one bit. -/
  marks : Nat
deriving DecidableEq

/-- A class. -/
structure Class where
  /-- The module in which the class is defined. -/
  home : Text
  /-- The path from the module to the class. -/
  path : Text
  bases : List ClassId := []
  /-- What the class has by itself, in order. -/
  members : List (Text × Member) := []
  /-- The class and its ancestors, in the order in which members are looked for. -/
  order : List ClassId
  /-- The class of the class. -/
  type : ClassId := typeId
  /-- The names that a subclass still has to give. -/
  abstractNames : List Text := []
  /-- Whether the class cannot have objects because of what a subclass still has to give. -/
  isAbstract : Bool := false
  isBuiltIn : Bool := false
  /-- The comment of a class that is built in. -/
  comment : Option Text := none
  /-- How the class is called, if its comment starts with that. -/
  signature : Option Text := none
  /-- The layout of the objects of a class that is built in. -/
  layout : Option Layout := none
deriving DecidableEq

namespace Class

/-- The name of a class: the last part of its path. -/
def name (c : Class) : Text := ((Text.dotted c.path).getLast?).getD []

end Class
end ApiDocs.Live
