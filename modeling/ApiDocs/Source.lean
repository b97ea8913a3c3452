import ApiDocs.Session
import ApiDocs.Value

/-! Where documentation comes from: a source knows classes and their methods, a fallback says something about a method
    that has no docblock. Both are records of work, so that tables and live classes can be used in the same way. -/

namespace ApiDocs

/-- A public method, as its source knows it. Nothing in a table is checked, so the name and the comment are values. -/
structure Method where
  name : Value
  /-- The name of the class that declares the method. -/
  owner : Text
  isStatic : Bool := false
  isFinal : Bool := false
  comment : Value := .null

namespace Method

/-- The id of a method: its class and its name. -/
def id (method : Method) : Text := method.owner ++ "." ++ method.name.display

/-- How a method is declared. -/
def visibility (method : Method) : Text :=
  (if method.isFinal then "final ".toList else []) ++ "public" ++ (if method.isStatic then " static".toList else [])

end Method

/-- What a source knows about the class of a name. -/
structure Source where
  /-- The public methods that a class declares, in order. -/
  methods : Text → Act (List Method)
  /-- The name of the parent, or null. -/
  parent : Text → Act Value
  /-- The names of the interfaces. -/
  interfaces : Text → Act (List Value)
  /-- The comment of the class. -/
  comment : Text → Act Value

/-- What can be said about a method without a docblock. -/
structure Suggestion where
  short : Option Text
  link : Text
deriving DecidableEq

/-- Says something about the method of an id. -/
abbrev Fallback := Text → Act Suggestion

end ApiDocs
