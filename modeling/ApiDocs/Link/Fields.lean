import ApiDocs.Text.Lowercase

/-! The fields that a link can be made of. The id of a method is `module.Class.method`, where the module may have dots of
    its own. -/

namespace ApiDocs.Link

/-- What stands before and after the last dot; without a dot all stands after it. -/
def splitLast (s : Text) : Text × Text := (Text.cutLast '.' s).getD ([], s)

/-- The fields of an id as they are written. -/
def plainFields (id : Text) : List (Text × Text) :=
  let (owner, name) := splitLast id
  let (home, last) := splitLast owner
  [("id", id), ("owner", owner), ("module", home), ("cls", if last.isEmpty then owner else last), ("name", name)]

/-- All fields of an id: each as it is written and in lower case. -/
def fields (id : Text) : List (Text × Text) :=
  plainFields id ++ (plainFields id).map fun field => (field.1 ++ "_lower".toList, Text.lower field.2)

end ApiDocs.Link
