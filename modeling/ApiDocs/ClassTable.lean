import ApiDocs.Source
import ApiDocs.Toml.Reader

/-! Classes from a table. A table has a record for each class; it is made from plain data, of which only the shape is
    checked, and all of it before the first question is answered. -/

namespace ApiDocs

/-- What a table knows about a class. -/
structure ClassRecord where
  parent : Value := .null
  interfaces : List Value := []
  comment : Value := .null
  methods : List Method := []

namespace ClassRecord

/-- The elements of a value that should have some. -/
def elements (value : Value) : Except Fault (List Value) :=
  match value.elements? with
  | some elements => .ok elements
  | none => .error .noElements

/-- A method of a class. -/
def readMethod (owner : Text) (data : Value) : Except Fault Method :=
  match data with
  | .table entries =>
    match entries.lookup "name".toList with
    | none => .error .nameMissing
    | some name =>
      .ok {
        name, owner
        isStatic := (Ordered.getD entries "static" (.flag false)).truthy
        isFinal := (Ordered.getD entries "final" (.flag false)).truthy
        comment := Ordered.getD entries "doc" .null }
  | _ => .error .methodNotTable

/-- The record of a class. -/
def ofValue (name : Text) (data : Value) : Except Fault ClassRecord :=
  match data with
  | .table entries => do
    let methods ← (← elements (Ordered.getD entries "methods" (.list []))).mapM (readMethod name)
    let interfaces ← elements (Ordered.getD entries "interfaces" (.list []))
    let parent := Ordered.getD entries "parent" .null
    return { parent, interfaces, comment := Ordered.getD entries "doc" .null, methods }
  | _ => .error .classNotTable

end ClassRecord

/-- Classes by name. -/
abbrev ClassTable := List (Text × ClassRecord)

namespace ClassTable

/-- The table of some data. -/
def ofValue (data : Value) : Except Fault ClassTable :=
  match data with
  | .table entries => entries.mapM fun entry => do return (entry.1, ← ClassRecord.ofValue entry.1 entry.2)
  | _ => .error .classNotTable

/-- The table in a TOML file, from its section for classes. -/
def ofFile (bytes : List UInt8) : Except Fault ClassTable := do
  let entries ← Toml.ofBytes bytes
  ofValue (Ordered.getD entries "classes" (.table []))

/-- The record of a class. -/
def record (table : ClassTable) (name : Text) : Except Fault ClassRecord :=
  match table.lookup name with
  | some record => .ok record
  | none => .error (.unknownClass name)

/-- A table as a source. -/
def source (table : ClassTable) : Source where
  methods name := Act.ofExcept ((table.record name).map (·.methods))
  parent name := Act.ofExcept ((table.record name).map (·.parent))
  interfaces name := Act.ofExcept ((table.record name).map (·.interfaces))
  comment name := Act.ofExcept ((table.record name).map (·.comment))

end ClassTable
end ApiDocs
