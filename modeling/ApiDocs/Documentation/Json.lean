import ApiDocs.Documentation.Basic
import ApiDocs.Json.Writer

/-! The form in which documentation is handed on: plain data, written as JSON. -/

namespace ApiDocs

/-- What is returned or thrown, as plain data. -/
def Datum.toValue (datum : Datum) : Value := .table [("desc", .text datum.desc), ("type", .text datum.type)]

/-- A parameter as plain data. -/
def Parameter.toValue (parameter : Parameter) : Value :=
  .table [("name", .text parameter.name), ("desc", .text parameter.desc), ("type", .text parameter.type)]

/-- A list that may be absent, as plain data. -/
def listValue {α : Type} (toValue : α → Value) : Option (List α) → Value
  | none => .null
  | some items => .list (items.map toValue)

/-- Details as plain data. The link is left out where there is none. -/
def Detail.toValue (detail : Detail) : Value :=
  let members : List (Text × Value) := [
    ("shortDescription", .ofText? detail.short),
    ("longDescription", .ofText? detail.long),
    ("argumentsList", .list (detail.arguments.map .text)),
    ("argumentsDescription", listValue Parameter.toValue detail.parameters),
    ("returnValue", listValue Datum.toValue detail.returns),
    ("throwsExceptions", listValue Datum.toValue detail.throws),
    ("visibility", .ofText? detail.visibility)]
  .table (members ++ detail.link.toList.map fun link => ("doclink".toList, Value.text link))

/-- The key under which the method of a name stands. -/
def memberKey : Value → Text
  | .text name => name
  | .null => "null"
  | .flag true => "true"
  | .flag false => "false"
  | .real x => Json.real x
  | name => name.display

/-- Methods as plain data. -/
def Details.toValue (details : Details) : Value :=
  .table (details.map fun entry => (memberKey entry.1, entry.2.toValue))

namespace Documentation

/-- The documentation of a class as plain data. -/
def toValue (doc : Documentation) : Value :=
  .table [
    ("className", .text doc.name),
    ("description", .table [("short", .text doc.description.short), ("long", .text doc.description.long)]),
    ("parent", doc.parent),
    ("interfaces", .list doc.interfaces),
    ("methods", Details.toValue doc.methods),
    ("inheritedMethods", Details.toValue doc.inherited)]

/-- Whether documentation can be handed on: neither its interfaces nor the names of its methods are something that is no
    data. -/
def isPlain (doc : Documentation) : Bool :=
  doc.parent.isPlain && doc.interfaces.all Value.isPlain && doc.methods.all (·.1.isPlain) &&
    doc.inherited.all (·.1.isPlain)

/-- The documentation of several classes as plain data. A class that comes twice keeps its first place and its last
    documentation. -/
def allValue (docs : List Documentation) : Value :=
  .table [("classes", .table (Ordered.ofList (docs.map fun doc => (doc.name, doc.toValue))))]

/-- The JSON text of documentation. -/
def render (indent : Option Nat) (docs : List Documentation) : Text := Json.render indent (allValue docs)

/-- The indent of the text that is handed out. -/
def standardIndent : Option Nat := some 2

end Documentation
end ApiDocs
