import ApiDocs.Docblock.Tag
import ApiDocs.Source

/-! The documentation of a class, as it is handed on. The details of a method have one of two shapes: with a docblock
    everything but the link is there, without one only what the fallback says. -/

namespace ApiDocs

/-- Summary and description of a class. -/
structure Description where
  short : Text := []
  long : Text := []
deriving DecidableEq

/-- A parameter of a method; its name begins with a dollar sign. -/
structure Parameter where
  name : Text
  type : Text
  desc : Text
deriving DecidableEq

/-- What is returned or thrown. -/
structure Datum where
  type : Text
  desc : Text
deriving DecidableEq

/-- The details of a method. -/
structure Detail where
  short : Option Text := none
  long : Option Text := none
  /-- The parameters in short: type and name. -/
  arguments : List Text := []
  parameters : Option (List Parameter) := none
  returns : Option (List Datum) := none
  throws : Option (List Datum) := none
  visibility : Option Text := none
  link : Option Text := none
deriving DecidableEq

namespace Detail

/-- The type of a tag that gives none. -/
def untyped : Text := "mixed"

/-- The type of a tag. -/
def typeOf (tag : Docblock.Tag) : Text :=
  match tag.type with
  | some (c :: rest) => c :: rest
  | _ => untyped

/-- The name of the parameter of a tag. -/
def nameOf (tag : Docblock.Tag) : Text := '$' :: tag.param.getD "None"

/-- The valid tags of a kind. -/
def valid (docblock : Docblock) (kind : Docblock.Kind) : List Docblock.Tag :=
  (docblock.tagsNamed kind.name).filter (·.valid)

/-- What some tags say. -/
def data (tags : List Docblock.Tag) : List Datum := tags.map fun tag => ⟨typeOf tag, tag.desc⟩

/-- The details of a method with a docblock. -/
def ofDocblock (method : Method) (docblock : Docblock) : Detail :=
  let params := valid docblock .param
  { short := some docblock.summary
    long := some docblock.description
    arguments := params.map fun tag => typeOf tag ++ " " ++ nameOf tag
    parameters := some (params.map fun tag => ⟨nameOf tag, typeOf tag, tag.desc⟩)
    returns := some (data (valid docblock .returns))
    throws := some (data (valid docblock .throws))
    visibility := some method.visibility }

/-- The details of a method without a docblock. -/
def ofSuggestion (suggestion : Suggestion) : Detail := { short := suggestion.short, link := some suggestion.link }

end Detail

/-- Details of methods by name. -/
abbrev Details := List (Value × Detail)

/-- The documentation of a class. -/
structure Documentation where
  name : Text
  description : Description := {}
  parent : Value := .null
  interfaces : List Value := []
  /-- The methods of the class that its parent does not have. -/
  methods : Details := []
  /-- The methods of the parent. -/
  inherited : Details := []

end ApiDocs
