import ApiDocs.Text.Margin

/-! What the markup of a docblock says, whatever its style: a summary, a description, and a list of items in the order
    in which they are written. -/

namespace ApiDocs.Docblock

/-- A piece of information in a docblock. A description that is not given is empty. -/
inductive Item
  /-- A parameter. -/
  | param (name : Text) (type : Option Text) (desc : Text)
  /-- What a method returns or, as a generator, yields. -/
  | returns (type : Option Text) (desc : Text) (generator : Bool)
  /-- What a method raises. -/
  | raises (type : Option Text) (desc : Text)
  /-- Anything else. -/
  | other
deriving DecidableEq

/-- A type without the question mark that stands for an optional parameter. -/
def dropOptional (type : Text) : Text := (Text.before? "?" type).getD type

/-- What a docblock says. -/
structure Outline where
  summary : Text
  description : Text
  items : List Item
deriving DecidableEq

namespace Outline

/-- The summary is the first line of what stands before the items, the description is the rest. -/
def ofLead (lead : Text) (items : List Item) : Outline :=
  match Text.cutFirst '\n' lead with
  | none => ⟨lead, [], items⟩
  | some (summary, description) => ⟨summary, Text.trim description, items⟩

end Outline
end ApiDocs.Docblock
