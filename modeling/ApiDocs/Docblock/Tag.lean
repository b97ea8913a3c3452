import ApiDocs.Text.Blank
import ApiDocs.Text.Lowercase
import ApiDocs.Text.Word

/-! Tags: the items of a docblock that documentation is made of, in one form for all styles. -/

namespace ApiDocs
namespace Docblock

/-- The kind of a tag. A malformed tag may be of a kind that has no other use; it is called by the word that it starts
    with. -/
inductive Kind
  | param
  | returns
  | throws
  | other (word : Text)
deriving DecidableEq

namespace Kind

/-- The name of a kind. -/
def name : Kind → Text
  | .param => "param"
  | .returns => "return"
  | .throws => "throws"
  | .other word => word

/-- The words that stand for a kind at the start of a tag. -/
def words : List (Text × Kind) :=
  [("param", .param), ("parameter", .param), ("arg", .param), ("argument", .param), ("keyword", .param),
   ("key", .param), ("type", .param), ("return", .returns), ("returns", .returns), ("rtype", .returns),
   ("raise", .throws), ("raises", .throws), ("except", .throws), ("exception", .throws), ("throws", .throws)]

/-- The kind that a word stands for. -/
def ofWord (word : Text) : Kind := (words.lookup word).getD (.other word)

end Kind

/-- A tag. Only tags for parameters have the name of one. -/
structure Tag where
  kind : Kind
  type : Option Text := none
  param : Option Text := none
  desc : Text := []
  valid : Bool := true
deriving DecidableEq

namespace Tag

/-- The tag that stands for a chunk that cannot be read. The chunk begins with a marker. -/
def malformed (chunk : Text) : Tag :=
  { kind := .ofWord (Text.lower ((chunk.drop 1).takeWhile Text.isWordChar)), desc := Text.trim chunk, valid := false }

end Tag

end Docblock

/-- A docblock: its summary, its description, and its tags in order. -/
structure Docblock where
  summary : Text := []
  description : Text := []
  tags : List Docblock.Tag := []
deriving DecidableEq

namespace Docblock

/-- The tags whose kind has a name. -/
def tagsNamed (docblock : Docblock) (name : Text) : List Tag := docblock.tags.filter fun tag => tag.kind.name == name

end Docblock
end ApiDocs
