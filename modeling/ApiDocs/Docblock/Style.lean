import ApiDocs.Docblock.Style.Epydoc
import ApiDocs.Docblock.Style.Google
import ApiDocs.Docblock.Style.Numpydoc
import ApiDocs.Docblock.Style.Rest
import ApiDocs.Text.Lowercase

/-! The styles of docblocks, their names, and how a docblock is read in each of them. -/

namespace ApiDocs.Docblock

/-- A style of docblocks. -/
inductive Style
  /-- The one of the other styles in which most can be read. -/
  | auto
  | epydoc
  | google
  | numpydoc
  | rest
deriving DecidableEq, Repr

namespace Style

/-- The names of the styles. -/
def names : List (Text × Style) := styleNames.zip [auto, epydoc, google, numpydoc, rest]

/-- The style of a name, in upper or lower case. -/
def named (name : Text) : Except Fault Style :=
  match names.lookup (Text.lower name) with
  | some style => .ok style
  | none => .error (.unknownStyle name)

/-- The character that starts a tag at the beginning of a line, in the styles whose tags can be told apart before they
    are read. -/
def marker? : Style → Option Char
  | .epydoc => some '@'
  | .rest => some ':'
  | _ => none

/-- Of several outlines the first with the most items. -/
def richest : List Outline → Option Outline
  | [] => none
  | outline :: others =>
    match richest others with
    | none => some outline
    | some other => if other.items.length ≤ outline.items.length then some outline else some other

/-- The outlines that a docblock has in the other styles; those in which it is malformed are left out. -/
def candidates (s : Text) : Except Fault (List Outline) :=
  let first : Except Fault (List Outline) :=
    match Rest.read s with
    | .ok outline => .ok [outline]
    | .error fault => if fault.isMalformed then .ok [] else .error fault
  first.map fun found =>
    found ++ (Google.read s).toOption.toList ++ [Numpydoc.read s] ++ (Epydoc.read s).toOption.toList

/-- Reads a docblock or a piece of one. -/
def read (style : Style) (s : Text) : Except Fault Outline :=
  match style with
  | .auto => (candidates s).map fun found => (richest found).getD (Outline.ofLead [] [])
  | .epydoc => (Epydoc.read s).mapError .malformed
  | .google => (Google.read s).mapError .malformed
  | .numpydoc => .ok (Numpydoc.read s)
  | .rest => Rest.read s

end Style
end ApiDocs.Docblock
