import ApiDocs.Text.Basic

/-! Paths of files, as they are written: a root, if any, and the parts after it. Empty parts and single dots are left out
    when a path is read; double dots stay, because what they lead to depends on the files. -/

namespace ApiDocs

/-- A path. -/
structure Path where
  /-- One slash, two slashes, or nothing. -/
  root : Text := []
  parts : List Text := []
deriving DecidableEq

namespace Path

/-- The root of a path: exactly two slashes are kept, any other number is one. -/
def rootOf (s : Text) : Text :=
  match (s.takeWhile (· == '/')).length with
  | 0 => []
  | 2 => "//"
  | _ => "/"

/-- Reads a path. -/
def ofText (s : Text) : Path :=
  ⟨rootOf s, (Text.splitWith (· == '/') s).filter fun part => part != [] && part != ['.']⟩

/-- A path as text. -/
def text (path : Path) : Text :=
  if path.root.isEmpty && path.parts.isEmpty then "." else path.root ++ Text.join "/" path.parts

/-- The path of a file in a directory. -/
def child (path : Path) (name : Text) : Path := { path with parts := path.parts ++ [name] }

/-- The path without its last part. -/
def parent (path : Path) : Path := { path with parts := path.parts.dropLast }

end Path

/-- Where a file is said to be. -/
inductive Location
  | file (path : Path)
  /-- A place is given, but it is an empty list. -/
  | nowhere
deriving DecidableEq

/-- A location as text. -/
def Location.text : Location → Text
  | .file path => path.text
  | .nowhere => "[]"

end ApiDocs
