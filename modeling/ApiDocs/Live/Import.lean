import ApiDocs.Live.Attribute
import ApiDocs.Text.Digit
import ApiDocs.Text.Word

/-! Finding what a dotted name stands for. A name leads to a module and from there along attributes; a colon may stand
    where the module ends, otherwise as many parts as possible belong to the module. -/

namespace ApiDocs.Live

/-- Whether a text can be a part of a dotted name. -/
def isNamePart : Text → Bool
  | [] => false
  | c :: rest => !Text.isDigit c && (c :: rest).all Text.isWordChar

/-- Whether all parts of a text are parts of a dotted name. -/
def isDottedName (s : Text) : Bool := (Text.dotted s).all isNamePart

/-- A name that may have a colon: the part before it, and the part after it if there is one. -/
def splitName? (name : Text) : Option (Text × Option Text) :=
  match Text.cutFirst ':' (Text.dropLastFeed name) with
  | none => if isDottedName (Text.dropLastFeed name) then some (Text.dropLastFeed name, none) else none
  | some (home, path) =>
    if isDottedName home && (path.isEmpty || isDottedName path) then some (home, some path) else none

namespace World

/-- The longest module that a name begins with, and the parts after it. -/
def longestHome (world : World) (home : Text) : List Text → Text × List Text
  | [] => (home, [])
  | part :: rest =>
    let full := home ++ "." ++ part
    if world.hasHome full then world.longestHome full rest else (home, part :: rest)

/-- What a name stands for. Without a colon a line feed at the end belongs to the last part. -/
def find (world : World) (name : Text) : Except Fault Object :=
  match splitName? name with
  | none => .error .nameForm
  | some (home, some path) =>
    if world.hasHome home then world.follow (.home home) (if path.isEmpty then [] else Text.dotted path)
    else .error .noModule
  | some (_, none) =>
    match Text.dotted name with
    | [] => .error .nameForm
    | first :: rest =>
      if world.hasHome first then
        let (home, path) := world.longestHome first rest
        world.follow (.home home) path
      else .error .noModule

end World
end ApiDocs.Live
