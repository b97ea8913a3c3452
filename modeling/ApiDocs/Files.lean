import ApiDocs.Fault
import ApiDocs.Ordered
import ApiDocs.Path
import ApiDocs.Text.Utf8

/-! Files and directories. A place is given by the names that lead to it from the current directory; a first name `/`
    stands for the root, and names `..` at the start lead to directories about which nothing else is known. -/

namespace ApiDocs

/-- The path of a location. -/
def Location.path : Location → Except Fault Path
  | .file path => .ok path
  | .nowhere => .error .nowhere

/-- Where a file is. -/
abbrev Place := List Text

/-- What is at a place. -/
inductive Entry
  | file (bytes : List UInt8)
  | directory
deriving DecidableEq

/-- Files and directories by place. -/
structure Files where
  entries : List (Place × Entry) := []
deriving DecidableEq

namespace Files

/-- Whether there is a directory at a place, whatever the entries say: the current directory, those that it is inside of,
    and the root. -/
def isBase (place : Place) : Bool := place.all (· == "..".toList) || place == ["/".toList]

/-- What is at a place. -/
def entry? (files : Files) (place : Place) : Option Entry :=
  if isBase place then some .directory else files.entries.lookup place

/-- The place that a name leads to from a directory. -/
def move (place : Place) (name : Text) : Place :=
  if name = "..".toList then
    match place.getLast? with
    | none => [name]
    | some last => if last = "..".toList then place ++ [name] else if last = "/".toList then place else place.dropLast
  else place ++ [name]

/-- The place from which a path leads. -/
def start (path : Path) : Place := if path.root.isEmpty then [] else ["/"]

/-- How many bytes a name may have. -/
def longestName : Nat := 255

/-- How many bytes a path may have. -/
def longestPath : Nat := 4095

/-- Follows names through directories that exist. What the last name leads to need not exist. -/
def walk (files : Files) (place : Place) : List Text → Except Fault Place
  | [] => .ok place
  | name :: rest =>
    match files.entry? place with
    | none => .error .fileMissing
    | some (.file _) => .error .notDirectory
    | some .directory =>
      if (Text.encode name).length > longestName then .error .pathTooLong else walk files (move place name) rest

/-- The place of a path. No path has a character NUL. -/
def locate (files : Files) (path : Path) : Except Fault Place :=
  if path.parts.any (·.contains '\x00') then .error .pathForm
  else if (Text.encode path.text).length > longestPath then .error .pathTooLong
  else files.walk (start path) path.parts

/-- What a path leads to, if it leads to something. One that is too long is not asked. -/
def found? (files : Files) (path : Path) : Except Fault (Option Entry) :=
  match files.locate path with
  | .ok place => .ok (files.entry? place)
  | .error .pathTooLong => .error .pathTooLong
  | .error _ => .ok none

/-- The bytes of a file. -/
def read (files : Files) (path : Path) : Except Fault (List UInt8) := do
  match files.entry? (← files.locate path) with
  | some (.file bytes) => return bytes
  | some .directory => throw .isDirectory
  | none => throw .fileMissing

/-- Writes a file, in a directory that exists. A file that can be opened is taken to be written in full. -/
def write (files : Files) (path : Path) (bytes : List UInt8) : Except Fault Files := do
  let place ← files.locate path
  match files.entry? place with
  | some .directory => throw .isDirectory
  | _ => return ⟨Ordered.put place (.file bytes) files.entries⟩

/-- Makes a directory, in one that exists. -/
def makeDirectory (files : Files) (path : Path) : Except Fault Files := do
  let place ← files.locate path
  match files.entry? place with
  | some _ => throw .fileExists
  | none => return ⟨Ordered.put place .directory files.entries⟩

/-! ### Setting up and comparing -/

/-- The directories on the way to a place, the outermost first. -/
def outer (place : Place) : List Place := (List.range place.length).map fun n => place.take n

/-- Puts something at a path, together with the directories that lead to it. -/
def add (files : Files) (path : Path) (entry : Entry) : Files :=
  let place := path.parts.foldl move (start path)
  let directories := (outer place).filter fun place => (files.entry? place).isNone
  ⟨Ordered.put place entry (files.entries ++ directories.map fun place => (place, .directory))⟩

/-- The files inside the current directory that are new or changed, with their paths. -/
def changes (before after : Files) : List (Text × List UInt8) :=
  after.entries.filterMap fun (place, entry) =>
    match entry with
    | .directory => none
    | .file bytes =>
      let outside := place.head? = some "..".toList || place.head? = some "/".toList
      if before.entry? place = some (.file bytes) || outside then none else some (Text.join "/" place, bytes)

end Files
end ApiDocs
