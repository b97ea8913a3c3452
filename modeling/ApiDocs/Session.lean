import ApiDocs.Fault
import ApiDocs.Files
import ApiDocs.Note

/-! What a piece of work leaves behind besides its result: the notes that were taken, the ids for which a fallback was
    asked, the names of live classes that became known, and the files. All of it is kept when the work ends in a fault,
    so an `Act` gives its session back in every case. -/

namespace ApiDocs

/-- The names of live classes that are known, each with the place of its class among all classes. -/
abbrev Registry := List (Text × Nat)

/-- What is left behind. -/
structure Session where
  registry : Registry := []
  asked : List Text := []
  log : List Note := []
  files : Files := {}
deriving DecidableEq

/-- Work that may fail and leaves something behind. -/
abbrev Act := ExceptT Fault (StateM Session)

namespace Act

/-- The outcome of some work, and the session after it. -/
def outcome {α : Type} (act : Act α) (session : Session) : Except Fault α × Session := act.run.run session

/-- A result that may be a fault. -/
def ofExcept {α : Type} : Except Fault α → Act α
  | .ok a => pure a
  | .error fault => throw fault

/-- Takes notes. -/
def note (notes : List Note) : Act Unit := modify fun session => { session with log := session.log ++ notes }

/-- Asks a fallback for an id, which is recorded before it answers. -/
def ask {α : Type} (fallback : Text → Act α) (id : Text) : Act α := do
  modify fun session => { session with asked := session.asked ++ [id] }
  fallback id

/-- Whether a path leads to something. -/
def hasFile (path : Path) : Act Bool := do return (← ofExcept ((← get).files.found? path)).isSome

/-- The bytes of a file. -/
def readFile (path : Path) : Act (List UInt8) := do ofExcept ((← get).files.read path)

/-- Changes the files, or fails and leaves them as they are: no change is taken to be broken off half way. -/
def changeFiles (change : Files → Except Fault Files) : Act Unit := do
  let files ← ofExcept (change (← get).files)
  modify fun session => { session with files }

/-- Writes a file. -/
def writeFile (path : Path) (bytes : List UInt8) : Act Unit := changeFiles (·.write path bytes)

/-- Makes a directory; that it is there already is no fault. -/
def makeDirectory (path : Path) : Act Unit :=
  tryCatch (changeFiles (·.makeDirectory path)) fun fault => do
    if (← ofExcept ((← get).files.found? path)) = some .directory then return () else throw fault

/-- Makes a directory together with those that it is inside of. The parts of its path are given from the last one on. -/
def makeDirectories (root : Text) : List Text → Act Unit
  | [] => makeDirectory ⟨root, []⟩
  | part :: outer =>
    let path : Path := ⟨root, (part :: outer).reverse⟩
    tryCatch (makeDirectory path) fun fault =>
      match fault with
      | .fileMissing => do
        makeDirectories root outer
        makeDirectory path
      | fault => throw fault

end Act
end ApiDocs
