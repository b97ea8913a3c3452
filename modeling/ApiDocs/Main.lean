import ApiDocs.CommandLine
import ApiDocs.Live.Standard

/-! The program. It reads the files that a run may look at, runs, writes the file that was asked for, and prints. -/

namespace ApiDocs.CommandLine

/-- What is behind an open handle. A directory can be opened, but not be read. -/
def lookInto (handle : IO.FS.Handle) : IO Entry :=
  tryCatch (do return .file (← handle.readBinToEnd).toList) fun _ => return .directory

/-- What is at a path on this machine. -/
def look (path : Path) : IO (Option Entry) :=
  tryCatch (do return some (← lookInto (← IO.FS.Handle.mk (String.ofList path.text) .read))) fun _ => return none

/-- A path and those that it leads through. -/
def trail (path : Path) : List Path :=
  (List.range (path.parts.length + 1)).map fun n => { path with parts := path.parts.take n }

/-- The paths among some locations. -/
def pathsOf (locations : List Location) : List Path := locations.filterMap fun location => location.path.toOption

/-- The paths that a run may look at. -/
def Arguments.paths (arguments : Arguments) : List Path :=
  let directories := pathsOf [arguments.directory]
  (directories.map (·.child ".classdoc.toml") ++ directories.map (·.child "pyproject.toml") ++
    pathsOf (arguments.table.toList ++ arguments.output.toList)).flatMap trail

/-- The files that a run may look at. -/
def snapshot (paths : List Path) : IO Files :=
  paths.foldlM (fun files path => do
    match ← look path with
    | some entry => return files.add path entry
    | none => return files) {}

/-- Writes the file of a run to this machine. -/
def store (files : Files) (path : Path) : IO Unit := do
  match files.read path with
  | .ok bytes =>
    IO.FS.createDirAll (String.ofList path.parent.text)
    IO.FS.writeBinFile (String.ofList path.text) ⟨bytes.toArray⟩
  | .error _ => return ()

/-- How the program is called. -/
def usage : String :=
  "usage: classdoc [-h] [-o OUTPUT] [--table TABLE] [--project-dir PROJECT_DIR] [--style STYLE]\n" ++
  "                [--link-template LINK_TEMPLATE] [--keep-going] [-v] CLASS [CLASS ...]"

/-- Runs the program. The result is its exit code. -/
def execute (words : List String) : IO UInt32 := do
  match parse (words.map String.toList) with
  | .error .help =>
    IO.println usage
    return 0
  | .error stop =>
    IO.eprintln usage
    return stop.code.toUInt32
  | .ok arguments =>
    let (outcome, session) := (arguments.run .standard).outcome { files := ← snapshot arguments.paths }
    for note in Note.visible arguments.verbose session.log do
      IO.eprintln (String.ofList note.message)
    match outcome with
    | .error fault =>
      IO.eprintln (String.ofList (fault.kind ++ ": " ++ fault.describe))
      return 1
    | .ok text =>
      (pathsOf arguments.output.toList).forM (store session.files)
      IO.print (String.ofList text)
      return 0

end ApiDocs.CommandLine

def main (words : List String) : IO UInt32 := ApiDocs.CommandLine.execute words
