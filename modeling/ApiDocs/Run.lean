import ApiDocs.ClassTable
import ApiDocs.Documentation.Json
import ApiDocs.Extractor
import ApiDocs.Live.Registry
import ApiDocs.Settings
import ApiDocs.Text.Utf8

/-! A whole run: from settings and the names of classes to JSON text, which may also be written to a file. The file is
    written last, when nothing else can fail. -/

namespace ApiDocs

/-- What a run is asked to do. -/
structure Job where
  targets : List Text
  /-- The file to write. -/
  output : Option Location := none
  /-- The directory with the settings, for a job without settings of its own. -/
  directory : Path := {}
  settings : Option Settings := none
  /-- The file with the table of classes; without one the classes are live. -/
  table : Option Location := none

namespace Job

/-- The settings of a job. -/
def chosenSettings (job : Job) : Act Settings :=
  match job.settings with
  | some settings => pure settings
  | none => Settings.load job.directory

/-- What is needed to extract documentation. Live classes start with nothing known. -/
def extractor (job : Job) (world : Live.World) (settings : Settings) : Act Extractor := do
  let reader ← Act.ofExcept (Reader.ofSetting settings.style)
  match job.table with
  | some location =>
    Act.note [.debug ("Reading class metadata from " ++ location.text)]
    let path ← Act.ofExcept location.path
    let table ← Act.ofExcept (ClassTable.ofFile (← Act.readFile path))
    return ⟨table.source, reader, linkFallback settings.linkTemplate⟩
  | none =>
    modify fun session => { session with registry := [] }
    return ⟨world.source, reader, world.fallback settings.linkTemplate⟩

/-- Writes the text of a run to the file of the job, if it has one. -/
def deliver (job : Job) (text : Text) : Act Unit :=
  match job.output with
  | none => pure ()
  | some .nowhere => throw .outputNowhere
  | some (.file path) => do
    Act.makeDirectories path.root path.parent.parts.reverse
    Act.writeFile path (Text.encode (text ++ "\n"))
    Act.note [.info ("Generated " ++ path.text)]

/-- Runs a job. The result is the JSON text of the documentation. -/
def run (job : Job) (world : Live.World) : Act Text := do
  let settings ← job.chosenSettings
  Act.note [.debug ("Config: " ++ settings.shown)]
  let extractor ← job.extractor world settings
  let docs ← extractor.extractAll settings.keepGoing.truthy job.targets
  if !(docs.all Documentation.isPlain) then throw .notData
  let text := Documentation.render Documentation.standardIndent docs
  job.deliver text
  return text

end Job
end ApiDocs
