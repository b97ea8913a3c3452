import ApiDocs.Link.Template
import ApiDocs.Session
import ApiDocs.Toml.Reader

/-! Settings of a run. They are read from a file in the project's directory: the one that is meant for them, or else a
    section of the project's own file. A file that cannot be read is noted and passed over. Values are not checked. -/

namespace ApiDocs

/-- The settings of a run. -/
structure Settings where
  /-- The name of the style of docblocks. -/
  style : Value := .text "epydoc"
  /-- The template for links to methods without a docblock. -/
  linkTemplate : Value := .text Link.standardTemplate
  /-- Whether classes that fail are left out, and do not end the run. -/
  keepGoing : Value := .flag false

namespace Settings

/-- The settings with one of them changed, if there is one of that name. -/
def set? (settings : Settings) (name : Text) (value : Value) : Option Settings :=
  if name = "style".toList then some { settings with style := value }
  else if name = "link_template".toList then some { settings with linkTemplate := value }
  else if name = "keep_going".toList then some { settings with keepGoing := value }
  else none

/-- The settings with several of them changed. -/
def setAll (settings : Settings) (fields : List (Text × Value)) : Except Fault Settings :=
  fields.foldlM (fun settings field =>
    match settings.set? field.1 field.2 with
    | some settings => .ok settings
    | none => .error .unknownSetting) settings

/-- The settings with those overrides that are not null. No override may be called `self`, whatever its value: the name
    stands for the settings themselves. -/
def updated (settings : Settings) (overrides : List (Text × Value)) : Except Fault Settings :=
  if (overrides.lookup "self".toList).isSome then .error .unknownSetting
  else
    settings.setAll (overrides.filter fun field => match field.2 with
      | .null => false
      | _ => true)

/-- The settings as a note shows them. -/
def shown (settings : Settings) : Text :=
  "ClassdocConfig(style=" ++ settings.style.shown ++ ", link_template=" ++ settings.linkTemplate.shown ++
    ", keep_going=" ++ settings.keepGoing.shown ++ ")"

/-! ### Reading settings -/

/-- The name of the setting that a key stands for: hyphens count as underscores. -/
def keyName (key : Text) : Text := key.map fun c => if c = '-' then '_' else c

/-- The settings after an entry of the table, and what is noted about it. -/
def addEntry (state : Settings × List Note) (entry : Text × Value) : Settings × List Note :=
  match state.1.set? (keyName entry.1) entry.2 with
  | some settings => (settings, state.2)
  | none => (state.1, state.2 ++ [.warning ("Ignoring unknown classdoc setting " ++ Text.quoted entry.1)])

/-- The settings in a table, and what is noted about keys that are none. -/
def ofEntries (entries : List (Text × Value)) : Settings × List Note := entries.foldl addEntry ({}, [])

/-- The part of the file for settings that has them. -/
def ownSection (entries : List (Text × Value)) : Except Fault Value :=
  .ok (Ordered.getD entries "classdoc" (.table []))

/-- The part of the project's file that has the settings. -/
def projectSection (entries : List (Text × Value)) : Except Fault Value :=
  match Ordered.getD entries "tool" (.table []) with
  | .table tools => .ok (Ordered.getD tools "classdoc" .null)
  | _ => .error .sectionNotTable

/-- Whether a fault means that a file is passed over. -/
def isUnreadable (fault : Fault) : Bool := fault.isFile || fault == .tomlForm

/-- A part of a file, if the file is there and can be read. -/
def readSection (path : Path) (part : List (Text × Value) → Except Fault Value) : Act (Option Value) := do
  if ← Act.hasFile path then
    tryCatch (do return some (← Act.ofExcept ((Toml.ofBytes (← Act.readFile path)).bind part))) fun fault => do
      if isUnreadable fault then
        Act.note [.warning ("Could not read " ++ path.text ++ ": " ++ fault.describe)]
        return none
      else throw fault
  else return none

/-- The table of settings for a directory, or null. -/
def readTable (directory : Path) : Act Value := do
  match ← readSection (directory.child ".classdoc.toml") ownSection with
  | some value => return value
  | none =>
    match ← readSection (directory.child "pyproject.toml") projectSection with
    | some value => return value
    | none => return .null

/-- The settings in the section that was found. -/
def settle (value : Value) : Act Settings :=
  if value.truthy then
    match value with
    | .table entries => do
      let (settings, notes) := ofEntries entries
      Act.note notes
      return settings
    | _ => throw .sectionNotTable
  else return {}

/-- The settings for a directory. -/
def load (directory : Path) : Act Settings := readTable directory >>= settle

end Settings
end ApiDocs
