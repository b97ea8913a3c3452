import ApiDocs.Text.Basic

/-! Notes: what the program reports beside its result. -/

namespace ApiDocs

/-- How much a note matters. -/
inductive Level
  | debug
  | info
  | warning
deriving DecidableEq, Repr

namespace Level

/-- The name of a level. -/
def name : Level → Text
  | .debug => "DEBUG"
  | .info => "INFO"
  | .warning => "WARNING"

end Level

/-- One line of the report. -/
structure Note where
  level : Level
  message : Text
deriving DecidableEq

namespace Note

/-- A note about the steps of the work. -/
def debug (message : Text) : Note := ⟨.debug, message⟩

/-- A note about a result. -/
def info (message : Text) : Note := ⟨.info, message⟩

/-- A note about something that was left out. -/
def warning (message : Text) : Note := ⟨.warning, message⟩

/-- The notes that are shown: all of them if asked for, else the warnings. -/
def visible (verbose : Bool) (notes : List Note) : List Note :=
  notes.filter fun note => verbose || note.level == .warning

end Note
end ApiDocs
