import ApiDocs.Run
import ApiDocs.Text.Digit

/-! The command line. Its words are told apart first, each for itself: options, values, and words that look like options
    but are none. Then they are gone through in order, and an option takes its value from the word that follows. All
    targets must stand together. -/

namespace ApiDocs.CommandLine

/-! ### Options -/

/-- The options. -/
inductive Switch
  | help
  | output
  | table
  | directory
  | style
  | linkTemplate
  | keepGoing
  | verbose
deriving DecidableEq, Repr

/-- Whether an option has a value. -/
def Switch.takesValue : Switch → Bool
  | .help | .keepGoing | .verbose => false
  | _ => true

/-- The spellings of the options. -/
def spellings : List (Text × Switch) := [
  ("-h", .help), ("--help", .help), ("-o", .output), ("--output", .output), ("--table", .table),
  ("--project-dir", .directory), ("--style", .style), ("--link-template", .linkTemplate), ("--keep-going", .keepGoing),
  ("-v", .verbose), ("--verbose", .verbose)]

/-- The word that divides options from targets. It is never a value: an option to which it is attached has an empty
    list for its value. -/
def dividerWord : Text := "--"

/-- Why nothing is run. -/
inductive Stop
  | help
  | misuse
deriving DecidableEq, Repr

/-- The exit code of a command that does not run. -/
def Stop.code : Stop → Nat
  | .help => 0
  | .misuse => 2

/-! ### Words -/

/-- A word of the command line. -/
inductive Word
  | plain (word : Text)
  /-- Two hyphens: all words after them are plain. -/
  | divider
  /-- An option, whether it has a single hyphen, and what stands in the same word after it. -/
  | switch (switch : Switch) (short : Bool) (attached : Option Text)
  /-- A word that looks like an option. -/
  | unknown
deriving DecidableEq

/-- Whether a spelling has a single hyphen. -/
def isShort (spelling : Text) : Bool := (spelling.drop 1).head? != some '-'

/-- The spellings that a word with two hyphens abbreviates, with its value. -/
def abbreviated (word : Text) : List Word :=
  let (name, attached) : Text × Option Text := match Text.cutFirst '=' word with
    | some (name, value) => (name, some value)
    | none => (word, none)
  (spellings.filter fun spelling => name.isPrefixOf spelling.1).map fun spelling =>
    .switch spelling.2 (isShort spelling.1) attached

/-- The options that a word with one hyphen can begin with: the rest of the word is attached to them. -/
def joined (word : Text) : List Word :=
  (spellings.filter fun spelling => spelling.1 == word.take 2).map fun spelling =>
    .switch spelling.2 true (some (word.drop 2))

/-- Whether a word is a negative number. A line feed may follow it. -/
def isNegativeNumber (word : Text) : Bool :=
  match Text.dropLastFeed word with
  | '-' :: rest =>
    match Text.cutFirst '.' rest with
    | none => !rest.isEmpty && rest.all Text.isDigit
    | some (whole, fraction) => whole.all Text.isDigit && !fraction.isEmpty && fraction.all Text.isDigit
  | _ => false

/-- The option that stands before the first equals sign of a word. -/
def withSign? (word : Text) : Option Word := do
  let (name, value) ← Text.cutFirst '=' word
  let switch ← spellings.lookup name
  return .switch switch (isShort name) (some value)

/-- A word that is no option by its exact spelling. -/
def classifyOther (word : Text) : Except Stop Word :=
  match if isShort word then joined word else abbreviated word with
  | [found] => .ok found
  | _ :: _ :: _ => .error .misuse
  | [] => .ok (if isNegativeNumber word || word.contains ' ' then .plain word else .unknown)

/-- Tells what a word is. -/
def classify (word : Text) : Except Stop Word :=
  if word.head? != some '-' then .ok (.plain word)
  else
    match spellings.lookup word with
    | some switch => .ok (.switch switch (isShort word) none)
    | none =>
      if word.length = 1 then .ok (.plain word)
      else
        match withSign? word with
        | some found => .ok found
        | none => classifyOther word

/-- Tells what the words of a command line are. -/
def classifyAll : List Text → Except Stop (List Word)
  | [] => .ok []
  | word :: rest =>
    if word = dividerWord then .ok (.divider :: rest.map .plain)
    else do
      let word ← classify word
      return word :: (← classifyAll rest)

/-! ### Arguments -/

/-- What the command line asks for. -/
structure Arguments where
  targets : List Text := []
  output : Option Location := none
  table : Option Location := none
  directory : Location := .file {}
  /-- The style, or null. -/
  style : Value := .null
  /-- The template for links, or null. -/
  linkTemplate : Value := .null
  keepGoing : Bool := false
  verbose : Bool := false

/-- The file that a value names. -/
def locationOf (value : Text) : Location := if value = dividerWord then .nowhere else .file (Path.ofText value)

/-- The setting that a value gives. -/
def settingOf (value : Text) : Value := if value = dividerWord then .list [] else .text value

/-- Sets an option. Help is given at once, and only known styles are taken. -/
def Arguments.set (arguments : Arguments) (switch : Switch) (value : Text) : Except Stop Arguments :=
  match switch with
  | .help => .error .help
  | .output => .ok { arguments with output := some (locationOf value) }
  | .table => .ok { arguments with table := some (locationOf value) }
  | .directory => .ok { arguments with directory := locationOf value }
  | .style =>
    if value = dividerWord || styleNames.contains value then .ok { arguments with style := settingOf value }
    else .error .misuse
  | .linkTemplate => .ok { arguments with linkTemplate := settingOf value }
  | .keepGoing => .ok { arguments with keepGoing := true }
  | .verbose => .ok { arguments with verbose := true }

/-- What one word with options says: options with their values, and an option that waits for the next word. -/
structure Cluster where
  switches : List (Switch × Text) := []
  waiting : Option Switch := none
deriving DecidableEq

/-- An option without anything attached to it. -/
def Cluster.single (switch : Switch) : Cluster :=
  if switch.takesValue then { waiting := some switch } else { switches := [(switch, [])] }

/-- Short options that stand in one word, where `text` follows the first of them: after an option without a value the
    next one follows, or the word ends. -/
def cluster (switch : Switch) (text : Text) : Except Stop Cluster :=
  if switch.takesValue then .ok { switches := [(switch, text)] }
  else
    match text with
    | [] => .error .misuse
    | c :: rest =>
      match spellings.lookup ['-', c] with
      | none => .error .misuse
      | some next => do
        let others ← match rest with
          | [] => .ok (.single next)
          | c :: rest => cluster next (c :: rest)
        return { others with switches := (switch, []) :: others.switches }

/-- What a word with an option says. -/
def clusterOf (switch : Switch) (short : Bool) : Option Text → Except Stop Cluster
  | none => .ok (.single switch)
  | some text =>
    if short then cluster switch text
    else if switch.takesValue then .ok { switches := [(switch, text)] }
    else .error .misuse

/-- How far the targets are read. -/
inductive Targets
  | before
  | within
  | after
deriving DecidableEq

/-- How far the command line is read. -/
structure Progress where
  arguments : Arguments := {}
  targets : Targets := .before
  /-- Whether something was left over. -/
  hasExtras : Bool := false

/-- Goes past a word that is no option. -/
def Progress.pass (progress : Progress) (word : Text) : Progress :=
  match progress.targets with
  | .after => { progress with hasExtras := true }
  | _ =>
    { progress with
      targets := .within, arguments := { progress.arguments with targets := progress.arguments.targets ++ [word] } }

/-- Goes past the divider. -/
def Progress.divide (progress : Progress) : Progress :=
  match progress.targets with
  | .after => { progress with hasExtras := true }
  | _ => progress

/-- Closes the row of targets, if there is one. -/
def Progress.close (progress : Progress) : Progress :=
  match progress.targets with
  | .within => { progress with targets := .after }
  | _ => progress

/-- Sets options in order. -/
def Progress.setAll (progress : Progress) (switches : List (Switch × Text)) : Except Stop Progress := do
  let arguments ← switches.foldlM (fun arguments entry => arguments.set entry.1 entry.2) progress.arguments
  return { progress with arguments }

/-- Goes through the words. -/
def read (progress : Progress) : List Word → Except Stop Progress
  | [] => .ok progress
  | .plain word :: rest => read (progress.pass word) rest
  | .divider :: rest => read progress.divide rest
  | .unknown :: rest => read { progress.close with hasExtras := true } rest
  | .switch switch short attached :: rest => do
    let found ← clusterOf switch short attached
    let progress := progress.close
    match found.waiting, rest with
    | none, rest => read (← progress.setAll found.switches) rest
    | some waiting, .plain word :: rest => read (← progress.setAll (found.switches ++ [(waiting, word)])) rest
    | some _, _ => .error .misuse

/-- Reads a command line. -/
def parse (words : List Text) : Except Stop Arguments := do
  let progress ← read {} (← classifyAll words)
  if progress.targets = .before || progress.hasExtras then throw .misuse
  return progress.arguments

/-! ### Running -/

/-- The settings that the command line overrides. -/
def Arguments.overrides (arguments : Arguments) : List (Text × Value) := [
  ("style", arguments.style),
  ("link_template", arguments.linkTemplate),
  ("keep_going", if arguments.keepGoing then .flag true else .null)]

/-- Does what the command line asks for. The result is what is printed. -/
def Arguments.run (arguments : Arguments) (world : Live.World) : Act Text := do
  let directory ← Act.ofExcept arguments.directory.path
  let settings ← Settings.load directory
  let settings ← Act.ofExcept (settings.updated arguments.overrides)
  let job : Job := {
    targets := arguments.targets, output := arguments.output, directory
    settings := some settings, table := arguments.table }
  let text ← job.run world
  return if arguments.output.isNone then text ++ "\n".toList else []

end ApiDocs.CommandLine
