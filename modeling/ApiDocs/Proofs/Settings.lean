import ApiDocs.Proofs.Detached
import ApiDocs.Proofs.Toml
import ApiDocs.Settings
import Mathlib.Data.List.Induction

/-! When settings are returned. A file for settings that is a directory or is not well formed is noted and passed over,
    so that the settings are those that there would be without it. But a file that is not UTF-8, that has a number with
    too many digits, or whose section is something else than a table ends the run, unless it is not reached because the
    first file has the settings. -/

namespace ApiDocs

/-- The bytes of what is at a path. -/
def Entry.bytes : Entry → Except Fault (List UInt8)
  | .file bytes => .ok bytes
  | .directory => .error .isDirectory

theorem Files.read_of_found? {files : Files} {path : Path} {entry : Entry} (h : files.found? path = .ok (some entry)) :
    files.read path = entry.bytes := by
  unfold found? at h
  split at h
  · rename_i place hplace
    have hentry : files.entry? place = some entry := Except.ok.inj h
    have hpure : files.locate path = pure place := hplace
    rw [read, hpure, pure_bind, hentry]
    cases entry with
    | file bytes => rfl
    | directory => rfl
  · cases h
  · cases h

/-- Whether a value can be a section of settings: a table, or anything that counts as absent. -/
def Value.isSection (value : Value) : Bool :=
  match value with
  | .table _ => true
  | value => !value.truthy

namespace Settings

/-! ### Files for settings -/

/-- What is noted about a file that is passed over. -/
def warning (path : Path) (fault : Fault) : Note := .warning ("Could not read " ++ path.text ++ ": " ++ fault.describe)

/-- The fault for which what is at a path is passed over, if it is. -/
def passedFor? : Entry → Option Fault
  | .directory => some .isDirectory
  | .file bytes =>
    match Toml.ofBytes bytes with
    | .error .tomlForm => some .tomlForm
    | _ => none

/-- What comes of looking for settings in a file. -/
inductive Finding
  | passed (notes : List Note)
  | found (value : Value)
  | stopped (fault : Fault)

/-- What comes of a file, by what is read in it. -/
def Finding.ofResult (path : Path) : Except Fault Value → Finding
  | .ok value => .found value
  | .error fault => if isUnreadable fault then .passed [warning path fault] else .stopped fault

/-- What comes of looking for a part of what is at a path. -/
def finding (path : Path) (part : List (Text × Value) → Except Fault Value) : Option Entry → Finding
  | none => .passed []
  | some entry => .ofResult path (entry.bytes.bind fun bytes => (Toml.ofBytes bytes).bind part)

/-- What a finding leads to. -/
def Finding.outcome (s : Session) : Finding → Except Fault (Option Value) × Session
  | .passed notes => (.ok none, s.adding notes [])
  | .found value => (.ok (some value), s)
  | .stopped fault => (.error fault, s)

/-- The part of what is at a path. -/
theorem outcome_readPart {s : Session} {path : Path} {entry : Entry} (h : s.files.found? path = .ok (some entry))
    (part : List (Text × Value) → Except Fault Value) :
    (do return some (← Act.ofExcept ((Toml.ofBytes (← Act.readFile path)).bind part)) : Act (Option Value)).outcome s =
      ((entry.bytes.bind fun bytes => (Toml.ofBytes bytes).bind part).map some, s) := by
  rw [Act.outcome_bind, Act.outcome_readFile, Files.read_of_found? h]
  cases entry with
  | directory => rfl
  | file bytes =>
    show (Act.ofExcept ((Toml.ofBytes bytes).bind part) >>= fun value => pure (some value)).outcome s = _
    rw [Act.outcome_bind, Act.outcome_ofExcept, Entry.bytes, Except.bind]
    cases (Toml.ofBytes bytes).bind part with
    | error fault => rfl
    | ok value => rfl

theorem outcome_hasFile (path : Path) (s : Session) :
    (Act.hasFile path).outcome s = ((s.files.found? path).map Option.isSome, s) := by
  have hget : (get : Act Session).outcome s = (.ok s, s) := rfl
  rw [Act.hasFile, Act.outcome_bind, hget]
  simp only
  rw [Act.outcome_bind, Act.outcome_ofExcept]
  cases s.files.found? path with
  | error fault => rfl
  | ok entry => rfl

theorem outcome_readSection {s : Session} {path : Path} {entry : Option Entry}
    (h : s.files.found? path = .ok entry) (part : List (Text × Value) → Except Fault Value) :
    (readSection path part).outcome s = (finding path part entry).outcome s := by
  rw [readSection, Act.outcome_bind, outcome_hasFile, h]
  cases entry with
  | none =>
    rw [finding, Finding.outcome, s.adding_nil]
    rfl
  | some entry =>
    simp only [Except.map, Option.isSome_some, if_true]
    rw [Act.outcome_tryCatch, outcome_readPart h, finding]
    cases entry.bytes.bind fun bytes => (Toml.ofBytes bytes).bind part with
    | ok value => rfl
    | error fault =>
      simp only [Except.map, Finding.ofResult]
      split
      · rw [Act.outcome_bind, Act.outcome_note]
        rfl
      · rfl

/-! ### What a section holds -/

/-- What is noted about a key that stands for no setting. -/
def unknown (key : Text) : Note := .warning ("Ignoring unknown classdoc setting " ++ Text.quoted key)

/-- One of the settings. -/
inductive Setting
  | style
  | linkTemplate
  | keepGoing
deriving DecidableEq

namespace Setting

def name : Setting → Text
  | .style => "style"
  | .linkTemplate => "link_template"
  | .keepGoing => "keep_going"

def all : List Setting := [.style, .linkTemplate, .keepGoing]

/-- The setting of a name. -/
def named? (name : Text) : Option Setting := all.find? (·.name == name)

theorem named?_name (setting : Setting) : named? setting.name = some setting := by
  cases setting <;> decide

theorem name_of_named? {name : Text} {setting : Setting} (h : named? name = some setting) : setting.name = name := by
  simpa using List.find?_some h

theorem name_injective {a b : Setting} (h : a.name = b.name) : a = b := by
  have hsame := congrArg named? h
  rwa [named?_name, named?_name, Option.some.injEq] at hsame

end Setting

def valueOf (settings : Settings) : Setting → Value
  | .style => settings.style
  | .linkTemplate => settings.linkTemplate
  | .keepGoing => settings.keepGoing

def put (settings : Settings) (setting : Setting) (value : Value) : Settings :=
  match setting with
  | .style => { settings with style := value }
  | .linkTemplate => { settings with linkTemplate := value }
  | .keepGoing => { settings with keepGoing := value }

theorem valueOf_put (settings : Settings) (setting : Setting) (value : Value) (other : Setting) :
    (settings.put setting value).valueOf other = if other = setting then value else settings.valueOf other := by
  cases setting <;> cases other <;> rfl

theorem set?_eq (settings : Settings) (name : Text) (value : Value) :
    settings.set? name value = (Setting.named? name).map (settings.put · value) := by
  cases hnamed : Setting.named? name with
  | some setting =>
    rw [← Setting.name_of_named? hnamed]
    cases setting <;> rfl
  | none =>
    have hother : ∀ setting : Setting, name ≠ setting.name := by
      rintro setting rfl
      cases hnamed.symm.trans setting.named?_name
    exact (if_neg (hother .style)).trans ((if_neg (hother .linkTemplate)).trans (if_neg (hother .keepGoing)))

theorem addEntry_known {entry : Text × Value} {setting : Setting}
    (h : Setting.named? (keyName entry.1) = some setting) (state : Settings × List Note) :
    addEntry state entry = (state.1.put setting entry.2, state.2) := by
  rw [addEntry, set?_eq, h]
  rfl

theorem addEntry_unknown {entry : Text × Value} (h : Setting.named? (keyName entry.1) = none)
    (state : Settings × List Note) : addEntry state entry = (state.1, state.2 ++ [unknown entry.1]) := by
  rw [addEntry, set?_eq, h]
  rfl

theorem ofEntries_concat (entries : List (Text × Value)) (entry : Text × Value) :
    ofEntries (entries ++ [entry]) = addEntry (ofEntries entries) entry := by
  rw [ofEntries, List.foldl_append]
  rfl

/-- The value of the last key that stands for a setting. -/
def lastFor? (setting : Setting) (entries : List (Text × Value)) : Option Value :=
  (entries.reverse.find? fun entry => keyName entry.1 == setting.name).map Prod.snd

theorem lastFor?_concat (setting : Setting) (entries : List (Text × Value)) (entry : Text × Value) :
    lastFor? setting (entries ++ [entry]) =
      if keyName entry.1 = setting.name then some entry.2 else lastFor? setting entries := by
  rw [lastFor?, List.reverse_concat, List.find?_cons]
  by_cases hkey : keyName entry.1 = setting.name
  · rw [if_pos hkey, beq_iff_eq.mpr hkey]
    rfl
  · rw [if_neg hkey, beq_false_of_ne hkey]
    rfl

theorem valueOf_ofEntries (entries : List (Text × Value)) (setting : Setting) :
    (ofEntries entries).1.valueOf setting = (lastFor? setting entries).getD (({} : Settings).valueOf setting) := by
  -- From the end, since the last entry is the one that decides.
  induction entries using List.reverseRecOn with
  | nil => rfl
  | append_singleton entries entry ih =>
    rw [ofEntries_concat, lastFor?_concat]
    cases hnamed : Setting.named? (keyName entry.1) with
    | some found =>
      rw [addEntry_known hnamed, valueOf_put, ih, ← Setting.name_of_named? hnamed]
      by_cases hsame : setting = found
      · rw [if_pos hsame, if_pos (congrArg Setting.name hsame.symm)]
        rfl
      · rw [if_neg hsame, if_neg fun hname => hsame (Setting.name_injective hname).symm]
    | none =>
      have hkey : keyName entry.1 ≠ setting.name := by
        intro hkey
        rw [hkey, setting.named?_name] at hnamed
        cases hnamed
      rw [addEntry_unknown hnamed, if_neg hkey, ih]

/-- Whether a key stands for no setting. -/
def isUnknown (key : Text) : Bool := (Setting.named? (keyName key)).isNone

theorem notes_ofEntries (entries : List (Text × Value)) :
    (ofEntries entries).2 = (entries.filter (isUnknown ·.1)).map (unknown ·.1) := by
  induction entries using List.reverseRecOn with
  | nil => rfl
  | append_singleton entries entry ih =>
    rw [ofEntries_concat, List.filter_append, List.map_append, ← ih]
    cases hnamed : Setting.named? (keyName entry.1) with
    | some found =>
      have hknown : isUnknown entry.1 = false := by rw [isUnknown, hnamed]; rfl
      rw [addEntry_known hnamed, List.filter_cons_of_neg (by simp [hknown])]
      exact (List.append_nil _).symm
    | none =>
      have hunknown : isUnknown entry.1 = true := by rw [isUnknown, hnamed]; rfl
      rw [addEntry_unknown hnamed, List.filter_cons_of_pos (by simp [hunknown])]
      rfl

theorem mem_ofEntries {entries : List (Text × Value)} {note : Note} (h : note ∈ (ofEntries entries).2) :
    ∃ key, note = unknown key := by
  rw [notes_ofEntries] at h
  obtain ⟨entry, _, rfl⟩ := List.mem_map.mp h
  exact ⟨entry.1, rfl⟩

/-- The settings in a section, and what is noted about it. -/
def settled : Value → Except Fault Settings × List Note
  | .table entries => (.ok (ofEntries entries).1, (ofEntries entries).2)
  | value => if value.truthy then (.error .sectionNotTable, []) else (.ok {}, [])

theorem outcome_settle_table (entries : List (Text × Value)) (s : Session) :
    (settle (.table entries)).outcome s = (.ok (ofEntries entries).1, s.adding (ofEntries entries).2 []) := by
  cases entries with
  | nil => exact congrArg (Prod.mk (Except.ok (ofEntries []).1)) s.adding_nil.symm
  | cons entry rest =>
    show (Act.note (ofEntries (entry :: rest)).2 >>= fun _ => pure (ofEntries (entry :: rest)).1).outcome s = _
    rw [Act.outcome_bind, Act.outcome_note]
    rfl

theorem of_ne_table {value : Value} (h : ∀ entries, value ≠ .table entries) :
    settle value = (if value.truthy then throw .sectionNotTable else pure {}) ∧
      settled value = (if value.truthy then (.error .sectionNotTable, []) else (.ok {}, [])) ∧
        value.isSection = !value.truthy := by
  cases value with
  | table entries => exact absurd rfl (h entries)
  | _ => exact ⟨rfl, rfl, rfl⟩

theorem outcome_settle (value : Value) (s : Session) :
    (settle value).outcome s = ((settled value).1, s.adding (settled value).2 []) := by
  by_cases htable : ∃ entries, value = .table entries
  · obtain ⟨entries, rfl⟩ := htable
    exact outcome_settle_table entries s
  · obtain ⟨hsettle, hsettled, _⟩ := of_ne_table fun entries heq => htable ⟨entries, heq⟩
    rw [hsettle, hsettled]
    cases value.truthy with
    | true => exact congrArg (Prod.mk (Except.error Fault.sectionNotTable)) s.adding_nil.symm
    | false => exact congrArg (Prod.mk (Except.ok (ofEntries []).1)) s.adding_nil.symm

theorem settled_returns_iff (value : Value) :
    (∃ settings, (settled value).1 = .ok settings) ↔ ¬value.isSection = false := by
  by_cases htable : ∃ entries, value = .table entries
  · obtain ⟨entries, rfl⟩ := htable
    exact ⟨fun _ => Bool.false_ne_true.symm, fun _ => ⟨_, rfl⟩⟩
  · obtain ⟨_, hsettled, hsection⟩ := of_ne_table fun entries heq => htable ⟨entries, heq⟩
    rw [hsettled, hsection]
    cases value.truthy with
    | true =>
      refine ⟨?_, fun hsection => absurd rfl hsection⟩
      rintro ⟨settings, hsettings⟩
      cases hsettings
    | false => exact ⟨fun _ => Bool.false_ne_true.symm, fun _ => ⟨_, rfl⟩⟩

theorem mem_settled {value : Value} {note : Note} (h : note ∈ (settled value).2) : ∃ key, note = unknown key := by
  by_cases htable : ∃ entries, value = .table entries
  · obtain ⟨entries, rfl⟩ := htable
    exact mem_ofEntries h
  · obtain ⟨_, hsettled, _⟩ := of_ne_table fun entries heq => htable ⟨entries, heq⟩
    rw [hsettled] at h
    split at h
    · exact absurd h List.not_mem_nil
    · exact absurd h List.not_mem_nil

/-! ### Both files -/

/-- What comes of looking in both files: the second one counts only if the first one is passed over. -/
def answer : Finding → Finding → Except Fault Settings × List Note
  | .stopped fault, _ => (.error fault, [])
  | .found value, _ => settled value
  | .passed notes, .stopped fault => (.error fault, notes)
  | .passed notes, .found value => ((settled value).1, notes ++ (settled value).2)
  | .passed notes, .passed more => (.ok {}, notes ++ more)

/-- The file that is meant for settings, and the project's own file. -/
def ownPath (directory : Path) : Path := directory.child ".classdoc.toml"

def projectPath (directory : Path) : Path := directory.child "pyproject.toml"

/-- What comes of looking in both files of a directory, by what is there. -/
def lookUp (directory : Path) (own project : Option Entry) : Except Fault Settings × List Note :=
  answer (finding (ownPath directory) ownSection own) (finding (projectPath directory) projectSection project)

theorem outcome_load {directory : Path} {s : Session} {own project : Option Entry}
    (hown : s.files.found? (ownPath directory) = .ok own)
    (hproject : s.files.found? (projectPath directory) = .ok project) :
    (load directory).outcome s =
      ((lookUp directory own project).1, s.adding (lookUp directory own project).2 []) := by
  rw [load, Act.outcome_bind, readTable, Act.outcome_bind, ← ownPath, outcome_readSection hown, lookUp]
  cases finding (ownPath directory) ownSection own with
  | stopped fault => exact congrArg (Prod.mk (Except.error fault)) s.adding_nil.symm
  | found value => exact outcome_settle value s
  | passed notes =>
    have hsame : (s.adding notes []).files.found? (projectPath directory) = .ok project := hproject
    simp only [Finding.outcome]
    rw [Act.outcome_bind, ← projectPath, outcome_readSection hsame]
    cases finding (projectPath directory) projectSection project with
    | stopped fault => rfl
    | found value =>
      have hsettle := outcome_settle value (s.adding notes [])
      rw [s.adding_adding] at hsettle
      exact hsettle
    | passed more =>
      simp only [Finding.outcome, answer]
      rw [s.adding_adding]
      rfl

/-- What is noted about what is at a path for settings. -/
def warnings (path : Path) (entry : Option Entry) : List Note := (entry.bind passedFor?).toList.map (warning path)

/-- Whether nothing is at a path for settings, or something that is passed over. -/
def isPassed (entry : Option Entry) : Bool := entry.all fun entry => (passedFor? entry).isSome

/-- Whether a part of a file can be a section of settings. -/
def hasSection (part : List (Text × Value) → Except Fault Value) (entries : List (Text × Value)) : Bool :=
  match part entries with
  | .ok value => value.isSection
  | .error _ => false

/-- A file that ends the run when it is looked at: it is not UTF-8, it has a number with too many digits, or its section
    is something else than a table. -/
def Breaks (part : List (Text × Value) → Except Fault Value) (entry : Option Entry) : Prop :=
  ∃ bytes, entry = some (.file bytes) ∧
    (Text.decode bytes = none ∨ Toml.ofBytes bytes = .error .numberTooLong ∨
      ∃ entries, Toml.ofBytes bytes = .ok entries ∧ hasSection part entries = false)

/-- A part of a file, which may only be missing because something on the way to it is no table. -/
def IsPart (part : List (Text × Value) → Except Fault Value) : Prop :=
  ∀ entries fault, part entries = .error fault → fault = .sectionNotTable

theorem isPart_ownSection : IsPart ownSection := by
  intro entries fault h
  rw [ownSection] at h
  cases h

theorem isPart_projectSection : IsPart projectSection := by
  intro entries fault h
  rw [projectSection] at h
  split at h
  · cases h
  · exact (Except.error.inj h).symm

variable {part : List (Text × Value) → Except Fault Value}

theorem not_breaks_of_ne_file {entry : Option Entry} (h : ∀ bytes, entry ≠ some (.file bytes)) :
    ¬Breaks part entry := by
  rintro ⟨bytes, hentry, _⟩
  exact h bytes hentry

theorem of_not_passed {entry : Entry} (path : Path) (h : passedFor? entry = none) :
    isPassed (some entry) = false ∧ warnings path (some entry) = [] := by
  constructor
  · rw [isPassed, Option.all_some, h]
    rfl
  · rw [warnings, Option.bind_some, h]
    rfl

theorem passedFor?_file {bytes : List UInt8} (h : Toml.ofBytes bytes ≠ .error .tomlForm) :
    passedFor? (.file bytes) = none := by
  rw [passedFor?]
  split
  · rename_i hform
    exact absurd hform h
  · rfl

theorem ofBytes_of_decode {bytes : List UInt8} (h : Text.decode bytes = none) :
    Toml.ofBytes bytes = .error .encoding := by
  rw [Toml.ofBytes, h]

theorem breaks_iff_of_read {bytes : List UInt8} {entries : List (Text × Value)}
    (h : Toml.ofBytes bytes = .ok entries) :
    Breaks part (some (.file bytes)) ↔ hasSection part entries = false := by
  constructor
  · rintro ⟨bytes, hentry, hbytes⟩
    cases hentry
    rcases hbytes with hdecode | hlong | ⟨others, hothers, hsection⟩
    · cases h.symm.trans (ofBytes_of_decode hdecode)
    · cases h.symm.trans hlong
    · cases h.symm.trans hothers
      exact hsection
  · exact fun hsection => ⟨bytes, rfl, Or.inr (Or.inr ⟨entries, h, hsection⟩)⟩

theorem not_breaks_of_form {bytes : List UInt8} (h : Toml.ofBytes bytes = .error .tomlForm) :
    ¬Breaks part (some (.file bytes)) := by
  rintro ⟨bytes, hentry, hbytes⟩
  cases hentry
  rcases hbytes with hdecode | hlong | ⟨others, hothers, _⟩
  · cases h.symm.trans (ofBytes_of_decode hdecode)
  · cases h.symm.trans hlong
  · cases h.symm.trans hothers

/-- What can come of looking for a part of what is at a path: it is passed over with its warnings, or something is found
    in it, or it ends the run. -/
inductive Comes (path : Path) (part : List (Text × Value) → Except Fault Value) (entry : Option Entry) : Prop
  | passed (hpassed : isPassed entry = true) (hfinding : finding path part entry = .passed (warnings path entry))
      (hbreaks : ¬Breaks part entry)
  | found (hpassed : isPassed entry = false) (hsilent : warnings path entry = []) (value : Value)
      (hfinding : finding path part entry = .found value) (hbreaks : Breaks part entry ↔ value.isSection = false)
  | stopped (hpassed : isPassed entry = false) (hsilent : warnings path entry = []) (fault : Fault)
      (hfinding : finding path part entry = .stopped fault) (hbreaks : Breaks part entry)

theorem comes_file (path : Path) (hpart : IsPart part) (bytes : List UInt8) : Comes path part (some (.file bytes)) := by
  have hfinding : finding path part (some (.file bytes)) = .ofResult path ((Toml.ofBytes bytes).bind part) := rfl
  rcases Toml.ofBytes_cases bytes with ⟨entries, hread⟩ | ⟨hdecode, hread⟩ | hread | hread
  · obtain ⟨hpassed, hsilent⟩ := of_not_passed path (passedFor?_file (by rw [hread]; intro hform; cases hform))
    have hsection : finding path part (some (.file bytes)) = .ofResult path (part entries) := by
      rw [hfinding, hread]
      rfl
    have hbreaks : Breaks part (some (.file bytes)) ↔ hasSection part entries = false := breaks_iff_of_read hread
    rw [hasSection] at hbreaks
    cases hvalue : part entries with
    | ok value =>
      rw [hvalue] at hsection hbreaks
      exact .found hpassed hsilent value hsection hbreaks
    | error fault =>
      rw [hvalue, hpart entries fault hvalue] at hsection
      rw [hvalue] at hbreaks
      exact .stopped hpassed hsilent _ hsection (hbreaks.mpr rfl)
  · obtain ⟨hpassed, hsilent⟩ := of_not_passed path (passedFor?_file (by rw [hread]; intro hform; cases hform))
    rw [hread] at hfinding
    exact .stopped hpassed hsilent .encoding hfinding ⟨bytes, rfl, Or.inl hdecode⟩
  · refine .passed ?_ ?_ (not_breaks_of_form hread)
    · rw [isPassed, Option.all_some, passedFor?, hread]
      rfl
    · rw [hfinding, warnings, Option.bind_some, passedFor?, hread]
      rfl
  · obtain ⟨hpassed, hsilent⟩ := of_not_passed path (passedFor?_file (by rw [hread]; intro hform; cases hform))
    rw [hread] at hfinding
    exact .stopped hpassed hsilent .numberTooLong hfinding ⟨bytes, rfl, Or.inr (Or.inl hread)⟩

theorem comes (path : Path) (hpart : IsPart part) (entry : Option Entry) : Comes path part entry := by
  cases entry with
  | none =>
    refine .passed rfl rfl (not_breaks_of_ne_file ?_)
    intro bytes h
    cases h
  | some entry =>
    cases entry with
    | directory =>
      refine .passed rfl rfl (not_breaks_of_ne_file ?_)
      intro bytes h
      cases h
    | file bytes => exact comes_file path hpart bytes

theorem of_isPassed (path : Path) (hpart : IsPart part) {entry : Option Entry} (h : isPassed entry = true) :
    finding path part entry = .passed (warnings path entry) ∧ ¬Breaks part entry := by
  cases comes path hpart entry with
  | passed _ hfinding hbreaks => exact ⟨hfinding, hbreaks⟩
  | found hpassed => exact absurd (hpassed.symm.trans h) Bool.false_ne_true
  | stopped hpassed => exact absurd (hpassed.symm.trans h) Bool.false_ne_true

theorem not_breaks_of_section {bytes : List UInt8}
    (h : (Toml.ofBytes bytes).map (hasSection part) = .ok true) : ¬Breaks part (some (.file bytes)) := by
  cases hread : Toml.ofBytes bytes with
  | error fault =>
    rw [hread] at h
    cases h
  | ok entries =>
    rw [hread] at h
    rw [breaks_iff_of_read hread, Except.ok.inj h]
    exact Bool.false_ne_true.symm

/-- If the first file is passed over, there are settings unless the second one ends the run. -/
theorem answer_passed_returns_iff (notes : List Note) (path : Path) (hpart : IsPart part) (entry : Option Entry) :
    (∃ settings, (answer (.passed notes) (finding path part entry)).1 = .ok settings) ↔ ¬Breaks part entry := by
  cases comes path hpart entry with
  | passed _ hfinding hbreaks =>
    rw [hfinding]
    exact ⟨fun _ => hbreaks, fun _ => ⟨_, rfl⟩⟩
  | found _ _ value hfinding hbreaks =>
    rw [hfinding, hbreaks]
    exact settled_returns_iff value
  | stopped _ _ fault hfinding hbreaks =>
    rw [hfinding]
    refine ⟨?_, fun hnot => absurd hbreaks hnot⟩
    rintro ⟨settings, hsettings⟩
    cases hsettings

theorem lookUp_returns_iff (directory : Path) (own project : Option Entry) :
    (∃ settings, (lookUp directory own project).1 = .ok settings) ↔
      ¬Breaks ownSection own ∧ (isPassed own = true → ¬Breaks projectSection project) := by
  rw [lookUp]
  cases comes (ownPath directory) isPart_ownSection own with
  | passed hpassed hfinding hbreaks =>
    rw [hfinding, answer_passed_returns_iff _ _ isPart_projectSection]
    exact ⟨fun hproject => ⟨hbreaks, fun _ => hproject⟩, fun h => h.2 hpassed⟩
  | found hpassed _ value hfinding hbreaks =>
    rw [hfinding, hbreaks, hpassed]
    exact (settled_returns_iff value).trans ⟨fun h => ⟨h, fun hfalse => absurd hfalse Bool.false_ne_true⟩, And.left⟩
  | stopped _ _ fault hfinding hbreaks =>
    rw [hfinding]
    refine ⟨?_, fun h => absurd hbreaks h.1⟩
    rintro ⟨settings, hsettings⟩
    cases hsettings

/-- If the first file is passed over, what is noted about it comes before the warnings about the second one. -/
theorem answer_passed_notes (notes : List Note) (path : Path) (hpart : IsPart part) (entry : Option Entry) :
    ∃ more, (answer (.passed notes) (finding path part entry)).2 = notes ++ warnings path entry ++ more ∧
      ∀ note ∈ more, ∃ key, note = unknown key := by
  cases comes path hpart entry with
  | passed _ hfinding =>
    rw [hfinding]
    exact ⟨[], (List.append_nil _).symm, fun _ hnote => absurd hnote List.not_mem_nil⟩
  | found _ hsilent value hfinding =>
    rw [hfinding, hsilent, List.append_nil]
    exact ⟨(settled value).2, rfl, fun _ => mem_settled⟩
  | stopped _ hsilent fault hfinding =>
    rw [hfinding, hsilent, List.append_nil]
    exact ⟨[], (List.append_nil _).symm, fun _ hnote => absurd hnote List.not_mem_nil⟩

theorem lookUp_notes (directory : Path) (own project : Option Entry) :
    ∃ notes, (lookUp directory own project).2 = warnings (ownPath directory) own ++
        (if isPassed own then warnings (projectPath directory) project else []) ++ notes ∧
      ∀ note ∈ notes, ∃ key, note = unknown key := by
  rw [lookUp]
  cases comes (ownPath directory) isPart_ownSection own with
  | passed hpassed hfinding =>
    rw [hfinding, hpassed]
    exact answer_passed_notes _ _ isPart_projectSection project
  | found hpassed hsilent value hfinding =>
    rw [hfinding, hpassed, hsilent]
    exact ⟨(settled value).2, rfl, fun _ => mem_settled⟩
  | stopped hpassed hsilent fault hfinding =>
    rw [hfinding, hpassed, hsilent]
    exact ⟨[], rfl, fun _ hnote => absurd hnote List.not_mem_nil⟩

/-- What is at a path for settings, if it is not passed over. -/
def counting (entry : Option Entry) : Option Entry := if isPassed entry then none else entry

theorem finding_counting (path : Path) (hpart : IsPart part) (entry : Option Entry) :
    finding path part (counting entry) = finding path part entry ∨
      ∃ notes, finding path part (counting entry) = .passed [] ∧ finding path part entry = .passed notes := by
  cases hpassed : isPassed entry with
  | false =>
    rw [counting, hpassed, if_neg Bool.false_ne_true]
    exact Or.inl rfl
  | true =>
    rw [counting, hpassed, if_pos rfl]
    exact Or.inr ⟨_, rfl, (of_isPassed path hpart hpassed).1⟩

theorem answer_passed_left (notes notes' : List Note) (project : Finding) :
    (answer (.passed notes) project).1 = (answer (.passed notes') project).1 := by
  cases project with
  | _ => rfl

theorem answer_passed_right (notes notes' : List Note) (own : Finding) :
    (answer own (.passed notes)).1 = (answer own (.passed notes')).1 := by
  cases own with
  | _ => rfl

/-- The settings are those that there would be without the files that are passed over. -/
theorem lookUp_counting (directory : Path) (own project : Option Entry) :
    (lookUp directory (counting own) (counting project)).1 = (lookUp directory own project).1 := by
  have hproject : ∀ first, (answer first (finding (projectPath directory) projectSection (counting project))).1 =
      (answer first (finding (projectPath directory) projectSection project)).1 := by
    intro first
    rcases finding_counting (projectPath directory) isPart_projectSection project with hsame | ⟨notes, habsent, hpassed⟩
    · rw [hsame]
    · rw [habsent, hpassed]
      exact answer_passed_right [] notes first
  rw [lookUp, lookUp, hproject]
  rcases finding_counting (ownPath directory) isPart_ownSection own with hsame | ⟨notes, habsent, hpassed⟩
  · rw [hsame]
  · rw [habsent, hpassed]
    exact answer_passed_left [] notes _

/-- Whatever is at the two paths for settings, there are settings unless a file that is looked at is not UTF-8, has a
    number with too many digits, or has something else than a table for its section. A directory and a file that is not
    well formed are noted and passed over: the settings are those that there would be without them, and the standard
    ones if both are passed over. As in `Toml.parse`, nothing in a file is nested deeper than can be followed. -/
theorem load_returns_iff {directory : Path} {s : Session} {own project : Option Entry}
    (hown : s.files.found? (ownPath directory) = .ok own)
    (hproject : s.files.found? (projectPath directory) = .ok project) :
    ((∃ settings, ((load directory).outcome s).1 = .ok settings) ↔
      ¬Breaks ownSection own ∧ (isPassed own = true → ¬Breaks projectSection project)) ∧
    (∃ notes, ((load directory).outcome s).2 = s.adding (warnings (ownPath directory) own ++
        (if isPassed own then warnings (projectPath directory) project else []) ++ notes) [] ∧
      ∀ note ∈ notes, ∃ key, note = unknown key) ∧
    (∀ t : Session, t.files.found? (ownPath directory) = .ok (counting own) →
      t.files.found? (projectPath directory) = .ok (counting project) →
        ((load directory).outcome t).1 = ((load directory).outcome s).1) ∧
    (isPassed own = true → isPassed project = true → ((load directory).outcome s).1 = .ok {}) := by
  rw [outcome_load hown hproject]
  refine ⟨lookUp_returns_iff directory own project, ?_, ?_, ?_⟩
  · obtain ⟨notes, hnotes, hunknown⟩ := lookUp_notes directory own project
    exact ⟨notes, congrArg (s.adding · []) hnotes, hunknown⟩
  · intro t htown htproject
    rw [outcome_load htown htproject]
    exact lookUp_counting directory own project
  · intro hpassed hpassed'
    have habsent := lookUp_counting directory own project
    rw [counting, counting, hpassed, hpassed', if_pos rfl] at habsent
    exact habsent.symm

/-- A session in a directory, by what is at its two paths for settings. -/
def sessionOf (own project : Option Entry) : Session :=
  let files := own.elim {} (({} : Files).add (ownPath {}) ·)
  { files := project.elim files (files.add (projectPath {}) ·) }

/-- A file for settings that is not well formed, and a project with a setting. -/
def draftFile : Entry := .file (Text.encode "[classdoc\nstyle = ")

def projectFile : Entry := .file (Text.encode "[tool.classdoc]\nkeep-going = true\n")

set_option maxRecDepth 100000 in
theorem load_returns_iff_draft :
    (sessionOf draftFile projectFile).files.found? (ownPath {}) = .ok draftFile ∧
    (sessionOf draftFile projectFile).files.found? (projectPath {}) = .ok projectFile ∧
    (∃ settings, ((load {}).outcome (sessionOf draftFile projectFile)).1 = .ok settings) ∧
    (∃ notes, ((load {}).outcome (sessionOf draftFile projectFile)).2.log =
      warning (ownPath {}) .tomlForm :: notes) ∧
    ((load {}).outcome (sessionOf none projectFile)).1 = ((load {}).outcome (sessionOf draftFile projectFile)).1 := by
  have hown : (sessionOf draftFile projectFile).files.found? (ownPath {}) = .ok draftFile :=
    toOption_eq_some_iff.mp (by decide +kernel)
  have hproject : (sessionOf draftFile projectFile).files.found? (projectPath {}) = .ok projectFile :=
    toOption_eq_some_iff.mp (by decide +kernel)
  have hpassed : isPassed draftFile = true := by decide +kernel
  have hcounts : isPassed projectFile = false := by decide +kernel
  have hsection : ¬Breaks projectSection projectFile := by
    refine not_breaks_of_section (toOption_eq_some_iff.mp ?_)
    decide +kernel
  obtain ⟨hreturns, ⟨notes, hnotes, _⟩, hsame, _⟩ := load_returns_iff hown hproject
  have hdraft : ¬Breaks ownSection draftFile := (of_isPassed {} isPart_ownSection hpassed).2
  refine ⟨hown, hproject, hreturns.mpr ⟨hdraft, fun _ => hsection⟩, ?_, ?_⟩
  · have hwarnings : warnings (ownPath {}) draftFile = [warning (ownPath {}) .tomlForm] := by decide +kernel
    rw [hnotes, hwarnings]
    exact ⟨_, rfl⟩
  · refine hsame (sessionOf none projectFile) ?_ ?_
    · rw [counting, hpassed]
      exact toOption_eq_some_iff.mp (by decide +kernel)
    · rw [counting, hcounts]
      exact toOption_eq_some_iff.mp (by decide +kernel)

set_option maxRecDepth 100000 in
/-- Not every content of the files leads to settings: bytes that are no text end the run, and so does a number in the
    place of a table in either file. -/
theorem load_stopped :
    ¬(∀ (directory : Path) (s : Session) (own project : Option Entry),
      s.files.found? (ownPath directory) = .ok own → s.files.found? (projectPath directory) = .ok project →
        ∃ settings, ((load directory).outcome s).1 = .ok settings) ∧
    (∃ fault, ((load {}).outcome (sessionOf (some (.file [0xff])) none)).1 = .error fault) ∧
    (∃ fault, ((load {}).outcome (sessionOf (some (.file (Text.encode "classdoc = 5"))) none)).1 = .error fault) ∧
    (∃ fault, ((load {}).outcome (sessionOf none (some (.file (Text.encode "tool = 3"))))).1 = .error fault) := by
  have hbytes : ∃ fault, ((load {}).outcome (sessionOf (some (.file [0xff])) none)).1 = .error fault :=
    isSome_toOption_eq_false_iff.mp (by decide +kernel)
  refine ⟨?_, hbytes, isSome_toOption_eq_false_iff.mp (by decide +kernel),
    isSome_toOption_eq_false_iff.mp (by decide +kernel)⟩
  intro h
  obtain ⟨settings, hsettings⟩ := h {} (sessionOf (some (.file [0xff])) none) (some (.file [0xff])) none
    (toOption_eq_some_iff.mp (by decide +kernel)) (toOption_eq_some_iff.mp (by decide +kernel))
  obtain ⟨fault, hfault⟩ := hbytes
  cases hfault.symm.trans hsettings

end Settings
end ApiDocs
