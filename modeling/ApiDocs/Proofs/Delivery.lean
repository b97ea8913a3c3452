import ApiDocs.CommandLine
import ApiDocs.Proofs.Documentation.Classes
import ApiDocs.Proofs.Files
import ApiDocs.Proofs.Live.Registry

/-! Where the text of a run goes. All work before the text is delivered leaves the files as they are, and comes to the
    same whatever was noted before; it does not look at where the text will go. So the text is the same whether it is
    only returned, written to a file or printed, and a run that fails has written nothing. -/

namespace ApiDocs

open Act

/-- Two sessions over the same files that know the same names. They may differ in what was noted and asked for. -/
def Session.Beside (files : Files) : Bond := fun s t => s.registry = t.registry ∧ s.files = files ∧ t.files = files

variable {files : Files}

theorem lasting_beside : Lasting (some (Session.Beside files)) (Session.Beside files) where
  note _ h := h
  ask _ h := h
  kept kept hk s t h := by
    cases hk
    exact h

/-- Work that does not look at what was noted, and leaves the files as they are. -/
def Act.Unnoticed {α : Type} (files : Files) (act : Act α) : Prop :=
  Follows (some (Session.Beside files)) (Session.Beside files) act act fun _ => Session.Beside files

namespace Act

variable {α β : Type}

theorem Unnoticed.bind {act : Act α} {next : α → Act β} (h : act.Unnoticed files) (hn : ∀ a, (next a).Unnoticed files) :
    (act >>= next).Unnoticed files := Follows.bind h hn

theorem unnoticed_ofExcept (x : Except Fault α) : (ofExcept x).Unnoticed files := lasting_beside.follows_ofExcept x

theorem unnoticed_note (notes : List Note) : (note notes).Unnoticed files := lasting_beside.follows_note notes

theorem Unnoticed.of_outcome {act : Act α} (h : ∀ s t, Session.Beside files s t → ∃ result s' t',
    act.outcome s = (result, s') ∧ act.outcome t = (result, t') ∧ Session.Beside files s' t') : act.Unnoticed files := by
  intro s t hs
  obtain ⟨result, s', t', hfirst, hsecond, hafter⟩ := h s t hs
  rw [hfirst, hsecond]
  cases result with
  | ok a => exact ⟨t', rfl, hafter⟩
  | error fault =>
    intro kept hk
    cases hk
    exact ⟨t', rfl, hafter⟩

theorem unnoticed_readFile (path : Path) : (readFile path).Unnoticed files := by
  refine .of_outcome fun s t hs => ⟨files.read path, s, t, ?_, ?_, hs⟩
  · rw [outcome_readFile, hs.2.1]
  · rw [outcome_readFile, hs.2.2]

theorem Detached.unnoticed {act : Act α} (h : act.Detached) : act.Unnoticed files := by
  obtain ⟨result, notes, ids, -, hout⟩ := h
  exact .of_outcome fun s t hs => ⟨result, _, _, hout s, hout t, hs⟩

theorem Unnoticed.keeps {act : Act α} (h : act.Unnoticed files) : Keeps (fun s => s.files = files) act :=
  fun _ hs => (h.result_eq ⟨rfl, hs, hs⟩).2.2.1

end Act

/-! ### Documentation -/

namespace Live.World

variable {world : World}

theorem resolve_unnoticed (name : Text) : (world.resolve name).Unnoticed files := by
  rintro s t ⟨hregistry, hs, ht⟩
  cases hl : s.registry.lookup name with
  | some id =>
    rw [resolve_known hl]
    exact ⟨t, resolve_known (hregistry ▸ hl), hregistry, hs, ht⟩
  | none =>
    rw [resolve_new hl, resolve_new (hregistry ▸ hl)]
    refine Unnoticed.bind (unnoticed_ofExcept (world.find name)) (fun object => ?_) _ _ ⟨hregistry, hs, ht⟩
    cases object with
    | cls id => exact .of_outcome fun _ _ ⟨h, hu, hv⟩ => ⟨_, _, _, rfl, rfl, congrArg (Ordered.put name id) h, hu, hv⟩
    | _ => exact unnoticed_ofExcept (.error _)

theorem register_unnoticed (id : ClassId) : (world.register id).Unnoticed files :=
  .of_outcome fun _ _ ⟨h, hs, ht⟩ => ⟨_, _, _, rfl, rfl, congrArg (Ordered.put (world.nameOf id) id) h, hs, ht⟩

theorem extract_unnoticed (reader : Reader) (template : Value) (target : Text) :
    (Extractor.extract ⟨world.source, reader, world.fallback template⟩ target).Unnoticed files :=
  (alike_of_resolve lasting_beside resolve_unnoticed (fun _ base _ => register_unnoticed base) reader
    (.inherited template) target).extract

end Live.World

namespace Extractor

variable {e : Extractor}

theorem extractAll_unnoticed (h : ∀ target, (e.extract target).Unnoticed files) (keepGoing : Bool)
    (targets : List Text) : (e.extractAll keepGoing targets).Unnoticed files := by
  induction targets with
  | nil => exact follows_pure _
  | cons target rest ih =>
    have hextract : (some <$> e.extract target).Unnoticed files := by
      rw [map_eq_pure_bind]
      exact (h target).bind fun _ => follows_pure _
    refine (unnoticed_note _).bind fun _ => Unnoticed.bind (hextract.tryCatch fun fault => ?_) fun doc => ?_
    · split
      · exact (unnoticed_note _).bind fun _ => follows_pure _
      · exact unnoticed_ofExcept (.error fault)
    · exact ih.bind fun _ => follows_pure _

end Extractor

/-! ### Settings -/

/-- A session in which nothing has happened but that notes were taken. -/
def Session.Noted (s t : Session) : Prop := ∃ notes, t = s.adding notes []

/-- Work that leaves nothing behind but notes. -/
def Act.TakesNotes {α : Type} (act : Act α) : Prop := ∀ s : Session, Keeps s.Noted act

theorem Act.takesNotes_note (notes : List Note) : (note notes).TakesNotes := by
  rintro s _ ⟨earlier, rfl⟩
  rw [outcome_note, Session.adding_adding]
  exact ⟨earlier ++ notes, rfl⟩

theorem Act.TakesNotes.outcome_noted {α : Type} {act : Act α} (h : act.TakesNotes) (s : Session) :
    s.Noted (act.outcome s).2 := h s s ⟨[], s.adding_nil.symm⟩

namespace Settings

theorem readSection_takesNotes (path : Path) (part : List (Text × Value) → Except Fault Value) :
    (readSection path part).TakesNotes := by
  intro s
  have hget : Keeps s.Noted (get : Act Session) := fun _ hs => hs
  have hread : Keeps s.Noted (Act.readFile path) := hget.bind fun _ => keeps_ofExcept _
  have hhas : Keeps s.Noted (Act.hasFile path) :=
    hget.bind fun _ => (keeps_ofExcept _).bind fun _ => keeps_ofExcept (.ok _)
  refine hhas.bind fun found => ?_
  split
  · refine Keeps.tryCatch (hread.bind fun _ => (keeps_ofExcept _).bind fun _ => keeps_ofExcept (.ok _)) fun fault => ?_
    split
    · exact (takesNotes_note _ s).bind fun _ => keeps_ofExcept (.ok none)
    · exact keeps_ofExcept (.error fault)
  · exact keeps_ofExcept (.ok none)

theorem load_takesNotes (directory : Path) : (load directory).TakesNotes := by
  intro s
  have htable : Keeps s.Noted (readTable directory) := by
    refine (readSection_takesNotes _ _ s).bind fun own => ?_
    split
    · exact keeps_ofExcept (.ok _)
    · refine (readSection_takesNotes _ _ s).bind fun project => ?_
      split
      · exact keeps_ofExcept (.ok _)
      · exact keeps_ofExcept (.ok _)
  refine htable.bind fun value => ?_
  unfold settle
  split
  · split
    · exact (takesNotes_note _ s).bind fun _ => keeps_ofExcept (.ok _)
    · exact keeps_ofExcept (.error _)
  · exact keeps_ofExcept (.ok _)

end Settings

/-! ### Runs -/

namespace Job

variable {job : Job} {world : Live.World} {s t : Session} {text : Text} {path : Path}

/-- The text of a job with some settings. -/
def compose (job : Job) (world : Live.World) (settings : Settings) : Act Text := do
  Act.note [.debug ("Config: " ++ settings.shown)]
  let extractor ← job.extractor world settings
  let docs ← extractor.extractAll settings.keepGoing.truthy job.targets
  if !(docs.all Documentation.isPlain) then throw .notData
  return Documentation.render Documentation.standardIndent docs

/-- The text of a job whose settings are read first. -/
def draft (job : Job) (settings : Act Settings) (world : Live.World) : Act Text := do
  job.compose world (← settings)

/-- Delivers the text of a job. The answer is made of it. -/
def publish (job : Job) (settings : Act Settings) (world : Live.World) (answer : Text → Text) : Act Text := do
  let text ← job.draft settings world
  job.deliver text
  return answer text

theorem run_eq (job : Job) (world : Live.World) : job.run world = job.publish job.chosenSettings world id := by
  rw [run, publish, draft, bind_assoc]
  refine bind_congr fun settings => ?_
  rw [compose, bind_assoc]
  refine bind_congr fun _ => ?_
  rw [bind_assoc]
  refine bind_congr fun e => ?_
  rw [bind_assoc]
  refine bind_congr fun docs => ?_
  split
  · rfl
  · rfl

theorem chosenSettings_takesNotes (job : Job) : job.chosenSettings.TakesNotes := by
  rw [chosenSettings]
  split
  · exact fun _ => keeps_ofExcept (.ok _)
  · exact Settings.load_takesNotes _

/-! ### The text -/

theorem extractor_unnoticed (job : Job) (world : Live.World) (settings : Settings) :
    Follows (some (Session.Beside files)) (Session.Beside files) (job.extractor world settings)
      (job.extractor world settings)
      fun e s t => (∀ target, (e.extract target).Unnoticed files) ∧ Session.Beside files s t := by
  refine Follows.bind (unnoticed_ofExcept _) fun reader => ?_
  split
  · refine Follows.bind (unnoticed_note _) fun _ => Follows.bind (unnoticed_ofExcept _) fun path => ?_
    refine Follows.bind (unnoticed_readFile path) fun bytes => Follows.bind (unnoticed_ofExcept _) fun table => ?_
    exact .of_outcome fun s t hs =>
      ⟨_, s, t, rfl, rfl, fun target => (Extractor.extract_detached table reader _ target).unnoticed, hs⟩
  · exact .of_outcome fun s t ⟨_, hs, ht⟩ =>
      ⟨_, _, _, rfl, rfl, Live.World.extract_unnoticed reader _, rfl, hs, ht⟩

theorem compose_unnoticed (job : Job) (world : Live.World) (settings : Settings) :
    (job.compose world settings).Unnoticed files := by
  refine (unnoticed_note _).bind fun _ => Follows.bind (job.extractor_unnoticed world settings) fun e => ?_
  refine Follows.of_pre fun he => (Extractor.extractAll_unnoticed he _ _).bind fun docs => ?_
  split
  · exact unnoticed_ofExcept (.error _)
  · exact follows_pure _

theorem files_of_draft {settings : Act Settings} {result : Except Fault Text} (h : settings.TakesNotes)
    (hdraft : (job.draft settings world).outcome s = (result, t)) : t.files = s.files := by
  have hsettings : Keeps (fun u => u.files = s.files) settings := by
    intro u hu
    obtain ⟨notes, hnoted⟩ := h.outcome_noted u
    rw [hnoted]
    exact hu
  have hfiles := hsettings.bind (fun chosen => (job.compose_unnoticed world chosen).keeps) s rfl
  rw [draft] at hdraft
  rwa [hdraft] at hfiles

/-- The text depends on the settings, but not on how they were come by. -/
theorem draft_congr {settings settings' : Act Settings} (h : settings.TakesNotes) (h' : settings'.TakesNotes)
    (hsame : (settings'.outcome s).1 = (settings.outcome s).1)
    (hdraft : (job.draft settings world).outcome s = (.ok text, t)) :
    ∃ u, (job.draft settings' world).outcome s = (.ok text, u) := by
  obtain ⟨chosen, u, hchosen, hcompose⟩ := outcome_bind_ok.mp hdraft
  rw [hchosen] at hsame
  obtain ⟨v, hv⟩ := outcome_of_result hsame
  have hu := h.outcome_noted s
  have hu' := h'.outcome_noted s
  rw [hchosen] at hu
  rw [hv] at hu'
  obtain ⟨notes, rfl⟩ := hu
  obtain ⟨notes', rfl⟩ := hu'
  have hbeside : Session.Beside s.files (s.adding notes []) (s.adding notes' []) := ⟨rfl, rfl, rfl⟩
  obtain ⟨w, hw, -⟩ := (job.compose_unnoticed world chosen).ok hbeside hcompose
  exact ⟨w, outcome_bind_ok.mpr ⟨chosen, _, hv, hw⟩⟩

/-! ### Delivery -/

/-- How the delivery to a file ends: before anything is written, or with the file. -/
theorem deliver_cases (houtput : job.output = some (.file path)) (text : Text) (s : Session) :
    ∃ u, s.files.Grown u.files ∧
      ((∃ fault, (job.deliver text).outcome s = (.error fault, u)) ∨
        ∃ written t, u.files.write path (Text.encode (text ++ "\n")) = .ok written ∧ t.files = written ∧
          (job.deliver text).outcome s = (.ok (), t)) := by
  have hgrown := makeDirectories_grown s.files path.root path.parent.parts.reverse s (.refl s.files)
  rw [deliver, houtput]
  simp only
  rw [outcome_bind]
  rcases hmade : (makeDirectories path.root path.parent.parts.reverse).outcome s with ⟨fault | _, u⟩
  · rw [hmade] at hgrown
    exact ⟨u, hgrown, Or.inl ⟨fault, rfl⟩⟩
  · rw [hmade] at hgrown
    refine ⟨u, hgrown, ?_⟩
    simp only
    rw [outcome_bind, writeFile, outcome_changeFiles]
    cases hwrite : u.files.write path (Text.encode (text ++ "\n")) with
    | error fault => exact Or.inl ⟨fault, rfl⟩
    | ok written => exact Or.inr ⟨written, _, rfl, rfl, outcome_note _ _⟩

theorem grown_of_deliver {fault : Fault} (h : (job.deliver text).outcome s = (.error fault, t)) :
    s.files.Grown t.files := by
  cases houtput : job.output with
  | none =>
    rw [deliver, houtput] at h
    cases h
  | some location =>
    cases location with
    | nowhere =>
      rw [deliver, houtput] at h
      cases h
      exact .refl s.files
    | file path =>
      obtain ⟨u, hgrown, ⟨_, hended⟩ | ⟨_, _, -, -, hended⟩⟩ := deliver_cases houtput text s
      · rw [hended] at h
        cases h
        exact hgrown
      · rw [hended] at h
        cases h

theorem of_deliver (houtput : job.output = some (.file path)) (h : (job.deliver text).outcome s = (.ok (), t)) :
    s.files.CanHold path ∧ s.files.Gains path (Text.encode (text ++ "\n")) t.files := by
  obtain ⟨u, hgrown, ⟨_, hended⟩ | ⟨written, _, hwrite, hfiles, hended⟩⟩ := deliver_cases houtput text s
  · rw [hended] at h
    cases h
  · rw [hended] at h
    cases h
    obtain ⟨hfits, hdirs, hvacant, rfl⟩ := Files.write_eq_ok_iff.mp hwrite
    rw [hfiles]
    exact ⟨hgrown.canHold hwrite, hgrown.gains_put hfits hdirs hvacant⟩

/-- A file that can be written is written. -/
theorem exists_deliver (houtput : job.output = some (.file path)) (h : s.files.CanHold path) (text : Text) :
    ∃ t, (job.deliver text).outcome s = (.ok (), t) := by
  obtain ⟨directory, name, rfl⟩ := h.exists_child
  have hroute := Path.route_child directory name
  have hpassable := h.passable
  rw [hroute] at hpassable
  have hmake := makeDirectories_opens directory.root directory.parts.reverse s
  rw [List.reverse_reverse] at hmake
  obtain ⟨made, hmade, hopened⟩ := hmake h.fits.of_child hpassable
  have hvacant : made.entry? (directory.child name).place ≠ some .directory := by
    rw [hopened.off _ (hroute ▸ h.apart)]
    exact h.vacant
  have hdirs : ∀ q ∈ (directory.child name).route, made.entry? q = some .directory := hroute ▸ hopened.on
  obtain ⟨written, hwrite⟩ : ∃ written, made.write (directory.child name) (Text.encode (text ++ "\n")) = .ok written :=
    ⟨_, Files.write_eq_ok_iff.mpr ⟨h.fits, hdirs, hvacant, rfl⟩⟩
  have hroot : (directory.child name).root = directory.root := rfl
  rw [deliver, houtput]
  simp only
  rw [Path.parent_child, hroot, outcome_bind, hmade]
  simp only
  rw [outcome_bind, writeFile, outcome_changeFiles]
  simp only [hwrite]
  exact ⟨_, outcome_note _ _⟩

section Publish
variable {settings : Act Settings} {answer : Text → Text}

theorem publish_none (houtput : job.output = none) (h : (job.draft settings world).outcome s = (.ok text, t)) :
    (job.publish settings world answer).outcome s = (.ok (answer text), t) := by
  refine outcome_bind_ok.mpr ⟨text, t, h, ?_⟩
  rw [deliver, houtput]
  rfl

theorem publish_file (houtput : job.output = some (.file path)) (hsettings : settings.TakesNotes)
    (h : (job.draft settings world).outcome s = (.ok text, t)) (hhold : s.files.CanHold path) :
    ∃ u, (job.publish settings world answer).outcome s = (.ok (answer text), u) ∧
      s.files.Gains path (Text.encode (text ++ "\n")) u.files := by
  rw [← files_of_draft hsettings h] at hhold ⊢
  obtain ⟨u, hu⟩ := exists_deliver houtput hhold text
  refine ⟨u, outcome_bind_ok.mpr ⟨text, t, h, ?_⟩, (of_deliver houtput hu).2⟩
  rw [outcome_bind, hu]
  rfl

theorem of_publish {printed : Text} (h : (job.publish settings world answer).outcome s = (.ok printed, t)) :
    ∃ text u, (job.draft settings world).outcome s = (.ok text, u) ∧ (job.deliver text).outcome u = (.ok (), t) ∧
      printed = answer text := by
  obtain ⟨text, u, hdraft, h⟩ := outcome_bind_ok.mp h
  obtain ⟨_, v, hdeliver, h⟩ := outcome_bind_ok.mp h
  cases h
  exact ⟨text, u, hdraft, hdeliver, rfl⟩

theorem grown_of_publish {fault : Fault} (hsettings : settings.TakesNotes)
    (h : (job.publish settings world answer).outcome s = (.error fault, t)) : s.files.Grown t.files := by
  rw [publish, outcome_bind] at h
  rcases hdraft : (job.draft settings world).outcome s with ⟨_ | text, u⟩
  · rw [hdraft] at h
    cases h
    rw [files_of_draft hsettings hdraft]
    exact .refl s.files
  · rw [hdraft] at h
    rw [← files_of_draft hsettings hdraft]
    simp only at h
    rw [outcome_bind] at h
    rcases hdeliver : (job.deliver text).outcome u with ⟨_ | _, v⟩
    · rw [hdeliver] at h
      cases h
      exact grown_of_deliver hdeliver
    · rw [hdeliver] at h
      cases h

end Publish

end Job

/-! ### The command line -/

namespace CommandLine.Arguments
open Job

/-- The settings for a command line. -/
def chosenSettings (arguments : Arguments) : Act Settings := do
  let directory ← Act.ofExcept arguments.directory.path
  let settings ← Settings.load directory
  Act.ofExcept (settings.updated arguments.overrides)

/-- What a command line asks for, apart from settings. -/
def job (arguments : Arguments) : Job where
  targets := arguments.targets
  output := arguments.output
  table := arguments.table

/-- What is printed. -/
def printed (arguments : Arguments) (text : Text) : Text :=
  if arguments.output.isNone then text ++ "\n".toList else []

theorem run_eq (arguments : Arguments) (world : Live.World) :
    arguments.run world = arguments.job.publish arguments.chosenSettings world arguments.printed := by
  rw [run, publish, draft, chosenSettings]
  simp only [bind_assoc]
  refine bind_congr fun directory => bind_congr fun loaded => bind_congr fun settings => ?_
  rw [Job.run_eq, publish, draft]
  simp only [bind_assoc, pure_bind, Job.chosenSettings]
  rfl

theorem chosenSettings_takesNotes (arguments : Arguments) : arguments.chosenSettings.TakesNotes := fun s =>
  (keeps_ofExcept _).bind fun directory => (Settings.load_takesNotes directory s).bind fun _ => keeps_ofExcept _

/-- A command line asks for the text of a job: for the same classes from the same source, with the same settings. -/
structure Requests (arguments : Arguments) (job : Job) (s : Session) : Prop where
  targets : arguments.targets = job.targets
  table : arguments.table = job.table
  settings : (arguments.chosenSettings.outcome s).1 = (job.chosenSettings.outcome s).1

theorem Requests.draft {arguments : Arguments} {job : Job} {world : Live.World} {s t : Session} {text : Text}
    (h : arguments.Requests job s) (hdraft : (job.draft job.chosenSettings world).outcome s = (.ok text, t)) :
    ∃ u, (arguments.job.draft arguments.chosenSettings world).outcome s = (.ok text, u) := by
  have heq : arguments.job.draft arguments.chosenSettings world = job.draft arguments.chosenSettings world := by
    refine bind_congr fun settings => ?_
    rw [compose, compose, extractor, extractor, Arguments.job, h.targets, h.table]
  rw [heq]
  exact draft_congr job.chosenSettings_takesNotes arguments.chosenSettings_takesNotes h.settings hdraft

end CommandLine.Arguments

namespace Job
open CommandLine

/-- The text of a run is the same wherever it goes, and goes there as a whole or not at all. If the run of a job returns
    a text, no file is touched. With any output that can be written, once the directories that lead there are made, the
    run returns the same text and writes it with a line feed, and all other files stay as they are. A command line that
    asks for the same prints the text and a line feed, or writes them and prints nothing. Only such outputs can be
    written, and only such texts. And whatever fails leaves all files as they are: at most there are new directories. -/
theorem run_all_or_nothing (job : Job) (world : Live.World) (s : Session) :
    (∀ text t, ({ job with output := none }.run world).outcome s = (.ok text, t) →
      t.files = s.files ∧
      (∀ path, s.files.CanHold path →
        ∃ u, ({ job with output := some (.file path) }.run world).outcome s = (.ok text, u) ∧
          s.files.Gains path (Text.encode (text ++ "\n")) u.files) ∧
      ∀ arguments : Arguments, arguments.Requests job s →
        (arguments.output = none →
          ∃ u, (arguments.run world).outcome s = (.ok (text ++ "\n"), u) ∧ u.files = s.files) ∧
        ∀ path, arguments.output = some (.file path) → s.files.CanHold path →
          ∃ u, (arguments.run world).outcome s = (.ok [], u) ∧
            s.files.Gains path (Text.encode (text ++ "\n")) u.files) ∧
    (∀ path text t, ({ job with output := some (.file path) }.run world).outcome s = (.ok text, t) →
      s.files.CanHold path ∧ ∃ u, ({ job with output := none }.run world).outcome s = (.ok text, u)) ∧
    (∀ fault t, (job.run world).outcome s = (.error fault, t) → s.files.Grown t.files) ∧
    ∀ (arguments : Arguments) fault t, (arguments.run world).outcome s = (.error fault, t) →
      s.files.Grown t.files := by
  simp only [run_eq, Arguments.run_eq]
  have hsettings := job.chosenSettings_takesNotes
  refine ⟨fun text t h => ?_, fun path text t h => ?_, fun fault t h => ?_, fun arguments fault t h => ?_⟩
  · obtain ⟨text, u, hdraft, hdeliver, rfl⟩ := of_publish h
    cases hdeliver
    refine ⟨files_of_draft hsettings hdraft, fun path hhold => publish_file rfl hsettings hdraft hhold,
      fun arguments hrequests => ?_⟩
    obtain ⟨u, hu⟩ := hrequests.draft hdraft
    have hchosen := arguments.chosenSettings_takesNotes
    refine ⟨fun houtput => ⟨u, ?_, files_of_draft hchosen hu⟩, fun path houtput hhold => ?_⟩
    · rw [publish_none houtput hu, Arguments.printed, houtput]
      rfl
    · have hnothing : arguments.printed text = [] := by
        rw [Arguments.printed, houtput]
        rfl
      rw [← hnothing]
      exact publish_file houtput hchosen hu hhold
  · obtain ⟨text, u, hdraft, hdeliver, rfl⟩ := of_publish h
    have hhold := (of_deliver rfl hdeliver).1
    rw [files_of_draft hsettings hdraft] at hhold
    exact ⟨hhold, u, publish_none rfl hdraft⟩
  · exact grown_of_publish hsettings h
  · exact grown_of_publish arguments.chosenSettings_takesNotes h

/-- A shop with settings of its own. -/
def shopHome : Session where
  files := ⟨[([".classdoc.toml"], .file (Text.encode "[classdoc]\nkeep-going = true\n")), (["shop.toml"], .file shop)]⟩

/-- A run over the shop with its own settings, which leaves out what the shop does not have. -/
def homeJob (output : Option Location) : Job where
  targets := ["Saw", "Axe"]
  output
  table := some (.file ⟨[], ["shop.toml"]⟩)

/-- The command line for that run. -/
def homeLine (output : Option Location) : Arguments where
  targets := ["Saw", "Axe"]
  output
  table := some (.file ⟨[], ["shop.toml"]⟩)

theorem homeLine_requests (output : Option Location) : (homeLine output).Requests (homeJob none) shopHome where
  targets := rfl
  table := rfl
  settings := by
    -- Nothing is overridden, so the settings are those of the directory.
    have hupdated : ∀ settings : Settings, settings.updated (homeLine output).overrides = .ok settings := fun _ => rfl
    have hload : (homeLine output).chosenSettings = Settings.load {} := by
      rw [Arguments.chosenSettings]
      simp only [hupdated]
      exact bind_pure (Settings.load {})
    rw [hload]
    rfl

/-- Neither of the directories of the output is there. -/
def homeOutput : Path := ⟨[], ["docs", "api", "shop.json"]⟩

/-- The shop itself is no directory. -/
def homeOutside : Path := ⟨[], ["shop.toml", "shop.json"]⟩

theorem canHold_homeOutput : shopHome.files.CanHold homeOutput where
  fits := ⟨by decide +kernel, by decide +kernel, by decide +kernel⟩
  passable := by decide +kernel
  vacant := by decide +kernel
  apart := by decide +kernel

/-- The text goes into a new directory, but not into a file as if that were one, nor nowhere. -/
theorem run_all_or_nothing_shop :
    ∃ text t u v w fault x fault' y,
      ((homeJob none).run .standard).outcome shopHome = (.ok text, t) ∧ shopHome.files.CanHold homeOutput ∧
      ((homeJob (some (.file homeOutput))).run .standard).outcome shopHome = (.ok text, u) ∧
      u.files.read homeOutput = .ok (Text.encode (text ++ "\n")) ∧
      ((homeLine none).run .standard).outcome shopHome = (.ok (text ++ "\n"), v) ∧ v.files = shopHome.files ∧
      ((homeLine (some (.file homeOutput))).run .standard).outcome shopHome = (.ok [], w) ∧
      w.files.read homeOutput = .ok (Text.encode (text ++ "\n")) ∧
      ((homeJob (some (.file homeOutside))).run .standard).outcome shopHome = (.error fault, x) ∧
      shopHome.files.Grown x.files ∧
      ((homeLine (some .nowhere)).run .standard).outcome shopHome = (.error fault', y) ∧
      shopHome.files.Grown y.files := by
  obtain ⟨text, htext⟩ : ∃ text, (((homeJob none).run .standard).outcome shopHome).1 = .ok text :=
    isSome_toOption_iff.mp (by decide +kernel)
  obtain ⟨fault, hfault⟩ : ∃ fault, (((homeJob (some (.file homeOutside))).run .standard).outcome shopHome).1 =
      .error fault := isSome_toOption_eq_false_iff.mp (by decide +kernel)
  obtain ⟨fault', hfault'⟩ : ∃ fault, (((homeLine (some .nowhere)).run .standard).outcome shopHome).1 =
      .error fault := isSome_toOption_eq_false_iff.mp (by decide +kernel)
  obtain ⟨t, hrun⟩ := outcome_of_result htext
  obtain ⟨x, hx⟩ := outcome_of_result hfault
  obtain ⟨y, hy⟩ := outcome_of_result hfault'
  obtain ⟨hall, -, -, hnothing'⟩ := run_all_or_nothing (homeJob none) .standard shopHome
  obtain ⟨-, -, hnothing, -⟩ := run_all_or_nothing (homeJob (some (.file homeOutside))) .standard shopHome
  obtain ⟨-, hfiles, harguments⟩ := hall text t hrun
  obtain ⟨u, hu, hgains⟩ := hfiles homeOutput canHold_homeOutput
  obtain ⟨v, hv, hsame⟩ := (harguments _ (homeLine_requests none)).1 rfl
  obtain ⟨w, hw, hgains'⟩ := (harguments _ (homeLine_requests _)).2 homeOutput rfl canHold_homeOutput
  exact ⟨text, t, u, v, w, fault, x, fault', y, hrun, canHold_homeOutput, hu, hgains.read, hv, hsame, hw, hgains'.read,
    hx, hnothing fault x hx, hy, hnothing' _ fault' y hy⟩

end Job
end ApiDocs
