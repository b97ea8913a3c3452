import ApiDocs.Proofs.Ordered
import ApiDocs.Proofs.Settings

/-! Settings in layers. What is asked for on the spot counts before what a file says, and that before the standard. Of the
    two files only one counts: the one that is meant for settings if it is there and well formed, whether it has a
    section of settings or not, and else the project's own. -/

namespace ApiDocs

/-- What is at a path. -/
def Files.entryAt (files : Files) (path : Path) : Option Entry := (files.found? path).toOption.join

namespace Settings

/-! ### The table that counts -/

/-- The content of a file that is there and well formed. -/
def document? (entry : Option Entry) : Option (List (Text × Value)) :=
  entry.bind fun entry => (entry.bytes.bind Toml.ofBytes).toOption

/-- The entries of a value, which has none unless it is a table. -/
def tableOf : Value → List (Text × Value)
  | .table entries => entries
  | _ => []

/-- The entries of a table inside another one. -/
def tableAt (key : Text) (entries : List (Text × Value)) : List (Text × Value) :=
  ((entries.lookup key).map tableOf).getD []

/-- The table of settings, by what is at the two paths. -/
def table (own project : Option Entry) : List (Text × Value) :=
  ((document? own).map (tableAt "classdoc")).getD
    (((document? project).map fun entries => tableAt "classdoc" (tableAt "tool" entries)).getD [])

theorem settled_ok {value : Value} {settings : Settings} (h : (settled value).1 = .ok settings) :
    settings = (ofEntries (tableOf value)).1 ∧ (settled value).2 = (ofEntries (tableOf value)).2 := by
  by_cases htable : ∃ entries, value = .table entries
  · obtain ⟨entries, rfl⟩ := htable
    exact ⟨(Except.ok.inj h).symm, rfl⟩
  · have hne : ∀ entries, value ≠ .table entries := fun entries heq => htable ⟨entries, heq⟩
    have hnone : tableOf value = [] := by
      cases value with
      | table entries => exact absurd rfl (hne entries)
      | _ => rfl
    obtain ⟨_, hsettled, _⟩ := of_ne_table hne
    rw [hsettled] at h ⊢
    rw [hnone]
    split at h
    · cases h
    · rename_i hfalsy
      rw [if_neg hfalsy]
      exact ⟨(Except.ok.inj h).symm, rfl⟩

theorem tableOf_getD (entries : List (Text × Value)) (key : Text) {standard : Value} (h : tableOf standard = []) :
    tableOf (Ordered.getD entries key standard) = tableAt key entries := by
  rw [Ordered.getD, tableAt]
  cases entries.lookup key with
  | none => exact h
  | some value => rfl

theorem tableOf_ownSection {entries : List (Text × Value)} {value : Value} (h : ownSection entries = .ok value) :
    tableOf value = tableAt "classdoc" entries := by
  rw [← Except.ok.inj h]
  exact tableOf_getD entries "classdoc" rfl

theorem tableOf_projectSection {entries : List (Text × Value)} {value : Value}
    (h : projectSection entries = .ok value) : tableOf value = tableAt "classdoc" (tableAt "tool" entries) := by
  have htools : tableOf (Ordered.getD entries "tool" (.table [])) = tableAt "tool" entries :=
    tableOf_getD entries "tool" rfl
  rw [projectSection] at h
  split at h
  · rename_i tools hvalue
    rw [hvalue] at htools
    rw [← Except.ok.inj h, ← htools]
    exact tableOf_getD tools "classdoc" rfl
  · cases h

/-! ### The file that counts -/

theorem Finding.found_of_ofResult {path : Path} {result : Except Fault Value} {value : Value}
    (h : ofResult path result = .found value) : result = .ok value := by
  cases result with
  | ok found =>
    cases h
    rfl
  | error fault =>
    rw [ofResult] at h
    split at h <;> cases h

theorem document?_of_found {path : Path} {part : List (Text × Value) → Except Fault Value} {entry : Option Entry}
    {value : Value} (h : finding path part entry = .found value) :
    ∃ entries, document? entry = some entries ∧ part entries = .ok value := by
  cases entry with
  | none => cases h
  | some entry =>
    obtain ⟨bytes, hbytes, hread⟩ := bind_eq_ok.mp (Finding.found_of_ofResult h)
    obtain ⟨entries, hentries, hvalue⟩ := bind_eq_ok.mp hread
    exact ⟨entries, toOption_eq_some_iff.mpr (bind_eq_ok.mpr ⟨bytes, hbytes, hentries⟩), hvalue⟩

theorem document?_of_isPassed {entry : Option Entry} (h : isPassed entry = true) : document? entry = none := by
  rcases entry with _ | ⟨bytes⟩ | _
  · rfl
  · rw [isPassed, Option.all_some, passedFor?] at h
    split at h
    · rename_i hread
      exact congrArg Except.toOption hread
    · cases h
  · rfl

/-- A file that is looked at and does not end the run is passed over, or its part is found. -/
theorem readSection_ok {path : Path} {part : List (Text × Value) → Except Fault Value} (hpart : IsPart part)
    {s t : Session} {found : Option Value} (h : (readSection path part).outcome s = (.ok found, t)) :
    t = s.adding (warnings path (s.files.entryAt path)) [] ∧
      ((found = none ∧ document? (s.files.entryAt path) = none) ∨
        ∃ value entries, found = some value ∧ document? (s.files.entryAt path) = some entries ∧
          part entries = .ok value) := by
  cases hfound : s.files.found? path with
  | error fault =>
    obtain ⟨here, u, hhere, _⟩ := Act.outcome_bind_ok.mp h
    rw [outcome_hasFile, hfound] at hhere
    cases hhere
  | ok entry =>
    have hentry : s.files.entryAt path = entry := by
      rw [Files.entryAt, hfound]
      rfl
    rw [outcome_readSection hfound] at h
    rw [hentry]
    cases comes path hpart entry with
    | passed hpassed hfinding =>
      rw [hfinding] at h
      cases h
      exact ⟨rfl, Or.inl ⟨rfl, document?_of_isPassed hpassed⟩⟩
    | found _ hsilent value hfinding =>
      obtain ⟨entries, hentries, hvalue⟩ := document?_of_found hfinding
      rw [hfinding] at h
      cases h
      rw [hsilent, s.adding_nil]
      exact ⟨rfl, Or.inr ⟨value, entries, rfl, hentries, hvalue⟩⟩
    | stopped _ _ fault hfinding =>
      rw [hfinding] at h
      cases h

/-- What is noted about files that are passed over. The second file is only looked at if nothing is read in the first. -/
def complaints (files : Files) (directory : Path) : List Note :=
  let own := files.entryAt (ownPath directory)
  warnings (ownPath directory) own ++
    if (document? own).isSome then [] else warnings (projectPath directory) (files.entryAt (projectPath directory))

theorem readTable_ok {directory : Path} {s t : Session} {value : Value}
    (h : (readTable directory).outcome s = (.ok value, t)) :
    tableOf value = table (s.files.entryAt (ownPath directory)) (s.files.entryAt (projectPath directory)) ∧
      t = s.adding (complaints s.files directory) [] := by
  obtain ⟨first, u, hown, h⟩ := Act.outcome_bind_ok.mp h
  rw [← ownPath] at hown
  obtain ⟨rfl, hfirst⟩ := readSection_ok isPart_ownSection hown
  rw [table, complaints]
  rcases hfirst with ⟨rfl, hnone⟩ | ⟨value, entries, rfl, hentries, hvalue⟩
  · obtain ⟨second, v, hproject, h⟩ := Act.outcome_bind_ok.mp h
    rw [← projectPath] at hproject
    obtain ⟨rfl, hsecond⟩ := readSection_ok isPart_projectSection hproject
    rw [Session.adding_adding] at h
    simp only [hnone]
    rcases hsecond with ⟨rfl, habsent⟩ | ⟨value, entries, rfl, hentries, hvalue⟩
    · cases h
      have hproject : document? (s.files.entryAt (projectPath directory)) = none := habsent
      rw [hproject]
      exact ⟨rfl, rfl⟩
    · cases h
      have hproject : document? (s.files.entryAt (projectPath directory)) = some entries := hentries
      rw [hproject]
      exact ⟨tableOf_projectSection hvalue, rfl⟩
  · cases h
    have hsilent : warnings (ownPath directory) (s.files.entryAt (ownPath directory)) ++ [] =
        warnings (ownPath directory) (s.files.entryAt (ownPath directory)) := List.append_nil _
    simp only [hentries, Option.isSome_some, if_true, hsilent]
    exact ⟨tableOf_ownSection hvalue, trivial⟩

theorem load_ok {directory : Path} {s t : Session} {settings : Settings}
    (h : (load directory).outcome s = (.ok settings, t)) :
    let entries := table (s.files.entryAt (ownPath directory)) (s.files.entryAt (projectPath directory))
    settings = (ofEntries entries).1 ∧
      t = s.adding (complaints s.files directory ++ (ofEntries entries).2) [] := by
  rw [load] at h
  obtain ⟨value, u, htable, h⟩ := Act.outcome_bind_ok.mp h
  obtain ⟨hentries, rfl⟩ := readTable_ok htable
  rw [outcome_settle, Session.adding_adding] at h
  obtain ⟨hsettings, rfl⟩ := Prod.mk.inj h
  obtain ⟨hfirst, hnotes⟩ := settled_ok hsettings
  rw [hnotes, ← hentries]
  exact ⟨hfirst, rfl⟩

/-! ### Overrides -/

/-- A value that is asked for, unless it is null. -/
def given? : Value → Option Value
  | .null => none
  | value => some value

theorem eq_of_given? {value given : Value} (h : given? value = some given) : value = given := by
  cases value with
  | null => cases h
  | _ => exact Option.some.inj h

/-- The value of a setting in three layers: what is asked for, the last key for it in a table, and the standard. -/
def layered (overrides : List (Setting × Value)) (entries : List (Text × Value)) (setting : Setting) : Value :=
  ((overrides.lookup setting).bind given?).getD ((lastFor? setting entries).getD (({} : Settings).valueOf setting))

/-- Overrides by the names of their settings. -/
def byName (overrides : List (Setting × Value)) : List (Text × Value) :=
  overrides.map fun entry => (entry.1.name, entry.2)

/-- The settings after an override. -/
def override (settings : Settings) (setting : Setting) (value : Value) : Settings :=
  ((given? value).map (settings.put setting)).getD settings

theorem valueOf_override (settings : Settings) (setting : Setting) (value : Value) (other : Setting) :
    (settings.override setting value).valueOf other =
      if other = setting then (given? value).getD (settings.valueOf other) else settings.valueOf other := by
  rw [override]
  cases given? value with
  | none =>
    rw [Option.getD_none, ite_self]
    rfl
  | some value => exact valueOf_put settings setting value other

theorem setAll_given (settings : Settings) (overrides : List (Setting × Value)) :
    settings.setAll (byName (overrides.filter fun entry => (given? entry.2).isSome)) =
      .ok (overrides.foldl (fun settings entry => settings.override entry.1 entry.2) settings) := by
  induction overrides generalizing settings with
  | nil => rfl
  | cons entry rest ih =>
    rw [List.foldl_cons, ← ih, override]
    cases hgiven : given? entry.2 with
    | none =>
      rw [List.filter_cons_of_neg (by simp [hgiven])]
      rfl
    | some value =>
      have hput : settings.set? entry.1.name entry.2 = some (settings.put entry.1 value) := by
        rw [set?_eq, Setting.named?_name, eq_of_given? hgiven]
        rfl
      rw [List.filter_cons_of_pos (by simp [hgiven]), setAll, byName, List.map_cons, List.foldlM_cons, hput]
      rfl

/-- No setting is called `self`, so nothing stands in the way of overrides. -/
theorem updated_byName (settings : Settings) (overrides : List (Setting × Value)) :
    settings.updated (byName overrides) =
      .ok (overrides.foldl (fun settings entry => settings.override entry.1 entry.2) settings) := by
  have hself : (byName overrides).lookup "self".toList = none := by
    refine List.lookup_eq_none_iff.mpr fun field hfield => ?_
    obtain ⟨⟨setting, value⟩, _, rfl⟩ := List.mem_map.mp hfield
    cases setting <;> rfl
  have hgiven : (byName overrides).filter (fun field => (given? field.2).isSome) =
      byName (overrides.filter fun entry => (given? entry.2).isSome) := List.filter_map
  rw [updated, hself, ← setAll_given, ← hgiven]
  refine congrArg settings.setAll (List.filter_congr fun field _ => ?_)
  cases field.2 <;> rfl

theorem valueOf_overrides (settings : Settings) {overrides : List (Setting × Value)}
    (h : (Ordered.keys overrides).Nodup) (setting : Setting) :
    (overrides.foldl (fun settings entry => settings.override entry.1 entry.2) settings).valueOf setting =
      ((overrides.lookup setting).bind given?).getD (settings.valueOf setting) := by
  induction overrides generalizing settings with
  | nil => rfl
  | cons entry rest ih =>
    obtain ⟨hfirst, hrest⟩ := List.nodup_cons.mp h
    rw [List.foldl_cons, ih _ hrest, valueOf_override, List.lookup_cons]
    by_cases hsame : setting = entry.1
    · have hnone : rest.lookup setting = none := Ordered.lookup_eq_none_iff.mpr (hsame ▸ hfirst)
      rw [if_pos hsame, hnone, beq_iff_eq.mpr hsame]
      rfl
    · rw [if_neg hsame, beq_false_of_ne hsame]

/-- What settings are after overrides: each is the override if that is not null, and else the value of the last key for
    it in the table that counts, and else the standard. What is noted is at most one warning for each of the two files,
    and then one for each key of that table that stands for no setting, in their order. -/
theorem layers_of_load {directory : Path} {s t : Session} {settings : Settings}
    (hload : (load directory).outcome s = (.ok settings, t)) {overrides : List (Setting × Value)}
    (hkeys : (Ordered.keys overrides).Nodup) :
    let entries := table (s.files.entryAt (ownPath directory)) (s.files.entryAt (projectPath directory))
    (∃ result, settings.updated (byName overrides) = .ok result ∧
      ∀ setting, result.valueOf setting = layered overrides entries setting) ∧
    t = s.adding (complaints s.files directory ++ (entries.filter (isUnknown ·.1)).map (unknown ·.1)) [] := by
  obtain ⟨rfl, rfl⟩ := load_ok hload
  refine ⟨⟨_, updated_byName _ overrides, fun setting => ?_⟩, ?_⟩
  · rw [valueOf_overrides _ hkeys, valueOf_ofEntries]
    rfl
  · rw [notes_ofEntries]

/-- A project with two spellings of one setting and a key that stands for none. -/
def variedFile : Entry :=
  .file (Text.encode "[tool.classdoc]\nkeep-going = true\ncolour = 3\nkeep_going = 0\nstyle = \"google\"\n")

/-- An empty template, which is asked for, and a null, which is not. -/
def partialOverrides : List (Setting × Value) := [(.style, .null), (.linkTemplate, .text [])]

set_option maxRecDepth 100000 in
theorem layers_of_load_varied :
    ∃ settings t result, (load {}).outcome (sessionOf draftFile variedFile) = (.ok settings, t) ∧
      settings.updated (byName partialOverrides) = .ok result ∧
      result.shown = "ClassdocConfig(style='google', link_template='', keep_going=0)" ∧
      t.log = [warning (ownPath {}) .tomlForm, unknown "colour"] := by
  obtain ⟨settings, hsettings⟩ : ∃ settings, ((load {}).outcome (sessionOf draftFile variedFile)).1 = .ok settings :=
    isSome_toOption_iff.mp (by decide +kernel)
  obtain ⟨t, hload⟩ := Act.outcome_of_result hsettings
  have hkeys : (Ordered.keys partialOverrides).Nodup := by decide
  obtain ⟨⟨result, hresult, hlayers⟩, rfl⟩ := layers_of_load hload hkeys
  have hfields : result = ⟨result.valueOf .style, result.valueOf .linkTemplate, result.valueOf .keepGoing⟩ := rfl
  rw [hlayers, hlayers, hlayers] at hfields
  refine ⟨settings, _, result, hload, hresult, ?_, ?_⟩
  · rw [hfields]
    decide +kernel
  · decide +kernel

end Settings
end ApiDocs
