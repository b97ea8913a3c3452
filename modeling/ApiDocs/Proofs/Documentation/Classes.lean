import ApiDocs.Proofs.Documentation.Faithful
import ApiDocs.Proofs.Documentation.Targets
import ApiDocs.Run

/-! The classes in the text of a run over a table. A target that comes more than once is made more than once, but has
    one entry, and that is what is made of it alone: so neither the other targets nor the order in which they come show
    in it. -/

namespace ApiDocs

/-- The interfaces of all classes and the names of all methods are texts. -/
structure ClassTable.IsTextual (table : ClassTable) : Prop where
  titles : table.HasTitles
  interfaces : ∀ entry ∈ table, ∃ names : List Text, entry.2.interfaces = names.map .text

namespace Extractor
open Act

variable {e : Extractor} {target : Text}

/-! ### The classes of some targets -/

/-- Whether a target does not fail. -/
def succeeds (e : Extractor) (target : Text) : Bool := (e.alone target).toOption.isSome

theorem succeeds_iff : e.succeeds target = true ↔ ∃ doc, e.alone target = .ok doc := isSome_toOption_iff

/-- The entries of some targets: one for each that does not fail, in the order in which they first come, with the data
    of its documentation. -/
structure Collects (e : Extractor) (targets : List Text) (entries : List (Text × Value)) : Prop where
  keys : Ordered.keys entries = (targets.filter e.succeeds).eraseDups
  distinct : (Ordered.keys entries).Nodup
  alone : ∀ entry ∈ entries, ∃ doc, e.alone entry.1 = .ok doc ∧ entry.2 = doc.toValue

namespace Collects

variable {targets : List Text} {entries : List (Text × Value)}

theorem mem_keys_iff (h : e.Collects targets entries) {name : Text} :
    name ∈ Ordered.keys entries ↔ name ∈ targets ∧ ∃ doc, e.alone name = .ok doc := by
  rw [h.keys, List.mem_eraseDups, List.mem_filter, succeeds_iff]

/-- What stands under a name is decided by the name, and by whether it is one of the targets. -/
theorem lookup_eq (h : e.Collects targets entries) (name : Text) :
    entries.lookup name = if name ∈ targets then (e.alone name).toOption.map Documentation.toValue else none := by
  cases hl : entries.lookup name with
  | some value =>
    obtain ⟨before, after, hsplit, -⟩ := List.lookup_eq_some_iff.mp hl
    have hm : (name, value) ∈ entries := by simp [hsplit]
    obtain ⟨doc, hdoc, hvalue⟩ := h.alone _ hm
    have htarget := (h.mem_keys_iff.mp (List.mem_map_of_mem hm)).1
    simp only at hdoc hvalue
    rw [if_pos htarget, hdoc, hvalue]
    rfl
  | none =>
    have hnot : name ∉ Ordered.keys entries := by
      intro hk
      obtain ⟨entry, hm, rfl⟩ := List.mem_map.mp hk
      simpa using List.lookup_eq_none_iff.mp hl entry hm
    split
    · rename_i htarget
      cases hdoc : e.alone name with
      | error fault => rfl
      | ok doc => exact absurd (h.mem_keys_iff.mpr ⟨htarget, doc, hdoc⟩) hnot
    · rfl

/-- The same targets have the same entries, in whatever order they come. -/
theorem lookup_congr (h : e.Collects targets entries) {targets' : List Text} {entries' : List (Text × Value)}
    (h' : e.Collects targets' entries') (hsame : ∀ target, target ∈ targets ↔ target ∈ targets') (name : Text) :
    entries.lookup name = entries'.lookup name := by
  rw [h.lookup_eq, h'.lookup_eq]
  simp only [hsame]

end Collects

theorem name_of_extract {s t : Session} {doc : Documentation} (h : (e.extract target).outcome s = (.ok doc, t)) :
    doc.name = target := by
  obtain ⟨inherited, u₁, -, h⟩ := outcome_bind_ok.mp h
  obtain ⟨description, u₂, -, h⟩ := outcome_bind_ok.mp h
  obtain ⟨parent, u₃, -, h⟩ := outcome_bind_ok.mp h
  obtain ⟨interfaces, u₄, -, h⟩ := outcome_bind_ok.mp h
  obtain ⟨methods, u₅, -, h⟩ := outcome_bind_ok.mp h
  cases h
  rfl

theorem names_found (targets : List Text) : (e.found targets).map (·.name) = targets.filter e.succeeds := by
  induction targets with
  | nil => rfl
  | cons target rest ih =>
    rw [found_cons, List.map_append, ih]
    cases hdoc : e.alone target with
    | error fault =>
      rw [List.filter_cons_of_neg (by simp [succeeds, hdoc, Except.toOption])]
      rfl
    | ok doc =>
      obtain ⟨t, ht⟩ := outcome_of_result hdoc
      rw [List.filter_cons_of_pos (by simp [succeeds, hdoc, Except.toOption])]
      simp [Except.toOption, name_of_extract ht]

theorem alone_of_mem_found {targets : List Text} {doc : Documentation} (h : doc ∈ e.found targets) :
    ∃ target, e.alone target = .ok doc := by
  obtain ⟨target, -, halone⟩ := List.mem_filterMap.mp h
  refine ⟨target, ?_⟩
  cases hresult : e.alone target with
  | error fault =>
    rw [hresult] at halone
    cases halone
  | ok found =>
    rw [hresult] at halone
    cases halone
    rfl

/-- The classes in the data of what is found. -/
theorem collects_found (targets : List Text) :
    e.Collects targets (Ordered.ofList ((e.found targets).map fun doc => (doc.name, doc.toValue))) where
  keys := by
    rw [Ordered.keys_ofList, ← names_found]
    simp [Ordered.keys, Function.comp_def]
  distinct := Ordered.nodup_keys_ofList _
  alone := by
    intro entry hm
    obtain ⟨before, after, hsplit, -⟩ := Ordered.mem_ofList hm
    have hentry : entry ∈ (e.found targets).map fun doc => (doc.name, doc.toValue) := by simp [hsplit]
    obtain ⟨doc, hdoc, rfl⟩ := List.mem_map.mp hentry
    obtain ⟨target, halone⟩ := alone_of_mem_found hdoc
    obtain ⟨t, ht⟩ := outcome_of_result halone
    exact ⟨doc, by rw [name_of_extract ht, halone], rfl⟩

/-- Where several targets are made well, what is found is the result. -/
theorem extractAll_ok (hd : ∀ target, (e.extract target).Detached) {keepGoing : Bool} {targets : List Text}
    {s t : Session} {docs : List Documentation} (h : (e.extractAll keepGoing targets).outcome s = (.ok docs, t)) :
    docs = e.found targets := by
  have hpasses : keepGoing = true ∨ ∀ target ∈ targets, ∃ doc, e.alone target = .ok doc := by
    cases keepGoing with
    | true => exact Or.inl rfl
    | false =>
      -- A target that fails would have been the end, so none does.
      refine Or.inr ?_
      cases hfind : targets.find? fun target => !e.succeeds target with
      | none =>
        intro target hm
        have hnot := List.find?_eq_none.mp hfind target hm
        rw [Bool.not_eq_true', Bool.not_eq_false] at hnot
        exact succeeds_iff.mp hnot
      | some target =>
        obtain ⟨hfails, before, after, rfl, hbefore⟩ := List.find?_eq_some_iff_append.mp hfind
        have hok : ∀ earlier ∈ before, ∃ doc, e.alone earlier = .ok doc := fun earlier he =>
          succeeds_iff.mp (by simpa using hbefore earlier he)
        cases halone : e.alone target with
        | ok doc =>
          rw [succeeds_iff.mpr ⟨doc, halone⟩] at hfails
          cases hfails
        | error fault =>
          obtain ⟨notes, hstops⟩ := extractAll_stops hd hok halone after s
          rw [hstops] at h
          cases h
  rw [extractAll_passes hd hpasses] at h
  cases h
  rfl

/-! ### Tables of texts -/

/-- A class that is documented has no parent, or one that is named by a text. -/
theorem parent_of_inherited {table : ClassTable} (hsource : e.source = table.source) {s t : Session} {details : Details}
    (h : (e.inherited target).outcome s = (.ok details, t)) {record : ClassRecord}
    (hl : table.lookup target = some record) : ∃ name, record.parent = .ofText? name := by
  obtain ⟨parent, u, hp, h⟩ := outcome_bind_ok.mp h
  rw [Extractor.parent, hsource] at hp
  obtain ⟨found, hfound, rfl⟩ := ClassTable.outcome_record hp
  rw [hl] at hfound
  cases hfound
  refine ⟨record.parent.text?, ?_⟩
  cases hparent : record.parent with
  | null => rfl
  | text name => rfl
  | _ =>
    rw [hparent] at h
    cases h

/-- What is documented from a table of texts is made of texts. -/
theorem isTextual_of_extract {table : ClassTable} (hsource : e.source = table.source) (hf : e.SteadyFallback)
    (ht : table.IsTextual) {s t : Session} {doc : Documentation} (h : (e.extract target).outcome s = (.ok doc, t)) :
    doc.IsTextual := by
  obtain ⟨parents, own, hparents, hown, hinherited, hmethods⟩ := extract_ok hsource hf ht.titles h
  obtain ⟨details, u, hdetails, h⟩ := outcome_bind_ok.mp h
  obtain ⟨description, u, -, h⟩ := outcome_bind_ok.mp h
  obtain ⟨parent, u, hparent, h⟩ := outcome_bind_ok.mp h
  obtain ⟨interfaces, u, hinterfaces, h⟩ := outcome_bind_ok.mp h
  obtain ⟨methods, u, -, h⟩ := outcome_bind_ok.mp h
  rw [Extractor.parent, hsource] at hparent
  obtain ⟨record, hl, rfl⟩ := ClassTable.outcome_record hparent
  rw [Extractor.interfaces, hsource] at hinterfaces
  obtain ⟨found, hfound, rfl⟩ := ClassTable.outcome_record hinterfaces
  rw [hl] at hfound
  cases hfound
  obtain ⟨before, after, hsplit, -⟩ := List.lookup_eq_some_iff.mp hl
  have hsorted : (Ordered.keys (parents.mergeSort Details.nameLe)).Nodup :=
    ((List.mergeSort_perm parents Details.nameLe).map Prod.fst).nodup_iff.mpr hparents.distinct
  cases h
  exact {
    parent := parent_of_inherited hsource hdetails hl
    interfaces := ht.interfaces (target, record) (by simp [hsplit])
    methods := ⟨own, hmethods, hown.distinct⟩
    inherited := ⟨_, hinherited, hsorted⟩ }

theorem isTextual_found {table : ClassTable} (hsource : e.source = table.source) (hf : e.SteadyFallback)
    (ht : table.IsTextual) {targets : List Text} : ∀ doc ∈ e.found targets, doc.IsTextual := by
  intro doc hm
  obtain ⟨target, halone⟩ := alone_of_mem_found hm
  obtain ⟨t, hextract⟩ := outcome_of_result halone
  exact isTextual_of_extract hsource hf ht hextract

end Extractor

namespace Job
open Act

variable {job : Job} {world : Live.World} {s t : Session} {table : ClassTable} {style template : Value}

/-- What a job works with: the table that its file holds, and what its settings say about comments and links. -/
structure Uses (job : Job) (s : Session) (table : ClassTable) (style template : Value) : Prop where
  settings : ∃ settings, job.settings = some settings ∧ settings.style = style ∧ settings.linkTemplate = template
  table : ∃ location path bytes, job.table = some location ∧ location.path = .ok path ∧ s.files.read path = .ok bytes ∧
    ClassTable.ofFile bytes = .ok table

theorem extractor_ok {settings : Settings} {e : Extractor} {location : Location} {path : Path} {bytes : List UInt8}
    (h : (job.extractor world settings).outcome s = (.ok e, t)) (hlocation : job.table = some location)
    (hpath : location.path = .ok path) (hread : s.files.read path = .ok bytes)
    (htable : ClassTable.ofFile bytes = .ok table) :
    ∃ reader, Reader.ofSetting settings.style = .ok reader ∧
      e = ⟨table.source, reader, linkFallback settings.linkTemplate⟩ := by
  obtain ⟨reader, u, hreader, h⟩ := outcome_bind_ok.mp h
  rw [outcome_ofExcept] at hreader
  obtain ⟨hsetting, rfl⟩ := Prod.mk.inj hreader
  refine ⟨reader, hsetting, ?_⟩
  rw [hlocation] at h
  obtain ⟨_, u, hnote, h⟩ := outcome_bind_ok.mp h
  cases hnote
  obtain ⟨found, u, hfound, h⟩ := outcome_bind_ok.mp h
  rw [hpath] at hfound
  cases hfound
  obtain ⟨content, u, hcontent, h⟩ := outcome_bind_ok.mp h
  rw [outcome_readFile, hread] at hcontent
  cases hcontent
  obtain ⟨made, u, hmade, h⟩ := outcome_bind_ok.mp h
  rw [htable] at hmade
  cases hmade
  cases h
  rfl

/-- What a run over a table comes to. -/
theorem run_ok {text : Text} (hjob : job.Uses s table style template)
    (h : (job.run world).outcome s = (.ok text, t)) :
    ∃ reader, Reader.ofSetting style = .ok reader ∧ text = Documentation.render Documentation.standardIndent
      (Extractor.found ⟨table.source, reader, linkFallback template⟩ job.targets) := by
  obtain ⟨⟨settings, hsettings, rfl, rfl⟩, location, path, bytes, hlocation, hpath, hread, htable⟩ := hjob
  obtain ⟨chosen, u, hchosen, h⟩ := outcome_bind_ok.mp h
  rw [chosenSettings, hsettings] at hchosen
  cases hchosen
  obtain ⟨_, u, hnote, h⟩ := outcome_bind_ok.mp h
  cases hnote
  obtain ⟨e, u, hextractor, h⟩ := outcome_bind_ok.mp h
  obtain ⟨reader, hreader, rfl⟩ := extractor_ok hextractor hlocation hpath hread htable
  obtain ⟨docs, u, hdocs, h⟩ := outcome_bind_ok.mp h
  obtain rfl := Extractor.extractAll_ok (Extractor.extract_detached table reader _) hdocs
  refine ⟨reader, hreader, ?_⟩
  split at h
  · cases h
  · obtain ⟨_, u, -, h⟩ := outcome_bind_ok.mp h
    cases h
    rfl

/-- The classes in the texts of two runs over one table. Each text is that of a table with one entry for each of the
    targets that do not fail, in the order in which they first come, and the entry is what is made of that target alone;
    if the table is made of texts, it is what reading the text finds. So the same targets have the same entries, in
    whatever order and however often they come. -/
theorem run_classes (table : ClassTable) (style template : Value) (job job' : Job) (world world' : Live.World)
    (s s' t t' : Session) (text text' : Text) (hjob : job.Uses s table style template)
    (hjob' : job'.Uses s' table style template) (h : (job.run world).outcome s = (.ok text, t))
    (h' : (job'.run world').outcome s' = (.ok text', t')) :
    ∃ reader, Reader.ofSetting style = .ok reader ∧
      let e : Extractor := ⟨table.source, reader, linkFallback template⟩
      ∃ entries entries', e.Collects job.targets entries ∧ e.Collects job'.targets entries' ∧
        text = Json.render Documentation.standardIndent (.table [("classes", .table entries)]) ∧
        text' = Json.render Documentation.standardIndent (.table [("classes", .table entries')]) ∧
        (table.IsTextual → Json.parse text = some (.table [("classes", .table entries)])) ∧
        ((∀ target, target ∈ job.targets ↔ target ∈ job'.targets) →
          ∀ name, entries.lookup name = entries'.lookup name) := by
  obtain ⟨reader, hreader, rfl⟩ := run_ok hjob h
  obtain ⟨reader', hreader', rfl⟩ := run_ok hjob' h'
  rw [hreader] at hreader'
  cases hreader'
  refine ⟨reader, hreader, _, _, Extractor.collects_found _, Extractor.collects_found _, rfl, rfl, fun ht => ?_,
    fun hsame => (Extractor.collects_found _).lookup_congr (Extractor.collects_found _) hsame⟩
  exact Json.parse_of_isJson (Json.isJson_render (Documentation.textual_allValue
    (Extractor.isTextual_found rfl (Extractor.steadyFallback_link template) ht)))

/-- Two tools, one of which says nothing about its method. -/
def shop : List UInt8 :=
  Text.encode "[[classes.Tool.methods]]\nname = \"run\"\n[[classes.Saw.methods]]\nname = \"cut\"\ndoc = \"Cuts.\"\n"

/-- A run over the shop that leaves out what the shop does not have. -/
def shopJob (targets : List Text) : Job where
  targets
  settings := some { linkTemplate := .text "https://tools/\x7bid\x7d", keepGoing := .flag true }
  table := some (.file ⟨[], ["shop.toml"]⟩)

/-- A session with a file. -/
def shopSession (bytes : List UInt8) : Session := { files := ⟨[(["shop.toml"], .file bytes)]⟩ }

theorem read_shopSession (bytes : List UInt8) :
    (shopSession bytes).files.read ⟨[], ["shop.toml"]⟩ = .ok bytes := rfl

theorem uses_shop {table : ClassTable} (h : ClassTable.ofFile shop = .ok table) (targets : List Text) :
    (shopJob targets).Uses (shopSession shop) table (.text "epydoc") (.text "https://tools/\x7bid\x7d") where
  settings := ⟨_, rfl, rfl, rfl⟩
  table := ⟨_, _, shop, rfl, rfl, read_shopSession shop, h⟩

/-- The classes that a run over the shop has. -/
def shopKeys (targets : List Text) (table : ClassTable) : List Text :=
  (targets.filter
    (Extractor.succeeds ⟨table.source, .style .epydoc, linkFallback (.text "https://tools/\x7bid\x7d")⟩)).eraseDups

/-- The targets of a long list are those of a short one. -/
theorem run_classes_shop :
    ∃ table text text' t t',
      (shopJob ["Saw", "Axe", "Tool", "Saw"]).Uses (shopSession shop) table (.text "epydoc")
        (.text "https://tools/\x7bid\x7d") ∧
      ((shopJob ["Saw", "Axe", "Tool", "Saw"]).run .standard).outcome (shopSession shop) = (.ok text, t) ∧
      ((shopJob ["Tool", "Axe", "Saw"]).run .standard).outcome (shopSession shop) = (.ok text', t') ∧
      ∃ entries entries',
        text = Json.render Documentation.standardIndent (.table [("classes", .table entries)]) ∧
        text' = Json.render Documentation.standardIndent (.table [("classes", .table entries')]) ∧
        Ordered.keys entries = ["Saw".toList, "Tool".toList] ∧
        Ordered.keys entries' = ["Tool".toList, "Saw".toList] ∧
        ∀ name, entries.lookup name = entries'.lookup name := by
  obtain ⟨table, htable⟩ : ∃ table, ClassTable.ofFile shop = .ok table := isSome_toOption_iff.mp (by decide +kernel)
  obtain ⟨text, htext⟩ : ∃ text,
      (((shopJob ["Saw", "Axe", "Tool", "Saw"]).run .standard).outcome (shopSession shop)).1 = .ok text :=
    isSome_toOption_iff.mp (by decide +kernel)
  obtain ⟨text', htext'⟩ : ∃ text,
      (((shopJob ["Tool", "Axe", "Saw"]).run .standard).outcome (shopSession shop)).1 = .ok text :=
    isSome_toOption_iff.mp (by decide +kernel)
  have hkeys : (ClassTable.ofFile shop).toOption.map (shopKeys ["Saw", "Axe", "Tool", "Saw"]) =
      some ["Saw".toList, "Tool".toList] := by decide +kernel
  have hkeys' : (ClassTable.ofFile shop).toOption.map (shopKeys ["Tool", "Axe", "Saw"]) =
      some ["Tool".toList, "Saw".toList] := by decide +kernel
  rw [htable] at hkeys hkeys'
  obtain ⟨t, hrun⟩ := outcome_of_result htext
  obtain ⟨t', hrun'⟩ := outcome_of_result htext'
  have hjob := uses_shop htable
  obtain ⟨reader, hreader, entries, entries', hentries, hentries', hrender, hrender', -, hsame⟩ :=
    run_classes table _ _ _ _ _ _ _ _ _ _ text text' (hjob _) (hjob _) hrun hrun'
  have hstyle : Docblock.Style.named "epydoc" = .ok .epydoc := rfl
  rw [Reader.ofSetting, hstyle] at hreader
  cases hreader
  refine ⟨table, text, text', t, t', hjob _, hrun, hrun', entries, entries', hrender, hrender', ?_, ?_, hsame ?_⟩
  · exact hentries.keys.trans (Option.some.inj hkeys)
  · exact hentries'.keys.trans (Option.some.inj hkeys')
  · intro target
    simp only [shopJob, List.mem_cons, List.not_mem_nil, or_false]
    grind

end Job
end ApiDocs
