import ApiDocs.Proofs.Docblock.Summary
import ApiDocs.Proofs.Documentation.Locality
import ApiDocs.Proofs.Documentation.Methods

/-! For which methods the fallback is asked when a class is documented. Each method whose details are made is looked at
    once, in the order in which it is declared: first those of the parent, then those of the class under names that the
    parent does not have. The fallback is asked about each of them that has no summary, and about no other. -/

namespace ApiDocs

/-! ### Ids that are asked for -/

namespace Act
variable {α β : Type}

/-- Work that asks for some ids, one after the other, if it ends well. -/
def Asks (act : Act α) (ids : List Text) : Prop :=
  ∀ s a t, act.outcome s = (.ok a, t) → t.asked = s.asked ++ ids

theorem asks_ofExcept (x : Except Fault α) : (ofExcept x).Asks [] := by
  intro s a t h
  rw [outcome_ofExcept] at h
  cases h
  rw [List.append_nil]

theorem asks_pure (a : α) : (pure a : Act α).Asks [] := asks_ofExcept (.ok a)

theorem asks_throw (fault : Fault) (ids : List Text) : (throw fault : Act α).Asks ids := by
  intro s a t h
  cases h

theorem asks_note (notes : List Note) : (note notes).Asks [] := by
  intro s a t h
  cases h
  rw [List.append_nil]

theorem Asks.bind {act : Act α} {next : α → Act β} {ids ids' : List Text} (h : act.Asks ids)
    (hn : ∀ a, (next a).Asks ids') : (act >>= next).Asks (ids ++ ids') := by
  intro s b t houtcome
  obtain ⟨a, u, hact, hnext⟩ := outcome_bind_ok.mp houtcome
  rw [hn a u b t hnext, h s a u hact, List.append_assoc]

theorem Asks.map {act : Act α} {ids : List Text} (h : act.Asks ids) (f : α → β) : (f <$> act).Asks ids := by
  intro s b t houtcome
  rw [map_eq_pure_bind] at houtcome
  obtain ⟨a, u, hact, hpure⟩ := outcome_bind_ok.mp houtcome
  cases hpure
  exact h s a _ hact

end Act

theorem Reader.read_asks (reader : Reader) (comment : Value) : (reader.read comment).Asks [] :=
  (Act.asks_note _).bind fun _ => Act.asks_ofExcept _

theorem linkFallback_asks (template : Value) (id : Text) : (linkFallback template id).Asks [] :=
  (Act.asks_ofExcept _).bind fun _ => Act.asks_pure _

/-- Whether a method has a docblock without a summary. -/
def Reader.isSilent (reader : Reader) (method : Method) : Bool :=
  match (reader.reading method.comment).outcome with
  | .ok docblock => docblock.summary.isEmpty
  | .error _ => false

namespace Extractor
variable {e : Extractor}

/-- The ids of those of some methods that have no summary. -/
def silentIds (e : Extractor) (methods : List Method) : List Text := (methods.filter e.reader.isSilent).map (·.id)

theorem silentIds_cons (method : Method) (rest : List Method) :
    e.silentIds (method :: rest) = e.silentIds [method] ++ e.silentIds rest := by
  rw [silentIds, silentIds, silentIds, ← List.map_append, ← List.filter_append, List.singleton_append]

theorem detail_asks (hf : ∀ id, (e.fallback id).Asks []) (method : Method) :
    (e.detail method).Asks (e.silentIds [method]) := by
  intro s detail t h
  cases hread : (e.reader.reading method.comment).outcome with
  | error fault =>
    -- A comment that cannot be read has no details.
    obtain ⟨docblock, u, hdocblock, -⟩ := Act.outcome_bind_ok.mp h
    obtain ⟨_, v, -, hdocblock⟩ := Act.outcome_bind_ok.mp hdocblock
    rw [hread, Act.outcome_ofExcept] at hdocblock
    cases hdocblock
  | ok docblock =>
    have hsilent : e.reader.isSilent method = docblock.summary.isEmpty := by rw [Reader.isSilent, hread]
    rw [e.outcome_detail hread] at h
    split at h
    · rename_i hempty
      have hids : e.silentIds [method] = [method.id] := by
        rw [silentIds, List.filter_cons_of_pos (by rw [hsilent, hempty]; rfl), List.filter_nil, List.map_singleton]
      rw [(hf method.id).map Detail.ofSuggestion _ _ _ h, hids, List.append_nil]
      rfl
    · rename_i hne
      have hids : e.silentIds [method] = [] := by
        rw [silentIds, List.filter_cons_of_neg (by rw [hsilent, List.isEmpty_iff]; exact hne), List.filter_nil,
          List.map_nil]
      cases h
      rw [hids]
      rfl

/-- The methods whose names are not among some details. -/
def newTo (details : Details) (methods : List Method) : List Method := methods.filter fun m => !details.has m.name

section Collect
variable (hf : ∀ id, (e.fallback id).Asks [])
include hf

theorem collect_asks (methods : List Method) (found : Details) :
    (e.collect found methods).Asks (e.silentIds methods) := by
  induction methods generalizing found with
  | nil => exact Act.asks_pure found
  | cons method rest ih =>
    rw [silentIds_cons]
    refine (detail_asks hf method).bind fun detail => ?_
    split
    · exact ih _
    · exact Act.asks_throw _ _

theorem collectOwn_asks (inherited : Details) (methods : List Method) (found : Details) :
    (e.collectOwn inherited found methods).Asks (e.silentIds (newTo inherited methods)) := by
  induction methods generalizing found with
  | nil => exact Act.asks_pure found
  | cons method rest ih =>
    rw [collectOwn]
    split
    · exact Act.asks_throw _ _
    · split
      · rename_i hhas
        rw [newTo, List.filter_cons_of_neg (by simp [hhas])]
        exact ih found
      · rename_i hnew
        rw [newTo, List.filter_cons_of_pos (by simp [hnew]), silentIds_cons]
        exact (detail_asks hf method).bind fun detail => ih _

end Collect

end Extractor

/-! ### Tables -/

namespace ClassTable
variable {table : ClassTable}

/-- The parent that a class names. -/
def parentName? (table : ClassTable) (name : Text) : Option Text := (table.lookup name).bind (·.parent.text?)

theorem owner_of_ofValue {name : Text} {data : Value} {record : ClassRecord}
    (h : ClassRecord.ofValue name data = .ok record) {m : Method} (hm : m ∈ record.methods) : m.owner = name := by
  cases data with
  | table entries =>
    obtain ⟨elements, -, h⟩ := bind_eq_ok.mp h
    obtain ⟨methods, hmethods, h⟩ := bind_eq_ok.mp h
    obtain ⟨interfaces, -, h⟩ := bind_eq_ok.mp h
    cases h
    obtain ⟨element, -, hread⟩ := of_mem_mapM hmethods hm
    unfold ClassRecord.readMethod at hread
    split at hread
    · split at hread
      · cases hread
      · cases hread
        rfl
    · cases hread
  | _ => cases h

/-- In a table that is made from data each method belongs to the class under which it stands. -/
theorem owner_declared {data : Value} (hmade : ofValue data = .ok table) {name : Text} {m : Method}
    (hm : m ∈ table.declared name) : m.owner = name := by
  rw [declared, lookup_of_ofValue hmade] at hm
  cases hraw : recordIn data name with
  | none => simp [hraw] at hm
  | some raw =>
    cases hrecord : ClassRecord.ofValue name raw with
    | error fault => simp [hraw, hrecord, Except.toOption] at hm
    | ok record => exact owner_of_ofValue hrecord (by simpa [hraw, hrecord, Except.toOption] using hm)

theorem parentDeclared_eq (table : ClassTable) (name : Text) :
    table.parentDeclared name = (table.parentName? name).toList.flatMap table.declared := by
  rw [parentDeclared, parentName?]
  cases (table.lookup name).bind (·.parent.text?) with
  | none => rfl
  | some parent => exact (List.flatMap_singleton _ _).symm

end ClassTable

namespace Extractor
variable (table : ClassTable) (reader : Reader) (template : Value) (target : Text)

theorem fallback_asks (id : Text) : (fallback ⟨table.source, reader, linkFallback template⟩ id).Asks [] :=
  linkFallback_asks template id

theorem inherited_asks :
    (inherited ⟨table.source, reader, linkFallback template⟩ target).Asks
      (silentIds ⟨table.source, reader, linkFallback template⟩ (table.parentDeclared target)) := by
  intro s details t h
  obtain ⟨parent, u, hp, h⟩ := Act.outcome_bind_ok.mp h
  have hu : u.asked = s.asked := (Act.asks_ofExcept _ _ _ _ hp).trans (List.append_nil _)
  obtain ⟨record, hl, rfl⟩ := ClassTable.outcome_record hp
  cases hparent : record.parent with
  | null =>
    have hnone : table.parentDeclared target = [] := by simp [ClassTable.parentDeclared, hl, hparent, Value.text?]
    rw [hparent] at h
    cases h
    rw [hnone, hu, silentIds, List.filter_nil, List.map_nil, List.append_nil]
  | text name =>
    have hdeclared : table.parentDeclared target = table.declared name := by
      simp [ClassTable.parentDeclared, hl, hparent, Value.text?]
    rw [hparent] at h
    obtain ⟨methods, v, hm, h⟩ := Act.outcome_bind_ok.mp h
    have hv := Act.asks_ofExcept _ _ _ _ hm
    obtain rfl := ClassTable.outcome_methods hm
    have hcollect := collect_asks (fallback_asks table reader template) (table.declared name) []
    rw [(hcollect.bind fun found => Act.asks_ofExcept found.sort) v details t h, hv, hu, hdeclared, List.append_nil,
      List.append_nil]
  | _ =>
    rw [hparent] at h
    cases h

theorem ownMethods_asks (inherited : Details) :
    (ownMethods ⟨table.source, reader, linkFallback template⟩ inherited target).Asks
      (silentIds ⟨table.source, reader, linkFallback template⟩ (newTo inherited (table.declared target))) := by
  intro s details t h
  obtain ⟨methods, u, hm, h⟩ := Act.outcome_bind_ok.mp h
  have hu := Act.asks_ofExcept _ _ _ _ hm
  obtain rfl := ClassTable.outcome_methods hm
  rw [collectOwn_asks (fallback_asks table reader template) inherited _ [] u details t h, hu, List.append_nil]

theorem description_asks : (description ⟨table.source, reader, linkFallback template⟩ target).Asks [] :=
  (Act.asks_ofExcept _).bind fun _ => (reader.read_asks _).bind fun _ => Act.asks_pure _

/-- The names that are new to what is inherited are those that the parent does not declare. -/
theorem newTo_inherited {table : ClassTable} {target : Text} {e : Extractor} (ht : table.HasTitles)
    {entries : List (Text × Detail)} (h : e.Lists (table.parentDeclared target) entries) :
    newTo (.named (entries.mergeSort Details.nameLe)) (table.declared target) =
      (table.declared target).filter fun m => !((table.parentDeclared target).map (·.title)).contains m.title := by
  refine List.filter_congr fun m hm => ?_
  rw [Method.name_eq_text (ClassTable.mem_declared ht target m hm), Bool.not_inj_iff, Bool.eq_iff_iff, Details.has_named,
    Details.mem_keys_mergeSort, h.keys, List.mem_eraseDups, List.contains_iff_mem]

/-- The ids of those methods of a class that have no summary, where the methods belong to the class. -/
theorem silentIds_eq {e : Extractor} {owner : Text} {methods : List Method}
    (ht : ∀ m ∈ methods, ∃ name, m.name = .text name) (howner : ∀ m ∈ methods, m.owner = owner) :
    e.silentIds methods = (methods.filter e.reader.isSilent).map fun m => owner ++ "." ++ m.title := by
  refine List.map_congr_left fun m hm => ?_
  have hmem := (List.mem_filter.mp hm).1
  rw [Method.id, howner m hmem, Method.name_eq_text (ht m hmem)]
  rfl

theorem silentIds_parent {table : ClassTable} {target : Text} {e : Extractor} {data : Value}
    (hmade : ClassTable.ofValue data = .ok table) (ht : table.HasTitles) :
    e.silentIds (table.parentDeclared target) = (table.parentName? target).toList.flatMap fun parent =>
      ((table.declared parent).filter e.reader.isSilent).map fun m => parent ++ "." ++ m.title := by
  rw [ClassTable.parentDeclared_eq]
  cases table.parentName? target with
  | none => rfl
  | some parent =>
    rw [Option.toList_some, List.flatMap_singleton, List.flatMap_singleton]
    exact silentIds_eq (ClassTable.mem_declared ht parent) fun m => ClassTable.owner_declared hmade

/-- All that follows the inherited methods when a class is documented. -/
theorem rest_asks (inherited : Details) :
    Act.Asks (do
      let e : Extractor := ⟨table.source, reader, linkFallback template⟩
      let description ← e.description target
      let parent ← e.parent target
      let interfaces ← e.interfaces target
      let methods ← e.ownMethods inherited target
      return ({ name := target, description, parent, interfaces, methods, inherited } : Documentation))
      (silentIds ⟨table.source, reader, linkFallback template⟩ (newTo inherited (table.declared target))) := by
  have hrest := (description_asks table reader template target).bind fun description =>
    (Act.asks_ofExcept ((table.record target).map (·.parent))).bind fun parent =>
      (Act.asks_ofExcept ((table.record target).map (·.interfaces))).bind fun interfaces =>
        (ownMethods_asks table reader template target inherited).bind fun methods =>
          Act.asks_pure ({ name := target, description, parent, interfaces, methods, inherited } : Documentation)
  rw [List.append_nil] at hrest
  exact hrest

/-- The fallback is asked, in the order in which methods are declared, about those of the parent and then about those of
    the class under names that the parent does not declare, each time about the ones without a summary and no others. -/
theorem extract_asks (data : Value) (table : ClassTable) (hmade : ClassTable.ofValue data = .ok table)
    (ht : table.HasTitles) (reader : Reader) (template : Value) (target : Text) (s t : Session) (doc : Documentation)
    (h : (extract ⟨table.source, reader, linkFallback template⟩ target).outcome s = (.ok doc, t)) :
    t.asked = s.asked ++
      ((table.parentName? target).toList.flatMap fun parent =>
        ((table.declared parent).filter reader.isSilent).map fun m => parent ++ "." ++ m.title) ++
      (((table.declared target).filter fun m =>
        !((table.parentDeclared target).map (·.title)).contains m.title).filter reader.isSilent).map
          fun m => target ++ "." ++ m.title := by
  obtain ⟨inherited, u, hinherited, h⟩ := Act.outcome_bind_ok.mp h
  obtain ⟨entries, hentries, rfl⟩ := inherited_ok rfl (steadyFallback_link template) ht hinherited
  have hnew := newTo_inherited ht hentries
  rw [rest_asks table reader template target _ u doc t h, inherited_asks table reader template target s _ u hinherited,
    hnew, silentIds_parent hmade ht, silentIds_eq]
  · exact fun m hm => ClassTable.mem_declared ht target m (List.mem_filter.mp hm).1
  · exact fun m hm => ClassTable.owner_declared hmade (List.mem_filter.mp hm).1

/-- A tool that declares a method twice, and a saw that declares one of the tool's methods and twice one of its own. -/
def crate : Value := .table [
  ("Tool", .table [("methods", .list [
    .table [("name", .text "hum")],
    .table [("name", .text "run"), ("doc", .text "Runs.")],
    .table [("name", .text "stop")],
    .table [("name", .text "hum"), ("doc", .text " ")]])]),
  ("Saw", .table [("parent", .text "Tool"), ("methods", .list [
    .table [("name", .text "cut")],
    .table [("name", .text "run")],
    .table [("name", .text "bend"), ("doc", .text "Bends.")],
    .table [("name", .text "cut")]])])]

/-- What is in the crate. -/
def crated : ClassTable :=
  [("Tool", { methods := [
      { name := .text "hum", owner := "Tool" },
      { name := .text "run", owner := "Tool", comment := .text "Runs." },
      { name := .text "stop", owner := "Tool" },
      { name := .text "hum", owner := "Tool", comment := .text " " }] }),
    ("Saw", { parent := .text "Tool", methods := [
      { name := .text "cut", owner := "Saw" },
      { name := .text "run", owner := "Saw" },
      { name := .text "bend", owner := "Saw", comment := .text "Bends." },
      { name := .text "cut", owner := "Saw" }] })]

theorem exists_extract_crated :
    ∃ doc t, (extract ⟨crated.source, .style .epydoc, linkFallback (.text "https://tools")⟩ "Saw").outcome {} =
      (.ok doc, t) := by
  let found : List (Text × Detail) :=
    [("hum", .ofSuggestion ⟨none, "https://tools"⟩), ("run", summarized "Runs."),
      ("stop", .ofSuggestion ⟨none, "https://tools"⟩)]
  have hsort : Details.sort (.named found) = .ok (.named found) := by
    rw [Details.sort_named, List.mergeSort_of_pairwise (by decide)]
  obtain ⟨t, hcollect⟩ : ∃ t, (collect ⟨crated.source, .style .epydoc, linkFallback (.text "https://tools")⟩ []
      (crated.declared "Tool")).outcome {} = (.ok (.named found), t) :=
    Act.outcome_of_result (by with_unfolding_all rfl)
  have hinherited : (inherited ⟨crated.source, .style .epydoc, linkFallback (.text "https://tools")⟩ "Saw").outcome {} =
      (.ok (.named found), t) := by
    show (collect ⟨crated.source, .style .epydoc, linkFallback (.text "https://tools")⟩ [] (crated.declared "Tool") >>=
      fun details => Act.ofExcept details.sort).outcome {} = _
    rw [Act.outcome_bind, hcollect]
    simp only [hsort, Act.outcome_ofExcept]
  rw [extract, Act.outcome_bind, hinherited]
  exact ⟨_, _, by with_unfolding_all rfl⟩

theorem extract_asks_crated :
    ClassTable.ofValue crate = .ok crated ∧ crated.HasTitles ∧ ∃ doc t,
      (extract ⟨crated.source, .style .epydoc, linkFallback (.text "https://tools")⟩ "Saw").outcome {} = (.ok doc, t) ∧
      t.asked = ["Tool.hum", "Tool.stop", "Tool.hum", "Saw.cut", "Saw.cut"].map String.toList := by
  have htitles : crated.HasTitles := by simp [crated, ClassTable.HasTitles]
  obtain ⟨doc, t, h⟩ := exists_extract_crated
  refine ⟨rfl, htitles, doc, t, h, ?_⟩
  rw [extract_asks crate crated rfl htitles _ _ _ _ _ _ h]
  decide +kernel

end Extractor
end ApiDocs
