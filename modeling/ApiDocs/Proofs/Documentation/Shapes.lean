import ApiDocs.Documentation.Json
import ApiDocs.Proofs.Docblock.Summary
import ApiDocs.Proofs.Documentation.Targets

/-! The two shapes of the details of a method. With a summary the docblock gives everything but a link; without one the
    fallback gives a link, perhaps with a summary, and nothing else is said. Both shapes can be told apart in what is
    handed on: the link is there exactly if the visibility is not. -/

namespace ApiDocs

namespace Docblock

/-! ### Valid tags -/

/-- A tag that is invalid, not for a parameter, or for one that has an identifier as its name. -/
def Tag.Titled (tag : Tag) : Prop :=
  tag.valid = true → tag.kind.name = Kind.name .param → ∃ name, tag.param = some name ∧ Text.isIdentifier name = true

theorem Kind.name_returns_ne : Kind.name .returns ≠ Kind.name .param := by decide

theorem Kind.name_throws_ne : Kind.name .throws ≠ Kind.name .param := by decide

theorem Item.titled {item : Item} {tag : Tag} (h : item.tag? = some tag) : tag.Titled := by
  intro hvalid hkind
  cases item with
  | param name type desc =>
    cases h
    exact ⟨name, rfl, hvalid⟩
  | returns type desc generator =>
    cases generator with
    | true => cases h
    | false =>
      cases h
      exact absurd hkind Kind.name_returns_ne
  | raises type desc =>
    cases h
    exact absurd hkind Kind.name_throws_ne
  | other => cases h

theorem Piece.titled {piece : Piece} {tag : Tag} (h : tag ∈ piece.tags) : tag.Titled := by
  cases piece with
  | malformed chunk reason =>
    obtain rfl := List.mem_singleton.mp h
    intro hvalid
    cases hvalid
  | paramType names type => cases h
  | returnType type => cases h
  | items found =>
    obtain ⟨item, -, hitem⟩ := List.mem_filterMap.mp h
    exact Item.titled hitem

/-- The type of a tag says nothing about its name. -/
theorem Tag.titled_of_untyped {tag : Tag} (h : tag.untyped.Titled) : tag.Titled := h

theorem titled_tagsOf {items : List Item} {tag : Tag} (h : tag ∈ tagsOf items) : tag.Titled := by
  have hmem : tag.untyped ∈ items.filterMap Item.tag? := by
    have huntyped := Gathered.addItems_untyped {} items
    rw [List.map_nil, List.nil_append] at huntyped
    rw [← huntyped]
    exact List.mem_map_of_mem h
  obtain ⟨item, -, hitem⟩ := List.mem_filterMap.mp hmem
  exact Tag.titled_of_untyped (Item.titled hitem)

theorem titled_all {pieces : List Piece} {tag : Tag} (h : tag ∈ (gather pieces).all) : tag.Titled := by
  rcases List.mem_append.mp h with h | h
  · have hmem : tag.untyped ∈ pieces.flatMap Piece.tags := by
      rw [← gather_untyped]
      exact List.mem_map_of_mem h
    obtain ⟨piece, -, htag⟩ := List.mem_flatMap.mp hmem
    exact Tag.titled_of_untyped (Piece.titled htag)
  · -- What is left of the types of what is returned makes no tags for parameters.
    obtain ⟨type, -, rfl⟩ := List.mem_map.mp h
    exact fun _ hkind => absurd hkind Kind.name_returns_ne

theorem titled_readWhole {style : Style} {text : Text} {docblock : Docblock} (h : readWhole style text = .ok docblock)
    {tag : Tag} (ht : tag ∈ docblock.tags) : tag.Titled := by
  rw [readWhole] at h
  cases hread : style.read text with
  | error fault =>
    rw [hread] at h
    cases h
  | ok outline =>
    rw [hread] at h
    cases h
    exact titled_tagsOf ht

theorem titled_readComment {style : Style} {comment : Text} {docblock : Docblock}
    (h : (readComment style comment).outcome = .ok docblock) {tag : Tag} (ht : tag ∈ docblock.tags) : tag.Titled := by
  unfold readComment at h
  simp only at h
  split at h
  · cases h
    cases ht
  · split at h
    · exact titled_readWhole h ht
    · split at h
      · exact titled_readWhole h ht
      · obtain ⟨-, htags⟩ := tags_of_readTagged h
        exact titled_all (htags ▸ ht)

end Docblock

/-- However comments are read, a valid tag for a parameter has an identifier as its name. -/
theorem Reader.titled_reading {reader : Reader} {comment : Value} {docblock : Docblock}
    (h : (reader.reading comment).outcome = .ok docblock) {tag : Docblock.Tag} (ht : tag ∈ docblock.tags) :
    tag.Titled := by
  unfold reading at h
  split at h
  · split at h
    · split at h
      · exact Docblock.titled_readComment h ht
      · split at h
        · cases h
          cases ht
        · split at h <;> cases h
    · cases h
  · cases h
    cases ht

/-! ### The shapes -/

/-- A parameter in short. -/
def Parameter.inShort (parameter : Parameter) : Text := parameter.type ++ " " ++ parameter.name

/-- A parameter with a type and with an identifier behind the dollar sign. -/
def Parameter.Named (parameter : Parameter) : Prop :=
  parameter.type ≠ [] ∧ ∃ name, Text.isIdentifier name = true ∧ parameter.name = '$' :: name

namespace Detail

/-- Details from a docblock: all but the link is there, every type is given, and each parameter stands in short where it
    stands in full. -/
structure Documented (detail : Detail) : Prop where
  short : ∃ summary, detail.short = some summary ∧ summary ≠ []
  long : ∃ description, detail.long = some description
  parameters : ∃ parameters, detail.parameters = some parameters ∧ (∀ p ∈ parameters, p.Named) ∧
    detail.arguments = parameters.map Parameter.inShort
  returns : ∃ data, detail.returns = some data ∧ ∀ datum ∈ data, datum.type ≠ []
  throws : ∃ data, detail.throws = some data ∧ ∀ datum ∈ data, datum.type ≠ []
  visibility : ∃ visibility, detail.visibility = some visibility
  link : detail.link = none

/-- Details from the fallback: nothing is there but a link and perhaps a summary. -/
structure Suggested (detail : Detail) : Prop where
  long : detail.long = none
  arguments : detail.arguments = []
  parameters : detail.parameters = none
  returns : detail.returns = none
  throws : detail.throws = none
  visibility : detail.visibility = none
  link : ∃ link, detail.link = some link

theorem Documented.not_suggested {detail : Detail} (h : detail.Documented) : ¬detail.Suggested := by
  intro hs
  obtain ⟨link, hlink⟩ := hs.link
  rw [h.link] at hlink
  cases hlink

theorem typeOf_ne_nil (tag : Docblock.Tag) : typeOf tag ≠ [] := by
  unfold typeOf
  split
  · exact List.cons_ne_nil _ _
  · exact List.cons_ne_nil _ _

theorem type_ne_nil_of_mem_data {tags : List Docblock.Tag} {datum : Datum} (h : datum ∈ data tags) :
    datum.type ≠ [] := by
  obtain ⟨tag, -, rfl⟩ := List.mem_map.mp h
  exact typeOf_ne_nil tag

theorem documented_ofDocblock (method : Method) {docblock : Docblock} (hsummary : docblock.summary ≠ [])
    (htags : ∀ tag ∈ docblock.tags, tag.Titled) : (ofDocblock method docblock).Documented where
  short := ⟨docblock.summary, rfl, hsummary⟩
  long := ⟨docblock.description, rfl⟩
  parameters := by
    refine ⟨_, rfl, fun p hp => ?_, ?_⟩
    · obtain ⟨tag, htag, rfl⟩ := List.mem_map.mp hp
      obtain ⟨hkind, hvalid⟩ := List.mem_filter.mp htag
      obtain ⟨hmem, hname⟩ := List.mem_filter.mp hkind
      obtain ⟨name, hparam, hidentifier⟩ := htags tag hmem hvalid (beq_iff_eq.mp hname)
      refine ⟨typeOf_ne_nil tag, name, hidentifier, ?_⟩
      show nameOf tag = '$' :: name
      rw [nameOf, hparam, Option.getD_some]
    · rw [List.map_map]
      rfl
  returns := ⟨_, rfl, fun _ => type_ne_nil_of_mem_data⟩
  throws := ⟨_, rfl, fun _ => type_ne_nil_of_mem_data⟩
  visibility := ⟨method.visibility, rfl⟩
  link := rfl

theorem suggested_ofSuggestion (suggestion : Suggestion) : (ofSuggestion suggestion).Suggested :=
  ⟨rfl, rfl, rfl, rfl, rfl, rfl, ⟨suggestion.link, rfl⟩⟩

end Detail

/-! ### What is handed on -/

/-- Plain data with a member of a name. -/
def Value.HasMember (value : Value) (name : Text) : Prop := ∃ members, value = .table members ∧ name ∈ Ordered.keys members

/-- Plain data that says null under a name. -/
def Value.SaysNull (value : Value) (name : Text) : Prop :=
  ∃ members, value = .table members ∧ members.lookup name = some .null

namespace Detail

theorem hasMember_doclink (detail : Detail) : detail.toValue.HasMember "doclink" ↔ detail.link ≠ none := by
  have hkeys : ∀ members, detail.toValue = .table members → Ordered.keys members =
      (["shortDescription", "longDescription", "argumentsList", "argumentsDescription", "returnValue",
        "throwsExceptions", "visibility"] : List Text) ++ detail.link.toList.map fun _ => "doclink".toList := by
    intro members h
    cases h
    rw [Ordered.keys, List.map_append, List.map_map]
    rfl
  constructor
  · rintro ⟨members, hmembers, hmem⟩ hlink
    rw [hkeys members hmembers, hlink] at hmem
    exact absurd hmem (by decide)
  · intro hlink
    obtain ⟨link, hlink⟩ := Option.ne_none_iff_exists'.mp hlink
    refine ⟨_, rfl, ?_⟩
    rw [hkeys _ rfl, hlink]
    exact List.mem_append_right _ List.mem_cons_self

theorem saysNull_visibility (detail : Detail) : detail.toValue.SaysNull "visibility" ↔ detail.visibility = none := by
  have hlookup : ∀ members, detail.toValue = .table members →
      members.lookup "visibility".toList = some (.ofText? detail.visibility) := by
    intro members h
    cases h
    rfl
  constructor
  · rintro ⟨members, hmembers, hnull⟩
    rw [hlookup members hmembers] at hnull
    cases hvisibility : detail.visibility with
    | none => rfl
    | some visibility =>
      rw [hvisibility] at hnull
      cases hnull
  · intro hvisibility
    refine ⟨_, rfl, ?_⟩
    rw [hlookup _ rfl, hvisibility]
    rfl

end Detail

/-! ### Methods -/

namespace Extractor

/-- Once the comment of a method is read, its details are made unless the fallback has to be asked and fails. They come
    from the docblock exactly if that has a summary, and from the fallback exactly if it has none; and in what is handed
    on there is a link exactly if there is no visibility. -/
theorem detail_shapes (e : Extractor) (method : Method) (docblock : Docblock)
    (hread : (e.reader.reading method.comment).outcome = .ok docblock) (s : Session) :
    ((∃ detail t, (e.detail method).outcome s = (.ok detail, t)) ↔
      (docblock.summary = [] →
        ∃ suggestion t, (e.fallback method.id).outcome (e.asking method s) = (.ok suggestion, t))) ∧
    ∀ detail t, (e.detail method).outcome s = (.ok detail, t) →
      (detail.Documented ↔ docblock.summary ≠ []) ∧ (detail.Suggested ↔ docblock.summary = []) ∧
      (detail.toValue.HasMember "doclink" ↔ detail.toValue.SaysNull "visibility") := by
  have houtcome := e.outcome_detail hread s
  by_cases hempty : docblock.summary = []
  · rw [if_pos hempty, Act.outcome_map] at houtcome
    rcases hfallback : (e.fallback method.id).outcome (e.asking method s) with ⟨fault | suggestion, u⟩
    · rw [hfallback] at houtcome
      simp [houtcome, hempty, Except.map]
    · rw [hfallback] at houtcome
      refine ⟨by simp [houtcome, Except.map], fun detail t h => ?_⟩
      rw [houtcome] at h
      cases h
      have hshape := Detail.suggested_ofSuggestion suggestion
      refine ⟨iff_of_false (fun hd => hd.not_suggested hshape) (fun hne => hne hempty), iff_of_true hshape hempty, ?_⟩
      rw [Detail.hasMember_doclink, Detail.saysNull_visibility]
      exact iff_of_true (Option.some_ne_none _) rfl
  · rw [if_neg hempty] at houtcome
    refine ⟨by simp [houtcome, hempty], fun detail t h => ?_⟩
    rw [houtcome] at h
    cases h
    have hshape := Detail.documented_ofDocblock method hempty fun tag ht => Reader.titled_reading hread ht
    refine ⟨iff_of_true hshape hempty, iff_of_false hshape.not_suggested hempty, ?_⟩
    rw [Detail.hasMember_doclink, Detail.saysNull_visibility]
    exact iff_of_false (fun hne => hne rfl) (Option.some_ne_none _)

/-- A method with a parameter whose name is none. -/
def sawing : Method where
  name := .text "saw"
  owner := "Saw"
  comment := .text "Saws.\n\n@param board: what\n@type board: Wood\n@param x?: nothing\n@return: dust"

/-- The docblock of sawing. -/
def sawingDocblock : Docblock where
  summary := "Saws."
  tags := [{ kind := .param, type := some "Wood", param := some "board", desc := "what" },
    { kind := .param, param := some "x?", desc := "nothing", valid := false }, { kind := .returns, desc := "dust" }]

/-- A method about which nothing is said. -/
def cutting : Method where
  name := .text "cut"
  owner := "Saw"

theorem detail_shapes_bench :
    (benchExtractor.reader.reading sawing.comment).outcome = .ok sawingDocblock ∧
    (benchExtractor.reader.reading cutting.comment).outcome = .ok {} ∧
    (∃ detail t, (benchExtractor.detail sawing).outcome {} = (.ok detail, t) ∧ detail.Documented) ∧
    ∃ detail t, (benchExtractor.detail cutting).outcome {} = (.ok detail, t) ∧ detail.Suggested ∧
      detail.toValue.HasMember "doclink" := by
  have hsawing : (benchExtractor.reader.reading sawing.comment).outcome = .ok sawingDocblock := by decide
  have hcutting : (benchExtractor.reader.reading cutting.comment).outcome = .ok {} := rfl
  obtain ⟨hmade, hshape⟩ := detail_shapes benchExtractor sawing sawingDocblock hsawing {}
  obtain ⟨detail, t, hdetail⟩ := hmade.mpr fun hempty => absurd hempty (List.cons_ne_nil _ _)
  obtain ⟨hmade', hshape'⟩ := detail_shapes benchExtractor cutting {} hcutting {}
  have hlink : ((benchExtractor.fallback cutting.id).outcome (benchExtractor.asking cutting {})).1.toOption =
      some ⟨none, "https://tools/Saw.cut"⟩ := by decide +kernel
  obtain ⟨t', hlink⟩ := Act.exists_outcome_of_toOption hlink
  obtain ⟨detail', u, hdetail'⟩ := hmade'.mpr fun _ => ⟨_, t', hlink⟩
  obtain ⟨-, hsuggested, hdoclink⟩ := hshape' detail' u hdetail'
  have hshaped := hsuggested.mpr rfl
  refine ⟨hsawing, hcutting, ⟨detail, t, hdetail, ?_⟩, detail', u, hdetail', hshaped, ?_⟩
  · exact (hshape detail t hdetail).1.mpr (List.cons_ne_nil _ _)
  · exact hdoclink.mpr ((Detail.saysNull_visibility detail').mpr hshaped.visibility)

end Extractor
end ApiDocs
