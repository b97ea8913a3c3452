import ApiDocs.Proofs.Docblock.Spelling

/-! What becomes of tags whose word is known. A chunk that cannot be read is set aside as a tag that is not valid; but a
    chunk that can be read may make no tag of the kind that its word stands for, and nothing tells of it. Whether it
    does is decided by the words and forms that a style has of its own, as they are written there, and not by those that
    are known. -/

namespace ApiDocs.Docblock

/-- A chunk with a word that stands for a kind of tag, other than the words for types. -/
structure Piece.Known (kind : Kind) (chunk : Text) : Prop where
  word : Kind.words.lookup (key chunk) = some kind
  not_type : key chunk ≠ "type".toList
  not_rtype : key chunk ≠ "rtype".toList

namespace Style

/-- Some tags give one of a kind, or one that is not valid. -/
def Gives (style : Style) (kind : Kind) (tags : List Text) : Prop :=
  match style with
  | .epydoc => Epydoc.Gives kind tags
  | .rest => Rest.Gives kind tags
  | _ => False

/-- A chunk has a header for a kind of tag as the style spells it, in the epydoc style without any other colon. -/
def Spells (style : Style) (kind : Kind) (chunk : Text) : Prop :=
  match style with
  | .epydoc => Epydoc.Spells kind (Piece.header chunk).1 ∧ chunk.count ':' = 1
  | .rest => ∃ word args, (Piece.header chunk).1 = word :: args ∧ word ∈ Rest.wordsOf kind
  | _ => False

variable {style : Style} {marker : Char} {kind : Kind} {chunk : Text}

theorem read_shows_iff (hm : style.marker? = some marker) {outline : Outline} (h : style.read chunk = .ok outline) :
    (∃ item ∈ outline.items, item.Shows kind) ↔ style.Gives kind (revealed marker chunk) := by
  cases style <;> cases hm
  · exact Epydoc.read_shows_iff (mapError_eq_ok.mp h)
  · exact Rest.read_shows_iff h

theorem gives_of_spells (hm : style.marker? = some marker) {s : Text} {outline : Outline}
    (h : style.read (marker :: s) = .ok outline) (hs : style.Spells kind (marker :: s)) :
    style.Gives kind (revealed marker (marker :: s)) := by
  cases style <;> cases hm
  · exact Epydoc.gives_of_header (mapError_eq_ok.mp h) hs.1 (by simpa using hs.2)
  · obtain ⟨word, args, hw, hk⟩ := hs
    exact Rest.gives_of_header h hw hk

/-- What a chunk with a known word adds, if it does not stop the reading. -/
theorem tags_cases (hknown : Piece.Known kind chunk) (hp : ∃ piece, Piece.read style chunk = .ok piece) :
    (style.rejects chunk = true ∧ style.tags chunk = [Tag.malformed chunk]) ∨
    (style.rejects chunk = false ∧ ∃ outline, style.read chunk = .ok outline ∧
      style.tags chunk = outline.items.filterMap Item.tag?) := by
  obtain ⟨piece, hp⟩ := hp
  rw [Piece.read] at hp
  cases hr : style.read chunk with
  | ok outline =>
    have hread : Piece.read style chunk = .ok (.items outline.items) := by
      rw [Piece.read, hr]
      simp only [Piece.ofChunk, if_neg hknown.not_type, if_neg hknown.not_rtype]
    exact Or.inr ⟨by simp [rejects, hr], outline, rfl, by rw [tags, given, hread]; rfl⟩
  | error fault =>
    cases fault with
    | malformed reason =>
      have hread : Piece.read style chunk = .ok (.malformed chunk reason) := by rw [Piece.read, hr]
      exact Or.inl ⟨by simp [rejects, hr, Fault.isMalformed], by rw [tags, given, hread]; rfl⟩
    | _ =>
      rw [hr] at hp
      cases hp

/-- A chunk with a known word shows its kind exactly if it is rejected or the tags in it give that kind. -/
theorem tags_show_iff (hm : style.marker? = some marker) (hknown : Piece.Known kind chunk)
    (hp : ∃ piece, Piece.read style chunk = .ok piece) :
    Shows kind (style.tags chunk) ↔ style.rejects chunk = true ∨ style.Gives kind (revealed marker chunk) := by
  rcases tags_cases hknown hp with ⟨hr, ha⟩ | ⟨hr, outline, hread, ha⟩
  · exact iff_of_true ⟨Tag.malformed chunk, by simp [ha], Or.inr rfl⟩ (Or.inl hr)
  · rw [ha, shows_filterMap_iff, read_shows_iff hm hread, hr]
    simp

theorem tags_show_of_spells (hm : style.marker? = some marker) {s : Text} (hknown : Piece.Known kind (marker :: s))
    (hp : ∃ piece, Piece.read style (marker :: s) = .ok piece) (hs : style.Spells kind (marker :: s)) :
    Shows kind (style.tags (marker :: s)) := by
  refine (tags_show_iff hm hknown hp).mpr ?_
  rcases tags_cases hknown hp with ⟨hr, -⟩ | ⟨-, outline, hread, -⟩
  · exact Or.inl hr
  · exact Or.inr (gives_of_spells hm hread hs)

end Style

/-- But for their types, the tags of a comment are those that its chunks add, one chunk after the other, and one for
    each type of what is returned that waits to the end. -/
theorem tags_of_readComment {style : Style} {marker : Char} (hm : style.marker? = some marker) {comment : Text}
    {docblock : Docblock} (h : (readComment style comment).outcome = .ok docblock)
    (hne : (parts marker comment).2 ≠ []) :
    ∃ waiting, docblock.tags.map Tag.untyped =
      (parts marker comment).2.flatMap style.tags ++ List.replicate waiting { kind := .returns } := by
  have hblank : Text.allBlank (Text.clean comment) = false := by
    cases hb : Text.allBlank (Text.clean comment) with
    | false => rfl
    | true => exact absurd (congrArg Prod.snd (parts_of_blank hm hb).2) hne
  have ho := ((readComment_of_not_blank hm hblank).resolve_left fun hnil => hne hnil.1).2
  rw [ho] at h
  obtain ⟨hf, htags⟩ := tags_of_readTagged h
  refine ⟨(gather (readPieces style (parts marker comment).2).1).returnTypes.length, ?_⟩
  rw [htags, Gathered.all, List.map_append, gather_untyped, readPieces_flatMap Piece.tags hf, Style.tags,
    List.map_map, ← List.map_const]
  rfl

/-- A chunk with a known word adds a tag of the kind that the word stands for, or one that is not valid, exactly if the
    style rejects the chunk or finds the kind by its own words and forms in the tags that come to light there. It does
    if the header is spelled as the style spells it. -/
theorem known_shown_iff (style : Style) (marker : Char) (hm : style.marker? = some marker) (raw : Option Text)
    (docblock : Docblock) (h : ((Reader.style style).reading (.ofText? raw)).outcome = .ok docblock) :
    ((parts marker (raw.getD [])).2 ≠ [] → ∃ waiting, docblock.tags.map Tag.untyped =
      (parts marker (raw.getD [])).2.flatMap style.tags ++ List.replicate waiting { kind := .returns }) ∧
    ∀ chunk ∈ (parts marker (raw.getD [])).2, ∀ kind, Piece.Known kind chunk →
      (Shows kind (style.tags chunk) ↔ style.rejects chunk = true ∨ style.Gives kind (revealed marker chunk)) ∧
      (style.Spells kind chunk → Shows kind (style.tags chunk)) := by
  rw [reading_ofText?] at h
  refine ⟨tags_of_readComment hm h, fun chunk hc kind hknown => ?_⟩
  have hp := ((readComment_ok_iff hm _).mp ⟨docblock, h⟩).2 chunk hc
  obtain ⟨s, rfl⟩ := exists_cons_of_mem_parts hc
  exact ⟨Style.tags_show_iff hm hknown hp, Style.tags_show_of_spells hm hknown hp⟩

/-- Of two chunks for what is returned, one is spelled as the style does and the other is not. -/
theorem known_shown_iff_returns :
    ((Reader.style .epydoc).reading (.ofText? (some "Summary.\n\n@returns: x\n@return: y"))).outcome =
      .ok { summary := "Summary.", tags := [{ kind := .returns, desc := "y" }] } ∧
    Piece.Known .returns "@returns: x\n" ∧ Piece.Known .returns "@return: y" ∧
    ¬Style.epydoc.Gives .returns (revealed '@' "@returns: x\n") ∧ Shows .returns (Style.epydoc.tags "@return: y") := by
  have hread : ((Reader.style .epydoc).reading (.ofText? (some "Summary.\n\n@returns: x\n@return: y"))).outcome =
      .ok { summary := "Summary.", tags := [{ kind := .returns, desc := "y" }] } := rfl
  have hreturns : Piece.Known .returns "@returns: x\n" := ⟨rfl, by decide, by decide⟩
  have hreturn : Piece.Known .returns "@return: y" := ⟨rfl, by decide, by decide⟩
  have hchunks := (known_shown_iff .epydoc '@' rfl _ _ hread).2
  refine ⟨hread, hreturns, hreturn, fun hgives => ?_, ?_⟩
  · obtain ⟨tag, ht, -⟩ := (hchunks "@returns: x\n" (by decide) .returns hreturns).1.mpr (Or.inr hgives)
    have hnone : Style.epydoc.tags "@returns: x\n" = [] := rfl
    rw [hnone] at ht
    cases ht
  · exact (hchunks "@return: y" (by decide) .returns hreturn).2 ⟨.returns, by decide⟩

/-- Known words that are lost: one that the style does not have, in both styles, and one before a name that is not
    plain. -/
theorem known_not_shown :
    (parts '@' "Summary.\n\n@returns: x\n@param *args: y").2 = ["@returns: x\n".toList, "@param *args: y".toList] ∧
    Piece.Known .returns "@returns: x\n" ∧ Piece.Known .param "@param *args: y" ∧
    ((Reader.style .epydoc).reading (.text "Summary.\n\n@returns: x\n@param *args: y")).outcome =
      .ok { summary := "Summary." } ∧
    (parts ':' "Summary.\n\n:throws X: y").2 = [":throws X: y".toList] ∧ Piece.Known .throws ":throws X: y" ∧
    ((Reader.style .rest).reading (.text "Summary.\n\n:throws X: y")).outcome = .ok { summary := "Summary." } :=
  ⟨rfl, ⟨rfl, by decide, by decide⟩, ⟨rfl, by decide, by decide⟩, rfl, rfl, ⟨rfl, by decide, by decide⟩, rfl⟩

end ApiDocs.Docblock
