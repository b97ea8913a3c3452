import ApiDocs.Extractor
import ApiDocs.Proofs.Docblock.Gathering
import ApiDocs.Proofs.Outcome
import ApiDocs.Proofs.Text.Margin

/-! When a comment can be read in a style whose tags begin with a marker. A malformed tag is set aside, so it stops
    nothing by itself. But every text is cleaned once more before it is read, also what stands before the first tag and
    each chunk, and a marker that was indented may then stand at the start of a line. A tag that comes to light in this
    way in the lead is not read on its own: if it is malformed, so is the comment. And a header without any word is not
    malformed markup but a fault of its own, which no reading of a tag sets aside.

    Main statement: a comment can be read exactly when the tags that come to light in its lead are well formed and no
    tag in it has an empty header; and every tag that is malformed is among the tags of the docblock. -/

namespace ApiDocs

namespace Docblock

/-- The tags that stand in a text once it is cleaned. -/
def revealed (marker : Char) (s : Text) : List Text :=
  (Text.cutBefore (Text.startsWith marker) (Text.clean s)).2

/-! ### Epydoc -/

namespace Epydoc

/-- Whether a tag for what is returned is about a generator. -/
def yields? (chunk : Text) : Option Bool :=
  match subject? chunk with
  | some (.returns _ generator, _) => some generator
  | _ => none

/-- Tags that can be read together: each has a known form, and they do not say both that a method returns and that it
    yields. -/
structure Sound (chunks : List Text) : Prop where
  known : ∀ chunk ∈ chunks, (subject? chunk).isSome
  agreed : ∀ a ∈ chunks.filterMap yields?, ∀ b ∈ chunks.filterMap yields?, a = b

theorem mapM_entry_ok_iff {chunks : List Text} :
    (∃ entries, chunks.mapM entry = .ok entries) ↔ ∀ chunk ∈ chunks, (subject? chunk).isSome := by
  induction chunks with
  | nil => simp [pure, Except.pure]
  | cons chunk rest ih =>
    rw [List.forall_mem_cons, ← ih, List.mapM_cons]
    cases hs : subject? chunk with
    | none => simp [entry, hs, bind, Except.bind]
    | some found =>
      cases hr : rest.mapM entry with
      | error reason => simp [entry, hs, bind, Except.bind]
      | ok entries => simp [entry, hs, bind, Except.bind, pure, Except.pure]

theorem generators_of_mapM {chunks : List Text} {entries : List Entry} (h : chunks.mapM entry = .ok entries) :
    entries.filterMap Entry.generator? = chunks.filterMap yields? := by
  induction chunks generalizing entries with
  | nil =>
    cases h
    rfl
  | cons chunk rest ih =>
    rw [List.mapM_cons] at h
    cases hs : subject? chunk with
    | none => simp [entry, hs, bind, Except.bind] at h
    | some found =>
      obtain ⟨subject, after⟩ := found
      cases hr : rest.mapM entry with
      | error reason => simp [entry, hs, hr, bind, Except.bind] at h
      | ok entries' =>
        simp only [entry, hs, hr, bind, Except.bind, pure, Except.pure, Except.ok.injEq] at h
        subst h
        rw [List.filterMap_cons, List.filterMap_cons, ih hr]
        cases subject <;> simp [Entry.generator?, yields?, hs]

theorem agree_iff {entries : List Entry} :
    agree entries = true ↔
      ∀ a ∈ entries.filterMap Entry.generator?, ∀ b ∈ entries.filterMap Entry.generator?, a = b := by
  unfold agree
  split
  · rename_i h
    simp [h]
  · rename_i first rest h
    rw [h]
    simp only [List.all_eq_true, beq_iff_eq]
    constructor
    · intro hall a ha b hb
      have heq : ∀ x ∈ first :: rest, x = first := fun x hx => (List.mem_cons.mp hx).elim id (hall x)
      rw [heq a ha, heq b hb]
    · intro hall x hx
      exact hall x (List.mem_cons_of_mem _ hx) first List.mem_cons_self

/-- A text can be read exactly when the tags in it are sound. -/
theorem read_ok_iff {s : Text} : (∃ outline, read s = .ok outline) ↔ Sound (revealed '@' s) := by
  have hread : read s = (revealed '@' s).mapM entry >>= fun entries =>
      if agree entries then
        .ok (Outline.ofLead (Text.cutBefore (Text.startsWith '@') (Text.clean s)).1 (items entries [] entries))
      else .error .returnsAndYields := rfl
  rw [hread]
  simp only [bind_eq_ok]
  constructor
  · rintro ⟨outline, entries, hm, ha⟩
    split at ha
    · rename_i hagree
      exact ⟨mapM_entry_ok_iff.mp ⟨entries, hm⟩, generators_of_mapM hm ▸ agree_iff.mp hagree⟩
    · cases ha
  · rintro ⟨hknown, hagreed⟩
    obtain ⟨entries, hm⟩ := mapM_entry_ok_iff.mpr hknown
    have hagree : agree entries = true := agree_iff.mpr (generators_of_mapM hm ▸ hagreed)
    exact ⟨_, entries, hm, by rw [if_pos hagree]⟩

end Epydoc

/-! ### reST -/

namespace Rest

/-- The words in the header of a tag, if the header ends. -/
def headerWords? (chunk : Text) : Option (List Text) :=
  (Text.cutFirst ':' (chunk.dropWhile (· == ':'))).map fun cut => Text.words cut.1

/-- Whether a word may have these arguments behind it. -/
def Fits (key : Text) (args : List Text) : Prop :=
  (key ∈ paramWords → args.length = 1 ∨ args.length = 2) ∧
    (key ∈ returnWords ++ yieldWords ++ raiseWords → args.length ≤ 1)

/-- A tag whose header ends and has a word with arguments that fit it. -/
def WellFormed (chunk : Text) : Prop := ∃ key args, headerWords? chunk = some (key :: args) ∧ Fits key args

/-- The first of some tags that is not well formed has a header without words. -/
def Headless (chunks : List Text) : Prop :=
  ∃ before chunk after, chunks = before ++ chunk :: after ∧ (∀ c ∈ before, WellFormed c) ∧
    headerWords? chunk = some []

/-- The words of tags for parameters have no other use. -/
theorem not_mem_of_paramWords {key : Text} (h : key ∈ paramWords) : key ∉ returnWords ++ yieldWords ++ raiseWords := by
  have hall : ∀ word ∈ paramWords, word ∉ returnWords ++ yieldWords ++ raiseWords := by decide
  exact hall key h

theorem typeWord_cases (key : Text) (args : List Text) :
    (args.length ≤ 1 ∧ ∃ type, typeWord key args = .ok type) ∨
      (¬args.length ≤ 1 ∧ typeWord key args = .error (.typeWords key)) := by
  rcases args with _ | ⟨a, _ | ⟨b, rest⟩⟩ <;> simp [typeWord]

/-- A tag that is not a type: it has an item if its arguments fit, and is malformed if they do not. -/
theorem item_cases (e : Entry) :
    (e.words = [] ∧ item e = .error .emptyHeader) ∨
    ∃ key args, e.words = key :: args ∧
      ((Fits key args ∧ ∃ i, item e = .ok i) ∨ (¬Fits key args ∧ ∃ reason, item e = .error (.malformed reason))) := by
  unfold item
  rcases hw : e.words with _ | ⟨key, args⟩
  · exact Or.inl ⟨rfl, rfl⟩
  · refine Or.inr ⟨key, args, rfl, ?_⟩
    have htyped : ∀ hk : key ∈ returnWords ++ yieldWords ++ raiseWords, Fits key args ↔ args.length ≤ 1 := fun hk =>
      ⟨fun h => h.2 hk, fun h => ⟨fun hp => absurd hk (not_mem_of_paramWords hp), fun _ => h⟩⟩
    by_cases hp : key ∈ paramWords
    · have hfits : Fits key args ↔ args.length = 1 ∨ args.length = 2 :=
        ⟨fun h => h.1 hp, fun h => ⟨fun _ => h, fun hr => absurd hr (not_mem_of_paramWords hp)⟩⟩
      rcases args with _ | ⟨a, _ | ⟨b, _ | ⟨c, rest⟩⟩⟩ <;> simp [hp, hfits]
    · by_cases hr : key ∈ returnWords ∨ key ∈ yieldWords
      · rw [htyped (by simp only [List.mem_append]; exact Or.inl hr)]
        rcases typeWord_cases key args with ⟨hl, type, ht⟩ | ⟨hl, ht⟩ <;> simp [hp, hr, ht, hl]
      · by_cases hx : key ∈ raiseWords
        · rw [htyped (List.mem_append_right _ hx)]
          rcases typeWord_cases key args with ⟨hl, type, ht⟩ | ⟨hl, ht⟩ <;> simp [hp, hr, hx, ht, hl]
        · have hfits : Fits key args := by
            refine ⟨fun h => absurd h hp, fun h => ?_⟩
            simp only [List.mem_append] at h
            exact absurd h (not_or.mpr ⟨hr, hx⟩)
          simp [hp, hr, hx, hfits]

theorem entry_words (chunk : Text) :
    (headerWords? chunk = none ∧ entry chunk = .error (.chunk chunk)) ∨
      ∃ e, headerWords? chunk = some e.words ∧ entry chunk = .ok e := by
  unfold headerWords? entry
  cases Text.cutFirst ':' (chunk.dropWhile (· == ':')) with
  | none => exact Or.inl ⟨rfl, rfl⟩
  | some cut => exact Or.inr ⟨_, rfl, rfl⟩

/-- The words for types take any arguments. -/
theorem fits_of_type {key : Text} (h : key = "type".toList ∨ key = "rtype".toList) (args : List Text) :
    Fits key args := by
  rcases h with rfl | rfl
  · exact ⟨fun h => absurd h (by decide), fun h => absurd h (by decide)⟩
  · exact ⟨fun h => absurd h (by decide), fun h => absurd h (by decide)⟩

/-- A tag is taken as a type, which cannot fail, or as an item. -/
theorem add_type_or_item (content : Content) (chunk : Text) {e : Entry} (h : entry chunk = .ok e) :
    (∃ key args content', e.words = key :: args ∧ Fits key args ∧ content.add chunk = .ok content') ∨
      content.add chunk = (item e).map fun i => { content with items := content.items ++ [i] } := by
  have hitem : ∀ x : Except Fault Item,
      (x >>= fun i => pure { content with items := content.items ++ [i] } : Except Fault Content) =
        x.map fun i => { content with items := content.items ++ [i] } := fun x => by cases x <;> rfl
  have hentry : (entry chunk).mapError Fault.malformed = .ok e := mapError_eq_ok.mpr h
  unfold Content.add
  simp only [hentry, bind, Except.bind]
  rcases hw : e.words with _ | ⟨key, _ | ⟨name, _ | ⟨more, rest⟩⟩⟩
  · exact Or.inr (hitem _)
  · by_cases hk : key = "rtype".toList
    · exact Or.inl ⟨key, [], _, rfl, fits_of_type (Or.inr hk) _, if_pos hk⟩
    · exact Or.inr ((if_neg hk).trans (hitem _))
  · by_cases ht : key = "type".toList
    · exact Or.inl ⟨key, [name], _, rfl, fits_of_type (Or.inl ht) _, if_pos ht⟩
    · by_cases hk : key = "rtype".toList
      · exact Or.inl ⟨key, [name], _, rfl, fits_of_type (Or.inr hk) _, (if_neg ht).trans (if_pos hk)⟩
      · exact Or.inr ((if_neg ht).trans ((if_neg hk).trans (hitem _)))
  · exact Or.inr (hitem _)

/-- What becomes of a tag that is added. -/
theorem add_cases (content : Content) (chunk : Text) :
    (WellFormed chunk ∧ ∃ content', content.add chunk = .ok content') ∨
    (headerWords? chunk = some [] ∧ content.add chunk = .error .emptyHeader) ∨
    (¬WellFormed chunk ∧ headerWords? chunk ≠ some [] ∧ ∃ reason, content.add chunk = .error (.malformed reason)) := by
  rcases entry_words chunk with ⟨hh, he⟩ | ⟨e, hh, he⟩
  · refine Or.inr (Or.inr ⟨?_, by simp [hh], .chunk chunk, ?_⟩)
    · rintro ⟨key, args, h, -⟩
      rw [hh] at h
      cases h
    · unfold Content.add
      rw [he]
      rfl
  · rcases add_type_or_item content chunk he with ⟨key, args, content', hw, hf, ha⟩ | ha
    · exact Or.inl ⟨⟨key, args, by rw [hh, hw], hf⟩, content', ha⟩
    · rw [ha]
      rcases item_cases e with ⟨hw, hi⟩ | ⟨key, args, hw, ⟨hf, i, hi⟩ | ⟨hf, reason, hi⟩⟩
      · exact Or.inr (Or.inl ⟨by rw [hh, hw], by rw [hi]; rfl⟩)
      · exact Or.inl ⟨⟨key, args, by rw [hh, hw], hf⟩, _, by rw [hi]; rfl⟩
      · refine Or.inr (Or.inr ⟨?_, by simp [hh, hw], reason, by rw [hi]; rfl⟩)
        rintro ⟨key', args', h, hf'⟩
        rw [hh, hw] at h
        cases h
        exact hf hf'

theorem foldlM_add_cons (content : Content) (chunk : Text) (rest : List Text) :
    (chunk :: rest).foldlM Content.add content = content.add chunk >>= fun c => rest.foldlM Content.add c :=
  List.foldlM_cons

theorem foldlM_add_ok_iff (content : Content) {chunks : List Text} :
    (∃ content', chunks.foldlM Content.add content = .ok content') ↔ ∀ chunk ∈ chunks, WellFormed chunk := by
  induction chunks generalizing content with
  | nil => simp [pure, Except.pure]
  | cons chunk rest ih =>
    rw [List.forall_mem_cons, foldlM_add_cons]
    rcases add_cases content chunk with ⟨hw, content', ha⟩ | ⟨hh, ha⟩ | ⟨hw, -, reason, ha⟩
    · rw [ha, ← ih content']
      exact (and_iff_right hw).symm
    · rw [ha]
      refine iff_of_false (by rintro ⟨_, h⟩; cases h) ?_
      rintro ⟨⟨key, args, h, -⟩, -⟩
      rw [hh] at h
      cases h
    · rw [ha]
      exact iff_of_false (by rintro ⟨_, h⟩; cases h) fun h => hw h.1

/-- The reading of tags ends for the lack of words in a header exactly at the first that is not well formed. -/
theorem foldlM_add_emptyHeader_iff (content : Content) {chunks : List Text} :
    chunks.foldlM Content.add content = .error .emptyHeader ↔ Headless chunks := by
  induction chunks generalizing content with
  | nil => simp [Headless, pure, Except.pure]
  | cons chunk rest ih =>
    rw [foldlM_add_cons]
    rcases add_cases content chunk with ⟨hw, content', ha⟩ | ⟨hh, ha⟩ | ⟨hw, hh, reason, ha⟩
    · rw [ha]
      refine (ih content').trans ⟨?_, ?_⟩
      · rintro ⟨before, bad, after, rfl, hb, hbad⟩
        exact ⟨chunk :: before, bad, after, rfl, List.forall_mem_cons.mpr ⟨hw, hb⟩, hbad⟩
      · rintro ⟨before, bad, after, hc, hb, hbad⟩
        rcases before with _ | ⟨first, before⟩
        · cases hc
          obtain ⟨key, args, h, -⟩ := hw
          rw [hbad] at h
          cases h
        · cases hc
          exact ⟨before, bad, after, rfl, (List.forall_mem_cons.mp hb).2, hbad⟩
    · rw [ha]
      exact iff_of_true rfl ⟨[], chunk, rest, rfl, by simp, hh⟩
    · rw [ha]
      refine iff_of_false (by intro h; cases h) ?_
      rintro ⟨before, bad, after, hc, hb, hbad⟩
      rcases before with _ | ⟨first, before⟩
      · cases hc
        exact hh hbad
      · cases hc
        exact hw (hb _ List.mem_cons_self)

theorem foldlM_add_fault {content : Content} {chunks : List Text} {fault : Fault}
    (h : chunks.foldlM Content.add content = .error fault) : fault = .emptyHeader ∨ fault.isMalformed = true := by
  induction chunks generalizing content with
  | nil => cases h
  | cons chunk rest ih =>
    rw [foldlM_add_cons] at h
    rcases add_cases content chunk with ⟨-, content', ha⟩ | ⟨-, ha⟩ | ⟨-, -, reason, ha⟩
    · rw [ha] at h
      exact ih h
    · rw [ha] at h
      cases h
      exact Or.inl rfl
    · rw [ha] at h
      cases h
      exact Or.inr rfl

theorem read_eq (s : Text) :
    read s = ((revealed ':' s).foldlM Content.add {}).map fun content =>
      Outline.ofLead (Text.cutBefore (Text.startsWith ':') (Text.clean s)).1 content.all := by
  have hread : read s = (revealed ':' s).foldlM Content.add {} >>= fun content =>
      .ok (Outline.ofLead (Text.cutBefore (Text.startsWith ':') (Text.clean s)).1 content.all) := rfl
  rw [hread]
  cases (revealed ':' s).foldlM Content.add {} <;> rfl

/-- A text can be read exactly when all tags in it are well formed. -/
theorem read_ok_iff {s : Text} : (∃ outline, read s = .ok outline) ↔ ∀ chunk ∈ revealed ':' s, WellFormed chunk := by
  rw [read_eq, ← foldlM_add_ok_iff {}]
  cases (revealed ':' s).foldlM Content.add {} <;> simp [Except.map]

theorem read_emptyHeader_iff {s : Text} : read s = .error .emptyHeader ↔ Headless (revealed ':' s) := by
  rw [read_eq, ← foldlM_add_emptyHeader_iff {}]
  cases (revealed ':' s).foldlM Content.add {} <;> simp [Except.map]

theorem read_fault {s : Text} {fault : Fault} (h : read s = .error fault) :
    fault = .emptyHeader ∨ fault.isMalformed = true := by
  rw [read_eq] at h
  cases hf : (revealed ':' s).foldlM Content.add {} with
  | ok content =>
    rw [hf] at h
    cases h
  | error fault' =>
    rw [hf] at h
    cases h
    exact foldlM_add_fault hf

end Rest

/-! ### Comments -/

/-- The lead of a comment and its chunks. -/
def parts (marker : Char) (comment : Text) : Text × List Text :=
  Text.cutBefore (Text.startsWith marker) (Text.clean comment)

theorem readPieces_ok_iff {style : Style} {chunks : List Text} :
    (readPieces style chunks).2 = none ↔ ∀ chunk ∈ chunks, ∃ piece, Piece.read style chunk = .ok piece := by
  induction chunks with
  | nil => simp [readPieces]
  | cons chunk rest ih =>
    rw [readPieces_cons, List.forall_mem_cons, ← ih]
    cases Piece.read style chunk <;> simp

theorem Style.isBlank_marker {style : Style} {marker : Char} (hm : style.marker? = some marker) :
    Text.isBlank marker = false := by
  cases style <;> cases hm <;> decide

/-- A text without any marker can be read. -/
theorem Style.read_of_not_mem {style : Style} {marker : Char} (hm : style.marker? = some marker) {s : Text}
    (h : marker ∉ s) : ∃ outline, style.read s = .ok outline := by
  have hnone : revealed marker s = [] := by
    rw [revealed, Text.cutBefore_of_not_mem (Text.not_mem_clean (Style.isBlank_marker hm) h)]
  cases style <;> cases hm
  · have hsound : Epydoc.Sound (revealed '@' s) := by
      rw [hnone]
      exact ⟨by simp, by simp⟩
    obtain ⟨outline, hr⟩ := Epydoc.read_ok_iff.mpr hsound
    exact ⟨outline, by rw [Style.read, hr]; rfl⟩
  · exact Rest.read_ok_iff.mpr (by simp [hnone])

/-- A blank comment is all lead, and has no marker. -/
theorem parts_of_blank {style : Style} {marker : Char} (hm : style.marker? = some marker) {comment : Text}
    (hb : Text.allBlank (Text.clean comment) = true) :
    marker ∉ Text.clean comment ∧ parts marker comment = (Text.clean comment, []) := by
  have hno : marker ∉ Text.clean comment := fun hc => by
    have := List.all_eq_true.mp hb marker hc
    rw [Style.isBlank_marker hm] at this
    cases this
  exact ⟨hno, Text.cutBefore_of_not_mem hno⟩

/-- Without chunks the lead is the whole text, which is then read as a whole; else it is read tag by tag. -/
theorem readComment_of_not_blank {style : Style} {marker : Char} (hm : style.marker? = some marker) {comment : Text}
    (hb : Text.allBlank (Text.clean comment) = false) :
    ((parts marker comment).2 = [] ∧ (readComment style comment).outcome = readWhole style (parts marker comment).1) ∨
    ((parts marker comment).2 ≠ [] ∧
      readComment style comment = readTagged style (parts marker comment).1 (parts marker comment).2) := by
  have hflat := Text.cutBefore_flatten (Text.startsWith marker) (Text.clean comment)
  unfold parts
  rcases hcut : Text.cutBefore (Text.startsWith marker) (Text.clean comment) with ⟨lead, _ | ⟨chunk, rest⟩⟩
  · have hlead : lead = Text.clean comment := by simpa [hcut] using hflat
    refine Or.inl ⟨rfl, ?_⟩
    simp [readComment, hb, hm, hcut, hlead]
  · refine Or.inr ⟨by simp, ?_⟩
    simp [readComment, hb, hm, hcut]

/-- A comment can be read exactly when its lead can be read and no chunk stops the reading. -/
theorem readComment_ok_iff {style : Style} {marker : Char} (hm : style.marker? = some marker) (comment : Text) :
    (∃ docblock, (readComment style comment).outcome = .ok docblock) ↔
      (∃ outline, style.read (parts marker comment).1 = .ok outline) ∧
        ∀ chunk ∈ (parts marker comment).2, ∃ piece, Piece.read style chunk = .ok piece := by
  cases hb : Text.allBlank (Text.clean comment) with
  | true =>
    obtain ⟨hno, hparts⟩ := parts_of_blank hm hb
    rw [hparts]
    refine iff_of_true ⟨{}, by simp [readComment, hb]⟩ ⟨Style.read_of_not_mem hm hno, by simp⟩
  | false =>
    rcases readComment_of_not_blank hm hb with ⟨hc, ho⟩ | ⟨-, ho⟩
    · rw [ho, hc, readWhole, exists_map_ok]
      simp
    · rw [ho, readTagged_outcome, ← readPieces_ok_iff]
      cases (readPieces style (parts marker comment).2).2 with
      | some fault => simp
      | none => simp [exists_map_ok]

/-- A comment is read in the same way whether it is missing or empty. -/
theorem reading_ofText? (style : Style) (raw : Option Text) :
    ((Reader.style style).reading (.ofText? raw)).outcome = (readComment style (raw.getD [])).outcome := by
  have hempty : (readComment style []).outcome = .ok {} := rfl
  rcases raw with _ | _ | ⟨c, rest⟩
  · rw [Option.getD_none, hempty]
    rfl
  · rw [Option.getD_some, hempty]
    rfl
  · rfl

theorem mem_readPieces {style : Style} {chunks : List Text} (h : (readPieces style chunks).2 = none) {chunk : Text}
    (hc : chunk ∈ chunks) {piece : Piece} (hp : Piece.read style chunk = .ok piece) :
    piece ∈ (readPieces style chunks).1 := by
  induction chunks with
  | nil => cases hc
  | cons first rest ih =>
    rw [readPieces_cons] at h ⊢
    cases hf : Piece.read style first with
    | error fault => simp [hf] at h
    | ok found =>
      simp only [hf] at h ⊢
      rcases List.mem_cons.mp hc with rfl | hc
      · rw [hp] at hf
        cases hf
        exact List.mem_cons_self
      · exact List.mem_cons_of_mem _ (ih h hc)

/-- A malformed chunk has its tag in the docblock. -/
theorem malformed_mem_tags {style : Style} {marker : Char} (hm : style.marker? = some marker) {comment : Text}
    {docblock : Docblock} (h : (readComment style comment).outcome = .ok docblock) {chunk : Text}
    (hc : chunk ∈ (parts marker comment).2) {reason : Malformed} (hr : style.read chunk = .error (.malformed reason)) :
    ∃ tag ∈ docblock.tags, tag.untyped = Tag.malformed chunk := by
  have hblank : Text.allBlank (Text.clean comment) = false := by
    cases hb : Text.allBlank (Text.clean comment) with
    | false => rfl
    | true =>
      rw [(parts_of_blank hm hb).2] at hc
      cases hc
  rcases readComment_of_not_blank hm hblank with ⟨hnil, -⟩ | ⟨-, ho⟩
  · rw [hnil] at hc
    cases hc
  · rw [ho, readTagged_outcome] at h
    cases hf : (readPieces style (parts marker comment).2).2 with
    | some fault =>
      rw [hf] at h
      cases h
    | none =>
      rw [hf] at h
      cases hl : style.read (parts marker comment).1 with
      | error fault =>
        rw [hl] at h
        cases h
      | ok outline =>
        rw [hl] at h
        cases h
        have hp : Piece.read style chunk = .ok (.malformed chunk reason) := by rw [Piece.read, hr]
        have hmem : Tag.malformed chunk ∈
            (gather (readPieces style (parts marker comment).2).1).tags.map Tag.untyped := by
          rw [gather_untyped]
          exact List.mem_flatMap.mpr ⟨_, mem_readPieces hf hc hp, List.mem_singleton_self _⟩
        obtain ⟨tag, ht, hu⟩ := List.mem_map.mp hmem
        exact ⟨tag, List.mem_append_left _ ht, hu⟩

theorem Epydoc.piece_ok (chunk : Text) : ∃ piece, Piece.read .epydoc chunk = .ok piece := by
  unfold Piece.read Style.read
  cases Epydoc.read chunk with
  | ok outline => exact ⟨_, rfl⟩
  | error reason => exact ⟨_, rfl⟩

theorem Rest.piece_ok_iff {chunk : Text} :
    (∃ piece, Piece.read .rest chunk = .ok piece) ↔ ¬Rest.Headless (revealed ':' chunk) := by
  rw [← Rest.read_emptyHeader_iff]
  cases hr : Rest.read chunk with
  | ok outline =>
    refine iff_of_true ⟨.ofChunk chunk outline.items, ?_⟩ (by simp)
    rw [Piece.read, Style.read, hr]
  | error fault =>
    rcases Rest.read_fault hr with rfl | hmal
    · refine iff_of_false ?_ (by simp)
      rintro ⟨piece, hp⟩
      rw [Piece.read, Style.read, hr] at hp
      cases hp
    · cases fault <;> cases hmal
      rename_i reason
      refine iff_of_true ⟨.malformed chunk reason, ?_⟩ (by simp)
      rw [Piece.read, Style.read, hr]

/-- A comment, which may be missing, can be read in the epydoc style exactly when the tags that come to light in its
    lead are sound, and in the reST style exactly when they are well formed and no chunk lacks the words of a header. In both
    a malformed chunk has its tag in the docblock, marked as not valid. -/
theorem reading_ok_iff (raw : Option Text) :
    ((∃ docblock, ((Reader.style .epydoc).reading (.ofText? raw)).outcome = .ok docblock) ↔
      Epydoc.Sound (revealed '@' (parts '@' (raw.getD [])).1)) ∧
    ((∃ docblock, ((Reader.style .rest).reading (.ofText? raw)).outcome = .ok docblock) ↔
      (∀ tag ∈ revealed ':' (parts ':' (raw.getD [])).1, Rest.WellFormed tag) ∧
        ∀ chunk ∈ (parts ':' (raw.getD [])).2, ¬Rest.Headless (revealed ':' chunk)) ∧
    ∀ style marker, Style.marker? style = some marker → ∀ docblock,
      ((Reader.style style).reading (.ofText? raw)).outcome = .ok docblock →
      ∀ chunk ∈ (parts marker (raw.getD [])).2, ∀ reason, style.read chunk = .error (.malformed reason) →
        ∃ tag ∈ docblock.tags, tag.valid = false ∧ tag.untyped = Tag.malformed chunk := by
  simp only [reading_ofText?]
  refine ⟨?_, ?_, fun style marker hm docblock h chunk hc reason hr => ?_⟩
  · rw [readComment_ok_iff rfl, ← Epydoc.read_ok_iff]
    simp [Style.read, mapError_eq_ok, Epydoc.piece_ok]
  · rw [readComment_ok_iff rfl, ← Rest.read_ok_iff]
    simp [Style.read, Rest.piece_ok_iff]
  · obtain ⟨tag, ht, hu⟩ := malformed_mem_tags hm h hc hr
    refine ⟨tag, ht, ?_, hu⟩
    have hv : tag.untyped.valid = false := by rw [hu]; rfl
    exact hv

/-- A tag that was indented comes to light in the lead and is not set aside; a header without words is no better. -/
theorem reading_not_tolerant :
    ((Reader.style .epydoc).reading (.text "Summary.\n\n  @bad\n@return: x")).outcome =
      .error (.malformed (.chunk "@bad")) ∧
    ((Reader.style .rest).reading (.text ": : x")).outcome = .error .emptyHeader := by
  constructor <;> rfl

end Docblock
end ApiDocs
