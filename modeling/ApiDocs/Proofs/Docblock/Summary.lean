import ApiDocs.Proofs.Detached
import ApiDocs.Proofs.Docblock.Tolerance
import ApiDocs.Proofs.Text.Layout

/-! What a summary can be. It is a line, and as a rule it is empty or has something in it to see. But a line of blanks
    that reaches beyond the margin is not empty, and cleaning keeps it. A lead is cleaned twice and each time its first
    line is trimmed, so that one such line at the start is lost; if there is another one behind it, that is taken for the
    summary. Then a method counts as one with a docblock, and the fallback is not asked. -/

namespace ApiDocs

namespace Text

/-! ### The first line that is left -/

theorem not_mem_firstLine (s : Text) : '\n' ∉ firstLine s := fun h => by
  have hall := List.all_eq_true.mp (List.all_takeWhile (p := fun c : Char => c != '\n') (l := s)) _ h
  exact absurd hall (by decide)

/-- Cleaned lines begin with the first one that is not empty. -/
theorem firstLine_dropEmptyEnds {parts : List Text} (h : ∀ part ∈ parts, '\n' ∉ part) :
    firstLine (unlines (dropEmptyEnds parts)) = (parts.find? fun part => !part.isEmpty).getD [] := by
  induction parts with
  | nil => rfl
  | cons part parts ih =>
    obtain ⟨hpart, hparts⟩ := List.forall_mem_cons.mp h
    cases part with
    | nil => exact ih hparts
    | cons c part =>
      obtain ⟨kept, -, hends⟩ := dropEmptyEnds_cons (List.cons_ne_nil c part) parts
      rw [hends, firstLine_unlines hpart]
      rfl

theorem dedent_eq_map (body : List Text) : dedent body = body.map (·.drop ((margin body).getD 0)) := by
  rw [dedent]
  cases margin body with
  | none => simp
  | some m => rfl

theorem allBlank_drop_margin {body : List Text} {line : Text} (hl : line ∈ body) :
    allBlank (line.drop ((margin body).getD 0)) = allBlank line := by
  cases hb : allBlank line with
  | true => exact List.all_eq_true.mpr fun c hc => List.all_eq_true.mp hb c (List.mem_of_mem_drop hc)
  | false =>
    cases hm : margin body with
    | none => exact absurd hb (by simp [margin_eq_none_iff.mp hm line hl])
    | some m =>
      have hle : m ≤ indentation line := (List.min?_eq_some_iff.mp hm).2 _
        (List.mem_map_of_mem (List.mem_filter.mpr ⟨hl, by simp [hb]⟩))
      rw [Option.getD_some, allBlank_eq_of_words (words_drop hle), hb]

/-- Whether the first line of a text is blank, and so is the first line behind it that reaches beyond the margin. -/
def isHollow (s : Text) : Bool :=
  match lines s with
  | [] => false
  | first :: body => allBlank first && (body.find? fun line => (margin body).getD 0 < line.length).any allBlank

/-- Just the hollow texts begin with a line of blanks when they are cleaned. -/
theorem firstLine_clean_blank_iff {s : Text} (htab : '\t' ∉ s) :
    firstLine (clean s) ≠ [] ∧ allBlank (firstLine (clean s)) = true ↔ isHollow s = true := by
  cases hlines : lines s with
  | nil => exact absurd hlines (splitWith_ne_nil _ s)
  | cons first body =>
    have hfeed : ∀ line ∈ first :: body, '\n' ∉ line := fun line hl => not_mem_of_mem_lines (hlines ▸ hl)
    obtain ⟨hfirst, hbody⟩ := List.forall_mem_cons.mp hfeed
    have hclean : clean s = unlines (dropEmptyEnds (trimLeft first :: dedent body)) := by
      simp only [clean, expandTabs_of_not_mem htab, hlines]
    have hparts : ∀ part ∈ trimLeft first :: dedent body, '\n' ∉ part := by
      refine List.forall_mem_cons.mpr ⟨fun hm => hfirst ((List.dropWhile_suffix isBlank).mem hm), fun part hp hm => ?_⟩
      obtain ⟨whole, hw, hsuffix⟩ := mem_dedent hp
      exact hbody whole hw (hsuffix.mem hm)
    rw [hclean, firstLine_dropEmptyEnds hparts]
    simp only [isHollow, hlines, Bool.and_eq_true]
    cases hb : allBlank first with
    | false =>
      -- The first line has something in it, and that is where it begins when it is trimmed.
      have hne : trimLeft first ≠ [] := by simp [trimLeft_eq_nil_iff, hb]
      have hwords : allBlank (trimLeft first) = false := by rw [allBlank_eq_of_words (words_trimLeft first), hb]
      rw [List.find?_cons_of_pos (by simpa using hne), Option.getD_some, hwords]
      simp
    | true =>
      rw [trimLeft_eq_nil_iff.mpr hb, List.find?_cons_of_neg (by simp), dedent_eq_map, List.find?_map]
      have hsame : ((fun part : Text => !part.isEmpty) ∘ fun line : Text => line.drop ((margin body).getD 0)) =
          fun line : Text => decide ((margin body).getD 0 < line.length) := by
        funext line
        rw [Bool.eq_iff_iff]
        simp
      rw [hsame]
      cases hfind : body.find? fun line => decide ((margin body).getD 0 < line.length) with
      | none => simp
      | some line =>
        have hlong : (margin body).getD 0 < line.length := by simpa using List.find?_some hfind
        simp [allBlank_drop_margin (List.mem_of_find?_eq_some hfind), hlong]

end Text

namespace Docblock
open Text (allBlank firstLine isHollow)

/-! ### The summary of a text and of a comment -/

theorem Outline.ofLead_summary (lead : Text) (items : List Item) : (ofLead lead items).summary = firstLine lead := by
  rw [ofLead]
  cases hcut : Text.cutFirst '\n' lead with
  | none => exact (Text.firstLine_of_not_mem (Text.cutFirst_eq_none hcut)).symm
  | some cut =>
    obtain ⟨before, after⟩ := cut
    obtain ⟨rfl, hno⟩ := Text.cutFirst_eq_some hcut
    exact (Text.firstLine_append_feed hno after).symm

theorem summary_of_read {style : Style} {marker : Char} (hm : style.marker? = some marker) {s : Text}
    {outline : Outline} (h : style.read s = .ok outline) :
    outline.summary = if Text.startsWith marker (Text.clean s) then [] else firstLine (Text.clean s) := by
  rw [← Text.firstLine_cutBefore]
  cases style <;> cases hm
  · rw [Style.read, mapError_eq_ok, Epydoc.read] at h
    obtain ⟨entries, -, h⟩ := bind_eq_ok.mp h
    split at h
    · cases h
      exact Outline.ofLead_summary _ _
    · cases h
  · rw [Style.read, Rest.read] at h
    obtain ⟨content, -, h⟩ := bind_eq_ok.mp h
    cases h
    exact Outline.ofLead_summary _ _

theorem summary_of_readComment {style : Style} {marker : Char} (hm : style.marker? = some marker) {comment : Text}
    {docblock : Docblock} (hb : allBlank (Text.clean comment) = false)
    (h : (readComment style comment).outcome = .ok docblock) :
    ∃ outline, style.read (parts marker comment).1 = .ok outline ∧ docblock.summary = outline.summary := by
  rcases readComment_of_not_blank hm hb with ⟨-, ho⟩ | ⟨-, ho⟩
  · rw [ho, readWhole] at h
    cases hr : style.read (parts marker comment).1 with
    | error fault => rw [hr] at h; cases h
    | ok outline => rw [hr] at h; cases h; exact ⟨outline, rfl, rfl⟩
  · rw [ho, readTagged_outcome] at h
    split at h
    · cases h
    · cases hr : style.read (parts marker comment).1 with
      | error fault => rw [hr] at h; cases h
      | ok outline => rw [hr] at h; cases h; exact ⟨outline, rfl, rfl⟩

theorem not_mem_tab_parts (marker : Char) (comment : Text) : '\t' ∉ (parts marker comment).1 := fun hm => by
  refine Text.not_mem_tab_clean comment ?_
  rw [← Text.cutBefore_flatten (Text.startsWith marker) (Text.clean comment)]
  exact List.mem_append_left _ hm

/-- A comment that is not blank but whose lead is hollow. -/
def BeginsHollow (marker : Char) (comment : Text) : Prop :=
  allBlank comment = false ∧ isHollow (parts marker comment).1 = true

/-- Just the comments that begin hollow have a summary of blanks. -/
theorem summary_blank_iff {style : Style} {marker : Char} (hm : style.marker? = some marker) {comment : Text}
    {docblock : Docblock} (h : (readComment style comment).outcome = .ok docblock) :
    '\n' ∉ docblock.summary ∧
    (docblock.summary ≠ [] ∧ allBlank docblock.summary = true ↔ BeginsHollow marker comment) := by
  rw [BeginsHollow, ← Text.allBlank_eq_of_words (Text.words_clean comment)]
  cases hb : allBlank (Text.clean comment) with
  | true =>
    simp only [readComment, hb, ↓reduceIte] at h
    cases h
    exact ⟨List.not_mem_nil, by simp⟩
  | false =>
    obtain ⟨outline, hread, hsummary⟩ := summary_of_readComment hm hb h
    have hiff := Text.firstLine_clean_blank_iff (not_mem_tab_parts marker comment)
    rw [hsummary, summary_of_read hm hread, ← hiff]
    split
    · rename_i hstart
      refine ⟨List.not_mem_nil, iff_of_false (by simp) ?_⟩
      -- A text that begins with a marker has it in its first line, where it is not blank.
      rintro ⟨-, -, hblank⟩
      obtain ⟨rest, hclean⟩ : ∃ rest, Text.clean (parts marker comment).1 = marker :: rest := by
        cases hc : Text.clean (parts marker comment).1 with
        | nil => rw [hc] at hstart; cases hstart
        | cons c rest => rw [hc] at hstart; exact ⟨rest, by rw [(Option.some.inj (beq_iff_eq.mp hstart) : c = marker)]⟩
      have hsolid := Style.isBlank_marker hm
      have hfeed : marker ≠ '\n' := by
        rintro rfl
        cases hsolid
      rw [hclean, firstLine, List.takeWhile_cons_of_pos (by simpa using hfeed)] at hblank
      simp [allBlank, hsolid] at hblank
    · exact ⟨Text.not_mem_firstLine _, by simp⟩

end Docblock

/-! ### Methods with a summary -/

namespace Extractor
open Docblock (Style BeginsHollow parts)
open Text (allBlank isHollow)

/-- The details of a method are those of its docblock, and nothing is asked. -/
def TakesDocblock (e : Extractor) (method : Method) (docblock : Docblock) : Prop :=
  ∀ s, ∃ notes, (e.detail method).outcome s = (.ok (.ofDocblock method docblock), s.adding notes [])

/-- The fallback is asked about a method, and the details are what it says. -/
def TakesFallback (e : Extractor) (method : Method) : Prop :=
  ∀ s, ∃ notes, (e.detail method).outcome s =
    (Detail.ofSuggestion <$> e.fallback method.id).outcome (s.adding notes [method.id])

/-- The session in which the fallback is asked about a method. -/
def asking (e : Extractor) (method : Method) (s : Session) : Session :=
  s.adding ((e.reader.reading method.comment).notes ++
    [.debug ("No docblock summary for " ++ method.id ++ ", using fallback lookup")]) [method.id]

theorem outcome_detail (e : Extractor) {method : Method} {docblock : Docblock}
    (h : (e.reader.reading method.comment).outcome = .ok docblock) (s : Session) :
    (e.detail method).outcome s =
      if docblock.summary = [] then (Detail.ofSuggestion <$> e.fallback method.id).outcome (e.asking method s)
      else (.ok (.ofDocblock method docblock), s.adding (e.reader.reading method.comment).notes []) := by
  have hread : (e.reader.read method.comment).outcome s =
      (.ok docblock, s.adding (e.reader.reading method.comment).notes []) := by
    rw [Reader.read, Act.outcome_bind, Act.outcome_note]
    simp only [h, Act.outcome_ofExcept]
  rw [detail, Act.outcome_bind, hread]
  by_cases hempty : docblock.summary = []
  · simp only [hempty, List.isEmpty_nil, ↓reduceIte]
    rw [Act.outcome_bind, Act.outcome_note]
    simp only
    rw [Act.outcome_bind, Act.outcome_ask, Session.adding_adding, Session.adding_adding, map_eq_pure_bind,
      Act.outcome_bind]
    rfl
  · simp only [List.isEmpty_iff, hempty, ↓reduceIte]
    rfl

theorem detail_of_reading (e : Extractor) {method : Method} {docblock : Docblock}
    (h : (e.reader.reading method.comment).outcome = .ok docblock) :
    if docblock.summary = [] then e.TakesFallback method else e.TakesDocblock method docblock := by
  split
  · rename_i hempty
    exact fun s => ⟨_, by rw [e.outcome_detail h, if_pos hempty, asking]⟩
  · rename_i hne
    exact fun s => ⟨_, by rw [e.outcome_detail h, if_neg hne]⟩

/-- A summary is a line. It is empty or has something in it to see, unless the comment begins hollow; then it is one of
    blanks. A method with a summary that can be seen, or with a hollow comment, is taken for one with a docblock; about
    any other the fallback is asked. -/
theorem summary_seen_unless_hollow {style : Style} {marker : Char} (hm : style.marker? = some marker)
    (raw : Option Text) {docblock : Docblock}
    (h : ((Reader.style style).reading (.ofText? raw)).outcome = .ok docblock) :
    '\n' ∉ docblock.summary ∧
    (docblock.summary ≠ [] ∧ allBlank docblock.summary = true ↔ BeginsHollow marker (raw.getD [])) ∧
    ∀ (e : Extractor) (method : Method), e.reader = .style style → method.comment = .ofText? raw →
      (allBlank docblock.summary = false ∨ BeginsHollow marker (raw.getD []) → e.TakesDocblock method docblock) ∧
      (allBlank docblock.summary = true ∧ ¬BeginsHollow marker (raw.getD []) → e.TakesFallback method) := by
  have hcomment := h
  rw [Docblock.reading_ofText?] at hcomment
  obtain ⟨hfeed, hiff⟩ := Docblock.summary_blank_iff hm hcomment
  refine ⟨hfeed, hiff, fun e method hreader htext => ?_⟩
  have hread : (e.reader.reading method.comment).outcome = .ok docblock := by rw [hreader, htext, h]
  have hpath := e.detail_of_reading hread
  refine ⟨fun hseen => ?_, fun ⟨hblank, hfull⟩ => ?_⟩
  · have hne : docblock.summary ≠ [] := by
      rcases hseen with hseen | hhollow
      · rintro hempty
        rw [hempty] at hseen
        cases hseen
      · exact (hiff.mpr hhollow).1
    rwa [if_neg hne] at hpath
  · have hempty : docblock.summary = [] := Decidable.byContradiction fun hne => hfull (hiff.mp ⟨hne, hblank⟩)
    rwa [if_pos hempty] at hpath

/-- One line of blanks before the summary does no harm. -/
theorem summary_seen_unless_hollow_one :
    ((Reader.style .rest).reading (.ofText? (some "\n    \n Stops.\n :return: y"))).outcome =
      .ok ⟨"Stops.", [], [{ kind := .returns, desc := "y" }]⟩ ∧
    isHollow (parts ':' "\n    \n Stops.\n :return: y").1 = false ∧
    ∀ (e : Extractor) (method : Method), e.reader = .style .rest →
      method.comment = .ofText? (some "\n    \n Stops.\n :return: y") →
      e.TakesDocblock method ⟨"Stops.", [], [{ kind := .returns, desc := "y" }]⟩ :=
  have hread : ((Reader.style .rest).reading (.ofText? (some "\n    \n Stops.\n :return: y"))).outcome =
      .ok ⟨"Stops.", [], [{ kind := .returns, desc := "y" }]⟩ := by decide
  have hmarker : Style.marker? .rest = some ':' := rfl
  ⟨hread, by decide, fun e method hreader hcomment =>
    ((summary_seen_unless_hollow hmarker _ hread).2.2 e method hreader hcomment).1 (Or.inl (by decide))⟩

/-- After two lines of blanks the second is the summary, and the details of a method are made from it. -/
theorem summary_of_blanks :
    ((Reader.style .epydoc).reading (.ofText? (some "\n \n \nx"))).outcome = .ok ⟨" ", "x", []⟩ ∧
    ((Reader.style .rest).reading (.ofText? (some "\n \n \n:return: y"))).outcome =
      .ok ⟨" ", [], [{ kind := .returns, desc := "y" }]⟩ ∧
    ∀ (source : Source) (fallback : Fallback),
      (detail ⟨source, .style .epydoc, fallback⟩
          { name := .text "stop", owner := "Pump", comment := .text "\n \n \nx" }).outcome {} =
        (.ok { short := some " ", long := some "x", parameters := some [], returns := some [], throws := some [],
               visibility := some "public" }, {}) :=
  ⟨by decide, by decide, fun _ _ => rfl⟩

end Extractor
end ApiDocs
