import ApiDocs.Proofs.Docblock.Trailing

/-! Tags of one line as they are written, and what they are read to. Where the text of a tag has no colon, the colon of
    its head is the only one, so the form of the head is found there and no other. The one-line tag is an entry for a
    docblock that is read as a whole, and a piece for one that is read tag by tag. -/

namespace ApiDocs.Docblock.Epydoc

open Text (isBlank allBlank startsSolid words EndsSolid Trailing Line)

/-! ### Identifiers -/

def isAsciiIdentifier (s : Text) : Bool := Text.isIdentifier s && s.all fun c => c.toNat < 0x80

theorem isNameStart_of_ascii {c : Char} (hc : c.toNat < 0x80) (h : Text.isIdentifierStart c = true) :
    isNameStart c = true := by
  rw [Text.isIdentifierStart, Text.inClass_ascii hc] at h
  have hranges : (decide (c.val ≥ 'A'.val ∧ c.val ≤ 'Z'.val) || decide (c.val ≥ 'a'.val) && decide (c.val ≤ 'z'.val) ||
      c == '_') = true := h
  simp only [Bool.or_eq_true, Bool.and_eq_true, decide_eq_true_eq, beq_iff_eq, ge_iff_le, UInt32.le_iff_toNat_le]
    at hranges
  simp only [isNameStart, Bool.and_eq_true, decide_eq_true_eq, Char.le_def, UInt32.le_iff_toNat_le]
  rcases hranges with (⟨hlow, hhigh⟩ | ⟨hlow, hhigh⟩) | rfl
  · exact ⟨hlow, Nat.le_trans hhigh (by decide)⟩
  · exact ⟨Nat.le_trans (by decide) hlow, hhigh⟩
  · decide

theorem isNameChar_of_ascii {c : Char} (hc : c.toNat < 0x80) (h : Text.isIdentifierRest c = true) :
    isNameChar c = true := by
  rw [Text.isIdentifierRest, Text.inClass_ascii hc] at h
  rw [isNameChar, Bool.or_eq_true]
  simp only [Char.isAlphanum, Bool.or_eq_true, or_assoc] at h
  rcases h with halpha | hdigit | hline
  · exact Or.inl (isNameStart_of_ascii hc (by rw [Text.isIdentifierStart, Text.inClass_ascii hc, halpha]; rfl))
  · exact Or.inr hdigit
  · exact Or.inl (isNameStart_of_ascii hc (by rw [Text.isIdentifierStart, Text.inClass_ascii hc, hline, Bool.or_true]))

/-- An identifier of ASCII characters is an argument, and it has name characters only. -/
theorem argument_of_ascii {s : Text} (h : isAsciiIdentifier s = true) :
    isArgument s = true ∧ ∀ c ∈ s, isNameChar c = true := by
  cases s with
  | nil => cases h
  | cons c rest =>
    simp only [isAsciiIdentifier, Text.isIdentifier, List.all_cons, Bool.and_eq_true, List.all_eq_true,
      decide_eq_true_eq] at h
    obtain ⟨⟨hstart, hrest⟩, hc, hascii⟩ := h
    have hfirst := isNameStart_of_ascii hc hstart
    have hchars : ∀ d ∈ rest, isNameChar d = true := fun d hd => isNameChar_of_ascii (hascii d hd) (hrest d hd)
    refine ⟨?_, List.forall_mem_cons.mpr ⟨by rw [isNameChar, hfirst]; rfl, hchars⟩⟩
    have hdrop : rest.dropWhile isNameChar = [] := List.dropWhile_eq_nil_iff.mpr hchars
    rw [isArgument, hfirst, hdrop]
    rfl

/-! ### Heads -/

/-- The head of a tag: what stands before its colon. -/
inductive Head
  | param (name : Text)
  | type (name : Text)
  | returns
  | rtype
  | raises (error : Text)

namespace Head

def word : Head → Text
  | .param _ => "param"
  | .type _ => "type"
  | .returns => "return"
  | .rtype => "rtype"
  | .raises _ => "raise"

def argument? : Head → Option Text
  | .param name | .type name => some name
  | .raises error => some error
  | _ => none

def written (head : Head) : Text :=
  match head.argument? with
  | none => head.word
  | some argument => head.word ++ ' ' :: argument

def subject : Head → Subject
  | .param name => .param name false
  | .type name => .param name true
  | .returns => .returns false false
  | .rtype => .returns true false
  | .raises error => .raises (some error)

/-- An argument is an identifier of ASCII characters. -/
def Regular (head : Head) : Prop := ∀ argument ∈ head.argument?, isAsciiIdentifier argument = true

instance (head : Head) : Decidable head.Regular := inferInstanceAs (Decidable (∀ argument ∈ head.argument?, _))

theorem word_solid (head : Head) : head.word ≠ [] ∧ ∀ c ∈ head.word, isNameChar c = true := by
  cases head <;> exact ⟨List.cons_ne_nil _ _, List.all_eq_true.mp rfl⟩

section Regular
variable {head : Head} (h : head.Regular)
include h

theorem Regular.chars : ∀ c ∈ head.written, isNameChar c = true ∨ c = ' ' := by
  obtain ⟨-, hword⟩ := head.word_solid
  intro c hc
  rw [written] at hc
  cases ha : head.argument? with
  | none =>
    rw [ha] at hc
    exact Or.inl (hword c hc)
  | some argument =>
    rw [ha] at hc
    rcases List.mem_append.mp hc with hc | hc
    · exact Or.inl (hword c hc)
    · rcases List.mem_cons.mp hc with rfl | hc
      · exact Or.inr rfl
      · exact Or.inl ((argument_of_ascii (h argument ha)).2 c hc)

theorem Regular.not_mem {c : Char} (hc : isNameChar c = false) (hspace : c ≠ ' ') : c ∉ head.written := fun hm => by
  rcases h.chars c hm with hname | he
  · rw [hc] at hname
    cases hname
  · exact hspace he

/-- The words of a head, which begins and ends with one of them. -/
theorem Regular.words : words head.written = head.word :: head.argument?.toList ∧ startsSolid head.written = true ∧
    EndsSolid head.written := by
  obtain ⟨hne, hword⟩ := head.word_solid
  have hsolid : ∀ {s : Text}, (∀ c ∈ s, isNameChar c = true) → ∀ c ∈ s, isBlank c = false := fun hs c hc =>
    not_blank_of_isNameChar (hs c hc)
  obtain ⟨c, rest, hcons⟩ := List.exists_cons_of_ne_nil hne
  have hstart : ∀ gap, startsSolid (head.word ++ gap) = true := fun gap => by
    simp [hcons, startsSolid, hsolid hword c (by simp [hcons])]
  rw [written]
  cases ha : head.argument? with
  | none =>
    have hgap := Text.words_append_gap hne (hsolid hword) (show startsSolid [] = false from rfl)
    have hend := endsSolid_append hne (hsolid hword) (Or.inl rfl)
    rw [List.append_nil] at hgap hend
    exact ⟨hgap, by simpa using hstart [], hend⟩
  | some argument =>
    obtain ⟨harg, hchars⟩ := argument_of_ascii (h argument ha)
    have hargne : argument ≠ [] := by
      rintro rfl
      cases harg
    have hone : Text.words argument = [argument] := by
      have hgap := Text.words_append_gap hargne (hsolid hchars) (show startsSolid [] = false from rfl)
      rwa [List.append_nil] at hgap
    have hend : EndsSolid (' ' :: argument) := by
      have hlast := endsSolid_append hargne (hsolid hchars) (Or.inl rfl)
      rw [List.append_nil] at hlast
      exact hlast.of_suffix (List.suffix_cons ' ' argument)
    refine ⟨?_, hstart _, endsSolid_append hne (hsolid hword) (Or.inr hend)⟩
    rw [Text.words_append_gap hne (hsolid hword) (show startsSolid (' ' :: argument) = false from rfl),
      Text.words_cons_blank (by decide), hone]
    rfl

end Regular
end Head

/-! ### Finding a head -/

theorem arguments?_rest {gap desc rest : Text} {args : List Text} (hgap : ':' ∉ gap)
    (h : arguments? (gap ++ ':' :: desc) = some (args, rest)) : rest = desc := by
  cases gap with
  | nil =>
    cases h
    rfl
  | cons c gap =>
    rw [List.mem_cons, not_or] at hgap
    cases hc : isBlank c with
    | false =>
      rw [List.cons_append, arguments?_solid hc (Ne.symm hgap.1)] at h
      cases h
    | true =>
      rw [List.cons_append, arguments?_gap hc hgap.2] at h
      split at h
      · cases h
      · cases h
        rfl

/-- A head is found with its word and its argument, and what is left is the text behind the colon. -/
theorem keyword?_written {keys : List Text} (hkeys : Plain keys) {head : Head} (h : head.Regular)
    (hkey : head.word ∈ keys) (text : Text) :
    keyword? keys (head.written ++ ':' :: text) = some (head.word, head.argument?.toList, text) := by
  have hcolon : ':' ∉ head.written := h.not_mem (by decide) (by decide)
  obtain ⟨hwords, hstart, hend⟩ := h.words
  have hargs : head.argument?.toList.all isArgument = true := by
    rw [List.all_eq_true]
    intro argument ha
    exact (argument_of_ascii (h argument (Option.mem_toList.mp ha))).1
  obtain ⟨⟨key, args, rest⟩, hfound⟩ :=
    Option.isSome_iff_exists.mp (keyword?_of_words hcolon hkey hwords hstart hend hargs text)
  obtain ⟨-, hboth, -⟩ := keyword?_eq_some hkeys hcolon hfound
  rw [hwords] at hboth
  cases hboth
  obtain ⟨key, hmem, hone⟩ := List.exists_of_findSome?_eq_some hfound
  obtain ⟨left, hleft, hone⟩ := Option.bind_eq_some_iff.mp hone
  obtain ⟨⟨args, rest'⟩, hargs, hone⟩ := Option.bind_eq_some_iff.mp hone
  cases hone
  obtain ⟨gap, hgap, rfl⟩ := exists_gap (hkeys.solid hmem).1 (after?_eq_some_iff.mp hleft)
  rw [hfound, arguments?_rest (fun hm => hcolon (hgap ▸ List.mem_append_right _ hm)) hargs]

theorem search_of_start {α : Type} {p : Text → Option α} {s : Text} {a : α} (h : p s = some a) :
    Text.search p s = some a := by
  cases s with
  | nil => exact h
  | cons c s => rw [Text.search, h, Option.some_or]

/-- A form of which no word is the end of a word of the head is not found. -/
theorem Form.search_eq_none {keys : List Text} {fact : Text → List Text → Subject → Prop}
    {p : Text → Option (Subject × Text)} (hform : Form keys fact p) (hkeys : Plain keys) {s desc : Text} (hs : ':' ∉ s)
    (hdesc : ':' ∉ desc)
    (hno : ∀ key ∈ keys, ∀ whole args, (whole :: args) <:+ words s → key <:+ whole → ∀ subject, ¬fact key args subject) :
    Text.search p (s ++ ':' :: desc) = none := by
  cases hfound : Text.search p (s ++ ':' :: desc) with
  | none => rfl
  | some found =>
    obtain ⟨-, key, hkey, whole, args, hsuffix, hpart, hfact⟩ := hform.of_search hkeys hs hdesc hfound
    exact absurd hfact (hno key hkey whole args hsuffix hpart found.1)

theorem subject?_written {head : Head} (h : head.Regular) {text : Text} (htext : ':' ∉ text) :
    subject? (head.written ++ ':' :: text) = some (head.subject, text) := by
  obtain ⟨hp, ha, hr, ht⟩ := plain_words
  have hcolon : ':' ∉ head.written := h.not_mem (by decide) (by decide)
  obtain ⟨hwords, -, -⟩ := h.words
  -- A parameter has two words.
  have hone : head.argument? = none → ∀ {keys : List Text}, Plain keys →
      Text.search (param? keys) (head.written ++ ':' :: text) = none := fun hnone keys hkeys => by
    refine (form_param keys).search_eq_none hkeys hcolon htext fun key _ whole args hsuffix _ subject => ?_
    rintro ⟨name, isType, rfl, -⟩
    rw [hwords, hnone] at hsuffix
    exact absurd hsuffix.length_le (by simp)
  have hraises : (∀ key ∈ ["raise".toList], ¬key <:+ head.word) → head.argument? = none →
      Text.search raises? (head.written ++ ':' :: text) = none := fun hno hnone => by
    refine form_raises.search_eq_none hr hcolon htext fun key hkey whole args hsuffix hpart _ _ => ?_
    rw [hwords, hnone] at hsuffix
    rw [(eq_of_suffix_header hsuffix (Nat.zero_le _)).1] at hpart
    exact hno key hkey hpart
  cases head with
  | param name =>
    have hfound := keyword?_written hp h List.mem_cons_self text
    rw [subject?, search_of_start (a := (.param name false, text)) (by rw [param?, hfound]; rfl)]
    rfl
  | type name =>
    have hkey : (Head.type name).word ∈ ["param".toList, "keyword".toList, "type".toList] :=
      List.mem_cons_of_mem _ (List.mem_cons_of_mem _ (List.mem_singleton_self _))
    have hfound := keyword?_written hp h hkey text
    rw [subject?, search_of_start (a := (.param name true, text)) (by rw [param?, hfound]; rfl)]
    rfl
  | returns =>
    have hfound := keyword?_written ht h (by decide) text
    rw [subject?, hone rfl hp, hone rfl ha, hraises (by decide) rfl,
      search_of_start (a := (.returns false false, text)) (by rw [returns?, hfound]; rfl)]
    rfl
  | rtype =>
    have hfound := keyword?_written ht h (by decide) text
    rw [subject?, hone rfl hp, hone rfl ha, hraises (by decide) rfl,
      search_of_start (a := (.returns true false, text)) (by rw [returns?, hfound]; rfl)]
    rfl
  | raises error =>
    have hfound := keyword?_written hr h (List.mem_singleton_self _) text
    have hparam : ∀ {keys : List Text}, Plain keys → (∀ key ∈ keys, ¬key <:+ "raise".toList) →
        Text.search (param? keys) ((Head.raises error).written ++ ':' :: text) = none := fun {keys} hkeys hno => by
      refine (form_param keys).search_eq_none hkeys hcolon htext fun key hkey whole args hsuffix hpart subject => ?_
      rintro ⟨name, isType, rfl, -⟩
      rw [hwords] at hsuffix
      rw [(eq_of_suffix_header hsuffix (Nat.le_refl _)).1] at hpart
      exact hno key hkey hpart
    rw [subject?, hparam hp (by decide), hparam ha (by decide),
      search_of_start (a := (.raises (some error), text)) (by rw [raises?, hfound]; rfl)]
    rfl

/-! ### Lines with a tag -/

structure TagLine where
  head : Head
  text : Text

namespace TagLine

def written (line : TagLine) : Text := '@' :: (line.head.written ++ ':' :: ' ' :: line.text)

/-- The text is not blank and has no colon, and it is all on one line. -/
structure Regular (line : TagLine) : Prop where
  head : line.head.Regular
  seen : allBlank line.text = false
  feed : '\n' ∉ line.text
  colon : ':' ∉ line.text

instance (line : TagLine) : Decidable line.Regular :=
  decidable_of_iff (line.head.Regular ∧ allBlank line.text = false ∧ '\n' ∉ line.text ∧ ':' ∉ line.text)
    ⟨fun ⟨head, seen, feed, colon⟩ => ⟨head, seen, feed, colon⟩, fun h => ⟨h.head, h.seen, h.feed, h.colon⟩⟩

/-- What the line says in a docblock. -/
def entry (line : TagLine) : Entry := ⟨line.head.subject, Text.trim line.text⟩

/-- What the line says on its own. -/
def piece (line : TagLine) : Piece :=
  match line.head with
  | .param name => .items [.param name none (Text.trim line.text)]
  | .type name => .paramType [name] (Text.trim line.text)
  | .returns => .items [.returns none (Text.trim line.text) false]
  | .rtype => .returnType (Text.trim line.text)
  | .raises error => .items [.raises (some error) (Text.trim line.text)]

section Regular
variable {tag : TagLine} (h : tag.Regular)
include h

theorem Regular.not_mem {c : Char} (hname : isNameChar c = false) (hspace : c ≠ ' ') (hmarks : c ≠ '@' ∧ c ≠ ':')
    (htext : c ∉ tag.text) : c ∉ tag.written := by
  simp only [written, List.mem_cons, List.mem_append, not_or]
  exact ⟨hmarks.1, h.head.not_mem hname hspace, hmarks.2, hspace, htext⟩

theorem Regular.line (htab : '\t' ∉ tag.text) : Line tag.written :=
  ⟨rfl, h.not_mem (by decide) (by decide) (by decide) h.feed, h.not_mem (by decide) (by decide) (by decide) htab⟩

theorem Regular.entry_written : Epydoc.entry tag.written = .ok tag.entry := by
  have hcolon : ':' ∉ ' ' :: tag.text := by
    rw [List.mem_cons, not_or]
    exact ⟨by decide, h.colon⟩
  have htail : Text.cleanTail (Text.trim tag.text) = Text.trim tag.text := by
    have hfeed : '\n' ∉ Text.trim tag.text := fun hm => h.feed (Text.mem_of_mem_trim hm)
    rw [Text.cleanTail]
    cases hcut : Text.cutFirst '\n' (Text.trim tag.text) with
    | none => rfl
    | some cut => exact absurd (by rw [(Text.cutFirst_eq_some hcut).1]; simp) hfeed
  have hspace : Text.trim (' ' :: tag.text) = Text.trim tag.text := rfl
  rw [Epydoc.entry, written, subject?_marker, subject?_written h.head hcolon]
  simp only [hspace, htail]
  rfl

theorem Regular.header_written :
    Piece.header tag.written = (tag.head.word :: tag.head.argument?.toList, Text.trim tag.text) := by
  rw [Piece.header, written, List.drop_one, List.tail_cons, Text.cutFirst_append (h.head.not_mem (by decide) (by decide))]
  simp only [h.head.words.1]
  rfl

/-- A line on its own is read to its piece, also with blanks behind it. -/
theorem Regular.piece_written (htab : '\t' ∉ tag.text) {b : Text} (hb : Trailing b) :
    Piece.read .epydoc (tag.written ++ b) = .ok tag.piece := by
  obtain ⟨b', hb', hclean⟩ := (h.line htab).clean hb
  have hread : Style.read .epydoc (tag.written ++ b) = .ok (Outline.ofLead [] (items [tag.entry] [] [tag.entry])) := by
    rw [Style.read, read_of_clean_line (h.line htab) hb' hclean, entry_append _ hb'.1, h.entry_written]
    rfl
  have hpiece : Piece.ofChunk (tag.written ++ b) (items [tag.entry] [] [tag.entry]) = tag.piece := by
    rw [written, Piece.ofChunk_append hb.1, ← written, Piece.ofChunk, Piece.key, h.header_written]
    obtain ⟨head, text⟩ := tag
    cases head with
    | param name =>
      have hlast : ∀ isType, lastOf [⟨.param name false, Text.trim text⟩] name isType =
          if isType then none else some (Text.trim text) := fun isType => by
        cases isType <;> simp [lastOf, Subject.name?, Entry.isType]
      show Piece.items [.param name ((lastOf [⟨.param name false, Text.trim text⟩] name true).map dropOptional)
        ((lastOf [⟨.param name false, Text.trim text⟩] name false).getD [])] = _
      rw [hlast, hlast]
      rfl
    | type name => rfl
    | returns => rfl
    | rtype => rfl
    | raises error => rfl
  rw [Piece.read, hread]
  exact congrArg Except.ok hpiece

end Regular

def expand (tag : TagLine) : TagLine := { tag with text := Text.expandTabs (tag.head.written.length + 3) tag.text }

theorem Regular.written_expand {tag : TagLine} (h : tag.Regular) :
    tag.expand.written = Text.expandTabs 0 tag.written := by
  have hsplit : tag.written = ('@' :: (tag.head.written ++ [':', ' '])) ++ tag.text := by simp [written]
  have hplain : ∀ c ∈ '@' :: (tag.head.written ++ [':', ' ']), c ≠ '\t' ∧ c ≠ '\n' ∧ c ≠ '\r' := by
    intro c hc
    simp only [List.mem_cons, List.mem_append, List.not_mem_nil, or_false] at hc
    rcases hc with rfl | hc | rfl | rfl
    · decide
    · refine ⟨?_, ?_, ?_⟩ <;> rintro rfl <;> exact h.head.not_mem (by decide) (by decide) hc
    · decide
    · decide
  have hlength : 0 + ('@' :: (tag.head.written ++ [':', ' '])).length = tag.head.written.length + 3 := by simp
  rw [hsplit, Text.expandTabs_append hplain, hlength]
  simp [written, expand]

theorem Regular.expand {tag : TagLine} (h : tag.Regular) : tag.expand.Regular where
  head := h.head
  seen := by rw [← h.seen]; exact Text.allBlank_eq_of_words (Text.words_expandTabs _ tag.text).1
  feed := Text.not_mem_feed_expandTabs h.feed _
  colon := fun hm => (Text.mem_expandTabs hm).elim h.colon (by decide)

end TagLine

/-! ### Lines one after the other -/

/-- The chunks of a text of such lines: each line with its line feed, the last one without. -/
def chunks : List TagLine → List Text
  | [] => []
  | [tag] => [tag.written]
  | tag :: rest => (tag.written ++ ['\n']) :: chunks rest

section Lines
variable {tags : List TagLine} (h : ∀ tag ∈ tags, tag.Regular)
include h

theorem cutBefore_written :
    Text.cutBefore (Text.startsWith '@') (Text.unlines (tags.map TagLine.written)) = ([], chunks tags) := by
  have hfeed : ∀ {tag : TagLine}, tag.Regular → '\n' ∉ tag.written := fun h =>
    h.not_mem (by decide) (by decide) (by decide) h.feed
  have hstart : ∀ tag : TagLine, Text.startsWith '@' tag.written = true := fun _ => rfl
  induction tags with
  | nil => rfl
  | cons tag rest ih =>
    obtain ⟨htag, hrest⟩ := List.forall_mem_cons.mp h
    cases rest with
    | nil =>
      have hne : tag.written ≠ [] := List.cons_ne_nil _ _
      have hline := Text.cutBefore_line hne (hfeed htag) (show '@' ∉ [] from List.not_mem_nil)
      rw [List.append_nil, if_pos (hstart tag)] at hline
      simpa [Text.unlines, chunks] using hline
    | cons second rest =>
      rw [List.map_cons, List.map_cons, Text.unlines_cons_cons, Text.cutBefore_append_feed (by decide) (hfeed htag),
        if_pos (hstart tag), ← List.map_cons, ih hrest]
      rfl

theorem mapM_entry_chunks : (chunks tags).mapM entry = .ok (tags.map TagLine.entry) := by
  have hentry : ∀ {tag : TagLine} {b : Text}, tag.Regular → allBlank b = true → entry (tag.written ++ b) = .ok tag.entry :=
    fun {tag b} h hb => by rw [entry_append _ hb, h.entry_written]; rfl
  induction tags with
  | nil => rfl
  | cons tag rest ih =>
    obtain ⟨htag, hrest⟩ := List.forall_mem_cons.mp h
    cases rest with
    | nil =>
      rw [chunks, List.mapM_cons, htag.entry_written]
      rfl
    | cons second rest =>
      rw [chunks, List.mapM_cons, hentry htag (by decide), ih hrest]
      · rfl
      · simp

theorem readPieces_chunks (htabs : ∀ tag ∈ tags, '\t' ∉ tag.text) :
    readPieces .epydoc (chunks tags) = (tags.map TagLine.piece, none) := by
  induction tags with
  | nil => rfl
  | cons tag rest ih =>
    obtain ⟨htag, hrest⟩ := List.forall_mem_cons.mp h
    obtain ⟨htab, htabs⟩ := List.forall_mem_cons.mp htabs
    cases rest with
    | nil =>
      have hpiece := htag.piece_written htab .nil
      rw [List.append_nil] at hpiece
      rw [chunks, readPieces_cons, hpiece]
      rfl
    | cons second rest =>
      have hpiece := htag.piece_written htab (.feed (show allBlank [] = true from rfl))
      rw [chunks, readPieces_cons, hpiece, ih hrest htabs]
      · rfl
      · simp

end Lines

end ApiDocs.Docblock.Epydoc
