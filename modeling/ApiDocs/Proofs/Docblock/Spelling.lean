import ApiDocs.Proofs.Docblock.Shown
import ApiDocs.Proofs.Text.Words

/-! What a chunk makes of its header as it is written. The chunk is cleaned once more before it is read, and more tags
    may come to light in it, but the first of them has the words of the header. In the reST style that settles what it
    is. In the epydoc style the forms of tags are looked for in the whole tag, one form after the other, so that a tag
    in one form may be taken for another; where there is no colon but that of the header, there is nothing else to be
    found. -/

namespace ApiDocs.Docblock

/-! ### Headers as they are written -/

theorem Piece.header_words (chunk : Text) :
    (header chunk).1 = Text.words ((chunk.drop 1).takeWhile (· != ':')) := by
  rw [header]
  cases hc : Text.cutFirst ':' (chunk.drop 1) with
  | none =>
    have h := Text.takeWhile_append_of_not_mem (Text.cutFirst_eq_none hc) []
    rw [List.append_nil] at h
    rw [h, List.takeWhile_nil, List.append_nil]
  | some cut =>
    obtain ⟨before, after⟩ := cut
    obtain ⟨hsplit, hno⟩ := Text.cutFirst_eq_some hc
    rw [hsplit, Text.takeWhile_append_of_not_mem hno, List.takeWhile_cons_of_neg (by simp), List.append_nil]

/-- Every chunk begins with the marker. -/
theorem exists_cons_of_mem_parts {marker : Char} {comment chunk : Text} (h : chunk ∈ (parts marker comment).2) :
    ∃ rest, chunk = marker :: rest := by
  have hcut : ∀ (s : Text) (atStart : Bool), chunk ∈ (Text.cutFrom (Text.startsWith marker) atStart s).2 →
      ∃ rest, chunk = marker :: rest := by
    intro s
    induction s with
    | nil => exact fun _ h => absurd h List.not_mem_nil
    | cons c s ih =>
      intro atStart h
      simp only [Text.cutFrom] at h
      split at h
      · rename_i hb
        rcases List.mem_cons.mp h with rfl | h
        · have hc : c = marker := by simpa [Text.startsWith] using (Bool.and_eq_true_iff.mp hb).2
          exact ⟨_, by rw [hc]⟩
        · exact ih _ h
      · exact ih _ h
  exact hcut _ true h

/-- The first tag that comes to light in a chunk stands at its start, and the words of the header stay as they are. -/
theorem revealed_cons {marker : Char} (hm : Text.isBlank marker = false) (s : Text) :
    ∃ first others, revealed marker (marker :: s) = (marker :: first) :: others ∧
      Text.words (first ++ others.flatten) = Text.words s ∧
      (Piece.header (marker :: s)).1 = Text.words ((first ++ others.flatten).takeWhile (· != ':')) := by
  obtain ⟨rest, hclean, hwords⟩ := Text.clean_cons hm s
  have hflat := Text.cutFrom_flatten (Text.startsWith marker) (marker == '\n') rest
  rcases hcut : Text.cutFrom (Text.startsWith marker) (marker == '\n') rest with ⟨first, others⟩
  rw [hcut] at hflat
  refine ⟨first, others, ?_, by rw [hflat, hwords], ?_⟩
  · rw [revealed, hclean, Text.cutBefore, Text.cutFrom, hcut]
    simp [Text.startsWith]
  · rw [hflat, Piece.header_words, List.drop_one, List.tail_cons, Text.words_takeWhile (by decide),
      Text.words_takeWhile (by decide), hwords]

/-! ### reST -/

namespace Rest

/-- The header of the first tag in a chunk has the words of the chunk. -/
theorem headerWords?_first {s first : Text} {others : List Text} {words : List Text}
    (hw : (Piece.header (':' :: s)).1 = Text.words ((first ++ others.flatten).takeWhile (· != ':')))
    (hne : (Piece.header (':' :: s)).1 ≠ []) (h : headerWords? (':' :: first) = some words) :
    (Piece.header (':' :: s)).1 = words := by
  rw [headerWords?, List.dropWhile_cons_of_pos (by simp)] at h
  cases first with
  | nil => cases h
  | cons c first =>
    by_cases hc : c = ':'
    · subst hc
      rw [List.cons_append, List.takeWhile_cons_of_neg (by simp), Text.words_nil] at hw
      exact absurd hw hne
    · rw [List.dropWhile_cons_of_neg (by simpa using hc)] at h
      obtain ⟨⟨before, after⟩, hcut, rfl⟩ := Option.map_eq_some_iff.mp h
      obtain ⟨hsplit, hno⟩ := Text.cutFirst_eq_some hcut
      rw [hw, hsplit, List.append_assoc, Text.takeWhile_append_of_not_mem hno, List.cons_append,
        List.takeWhile_cons_of_neg (by simp), List.append_nil]

/-- A chunk whose word, as it is written, stands for a kind gives a tag of that kind. -/
theorem gives_of_header {kind : Kind} {s word : Text} {args : List Text} {outline : Outline}
    (h : read (':' :: s) = .ok outline) (hw : (Piece.header (':' :: s)).1 = word :: args) (hk : word ∈ wordsOf kind) :
    Gives kind (revealed ':' (':' :: s)) := by
  obtain ⟨first, others, hrevealed, -, hheader⟩ := revealed_cons (show Text.isBlank ':' = false by decide) s
  have hformed := read_ok_iff.mp ⟨outline, h⟩
  rw [hrevealed] at hformed ⊢
  obtain ⟨key, rest, hfirst, -⟩ := hformed _ List.mem_cons_self
  have hsame := headerWords?_first hheader (by simp [hw]) hfirst
  rw [hw] at hsame
  cases hsame
  exact Or.inl ⟨word :: args, List.mem_filterMap.mpr ⟨_, List.mem_cons_self, hfirst⟩, Or.inl hk⟩

end Rest

/-! ### Epydoc -/

namespace Epydoc
open Text (words isBlank startsSolid EndsSolid)

/-- The words of a header in one of the forms for a kind of tag. -/
inductive Spells : Kind → List Text → Prop
  | param {word name : Text} (hword : word ∈ ["param".toList, "keyword".toList]) (hname : isArgument name = true) :
    Spells .param [word, name]
  | returns : Spells .returns ["return".toList]
  | raises {types : List Text} (hone : types.length ≤ 1) (htype : types.all isArgument = true) :
    Spells .throws ("raise".toList :: types)

/-! The arguments of a tag are found up to its colon. -/

theorem mem_of_arguments? {s : Text} {found : List Text × Text} (h : arguments? s = some found) : ':' ∈ s := by
  unfold arguments? at h
  split at h
  · exact List.mem_cons_self
  · split at h
    · obtain ⟨⟨gap, rest⟩, hcut, -⟩ := Option.bind_eq_some_iff.mp h
      rw [(Text.cutFirst_eq_some hcut).1]
      simp
    · cases h
  · cases h

theorem arguments?_gap {c : Char} (hc : isBlank c = true) {gap : Text} (hgap : ':' ∉ gap) (desc : Text) :
    arguments? (c :: (gap ++ ':' :: desc)) =
      if (words gap).isEmpty || Text.trimRight gap != gap || !(words gap).all isArgument then none
      else some (words gap, desc) := by
  unfold arguments?
  split
  · rename_i he
    rw [(List.cons.inj he).1] at hc
    cases hc
  · rename_i he
    obtain ⟨rfl, rfl⟩ := List.cons.inj he
    rw [if_pos hc, Text.cutFirst_append hgap]
    rfl
  · rename_i he
    cases he

theorem arguments?_solid {c : Char} (hc : isBlank c = false) (hne : c ≠ ':') (s : Text) :
    arguments? (c :: s) = none := by
  unfold arguments?
  split
  · rename_i he
    exact absurd (List.cons.inj he).1 hne
  · rename_i he
    obtain ⟨rfl, rfl⟩ := List.cons.inj he
    exact if_neg (by simp [hc])
  · rfl

theorem arguments?_eq_some {gap desc rest : Text} {args : List Text} (hgap : ':' ∉ gap)
    (h : arguments? (gap ++ ':' :: desc) = some (args, rest)) :
    words gap = args ∧ startsSolid gap = false ∧ (gap = [] ∨ EndsSolid gap) := by
  cases gap with
  | nil =>
    cases h
    exact ⟨rfl, rfl, Or.inl rfl⟩
  | cons c gap =>
    rw [List.mem_cons, not_or] at hgap
    cases hc : isBlank c with
    | false =>
      rw [List.cons_append, arguments?_solid hc (Ne.symm hgap.1)] at h
      cases h
    | true =>
      rw [List.cons_append, arguments?_gap hc hgap.2] at h
      split at h
      · cases h
      · rename_i hform
        cases h
        simp only [Bool.or_eq_true, not_or, bne_iff_ne, ne_eq, Decidable.not_not] at hform
        have hne : gap ≠ [] := by
          rintro rfl
          simp at hform
        have hend := (Text.endsSolid_of_trimRight hform.1.2 hne).of_suffix (List.suffix_cons c gap)
        exact ⟨Text.words_cons_blank hc gap, by simp [startsSolid, hc], Or.inr hend⟩

theorem arguments?_of_gap {gap : Text} (hgap : ':' ∉ gap) (hs : startsSolid gap = false)
    (he : gap = [] ∨ EndsSolid gap) (hargs : (words gap).all isArgument = true) (desc : Text) :
    arguments? (gap ++ ':' :: desc) = some (words gap, desc) := by
  cases gap with
  | nil => rfl
  | cons c gap =>
    rw [List.mem_cons, not_or] at hgap
    have hc : isBlank c = true := by simpa [startsSolid] using hs
    have hend : EndsSolid gap := by
      have hwhole : EndsSolid ([c] ++ gap) := he.resolve_left (by simp)
      refine hwhole.right ?_
      rintro rfl
      obtain ⟨last, hlast, hb⟩ := hwhole
      cases hlast
      exact absurd (hc.symm.trans hb) (by decide)
    rw [Text.words_cons_blank hc] at hargs ⊢
    rw [List.cons_append, arguments?_gap hc hgap.2, if_neg]
    simp [hend.words_ne_nil, hend.trimRight_eq, hargs]

/-! A word and its arguments make up all words before the colon. -/

theorem after?_eq_some_iff {start s rest : Text} : Text.after? start s = some rest ↔ s = start ++ rest := by
  rw [Text.after?]
  constructor
  · intro h
    split at h
    · rename_i hp
      obtain ⟨tail, rfl⟩ := List.isPrefixOf_iff_prefix.mp hp
      cases h
      rw [List.drop_left]
    · cases h
  · rintro rfl
    rw [if_pos (List.isPrefixOf_iff_prefix.mpr (List.prefix_append start rest)), List.drop_left]

/-- A word without a colon ends before the colon. -/
theorem exists_gap {key s rest desc : Text} (hkey : ':' ∉ key) (h : s ++ ':' :: desc = key ++ rest) :
    ∃ gap, s = key ++ gap ∧ rest = gap ++ ':' :: desc := by
  rcases List.append_eq_append_iff.mp h with ⟨more, hmore, hrest⟩ | ⟨gap, hgap, hrest⟩
  · cases more with
    | nil => exact ⟨[], by simpa using hmore.symm, hrest.symm⟩
    | cons c more =>
      rw [← (List.cons.inj hrest).1] at hmore
      exact absurd (by simp [hmore]) hkey
  · exact ⟨gap, hgap, hrest⟩

theorem endsSolid_append {key gap : Text} (hne : key ≠ []) (hkey : ∀ c ∈ key, isBlank c = false)
    (hgap : gap = [] ∨ EndsSolid gap) : EndsSolid (key ++ gap) := by
  rcases hgap with rfl | hgap
  · obtain ⟨c, hc⟩ := Option.isSome_iff_exists.mp (List.getLast?_isSome.mpr hne)
    exact ⟨c, by rw [List.append_nil, hc], hkey c (List.mem_of_getLast? hc)⟩
  · exact hgap.of_suffix (List.suffix_append key gap)

/-- Words that a header can begin with. -/
def Plain (keys : List Text) : Prop := ∀ key ∈ keys, key ≠ [] ∧ key.all (fun c => !isBlank c && c != ':') = true

instance (keys : List Text) : Decidable (Plain keys) := inferInstanceAs (Decidable (∀ key ∈ keys, _))

theorem Plain.solid {keys : List Text} (h : Plain keys) {key : Text} (hkey : key ∈ keys) :
    ':' ∉ key ∧ ∀ c ∈ key, isBlank c = false := by
  have hall : ∀ c ∈ key, isBlank c = false ∧ c ≠ ':' := fun c hc => by
    simpa using List.all_eq_true.mp (h key hkey).2 c hc
  exact ⟨fun hc => (hall ':' hc).2 rfl, fun c hc => (hall c hc).1⟩

theorem keyword?_eq_some {keys : List Text} (hkeys : Plain keys) {s desc key rest : Text} {args : List Text}
    (hs : ':' ∉ s) (h : keyword? keys (s ++ ':' :: desc) = some (key, args, rest)) :
    key ∈ keys ∧ words s = key :: args ∧ EndsSolid s := by
  obtain ⟨found, hfound, h⟩ := List.exists_of_findSome?_eq_some h
  obtain ⟨left, hleft, h⟩ := Option.bind_eq_some_iff.mp h
  obtain ⟨⟨args', rest'⟩, hargs, h⟩ := Option.bind_eq_some_iff.mp h
  cases h
  have hne := (hkeys key hfound).1
  obtain ⟨hcolon, hsolid⟩ := hkeys.solid hfound
  obtain ⟨gap, rfl, rfl⟩ := exists_gap hcolon (after?_eq_some_iff.mp hleft)
  obtain ⟨hwords, hstart, hend⟩ := arguments?_eq_some (fun hm => hs (List.mem_append_right key hm)) hargs
  exact ⟨hfound, by rw [Text.words_append_gap hne hsolid hstart, hwords], endsSolid_append hne hsolid hend⟩

theorem keyword?_of_words {keys : List Text} {s key : Text} {args : List Text} (hs : ':' ∉ s) (hkey : key ∈ keys)
    (hwords : words s = key :: args) (hstart : startsSolid s = true) (hend : EndsSolid s)
    (hargs : args.all isArgument = true) (desc : Text) : (keyword? keys (s ++ ':' :: desc)).isSome = true := by
  obtain ⟨gap, rfl, hgap, rfl⟩ := Text.exists_append_of_words hstart hwords
  have hlast : gap = [] ∨ EndsSolid gap := by
    by_cases hne : gap = []
    · exact Or.inl hne
    · exact Or.inr (hend.right hne)
  have hfound := arguments?_of_gap (fun hm => hs (List.mem_append_right key hm)) hgap hlast hargs desc
  rw [keyword?, List.findSome?_isSome_iff]
  refine ⟨key, hkey, ?_⟩
  rw [List.append_assoc, after?_eq_some_iff.mpr rfl]
  simp [hfound]

/-! Each form, where it is found right before the colon. -/

section Forms
variable {s desc : Text} {found : Subject × Text}

theorem mem_of_keyword? {keys : List Text} {s : Text} {found : Text × List Text × Text}
    (h : keyword? keys s = some found) : ':' ∈ s := by
  obtain ⟨key, -, h⟩ := List.exists_of_findSome?_eq_some h
  obtain ⟨rest, hrest, h⟩ := Option.bind_eq_some_iff.mp h
  obtain ⟨_, hargs, -⟩ := Option.bind_eq_some_iff.mp h
  rw [after?_eq_some_iff.mp hrest]
  exact List.mem_append_right key (mem_of_arguments? hargs)

/-- A form that is known by one of some words: where it is found there is such a word with arguments, and `fact` holds
    of them and of what the tag is about. -/
def Form (keys : List Text) (fact : Text → List Text → Subject → Prop) (p : Text → Option (Subject × Text)) : Prop :=
  ∀ s found, p s = some found → ∃ key args rest, keyword? keys s = some (key, args, rest) ∧ fact key args found.1

theorem form_param (keys : List Text) :
    Form keys (fun _ args subject => ∃ name isType, args = [name] ∧ subject = .param name isType) (param? keys) := by
  intro s found h
  unfold param? at h
  split at h
  · rename_i key name rest hk
    cases h
    exact ⟨key, [name], rest, hk, name, _, rfl, rfl⟩
  · cases h

theorem form_raises : Form ["raise"] (fun _ _ subject => ∃ type, subject = .raises type) raises? := by
  intro s found h
  unfold raises? at h
  split at h
  · rename_i key rest hk
    cases h
    exact ⟨key, [], rest, hk, _, rfl⟩
  · rename_i key type rest hk
    cases h
    exact ⟨key, [type], rest, hk, _, rfl⟩
  · cases h

theorem form_returns : Form (returnWords.map Prod.fst)
    (fun key _ subject => ∃ word, returnWords.lookup key = some word ∧ subject = .returns word.1 word.2) returns? := by
  intro s found h
  unfold returns? at h
  split at h
  · rename_i key rest hk
    obtain ⟨word, hword, rfl⟩ := Option.map_eq_some_iff.mp h
    exact ⟨key, [], rest, hk, word, hword, rfl⟩
  · cases h

theorem Form.colon {keys : List Text} {fact : Text → List Text → Subject → Prop} {p : Text → Option (Subject × Text)}
    (hform : Form keys fact p) {s : Text} {found : Subject × Text} (h : p s = some found) : ':' ∈ s := by
  obtain ⟨key, args, rest, hk, -⟩ := hform s found h
  exact mem_of_keyword? hk

/-- What is found in a form has one of its words, perhaps at the end of a longer word, and all the words after that. -/
theorem Form.of_search {keys : List Text} {fact : Text → List Text → Subject → Prop}
    {p : Text → Option (Subject × Text)} (hform : Form keys fact p) (hkeys : Plain keys) (hs : ':' ∉ s)
    (hdesc : ':' ∉ desc) (h : Text.search p (s ++ ':' :: desc) = some found) :
    EndsSolid s ∧ ∃ key ∈ keys, ∃ whole args, (whole :: args) <:+ words s ∧ key <:+ whole ∧ fact key args found.1 := by
  obtain ⟨t, ht, ha⟩ := Text.search_before_last (fun _ _ => hform.colon) hdesc h
  obtain ⟨key, args, rest, hk, hfact⟩ := hform _ _ ha
  obtain ⟨hkey, hwords, hend⟩ := keyword?_eq_some hkeys (fun hm => hs (ht.mem hm)) hk
  obtain ⟨whole, hwhole, hpart⟩ := Text.words_of_suffix ht hwords
  exact ⟨hend.of_suffix ht, key, hkey, whole, args, hwhole, hpart, hfact⟩

theorem not_blank_of_isNameChar {c : Char} (h : isNameChar c = true) : isBlank c = false := by
  have hrange : 48 ≤ c.toNat ∧ c.toNat ≤ 122 := by
    simp only [isNameChar, isNameStart, Char.isDigit, Bool.or_eq_true, Bool.and_eq_true, decide_eq_true_eq,
      Char.le_def, UInt32.le_iff_toNat_le, ge_iff_le] at h
    rcases h with ⟨hlow, hhigh⟩ | ⟨hlow, hhigh⟩
    · exact ⟨Nat.le_trans (by decide) hlow, hhigh⟩
    · exact ⟨hlow, Nat.le_trans hhigh (by decide)⟩
  simp only [isBlank, Bool.or_eq_false_iff, Bool.and_eq_false_iff, decide_eq_false_iff_not, beq_eq_false_iff_ne]
  omega

theorem endsSolid_of_word? {word : Text × Text} (hs : ':' ∉ s) (h : word? (s ++ ':' :: desc) = some word) :
    EndsSolid s := by
  unfold word? at h
  split at h
  · rename_i c key hname
    split at h
    · obtain ⟨args, hargs, -⟩ := Option.map_eq_some_iff.mp h
      have hsplit := List.takeWhile_append_dropWhile (p := isNameChar) (l := s ++ ':' :: desc)
      have hchars : ∀ d ∈ c :: key, isNameChar d = true := hname ▸ List.all_eq_true.mp List.all_takeWhile
      rw [hname] at hsplit
      have hcolon : ':' ∉ c :: key := fun hm => absurd (hchars _ hm) (by decide)
      obtain ⟨gap, rfl, hgap⟩ := exists_gap hcolon hsplit.symm
      rw [hgap] at hargs
      obtain ⟨-, -, hend⟩ := arguments?_eq_some (fun hm => hs (List.mem_append_right _ hm)) hargs
      exact endsSolid_append (by simp) (fun d hd => not_blank_of_isNameChar (hchars d hd)) hend
    · cases h
  · cases h

theorem mem_of_word? {s : Text} {word : Text × Text} (h : word? s = some word) : ':' ∈ s := by
  unfold word? at h
  split at h
  · split at h
    · obtain ⟨args, hargs, -⟩ := Option.map_eq_some_iff.mp h
      exact (List.dropWhile_suffix isNameChar).mem (mem_of_arguments? hargs)
    · cases h
  · cases h

theorem subject?_marker (s : Text) : subject? ('@' :: s) = subject? s := by
  have hskip : ∀ {α : Type} {p : Text → Option α}, p ('@' :: s) = none → Text.search p ('@' :: s) = Text.search p s :=
    fun h => by rw [Text.search, h]; rfl
  unfold subject?
  rw [hskip rfl, hskip rfl, hskip rfl, hskip rfl, hskip rfl]

/-- The forms are tried one after the other. -/
theorem subject?_cases (h : subject? s = some found) :
    Text.search (param? ["param", "keyword", "type"]) s = some found ∨
    (Text.search (param? ["param", "keyword", "type"]) s = none ∧
      (Text.search (param? ["ivar", "cvar", "var"]) s = some found ∨
      (Text.search raises? s = some found ∨
      (Text.search raises? s = none ∧
        (Text.search returns? s = some found ∨
        (Text.search returns? s = none ∧ ∃ word, Text.search word? s = some word)))))) := by
  unfold subject? at h
  rcases Option.or_eq_some_iff.mp h with h | ⟨hparam, h⟩
  · exact Or.inl h
  refine Or.inr ⟨hparam, ?_⟩
  rcases Option.or_eq_some_iff.mp h with h | ⟨-, h⟩
  · exact Or.inl h
  refine Or.inr ?_
  rcases Option.or_eq_some_iff.mp h with h | ⟨hraises, h⟩
  · exact Or.inl h
  refine Or.inr ⟨hraises, ?_⟩
  rcases Option.or_eq_some_iff.mp h with h | ⟨hreturns, h⟩
  · exact Or.inl h
  refine Or.inr ⟨hreturns, ?_⟩
  split at h
  · rename_i key rest hword
    exact ⟨_, hword⟩
  · cases h

theorem mem_of_subject? (h : subject? s = some found) : ':' ∈ s := by
  have hsearch : ∀ {α : Type} {p : Text → Option α} {a : α}, (∀ t, p t = some a → ':' ∈ t) → Text.search p s = some a →
      ':' ∈ s := by
    intro α p a hp h
    obtain ⟨t, ht, ha⟩ := Text.exists_suffix_of_search h
    exact ht.mem (hp t ha)
  rcases subject?_cases h with h | ⟨-, h | h | ⟨-, h | ⟨-, word, h⟩⟩⟩
  · exact hsearch (fun _ => (form_param _).colon) h
  · exact hsearch (fun _ => (form_param _).colon) h
  · exact hsearch (fun _ => form_raises.colon) h
  · exact hsearch (fun _ => form_returns.colon) h
  · exact hsearch (fun _ => mem_of_word?) h

end Forms

/-- A header in one of the forms is found as it is written. -/
theorem keyword?_of_header {keys : List Text} (hkeys : Plain keys) {s key : Text} {args : List Text} (hs : ':' ∉ s)
    (hkey : key ∈ keys) (hwords : words s = key :: args) (hend : EndsSolid s) (hargs : args.all isArgument = true)
    (desc : Text) : ∃ t rest, t <:+ s ++ ':' :: desc ∧ keyword? keys t = some (key, args, rest) := by
  have hsuffix : Text.trimLeft s <:+ s := List.dropWhile_suffix isBlank
  have hstart : startsSolid (Text.trimLeft s) = true := Text.startsSolid_trimLeft (by simp [hwords])
  have hsame : words (Text.trimLeft s) = key :: args := (Text.words_trimLeft s).trans hwords
  have hcolon : ':' ∉ Text.trimLeft s := fun hm => hs (hsuffix.mem hm)
  have hends : EndsSolid (Text.trimLeft s) := by
    obtain ⟨blanks, hsplit⟩ := hsuffix
    rw [← hsplit] at hend
    refine hend.right fun hnil => ?_
    rw [hnil] at hsame
    cases hsame
  obtain ⟨⟨key', args', rest⟩, hfound⟩ :=
    Option.isSome_iff_exists.mp (keyword?_of_words hcolon hkey hsame hstart hends hargs desc)
  obtain ⟨-, hboth, -⟩ := keyword?_eq_some hkeys hcolon hfound
  rw [hsame] at hboth
  cases hboth
  refine ⟨_, rest, ?_, hfound⟩
  obtain ⟨blanks, hsplit⟩ := hsuffix
  exact ⟨blanks, by rw [← List.append_assoc, hsplit]⟩

/-- Words at the end of a header that are as many as the header has. -/
theorem eq_of_suffix_header {word whole : Text} {args rest : List Text} (h : (whole :: args) <:+ (word :: rest))
    (hl : rest.length ≤ args.length) : whole = word ∧ args = rest := by
  rcases List.suffix_cons_iff.mp h with heq | hlater
  · exact List.cons.inj heq
  · have := hlater.length_le
    simp only [List.length_cons] at this
    omega

theorem plain_words : Plain ["param", "keyword", "type"] ∧ Plain ["ivar", "cvar", "var"] ∧ Plain ["raise"] ∧
    Plain (returnWords.map Prod.fst) := by decide

/-! A tag in one of the forms, without another colon, is about what the form says. -/

section Header
variable {s desc : Text} {found : Subject × Text} (hs : ':' ∉ s) (hdesc : ':' ∉ desc)
  (h : subject? (s ++ ':' :: desc) = some found)
include hs hdesc h

/-- Where something is found, there is no blank before the colon. -/
theorem endsSolid_of_subject? : EndsSolid s := by
  obtain ⟨hp, ha, hr, ht⟩ := plain_words
  rcases subject?_cases h with h | ⟨-, h | h | ⟨-, h | ⟨-, word, h⟩⟩⟩
  · exact ((form_param _).of_search hp hs hdesc h).1
  · exact ((form_param _).of_search ha hs hdesc h).1
  · exact (form_raises.of_search hr hs hdesc h).1
  · exact (form_returns.of_search ht hs hdesc h).1
  · obtain ⟨t, hsuffix, hword⟩ := Text.search_before_last (fun _ _ => mem_of_word?) hdesc h
    exact (endsSolid_of_word? (fun hm => hs (hsuffix.mem hm)) hword).of_suffix hsuffix

theorem subject_of_param {word name : Text} (hw : words s = [word, name])
    (hword : word ∈ ["param".toList, "keyword".toList]) (hname : isArgument name = true) :
    ∃ name isType, found.1 = .param name isType := by
  obtain ⟨hp, -⟩ := plain_words
  have hkey : word ∈ ["param".toList, "keyword".toList, "type".toList] := by
    rw [List.mem_cons, List.mem_singleton] at hword
    rcases hword with rfl | rfl <;> simp
  obtain ⟨t, rest, hsuffix, hfound⟩ :=
    keyword?_of_header hp hs hkey hw (endsSolid_of_subject? hs hdesc h) (by simp [hname]) desc
  have hsome := Text.search_isSome_of_suffix (p := param? ["param", "keyword", "type"]) hsuffix
    (by simp only [param?, hfound]; rfl)
  rcases subject?_cases h with h | ⟨hnone, -⟩
  · obtain ⟨-, -, -, -, -, -, -, name, isType, -, hsubject⟩ := (form_param _).of_search hp hs hdesc h
    exact ⟨name, isType, hsubject⟩
  · rw [hnone] at hsome
    cases hsome

theorem subject_of_return (hw : words s = ["return".toList]) : found.1 = .returns false false := by
  obtain ⟨hp, ha, hr, ht⟩ := plain_words
  -- The header has one word, so there is none for a parameter, and it does not end with that for an error.
  have hone : ∀ {whole : Text} {args : List Text}, (whole :: args) <:+ words s →
      whole = "return".toList ∧ args = [] := by
    intro whole args hsuffix
    rw [hw] at hsuffix
    exact eq_of_suffix_header hsuffix (Nat.zero_le _)
  have hparam : ∀ {keys : List Text}, Plain keys → Text.search (param? keys) (s ++ ':' :: desc) ≠ some found := by
    intro keys hkeys h
    obtain ⟨-, key, -, whole, args, hsuffix, -, name, _, rfl, -⟩ := (form_param _).of_search hkeys hs hdesc h
    cases (hone hsuffix).2
  obtain ⟨t, rest, hsuffix, hfound⟩ :=
    keyword?_of_header ht hs (by decide) hw (endsSolid_of_subject? hs hdesc h) rfl desc
  have hsome := Text.search_isSome_of_suffix (p := returns?) hsuffix (by simp only [returns?, hfound]; rfl)
  rcases subject?_cases h with h | ⟨-, h | h | ⟨-, h | ⟨hnone, -⟩⟩⟩
  · exact absurd h (hparam hp)
  · exact absurd h (hparam ha)
  · obtain ⟨-, key, hkey, whole, args, hsuffix, hpart, -⟩ := form_raises.of_search hr hs hdesc h
    rw [List.mem_singleton.mp hkey, (hone hsuffix).1] at hpart
    exact absurd hpart (by decide)
  · obtain ⟨-, key, hkey, whole, args, hsuffix, hpart, word, hword, hsubject⟩ := form_returns.of_search ht hs hdesc h
    have honly : ∀ key ∈ returnWords.map Prod.fst, key <:+ "return".toList → key = "return".toList := by decide
    rw [(hone hsuffix).1] at hpart
    rw [honly key hkey hpart] at hword
    cases hword
    exact hsubject
  · rw [hnone] at hsome
    cases hsome

theorem subject_of_raise {types : List Text} (hw : words s = "raise".toList :: types) (hone : types.length ≤ 1)
    (htype : types.all isArgument = true) : ∃ type, found.1 = .raises type := by
  obtain ⟨hp, ha, hr, -⟩ := plain_words
  -- A parameter has two words, which would be all there are; but no word for one is the end of this word.
  have hparam : ∀ {keys : List Text}, Plain keys → (∀ key ∈ keys, ¬key <:+ "raise".toList) →
      Text.search (param? keys) (s ++ ':' :: desc) ≠ some found := by
    intro keys hkeys hno h
    obtain ⟨-, key, hkey, whole, args, hsuffix, hpart, name, _, rfl, -⟩ := (form_param _).of_search hkeys hs hdesc h
    rw [hw] at hsuffix
    rw [(eq_of_suffix_header hsuffix hone).1] at hpart
    exact hno key hkey hpart
  obtain ⟨t, rest, hsuffix, hfound⟩ :=
    keyword?_of_header hr hs (List.mem_singleton_self _) hw (endsSolid_of_subject? hs hdesc h) htype desc
  have hraises : (raises? t).isSome = true := by
    rcases types with _ | ⟨type, _ | ⟨more, types⟩⟩
    · simp only [raises?, hfound, Option.isSome_some]
    · simp only [raises?, hfound, Option.isSome_some]
    · simp at hone
  have hsome := Text.search_isSome_of_suffix hsuffix hraises
  rcases subject?_cases h with h | ⟨-, h | h | ⟨hnone, -⟩⟩
  · exact absurd h (hparam hp (by decide))
  · exact absurd h (hparam ha (by decide))
  · obtain ⟨-, -, -, -, -, -, -, hsubject⟩ := form_raises.of_search hr hs hdesc h
    exact hsubject
  · rw [hnone] at hsome
    cases hsome

theorem shows_of_spells {kind : Kind} (hspell : Spells kind (words s)) : found.1.Shows kind := by
  generalize hw : words s = header at hspell
  cases hspell with
  | param hword hname =>
    obtain ⟨_, _, hsubject⟩ := subject_of_param hs hdesc h hw hword hname
    rw [hsubject]
    exact Or.inl rfl
  | returns =>
    rw [subject_of_return hs hdesc h hw]
    exact ⟨rfl, rfl⟩
  | raises hone htype =>
    obtain ⟨_, hsubject⟩ := subject_of_raise hs hdesc h hw hone htype
    rw [hsubject]
    rfl

end Header

/-- A chunk in one of the forms for a kind, without another colon, gives a tag of that kind. -/
theorem gives_of_header {kind : Kind} {s : Text} {outline : Outline} (h : read ('@' :: s) = .ok outline)
    (hspell : Spells kind (Piece.header ('@' :: s)).1) (hcolon : s.count ':' = 1) :
    Gives kind (revealed '@' ('@' :: s)) := by
  obtain ⟨first, others, hrevealed, hwords, hheader⟩ := revealed_cons (show isBlank '@' = false by decide) s
  have hknown := (read_ok_iff.mp ⟨outline, h⟩).known
  rw [hrevealed] at hknown ⊢
  obtain ⟨found, hfound⟩ := Option.isSome_iff_exists.mp (hknown _ List.mem_cons_self)
  have hsubjects : subjects (('@' :: first) :: others) = found.1 :: subjects others := by simp [subjects, hfound]
  rw [subject?_marker] at hfound
  have hcount := Text.count_of_words_eq (show isBlank ':' = false by decide) hwords
  cases hcut : Text.cutFirst ':' first with
  | none => exact absurd (mem_of_subject? hfound) (Text.cutFirst_eq_none hcut)
  | some cut =>
    obtain ⟨header, desc⟩ := cut
    obtain ⟨rfl, hno⟩ := Text.cutFirst_eq_some hcut
    have hdesc : ':' ∉ desc := by
      rw [← List.count_eq_zero]
      rw [hcolon] at hcount
      simp only [List.count_append, List.count_cons_self] at hcount
      omega
    rw [hheader, List.append_assoc, Text.takeWhile_append_of_not_mem hno, List.cons_append,
      List.takeWhile_cons_of_neg (by simp), List.append_nil] at hspell
    have hfirst : ∀ name, found.1.name? = some name → ∀ earlier ∈ [], Subject.name? earlier ≠ some name :=
      fun _ _ _ hm => absurd hm List.not_mem_nil
    exact ⟨[], found.1, subjects others, hsubjects, hfirst, shows_of_spells hno hdesc hfound hspell⟩

end Epydoc
end ApiDocs.Docblock
