import ApiDocs.Proofs.Docblock.Spelling
import ApiDocs.Proofs.Text.Layout

/-! Blanks behind a tag do not matter. What is looked for in a tag ends with a colon, so it is found in the same place
    whatever blanks come behind, and what it says is trimmed. So a line with a tag in it, or with none, is read in the
    same way with and without blank lines after it; only the chunk that a malformed tag is reported with is longer. -/

namespace ApiDocs.Docblock

open Text (isBlank allBlank Trailing Line)

/-- A line with blanks behind it is a summary without a description. -/
theorem Outline.ofLead_line {line b : Text} (hfeed : '\n' ∉ line) (hb : Trailing b) (items : List Item) :
    Outline.ofLead (line ++ b) items = ⟨line, [], items⟩ := by
  rcases hb.2 with rfl | ⟨rest, rfl⟩
  · rw [List.append_nil, Outline.ofLead]
    cases hcut : Text.cutFirst '\n' line with
    | none => rfl
    | some cut => exact absurd (by rw [(Text.cutFirst_eq_some hcut).1]; simp) hfeed
  · have hrest : allBlank rest = true := hb.1
    rw [Outline.ofLead, Text.cutFirst_append hfeed]
    simp only [Text.trim_eq_nil_iff.mpr hrest]

/-! ### Epydoc -/

namespace Epydoc

/-- What is found in a text is also found with blanks behind it, and these come behind what is left. -/
def Blind {α : Type} (p : Text → Option (α × Text)) : Prop :=
  ∀ s b, allBlank b = true → p (s ++ b) = (p s).map fun found => (found.1, found.2 ++ b)

section Blind
variable {α β : Type} {p q : Text → Option (α × Text)}

theorem Blind.or (hp : Blind p) (hq : Blind q) : Blind fun s => (p s).or (q s) := by
  intro s b hb
  simp only [hp s b hb, hq s b hb]
  cases p s <;> rfl

theorem Blind.filterMap (hp : Blind p) (f : α → Option β) :
    Blind fun s => (p s).bind fun found => (f found.1).map fun b => (b, found.2) := by
  intro s b hb
  simp only [hp s b hb]
  cases p s with
  | none => rfl
  | some found =>
    simp only [Option.map_some, Option.bind_some]
    cases f found.1 <;> rfl

theorem Blind.search (hp : Blind p) (hnil : p [] = none) : Blind (Text.search p) := by
  have hblank : ∀ b, allBlank b = true → p b = none := fun b hb => by
    have h := hp [] b hb
    rwa [hnil] at h
  intro s b hb
  induction s with
  | nil =>
    have hnone : ∀ b, allBlank b = true → Text.search p b = none := by
      intro b hb
      induction b with
      | nil => exact hnil
      | cons c b ih =>
        have hrest : allBlank b = true :=
          List.all_eq_true.mpr fun d hd => List.all_eq_true.mp hb d (List.mem_cons_of_mem c hd)
        rw [Text.search, hblank _ hb, ih hrest]
        rfl
    rw [List.nil_append, hnone b hb, Text.search, hnil]
    rfl
  | cons c s ih =>
    rw [List.cons_append, Text.search, Text.search, ← List.cons_append, hp _ b hb, ih]
    cases p (c :: s) <;> rfl

end Blind

theorem colon_not_mem {b : Text} (h : allBlank b = true) : ':' ∉ b := fun hm =>
  absurd (List.all_eq_true.mp h ':' hm) (by decide)

theorem blind_arguments : Blind arguments? := by
  intro s b hb
  cases s with
  | nil =>
    cases hfound : arguments? b with
    | none => exact hfound
    | some found => exact absurd (mem_of_arguments? hfound) (colon_not_mem hb)
  | cons c s =>
    by_cases hcolon : c = ':'
    · subst hcolon
      rfl
    · cases hc : isBlank c with
      | false => rw [List.cons_append, arguments?_solid hc hcolon, arguments?_solid hc hcolon]; rfl
      | true =>
        have hcut := Text.cutFirst_append_right (colon_not_mem hb) s
        cases hs : Text.cutFirst ':' s with
        | none =>
          have hno : ∀ {t : Text}, Text.cutFirst ':' t = none → arguments? (c :: t) = none := by
            intro t ht
            cases hfound : arguments? (c :: t) with
            | none => rfl
            | some found =>
              rcases List.mem_cons.mp (mem_of_arguments? hfound) with he | hm
              · exact absurd he.symm hcolon
              · exact absurd hm (Text.cutFirst_eq_none ht)
          rw [hs] at hcut
          rw [List.cons_append, hno hcut, hno hs]
          rfl
        | some cut =>
          obtain ⟨gap, desc⟩ := cut
          obtain ⟨rfl, hgap⟩ := Text.cutFirst_eq_some hs
          rw [List.cons_append, List.append_assoc, List.cons_append, arguments?_gap hc hgap, arguments?_gap hc hgap]
          split <;> rfl

theorem after?_append {key : Text} (hne : key ≠ []) (hkey : ∀ c ∈ key, isBlank c = false) (s : Text) {b : Text}
    (hb : allBlank b = true) : Text.after? key (s ++ b) = (Text.after? key s).map (· ++ b) := by
  cases hs : Text.after? key s with
  | some rest =>
    rw [after?_eq_some_iff] at hs
    rw [hs, List.append_assoc]
    exact after?_eq_some_iff.mpr rfl
  | none =>
    cases hboth : Text.after? key (s ++ b) with
    | none => rfl
    | some rest =>
      -- A word that goes on behind the text would have a blank in it.
      rcases List.append_eq_append_iff.mp (after?_eq_some_iff.mp hboth) with ⟨more, rfl, hmore⟩ | ⟨gap, rfl, -⟩
      · cases more with
        | nil => rw [List.append_nil, after?_eq_some_iff.mpr (List.append_nil s).symm] at hs; cases hs
        | cons c more =>
          have hblank : isBlank c = true := List.all_eq_true.mp hb c (by simp [hmore])
          rw [hkey c (by simp)] at hblank
          cases hblank
      · rw [after?_eq_some_iff.mpr rfl] at hs
        cases hs

theorem keyword?_append {keys : List Text} (hkeys : Plain keys) (s : Text) {b : Text} (hb : allBlank b = true) :
    keyword? keys (s ++ b) = (keyword? keys s).map fun found => (found.1, found.2.1, found.2.2 ++ b) := by
  unfold keyword?
  induction keys with
  | nil => rfl
  | cons key keys ih =>
    have hone := after?_append (hkeys key List.mem_cons_self).1 (hkeys.solid List.mem_cons_self).2 s hb
    rw [List.findSome?_cons, List.findSome?_cons, hone, ih fun k hk => hkeys k (List.mem_cons_of_mem _ hk)]
    cases Text.after? key s with
    | none => rfl
    | some rest =>
      simp only [Option.map_some, Option.bind_eq_bind, Option.bind_some, blind_arguments rest b hb]
      cases arguments? rest <;> rfl

theorem blind_param {keys : List Text} (hkeys : Plain keys) : Blind (param? keys) := by
  intro s b hb
  unfold param?
  rw [keyword?_append hkeys s hb]
  rcases keyword? keys s with _ | ⟨key, _ | ⟨name, _ | ⟨more, args⟩⟩, rest⟩ <;> rfl

theorem blind_raises : Blind raises? := by
  intro s b hb
  unfold raises?
  rw [keyword?_append plain_words.2.2.1 s hb]
  rcases keyword? ["raise"] s with _ | ⟨key, _ | ⟨type, _ | ⟨more, args⟩⟩, rest⟩ <;> rfl

theorem blind_returns : Blind returns? := by
  intro s b hb
  unfold returns?
  rw [keyword?_append plain_words.2.2.2 s hb]
  rcases keyword? (returnWords.map Prod.fst) s with _ | ⟨key, _ | ⟨type, args⟩, rest⟩
  · rfl
  · simp only [Option.map_some]
    cases returnWords.lookup key <;> rfl
  · rfl

theorem blind_word : Blind word? := by
  intro s b hb
  -- A name goes on to the end of the text at most.
  have hstop : ∀ c ∈ b.head?, isNameChar c = false := fun c hc => by
    cases hn : isNameChar c with
    | false => rfl
    | true =>
      have hblank := List.all_eq_true.mp hb c (List.mem_of_mem_head? hc)
      rw [not_blank_of_isNameChar hn] at hblank
      cases hblank
  have htake : b.takeWhile isNameChar = [] ∧ b.dropWhile isNameChar = b := by
    cases b with
    | nil => exact ⟨rfl, rfl⟩
    | cons c b =>
      have hc := hstop c rfl
      exact ⟨List.takeWhile_cons_of_neg (by simp [hc]), List.dropWhile_cons_of_neg (by simp [hc])⟩
  have hname : (s ++ b).takeWhile isNameChar = s.takeWhile isNameChar ∧
      (s ++ b).dropWhile isNameChar = s.dropWhile isNameChar ++ b := by
    induction s with
    | nil => exact htake
    | cons c s ih =>
      cases hc : isNameChar c with
      | true => simp [hc, ih]
      | false => simp [hc]
  unfold word?
  rw [hname.1, hname.2, blind_arguments _ b hb]
  split
  · split
    · cases arguments? (s.dropWhile isNameChar) <;> rfl
    · rfl
  · rfl

theorem blind_subject : Blind subject? := by
  obtain ⟨hp, ha, -, -⟩ := plain_words
  have hword : Blind fun s => (Text.search word? s).bind fun found =>
      (if reserved.contains found.1 then none else some Subject.other).map fun subject => (subject, found.2) :=
    (blind_word.search rfl).filterMap fun key => if reserved.contains key then none else some Subject.other
  have hall := ((blind_param hp).search rfl).or <| ((blind_param ha).search rfl).or <|
    (blind_raises.search rfl).or <| (blind_returns.search rfl).or hword
  have hsame : subject? = fun s => (Text.search (param? ["param", "keyword", "type"]) s).or <|
      (Text.search (param? ["ivar", "cvar", "var"]) s).or <| (Text.search raises? s).or <|
      (Text.search returns? s).or <|
      (Text.search word? s).bind fun found =>
        (if reserved.contains found.1 then none else some Subject.other).map fun subject => (subject, found.2) := by
    funext s
    unfold subject?
    congr 4
    cases Text.search word? s with
    | none => rfl
    | some found =>
      simp only [Option.bind_some]
      split <;> rfl
  rw [hsame]
  exact hall

/-- Blanks behind a tag change nothing of what it says. -/
theorem entry_append (s : Text) {b : Text} (hb : allBlank b = true) :
    entry (s ++ b) = (entry s).mapError fun _ => .chunk (s ++ b) := by
  unfold entry
  rw [blind_subject s b hb]
  cases subject? s with
  | none => rfl
  | some found => rw [Option.map_some]; simp only [Text.trim_append_blank _ hb]; rfl

theorem read_of_clean_line {s line b : Text} (hline : Line line) (hb : Trailing b) (hclean : Text.clean s = line ++ b) :
    read s =
      if Text.startsWith '@' line then (entry (line ++ b)).map fun e => Outline.ofLead [] (items [e] [] [e])
      else .ok ⟨line, [], []⟩ := by
  rw [read, hclean, hline.cutBefore (hb.not_mem (by decide))]
  cases Text.startsWith '@' line with
  | true =>
    have hagree : ∀ e : Entry, agree [e] = true := fun e => by
      rcases e with ⟨_ | _ | _ | _, _⟩ <;> rfl
    simp only [↓reduceIte, List.mapM_cons, List.mapM_nil]
    cases entry (line ++ b) with
    | error reason => rfl
    | ok e =>
      show (if agree [e] = true then _ else _) = _
      rw [if_pos (hagree e)]
      rfl
  | false => exact congrArg Except.ok (Outline.ofLead_line hline.feed hb [])

end Epydoc

/-! ### reST -/

namespace Rest

theorem entry_append (s : Text) {b : Text} (hb : allBlank b = true) :
    entry (s ++ b) = (entry s).mapError fun _ => .chunk (s ++ b) := by
  have hcolon := Epydoc.colon_not_mem hb
  have hdrop : (s ++ b).dropWhile (· == ':') = s.dropWhile (· == ':') ++ b := by
    have hstay : b.dropWhile (· == ':') = b := by
      cases b with
      | nil => rfl
      | cons c b => exact List.dropWhile_cons_of_neg fun hc => hcolon (by simp [beq_iff_eq.mp hc])
    induction s with
    | nil => exact hstay
    | cons c s ih =>
      by_cases hc : c = ':'
      · simp [hc, ih]
      · simp [hc]
  unfold entry
  rw [hdrop, Text.cutFirst_append_right hcolon]
  cases Text.cutFirst ':' (s.dropWhile (· == ':')) with
  | none => rfl
  | some cut => simp only [Option.map_some, Text.trim_append_blank _ hb]; rfl

theorem read_of_clean_line {s line b : Text} (hline : Line line) (hb : Trailing b) (hclean : Text.clean s = line ++ b) :
    read s =
      if Text.startsWith ':' line then (Content.add {} (line ++ b)).map fun content => Outline.ofLead [] content.all
      else .ok ⟨line, [], []⟩ := by
  rw [read, hclean, hline.cutBefore (hb.not_mem (by decide))]
  cases Text.startsWith ':' line with
  | true =>
    simp only [↓reduceIte, List.foldlM_cons, List.foldlM_nil]
    cases Content.add {} (line ++ b) <;> rfl
  | false => exact congrArg Except.ok (Outline.ofLead_line hline.feed hb [])

end Rest

/-! ### Chunks -/

theorem Piece.ofChunk_append {c : Char} {s b : Text} (hb : allBlank b = true) (found : List Item) :
    ofChunk (c :: s ++ b) found = ofChunk (c :: s) found := by
  have hheader : header (c :: s ++ b) = header (c :: s) := by
    rw [header, header, List.cons_append, List.drop_one, List.drop_one, List.tail_cons, List.tail_cons,
      Text.cutFirst_append_right (Epydoc.colon_not_mem hb)]
    cases Text.cutFirst ':' s with
    | none => simp only [Option.map_none, Text.words_append_allBlank _ hb]
    | some cut => simp only [Option.map_some, Text.trim_append_blank _ hb]
  unfold ofChunk key
  rw [hheader]

theorem Tag.malformed_append {c : Char} {s b : Text} (hb : Trailing b) :
    malformed (c :: s ++ b) = malformed (c :: s) := by
  have hword : (s ++ b).takeWhile Text.isWordChar = s.takeWhile Text.isWordChar := by
    rcases hb.2 with rfl | ⟨rest, rfl⟩
    · rw [List.append_nil]
    · induction s with
      | nil => exact List.takeWhile_cons_of_neg (by decide)
      | cons d s ih => simp [List.takeWhile_cons, ih]
  rw [malformed, malformed, Text.trim_append_blank _ hb.1, List.cons_append, List.drop_one, List.drop_one,
    List.tail_cons, List.tail_cons, hword]

/-! ### Comments of one line -/

/-- Two results of reading are equal, but for why a text is malformed. -/
def SameResult (a b : Except Fault Outline) : Prop :=
  a = b ∨ ∃ reason reason', a = .error (.malformed reason) ∧ b = .error (.malformed reason')

section Line
variable {style : Style} {marker : Char} (hm : style.marker? = some marker) {line : Text} (hline : Line line)
include hm hline

theorem read_plain_line (hs : Text.startsWith marker line = false) {s b : Text} (hb : Trailing b)
    (hclean : Text.clean s = line ++ b) : style.read s = .ok ⟨line, [], []⟩ := by
  cases style <;> cases hm
  · rw [Style.read, Epydoc.read_of_clean_line hline hb hclean, hs]
    rfl
  · rw [Style.read, Rest.read_of_clean_line hline hb hclean, hs]
    rfl

theorem sameResult_read_line {b b' : Text} (hb : Trailing b) (hb' : Trailing b') :
    SameResult (style.read (line ++ b)) (style.read (line ++ b')) := by
  obtain ⟨c, hc, hclean⟩ := hline.clean hb
  obtain ⟨c', hc', hclean'⟩ := hline.clean hb'
  cases hs : Text.startsWith marker line with
  | false => exact Or.inl (by rw [read_plain_line hm hline hs hc hclean, read_plain_line hm hline hs hc' hclean'])
  | true =>
    cases style <;> cases hm
    · rw [Style.read, Style.read, Epydoc.read_of_clean_line hline hc hclean, Epydoc.read_of_clean_line hline hc' hclean',
        hs, Epydoc.entry_append line hc.1, Epydoc.entry_append line hc'.1]
      cases Epydoc.entry line with
      | ok e => exact Or.inl rfl
      | error reason => exact Or.inr ⟨_, _, rfl, rfl⟩
    · rw [Style.read, Style.read, Rest.read_of_clean_line hline hc hclean, Rest.read_of_clean_line hline hc' hclean', hs,
        Rest.Content.add, Rest.Content.add, Rest.entry_append line hc.1, Rest.entry_append line hc'.1]
      cases Rest.entry line with
      | ok e => exact Or.inl rfl
      | error reason => exact Or.inr ⟨_, _, rfl, rfl⟩

theorem read_tag_line {b b' : Text} (hb : Trailing b) (hb' : Trailing b') :
    (∃ fault, Piece.read style (line ++ b) = .error fault ∧ Piece.read style (line ++ b') = .error fault) ∨
    ∃ piece piece', Piece.read style (line ++ b) = .ok piece ∧ Piece.read style (line ++ b') = .ok piece' ∧
      ∀ g : Gathered, g.add piece = g.add piece' := by
  obtain ⟨c, rest, rfl, -⟩ := Text.exists_of_startsSolid hline.solid
  rcases sameResult_read_line hm hline hb hb' with hsame | ⟨reason, reason', hread, hread'⟩
  · rw [Piece.read, Piece.read, hsame]
    cases style.read (c :: rest ++ b') with
    | ok outline =>
      refine Or.inr ⟨_, _, rfl, rfl, fun g => ?_⟩
      rw [Piece.ofChunk_append hb.1, Piece.ofChunk_append hb'.1]
    | error fault =>
      cases fault with
      | malformed reason =>
        refine Or.inr ⟨_, _, rfl, rfl, fun g => ?_⟩
        simp only [Gathered.add, Tag.malformed_append hb, Tag.malformed_append hb']
      | _ => exact Or.inl ⟨_, rfl, rfl⟩
  · rw [Piece.read, Piece.read, hread, hread']
    refine Or.inr ⟨_, _, rfl, rfl, fun g => ?_⟩
    simp only [Gathered.add, Tag.malformed_append hb, Tag.malformed_append hb']

theorem parts_line {s b : Text} (hb : Trailing b) (hclean : Text.clean s = line ++ b) :
    allBlank (Text.clean s) = false ∧
      parts marker s = if Text.startsWith marker line then ([], [line ++ b]) else (line ++ b, []) := by
  obtain ⟨c, rest, hcons, hc⟩ := Text.exists_of_startsSolid hline.solid
  refine ⟨by simp [hclean, hcons, allBlank, hc], ?_⟩
  rw [parts, hclean, hline.cutBefore (hb.not_mem (Style.isBlank_marker hm))]

theorem readComment_plain_line (hs : Text.startsWith marker line = false) {s b : Text} (hb : Trailing b)
    (hclean : Text.clean s = line ++ b) : (readComment style s).outcome = .ok ⟨line, [], []⟩ := by
  obtain ⟨hseen, hparts⟩ := parts_line hm hline hb hclean
  rw [hs, if_neg (by decide)] at hparts
  obtain ⟨c, hc, hagain⟩ := hline.clean hb
  rcases readComment_of_not_blank hm hseen with ⟨-, hread⟩ | ⟨hchunks, -⟩
  · rw [hread, hparts, readWhole, read_plain_line hm hline hs hc hagain]
    rfl
  · rw [hparts] at hchunks
    exact absurd rfl hchunks

theorem readComment_tag_line (hs : Text.startsWith marker line = true) {s b : Text} (hb : Trailing b)
    (hclean : Text.clean s = line ++ b) : readComment style s = readTagged style [] [line ++ b] := by
  obtain ⟨hseen, hparts⟩ := parts_line hm hline hb hclean
  rw [hs, if_pos rfl] at hparts
  rcases readComment_of_not_blank hm hseen with ⟨hchunks, -⟩ | ⟨-, hread⟩
  · rw [hparts] at hchunks
    cases hchunks
  · rw [hread, hparts]

/-- A comment that comes to one line is read as that line, whatever blanks stand behind it. -/
theorem readComment_line {s s' b b' : Text} (hs : Text.clean s = line ++ b) (hs' : Text.clean s' = line ++ b')
    (hb : Trailing b) (hb' : Trailing b') : (readComment style s).outcome = (readComment style s').outcome := by
  cases hstart : Text.startsWith marker line with
  | false => rw [readComment_plain_line hm hline hstart hb hs, readComment_plain_line hm hline hstart hb' hs']
  | true =>
    rw [readComment_tag_line hm hline hstart hb hs, readComment_tag_line hm hline hstart hb' hs', readTagged_outcome,
      readTagged_outcome]
    rcases read_tag_line hm hline hb hb' with ⟨fault, h, h'⟩ | ⟨piece, piece', h, h', hadd⟩
    · simp only [readPieces, h, h']
    · simp only [readPieces, h, h', gather, List.foldl_cons, List.foldl_nil, hadd]

end Line
end ApiDocs.Docblock
