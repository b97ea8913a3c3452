import ApiDocs.Proofs.Text.Words
import Mathlib.Data.List.TakeWhile

/-! The lines of a text and what cleaning does with them. A text is the same as the list of its lines; tabs are expanded
    in each line for itself; and of the lines that cleaning leaves, the first one has something in it. -/

namespace ApiDocs.Text

/-! ### Lines -/

theorem unlines_cons_cons (first second : Text) (rest : List Text) :
    unlines (first :: second :: rest) = first ++ '\n' :: unlines (second :: rest) := by
  rw [unlines, join_cons_cons, List.append_assoc]
  rfl

theorem splitWith_of_not_mem {mark : Char} {s : Text} (h : mark ∉ s) : splitWith (· == mark) s = [s] := by
  induction s with
  | nil => rfl
  | cons c rest ih =>
    rw [List.mem_cons, not_or] at h
    rw [splitWith, if_neg (by simpa using Ne.symm h.1), ih h.2]

theorem lines_of_not_mem {s : Text} (h : '\n' ∉ s) : lines s = [s] := splitWith_of_not_mem h

theorem dropLast_dotted {name : Text} (h : '.' ∉ name) (path : Text) :
    (dotted (path ++ "." ++ name)).dropLast = dotted path := by
  have hsplit : dotted (path ++ "." ++ name) = dotted path ++ dotted name := by
    rw [List.append_assoc]
    exact splitWith_append rfl path name
  have hname : dotted name = [name] := splitWith_of_not_mem h
  rw [hsplit, hname, List.dropLast_concat]

theorem lines_append_feed {first : Text} (h : '\n' ∉ first) (rest : Text) :
    lines (first ++ '\n' :: rest) = first :: lines rest := by
  have hone := lines_of_not_mem h
  rw [lines] at hone
  rw [lines, splitWith_append (by decide), hone]
  rfl

theorem not_mem_of_mem_lines {s line : Text} (h : line ∈ lines s) : '\n' ∉ line := by
  induction s generalizing line with
  | nil =>
    obtain rfl := List.mem_singleton.mp h
    exact List.not_mem_nil
  | cons c rest ih =>
    cases hl : lines rest with
    | nil => exact absurd hl (splitWith_ne_nil _ rest)
    | cons first others =>
      rw [hl] at ih
      rw [lines] at hl
      rw [lines, splitWith, hl] at h
      split at h
      · rcases List.mem_cons.mp h with rfl | h
        · exact List.not_mem_nil
        · exact ih h
      · rename_i hc
        rcases List.mem_cons.mp h with rfl | h
        · rw [List.mem_cons, not_or]
          exact ⟨fun he => hc (by simp [← he]), ih List.mem_cons_self⟩
        · exact ih (List.mem_cons_of_mem _ h)

theorem lines_unlines {parts : List Text} (hne : parts ≠ []) (h : ∀ part ∈ parts, '\n' ∉ part) :
    lines (unlines parts) = parts := by
  induction parts with
  | nil => exact absurd rfl hne
  | cons first rest ih =>
    obtain ⟨hfirst, hrest⟩ := List.forall_mem_cons.mp h
    cases rest with
    | nil =>
      rw [unlines, join_singleton]
      exact lines_of_not_mem hfirst
    | cons second rest => rw [unlines_cons_cons, lines_append_feed hfirst, ih (by simp) hrest]

def firstLine (s : Text) : Text := s.takeWhile (· != '\n')

theorem firstLine_append_feed {first : Text} (h : '\n' ∉ first) (rest : Text) :
    firstLine (first ++ '\n' :: rest) = first := by
  rw [firstLine, takeWhile_append_of_not_mem h, List.takeWhile_cons_of_neg (by simp), List.append_nil]

theorem firstLine_of_not_mem {s : Text} (h : '\n' ∉ s) : firstLine s = s := by
  have hall := takeWhile_append_of_not_mem h []
  rwa [List.append_nil, List.takeWhile_nil, List.append_nil] at hall

theorem firstLine_unlines {first : Text} (h : '\n' ∉ first) (rest : List Text) :
    firstLine (unlines (first :: rest)) = first := by
  cases rest with
  | nil => rw [unlines, join_singleton, firstLine_of_not_mem h]
  | cons second rest => rw [unlines_cons_cons, firstLine_append_feed h]

/-! ### Tabs -/

theorem expandTabs_of_not_mem {s : Text} (h : '\t' ∉ s) (column : Nat) : expandTabs column s = s := by
  induction s generalizing column with
  | nil => rfl
  | cons c rest ih =>
    rw [List.mem_cons, not_or] at h
    rw [expandTabs, if_neg (Ne.symm h.1)]
    split <;> rw [ih h.2]

theorem not_mem_expandTabs (column : Nat) (s : Text) : '\t' ∉ expandTabs column s := by
  induction s generalizing column with
  | nil => exact List.not_mem_nil
  | cons c rest ih =>
    rw [expandTabs]
    split
    · intro hm
      rcases List.mem_append.mp hm with hm | hm
      · exact absurd (List.eq_of_mem_replicate hm) (by decide)
      · exact ih 0 hm
    · rename_i hc
      split <;> rw [List.mem_cons, not_or] <;> exact ⟨Ne.symm hc, ih _⟩

/-- A line feed brings the columns back to the start. -/
theorem expandTabs_append_feed (column : Nat) (a b : Text) :
    expandTabs column (a ++ '\n' :: b) = expandTabs column a ++ '\n' :: expandTabs 0 b := by
  induction a generalizing column with
  | nil => rfl
  | cons c a ih =>
    rw [List.cons_append, expandTabs, expandTabs]
    split
    · rw [ih, List.append_assoc]
    · split <;> rw [ih, List.cons_append]

/-- Columns are counted on behind a text without tabs and ends of lines. -/
theorem expandTabs_append {a : Text} (h : ∀ c ∈ a, c ≠ '\t' ∧ c ≠ '\n' ∧ c ≠ '\r') (column : Nat) (b : Text) :
    expandTabs column (a ++ b) = a ++ expandTabs (column + a.length) b := by
  induction a generalizing column with
  | nil => rfl
  | cons c a ih =>
    obtain ⟨⟨htab, hfeed, hreturn⟩, ha⟩ := List.forall_mem_cons.mp h
    rw [List.cons_append, expandTabs, if_neg htab, if_neg (by simp [hfeed, hreturn]), ih ha, List.length_cons,
      Nat.add_assoc, Nat.add_comm 1]
    rfl

theorem expandTabs_unlines (parts : List Text) :
    expandTabs 0 (unlines parts) = unlines (parts.map (expandTabs 0)) := by
  induction parts with
  | nil => rfl
  | cons first rest ih =>
    cases rest with
    | nil => simp [unlines]
    | cons second rest =>
      rw [unlines_cons_cons, expandTabs_append_feed, ih]
      exact (unlines_cons_cons _ _ _).symm

theorem not_mem_feed_expandTabs {s : Text} (h : '\n' ∉ s) (column : Nat) : '\n' ∉ expandTabs column s := fun hm =>
  (mem_expandTabs hm).elim h (by decide)

theorem allBlank_expandTabs {s : Text} (h : allBlank s = true) (column : Nat) :
    allBlank (expandTabs column s) = true := by
  refine List.all_eq_true.mpr fun c hc => ?_
  rcases mem_expandTabs hc with hc | rfl
  · exact List.all_eq_true.mp h c hc
  · decide

theorem not_mem_tab_clean (s : Text) : '\t' ∉ clean s := by
  intro hm
  unfold clean at hm
  split at hm
  · cases hm
  · rename_i first body hlines
    have hline : ∀ {line : Text}, line ∈ first :: body → '\t' ∉ line := fun hl ht =>
      not_mem_expandTabs 0 s (mem_of_mem_splitWith (hlines ▸ hl) ht)
    rcases mem_join hm with hm | ⟨line, hl, hc⟩
    · exact absurd (List.mem_singleton.mp hm) (by decide)
    · rcases List.mem_cons.mp (mem_dropEmptyEnds hl) with rfl | hl
      · exact hline List.mem_cons_self ((List.dropWhile_suffix _).mem hc)
      · obtain ⟨whole, hw, hsuffix⟩ := mem_dedent hl
        exact hline (List.mem_cons_of_mem _ hw) (hsuffix.mem hc)

/-! ### Empty lines at the ends -/

theorem dropEmptyEnds_cons {line : Text} (h : line ≠ []) (body : List Text) :
    ∃ kept, kept <+: body ∧ dropEmptyEnds (line :: body) = line :: kept := by
  rw [dropEmptyEnds, List.dropWhile_cons_of_neg (by simpa using h), List.reverse_cons, List.dropWhile_append]
  split
  · refine ⟨[], List.nil_prefix, ?_⟩
    rw [List.dropWhile_cons_of_neg (by simpa using h)]
    rfl
  · refine ⟨(body.reverse.dropWhile List.isEmpty).reverse, ?_, by simp⟩
    have hsuffix := List.dropWhile_suffix List.isEmpty (l := body.reverse)
    simpa using List.reverse_prefix.mpr hsuffix

/-- Lines that begin and end with one that is not empty stay as they are. -/
theorem dropEmptyEnds_of_ne {first last : Text} {body : List Text} (hfirst : first ≠ []) (hlast : last ≠ []) :
    dropEmptyEnds (first :: (body ++ [last])) = first :: (body ++ [last]) := by
  have hend : (first :: (body ++ [last])).reverse = last :: (first :: body).reverse := by simp
  rw [dropEmptyEnds, List.dropWhile_cons_of_neg (by simpa using hfirst), hend,
    List.dropWhile_cons_of_neg (by simpa using hlast), ← hend, List.reverse_reverse]

/-! ### Blanks behind a text -/

theorem allBlank_append (a b : Text) : allBlank (a ++ b) = (allBlank a && allBlank b) := List.all_append

theorem allBlank_unlines {parts : List Text} (h : ∀ part ∈ parts, allBlank part = true) :
    allBlank (unlines parts) = true := by
  refine List.all_eq_true.mpr fun c hc => ?_
  rcases mem_join hc with hc | ⟨part, hp, hc⟩
  · rw [List.mem_singleton.mp hc]
    decide
  · exact List.all_eq_true.mp (h part hp) c hc

theorem allBlank_of_mem_lines {s line : Text} (h : allBlank s = true) (hl : line ∈ lines s) : allBlank line = true :=
  List.all_eq_true.mpr fun c hc => List.all_eq_true.mp h c (mem_of_mem_splitWith hl hc)

theorem trimLeft_eq_nil_iff {s : Text} : trimLeft s = [] ↔ allBlank s = true := by
  rw [trimLeft, List.dropWhile_eq_nil_iff, allBlank, List.all_eq_true]

theorem words_eq_nil_iff {s : Text} : words s = [] ↔ allBlank s = true := by
  refine ⟨fun h => List.all_eq_true.mpr fun c hc => ?_, words_of_allBlank⟩
  have hnone : s.filter (fun c => !isBlank c) = [] := by rw [← flatten_words, h, List.flatten_nil]
  simpa using List.filter_eq_nil_iff.mp hnone c hc

theorem allBlank_eq_of_words {s t : Text} (h : words s = words t) : allBlank s = allBlank t := by
  rw [Bool.eq_iff_iff, ← words_eq_nil_iff, ← words_eq_nil_iff, h]

theorem trimLeft_append {s : Text} (h : allBlank s = false) (t : Text) : trimLeft (s ++ t) = trimLeft s ++ t := by
  have hne : trimLeft s ≠ [] := by
    rw [Ne, trimLeft_eq_nil_iff, h]
    decide
  rw [trimLeft, List.dropWhile_append, if_neg (by simpa [trimLeft] using hne)]
  rfl

theorem trimRight_append_blank (s : Text) {blanks : Text} (h : allBlank blanks = true) :
    trimRight (s ++ blanks) = trimRight s := by
  have hall : ∀ c ∈ blanks.reverse, isBlank c = true := fun c hc => List.all_eq_true.mp h c (List.mem_reverse.mp hc)
  rw [trimRight, dropRight, List.reverse_append, List.dropWhile_append_of_pos hall]
  rfl

theorem trim_append_blank (s : Text) {blanks : Text} (h : allBlank blanks = true) : trim (s ++ blanks) = trim s := by
  cases hs : allBlank s with
  | true =>
    have hboth : allBlank (s ++ blanks) = true := by rw [allBlank_append, hs, h]; rfl
    rw [trim, trim, trimLeft_eq_nil_iff.mpr hs, trimLeft_eq_nil_iff.mpr hboth]
  | false => rw [trim, trim, trimLeft_append hs, trimRight_append_blank _ h]

theorem mem_of_mem_trim {s : Text} {c : Char} (h : c ∈ trim s) : c ∈ s := by
  rw [trim, trimRight, dropRight, List.mem_reverse] at h
  exact (List.dropWhile_suffix isBlank).mem (List.mem_reverse.mp ((List.dropWhile_suffix isBlank).mem h))

/-- A text begins with the first character that is not blank when it is trimmed, and ends with the last one. -/
theorem head?_trimLeft (s : Text) : (trimLeft s).head? = (s.filter fun c => !isBlank c).head? := by
  have hnot : (fun c => !!isBlank c) = isBlank := funext fun c => Bool.not_not _
  rw [List.head?_filter, List.find?_eq_head?_dropWhile_not, hnot]
  rfl

theorem getLast?_trim (s : Text) : (trim s).getLast? = (s.filter fun c => !isBlank c).getLast? := by
  have hhead := head?_trimLeft (trimLeft s).reverse
  rw [← flatten_words, ← words_trimLeft, flatten_words, trim, trimRight, dropRight, List.getLast?_reverse,
    List.getLast?_eq_head?_reverse, ← List.filter_reverse, ← hhead]
  rfl

theorem trim_eq_nil_iff {s : Text} : trim s = [] ↔ allBlank s = true := by
  rw [← List.getLast?_eq_none_iff, getLast?_trim, List.getLast?_eq_none_iff, List.filter_eq_nil_iff, allBlank,
    List.all_eq_true]
  simp

theorem startsSolid_trim {s : Text} (h : allBlank s = false) : startsSolid (trim s) = true := by
  have hne : trim s ≠ [] := fun hnil => by simp [trim_eq_nil_iff.mp hnil] at h
  obtain ⟨c, rest, hcons⟩ := List.exists_cons_of_ne_nil hne
  have hstart : startsSolid (trimLeft s) = true := startsSolid_trimLeft fun hw => by simp [words_eq_nil_iff.mp hw] at h
  -- Only the end is cut off, so both begin alike.
  have hprefix : trim s <+: trimLeft s := by
    rw [trim, trimRight, dropRight, ← List.reverse_suffix, List.reverse_reverse]
    exact List.dropWhile_suffix _
  obtain ⟨after, hafter⟩ := hprefix
  rw [hcons] at hafter ⊢
  rw [← hafter] at hstart
  exact hstart

theorem words_append_allBlank (s : Text) {blanks : Text} (h : allBlank blanks = true) :
    words (s ++ blanks) = words s := by
  cases blanks with
  | nil => rw [List.append_nil]
  | cons c blanks =>
    have hc : isBlank c = true := List.all_eq_true.mp h c List.mem_cons_self
    have hrest : allBlank blanks = true :=
      List.all_eq_true.mpr fun d hd => List.all_eq_true.mp h d (List.mem_cons_of_mem c hd)
    rw [words_append_blank hc, words_of_allBlank hrest, List.append_nil]

theorem cutFirst_append_right {c : Char} {b : Text} (h : c ∉ b) (s : Text) :
    cutFirst c (s ++ b) = (cutFirst c s).map fun cut => (cut.1, cut.2 ++ b) := by
  cases hs : cutFirst c s with
  | none =>
    have hno : c ∉ s ++ b := by
      rw [List.mem_append, not_or]
      exact ⟨cutFirst_eq_none hs, h⟩
    cases hb : cutFirst c (s ++ b) with
    | none => rfl
    | some cut =>
      rw [(cutFirst_eq_some hb).1] at hno
      exact absurd (by simp) hno
  | some cut =>
    obtain ⟨before, after⟩ := cut
    obtain ⟨rfl, hno⟩ := cutFirst_eq_some hs
    rw [List.append_assoc, List.cons_append, cutFirst_append hno]
    rfl

/-- What may stand behind a line without changing it: nothing, or blanks from the next line on. -/
def Trailing (b : Text) : Prop := allBlank b = true ∧ (b = [] ∨ ∃ rest, b = '\n' :: rest)

theorem Trailing.nil : Trailing [] := ⟨rfl, Or.inl rfl⟩

theorem Trailing.feed {rest : Text} (h : allBlank rest = true) : Trailing ('\n' :: rest) := ⟨h, Or.inr ⟨rest, rfl⟩⟩

theorem Trailing.not_mem {b : Text} (h : Trailing b) {c : Char} (hc : isBlank c = false) : c ∉ b := fun hm => by
  have := List.all_eq_true.mp h.1 c hm
  rw [hc] at this
  cases this

theorem exists_trailing (line : Text) {body : List Text} (h : ∀ l ∈ body, allBlank l = true) :
    ∃ b, Trailing b ∧ unlines (line :: body) = line ++ b := by
  cases body with
  | nil => exact ⟨[], .nil, by simp [unlines]⟩
  | cons second rest => exact ⟨_, .feed (allBlank_unlines h), unlines_cons_cons _ _ _⟩

theorem margin_eq_none_iff {body : List Text} : margin body = none ↔ ∀ line ∈ body, allBlank line = true := by
  rw [margin, List.min?_eq_none_iff, List.map_eq_nil_iff, List.filter_eq_nil_iff]
  simp

/-- A comment with blanks only behind its first line is that line when it is cleaned, with blanks behind it. -/
theorem clean_of_blank_body {s first : Text} {body : List Text} (hlines : lines (expandTabs 0 s) = first :: body)
    (hbody : ∀ line ∈ body, allBlank line = true) (hfirst : allBlank first = false) :
    ∃ b, Trailing b ∧ clean s = trimLeft first ++ b := by
  have hmargin : margin body = none := margin_eq_none_iff.mpr hbody
  have hne : trimLeft first ≠ [] := by
    rw [Ne, trimLeft_eq_nil_iff, hfirst]
    decide
  obtain ⟨kept, hkept, hends⟩ := dropEmptyEnds_cons hne body
  obtain ⟨b, hb, hunlines⟩ := exists_trailing (trimLeft first) fun l hl => hbody l (hkept.mem hl)
  refine ⟨b, hb, ?_⟩
  simp only [clean, hlines, dedent, hmargin, hends, hunlines]

/-- A line that begins with a character that is not blank and has no tab in it. -/
structure Line (line : Text) : Prop where
  solid : startsSolid line = true
  feed : '\n' ∉ line
  tab : '\t' ∉ line

/-- Cleaning leaves a line as it is, with blanks behind it if there were some. -/
theorem Line.clean {line b : Text} (h : Line line) (hb : Trailing b) :
    ∃ b', Trailing b' ∧ Text.clean (line ++ b) = line ++ b' := by
  obtain ⟨c, rest, rfl, hc⟩ := exists_of_startsSolid h.solid
  have htrim : trimLeft (c :: rest) = c :: rest := by rw [trimLeft, List.dropWhile_cons_of_neg (by simp [hc])]
  have hblank : allBlank (c :: rest) = false := by simp [allBlank, hc]
  have hlines : ∃ body, lines (expandTabs 0 ((c :: rest) ++ b)) = (c :: rest) :: body ∧
      ∀ line ∈ body, allBlank line = true := by
    rcases hb.2 with rfl | ⟨blanks, rfl⟩
    · refine ⟨[], ?_, fun _ hl => absurd hl List.not_mem_nil⟩
      rw [List.append_nil, expandTabs_of_not_mem h.tab, lines_of_not_mem h.feed]
    · refine ⟨lines (expandTabs 0 blanks), ?_, fun line hl => ?_⟩
      · rw [expandTabs_append_feed, expandTabs_of_not_mem h.tab, lines_append_feed h.feed]
      · have hblanks : allBlank blanks = true := hb.1
        exact allBlank_of_mem_lines (allBlank_expandTabs hblanks 0) hl
  obtain ⟨body, hlines, hbody⟩ := hlines
  obtain ⟨b', hb', hclean⟩ := clean_of_blank_body hlines hbody hblank
  exact ⟨b', hb', by rw [hclean, htrim]⟩

/-! ### Cutting before lines -/

/-- Up to the end of its line nothing is cut, and behind it nothing if there is no marker. -/
theorem cutFrom_line {marker : Char} {line b : Text} (hline : '\n' ∉ line) (hb : marker ∉ b) :
    cutFrom (startsWith marker) false (line ++ b) = (line ++ b, []) := by
  induction line with
  | nil => exact cutFrom_of_not_mem hb false
  | cons c rest ih =>
    rw [List.mem_cons, not_or] at hline
    have hc : (c == '\n') = false := by simpa using Ne.symm hline.1
    simp only [List.cons_append, cutFrom, hc, ih hline.2, Bool.false_and, Bool.false_eq_true, ↓reduceIte]

theorem cutBefore_line {marker : Char} {line b : Text} (hne : line ≠ []) (hline : '\n' ∉ line) (hb : marker ∉ b) :
    cutBefore (startsWith marker) (line ++ b) =
      if startsWith marker line then ([], [line ++ b]) else (line ++ b, []) := by
  cases line with
  | nil => exact absurd rfl hne
  | cons c rest =>
    rw [List.mem_cons, not_or] at hline
    have hc : (c == '\n') = false := by simpa using Ne.symm hline.1
    simp only [cutBefore, List.cons_append, cutFrom, hc, cutFrom_line hline.2 hb, Bool.true_and, startsWith,
      List.head?_cons]
    rfl

theorem Line.cutBefore {marker : Char} {line b : Text} (h : Line line) (hb : marker ∉ b) :
    Text.cutBefore (startsWith marker) (line ++ b) =
      if startsWith marker line then ([], [line ++ b]) else (line ++ b, []) := by
  refine cutBefore_line ?_ h.feed hb
  rintro rfl
  cases h.solid

/-- The text behind a line is cut on its own; what stands before its first cut belongs to the line. -/
theorem cutBefore_append_feed {marker : Char} (hm : marker ≠ '\n') {line : Text} (hline : '\n' ∉ line) (rest : Text) :
    cutBefore (startsWith marker) (line ++ '\n' :: rest) =
      if startsWith marker line then
        ([], (line ++ '\n' :: (cutBefore (startsWith marker) rest).1) :: (cutBefore (startsWith marker) rest).2)
      else (line ++ '\n' :: (cutBefore (startsWith marker) rest).1, (cutBefore (startsWith marker) rest).2) := by
  have hinside : ∀ {line : Text}, '\n' ∉ line → cutFrom (startsWith marker) false (line ++ '\n' :: rest) =
      (line ++ '\n' :: (cutBefore (startsWith marker) rest).1, (cutBefore (startsWith marker) rest).2) := by
    intro line hline
    induction line with
    | nil => rfl
    | cons c line ih =>
      rw [List.mem_cons, not_or] at hline
      have hc : (c == '\n') = false := by simpa using Ne.symm hline.1
      simp only [List.cons_append, cutFrom, hc, ih hline.2, Bool.false_and, Bool.false_eq_true, ↓reduceIte]
  cases line with
  | nil =>
    have hfeed : startsWith marker ('\n' :: rest) = false := by simpa [startsWith] using Ne.symm hm
    rw [if_neg (by simp [startsWith])]
    simp only [List.nil_append, cutBefore, cutFrom, hfeed, Bool.true_and, Bool.false_eq_true, ↓reduceIte, BEq.rfl]
  | cons c line =>
    rw [List.mem_cons, not_or] at hline
    have hc : (c == '\n') = false := by simpa using Ne.symm hline.1
    have hsame : startsWith marker (c :: (line ++ '\n' :: rest)) = startsWith marker (c :: line) := rfl
    rw [cutBefore, List.cons_append, cutFrom, hc, hinside hline.2, hsame]
    rfl

/-- What stands before the first cut begins with the same line, unless the cut is right at the start. -/
theorem firstLine_cutBefore (marker : Char) (s : Text) :
    firstLine (cutBefore (startsWith marker) s).1 = if startsWith marker s then [] else firstLine s := by
  have hfalse : ∀ t : Text, firstLine (cutFrom (startsWith marker) false t).1 = firstLine t := by
    intro t
    induction t with
    | nil => rfl
    | cons c rest ih =>
      simp only [cutFrom, Bool.false_and, Bool.false_eq_true, ↓reduceIte, firstLine]
      by_cases hc : c = '\n'
      · rw [List.takeWhile_cons_of_neg (by simp [hc]), List.takeWhile_cons_of_neg (by simp [hc])]
      · have hcb : (c == '\n') = false := by simpa using hc
        rw [firstLine, firstLine] at ih
        rw [List.takeWhile_cons_of_pos (by simpa using hc), List.takeWhile_cons_of_pos (by simpa using hc), hcb, ih]
  cases s with
  | nil => rfl
  | cons c rest =>
    simp only [cutBefore, cutFrom, Bool.true_and]
    split
    · rfl
    · by_cases hc : c = '\n'
      · simp [firstLine, hc]
      · have hcb : (c == '\n') = false := by simpa using hc
        have hrest := hfalse rest
        rw [firstLine, firstLine] at hrest
        simp only [firstLine]
        rw [List.takeWhile_cons_of_pos (by simpa using hc), List.takeWhile_cons_of_pos (by simpa using hc), hcb, hrest]

end ApiDocs.Text
