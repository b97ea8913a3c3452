import ApiDocs.Proofs.Text.Margin
import ApiDocs.Text.Cut

/-! The words of a text. Cleaning changes only the blanks around the words and between them, so it leaves the words as
    they are. What stands before a character that is not blank has words that can be told from the words of the whole.
    -/

namespace ApiDocs.Text

/-! ### Cutting -/

theorem splitWith_ne_nil (p : Char → Bool) (s : Text) : splitWith p s ≠ [] := by
  cases s with
  | nil => simp [splitWith]
  | cons c rest =>
    rw [splitWith]
    split
    · simp
    · split <;> simp

theorem splitWith_append {p : Char → Bool} {c : Char} (hc : p c = true) (a b : Text) :
    splitWith p (a ++ c :: b) = splitWith p a ++ splitWith p b := by
  induction a with
  | nil => simp [splitWith, hc]
  | cons d a ih =>
    rw [List.cons_append, splitWith, splitWith, ih]
    split
    · rfl
    · cases ha : splitWith p a with
      | nil => exact absurd ha (splitWith_ne_nil p a)
      | cons part parts => rfl

/-- What is cut at every mark is put together again with the mark. -/
theorem join_splitWith (mark : Char) (s : Text) : join [mark] (splitWith (· == mark) s) = s := by
  induction s with
  | nil => rfl
  | cons c rest ih =>
    cases hr : splitWith (· == mark) rest with
    | nil => exact absurd hr (splitWith_ne_nil _ rest)
    | cons part parts =>
      rw [hr] at ih
      rw [splitWith, hr]
      split
      · rename_i hc
        rw [join_cons_cons, ih, beq_iff_eq.mp hc]
        rfl
      · rw [← ih]
        cases parts with
        | nil => simp
        | cons second rest => simp only [join_cons_cons, List.cons_append]

theorem unlines_lines (s : Text) : unlines (lines s) = s := join_splitWith '\n' s

theorem cutFirst_eq_none {c : Char} {s : Text} (h : cutFirst c s = none) : c ∉ s := by
  induction s with
  | nil => simp
  | cons d rest ih =>
    rw [cutFirst] at h
    split at h
    · cases h
    · rename_i hne
      rw [List.mem_cons, not_or]
      exact ⟨Ne.symm hne, ih (Option.map_eq_none_iff.mp h)⟩

theorem cutFirst_eq_some {c : Char} {s before after : Text} (h : cutFirst c s = some (before, after)) :
    s = before ++ c :: after ∧ c ∉ before := by
  induction s generalizing before with
  | nil => cases h
  | cons d rest ih =>
    rw [cutFirst] at h
    split at h
    · rename_i hd
      cases h
      exact ⟨by rw [hd]; rfl, by simp⟩
    · rename_i hne
      obtain ⟨⟨first, last⟩, hc, he⟩ := Option.map_eq_some_iff.mp h
      cases he
      obtain ⟨rfl, hnot⟩ := ih hc
      exact ⟨rfl, by simpa [Ne.symm hne] using hnot⟩

theorem cutFirst_append {c : Char} {before : Text} (h : c ∉ before) (after : Text) :
    cutFirst c (before ++ c :: after) = some (before, after) := by
  induction before with
  | nil => simp [cutFirst]
  | cons d rest ih =>
    rw [List.mem_cons, not_or] at h
    simp [cutFirst, Ne.symm h.1, ih h.2]

/-! ### Words -/

@[simp] theorem words_nil : words [] = [] := rfl

theorem words_append_blank {c : Char} (hc : isBlank c = true) (a b : Text) :
    words (a ++ c :: b) = words a ++ words b := by
  rw [words, splitWith_append hc, List.filter_append]
  rfl

theorem words_cons_blank {c : Char} (hc : isBlank c = true) (s : Text) : words (c :: s) = words s :=
  words_append_blank hc [] s

theorem words_append_of_blank {a : Text} (h : ∀ c ∈ a, isBlank c = true) (b : Text) : words (a ++ b) = words b := by
  induction a with
  | nil => rfl
  | cons c a ih =>
    rw [List.cons_append, words_cons_blank (h c List.mem_cons_self), ih fun d hd => h d (List.mem_cons_of_mem c hd)]

theorem words_of_allBlank {s : Text} (h : allBlank s = true) : words s = [] := by
  rw [← List.append_nil s, words_append_of_blank (List.all_eq_true.mp h), words_nil]

/-- A character before a gap is a word of its own. -/
theorem words_cons_gap {c : Char} {s : Text} (hc : isBlank c = false) (hs : startsSolid s = false) :
    words (c :: s) = [c] :: words s := by
  have hone : words [c] = [[c]] := by simp [words, splitWith, hc]
  cases s with
  | nil => exact hone
  | cons d rest =>
    have hd : isBlank d = true := by simpa [startsSolid] using hs
    rw [words_cons_blank hd, ← List.singleton_append, words_append_blank hd, hone]
    rfl

/-- A character before a word belongs to it. -/
theorem words_cons_solid {d : Char} (hd : isBlank d = false) (s : Text) :
    ∃ w ws, words (d :: s) = (d :: w) :: ws ∧ ∀ c, isBlank c = false → words (c :: d :: s) = (c :: d :: w) :: ws := by
  cases hs : splitWith isBlank s with
  | nil => exact absurd hs (splitWith_ne_nil _ s)
  | cons part parts =>
    refine ⟨part, parts.filter (· != []), ?_, fun c hc => ?_⟩
    · simp [words, splitWith, hd, hs]
    · simp [words, splitWith, hc, hd, hs]

theorem exists_of_startsSolid {s : Text} (h : startsSolid s = true) :
    ∃ c rest, s = c :: rest ∧ isBlank c = false := by
  cases s with
  | nil => cases h
  | cons c rest => exact ⟨c, rest, rfl, by simpa [startsSolid] using h⟩

/-- The words behind a character that is not blank. -/
theorem words_cons_congr {c : Char} (hc : isBlank c = false) {s t : Text} (h : words s = words t)
    (hs : startsSolid s = startsSolid t) : words (c :: s) = words (c :: t) := by
  cases ht : startsSolid t with
  | false => rw [words_cons_gap hc (hs.trans ht), words_cons_gap hc ht, h]
  | true =>
    obtain ⟨a, s, rfl, ha⟩ := exists_of_startsSolid (hs.trans ht)
    obtain ⟨b, t, rfl, hb⟩ := exists_of_startsSolid ht
    obtain ⟨v, vs, hv, hcv⟩ := words_cons_solid ha s
    obtain ⟨w, ws, hw, hcw⟩ := words_cons_solid hb t
    rw [hv, hw] at h
    cases h
    rw [hcv c hc, hcw c hc]

theorem words_of_cons_eq {c : Char} (hc : isBlank c = false) {s t : Text} (h : words (c :: s) = words (c :: t)) :
    words s = words t := by
  cases hs : startsSolid s with
  | false =>
    rw [words_cons_gap hc hs] at h
    cases ht : startsSolid t with
    | false =>
      rw [words_cons_gap hc ht] at h
      exact (List.cons.inj h).2
    | true =>
      obtain ⟨b, t, rfl, hb⟩ := exists_of_startsSolid ht
      obtain ⟨w, ws, -, hcw⟩ := words_cons_solid hb t
      rw [hcw c hc] at h
      cases h
  | true =>
    obtain ⟨a, s, rfl, ha⟩ := exists_of_startsSolid hs
    obtain ⟨v, vs, hv, hcv⟩ := words_cons_solid ha s
    rw [hcv c hc] at h
    cases ht : startsSolid t with
    | false =>
      rw [words_cons_gap hc ht] at h
      cases h
    | true =>
      obtain ⟨b, t, rfl, hb⟩ := exists_of_startsSolid ht
      obtain ⟨w, ws, hw, hcw⟩ := words_cons_solid hb t
      rw [hcw c hc] at h
      cases h
      rw [hv, hw]

/-! ### The first word -/

/-- A text that begins with a word, then ends or goes on with a gap. -/
theorem words_append_gap {w gap : Text} (hne : w ≠ []) (hw : ∀ c ∈ w, isBlank c = false)
    (hgap : startsSolid gap = false) : words (w ++ gap) = w :: words gap := by
  induction w with
  | nil => exact absurd rfl hne
  | cons c w ih =>
    obtain ⟨hc, hrest⟩ := List.forall_mem_cons.mp hw
    cases w with
    | nil => exact words_cons_gap hc hgap
    | cons d w =>
      obtain ⟨v, vs, hv, hcv⟩ := words_cons_solid (hrest d List.mem_cons_self) (w ++ gap)
      have h := ih (by simp) hrest
      rw [List.cons_append, hv] at h
      cases h
      exact hcv c hc

/-- A text that does not begin with a gap begins with its first word. -/
theorem exists_append_of_words {s w : Text} {ws : List Text} (hs : startsSolid s = true) (h : words s = w :: ws) :
    ∃ gap, s = w ++ gap ∧ startsSolid gap = false ∧ words gap = ws := by
  induction s generalizing w with
  | nil => cases hs
  | cons c s ih =>
    have hc : isBlank c = false := by simpa [startsSolid] using hs
    cases hrest : startsSolid s with
    | false =>
      rw [words_cons_gap hc hrest] at h
      cases h
      exact ⟨s, rfl, hrest, rfl⟩
    | true =>
      obtain ⟨d, s, rfl, hd⟩ := exists_of_startsSolid hrest
      obtain ⟨v, vs, hv, hcv⟩ := words_cons_solid hd s
      rw [hcv c hc] at h
      cases h
      obtain ⟨gap, hsplit, hgap, hwords⟩ := ih hrest hv
      exact ⟨gap, by rw [hsplit]; rfl, hgap, hwords⟩

/-- The words at the end of a text: the first of them may have lost its beginning. -/
theorem words_of_suffix {s t : Text} (h : t <:+ s) {w : Text} {ws : List Text} (ht : words t = w :: ws) :
    ∃ whole, (whole :: ws) <:+ words s ∧ w <:+ whole := by
  induction s generalizing t with
  | nil =>
    rw [List.suffix_nil.mp h] at ht
    cases ht
  | cons c s ih =>
    rcases List.suffix_cons_iff.mp h with rfl | h
    · exact ⟨w, ht ▸ List.suffix_refl _, List.suffix_refl w⟩
    · obtain ⟨whole, hwhole, hw⟩ := ih h ht
      cases hc : isBlank c with
      | true => exact ⟨whole, by rwa [words_cons_blank hc], hw⟩
      | false =>
        cases hs : startsSolid s with
        | false =>
          rw [words_cons_gap hc hs]
          exact ⟨whole, hwhole.trans (List.suffix_cons _ _), hw⟩
        | true =>
          obtain ⟨d, s, rfl, hd⟩ := exists_of_startsSolid hs
          obtain ⟨v, vs, hv, hcv⟩ := words_cons_solid hd s
          rw [hv] at hwhole
          rw [hcv c hc]
          rcases List.suffix_cons_iff.mp hwhole with heq | hlater
          · cases heq
            exact ⟨c :: d :: v, List.suffix_refl _, hw.trans (List.suffix_cons c _)⟩
          · exact ⟨whole, hlater.trans (List.suffix_cons _ _), hw⟩

/-! ### The end of a text -/

/-- Whether a text ends with a character that is not blank. -/
def EndsSolid (s : Text) : Prop := ∃ c, s.getLast? = some c ∧ isBlank c = false

theorem EndsSolid.of_suffix {s t : Text} (h : EndsSolid t) (ht : t <:+ s) : EndsSolid s := by
  obtain ⟨c, hc, hb⟩ := h
  obtain ⟨a, rfl⟩ := ht
  exact ⟨c, by rw [List.getLast?_append, hc]; rfl, hb⟩

theorem EndsSolid.right {s t : Text} (h : EndsSolid (s ++ t)) (hne : t ≠ []) : EndsSolid t := by
  obtain ⟨c, hc, hb⟩ := h
  obtain ⟨last, hlast⟩ := Option.isSome_iff_exists.mp (List.getLast?_isSome.mpr hne)
  rw [List.getLast?_append, hlast] at hc
  cases hc
  exact ⟨c, hlast, hb⟩

theorem EndsSolid.trimRight_eq {s : Text} (h : EndsSolid s) : trimRight s = s := by
  obtain ⟨c, hc, hb⟩ := h
  obtain ⟨a, rfl⟩ := List.getLast?_eq_some_iff.mp hc
  rw [trimRight, dropRight, List.reverse_append, List.reverse_singleton, List.singleton_append,
    List.dropWhile_cons_of_neg (by simp [hb]), List.reverse_cons, List.reverse_reverse]

theorem endsSolid_of_trimRight {s : Text} (h : trimRight s = s) (hne : s ≠ []) : EndsSolid s := by
  obtain ⟨c, hc⟩ := Option.isSome_iff_exists.mp (List.getLast?_isSome.mpr hne)
  refine ⟨c, hc, ?_⟩
  obtain ⟨a, rfl⟩ := List.getLast?_eq_some_iff.mp hc
  cases hb : isBlank c with
  | false => rfl
  | true =>
    have hlen := congrArg List.length h
    have hle := (List.dropWhile_sublist isBlank (l := a.reverse)).length_le
    rw [trimRight, dropRight, List.reverse_append, List.reverse_singleton, List.singleton_append,
      List.dropWhile_cons_of_pos hb, List.length_reverse, List.length_append, List.length_singleton] at hlen
    rw [List.length_reverse] at hle
    omega

/-- Only blanks are no part of a word. -/
theorem flatten_words (s : Text) : (words s).flatten = s.filter fun c => !isBlank c := by
  have hsplit : ∀ s : Text, (splitWith isBlank s).flatten = s.filter fun c => !isBlank c := by
    intro s
    induction s with
    | nil => rfl
    | cons c rest ih =>
      rw [splitWith]
      split
      · rename_i hc
        rw [List.flatten_cons, ih]
        simp [hc]
      · rename_i hc
        cases hr : splitWith isBlank rest with
        | nil => exact absurd hr (splitWith_ne_nil _ rest)
        | cons part parts =>
          rw [hr] at ih
          simpa [hc] using ih
  have hwords : words s = (splitWith isBlank s).filter fun w => decide (w ≠ []) :=
    List.filter_congr fun w _ => by cases w <;> simp
  rw [hwords, List.flatten_filter_ne_nil, hsplit]

theorem count_of_words_eq {c : Char} (hc : isBlank c = false) {s t : Text} (h : words s = words t) :
    s.count c = t.count c := by
  have hkept : ∀ u : Text, u.count c = (u.filter fun c => !isBlank c).count c := fun u =>
    (List.count_filter (by simp [hc])).symm
  rw [hkept s, hkept t, ← flatten_words, ← flatten_words, h]

theorem EndsSolid.words_ne_nil {s : Text} (h : EndsSolid s) : words s ≠ [] := by
  obtain ⟨c, hc, hb⟩ := h
  intro hnil
  have hmem : c ∈ s.filter fun c => !isBlank c :=
    List.mem_filter.mpr ⟨List.mem_of_getLast? hc, by simp [hb]⟩
  rw [← flatten_words, hnil] at hmem
  cases hmem

/-! ### Words before a character -/

theorem takeWhile_append_of_not_mem {c : Char} {s : Text} (h : c ∉ s) (rest : Text) :
    (s ++ rest).takeWhile (· != c) = s ++ rest.takeWhile (· != c) :=
  List.takeWhile_append_of_pos fun d hd => by simpa using fun he : d = c => h (he ▸ hd)

/-- The words before the first `c` in a text of some words. -/
def wordsBefore (c : Char) : List Text → List Text
  | [] => []
  | w :: ws => if c ∈ w then words (w.takeWhile (· != c)) else w :: wordsBefore c ws

theorem words_takeWhile {c : Char} (hc : isBlank c = false) (s : Text) :
    words (s.takeWhile (· != c)) = wordsBefore c (words s) := by
  induction s with
  | nil => rfl
  | cons d s ih =>
    by_cases hd : d = c
    · subst hd
      rw [List.takeWhile_cons_of_neg (by simp), words_nil]
      cases hs : startsSolid s with
      | false =>
        rw [words_cons_gap hc hs, wordsBefore, if_pos List.mem_cons_self]
        simp
      | true =>
        obtain ⟨e, s, rfl, he⟩ := exists_of_startsSolid hs
        obtain ⟨w, ws, -, hdw⟩ := words_cons_solid he s
        rw [hdw d hc, wordsBefore, if_pos List.mem_cons_self]
        simp
    · have hpass : ∀ {d : Char}, d ≠ c → ∀ s : Text, (d :: s).takeWhile (· != c) = d :: s.takeWhile (· != c) :=
        fun hd s => List.takeWhile_cons_of_pos (by simpa using hd)
      rw [hpass hd]
      cases hb : isBlank d with
      | true => rw [words_cons_blank hb, words_cons_blank hb, ih]
      | false =>
        cases hs : startsSolid s with
        | false =>
          have hgap : startsSolid (s.takeWhile (· != c)) = false := by
            cases s with
            | nil => rfl
            | cons e s =>
              rw [List.takeWhile_cons]
              split
              · exact hs
              · rfl
          rw [words_cons_gap hb hs, words_cons_gap hb hgap, wordsBefore, if_neg (by simpa using Ne.symm hd), ih]
        | true =>
          obtain ⟨e, s, rfl, he⟩ := exists_of_startsSolid hs
          obtain ⟨w, ws, hw, hdw⟩ := words_cons_solid he s
          rw [hdw d hb, wordsBefore]
          rw [hw, wordsBefore] at ih
          by_cases hec : e = c
          · subst hec
            rw [List.takeWhile_cons_of_neg (by simp), if_pos (by simp), hpass hd,
              List.takeWhile_cons_of_neg (by simp)]
          · -- Both `d` and `e` stand before the first `c`, in the same word.
            obtain ⟨v, vs, hv, hdv⟩ := words_cons_solid he (s.takeWhile (· != c))
            rw [hpass hec, hdv d hb]
            rw [hpass hec, hv] at ih
            by_cases hcw : c ∈ w
            · obtain ⟨u, us, hu, hdu⟩ := words_cons_solid he (w.takeWhile (· != c))
              rw [if_pos (List.mem_cons_of_mem _ hcw), hpass hec, hu] at ih
              rw [if_pos (by simp [hcw]), hpass hd, hpass hec, hdu d hb]
              cases ih
              rfl
            · rw [if_neg (by simp [hcw, Ne.symm hec])] at ih
              rw [if_neg (by simp [hcw, Ne.symm hec, Ne.symm hd])]
              cases ih
              rfl

/-! ### Searching -/

section Search
variable {α : Type} {p : Text → Option α}

theorem search_isSome_of_suffix {s t : Text} (h : t <:+ s) (ht : (p t).isSome = true) : (search p s).isSome = true := by
  induction s with
  | nil => rwa [search, ← List.suffix_nil.mp h]
  | cons c s ih =>
    rw [search, Option.isSome_or, Bool.or_eq_true]
    rcases List.suffix_cons_iff.mp h with rfl | h
    · exact Or.inl ht
    · exact Or.inr (ih h)

theorem exists_suffix_of_search {s : Text} {a : α} (h : search p s = some a) : ∃ t, t <:+ s ∧ p t = some a := by
  induction s with
  | nil => exact ⟨[], List.suffix_refl _, h⟩
  | cons c s ih =>
    rw [search] at h
    rcases Option.or_eq_some_iff.mp h with hc | ⟨-, hs⟩
    · exact ⟨c :: s, List.suffix_refl _, hc⟩
    · obtain ⟨t, ht, hp⟩ := ih hs
      exact ⟨t, ht.trans (List.suffix_cons c s), hp⟩

/-- What needs a character is found before the last one in the text. -/
theorem search_before_last {c : Char} (hp : ∀ t a, p t = some a → c ∈ t) {s rest : Text} (hrest : c ∉ rest) {a : α}
    (h : search p (s ++ c :: rest) = some a) : ∃ t, t <:+ s ∧ p (t ++ c :: rest) = some a := by
  induction s with
  | nil =>
    rw [List.nil_append, search] at h
    rcases Option.or_eq_some_iff.mp h with hc | ⟨-, hlate⟩
    · exact ⟨[], List.nil_suffix, hc⟩
    · obtain ⟨t, ht, ha⟩ := exists_suffix_of_search hlate
      exact absurd (ht.mem (hp t a ha)) hrest
  | cons d s ih =>
    rw [List.cons_append, search] at h
    rcases Option.or_eq_some_iff.mp h with hd | ⟨-, hlater⟩
    · exact ⟨d :: s, List.suffix_refl _, hd⟩
    · obtain ⟨t, ht, ha⟩ := ih hlater
      exact ⟨t, ht.trans (List.suffix_cons d s), ha⟩

end Search

/-! ### Words of a cleaned text -/

theorem words_trimLeft (s : Text) : words (trimLeft s) = words s := by
  have h := words_append_of_blank (List.all_eq_true.mp (List.all_takeWhile (p := isBlank) (l := s))) (trimLeft s)
  rw [trimLeft, List.takeWhile_append_dropWhile] at h
  exact h.symm

theorem startsSolid_trimLeft {s : Text} (h : words s ≠ []) : startsSolid (trimLeft s) = true := by
  rw [← words_trimLeft] at h
  cases ht : trimLeft s with
  | nil =>
    rw [ht] at h
    exact absurd rfl h
  | cons c rest =>
    have hc := List.head?_dropWhile_not isBlank s
    rw [← trimLeft, ht] at hc
    simpa [startsSolid] using hc

theorem words_drop {m : Nat} {line : Text} (h : m ≤ indentation line) : words (line.drop m) = words line := by
  have hblank : ∀ c ∈ line.take m, isBlank c = true := by
    intro c hc
    have hpre : line.take m <+: line.takeWhile isBlank :=
      List.prefix_of_prefix_length_le (List.take_prefix m line) (List.takeWhile_prefix isBlank)
        (Nat.le_trans (List.length_take_le m line) h)
    exact List.all_eq_true.mp List.all_takeWhile c (hpre.mem hc)
  rw [← words_append_of_blank hblank, List.take_append_drop]

/-- Tabs become blanks, so the words stay, and whether the text begins with one. -/
theorem words_expandTabs (column : Nat) (s : Text) :
    words (expandTabs column s) = words s ∧ startsSolid (expandTabs column s) = startsSolid s := by
  induction s generalizing column with
  | nil => exact ⟨rfl, rfl⟩
  | cons c rest ih =>
    rw [expandTabs]
    split
    · rename_i hc
      subst hc
      have hspaces : ∀ c ∈ List.replicate (8 - column % 8) ' ', isBlank c = true := by
        intro c hc
        rw [List.eq_of_mem_replicate hc]
        decide
      refine ⟨?_, ?_⟩
      · rw [words_append_of_blank hspaces, words_cons_blank (by decide), (ih 0).1]
      · have hwidth : 8 - column % 8 = (7 - column % 8) + 1 := by omega
        rw [hwidth]
        rfl
    · have hkept : ∀ n, words (c :: expandTabs n rest) = words (c :: rest) ∧
          startsSolid (c :: expandTabs n rest) = startsSolid (c :: rest) := by
        intro n
        refine ⟨?_, rfl⟩
        cases hc : isBlank c with
        | true => rw [words_cons_blank hc, words_cons_blank hc, (ih n).1]
        | false => exact words_cons_congr hc (ih n).1 (ih n).2
      split
      · exact hkept 0
      · exact hkept (column + 1)

theorem words_unlines (parts : List Text) : words (unlines parts) = parts.flatMap words := by
  induction parts with
  | nil => rfl
  | cons first rest ih =>
    cases rest with
    | nil => simp [unlines]
    | cons second rest =>
      rw [unlines, join_cons_cons, List.append_assoc, List.singleton_append, words_append_blank (by decide),
        List.flatMap_cons]
      exact congrArg _ ih

theorem flatMap_words_dedent (body : List Text) : (dedent body).flatMap words = body.flatMap words := by
  unfold dedent
  split
  · rfl
  · rename_i m hm
    have hleast := (List.min?_eq_some_iff.mp hm).2
    have hline : ∀ line ∈ body, words (line.drop m) = words line := by
      intro line hl
      cases hb : allBlank line with
      | true =>
        have hdrop : allBlank (line.drop m) = true :=
          List.all_eq_true.mpr fun c hc => List.all_eq_true.mp hb c (List.mem_of_mem_drop hc)
        rw [words_of_allBlank hb, words_of_allBlank hdrop]
      | false => exact words_drop (hleast _ (List.mem_map_of_mem (List.mem_filter.mpr ⟨hl, by simp [hb]⟩)))
    rw [List.flatMap_map, List.flatMap_def, List.flatMap_def, List.map_congr_left hline]

theorem flatMap_words_dropEmptyEnds (body : List Text) : (dropEmptyEnds body).flatMap words = body.flatMap words := by
  have hempty : ∀ l : List Text, (∀ line ∈ l, line.isEmpty = true) → l.flatMap words = [] := by
    intro l hl
    rw [List.flatMap_eq_nil_iff]
    intro line hm
    rw [List.isEmpty_iff.mp (hl line hm), words_nil]
  have hstart : ∀ l : List Text, (l.dropWhile List.isEmpty).flatMap words = l.flatMap words := by
    intro l
    have hl : l.takeWhile List.isEmpty ++ l.dropWhile List.isEmpty = l := List.takeWhile_append_dropWhile
    have h := congrArg (List.flatMap words) hl
    rwa [List.flatMap_append, hempty _ (List.all_eq_true.mp List.all_takeWhile), List.nil_append] at h
  have hend : ∀ l : List Text, (l.reverse.dropWhile List.isEmpty).reverse.flatMap words = l.flatMap words := by
    intro l
    have hl : (l.reverse.dropWhile List.isEmpty).reverse ++ (l.reverse.takeWhile List.isEmpty).reverse = l := by
      rw [← List.reverse_append, List.takeWhile_append_dropWhile, List.reverse_reverse]
    have htail : ∀ line ∈ (l.reverse.takeWhile List.isEmpty).reverse, line.isEmpty = true := fun line hm =>
      List.all_eq_true.mp List.all_takeWhile line (List.mem_reverse.mp hm)
    have h := congrArg (List.flatMap words) hl
    rwa [List.flatMap_append, hempty _ htail, List.append_nil] at h
  rw [dropEmptyEnds, hend, hstart]

/-- Cleaning leaves the words. -/
theorem words_clean (s : Text) : words (clean s) = words s := by
  have hlines : (lines (expandTabs 0 s)).flatMap words = words s := by
    rw [← words_unlines, unlines_lines, (words_expandTabs 0 s).1]
  rw [clean]
  split
  · rename_i h
    rw [h] at hlines
    exact hlines
  · rename_i first body h
    rw [h, List.flatMap_cons] at hlines
    rw [words_unlines, flatMap_words_dropEmptyEnds, List.flatMap_cons, words_trimLeft, flatMap_words_dedent, hlines]

/-- A text that begins with a character that is not blank still does when it is cleaned. -/
theorem clean_cons {c : Char} (hc : isBlank c = false) (s : Text) :
    ∃ rest, clean (c :: s) = c :: rest ∧ words rest = words s := by
  have hne : ∀ d, isBlank d = true → c ≠ d := by
    rintro d hd rfl
    rw [hd] at hc
    cases hc
  have hexpand : expandTabs 0 (c :: s) = c :: expandTabs 1 s := by
    rw [expandTabs, if_neg (hne '\t' (by decide)),
      if_neg (not_or.mpr ⟨hne '\n' (by decide), hne '\r' (by decide)⟩)]
  have hstart : ∃ rest, clean (c :: s) = c :: rest := by
    rw [clean, hexpand, lines, splitWith, if_neg (by simpa using hne '\n' (by decide))]
    cases hl : splitWith (· == '\n') (expandTabs 1 s) with
    | nil => exact absurd hl (splitWith_ne_nil _ _)
    | cons part parts =>
      have htrim : trimLeft (c :: part) = c :: part := by rw [trimLeft, List.dropWhile_cons_of_neg (by simp [hc])]
      obtain ⟨body, hbody⟩ : ∃ body, dropEmptyEnds ((c :: part) :: dedent parts) = (c :: part) :: body := by
        rw [dropEmptyEnds, List.dropWhile_cons_of_neg (by simp), List.reverse_cons, List.dropWhile_append]
        split
        · exact ⟨[], by simp⟩
        · exact ⟨_, by rw [List.reverse_append]; rfl⟩
      simp only [htrim, hbody, unlines]
      cases body with
      | nil => exact ⟨part, join_singleton _ _⟩
      | cons second rest => exact ⟨_, by rw [join_cons_cons]; rfl⟩
  obtain ⟨rest, hrest⟩ := hstart
  exact ⟨rest, hrest, words_of_cons_eq hc (by rw [← hrest, words_clean])⟩

end ApiDocs.Text
