import ApiDocs.Proofs.Docblock.Trailing

/-! Indentation does not matter. A comment whose lines after the first are all moved to the right has its margin moved
    with them, so that cleaning gives the same text. Where there is no margin, because no later line has anything in it,
    the blanks stay behind the first line; and there they do not matter either. -/

namespace ApiDocs

namespace Text

/-! ### Moving lines to the right -/

/-- A line with spaces before it. An empty line stays empty. -/
def shift (k : Nat) : Text → Text
  | [] => []
  | c :: rest => List.replicate k ' ' ++ c :: rest

/-- A comment with spaces before every line after the first that is not empty. -/
def indent (k : Nat) (s : Text) : Text :=
  match lines s with
  | [] => []
  | first :: body => unlines (first :: body.map (shift k))

theorem mem_shift {k : Nat} {line : Text} {c : Char} (h : c ∈ shift k line) : c = ' ' ∨ c ∈ line := by
  cases line with
  | nil => cases h
  | cons d rest => exact (List.mem_append.mp h).imp_left List.eq_of_mem_replicate

theorem allBlank_shift (k : Nat) (line : Text) : allBlank (shift k line) = allBlank line := by
  cases line with
  | nil => rfl
  | cons c rest =>
    have hspaces : allBlank (List.replicate k ' ') = true :=
      List.all_eq_true.mpr fun d hd => by rw [List.eq_of_mem_replicate hd]; decide
    rw [shift, allBlank_append, hspaces, Bool.true_and]

theorem indentation_shift (k : Nat) {line : Text} (h : allBlank line = false) :
    indentation (shift k line) = indentation line + k := by
  cases line with
  | nil => cases h
  | cons c rest =>
    have hspaces : ∀ d ∈ List.replicate k ' ', isBlank d = true := fun d hd => by
      rw [List.eq_of_mem_replicate hd]
      decide
    rw [shift, indentation, List.takeWhile_append_of_pos hspaces, List.length_append, List.length_replicate, Nat.add_comm]
    rfl

theorem drop_shift (m k : Nat) (line : Text) : (shift k line).drop (m + k) = line.drop m := by
  cases line with
  | nil => simp [shift]
  | cons c rest => simp [shift, List.drop_append, Nat.add_comm m k]

theorem margin_map_shift {m : Nat} {body : List Text} (h : margin body = some m) (k : Nat) :
    margin (body.map (shift k)) = some (m + k) := by
  rw [margin, List.min?_eq_some_iff] at h ⊢
  obtain ⟨hm, hleast⟩ := h
  have hmem : ∀ {n : Nat}, n ∈ ((body.map (shift k)).filter fun line => !allBlank line).map indentation ↔
      ∃ line ∈ body, allBlank line = false ∧ n = indentation line + k := by
    intro n
    constructor
    · intro hn
      obtain ⟨shifted, hs, rfl⟩ := List.mem_map.mp hn
      obtain ⟨hs, hsolid⟩ := List.mem_filter.mp hs
      obtain ⟨line, hl, rfl⟩ := List.mem_map.mp hs
      have hline : allBlank line = false := by simpa [allBlank_shift] using hsolid
      exact ⟨line, hl, hline, indentation_shift k hline⟩
    · rintro ⟨line, hl, hline, rfl⟩
      refine List.mem_map.mpr ⟨shift k line, List.mem_filter.mpr ⟨List.mem_map_of_mem hl, ?_⟩, indentation_shift k hline⟩
      simp [allBlank_shift, hline]
  obtain ⟨line, hl, rfl⟩ := List.mem_map.mp hm
  obtain ⟨hl, hsolid⟩ := List.mem_filter.mp hl
  refine ⟨hmem.mpr ⟨line, hl, by simpa using hsolid, rfl⟩, fun n hn => ?_⟩
  obtain ⟨other, ho, hother, rfl⟩ := hmem.mp hn
  have hle := hleast (indentation other)
    (List.mem_map.mpr ⟨other, List.mem_filter.mpr ⟨ho, by simp [hother]⟩, rfl⟩)
  omega

/-! ### Cleaning moved lines -/

theorem lines_indent {s first : Text} {body : List Text} (h : lines s = first :: body) (k : Nat) :
    lines (indent k s) = first :: body.map (shift k) := by
  simp only [indent, h]
  refine lines_unlines (by simp) fun part hp => ?_
  have hfeed : ∀ line ∈ first :: body, '\n' ∉ line := fun line hl => not_mem_of_mem_lines (h ▸ hl)
  rcases List.mem_cons.mp hp with rfl | hp
  · exact hfeed _ List.mem_cons_self
  · obtain ⟨line, hl, rfl⟩ := List.mem_map.mp hp
    intro hm
    rcases mem_shift hm with he | hm
    · exact absurd he (by decide)
    · exact hfeed line (List.mem_cons_of_mem _ hl) hm

theorem not_mem_tab_indent {s : Text} (h : '\t' ∉ s) (k : Nat) : '\t' ∉ indent k s := by
  intro hm
  unfold indent at hm
  split at hm
  · cases hm
  · rename_i first body hlines
    have htab : ∀ line ∈ first :: body, '\t' ∉ line := fun line hl ht => h (mem_of_mem_splitWith (hlines ▸ hl) ht)
    rcases mem_join hm with hfeed | ⟨part, hp, hc⟩
    · exact absurd (List.mem_singleton.mp hfeed) (by decide)
    · rcases List.mem_cons.mp hp with rfl | hp
      · exact htab _ List.mem_cons_self hc
      · obtain ⟨line, hl, rfl⟩ := List.mem_map.mp hp
        rcases mem_shift hc with he | hc
        · exact absurd he (by decide)
        · exact htab line (List.mem_cons_of_mem _ hl) hc

/-- Where there is a margin, cleaning takes the moved one away just the same. -/
theorem clean_indent_of_margin {s first : Text} {body : List Text} (htab : '\t' ∉ s) (h : lines s = first :: body)
    {m : Nat} (hm : margin body = some m) (k : Nat) : clean (indent k s) = clean s := by
  have hdedent : dedent (body.map (shift k)) = dedent body := by
    simp only [dedent, hm, margin_map_shift hm k, List.map_map]
    exact List.map_congr_left fun line _ => drop_shift m k line
  simp only [clean, expandTabs_of_not_mem htab, expandTabs_of_not_mem (not_mem_tab_indent htab k), h, lines_indent h k,
    hdedent]

theorem line_trimLeft {s first : Text} {body : List Text} (htab : '\t' ∉ s) (h : lines s = first :: body)
    (hfirst : allBlank first = false) : Line (trimLeft first) := by
  have hmem : first ∈ lines s := h ▸ List.mem_cons_self
  have hsuffix : trimLeft first <:+ first := List.dropWhile_suffix isBlank
  refine ⟨startsSolid_trimLeft fun hw => ?_, fun hm => not_mem_of_mem_lines hmem (hsuffix.mem hm),
    fun hm => htab (mem_of_mem_splitWith hmem (hsuffix.mem hm))⟩
  rw [words_eq_nil_iff.mp hw] at hfirst
  cases hfirst

end Text

namespace Docblock
open Text (allBlank indent shift)

theorem readComment_of_blank_lines (style : Style) {s : Text} {body : List Text} (h : Text.lines s = body)
    (hbody : ∀ line ∈ body, allBlank line = true) : (readComment style s).outcome = .ok {} := by
  have hs : allBlank s = true := by
    rw [← Text.unlines_lines s, h]
    exact Text.allBlank_unlines hbody
  have hclean : allBlank (Text.clean s) = true := (Text.allBlank_eq_of_words (Text.words_clean s)).trans hs
  simp only [readComment, hclean, ↓reduceIte]

theorem readComment_indent {style : Style} {marker : Char} (hm : style.marker? = some marker) {s : Text}
    (htab : '\t' ∉ s) (k : Nat) : (readComment style (indent k s)).outcome = (readComment style s).outcome := by
  have htab' := Text.not_mem_tab_indent htab k
  cases hlines : Text.lines s with
  | nil => exact absurd hlines (Text.splitWith_ne_nil _ s)
  | cons first body =>
    have hlines' := Text.lines_indent hlines k
    cases hmargin : Text.margin body with
    | some m => rw [readComment, readComment, Text.clean_indent_of_margin htab hlines hmargin k]
    | none =>
      have hbody := Text.margin_eq_none_iff.mp hmargin
      have hbody' : ∀ line ∈ body.map (shift k), allBlank line = true := fun line hl => by
        obtain ⟨whole, hw, rfl⟩ := List.mem_map.mp hl
        rw [Text.allBlank_shift, hbody whole hw]
      cases hfirst : allBlank first with
      | true =>
        rw [readComment_of_blank_lines style hlines (List.forall_mem_cons.mpr ⟨hfirst, hbody⟩),
          readComment_of_blank_lines style hlines' (List.forall_mem_cons.mpr ⟨hfirst, hbody'⟩)]
      | false =>
        obtain ⟨b, hb, hclean⟩ := Text.clean_of_blank_body
          (by rw [Text.expandTabs_of_not_mem htab, hlines]) hbody hfirst
        obtain ⟨b', hb', hclean'⟩ := Text.clean_of_blank_body
          (by rw [Text.expandTabs_of_not_mem htab', hlines']) hbody' hfirst
        exact readComment_line hm (Text.line_trimLeft htab hlines hfirst) hclean' hclean hb' hb

/-- In the styles with a marker, a comment without tabs is read in the same way wherever its later lines stand: to the
    same docblock, or to the same fault. -/
theorem reading_indent {style : Style} {marker : Char} (hm : style.marker? = some marker) (raw : Option Text)
    (htab : ∀ comment ∈ raw, '\t' ∉ comment) (k : Nat) :
    ((Reader.style style).reading (.ofText? (raw.map (indent k)))).outcome =
      ((Reader.style style).reading (.ofText? raw)).outcome := by
  rw [reading_ofText?, reading_ofText?]
  cases raw with
  | none => rfl
  | some comment => exact readComment_indent hm (htab comment rfl) k

/-- A comment with a tag that cannot be read, and lines of blanks. -/
def straggling : Text := "  Starts the pump.\n\n    \n @param speed: how fast\n    it turns\n @bad\n\n "

theorem reading_indent_straggling :
    '\t' ∉ straggling ∧
    indent 2 straggling = "  Starts the pump.\n\n      \n   @param speed: how fast\n      it turns\n   @bad\n\n   " ∧
    ((Reader.style .epydoc).reading (.ofText? ((some straggling).map (indent 2)))).outcome =
      ((Reader.style .epydoc).reading (.ofText? (some straggling))).outcome ∧
    ((Reader.style .epydoc).reading (.ofText? (some straggling))).outcome =
      .ok ⟨"Starts the pump.", [],
        [{ kind := .param, param := some "speed", desc := "how fast\nit turns" },
         { kind := .other "bad", desc := "@bad", valid := false }]⟩ :=
  have htab : '\t' ∉ straggling := by decide
  have hmarker : Style.marker? .epydoc = some '@' := rfl
  ⟨htab, by decide, reading_indent hmarker (some straggling) (fun _ h => Option.some.inj h ▸ htab) 2, by decide⟩

end Docblock
end ApiDocs
