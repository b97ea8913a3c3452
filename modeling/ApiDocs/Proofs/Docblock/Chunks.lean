import ApiDocs.Proofs.Docblock.Tolerance
import ApiDocs.Proofs.Text.Layout

/-! The cut before each tag loses nothing. What stands before the first tag and the chunks make up the text, every line
    that begins with the marker begins a chunk, and no chunk has a second one. All of it is shown line by line. -/

namespace ApiDocs

namespace Text

/-! ### From line to line -/

/-- A text is one line, or a line with more text behind it. -/
@[elab_as_elim]
theorem lineInduction {motive : Text → Prop} (last : ∀ line, '\n' ∉ line → motive line)
    (more : ∀ line rest, '\n' ∉ line → motive rest → motive (line ++ '\n' :: rest)) (s : Text) : motive s := by
  have hparts : ∀ parts : List Text, parts ≠ [] → (∀ part ∈ parts, '\n' ∉ part) → motive (unlines parts) := by
    intro parts hne h
    induction parts with
    | nil => exact absurd rfl hne
    | cons first rest ih =>
      obtain ⟨hfirst, hrest⟩ := List.forall_mem_cons.mp h
      cases rest with
      | nil =>
        rw [unlines, join_singleton]
        exact last first hfirst
      | cons second rest =>
        rw [unlines_cons_cons]
        exact more first _ hfirst (ih (List.cons_ne_nil _ _) hrest)
  rw [← unlines_lines s]
  exact hparts (lines s) (splitWith_ne_nil _ s) fun _ => not_mem_of_mem_lines

theorem exists_of_startsWith {marker : Char} {s : Text} (h : startsWith marker s = true) :
    ∃ rest, s = marker :: rest := by
  cases s with
  | nil => cases h
  | cons c rest =>
    rw [startsWith, List.head?_cons, beq_iff_eq, Option.some_inj] at h
    exact ⟨rest, by rw [h]⟩

/-! ### The partition -/

/-- How a text is parted into a lead and chunks, each with the line that begins with the marker at its start and no other
    such line. -/
structure Parted (marker : Char) (text lead : Text) (chunks : List Text) : Prop where
  /-- Nothing is lost and nothing is moved. -/
  whole : lead ++ chunks.flatten = text
  /-- No line of the lead begins with the marker. -/
  unmarked : ∀ line ∈ lines lead, startsWith marker line = false
  /-- The lead ends with a line. -/
  edge : chunks ≠ [] → lead = [] ∨ lead.getLast? = some '\n'
  /-- Every chunk begins with the marker. -/
  marked : ∀ chunk ∈ chunks, ∃ rest, chunk = marker :: rest
  /-- No line of a chunk begins with the marker but the first. -/
  single : ∀ chunk ∈ chunks, ∀ line ∈ (lines chunk).tail, startsWith marker line = false
  /-- The first lines of the chunks are the lines of the text that begin with the marker, in order. -/
  first : chunks.map firstLine = (lines text).filter (startsWith marker)
  /-- The chunks are what the text from the first of them on is cut into. -/
  tail : cutBefore (startsWith marker) chunks.flatten = ([], chunks)

theorem parted_line (marker : Char) {line : Text} (hline : '\n' ∉ line) :
    Parted marker line (cutBefore (startsWith marker) line).1 (cutBefore (startsWith marker) line).2 := by
  have hlines := lines_of_not_mem hline
  have hcut : line ≠ [] → cutBefore (startsWith marker) (line ++ []) =
      if startsWith marker line then ([], [line ++ []]) else (line ++ [], []) := fun hne =>
    cutBefore_line hne hline List.not_mem_nil
  rw [List.append_nil] at hcut
  cases hstart : startsWith marker line with
  | true =>
    have hone : cutBefore (startsWith marker) line = ([], [line]) := by
      obtain ⟨rest, rfl⟩ := exists_of_startsWith hstart
      rw [hcut (List.cons_ne_nil _ _), if_pos hstart]
    rw [hone]
    exact {
      whole := by simp
      unmarked := by simp [lines, splitWith, startsWith]
      edge := fun _ => Or.inl rfl
      marked := by simpa using exists_of_startsWith hstart
      single := by simp [hlines]
      first := by simp [hlines, hstart, firstLine_of_not_mem hline]
      tail := by simpa using hone }
  | false =>
    have hnone : cutBefore (startsWith marker) line = (line, []) := by
      cases line with
      | nil => rfl
      | cons c rest => rw [hcut (List.cons_ne_nil c rest), hstart, if_neg Bool.false_ne_true]
    rw [hnone]
    exact {
      whole := by simp
      unmarked := by simpa [hlines] using hstart
      edge := by simp
      marked := by simp
      single := by simp
      first := by simp [hlines, hstart]
      tail := rfl }

/-- The text behind a line is parted, and the line goes before its lead: it begins a new chunk, or is part of the
    lead. -/
theorem Parted.line {marker : Char} (hmarker : marker ≠ '\n') {line rest : Text} (hline : '\n' ∉ line)
    (h : Parted marker rest (cutBefore (startsWith marker) rest).1 (cutBefore (startsWith marker) rest).2) :
    Parted marker (line ++ '\n' :: rest) (cutBefore (startsWith marker) (line ++ '\n' :: rest)).1
      (cutBefore (startsWith marker) (line ++ '\n' :: rest)).2 := by
  have hcut := cutBefore_append_feed hmarker hline rest
  rcases hrest : cutBefore (startsWith marker) rest with ⟨lead, chunks⟩
  rw [hrest] at h hcut
  have hwhole : lead ++ chunks.flatten = rest := h.whole
  have hlines := lines_append_feed hline rest
  have hlead := lines_append_feed hline lead
  cases hstart : startsWith marker line with
  | true =>
    rw [hstart, if_pos rfl] at hcut
    have hchunk : ∃ after, line ++ '\n' :: lead = marker :: after := by
      obtain ⟨after, rfl⟩ := exists_of_startsWith hstart
      exact ⟨_, rfl⟩
    have hall : (line ++ '\n' :: lead) ++ chunks.flatten = line ++ '\n' :: rest := by
      rw [List.append_assoc, List.cons_append, hwhole]
    rw [hcut]
    exact {
      whole := hall
      unmarked := by simp [lines, splitWith, startsWith]
      edge := fun _ => Or.inl rfl
      marked := List.forall_mem_cons.mpr ⟨hchunk, h.marked⟩
      single := List.forall_mem_cons.mpr ⟨by simpa [hlead] using h.unmarked, h.single⟩
      first := by rw [List.map_cons, h.first, hlines, List.filter_cons_of_pos hstart, firstLine_append_feed hline]
      tail := by rw [List.flatten_cons, hall, hcut] }
  | false =>
    rw [hstart, if_neg Bool.false_ne_true] at hcut
    rw [hcut]
    exact {
      whole := by rw [List.append_assoc, List.cons_append, hwhole]
      unmarked := by
        rw [hlead]
        exact List.forall_mem_cons.mpr ⟨hstart, h.unmarked⟩
      edge := by
        intro hne
        refine Or.inr ?_
        rcases h.edge hne with rfl | hlast
        · simp
        · simp [List.getLast?_cons, hlast]
      marked := h.marked
      single := h.single
      first := by rw [h.first, hlines, List.filter_cons_of_neg (by simp [hstart])]
      tail := h.tail }

/-- Cutting before the lines that begin with a marker parts a text. -/
theorem parted_cutBefore {marker : Char} (hmarker : marker ≠ '\n') (s : Text) :
    Parted marker s (cutBefore (startsWith marker) s).1 (cutBefore (startsWith marker) s).2 := by
  induction s using lineInduction with
  | last line hline => exact parted_line marker hline
  | more line rest hline ih => exact ih.line hmarker hline

theorem Parted.length {marker : Char} {text lead : Text} {chunks : List Text} (h : Parted marker text lead chunks) :
    chunks.length = (lines text).countP (startsWith marker) := by
  rw [List.countP_eq_length_filter, ← h.first, List.length_map]

end Text

namespace Docblock

/-- A comment that has a tag is read tag by tag, and nothing of it is lost: the lead and the chunks make up the cleaned
    text, the lead has no line that begins with the marker, and there is one chunk for each line that does, which is the
    first of the chunk and the only such line in it. -/
theorem readComment_parted {style : Style} {marker : Char} (hm : style.marker? = some marker) {comment : Text}
    (hline : ∃ line ∈ Text.lines (Text.clean comment), Text.startsWith marker line = true) :
    ∃ lead chunks, Text.cutBefore (Text.startsWith marker) (Text.clean comment) = (lead, chunks) ∧
      readComment style comment = readTagged style lead chunks ∧ chunks ≠ [] ∧
      Text.Parted marker (Text.clean comment) lead chunks ∧
      chunks.length = (Text.lines (Text.clean comment)).countP (Text.startsWith marker) := by
  have hfeed : marker ≠ '\n' := by
    rintro rfl
    exact absurd (Style.isBlank_marker hm) (by decide)
  have hparted := Text.parted_cutBefore hfeed (Text.clean comment)
  have hne : (parts marker comment).2 ≠ [] := by
    intro hnone
    obtain ⟨line, hmem, hstart⟩ := hline
    have hmarked : line ∈ (Text.lines (Text.clean comment)).filter (Text.startsWith marker) :=
      List.mem_filter.mpr ⟨hmem, hstart⟩
    rw [← hparted.first, ← parts, hnone] at hmarked
    cases hmarked
  have hblank : Text.allBlank (Text.clean comment) = false := by
    refine Bool.eq_false_iff.mpr fun hblank => hne ?_
    rw [(parts_of_blank hm hblank).2]
  rcases readComment_of_not_blank hm hblank with ⟨hnone, -⟩ | ⟨-, hread⟩
  · exact absurd hnone hne
  · exact ⟨_, _, rfl, hread, hne, hparted, hparted.length⟩

/-- A comment with tags over several lines, and with markers that begin no tag. -/
def sumComment : Text :=
  "Sums up.\n\n    @param a: the first\n        @see below\n    @return: a @ b\n\n    @"

/-- What stands before its tags, and its tags. -/
def sumLead : Text := "Sums up.\n\n"

def sumChunks : List Text := ["@param a: the first\n    @see below\n", "@return: a @ b\n\n", "@"]

theorem cutBefore_sumComment :
    Text.cutBefore (Text.startsWith '@') (Text.clean sumComment) = (sumLead, sumChunks) := by decide

theorem readComment_parted_sum :
    Style.marker? .epydoc = some '@' ∧
    (∃ line ∈ Text.lines (Text.clean sumComment), Text.startsWith '@' line = true) ∧
    readComment .epydoc sumComment = readTagged .epydoc sumLead sumChunks ∧
    Text.Parted '@' (Text.clean sumComment) sumLead sumChunks ∧
    sumChunks.length = (Text.lines (Text.clean sumComment)).countP (Text.startsWith '@') := by
  have hmarker : Style.marker? .epydoc = some '@' := rfl
  have hline : ∃ line ∈ Text.lines (Text.clean sumComment), Text.startsWith '@' line = true :=
    ⟨"@return: a @ b".toList, by decide, rfl⟩
  obtain ⟨lead, chunks, hcut, hread, -, hparted, hlength⟩ := readComment_parted hmarker hline
  cases cutBefore_sumComment.symm.trans hcut
  exact ⟨hmarker, hline, hread, hparted, hlength⟩

end Docblock
end ApiDocs
