import ApiDocs.Proofs.Text.Basic
import ApiDocs.Text.Margin

/-! What cleaning leaves of a text: it takes characters away and puts spaces and line feeds in their place, but brings
    in nothing else. So a text of blanks stays one, and no marker appears that was not there before. -/

namespace ApiDocs.Text

theorem mem_expandTabs {c : Char} {column : Nat} {s : Text} (h : c ∈ expandTabs column s) : c ∈ s ∨ c = ' ' := by
  induction s generalizing column with
  | nil => cases h
  | cons d rest ih =>
    simp only [expandTabs] at h
    split at h
    · rcases List.mem_append.mp h with h | h
      · exact Or.inr (List.eq_of_mem_replicate h)
      · exact (ih h).imp_left (List.mem_cons_of_mem _)
    · split at h <;> rcases List.mem_cons.mp h with rfl | h
      · exact Or.inl List.mem_cons_self
      · exact (ih h).imp_left (List.mem_cons_of_mem _)
      · exact Or.inl List.mem_cons_self
      · exact (ih h).imp_left (List.mem_cons_of_mem _)

theorem mem_dropEmptyEnds {line : Text} {body : List Text} (h : line ∈ dropEmptyEnds body) : line ∈ body := by
  unfold dropEmptyEnds at h
  have hsub : line ∈ (body.dropWhile List.isEmpty).reverse :=
    (List.dropWhile_sublist List.isEmpty).mem (List.mem_reverse.mp h)
  exact (List.dropWhile_sublist List.isEmpty).mem (List.mem_reverse.mp hsub)

/-- A line that lost its margin is the end of a line. -/
theorem mem_dedent {line : Text} {body : List Text} (h : line ∈ dedent body) : ∃ whole ∈ body, line <:+ whole := by
  unfold dedent at h
  split at h
  · exact ⟨line, h, List.suffix_refl line⟩
  · obtain ⟨whole, hw, rfl⟩ := List.mem_map.mp h
    exact ⟨whole, hw, List.drop_suffix _ whole⟩

/-- Every character of a cleaned text was there before, or is a space or a line feed. -/
theorem mem_clean {c : Char} {s : Text} (h : c ∈ clean s) : c ∈ s ∨ c = ' ' ∨ c = '\n' := by
  have hline : ∀ {line : Text}, line ∈ lines (expandTabs 0 s) → c ∈ line → c ∈ s ∨ c = ' ' ∨ c = '\n' := fun hl hc =>
    (mem_expandTabs (mem_of_mem_splitWith hl hc)).imp_right Or.inl
  unfold clean at h
  split at h
  · cases h
  · rename_i first body hlines
    rw [hlines] at hline
    rcases mem_join h with h | ⟨line, hl, hc⟩
    · exact Or.inr (Or.inr (List.mem_singleton.mp h))
    · rcases List.mem_cons.mp (mem_dropEmptyEnds hl) with rfl | hl
      · exact hline List.mem_cons_self ((List.dropWhile_suffix _).mem hc)
      · obtain ⟨whole, hw, hsuffix⟩ := mem_dedent hl
        exact hline (List.mem_cons_of_mem _ hw) (hsuffix.mem hc)

theorem not_mem_clean {marker : Char} {s : Text} (hb : isBlank marker = false) (h : marker ∉ s) : marker ∉ clean s := by
  intro hc
  rcases mem_clean hc with hc | rfl | rfl
  · exact h hc
  · cases hb
  · cases hb

end ApiDocs.Text
