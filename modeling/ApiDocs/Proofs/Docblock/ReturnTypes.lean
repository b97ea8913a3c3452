import ApiDocs.Proofs.Docblock.Gathering

/-! Types of what is returned are conserved. On the way from its chunk to a tag such a type may go to a tag that is
    there already, wait for a later one, or make a tag of its own at the end; but each of them comes to stand in exactly
    one tag, and no other type does. -/

namespace ApiDocs.Docblock

/-! ### The names of tags -/

namespace Kind

theorem mem_of_lookup {word : Text} {kind : Kind} (h : words.lookup word = some kind) :
    kind = .param ∨ kind = .returns ∨ kind = .throws := by
  obtain ⟨before, after, hsplit, -⟩ := List.lookup_eq_some_iff.mp h
  have hall : ∀ entry ∈ words, entry.2 = .param ∨ entry.2 = .returns ∨ entry.2 = .throws := by simp [words]
  exact hall (word, kind) (by simp [hsplit])

theorem name_eq_return_iff {kind : Kind} (h : kind = .param ∨ kind = .returns ∨ kind = .throws) :
    kind.name = "return".toList ↔ kind = .returns := by
  rcases h with rfl | rfl | rfl <;> decide

/-- A word that is not known makes no kind of this name, since the name is a known word. -/
theorem ofWord_name_eq_return {word : Text} : (ofWord word).name = "return".toList ↔ ofWord word = .returns := by
  unfold ofWord
  cases hl : words.lookup word with
  | some kind => exact name_eq_return_iff (mem_of_lookup hl)
  | none =>
    refine ⟨fun hname => ?_, nofun⟩
    have hword : word = "return".toList := hname
    rw [hword] at hl
    cases hl

end Kind

theorem Piece.name_of_mem_tags {piece : Piece} {tag : Tag} (h : tag ∈ piece.tags) :
    tag.kind.name = "return".toList ↔ tag.kind = .returns := by
  cases piece with
  | malformed chunk reason =>
    obtain rfl := List.mem_singleton.mp h
    exact Kind.ofWord_name_eq_return
  | items found =>
    obtain ⟨item, -, hi⟩ := List.mem_filterMap.mp h
    cases item with
    | param name type desc =>
      cases hi
      exact Kind.name_eq_return_iff (Or.inl rfl)
    | returns type desc generator =>
      cases generator <;> cases hi
      exact Kind.name_eq_return_iff (Or.inr (Or.inl rfl))
    | raises type desc =>
      cases hi
      exact Kind.name_eq_return_iff (Or.inr (Or.inr rfl))
    | other => cases hi
  | paramType names type => cases h
  | returnType type => cases h

/-- A gathered tag is called `return` exactly if it is for what is returned. -/
theorem name_of_mem_gather {pieces : List Piece} {tag : Tag} (h : tag ∈ (gather pieces).all) :
    (tag.kind.name == "return".toList) = Gathered.isReturn tag := by
  have hiff : tag.kind.name = "return".toList ↔ tag.kind = .returns := by
    rcases List.mem_append.mp h with ht | ht
    · have hmem : tag.untyped ∈ pieces.flatMap Piece.tags := by
        rw [← gather_untyped]
        exact List.mem_map_of_mem ht
      obtain ⟨piece, -, htag⟩ := List.mem_flatMap.mp hmem
      have hname := Piece.name_of_mem_tags htag
      exact hname
    · obtain ⟨type, -, rfl⟩ := List.mem_map.mp ht
      exact Kind.name_eq_return_iff (Or.inr (Or.inl rfl))
  rw [Bool.eq_iff_iff, beq_iff_eq, hiff, Gathered.isReturn, beq_iff_eq]

theorem filterMap_type_of_names {tags : List Tag}
    (h : ∀ tag ∈ tags, (tag.kind.name == "return".toList) = Gathered.isReturn tag) :
    (tags.filter fun tag => tag.kind.name == "return".toList).filterMap (·.type) = returnTypesOf tags := by
  induction tags with
  | nil => rfl
  | cons tag rest ih =>
    obtain ⟨htag, hrest⟩ := List.forall_mem_cons.mp h
    rw [returnTypesOf_cons, ← ih hrest]
    cases hr : Gathered.isReturn tag with
    | true =>
      rw [List.filter_cons_of_pos (by rw [htag, hr]), List.filterMap_cons, Tag.returnType?_of_isReturn hr]
      cases tag.type <;> rfl
    | false =>
      rw [List.filter_cons_of_neg (by rw [htag, hr]; decide), Tag.returnType?_of_not hr]
      rfl

/-! ### Chunks -/

/-- The types that a chunk gives for what is returned: the value of a chunk for such a type, or else the types of the
    items about it, generators apart. A chunk that is rejected gives none, and neither does one for the type of a
    parameter. -/
def Style.returnTypes (style : Style) : Text → List Text := style.given Piece.returnTypes

end ApiDocs.Docblock
