import ApiDocs.Proofs.Docblock.ReturnTypes

/-! Tags come out in the order of the document. Each chunk adds its tags behind those of the chunks before it; what comes
    later may give a type to a tag that is there, but changes nothing else. Only the types of what is returned that have
    found no tag make tags of their own, behind all the others. -/

namespace ApiDocs.Docblock

/-! ### Types that wait -/

/-- The type of what is returned that a piece gives without a tag for it. -/
def Piece.loneReturnTypes : Piece → List Text
  | .returnType type => [type]
  | _ => []

namespace Gathered
variable (g : Gathered)

theorem addItem_waiting (item : Item) : (g.addItem item).returnTypes.Sublist g.returnTypes := by
  cases item with
  | param name type desc =>
    simp only [addItem]
    split <;> exact List.Sublist.refl _
  | returns type desc generator =>
    cases generator with
    | true => exact List.Sublist.refl _
    | false =>
      simp only [addItem, Bool.false_eq_true, ↓reduceIte]
      split
      · rename_i hw
        rw [hw]
        exact List.sublist_cons_self _ _
      · exact List.Sublist.refl _
  | raises type desc => exact List.Sublist.refl _
  | other => exact List.Sublist.refl _

theorem addItems_waiting (found : List Item) : (found.foldl addItem g).returnTypes.Sublist g.returnTypes := by
  induction found generalizing g with
  | nil => exact List.Sublist.refl _
  | cons item rest ih => exact (ih (g.addItem item)).trans (g.addItem_waiting item)

/-- Types come to wait behind the others, and leave in any order. -/
theorem add_waiting (piece : Piece) :
    (g.add piece).returnTypes.Sublist (g.returnTypes ++ piece.loneReturnTypes) := by
  cases piece with
  | malformed chunk reason => exact List.sublist_append_left _ _
  | paramType names type =>
    have hsame : (g.addParamType names type).returnTypes = g.returnTypes := by
      rcases g.addParamType_cases names type with ⟨_, _, _, _, -, -, -, -, h⟩ | ⟨_, -, -, h⟩ | ⟨-, h⟩ <;> rw [h]
    rw [add, hsame]
    exact List.sublist_append_left _ _
  | returnType type =>
    rcases g.addReturnType_cases type with ⟨_, _, _, -, -, -, -, h⟩ | ⟨-, h⟩
    · rw [add, h]
      exact List.sublist_append_left _ _
    · rw [add, h]
      exact List.Sublist.refl _
  | items found => exact (g.addItems_waiting found).trans (List.sublist_append_left _ _)

theorem addAll_waiting (pieces : List Piece) :
    (pieces.foldl add g).returnTypes.Sublist (g.returnTypes ++ pieces.flatMap Piece.loneReturnTypes) := by
  induction pieces generalizing g with
  | nil => exact List.sublist_append_left _ _
  | cons piece rest ih =>
    rw [List.foldl_cons, List.flatMap_cons, ← List.append_assoc]
    exact (ih (g.add piece)).trans ((g.add_waiting piece).append_right _)

end Gathered

/-- The types that wait to the end are some of those that pieces of their own give, in the same order. -/
theorem gather_waiting (pieces : List Piece) :
    (gather pieces).returnTypes.Sublist (pieces.flatMap Piece.loneReturnTypes) :=
  Gathered.addAll_waiting {} pieces

/-! ### Chunks -/

/-- The type of what is returned that a chunk of its own gives. -/
def Style.loneReturnTypes (style : Style) : Text → List Text := style.given Piece.loneReturnTypes

theorem readPieces_append {style : Style} {earlier later : List Text} (h : (readPieces style (earlier ++ later)).2 = none) :
    (readPieces style (earlier ++ later)).1 = (readPieces style earlier).1 ++ (readPieces style later).1 := by
  induction earlier with
  | nil => rfl
  | cons chunk rest ih =>
    rw [List.cons_append, readPieces_cons] at h ⊢
    rw [readPieces_cons]
    cases hp : Piece.read style chunk with
    | error fault =>
      rw [hp] at h
      cases h
    | ok piece =>
      rw [hp] at h
      rw [ih h]
      rfl

/-- Good and malformed chunks, types before and after their tags, and one type of what is returned that is left over. -/
def jumbled : List Text :=
  [":type b: int\n", ":param a: x\n", ":param: oops\n", ":param b: y\n", ":rtype: str\n", ":raises E: z\n", ":type a: set\n",
   ":return: w\n", ":rtype: bool"]

end ApiDocs.Docblock
