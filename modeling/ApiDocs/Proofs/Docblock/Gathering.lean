import ApiDocs.Docblock.Reading

/-! What gathering does with one more piece, said once: the tags that are there keep their order and everything but
    their types (`untyped`), and no type of what is returned gets lost on the way to its tag (`returnTypesOf`). Both are
    shown of a step and from there of a whole run. -/

namespace ApiDocs.Docblock

/-! ### The last element of its kind -/

section Last
variable {α : Type} {p : α → Bool} {f : α → α}

theorem updateLast_eq_none_iff {l : List α} : updateLast p f l = none ↔ ∀ x ∈ l, p x = false := by
  induction l with
  | nil => simp [updateLast]
  | cons a rest ih =>
    cases hr : updateLast p f rest with
    | some rest' =>
      simp only [updateLast, hr, reduceCtorEq, List.mem_cons, forall_eq_or_imp, false_iff, not_and]
      intro _ hall
      rw [ih.mpr hall] at hr
      cases hr
    | none =>
      have hrest := ih.mp hr
      cases hp : p a <;> simp_all [updateLast]

/-- The element that is changed is the last one that satisfies `p`. -/
theorem updateLast_eq_some {l l' : List α} (h : updateLast p f l = some l') :
    ∃ a x b, l = a ++ x :: b ∧ p x = true ∧ (∀ y ∈ b, p y = false) ∧ l' = a ++ f x :: b := by
  induction l generalizing l' with
  | nil => simp [updateLast] at h
  | cons first rest ih =>
    cases hr : updateLast p f rest with
    | some rest' =>
      simp only [updateLast, hr, Option.some.injEq] at h
      obtain ⟨a, x, b, rfl, hx, hb, rfl⟩ := ih hr
      exact ⟨first :: a, x, b, rfl, hx, hb, h.symm⟩
    | none =>
      simp only [updateLast, hr] at h
      split at h
      · rename_i hp
        exact ⟨[], first, rest, rfl, hp, updateLast_eq_none_iff.mp hr, (Option.some.inj h).symm⟩
      · cases h

theorem updateLast_of_last {a b : List α} {x : α} (hx : p x = true) (hb : ∀ y ∈ b, p y = false) :
    updateLast p f (a ++ x :: b) = some (a ++ f x :: b) := by
  induction a with
  | nil => simp [updateLast, updateLast_eq_none_iff.mpr hb, hx]
  | cons first a ih => simp [updateLast, ih]

theorem getLast?_filter_eq_some {l : List α} {x : α} (h : (l.filter p).getLast? = some x) :
    ∃ a b, l = a ++ x :: b ∧ p x = true ∧ ∀ y ∈ b, p y = false := by
  obtain ⟨ys, hys⟩ := List.getLast?_eq_some_iff.mp h
  obtain ⟨a, rest, rfl, -, hrest⟩ := List.filter_eq_append_iff.mp hys
  obtain ⟨b, c, rfl, hb, hx, hc⟩ := List.filter_eq_cons_iff.mp hrest
  refine ⟨a ++ b, c, by simp, hx, fun y hy => ?_⟩
  have := List.filter_eq_nil_iff.mp hc y hy
  simpa using this

theorem getLast?_filter_of_last {a b : List α} {x : α} (hx : p x = true) (hb : ∀ y ∈ b, p y = false) :
    ((a ++ x :: b).filter p).getLast? = some x := by
  have hnil : b.filter p = [] := List.filter_eq_nil_iff.mpr fun y hy => by simp [hb y hy]
  simp [hx, hnil]

end Last

/-! ### The tags of a piece -/

/-- A tag without its type. -/
def Tag.untyped (tag : Tag) : Tag := { tag with type := none }

/-- The tag that an item makes, without its type. Generators and what is of no use here make none. -/
def Item.tag? : Item → Option Tag
  | .param name _ desc => some { kind := .param, param := some name, desc, valid := Text.isIdentifier name }
  | .returns _ desc false => some { kind := .returns, desc }
  | .returns _ _ true => none
  | .raises _ desc => some { kind := .throws, desc }
  | .other => none

/-- The tags that a piece makes, without their types. -/
def Piece.tags : Piece → List Tag
  | .malformed chunk _ => [Tag.malformed chunk]
  | .items found => found.filterMap Item.tag?
  | _ => []

namespace Gathered
variable (g : Gathered)

/-- An item adds its tag behind the others. -/
theorem addItem_untyped (item : Item) :
    (g.addItem item).tags.map Tag.untyped = g.tags.map Tag.untyped ++ item.tag?.toList := by
  cases item with
  | param name type desc =>
    simp only [addItem]
    split <;> simp [Tag.untyped, Item.tag?]
  | returns type desc generator =>
    cases generator with
    | true => simp [addItem, Item.tag?]
    | false =>
      simp only [addItem, Bool.false_eq_true, ↓reduceIte]
      split <;> simp [Tag.untyped, Item.tag?]
  | raises type desc => simp [addItem, Tag.untyped, Item.tag?]
  | other => simp [addItem, Item.tag?]

theorem addItems_untyped (found : List Item) :
    (found.foldl addItem g).tags.map Tag.untyped = g.tags.map Tag.untyped ++ found.filterMap Item.tag? := by
  induction found generalizing g with
  | nil => simp
  | cons item rest ih =>
    rw [List.foldl_cons, ih, addItem_untyped, List.append_assoc, List.filterMap_cons]
    cases item.tag? <;> rfl

/-- What a type of a parameter does: it goes to the last valid tag of its name, to those that wait, or nowhere. -/
theorem addParamType_cases (names : List Text) (type : Text) :
    (∃ name a tag b, names = [name] ∧ g.tags = a ++ tag :: b ∧ isParam name tag = true ∧
      (∀ t ∈ b, isParam name t = false) ∧
      g.addParamType names type = { g with tags := a ++ { tag with type := some type } :: b }) ∨
    (∃ name, names = [name] ∧ (∀ t ∈ g.tags, isParam name t = false) ∧
      g.addParamType names type = { g with paramTypes := Ordered.put name type g.paramTypes }) ∨
    ((∀ name, names ≠ [name]) ∧ g.addParamType names type = g) := by
  unfold addParamType
  split
  · rename_i name
    cases hu : updateLast (isParam name) (fun tag => { tag with type := some type }) g.tags with
    | some tags =>
      obtain ⟨a, tag, b, hg, hp, hb, rfl⟩ := updateLast_eq_some hu
      exact Or.inl ⟨name, a, tag, b, rfl, hg, hp, hb, rfl⟩
    | none => exact Or.inr (Or.inl ⟨name, rfl, updateLast_eq_none_iff.mp hu, rfl⟩)
  · rename_i hne
    exact Or.inr (Or.inr ⟨hne, rfl⟩)

/-- What a type of what is returned does: it goes to the last tag for what is returned, if that has no type, or to those
    that wait. -/
theorem addReturnType_cases (type : Text) :
    (∃ a tag b, g.tags = a ++ tag :: b ∧ isReturn tag = true ∧ tag.type = none ∧ (∀ t ∈ b, isReturn t = false) ∧
      g.addReturnType type = { g with tags := a ++ { tag with type := some type } :: b }) ∨
    ((∀ tag, (g.tags.filter isReturn).getLast? = some tag → tag.type ≠ none) ∧
      g.addReturnType type = { g with returnTypes := g.returnTypes ++ [type] }) := by
  cases hl : (g.tags.filter isReturn).getLast? with
  | none => exact Or.inr ⟨by simp, by simp [addReturnType, hl]⟩
  | some last =>
    cases ht : last.type with
    | some t =>
      refine Or.inr ⟨fun tag h => ?_, ?_⟩
      · cases h
        simp [ht]
      · obtain ⟨kind, ty, param, desc, valid⟩ := last
        simp only at ht
        subst ht
        simp [addReturnType, hl]
    | none =>
      obtain ⟨a, b, hg, hr, hb⟩ := getLast?_filter_eq_some hl
      refine Or.inl ⟨a, last, b, hg, hr, ht, hb, ?_⟩
      obtain ⟨kind, ty, param, desc, valid⟩ := last
      simp only at ht
      subst ht
      simp only [addReturnType, hg, getLast?_filter_of_last hr hb, updateLast_of_last hr hb]

/-- A step adds the tags of its piece behind the others, and changes nothing of those but their types. -/
theorem add_untyped (piece : Piece) :
    (g.add piece).tags.map Tag.untyped = g.tags.map Tag.untyped ++ piece.tags := by
  cases piece with
  | malformed chunk reason => simp [add, Piece.tags, Tag.untyped, Tag.malformed]
  | paramType names type =>
    rcases g.addParamType_cases names type with ⟨_, a, tag, b, -, hg, -, -, h⟩ | ⟨_, -, -, h⟩ | ⟨-, h⟩
    · simp [add, h, hg, Piece.tags, Tag.untyped]
    · simp [add, h, Piece.tags]
    · simp [add, h, Piece.tags]
  | returnType type =>
    rcases g.addReturnType_cases type with ⟨a, tag, b, hg, -, -, -, h⟩ | ⟨-, h⟩
    · simp [add, h, hg, Piece.tags, Tag.untyped]
    · simp [add, h, Piece.tags]
  | items found => exact g.addItems_untyped found

theorem addAll_untyped (pieces : List Piece) :
    (pieces.foldl add g).tags.map Tag.untyped = g.tags.map Tag.untyped ++ pieces.flatMap Piece.tags := by
  induction pieces generalizing g with
  | nil => simp
  | cons piece rest ih => rw [List.foldl_cons, ih, add_untyped, List.append_assoc, List.flatMap_cons]

end Gathered

theorem gather_concat (pieces : List Piece) (piece : Piece) :
    gather (pieces ++ [piece]) = (gather pieces).add piece := by
  simp [gather, List.foldl_append]

/-- But for their types, the tags are those of the pieces, one piece after the other. -/
theorem gather_untyped (pieces : List Piece) :
    (gather pieces).tags.map Tag.untyped = pieces.flatMap Piece.tags :=
  Gathered.addAll_untyped {} pieces

/-! ### The types of what is returned -/

/-- The type that a tag gives for what is returned. -/
def Tag.returnType? (tag : Tag) : Option Text := if Gathered.isReturn tag then tag.type else none

/-- The type that an item gives for what is returned. -/
def Item.returnType? : Item → Option Text
  | .returns type _ false => type
  | _ => none

/-- The types that a piece gives for what is returned. -/
def Piece.returnTypes : Piece → List Text
  | .returnType type => [type]
  | .items found => found.filterMap Item.returnType?
  | _ => []

/-- The types that tags give for what is returned. -/
def returnTypesOf (tags : List Tag) : List Text := tags.filterMap Tag.returnType?

@[simp] theorem returnTypesOf_nil : returnTypesOf [] = [] := rfl

@[simp] theorem returnTypesOf_append (a b : List Tag) :
    returnTypesOf (a ++ b) = returnTypesOf a ++ returnTypesOf b :=
  List.filterMap_append ..

@[simp] theorem returnTypesOf_cons (tag : Tag) (b : List Tag) :
    returnTypesOf (tag :: b) = tag.returnType?.toList ++ returnTypesOf b := by
  unfold returnTypesOf
  rw [List.filterMap_cons]
  cases tag.returnType? <;> rfl

theorem Tag.returnType?_of_isReturn {tag : Tag} (h : Gathered.isReturn tag = true) : tag.returnType? = tag.type := by
  simp [Tag.returnType?, h]

theorem Gathered.isReturn_of_isParam {name : Text} {tag : Tag} (h : isParam name tag = true) :
    isReturn tag = false := by
  simp only [isParam, Bool.and_eq_true, beq_iff_eq] at h
  simp [isReturn, h.1.1]

theorem Tag.returnType?_of_not {tag : Tag} (h : Gathered.isReturn tag = false) : tag.returnType? = none := by
  simp [Tag.returnType?, h]

namespace Gathered
variable (g : Gathered)

/-- Types that wait count as given. -/
@[simp] theorem returnTypesOf_all : returnTypesOf g.all = returnTypesOf g.tags ++ g.returnTypes := by
  have hwait : ∀ types : List Text,
      returnTypesOf (types.map fun type => { kind := .returns, type := some type }) = types := by
    intro types
    induction types with
    | nil => rfl
    | cons type rest ih =>
      rw [List.map_cons, returnTypesOf_cons, ih]
      rfl
  rw [all, returnTypesOf_append, hwait]

theorem addItem_returnTypes (item : Item) :
    (returnTypesOf (g.addItem item).all).Perm (returnTypesOf g.all ++ item.returnType?.toList) := by
  cases item with
  | param name type desc =>
    simp only [addItem]
    split <;> simp [Tag.returnType?, isReturn, Item.returnType?]
  | returns type desc generator =>
    cases generator with
    | true => simp [addItem, Item.returnType?]
    | false =>
      simp only [addItem, Bool.false_eq_true, ↓reduceIte]
      split
      · rename_i waiting rest hw
        -- The type that waited longest moves to the new tag, which stands right before the others that wait.
        simp [Tag.returnType?, isReturn, Item.returnType?, hw]
      · simp only [returnTypesOf_all, returnTypesOf_append, List.append_assoc]
        refine List.Perm.append_left _ ?_
        simpa [Tag.returnType?, isReturn, Item.returnType?] using List.perm_append_comm
  | raises type desc => simp [addItem, Tag.returnType?, isReturn, Item.returnType?]
  | other => simp [addItem, Item.returnType?]

theorem addItems_returnTypes (found : List Item) :
    (returnTypesOf (found.foldl addItem g).all).Perm (returnTypesOf g.all ++ found.filterMap Item.returnType?) := by
  induction found generalizing g with
  | nil => simp
  | cons item rest ih =>
    rw [List.foldl_cons, List.filterMap_cons]
    refine (ih (g.addItem item)).trans ?_
    have h := (g.addItem_returnTypes item).append_right (rest.filterMap Item.returnType?)
    cases hi : item.returnType? <;> simpa [hi] using h

/-- A step adds the types that its piece gives for what is returned, and loses none. -/
theorem add_returnTypes (piece : Piece) :
    (returnTypesOf (g.add piece).all).Perm (returnTypesOf g.all ++ piece.returnTypes) := by
  cases piece with
  | malformed chunk reason =>
    have hm : (Tag.malformed chunk).returnType? = none := by simp [Tag.returnType?, Tag.malformed]
    simp [add, Piece.returnTypes, hm]
  | paramType names type =>
    rcases g.addParamType_cases names type with ⟨name, a, tag, b, -, hg, hp, -, h⟩ | ⟨_, -, -, h⟩ | ⟨-, h⟩
    · have hr := isReturn_of_isParam hp
      have hr' : isReturn { tag with type := some type } = false := hr
      simp [add, h, hg, Piece.returnTypes, Tag.returnType?_of_not hr, Tag.returnType?_of_not hr']
    · simp [add, h, Piece.returnTypes]
    · simp [add, h, Piece.returnTypes]
  | returnType type =>
    rcases g.addReturnType_cases type with ⟨a, tag, b, hg, hr, ht, -, h⟩ | ⟨-, h⟩
    · have hr' : isReturn { tag with type := some type } = true := hr
      simp only [add, h, returnTypesOf_all, hg, returnTypesOf_append, returnTypesOf_cons, Piece.returnTypes,
        Tag.returnType?_of_isReturn hr, Tag.returnType?_of_isReturn hr', ht, Option.toList, List.append_assoc,
        List.nil_append]
      refine List.Perm.append_left _ ?_
      rw [← List.append_assoc (returnTypesOf b)]
      exact List.perm_append_comm
    · simp [add, h, Piece.returnTypes]
  | items found => exact g.addItems_returnTypes found

theorem addAll_returnTypes (pieces : List Piece) :
    (returnTypesOf (pieces.foldl add g).all).Perm (returnTypesOf g.all ++ pieces.flatMap Piece.returnTypes) := by
  induction pieces generalizing g with
  | nil => simp
  | cons piece rest ih =>
    rw [List.foldl_cons, List.flatMap_cons, ← List.append_assoc]
    exact (ih (g.add piece)).trans ((g.add_returnTypes piece).append_right _)

end Gathered

/-- The types of what is returned, in some order, are those that the pieces give. -/
theorem gather_returnTypes (pieces : List Piece) :
    (returnTypesOf (gather pieces).all).Perm (pieces.flatMap Piece.returnTypes) :=
  Gathered.addAll_returnTypes {} pieces

/-! ### Reading tag by tag -/

theorem readPieces_cons (style : Style) (chunk : Text) (rest : List Text) :
    readPieces style (chunk :: rest) =
      match Piece.read style chunk with
      | .ok piece => (piece :: (readPieces style rest).1, (readPieces style rest).2)
      | .error fault => ([], some fault) := by
  cases h : Piece.read style chunk with
  | ok piece => simp only [readPieces, h]
  | error fault => simp only [readPieces, h]

/-- A fault of a chunk comes before one of the lead; without either the tags are those that are gathered. -/
theorem readTagged_outcome (style : Style) (lead : Text) (chunks : List Text) :
    (readTagged style lead chunks).outcome =
      match (readPieces style chunks).2 with
      | some fault => .error fault
      | none => (style.read lead).map fun outline =>
          ⟨outline.summary, outline.description, (gather (readPieces style chunks).1).all⟩ := by
  unfold readTagged
  split
  rename_i pieces fault hp
  rw [hp]
  cases fault <;> rfl

theorem tags_of_readTagged {style : Style} {lead : Text} {chunks : List Text} {docblock : Docblock}
    (h : (readTagged style lead chunks).outcome = .ok docblock) :
    (readPieces style chunks).2 = none ∧ docblock.tags = (gather (readPieces style chunks).1).all := by
  rw [readTagged_outcome] at h
  cases hf : (readPieces style chunks).2 with
  | some fault =>
    rw [hf] at h
    cases h
  | none =>
    rw [hf] at h
    cases hl : style.read lead with
    | error fault =>
      rw [hl] at h
      cases h
    | ok outline =>
      rw [hl] at h
      cases h
      exact ⟨rfl, rfl⟩

theorem Piece.read_cases {style : Style} {chunk : Text} {piece : Piece} (h : Piece.read style chunk = .ok piece) :
    (∃ outline, style.read chunk = .ok outline ∧ piece = ofChunk chunk outline.items) ∨
    (∃ reason, style.read chunk = .error (.malformed reason) ∧ piece = .malformed chunk reason) := by
  unfold Piece.read at h
  split at h
  · rename_i outline hr
    cases h
    exact Or.inl ⟨outline, hr, rfl⟩
  · rename_i reason hr
    cases h
    exact Or.inr ⟨reason, hr, rfl⟩
  · cases h

/-- What a chunk gives, by the piece that it is read to. A chunk that stops the reading gives nothing. -/
def Style.given {β : Type} (style : Style) (f : Piece → List β) (chunk : Text) : List β :=
  match Piece.read style chunk with
  | .ok piece => f piece
  | .error _ => []

/-- The tags that a chunk makes, without their types: one that is not valid for a chunk that is rejected, none for a
    chunk that gives a type, and else one for each item in order, where generators and what is of no use make none. -/
def Style.tags (style : Style) : Text → List Tag := style.given Piece.tags

/-- What pieces give one after the other is what their chunks give. -/
theorem readPieces_flatMap {β : Type} {style : Style} (f : Piece → List β) {chunks : List Text}
    (h : (readPieces style chunks).2 = none) :
    (readPieces style chunks).1.flatMap f = chunks.flatMap (style.given f) := by
  induction chunks with
  | nil => rfl
  | cons chunk rest ih =>
    rw [readPieces_cons] at h ⊢
    cases hp : Piece.read style chunk with
    | error fault =>
      rw [hp] at h
      cases h
    | ok piece =>
      rw [hp] at h
      rw [List.flatMap_cons, List.flatMap_cons, ih h, Style.given, hp]

end ApiDocs.Docblock
