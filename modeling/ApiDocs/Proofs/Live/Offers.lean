import ApiDocs.Proofs.Live.Order

/-! What classes give out under a name that they and their ancestors define only as functions: the first definition in
    the order of the class, or else what the class of the class has for it. The comment of a function is given out by the
    class of functions, which is built in and never changes. -/

namespace ApiDocs.Live.World

theorem findSome?_eq {α β : Type} {l : List α} {f g : α → Option β} (h : ∀ a ∈ l, f a = g a) :
    l.findSome? f = l.findSome? g := by
  induction l with
  | nil => rfl
  | cons a rest ih =>
    rw [List.findSome?_cons, List.findSome?_cons, h a List.mem_cons_self, ih fun b hb => h b (List.mem_cons_of_mem a hb)]

variable {world world' : World} {id own above : ClassId}

/-! ### Classes that are built in -/

theorem Touches.builtIn (h : Touches own world world') (hown : own ≠ id) (hid : world.isBuiltIn id = true) :
    world'.classes[id]? = world.classes[id]? := by
  induction h with
  | nothing => rfl
  | aside _ hclasses _ ih => rw [hclasses, ih]
  | @value later _ changed name object hplain ih =>
    have hne : changed ≠ id := by
      rintro rfl
      rw [isBuiltIn, ih] at hplain
      rw [isBuiltIn] at hid
      cases hid.symm.trans hplain
    rw [List.getElem?_modify_ne _ _ hne, ih]
  | changed _ _ _ _ ih => rw [List.getElem?_modify_ne _ _ hown, ih]

theorem getElem?_addMembers (d : Declaration) (body : List (Text × Body)) (state : World × List (Text × Member))
    (hid : id < state.1.classes.length) : (body.foldl (addMember d) state).1.classes[id]? = state.1.classes[id]? := by
  induction body generalizing state with
  | nil => rfl
  | cons entry rest ih =>
    rw [List.foldl_cons]
    have hlength := (grows_addMember d state entry).length
    rw [ih _ (Nat.lt_of_lt_of_le hid hlength)]
    rcases addMember_cases d state entry with ⟨hclasses, -⟩ | ⟨c, hadded, -, -, -⟩
    · rw [hclasses]
    · rw [hadded]
      exact List.getElem?_append_left hid

theorem lt_of_isBuiltIn (h : world.isBuiltIn id = true) : id < world.classes.length := by
  rcases Nat.lt_or_ge id world.classes.length with hlt | hge
  · exact hlt
  · simp [isBuiltIn, List.getElem?_eq_none hge] at h

/-- Nothing changes the classes that are built in. -/
theorem Made.builtIn (h : world.Made) (hid : World.standard.isBuiltIn id = true) :
    world.classes[id]? = World.standard.classes[id]? := by
  have hstill : ∀ {world : World}, world.classes[id]? = World.standard.classes[id]? → world.isBuiltIn id = true := by
    intro world hsame
    rw [isBuiltIn, hsame]
    exact hid
  induction h with
  | standard => rfl
  | @declare world world' d _ hd ih =>
    obtain ⟨listed, grown, members, c, -, hbody, -, -, -, htouches⟩ := declare_cases hd
    have hlt := lt_of_isBuiltIn (hstill ih)
    have hgrown := getElem?_addMembers d d.body (world, firstMembers d.home d.comment) hlt
    rw [hbody, ih] at hgrown
    have hlt' := lt_of_isBuiltIn (hstill hgrown)
    have hadded : (grown.classes ++ [c])[id]? = World.standard.classes[id]? := by
      rw [List.getElem?_append_left hlt', hgrown]
    rw [htouches.builtIn (Nat.ne_of_gt hlt') (hstill hadded)]
    exact hadded
  | @place world _ home path object ih =>
    have hlt := lt_of_isBuiltIn (hstill ih)
    rw [(touches_place world.classes.length world home path object).builtIn (Nat.ne_of_gt hlt) (hstill ih), ih]

/-- A function gives out its comment. -/
theorem Made.attribute?_function (h : world.Made) (f : Function) :
    world.attribute? (.function f) "__doc__" = some (.ofText? f.comment) := by
  have hclass : world.classes[functionId]? = some Standard.functionClass := h.builtIn (by decide +kernel)
  have horder : world.order functionId = [functionId, objectId] := by
    rw [order, hclass]
    rfl
  obtain ⟨help, hhelp⟩ : ∃ help, world.ownMember? functionId "__doc__" = some (.feature .stored help) := by
    rw [ownMember?, hclass]
    exact ⟨_, rfl⟩
  have hentry : world.entry? functionId "__doc__" = some (functionId, .feature .stored help) := by
    rw [World.entry?, horder, List.findSome?_cons, hhelp]
    rfl
  show world.plainAttribute? (.function f) "__doc__" = _
  rw [plainAttribute?, typeOf, hentry]
  rfl

/-! ### What classes offer under a name -/

/-- The function that a class itself defines under a name. -/
def ownFunction? (world : World) (id : ClassId) (name : Text) : Option Function :=
  match world.ownMember? id name with
  | some (.value (.function f)) => some f
  | _ => none

/-- The comment of the function that a class itself defines under a name. -/
def ownText? (world : World) (id : ClassId) (name : Text) : Option Text := (world.ownFunction? id name).bind (·.comment)

/-- The first function that a class or one of its ancestors defines under a name. -/
def definition? (world : World) (id : ClassId) (name : Text) : Option Function :=
  (world.order id).findSome? (world.ownFunction? · name)

/-- What the class of a class has for it under a name. -/
def fromType? (world : World) (id : ClassId) (name : Text) : Option Object :=
  (world.entry? (world.typeOfClass id) name).bind fun (owner, member) => world.memberOfObject? (.cls id) owner name member

/-- The comment of what a class offers under a name: the first definition, or else what its own class has for it. -/
def offeredComment? (world : World) (id : ClassId) (name : Text) : Option Object :=
  match world.definition? id name with
  | some f => f.comment.map .text
  | none => (world.fromType? id name).bind world.ownComment?

/-- All that a class and its ancestors define under a name are functions, and no comment of theirs is blank. -/
def PlainUnder (world : World) (id : ClassId) (name : Text) : Prop :=
  ∀ above ∈ world.order id, ∀ member ∈ world.ownMember? above name,
    ∃ f ∈ world.ownFunction? above name, member = .value (.function f) ∧
      ∀ comment ∈ f.comment, Text.allBlank comment = false

instance (world : World) (id : ClassId) (name : Text) : Decidable (world.PlainUnder id name) :=
  inferInstanceAs (Decidable (∀ above ∈ world.order id, ∀ member ∈ world.ownMember? above name,
    ∃ f ∈ world.ownFunction? above name, member = .value (.function f) ∧
      ∀ comment ∈ f.comment, Text.allBlank comment = false))

section Offers
variable {name : Text} {f : Function}

theorem ownMember?_of_ownFunction? (h : world.ownFunction? id name = some f) :
    world.ownMember? id name = some (.value (.function f)) := by
  unfold ownFunction? at h
  split at h
  · rename_i hmember
    cases h
    exact hmember
  · cases h

theorem ownFunction?_of_ownMember? (h : world.ownMember? id name = some (.value (.function f))) :
    world.ownFunction? id name = some f := by
  rw [ownFunction?, h]

theorem ownText?_eq (h : world.ownFunction? id name = some f) : world.ownText? id name = f.comment := by
  rw [ownText?, h, Option.bind_some]

theorem exists_of_definition? (h : world.definition? id name = some f) :
    ∃ above ∈ world.order id, world.ownFunction? above name = some f := List.exists_of_findSome?_eq_some h

/-- A class that defines a function itself offers it. -/
theorem Made.definition?_of_own (hmade : world.Made) (h : world.ownFunction? id name = some f) :
    world.definition? id name = some f := by
  have hid : id < world.classes.length := by
    rcases Nat.lt_or_ge id world.classes.length with hlt | hge
    · exact hlt
    · have hmember := ownMember?_of_ownFunction? h
      simp [ownMember?, List.getElem?_eq_none hge] at hmember
  obtain ⟨rest, hrest⟩ := hmade.order_cons hid
  rw [definition?, hrest, List.findSome?_cons, h]

theorem PlainUnder.ancestor (h : world.PlainUnder id name) (hmade : world.Made) (ha : above ∈ world.order id) :
    world.PlainUnder above name := fun other hother =>
  h other ((hmade.order_sublist ha).2.subset hother)

/-- Where only functions are defined, a class gives out the first one. -/
theorem PlainUnder.classMember? (h : world.PlainUnder id name) :
    world.classMember? id name = (world.definition? id name).map .function := by
  rw [World.classMember?, World.entry?, definition?, List.map_findSome?, List.map_findSome?]
  refine findSome?_eq fun other hother => ?_
  rw [Function.comp_apply, Function.comp_apply]
  cases hmember : world.ownMember? other name with
  | none =>
    rw [ownFunction?, hmember]
    rfl
  | some member =>
    obtain ⟨f, hf, rfl, -⟩ := h other hother member hmember
    rw [hf]
    rfl

theorem attribute?_cls (h : world.isComputedFor id name = false) :
    world.attribute? (.cls id) name = (world.classMember? id name).or (world.fromType? id name) := by
  show world.plainAttribute? (.cls id) name = _
  rw [isComputedFor] at h
  rw [plainAttribute?, typeOf, fromType?]
  rcases hentry : world.entry? (world.typeOfClass id) name with _ | ⟨owner, member⟩
  · exact Option.or_none.symm
  · have hplain : member.isData = false := by simpa [hentry] using h
    simp only [hplain]
    rfl

/-- The comment of what a class gives out is the comment of what it offers. -/
theorem offeredComment?_eq (hmade : world.Made) (hplain : world.PlainUnder id name)
    (hcomputed : world.isComputedFor id name = false) :
    (world.attribute? (.cls id) name).bind world.ownComment? = world.offeredComment? id name := by
  rw [attribute?_cls hcomputed, hplain.classMember?, offeredComment?]
  cases world.definition? id name with
  | none => rfl
  | some f =>
    show world.ownComment? (.function f) = f.comment.map .text
    rw [ownComment?, hmade.attribute?_function]
    cases f.comment with
    | none => rfl
    | some comment => rfl

theorem firstComment?_eq (hmade : world.Made) (hplain : world.PlainUnder id name)
    (hcomputed : ∀ above ∈ world.order id, world.isComputedFor above name = false) :
    world.firstComment? id name = (world.order id).findSome? (world.offeredComment? · name) :=
  findSome?_eq fun above ha => offeredComment?_eq hmade (hplain.ancestor hmade ha) (hcomputed above ha)

end Offers

end ApiDocs.Live.World
