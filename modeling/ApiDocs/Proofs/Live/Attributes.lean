import ApiDocs.Proofs.Live.Made

/-! A class gives out what its body defines. A member of a class is hidden only by what the class of the class computes
    or stores under the same name. The classes of classes are standard ones, and these compute and store nothing under a
    public name, unless they are given a property, which hides a member but is given out in its place. -/

namespace ApiDocs.Live.World

variable {world world' : World} {id own : ClassId} {c : Class}

/-! ### Proper classes -/

/-- The classes of classes and their ancestors. -/
def lineage : List ClassId := [objectId, typeId, abstractTypeId, protocolTypeId]

/-- What holds of the class at a place. -/
structure Proper (id : ClassId) (c : Class) : Prop where
  itself : id ∈ c.order
  type : c.type ∈ lineage
  order : id ∈ lineage → ∀ above ∈ c.order, above ∈ lineage
  data : id ∈ lineage → ∀ entry ∈ c.members, entry.2.isComputed = true → entry.1.head? = some '_'

instance (id : ClassId) (c : Class) : Decidable (Proper id c) :=
  decidable_of_iff
    (id ∈ c.order ∧ c.type ∈ lineage ∧ (id ∈ lineage → ∀ above ∈ c.order, above ∈ lineage) ∧
      (id ∈ lineage → ∀ entry ∈ c.members, entry.2.isComputed = true → entry.1.head? = some '_'))
    ⟨fun ⟨h₁, h₂, h₃, h₄⟩ => ⟨h₁, h₂, h₃, h₄⟩, fun h => ⟨h.itself, h.type, h.order, h.data⟩⟩

/-- A world with the standard classes, in which all classes are proper. -/
structure Regular (world : World) : Prop where
  room : ∀ id ∈ lineage, id < world.classes.length
  proper : ∀ id c, world.classes[id]? = some c → Proper id c

theorem Regular.modify (h : world.Regular) {change : Class → Class}
    (hchange : ∀ c, Proper id c → Proper id (change c)) :
    Regular { world with classes := world.classes.modify id change } where
  room other hm := by
    simp only [List.length_modify]
    exact h.room other hm
  proper other c hc := by
    simp only [List.getElem?_modify] at hc
    cases hold : world.classes[other]? with
    | none =>
      rw [hold] at hc
      cases hc
    | some old =>
      have hproper := h.proper other old hold
      rw [hold] at hc
      cases hc
      by_cases heq : id = other
      · subst heq
        simpa using hchange old hproper
      · simpa [heq] using hproper

theorem Regular.append (h : world.Regular) (hclasses : world'.classes = world.classes ++ [c])
    (hc : Proper world.classes.length c) : world'.Regular where
  room other hm := by
    rw [hclasses, List.length_append]
    exact Nat.lt_add_right _ (h.room other hm)
  proper other d hd := by
    rw [hclasses] at hd
    rcases Nat.lt_trichotomy other world.classes.length with hlt | rfl | hgt
    · rw [List.getElem?_append_left hlt] at hd
      exact h.proper other d hd
    · rw [List.getElem?_concat_length] at hd
      cases hd
      exact hc
    · rw [List.getElem?_eq_none (by simp; omega)] at hd
      cases hd

theorem Regular.congr (h : world.Regular) (hclasses : world'.classes = world.classes) : world'.Regular where
  room := hclasses ▸ h.room
  proper := hclasses ▸ h.proper

theorem regular_standard : World.standard.Regular := by
  have hall : ∀ id, id < World.standard.classes.length → ∀ c ∈ World.standard.classes[id]?, Proper id c := by
    decide +kernel
  refine ⟨by decide, fun id c hc => ?_⟩
  exact hall id (List.getElem?_eq_some_iff.mp hc).1 c hc

/-- What is set in a class is an object, and neither computed nor stored. -/
theorem Proper.assigned (h : Proper id c) (name : Text) (object : Object) :
    Proper id (World.assigned name object c) where
  itself := h.itself
  type := h.type
  order := h.order
  data hid entry hm hdata := by
    rcases Ordered.mem_of_mem_put hm with hold | hnew
    · exact h.data hid entry hold hdata
    · rw [hnew] at hdata
      cases hdata

/-- A class that is no class of classes may be changed, but for its order and its class. -/
theorem Proper.changed (h : Proper id c) (hid : id ∉ lineage) {c' : Class} (horder : c'.order = c.order)
    (htype : c'.type = c.type) : Proper id c' where
  itself := horder ▸ h.itself
  type := htype ▸ h.type
  order hm := absurd hm hid
  data hm := absurd hm hid

theorem Regular.touches (h : world.Regular) (hown : own ∉ lineage) (ht : Touches own world world') :
    world'.Regular := by
  induction ht with
  | nothing => exact h
  | aside _ hclasses _ ih => exact ih.congr hclasses
  | value _ id name object _ ih => exact ih.modify fun _ hc => hc.assigned name object
  | changed _ _ horder htype ih => exact ih.modify fun c hc => hc.changed hown (horder c) (htype c)

/-! ### Declarations -/

/-- A class that is added comes behind the classes of classes. -/
theorem Regular.new (h : world.Regular) : world.classes.length ∉ lineage := fun hm => Nat.lt_irrefl _ (h.room _ hm)

theorem Regular.typeOfClass (h : world.Regular) (id : ClassId) : world.typeOfClass id ∈ lineage := by
  rw [World.typeOfClass]
  cases hc : world.classes[id]? with
  | none => decide
  | some c => exact (h.proper id c hc).type

theorem Regular.typeOver (h : world.Regular) (bases : List ClassId) : world.typeOver bases ∈ lineage := by
  have hfold : ∀ (types : List ClassId) (type : ClassId), type ∈ lineage → (∀ other ∈ types, other ∈ lineage) →
      types.foldl (fun type other => if (world.order other).contains type then other else type) type ∈ lineage := by
    intro types
    induction types with
    | nil => exact fun _ htype _ => htype
    | cons other rest ih =>
      intro type htype hall
      refine ih _ ?_ fun o ho => hall o (List.mem_cons_of_mem other ho)
      simp only
      split
      · exact hall other List.mem_cons_self
      · exact htype
  refine hfold _ _ (by decide) fun other hm => ?_
  obtain ⟨base, -, rfl⟩ := List.mem_map.mp hm
  exact h.typeOfClass base

theorem mem_of_orderOf {bases order : List ClassId} {orders : List (List ClassId)}
    (h : orderOf id bases orders = some order) : id ∈ order := by
  obtain ⟨rest, -, rfl⟩ := Option.map_eq_some_iff.mp h
  exact List.mem_cons_self

/-- A new class is proper if it comes first in its order and its class is a class of classes. -/
theorem Regular.properNew (h : world.Regular) (hitself : world.classes.length ∈ c.order) (htype : c.type ∈ lineage) :
    Proper world.classes.length c := ⟨hitself, htype, fun hm => absurd hm h.new, fun hm => absurd hm h.new⟩

theorem Regular.addMembers (d : Declaration) (body : List (Text × Body)) (state : World × List (Text × Member))
    (h : state.1.Regular) : (body.foldl (addMember d) state).1.Regular := by
  induction body generalizing state with
  | nil => exact h
  | cons entry rest ih =>
    refine ih _ ?_
    rcases addMember_cases d state entry with ⟨hclasses, -⟩ | ⟨c, hadded, -, horder, htype⟩
    · exact h.congr hclasses
    · rw [hadded]
      refine h.append rfl (h.properNew ?_ ?_)
      · rw [horder]
        exact List.mem_cons_self
      · rw [htype]
        decide

theorem Regular.declare {d : Declaration} (h : world.Regular) (hd : world.declare d = .ok world') : world'.Regular := by
  obtain ⟨listed, grown, members, c, -, hbody, -, horder, htype, htouches⟩ := declare_cases hd
  have hgrown : grown.Regular := by
    have := Regular.addMembers d d.body (world, firstMembers d.home d.comment) h
    rwa [hbody] at this
  refine Regular.touches ?_ hgrown.new htouches
  exact hgrown.append rfl (hgrown.properNew (mem_of_orderOf horder) (htype ▸ hgrown.typeOver c.bases))

theorem Made.regular (h : world.Made) : world.Regular := by
  induction h with
  | standard => exact regular_standard
  | declare _ hd ih => exact ih.declare hd
  | @place world _ home path object ih => exact ih.touches ih.new (touches_place _ world home path object)

/-! ### Attributes of classes -/

theorem isSome_ownMember? (hc : world.classes[id]? = some c) {name : Text} {member : Member}
    (hm : (name, member) ∈ c.members) : (world.ownMember? id name).isSome = true := by
  rw [ownMember?, hc, Option.bind_some, List.lookup_isSome_iff]
  exact ⟨_, hm, BEq.rfl⟩

theorem of_entry? {owner : ClassId} {name : Text} {member : Member} (h : world.entry? id name = some (owner, member)) :
    owner ∈ world.order id ∧ ∃ c, world.classes[owner]? = some c ∧ (name, member) ∈ c.members := by
  obtain ⟨above, habove, hown⟩ := List.exists_of_findSome?_eq_some h
  obtain ⟨found, hfound, heq⟩ := Option.map_eq_some_iff.mp hown
  cases heq
  obtain ⟨c, hc, hl⟩ := Option.bind_eq_some_iff.mp hfound
  obtain ⟨before, after, hsplit, -⟩ := List.lookup_eq_some_iff.mp hl
  exact ⟨habove, c, hc, by simp [hsplit]⟩

/-- The class of a class neither computes nor stores anything under a public name. -/
theorem Regular.not_isComputed (h : world.Regular) {owner : ClassId} {name : Text} {member : Member}
    (hentry : world.entry? (world.typeOfClass id) name = some (owner, member)) (hpublic : name.head? ≠ some '_') :
    member.isComputed = false := by
  obtain ⟨habove, c, hc, hm⟩ := of_entry? hentry
  have hlineage : owner ∈ lineage := by
    rw [World.order] at habove
    cases htype : world.classes[world.typeOfClass id]? with
    | none => simp [htype] at habove
    | some type =>
      rw [htype] at habove
      exact (h.proper _ type htype).order (h.typeOfClass id) owner habove
  rw [← Bool.not_eq_true]
  exact fun hdata => hpublic ((h.proper owner c hc).data hlineage _ hm hdata)

theorem isSome_memberOfObject? {member : Member} (h : member.isComputed = false) (object : Object) (owner : ClassId)
    (name : Text) : (world.memberOfObject? object owner name member).isSome = true := by
  unfold memberOfObject?
  split
  · rfl
  · rfl
  · rfl
  · cases h
  · cases h
  · split
    · rfl
    · rfl
  · rfl
  · rfl
  · rfl
  · rfl

/-- A class gives something out under the public name of each of its members. -/
theorem Regular.isSome_attribute? (h : world.Regular) (hc : world.classes[id]? = some c) {name : Text} {member : Member}
    (hm : (name, member) ∈ c.members) (hpublic : name.head? ≠ some '_') :
    (world.attribute? (.cls id) name).isSome = true := by
  have hinside : (world.inside? (.cls id) name).isSome = true := by
    rw [inside?, classMember?, Option.isSome_map, entry?, List.findSome?_isSome_iff]
    refine ⟨id, ?_, ?_⟩
    · rw [World.order, hc]
      exact (h.proper id c hc).itself
    · rw [Option.isSome_map]
      exact isSome_ownMember? hc hm
  show (world.plainAttribute? (.cls id) name).isSome = true
  rw [plainAttribute?]
  split
  · rename_i owner found hentry
    split
    · -- What the class of a class computes or stores has a name that is not public, so this is a property.
      exact isSome_memberOfObject? (h.not_isComputed hentry hpublic) _ _ _
    · rw [Option.isSome_or, hinside]
      rfl
  · exact hinside

end ApiDocs.Live.World
