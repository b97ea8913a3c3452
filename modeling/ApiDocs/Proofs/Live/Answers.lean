import ApiDocs.Proofs.Live.Registry

/-! What live classes say about a class that is known under a name, and what the registry knows after each answer. Only
    a parent and interfaces are made known, each under its own id. -/

namespace ApiDocs.Live.World
open Act

variable {world : World}

/-! ### What is said about a class -/

/-- The name of the parent of a class, or null. -/
def parentName (world : World) (id : ClassId) : Value :=
  match world.parentId? id with
  | some base => .text (world.nameOf base)
  | none => .null

/-- The interfaces of a class. -/
def interfaceIds (world : World) (id : ClassId) : List ClassId := (world.bases id).filter world.isInterface

/-- All that is said about a class under a name. -/
def recordAt (world : World) (name : Text) (id : ClassId) : ClassRecord where
  parent := world.parentName id
  interfaces := (world.interfaceIds id).map fun base => .text (world.nameOf base)
  comment :=
    ((world.ownMember? id "__doc__").map fun member => world.toValue (rawMember id "__doc__" member)).getD .null
  methods := (world.members id).filterMap (method? name)

/-- A method of a class is a member with a public name. -/
theorem of_mem_methods {name : Text} {id : ClassId} {m : Method} (h : m ∈ (world.recordAt name id).methods) :
    ∃ c title member, world.classes[id]? = some c ∧ (title, member) ∈ c.members ∧ title.head? ≠ some '_' ∧
      m.name = .text title ∧ m.owner = name := by
  obtain ⟨⟨title, member⟩, hentry, hm⟩ := List.mem_filterMap.mp h
  cases hc : world.classes[id]? with
  | none => simp [members, hc] at hentry
  | some c =>
    rw [members, hc] at hentry
    unfold method? at hm
    simp only at hm
    split at hm
    · cases hm
    · rename_i hpublic
      refine ⟨c, title, member, rfl, hentry, hpublic, ?_⟩
      split at hm
      all_goals
        cases hm
        try exact ⟨rfl, rfl⟩

theorem owner_recordAt {name : Text} {id : ClassId} {m : Method} (h : m ∈ (world.recordAt name id).methods) :
    m.owner = name := by
  obtain ⟨_, _, _, _, _, _, _, howner⟩ := of_mem_methods h
  exact howner

theorem text_of_mem_methods {name : Text} {id : ClassId} {m : Method} (h : m ∈ (world.recordAt name id).methods) :
    ∃ title, m.name = .text title := by
  obtain ⟨_, title, _, _, _, _, hname, _⟩ := of_mem_methods h
  exact ⟨title, hname⟩

/-- The methods of the parent of a class. -/
def parentMethods (world : World) (id : ClassId) : List Method :=
  ((world.parentId? id).map fun base => (world.recordAt (world.nameOf base) base).methods).getD []

theorem parentMethods_of_parentId? {id base : ClassId} (h : world.parentId? id = some base) :
    world.parentMethods id = (world.recordAt (world.nameOf base) base).methods := by
  rw [parentMethods, h]
  rfl

/-- The registry when some classes have been registered. -/
def withAll (world : World) (ids : List ClassId) (known : Registry) : Registry :=
  ids.foldl (fun known id => Ordered.put (world.nameOf id) id known) known

theorem outcome_registerAll (ids : List ClassId) (s : Session) :
    (ids.mapM fun id => do return Value.text (← world.register id)).outcome s =
      (.ok (ids.map fun id => .text (world.nameOf id)), { s with registry := world.withAll ids s.registry }) := by
  induction ids generalizing s with
  | nil => rfl
  | cons id rest ih =>
    rw [List.mapM_cons, outcome_bind]
    show (_ >>= _ : Act _).outcome { s with registry := Ordered.put (world.nameOf id) id s.registry } = _
    rw [outcome_bind, ih]
    rfl

section Resolved
variable {s u : Session} {name : Text} {id : ClassId} (h : (world.resolve name).outcome s = (.ok id, u))
include h

theorem lookup_resolved : u.registry.lookup name = some id := by
  rcases world.resolve_cases name s with ⟨other, hl, hr⟩ | ⟨other, -, -, hr⟩ | ⟨-, -, fault, hr⟩
  · rw [hr] at h
    cases h
    exact hl
  · rw [hr] at h
    cases h
    exact Ordered.lookup_put _ _ _
  · rw [hr] at h
    cases h

theorem outcome_methods : (world.methods name).outcome s = (.ok (world.recordAt name id).methods, u) := by
  rw [methods, outcome_bind, h]
  rfl

theorem outcome_comment : (world.comment name).outcome s = (.ok (world.recordAt name id).comment, u) := by
  rw [comment, outcome_bind, h]
  rfl

theorem outcome_interfaces : (world.interfaces name).outcome s =
    (.ok (world.recordAt name id).interfaces,
      { u with registry := world.withAll (world.interfaceIds id) u.registry }) := by
  rw [interfaces, outcome_bind, h]
  exact outcome_registerAll _ u

theorem outcome_parent : (world.parent name).outcome s =
    (.ok (world.parentName id),
      { u with registry := world.withAll (world.parentId? id).toList u.registry }) := by
  rw [parent, outcome_bind, h, parentName]
  cases hp : world.parentId? id with
  | none =>
    simp only [hp]
    rfl
  | some base =>
    simp only [hp]
    rfl

end Resolved

theorem learned_withAll {ids : List ClassId} (h : ∀ id ∈ ids, id < world.classes.length) {known later : Registry}
    (hl : world.Learned known later) : world.Learned known (world.withAll ids later) := by
  induction ids generalizing later with
  | nil => exact hl
  | cons id rest ih =>
    exact ih (fun x hx => h x (List.mem_cons_of_mem id hx)) (hl.registered (h id List.mem_cons_self))

/-- The last of some classes that has an id. -/
def lastNamed? (world : World) (ids : List ClassId) (name : Text) : Option ClassId :=
  ids.reverse.find? fun id => world.nameOf id == name

/-- A name leads to the last class that was registered under it, or else to where it led before. -/
theorem lookup_withAll (ids : List ClassId) (known : Registry) (name : Text) :
    (world.withAll ids known).lookup name = (world.lastNamed? ids name).or (known.lookup name) := by
  induction ids generalizing known with
  | nil => rfl
  | cons id rest ih =>
    have hput : (Ordered.put (world.nameOf id) id known).lookup name =
        ([id].find? fun id => world.nameOf id == name).or (known.lookup name) := by
      by_cases hn : name = world.nameOf id
      · subst hn
        simp [Ordered.lookup_put]
      · rw [Ordered.lookup_put_of_ne hn]
        simp [Ne.symm hn]
    have hcons : world.withAll (id :: rest) known = world.withAll rest (Ordered.put (world.nameOf id) id known) := rfl
    rw [hcons, ih, hput, lastNamed?, lastNamed?, List.reverse_cons, List.find?_append, Option.or_assoc]

theorem lookup_withAll_of_known {known : Registry} {name : Text} {id : ClassId} (h : known.lookup name = some id)
    (ids : List ClassId) :
    (world.withAll ids known).lookup name = some ((world.lastNamed? ids name).getD id) := by
  rw [lookup_withAll, h, Option.or_some]

/-- The parent is known under its id once it is registered. -/
theorem lookup_parent {id base : ClassId} (hp : world.parentId? id = some base) (known : Registry) :
    (world.withAll (world.parentId? id).toList known).lookup (world.nameOf base) = some base := by
  rw [hp]
  exact Ordered.lookup_put _ _ _

theorem lt_of_parentId? (hb : world.HasBases) {id base : ClassId} (h : base ∈ (world.parentId? id).toList) :
    base < world.classes.length :=
  hb.lt (List.mem_of_find?_eq_some (Option.mem_toList.mp h))

theorem lt_of_interfaceIds (hb : world.HasBases) {id base : ClassId} (h : base ∈ world.interfaceIds id) :
    base < world.classes.length := hb.lt (List.mem_filter.mp h).1

/-! ### Names that lead to classes -/

/-- A name that leads to a class: it is known, or new and found. -/
def Leads (world : World) (name : Text) (id : ClassId) (known : Registry) : Prop :=
  known.lookup name = some id ∨ known.lookup name = none ∧ world.find name = .ok (.cls id)

theorem leads_of_resolve {name : Text} {id : ClassId} {s t : Session}
    (h : (world.resolve name).outcome s = (.ok id, t)) : world.Leads name id s.registry := by
  rcases world.resolve_cases name s with ⟨other, hl, hr⟩ | ⟨other, hnew, hfind, hr⟩ | ⟨-, -, fault, hr⟩
  · rw [hr] at h
    cases h
    exact Or.inl hl
  · rw [hr] at h
    cases h
    exact Or.inr ⟨hnew, hfind⟩
  · rw [hr] at h
    cases h

theorem Leads.resolve {name : Text} {id : ClassId} {s : Session} (h : world.Leads name id s.registry) :
    ∃ t, (world.resolve name).outcome s = (.ok id, t) ∧ t.registry.lookup name = some id ∧
      world.Learned s.registry t.registry ∧ t.asked = s.asked := by
  rcases h with hl | ⟨hnew, hfind⟩
  · exact ⟨s, resolve_known hl, hl, .nothing, rfl⟩
  · exact ⟨_, resolve_found hnew hfind, Ordered.lookup_put _ _ _, .found .nothing hnew hfind, rfl⟩

/-! ### The course of a name -/

/-- The classes that a name leads to while its class is documented: when the class is described and its parent is asked
    for again, when its interfaces are asked for, and when its methods are. -/
structure Course where
  described : ClassId
  listed : ClassId
  declaring : ClassId
deriving DecidableEq

/-- The course of a name that leads to a class at the first question. It goes over to a parent or an interface that has
    it as its id. -/
def course (world : World) (target : Text) (id : ClassId) : Course :=
  let described := (world.lastNamed? (world.parentId? id).toList target).getD id
  let listed := (world.lastNamed? (world.parentId? described).toList target).getD described
  { described, listed, declaring := (world.lastNamed? (world.interfaceIds listed) target).getD listed }

theorem getD_lastNamed? {ids : List ClassId} {name : Text} {id : ClassId}
    (h : ∀ base ∈ ids, world.nameOf base = name → base = id) : (world.lastNamed? ids name).getD id = id := by
  cases hlast : world.lastNamed? ids name with
  | none => rfl
  | some base =>
    have hname : world.nameOf base = name := by simpa using List.find?_some hlast
    exact h base (List.mem_reverse.mp (List.mem_of_find?_eq_some hlast)) hname

/-- A name that no other class among parents and interfaces has stays with its class. -/
theorem course_eq {target : Text} {id : ClassId}
    (h : ∀ base ∈ (world.parentId? id).toList ++ world.interfaceIds id, world.nameOf base = target → base = id) :
    world.course target id = ⟨id, id, id⟩ := by
  have hparent := getD_lastNamed? fun base hb => h base (List.mem_append_left _ hb)
  have hinterfaces := getD_lastNamed? fun base hb => h base (List.mem_append_right _ hb)
  simp only [course, hparent, hinterfaces]

/-- Where ids are not shared and lead to their own classes, every name stays with its class. -/
theorem Sound.course_eq {known : Registry} (hs : world.Sound known) (hb : world.HasBases) (hd : world.Distinct)
    (hf : world.FindsOwn) {target : Text} {id : ClassId} (hl : known.lookup target = some id) :
    world.course target id = ⟨id, id, id⟩ := by
  refine World.course_eq fun base hm hname => ?_
  have hlt : base < world.classes.length := by
    rcases List.mem_append.mp hm with hm | hm
    · exact lt_of_parentId? hb hm
    · exact lt_of_interfaceIds hb hm
  exact (hs.eq_of_nameOf hd hf hlt (hname ▸ hl)).symm

section Course
variable {target : Text} {id : ClassId} {known : Registry}

theorem lookup_described (world : World) (h : known.lookup target = some id) :
    (world.withAll (world.parentId? id).toList known).lookup target = some (world.course target id).described :=
  lookup_withAll_of_known h _

theorem lookup_listed (h : known.lookup target = some (world.course target id).described) :
    (world.withAll (world.parentId? (world.course target id).described).toList known).lookup target =
      some (world.course target id).listed := lookup_withAll_of_known h _

theorem lookup_declaring (h : known.lookup target = some (world.course target id).listed) :
    (world.withAll (world.interfaceIds (world.course target id).listed) known).lookup target =
      some (world.course target id).declaring := lookup_withAll_of_known h _

end Course

end ApiDocs.Live.World
