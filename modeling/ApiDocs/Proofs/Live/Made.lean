import ApiDocs.Live.Declaration
import ApiDocs.Proofs.Live.Registry
import ApiDocs.Proofs.Ordered

/-! Worlds that come about by declarations. A class is declared after its bases, so all bases of all classes are there.
    Classes are only added at the end, and what completes a class (`Touches`) changes neither bases nor keys. -/

namespace ApiDocs.Live.World

variable {world world' : World}

/-- The worlds there are: the one before anything is declared, and what becomes of a world when a class is declared or
    an object is placed in a module. A class is declared by a statement over the standard bases and what was declared
    before; it has no class of classes that the program defines, and its body does not rename it or lay out its objects.
    Nothing that the program defines is called to find an attribute of an object, to tell whether an object counts as
    present, or to tell an object where a class has it. -/
inductive Made : World → Prop
  | standard : Made .standard
  | declare {world world' : World} {d : Declaration} (h : Made world) (hd : world.declare d = .ok world') : Made world'
  | place {world : World} (h : Made world) (home path : Text) (object : Object) : Made (world.place home path object)

/-- A world whose keys and bases all lead to classes. -/
structure Closed (world : World) : Prop where
  root : objectId < world.classes.length
  keys : ∀ entry ∈ world.keys, entry.2 < world.classes.length
  bases : world.HasBases

/-! ### What leaves the bases alone -/

/-- The classes of two worlds have the same bases and keys. -/
structure SameBases (world world' : World) : Prop where
  bases : world'.classes.map (·.bases) = world.classes.map (·.bases)
  keys : world'.keys = world.keys

namespace SameBases

theorem refl (world : World) : SameBases world world := ⟨rfl, rfl⟩

theorem trans {world'' : World} (h : SameBases world world') (h' : SameBases world' world'') :
    SameBases world world'' := ⟨h'.bases.trans h.bases, h'.keys.trans h.keys⟩

theorem length (h : SameBases world world') : world'.classes.length = world.classes.length := by
  have := congrArg List.length h.bases
  rwa [List.length_map, List.length_map] at this

theorem closed (h : SameBases world world') (hc : world.Closed) : world'.Closed where
  root := h.length ▸ hc.root
  keys := by
    rw [h.keys, h.length]
    exact hc.keys
  bases c hm base hb := by
    have hlist : c.bases ∈ world.classes.map (·.bases) := h.bases ▸ List.mem_map_of_mem hm
    obtain ⟨c', hm', heq⟩ := List.mem_map.mp hlist
    rw [h.length]
    exact hc.bases c' hm' base (heq ▸ hb)

end SameBases

theorem sameBases_modify (world : World) (id : ClassId) {change : Class → Class} (h : ∀ c, (change c).bases = c.bases) :
    SameBases world { world with classes := world.classes.modify id change } where
  bases := by
    refine List.ext_getElem? fun i => ?_
    simp only [List.getElem?_map, List.getElem?_modify]
    cases world.classes[i]? with
    | none => rfl
    | some c =>
      by_cases hi : id = i
      · simp [hi, h]
      · simp [hi]
  keys := rfl

/-! ### What completes a class -/

/-- What may become of a world while the class `own` is completed, one change after the other: anything but the classes,
    a value put into any class that is not built in, and the class itself but for its bases, its order and its class. -/
inductive Touches (own : ClassId) (world : World) : World → Prop
  | nothing : Touches own world world
  | aside {later later' : World} (h : Touches own world later) (hclasses : later'.classes = later.classes)
    (hkeys : later'.keys = later.keys) : Touches own world later'
  | value {later : World} (h : Touches own world later) (id : ClassId) (name : Text) (object : Object)
    (hplain : later.isBuiltIn id = false) :
    Touches own world { later with classes := later.classes.modify id (assigned name object) }
  | changed {later : World} {change : Class → Class} (h : Touches own world later)
    (hbases : ∀ c, (change c).bases = c.bases) (horder : ∀ c, (change c).order = c.order)
    (htype : ∀ c, (change c).type = c.type) :
    Touches own world { later with classes := later.classes.modify own change }

variable {own : ClassId}

namespace Touches

theorem trans {world'' : World} (h : Touches own world world') (h' : Touches own world' world'') :
    Touches own world world'' := by
  induction h' with
  | nothing => exact h
  | aside _ hclasses hkeys ih => exact ih.aside hclasses hkeys
  | value _ id name object hplain ih => exact ih.value id name object hplain
  | changed _ hbases horder htype ih => exact ih.changed hbases horder htype

theorem sameBases (h : Touches own world world') : SameBases world world' := by
  induction h with
  | nothing => exact .refl world
  | aside _ hclasses hkeys ih => exact ih.trans ⟨by rw [hclasses], hkeys⟩
  | value _ id name object _ ih => exact ih.trans (sameBases_modify _ id fun _ => rfl)
  | changed _ hbases _ _ ih => exact ih.trans (sameBases_modify _ own hbases)

/-- The class itself may get any member. -/
theorem member (h : Touches own world world') (name : Text) (member : Member) :
    Touches own world (world'.setMember own name member) :=
  h.changed (fun _ => rfl) (fun _ => rfl) fun _ => rfl

end Touches

theorem touches_addHome (own : ClassId) (world : World) (name : Text) : Touches own world (world.addHome name) := by
  unfold addHome
  split
  · exact .nothing
  · exact .aside .nothing rfl rfl

theorem touches_addHomes (own : ClassId) (world : World) (outer : Text) (parts : List Text) :
    Touches own world (world.addHomes outer parts) := by
  induction parts generalizing world outer with
  | nil => exact .nothing
  | cons name rest ih =>
    refine Touches.trans ?_ (ih _ _)
    split
    · exact .nothing
    · exact (touches_addHome own world _).aside rfl rfl

theorem touches_withHome (own : ClassId) (world : World) (home : Text) : Touches own world (world.withHome home) := by
  unfold withHome
  split
  · exact .nothing
  · exact (touches_addHome own world _).trans (touches_addHomes own _ _ _)

theorem touches_place (own : ClassId) (world : World) (home path : Text) (object : Object) :
    Touches own world (world.place home path object) := by
  have hhome := touches_withHome own world home
  unfold place
  generalize world.withHome home = placed at hhome ⊢
  simp only
  split
  · exact hhome.aside rfl rfl
  · split
    · split
      · rename_i hsettable
        rw [isSettable, Bool.and_eq_true, Bool.not_eq_true'] at hsettable
        exact hhome.value _ _ _ hsettable.1
      · exact hhome
    · exact hhome

theorem touches_decideProtocol (h : world.decideProtocol own = .ok world') : Touches own world world' := by
  have hdefault : ∀ (world : World) (isGiven : Bool) (name : Text) (member : Member),
      Touches own world (if isGiven then world else world.setMember own name member) := by
    intro world isGiven name member
    split
    · exact .nothing
    · exact Touches.nothing.member name member
  unfold decideProtocol at h
  extract_lets first second at h
  have hdecided : Touches own world second := (hdefault world _ _ _).trans (hdefault first _ _ _)
  clear_value second
  refine hdecided.trans ?_
  split at h
  · cases h
    exact .nothing
  · split at h
    · cases h
    · split at h
      · cases h
        exact Touches.nothing.member _ _
      · cases h
        exact .nothing

theorem touches_tell {listed : Nat} {hook : Hook} (h : tell own listed world hook = .ok world') :
    Touches own world world' := by
  cases hook with
  | generic =>
    rw [tell, noteParameters] at h
    split at h
    · cases h
    · cases h
      exact Touches.nothing.member _ _
  | protocol => exact touches_decideProtocol h

theorem touches_tellAll {listed : Nat} {hooks : List Hook} (h : hooks.foldlM (tell own listed) world = .ok world') :
    Touches own world world' := by
  induction hooks generalizing world with
  | nil =>
    cases h
    exact .nothing
  | cons hook rest ih =>
    rw [List.foldlM_cons] at h
    obtain ⟨middle, hfirst, hrest⟩ := bind_eq_ok.mp h
    exact (touches_tell hfirst).trans (ih hrest)

theorem touches_takeShape (h : world.takeShape own = .ok world') : Touches own world world' := by
  have hwithout : Touches own world (takeShape.withoutShape own world) :=
    Touches.nothing.changed (fun _ => rfl) (fun _ => rfl) fun _ => rfl
  unfold takeShape at h
  split at h
  · split at h
    · cases h
    · cases h
      exact hwithout
  · cases h
    exact hwithout

theorem touches_noteAbstract (h : world.noteAbstract own = .ok world') : Touches own world world' := by
  unfold noteAbstract at h
  split at h
  · cases h
    exact .nothing
  · split at h
    · cases h
    · refine Touches.trans ?_ (touches_takeShape h)
      refine Touches.changed ?_ (fun _ => rfl) (fun _ => rfl) fun _ => rfl
      exact (Touches.nothing.member _ _).member _ _

/-! ### What adds classes -/

/-- A world goes on: classes are added, and keys and bases still lead to classes. -/
structure Grows (world world' : World) : Prop where
  length : world.classes.length ≤ world'.classes.length
  closed : world.Closed → world'.Closed

namespace Grows

theorem refl (world : World) : Grows world world := ⟨Nat.le_refl _, id⟩

theorem trans {world'' : World} (h : Grows world world') (h' : Grows world' world'') : Grows world world'' :=
  ⟨Nat.le_trans h.length h'.length, h'.closed ∘ h.closed⟩

end Grows

theorem SameBases.grows (h : SameBases world world') : Grows world world' := ⟨Nat.le_of_eq h.length.symm, h.closed⟩

/-- A class is added whose bases are there. -/
theorem grows_append {c : Class} (hlength : world'.classes = world.classes ++ [c])
    (hbases : world.Closed → ∀ base ∈ c.bases, base < world.classes.length)
    (hkeys : ∀ entry ∈ world'.keys, entry ∈ world.keys ∨ entry.2 = world.classes.length) : Grows world world' where
  length := by simp [hlength]
  closed hc := by
    have hmore : world'.classes.length = world.classes.length + 1 := by simp [hlength]
    refine ⟨hmore ▸ Nat.lt_succ_of_lt hc.root, fun entry he => ?_, fun c' hm base hb => ?_⟩
    · rw [hmore]
      rcases hkeys entry he with hold | hnew
      · exact Nat.lt_succ_of_lt (hc.keys entry hold)
      · exact hnew ▸ Nat.lt_succ_self _
    · rw [hmore]
      rw [hlength] at hm
      rcases List.mem_append.mp hm with hm | hm
      · exact Nat.lt_succ_of_lt (hc.bases c' hm base hb)
      · obtain rfl := List.mem_singleton.mp hm
        exact Nat.lt_succ_of_lt (hbases hc base hb)

/-- What a definition in the body of a class does to the classes: nothing, or it adds one that has only the common
    ancestor. -/
theorem addMember_cases (d : Declaration) (state : World × List (Text × Member)) (entry : Text × Body) :
    ((addMember d state entry).1.classes = state.1.classes ∧ (addMember d state entry).1.keys = state.1.keys) ∨
    ∃ c : Class, (addMember d state entry).1 = { state.1 with classes := state.1.classes ++ [c] } ∧
      c.bases = [objectId] ∧ c.order = [state.1.classes.length, objectId] ∧ c.type = typeId := by
  obtain ⟨world, members⟩ := state
  obtain ⟨name, body⟩ := entry
  cases body with
  | function binding comment final isAbstract => exact Or.inl ⟨rfl, rfl⟩
  | value object => exact Or.inl ⟨rfl, rfl⟩
  | static object => exact Or.inl ⟨rfl, rfl⟩
  | inner comment => exact Or.inr ⟨_, rfl, rfl, rfl, rfl⟩
  | same earlier =>
    refine Or.inl ?_
    simp only [addMember]
    split
    · exact ⟨rfl, rfl⟩
    · exact ⟨rfl, rfl⟩

theorem grows_addMember (d : Declaration) (state : World × List (Text × Member)) (entry : Text × Body) :
    Grows state.1 (addMember d state entry).1 := by
  rcases addMember_cases d state entry with ⟨hclasses, hkeys⟩ | ⟨c, hadded, hbases, -, -⟩
  · exact SameBases.grows ⟨by rw [hclasses], hkeys⟩
  · rw [hadded]
    refine grows_append rfl (fun hc base hb => ?_) fun _ he => Or.inl he
    rw [hbases] at hb
    obtain rfl := List.mem_singleton.mp hb
    exact hc.root

theorem grows_addMembers (d : Declaration) (body : List (Text × Body)) (state : World × List (Text × Member)) :
    Grows state.1 (body.foldl (addMember d) state).1 := by
  induction body generalizing state with
  | nil => exact .refl state.1
  | cons entry rest ih => exact (grows_addMember d state entry).trans (ih _)

theorem lt_of_basesOf (hc : world.Closed) {keys : List Text} {listed : List ClassId}
    (h : world.basesOf keys = .ok listed) : ∀ id ∈ listed, id < world.classes.length := by
  induction keys generalizing listed with
  | nil =>
    cases h
    exact nofun
  | cons key rest ih =>
    rw [basesOf, List.mapM_cons] at h
    obtain ⟨id, hid, h⟩ := bind_eq_ok.mp h
    obtain ⟨others, hothers, h⟩ := bind_eq_ok.mp h
    cases h
    refine List.forall_mem_cons.mpr ⟨?_, ih hothers⟩
    cases hl : world.keys.lookup key with
    | none =>
      rw [hl] at hid
      cases hid
    | some _ =>
      rw [hl] at hid
      cases hid
      obtain ⟨before, after, hkeys, -⟩ := List.lookup_eq_some_iff.mp hl
      exact hc.keys (key, id) (by simp [hkeys])

theorem lt_of_actualBases (hc : world.Closed) {listed : List ClassId} (h : ∀ id ∈ listed, id < world.classes.length)
    {base : ClassId} (hb : base ∈ actualBases listed) : base < world.classes.length := by
  have hkept : ∀ id ∈ (if listed.contains protocolId then listed.filter (· != genericId) else listed),
      id < world.classes.length := by
    intro id hid
    split at hid
    · exact h id (List.mem_filter.mp hid).1
    · exact h id hid
  rw [actualBases] at hb
  generalize (if listed.contains protocolId then listed.filter (· != genericId) else listed) = kept at hb hkept
  split at hb
  · obtain rfl := List.mem_singleton.mp hb
    exact hc.root
  · exact hkept base hb

/-- What a declaration does: it adds what is inside the class, then the class, and completes it. -/
theorem declare_cases {d : Declaration} (h : world.declare d = .ok world') :
    ∃ listed grown members c, world.basesOf d.bases = .ok listed ∧
      d.body.foldl (addMember d) (world, firstMembers d.home d.comment) = (grown, members) ∧
      c.bases = actualBases listed ∧ orderOf grown.classes.length c.bases (c.bases.map grown.order) = some c.order ∧
      c.type = grown.typeOver c.bases ∧
      Touches grown.classes.length
        { grown with classes := grown.classes ++ [c], keys := Ordered.put d.key grown.classes.length grown.keys }
        world' := by
  obtain ⟨listed, hlisted, h⟩ := bind_eq_ok.mp h
  rcases hbody : d.body.foldl (addMember d) (world, firstMembers d.home d.comment) with ⟨grown, members⟩
  simp only [hbody] at h
  split at h
  · cases h
  · split at h
    · cases h
    · rename_i order horder
      obtain ⟨hooks, -, h⟩ := bind_eq_ok.mp h
      obtain ⟨told, htold, h⟩ := bind_eq_ok.mp h
      obtain ⟨noted, hnoted, h⟩ := bind_eq_ok.mp h
      have hplaced : Touches grown.classes.length noted world' := by
        cases h
        split
        · exact .nothing
        · exact touches_place _ _ _ _ _
      let first : Class := { home := d.home, path := d.path, bases := actualBases listed, members, order
                             type := grown.typeOver (actualBases listed) }
      refine ⟨listed, grown, members, { first with signature := signatureOf first.name members }, hlisted, rfl, rfl,
        horder, rfl, Touches.trans ?_ hplaced⟩
      refine Touches.trans ?_ ((touches_tellAll htold).trans (touches_noteAbstract hnoted))
      exact Touches.nothing.changed (fun _ => rfl) (fun _ => rfl) fun _ => rfl

/-- A declaration adds the class at the end, after its bases. -/
theorem closed_declare {d : Declaration} (hc : world.Closed) (h : world.declare d = .ok world') : world'.Closed := by
  obtain ⟨listed, grown, members, c, hlisted, hbody, hbases, -, -, htouches⟩ := declare_cases h
  have hgrown : Grows world grown := by
    have := grows_addMembers d d.body (world, firstMembers d.home d.comment)
    rwa [hbody] at this
  refine htouches.sameBases.closed (Grows.closed ?_ (hgrown.closed hc))
  refine grows_append rfl ?_ fun entry he => Ordered.mem_of_mem_put he
  intro _ base hb
  have hold := lt_of_actualBases hc (lt_of_basesOf hc hlisted) (hbases ▸ hb)
  exact Nat.lt_of_lt_of_le hold hgrown.length

theorem closed_standard : World.standard.Closed where
  root := by decide
  keys := by decide
  bases := by
    have hall : World.standard.classes.all fun c => c.bases.all (· < World.standard.classes.length) := by decide +kernel
    intro c hm base hb
    exact of_decide_eq_true (List.all_eq_true.mp (List.all_eq_true.mp hall c hm) base hb)

theorem Made.closed (h : world.Made) : world.Closed := by
  induction h with
  | standard => exact closed_standard
  | declare _ hd ih => exact closed_declare ih hd
  | place _ home path object ih => exact (touches_place objectId _ home path object).sameBases.closed ih

/-! ### Small worlds -/

/-- The world after some declarations. One that cannot be made is left out. -/
def declareAll (world : World) (declarations : List Declaration) : World :=
  declarations.foldl (fun world d => (world.declare d).toOption.getD world) world

theorem Made.declareAll (h : world.Made) (declarations : List Declaration) : (world.declareAll declarations).Made := by
  induction declarations generalizing world with
  | nil => exact h
  | cons d rest ih =>
    refine ih ?_
    simp only
    cases hd : world.declare d with
    | error fault => exact h
    | ok made => exact h.declare hd

/-- A saw is a tool and a cutter. Tools are made in a function, so that no name leads to them. -/
def shed : World := World.standard.declareAll [
  { key := "Tool", home := "shed", path := "make.<locals>.Tool", isLocal := true
    body := [("run", .function .plain (some "Runs.") .none false)] },
  { key := "Cutter", home := "shed", path := "Cutter", bases := ["typing.Protocol"]
    body := [("cut", .function .plain (some "Cuts.") .none true)] },
  { key := "Saw", home := "shed", path := "Saw", bases := ["Tool", "Cutter"]
    body := [("cut", .function .plain none .none false)] }]

theorem shed_made : shed.Made := Made.standard.declareAll _

set_option maxRecDepth 100000 in
theorem shed_orderly : shed.classes.length = 37 ∧ shed.Distinct ∧ shed.FindsOwn := by decide +kernel

/-- Two lamps of one name, the new one made from the old one, which no name leads to any more. -/
def attic : World := World.standard.declareAll [
  { key := "Old", home := "attic", path := "Lamp", comment := some "Burns oil."
    body := [("light", .function .plain (some "Lights the wick.") .none false)] },
  { key := "New", home := "attic", path := "Lamp", bases := ["Old"], comment := some "Needs current."
    body := [("turn", .function .plain none .none false)] }]

theorem attic_made : attic.Made := Made.standard.declareAll _

end ApiDocs.Live.World
