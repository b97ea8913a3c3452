import ApiDocs.Live.Registry
import ApiDocs.Proofs.Documentation.Locality

/-! What the registry of live classes comes to know. Whatever is asked, a class is made known only under its own id or
    under a new name by which it was found (`Learned`). So a name that is known leads to a class that has it as its id
    or is found under it (`Sound`), and where ids are not shared and lead to their own classes, a name that is known
    stays with its class. -/

namespace ApiDocs.Live.World
open Act

variable {world : World}

/-! ### Ids -/

/-- No two classes have the same id. -/
def Distinct (world : World) : Prop :=
  ∀ a, a < world.classes.length → ∀ b, b < world.classes.length → world.nameOf a = world.nameOf b → a = b

instance : Decidable world.Distinct := Nat.decidableBallLT _ _

/-- An id under which something can be found leads to the class that has it. -/
def FindsOwn (world : World) : Prop :=
  ∀ id, id < world.classes.length → ∀ object, world.find (world.nameOf id) = .ok object → object = .cls id

instance : Decidable world.FindsOwn :=
  decidable_of_iff
    (∀ id, id < world.classes.length → ∀ object ∈ (world.find (world.nameOf id)).toOption, object = .cls id) <| by
    refine forall_congr' fun id => forall_congr' fun _ => forall_congr' fun object => ?_
    cases world.find (world.nameOf id) <;> simp [Except.toOption]

/-- All bases of classes are classes. -/
def HasBases (world : World) : Prop := ∀ c ∈ world.classes, ∀ base ∈ c.bases, base < world.classes.length

theorem HasBases.lt (h : world.HasBases) {id base : ClassId} (hb : base ∈ world.bases id) :
    base < world.classes.length := by
  rw [bases] at hb
  cases hc : world.classes[id]? with
  | none => simp [hc] at hb
  | some c =>
    rw [hc] at hb
    exact h c (List.mem_of_getElem? hc) base hb

/-! ### What is learned -/

/-- What a registry may come to know, one thing after the other: a class under its own id, or a class under a new name
    by which it is found. -/
inductive Learned (world : World) (known : Registry) : Registry → Prop
  | nothing : Learned world known known
  | registered {later : Registry} {id : ClassId} (h : Learned world known later) (hid : id < world.classes.length) :
    Learned world known (Ordered.put (world.nameOf id) id later)
  | found {later : Registry} {name : Text} {id : ClassId} (h : Learned world known later)
    (hnew : later.lookup name = none) (hfind : world.find name = .ok (.cls id)) :
    Learned world known (Ordered.put name id later)

/-- Every name of one registry leads to the same class in another. -/
def Retains (known later : Registry) : Prop := ∀ name id, known.lookup name = some id → later.lookup name = some id

theorem Retains.refl (known : Registry) : Retains known known := fun _ _ h => h

/-- Every name leads to a class that has it as its id or is found under it. -/
def Sound (world : World) (known : Registry) : Prop :=
  ∀ name id, known.lookup name = some id →
    id < world.classes.length ∧ world.nameOf id = name ∨ world.find name = .ok (.cls id)

theorem sound_nil : world.Sound [] := nofun

theorem Sound.put {known : Registry} (h : world.Sound known) {name : Text} {id : ClassId}
    (hid : id < world.classes.length ∧ world.nameOf id = name ∨ world.find name = .ok (.cls id)) :
    world.Sound (Ordered.put name id known) := by
  intro other found hl
  by_cases hn : other = name
  · subst hn
    rw [Ordered.lookup_put] at hl
    cases hl
    exact hid
  · rw [Ordered.lookup_put_of_ne hn] at hl
    exact h other found hl

theorem Sound.learned {known later : Registry} (h : world.Sound known) (hl : world.Learned known later) :
    world.Sound later := by
  induction hl with
  | nothing => exact h
  | registered _ hid ih => exact ih.put (Or.inl ⟨hid, rfl⟩)
  | found _ _ hfind ih => exact ih.put (Or.inr hfind)

/-- An id that is known leads to its own class. -/
theorem Sound.eq_of_nameOf {known : Registry} (h : world.Sound known) (hd : world.Distinct) (hf : world.FindsOwn)
    {id other : ClassId} (hid : id < world.classes.length) (hl : known.lookup (world.nameOf id) = some other) :
    other = id := by
  rcases h _ _ hl with ⟨hother, hname⟩ | hfind
  · exact hd other hother id hid hname
  · cases hf id hid _ hfind
    rfl

/-- Registering a class leaves a name that is known with its class. -/
theorem Sound.lookup_put {known : Registry} (h : world.Sound known) (hd : world.Distinct) (hf : world.FindsOwn)
    {name : Text} {id other : ClassId} (hl : known.lookup name = some id) (hother : other < world.classes.length) :
    (Ordered.put (world.nameOf other) other known).lookup name = some id := by
  by_cases hn : name = world.nameOf other
  · subst hn
    rw [h.eq_of_nameOf hd hf hother hl, Ordered.lookup_put]
  · rw [Ordered.lookup_put_of_ne hn]
    exact hl

/-- A name that is known stays with its class. -/
theorem Sound.retains {known later : Registry} (h : world.Sound known) (hd : world.Distinct) (hf : world.FindsOwn)
    (hlearned : world.Learned known later) : Retains known later := by
  intro name id hl
  induction hlearned with
  | nothing => exact hl
  | registered hlater hid ih => exact (h.learned hlater).lookup_put hd hf ih hid
  | @found later other _ _ hnew _ ih =>
    have hne : name ≠ other := by
      rintro rfl
      rw [hnew] at ih
      cases ih
    rw [Ordered.lookup_put_of_ne hne]
    exact ih

/-! ### Resolving a name -/

/-- What is noted when a name is looked up. -/
def resolving (name : Text) : List Note := [.debug ("Resolving class " ++ name)]

theorem resolve_known {s : Session} {name : Text} {id : ClassId} (h : s.registry.lookup name = some id) :
    (world.resolve name).outcome s = (.ok id, s) := by
  have hget : (get : Act Session).outcome s = (.ok s, s) := rfl
  rw [resolve, outcome_bind, hget]
  simp only [h]
  rfl

theorem resolve_new {s : Session} {name : Text} (h : s.registry.lookup name = none) :
    (world.resolve name).outcome s =
      (do
        match ← Act.ofExcept (world.find name) with
        | .cls id =>
          remember name id
          return id
        | _ => throw (.notClass name) : Act ClassId).outcome { s with log := s.log ++ resolving name } := by
  have hget : (get : Act Session).outcome s = (.ok s, s) := rfl
  rw [resolve, outcome_bind, hget]
  simp only [h]
  rfl

theorem resolve_found {s : Session} {name : Text} {id : ClassId} (h : s.registry.lookup name = none)
    (hfind : world.find name = .ok (.cls id)) :
    (world.resolve name).outcome s =
      (.ok id, { s with log := s.log ++ resolving name, registry := Ordered.put name id s.registry }) := by
  rw [resolve_new h, hfind]
  rfl

/-- How the resolution of a name ends. -/
theorem resolve_cases (name : Text) (s : Session) :
    (∃ id, s.registry.lookup name = some id ∧ (world.resolve name).outcome s = (.ok id, s)) ∨
    (∃ id, s.registry.lookup name = none ∧ world.find name = .ok (.cls id) ∧
      (world.resolve name).outcome s =
        (.ok id, { s with log := s.log ++ resolving name, registry := Ordered.put name id s.registry })) ∨
    (s.registry.lookup name = none ∧ (∀ id, world.find name ≠ .ok (.cls id)) ∧
      ∃ fault, (world.resolve name).outcome s = (.error fault, { s with log := s.log ++ resolving name })) := by
  cases hl : s.registry.lookup name with
  | some id => exact Or.inl ⟨id, rfl, resolve_known hl⟩
  | none =>
    refine Or.inr ?_
    cases hf : world.find name with
    | error fault =>
      refine Or.inr ⟨rfl, nofun, fault, ?_⟩
      rw [resolve_new hl, hf]
      rfl
    | ok object =>
      cases object with
      | cls id => exact Or.inl ⟨id, rfl, rfl, resolve_found hl hf⟩
      | _ =>
        refine Or.inr ⟨rfl, nofun, .notClass name, ?_⟩
        rw [resolve_new hl, hf]
        rfl

/-! ### What is learned from questions -/

/-- Work from which a registry learns nothing but what it may. -/
def Learns {α : Type} (world : World) (act : Act α) : Prop :=
  ∀ known, Keeps (fun s => world.Learned known s.registry) act

theorem Learns.bind {α β : Type} {act : Act α} {next : α → Act β} (h : world.Learns act)
    (hn : ∀ a, world.Learns (next a)) : world.Learns (act >>= next) := fun known => (h known).bind fun a => hn a known

theorem learns_ofExcept {α : Type} (x : Except Fault α) : world.Learns (Act.ofExcept x) := fun _ => keeps_ofExcept x

theorem learns_note (notes : List Note) : world.Learns (Act.note notes) := fun _ _ h => h

theorem resolve_learns (name : Text) : world.Learns (world.resolve name) := by
  intro known s hs
  rcases world.resolve_cases name s with ⟨id, -, h⟩ | ⟨id, hnew, hfind, h⟩ | ⟨-, -, fault, h⟩
  · rw [h]
    exact hs
  · rw [h]
    exact hs.found hnew hfind
  · rw [h]
    exact hs

theorem register_learns {id : ClassId} (hid : id < world.classes.length) : world.Learns (world.register id) :=
  fun _ _ hs => hs.registered hid

theorem resolveMethod_keeps {inv : Session → Prop} (hresolve : ∀ name, Keeps inv (world.resolve name))
    (methodId : Text) : Keeps inv (world.resolveMethod methodId) := by
  refine (hresolve _).bind fun id => ?_
  split
  · exact keeps_ofExcept (.ok _)
  · exact keeps_ofExcept (.error _)

theorem resolveMethod_learns (methodId : Text) : world.Learns (world.resolveMethod methodId) := fun known =>
  resolveMethod_keeps (fun name => world.resolve_learns name known) methodId

theorem methods_learns (name : Text) : world.Learns (world.methods name) :=
  (world.resolve_learns name).bind fun _ => learns_ofExcept (.ok _)

theorem comment_learns (name : Text) : world.Learns (world.comment name) :=
  (world.resolve_learns name).bind fun _ => learns_ofExcept (.ok _)

theorem parent_learns (hb : world.HasBases) (name : Text) : world.Learns (world.parent name) := by
  refine (world.resolve_learns name).bind fun id => ?_
  cases hp : world.parentId? id with
  | none => exact learns_ofExcept (.ok _)
  | some base =>
    have hbase := hb.lt (List.mem_of_find?_eq_some hp)
    exact (register_learns hbase).bind fun _ => learns_ofExcept (.ok _)

theorem interfaces_learns (hb : world.HasBases) (name : Text) : world.Learns (world.interfaces name) := by
  refine (world.resolve_learns name).bind fun id known => keeps_mapM fun base hbase => ?_
  have hlt := hb.lt (List.mem_filter.mp hbase).1
  exact (register_learns hlt).bind (fun _ => learns_ofExcept (.ok _)) known

/-! ### Documentation -/

/-- How methods without a docblock are described: by their link alone, or by what they inherit as well. -/
inductive Describer
  | link (template : Value)
  | inherited (template : Value)

/-- The fallback of a describer. -/
def Describer.fallback (world : World) : Describer → Fallback
  | .link template => linkFallback template
  | .inherited template => world.fallback template

theorem fallback_keeps {inv : Session → Prop} (hnote : ∀ notes, Keeps inv (Act.note notes))
    (hresolve : ∀ name, Keeps inv (world.resolve name)) (describer : Describer) (methodId : Text) :
    Keeps inv (describer.fallback world methodId) := by
  cases describer with
  | link template => exact (keeps_ofExcept _).bind fun _ => keeps_ofExcept (.ok _)
  | inherited template =>
    refine (resolveMethod_keeps hresolve methodId).bind fun object => ?_
    exact (hnote _).bind fun _ => (keeps_ofExcept _).bind fun _ => keeps_ofExcept (.ok _)

theorem fallback_learns (describer : Describer) (methodId : Text) :
    world.Learns (describer.fallback world methodId) := fun known =>
  fallback_keeps (fun notes => learns_note notes known) (fun name => world.resolve_learns name known) describer methodId

theorem extract_learns (hb : world.HasBases) (reader : Reader) (describer : Describer) (target : Text) :
    world.Learns (Extractor.extract ⟨world.source, reader, describer.fallback world⟩ target) := fun known =>
  Extractor.extract_keeps target (fun _ _ h => h) (fun _ _ h => h) (fun id => fallback_learns describer id known)
    (fun name => world.methods_learns name known) (parent_learns hb target known) (world.comment_learns target known)
    (interfaces_learns hb target known)

/-! ### Two sessions side by side -/

section Follows
variable {faults : Option Bond} {bond : Bond} (hlasting : Lasting faults bond)
  (hresolve : ∀ name, Follows faults bond (world.resolve name) (world.resolve name) fun _ => bond)
  (hregister : ∀ id base, base ∈ world.bases id →
    Follows faults bond (world.register base) (world.register base) fun _ => bond)

include hregister in
theorem interfaces_follow {id : ClassId} {bases : List ClassId} (h : ∀ base ∈ bases, base ∈ world.bases id) :
    Follows faults bond (bases.mapM fun base => do return Value.text (← world.register base))
      (bases.mapM fun base => do return Value.text (← world.register base)) fun _ => bond := by
  induction bases with
  | nil => exact follows_pure _
  | cons base rest ih =>
    rw [List.mapM_cons]
    refine Follows.bind ((hregister id base (h base List.mem_cons_self)).bind fun _ => follows_pure _) fun _ => ?_
    exact (ih fun b hb => h b (List.mem_cons_of_mem base hb)).bind fun _ => follows_pure _

include hlasting hresolve in
theorem fallback_follows (describer : Describer) (methodId : Text) :
    Follows faults bond (describer.fallback world methodId) (describer.fallback world methodId) fun _ => bond := by
  cases describer with
  | link template => exact (hlasting.follows_ofExcept _).bind fun _ => follows_pure _
  | inherited template =>
    have hobject : Follows faults bond (world.resolveMethod methodId) (world.resolveMethod methodId)
        fun _ => bond := by
      refine (hresolve _).bind fun id => ?_
      split
      · exact follows_pure _
      · exact hlasting.follows_ofExcept (.error _)
    refine hobject.bind fun object => (hlasting.follows_note _).bind fun _ => ?_
    exact (hlasting.follows_ofExcept _).bind fun _ => follows_pure _

include hlasting hresolve hregister in
/-- Where names are resolved and bases are registered alike, classes are documented alike. -/
theorem alike_of_resolve (reader : Reader) (describer : Describer) (target : Text) :
    Extractor.Alike faults bond bond (fun _ => True) target
      ⟨world.source, reader, describer.fallback world⟩ ⟨world.source, reader, describer.fallback world⟩ := by
  have hmethods : ∀ name, Follows faults bond (world.methods name) (world.methods name) fun _ => bond :=
    fun name => (hresolve name).bind fun _ => follows_pure _
  have hparent : Follows faults bond (world.parent target) (world.parent target) fun _ => bond := by
    refine (hresolve target).bind fun id => ?_
    cases hp : world.parentId? id with
    | none => exact follows_pure _
    | some base => exact (hregister id base (List.mem_of_find?_eq_some hp)).bind fun _ => follows_pure _
  exact {
    reader := rfl
    lasting := hlasting
    fallback := fallback_follows hlasting hresolve describer
    first := hparent.with_result fun _ _ _ _ => trivial
    parent := hparent
    comment := (hresolve target).bind fun _ => follows_pure _
    interfaces := (hresolve target).bind fun _ =>
      interfaces_follow hregister fun _ hbase => (List.mem_filter.mp hbase).1
    declared := hmethods target
    parents := fun parent _ => by
      cases parent with
      | text name => exact hmethods name
      | _ => exact hlasting.follows_ofExcept (.error _) }

end Follows

/-! ### Operations -/

/-- What can be done with a source of live classes. A class is registered by its place. -/
inductive Operation (world : World)
  | register (place : Fin world.classes.length)
  | resolve (name : Text)
  | resolveMethod (methodId : Text)
  | methods (name : Text)
  | parent (name : Text)
  | interfaces (name : Text)
  | comment (name : Text)
  | describe (describer : Describer) (methodId : Text)
  | extract (reader : Reader) (describer : Describer) (target : Text)

/-- Does an operation, of which only what it leaves behind matters. -/
def Operation.run : world.Operation → Act Unit
  | .register place => do let _ ← world.register place
  | .resolve name => do let _ ← world.resolve name
  | .resolveMethod methodId => do let _ ← world.resolveMethod methodId
  | .methods name => do let _ ← world.methods name
  | .parent name => do let _ ← world.parent name
  | .interfaces name => do let _ ← world.interfaces name
  | .comment name => do let _ ← world.comment name
  | .describe describer methodId => do let _ ← describer.fallback world methodId
  | .extract reader describer target => do
    let _ ← Extractor.extract ⟨world.source, reader, describer.fallback world⟩ target

/-- The session after some operations. One that fails does not stop the next. -/
def after (world : World) (history : List world.Operation) (s : Session) : Session :=
  history.foldl (fun s operation => (operation.run.outcome s).2) s

theorem run_learns (hb : world.HasBases) (operation : world.Operation) : world.Learns operation.run := by
  cases operation with
  | register place => exact (register_learns place.isLt).bind fun _ => learns_ofExcept (.ok ())
  | resolve name => exact (world.resolve_learns name).bind fun _ => learns_ofExcept (.ok ())
  | resolveMethod methodId => exact (world.resolveMethod_learns methodId).bind fun _ => learns_ofExcept (.ok ())
  | methods name => exact (world.methods_learns name).bind fun _ => learns_ofExcept (.ok ())
  | parent name => exact (parent_learns hb name).bind fun _ => learns_ofExcept (.ok ())
  | interfaces name => exact (interfaces_learns hb name).bind fun _ => learns_ofExcept (.ok ())
  | comment name => exact (world.comment_learns name).bind fun _ => learns_ofExcept (.ok ())
  | describe describer methodId => exact (fallback_learns describer methodId).bind fun _ => learns_ofExcept (.ok ())
  | extract reader describer target =>
    exact (extract_learns hb reader describer target).bind fun _ => learns_ofExcept (.ok ())

/-- Operations teach a registry one thing after the other, and nothing else. -/
theorem after_learned (hb : world.HasBases) {known : Registry} (history : List world.Operation) {s : Session}
    (hs : world.Learned known s.registry) : world.Learned known (world.after history s).registry := by
  induction history generalizing s with
  | nil => exact hs
  | cons operation rest ih => exact ih (run_learns hb operation known s hs)

/-- The session of a new source, which knows the classes that it is made with. -/
def fresh (world : World) (registered : List (Fin world.classes.length)) : Session :=
  world.after (registered.map .register) {}

theorem sound_fresh (hb : world.HasBases) (registered : List (Fin world.classes.length)) :
    world.Sound (world.fresh registered).registry :=
  sound_nil.learned (after_learned hb (registered.map .register) .nothing)

end ApiDocs.Live.World
