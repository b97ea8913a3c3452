import ApiDocs.Proofs.Live.Answers
import ApiDocs.Proofs.Live.Made

/-! Live classes and a table with what is said about them are documented alike. The table holds two records, that of the
    class and that of its parent, as the live source gives them. The live source learns new names while the class is
    documented, but none of them makes a name that is asked for later lead to another class. -/

namespace ApiDocs

/-! ### Records as data -/

/-- A method as the data of a table has it. -/
def Method.toValue (method : Method) : Value := .table [
  ("name", method.name), ("static", .flag method.isStatic), ("final", .flag method.isFinal), ("doc", method.comment)]

/-- A record as the data of a table has it. -/
def ClassRecord.toValue (record : ClassRecord) : Value := .table [
  ("parent", record.parent), ("interfaces", .list record.interfaces), ("doc", record.comment),
  ("methods", .list (record.methods.map Method.toValue))]

/-- The data of a table. -/
def ClassTable.toValue (table : ClassTable) : Value := .table (table.map fun entry => (entry.1, entry.2.toValue))

/-- The record of what a source says about a class. -/
def Source.record (source : Source) (name : Text) : Act ClassRecord := do
  let parent ← source.parent name
  let interfaces ← source.interfaces name
  let comment ← source.comment name
  let methods ← source.methods name
  return { parent, interfaces, comment, methods }

/-- The table of what a source says about a class and its parent. -/
def Source.table (source : Source) (target : Text) : Act ClassTable := do
  let record ← source.record target
  match record.parent with
  | .text parent => return Ordered.put parent (← source.record parent) [(target, record)]
  | _ => return [(target, record)]

theorem ClassRecord.readMethod_toValue {owner : Text} {method : Method} (h : method.owner = owner) :
    readMethod owner method.toValue = .ok method := by
  subst h
  rfl

theorem ClassRecord.ofValue_toValue {name : Text} {record : ClassRecord} (h : ∀ m ∈ record.methods, m.owner = name) :
    ofValue name record.toValue = .ok record := by
  have hmethods : ∀ methods : List Method, (∀ m ∈ methods, m.owner = name) →
      (methods.map Method.toValue).mapM (readMethod name) = .ok methods := by
    intro methods hm
    induction methods with
    | nil => rfl
    | cons method rest ih =>
      rw [List.map_cons, List.mapM_cons, readMethod_toValue (hm method List.mem_cons_self),
        ih fun m hr => hm m (List.mem_cons_of_mem method hr)]
      rfl
  show (do
    let methods ← (record.methods.map Method.toValue).mapM (readMethod name)
    return { parent := record.parent, interfaces := record.interfaces, comment := record.comment, methods } :
      Except Fault ClassRecord) = _
  rw [hmethods record.methods h]
  rfl

/-- A table is read back from its data, if every method belongs to the class under which it stands. -/
theorem ClassTable.ofValue_toValue {table : ClassTable}
    (h : ∀ entry ∈ table, ∀ m ∈ entry.2.methods, m.owner = entry.1) : ofValue table.toValue = .ok table := by
  unfold toValue ofValue
  simp only
  induction table with
  | nil => rfl
  | cons entry rest ih =>
    rw [List.map_cons, List.mapM_cons, ih fun e he => h e (List.mem_cons_of_mem entry he)]
    simp only
    rw [ClassRecord.ofValue_toValue (h entry List.mem_cons_self)]
    rfl

namespace Live.World
open Act

variable {world : World}

/-! ### A class that is settled -/

/-- A registry in which a class is known under a name, and its parent under its own id. -/
structure Settled (world : World) (name : Text) (id : ClassId) (known : Registry) : Prop where
  sound : world.Sound known
  target : known.lookup name = some id
  parent : ∀ base, world.parentId? id = some base → known.lookup (world.nameOf base) = some base

section Orderly
variable {name : Text} {id : ClassId} {known : Registry} {s : Session} (hd : world.Distinct) (hf : world.FindsOwn)
include hd hf

theorem Settled.learned {later : Registry} (h : world.Settled name id known) (hl : world.Learned known later) :
    world.Settled name id later where
  sound := h.sound.learned hl
  target := h.sound.retains hd hf hl _ _ h.target
  parent base hp := h.sound.retains hd hf hl _ _ (h.parent base hp)

theorem settled_withAll (hb : world.HasBases) (hs : world.Sound known) (hl : known.lookup name = some id) :
    world.Settled name id (world.withAll (world.parentId? id).toList known) where
  sound := hs.learned (learned_withAll (fun _ => lt_of_parentId? hb) .nothing)
  target := hs.retains hd hf (learned_withAll (fun _ => lt_of_parentId? hb) .nothing) _ _ hl
  parent _ hp := lookup_parent hp known

/-- Asking for the parent of a class settles it. -/
theorem outcome_parent_settles (hb : world.HasBases) (hs : world.Sound s.registry)
    (hleads : world.Leads name id s.registry) :
    ∃ t, (world.parent name).outcome s = (.ok (world.parentName id), t) ∧ world.Settled name id t.registry ∧
      world.Learned s.registry t.registry ∧ t.asked = s.asked := by
  obtain ⟨u, hresolve, hl, hlearned, hasked⟩ := hleads.resolve
  refine ⟨_, outcome_parent hresolve, settled_withAll hd hf hb (hs.learned hlearned) hl, ?_, hasked⟩
  exact learned_withAll (fun _ => lt_of_parentId? hb) hlearned

theorem outcome_record (hb : world.HasBases) (hs : world.Sound s.registry) (hleads : world.Leads name id s.registry) :
    ∃ t, (world.source.record name).outcome s = (.ok (world.recordAt name id), t) ∧
      world.Settled name id t.registry := by
  obtain ⟨u, hu, hsettled, -, -⟩ := outcome_parent_settles hd hf hb hs hleads
  have hafter : world.Settled name id (world.withAll (world.interfaceIds id) u.registry) :=
    hsettled.learned hd hf (learned_withAll (fun _ => lt_of_interfaceIds hb) .nothing)
  refine ⟨{ u with registry := world.withAll (world.interfaceIds id) u.registry }, ?_, hafter⟩
  rw [Source.record]
  refine outcome_bind_ok.mpr ⟨_, u, hu, ?_⟩
  refine outcome_bind_ok.mpr ⟨_, _, outcome_interfaces (resolve_known hsettled.target), ?_⟩
  refine outcome_bind_ok.mpr ⟨_, _, outcome_comment (resolve_known hafter.target), ?_⟩
  exact outcome_bind_ok.mpr ⟨_, _, outcome_methods (resolve_known hafter.target), rfl⟩

/-- The table of a class holds its record and that of its parent, each with methods of its own. -/
theorem outcome_table (hb : world.HasBases) (hs : world.Sound s.registry) (hleads : world.Leads name id s.registry) :
    ∃ table t, (world.source.table name).outcome s = (.ok table, t) ∧
      table.lookup name = some (world.recordAt name id) ∧
      (∀ base, world.parentId? id = some base →
        table.lookup (world.nameOf base) = some (world.recordAt (world.nameOf base) base)) ∧
      ∀ entry ∈ table, ∀ m ∈ entry.2.methods, m.owner = entry.1 := by
  obtain ⟨u, hu, hsettled⟩ := outcome_record hd hf hb hs hleads
  have hown : ∀ entry ∈ [(name, world.recordAt name id)], ∀ m ∈ entry.2.methods, m.owner = entry.1 := by
    intro entry he m hm
    cases List.mem_singleton.mp he
    exact owner_recordAt hm
  have hlookup : List.lookup name [(name, world.recordAt name id)] = some (world.recordAt name id) :=
    List.lookup_cons_self
  have hname : (world.recordAt name id).parent = world.parentName id := rfl
  rw [Source.table]
  cases hp : world.parentId? id with
  | none =>
    refine ⟨_, u, outcome_bind_ok.mpr ⟨_, u, hu, ?_⟩, hlookup, nofun, hown⟩
    rw [hname, parentName, hp]
    rfl
  | some base =>
    have hbase := hsettled.parent base hp
    obtain ⟨t, ht, -⟩ := outcome_record hd hf hb hsettled.sound (Or.inl hbase)
    refine ⟨Ordered.put (world.nameOf base) (world.recordAt (world.nameOf base) base) [(name, world.recordAt name id)],
      t, outcome_bind_ok.mpr ⟨_, u, hu, ?_⟩, ?_, ?_, ?_⟩
    · rw [hname, parentName, hp]
      exact outcome_bind_ok.mpr ⟨_, t, ht, rfl⟩
    · by_cases hsame : name = world.nameOf base
      · -- A class whose parent has the requested name would be its own parent, with the same record.
        have hlt := lt_of_parentId? hb (Option.mem_toList.mpr hp)
        obtain rfl := hsettled.sound.eq_of_nameOf hd hf hlt (hsame ▸ hsettled.target)
        rw [← hsame, Ordered.lookup_put]
      · rw [Ordered.lookup_put_of_ne hsame]
        exact hlookup
    · rintro _ ⟨⟩
      exact Ordered.lookup_put _ _ _
    · intro entry he
      rcases Ordered.mem_put (by simp [Ordered.keys]) he with rfl | ⟨he, -⟩
      · exact fun m hm => owner_recordAt hm
      · exact hown entry he

end Orderly

/-! ### Both sources side by side -/

/-- Two runs that have asked for the same ids. -/
def sameAsked : Bond := fun s t => s.asked = t.asked

/-- A live source and a table with the records of a class and of its parent answer alike about the class. -/
theorem alike_table (hb : world.HasBases) (hd : world.Distinct) (hf : world.FindsOwn) {target : Text} {id : ClassId}
    {table : ClassTable} (htarget : table.lookup target = some (world.recordAt target id))
    (hparent : ∀ base, world.parentId? id = some base →
      table.lookup (world.nameOf base) = some (world.recordAt (world.nameOf base) base))
    (reader : Reader) (template : Value) :
    Extractor.Alike (some sameAsked)
      (fun s t => (world.Sound s.registry ∧ world.Leads target id s.registry) ∧ sameAsked s t)
      (fun s t => world.Settled target id s.registry ∧ sameAsked s t) (· = world.parentName id) target
      ⟨world.source, reader, linkFallback template⟩ ⟨table.source, reader, linkFallback template⟩ := by
  have hlasting : Lasting (some sameAsked) fun s t => world.Settled target id s.registry ∧ sameAsked s t := {
    note := fun _ h => h
    ask := fun id h => ⟨h.1, congrArg (· ++ [id]) h.2⟩
    kept := by
      intro kept hk s t h
      cases hk
      exact h.2 }
  have hrecord : table.record target = .ok (world.recordAt target id) := by rw [ClassTable.record, htarget]
  have hfirst : Follows (some sameAsked)
      (fun s t => (world.Sound s.registry ∧ world.Leads target id s.registry) ∧ sameAsked s t)
      (world.parent target) (table.source.parent target)
      fun parent s t => parent = world.parentName id ∧ world.Settled target id s.registry ∧ sameAsked s t := by
    refine .of_outcome fun s t hs => ?_
    obtain ⟨u, hu, hsettled, -, hasked⟩ := outcome_parent_settles hd hf hb hs.1.1 hs.1.2
    refine ⟨_, u, t, hu, ?_, rfl, hsettled, hasked.trans hs.2⟩
    simp only [ClassTable.source, hrecord]
    rfl
  exact {
    reader := rfl
    lasting := hlasting
    fallback := fun id => (hlasting.follows_ofExcept _).bind fun _ => follows_pure _
    first := hfirst
    parent := hfirst.mono (fun s t hs => ⟨⟨hs.1.sound, Or.inl hs.1.target⟩, hs.2⟩) fun _ _ _ hs => hs.2
    comment := .of_outcome fun s t hs => by
      refine ⟨_, s, t, outcome_comment (resolve_known hs.1.target), ?_, hs⟩
      simp only [ClassTable.source, hrecord]
      rfl
    interfaces := .of_outcome fun s t hs => by
      refine ⟨_, _, t, outcome_interfaces (resolve_known hs.1.target), ?_, ?_, hs.2⟩
      · simp only [Extractor.interfaces, ClassTable.source, hrecord]
        rfl
      · exact hs.1.learned hd hf (learned_withAll (fun _ => lt_of_interfaceIds hb) .nothing)
    declared := .of_outcome fun s t hs => by
      refine ⟨_, s, t, outcome_methods (resolve_known hs.1.target), ?_, hs⟩
      simp only [ClassTable.source, hrecord]
      rfl
    parents := by
      rintro parent rfl
      rw [parentName]
      cases hp : world.parentId? id with
      | none => exact hlasting.follows_ofExcept (.error _)
      | some base =>
        refine .of_outcome fun s t hs => ⟨_, s, t, outcome_methods (resolve_known (hs.1.parent base hp)), ?_, hs⟩
        simp only [Extractor.parentMethods, ClassTable.source, ClassTable.record, hparent base hp]
        rfl }

set_option maxRecDepth 100000 in
theorem shed_resolve_saw : ((shed.resolve "shed.Saw").outcome (shed.fresh [])).1.toOption = some 36 := by decide +kernel

end Live.World
end ApiDocs
