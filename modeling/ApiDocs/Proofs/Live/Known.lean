import ApiDocs.Proofs.Live.Answers
import ApiDocs.Proofs.Live.Made

/-! What a source of live classes holds on to. Its registry has each name once, with a class that has the name as its id
    or is found under it; names are added and never taken away; a question that fails adds none; and the ids that are
    given as answers are names that are known from then on. -/

namespace ApiDocs.Live.World
open Act

variable {world : World}

/-! ### Entries -/

/-- A name that is written keeps its place if it is known, and else comes behind all others. -/
theorem keys_prefix_put (name : Text) (id : ClassId) (known : Registry) :
    Ordered.keys known <+: Ordered.keys (Ordered.put name id known) := by
  by_cases hk : name ∈ Ordered.keys known
  · have hsame : Ordered.keys (Ordered.put name id known) = Ordered.keys known := Ordered.keys_put_of_mem hk id
    exact hsame ▸ List.prefix_refl _
  · rw [Ordered.keys_put_of_not_mem hk]
    exact List.prefix_append _ _

theorem Learned.keys_kept {known later : Registry} (h : world.Learned known later) :
    Ordered.keys known <+: Ordered.keys later := by
  induction h with
  | nothing => exact List.prefix_refl _
  | registered _ _ ih => exact ih.trans (keys_prefix_put _ _ _)
  | found _ _ _ ih => exact ih.trans (keys_prefix_put _ _ _)

theorem Learned.nodup {known later : Registry} (h : world.Learned known later) (hknown : (Ordered.keys known).Nodup) :
    (Ordered.keys later).Nodup := by
  induction h with
  | nothing => exact hknown
  | registered _ _ ih => exact Ordered.nodup_keys_put ih _ _
  | found _ _ _ ih => exact Ordered.nodup_keys_put ih _ _

/-! ### Questions that fail -/

/-- Work that leaves the registry as it was if it fails. -/
def FailsUnlearned {α : Type} (act : Act α) : Prop :=
  ∀ s fault t, act.outcome s = (.error fault, t) → t.registry = s.registry

theorem resolve_failsUnlearned (world : World) (name : Text) : FailsUnlearned (world.resolve name) := by
  intro s fault t h
  rcases world.resolve_cases name s with ⟨id, -, hr⟩ | ⟨id, -, -, hr⟩ | ⟨-, -, other, hr⟩
  · cases hr.symm.trans h
  · cases hr.symm.trans h
  · cases hr.symm.trans h
    rfl

/-- A question whose class is found is answered, so that it fails only if the class is not found. -/
theorem failsUnlearned_of_resolve {α : Type} {name : Text} {next : ClassId → Act α}
    (h : ∀ {id s u}, (world.resolve name).outcome s = (.ok id, u) →
      ∃ a t, (world.resolve name >>= next).outcome s = (.ok a, t)) :
    FailsUnlearned (world.resolve name >>= next) := by
  intro s fault t hfails
  rcases hr : (world.resolve name).outcome s with ⟨other | id, u⟩
  · rw [outcome_bind, hr] at hfails
    cases hfails
    exact world.resolve_failsUnlearned name s _ _ hr
  · obtain ⟨a, v, hanswer⟩ := h hr
    cases hanswer.symm.trans hfails

theorem methods_failsUnlearned (world : World) (name : Text) : FailsUnlearned (world.methods name) :=
  failsUnlearned_of_resolve fun h => ⟨_, _, outcome_methods h⟩

theorem comment_failsUnlearned (world : World) (name : Text) : FailsUnlearned (world.comment name) :=
  failsUnlearned_of_resolve fun h => ⟨_, _, outcome_comment h⟩

theorem parent_failsUnlearned (world : World) (name : Text) : FailsUnlearned (world.parent name) :=
  failsUnlearned_of_resolve fun h => ⟨_, _, outcome_parent h⟩

theorem interfaces_failsUnlearned (world : World) (name : Text) : FailsUnlearned (world.interfaces name) :=
  failsUnlearned_of_resolve fun h => ⟨_, _, outcome_interfaces h⟩

/-! ### Ids that are given as answers -/

/-- A session that recalls the class of a name: the name leads to it whatever there is to be found, and nothing is looked
    up for it. -/
def Recalls (s : Session) (name : Text) (id : ClassId) : Prop :=
  ∀ elsewhere : World, (elsewhere.resolve name).outcome s = (.ok id, s)

theorem recalls_of_lookup {s : Session} {name : Text} {id : ClassId} (h : s.registry.lookup name = some id) :
    Recalls s name id := fun _ => resolve_known h

/-- The id of the parent leads to the parent that was chosen. -/
theorem parent_recalled {name : Text} {s t : Session} {value : Value}
    (h : (world.parent name).outcome s = (.ok value, t)) :
    ∃ id u, (world.resolve name).outcome s = (.ok id, u) ∧ value = world.parentName id ∧
      ∀ base, world.parentId? id = some base → Recalls t (world.nameOf base) base := by
  obtain ⟨id, u, hresolve, -⟩ := outcome_bind_ok.mp h
  cases (outcome_parent hresolve).symm.trans h
  exact ⟨id, u, hresolve, rfl, fun base hp => recalls_of_lookup (lookup_parent hp u.registry)⟩

/-- A name among those of some classes leads to one of these once they are registered. -/
theorem exists_lookup_withAll {ids : List ClassId} {base : ClassId} (h : base ∈ ids) (known : Registry) :
    ∃ other ∈ ids, world.nameOf other = world.nameOf base ∧
      (world.withAll ids known).lookup (world.nameOf base) = some other := by
  cases hlast : world.lastNamed? ids (world.nameOf base) with
  | none =>
    have hnone := List.find?_eq_none.mp hlast base (List.mem_reverse.mpr h)
    exact absurd (beq_self_eq_true _) hnone
  | some other =>
    have hname : world.nameOf other = world.nameOf base := by simpa using List.find?_some hlast
    refine ⟨other, List.mem_reverse.mp (List.mem_of_find?_eq_some hlast), hname, ?_⟩
    rw [lookup_withAll, hlast, Option.some_or]

/-- The id of an interface leads to an interface that has it, which is another one only if they share it. -/
theorem interfaces_recalled {name : Text} {s t : Session} {values : List Value}
    (h : (world.interfaces name).outcome s = (.ok values, t)) :
    ∃ id u, (world.resolve name).outcome s = (.ok id, u) ∧
      values = (world.interfaceIds id).map (fun base => .text (world.nameOf base)) ∧
      ∀ base ∈ world.interfaceIds id, ∃ other ∈ world.interfaceIds id,
        world.nameOf other = world.nameOf base ∧ Recalls t (world.nameOf base) other := by
  obtain ⟨id, u, hresolve, -⟩ := outcome_bind_ok.mp h
  cases (outcome_interfaces hresolve).symm.trans h
  refine ⟨id, u, hresolve, rfl, fun base hbase => ?_⟩
  obtain ⟨other, hother, hname, hlookup⟩ := exists_lookup_withAll hbase u.registry
  exact ⟨other, hother, hname, recalls_of_lookup hlookup⟩

/-! ### Sources that have been used -/

/-- A source of the shed that was asked for something that is not there, and then for the methods of saws. -/
def searchedShed : Session := shed.after [.parent "shed.Axe", .methods "shed.Saw"] (shed.fresh [])

set_option maxRecDepth 100000 in
theorem searchedShed_saw : searchedShed.registry = [("shed.Saw".toList, 36)] ∧ shed.parentId? 36 = some 34 ∧
    shed.nameOf 34 = "shed.make.<locals>.Tool".toList ∧ shed.interfaceIds 36 = [35] ∧
    shed.nameOf 35 = "shed.Cutter".toList := by decide +kernel

end ApiDocs.Live.World
