import ApiDocs.Proofs.Live.Made

/-! The documentation of a live class does not depend on what the source was asked before. A source that has been used
    knows more names than a fresh one, but where ids are not shared and lead to their own classes it knows nothing
    different: what the fresh source knows, or finds, it knows as well. So the used source follows the fresh one, as
    long as that one does not fail. -/

namespace ApiDocs.Live.World
open Act

variable {world : World}

/-- The second of two sessions knows all that the first one knows, and nothing that is not so. -/
def Ahead (world : World) : Bond := fun s t =>
  Retains s.registry t.registry ∧ world.Sound t.registry

theorem lasting_ahead : Lasting none world.Ahead where
  note _ h := h
  ask _ h := h
  kept := nofun

theorem Ahead.put {s t : Session} (h : world.Ahead s t) {name : Text} {id : ClassId}
    (hid : id < world.classes.length ∧ world.nameOf id = name ∨ world.find name = .ok (.cls id))
    {log log' : List Note} :
    world.Ahead { s with registry := Ordered.put name id s.registry, log }
      { t with registry := Ordered.put name id t.registry, log := log' } := by
  refine ⟨fun other found hl => ?_, h.2.put hid⟩
  by_cases hn : other = name
  · subst hn
    rw [Ordered.lookup_put] at hl ⊢
    exact hl
  · rw [Ordered.lookup_put_of_ne hn] at hl ⊢
    exact h.1 other found hl

/-- A name that the fresh source finds is known to the used one as the same class, or found there as well. -/
theorem resolve_follows (hf : world.FindsOwn) (name : Text) :
    Follows none world.Ahead (world.resolve name) (world.resolve name) fun _ => world.Ahead := by
  rintro s t ⟨hknown, hsound⟩
  rcases world.resolve_cases name s with ⟨id, hl, h⟩ | ⟨id, hnew, hfind, h⟩ | ⟨-, -, fault, h⟩
  · rw [h]
    exact ⟨t, resolve_known (hknown name id hl), hknown, hsound⟩
  · rw [h]
    cases ht : t.registry.lookup name with
    | none => exact ⟨_, resolve_found ht hfind, Ahead.put ⟨hknown, hsound⟩ (Or.inr hfind)⟩
    | some other =>
      have hsame : other = id := by
        rcases hsound name other ht with ⟨hother, rfl⟩ | hother
        · cases hf other hother _ hfind
          rfl
        · rw [hfind] at hother
          cases hother
          rfl
      subst hsame
      refine ⟨t, resolve_known ht, fun known found hl => ?_, hsound⟩
      by_cases hn : known = name
      · subst hn
        rw [Ordered.lookup_put] at hl
        rw [ht, hl]
      · rw [Ordered.lookup_put_of_ne hn] at hl
        exact hknown known found hl
  · rw [h]
    exact nofun

theorem register_follows {id : ClassId} (hid : id < world.classes.length) :
    Follows none world.Ahead (world.register id) (world.register id) fun _ => world.Ahead :=
  .of_outcome fun _ _ hs => ⟨_, _, _, rfl, rfl, hs.put (Or.inl ⟨hid, rfl⟩)⟩

/-- A used source answers like a fresh one. -/
theorem alike_used (hb : world.HasBases) (hf : world.FindsOwn) (reader : Reader) (describer : Describer)
    (target : Text) :
    Extractor.Alike none world.Ahead world.Ahead (fun _ => True) target
      ⟨world.source, reader, describer.fallback world⟩ ⟨world.source, reader, describer.fallback world⟩ :=
  alike_of_resolve lasting_ahead (resolve_follows hf) (fun _ _ hbase => register_follows (hb.lt hbase)) reader describer
    target

/-- How saws are documented: the method that has no docblock takes what it inherits. -/
def sawDoc : Act Documentation :=
  Extractor.extract ⟨shed.source, .style .epydoc, (Describer.inherited (.text "https://shed/\x7bid\x7d")).fallback shed⟩
    "shed.Saw"

set_option maxRecDepth 100000 in
theorem sawDoc_parent : ((sawDoc.outcome (shed.fresh [])).1.toOption.bind fun doc => doc.parent.text?) =
    some "shed.make.<locals>.Tool".toList := by decide +kernel

end ApiDocs.Live.World
