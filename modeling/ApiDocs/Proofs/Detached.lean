import ApiDocs.Proofs.Outcome

/-! Work that stands by itself. It comes to the same result in every session, and leaves there the same notes about its
    steps and the same ids that it asked for, behind what was there before. So what it does in a new session tells what
    it does in any other. -/

namespace ApiDocs

namespace Session

/-- A session in which some more was noted and asked for. -/
def adding (s : Session) (notes : List Note) (ids : List Text) : Session :=
  { s with log := s.log ++ notes, asked := s.asked ++ ids }

theorem adding_nil (s : Session) : s.adding [] [] = s := by
  rw [adding, List.append_nil, List.append_nil]

theorem adding_adding (s : Session) (notes notes' : List Note) (ids ids' : List Text) :
    (s.adding notes ids).adding notes' ids' = s.adding (notes ++ notes') (ids ++ ids') := by
  simp only [adding, List.append_assoc]

end Session

namespace Act
variable {α β : Type}

theorem outcome_note (notes : List Note) (s : Session) : (note notes).outcome s = (.ok (), s.adding notes []) := by
  rw [Session.adding, List.append_nil]
  rfl

theorem outcome_ask (fallback : Text → Act α) (id : Text) (s : Session) :
    (ask fallback id).outcome s = (fallback id).outcome (s.adding [] [id]) := by
  rw [Session.adding, List.append_nil]
  rfl

/-- Work that stands by itself: whatever the session, it ends in the same way, after the same notes, none of them a
    warning, and the same ids. -/
def Detached (act : Act α) : Prop :=
  ∃ result notes ids, (∀ note ∈ notes, note.level = .debug) ∧ ∀ s, act.outcome s = (result, s.adding notes ids)

theorem detached_ofExcept (x : Except Fault α) : (ofExcept x).Detached := by
  refine ⟨x, [], [], nofun, fun s => ?_⟩
  rw [outcome_ofExcept, s.adding_nil]

theorem detached_pure (a : α) : (pure a : Act α).Detached := detached_ofExcept (.ok a)

theorem detached_note {notes : List Note} (h : ∀ note ∈ notes, note.level = .debug) : (note notes).Detached :=
  ⟨.ok (), notes, [], h, outcome_note notes⟩

theorem detached_ask {fallback : Text → Act α} {id : Text} (h : (fallback id).Detached) :
    (ask fallback id).Detached := by
  obtain ⟨result, notes, ids, hdebug, hout⟩ := h
  refine ⟨result, notes, id :: ids, hdebug, fun s => ?_⟩
  rw [outcome_ask, hout, s.adding_adding, List.nil_append, List.singleton_append]

theorem Detached.bind {act : Act α} {next : α → Act β} (h : act.Detached) (hn : ∀ a, (next a).Detached) :
    (act >>= next).Detached := by
  obtain ⟨result, notes, ids, hdebug, hout⟩ := h
  cases result with
  | error fault =>
    refine ⟨.error fault, notes, ids, hdebug, fun s => ?_⟩
    rw [outcome_bind, hout]
  | ok a =>
    obtain ⟨result, notes', ids', hdebug', hout'⟩ := hn a
    refine ⟨result, notes ++ notes', ids ++ ids', ?_, fun s => ?_⟩
    · intro note hm
      rcases List.mem_append.mp hm with hm | hm
      · exact hdebug note hm
      · exact hdebug' note hm
    · rw [outcome_bind, hout]
      simp only
      rw [hout', Session.adding_adding]

/-- What work that stands by itself does is what it does in a new session. -/
theorem Detached.outcome_eq {act : Act α} (h : act.Detached) (s : Session) :
    act.outcome s = ((act.outcome {}).1, s.adding (act.outcome {}).2.log (act.outcome {}).2.asked) := by
  obtain ⟨result, notes, ids, -, hout⟩ := h
  rw [hout, hout]
  rfl

theorem Detached.steady {act : Act α} (h : act.Detached) : act.Steady := fun s t => by
  rw [h.outcome_eq s, h.outcome_eq t]

theorem Detached.level_eq {act : Act α} (h : act.Detached) : ∀ note ∈ (act.outcome {}).2.log, note.level = .debug := by
  obtain ⟨result, notes, ids, hdebug, hout⟩ := h
  rw [hout]
  exact hdebug

end Act
end ApiDocs
