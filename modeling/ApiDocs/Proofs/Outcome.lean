import ApiDocs.Session

/-! What steps that follow one another end in. Work that ends well has taken each of its steps well, one after the
    other, in the session that the step before has left. -/

namespace ApiDocs

theorem bind_eq_ok {ε α β : Type} {x : Except ε α} {next : α → Except ε β} {b : β} :
    (x >>= next) = .ok b ↔ ∃ a, x = .ok a ∧ next a = .ok b := by
  cases x <;> simp [bind, Except.bind]

theorem exists_map_ok {ε α β : Type} {x : Except ε α} {f : α → β} : (∃ b, x.map f = .ok b) ↔ ∃ a, x = .ok a := by
  cases x <;> simp [Except.map]

theorem isSome_toOption_iff {ε α : Type} {x : Except ε α} : x.toOption.isSome = true ↔ ∃ a, x = .ok a := by
  cases x <;> simp [Except.toOption]

theorem toOption_eq_some_iff {ε α : Type} {x : Except ε α} {a : α} : x.toOption = some a ↔ x = .ok a := by
  cases x <;> simp [Except.toOption]

theorem isSome_toOption_eq_false_iff {ε α : Type} {x : Except ε α} :
    x.toOption.isSome = false ↔ ∃ e, x = .error e := by
  cases x <;> simp [Except.toOption]

theorem exists_mapM_ok {ε α β : Type} {f : α → Except ε β} {l : List α} (h : ∀ a ∈ l, ∃ b, f a = .ok b) :
    ∃ bs, l.mapM f = .ok bs := by
  induction l with
  | nil => exact ⟨[], rfl⟩
  | cons a rest ih =>
    obtain ⟨b, hb⟩ := h a List.mem_cons_self
    obtain ⟨bs, hbs⟩ := ih fun x hx => h x (List.mem_cons_of_mem a hx)
    refine ⟨b :: bs, ?_⟩
    rw [List.mapM_cons, hb, hbs]
    rfl

theorem of_mem_mapM {ε α β : Type} {f : α → Except ε β} {l : List α} {bs : List β} (h : l.mapM f = .ok bs) {b : β}
    (hb : b ∈ bs) : ∃ a ∈ l, f a = .ok b := by
  induction l generalizing bs with
  | nil =>
    cases h
    cases hb
  | cons a rest ih =>
    rw [List.mapM_cons] at h
    obtain ⟨first, hfirst, h⟩ := bind_eq_ok.mp h
    obtain ⟨others, hothers, h⟩ := bind_eq_ok.mp h
    cases h
    rcases List.mem_cons.mp hb with rfl | hb
    · exact ⟨a, List.mem_cons_self, hfirst⟩
    · obtain ⟨x, hx, hfx⟩ := ih hothers hb
      exact ⟨x, List.mem_cons_of_mem a hx, hfx⟩

theorem mapError_eq_ok {ε δ α : Type} {x : Except ε α} {f : ε → δ} {a : α} : x.mapError f = .ok a ↔ x = .ok a := by
  cases x with
  | error e => exact ⟨nofun, nofun⟩
  | ok b =>
    constructor
    all_goals
      intro h
      cases h
      rfl

namespace Act
variable {α β : Type}

theorem outcome_ofExcept (x : Except Fault α) (s : Session) : (ofExcept x).outcome s = (x, s) := by
  cases x <;> rfl

theorem outcome_of_result {act : Act α} {s : Session} {result : Except Fault α} (h : (act.outcome s).1 = result) :
    ∃ t, act.outcome s = (result, t) := ⟨_, Prod.ext h rfl⟩

theorem exists_outcome_of_toOption {act : Act α} {s : Session} {a : α} (h : (act.outcome s).1.toOption = some a) :
    ∃ t, act.outcome s = (.ok a, t) := by
  rcases hs : act.outcome s with ⟨fault | b, t⟩
  · rw [hs] at h
    cases h
  · rw [hs] at h
    cases h
    exact ⟨t, rfl⟩

theorem outcome_bind (act : Act α) (next : α → Act β) (s : Session) :
    (act >>= next).outcome s =
      match act.outcome s with
      | (.ok a, t) => (next a).outcome t
      | (.error fault, t) => (.error fault, t) := by
  unfold outcome
  rw [ExceptT.run_bind, StateT.run_bind]
  generalize act.run.run s = ended
  rcases ended with ⟨fault | a, t⟩ <;> rfl

theorem outcome_map (f : α → β) (act : Act α) (s : Session) :
    (f <$> act).outcome s = ((act.outcome s).1.map f, (act.outcome s).2) := by
  rw [map_eq_pure_bind, outcome_bind]
  rcases act.outcome s with ⟨fault | a, t⟩ <;> rfl

theorem outcome_tryCatch (act : Act α) (handler : Fault → Act α) (s : Session) :
    (tryCatch act handler).outcome s =
      match act.outcome s with
      | (.ok a, t) => (.ok a, t)
      | (.error fault, t) => (handler fault).outcome t := by
  show (ExceptT.tryCatch act handler).run.run s = _
  unfold outcome ExceptT.tryCatch
  rw [ExceptT.run_mk, StateT.run_bind]
  generalize hended : act.run.run s = ended
  rcases ended with ⟨fault | a, t⟩
  all_goals
    simp only [ExceptT.run] at hended
    rw [hended]
    rfl

theorem outcome_readFile (path : Path) (s : Session) : (readFile path).outcome s = (s.files.read path, s) := by
  rw [readFile, outcome_bind]
  exact outcome_ofExcept _ s

/-- Two steps end well exactly if the first does and then the second. -/
theorem outcome_bind_ok {act : Act α} {next : α → Act β} {s t : Session} {b : β} :
    (act >>= next).outcome s = (.ok b, t) ↔
      ∃ a u, act.outcome s = (.ok a, u) ∧ (next a).outcome u = (.ok b, t) := by
  rw [outcome_bind]
  rcases act.outcome s with ⟨fault | a, u⟩
  · simp
  · constructor
    · exact fun h => ⟨a, u, rfl, h⟩
    · rintro ⟨_, _, h, hn⟩
      cases h
      exact hn

/-! ### Work that does not depend on the session -/

/-- The result is the same in every session. -/
def Steady (act : Act α) : Prop := ∀ s t, (act.outcome s).1 = (act.outcome t).1

theorem steady_pure (a : α) : (pure a : Act α).Steady := fun _ _ => rfl

theorem steady_ofExcept (x : Except Fault α) : (ofExcept x).Steady := fun s t => by
  rw [outcome_ofExcept, outcome_ofExcept]

theorem steady_note (notes : List Note) : (note notes).Steady := fun _ _ => rfl

theorem steady_ask {fallback : Text → Act α} {id : Text} (h : (fallback id).Steady) : (ask fallback id).Steady :=
  fun _ _ => h _ _

theorem Steady.bind {act : Act α} {next : α → Act β} (h : act.Steady) (hn : ∀ a, (next a).Steady) :
    (act >>= next).Steady := by
  intro s t
  have hfirst := h s t
  rw [outcome_bind, outcome_bind]
  generalize act.outcome s = ended, act.outcome t = other at hfirst
  obtain ⟨result, u⟩ := ended
  obtain ⟨_, v⟩ := other
  cases hfirst
  cases result with
  | error fault => rfl
  | ok a => exact hn a u v

/-- The result of two steps, if that of the second does not depend on what the first leaves behind. -/
theorem result_bind {next : α → Act β} (hn : ∀ a, (next a).Steady) (act : Act α) (s : Session) :
    ((act >>= next).outcome s).1 = (act.outcome s).1 >>= fun a => ((next a).outcome s).1 := by
  rw [outcome_bind]
  rcases act.outcome s with ⟨fault | a, t⟩
  · rfl
  · exact hn a t s

end Act
end ApiDocs
