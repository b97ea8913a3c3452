import ApiDocs.Proofs.Outcome

/-! Two pieces of work side by side. One follows the other if from sessions that are related it comes to the same result
    and leaves sessions that are related again. How far faults count is left open: a comparison may ask that a fault of
    the one is a fault of the other, or look only at work that ends well. -/

namespace ApiDocs.Act

/-- A relation between the sessions of two runs. -/
abbrev Bond := Session → Session → Prop

variable {α β : Type}

/-- `other` follows `act` from sessions related by `pre`: where `act` ends well, so does `other`, with the same result
    and in a session related by `post`. With `faults` it ends in the same fault where `act` ends in one, in a session
    related by that; without, nothing is said about faults. -/
def Follows (faults : Option Bond) (pre : Bond) (act other : Act α) (post : α → Bond) : Prop :=
  ∀ s t, pre s t →
    match act.outcome s with
    | (.ok a, s') => ∃ t', other.outcome t = (.ok a, t') ∧ post a s' t'
    | (.error fault, s') => ∀ kept ∈ faults, ∃ t', other.outcome t = (.error fault, t') ∧ kept s' t'

variable {faults : Option Bond} {pre mid : Bond} {act other : Act α} {post : α → Bond}

theorem Follows.ok (h : Follows faults pre act other post) {s t s' : Session} (hs : pre s t) {a : α}
    (ha : act.outcome s = (.ok a, s')) : ∃ t', other.outcome t = (.ok a, t') ∧ post a s' t' := by
  have := h s t hs
  rw [ha] at this
  exact this

theorem Follows.of_outcome {pre : Bond} (h : ∀ s t, pre s t → ∃ a s' t', act.outcome s = (.ok a, s') ∧
    other.outcome t = (.ok a, t') ∧ post a s' t') : Follows faults pre act other post := by
  intro s t hs
  obtain ⟨a, s', t', ha, hb, hp⟩ := h s t hs
  rw [ha]
  exact ⟨t', hb, hp⟩

theorem Follows.mono {pre' : Bond} {post' : α → Bond} (h : Follows faults pre act other post)
    (hpre : ∀ s t, pre' s t → pre s t) (hpost : ∀ a s t, post a s t → post' a s t) :
    Follows faults pre' act other post' := by
  intro s t hs
  have hst := h s t (hpre s t hs)
  rcases ha : act.outcome s with ⟨fault | a, s'⟩
  · rw [ha] at hst
    exact hst
  · rw [ha] at hst
    obtain ⟨t', hb, hp⟩ := hst
    exact ⟨t', hb, hpost a s' t' hp⟩

/-- What is known of every result may be used after the work. -/
theorem Follows.with_result {fact : α → Prop} (h : Follows faults pre act other post)
    (hfact : ∀ s a s', act.outcome s = (.ok a, s') → fact a) :
    Follows faults pre act other fun a s t => fact a ∧ post a s t := by
  intro s t hs
  have hst := h s t hs
  rcases ha : act.outcome s with ⟨fault | a, s'⟩
  · rw [ha] at hst
    exact hst
  · rw [ha] at hst
    obtain ⟨t', hb, hp⟩ := hst
    exact ⟨t', hb, hfact s a s' ha, hp⟩

/-- What holds whenever the work begins may be used to compare it. -/
theorem Follows.of_pre {fact : Prop} (h : fact → Follows faults pre act other post) :
    Follows faults (fun s t => fact ∧ pre s t) act other post := fun s t hs => h hs.1 s t hs.2

theorem follows_pure (a : α) : Follows faults pre (pure a) (pure a) fun _ => pre :=
  fun _ t hs => ⟨t, rfl, hs⟩

/-- Work follows other work step by step. -/
theorem Follows.bind {mid : α → Bond} {next next' : α → Act β} {post : β → Bond}
    (h : Follows faults pre act other mid) (hn : ∀ a, Follows faults (mid a) (next a) (next' a) post) :
    Follows faults pre (act >>= next) (other >>= next') post := by
  intro s t hs
  have hst := h s t hs
  rw [outcome_bind]
  rcases ha : act.outcome s with ⟨fault | a, s'⟩
  · rw [ha] at hst
    intro kept hk
    obtain ⟨t', hb, hr⟩ := hst kept hk
    exact ⟨t', by rw [outcome_bind, hb], hr⟩
  · rw [ha] at hst
    obtain ⟨t', hb, hm⟩ := hst
    rw [outcome_bind, hb]
    exact hn a s' t' hm

/-- Where both sides catch what goes wrong, the ways in which they go on are compared. -/
theorem Follows.tryCatch {kept : Bond} {handler handler' : Fault → Act α} (h : Follows (some kept) pre act other post)
    (hh : ∀ fault, Follows faults kept (handler fault) (handler' fault) post) :
    Follows faults pre (tryCatch act handler) (tryCatch other handler') post := by
  intro s t hs
  have hst := h s t hs
  rw [outcome_tryCatch]
  rcases ha : act.outcome s with ⟨fault | a, s'⟩
  · rw [ha] at hst
    obtain ⟨t', hb, hk⟩ := hst kept rfl
    rw [outcome_tryCatch, hb]
    exact hh fault s' t' hk
  · rw [ha] at hst
    obtain ⟨t', hb, hp⟩ := hst
    exact ⟨t', by rw [outcome_tryCatch, hb], hp⟩

/-- A relation that lasts while both sides take the same notes and ask for the same ids, and that is all a fault has to
    leave. -/
structure Lasting (faults : Option Bond) (bond : Bond) : Prop where
  note : ∀ {s t : Session} (notes : List Note), bond s t →
    bond { s with log := s.log ++ notes } { t with log := t.log ++ notes }
  ask : ∀ {s t : Session} (id : Text), bond s t →
    bond { s with asked := s.asked ++ [id] } { t with asked := t.asked ++ [id] }
  kept : ∀ kept ∈ faults, ∀ s t, bond s t → kept s t

namespace Lasting
variable {bond : Bond} (h : Lasting faults bond)
include h

theorem follows_note (notes : List Note) :
    Follows faults bond (Act.note notes) (Act.note notes) fun _ => bond :=
  .of_outcome fun _ _ hs => ⟨(), _, _, rfl, rfl, h.note notes hs⟩

theorem follows_ask {fallback fallback' : Text → Act α} {id : Text}
    (hf : Follows faults bond (fallback id) (fallback' id) post) :
    Follows faults bond (Act.ask fallback id) (Act.ask fallback' id) post := fun _ _ hs => hf _ _ (h.ask id hs)

theorem follows_ofExcept (x : Except Fault α) :
    Follows faults bond (Act.ofExcept x) (Act.ofExcept x) fun _ => bond := by
  intro s t hs
  cases x with
  | ok a => exact ⟨t, rfl, hs⟩
  | error fault => exact fun kept hk => ⟨t, rfl, h.kept kept hk s t hs⟩

end Lasting

/-! ### What work keeps -/

/-- What holds of the session before some work holds of the session after it, however the work ends. -/
def Keeps (inv : Session → Prop) (act : Act α) : Prop := ∀ s, inv s → inv (act.outcome s).2

theorem keeps_ofExcept {inv : Session → Prop} (x : Except Fault α) : Keeps inv (ofExcept x) := fun s hs => by
  rw [outcome_ofExcept]
  exact hs

theorem Keeps.bind {inv : Session → Prop} {next : α → Act β} (h : Keeps inv act) (hn : ∀ a, Keeps inv (next a)) :
    Keeps inv (act >>= next) := by
  intro s hs
  have hfirst := h s hs
  rw [outcome_bind]
  rcases ha : act.outcome s with ⟨fault | a, s'⟩
  · rw [ha] at hfirst
    exact hfirst
  · rw [ha] at hfirst
    exact hn a s' hfirst

theorem Keeps.tryCatch {inv : Session → Prop} {handler : Fault → Act α} (h : Keeps inv act)
    (hh : ∀ fault, Keeps inv (handler fault)) : Keeps inv (tryCatch act handler) := by
  intro s hs
  have hfirst := h s hs
  rw [outcome_tryCatch]
  rcases ha : act.outcome s with ⟨fault | a, s'⟩
  · rw [ha] at hfirst
    exact hh fault s' hfirst
  · rw [ha] at hfirst
    exact hfirst

theorem keeps_mapM {inv : Session → Prop} {f : α → Act β} {l : List α} (h : ∀ a ∈ l, Keeps inv (f a)) :
    Keeps inv (l.mapM f) := by
  induction l with
  | nil => exact keeps_ofExcept (.ok [])
  | cons a rest ih =>
    rw [List.mapM_cons]
    refine (h a List.mem_cons_self).bind fun b => ?_
    exact (ih fun x hx => h x (List.mem_cons_of_mem a hx)).bind fun bs => keeps_ofExcept (.ok (b :: bs))

/-- One session, of which something holds, as the session of two runs. -/
def both (inv : Session → Prop) : Bond := fun s t => s = t ∧ inv s

/-- Work keeps what it keeps when it goes beside itself. -/
theorem keeps_iff_follows {inv : Session → Prop} :
    Keeps inv act ↔ Follows (some (both inv)) (both inv) act act fun _ => both inv := by
  constructor
  · rintro h s _ ⟨rfl, hs⟩
    have hafter := h s hs
    rcases ha : act.outcome s with ⟨fault | a, s'⟩
    · rw [ha] at hafter
      intro kept hk
      cases hk
      exact ⟨s', rfl, rfl, hafter⟩
    · rw [ha] at hafter
      exact ⟨s', rfl, rfl, hafter⟩
  · intro h s hs
    have hst := h s s ⟨rfl, hs⟩
    rcases ha : act.outcome s with ⟨fault | a, s'⟩
    · rw [ha] at hst
      obtain ⟨t', -, -, hafter⟩ := hst _ rfl
      exact hafter
    · rw [ha] at hst
      obtain ⟨t', -, -, hafter⟩ := hst
      exact hafter

/-! ### Work that is the same -/

theorem lasting_eq : Lasting (some Eq) Eq where
  note notes h := by rw [h]
  ask id h := by rw [h]
  kept kept hk s t h := by
    cases hk
    exact h

theorem follows_self (act : Act α) : Follows (some Eq) Eq act act fun _ => Eq := by
  rintro s _ rfl
  rcases act.outcome s with ⟨fault | a, s'⟩
  · intro kept hk
    cases hk
    exact ⟨s', rfl, rfl⟩
  · exact ⟨s', rfl, rfl⟩

/-- Work that follows ends in the same result, be it a fault. -/
theorem Follows.result_eq {kept : Bond} (h : Follows (some kept) pre act other fun _ => kept) {s t : Session}
    (hs : pre s t) : (act.outcome s).1 = (other.outcome t).1 ∧ kept (act.outcome s).2 (other.outcome t).2 := by
  have hst := h s t hs
  rcases ha : act.outcome s with ⟨fault | a, s'⟩
  · rw [ha] at hst
    obtain ⟨t', hb, hkept⟩ := hst kept rfl
    rw [hb]
    exact ⟨rfl, hkept⟩
  · rw [ha] at hst
    obtain ⟨t', hb, hkept⟩ := hst
    rw [hb]
    exact ⟨rfl, hkept⟩

/-- Work that follows in everything is the same work. -/
theorem Follows.outcome_eq (h : Follows (some Eq) Eq act other fun _ => Eq) (s : Session) :
    act.outcome s = other.outcome s := Prod.ext (h.result_eq rfl).1 (h.result_eq rfl).2

end ApiDocs.Act
