import ApiDocs.Proofs.Outcome
import ApiDocs.Toml.Reader

/-! What can be wrong with a TOML file. A document is not well formed or has a number with too many digits, and bytes that
    are no document at all are not UTF-8. -/

namespace ApiDocs.Toml

variable {α β : Type}

/-- A reading of a document, which fails only if the document is not well formed or a number is too long. -/
def Misreads (x : Except Fault α) : Prop := ∀ fault, x = .error fault → fault = .tomlForm ∨ fault = .numberTooLong

theorem misreads_ok (a : α) : Misreads (.ok a) := by
  intro fault h
  cases h

theorem misreads_form : Misreads (.error .tomlForm : Except Fault α) := by
  intro fault h
  cases h
  exact Or.inl rfl

theorem misreads_formed (found : Option α) : Misreads (formed found) := by
  cases found with
  | none => exact misreads_form
  | some a => exact misreads_ok a

theorem Misreads.bind {x : Except Fault α} {next : α → Except Fault β} (h : Misreads x) (hn : ∀ a, Misreads (next a)) :
    Misreads (x >>= next) := by
  intro fault hbind
  cases x with
  | error other =>
    cases hbind
    exact h fault rfl
  | ok a => exact hn a fault hbind

theorem Misreads.map {x : Except Fault α} (h : Misreads x) (f : α → β) : Misreads (x.map f) := by
  intro fault hmap
  cases x with
  | error other =>
    cases hmap
    exact h fault rfl
  | ok a => cases hmap

theorem misreads_readShortNumber (s : Text) : Misreads (readShortNumber s) := by
  unfold readShortNumber
  split
  · split
    · intro fault h
      cases h
      exact Or.inr rfl
    · exact misreads_ok _
  · exact misreads_formed _

/-- Values, the items of lists and the members of tables are read from one another, with less fuel. -/
theorem misreads_nested (fuel : Nat) :
    (∀ s, Misreads (readValue fuel s)) ∧ (∀ s, Misreads (readItems fuel s)) ∧
      ∀ entries s, Misreads (readMembers fuel entries s) := by
  induction fuel with
  | zero => exact ⟨fun _ => misreads_form, fun _ => misreads_form, fun _ _ => misreads_form⟩
  | succ fuel ih =>
    obtain ⟨hvalue, hitems, hmembers⟩ := ih
    refine ⟨fun s => ?_, fun s => ?_, fun entries s => ?_⟩
    · unfold readValue
      split
      · exact misreads_formed _
      · exact misreads_formed _
      · exact misreads_ok _
      · exact misreads_ok _
      · exact (hitems _).map _
      · split
        · exact misreads_ok _
        · exact (hmembers _ _).map _
      · split
        · split
          · exact misreads_ok _
          · exact misreads_form
        · exact misreads_readShortNumber s
    · unfold readItems
      refine (misreads_formed _).bind fun inner => ?_
      split
      · exact misreads_ok _
      · refine (hvalue _).bind fun item => (misreads_formed _).bind fun rest => ?_
        split
        · exact misreads_ok _
        · exact (hitems _).bind fun items => misreads_ok _
        · exact misreads_form
    · unfold readMembers
      refine (misreads_formed _).bind ?_
      rintro ⟨key, rest⟩
      simp only
      split
      · refine (hvalue _).bind fun value => (misreads_formed _).bind fun assigned => ?_
        split
        · exact misreads_ok _
        · exact hmembers _ _
        · exact misreads_form
      · exact misreads_form

theorem misreads_readStatement (progress : Progress) (s : Text) : Misreads (readStatement progress s) := by
  unfold readStatement
  split
  · exact misreads_ok _
  · exact misreads_ok _
  · exact misreads_ok _
  · exact misreads_formed _
  · refine (misreads_formed _).bind ?_
    rintro ⟨key, rest⟩
    simp only
    split
    · refine ((misreads_nested _).1 _).bind fun value => (misreads_formed _).bind fun entries => ?_
      exact misreads_ok _
    · exact misreads_form

theorem misreads_readLinesFrom (fuel : Nat) (progress : Progress) (s : Text) :
    Misreads (readLinesFrom fuel progress s) := by
  induction fuel generalizing progress s with
  | zero => exact misreads_form
  | succ fuel ih =>
    unfold readLinesFrom
    refine (misreads_readStatement _ _).bind fun statement => (misreads_formed _).bind fun rest => ?_
    split
    · exact misreads_ok _
    · exact ih _ _
    · exact misreads_form

/-- A file that cannot be read as TOML is not UTF-8, not well formed, or has a number with too many digits. -/
theorem ofBytes_cases (bytes : List UInt8) :
    (∃ entries, ofBytes bytes = .ok entries) ∨ Text.decode bytes = none ∧ ofBytes bytes = .error .encoding ∨
      ofBytes bytes = .error .tomlForm ∨ ofBytes bytes = .error .numberTooLong := by
  rw [ofBytes]
  cases hdecoded : Text.decode bytes with
  | none => exact Or.inr (Or.inl ⟨rfl, rfl⟩)
  | some s =>
    have hparse : Misreads (parse s) := (misreads_readLinesFrom _ _ _).map entryValues
    simp only
    cases hs : parse s with
    | ok entries => exact Or.inl ⟨entries, rfl⟩
    | error fault =>
      rcases hparse fault hs with rfl | rfl
      · exact Or.inr (Or.inr (Or.inl rfl))
      · exact Or.inr (Or.inr (Or.inr rfl))

end ApiDocs.Toml
