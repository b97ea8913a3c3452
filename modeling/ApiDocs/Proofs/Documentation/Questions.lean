import ApiDocs.Proofs.Documentation.Targets

/-! Documenting a class of a table agrees with asking the single questions about it. The documentation finds out once
    which methods are inherited and uses that for the own methods too; the question about the own methods finds it out
    again. Both come to the same, down to the fault that is met first. -/

namespace ApiDocs

/-- The faults of a result. -/
def faultsOf {α : Type} : Except Fault α → List Fault
  | .ok _ => []
  | .error fault => [fault]

/-- What the questions about a class come to. -/
@[ext] structure Answers where
  inherited : Except Fault Details
  description : Except Fault Description
  parent : Except Fault Value
  interfaces : Except Fault (List Value)
  methods : Except Fault Details

/-- The faults of the questions, in the order in which the questions stand. -/
def Answers.faults (a : Answers) : List Fault :=
  faultsOf a.inherited ++ faultsOf a.description ++ faultsOf a.parent ++ faultsOf a.interfaces ++ faultsOf a.methods

namespace Extractor
open Act

/-- The questions about a class, each asked by itself in a session. -/
def answers (e : Extractor) (target : Text) (s : Session) : Answers where
  inherited := ((e.inherited target).outcome s).1
  description := ((e.description target).outcome s).1
  parent := ((e.parent target).outcome s).1
  interfaces := ((e.interfaces target).outcome s).1
  methods := ((e.methods target).outcome s).1

/-- The documentation that answers make, or the first fault. -/
def assemble (target : Text) (a : Answers) : Except Fault Documentation := do
  let inherited ← a.inherited
  let description ← a.description
  let parent ← a.parent
  let interfaces ← a.interfaces
  let methods ← a.methods
  return { name := target, description, parent, interfaces, methods, inherited }

theorem assemble_eq_ok {target : Text} {a : Answers} {doc : Documentation} :
    assemble target a = .ok doc ↔
      a = ⟨.ok doc.inherited, .ok doc.description, .ok doc.parent, .ok doc.interfaces, .ok doc.methods⟩ ∧
        doc.name = target := by
  constructor
  · intro h
    obtain ⟨inherited, hinherited, h⟩ := bind_eq_ok.mp h
    obtain ⟨description, hdescription, h⟩ := bind_eq_ok.mp h
    obtain ⟨parent, hparent, h⟩ := bind_eq_ok.mp h
    obtain ⟨interfaces, hinterfaces, h⟩ := bind_eq_ok.mp h
    obtain ⟨methods, hmethods, h⟩ := bind_eq_ok.mp h
    cases h
    exact ⟨Answers.ext hinherited hdescription hparent hinterfaces hmethods, rfl⟩
  · rintro ⟨rfl, rfl⟩
    rfl

theorem assemble_eq_error {target : Text} {a : Answers} {fault : Fault} :
    assemble target a = .error fault ↔ a.faults.head? = some fault := by
  obtain ⟨inherited, description, parent, interfaces, methods⟩ := a
  rcases inherited with first | inherited
  · simp [assemble, Answers.faults, faultsOf, bind, Except.bind]
  rcases description with first | description
  · simp [assemble, Answers.faults, faultsOf, bind, Except.bind]
  rcases parent with first | parent
  · simp [assemble, Answers.faults, faultsOf, bind, Except.bind]
  rcases interfaces with first | interfaces
  · simp [assemble, Answers.faults, faultsOf, bind, Except.bind]
  rcases methods with first | methods <;> simp [assemble, Answers.faults, faultsOf, bind, Except.bind, pure, Except.pure]

theorem exists_assemble_ok_iff {target : Text} {a : Answers} : (∃ doc, assemble target a = .ok doc) ↔ a.faults = [] := by
  rw [← List.head?_eq_none_iff]
  cases hmade : assemble target a with
  | error fault => simp [assemble_eq_error.mp hmade]
  | ok doc =>
    obtain ⟨rfl, -⟩ := assemble_eq_ok.mp hmade
    simp [Answers.faults, faultsOf]

section Table
variable (table : ClassTable) (reader : Reader) (template : Value) (target : Text)

/-- The questions have the same answers in every session. -/
theorem answers_steady (s t : Session) :
    answers ⟨table.source, reader, linkFallback template⟩ target s =
      answers ⟨table.source, reader, linkFallback template⟩ target t := by
  have hinherited := inherited_detached table reader template target
  refine Answers.ext (hinherited.steady s t) ((description_detached table reader target _).steady s t)
    (steady_ofExcept _ s t) (steady_ofExcept _ s t) ?_
  exact (hinherited.bind (ownMethods_detached table reader template target)).steady s t

/-- The documentation is assembled from the answers. -/
theorem extract_eq_assemble (s : Session) :
    ((extract ⟨table.source, reader, linkFallback template⟩ target).outcome s).1 =
      assemble target (answers ⟨table.source, reader, linkFallback template⟩ target s) := by
  have hown := fun inherited => (ownMethods_detached table reader template target inherited).steady
  have hdescription := (description_detached table reader target (linkFallback template)).steady
  have hparent : (parent ⟨table.source, reader, linkFallback template⟩ target).Steady := steady_ofExcept _
  have hinterfaces : (interfaces ⟨table.source, reader, linkFallback template⟩ target).Steady := steady_ofExcept _
  rw [extract, result_bind fun inherited => hdescription.bind fun _ => hparent.bind fun _ => hinterfaces.bind fun _ =>
    (hown inherited).bind fun _ => steady_pure _]
  have hmethods := result_bind hown (inherited ⟨table.source, reader, linkFallback template⟩ target) s
  unfold assemble answers methods
  rw [hmethods]
  cases ((inherited ⟨table.source, reader, linkFallback template⟩ target).outcome s).1 with
  | error fault => rfl
  | ok inherited =>
    -- From here on the own methods are looked for among the same inherited ones on both sides.
    show ((description _ target >>= _).outcome s).1 = (((description _ target).outcome s).1 >>= _)
    rw [result_bind fun _ => hparent.bind fun _ => hinterfaces.bind fun _ => (hown inherited).bind fun _ => steady_pure _]
    refine bind_congr fun description => ?_
    rw [result_bind fun _ => hinterfaces.bind fun _ => (hown inherited).bind fun _ => steady_pure _]
    refine bind_congr fun parent => ?_
    rw [result_bind fun _ => (hown inherited).bind fun _ => steady_pure _]
    refine bind_congr fun interfaces => ?_
    exact result_bind (fun _ => steady_pure _) _ s

/-- Documenting a class of a table agrees with asking about it. The answers do not depend on what was asked before; the
    class can be documented exactly if there is an answer to each question, and its documentation then consists of
    them; and if it cannot, the fault is the first that a question meets. -/
theorem extract_answers (s : Session) :
    let e : Extractor := ⟨table.source, reader, linkFallback template⟩
    (∀ t, e.answers target t = e.answers target s) ∧
    ((∃ doc, ((e.extract target).outcome s).1 = .ok doc) ↔ (e.answers target s).faults = []) ∧
    (∀ doc, ((e.extract target).outcome s).1 = .ok doc ↔
      e.answers target s = ⟨.ok doc.inherited, .ok doc.description, .ok doc.parent, .ok doc.interfaces, .ok doc.methods⟩ ∧
        doc.name = target) ∧
    (∀ fault, ((e.extract target).outcome s).1 = .error fault ↔ (e.answers target s).faults.head? = some fault) := by
  intro e
  refine ⟨fun t => answers_steady table reader template target t s, ?_, fun doc => ?_, fun fault => ?_⟩
  · rw [extract_eq_assemble]
    exact exists_assemble_ok_iff
  · rw [extract_eq_assemble, assemble_eq_ok]
  · rw [extract_eq_assemble, assemble_eq_error]

end Table
end Extractor
end ApiDocs
