import ApiDocs.Proofs.Documentation.Methods
import ApiDocs.Proofs.Following

/-! What the documentation of a class depends on: what the source says about the class itself, and which methods its
    parent declares. Nothing else is asked for, so two extractors whose sources answer these questions alike document
    the class alike. This is said for work that goes side by side, since the answers of a source may depend on what it
    was asked before. -/

namespace ApiDocs

namespace Extractor
open Act

/-- What two extractors have to do alike to document a class alike. They begin with sessions related by `start`; once
    the parent of the class was asked for, with an answer that satisfies `answer`, the sessions are related by `bond`.
    -/
structure Alike (faults : Option Bond) (start bond : Bond) (answer : Value → Prop) (target : Text) (e e' : Extractor) :
    Prop where
  reader : e.reader = e'.reader
  lasting : Lasting faults bond
  fallback : ∀ id, Follows faults bond (e.fallback id) (e'.fallback id) fun _ => bond
  first : Follows faults start (e.parent target) (e'.parent target) fun parent s t => answer parent ∧ bond s t
  parent : Follows faults bond (e.parent target) (e'.parent target) fun _ => bond
  comment : Follows faults bond (e.source.comment target) (e'.source.comment target) fun _ => bond
  interfaces : Follows faults bond (e.interfaces target) (e'.interfaces target) fun _ => bond
  declared : Follows faults bond (e.source.methods target) (e'.source.methods target) fun _ => bond
  parents : ∀ parent, answer parent →
    Follows faults bond (e.parentMethods parent) (e'.parentMethods parent) fun _ => bond

namespace Alike
variable {faults : Option Bond} {start bond : Bond} {answer : Value → Prop} {target : Text} {e e' : Extractor}
  (h : Alike faults start bond answer target e e')
include h

theorem read (comment : Value) :
    Follows faults bond (e.reader.read comment) (e'.reader.read comment) fun _ => bond := by
  rw [← h.reader]
  exact (h.lasting.follows_note _).bind fun _ => h.lasting.follows_ofExcept _

theorem detail (method : Method) : Follows faults bond (e.detail method) (e'.detail method) fun _ => bond := by
  refine (h.read method.comment).bind fun docblock => ?_
  split
  · refine (h.lasting.follows_note _).bind fun _ => ?_
    exact (h.lasting.follows_ask (h.fallback method.id)).bind fun _ => follows_pure _
  · exact follows_pure _

theorem collect (methods : List Method) (found : Details) :
    Follows faults bond (e.collect found methods) (e'.collect found methods) fun _ => bond := by
  induction methods generalizing found with
  | nil => exact follows_pure _
  | cons method rest ih =>
    refine (h.detail method).bind fun detail => ?_
    split
    · exact ih _
    · exact h.lasting.follows_ofExcept (.error .notKey)

theorem collectOwn (inherited : Details) (methods : List Method) (found : Details) :
    Follows faults bond (e.collectOwn inherited found methods) (e'.collectOwn inherited found methods)
      fun _ => bond := by
  induction methods generalizing found with
  | nil => exact follows_pure _
  | cons method rest ih =>
    rw [Extractor.collectOwn, Extractor.collectOwn]
    split
    · exact h.lasting.follows_ofExcept (.error .notKey)
    · split
      · exact ih found
      · exact (h.detail method).bind fun detail => ih _

theorem inherited : Follows faults start (e.inherited target) (e'.inherited target) fun _ => bond := by
  refine h.first.bind fun parent => Follows.of_pre fun hanswer => ?_
  split
  · exact follows_pure _
  · refine (h.parents parent hanswer).bind fun methods => (h.collect methods []).bind fun details => ?_
    exact h.lasting.follows_ofExcept _

theorem description : Follows faults bond (e.description target) (e'.description target) fun _ => bond :=
  h.comment.bind fun comment => (h.read comment).bind fun _ => follows_pure _

theorem ownMethods (inherited : Details) :
    Follows faults bond (e.ownMethods inherited target) (e'.ownMethods inherited target) fun _ => bond :=
  h.declared.bind fun methods => h.collectOwn inherited methods []

theorem methods : Follows faults start (e.methods target) (e'.methods target) fun _ => bond :=
  h.inherited.bind fun inherited => h.ownMethods inherited

/-- Extractors that answer alike document alike. -/
theorem extract : Follows faults start (e.extract target) (e'.extract target) fun _ => bond :=
  h.inherited.bind fun inherited => h.description.bind fun _ => h.parent.bind fun _ => h.interfaces.bind fun _ =>
    (h.ownMethods inherited).bind fun _ => follows_pure _

end Alike

/-- What the questions to a source and to a fallback keep, and notes and ids that are asked for do not touch, extraction
    keeps. -/
theorem extract_keeps {inv : Session → Prop} {e : Extractor} (target : Text)
    (hnote : ∀ s notes, inv s → inv { s with log := s.log ++ notes })
    (hask : ∀ s id, inv s → inv { s with asked := s.asked ++ [id] })
    (hfallback : ∀ id, Keeps inv (e.fallback id)) (hmethods : ∀ name, Keeps inv (e.source.methods name))
    (hparent : Keeps inv (e.source.parent target)) (hcomment : Keeps inv (e.source.comment target))
    (hinterfaces : Keeps inv (e.source.interfaces target)) : Keeps inv (e.extract target) := by
  have hbeside : Alike (some (both inv)) (both inv) (both inv) (fun _ => True) target e e := {
    reader := rfl
    lasting := {
      note := by
        rintro s _ notes ⟨rfl, hs⟩
        exact ⟨rfl, hnote s notes hs⟩
      ask := by
        rintro s _ id ⟨rfl, hs⟩
        exact ⟨rfl, hask s id hs⟩
      kept := by
        intro kept hk s t hs
        cases hk
        exact hs }
    fallback := fun id => keeps_iff_follows.mp (hfallback id)
    first := (keeps_iff_follows.mp hparent).with_result fun _ _ _ _ => trivial
    parent := keeps_iff_follows.mp hparent
    comment := keeps_iff_follows.mp hcomment
    interfaces := keeps_iff_follows.mp hinterfaces
    declared := keeps_iff_follows.mp (hmethods target)
    parents := fun parent _ => by
      cases parent with
      | text name => exact keeps_iff_follows.mp (hmethods name)
      | _ => exact keeps_iff_follows.mp (keeps_ofExcept (.error _)) }
  exact keeps_iff_follows.mpr hbeside.extract

/-- Two extractors that cannot be told apart by what they do about a class: each question has the same answer or the
    same fault, after the same ids were asked for and the same notes were taken. -/
structure Indistinct (e e' : Extractor) (target : Text) : Prop where
  description : ∀ s, (e.description target).outcome s = (e'.description target).outcome s
  parent : ∀ s, (e.parent target).outcome s = (e'.parent target).outcome s
  interfaces : ∀ s, (e.interfaces target).outcome s = (e'.interfaces target).outcome s
  methods : ∀ s, (e.methods target).outcome s = (e'.methods target).outcome s
  inherited : ∀ s, (e.inherited target).outcome s = (e'.inherited target).outcome s
  extract : ∀ s, (e.extract target).outcome s = (e'.extract target).outcome s

theorem Alike.indistinct {answer : Value → Prop} {target : Text} {e e' : Extractor}
    (h : Alike (some Eq) Eq Eq answer target e e') : Indistinct e e' target where
  description := h.description.outcome_eq
  parent := h.parent.outcome_eq
  interfaces := h.interfaces.outcome_eq
  methods := h.methods.outcome_eq
  inherited := h.inherited.outcome_eq
  extract := h.extract.outcome_eq

end Extractor

/-! ### Tables -/

namespace ClassTable
open Act

variable {table table' : ClassTable} {target : Text}

/-- Two tables with the same records of a class and of its parent document the class alike. -/
theorem alike_of_lookup (htarget : table.lookup target = table'.lookup target)
    (hparent : ∀ record parent, table.lookup target = some record → record.parent = .text parent →
      table.lookup parent = table'.lookup parent) (reader : Reader) (fallback : Fallback) :
    Extractor.Alike (some Eq) Eq Eq
      (fun parent => ∃ record, table.lookup target = some record ∧ record.parent = parent) target
      ⟨table.source, reader, fallback⟩ ⟨table'.source, reader, fallback⟩ := by
  have hrecord : ∀ name, table.lookup name = table'.lookup name → table'.record name = table.record name := by
    intro name h
    rw [record, record, h]
  have hparents : Follows (some Eq) Eq (table.source.parent target) (table'.source.parent target) fun _ => Eq := by
    simp only [source, hrecord target htarget]
    exact follows_self _
  exact {
    reader := rfl
    lasting := lasting_eq
    fallback := fun id => follows_self _
    first := hparents.with_result fun s parent s' h => outcome_record h
    parent := hparents
    comment := by
      simp only [source, hrecord target htarget]
      exact follows_self _
    interfaces := by
      simp only [Extractor.interfaces, source, hrecord target htarget]
      exact follows_self _
    declared := by
      simp only [source, hrecord target htarget]
      exact follows_self _
    parents := by
      rintro parent ⟨record, hl, hp⟩
      cases parent with
      | text name =>
        simp only [Extractor.parentMethods, source, hrecord name (hparent record name hl hp)]
        exact follows_self _
      | _ => exact follows_self _ }

/-! ### The data of tables -/

/-- The record of a class in the data of a table. -/
def recordIn (data : Value) (name : Text) : Option Value := data.entries?.bind (·.lookup name)

/-- The class that a record names as the parent, if it names one. -/
def parentIn (record : Value) : Option Text :=
  record.entries?.bind fun entries => (Ordered.getD entries "parent" .null).text?

theorem lookup_of_mapM {entries : List (Text × Value)}
    (h : (entries.mapM fun entry => do return (entry.1, ← ClassRecord.ofValue entry.1 entry.2)) = .ok table)
    (name : Text) :
    table.lookup name = (entries.lookup name).bind fun data => (ClassRecord.ofValue name data).toOption := by
  induction entries generalizing table with
  | nil =>
    cases h
    rfl
  | cons entry rest ih =>
    rw [List.mapM_cons] at h
    obtain ⟨made, hmade, h⟩ := bind_eq_ok.mp h
    obtain ⟨record, hrecord, hmade⟩ := bind_eq_ok.mp hmade
    obtain ⟨others, hothers, h⟩ := bind_eq_ok.mp h
    cases hmade
    cases h
    obtain ⟨key, data⟩ := entry
    rw [List.lookup_cons, List.lookup_cons]
    cases hk : name == key with
    | false => exact ih hothers
    | true =>
      obtain rfl := beq_iff_eq.mp hk
      simp [hrecord, Except.toOption]

/-- The record of a class is made from its data alone. -/
theorem lookup_of_ofValue {data : Value} (h : ofValue data = .ok table) (name : Text) :
    table.lookup name = (recordIn data name).bind fun record => (ClassRecord.ofValue name record).toOption := by
  cases data with
  | table entries => exact lookup_of_mapM h name
  | _ => cases h

theorem parentIn_of_ofValue {name : Text} {data : Value} {record : ClassRecord}
    (h : ClassRecord.ofValue name data = .ok record) {parent : Text} (hp : record.parent = .text parent) :
    parentIn data = some parent := by
  cases data with
  | table entries =>
    obtain ⟨elements, -, h⟩ := bind_eq_ok.mp h
    obtain ⟨methods, -, h⟩ := bind_eq_ok.mp h
    obtain ⟨interfaces, -, h⟩ := bind_eq_ok.mp h
    cases h
    exact congrArg Value.text? hp
  | _ => cases h

/-- The documentation of a class depends on its record and on that of the parent that it names. Two tables that have
    these two in common cannot be told apart by what is asked about the class, whatever else they hold. -/
theorem documentation_local (data data' : Value) (table table' : ClassTable) (hmade : ofValue data = .ok table)
    (hmade' : ofValue data' = .ok table') (target : Text) (htarget : recordIn data target = recordIn data' target)
    (hparent : ∀ record parent, recordIn data target = some record → parentIn record = some parent →
      recordIn data parent = recordIn data' parent) (reader : Reader) (fallback : Fallback) :
    Extractor.Indistinct ⟨table.source, reader, fallback⟩ ⟨table'.source, reader, fallback⟩ target := by
  refine (alike_of_lookup ?_ ?_ reader fallback).indistinct
  · rw [lookup_of_ofValue hmade, lookup_of_ofValue hmade', htarget]
  · intro record parent hl hp
    rw [lookup_of_ofValue hmade] at hl
    obtain ⟨raw, hraw, hrecord⟩ := Option.bind_eq_some_iff.mp hl
    have hnamed : parentIn raw = some parent := by
      cases hr : ClassRecord.ofValue target raw with
      | error fault => simp [hr, Except.toOption] at hrecord
      | ok made =>
        rw [hr] at hrecord
        cases hrecord
        exact parentIn_of_ofValue hr hp
    rw [lookup_of_ofValue hmade, lookup_of_ofValue hmade', hparent raw parent hraw hnamed]

/-- A saw is a tool, and a tool is a thing, of which there is more or less to say. The saw says nothing about cutting.
    -/
def shelf (thing : Value) : Value := .table [
  ("Saw", .table [("parent", .text "Tool"), ("methods", .list [.table [("name", .text "cut")]])]),
  ("Tool", .table [("parent", .text "Thing"), ("methods", .list [.table [("name", .text "run")]])]),
  ("Thing", thing)]

theorem documentation_local_shelf :
    ∃ table table', ofValue (shelf (.table [])) = .ok table ∧
      ofValue (shelf (.table [("methods", .list [.table [("name", .text "cut")]])])) = .ok table' ∧
      (table.declared "Thing").length ≠ (table'.declared "Thing").length ∧
      Extractor.Indistinct ⟨table.source, .style .epydoc, linkFallback (.text "https://tools/\x7bid\x7d")⟩
        ⟨table'.source, .style .epydoc, linkFallback (.text "https://tools/\x7bid\x7d")⟩ "Saw" := by
  have hparent : ∀ record parent, recordIn (shelf (.table [])) "Saw" = some record → parentIn record = some parent →
      recordIn (shelf (.table [])) parent =
        recordIn (shelf (.table [("methods", .list [.table [("name", .text "cut")]])])) parent := by
    intro record parent hr hp
    cases hr
    cases hp
    rfl
  have hmade : ∃ table, ofValue (shelf (.table [])) = .ok table ∧ (table.declared "Thing").length = 0 := ⟨_, rfl, rfl⟩
  have hmade' : ∃ table, ofValue (shelf (.table [("methods", .list [.table [("name", .text "cut")]])])) = .ok table ∧
      (table.declared "Thing").length = 1 := ⟨_, rfl, rfl⟩
  obtain ⟨table, h, hnone⟩ := hmade
  obtain ⟨table', h', hone⟩ := hmade'
  exact ⟨table, table', h, h', by rw [hnone, hone]; decide,
    documentation_local _ _ table table' h h' "Saw" rfl hparent _ _⟩

end ClassTable
end ApiDocs
