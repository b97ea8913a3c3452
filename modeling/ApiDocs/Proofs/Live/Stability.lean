import ApiDocs.Proofs.Live.Answers
import ApiDocs.Proofs.Live.Made

/-! What becomes of the names that are known. A question makes its own name known, and parents and interfaces under
    their ids. If such an id is known as another class, the name goes over to the parent or the interface. So a class
    that is made from one of the same id loses its name to it as soon as its parent is asked for, and what is said under
    the name after that is about the other class. -/

namespace ApiDocs.Live.World
open Act

variable {world : World}

/-! ### Names that are kept -/

theorem resolve_retains (world : World) (known : Registry) (name : Text) :
    Keeps (fun s => Retains known s.registry) (world.resolve name) := by
  intro s hs
  rcases world.resolve_cases name s with ⟨id, -, h⟩ | ⟨id, hnew, -, h⟩ | ⟨-, -, fault, h⟩
  · rw [h]
    exact hs
  · rw [h]
    intro other found hl
    -- The name that is written was not known before.
    have hne : other ≠ name := by
      rintro rfl
      rw [hs other found hl] at hnew
      cases hnew
    rw [Ordered.lookup_put_of_ne hne]
    exact hs other found hl
  · rw [h]
    exact hs

theorem note_retains (known : Registry) (notes : List Note) :
    Keeps (fun s => Retains known s.registry) (Act.note notes) := fun _ h => h

theorem fallback_retains (known : Registry) (describer : Describer) (methodId : Text) :
    Keeps (fun s => Retains known s.registry) (describer.fallback world methodId) :=
  fallback_keeps (note_retains known) (world.resolve_retains known) describer methodId

theorem detail_retains (world : World) (known : Registry) (source : Source) (reader : Reader)
    (describer : Describer) (m : Method) :
    Keeps (fun s => Retains known s.registry) (Extractor.detail ⟨source, reader, describer.fallback world⟩ m) := by
  have hask : Keeps (fun s => Retains known s.registry) (Act.ask (describer.fallback world) m.id) :=
    fun _ h => fallback_retains known describer m.id _ h
  have hread : Keeps (fun s => Retains known s.registry) (reader.read m.comment) :=
    (note_retains known _).bind fun _ => keeps_ofExcept _
  refine hread.bind fun docblock => ?_
  split
  · exact (note_retains known _).bind fun _ => hask.bind fun _ => keeps_ofExcept (.ok _)
  · exact keeps_ofExcept (.ok _)

/-! ### Questions -/

/-- What a source of live classes can be asked. -/
inductive Query
  | resolve (name : Text)
  | resolveMethod (methodId : Text)
  | methods (name : Text)
  | parent (name : Text)
  | interfaces (name : Text)
  | comment (name : Text)

namespace Query

/-- The operation of asking. -/
def operation (world : World) : Query → world.Operation
  | .resolve name => .resolve name
  | .resolveMethod methodId => .resolveMethod methodId
  | .methods name => .methods name
  | .parent name => .parent name
  | .interfaces name => .interfaces name
  | .comment name => .comment name

/-- The name of the class that a question is about. -/
def name : Query → Text
  | .resolveMethod methodId => (Link.splitLast methodId).1
  | .resolve name | .methods name | .parent name | .interfaces name | .comment name => name

/-- The classes that a question about a class makes known under their ids. -/
def registers (world : World) (id : ClassId) : Query → List ClassId
  | .parent _ => (world.parentId? id).toList
  | .interfaces _ => world.interfaceIds id
  | _ => []

/-- The session after a question. -/
def after (world : World) (query : Query) (s : Session) : Session := ((query.operation world).run.outcome s).2

/-- The classes that a question makes known in a session: none, if its name leads nowhere. -/
def registered (world : World) (query : Query) (s : Session) : List ClassId :=
  match (world.resolve query.name).outcome s with
  | (.ok id, _) => query.registers world id
  | (.error _, _) => []

theorem outcome_forget {α : Type} (act : Act α) (s : Session) :
    ((do let _ ← act : Act Unit).outcome s).2 = (act.outcome s).2 := by
  rw [outcome_bind]
  rcases act.outcome s with ⟨fault | a, t⟩ <;> rfl

/-- A question that fails because its name leads nowhere makes nothing known. -/
theorem registry_of_error {query : Query} {s u : Session} {fault : Fault}
    (h : (world.resolve query.name).outcome s = (.error fault, u)) : (query.after world s).registry = u.registry := by
  have hfails {α : Type} (next : ClassId → Act α) :
      (do let _ ← (world.resolve query.name >>= next) : Act Unit).outcome s = (.error fault, u) := by
    rw [outcome_bind, outcome_bind, h]
  unfold after
  cases query with
  | resolve name =>
    show ((do let _ ← world.resolve name : Act Unit).outcome s).2.registry = _
    rw [outcome_forget, show (world.resolve name).outcome s = _ from h]
  | resolveMethod methodId => exact congrArg (·.2.registry) (hfails _)
  | methods name => exact congrArg (·.2.registry) (hfails _)
  | parent name => exact congrArg (·.2.registry) (hfails _)
  | interfaces name => exact congrArg (·.2.registry) (hfails _)
  | comment name => exact congrArg (·.2.registry) (hfails _)

/-- A question about a class makes known what it registers. -/
theorem registry_of_ok {query : Query} {s u : Session} {id : ClassId}
    (h : (world.resolve query.name).outcome s = (.ok id, u)) :
    (query.after world s).registry = world.withAll (query.registers world id) u.registry := by
  have hforget {α : Type} {act : Act α} {result : Except Fault α} {t : Session} (ha : act.outcome s = (result, t)) :
      ((do let _ ← act : Act Unit).outcome s).2.registry = t.registry := by
    rw [outcome_forget, ha]
  cases query with
  | resolve name => exact hforget h
  | resolveMethod methodId =>
    have hmethod : ∃ result, (world.resolveMethod methodId).outcome s = (result, u) := by
      rw [World.resolveMethod, outcome_bind, show (world.resolve (Link.splitLast methodId).1).outcome s = _ from h]
      simp only
      split
      · exact ⟨.ok _, rfl⟩
      · exact ⟨.error _, rfl⟩
    obtain ⟨result, hmethod⟩ := hmethod
    exact hforget hmethod
  | methods name => exact hforget (outcome_methods h)
  | parent name => exact hforget (outcome_parent h)
  | interfaces name => exact hforget (outcome_interfaces h)
  | comment name => exact hforget (outcome_comment h)

/-- Where a name that is known leads after a question. -/
theorem lookup_after (query : Query) {s : Session} {name : Text} {id : ClassId} (h : s.registry.lookup name = some id) :
    (query.after world s).registry.lookup name =
      some ((world.lastNamed? (query.registered world s) name).getD id) := by
  have hkept := resolve_retains world s.registry query.name s (.refl _) name id h
  rcases hr : (world.resolve query.name).outcome s with ⟨fault | c, u⟩
  · rw [hr] at hkept
    rw [registry_of_error hr, registered, hr]
    exact hkept
  · rw [hr] at hkept
    rw [registry_of_ok hr, registered, hr]
    exact lookup_withAll_of_known hkept _

theorem retains_iff (query : Query) (s : Session) :
    Retains s.registry (query.after world s).registry ↔
      ∀ name id, s.registry.lookup name = some id →
        ∀ base ∈ world.lastNamed? (query.registered world s) name, base = id := by
  refine forall_congr' fun name => forall_congr' fun id => forall_congr' fun h => ?_
  rw [lookup_after query h, Option.some_inj]
  cases world.lastNamed? (query.registered world s) name with
  | none => simp
  | some base => simp

end Query

/-! ### One extraction -/

/-- Details that were made of some methods while the name of their class led to the class `id`. -/
def Describes (e : Extractor) (id : ClassId) (methods : List Method) (entries : List (Text × Detail)) : Prop :=
  ∃ read, read.map Prod.fst = methods ∧ entries = Ordered.ofList (Extractor.entriesOf read) ∧
    ∀ r ∈ read, ∃ s t, s.registry.lookup r.1.owner = some id ∧ (e.detail r.1).outcome s = (.ok r.2, t)

/-- Which class each part of some documentation is about: the inherited methods are those of the parent of the class
    that the name leads to at first, and the other parts are about the classes of the course. -/
structure Portrays (world : World) (e : Extractor) (target : Text) (id : ClassId) (course : Course)
    (doc : Documentation) : Prop where
  name : doc.name = target
  inherited : match world.parentId? id with
    | none => doc.inherited = []
    | some base => ∃ entries, doc.inherited = .named (entries.mergeSort Details.nameLe) ∧
        Describes e base (world.recordAt (world.nameOf base) base).methods entries
  description : ∃ docblock,
    (e.reader.reading (world.recordAt target course.described).comment).outcome = .ok docblock ∧
      doc.description = ⟨docblock.summary, docblock.description⟩
  parent : doc.parent = world.parentName course.described
  interfaces : doc.interfaces = (world.recordAt target course.listed).interfaces
  methods : ∃ entries, doc.methods = .named entries ∧ Describes e course.declaring
    ((world.recordAt target course.declaring).methods.filter fun m => !doc.inherited.has m.name) entries

section Extraction
variable {reader : Reader} {describer : Describer} {target : Text} {id : ClassId} {s t : Session}

/-- The details of a method are made while the name of its class is kept. -/
theorem makes_details {known : Registry} {m : Method} (hl : known.lookup m.owner = some id) :
    Extractor.Makes ⟨world.source, reader, describer.fallback world⟩ (fun s => Retains known s.registry)
      (fun m detail => ∃ s t, s.registry.lookup m.owner = some id ∧
        (Extractor.detail ⟨world.source, reader, describer.fallback world⟩ m).outcome s = (.ok detail, t)) m := by
  intro s detail t hs hd
  have hkept := detail_retains world known world.source reader describer m s hs
  rw [hd] at hkept
  exact ⟨⟨s, t, hs _ _ hl, hd⟩, hkept⟩

theorem inherited_portrays {inherited : Details}
    (h : (Extractor.inherited ⟨world.source, reader, describer.fallback world⟩ target).outcome s = (.ok inherited, t)) :
    ∃ id u, (world.resolve target).outcome s = (.ok id, u) ∧
      Retains (world.withAll (world.parentId? id).toList u.registry) t.registry ∧
      (∃ entries, inherited = .named entries) ∧
      match world.parentId? id with
      | none => inherited = []
      | some base => ∃ entries, inherited = .named (entries.mergeSort Details.nameLe) ∧
          Describes ⟨world.source, reader, describer.fallback world⟩ base
            (world.recordAt (world.nameOf base) base).methods entries := by
  obtain ⟨parent, v, hparent, h⟩ := outcome_bind_ok.mp h
  obtain ⟨id, u, hresolve, -⟩ := outcome_bind_ok.mp hparent
  cases (outcome_parent hresolve).symm.trans hparent
  refine ⟨id, u, hresolve, ?_⟩
  rw [parentName] at h
  cases hp : world.parentId? id with
  | none =>
    rw [hp] at h
    cases h
    exact ⟨.refl _, ⟨[], rfl⟩, rfl⟩
  | some base =>
    -- The parent is registered under its id just before its methods are asked for by that id.
    have hbase := lookup_parent hp u.registry
    rw [hp] at h hbase
    obtain ⟨methods, w, hmethods, h⟩ := outcome_bind_ok.mp h
    cases (outcome_methods (resolve_known hbase)).symm.trans hmethods
    obtain ⟨details, x, hcollect, h⟩ := outcome_bind_ok.mp h
    obtain ⟨hkept, read, hfst, hread, rfl⟩ := Extractor.collect_ok
      (fun m hm => makes_details ((owner_recordAt hm).symm ▸ hbase)) (fun m hm => text_of_mem_methods hm) [] (.refl _)
      hcollect
    rw [outcome_ofExcept, Details.sort_named] at h
    cases h
    exact ⟨hkept, ⟨_, rfl⟩, _, rfl, read, hfst, rfl, hread⟩

theorem description_portrays {fallback : Fallback} {description : Description}
    (hl : s.registry.lookup target = some id)
    (h : (Extractor.description ⟨world.source, reader, fallback⟩ target).outcome s = (.ok description, t)) :
    t.registry = s.registry ∧ ∃ docblock,
      (reader.reading (world.recordAt target id).comment).outcome = .ok docblock ∧
        description = ⟨docblock.summary, docblock.description⟩ := by
  obtain ⟨comment, u, hcomment, h⟩ := outcome_bind_ok.mp h
  cases (outcome_comment (resolve_known hl)).symm.trans hcomment
  obtain ⟨docblock, v, hread, h⟩ := outcome_bind_ok.mp h
  cases h
  obtain ⟨_, w, hnote, hread⟩ := outcome_bind_ok.mp hread
  cases hnote
  rw [outcome_ofExcept, Prod.mk.injEq] at hread
  obtain ⟨hdocblock, rfl⟩ := hread
  exact ⟨rfl, docblock, hdocblock, rfl⟩

theorem ownMethods_portrays {inherited : List (Text × Detail)} {details : Details}
    (hl : s.registry.lookup target = some id)
    (h : (Extractor.ownMethods ⟨world.source, reader, describer.fallback world⟩ (.named inherited) target).outcome s =
      (.ok details, t)) :
    ∃ entries, details = .named entries ∧ Describes ⟨world.source, reader, describer.fallback world⟩ id
      ((world.recordAt target id).methods.filter fun m => !(Details.named inherited).has m.name) entries := by
  obtain ⟨methods, u, hmethods, h⟩ := outcome_bind_ok.mp h
  cases (outcome_methods (resolve_known hl)).symm.trans hmethods
  obtain ⟨-, read, hfst, hread, rfl⟩ := Extractor.collectOwn_ok
    (fun m hm => makes_details ((owner_recordAt hm).symm ▸ hl)) (fun m hm => text_of_mem_methods hm) [] (.refl _) h
  refine ⟨_, rfl, read, hfst.trans (List.filter_congr fun m hm => ?_), rfl, hread⟩
  rw [Method.name_eq_text (text_of_mem_methods hm), Extractor.isNew, Bool.eq_iff_iff]
  simp [← Details.has_named]

/-- Each part of the documentation of a name is about the class that the name leads to when the part is made. -/
theorem extract_portrays {doc : Documentation}
    (h : (Extractor.extract ⟨world.source, reader, describer.fallback world⟩ target).outcome s = (.ok doc, t)) :
    ∃ id u, (world.resolve target).outcome s = (.ok id, u) ∧
      Portrays world ⟨world.source, reader, describer.fallback world⟩ target id (world.course target id) doc := by
  obtain ⟨inherited, v, hinherited, h⟩ := outcome_bind_ok.mp h
  obtain ⟨id, u, hresolve, hkept, ⟨entries, rfl⟩, hportrayed⟩ := inherited_portrays hinherited
  -- The methods of the parent may have been read through a fallback, which makes names known but takes none away.
  have hdescribed := hkept _ _ (world.lookup_described (lookup_resolved hresolve))
  obtain ⟨description, w, hdescription, h⟩ := outcome_bind_ok.mp h
  obtain ⟨hw, hdocblock⟩ := description_portrays hdescribed hdescription
  rw [← hw] at hdescribed
  have hlisted := lookup_listed hdescribed
  obtain ⟨parent, x, hparent, h⟩ := outcome_bind_ok.mp h
  cases (outcome_parent (resolve_known hdescribed)).symm.trans hparent
  obtain ⟨interfaces, y, hinterfaces, h⟩ := outcome_bind_ok.mp h
  cases (outcome_interfaces (resolve_known hlisted)).symm.trans hinterfaces
  obtain ⟨methods, z, hmethods, h⟩ := outcome_bind_ok.mp h
  have hown := ownMethods_portrays (lookup_declaring hlisted) hmethods
  cases h
  exact ⟨id, u, hresolve, rfl, hportrayed, hdocblock, rfl, rfl, hown⟩

end Extraction

/-! ### All questions -/

/-- A source of the shed that was asked for the parent of saws. -/
def usedShed : Session := shed.after [.parent "shed.Saw"] (shed.fresh [])

/-- How saws are documented. -/
def sawExtractor : Extractor := ⟨shed.source, .style .epydoc, shed.fallback (.text Link.standardTemplate)⟩

set_option maxRecDepth 100000 in
theorem usedShed_saw : usedShed.registry.lookup "shed.Saw".toList = some 36 ∧
    ((sawExtractor.extract "shed.Saw").outcome usedShed).1.toOption.isSome = true := by decide +kernel

/-- A source of the attic that was asked for the comment of lamps. -/
def usedAttic : Session := attic.after [.comment "attic.Lamp"] (attic.fresh [])

/-- How lamps are documented. -/
def lampExtractor : Extractor := ⟨attic.source, .style .epydoc, attic.fallback (.text Link.standardTemplate)⟩

set_option maxRecDepth 100000 in
theorem usedAttic_lamp : usedAttic.registry.lookup "attic.Lamp".toList = some 35 ∧
    ((Query.parent "attic.Lamp").after attic usedAttic).registry.lookup "attic.Lamp".toList = some 34 ∧
    ((lampExtractor.extract "attic.Lamp").outcome usedAttic).1.toOption.map (·.description.short) =
      some "Burns oil.".toList ∧
    (attic.recordAt "attic.Lamp" 35).comment.text? = some "Needs current.".toList := by decide +kernel

end ApiDocs.Live.World
