import ApiDocs.ClassTable
import ApiDocs.Extractor
import ApiDocs.Proofs.Detached

/-! Several targets, one after the other. What is done about a target of a table does not depend on those before it, so
    the documentation of several targets is put together from what is made of each alone. A target that fails is noted
    and left out, or ends the work. -/

namespace ApiDocs

/-! ### Notes of the reader -/

namespace Docblock

theorem level_readTagged (style : Style) (lead : Text) (chunks : List Text) :
    ∀ note ∈ (readTagged style lead chunks).notes, note.level = .debug := by
  have hpieces : ∀ pieces : List Piece, ∀ note ∈ pieces.filterMap Piece.note?, note.level = .debug := by
    intro pieces note hm
    obtain ⟨piece, -, hnote⟩ := List.mem_filterMap.mp hm
    cases piece with
    | malformed chunk reason =>
      cases hnote
      rfl
    | _ => cases hnote
  have hgathered : ∀ g : Gathered, ∀ note ∈ g.note?.toList, note.level = .debug := by
    intro g note hm
    rw [Gathered.note?] at hm
    split at hm
    · cases hm
    · obtain rfl := List.mem_singleton.mp hm
      rfl
  unfold readTagged
  generalize readPieces style chunks = found
  obtain ⟨pieces, fault⟩ := found
  cases fault with
  | some fault => exact hpieces pieces
  | none =>
    intro note hm
    rcases List.mem_append.mp hm with hm | hm
    · exact hpieces pieces note hm
    · exact hgathered _ note hm

theorem level_readComment (style : Style) (comment : Text) :
    ∀ note ∈ (readComment style comment).notes, note.level = .debug := by
  unfold readComment
  simp only
  split
  · exact nofun
  · split
    · exact nofun
    · split
      · exact nofun
      · exact level_readTagged style _ _

end Docblock

/-- A reader takes no warnings. -/
theorem Reader.level_reading (reader : Reader) (comment : Value) :
    ∀ note ∈ (reader.reading comment).notes, note.level = .debug := by
  unfold reading
  split
  · split
    · split
      · exact Docblock.level_readComment _ _
      · split
        · exact nofun
        · split <;> exact nofun
    · exact nofun
  · exact nofun

namespace Extractor
open Act

/-! ### A target alone -/

variable (e : Extractor)

/-- What becomes of a target in a new session. -/
def alone (target : Text) : Except Fault Documentation := ((e.extract target).outcome {}).1

/-- The notes that are taken about a target. -/
def notesOf (target : Text) : List Note := ((e.extract target).outcome {}).2.log

/-- The ids that are asked for about a target. -/
def idsOf (target : Text) : List Text := ((e.extract target).outcome {}).2.asked

/-- What is noted about a target that fails. -/
def skipped? (target : Text) : Option Note :=
  match e.alone target with
  | .ok _ => none
  | .error fault => some (.warning ("Skipping " ++ target ++ ": " ++ fault.kind ++ ": " ++ fault.describe))

/-- All that is noted about a target when the work goes on. -/
def report (target : Text) : List Note :=
  .debug ("Extracting " ++ target) :: (e.notesOf target ++ (e.skipped? target).toList)

/-- The documentation of those of some targets that do not fail. -/
def found (targets : List Text) : List Documentation := targets.filterMap fun target => (e.alone target).toOption

variable {e}

theorem detail_detached (hf : ∀ id, (e.fallback id).Detached) (method : Method) : (e.detail method).Detached := by
  have hread : (e.reader.read method.comment).Detached :=
    (detached_note (e.reader.level_reading _)).bind fun _ => detached_ofExcept _
  refine hread.bind fun docblock => ?_
  split
  · refine (detached_note (by simp [Note.debug])).bind fun _ => ?_
    exact (detached_ask (hf _)).bind fun _ => detached_pure _
  · exact detached_pure _

theorem collect_detached (hf : ∀ id, (e.fallback id).Detached) (methods : List Method) (found : Details) :
    (e.collect found methods).Detached := by
  induction methods generalizing found with
  | nil => exact detached_pure _
  | cons method rest ih =>
    refine (detail_detached hf method).bind fun detail => ?_
    split
    · exact ih _
    · exact detached_ofExcept (.error _)

theorem collectOwn_detached (hf : ∀ id, (e.fallback id).Detached) (inherited : Details) (methods : List Method)
    (found : Details) : (e.collectOwn inherited found methods).Detached := by
  induction methods generalizing found with
  | nil => exact detached_pure _
  | cons method rest ih =>
    rw [collectOwn]
    split
    · exact detached_ofExcept (.error _)
    · split
      · exact ih found
      · exact (detail_detached hf method).bind fun detail => ih _

section Table
variable (table : ClassTable) (reader : Reader) (template : Value)

theorem linkFallback_detached (id : Text) : (linkFallback template id).Detached :=
  (detached_ofExcept _).bind fun _ => detached_pure _

variable (target : Text)

theorem inherited_detached : (inherited ⟨table.source, reader, linkFallback template⟩ target).Detached := by
  refine Detached.bind (detached_ofExcept _) fun parent => ?_
  split
  · exact detached_pure _
  · refine Detached.bind ?_ fun methods =>
      (collect_detached (linkFallback_detached template) methods []).bind fun _ => detached_ofExcept _
    cases parent with
    | text name => exact detached_ofExcept _
    | _ => exact detached_ofExcept (.error _)

theorem description_detached (fallback : Fallback) : (description ⟨table.source, reader, fallback⟩ target).Detached := by
  refine (detached_ofExcept _).bind fun comment => Detached.bind ?_ fun _ => detached_pure _
  exact (detached_note (reader.level_reading _)).bind fun _ => detached_ofExcept _

theorem ownMethods_detached (inherited : Details) :
    (ownMethods ⟨table.source, reader, linkFallback template⟩ inherited target).Detached :=
  (detached_ofExcept _).bind fun methods => collectOwn_detached (linkFallback_detached template) inherited methods []

/-- A class of a table is documented by itself. -/
theorem extract_detached : (extract ⟨table.source, reader, linkFallback template⟩ target).Detached := by
  refine (inherited_detached table reader template target).bind fun inherited => ?_
  refine (description_detached table reader target _).bind fun description => ?_
  refine Detached.bind (detached_ofExcept _) fun parent => Detached.bind (detached_ofExcept _) fun interfaces => ?_
  exact (ownMethods_detached table reader template target inherited).bind fun _ => detached_pure _

end Table

/-! ### One target after the other -/

/-- What is done about one of several targets. It gives no documentation if the target fails and the work goes on. -/
def attempt (e : Extractor) (keepGoing : Bool) (target : Text) : Act (Option Documentation) := do
  Act.note [.debug ("Extracting " ++ target)]
  tryCatch (some <$> e.extract target) fun fault => do
    if keepGoing then
      Act.note [.warning ("Skipping " ++ target ++ ": " ++ fault.kind ++ ": " ++ fault.describe)]
      return none
    else throw fault

theorem extractAll_cons (keepGoing : Bool) (target : Text) (rest : List Text) :
    e.extractAll keepGoing (target :: rest) =
      (e.attempt keepGoing target >>= fun doc => (doc.toList ++ ·) <$> e.extractAll keepGoing rest) := by
  rw [extractAll, attempt, bind_assoc]
  simp only [map_eq_pure_bind]

theorem outcome_attempt {target : Text} (hd : (e.extract target).Detached) (keepGoing : Bool) (s : Session) :
    (e.attempt keepGoing target).outcome s =
      match e.alone target with
      | .ok doc => (.ok (some doc), s.adding (e.report target) (e.idsOf target))
      | .error fault =>
        if keepGoing then (.ok none, s.adding (e.report target) (e.idsOf target))
        else (.error fault, s.adding (.debug ("Extracting " ++ target) :: e.notesOf target) (e.idsOf target)) := by
  have hextract := hd.outcome_eq (s.adding [.debug ("Extracting " ++ target)] [])
  rw [Session.adding_adding, List.nil_append, List.singleton_append] at hextract
  rw [attempt, outcome_bind, outcome_note]
  simp only
  rw [outcome_tryCatch, outcome_map, hextract]
  unfold report skipped? alone notesOf idsOf
  rcases (e.extract target).outcome {} with ⟨fault | doc, t⟩
  · cases keepGoing with
    | false => rfl
    | true =>
      simp only [Except.map, ↓reduceIte, outcome_bind, outcome_note, Session.adding_adding, List.append_nil]
      rfl
  · simp only [Except.map, Option.toList, List.append_nil]

theorem found_cons (target : Text) (others : List Text) :
    e.found (target :: others) = (e.alone target).toOption.toList ++ e.found others := by
  rw [found, List.filterMap_cons]
  cases (e.alone target).toOption <;> rfl

/-- Targets that do not stop the work are done with one after the other, and then the rest. -/
theorem extractAll_append (hd : ∀ target, (e.extract target).Detached) {keepGoing : Bool} {targets : List Text}
    (h : keepGoing = true ∨ ∀ target ∈ targets, ∃ doc, e.alone target = .ok doc) (rest : List Text) (s : Session) :
    (e.extractAll keepGoing (targets ++ rest)).outcome s =
      ((e.found targets ++ ·) <$> e.extractAll keepGoing rest).outcome
        (s.adding (targets.flatMap e.report) (targets.flatMap e.idsOf)) := by
  induction targets generalizing s with
  | nil =>
    simp only [found, List.filterMap_nil, List.flatMap_nil, List.nil_append, Session.adding_nil, id_map']
  | cons target others ih =>
    have hothers := ih (h.imp_right fun hall other ho => hall other (List.mem_cons_of_mem target ho))
    have hattempt : (e.attempt keepGoing target).outcome s =
        (.ok (e.alone target).toOption, s.adding (e.report target) (e.idsOf target)) := by
      rw [outcome_attempt (hd target)]
      cases halone : e.alone target with
      | ok doc => rfl
      | error fault =>
        rcases h with rfl | hall
        · rfl
        · obtain ⟨doc, hdoc⟩ := hall target List.mem_cons_self
          rw [halone] at hdoc
          cases hdoc
    rw [List.cons_append, extractAll_cons, outcome_bind, hattempt]
    simp only
    rw [outcome_map, hothers, Session.adding_adding, outcome_map, outcome_map, found_cons, List.flatMap_cons,
      List.flatMap_cons]
    generalize (e.extractAll keepGoing rest).outcome _ = ended
    obtain ⟨fault | docs, t⟩ := ended
    · rfl
    · simp only [Except.map, List.append_assoc]

/-- Targets that do not stop the work. -/
theorem extractAll_passes (hd : ∀ target, (e.extract target).Detached) {keepGoing : Bool} {targets : List Text}
    (h : keepGoing = true ∨ ∀ target ∈ targets, ∃ doc, e.alone target = .ok doc) (s : Session) :
    (e.extractAll keepGoing targets).outcome s =
      (.ok (e.found targets), s.adding (targets.flatMap e.report) (targets.flatMap e.idsOf)) := by
  have happend := extractAll_append hd h [] s
  have hnone : ∀ t, (e.extractAll keepGoing []).outcome t = (.ok [], t) := fun _ => rfl
  rw [List.append_nil, outcome_map, hnone] at happend
  rw [happend, Except.map, List.append_nil]

/-- The first target that fails stops the work, if it does not go on. -/
theorem extractAll_stops (hd : ∀ target, (e.extract target).Detached) {before : List Text} {target : Text}
    {fault : Fault}
    (h : ∀ earlier ∈ before, ∃ doc, e.alone earlier = .ok doc) (hfault : e.alone target = .error fault)
    (after : List Text) (s : Session) :
    ∃ notes, (e.extractAll false (before ++ target :: after)).outcome s =
      (.error fault, s.adding notes ((before ++ [target]).flatMap e.idsOf)) := by
  rw [extractAll_append hd (Or.inr h), outcome_map, extractAll_cons, outcome_bind, outcome_attempt (hd target), hfault]
  refine ⟨before.flatMap e.report ++ .debug ("Extracting " ++ target) :: e.notesOf target, ?_⟩
  rw [List.flatMap_append, List.flatMap_singleton, ← Session.adding_adding]
  rfl

/-! ### Warnings -/

theorem visible_append (notes notes' : List Note) :
    Note.visible false (notes ++ notes') = Note.visible false notes ++ Note.visible false notes' :=
  List.filter_append ..

/-- The only warnings are those about targets that fail. -/
theorem visible_reports (hd : ∀ target, (e.extract target).Detached) (targets : List Text) :
    Note.visible false (targets.flatMap e.report) = targets.filterMap e.skipped? := by
  have hreport : ∀ target, Note.visible false (e.report target) = (e.skipped? target).toList := by
    intro target
    have hsteps : Note.visible false (.debug ("Extracting " ++ target) :: e.notesOf target) = [] := by
      refine List.filter_eq_nil_iff.mpr fun note hm => ?_
      rcases List.mem_cons.mp hm with rfl | hm
      · simp [Note.debug]
      · simp [(hd target).level_eq note hm]
    have hskipped : Note.visible false (e.skipped? target).toList = (e.skipped? target).toList := by
      rw [skipped?]
      cases e.alone target <;> rfl
    rw [report, ← List.cons_append, visible_append, hsteps, hskipped, List.nil_append]
  induction targets with
  | nil => rfl
  | cons target rest ih =>
    rw [List.flatMap_cons, visible_append, hreport, ih, List.filterMap_cons]
    cases e.skipped? target <;> rfl

/-- What becomes of several targets of a table. Each of them ends as it does alone. If the work goes on, the result is
    the documentation of those that do not fail, in order, and each that fails has its warning, and there is no other.
    If it does not go on, the result is the same unless a target fails; the first that does ends the work with its
    fault, when nothing was asked for but what that target and those before it ask for. -/
theorem extractAll_keepGoing (table : ClassTable) (reader : Reader) (template : Value) (targets : List Text)
    (s : Session) :
    let e : Extractor := ⟨table.source, reader, linkFallback template⟩
    (∀ target t, ((e.extract target).outcome t).1 = e.alone target ∧
      ((e.extract target).outcome t).2.asked = t.asked ++ e.idsOf target) ∧
    (∃ t, (e.extractAll true targets).outcome s = (.ok (e.found targets), t) ∧
      Note.visible false t.log = Note.visible false s.log ++ targets.filterMap e.skipped?) ∧
    ((∀ target ∈ targets, ∃ doc, e.alone target = .ok doc) →
      (e.extractAll false targets).outcome s = (e.extractAll true targets).outcome s) ∧
    ∀ before target after fault, targets = before ++ target :: after →
      (∀ earlier ∈ before, ∃ doc, e.alone earlier = .ok doc) → e.alone target = .error fault →
      ∃ t, (e.extractAll false targets).outcome s = (.error fault, t) ∧
        t.asked = s.asked ++ (before ++ [target]).flatMap e.idsOf := by
  intro e
  have hd : ∀ target, (e.extract target).Detached := extract_detached table reader template
  refine ⟨fun target t => ?_, ?_, fun hall => ?_, ?_⟩
  · rw [(hd target).outcome_eq t]
    exact ⟨rfl, rfl⟩
  · refine ⟨_, extractAll_passes hd (Or.inl rfl) s, ?_⟩
    rw [Session.adding, visible_append, visible_reports hd]
  · rw [extractAll_passes hd (Or.inl rfl) s, extractAll_passes hd (Or.inr hall) s]
  · rintro before target after fault rfl hbefore hfault
    obtain ⟨notes, hstops⟩ := extractAll_stops hd hbefore hfault after s
    exact ⟨_, hstops, rfl⟩

/-- A class with a method about which nothing is said. -/
def bench : ClassTable := [("Saw", { methods := [{ name := .text "cut", owner := "Saw" }] })]

/-- How the classes of the bench are documented. -/
def benchExtractor : Extractor := ⟨bench.source, .style .epydoc, linkFallback (.text "https://tools/\x7bid\x7d")⟩

/-- One of the targets is not on the bench. -/
theorem extractAll_keepGoing_bench :
    (∃ doc t, (benchExtractor.extractAll true ["Saw", "Axe", "Saw"]).outcome {} = (.ok [doc, doc], t) ∧
      Note.visible false t.log = [.warning "Skipping Axe: UnknownClassError: Axe"]) ∧
    ∃ t, (benchExtractor.extractAll false ["Saw", "Axe", "Saw"]).outcome {} = (.error (.unknownClass "Axe"), t) ∧
      t.asked = ["Saw.cut".toList] := by
  obtain ⟨doc, hsaw⟩ : ∃ doc, benchExtractor.alone "Saw" = .ok doc := isSome_toOption_iff.mp (by decide +kernel)
  have haxe : benchExtractor.alone "Axe" = .error (.unknownClass "Axe") := rfl
  have hfound : benchExtractor.found ["Saw", "Axe", "Saw"] = [doc, doc] := by
    rw [found_cons, found_cons, found_cons, hsaw, haxe]
    rfl
  have hskipped : ["Saw".toList, "Axe".toList, "Saw".toList].filterMap benchExtractor.skipped? =
      [.warning "Skipping Axe: UnknownClassError: Axe"] := by decide +kernel
  have hasked : ["Saw".toList, "Axe".toList].flatMap benchExtractor.idsOf = ["Saw.cut".toList] := by decide +kernel
  obtain ⟨-, ⟨t, hgoing, hwarnings⟩, -, hstops⟩ :=
    extractAll_keepGoing bench (.style .epydoc) (.text "https://tools/\x7bid\x7d") ["Saw", "Axe", "Saw"] {}
  obtain ⟨u, hstopped, hids⟩ := hstops ["Saw"] "Axe" ["Saw"] _ rfl
    (fun earlier he => List.mem_singleton.mp he ▸ ⟨doc, hsaw⟩) haxe
  refine ⟨⟨doc, t, ?_, ?_⟩, u, hstopped, ?_⟩
  · rw [← hfound]
    exact hgoing
  · rw [← hskipped]
    exact hwarnings.trans (List.nil_append _)
  · rw [← hasked]
    exact hids.trans (List.nil_append _)

end Extractor
end ApiDocs
