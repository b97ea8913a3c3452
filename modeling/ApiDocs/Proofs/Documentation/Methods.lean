import ApiDocs.ClassTable
import ApiDocs.Extractor
import ApiDocs.Proofs.Ordered
import ApiDocs.Proofs.Outcome
import ApiDocs.Proofs.Text.Basic

/-! Which methods the documentation of a class has: those of the parent, sorted, and those that only the class declares.
    Of methods that have one name the last counts. -/

namespace ApiDocs

/-! ### Names that are texts -/

namespace Details

/-- Details under names that are texts. -/
def named (entries : List (Text × Detail)) : Details := entries.map fun entry => (.text entry.1, entry.2)

theorem put_named (name : Text) (detail : Detail) (entries : List (Text × Detail)) :
    put (.text name) detail (named entries) = named (Ordered.put name detail entries) := by
  induction entries with
  | nil => rfl
  | cons entry rest ih =>
    have hsame : Value.sameKey (.text entry.1) (.text name) = (entry.1 == name) := rfl
    show Ordered.putBy Value.sameKey _ _ ((.text entry.1, entry.2) :: named rest) = _
    rw [Ordered.putBy, hsame, Ordered.put, Ordered.putBy]
    split
    · rfl
    · exact congrArg ((.text entry.1, entry.2) :: ·) ih

theorem has_named {entries : List (Text × Detail)} {name : Text} :
    (named entries).has (.text name) = true ↔ name ∈ Ordered.keys entries := by
  have hsame (entry : Text × Detail) : Value.sameKey (.text entry.1) (.text name) = (entry.1 == name) := rfl
  simp [has, named, Ordered.keys, hsame]

/-- Whether a name does not come behind another one. -/
def nameLe (a b : Text × Detail) : Bool := !Text.precedes b.1 a.1

theorem nameLe_iff {a b : Text × Detail} : nameLe a b = true ↔ Text.precedes b.1 a.1 = false := by
  simp [nameLe]

/-- Names that are texts can be sorted. -/
theorem sort_named (entries : List (Text × Detail)) :
    sort (named entries) = .ok (named (entries.mergeSort nameLe)) := by
  have hordered : (named entries).areOrdered = true := by
    rcases entries with _ | ⟨first, _ | ⟨second, rest⟩⟩ <;> simp [areOrdered, named, Value.scale?]
  have hdefined : (named entries).any (·.1.isUndefined) = false := by
    simp [named, Value.isUndefined]
  have hmap : named (entries.mergeSort nameLe) = (named entries).mergeSort fun a b => !Value.precedes b.1 a.1 :=
    List.map_mergeSort fun _ _ _ _ => rfl
  rw [sort, hordered, hdefined, hmap]
  rfl

theorem mem_keys_mergeSort {entries : List (Text × Detail)} {name : Text} :
    name ∈ Ordered.keys (entries.mergeSort nameLe) ↔ name ∈ Ordered.keys entries :=
  ((List.mergeSort_perm entries nameLe).map Prod.fst).mem_iff

/-- Names that differ are sorted into increasing order, so that the details never decide. -/
theorem keys_mergeSort {entries : List (Text × Detail)} (h : (Ordered.keys entries).Nodup) :
    (Ordered.keys (entries.mergeSort nameLe)).Pairwise Text.Before := by
  have hsorted : (entries.mergeSort nameLe).Pairwise fun a b => nameLe a b = true := by
    refine List.pairwise_mergeSort ?_ ?_ entries
    · intro a b c hab hbc
      rw [nameLe_iff] at hab hbc ⊢
      rw [← Bool.not_eq_true]
      intro hca
      rcases Text.precedes_or_precedes hca b.1 with hcb | hba
      · rw [hbc] at hcb
        cases hcb
      · rw [hab] at hba
        cases hba
    · intro a b
      rw [Bool.or_eq_true, nameLe_iff, nameLe_iff]
      cases hab : Text.precedes a.1 b.1 with
      | false => exact Or.inr rfl
      | true => exact Or.inl (Text.precedes_asymm hab)
  have hdistinct : (entries.mergeSort nameLe).Pairwise fun a b => a.1 ≠ b.1 :=
    List.pairwise_map.mp (((List.mergeSort_perm entries nameLe).map Prod.fst).nodup_iff.mpr h)
  refine List.pairwise_map.mpr (hsorted.imp₂ ?_ hdistinct)
  intro a b hab hne
  exact Text.precedes_iff.mp (Text.precedes_of_not (nameLe_iff.mp hab) hne)

end Details

namespace Method

/-- The name of a method, where it is a text. -/
def title (method : Method) : Text := method.name.text?.getD []

/-- The last of some methods that has a name. -/
def IsLast (methods : List Method) (name : Text) (method : Method) : Prop :=
  ∃ before after, methods = before ++ method :: after ∧ method.name = .text name ∧
    ∀ later ∈ after, later.name ≠ .text name

theorem name_eq_text {method : Method} (h : ∃ name, method.name = .text name) : method.name = .text method.title := by
  obtain ⟨name, h⟩ := h
  rw [title, h]
  rfl

theorem mem_titles_iff {methods : List Method} (hn : ∀ m ∈ methods, ∃ name, m.name = .text name) {name : Text} :
    name ∈ methods.map title ↔ ∃ m ∈ methods, m.name = .text name := by
  rw [List.mem_map]
  refine exists_congr fun m => and_congr_right fun hm => ?_
  rw [name_eq_text (hn m hm), Value.text.injEq]

end Method

namespace Extractor

variable {e : Extractor} {s t : Session}

/-! ### The details of a method -/

/-- What the details of a method are, in whatever session they are made. -/
def Documents (e : Extractor) (method : Method) (detail : Detail) : Prop :=
  ∀ s, ((e.detail method).outcome s).1 = .ok detail

/-- A fallback whose suggestions do not depend on the session. -/
def SteadyFallback (e : Extractor) : Prop := ∀ id, (e.fallback id).Steady

theorem steadyFallback_link {source : Source} {reader : Reader} (template : Value) :
    SteadyFallback ⟨source, reader, linkFallback template⟩ := fun _ =>
  (Act.steady_ofExcept _).bind fun _ => Act.steady_pure _

theorem detail_steady (h : e.SteadyFallback) (method : Method) : (e.detail method).Steady := by
  have hread : (e.reader.read method.comment).Steady :=
    (Act.steady_note _).bind fun _ => Act.steady_ofExcept _
  refine hread.bind fun docblock => ?_
  split
  · exact (Act.steady_note _).bind fun _ => (Act.steady_ask (h _)).bind fun _ => Act.steady_pure _
  · exact Act.steady_pure _

theorem documents_of_outcome (h : e.SteadyFallback) {method : Method} {detail : Detail}
    (hd : (e.detail method).outcome s = (.ok detail, t)) : e.Documents method detail := fun u => by
  rw [detail_steady h method u s, hd]

/-! ### The details of some methods -/

/-- Methods with their details: the details as they are put into a table. -/
def entriesOf (read : List (Method × Detail)) : List (Text × Detail) := read.map fun r => (r.1.title, r.2)

/-- What is found of some methods: each name once, in the order in which the names first occur, with the details of the
    last method that has it. -/
structure Lists (e : Extractor) (methods : List Method) (entries : List (Text × Detail)) : Prop where
  keys : Ordered.keys entries = (methods.map (·.title)).eraseDups
  distinct : (Ordered.keys entries).Nodup
  last : ∀ entry ∈ entries, ∃ method, Method.IsLast methods entry.1 method ∧ e.Documents method entry.2

theorem Lists.mem_keys_iff {methods : List Method} {entries : List (Text × Detail)} (h : e.Lists methods entries)
    (hn : ∀ m ∈ methods, ∃ name, m.name = .text name) {name : Text} :
    name ∈ Ordered.keys entries ↔ ∃ m ∈ methods, m.name = .text name := by
  rw [h.keys, List.mem_eraseDups, Method.mem_titles_iff hn]

theorem lists_ofList {read : List (Method × Detail)} (hn : ∀ r ∈ read, ∃ name, r.1.name = .text name)
    (hd : ∀ r ∈ read, e.Documents r.1 r.2) : e.Lists (read.map Prod.fst) (Ordered.ofList (entriesOf read)) where
  keys := by
    rw [Ordered.keys_ofList]
    simp [Ordered.keys, entriesOf, Function.comp_def]
  distinct := Ordered.nodup_keys_ofList (entriesOf read)
  last := by
    intro entry hm
    obtain ⟨before, after, hsplit, hlast⟩ := Ordered.mem_ofList hm
    obtain ⟨readBefore, readRest, rfl, rfl, hrest⟩ := List.map_eq_append_iff.mp hsplit
    obtain ⟨r, readAfter, rfl, rfl, rfl⟩ := List.map_eq_cons_iff.mp hrest
    -- The last entry under a name comes from the last method of that name.
    have hr : r ∈ readBefore ++ r :: readAfter := by simp
    refine ⟨r.1, ⟨readBefore.map Prod.fst, readAfter.map Prod.fst, by simp, Method.name_eq_text (hn r hr), ?_⟩, hd r hr⟩
    intro later hl heq
    obtain ⟨r', hr', rfl⟩ := List.mem_map.mp hl
    have htitle : r'.1.title = r.1.title := by simp [Method.title, heq, Value.text?]
    exact hlast (htitle ▸ List.mem_map.mpr ⟨_, List.mem_map_of_mem hr', rfl⟩)

/-- What is known of the details of a method: `made`, if they are made in a session of which `inv` holds. -/
def Makes (e : Extractor) (inv : Session → Prop) (made : Method → Detail → Prop) (method : Method) : Prop :=
  ∀ s detail t, inv s → (e.detail method).outcome s = (.ok detail, t) → made method detail ∧ inv t

theorem makes_documents (h : e.SteadyFallback) (method : Method) : e.Makes (fun _ => True) e.Documents method :=
  fun _ _ _ _ hd => ⟨documents_of_outcome h hd, trivial⟩

section Collect
variable {inv : Session → Prop} {made : Method → Detail → Prop}

/-- What `collect` finds of methods whose names are texts. -/
theorem collect_ok {methods : List Method} (hm : ∀ m ∈ methods, e.Makes inv made m)
    (hn : ∀ m ∈ methods, ∃ name, m.name = .text name) (found : List (Text × Detail)) {details : Details} (hs : inv s)
    (h : (e.collect (.named found) methods).outcome s = (.ok details, t)) :
    inv t ∧ ∃ read, read.map Prod.fst = methods ∧ (∀ r ∈ read, made r.1 r.2) ∧
      details = .named (Ordered.putAll found (entriesOf read)) := by
  induction methods generalizing found s with
  | nil =>
    cases h
    exact ⟨hs, [], rfl, by simp, rfl⟩
  | cons method rest ih =>
    obtain ⟨detail, u, hd, hrest⟩ := Act.outcome_bind_ok.mp h
    obtain ⟨hmade, hu⟩ := hm method List.mem_cons_self s detail u hs hd
    have hname := Method.name_eq_text (hn method List.mem_cons_self)
    rw [hname, Details.put_named] at hrest
    obtain ⟨ht, read, rfl, hread, rfl⟩ := ih (fun m hr => hm m (List.mem_cons_of_mem _ hr))
      (fun m hr => hn m (List.mem_cons_of_mem _ hr)) _ hu hrest
    exact ⟨ht, (method, detail) :: read, rfl, List.forall_mem_cons.mpr ⟨hmade, hread⟩, rfl⟩

/-- Whether a method has a name that none of `entries` has. -/
def isNew (entries : List (Text × Detail)) (method : Method) : Bool := !(Ordered.keys entries).contains method.title

/-- What `collectOwn` finds of methods whose names are texts: the same as `collect` finds of those with new names. -/
theorem collectOwn_ok {methods : List Method} (hm : ∀ m ∈ methods, e.Makes inv made m)
    (hn : ∀ m ∈ methods, ∃ name, m.name = .text name) {inherited : List (Text × Detail)}
    (found : List (Text × Detail)) {details : Details} (hs : inv s)
    (h : (e.collectOwn (.named inherited) (.named found) methods).outcome s = (.ok details, t)) :
    inv t ∧ ∃ read, read.map Prod.fst = methods.filter (isNew inherited) ∧ (∀ r ∈ read, made r.1 r.2) ∧
      details = .named (Ordered.putAll found (entriesOf read)) := by
  induction methods generalizing found s with
  | nil =>
    cases h
    exact ⟨hs, [], rfl, by simp, rfl⟩
  | cons method rest ih =>
    have hname := Method.name_eq_text (hn method List.mem_cons_self)
    have hrestm := fun m hr => hm m (List.mem_cons_of_mem method hr)
    have hrestn := fun m hr => hn m (List.mem_cons_of_mem method hr)
    rw [collectOwn, hname] at h
    by_cases hhas : method.title ∈ Ordered.keys inherited
    · rw [Details.has_named.mpr hhas] at h
      rw [List.filter_cons_of_neg (by simp [isNew, hhas])]
      exact ih hrestm hrestn found hs h
    · have hnot : (Details.named inherited).has (.text method.title) = false := by
        rw [← Bool.not_eq_true, Details.has_named]
        exact hhas
      rw [hnot] at h
      obtain ⟨detail, u, hd, h⟩ := Act.outcome_bind_ok.mp h
      obtain ⟨hmade, hu⟩ := hm method List.mem_cons_self s detail u hs hd
      rw [Details.put_named] at h
      obtain ⟨ht, read, hfst, hread, rfl⟩ := ih hrestm hrestn _ hu h
      rw [List.filter_cons_of_pos (by simp [isNew, hhas]), ← hfst]
      exact ⟨ht, (method, detail) :: read, rfl, List.forall_mem_cons.mpr ⟨hmade, hread⟩, rfl⟩

end Collect

/-- Leaving out names leaves the last method of every other name. -/
theorem isLast_of_filter {entries : List (Text × Detail)} {methods : List Method} {name : Text} {method : Method}
    (h : Method.IsLast (methods.filter (isNew entries)) name method) : Method.IsLast methods name method := by
  obtain ⟨before, after, hsplit, hname, hlast⟩ := h
  obtain ⟨front, back, rfl, -, hback⟩ := List.filter_eq_append_iff.mp hsplit
  obtain ⟨skipped, rest, rfl, -, hnew, rfl⟩ := List.filter_eq_cons_iff.mp hback
  refine ⟨front ++ skipped, rest, by simp, hname, ?_⟩
  -- What is left out depends on the name alone, so none of this name was.
  intro later hl heq
  refine hlast later (List.mem_filter.mpr ⟨hl, ?_⟩) heq
  rw [isNew, Method.title, heq, ← hname]
  exact hnew

end Extractor

/-! ### Tables -/

namespace ClassTable

/-- The names of all methods are texts. -/
def HasTitles (table : ClassTable) : Prop := ∀ entry ∈ table, ∀ m ∈ entry.2.methods, ∃ name, m.name = .text name

/-- The methods that a class declares. -/
def declared (table : ClassTable) (name : Text) : List Method := ((table.lookup name).map (·.methods)).getD []

/-- The methods that the direct parent of a class declares: none without a parent. -/
def parentDeclared (table : ClassTable) (name : Text) : List Method :=
  match (table.lookup name).bind (·.parent.text?) with
  | some parent => table.declared parent
  | none => []

variable {table : ClassTable} {s t : Session}

theorem mem_declared (h : table.HasTitles) (name : Text) (m : Method) (hm : m ∈ table.declared name) :
    ∃ name, m.name = .text name := by
  rw [declared] at hm
  cases hl : table.lookup name with
  | none => simp [hl] at hm
  | some record =>
    obtain ⟨before, after, rfl, -⟩ := List.lookup_eq_some_iff.mp hl
    exact h (name, record) (by simp) m (by simpa [hl] using hm)

theorem mem_parentDeclared (h : table.HasTitles) {name : Text} {m : Method} (hm : m ∈ table.parentDeclared name) :
    ∃ name, m.name = .text name := by
  rw [parentDeclared] at hm
  split at hm
  · exact mem_declared h _ m hm
  · cases hm

/-- A table answers a question about the classes that it has. -/
theorem outcome_record {α : Type} {f : ClassRecord → α} {name : Text} {a : α}
    (h : (Act.ofExcept ((table.record name).map f)).outcome s = (.ok a, t)) :
    ∃ record, table.lookup name = some record ∧ f record = a := by
  rw [Act.outcome_ofExcept, record] at h
  cases hl : table.lookup name with
  | none =>
    rw [hl] at h
    cases h
  | some record =>
    rw [hl] at h
    cases h
    exact ⟨record, rfl, rfl⟩

theorem outcome_methods {name : Text} {methods : List Method}
    (h : (table.source.methods name).outcome s = (.ok methods, t)) : methods = table.declared name := by
  obtain ⟨record, hl, rfl⟩ := outcome_record h
  rw [declared, hl]
  rfl

end ClassTable

namespace Extractor

variable {e : Extractor} {table : ClassTable} {target : Text} {s t : Session}

/-- The inherited methods are those that the parent declares, sorted. -/
theorem inherited_ok (hsource : e.source = table.source) (hf : e.SteadyFallback) (ht : table.HasTitles)
    {details : Details} (h : (e.inherited target).outcome s = (.ok details, t)) :
    ∃ entries, e.Lists (table.parentDeclared target) entries ∧
      details = .named (entries.mergeSort Details.nameLe) := by
  obtain ⟨parent, u, hp, h⟩ := Act.outcome_bind_ok.mp h
  rw [Extractor.parent, hsource] at hp
  obtain ⟨record, hl, rfl⟩ := ClassTable.outcome_record hp
  cases hparent : record.parent with
  | null =>
    have hnone : table.parentDeclared target = [] := by simp [ClassTable.parentDeclared, hl, hparent, Value.text?]
    rw [hparent] at h
    cases h
    rw [hnone]
    exact ⟨[], ⟨by simp [Ordered.keys], List.nodup_nil, by simp⟩, by simp [Details.named]⟩
  | text name =>
    have hdeclared : table.parentDeclared target = table.declared name := by
      simp [ClassTable.parentDeclared, hl, hparent, Value.text?]
    rw [hparent] at h
    obtain ⟨methods, v, hm, h⟩ := Act.outcome_bind_ok.mp h
    rw [parentMethods, hsource] at hm
    obtain rfl := ClassTable.outcome_methods hm
    obtain ⟨found, w, hc, h⟩ := Act.outcome_bind_ok.mp h
    have hnames := ClassTable.mem_declared ht name
    obtain ⟨-, read, hfst, hd, rfl⟩ := collect_ok (fun m _ => makes_documents hf m) hnames [] trivial hc
    rw [Act.outcome_ofExcept, Details.sort_named] at h
    cases h
    rw [hdeclared, ← hfst]
    exact ⟨_, lists_ofList (fun r hr => hnames r.1 (hfst ▸ List.mem_map_of_mem hr)) hd, rfl⟩
  | _ =>
    rw [hparent] at h
    cases h

/-- The own methods are those that the class declares under new names. -/
theorem ownMethods_ok (hsource : e.source = table.source) (hf : e.SteadyFallback) (ht : table.HasTitles)
    {inherited : List (Text × Detail)} {details : Details}
    (h : (e.ownMethods (.named inherited) target).outcome s = (.ok details, t)) :
    ∃ entries, e.Lists ((table.declared target).filter (isNew inherited)) entries ∧ details = .named entries := by
  obtain ⟨methods, u, hm, h⟩ := Act.outcome_bind_ok.mp h
  rw [hsource] at hm
  obtain rfl := ClassTable.outcome_methods hm
  have hnames := ClassTable.mem_declared ht target
  obtain ⟨-, read, hfst, hd, rfl⟩ := collectOwn_ok (fun m _ => makes_documents hf m) hnames [] trivial h
  rw [← hfst]
  refine ⟨_, lists_ofList (fun r hr => hnames r.1 ?_) hd, rfl⟩
  exact (List.mem_filter.mp (hfst ▸ List.mem_map_of_mem hr)).1

/-- The names that are left when those of a parent are left out. -/
theorem keys_of_filter {methods parentMethods : List Method} {parents own : List (Text × Detail)}
    (hp : e.Lists parentMethods parents) (h : e.Lists (methods.filter (isNew parents)) own) :
    Ordered.keys own =
      ((methods.map (·.title)).filter fun name => !(parentMethods.map (·.title)).contains name).eraseDups := by
  rw [h.keys, List.filter_map]
  refine congrArg (fun kept : List Method => (kept.map (·.title)).eraseDups) (List.filter_congr fun m _ => ?_)
  rw [isNew, hp.keys, Function.comp_apply, Bool.eq_iff_iff]
  simp

/-- What is found when a class is documented from a table. -/
theorem extract_ok (hsource : e.source = table.source) (hf : e.SteadyFallback) (ht : table.HasTitles)
    {doc : Documentation} (h : (e.extract target).outcome s = (.ok doc, t)) :
    ∃ parents own, e.Lists (table.parentDeclared target) parents ∧
      e.Lists ((table.declared target).filter (isNew parents)) own ∧
      doc.inherited = .named (parents.mergeSort Details.nameLe) ∧ doc.methods = .named own := by
  obtain ⟨inherited, u₁, hinherited, h⟩ := Act.outcome_bind_ok.mp h
  obtain ⟨parents, hparents, rfl⟩ := inherited_ok hsource hf ht hinherited
  obtain ⟨description, u₂, -, h⟩ := Act.outcome_bind_ok.mp h
  obtain ⟨parent, u₃, -, h⟩ := Act.outcome_bind_ok.mp h
  obtain ⟨interfaces, u₄, -, h⟩ := Act.outcome_bind_ok.mp h
  obtain ⟨methods, u₅, hmethods, h⟩ := Act.outcome_bind_ok.mp h
  obtain ⟨own, hown, rfl⟩ := ownMethods_ok hsource hf ht hmethods
  have hnew : isNew (parents.mergeSort Details.nameLe) = isNew parents := by
    funext m
    rw [isNew, isNew, Bool.eq_iff_iff]
    simp [Details.mem_keys_mergeSort]
  rw [hnew] at hown
  cases h
  exact ⟨parents, own, hparents, hown, rfl, rfl⟩

/-- How the methods of a class and of its parent are divided. The inherited ones are those that the parent declares, in
    increasing order; the own ones are those that only the class declares, in the order in which it first declares them.
    The details are those of the last method of a name. -/
structure Divides (e : Extractor) (declared parents : List Method) (own inherited : List (Text × Detail)) : Prop where
  increasing : (Ordered.keys inherited).Pairwise Text.Before
  mem_inherited : ∀ name, name ∈ Ordered.keys inherited ↔ ∃ m ∈ parents, m.name = .text name
  last_inherited : ∀ entry ∈ inherited, ∃ m, Method.IsLast parents entry.1 m ∧ e.Documents m entry.2
  keys_own : Ordered.keys own =
    ((declared.map (·.title)).filter fun name => !(parents.map (·.title)).contains name).eraseDups
  distinct_own : (Ordered.keys own).Nodup
  mem_own : ∀ name, name ∈ Ordered.keys own ↔
    (∃ m ∈ declared, m.name = .text name) ∧ ¬∃ m ∈ parents, m.name = .text name
  last_own : ∀ entry ∈ own, ∃ m, Method.IsLast declared entry.1 m ∧ e.Documents m entry.2

/-- Each name that is declared is in exactly one of the two tables. -/
theorem Divides.mem_iff {declared parents : List Method} {own inherited : List (Text × Detail)}
    (h : e.Divides declared parents own inherited) (name : Text) :
    (∃ m ∈ declared ++ parents, m.name = .text name) ↔
      (name ∈ Ordered.keys inherited ∧ name ∉ Ordered.keys own) ∨
        (name ∉ Ordered.keys inherited ∧ name ∈ Ordered.keys own) := by
  simp only [h.mem_inherited, h.mem_own, List.mem_append, or_and_right, exists_or]
  by_cases hp : ∃ m ∈ parents, m.name = .text name <;> simp [hp]

theorem divides_of_lists {declared parents : List Method} (hd : ∀ m ∈ declared, ∃ name, m.name = .text name)
    (hp : ∀ m ∈ parents, ∃ name, m.name = .text name) {own entries : List (Text × Detail)}
    (hentries : e.Lists parents entries) (hown : e.Lists (declared.filter (isNew entries)) own) :
    e.Divides declared parents own (entries.mergeSort Details.nameLe) where
  increasing := Details.keys_mergeSort hentries.distinct
  mem_inherited name := by
    rw [Details.mem_keys_mergeSort]
    exact hentries.mem_keys_iff hp
  last_inherited entry hm := hentries.last entry (List.mem_mergeSort.mp hm)
  keys_own := keys_of_filter hentries hown
  distinct_own := hown.distinct
  mem_own name := by
    rw [keys_of_filter hentries hown, List.mem_eraseDups, List.mem_filter, Method.mem_titles_iff hd,
      ← Method.mem_titles_iff hp]
    simp
  last_own entry hm := by
    obtain ⟨m, hlast, hdoc⟩ := hown.last entry hm
    exact ⟨m, isLast_of_filter hlast, hdoc⟩

/-- The methods of a documented class are divided, and each name that the class or its parent declares is in exactly one
    of the two tables. -/
theorem extract_methods (table : ClassTable) (reader : Reader) (template : Value) (target : Text) (s t : Session)
    (doc : Documentation) (ht : table.HasTitles)
    (h : (extract ⟨table.source, reader, linkFallback template⟩ target).outcome s = (.ok doc, t)) :
    ∃ inherited own : List (Text × Detail), doc.inherited = .named inherited ∧ doc.methods = .named own ∧
      Divides ⟨table.source, reader, linkFallback template⟩ (table.declared target) (table.parentDeclared target)
        own inherited ∧
      ∀ name, (∃ m ∈ table.declared target ++ table.parentDeclared target, m.name = .text name) ↔
        (name ∈ Ordered.keys inherited ∧ name ∉ Ordered.keys own) ∨
          (name ∉ Ordered.keys inherited ∧ name ∈ Ordered.keys own) := by
  obtain ⟨parents, own, hparents, hown, hinherited, hmethods⟩ := extract_ok rfl (steadyFallback_link template) ht h
  have hdivides := divides_of_lists (ClassTable.mem_declared ht target)
    (fun m => ClassTable.mem_parentDeclared ht) hparents hown
  exact ⟨_, own, hinherited, hmethods, hdivides, hdivides.mem_iff⟩

/-- A class that declares a method of its parent and twice one of its own, under a parent that declares a method
    twice. -/
def redeclared : ClassTable :=
  [("Tool", { methods := [
      { name := .text "run", owner := "Tool", comment := .text "Runs." },
      { name := .text "stop", owner := "Tool", comment := .text "Stops." },
      { name := .text "run", owner := "Tool", comment := .text "Spins." }] }),
    ("Saw", { parent := .text "Tool", methods := [
      { name := .text "cut", owner := "Saw", comment := .text "Cuts." },
      { name := .text "run", owner := "Saw", comment := .text "Turns." },
      { name := .text "cut", owner := "Saw", comment := .text "Saws." }] })]

/-- The details of a method whose comment is one line. -/
def summarized (short : Text) : Detail where
  short := some short
  long := some []
  parameters := some []
  returns := some []
  throws := some []
  visibility := some "public"

theorem extract_redeclared :
    (extract ⟨redeclared.source, .style .epydoc, linkFallback .null⟩ "Saw").outcome {} =
      (.ok
        { name := "Saw"
          parent := .text "Tool"
          methods := .named [("cut", summarized "Saws.")]
          inherited := .named [("run", summarized "Spins."), ("stop", summarized "Stops.")] }, {}) := by
  have hsort : Details.sort (.named [("run", summarized "Spins."), ("stop", summarized "Stops.")]) =
      .ok (.named [("run", summarized "Spins."), ("stop", summarized "Stops.")]) := by
    rw [Details.sort_named, List.mergeSort_of_pairwise (by decide)]
  have hinherited : (inherited ⟨redeclared.source, .style .epydoc, linkFallback .null⟩ "Saw").outcome {} =
      (.ok (.named [("run", summarized "Spins."), ("stop", summarized "Stops.")]), {}) := by
    show (Act.ofExcept (Details.sort
      (.named [("run", summarized "Spins."), ("stop", summarized "Stops.")]))).outcome _ = _
    rw [hsort]
    rfl
  rw [extract, Act.outcome_bind, hinherited]
  rfl

theorem extract_methods_redeclared :
    redeclared.HasTitles ∧ ∃ doc t,
      (extract ⟨redeclared.source, .style .epydoc, linkFallback .null⟩ "Saw").outcome {} = (.ok doc, t) ∧
      ∃ inherited own, doc.inherited = .named inherited ∧ doc.methods = .named own ∧
        Divides ⟨redeclared.source, .style .epydoc, linkFallback .null⟩ (redeclared.declared "Saw")
          (redeclared.parentDeclared "Saw") own inherited := by
  have htitles : redeclared.HasTitles := by simp [redeclared, ClassTable.HasTitles]
  obtain ⟨inherited, own, hi, hm, hdivides, -⟩ := extract_methods redeclared _ _ _ _ _ _ htitles extract_redeclared
  exact ⟨htitles, _, _, extract_redeclared, inherited, own, hi, hm, hdivides⟩

end Extractor
end ApiDocs
