import ApiDocs.Proofs.Link.Filling
import ApiDocs.Proofs.Live.Answers
import ApiDocs.Proofs.Live.Attributes

/-! What a live source has reported can be documented. The class is found at the first question, and its parent is made
    known before its methods are asked for. The names that become known in between may come to lead to other classes,
    but a name that is known stays known. The id of a method leads back to its class, which gives something out under
    the name of the method. -/

namespace ApiDocs

/-! ### Work that returns -/

namespace Act
variable {α β : Type} {known middle later : Registry}

/-- Work that ends well where the names of one registry are known, and leaves those of another. -/
def Returns (known later : Registry) (act : Act α) : Prop :=
  ∀ s, s.registry = known → ∃ a t, act.outcome s = (.ok a, t) ∧ t.registry = later

theorem returns_pure (a : α) : Returns known known (pure a) := fun s hs => ⟨a, s, rfl, hs⟩

theorem returns_note (notes : List Note) : Returns known known (note notes) := fun _ hs => ⟨(), _, rfl, hs⟩

theorem returns_ask {fallback : Text → Act α} {id : Text} (h : Returns known later (fallback id)) :
    Returns known later (ask fallback id) := fun _ hs => h _ hs

theorem returns_ofExcept {x : Except Fault α} (h : ∃ a, x = .ok a) : Returns known known (ofExcept x) := by
  obtain ⟨a, rfl⟩ := h
  exact returns_pure a

theorem Returns.bind {act : Act α} {next : α → Act β} (h : Returns known middle act)
    (hn : ∀ a, Returns middle later (next a)) : Returns known later (act >>= next) := by
  intro s hs
  obtain ⟨a, t, ha, ht⟩ := h s hs
  obtain ⟨b, u, hb, hu⟩ := hn a t ht
  exact ⟨b, u, outcome_bind_ok.mpr ⟨a, t, ha, hb⟩, hu⟩

end Act

/-! ### Extraction step by step -/

/-- A comment that a reader can read. -/
def Reader.Reads (reader : Reader) (comment : Value) : Prop :=
  ∃ docblock, (reader.reading comment).outcome = .ok docblock

namespace Extractor
open Act

variable {e : Extractor} {known : Registry}

theorem read_returns {reader : Reader} {comment : Value} (h : reader.Reads comment) :
    Returns known known (reader.read comment) := (returns_note _).bind fun _ => returns_ofExcept h

theorem detail_returns {m : Method} (hread : e.reader.Reads m.comment)
    (hfallback : Returns known known (e.fallback m.id)) : Returns known known (e.detail m) := by
  refine (read_returns hread).bind fun docblock => ?_
  split
  · exact (returns_note _).bind fun _ => (returns_ask hfallback).bind fun _ => returns_pure _
  · exact returns_pure _

theorem collect_returns {methods : List Method} (hkeys : ∀ m ∈ methods, m.name.isKey = true)
    (h : ∀ m ∈ methods, Returns known known (e.detail m)) (found : Details) :
    Returns known known (e.collect found methods) := by
  induction methods generalizing found with
  | nil => exact returns_pure _
  | cons method rest ih =>
    refine (h method List.mem_cons_self).bind fun detail => ?_
    rw [if_pos (hkeys method List.mem_cons_self)]
    exact ih (fun m hm => hkeys m (List.mem_cons_of_mem _ hm)) (fun m hm => h m (List.mem_cons_of_mem _ hm)) _

/-- What is found of methods has the names of the methods. -/
theorem has_of_collect {methods : List Method} (hn : ∀ m ∈ methods, ∃ name, m.name = .text name) {details : Details}
    {s t : Session} (h : (e.collect [] methods).outcome s = (.ok details, t)) :
    ∃ entries, details = .named entries ∧ ∀ title,
      (Details.named entries).has (.text title) = methods.any fun other => Value.sameKey other.name (.text title) := by
  have hmakes : ∀ m ∈ methods, e.Makes (fun _ => True) (fun _ _ => True) m := fun _ _ _ _ _ _ _ => ⟨trivial, trivial⟩
  obtain ⟨-, read, rfl, -, rfl⟩ := collect_ok hmakes hn [] trivial h
  refine ⟨_, rfl, fun title => ?_⟩
  have hkeys : Ordered.keys (entriesOf read) = (read.map Prod.fst).map (·.title) := by simp [Ordered.keys, entriesOf]
  rw [Bool.eq_iff_iff, Details.has_named, ← Ordered.ofList_eq, Ordered.keys_ofList, List.mem_eraseDups, hkeys,
    Method.mem_titles_iff hn, List.any_eq_true]
  refine exists_congr fun m => and_congr_right fun hm => ?_
  obtain ⟨name, hname⟩ := hn m hm
  rw [hname]
  simp [Value.sameKey]

theorem collectOwn_returns {inherited : Details} {methods : List Method}
    (hkeys : ∀ m ∈ methods, m.name.isKey = true)
    (h : ∀ m ∈ methods, inherited.has m.name = false → Returns known known (e.detail m)) (found : Details) :
    Returns known known (e.collectOwn inherited found methods) := by
  induction methods generalizing found with
  | nil => exact returns_pure _
  | cons method rest ih =>
    have hrest := ih (fun m hm => hkeys m (List.mem_cons_of_mem _ hm)) fun m hm => h m (List.mem_cons_of_mem _ hm)
    rw [collectOwn, hkeys method List.mem_cons_self]
    cases hhas : inherited.has method.name with
    | true => exact hrest found
    | false => exact (h method List.mem_cons_self hhas).bind fun detail => hrest _

end Extractor

/-! ### Links for every id -/

namespace Link

/-- A path that is the name of a field. -/
def isName (path : Text) : Bool :=
  path.all (fun c => !endsName c) && numeral path == .none && (Ordered.keys (fields [])).contains path

/-- A part of a template that is filled in whatever the id is: a character, or a field as it is written. -/
def Segment.isPlain : Segment → Bool
  | .char _ => true
  | .field f => isName f.path && f.conversion.isNone && f.slot.isEmpty
  | .broken => false

theorem valueOf_name {path : Text} (h : isName path = true) (template id : Text) :
    ∃ value, valueOf template (fields id) path = .ok (.text value) := by
  simp only [isName, Bool.and_eq_true, beq_iff_eq, List.contains_iff_mem] at h
  obtain ⟨⟨hall, hnumeral⟩, hkey⟩ := h
  have hne : path ≠ [] := by
    rintro rfl
    revert hkey
    decide
  have hkey' : path ∈ Ordered.keys (fields id) := hkey
  rw [valueOf_whole (List.all_eq_true.mp hall) hnumeral hne]
  cases hl : (fields id).lookup path with
  | none => exact absurd hkey' (Ordered.lookup_eq_none_iff.mp hl)
  | some value => exact ⟨value, rfl⟩

/-- A template of plain parts makes a link for every id. -/
theorem exists_fill {template : Text} (h : (segments template).all Segment.isPlain = true) (id : Text) :
    ∃ link, fill template id = .ok link := by
  refine exists_map_ok.mpr (exists_mapM_ok fun segment hm => ?_)
  have hplain := List.all_eq_true.mp h segment hm
  cases segment with
  | char c => exact ⟨[c], rfl⟩
  | broken => cases hplain
  | field field =>
    obtain ⟨path, conversion, slot⟩ := field
    simp only [Segment.isPlain, Bool.and_eq_true, Option.isNone_iff_eq_none, List.isEmpty_iff] at hplain
    obtain ⟨⟨hname, rfl⟩, rfl⟩ := hplain
    obtain ⟨value, hvalue⟩ := valueOf_name hname template id
    exact ⟨_, bind_eq_ok.mpr ⟨_, hvalue, rfl⟩⟩

/-- A template that makes a link for every id. -/
def LinksAll (template : Value) : Prop := ∀ id, ∃ link, linkFor template id = .ok link

theorem linksAll_standard : LinksAll (.text standardTemplate) := by
  have hplain : (segments standardTemplate).all Segment.isPlain = true := by decide +kernel
  exact exists_fill hplain

end Link

/-! ### Comments that are read -/

/-- The methods of what a source has named as the parent, if it has named one. -/
def Source.methodsOf (source : Source) : Value → Act (List Method)
  | .text parent => source.methods parent
  | _ => pure []

/-- The comments that are read when a class is documented: its own, those of the methods of its parent, and those of its
    methods that the parent does not have. The source is asked what extraction asks, in the same order. -/
def Source.comments (source : Source) (target : Text) : Act (List Value) := do
  let inherited ← source.methodsOf (← source.parent target)
  let comment ← source.comment target
  let _ ← source.parent target
  let _ ← source.interfaces target
  let own := (← source.methods target).filter fun m => !inherited.any fun other => Value.sameKey other.name m.name
  return comment :: (inherited ++ own).map (·.comment)

namespace Live.World
open Act

variable {world : World}

/-! ### Methods of live classes -/

/-- No member of a class has a dot in its name. -/
def PlainNames (world : World) : Prop := ∀ c ∈ world.classes, ∀ entry ∈ c.members, '.' ∉ entry.1

theorem isKey_of_mem_methods {name : Text} {id : ClassId} {m : Method} (h : m ∈ (world.recordAt name id).methods) :
    m.name.isKey = true := by
  obtain ⟨title, hname⟩ := text_of_mem_methods h
  rw [hname]
  rfl

section Known
variable {known : Registry} {name : Text} {id : ClassId} (hl : known.lookup name = some id)
include hl

/-- The id of a method is split into its class, which is known, and its name. -/
theorem resolveMethod_returns {title : Text} (hdot : '.' ∉ title)
    (hfound : (world.attribute? (.cls id) title).isSome = true) :
    Returns known known (world.resolveMethod (name ++ "." ++ title)) := by
  intro s hs
  obtain ⟨object, hobject⟩ := Option.isSome_iff_exists.mp hfound
  refine ⟨object, s, ?_, hs⟩
  rw [resolveMethod, Link.splitLast_id name hdot]
  refine outcome_bind_ok.mpr ⟨id, s, resolve_known (hs ▸ hl), ?_⟩
  simp only [hobject]
  rfl

theorem fallback_returns (hregular : world.Regular) (hnames : world.PlainNames) {template : Value}
    (hlinks : Link.LinksAll template) {m : Method} (hm : m ∈ (world.recordAt name id).methods) :
    Returns known known (world.fallback template m.id) := by
  obtain ⟨c, title, member, hc, hentry, hpublic, hname, rfl⟩ := of_mem_methods hm
  have hid : m.id = m.owner ++ "." ++ title := by rw [Method.id, hname]; rfl
  have hresolve := resolveMethod_returns hl (hnames c (List.mem_of_getElem? hc) _ hentry)
    (hregular.isSome_attribute? hc hentry hpublic)
  rw [hid]
  exact hresolve.bind fun _ => (returns_note _).bind fun _ => (returns_ofExcept (hlinks _)).bind fun _ => returns_pure _

theorem description_returns {reader : Reader} (fallback : Fallback)
    (hread : reader.Reads (world.recordAt name id).comment) :
    Returns known known (Extractor.description ⟨world.source, reader, fallback⟩ name) := by
  intro s hs
  obtain ⟨docblock, t, hdocblock, ht⟩ := Extractor.read_returns hread s hs
  have hcomment : (world.comment name).outcome s = (.ok (world.recordAt name id).comment, s) :=
    outcome_comment (resolve_known (hs ▸ hl))
  exact ⟨_, t, outcome_bind_ok.mpr ⟨_, s, hcomment, outcome_bind_ok.mpr ⟨docblock, t, hdocblock, rfl⟩⟩, ht⟩

theorem parent_returns : Returns known (world.withAll (world.parentId? id).toList known) (world.parent name) := by
  rintro s rfl
  exact ⟨_, _, outcome_parent (resolve_known hl), rfl⟩

theorem interfaces_returns : Returns known (world.withAll (world.interfaceIds id) known) (world.interfaces name) := by
  rintro s rfl
  exact ⟨_, _, outcome_interfaces (resolve_known hl), rfl⟩

theorem ownMethods_returns {reader : Reader} {fallback : Fallback} {inherited : Details}
    (hdetail : ∀ m ∈ (world.recordAt name id).methods, inherited.has m.name = false →
      Returns known known (Extractor.detail ⟨world.source, reader, fallback⟩ m)) :
    Returns known known (Extractor.ownMethods ⟨world.source, reader, fallback⟩ inherited name) := by
  intro s hs
  obtain ⟨details, t, hown, ht⟩ := Extractor.collectOwn_returns (fun m hm => isKey_of_mem_methods hm) hdetail [] s hs
  exact ⟨details, t, outcome_bind_ok.mpr ⟨_, s, outcome_methods (resolve_known (hs ▸ hl)), hown⟩, ht⟩

end Known

/-! ### Documenting a class that is found -/

/-- The comments that are read when the class of a name is documented. With each question the name may lead to another
    class. -/
def commentsAt (world : World) (target : Text) (id : ClassId) : List Value :=
  let own := (world.recordAt target (world.course target id).declaring).methods.filter fun m =>
    !(world.parentMethods id).any fun other => Value.sameKey other.name m.name
  (world.recordAt target (world.course target id).described).comment :: (world.parentMethods id ++ own).map (·.comment)

/-- A method of the parent is one of a class that becomes known with the parent. -/
theorem of_mem_parentMethods {id : ClassId} {m : Method} (h : m ∈ world.parentMethods id) (known : Registry) :
    ∃ base, m ∈ (world.recordAt (world.nameOf base) base).methods ∧
      (world.withAll (world.parentId? id).toList known).lookup (world.nameOf base) = some base := by
  rw [parentMethods] at h
  cases hp : world.parentId? id with
  | none => simp [hp] at h
  | some base =>
    rw [hp] at h
    exact ⟨base, h, hp ▸ lookup_parent hp known⟩

section Resolved
variable {target : Text} {s u : Session} {id : ClassId} (hresolve : (world.resolve target).outcome s = (.ok id, u))
include hresolve

theorem outcome_comments : ∃ t, (world.source.comments target).outcome s = (.ok (world.commentsAt target id), t) := by
  have hinherited : (world.source.methodsOf (world.parentName id)).outcome
      { u with registry := world.withAll (world.parentId? id).toList u.registry } =
      (.ok (world.parentMethods id),
        { u with registry := world.withAll (world.parentId? id).toList u.registry }) := by
    cases hp : world.parentId? id with
    | none =>
      rw [parentName, parentMethods, hp]
      rfl
    | some base =>
      rw [parentName, parentMethods_of_parentId? hp, hp]
      exact outcome_methods (resolve_known (hp ▸ lookup_parent hp u.registry))
  have hdescribed := world.lookup_described (lookup_resolved hresolve)
  have hlisted := lookup_listed hdescribed
  have hdeclaring := lookup_declaring hlisted
  exact ⟨_, outcome_bind_ok.mpr ⟨_, _, outcome_parent hresolve, outcome_bind_ok.mpr ⟨_, _, hinherited,
    outcome_bind_ok.mpr ⟨_, _, outcome_comment (resolve_known hdescribed),
    outcome_bind_ok.mpr ⟨_, _, outcome_parent (resolve_known hdescribed),
    outcome_bind_ok.mpr ⟨_, _, outcome_interfaces (resolve_known hlisted),
    outcome_bind_ok.mpr ⟨_, _, outcome_methods (resolve_known hdeclaring), rfl⟩⟩⟩⟩⟩⟩⟩

/-- The methods of the parent are found, since the parent has just been made known. -/
theorem inherited_returns {reader : Reader} {fallback : Fallback} {known : Registry}
    (hknown : known = world.withAll (world.parentId? id).toList u.registry)
    (hd : ∀ m ∈ world.parentMethods id, Returns known known (Extractor.detail ⟨world.source, reader, fallback⟩ m)) :
    ∃ entries v, (Extractor.inherited ⟨world.source, reader, fallback⟩ target).outcome s = (.ok (.named entries), v) ∧
      v.registry = known ∧ ∀ title, (Details.named entries).has (.text title) =
        (world.parentMethods id).any fun other => Value.sameKey other.name (.text title) := by
  have hparent := outcome_parent hresolve
  rw [← hknown] at hparent
  cases hp : world.parentId? id with
  | none =>
    refine ⟨[], { u with registry := known }, outcome_bind_ok.mpr ⟨_, _, hparent, ?_⟩, rfl, ?_⟩
    · rw [parentName, hp]
      rfl
    · simp [parentMethods, hp, Details.has, Details.named]
  | some base =>
    have hbase : known.lookup (world.nameOf base) = some base := hknown ▸ lookup_parent hp u.registry
    rw [parentMethods_of_parentId? hp] at hd ⊢
    obtain ⟨details, v, hcollect, hv⟩ := Extractor.collect_returns (fun m hm => isKey_of_mem_methods hm) hd []
      { u with registry := known } rfl
    obtain ⟨entries, rfl, hhas⟩ := Extractor.has_of_collect (fun m hm => text_of_mem_methods hm) hcollect
    refine ⟨entries.mergeSort Details.nameLe, v, outcome_bind_ok.mpr ⟨_, _, hparent, ?_⟩, hv, fun title => ?_⟩
    · rw [parentName, hp]
      refine outcome_bind_ok.mpr ⟨_, _, outcome_methods (resolve_known hbase), ?_⟩
      refine outcome_bind_ok.mpr ⟨_, _, hcollect, ?_⟩
      rw [outcome_ofExcept, Details.sort_named]
    · rw [← hhas title, Bool.eq_iff_iff, Details.has_named, Details.has_named, Details.mem_keys_mergeSort]

/-- A class that is found is documented, if its comments can be read and the details of known methods can be made. -/
theorem extract_of_resolve {reader : Reader} {fallback : Fallback}
    (hdetail : ∀ {known : Registry} {name : Text} {c : ClassId} {m : Method}, known.lookup name = some c →
      m ∈ (world.recordAt name c).methods → reader.Reads m.comment →
        Returns known known (Extractor.detail ⟨world.source, reader, fallback⟩ m))
    (hreads : ∀ comment ∈ world.commentsAt target id, reader.Reads comment) :
    ∃ doc t, (Extractor.extract ⟨world.source, reader, fallback⟩ target).outcome s = (.ok doc, t) := by
  -- The name stays known from question to question, though not with the same class.
  have hdescribed := world.lookup_described (lookup_resolved hresolve)
  have hlisted := lookup_listed hdescribed
  have hdeclaring := lookup_declaring hlisted
  obtain ⟨entries, v, hinherited, hv, hhas⟩ := inherited_returns hresolve rfl fun m hm => by
    obtain ⟨base, hbase, hl⟩ := of_mem_parentMethods hm u.registry
    exact hdetail hl hbase (hreads _ (List.mem_cons_of_mem _ (List.mem_map_of_mem (List.mem_append_left _ hm))))
  have hmethods := ownMethods_returns hdeclaring fun m hm hnew => by
    obtain ⟨title, hname⟩ := text_of_mem_methods hm
    rw [hname, hhas] at hnew
    refine hdetail hdeclaring hm
      (hreads _ (List.mem_cons_of_mem _ (List.mem_map_of_mem (List.mem_append_right _ ?_))))
    exact List.mem_filter.mpr ⟨hm, by rw [hname, hnew]; rfl⟩
  have hrest := (description_returns hdescribed fallback (hreads _ List.mem_cons_self)).bind fun description =>
    (parent_returns hdescribed).bind fun parent => (interfaces_returns hlisted).bind fun interfaces =>
      hmethods.bind fun methods =>
        returns_pure (Documentation.mk target description parent interfaces methods (.named entries))
  obtain ⟨doc, t, hdoc, -⟩ := hrest v hv
  exact ⟨doc, t, outcome_bind_ok.mpr ⟨_, v, hinherited, hdoc⟩⟩

end Resolved

theorem resolve_of_extract {e : Extractor} (he : e.source = world.source) {target : Text} {s t : Session}
    {doc : Documentation} (h : (e.extract target).outcome s = (.ok doc, t)) :
    ∃ id u, (world.resolve target).outcome s = (.ok id, u) := by
  obtain ⟨inherited, _, hinherited, -⟩ := outcome_bind_ok.mp h
  obtain ⟨parent, _, hparent, -⟩ := outcome_bind_ok.mp hinherited
  rw [Extractor.parent, he] at hparent
  obtain ⟨id, u, hresolve, -⟩ := outcome_bind_ok.mp hparent
  exact ⟨id, u, hresolve⟩

instance : Decidable world.PlainNames := List.decidableBAll _ _

set_option maxRecDepth 100000 in
theorem attic_plainNames : attic.PlainNames := by decide +kernel

/-- Whether comments were found and can all be read. -/
def readableIn (reader : Reader) : Except Fault (List Value) → Bool
  | .ok comments => comments.all fun comment => (reader.reading comment).outcome.toOption.isSome
  | .error _ => false

theorem of_readableIn {reader : Reader} {act : Act (List Value)} {s : Session}
    (h : readableIn reader (act.outcome s).1 = true) (comments : List Value) (t : Session)
    (hc : act.outcome s = (.ok comments, t)) :
    ∀ comment ∈ comments, reader.Reads comment := by
  rw [hc] at h
  exact fun comment hm => isSome_toOption_iff.mp (List.all_eq_true.mp h comment hm)

set_option maxRecDepth 100000 in
theorem attic_readable :
    readableIn (.style .epydoc) ((attic.source.comments "attic.Lamp").outcome (attic.fresh [])).1 = true := by
  decide +kernel

set_option maxRecDepth 100000 in
theorem attic_resolve_lamp : ((attic.resolve "attic.Lamp").outcome (attic.fresh [])).1.toOption = some 35 := by
  decide +kernel

end Live.World
end ApiDocs
