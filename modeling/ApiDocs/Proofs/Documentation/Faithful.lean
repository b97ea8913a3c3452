import ApiDocs.Documentation.Json
import ApiDocs.Proofs.Documentation.Methods
import ApiDocs.Proofs.Json.Writing

/-! Nothing is lost when documentation is written: its text is a JSON text, and from the value that the text stands for
    the documentation can be told. -/

namespace ApiDocs
open Json (Textual)

/-! ### Data made of texts -/

theorem textual_ofText? (s : Option Text) : Textual (.ofText? s) := by
  cases s with
  | none => exact .null
  | some s => exact .text s

theorem textual_texts (texts : List Text) : Textual (.list (texts.map .text)) := by
  refine .list fun item hi => ?_
  obtain ⟨s, -, rfl⟩ := List.mem_map.mp hi
  exact .text s

theorem textual_listValue {α : Type} {toValue : α → Value} (h : ∀ a, Textual (toValue a)) (items : Option (List α)) :
    Textual (listValue toValue items) := by
  cases items with
  | none => exact .null
  | some items =>
    refine .list fun item hi => ?_
    obtain ⟨a, -, rfl⟩ := List.mem_map.mp hi
    exact h a

theorem Datum.textual (datum : Datum) : Textual datum.toValue := by
  refine .table (by simp [Ordered.keys]) ?_
  simp [Textual.text]

theorem Parameter.textual (parameter : Parameter) : Textual parameter.toValue := by
  refine .table (by simp [Ordered.keys]) ?_
  simp [Textual.text]

theorem Detail.textual (detail : Detail) : Textual detail.toValue := by
  refine .table ?_ ?_
  · cases detail.link <;> simp [Ordered.keys]
  · simp [or_imp, forall_and, Textual.text, textual_ofText?, textual_texts, textual_listValue Datum.textual,
      textual_listValue Parameter.textual]

theorem Details.keys_toValue (entries : List (Text × Detail)) :
    Ordered.keys ((named entries).map fun entry => (memberKey entry.1, entry.2.toValue)) = Ordered.keys entries := by
  simp [Ordered.keys, named, memberKey]

theorem Details.textual {entries : List (Text × Detail)} (h : (Ordered.keys entries).Nodup) :
    Textual (named entries).toValue := by
  refine .table ?_ ?_
  · rwa [keys_toValue]
  · intro member hm
    obtain ⟨entry, -, rfl⟩ := List.mem_map.mp hm
    exact entry.2.textual

namespace Documentation

/-- The parent is a text or absent, the interfaces and the names of the methods are texts, and no name has two
    methods. -/
structure IsTextual (doc : Documentation) : Prop where
  parent : ∃ name, doc.parent = .ofText? name
  interfaces : ∃ names : List Text, doc.interfaces = names.map .text
  methods : ∃ entries, doc.methods = .named entries ∧ (Ordered.keys entries).Nodup
  inherited : ∃ entries, doc.inherited = .named entries ∧ (Ordered.keys entries).Nodup

theorem IsTextual.textual {doc : Documentation} (h : doc.IsTextual) : Textual doc.toValue := by
  obtain ⟨⟨parent, hparent⟩, ⟨interfaces, hinterfaces⟩, ⟨methods, hmethods, hm⟩, ⟨inherited, hinherited, hi⟩⟩ := h
  have hdescription : Textual
      (.table [("short", .text doc.description.short), ("long", .text doc.description.long)]) := by
    refine .table (by simp [Ordered.keys]) ?_
    simp [Textual.text]
  refine .table (by simp [Ordered.keys]) ?_
  simpa [hparent, hinterfaces, hmethods, hinherited, Textual.text, textual_ofText?, textual_texts,
    Details.textual hm, Details.textual hi] using hdescription

theorem textual_allValue {docs : List Documentation} (h : ∀ doc ∈ docs, doc.IsTextual) : Textual (allValue docs) := by
  have hclasses : Textual (.table (Ordered.ofList (docs.map fun doc => (doc.name, doc.toValue)))) := by
    refine .table (Ordered.nodup_keys_ofList _) fun entry he => ?_
    obtain ⟨before, after, hsplit, -⟩ := Ordered.mem_ofList he
    have hmem : entry ∈ docs.map fun doc => (doc.name, doc.toValue) := by simp [hsplit]
    obtain ⟨doc, hd, rfl⟩ := List.mem_map.mp hmem
    exact (h doc hd).textual
  refine .table (by simp [Ordered.keys]) ?_
  simpa using hclasses

end Documentation

/-! ### The documentation that a value tells -/

theorem Value.ofText?_inj {s t : Option Text} (h : Value.ofText? s = .ofText? t) : s = t := by
  cases s <;> cases t <;> simp_all [Value.ofText?]

theorem Value.texts_inj {s t : List Text} (h : s.map Value.text = t.map .text) : s = t :=
  List.map_inj_right (fun _ _ => Value.text.inj) |>.mp h

theorem listValue_inj {α : Type} {toValue : α → Value} (hinj : ∀ a b, toValue a = toValue b → a = b)
    {xs ys : Option (List α)} (h : listValue toValue xs = listValue toValue ys) : xs = ys := by
  cases xs <;> cases ys <;> simp only [listValue] at h
  · rfl
  · cases h
  · cases h
  · exact congrArg some ((List.map_inj_right hinj).mp (Value.list.inj h))

theorem Datum.toValue_inj (a b : Datum) (h : a.toValue = b.toValue) : a = b := by
  obtain ⟨type, desc⟩ := a
  obtain ⟨type', desc'⟩ := b
  simp [toValue] at h
  simp [h]

theorem Parameter.toValue_inj (a b : Parameter) (h : a.toValue = b.toValue) : a = b := by
  obtain ⟨name, type, desc⟩ := a
  obtain ⟨name', type', desc'⟩ := b
  simp [toValue] at h
  simp [h]

theorem Detail.toValue_inj (a b : Detail) (h : a.toValue = b.toValue) : a = b := by
  obtain ⟨hmembers, hlink⟩ := List.append_inj (Value.table.inj h) rfl
  simp only [List.cons.injEq, Prod.mk.injEq, true_and, and_true, Value.list.injEq] at hmembers
  obtain ⟨hshort, hlong, harguments, hparameters, hreturns, hthrows, hvisibility⟩ := hmembers
  have hlink' : a.link = b.link := by
    cases ha : a.link <;> cases hb : b.link <;> simp_all
  obtain ⟨⟩ := a
  obtain ⟨⟩ := b
  cases Value.ofText?_inj hshort
  cases Value.ofText?_inj hlong
  cases Value.texts_inj harguments
  cases listValue_inj Parameter.toValue_inj hparameters
  cases listValue_inj Datum.toValue_inj hreturns
  cases listValue_inj Datum.toValue_inj hthrows
  cases Value.ofText?_inj hvisibility
  cases hlink'
  rfl

theorem Details.toValue_inj {a b : List (Text × Detail)} (h : (named a).toValue = (named b).toValue) : a = b := by
  have hmembers := Value.table.inj h
  simp only [named, List.map_map] at hmembers
  refine (List.map_inj_right fun x y hxy => ?_).mp hmembers
  obtain ⟨hname, hdetail⟩ := Prod.mk.inj hxy
  exact Prod.ext hname (Detail.toValue_inj _ _ hdetail)

namespace Documentation

/-- Documentation can be told from its data. -/
theorem toValue_inj {a b : Documentation} (ha : a.IsTextual) (hb : b.IsTextual) (h : a.toValue = b.toValue) :
    a = b := by
  obtain ⟨-, -, ⟨m, hm, -⟩, ⟨n, hn, -⟩⟩ := ha
  obtain ⟨-, -, ⟨m', hm', -⟩, ⟨n', hn', -⟩⟩ := hb
  have hmembers := Value.table.inj h
  simp only [List.cons.injEq, Prod.mk.injEq, true_and, and_true, Value.list.injEq, Value.text.injEq,
    Value.table.injEq] at hmembers
  obtain ⟨hname, ⟨hshort, hlong⟩, hparent, hinterfaces, hmethods, hinherited⟩ := hmembers
  rw [hm, hm'] at hmethods
  rw [hn, hn'] at hinherited
  cases Details.toValue_inj hmethods
  cases Details.toValue_inj hinherited
  obtain ⟨_, ⟨⟩⟩ := a
  obtain ⟨_, ⟨⟩⟩ := b
  simp_all

theorem map_toValue_inj {docs docs' : List Documentation} (h : ∀ doc ∈ docs, doc.IsTextual)
    (h' : ∀ doc ∈ docs', doc.IsTextual)
    (heq : (docs.map fun doc => (doc.name, doc.toValue)) = docs'.map fun doc => (doc.name, doc.toValue)) :
    docs = docs' := by
  induction docs generalizing docs' with
  | nil => exact (List.map_eq_nil_iff.mp heq.symm).symm
  | cons doc rest ih =>
    obtain ⟨doc', rest', rfl, hdoc, hrest⟩ := List.map_eq_cons_iff.mp heq.symm
    obtain ⟨hd, hr⟩ := List.forall_mem_cons.mp h
    obtain ⟨hd', hr'⟩ := List.forall_mem_cons.mp h'
    rw [toValue_inj hd' hd (Prod.mk.inj hdoc).2, ih hr hr' hrest.symm]

/-- The classes of documentation, where no class comes twice, are its data as they are. -/
theorem classes_of_nodup {docs : List Documentation} (h : (docs.map (·.name)).Nodup) :
    allValue docs = .table [("classes", .table (docs.map fun doc => (doc.name, doc.toValue)))] := by
  rw [allValue, Ordered.ofList_of_nodup]
  simpa [Ordered.keys, Function.comp_def] using h

/-- What is written of documentation. Its text is ASCII and a JSON text, it stands for the data of the documentation and
    for no other value, and that is what reading finds. Documentation of different classes can be told from the text,
    whatever the layout. -/
theorem render_faithful (indent : Option Nat) (docs : List Documentation) (h : ∀ doc ∈ docs, doc.IsTextual) :
    Json.IsAscii (render indent docs) ∧
      (∀ v, Json.IsJson (render indent docs) v ↔ v = allValue docs) ∧
      Json.parse (render indent docs) = some (allValue docs) ∧
      ∀ indent' docs', (∀ doc ∈ docs', doc.IsTextual) → (docs.map (·.name)).Nodup → (docs'.map (·.name)).Nodup →
        render indent' docs' = render indent docs → docs' = docs := by
  have hjson : Json.IsJson (render indent docs) (allValue docs) := Json.isJson_render (textual_allValue h)
  refine ⟨Json.isAscii_renderAt (textual_allValue h) 0, ?_, Json.parse_of_isJson hjson, ?_⟩
  · intro v
    constructor
    · exact fun hv => hv.unique hjson
    · rintro rfl
      exact hjson
  · intro indent' docs' h' hd hd' htext
    have hjson' : Json.IsJson (render indent' docs') (allValue docs') := Json.isJson_render (textual_allValue h')
    rw [htext] at hjson'
    have hvalue := hjson'.unique hjson
    rw [classes_of_nodup hd, classes_of_nodup hd'] at hvalue
    simp only [Value.table.injEq, List.cons.injEq, Prod.mk.injEq, true_and, and_true] at hvalue
    exact map_toValue_inj h' h hvalue

/-- A class with one method, of which it is given what it throws. -/
def clef (throws : Option (List Datum)) : Documentation where
  name := "Clef 𝄞"
  description := ⟨"\"Quoted\" \\ é", "\t"⟩
  parent := .text "Sign"
  methods := [(.text "draw", { throws })]

/-- What throws nothing is told apart from what is not known to throw. -/
theorem render_faithful_clef :
    (clef none).IsTextual ∧ (clef (some [])).IsTextual ∧
      Json.IsAscii (render (some 2) [clef none]) ∧
      Json.parse (render (some 2) [clef none]) = some (allValue [clef none]) ∧
      render (some 0) [clef (some [])] ≠ render (some 2) [clef none] := by
  have htextual (throws : Option (List Datum)) : (clef throws).IsTextual :=
    ⟨⟨some "Sign", rfl⟩, ⟨[], rfl⟩, ⟨[("draw", { throws })], rfl, by simp [Ordered.keys]⟩, ⟨[], rfl, List.nodup_nil⟩⟩
  have hall (throws : Option (List Datum)) : ∀ doc ∈ [clef throws], doc.IsTextual := by simp [htextual]
  obtain ⟨hascii, -, hparse, htold⟩ := render_faithful (some 2) [clef none] (hall none)
  refine ⟨htextual _, htextual _, hascii, hparse, fun htext => ?_⟩
  have hnames (throws : Option (List Datum)) : ([clef throws].map (·.name)).Nodup := by simp
  have hsame := htold (some 0) [clef (some [])] (hall _) (hnames _) (hnames _) htext
  have hthrows : [[some []]] = [[(none : Option (List Datum))]] :=
    congrArg (List.map fun doc : Documentation => doc.methods.map fun entry : Value × Detail => entry.2.throws) hsame
  cases hthrows

end Documentation
end ApiDocs
