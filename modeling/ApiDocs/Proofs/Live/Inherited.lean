import ApiDocs.Proofs.Live.Offers
import ApiDocs.Proofs.Live.Reported
import ApiDocs.Proofs.Text.Layout

/-! What is said about a method without a comment. The comments of what the class and its ancestors offer under the name
    are looked for, in the order of the class. A class offers the first definition in its own order, so that an ancestor
    that defines nothing can bring up a definition from far behind before a nearer one has its turn. -/

namespace ApiDocs.Live.World

/-! ### First lines -/

theorem firstLine_ne_nil {comment : Text} (h : Text.allBlank comment = false) : firstLine comment ≠ [] := by
  obtain ⟨c, rest, htrim, hc⟩ := Text.exists_of_startsSolid (Text.startsSolid_trim h)
  have hfeed : (c == '\n') = false := by
    rw [beq_eq_false_iff_ne]
    rintro rfl
    cases hc
  rw [firstLine, htrim, Text.lines, Text.splitWith, hfeed]
  rcases Text.splitWith (· == '\n') rest with _ | ⟨part, parts⟩
  · exact List.cons_ne_nil c []
  · exact List.cons_ne_nil c part

/-- What is said about something that has a comment: the first line of a text without its margin. -/
def said? : Object → Option Text
  | .text comment => (some (firstLine (Text.clean comment))).filter (!·.isEmpty)
  | _ => none

theorem said?_text {comment : Text} (h : Text.allBlank comment = false) :
    said? (.text comment) = some (firstLine (Text.clean comment)) := by
  have hclean : Text.allBlank (Text.clean comment) = false := by
    rw [Text.allBlank_eq_of_words (Text.words_clean comment)]
    exact h
  rw [said?, Option.filter_some, if_pos]
  simpa using firstLine_ne_nil hclean

variable {world world' : World} {id own above : ClassId}

theorem filter_summary? {object : Object} (h : world.attribute? object "__doc__" = some .nothing) :
    (world.summary? object).filter (!·.isEmpty) = (world.inheritedComment? object).bind said? := by
  rw [summary?, commentOf, h]
  rcases world.inheritedComment? object with _ | comment
  · rfl
  · cases comment with
    | text comment =>
      simp only [Option.bind_some, said?]
      rcases Text.clean comment with _ | ⟨c, rest⟩
      · rfl
      · rfl
    | _ => rfl

/-! ### Definitions -/

/-- A function that was defined in the body of a class under its own name. -/
structure DefinedIn (f : Function) (c : Class) (name : Text) : Prop where
  member : c.members.lookup name = some (.value (.function f))
  own : f.name = name
  home : f.home = c.home
  path : f.path = c.path ++ "." ++ name

/-- A class that can be imported: its id leads to it, and so does its path from its module. -/
structure Importable (world : World) (id : ClassId) (c : Class) : Prop where
  found : world.find (world.nameOf id) = .ok (.cls id)
  home : world.hasHome c.home = true
  path : world.follow (.home c.home) (Text.dotted c.path) = .ok (.cls id)

/-- A method that its class defines without a comment. The class can be imported, and its ancestors define only functions
    under the name. -/
structure Uncommented (world : World) (id : ClassId) (c : Class) (f : Function) (name : Text) : Prop where
  place : world.classes[id]? = some c
  importable : world.Importable id c
  defined : DefinedIn f c name
  undotted : '.' ∉ name
  silent : f.comment = none
  plain : world.PlainUnder id name

instance (world : World) (id : ClassId) (c : Class) (f : Function) (name : Text) :
    Decidable (world.Uncommented id c f name) :=
  decidable_of_iff
    (world.classes[id]? = some c ∧
      ((world.find (world.nameOf id)).toOption = some (.cls id) ∧ world.hasHome c.home = true ∧
        (world.follow (.home c.home) (Text.dotted c.path)).toOption = some (.cls id)) ∧
      (c.members.lookup name = some (.value (.function f)) ∧ f.name = name ∧ f.home = c.home ∧
        f.path = c.path ++ "." ++ name) ∧
      '.' ∉ name ∧ f.comment = none ∧ world.PlainUnder id name) <| by
    rw [toOption_eq_some_iff, toOption_eq_some_iff]
    exact ⟨fun ⟨h₁, ⟨h₂, h₃, h₄⟩, ⟨h₅, h₆, h₇, h₈⟩, h₉, h₁₀, h₁₁⟩ => ⟨h₁, ⟨h₂, h₃, h₄⟩, ⟨h₅, h₆, h₇, h₈⟩, h₉, h₁₀, h₁₁⟩,
      fun ⟨h₁, ⟨h₂, h₃, h₄⟩, ⟨h₅, h₆, h₇, h₈⟩, h₉, h₁₀, h₁₁⟩ => ⟨h₁, ⟨h₂, h₃, h₄⟩, ⟨h₅, h₆, h₇, h₈⟩, h₉, h₁₀, h₁₁⟩⟩

section Definitions
variable {name : Text} {f : Function} {c : Class}

theorem DefinedIn.ownFunction? (h : DefinedIn f c name) (hc : world.classes[id]? = some c) :
    world.ownFunction? id name = some f := by
  refine ownFunction?_of_ownMember? ?_
  rw [ownMember?, hc]
  exact h.member

/-- The class that defined a function is found again. -/
theorem DefinedIn.definer? (h : DefinedIn f c name) (hc : world.Importable id c) (hdot : '.' ∉ name) :
    world.definer? f = some id := by
  rw [World.definer?, h.home, if_pos hc.home, h.path, Text.dropLast_dotted hdot, hc.path]

/-- A class gives out what it defined. -/
theorem DefinedIn.attribute? (h : DefinedIn f c name) (hmade : world.Made) (hc : world.classes[id]? = some c)
    (hplain : world.PlainUnder id name) (hcomputed : world.isComputedFor id name = false) :
    world.attribute? (.cls id) name = some (.function f) := by
  rw [attribute?_cls hcomputed, hplain.classMember?, hmade.definition?_of_own (h.ownFunction? hc)]
  rfl

section Uncommented
variable (h : world.Uncommented id c f name) (hmade : world.Made)
  (hcomputed : ∀ above ∈ world.order id, world.isComputedFor above name = false)
include h hmade hcomputed

theorem Uncommented.attribute? : world.attribute? (.cls id) name = some (.function f) := by
  obtain ⟨rest, hrest⟩ := hmade.order_cons (List.getElem?_eq_some_iff.mp h.place).1
  exact h.defined.attribute? hmade h.place h.plain (hcomputed id (hrest ▸ List.mem_cons_self))

theorem Uncommented.origin? : world.origin? (.function f) = some (id, name) := by
  show (world.definer? f).bind _ = _
  rw [h.defined.definer? h.importable h.undotted, h.defined.own]
  exact if_pos (h.attribute? hmade hcomputed)

/-- Something is said about a method without a comment as about the first thing under its name that has one. -/
theorem Uncommented.summary? :
    (world.summary? (.function f)).filter (!·.isEmpty) =
      ((world.order id).findSome? (world.offeredComment? · name)).bind said? := by
  have hnothing : world.attribute? (.function f) "__doc__" = some .nothing := by
    rw [hmade.attribute?_function, h.silent]
    rfl
  have hinherited : world.inheritedComment? (.function f) = world.firstComment? id name := by
    show (world.origin? (.function f)).bind _ = _
    rw [h.origin? hmade hcomputed]
    rfl
  rw [filter_summary? hnothing, hinherited, firstComment?_eq hmade h.plain hcomputed]

end Uncommented
end Definitions

/-! ### The nearest definition -/

theorem findSome?_append_eq {α β : Type} {before after : List α} {a : α} {b : β} {f : α → Option β}
    (hbefore : ∀ x ∈ before, f x = none ∨ f x = some b) (ha : f a = some b) :
    (before ++ a :: after).findSome? f = some b := by
  induction before with
  | nil => rw [List.nil_append, List.findSome?_cons, ha]
  | cons x rest ih =>
    rw [List.cons_append, List.findSome?_cons]
    rcases hbefore x List.mem_cons_self with hx | hx
    · rw [hx]
      exact ih fun y hy => hbefore y (List.mem_cons_of_mem x hy)
    · rw [hx]

section Nearest
variable {name : Text} {f : Function} (hmade : world.Made) (hplain : world.PlainUnder id name)

theorem offeredComment?_of_definition? (h : world.definition? id name = some f) :
    world.offeredComment? id name = f.comment.map .text := by
  rw [offeredComment?, h]

include hplain in
theorem PlainUnder.solid (ha : above ∈ world.order id) {comment : Text} (h : world.ownText? above name = some comment) :
    Text.allBlank comment = false := by
  obtain ⟨f, hf, hcomment⟩ := Option.bind_eq_some_iff.mp h
  obtain ⟨g, hg, -, hsolid⟩ := hplain above ha _ (ownMember?_of_ownFunction? hf)
  cases hf.symm.trans hg
  exact hsolid comment hcomment

include hmade in
/-- What the classes of an order offer are definitions of the order, if their own classes have nothing. -/
theorem exists_of_offeredComment? (ha : above ∈ world.order id)
    (hfrom : world.entry? (world.typeOfClass above) name = none) {object : Object}
    (h : world.offeredComment? above name = some object) :
    ∃ other ∈ world.order id, ∃ comment, world.ownText? other name = some comment ∧ object = .text comment := by
  cases hd : world.definition? above name with
  | none =>
    rw [offeredComment?, hd, fromType?, hfrom] at h
    cases h
  | some f =>
    rw [offeredComment?_of_definition? hd] at h
    obtain ⟨comment, hcomment, rfl⟩ := Option.map_eq_some_iff.mp h
    obtain ⟨other, hother, hf⟩ := exists_of_definition? hd
    refine ⟨other, (hmade.order_sublist ha).2.subset hother, comment, ?_, rfl⟩
    rw [ownText?_eq hf, hcomment]

include hmade hplain in
theorem said?_eq_none_iff (hfrom : ∀ above ∈ world.order id, world.entry? (world.typeOfClass above) name = none) :
    ((world.order id).findSome? (world.offeredComment? · name)).bind said? = none ↔
      ∀ above ∈ world.order id, world.ownText? above name = none := by
  constructor
  · intro hnone above ha
    rw [← Option.not_isSome_iff_eq_none]
    intro hsome
    obtain ⟨comment, hcomment⟩ := Option.isSome_iff_exists.mp hsome
    obtain ⟨f, hf, hcomment⟩ := Option.bind_eq_some_iff.mp hcomment
    have hoffers : (world.offeredComment? above name).isSome = true := by
      rw [offeredComment?_of_definition? (hmade.definition?_of_own hf), hcomment]
      rfl
    have hfound : ((world.order id).findSome? (world.offeredComment? · name)).isSome = true :=
      List.findSome?_isSome_iff.mpr ⟨above, ha, hoffers⟩
    obtain ⟨object, hobject⟩ := Option.isSome_iff_exists.mp hfound
    obtain ⟨first, hfirst, hobject'⟩ := List.exists_of_findSome?_eq_some hobject
    obtain ⟨other, hother, text, htext, rfl⟩ :=
      exists_of_offeredComment? hmade hfirst (hfrom first hfirst) hobject'
    rw [hobject, Option.bind_some, said?_text (hplain.solid hother htext)] at hnone
    cases hnone
  · intro hall
    have hnothing : (world.order id).findSome? (world.offeredComment? · name) = none := by
      rw [List.findSome?_eq_none_iff]
      intro above ha
      rw [← Option.not_isSome_iff_eq_none]
      intro hsome
      obtain ⟨object, hobject⟩ := Option.isSome_iff_exists.mp hsome
      obtain ⟨other, hother, text, htext, -⟩ := exists_of_offeredComment? hmade ha (hfrom above ha) hobject
      cases (hall other hother).symm.trans htext
    rw [hnothing]
    rfl

include hmade in
/-- Before the nearest definition with a comment, a class that has a definition or descends from the one that has it
    offers no other comment. -/
theorem offeredComment?_before {before after : List ClassId} {near : ClassId} {comment : Text}
    (hsplit : world.order id = before ++ near :: after) (hnear : world.ownText? near name = some comment)
    (hbefore : ∀ other ∈ before, world.ownText? other name = none) (ha : above ∈ before)
    (hreach : (world.ownFunction? above name).isSome = true ∨ near ∈ world.order above) :
    world.offeredComment? above name = none ∨ world.offeredComment? above name = some (.text comment) := by
  rcases hreach with hown | hmem
  · obtain ⟨f, hf⟩ := Option.isSome_iff_exists.mp hown
    have hsilent := hbefore above ha
    rw [ownText?_eq hf] at hsilent
    rw [offeredComment?_of_definition? (hmade.definition?_of_own hf), hsilent]
    exact Or.inl rfl
  · obtain ⟨g, hg, hcomment⟩ := Option.bind_eq_some_iff.mp hnear
    obtain ⟨front, back, hfront⟩ := List.append_of_mem hmem
    -- The order of the class keeps to the whole order, so all that it has before the definition is before it there.
    have hsub := (hmade.order_sublist (hsplit ▸ List.mem_append_left _ ha)).2
    have hnodup := hmade.nodup_order id
    rw [hsplit] at hnodup hsub
    rw [hfront] at hsub
    have hlast : near ∉ after := (List.nodup_cons.mp (List.nodup_append.mp hnodup).2.1).1
    have hfrontBefore := sublist_before hsub hlast
    cases hd : front.findSome? (world.ownFunction? · name) with
    | none =>
      have hdefinition : world.definition? above name = some g := by
        rw [definition?, hfront, List.findSome?_append, hd, Option.none_or, List.findSome?_cons, hg]
      rw [offeredComment?_of_definition? hdefinition, hcomment]
      exact Or.inr rfl
    | some f =>
      have hdefinition : world.definition? above name = some f := by
        rw [definition?, hfront, List.findSome?_append, hd, Option.some_or]
      obtain ⟨other, hother, hf⟩ := List.exists_of_findSome?_eq_some hd
      have hsilent := hbefore other (hfrontBefore.subset hother)
      rw [ownText?_eq hf] at hsilent
      rw [offeredComment?_of_definition? hdefinition, hsilent]
      exact Or.inl rfl

include hmade hplain in
theorem said?_nearest {before after : List ClassId} {near : ClassId} {comment : Text}
    (hsplit : world.order id = before ++ near :: after) (hnear : world.ownText? near name = some comment)
    (hbefore : ∀ other ∈ before, world.ownText? other name = none)
    (hreach : ∀ other ∈ before, (world.ownFunction? other name).isSome = true ∨ near ∈ world.order other) :
    ((world.order id).findSome? (world.offeredComment? · name)).bind said? =
      some (firstLine (Text.clean comment)) := by
  obtain ⟨f, hf, hcomment⟩ := Option.bind_eq_some_iff.mp hnear
  have hoffers : world.offeredComment? near name = some (.text comment) := by
    rw [offeredComment?_of_definition? (hmade.definition?_of_own hf), hcomment]
    rfl
  have hfirst : (world.order id).findSome? (world.offeredComment? · name) = some (.text comment) := by
    rw [hsplit]
    refine findSome?_append_eq (fun other hother => ?_) hoffers
    exact offeredComment?_before hmade hsplit hnear hbefore hother (hreach other hother)
  have hmem : near ∈ world.order id := hsplit ▸ List.mem_append_right _ List.mem_cons_self
  rw [hfirst, Option.bind_some, said?_text (hplain.solid hmem hnear)]

end Nearest

/-! ### Looking up -/

theorem Sound.resolve_own {s : Session} (hs : world.Sound s.registry) (hd : world.Distinct)
    (hid : id < world.classes.length) (hfound : world.find (world.nameOf id) = .ok (.cls id)) :
    ∃ t, (world.resolve (world.nameOf id)).outcome s = (.ok id, t) := by
  rcases world.resolve_cases (world.nameOf id) s with ⟨other, hl, h⟩ | ⟨other, -, hfind, h⟩ | ⟨-, hnone, -⟩
  · rcases hs _ _ hl with ⟨hother, hname⟩ | hfind
    · obtain rfl := hd other hother id hid hname
      exact ⟨s, h⟩
    · cases hfound.symm.trans hfind
      exact ⟨s, h⟩
  · cases hfound.symm.trans hfind
    exact ⟨_, h⟩
  · exact absurd hfound (hnone id)

theorem outcome_resolveMethod {s t : Session} {owner name : Text} {object : Object}
    (h : (world.resolve owner).outcome s = (.ok id, t)) (hdot : '.' ∉ name)
    (hobject : world.attribute? (.cls id) name = some object) :
    (world.resolveMethod (owner ++ "." ++ name)).outcome s = (.ok object, t) := by
  rw [resolveMethod, Link.splitLast_id owner hdot]
  simp only
  rw [Act.outcome_bind, h]
  simp only [hobject]
  rfl

theorem result_fallback {s t : Session} {object : Object} {methodId : Text} (template : Value)
    (h : (world.resolveMethod methodId).outcome s = (.ok object, t)) :
    ((world.fallback template methodId).outcome s).1 =
      (Link.linkFor template methodId).map (⟨(world.summary? object).filter (!·.isEmpty), ·⟩) := by
  rw [fallback, Act.outcome_bind, h]
  simp only
  cases Link.linkFor template methodId with
  | error fault => rfl
  | ok link => rfl

/-- What is said about a method that its class defines without a comment: the first line of the first comment that the
    class and its ancestors offer under the name, in their order. Where their own classes have nothing under the name,
    nothing is said exactly if no definition has a comment. The nearest definition with a comment is the one that
    counts, if each class before it has a definition or descends from the class that has it. -/
theorem fallback_inherits (world : World) (hmade : world.Made) (hd : world.Distinct)
    (registered : List (Fin world.classes.length)) (history : List world.Operation) (template : Value) (id : ClassId)
    (c : Class) (f : Function) (name : Text) (h : world.Uncommented id c f name)
    (hcomputed : ∀ above ∈ world.order id, world.isComputedFor above name = false) :
    ∃ short,
      ((world.fallback template (world.nameOf id ++ "." ++ name)).outcome
        (world.after history (world.fresh registered))).1 =
          (Link.linkFor template (world.nameOf id ++ "." ++ name)).map (⟨short, ·⟩) ∧
      short = ((world.order id).findSome? (world.offeredComment? · name)).bind said? ∧
      ((∀ above ∈ world.order id, world.entry? (world.typeOfClass above) name = none) →
        (short = none ↔ ∀ above ∈ world.order id, world.ownText? above name = none)) ∧
      ∀ before near after comment, world.order id = before ++ near :: after →
        world.ownText? near name = some comment → (∀ other ∈ before, world.ownText? other name = none) →
        (∀ other ∈ before, (world.ownFunction? other name).isSome = true ∨ near ∈ world.order other) →
        short = some (firstLine (Text.clean comment)) := by
  have hb := hmade.closed.bases
  have hsound := (sound_fresh hb registered).learned (after_learned hb history .nothing)
  obtain ⟨t, hresolve⟩ := hsound.resolve_own hd (List.getElem?_eq_some_iff.mp h.place).1 h.importable.found
  have hmethod := outcome_resolveMethod hresolve h.undotted (h.attribute? hmade hcomputed)
  have hsummary := h.summary? hmade hcomputed
  refine ⟨_, result_fallback template hmethod, hsummary, ?_, ?_⟩
  · intro hfrom
    rw [hsummary]
    exact said?_eq_none_iff hmade h.plain hfrom
  · intro before near after comment hsplit hnear hbefore hreach
    rw [hsummary]
    exact said?_nearest hmade h.plain hsplit hnear hbefore hreach

/-- Roses and currants grow without a comment, plants and shrubs with one. Between a rose and the shrubs there are only
    briars, which are shrubs, but between a currant and the shrubs there are the fruits, which are plants. -/
def garden : World := World.standard.declareAll [
  { key := "Plant", home := "garden", path := "Plant"
    body := [("grow", .function .plain (some "Grows.") .none false)] },
  { key := "Fruit", home := "garden", path := "Fruit", bases := ["Plant"] },
  { key := "Shrub", home := "garden", path := "Shrub", bases := ["Plant"]
    body := [("grow", .function .plain (some "\n  Grows wide.\n\n  And wider.") .none false)] },
  { key := "Briar", home := "garden", path := "Briar", bases := ["Shrub"] },
  { key := "Rose", home := "garden", path := "Rose", bases := ["Briar", "Fruit"]
    body := [("grow", .function .plain none .none false)] },
  { key := "Currant", home := "garden", path := "Currant", bases := ["Fruit", "Shrub"]
    body := [("grow", .function .plain none .none false), ("mro", .function .plain none .none false)] }]

theorem garden_made : garden.Made := Made.standard.declareAll _

set_option maxRecDepth 100000 in
theorem garden_distinct : garden.Distinct := by decide +kernel

/-- The class of roses. -/
def rose : Class := garden.classes[38]?.getD Standard.objectClass

/-- How roses grow. -/
def roseGrows : Function :=
  { number := Standard.functionCount + 2, home := "garden", path := "Rose.grow", name := "grow" }

set_option maxRecDepth 100000 in
theorem garden_rose :
    garden.Uncommented 38 rose roseGrows "grow" ∧
    (∀ above ∈ garden.order 38, garden.isComputedFor above "grow" = false) ∧
    garden.order 38 = [38, 37] ++ 36 :: [35, 34, 0] ∧
    garden.ownText? 36 "grow" = some "\n  Grows wide.\n\n  And wider.".toList ∧
    (∀ other ∈ [38, 37], garden.ownText? other "grow" = none) ∧
    ∀ other ∈ [38, 37], (garden.ownFunction? other "grow").isSome = true ∨ 36 ∈ garden.order other := by decide +kernel

theorem fallback_inherits_rose :
    garden.Made ∧ garden.Distinct ∧ garden.Uncommented 38 rose roseGrows "grow" ∧
    (∀ above ∈ garden.order 38, garden.isComputedFor above "grow" = false) ∧
    ((garden.fallback (.text "https://garden") "garden.Rose.grow").outcome
      (garden.after [.parent "garden.Currant"] (garden.fresh []))).1 =
        .ok ⟨some "Grows wide.", "https://garden"⟩ := by
  obtain ⟨hrose, hcomputed, horder, hshrub, hbefore, hreach⟩ := garden_rose
  obtain ⟨short, hfallback, -, -, hnearest⟩ := fallback_inherits garden garden_made garden_distinct []
    [.parent "garden.Currant"] (.text "https://garden") 38 rose roseGrows "grow" hrose hcomputed
  refine ⟨garden_made, garden_distinct, hrose, hcomputed, ?_⟩
  rw [hnearest [38, 37] 36 [35, 34, 0] _ horder hshrub hbefore hreach] at hfallback
  have hname : garden.nameOf 38 ++ "." ++ "grow" = "garden.Rose.grow".toList := by decide +kernel
  have hline : firstLine (Text.clean "\n  Grows wide.\n\n  And wider.") = "Grows wide.".toList := by decide +kernel
  have hlink : Link.linkFor (.text "https://garden") "garden.Rose.grow" = .ok "https://garden" :=
    toOption_eq_some_iff.mp (by decide +kernel)
  rw [hname, hline, hlink] at hfallback
  exact hfallback

/-- The class of currants. -/
def currant : Class := garden.classes[39]?.getD Standard.objectClass

/-- What currants define. -/
def currantDefines (number : Nat) (name : Text) : Function :=
  { number, home := "garden", path := "Currant." ++ name, name }

set_option maxRecDepth 100000 in
theorem garden_currant :
    garden.Uncommented 39 currant (currantDefines (Standard.functionCount + 3) "grow") "grow" ∧
    garden.Uncommented 39 currant (currantDefines (Standard.functionCount + 4) "mro") "mro" ∧
    garden.order 39 = [39, 35] ++ 36 :: [34, 0] ∧
    garden.ownText? 36 "grow" = some "\n  Grows wide.\n\n  And wider.".toList ∧
    (∀ other ∈ [39, 35], garden.ownText? other "grow" = none) ∧
    (∀ other ∈ garden.order 39, garden.ownText? other "mro" = none) ∧
    ((garden.fallback (.text "https://garden") (garden.nameOf 39 ++ "." ++ "grow")).outcome {}).1.toOption =
      some ⟨some "Grows.", "https://garden"⟩ ∧
    ((garden.fallback (.text "https://garden") (garden.nameOf 39 ++ "." ++ "mro")).outcome {}).1.toOption =
      some ⟨some "Return a type's method resolution order.", "https://garden"⟩ := by decide +kernel

/-- It need not be the nearest definition with a comment that counts, and where no definition has one, something may
    still be said. -/
theorem fallback_not_nearest :
    (¬∀ (world : World) (id : ClassId) (c : Class) (f : Function) (name : Text), world.Made → world.Distinct →
      world.Uncommented id c f name → ∀ before near after comment, world.order id = before ++ near :: after →
      world.ownText? near name = some comment → (∀ other ∈ before, world.ownText? other name = none) →
      ∃ link, ((world.fallback (.text "https://garden") (world.nameOf id ++ "." ++ name)).outcome {}).1 =
        .ok ⟨some (firstLine (Text.clean comment)), link⟩) ∧
    ¬∀ (world : World) (id : ClassId) (c : Class) (f : Function) (name : Text), world.Made → world.Distinct →
      world.Uncommented id c f name → (∀ other ∈ world.order id, world.ownText? other name = none) →
      ∃ link, ((world.fallback (.text "https://garden") (world.nameOf id ++ "." ++ name)).outcome {}).1 =
        .ok ⟨none, link⟩ := by
  obtain ⟨hgrow, hmro, horder, hshrub, hbefore, hnone, hgrown, htold⟩ := garden_currant
  refine ⟨fun hnearest => ?_, fun hnothing => ?_⟩
  · obtain ⟨link, h⟩ :=
      hnearest garden 39 currant _ "grow" garden_made garden_distinct hgrow [39, 35] 36 [34, 0] _ horder hshrub hbefore
    cases (toOption_eq_some_iff.mp hgrown).symm.trans h
  · obtain ⟨link, h⟩ := hnothing garden 39 currant _ "mro" garden_made garden_distinct hmro hnone
    cases (toOption_eq_some_iff.mp htold).symm.trans h

end ApiDocs.Live.World
