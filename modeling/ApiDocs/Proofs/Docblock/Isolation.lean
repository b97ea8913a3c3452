import ApiDocs.Proofs.Docblock.Gathering
import Mathlib.Data.List.Induction

/-! How far a malformed tag is kept apart from the others. It changes no valid tag by itself, but a type of what is
    returned goes to the last tag for what is returned, also when that tag is malformed. So the valid tags are the same
    without the malformed ones exactly when no such type comes while the last tag for what is returned is malformed.

    One direction compares two runs: with and without the malformed pieces the valid tags and all that waits stay the
    same (`Alike`), as long as no malformed tag takes a type. The other direction counts: no type of what is returned is
    lost, so one that a malformed tag has taken is missing among the valid ones. -/

namespace ApiDocs.Docblock

/-! ### Malformed pieces -/

namespace Piece

/-- Whether a chunk cannot be read. -/
def isMalformed : Piece → Bool
  | .malformed .. => true
  | _ => false

/-- Whether a piece makes a tag for what is returned. -/
def makesReturn (piece : Piece) : Bool := piece.tags.any Gathered.isReturn

/-- Of the tags for what is returned just the malformed ones are not valid. -/
theorem valid_of_isReturn {piece : Piece} {tag : Tag} (ht : tag ∈ piece.tags) (hr : Gathered.isReturn tag = true) :
    tag.valid = !piece.isMalformed := by
  cases piece with
  | malformed chunk reason =>
    obtain rfl := List.mem_singleton.mp ht
    rfl
  | items found =>
    obtain ⟨item, -, hi⟩ := List.mem_filterMap.mp ht
    cases item with
    | param name type desc =>
      cases hi
      simp [Gathered.isReturn] at hr
    | returns type desc generator =>
      cases generator <;> cases hi
      rfl
    | raises type desc =>
      cases hi
      rfl
    | other => cases hi
  | paramType names type => cases ht
  | returnType type => cases ht

theorem returnTypes_of_isMalformed {piece : Piece} (h : piece.isMalformed = true) : piece.returnTypes = [] := by
  cases piece <;> first | rfl | cases h

end Piece

/-- The last of the pieces that make a tag for what is returned is malformed. -/
def Exposed (pieces : List Piece) : Prop :=
  ∃ a bad b, pieces = a ++ bad :: b ∧ bad.isMalformed = true ∧ bad.makesReturn = true ∧
    ∀ piece ∈ b, piece.makesReturn = false

/-- No type of what is returned comes when the last tag for what is returned is malformed. -/
def Undisturbed (pieces : List Piece) : Prop :=
  ∀ before type after, pieces = before ++ .returnType type :: after → ¬Exposed before

theorem undisturbed_nil : Undisturbed [] := by
  intro before type after h
  simp at h

theorem undisturbed_concat {pieces : List Piece} {piece : Piece} :
    Undisturbed (pieces ++ [piece]) ↔
      Undisturbed pieces ∧ ∀ type, piece = .returnType type → ¬Exposed pieces := by
  constructor
  · intro h
    refine ⟨fun before type after hp => h before type (after ++ [piece]) (by simp [hp]), fun type ht => ?_⟩
    exact h pieces type [] (by rw [ht])
  · rintro ⟨hu, hl⟩ before type after hp
    rcases List.eq_nil_or_concat after with rfl | ⟨after', last, rfl⟩
    · obtain ⟨rfl, hlast⟩ := List.append_inj' hp rfl
      exact hl type (by simpa using hlast)
    · have hcut : pieces ++ [piece] = (before ++ .returnType type :: after') ++ [last] := by simp [hp]
      obtain ⟨rfl, -⟩ := List.append_inj' hcut rfl
      exact hu before type after' rfl

/-! ### The last tag for what is returned -/

/-- The last of some tags that is for what is returned. -/
def lastReturn? (tags : List Tag) : Option Tag := (tags.filter Gathered.isReturn).getLast?

theorem lastReturn?_untyped (tags : List Tag) :
    lastReturn? (tags.map Tag.untyped) = (lastReturn? tags).map Tag.untyped := by
  have hp : Gathered.isReturn ∘ Tag.untyped = Gathered.isReturn := rfl
  unfold lastReturn?
  rw [List.filter_map, hp, List.getLast?_map]

theorem lastReturn?_append (a b : List Tag) : lastReturn? (a ++ b) = (lastReturn? b).or (lastReturn? a) := by
  unfold lastReturn?
  rw [List.filter_append, List.getLast?_append]

theorem lastReturn?_eq_none_iff {piece : Piece} : lastReturn? piece.tags = none ↔ piece.makesReturn = false := by
  simp [lastReturn?, Piece.makesReturn, -List.getLast?_filter, List.getLast?_eq_none_iff, List.filter_eq_nil_iff]

theorem lastReturn?_flatMap_eq_none_iff {pieces : List Piece} :
    lastReturn? (pieces.flatMap Piece.tags) = none ↔ ∀ piece ∈ pieces, piece.makesReturn = false := by
  induction pieces with
  | nil => simp [lastReturn?]
  | cons piece rest ih =>
    rw [List.flatMap_cons, lastReturn?_append, Option.or_eq_none_iff, ih, lastReturn?_eq_none_iff, List.forall_mem_cons]
    exact And.comm

theorem mem_of_lastReturn? {tags : List Tag} {tag : Tag} (h : lastReturn? tags = some tag) :
    tag ∈ tags ∧ Gathered.isReturn tag = true :=
  List.mem_filter.mp (List.mem_of_getLast? h)

theorem exposed_of_lastReturn? {pieces : List Piece} {tag : Tag}
    (h : lastReturn? (pieces.flatMap Piece.tags) = some tag) (hv : tag.valid = false) : Exposed pieces := by
  induction pieces with
  | nil => cases h
  | cons piece rest ih =>
    rw [List.flatMap_cons, lastReturn?_append] at h
    cases hr : lastReturn? (rest.flatMap Piece.tags) with
    | some last =>
      rw [hr, Option.some_or] at h
      obtain ⟨a, bad, b, rfl, hm, hb⟩ := ih (hr.trans h)
      exact ⟨piece :: a, bad, b, rfl, hm, hb⟩
    | none =>
      rw [hr, Option.none_or] at h
      obtain ⟨ht, hret⟩ := mem_of_lastReturn? h
      have hm := Piece.valid_of_isReturn ht hret
      rw [hv] at hm
      refine ⟨[], piece, rest, rfl, by simpa using hm, ?_, lastReturn?_flatMap_eq_none_iff.mp hr⟩
      exact List.any_eq_true.mpr ⟨tag, ht, hret⟩

/-- The pieces are exposed just when the last tag for what is returned is not valid. -/
theorem exposed_iff {pieces : List Piece} :
    Exposed pieces ↔ ∃ tag, lastReturn? (gather pieces).tags = some tag ∧ tag.valid = false := by
  have hview : (lastReturn? (gather pieces).tags).map Tag.untyped = lastReturn? (pieces.flatMap Piece.tags) := by
    rw [← lastReturn?_untyped, gather_untyped]
  constructor
  · rintro ⟨a, bad, b, rfl, hm, hr, hb⟩
    cases hl : lastReturn? bad.tags with
    | none => exact absurd (lastReturn?_eq_none_iff.mp hl) (by simp [hr])
    | some tag =>
      rw [List.flatMap_append, List.flatMap_cons, lastReturn?_append, lastReturn?_append,
        lastReturn?_flatMap_eq_none_iff.mpr hb, hl, Option.none_or, Option.some_or] at hview
      obtain ⟨last, hlast, rfl⟩ := Option.map_eq_some_iff.mp hview
      obtain ⟨ht, hret⟩ := mem_of_lastReturn? hl
      have hv := Piece.valid_of_isReturn ht hret
      rw [hm] at hv
      exact ⟨last, hlast, hv⟩
  · rintro ⟨tag, hl, hv⟩
    rw [hl] at hview
    exact exposed_of_lastReturn? hview.symm hv

/-! ### Types that malformed tags take -/

namespace Gathered

/-- No malformed tag has taken a type of what is returned. -/
def NothingTaken (g : Gathered) : Prop := ∀ tag ∈ g.tags, isReturn tag = true → tag.valid = false → tag.type = none

theorem nothingTaken_of_tags {g g' : Gathered} {tag : Tag} (ht : g'.tags = g.tags ++ [tag])
    (hfree : isReturn tag = true → tag.valid = false → tag.type = none) : g'.NothingTaken ↔ g.NothingTaken := by
  unfold NothingTaken
  rw [ht]
  simp only [List.forall_mem_append, List.forall_mem_singleton]
  exact and_iff_left hfree

theorem addItem_nothingTaken (g : Gathered) (item : Item) : (g.addItem item).NothingTaken ↔ g.NothingTaken := by
  cases item with
  | param name type desc =>
    simp only [addItem]
    split <;> exact nothingTaken_of_tags rfl (by simp [isReturn])
  | returns type desc generator =>
    cases generator with
    | true => rfl
    | false =>
      simp only [addItem, Bool.false_eq_true, ↓reduceIte]
      split <;> exact nothingTaken_of_tags rfl (by simp)
  | raises type desc => exact nothingTaken_of_tags rfl (by simp)
  | other => rfl

theorem addItems_nothingTaken (g : Gathered) (found : List Item) :
    (found.foldl addItem g).NothingTaken ↔ g.NothingTaken := by
  induction found generalizing g with
  | nil => rfl
  | cons item rest ih => rw [List.foldl_cons, ih, addItem_nothingTaken]

/-- Giving a tag a type takes it if the tag is malformed and for what is returned. -/
theorem nothingTaken_setType {g g' : Gathered} {a b : List Tag} {tag : Tag} {type : Text} (hg : g.tags = a ++ tag :: b)
    (hg' : g'.tags = a ++ { tag with type := some type } :: b) (hn : tag.type = none ∨ isReturn tag = false) :
    g'.NothingTaken ↔ g.NothingTaken ∧ (isReturn tag = true → tag.valid = true) := by
  unfold NothingTaken
  rw [hg, hg']
  simp only [List.forall_mem_append, List.forall_mem_cons]
  constructor
  · rintro ⟨ha, ht, hb⟩
    refine ⟨⟨ha, fun hr _ => ?_, hb⟩, fun hr => ?_⟩
    · exact hn.resolve_right (by simp [hr])
    · cases hv : tag.valid with
      | true => rfl
      | false => exact absurd (ht hr hv) (by simp)
  · rintro ⟨⟨ha, -, hb⟩, hv⟩
    refine ⟨ha, fun hr hv' => ?_, hb⟩
    have hvalid : tag.valid = true := hv hr
    have hmalformed : tag.valid = false := hv'
    rw [hvalid] at hmalformed
    cases hmalformed

/-- A step takes a type exactly if the last tag for what is returned is malformed and the piece is such a type. -/
theorem add_nothingTaken (g : Gathered) (piece : Piece) :
    (g.add piece).NothingTaken ↔
      g.NothingTaken ∧ ∀ type, piece = .returnType type → ∀ tag, lastReturn? g.tags = some tag → tag.valid = true := by
  cases piece with
  | malformed chunk reason =>
    have h : (g.add (.malformed chunk reason)).NothingTaken ↔ g.NothingTaken := nothingTaken_of_tags rfl fun _ _ => rfl
    simp [h]
  | paramType names type =>
    have h : (g.addParamType names type).NothingTaken ↔ g.NothingTaken := by
      rcases g.addParamType_cases names type with ⟨name, a, tag, b, -, hg, hp, -, h⟩ | ⟨_, -, -, h⟩ | ⟨-, h⟩
      · have hr := isReturn_of_isParam hp
        rw [h, nothingTaken_setType hg rfl (Or.inr hr)]
        simp [hr]
      · rw [h]
        rfl
      · rw [h]
    simp [add, h]
  | returnType type =>
    simp only [add, Piece.returnType.injEq, forall_eq']
    rcases g.addReturnType_cases type with ⟨a, tag, b, hg, hr, ht, hb, h⟩ | ⟨hl, h⟩
    · rw [h, nothingTaken_setType hg rfl (Or.inl ht), lastReturn?, hg, getLast?_filter_of_last hr hb]
      simp [hr]
    · -- The last tag has a type already; if it were malformed, that type would have been taken.
      rw [h]
      refine (and_iff_left_of_imp fun hn tag hlast => ?_).symm
      obtain ⟨hmem, hr⟩ := mem_of_lastReturn? hlast
      cases hv : tag.valid with
      | true => rfl
      | false => exact absurd (hn tag hmem hr hv) (hl tag hlast)
  | items found => simp [add, addItems_nothingTaken]

end Gathered

/-- Nothing is taken in a run exactly when its pieces are undisturbed. -/
theorem gather_nothingTaken {pieces : List Piece} : (gather pieces).NothingTaken ↔ Undisturbed pieces := by
  induction pieces using List.reverseRecOn with
  | nil => exact ⟨fun _ => undisturbed_nil, fun _ tag h => by cases h⟩
  | append_singleton pieces piece ih =>
    rw [gather_concat, Gathered.add_nothingTaken, undisturbed_concat, ih]
    refine and_congr_right fun _ => forall_congr' fun type => imp_congr_right fun _ => ?_
    rw [exposed_iff]
    constructor
    · rintro h ⟨tag, hl, hv⟩
      rw [h tag hl] at hv
      cases hv
    · intro h tag hl
      cases hv : tag.valid with
      | true => rfl
      | false => exact absurd ⟨tag, hl, hv⟩ h

/-! ### Two runs -/

/-- The valid ones of some tags. -/
def validTags (tags : List Tag) : List Tag := tags.filter (·.valid)

@[simp] theorem validTags_append (a b : List Tag) : validTags (a ++ b) = validTags a ++ validTags b :=
  List.filter_append ..

theorem validTags_cons_of_valid {tag : Tag} (h : tag.valid = true) (b : List Tag) :
    validTags (tag :: b) = tag :: validTags b :=
  List.filter_cons_of_pos h

namespace Gathered

/-- Two states have the same valid tags and the same types that wait, and in the second all tags for what is returned
    are valid. -/
structure Alike (g g' : Gathered) : Prop where
  valid : validTags g.tags = validTags g'.tags
  paramTypes : g.paramTypes = g'.paramTypes
  returnTypes : g.returnTypes = g'.returnTypes
  sound : ∀ tag ∈ g'.tags, isReturn tag = true → tag.valid = true

namespace Alike
variable {g g' : Gathered}

theorem push (h : Alike g g') {u u' : Gathered} {tag : Tag} (ht : u.tags = g.tags ++ [tag])
    (ht' : u'.tags = g'.tags ++ [tag]) (hp : u.paramTypes = u'.paramTypes) (hr : u.returnTypes = u'.returnTypes)
    (hs : isReturn tag = true → tag.valid = true) : Alike u u' where
  valid := by rw [ht, ht', validTags_append, validTags_append, h.valid]
  paramTypes := hp
  returnTypes := hr
  sound := by
    rw [ht']
    simp only [List.forall_mem_append, List.forall_mem_singleton]
    exact ⟨h.sound, hs⟩

theorem addItem (h : Alike g g') (item : Item) : Alike (g.addItem item) (g'.addItem item) := by
  cases item with
  | param name type desc =>
    simp only [Gathered.addItem, h.paramTypes]
    split
    · exact h.push rfl rfl rfl h.returnTypes (by simp [isReturn])
    · exact h.push rfl rfl rfl h.returnTypes (by simp [isReturn])
  | returns type desc generator =>
    cases generator with
    | true => exact h
    | false =>
      simp only [Gathered.addItem, Bool.false_eq_true, ↓reduceIte, h.returnTypes]
      split
      · exact h.push rfl rfl h.paramTypes rfl (by simp)
      · exact h.push rfl rfl h.paramTypes rfl (by simp)
  | raises type desc => exact h.push rfl rfl h.paramTypes h.returnTypes (by simp)
  | other => exact h

theorem addItems (h : Alike g g') (found : List Item) :
    Alike (found.foldl Gathered.addItem g) (found.foldl Gathered.addItem g') := by
  induction found generalizing g g' with
  | nil => exact h
  | cons item rest ih => exact ih (h.addItem item)

theorem malformed (h : Alike g g') (chunk : Text) (reason : Malformed) :
    Alike (g.add (.malformed chunk reason)) g' where
  valid := by
    have hv : validTags [Tag.malformed chunk] = [] := rfl
    rw [add, validTags_append, hv, List.append_nil, h.valid]
  paramTypes := h.paramTypes
  returnTypes := h.returnTypes
  sound := h.sound

theorem mem_iff (h : Alike g g') {tag : Tag} (hv : tag.valid = true) : tag ∈ g.tags ↔ tag ∈ g'.tags := by
  have hmem : tag ∈ validTags g.tags ↔ tag ∈ validTags g'.tags := by rw [h.valid]
  simpa [validTags, List.mem_filter, hv] using hmem

/-- A valid tag that is the last of its kind is so among the valid tags, so that both runs change the same one. -/
theorem setType (h : Alike g g') {p : Tag → Bool} {a b a' b' : List Tag} {tag tag' : Tag} (type : Text)
    (hg : g.tags = a ++ tag :: b) (hg' : g'.tags = a' ++ tag' :: b') (hp : p tag = true) (hp' : p tag' = true)
    (hb : ∀ t ∈ b, p t = false) (hb' : ∀ t ∈ b', p t = false) (hv : tag.valid = true) (hv' : tag'.valid = true) :
    Alike { g with tags := a ++ { tag with type := some type } :: b }
      { g' with tags := a' ++ { tag' with type := some type } :: b' } where
  valid := by
    let give : Tag → Tag := fun t => { t with type := some type }
    have hvalid := h.valid
    rw [hg, hg', validTags_append, validTags_append, validTags_cons_of_valid hv, validTags_cons_of_valid hv'] at hvalid
    have hlast : ∀ c : List Tag, (∀ t ∈ c, p t = false) → ∀ t ∈ validTags c, p t = false := fun c hc t ht =>
      hc t (List.mem_filter.mp ht).1
    have hu := congrArg (updateLast p give) hvalid
    rw [updateLast_of_last hp (hlast b hb), updateLast_of_last hp' (hlast b' hb')] at hu
    have hgive : (give tag).valid = true := hv
    have hgive' : (give tag').valid = true := hv'
    rw [validTags_append, validTags_append, validTags_cons_of_valid hgive, validTags_cons_of_valid hgive']
    exact Option.some.inj hu
  paramTypes := h.paramTypes
  returnTypes := h.returnTypes
  sound := by
    have hs := h.sound
    rw [hg'] at hs
    simp only [List.forall_mem_append, List.forall_mem_cons] at hs ⊢
    exact hs

theorem addParamType (h : Alike g g') (names : List Text) (type : Text) :
    Alike (g.addParamType names type) (g'.addParamType names type) := by
  have hvalid : ∀ {name tag}, isParam name tag = true → tag.valid = true := fun hp => by
    simp only [isParam, Bool.and_eq_true] at hp
    exact hp.1.2
  rcases g.addParamType_cases names type with ⟨name, a, tag, b, rfl, hg, hp, hb, hd⟩ | ⟨name, rfl, hno, hd⟩ | ⟨hne, hd⟩
  · rcases g'.addParamType_cases [name] type with ⟨name', a', tag', b', hn, hg', hp', hb', hd'⟩ | ⟨name', hn, hno', -⟩ |
      ⟨hne, -⟩
    · cases hn
      rw [hd, hd']
      exact h.setType type hg hg' hp hp' hb hb' (hvalid hp) (hvalid hp')
    · cases hn
      have := hno' tag ((h.mem_iff (hvalid hp)).mp (by rw [hg]; simp))
      rw [hp] at this
      cases this
    · exact absurd rfl (hne name)
  · rcases g'.addParamType_cases [name] type with ⟨name', a', tag', b', hn, hg', hp', -, -⟩ | ⟨name', hn, -, hd'⟩ |
      ⟨hne, -⟩
    · cases hn
      have := hno tag' ((h.mem_iff (hvalid hp')).mpr (by rw [hg']; simp))
      rw [hp'] at this
      cases this
    · cases hn
      rw [hd, hd']
      exact ⟨h.valid, by rw [h.paramTypes], h.returnTypes, h.sound⟩
    · exact absurd rfl (hne name)
  · rcases g'.addParamType_cases names type with ⟨name', _, _, _, rfl, -⟩ | ⟨name', rfl, -⟩ | ⟨-, hd'⟩
    · exact absurd rfl (hne name')
    · exact absurd rfl (hne name')
    · rw [hd, hd']
      exact h

/-- If the last tag for what is returned is valid, it is the same one in both runs. -/
theorem lastReturn?_eq (h : Alike g g') (hl : ∀ tag, lastReturn? g.tags = some tag → tag.valid = true) :
    lastReturn? g.tags = lastReturn? g'.tags := by
  have hsound : lastReturn? (validTags g'.tags) = lastReturn? g'.tags := by
    unfold lastReturn? validTags
    rw [List.filter_filter]
    congr 1
    refine List.filter_congr fun tag ht => ?_
    cases hr : isReturn tag with
    | false => rfl
    | true => simp [h.sound tag ht hr]
  rw [← hsound, ← h.valid]
  cases hlast : lastReturn? g.tags with
  | none =>
    have hnil : g.tags.filter isReturn = [] := List.getLast?_eq_none_iff.mp hlast
    have hnone : validTags (g.tags.filter isReturn) = [] := by rw [hnil]; rfl
    unfold lastReturn? validTags
    rw [List.filter_filter, List.filter_congr fun tag _ => Bool.and_comm _ _, ← List.filter_filter]
    exact (List.getLast?_eq_none_iff.mpr hnone).symm
  | some tag =>
    obtain ⟨a, b, hg, hr, hb⟩ := getLast?_filter_eq_some hlast
    rw [hg, validTags_append, validTags_cons_of_valid (hl tag hlast)]
    exact (getLast?_filter_of_last hr fun t ht => hb t (List.mem_filter.mp ht).1).symm

theorem addReturnType (h : Alike g g') (type : Text) (hl : ∀ tag, lastReturn? g.tags = some tag → tag.valid = true) :
    Alike (g.addReturnType type) (g'.addReturnType type) := by
  have hsame := h.lastReturn?_eq hl
  have hlast : ∀ {t : Gathered} {a tag b}, t.tags = a ++ tag :: b → isReturn tag = true →
      (∀ x ∈ b, isReturn x = false) → lastReturn? t.tags = some tag := fun ht hr hb => by
    rw [ht]
    exact getLast?_filter_of_last hr hb
  rcases g.addReturnType_cases type with ⟨a, tag, b, hg, hr, ht, hb, hd⟩ | ⟨hty, hd⟩
  · rcases g'.addReturnType_cases type with ⟨a', tag', b', hg', hr', -, hb', hd'⟩ | ⟨hty', -⟩
    · rw [hd, hd']
      refine h.setType type hg hg' hr hr' hb hb' (hl tag (hlast hg hr hb)) (h.sound tag' ?_ hr')
      rw [hg']
      simp
    · exact absurd ht (hty' tag (hsame.symm.trans (hlast hg hr hb)))
  · rcases g'.addReturnType_cases type with ⟨a', tag', b', hg', hr', ht', hb', -⟩ | ⟨-, hd'⟩
    · exact absurd ht' (hty tag' (hsame.trans (hlast hg' hr' hb')))
    · rw [hd, hd']
      exact ⟨h.valid, h.paramTypes, by rw [h.returnTypes], h.sound⟩

end Alike
end Gathered

/-- As long as nothing is taken, leaving the malformed pieces out leaves the valid tags and all that waits as they
    are. -/
theorem gather_alike {pieces : List Piece} (h : Undisturbed pieces) :
    Gathered.Alike (gather pieces) (gather (pieces.filter fun piece => !piece.isMalformed)) := by
  induction pieces using List.reverseRecOn with
  | nil => exact ⟨rfl, rfl, rfl, fun _ ht => by cases ht⟩
  | append_singleton pieces piece ih =>
    have halike := ih (undisturbed_concat.mp h).1
    have htaken := gather_nothingTaken.mpr h
    rw [gather_concat] at htaken ⊢
    rw [List.filter_append]
    cases piece with
    | malformed chunk reason => simpa [Piece.isMalformed] using halike.malformed chunk reason
    | paramType names type =>
      rw [List.filter_cons_of_pos rfl, List.filter_nil, gather_concat]
      exact halike.addParamType names type
    | returnType type =>
      rw [List.filter_cons_of_pos rfl, List.filter_nil, gather_concat]
      exact halike.addReturnType type (((gather pieces).add_nothingTaken _).mp htaken |>.2 type rfl)
    | items found =>
      rw [List.filter_cons_of_pos rfl, List.filter_nil, gather_concat]
      exact halike.addItems found

theorem Gathered.Alike.validTags_all {g g' : Gathered} (h : g.Alike g') : validTags g.all = validTags g'.all := by
  rw [Gathered.all, Gathered.all, validTags_append, validTags_append, h.valid, h.returnTypes]

/-! ### Counting -/

theorem length_returnTypesOf (tags : List Tag) :
    (returnTypesOf tags).length =
      (returnTypesOf (validTags tags)).length + (returnTypesOf (tags.filter fun tag => !tag.valid)).length := by
  have hsplit := (List.filter_append_perm (fun tag : Tag => tag.valid) tags).filterMap Tag.returnType?
  rw [List.filterMap_append] at hsplit
  rw [← List.length_append]
  exact hsplit.length_eq.symm

/-- Without malformed pieces all tags for what is returned are valid. -/
theorem valid_of_mem_gather {pieces : List Piece} (h : ∀ piece ∈ pieces, piece.isMalformed = false) {tag : Tag}
    (ht : tag ∈ (gather pieces).all) (hr : Gathered.isReturn tag = true) : tag.valid = true := by
  rcases List.mem_append.mp ht with ht | ht
  · have hmem : tag.untyped ∈ pieces.flatMap Piece.tags := by
      rw [← gather_untyped]
      exact List.mem_map_of_mem ht
    obtain ⟨piece, hp, htag⟩ := List.mem_flatMap.mp hmem
    have hv : tag.untyped.valid = !piece.isMalformed := Piece.valid_of_isReturn htag hr
    rw [h piece hp] at hv
    exact hv
  · obtain ⟨type, -, rfl⟩ := List.mem_map.mp ht
    rfl

theorem flatMap_returnTypes_kept (pieces : List Piece) :
    (pieces.filter fun piece => !piece.isMalformed).flatMap Piece.returnTypes = pieces.flatMap Piece.returnTypes := by
  induction pieces with
  | nil => rfl
  | cons piece rest ih =>
    cases hm : piece.isMalformed with
    | true => simp [hm, ih, Piece.returnTypes_of_isMalformed hm]
    | false => simp [hm, ih]

/-- If the valid tags are the same without the malformed pieces, these have taken nothing: all types of what is returned
    that there are stand in valid tags then. -/
theorem undisturbed_of_validTags_eq {pieces : List Piece}
    (h : validTags (gather (pieces.filter fun piece => !piece.isMalformed)).all = validTags (gather pieces).all) :
    Undisturbed pieces := by
  let kept := pieces.filter fun piece => !piece.isMalformed
  have hkept : ∀ piece ∈ kept, piece.isMalformed = false := fun piece hp => by
    simpa using (List.mem_filter.mp hp).2
  have hcount : (returnTypesOf (gather pieces).all).length = (returnTypesOf (gather kept).all).length := by
    rw [(gather_returnTypes pieces).length_eq, (gather_returnTypes kept).length_eq, flatMap_returnTypes_kept]
  have hnone : (returnTypesOf ((gather kept).all.filter fun tag => !tag.valid)).length = 0 := by
    rw [List.length_eq_zero_iff, returnTypesOf, List.filterMap_eq_nil_iff]
    intro tag ht
    obtain ⟨hmem, hv⟩ := List.mem_filter.mp ht
    refine Tag.returnType?_of_not ?_
    cases hr : Gathered.isReturn tag with
    | false => rfl
    | true => simp [valid_of_mem_gather hkept hmem hr] at hv
  have hkeptCount := length_returnTypesOf (gather kept).all
  have hpiecesCount := length_returnTypesOf (gather pieces).all
  have hvalid : (returnTypesOf (validTags (gather kept).all)).length =
      (returnTypesOf (validTags (gather pieces).all)).length := by rw [h]
  have htaken : returnTypesOf ((gather pieces).all.filter fun tag => !tag.valid) = [] := by
    rw [← List.length_eq_zero_iff]
    omega
  refine gather_nothingTaken.mp fun tag ht hr hv => ?_
  have hmem : tag ∈ (gather pieces).all.filter fun tag => !tag.valid :=
    List.mem_filter.mpr ⟨List.mem_append_left _ ht, by simp [hv]⟩
  rw [← Tag.returnType?_of_isReturn hr]
  exact List.filterMap_eq_nil_iff.mp htaken tag hmem

/-! ### Chunks -/

/-- Whether a chunk does not follow the style. -/
def Style.rejects (style : Style) (chunk : Text) : Bool :=
  match style.read chunk with
  | .ok _ => false
  | .error fault => fault.isMalformed

theorem Piece.read_of_rejects {style : Style} {chunk : Text} (h : style.rejects chunk = true) :
    ∃ reason, Piece.read style chunk = .ok (.malformed chunk reason) := by
  unfold Style.rejects at h
  cases hr : style.read chunk with
  | ok outline => simp [hr] at h
  | error fault =>
    cases fault with
    | malformed reason => exact ⟨reason, by simp [Piece.read, hr]⟩
    | _ => simp [hr, Fault.isMalformed] at h

theorem Piece.not_isMalformed_of_read {style : Style} {chunk : Text} {piece : Piece} (h : style.rejects chunk = false)
    (hp : Piece.read style chunk = .ok piece) : piece.isMalformed = false := by
  rcases Piece.read_cases hp with ⟨outline, -, rfl⟩ | ⟨reason, hr, -⟩
  · unfold Piece.ofChunk
    split
    · rfl
    · split <;> rfl
  · simp [Style.rejects, hr, Fault.isMalformed] at h

/-- Without the chunks that are rejected the other pieces are the same, and the reading stops for the same reason. -/
theorem readPieces_kept (style : Style) (chunks : List Text) :
    readPieces style (chunks.filter fun chunk => !style.rejects chunk) =
      ((readPieces style chunks).1.filter fun piece => !piece.isMalformed, (readPieces style chunks).2) := by
  induction chunks with
  | nil => rfl
  | cons chunk rest ih =>
    cases hr : style.rejects chunk with
    | true =>
      obtain ⟨reason, hp⟩ := Piece.read_of_rejects hr
      rw [List.filter_cons_of_neg (by simp [hr]), ih, readPieces_cons, hp]
      rfl
    | false =>
      rw [List.filter_cons_of_pos (by simp [hr]), readPieces_cons, readPieces_cons, ih]
      cases hp : Piece.read style chunk with
      | error fault => rfl
      | ok piece => simp [Piece.not_isMalformed_of_read hr hp]

/-- The chunks that a style rejects can be left out without a change to the valid tags exactly when no type of what is
    returned comes after a malformed tag for it. Whether the reading comes to an end does not depend on them. -/
theorem validTags_without_rejected_iff (style : Style) (lead : Text) (chunks : List Text) :
    (∀ fault, (readTagged style lead (chunks.filter fun chunk => !style.rejects chunk)).outcome = .error fault ↔
      (readTagged style lead chunks).outcome = .error fault) ∧
    ∀ whole kept, (readTagged style lead chunks).outcome = .ok whole →
      (readTagged style lead (chunks.filter fun chunk => !style.rejects chunk)).outcome = .ok kept →
      (validTags kept.tags = validTags whole.tags ↔ Undisturbed (readPieces style chunks).1) := by
  simp only [readTagged_outcome, readPieces_kept]
  cases (readPieces style chunks).2 with
  | some fault => exact ⟨fun _ => Iff.rfl, fun _ _ h => by cases h⟩
  | none =>
    cases style.read lead with
    | error fault => exact ⟨fun _ => Iff.rfl, fun _ _ h => by cases h⟩
    | ok outline =>
      refine ⟨fun _ => by simp [Except.map], fun whole kept hw hk => ?_⟩
      cases hw
      cases hk
      exact ⟨undisturbed_of_validTags_eq, fun h => (gather_alike h).validTags_all.symm⟩

/-- A malformed tag for what is returned takes the type that comes after it: without that tag there is a valid one. -/
theorem validTags_changed_by_rejected :
    (readTagged .epydoc [] ["@return oops\n", "@rtype: int"]).outcome.map (fun docblock => validTags docblock.tags) =
      .ok [] ∧
    (readTagged .epydoc [] (List.filter (fun chunk => !Style.epydoc.rejects chunk)
      ["@return oops\n", "@rtype: int"])).outcome.map (fun docblock => validTags docblock.tags) =
      .ok [{ kind := .returns, type := some "int" }] := by
  constructor <;> rfl

end ApiDocs.Docblock
