import ApiDocs.Proofs.Docblock.Gathering
import ApiDocs.Proofs.Ordered
import Mathlib.Data.List.Induction
import Mathlib.Data.List.TakeWhile

/-! Which type a parameter gets. A docblock may say the type of a parameter in the item for it, or in tags of their own
    before and after the item, and it may do so more than once. What it says about one parameter is a list of mentions;
    the type of each of its tags depends on that list alone, and on the place of the item there.

    Gathering is followed for one parameter at a time: the types of its tags and the type that waits for it make an
    account, to which each piece adds its mentions (`account_add`). What an account comes to is then told from the whole
    list of mentions (`Account.Tells`). -/

namespace ApiDocs.Docblock

/-! ### Mentions -/

/-- What is said about a parameter. -/
inductive Mention
  /-- There is an item for it, maybe with a type. -/
  | item (own : Option Text)
  /-- There is a type for it. -/
  | type (value : Text)
deriving DecidableEq

namespace Mention

def isItem : Mention → Bool
  | item _ => true
  | type _ => false

def isType (m : Mention) : Bool := !m.isItem

/-- An item without a type of its own. An empty type is none. -/
def isOpen : Mention → Bool
  | item (some (_ :: _)) => false
  | item _ => true
  | type _ => false

def value? : Mention → Option Text
  | item _ => none
  | type value => some value

/-- The last type in some mentions. -/
def lastType? (mentions : List Mention) : Option Text := (mentions.filterMap value?).getLast?

/-- The type that waits after some mentions: the last one before the first item, until an item without a type of its own
    takes it. -/
def waiting? (mentions : List Mention) : Option Text :=
  if mentions.any isOpen then none else lastType? (mentions.takeWhile isType)

/-- The type of an item that stands between other mentions: the last type that comes after it and before the next item;
    or else its own type; or else the type that waits. -/
def typeOf (before : List Mention) (own : Option Text) (after : List Mention) : Option Text :=
  (lastType? (after.takeWhile isType)).or (if isOpen (item own) then waiting? before else own)

/-! ### One more mention -/

theorem takeWhile_concat_item (l : List Mention) (own : Option Text) :
    (l ++ [item own]).takeWhile isType = l.takeWhile isType := by
  induction l with
  | nil => rfl
  | cons m rest ih =>
    rw [List.cons_append, List.takeWhile_cons, List.takeWhile_cons, ih]

theorem takeWhile_append_of_item {l : List Mention} (h : l.any isItem = true) (r : List Mention) :
    (l ++ r).takeWhile isType = l.takeWhile isType := by
  induction l with
  | nil => cases h
  | cons m rest ih =>
    rw [List.cons_append, List.takeWhile_cons, List.takeWhile_cons]
    cases m with
    | item own => rfl
    | type value => rw [ih h]

theorem takeWhile_of_no_item {l : List Mention} (h : l.any isItem = false) : l.takeWhile isType = l := by
  refine List.takeWhile_eq_self_iff.mpr fun m hm => ?_
  have hno := List.any_eq_false.mp h m hm
  rw [isType, Bool.not_eq_true', ← Bool.not_eq_true]
  exact hno

theorem lastType?_concat (l : List Mention) (value : Text) : lastType? (l ++ [type value]) = some value := by
  simp [lastType?, value?]

theorem takeWhile_concat_type {l : List Mention} (h : l.any isItem = false) (value : Text) :
    (l ++ [type value]).takeWhile isType = l ++ [type value] := by
  refine takeWhile_of_no_item ?_
  rw [List.any_append, h]
  rfl

theorem any_isOpen_of_no_item {l : List Mention} (h : l.any isItem = false) : l.any isOpen = false := by
  refine List.any_eq_false.mpr fun m hm => ?_
  have hno := List.any_eq_false.mp h m hm
  cases m with
  | item own => cases hno rfl
  | type value => simp [isOpen]

theorem waiting?_concat_item (l : List Mention) (own : Option Text) :
    waiting? (l ++ [item own]) = if isOpen (item own) then none else waiting? l := by
  unfold waiting?
  rw [List.any_append, takeWhile_concat_item]
  cases ho : isOpen (item own) <;> simp [ho]

theorem waiting?_concat_type (l : List Mention) (value : Text) :
    waiting? (l ++ [type value]) = if l.any isItem then waiting? l else some value := by
  have hopen : (l ++ [type value]).any isOpen = l.any isOpen := by simp [isOpen]
  unfold waiting?
  rw [hopen]
  cases hi : l.any isItem with
  | true => rw [takeWhile_append_of_item hi, if_pos rfl]
  | false => rw [any_isOpen_of_no_item hi, takeWhile_concat_type hi, lastType?_concat]; rfl

variable (before : List Mention) (own : Option Text)

theorem typeOf_nil : typeOf before own [] = if isOpen (item own) then waiting? before else own := rfl

theorem typeOf_concat_item (after : List Mention) (other : Option Text) :
    typeOf before own (after ++ [item other]) = typeOf before own after := by
  rw [typeOf, typeOf, takeWhile_concat_item]

theorem typeOf_concat_type (after : List Mention) (value : Text) :
    typeOf before own (after ++ [type value]) =
      if after.any isItem then typeOf before own after else some value := by
  cases hi : after.any isItem with
  | true => rw [typeOf, typeOf, takeWhile_append_of_item hi, if_pos rfl]
  | false => rw [typeOf, takeWhile_concat_type hi, lastType?_concat]; rfl

end Mention

/-! ### Accounts -/

/-- The types of the tags for a parameter, and the type that waits for it. -/
structure Account where
  types : List (Option Text) := []
  waiting : Option Text := none

namespace Account
open Mention

/-- An account after one more mention. -/
def add (a : Account) : Mention → Account
  | item own =>
    if isOpen (item own) then { types := a.types ++ [a.waiting] } else { a with types := a.types ++ [own] }
  | type value =>
    if a.types.isEmpty then { a with waiting := some value } else { a with types := a.types.dropLast ++ [some value] }

/-- What an account is after some mentions: the items have their types in order, and the type that waits is known. -/
structure Tells (mentions : List Mention) (a : Account) : Prop where
  length : a.types.length = mentions.countP isItem
  waiting : a.waiting = waiting? mentions
  types : ∀ before own after, mentions = before ++ item own :: after →
    a.types[before.countP isItem]? = some (typeOf before own after)

variable {mentions : List Mention} {a : Account}

/-- The last mention is an item, or the item stands among the others. -/
theorem split_concat {m : Mention} {before after : List Mention} {own : Option Text}
    (h : mentions ++ [m] = before ++ item own :: after) :
    (before = mentions ∧ m = item own ∧ after = []) ∨
      ∃ rest, after = rest ++ [m] ∧ mentions = before ++ item own :: rest := by
  rcases List.eq_nil_or_concat after with rfl | ⟨rest, last, rfl⟩
  · obtain ⟨rfl, hm⟩ := List.append_inj' h rfl
    exact Or.inl ⟨rfl, (List.cons.inj hm).1, rfl⟩
  · have hcut : mentions ++ [m] = (before ++ item own :: rest) ++ [last] := by simp [h]
    obtain ⟨rfl, hm⟩ := List.append_inj' hcut rfl
    exact Or.inr ⟨rest, by rw [(List.cons.inj hm).1, List.concat_eq_append], rfl⟩

theorem Tells.isEmpty_eq (h : a.Tells mentions) : a.types.isEmpty = !mentions.any isItem := by
  have hany : mentions.any isItem = true ↔ 0 < mentions.countP isItem := by
    rw [List.any_eq_true, List.countP_pos_iff]
  rw [Bool.eq_iff_iff, List.isEmpty_iff, ← List.length_eq_zero_iff, h.length, Bool.not_eq_true', ← Bool.not_eq_true, hany]
  omega

/-- A new item comes behind the others. It takes the type that waits if it has none. -/
theorem Tells.add_item (h : a.Tells mentions) (own : Option Text) : (a.add (item own)).Tells (mentions ++ [item own]) := by
  have htypes : (a.add (item own)).types = a.types ++ [if isOpen (item own) then waiting? mentions else own] := by
    rw [add, ← h.waiting]
    split <;> rfl
  refine ⟨?_, ?_, fun before own' after hsplit => ?_⟩
  · rw [htypes, List.length_append, h.length, List.countP_append]
    rfl
  · rw [waiting?_concat_item, add, ← h.waiting]
    split <;> rfl
  · rw [htypes]
    rcases split_concat hsplit with ⟨rfl, hm, rfl⟩ | ⟨rest, rfl, hmentions⟩
    · cases hm
      rw [← h.length, List.getElem?_concat_length, typeOf_nil]
    · have hold := h.types before own' rest hmentions
      rw [typeOf_concat_item, List.getElem?_append_left (List.getElem?_eq_some_iff.mp hold).1, hold]

/-- A type goes to the last item, or waits if there is none. -/
theorem Tells.add_type (h : a.Tells mentions) (value : Text) : (a.add (type value)).Tells (mentions ++ [type value]) := by
  have hcount : (mentions ++ [type value]).countP isItem = mentions.countP isItem := by
    rw [List.countP_append]
    rfl
  have hempty := h.isEmpty_eq
  cases hi : mentions.any isItem with
  | false =>
    have hadd : a.add (type value) = { a with waiting := some value } := by
      rw [add, hempty, hi]
      rfl
    rw [hadd]
    refine ⟨h.length.trans hcount.symm, ?_, fun before own after hsplit => ?_⟩
    · rw [waiting?_concat_type, hi]
      rfl
    · rcases split_concat hsplit with ⟨-, hm, -⟩ | ⟨rest, -, rfl⟩
      · cases hm
      · simp [isItem] at hi
  | true =>
    have hadd : a.add (type value) = { a with types := a.types.dropLast ++ [some value] } := by
      rw [add, hempty, hi]
      rfl
    have hpos : 0 < a.types.length := by
      rw [hi, Bool.not_true, List.isEmpty_eq_false_iff] at hempty
      exact List.length_pos_iff.mpr hempty
    rw [hadd]
    refine ⟨?_, ?_, fun before own after hsplit => ?_⟩
    · rw [hcount, ← h.length, List.length_append, List.length_dropLast]
      exact Nat.sub_add_cancel hpos
    · rw [waiting?_concat_type, hi, if_pos rfl]
      exact h.waiting
    · rcases split_concat hsplit with ⟨-, hm, -⟩ | ⟨rest, rfl, hmentions⟩
      · cases hm
      · have hold := h.types before own rest hmentions
        have hlength : a.types.length = before.countP isItem + (rest.countP isItem + 1) := by
          rw [h.length, hmentions, List.countP_append, List.countP_cons_of_pos rfl]
        rw [typeOf_concat_type]
        cases hr : rest.any isItem with
        | true =>
          -- A later item is the last one, so this one keeps its type.
          have hlater : 0 < rest.countP isItem := by
            rw [List.countP_pos_iff, ← List.any_eq_true, hr]
          rw [if_pos rfl, List.getElem?_append_left (by rw [List.length_dropLast]; omega), List.getElem?_dropLast,
            if_pos (by omega), hold]
        | false =>
          have hnone : rest.countP isItem = 0 :=
            List.countP_eq_zero.mpr fun m hm => by simpa using List.any_eq_false.mp hr m hm
          have hlast : before.countP isItem = a.types.dropLast.length := by
            rw [List.length_dropLast]
            omega
          rw [hlast, List.getElem?_concat_length]
          rfl

/-- What an account tells after a whole list of mentions. -/
theorem tells_foldl (mentions : List Mention) : (mentions.foldl add {}).Tells mentions := by
  induction mentions using List.reverseRecOn with
  | nil =>
    refine ⟨rfl, rfl, fun before own after h => ?_⟩
    simp at h
  | append_singleton mentions m ih =>
    rw [List.foldl_append]
    cases m with
    | item own => exact ih.add_item own
    | type value => exact ih.add_type value

end Account

/-! ### Following one parameter -/

/-- Whether a tag is for a parameter of a name. -/
def Tag.isFor (name : Text) (tag : Tag) : Bool := tag.kind == .param && tag.param == some name

/-- The types of the tags for a parameter, in order. -/
def typesFor (name : Text) (tags : List Tag) : List (Option Text) := (tags.filter (Tag.isFor name)).map (·.type)

def Item.mention? (name : Text) : Item → Option Mention
  | .param called type _ => if called = name then some (.item type) else none
  | _ => none

/-- What a piece says about a parameter. -/
def Piece.mentions (name : Text) : Piece → List Mention
  | .paramType names type => if names = [name] then [.type type] else []
  | .items found => found.filterMap (Item.mention? name)
  | _ => []

section Follow
variable {name : Text}

theorem typesFor_append (a b : List Tag) : typesFor name (a ++ b) = typesFor name a ++ typesFor name b := by
  simp [typesFor]

theorem typesFor_cons_of_not {tag : Tag} (h : tag.isFor name = false) (b : List Tag) :
    typesFor name (tag :: b) = typesFor name b := by
  simp [typesFor, h]

theorem typesFor_cons_of_isFor {tag : Tag} (h : tag.isFor name = true) (b : List Tag) :
    typesFor name (tag :: b) = tag.type :: typesFor name b := by
  simp [typesFor, h]

theorem typesFor_concat_of_not {tag : Tag} (h : tag.isFor name = false) (a : List Tag) :
    typesFor name (a ++ [tag]) = typesFor name a := by
  rw [typesFor_append, typesFor_cons_of_not h]
  exact List.append_nil _

theorem typesFor_eq_nil {tags : List Tag} (h : ∀ tag ∈ tags, tag.isFor name = false) : typesFor name tags = [] := by
  rw [typesFor, List.filter_eq_nil_iff.mpr fun tag ht => by simp [h tag ht], List.map_nil]

/-- A type that is given to a tag for something else does not count. -/
theorem typesFor_setType {tag : Tag} (h : tag.isFor name = false) (a b : List Tag) (type : Text) :
    typesFor name (a ++ { tag with type := some type } :: b) = typesFor name (a ++ tag :: b) := by
  have h' : Tag.isFor name { tag with type := some type } = false := h
  rw [typesFor_append, typesFor_append, typesFor_cons_of_not h, typesFor_cons_of_not h']

end Follow

namespace Gathered

/-- What is gathered about one parameter. -/
def account (name : Text) (g : Gathered) : Account := ⟨typesFor name g.tags, g.paramTypes.lookup name⟩

/-- All tags for a parameter are valid. -/
def Accepts (name : Text) (g : Gathered) : Prop := ∀ tag ∈ g.tags, tag.isFor name = true → tag.valid = true

variable {name : Text} {g : Gathered}

theorem isFor_of_isParam {other : Text} {tag : Tag} (h : isParam other tag = true) :
    tag.isFor name = true ↔ other = name := by
  simp only [isParam, Bool.and_eq_true, beq_iff_eq] at h
  simp [Tag.isFor, h.1.1, h.2]

theorem Accepts.isFor_eq (h : g.Accepts name) {tag : Tag} (ht : tag ∈ g.tags) (hp : isParam name tag = false) :
    tag.isFor name = false := by
  cases hf : tag.isFor name with
  | false => rfl
  | true =>
    have hvalid := h tag ht hf
    simp only [Tag.isFor, Bool.and_eq_true] at hf
    simp [isParam, hf.1, hf.2, hvalid] at hp

theorem account_addItem (g : Gathered) (item : Item) :
    (g.addItem item).account name = (item.mention? name).toList.foldl Account.add (g.account name) := by
  cases item with
  | param other type desc =>
    by_cases hn : other = name
    · subst hn
      rw [Item.mention?, if_pos rfl]
      rcases type with _ | _ | ⟨c, rest⟩
      · simp [addItem, account, typesFor, Tag.isFor, Account.add, Mention.isOpen, Ordered.lookup_erase]
      · simp [addItem, account, typesFor, Tag.isFor, Account.add, Mention.isOpen, Ordered.lookup_erase]
      · simp [addItem, account, typesFor, Tag.isFor, Account.add, Mention.isOpen]
    · rw [Item.mention?, if_neg hn]
      have hname : name ≠ other := fun h => hn h.symm
      rcases type with _ | _ | ⟨c, rest⟩
      · simp [addItem, account, typesFor, Tag.isFor, hn, Ordered.lookup_erase_of_ne hname]
      · simp [addItem, account, typesFor, Tag.isFor, hn, Ordered.lookup_erase_of_ne hname]
      · simp [addItem, account, typesFor, Tag.isFor, hn]
  | returns type desc generator =>
    cases generator with
    | true => rfl
    | false =>
      simp only [addItem, Bool.false_eq_true, ↓reduceIte]
      split <;> simp [account, typesFor, Tag.isFor, Item.mention?]
  | raises type desc => simp [addItem, account, typesFor, Tag.isFor, Item.mention?]
  | other => rfl

theorem account_addItems (g : Gathered) (found : List Item) :
    (found.foldl addItem g).account name =
      (found.filterMap (Item.mention? name)).foldl Account.add (g.account name) := by
  induction found generalizing g with
  | nil => rfl
  | cons item rest ih =>
    rw [List.foldl_cons, ih, account_addItem, List.filterMap_cons]
    cases item.mention? name <;> rfl

theorem account_addParamType (h : g.Accepts name) (names : List Text) (type : Text) :
    (g.addParamType names type).account name =
      (Piece.mentions name (.paramType names type)).foldl Account.add (g.account name) := by
  rcases g.addParamType_cases names type with ⟨other, a, tag, b, rfl, hg, hp, hb, hd⟩ | ⟨other, rfl, hno, hd⟩ | ⟨hne, hd⟩
  · rw [hd, Piece.mentions]
    by_cases hn : other = name
    · -- The tag is the last one for the parameter: those behind it are for others.
      subst hn
      have hfor : tag.isFor other = true := (isFor_of_isParam hp).mpr rfl
      have hfor' : Tag.isFor other { tag with type := some type } = true := hfor
      have hrest : typesFor other b = [] := typesFor_eq_nil fun t ht => h.isFor_eq (by simp [hg, ht]) (hb t ht)
      simp [account, hg, typesFor_append, typesFor_cons_of_isFor hfor, typesFor_cons_of_isFor hfor', hrest, Account.add]
    · have hfor : tag.isFor name = false := by
        rw [← Bool.not_eq_true, isFor_of_isParam hp]
        exact hn
      rw [if_neg (by simpa using hn), account, typesFor_setType hfor, ← hg]
      rfl
  · rw [hd, Piece.mentions]
    by_cases hn : other = name
    · subst hn
      have hnone : typesFor other g.tags = [] := typesFor_eq_nil fun t ht => h.isFor_eq ht (hno t ht)
      simp [account, hnone, Account.add, Ordered.lookup_put]
    · have hname : name ≠ other := fun h => hn h.symm
      rw [if_neg (by simpa using hn), account, Ordered.lookup_put_of_ne hname]
      rfl
  · rw [hd, Piece.mentions, if_neg (hne name)]
    rfl

theorem account_addReturnType (g : Gathered) (type : Text) : (g.addReturnType type).account name = g.account name := by
  rcases g.addReturnType_cases type with ⟨a, tag, b, hg, hr, -, -, hd⟩ | ⟨-, hd⟩
  · have hfor : tag.isFor name = false := by
      simp only [isReturn, beq_iff_eq] at hr
      simp [Tag.isFor, hr]
    rw [hd, account, typesFor_setType hfor, ← hg]
    rfl
  · rw [hd]
    rfl

/-- A piece adds what it says about a parameter to the account of the parameter. -/
theorem account_add (h : g.Accepts name) (piece : Piece) :
    (g.add piece).account name = (piece.mentions name).foldl Account.add (g.account name) := by
  cases piece with
  | malformed chunk reason =>
    have hfor : (Tag.malformed chunk).isFor name = false := by simp [Tag.isFor, Tag.malformed]
    rw [add, account, typesFor_concat_of_not hfor]
    rfl
  | paramType names type => exact account_addParamType h names type
  | returnType type => exact account_addReturnType g type
  | items found => exact account_addItems g found

theorem typesFor_all (g : Gathered) : typesFor name g.all = typesFor name g.tags := by
  have hwait : typesFor name (g.returnTypes.map fun type => { kind := .returns, type := some type }) = [] := by
    refine typesFor_eq_nil fun tag ht => ?_
    obtain ⟨type, -, rfl⟩ := List.mem_map.mp ht
    simp [Tag.isFor]
  rw [all, typesFor_append, hwait, List.append_nil]

end Gathered

/-- The tags for an identifier are valid. -/
theorem accepts_gather {name : Text} (hname : Text.isIdentifier name = true) (pieces : List Piece) :
    (gather pieces).Accepts name := by
  intro tag ht hfor
  have hmem : tag.untyped ∈ pieces.flatMap Piece.tags := by
    rw [← gather_untyped]
    exact List.mem_map_of_mem ht
  obtain ⟨piece, -, htag⟩ := List.mem_flatMap.mp hmem
  have hfor' : tag.untyped.isFor name = true := hfor
  have hvalid : tag.untyped.valid = true := by
    generalize tag.untyped = made at htag hfor'
    simp only [Tag.isFor, Bool.and_eq_true, beq_iff_eq] at hfor'
    cases piece with
    | malformed chunk reason =>
      obtain rfl := List.mem_singleton.mp htag
      cases hfor'.2
    | items found =>
      obtain ⟨item, -, hi⟩ := List.mem_filterMap.mp htag
      cases item with
      | param other type desc =>
        cases hi
        cases hfor'.2
        exact hname
      | returns type desc generator =>
        cases generator <;> cases hi
        rfl
      | raises type desc =>
        cases hi
        rfl
      | other => cases hi
    | paramType names type => cases htag
    | returnType type => cases htag
  exact hvalid

/-- What is gathered about a parameter is what the pieces say about it. -/
theorem account_gather {name : Text} (hname : Text.isIdentifier name = true) (pieces : List Piece) :
    (gather pieces).account name = (pieces.flatMap (Piece.mentions name)).foldl Account.add {} := by
  induction pieces using List.reverseRecOn with
  | nil => rfl
  | append_singleton pieces piece ih =>
    rw [gather_concat, Gathered.account_add (accepts_gather hname pieces), ih, List.flatMap_append, List.foldl_append,
      List.flatMap_singleton]

/-! ### Chunks -/

/-- What a chunk says about a parameter: the type in a chunk for the type of just this parameter, or else the items for
    it. A chunk that is rejected says nothing, and neither does one for the type of what is returned. -/
def Style.mentions (style : Style) (name : Text) : Text → List Mention := style.given (Piece.mentions name)

/-- A type that waits for the second of three items, and one that comes behind the third. One chunk is malformed, and one
    is about something else. -/
def mixed : List Text :=
  [":type x: int\n", ":param str x: a\n", ":param: oops\n", ":param x: b\n", ":type y: set\n", ":param x: c\n",
   ":type x: bool"]

end ApiDocs.Docblock
