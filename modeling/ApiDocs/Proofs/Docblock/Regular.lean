import ApiDocs.Proofs.Docblock.TagLine
import ApiDocs.Proofs.Docblock.Tolerance
import ApiDocs.Proofs.Outcome

/-! Reading tag by tag and reading as a whole. A docblock is regular if it is a summary, a blank line and tags of one
    line, where a type follows its tag and every name comes once. Both ways of reading then come to one tag for each
    clause, with the same texts. They differ in one point: the whole reading takes the question mark for an optional
    parameter off its type, the other one keeps it. So they agree just if no type of a parameter ends with one. -/

namespace ApiDocs.Docblock

open Text (isBlank allBlank Trailing Line)

/-- The tag with the question mark taken off the type of a parameter. Nothing is left of the mark alone. -/
def Tag.unmarked (tag : Tag) : Tag :=
  if tag.kind = .param then { tag with type := (tag.type.map dropOptional).filter fun type => !type.isEmpty }
  else tag

namespace Epydoc

/-! ### Clauses -/

/-- A tag of one line with its type, which may stand in a line of its own behind it. -/
inductive Clause
  | param (name desc : Text) (type : Option Text)
  | returns (desc : Text) (type : Option Text)
  | raises (error desc : Text)

namespace Clause

def tagLines : Clause → List TagLine
  | .param name desc type => ⟨.param name, desc⟩ :: type.toList.map fun text => ⟨.type name, text⟩
  | .returns desc type => ⟨.returns, desc⟩ :: type.toList.map fun text => ⟨.rtype, text⟩
  | .raises error desc => [⟨.raises error, desc⟩]

/-- The name under which the lines of a clause are joined. -/
def name? : Clause → Option Text
  | .param name _ _ => some name
  | .returns _ _ => some "return"
  | .raises _ _ => none

/-- Whether the clause gives a type for a parameter that ends with a question mark. -/
def isOptional : Clause → Bool
  | .param _ _ (some type) => (Text.trim type).getLast? == some '?'
  | _ => false

def expand : Clause → Clause
  | .param name desc type =>
    .param name (TagLine.expand ⟨.param name, desc⟩).text (type.map fun text => (TagLine.expand ⟨.type name, text⟩).text)
  | .returns desc type =>
    .returns (TagLine.expand ⟨.returns, desc⟩).text (type.map fun text => (TagLine.expand ⟨.rtype, text⟩).text)
  | .raises error desc => .raises error (TagLine.expand ⟨.raises error, desc⟩).text

def tag : Clause → Tag
  | .param name desc type =>
    { kind := .param, type := type.map Text.trim, param := some name, desc := Text.trim desc }
  | .returns desc type => { kind := .returns, type := type.map Text.trim, desc := Text.trim desc }
  | .raises error desc => { kind := .throws, type := some error, desc := Text.trim desc }

/-- The item of a clause in a docblock. -/
def item : Clause → Item
  | .param name desc type => .param name (type.map fun text => dropOptional (Text.trim text)) (Text.trim desc)
  | .returns desc type => .returns (type.map Text.trim) (Text.trim desc) false
  | .raises error desc => .raises (some error) (Text.trim desc)

def Regular (clause : Clause) : Prop := ∀ line ∈ clause.tagLines, line.Regular

instance (clause : Clause) : Decidable clause.Regular :=
  inferInstanceAs (Decidable (∀ line ∈ clause.tagLines, line.Regular))

theorem tagLines_expand (clause : Clause) : clause.expand.tagLines = clause.tagLines.map TagLine.expand := by
  rcases clause with ⟨name, desc, _ | type⟩ | ⟨desc, _ | type⟩ | ⟨error, desc⟩ <;> rfl

theorem name?_expand (clause : Clause) : clause.expand.name? = clause.name? := by
  cases clause <;> rfl

theorem isOptional_expand (clause : Clause) : clause.expand.isOptional = clause.isOptional := by
  rcases clause with ⟨name, desc, _ | type⟩ | ⟨desc, type⟩ | ⟨error, desc⟩
  · rfl
  · simp only [expand, TagLine.expand, isOptional, Option.map_some, Text.getLast?_trim]
    rw [← Text.flatten_words, (Text.words_expandTabs _ type).1, Text.flatten_words]
  · rfl
  · rfl

section Regular
variable {clause : Clause} (h : clause.Regular)
include h

theorem Regular.expand : clause.expand.Regular := fun expanded hm => by
  rw [tagLines_expand] at hm
  obtain ⟨line, hl, rfl⟩ := List.mem_map.mp hm
  exact (h line hl).expand

theorem Regular.isIdentifier {name : Text} {desc : Text} {type : Option Text} (hc : clause = .param name desc type) :
    Text.isIdentifier name = true := by
  subst hc
  have hname : isAsciiIdentifier name = true := (h _ List.mem_cons_self).head name rfl
  exact (Bool.and_eq_true_iff.mp hname).1

/-! ### Tag by tag -/

/-- The pieces of a clause add its tag, where nothing waits. -/
theorem Regular.gather {g : Gathered} (hp : g.paramTypes = []) (hr : g.returnTypes = []) :
    (clause.tagLines.map TagLine.piece).foldl Gathered.add g = { g with tags := g.tags ++ [clause.tag] } := by
  have hnone : ∀ {p : Tag → Bool}, ∀ t ∈ ([] : List Tag), p t = false := fun _ ht => absurd ht List.not_mem_nil
  obtain ⟨tags, _, _⟩ := g
  subst hp hr
  cases clause with
  | param name desc type =>
    have hvalid := h.isIdentifier rfl
    cases type with
    | none => simp [tagLines, TagLine.piece, Gathered.add, Gathered.addItem, tag, hvalid, Ordered.erase]
    | some type =>
      have hlast := fun f : Tag → Tag => updateLast_of_last (f := f) (a := tags) (b := [])
        (x := { kind := .param, type := none, param := some name, desc := Text.trim desc })
        (p := Gathered.isParam name) (by simp [Gathered.isParam]) hnone
      simp [tagLines, TagLine.piece, Gathered.add, Gathered.addItem, Gathered.addParamType, tag, hvalid, hlast,
        Ordered.erase]
  | returns desc type =>
    cases type with
    | none => rfl
    | some type =>
      have hlast := fun f : Tag → Tag => updateLast_of_last (f := f) (a := tags) (b := [])
        (x := { kind := .returns, desc := Text.trim desc }) (p := Gathered.isReturn) rfl hnone
      have hfilter := getLast?_filter_of_last (a := tags) (b := [])
        (x := { kind := .returns, desc := Text.trim desc }) (p := Gathered.isReturn) rfl hnone
      simp only [tagLines, TagLine.piece, Option.toList_some, List.map_cons, List.map_nil, List.foldl_cons,
        List.foldl_nil, Gathered.add, Gathered.addItem, Bool.false_eq_true, ↓reduceIte, Gathered.addReturnType, hfilter,
        hlast, tag, Option.map_some]
  | raises error desc => rfl

/-! ### As a whole -/

/-- The item of a clause adds its tag, but for the mark. -/
theorem Regular.addItem {g : Gathered} (hp : g.paramTypes = []) (hr : g.returnTypes = []) :
    g.addItem clause.item = { g with tags := g.tags ++ [clause.tag.unmarked] } := by
  obtain ⟨tags, _, _⟩ := g
  subst hp hr
  cases clause with
  | param name desc type =>
    have hvalid := h.isIdentifier rfl
    cases type with
    | none => simp [item, Gathered.addItem, tag, Tag.unmarked, hvalid, Ordered.erase]
    | some type =>
      cases hdrop : dropOptional (Text.trim type) with
      | nil => simp [item, Gathered.addItem, tag, Tag.unmarked, hdrop, hvalid, Ordered.erase, Option.filter_some]
      | cons c rest => simp [item, Gathered.addItem, tag, Tag.unmarked, hdrop, hvalid, Option.filter_some]
  | returns desc type =>
    cases type <;> rfl
  | raises error desc => rfl

end Regular

theorem name?_of_mem {clause : Clause} {line : TagLine} (hl : line ∈ clause.tagLines) :
    line.entry.subject.name? = clause.name? ∧ ∀ generator ∈ line.entry.generator?, generator = false := by
  rcases clause with ⟨name, desc, _ | type⟩ | ⟨desc, _ | type⟩ | ⟨error, desc⟩ <;>
    simp only [tagLines, Option.toList_none, Option.toList_some, List.map_nil, List.map_cons, List.mem_cons,
      List.not_mem_nil, or_false] at hl
  · subst hl
    exact ⟨rfl, fun _ hg => by cases hg⟩
  · rcases hl with rfl | rfl
    · exact ⟨rfl, fun _ hg => by cases hg⟩
    · exact ⟨rfl, fun _ hg => by cases hg⟩
  · subst hl
    exact ⟨rfl, fun _ hg => by cases hg; rfl⟩
  · rcases hl with rfl | rfl
    · exact ⟨rfl, fun _ hg => by cases hg; rfl⟩
    · exact ⟨rfl, fun _ hg => by cases hg; rfl⟩
  · subst hl
    exact ⟨rfl, fun _ hg => by cases hg⟩

end Clause

/-! ### All clauses -/

def tagLinesOf (clauses : List Clause) : List TagLine := clauses.flatMap Clause.tagLines

theorem tagLinesOf_cons (clause : Clause) (clauses : List Clause) :
    tagLinesOf (clause :: clauses) = clause.tagLines ++ tagLinesOf clauses := List.flatMap_cons

theorem tagLinesOf_append (a b : List Clause) : tagLinesOf (a ++ b) = tagLinesOf a ++ tagLinesOf b := List.flatMap_append

theorem gather_clauses {clauses : List Clause} (h : ∀ clause ∈ clauses, clause.Regular) {g : Gathered}
    (hp : g.paramTypes = []) (hr : g.returnTypes = []) :
    ((tagLinesOf clauses).map TagLine.piece).foldl Gathered.add g =
      { g with tags := g.tags ++ clauses.map Clause.tag } := by
  induction clauses generalizing g with
  | nil => simp [tagLinesOf]
  | cons clause clauses ih =>
    obtain ⟨hclause, hclauses⟩ := List.forall_mem_cons.mp h
    have hrest := ih hclauses (g := { g with tags := g.tags ++ [clause.tag] }) hp hr
    rw [tagLinesOf_cons, List.map_append, List.foldl_append, hclause.gather hp hr, hrest, List.append_assoc]
    rfl

theorem tagsOf_clauses {clauses : List Clause} (h : ∀ clause ∈ clauses, clause.Regular) :
    tagsOf (clauses.map Clause.item) = clauses.map fun clause => clause.tag.unmarked := by
  have hrun : ∀ {clauses : List Clause}, (∀ clause ∈ clauses, clause.Regular) → ∀ {g : Gathered}, g.paramTypes = [] →
      g.returnTypes = [] → ((clauses.map Clause.item).foldl Gathered.addItem g).tags =
        g.tags ++ clauses.map fun clause => clause.tag.unmarked := by
    intro clauses h g hp hr
    induction clauses generalizing g with
    | nil => simp
    | cons clause clauses ih =>
      obtain ⟨hclause, hclauses⟩ := List.forall_mem_cons.mp h
      have hrest := ih hclauses (g := { g with tags := g.tags ++ [clause.tag.unmarked] }) hp hr
      rw [List.map_cons, List.foldl_cons, hclause.addItem hp hr, hrest, List.append_assoc]
      rfl
  exact hrun h rfl rfl

/-- Where names are distinct, the last entry of a name is one of its clause. -/
theorem lastOf_clause {clauses : List Clause} (hnames : (clauses.filterMap Clause.name?).Nodup) {clause : Clause}
    (hc : clause ∈ clauses) {name : Text} (hname : clause.name? = some name) (isType : Bool) :
    lastOf ((tagLinesOf clauses).map TagLine.entry) name isType =
      lastOf (clause.tagLines.map TagLine.entry) name isType := by
  obtain ⟨before, after, rfl⟩ := List.append_of_mem hc
  -- No other clause has this name, so none of its entries is looked at.
  have hother : ∀ {others : List Clause}, name ∉ others.filterMap Clause.name? →
      ((tagLinesOf others).map TagLine.entry).filter (fun e => e.subject.name? == some name && e.isType == isType) = [] := by
    intro others hno
    rw [List.filter_eq_nil_iff]
    intro e he hboth
    obtain ⟨line, hl, rfl⟩ := List.mem_map.mp he
    obtain ⟨other, ho, hl⟩ := List.mem_flatMap.mp hl
    have hsame : line.entry.subject.name? = some name := by simpa using (Bool.and_eq_true_iff.mp hboth).1
    exact hno (List.mem_filterMap.mpr ⟨other, ho, by rw [← (Clause.name?_of_mem hl).1, hsame]⟩)
  rw [List.filterMap_append, List.filterMap_cons, hname] at hnames
  obtain ⟨-, hrest, hapart⟩ := List.nodup_append.mp hnames
  have hbefore : name ∉ before.filterMap Clause.name? := fun hm => hapart name hm name List.mem_cons_self rfl
  have hafter : name ∉ after.filterMap Clause.name? := (List.nodup_cons.mp hrest).1
  rw [tagLinesOf_append, tagLinesOf_cons, List.map_append, List.map_append, lastOf, List.filter_append,
    List.filter_append, hother hbefore, hother hafter, List.nil_append, List.append_nil]
  rfl

section Items
variable {all : List Entry} {done : List Text} {rest : List Entry}

theorem items_param {name : Text} (hnew : name ∉ done) (isType : Bool) (desc : Text) :
    items all done (⟨.param name isType, desc⟩ :: rest) =
      .param name ((lastOf all name true).map dropOptional) ((lastOf all name false).getD []) ::
        items all (name :: done) rest := by
  rw [items]
  exact if_neg (by simpa using hnew)

theorem items_returns (hnew : "return".toList ∉ done) (isType generator : Bool) (desc : Text) :
    items all done (⟨.returns isType generator, desc⟩ :: rest) =
      .returns (lastOf all "return" true) ((lastOf all "return" false).getD []) generator ::
        items all ("return" :: done) rest := by
  rw [items]
  exact if_neg (by simpa using hnew)

theorem items_done {e : Entry} {name : Text} (hname : e.subject.name? = some name) (hdone : name ∈ done) :
    items all done (e :: rest) = items all done rest := by
  obtain ⟨_ | _ | _ | _, desc⟩ := e <;> cases hname
  · rw [items]
    exact if_pos (by simpa using hdone)
  · rw [items]
    exact if_pos (by simpa using hdone)

end Items

/-- The first line of a clause makes its item, from all of its lines; the second is passed over. -/
theorem Clause.items_append {all : List Entry} {done : List Text} {clause : Clause}
    (hnew : ∀ name ∈ clause.name?, name ∉ done)
    (hlast : ∀ name ∈ clause.name?, ∀ isType,
      lastOf all name isType = lastOf (clause.tagLines.map TagLine.entry) name isType) (rest : List Entry) :
    items all done (clause.tagLines.map TagLine.entry ++ rest) =
      clause.item :: items all (clause.name?.toList ++ done) rest := by
  cases clause with
  | param name desc type =>
    have htype : lastOf all name true = type.map Text.trim := by
      rw [hlast name rfl]
      cases type <;> simp [lastOf, tagLines, TagLine.entry, Head.subject, Subject.name?, Entry.isType]
    have hdesc : lastOf all name false = some (Text.trim desc) := by
      rw [hlast name rfl]
      cases type <;> simp [lastOf, tagLines, TagLine.entry, Head.subject, Subject.name?, Entry.isType]
    have hfirst : ∀ more, items all done (⟨.param name false, Text.trim desc⟩ :: more) =
        (Clause.param name desc type).item :: items all (name :: done) more := fun more => by
      rw [items_param (hnew name rfl), htype, hdesc, Option.map_map]
      rfl
    cases type with
    | none => exact hfirst rest
    | some type => exact (hfirst _).trans (congrArg _ (items_done rfl List.mem_cons_self))
  | returns desc type =>
    have htype : lastOf all "return" true = type.map Text.trim := by
      rw [hlast _ rfl]
      cases type <;> rfl
    have hdesc : lastOf all "return" false = some (Text.trim desc) := by
      rw [hlast _ rfl]
      cases type <;> rfl
    have hfirst : ∀ more, items all done (⟨.returns false false, Text.trim desc⟩ :: more) =
        (Clause.returns desc type).item :: items all ("return" :: done) more := fun more => by
      rw [items_returns (hnew _ rfl), htype, hdesc]
      rfl
    cases type with
    | none => exact hfirst rest
    | some type => exact (hfirst _).trans (congrArg _ (items_done rfl List.mem_cons_self))
  | raises error desc => rfl

theorem items_clauses {all : List Entry} {clauses : List Clause}
    (hall : ∀ clause ∈ clauses, ∀ name ∈ clause.name?, ∀ isType,
      lastOf all name isType = lastOf (clause.tagLines.map TagLine.entry) name isType)
    (hnames : (clauses.filterMap Clause.name?).Nodup) {done : List Text}
    (hdone : ∀ name ∈ clauses.filterMap Clause.name?, name ∉ done) :
    items all done ((tagLinesOf clauses).map TagLine.entry) = clauses.map Clause.item := by
  induction clauses generalizing done with
  | nil => rfl
  | cons clause clauses ih =>
    obtain ⟨hclause, hclauses⟩ := List.forall_mem_cons.mp hall
    have hsplit : (clause :: clauses).filterMap Clause.name? = clause.name?.toList ++ clauses.filterMap Clause.name? := by
      rw [List.filterMap_cons]
      cases clause.name? <;> rfl
    rw [hsplit] at hnames hdone
    obtain ⟨-, hrest, hapart⟩ := List.nodup_append.mp hnames
    have hfresh : ∀ name ∈ clause.name?, name ∉ done := fun name hn =>
      hdone name (List.mem_append_left _ (Option.mem_toList.mpr hn))
    have hnext : items all (clause.name?.toList ++ done) ((tagLinesOf clauses).map TagLine.entry) =
        clauses.map Clause.item := by
      refine ih hclauses hrest fun name hn hm => ?_
      rcases List.mem_append.mp hm with hm | hm
      · exact hapart name hm name hn rfl
      · exact hdone name (List.mem_append_right _ hn) hm
    rw [tagLinesOf_cons, List.map_append, Clause.items_append hfresh hclause, hnext]
    rfl

theorem agree_clauses (clauses : List Clause) : agree ((tagLinesOf clauses).map TagLine.entry) = true := by
  have hfalse : ∀ generator ∈ ((tagLinesOf clauses).map TagLine.entry).filterMap Entry.generator?, generator = false := by
    intro generator hg
    obtain ⟨e, he, hg⟩ := List.mem_filterMap.mp hg
    obtain ⟨line, hl, rfl⟩ := List.mem_map.mp he
    obtain ⟨clause, -, hl⟩ := List.mem_flatMap.mp hl
    exact (Clause.name?_of_mem hl).2 generator hg
  rw [agree]
  split
  · rfl
  · rename_i first rest hgenerators
    rw [hgenerators] at hfalse
    obtain ⟨rfl, hrest⟩ := List.forall_mem_cons.mp hfalse
    exact List.all_eq_true.mpr fun generator hg => by rw [hrest generator hg]; rfl

/-! ### Marks -/

theorem dropOptional_concat (type : Text) : dropOptional (type ++ ['?']) = type := by
  have hsuffix : ("?".toList).isSuffixOf (type ++ ['?']) = true :=
    List.isSuffixOf_iff_suffix.mpr (List.suffix_append type ['?'])
  rw [dropOptional, Text.before?, if_pos hsuffix]
  simp

theorem dropOptional_of_ne {type : Text} (h : type.getLast? ≠ some '?') : dropOptional type = type := by
  have hsuffix : ¬("?".toList).isSuffixOf type = true := fun hs => by
    obtain ⟨front, rfl⟩ := List.isSuffixOf_iff_suffix.mp hs
    exact h (by simp)
  rw [dropOptional, Text.before?, if_neg hsuffix]
  rfl

/-- Just a clause with a mark has a tag that is changed without it. -/
theorem Clause.Regular.unmarked_eq_iff {clause : Clause} (h : clause.Regular) :
    clause.tag.unmarked = clause.tag ↔ clause.isOptional = false := by
  rcases clause with ⟨name, desc, _ | type⟩ | ⟨desc, type⟩ | ⟨error, desc⟩
  · exact iff_of_true rfl rfl
  · have hseen : allBlank type = false := (h ⟨.type name, type⟩ (List.mem_cons_of_mem _ List.mem_cons_self)).seen
    have hunmarked : ((tag (.param name desc (some type))).unmarked = tag (.param name desc (some type))) ↔
        (some (dropOptional (Text.trim type))).filter (fun type => !type.isEmpty) = some (Text.trim type) := by
      simp [tag, Tag.unmarked]
    rw [hunmarked, isOptional, beq_eq_false_iff_ne]
    by_cases hmark : (Text.trim type).getLast? = some '?'
    · obtain ⟨front, hfront⟩ := List.getLast?_eq_some_iff.mp hmark
      refine iff_of_false (fun hsame => ?_) (fun hno => hno hmark)
      have hshort := Option.eq_some_of_filter_eq_some hsame
      rw [hfront, dropOptional_concat] at hshort
      simp at hshort
    · refine iff_of_true ?_ hmark
      have hne : Text.trim type ≠ [] := fun hnil => by
        rw [Text.trim_eq_nil_iff.mp hnil] at hseen
        cases hseen
      rw [dropOptional_of_ne hmark, Option.filter_some, if_pos (by simpa using hne)]
  · exact iff_of_true rfl rfl
  · exact iff_of_true rfl rfl

/-! ### Regular docblocks -/

/-- The text of a docblock: its summary, a line of blanks, and its clauses. -/
def regularText (summary gap : Text) (clauses : List Clause) : Text :=
  Text.unlines (summary :: gap :: (tagLinesOf clauses).map TagLine.written)

/-- The summary is a line in which something is seen, and does not begin like a tag. The clauses are regular and have
    different names, where what is returned is called `return`. -/
structure Regular (summary gap : Text) (clauses : List Clause) : Prop where
  seen : allBlank summary = false
  feed : '\n' ∉ summary
  unmarked : Text.startsWith '@' (Text.trimLeft summary) = false
  blank : allBlank gap = true
  gapFeed : '\n' ∉ gap
  each : ∀ clause ∈ clauses, clause.Regular
  names : (clauses.filterMap Clause.name?).Nodup

instance (summary gap : Text) (clauses : List Clause) : Decidable (Regular summary gap clauses) :=
  decidable_of_iff (allBlank summary = false ∧ '\n' ∉ summary ∧ Text.startsWith '@' (Text.trimLeft summary) = false ∧
      allBlank gap = true ∧ '\n' ∉ gap ∧ (∀ clause ∈ clauses, clause.Regular) ∧
      (clauses.filterMap Clause.name?).Nodup)
    ⟨fun ⟨seen, feed, unmarked, blank, gapFeed, each, names⟩ => ⟨seen, feed, unmarked, blank, gapFeed, each, names⟩,
      fun h => ⟨h.seen, h.feed, h.unmarked, h.blank, h.gapFeed, h.each, h.names⟩⟩

def regularDocblock (summary : Text) (clauses : List Clause) : Docblock :=
  ⟨Text.trimLeft (Text.expandTabs 0 summary), [], clauses.map fun clause => clause.expand.tag⟩

theorem tagLinesOf_ne_nil {clauses : List Clause} (hne : clauses ≠ []) : tagLinesOf clauses ≠ [] := by
  obtain ⟨clause, rest, rfl⟩ := List.exists_cons_of_ne_nil hne
  rw [tagLinesOf_cons]
  cases clause <;> exact List.cons_ne_nil _ _

theorem mem_tagLinesOf {clauses : List Clause} (h : ∀ clause ∈ clauses, clause.Regular) :
    ∀ line ∈ tagLinesOf clauses, line.Regular := fun line hl => by
  obtain ⟨clause, hc, hl⟩ := List.mem_flatMap.mp hl
  exact h clause hc line hl

theorem tagLinesOf_expand (clauses : List Clause) :
    tagLinesOf (clauses.map Clause.expand) = (tagLinesOf clauses).map TagLine.expand := by
  induction clauses with
  | nil => rfl
  | cons clause clauses ih =>
    rw [List.map_cons, tagLinesOf_cons, tagLinesOf_cons, ih, Clause.tagLines_expand, List.map_append]

section Cleaned
variable {summary gap text : Text} {clauses : List Clause} (hline : Line summary)
  (hmark : Text.startsWith '@' summary = false) (hblank : allBlank gap = true) (hgap : '\n' ∉ gap)
  (hclauses : ∀ clause ∈ clauses, clause.Regular) (hne : clauses ≠ [])
  (hclean : Text.clean text = regularText summary gap clauses)
include hline hmark hblank hgap hclauses hne hclean

/-- The lead of a clean text is its summary with blanks behind it. -/
theorem parts_regularText :
    parts '@' text = (summary ++ '\n' :: (gap ++ ['\n']), chunks (tagLinesOf clauses)) := by
  have hgapmark : Text.startsWith '@' gap = false := by
    cases gap with
    | nil => rfl
    | cons c rest =>
      have hc : isBlank c = true := List.all_eq_true.mp hblank c List.mem_cons_self
      simp only [Text.startsWith, List.head?_cons, beq_eq_false_iff_ne, ne_eq, Option.some.injEq]
      rintro rfl
      cases hc
  have htext : regularText summary gap clauses =
      summary ++ '\n' :: (gap ++ '\n' :: Text.unlines ((tagLinesOf clauses).map TagLine.written)) := by
    obtain ⟨first, rest, hfirst⟩ := List.exists_cons_of_ne_nil (tagLinesOf_ne_nil hne)
    rw [regularText, Text.unlines_cons_cons, hfirst, List.map_cons, Text.unlines_cons_cons]
  rw [parts, hclean, htext, Text.cutBefore_append_feed (by decide) hline.feed, hmark,
    Text.cutBefore_append_feed (by decide) hgap, hgapmark, cutBefore_written (mem_tagLinesOf hclauses)]
  rfl

theorem readWhole_regularText (hnames : (clauses.filterMap Clause.name?).Nodup) :
    readWhole .epydoc text = .ok ⟨summary, [], clauses.map fun clause => clause.tag.unmarked⟩ := by
  have htrailing : Trailing ('\n' :: (gap ++ ['\n'])) := .feed (by rw [Text.allBlank_append, hblank]; rfl)
  have hitems : items ((tagLinesOf clauses).map TagLine.entry) [] ((tagLinesOf clauses).map TagLine.entry) =
      clauses.map Clause.item :=
    items_clauses (fun clause hc name hn isType => lastOf_clause hnames hc hn isType) hnames
      fun _ _ => List.not_mem_nil
  have hparts := parts_regularText hline hmark hblank hgap hclauses hne hclean
  rw [parts] at hparts
  have hread : Epydoc.read text = .ok ⟨summary, [], clauses.map Clause.item⟩ := by
    rw [Epydoc.read, hparts]
    simp only
    rw [mapM_entry_chunks (mem_tagLinesOf hclauses)]
    show (if agree ((tagLinesOf clauses).map TagLine.entry) = true then _ else _) = _
    rw [if_pos (agree_clauses clauses), hitems]
    exact congrArg Except.ok (Outline.ofLead_line hline.feed htrailing _)
  rw [readWhole, Style.read, hread, ← tagsOf_clauses hclauses]
  rfl

theorem readComment_regularText (htabs : ∀ line ∈ tagLinesOf clauses, '\t' ∉ line.text) :
    (readComment .epydoc text).outcome = .ok ⟨summary, [], clauses.map Clause.tag⟩ := by
  have htrailing : Trailing ('\n' :: (gap ++ ['\n'])) := .feed (by rw [Text.allBlank_append, hblank]; rfl)
  have hparts := parts_regularText hline hmark hblank hgap hclauses hne hclean
  have hmarker : Style.marker? .epydoc = some '@' := rfl
  have hseen : allBlank (Text.clean text) = false := by
    obtain ⟨c, rest, rfl, hc⟩ := Text.exists_of_startsSolid hline.solid
    simp [hclean, regularText, Text.unlines_cons_cons, allBlank, hc]
  have hlead : Style.read .epydoc (summary ++ '\n' :: (gap ++ ['\n'])) = .ok ⟨summary, [], []⟩ := by
    obtain ⟨b, hb, hcleaned⟩ := hline.clean htrailing
    exact read_plain_line hmarker hline hmark hb hcleaned
  have hchunks : chunks (tagLinesOf clauses) ≠ [] := by
    obtain ⟨first, rest, hfirst⟩ := List.exists_cons_of_ne_nil (tagLinesOf_ne_nil hne)
    rw [hfirst]
    cases rest <;> exact List.cons_ne_nil _ _
  have hgather : gather ((tagLinesOf clauses).map TagLine.piece) = { tags := clauses.map Clause.tag } :=
    gather_clauses hclauses rfl rfl
  rcases readComment_of_not_blank hmarker hseen with ⟨hnone, -⟩ | ⟨-, hread⟩
  · rw [hparts] at hnone
    exact absurd hnone hchunks
  · rw [hread, hparts, readTagged_outcome, readPieces_chunks (mem_tagLinesOf hclauses) htabs, hlead, hgather]
    simp only [Gathered.all, List.map_nil, List.append_nil]
    rfl

end Cleaned

section Regular
variable {summary gap : Text} {clauses : List Clause} (h : Regular summary gap clauses)
include h

theorem Regular.line : Line (Text.trimLeft (Text.expandTabs 0 summary)) := by
  have hsuffix : Text.trimLeft (Text.expandTabs 0 summary) <:+ Text.expandTabs 0 summary :=
    List.dropWhile_suffix isBlank
  refine ⟨Text.startsSolid_trimLeft fun hw => ?_,
    fun hm => Text.not_mem_feed_expandTabs h.feed 0 (hsuffix.mem hm),
    fun hm => Text.not_mem_expandTabs 0 summary (hsuffix.mem hm)⟩
  rw [(Text.words_expandTabs 0 summary).1, Text.words_eq_nil_iff, h.seen] at hw
  cases hw

theorem Regular.startsWith : Text.startsWith '@' (Text.trimLeft (Text.expandTabs 0 summary)) = false := by
  have hunmarked := h.unmarked
  rw [Text.startsWith, Text.head?_trimLeft, ← Text.flatten_words] at hunmarked ⊢
  rw [(Text.words_expandTabs 0 summary).1]
  exact hunmarked

theorem Regular.lines : Text.lines (Text.expandTabs 0 (regularText summary gap clauses)) =
    Text.expandTabs 0 summary :: Text.expandTabs 0 gap ::
      (tagLinesOf (clauses.map Clause.expand)).map TagLine.written := by
  have hlines : (summary :: gap :: (tagLinesOf clauses).map TagLine.written).map (Text.expandTabs 0) =
      Text.expandTabs 0 summary :: Text.expandTabs 0 gap ::
        (tagLinesOf (clauses.map Clause.expand)).map TagLine.written := by
    rw [List.map_cons, List.map_cons, List.map_map, tagLinesOf_expand, List.map_map]
    refine congrArg _ (congrArg _ (List.map_congr_left fun line hl => ?_))
    exact ((mem_tagLinesOf h.each line hl).written_expand).symm
  rw [regularText, Text.expandTabs_unlines, Text.lines_unlines (by simp), hlines]
  intro part hp
  obtain ⟨line, hl, rfl⟩ := List.mem_map.mp hp
  refine Text.not_mem_feed_expandTabs ?_ 0
  rcases List.mem_cons.mp hl with rfl | hl
  · exact h.feed
  · rcases List.mem_cons.mp hl with rfl | hl
    · exact h.gapFeed
    · obtain ⟨tag, ht, rfl⟩ := List.mem_map.mp hl
      have htag := mem_tagLinesOf h.each tag ht
      exact htag.not_mem (by decide) (by decide) (by decide) htag.feed

/-- A line with a tag stands at the margin, so that nothing but tabs and the blanks before the summary go. -/
theorem Regular.clean (hne : clauses ≠ []) : Text.clean (regularText summary gap clauses) =
    regularText (Text.trimLeft (Text.expandTabs 0 summary)) (Text.expandTabs 0 gap) (clauses.map Clause.expand) := by
  have htags := tagLinesOf_ne_nil (show clauses.map Clause.expand ≠ [] by simpa using hne)
  obtain ⟨front, last, hlast⟩ := (List.eq_nil_or_concat (tagLinesOf (clauses.map Clause.expand))).resolve_left htags
  have hwritten : (tagLinesOf (clauses.map Clause.expand)).map TagLine.written =
      front.map TagLine.written ++ [last.written] := by simp [hlast]
  have hmargin : Text.margin (Text.expandTabs 0 gap :: (tagLinesOf (clauses.map Clause.expand)).map TagLine.written) =
      some 0 := by
    rw [Text.margin, List.min?_eq_some_iff]
    refine ⟨List.mem_map.mpr ⟨last.written, List.mem_filter.mpr ⟨?_, rfl⟩, rfl⟩, fun _ _ => Nat.zero_le _⟩
    rw [hwritten]
    simp
  have hfirst : Text.trimLeft (Text.expandTabs 0 summary) ≠ [] := fun hnil => by
    have hsolid := h.line.solid
    rw [hnil] at hsolid
    cases hsolid
  have hfinal : last.written ≠ [] := List.cons_ne_nil _ _
  simp only [Text.clean, h.lines, Text.dedent, hmargin, List.drop_zero, List.map_id']
  rw [regularText, hwritten, ← List.cons_append, Text.dropEmptyEnds_of_ne hfirst hfinal]

theorem Regular.readings :
    (readComment .epydoc (regularText summary gap clauses)).outcome = .ok (regularDocblock summary clauses) ∧
    readWhole .epydoc (regularText summary gap clauses) =
      .ok { regularDocblock summary clauses with tags := (regularDocblock summary clauses).tags.map Tag.unmarked } := by
  have hmarker : Style.marker? .epydoc = some '@' := rfl
  by_cases hne : clauses = []
  · -- Without any tags the whole text is a line, with blanks behind it.
    subst hne
    have hbody : ∀ line ∈ [Text.expandTabs 0 gap], allBlank line = true := fun line hl => by
      rw [List.mem_singleton.mp hl]
      exact Text.allBlank_expandTabs h.blank 0
    have hfirst : allBlank (Text.expandTabs 0 summary) = false := by
      rw [Text.allBlank_eq_of_words (Text.words_expandTabs 0 summary).1, h.seen]
    obtain ⟨b, hb, hclean⟩ := Text.clean_of_blank_body h.lines hbody hfirst
    refine ⟨readComment_plain_line hmarker h.line h.startsWith hb hclean, ?_⟩
    · rw [readWhole, read_plain_line hmarker h.line h.startsWith hb hclean]
      rfl
  · have hgap := Text.not_mem_feed_expandTabs h.gapFeed 0
    have hblank := Text.allBlank_expandTabs h.blank 0
    have heach : ∀ clause ∈ clauses.map Clause.expand, clause.Regular := fun expanded hm => by
      obtain ⟨clause, hc, rfl⟩ := List.mem_map.mp hm
      exact (h.each clause hc).expand
    have hexpanded : clauses.map Clause.expand ≠ [] := by simpa using hne
    have hnames : ((clauses.map Clause.expand).filterMap Clause.name?).Nodup := by
      rw [List.filterMap_map, show Clause.name? ∘ Clause.expand = Clause.name? from funext Clause.name?_expand]
      exact h.names
    have htabs : ∀ line ∈ tagLinesOf (clauses.map Clause.expand), '\t' ∉ line.text := fun line hl => by
      rw [tagLinesOf_expand] at hl
      obtain ⟨tag, -, rfl⟩ := List.mem_map.mp hl
      exact Text.not_mem_expandTabs _ tag.text
    refine ⟨?_, ?_⟩
    · rw [readComment_regularText h.line h.startsWith hblank hgap heach hexpanded (h.clean hne) htabs, List.map_map]
      rfl
    · rw [readWhole_regularText h.line h.startsWith hblank hgap heach hexpanded (h.clean hne) hnames, List.map_map]
      simp only [regularDocblock, List.map_map]
      rfl

end Regular

/-- A regular docblock is read to one tag for each clause, tag by tag and as a whole; as a whole without the marks of
    optional parameters. So both ways agree just if there are none. -/
theorem readings_agree_iff {summary gap : Text} {clauses : List Clause} (h : Regular summary gap clauses) :
    ((Reader.style .epydoc).reading (.ofText? (some (regularText summary gap clauses)))).outcome =
      .ok (regularDocblock summary clauses) ∧
    readWhole .epydoc (regularText summary gap clauses) =
      .ok { regularDocblock summary clauses with tags := (regularDocblock summary clauses).tags.map Tag.unmarked } ∧
    (((Reader.style .epydoc).reading (.ofText? (some (regularText summary gap clauses)))).outcome =
      readWhole .epydoc (regularText summary gap clauses) ↔ ∀ clause ∈ clauses, clause.isOptional = false) := by
  obtain ⟨htagged, hwhole⟩ := h.readings
  have hreading : ((Reader.style .epydoc).reading (.ofText? (some (regularText summary gap clauses)))).outcome =
      .ok (regularDocblock summary clauses) := by rw [reading_ofText?, Option.getD_some, htagged]
  refine ⟨hreading, hwhole, ?_⟩
  rw [hreading, hwhole, Except.ok.injEq, Docblock.mk.injEq]
  simp only [true_and, regularDocblock, List.map_map]
  rw [List.map_inj_left]
  refine forall_congr' fun clause => forall_congr' fun hc => ?_
  rw [← clause.isOptional_expand, ← (h.each clause hc).expand.unmarked_eq_iff]
  exact eq_comm

/-- Tags of all kinds, with a tab in one of them and a mark where it stands for nothing. -/
def stocked : List Clause :=
  [.raises "Full" " or not?", .param "size" "how\tmany" (some "int "), .returns "the rest" (some "list?"),
   .param "label" "@param" none]

theorem readings_agree_iff_stocked :
    Regular " Fills it." "  " stocked ∧
    ((Reader.style .epydoc).reading (.ofText? (some (regularText " Fills it." "  " stocked)))).outcome =
      readWhole .epydoc (regularText " Fills it." "  " stocked) :=
  have h : Regular " Fills it." "  " stocked := by decide
  ⟨h, (readings_agree_iff h).2.2.mpr (by decide)⟩

/-- The mark stays where a docblock is read tag by tag. A summary that begins like a tag is taken for one, and the ways
    of reading differ on what is malformed. -/
theorem readings_differ :
    regularText "Summary." [] [.param "x" "d" (some "int?")] = "Summary.\n\n@param x: d\n@type x: int?" ∧
    ((Reader.style .epydoc).reading (.ofText? (some "Summary.\n\n@param x: d\n@type x: int?"))).outcome =
      .ok ⟨"Summary.", [], [{ kind := .param, type := some "int?", param := some "x", desc := "d" }]⟩ ∧
    readWhole .epydoc "Summary.\n\n@param x: d\n@type x: int?" =
      .ok ⟨"Summary.", [], [{ kind := .param, type := some "int", param := some "x", desc := "d" }]⟩ ∧
    ((Reader.style .epydoc).reading (.ofText? (some " @bad\n\n@return: x"))).outcome =
      .ok ⟨[], [], [{ kind := .other "bad", desc := "@bad", valid := false }, { kind := .returns, desc := "x" }]⟩ ∧
    readWhole .epydoc " @bad\n\n@return: x" = .error (.malformed (.chunk "@bad\n\n")) := by
  refine ⟨?_, ?_, ?_, ?_, ?_⟩ <;> rfl

end Epydoc
end ApiDocs.Docblock
