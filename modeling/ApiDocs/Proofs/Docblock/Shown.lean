import ApiDocs.Proofs.Docblock.Isolation
import ApiDocs.Proofs.Docblock.Tolerance

/-! Which tags a text brings to a docblock, told from the tags that stand in it. In the epydoc style it is what each tag
    is about that counts, and of several tags of one name only the first. In the reST style it is the word at the start
    of each header, as it is written there; a type of what is returned counts only where nothing else is said about
    that. -/

namespace ApiDocs.Docblock

/-- Whether there is a tag of a kind among some tags, or one that is not valid. -/
def Shows (kind : Kind) (tags : List Tag) : Prop := ∃ tag ∈ tags, tag.kind = kind ∨ tag.valid = false

/-- Whether an item makes a tag of a kind, or one that is not valid. -/
def Item.Shows (kind : Kind) : Item → Prop
  | .param name _ _ => kind = .param ∨ Text.isIdentifier name = false
  | .returns _ _ generator => kind = .returns ∧ generator = false
  | .raises _ _ => kind = .throws
  | .other => False

theorem Item.shows_iff {kind : Kind} {item : Item} :
    item.Shows kind ↔ ∃ tag, item.tag? = some tag ∧ (tag.kind = kind ∨ tag.valid = false) := by
  cases item with
  | param name type desc => simp [Item.Shows, tag?, eq_comm (a := kind)]
  | returns type desc generator => cases generator <;> simp [Item.Shows, tag?, eq_comm (a := kind)]
  | raises type desc => simp [Item.Shows, tag?, eq_comm (a := kind)]
  | other => simp [Item.Shows, tag?]

theorem shows_filterMap_iff {kind : Kind} {items : List Item} :
    Docblock.Shows kind (items.filterMap Item.tag?) ↔ ∃ item ∈ items, item.Shows kind := by
  constructor
  · rintro ⟨tag, ht, hk⟩
    obtain ⟨item, hi, htag⟩ := List.mem_filterMap.mp ht
    exact ⟨item, hi, Item.shows_iff.mpr ⟨tag, htag, hk⟩⟩
  · rintro ⟨item, hi, hs⟩
    obtain ⟨tag, htag, hk⟩ := Item.shows_iff.mp hs
    exact ⟨tag, List.mem_filterMap.mpr ⟨item, hi, htag⟩, hk⟩

theorem Outline.items_ofLead (lead : Text) (items : List Item) : (Outline.ofLead lead items).items = items := by
  rw [ofLead]
  split <;> rfl

/-! ### Epydoc -/

namespace Epydoc

/-- Whether a tag about a subject is of a kind, or not valid. -/
def Subject.Shows (kind : Kind) : Subject → Prop
  | .param name _ => kind = .param ∨ Text.isIdentifier name = false
  | .returns _ generator => kind = .returns ∧ generator = false
  | .raises _ => kind = .throws
  | .other => False

/-- What some tags are about. -/
def subjects (tags : List Text) : List Subject := tags.filterMap fun tag => (subject? tag).map Prod.fst

/-- Some tags give one of a kind, or one that is not valid: it is about that, and the first of its name. -/
def Gives (kind : Kind) (tags : List Text) : Prop :=
  ∃ before subject after, subjects tags = before ++ subject :: after ∧
    (∀ name, subject.name? = some name → ∀ earlier ∈ before, earlier.name? ≠ some name) ∧ subject.Shows kind

/-- A tag is joined with an earlier one of its name, or makes an item. -/
theorem items_cons (all : List Entry) (done : List Text) (e : Entry) (rest : List Entry) :
    ((∃ name ∈ done, e.subject.name? = some name) ∧ items all done (e :: rest) = items all done rest) ∨
    ((∀ name ∈ done, e.subject.name? ≠ some name) ∧ ∃ item, (∀ kind, item.Shows kind ↔ e.subject.Shows kind) ∧
      items all done (e :: rest) = item :: items all (e.subject.name?.toList ++ done) rest) := by
  obtain ⟨subject, desc⟩ := e
  cases subject with
  | param name isType =>
    by_cases hd : name ∈ done
    · exact Or.inl ⟨⟨name, hd, rfl⟩, if_pos (List.contains_iff_mem.mpr hd)⟩
    · refine Or.inr ⟨?_, _, fun kind => Iff.rfl, if_neg (mt List.contains_iff_mem.mp hd)⟩
      rintro _ hn ⟨⟩
      exact hd hn
  | returns isType generator =>
    by_cases hd : "return".toList ∈ done
    · exact Or.inl ⟨⟨_, hd, rfl⟩, if_pos (List.contains_iff_mem.mpr hd)⟩
    · refine Or.inr ⟨?_, _, fun kind => Iff.rfl, if_neg (mt List.contains_iff_mem.mp hd)⟩
      rintro _ hn ⟨⟩
      exact hd hn
  | raises type => exact Or.inr ⟨nofun, _, fun kind => Iff.rfl, rfl⟩
  | other => exact Or.inr ⟨nofun, _, fun kind => Iff.rfl, rfl⟩

theorem items_shows_iff {kind : Kind} (all : List Entry) (done : List Text) (entries : List Entry) :
    (∃ item ∈ items all done entries, item.Shows kind) ↔
      ∃ before subject after, entries.map Entry.subject = before ++ subject :: after ∧
        (∀ name, subject.name? = some name → name ∉ done ∧ ∀ earlier ∈ before, earlier.name? ≠ some name) ∧
        subject.Shows kind := by
  induction entries generalizing done with
  | nil => simp [items]
  | cons e rest ih =>
    rcases items_cons all done e rest with ⟨⟨known, hknown, hname⟩, h⟩ | ⟨hnew, item, hitem, h⟩
    · rw [h, ih]
      constructor
      · rintro ⟨before, subject, after, hsplit, hfirst, hs⟩
        refine ⟨e.subject :: before, subject, after, by rw [List.map_cons, hsplit]; rfl, fun name hn => ?_, hs⟩
        refine ⟨(hfirst name hn).1, List.forall_mem_cons.mpr ⟨fun he => ?_, (hfirst name hn).2⟩⟩
        rw [hname] at he
        exact (hfirst name hn).1 (Option.some.inj he ▸ hknown)
      · rintro ⟨before, subject, after, hsplit, hfirst, hs⟩
        rcases before with _ | ⟨first, before⟩
        · obtain ⟨rfl, -⟩ := List.cons.inj hsplit
          exact absurd hknown (hfirst known hname).1
        · refine ⟨before, subject, after, (List.cons.inj hsplit).2, fun name hn => ?_, hs⟩
          exact ⟨(hfirst name hn).1, (List.forall_mem_cons.mp (hfirst name hn).2).2⟩
    · simp only [h, List.mem_cons, exists_eq_or_imp, hitem, ih]
      constructor
      · rintro (hs | ⟨before, subject, after, hsplit, hfirst, hs⟩)
        · refine ⟨[], e.subject, rest.map Entry.subject, rfl, fun name hn => ⟨fun hd => hnew name hd hn, nofun⟩, hs⟩
        · refine ⟨e.subject :: before, subject, after, by rw [List.map_cons, hsplit]; rfl, fun name hn => ?_, hs⟩
          obtain ⟨hdone, hearlier⟩ := hfirst name hn
          rw [List.mem_append, not_or] at hdone
          exact ⟨hdone.2, List.forall_mem_cons.mpr ⟨fun he => hdone.1 (by simp [he]), hearlier⟩⟩
      · rintro ⟨before, subject, after, hsplit, hfirst, hs⟩
        rcases before with _ | ⟨first, before⟩
        · obtain ⟨rfl, -⟩ := List.cons.inj hsplit
          exact Or.inl hs
        · obtain ⟨rfl, hrest⟩ := List.cons.inj hsplit
          refine Or.inr ⟨before, subject, after, hrest, fun name hn => ?_, hs⟩
          obtain ⟨hdone, hearlier⟩ := hfirst name hn
          obtain ⟨hne, hearlier⟩ := List.forall_mem_cons.mp hearlier
          refine ⟨?_, hearlier⟩
          rw [List.mem_append, not_or]
          exact ⟨fun hm => hne (Option.mem_toList.mp hm), hdone⟩

theorem subjects_of_mapM {tags : List Text} {entries : List Entry} (h : tags.mapM entry = .ok entries) :
    entries.map Entry.subject = subjects tags := by
  induction tags generalizing entries with
  | nil =>
    cases h
    rfl
  | cons tag rest ih =>
    rw [List.mapM_cons] at h
    obtain ⟨e, he, h⟩ := bind_eq_ok.mp h
    obtain ⟨others, hothers, h⟩ := bind_eq_ok.mp h
    cases h
    rw [List.map_cons, ih hothers, subjects, subjects, List.filterMap_cons]
    cases hs : subject? tag with
    | none =>
      rw [entry, hs] at he
      cases he
    | some found =>
      rw [entry, hs] at he
      cases he
      rfl

/-- The items of a text that can be read, from what the tags in it are about. -/
theorem read_shows_iff {kind : Kind} {s : Text} {outline : Outline} (h : read s = .ok outline) :
    (∃ item ∈ outline.items, item.Shows kind) ↔ Gives kind (revealed '@' s) := by
  have hread : (revealed '@' s).mapM entry >>= (fun entries =>
      if agree entries then
        .ok (Outline.ofLead (Text.cutBefore (Text.startsWith '@') (Text.clean s)).1 (items entries [] entries))
      else .error .returnsAndYields) = .ok outline := h
  obtain ⟨entries, hm, h⟩ := bind_eq_ok.mp hread
  split at h
  · cases h
    rw [Outline.items_ofLead, items_shows_iff, subjects_of_mapM hm, Gives]
    simp
  · cases h

end Epydoc

/-! ### reST -/

namespace Rest

/-- The words that stand for a kind of tag. -/
def wordsOf : Kind → List Text
  | .param => paramWords
  | .returns => returnWords
  | .throws => raiseWords
  | .other _ => []

/-- The words in the headers of some tags. -/
def headers (tags : List Text) : List (List Text) := tags.filterMap headerWords?

/-- Whether a header makes a tag of a kind, or one that is not valid. -/
def HeaderShows (kind : Kind) : List Text → Prop
  | [] => False
  | word :: args =>
    word ∈ wordsOf kind ∨ word ∈ paramWords ∧ ∃ name, args.getLast? = some name ∧ Text.isIdentifier name = false

/-- Whether a header is about what is returned or yielded. -/
def IsReturns (words : List Text) : Prop := ∃ word args, words = word :: args ∧ word ∈ returnWords ++ yieldWords

/-- Whether a header is for the type of what is returned. -/
def IsReturnType (words : List Text) : Prop := ∃ args, words = "rtype".toList :: args ∧ args.length ≤ 1

/-- Some tags give one of a kind, or one that is not valid: it has a word of that kind, or the tags give a type of what
    is returned and nothing else about it. -/
def Gives (kind : Kind) (tags : List Text) : Prop :=
  (∃ words ∈ headers tags, HeaderShows kind words) ∨
    kind = .returns ∧ (∃ words ∈ headers tags, IsReturnType words) ∧ ∀ words ∈ headers tags, ¬IsReturns words

/-- A word stands for one kind at most. -/
theorem mem_wordsOf_iff {word : Text} {other : Kind} (h : word ∈ wordsOf other) (kind : Kind) :
    word ∈ wordsOf kind ↔ kind = other := by
  have hparam : ∀ word ∈ paramWords, word ∉ returnWords ∧ word ∉ raiseWords := by decide
  have hreturns : ∀ word ∈ returnWords, word ∉ paramWords ∧ word ∉ raiseWords := by decide
  have hraise : ∀ word ∈ raiseWords, word ∉ paramWords ∧ word ∉ returnWords := by decide
  cases other with
  | param => cases kind <;> simp [wordsOf, hparam word h, show word ∈ paramWords from h]
  | returns => cases kind <;> simp [wordsOf, hreturns word h, show word ∈ returnWords from h]
  | throws => cases kind <;> simp [wordsOf, hraise word h, show word ∈ raiseWords from h]
  | other _ => cases h

/-- No word for what is yielded stands for a kind. -/
theorem not_mem_wordsOf_of_yield {word : Text} (h : word ∈ yieldWords) (kind : Kind) : word ∉ wordsOf kind := by
  have hyield : ∀ word ∈ yieldWords, word ∉ paramWords ∧ word ∉ returnWords ∧ word ∉ raiseWords := by decide
  cases kind with
  | param => exact (hyield word h).1
  | returns => exact (hyield word h).2.1
  | throws => exact (hyield word h).2.2
  | other _ => exact List.not_mem_nil

/-- What an item is, by the word at the start of its header. -/
theorem item_cases_of_ok {e : Entry} {i : Item} (h : item e = .ok i) :
    ∃ word args, e.words = word :: args ∧
      ((word ∈ paramWords ∧ ∃ name type desc, args.getLast? = some name ∧ i = .param name type desc) ∨
       (word ∈ returnWords ∧ ∃ type desc, i = .returns type desc false) ∨
       (word ∈ yieldWords ∧ ∃ type desc, i = .returns type desc true) ∨
       (word ∈ raiseWords ∧ ∃ type desc, i = .raises type desc) ∨
       ((∀ kind, word ∉ wordsOf kind) ∧ word ∉ returnWords ++ yieldWords ∧ i = .other)) := by
  unfold item at h
  rcases hw : e.words with _ | ⟨word, args⟩
  · rw [hw] at h
    cases h
  · refine ⟨word, args, rfl, ?_⟩
    rw [hw] at h
    simp only [List.contains_eq_mem, decide_eq_true_eq, Bool.or_eq_true] at h
    split at h
    · rename_i hp
      refine Or.inl ⟨hp, ?_⟩
      split at h
      · cases h
        exact ⟨_, _, _, rfl, rfl⟩
      · cases h
        exact ⟨_, _, _, rfl, rfl⟩
      · cases h
    · rename_i hp
      split at h
      · rename_i hr
        split at h
        · cases h
          by_cases hy : word ∈ yieldWords
          · exact Or.inr (Or.inr (Or.inl ⟨hy, _, _, by rw [decide_eq_true hy]⟩))
          · exact Or.inr (Or.inl ⟨hr.resolve_right hy, _, _, by rw [decide_eq_false hy]⟩)
        · cases h
      · rename_i hr
        split at h
        · rename_i hx
          split at h
          · cases h
            exact Or.inr (Or.inr (Or.inr (Or.inl ⟨hx, _, _, rfl⟩)))
          · cases h
        · rename_i hx
          cases h
          refine Or.inr (Or.inr (Or.inr (Or.inr ⟨fun kind => ?_, by rwa [List.mem_append], rfl⟩)))
          cases kind with
          | param => exact hp
          | returns => exact fun hm => hr (Or.inl hm)
          | throws => exact hx
          | other _ => exact List.not_mem_nil

/-- An item shows what its header does. -/
theorem item_shows {e : Entry} {i : Item} (h : item e = .ok i) :
    (∀ kind, i.Shows kind ↔ HeaderShows kind e.words) ∧ (isReturns i = true ↔ IsReturns e.words) := by
  obtain ⟨word, args, hw, hcases⟩ := item_cases_of_ok h
  have hreturns : IsReturns e.words ↔ word ∈ returnWords ++ yieldWords := by
    rw [hw]
    exact ⟨by rintro ⟨_, _, ⟨⟩, hm⟩; exact hm, fun hm => ⟨word, args, rfl, hm⟩⟩
  rw [hreturns, hw]
  -- A word that is not for parameters shows a kind only by standing for it.
  have hplain : word ∉ wordsOf .param → ∀ kind, HeaderShows kind (word :: args) ↔ word ∈ wordsOf kind := fun hp kind =>
    or_iff_left fun hparam => hp hparam.1
  rcases hcases with ⟨hp, name, type, desc, hname, rfl⟩ | ⟨hr, type, desc, rfl⟩ | ⟨hy, type, desc, rfl⟩ |
    ⟨hx, type, desc, rfl⟩ | ⟨hkind, hno, rfl⟩
  · have hword : word ∈ wordsOf .param := hp
    have hnot := not_mem_of_paramWords hp
    rw [List.mem_append, not_or] at hnot
    refine ⟨fun kind => ?_, by simp [isReturns, hnot.1]⟩
    rw [HeaderShows, mem_wordsOf_iff hword, hname]
    simp [Item.Shows, hp]
  · have hword : word ∈ wordsOf .returns := hr
    refine ⟨fun kind => ?_, by simp [isReturns, hr]⟩
    rw [hplain (by simp [mem_wordsOf_iff hword]), mem_wordsOf_iff hword]
    simp [Item.Shows]
  · refine ⟨fun kind => ?_, by simp [isReturns, hy]⟩
    rw [hplain (not_mem_wordsOf_of_yield hy _)]
    simp [Item.Shows, not_mem_wordsOf_of_yield hy]
  · have hword : word ∈ wordsOf .throws := hx
    have hno : word ∉ returnWords ++ yieldWords := by
      rw [List.mem_append, not_or]
      exact ⟨fun hr => by simpa using (mem_wordsOf_iff hword .returns).mp hr,
        fun hy => not_mem_wordsOf_of_yield hy _ hword⟩
    refine ⟨fun kind => ?_, by simp [isReturns, hno]⟩
    rw [hplain (by simp [mem_wordsOf_iff hword]), mem_wordsOf_iff hword]
    rfl
  · refine ⟨fun kind => ?_, by simp [isReturns, hno]⟩
    rw [hplain (hkind _)]
    simp [Item.Shows, hkind]

/-- What a tag that can be read does: it gives a type, or makes an item. -/
theorem add_cases_of_ok {content content' : Content} {tag : Text} (h : content.add tag = .ok content') :
    ∃ e, headerWords? tag = some e.words ∧
      ((∃ name types, e.words = ["type".toList, name] ∧ content' = { content with types }) ∨
       (IsReturnType e.words ∧
        ∃ key desc, content' = { content with returnTypes := Ordered.put key desc content.returnTypes }) ∨
       (¬IsReturnType e.words ∧ ∃ i, item e = .ok i ∧ content' = { content with items := content.items ++ [i] })) := by
  rcases entry_words tag with ⟨-, he⟩ | ⟨e, hh, he⟩
  · rw [Content.add, he] at h
    cases h
  · refine ⟨e, hh, ?_⟩
    have hentry : (entry tag).mapError Fault.malformed = .ok e := mapError_eq_ok.mpr he
    have hitem : (item e >>= fun i => pure { content with items := content.items ++ [i] } : Except Fault Content) =
        .ok content' → ∃ i, item e = .ok i ∧ content' = { content with items := content.items ++ [i] } := by
      intro h
      obtain ⟨i, hi, h⟩ := bind_eq_ok.mp h
      cases h
      exact ⟨i, hi, rfl⟩
    unfold Content.add at h
    simp only [hentry, bind, Except.bind] at h
    rcases hw : e.words with _ | ⟨key, _ | ⟨name, _ | ⟨more, rest⟩⟩⟩
    · rw [hw] at h
      exact Or.inr (Or.inr ⟨by simp [IsReturnType], hitem h⟩)
    · rw [hw] at h
      simp only at h
      split at h
      · rename_i hk
        cases h
        exact Or.inr (Or.inl ⟨⟨[], by rw [hk], by simp⟩, _, _, rfl⟩)
      · rename_i hk
        exact Or.inr (Or.inr ⟨by simpa [IsReturnType] using hk, hitem h⟩)
    · rw [hw] at h
      simp only at h
      split at h
      · rename_i hk
        cases h
        exact Or.inl ⟨name, _, by rw [hk], rfl⟩
      · split at h
        · rename_i hk
          cases h
          exact Or.inr (Or.inl ⟨⟨[name], by rw [hk], by simp⟩, _, _, rfl⟩)
        · rename_i hk
          exact Or.inr (Or.inr ⟨by simpa [IsReturnType] using hk, hitem h⟩)
    · rw [hw] at h
      exact Or.inr (Or.inr ⟨by simp [IsReturnType], hitem h⟩)

/-- What is read of some tags, told from their headers. -/
structure Content.Adds (headers : List (List Text)) (content content' : Content) : Prop where
  shows : ∀ kind, (∃ i ∈ content'.items, i.Shows kind) ↔
    (∃ i ∈ content.items, i.Shows kind) ∨ ∃ words ∈ headers, HeaderShows kind words
  returns : (∃ i ∈ content'.items, isReturns i = true) ↔
    (∃ i ∈ content.items, isReturns i = true) ∨ ∃ words ∈ headers, IsReturns words
  returnTypes : content'.returnTypes ≠ [] ↔ content.returnTypes ≠ [] ∨ ∃ words ∈ headers, IsReturnType words

/-- A header for a type shows no kind and is not about what is returned. -/
theorem not_shows_of_type {word : Text} (h : word = "type".toList ∨ word = "rtype".toList) (args : List Text) :
    (∀ kind, ¬HeaderShows kind (word :: args)) ∧ ¬IsReturns (word :: args) := by
  have hkind : ∀ kind, word ∉ wordsOf kind := by
    intro kind
    cases kind with
    | other _ => exact List.not_mem_nil
    | _ => rcases h with rfl | rfl <;> decide
  have hreturns : word ∉ returnWords ++ yieldWords := by
    rcases h with rfl | rfl <;> decide
  refine ⟨fun kind hs => ?_, ?_⟩
  · rcases hs with hs | ⟨hp, -⟩
    · exact hkind kind hs
    · exact hkind .param hp
  · rintro ⟨_, _, ⟨⟩, hm⟩
    exact hreturns hm

theorem add_adds {content content' : Content} {tag : Text} (h : content.add tag = .ok content') :
    ∃ words, headerWords? tag = some words ∧ Content.Adds [words] content content' := by
  obtain ⟨e, hh, hcases⟩ := add_cases_of_ok h
  refine ⟨e.words, hh, ?_⟩
  rcases hcases with ⟨name, types, hw, rfl⟩ | ⟨⟨args, hw, hl⟩, key, desc, rfl⟩ | ⟨htype, i, hi, rfl⟩
  · obtain ⟨hshows, hreturns⟩ := not_shows_of_type (Or.inl rfl) [name]
    have htype : ¬IsReturnType ["type".toList, name] := by
      rintro ⟨_, h, -⟩
      exact absurd (List.cons.inj h).1 (by decide)
    rw [← hw] at hshows hreturns htype
    exact ⟨by simp [hshows], by simp [hreturns], by simp [htype]⟩
  · obtain ⟨hshows, hreturns⟩ := not_shows_of_type (Or.inr rfl) args
    have htype : IsReturnType ("rtype".toList :: args) := ⟨args, rfl, hl⟩
    have hput : Ordered.put key desc content.returnTypes ≠ [] := by
      intro hnil
      have hfound := Ordered.lookup_put key desc content.returnTypes
      rw [hnil] at hfound
      cases hfound
    rw [← hw] at hshows hreturns htype
    exact ⟨by simp [hshows], by simp [hreturns], by simp [htype, hput]⟩
  · obtain ⟨hshows, hreturns⟩ := item_shows hi
    exact ⟨by simp [or_and_right, exists_or, hshows], by simp [or_and_right, exists_or, hreturns], by simp [htype]⟩

theorem foldlM_adds {content content' : Content} {tags : List Text}
    (h : tags.foldlM Content.add content = .ok content') : Content.Adds (headers tags) content content' := by
  induction tags generalizing content with
  | nil =>
    cases h
    exact ⟨by simp [headers], by simp [headers], by simp [headers]⟩
  | cons tag rest ih =>
    rw [foldlM_add_cons] at h
    obtain ⟨next, hnext, h⟩ := bind_eq_ok.mp h
    obtain ⟨words, hw, hstep⟩ := add_adds hnext
    have hrest := ih h
    have hheaders : headers (tag :: rest) = words :: headers rest := by simp [headers, hw]
    rw [hheaders]
    exact {
      shows := fun kind => by rw [hrest.shows, hstep.shows]; simp [or_assoc]
      returns := by rw [hrest.returns, hstep.returns]; simp [or_assoc]
      returnTypes := by rw [hrest.returnTypes, hstep.returnTypes]; simp [or_assoc] }

/-- A type that stands in a tag of its own changes nothing but the type of an item. -/
theorem typed_shows {content : Content} {kind : Kind} (i : Item) : (content.typed i).Shows kind ↔ i.Shows kind := by
  cases i <;> rfl

theorem all_shows_iff {content : Content} {kind : Kind} :
    (∃ i ∈ content.all, i.Shows kind) ↔
      (∃ i ∈ content.items, i.Shows kind) ∨
        kind = .returns ∧ content.returnTypes ≠ [] ∧ ¬∃ i ∈ content.items, isReturns i = true := by
  have htyped : (∃ i ∈ content.items.map content.typed, i.Shows kind) ↔ ∃ i ∈ content.items, i.Shows kind := by
    simp [typed_shows]
  have htypes : (∃ i ∈ content.returnTypes.map fun entry => Item.returns (some entry.2) [] false, i.Shows kind) ↔
      kind = .returns ∧ content.returnTypes ≠ [] := by
    cases content.returnTypes <;> simp [Item.Shows]
  rw [Content.all]
  by_cases hr : ∃ i ∈ content.items, isReturns i = true
  · rw [if_pos (List.any_eq_true.mpr hr), List.append_nil, htyped]
    exact (or_iff_left fun h => h.2.2 hr).symm
  · rw [if_neg (mt List.any_eq_true.mp hr)]
    simp only [List.mem_append, or_and_right, exists_or]
    rw [htyped, htypes]
    exact or_congr_right (and_congr_right fun _ => (and_iff_left hr).symm)

/-- The items of a text that can be read, from the headers of the tags in it. -/
theorem read_shows_iff {kind : Kind} {s : Text} {outline : Outline} (h : read s = .ok outline) :
    (∃ item ∈ outline.items, item.Shows kind) ↔ Gives kind (revealed ':' s) := by
  rw [read_eq] at h
  cases hc : (revealed ':' s).foldlM Content.add {} with
  | error fault =>
    rw [hc] at h
    cases h
  | ok content =>
    rw [hc] at h
    cases h
    have hadds := foldlM_adds hc
    rw [Outline.items_ofLead, all_shows_iff, hadds.shows, hadds.returnTypes, hadds.returns, Gives]
    simp

end Rest
end ApiDocs.Docblock
