import ApiDocs.Json.Writer
import ApiDocs.Proofs.Json.Grammar
import ApiDocs.Proofs.Text.Basic

/-! What is written stands for the value: in every layout the text of a value made of texts belongs to the grammar,
    where it stands for just that value, and it has no character beyond ASCII. -/

namespace ApiDocs.Json

/-- A text without characters beyond ASCII. -/
def IsAscii (s : Text) : Prop := ∀ c ∈ s, c.toNat < 0x80

theorem isAscii_nil : IsAscii [] := List.forall_mem_nil _

theorem isAscii_append {s t : Text} : IsAscii (s ++ t) ↔ IsAscii s ∧ IsAscii t := List.forall_mem_append

theorem isAscii_cons {c : Char} {s : Text} : IsAscii (c :: s) ↔ c.toNat < 0x80 ∧ IsAscii s := List.forall_mem_cons

/-! ### Strings -/

theorem isHexDigit_digitChar {n : Nat} (h : n < 16) : IsHexDigit (Nat.digitChar n) n := by
  have hall : ∀ n < 16, "0123456789abcdef".toList[n]? = some (Nat.digitChar n) := by decide
  exact Or.inl (hall n h)

/-- The last of several hexadecimal digits. -/
theorem hex_succ {width : Nat} (hw : 0 < width) (n : Nat) :
    Text.hex (width + 1) n = Text.hex width (n / 0x10) ++ [Nat.digitChar (n % 0x10)] := by
  simp only [Text.hex, Text.widen]
  by_cases hn : n < 0x10
  · have hdiv : n / 0x10 = 0 := Nat.div_eq_of_lt hn
    have hzero : List.replicate (width - 1) '0' ++ ['0'] = List.replicate width '0' := by
      rw [← List.replicate_succ', Nat.sub_add_cancel hw]
    rw [hdiv, Nat.mod_eq_of_lt hn, Nat.toDigits_of_lt_base hn, Nat.toDigits_zero]
    simp [hzero]
  · rw [Nat.toDigits_of_base_le (by decide) (by omega)]
    simp

theorem hex_four {n : Nat} (h : n < 0x10000) :
    Text.hex 4 n = [Nat.digitChar (n / 0x1000), Nat.digitChar (n / 0x100 % 0x10), Nat.digitChar (n / 0x10 % 0x10),
      Nat.digitChar (n % 0x10)] := by
  have hfirst : Text.hex 1 (n / 0x1000) = [Nat.digitChar (n / 0x1000)] := by
    rw [Text.hex, Nat.toDigits_of_lt_base (by omega)]
    rfl
  have hsecond : n / 0x10 / 0x10 = n / 0x100 := Nat.div_div_eq_div_mul n 0x10 0x10
  rw [hex_succ (by decide), hex_succ (by decide), hex_succ (by decide), hsecond, Nat.div_div_eq_div_mul n 0x100 0x10,
    hfirst]
  rfl

theorem isUnit_unit {n : Nat} (h : n < 0x10000) : IsUnit (unit n) n := by
  have hn : 0x1000 * (n / 0x1000) + 0x100 * (n / 0x100 % 0x10) + 0x10 * (n / 0x10 % 0x10) + n % 0x10 = n := by omega
  rw [unit, hex_four h]
  have hunit := IsUnit.intro (isHexDigit_digitChar (n := n / 0x1000) (by omega))
    (isHexDigit_digitChar (n := n / 0x100 % 0x10) (by omega))
    (isHexDigit_digitChar (n := n / 0x10 % 0x10) (by omega)) (isHexDigit_digitChar (n := n % 0x10) (by omega))
  rw [hn] at hunit
  exact hunit

/-- The ways in which a character is written. -/
theorem char_cases (c : Char) :
    (∃ e ∈ escapes, e.2 = c ∧ char c = ['\\', e.1]) ∨
      ((0x20 ≤ c.toNat ∧ c.toNat ≤ 0x7E) ∧ c ≠ '"' ∧ c ≠ '\\' ∧ char c = [c]) ∨
      (c.toNat < 0x10000 ∧ char c = unit c.toNat) ∨
      (0x10000 ≤ c.toNat ∧
        char c = unit (0xD800 + (c.toNat - 0x10000) / 0x400) ++ unit (0xDC00 + (c.toNat - 0x10000) % 0x400)) := by
  by_cases hescape : c ∈ ['"', '\\', '\n', '\r', '\t', '\x08', '\x0c']
  · have hall : ∀ c ∈ ['"', '\\', '\n', '\r', '\t', '\x08', '\x0c'],
        ∃ e ∈ escapes, e.2 = c ∧ char c = ['\\', e.1] := by simp [escapes, char]
    exact Or.inl (hall c hescape)
  · simp only [List.mem_cons, List.not_mem_nil, or_false, not_or] at hescape
    right
    by_cases hplain : 0x20 ≤ c.toNat ∧ c.toNat ≤ 0x7E
    · exact Or.inl ⟨hplain, hescape.1, hescape.2.1, by simp [char, hescape, hplain]⟩
    · by_cases hshort : c.toNat < 0x10000
      · exact Or.inr (Or.inl ⟨hshort, by simp only [char, hescape, hplain, hshort, if_false, if_true]⟩)
      · exact Or.inr (Or.inr ⟨by omega, by simp only [char, hescape, hplain, hshort, if_false]⟩)

theorem surrogates_lt (c : Char) :
    (c.toNat - 0x10000) / 0x400 < 0x400 ∧ (c.toNat - 0x10000) % 0x400 < 0x400 := by
  have hvalid : c.toNat < 0xD800 ∨ (0xDFFF < c.toNat ∧ c.toNat < 0x110000) := c.valid
  omega

/-- A character is written as something that stands for it. -/
theorem chars_char (c : Char) {s t : Text} (h : Chars s t) : Chars (char c ++ s) (c :: t) := by
  rcases char_cases c with ⟨e, he, rfl, hc⟩ | ⟨hplain, hquote, hslash, hc⟩ | ⟨hshort, hc⟩ | ⟨hlong, hc⟩
  · rw [hc]
    exact .escape he h
  · rw [hc]
    exact .plain hplain.1 hquote hslash h
  · have hvalid : c.toNat < 0xD800 ∨ (0xDFFF < c.toNat ∧ c.toNat < 0x110000) := c.valid
    have hunit := Chars.unit (isUnit_unit hshort) (by omega) h
    rwa [Char.ofNat_toNat, ← hc] at hunit
  · have hlt := surrogates_lt c
    have hsum : 0x10000 + (0xD800 + (c.toNat - 0x10000) / 0x400 - 0xD800) * 0x400 +
        (0xDC00 + (c.toNat - 0x10000) % 0x400 - 0xDC00) = c.toNat := by omega
    have hpair := Chars.pair (isUnit_unit (n := 0xD800 + (c.toNat - 0x10000) / 0x400) (by omega))
      (isUnit_unit (n := 0xDC00 + (c.toNat - 0x10000) % 0x400) (by omega)) (by omega) (by omega) h
    rwa [hsum, Char.ofNat_toNat, ← hc] at hpair

theorem isAscii_unit {n : Nat} (h : n < 0x10000) : IsAscii (unit n) := by
  have hdigit : ∀ n < 16, (Nat.digitChar n).toNat < 0x80 := by decide
  rw [unit, hex_four h, isAscii_append]
  refine ⟨by simp [IsAscii], ?_⟩
  simp only [isAscii_cons]
  exact ⟨hdigit _ (by omega), hdigit _ (by omega), hdigit _ (by omega), hdigit _ (by omega), isAscii_nil⟩

theorem isAscii_char (c : Char) : IsAscii (char c) := by
  rcases char_cases c with ⟨e, he, rfl, hc⟩ | ⟨hplain, -, -, hc⟩ | ⟨hshort, hc⟩ | ⟨hlong, hc⟩
  · have hall : ∀ e ∈ escapes, IsAscii ['\\', e.1] := by simp [escapes, IsAscii]
    rw [hc]
    exact hall e he
  · rw [hc, isAscii_cons]
    exact ⟨by omega, isAscii_nil⟩
  · rw [hc]
    exact isAscii_unit hshort
  · have hlt := surrogates_lt c
    rw [hc, isAscii_append]
    exact ⟨isAscii_unit (by omega), isAscii_unit (by omega)⟩

theorem chars_flatMap (s : Text) : Chars (s.flatMap char) s := by
  induction s with
  | nil => exact .nil
  | cons c s ih => exact chars_char c ih

theorem denotes_string (s : Text) : Denotes (string s) (.text s) := .string (chars_flatMap s)

theorem isAscii_string (s : Text) : IsAscii (string s) := by
  intro c hc
  simp only [string, List.cons_append, List.mem_cons, List.mem_append, List.mem_flatMap, List.not_mem_nil,
    or_false] at hc
  rcases hc with rfl | ⟨d, -, hd⟩ | rfl
  · decide
  · exact isAscii_char d c hd
  · decide

/-! ### Layout -/

variable {indent : Option Nat} {depth : Nat}

theorem isSpace_nil : IsSpace [] := by simp [IsSpace]

theorem isSpace_newline (indent : Option Nat) (depth : Nat) : IsSpace (newline indent depth) := by
  cases indent with
  | none => simp [IsSpace, newline]
  | some width =>
    intro c hc
    rcases List.mem_cons.mp hc with rfl | hc
    · simp [spaces]
    · rw [(List.mem_replicate.mp hc).2]
      simp [spaces]

theorem comma_eq (indent : Option Nat) (depth : Nat) : ∃ w, IsSpace w ∧ comma indent depth = ',' :: w := by
  cases indent with
  | none => exact ⟨[' '], by simp [IsSpace, spaces], rfl⟩
  | some width => exact ⟨_, isSpace_newline (some width) depth, rfl⟩

theorem IsSpace.isAscii {w : Text} (h : IsSpace w) : IsAscii w := by
  have hall : IsAscii spaces := by simp [IsAscii, spaces]
  exact fun c hc => hall c (h c hc)

theorem denotesItems_join {items : List Value} (hne : items ≠ [])
    (h : ∀ item ∈ items, Denotes (renderAt indent depth item) item) {w w' : Text} (hw : IsSpace w) (hw' : IsSpace w') :
    DenotesItems (w ++ Text.join (comma indent depth) (renderItems indent depth items) ++ w') items := by
  induction items generalizing w with
  | nil => contradiction
  | cons item rest ih =>
    have hitem := h item List.mem_cons_self
    cases rest with
    | nil =>
      rw [renderItems, renderItems, Text.join_singleton]
      exact .last hw hitem hw'
    | cons next rest =>
      obtain ⟨space, hspace, hcomma⟩ := comma_eq indent depth
      have hrest := ih (by simp) (fun i hi => h i (List.mem_cons_of_mem _ hi)) hspace
      have hjoin : Text.join (comma indent depth) (renderItems indent depth (item :: next :: rest)) =
          renderAt indent depth item ++ ',' :: space ++
            Text.join (comma indent depth) (renderItems indent depth (next :: rest)) := by
        rw [renderItems, renderItems, Text.join_cons_cons, hcomma]
      have hmore := DenotesItems.more hw hitem isSpace_nil hrest
      rw [hjoin]
      simpa using hmore

theorem denotesEntries_join {entries : List (Text × Value)} (hne : entries ≠ [])
    (h : ∀ entry ∈ entries, Denotes (renderAt indent depth entry.2) entry.2) {w w' : Text} (hw : IsSpace w)
    (hw' : IsSpace w') :
    DenotesEntries (w ++ Text.join (comma indent depth) (renderEntries indent depth entries) ++ w') entries := by
  have hblank : IsSpace [' '] := by simp [IsSpace, spaces]
  induction entries generalizing w with
  | nil => contradiction
  | cons entry rest ih =>
    have hentry := h entry List.mem_cons_self
    have hkey := chars_flatMap entry.1
    have hmember : string entry.1 ++ ": " ++ renderAt indent depth entry.2 =
        '"' :: entry.1.flatMap char ++ '"' :: [] ++ ':' :: [' '] ++ renderAt indent depth entry.2 := by
      simp [string]
    cases rest with
    | nil =>
      have hlast := DenotesEntries.last hw hkey isSpace_nil hblank hentry hw'
      rw [renderEntries, renderEntries, Text.join_singleton, hmember]
      simpa using hlast
    | cons next rest =>
      obtain ⟨space, hspace, hcomma⟩ := comma_eq indent depth
      have hrest := ih (by simp) (fun i hi => h i (List.mem_cons_of_mem _ hi)) hspace
      have hjoin : Text.join (comma indent depth) (renderEntries indent depth (entry :: next :: rest)) =
          string entry.1 ++ ": " ++ renderAt indent depth entry.2 ++ ',' :: space ++
            Text.join (comma indent depth) (renderEntries indent depth (next :: rest)) := by
        rw [renderEntries, renderEntries, Text.join_cons_cons, hcomma]
      have hmore := DenotesEntries.more hw hkey isSpace_nil hblank hentry isSpace_nil hrest
      rw [hjoin, hmember]
      simpa using hmore

/-! ### Values -/

/-- Plain data whose only leaves are null, flags and texts, in tables of different keys. -/
inductive Textual : Value → Prop
  | null : Textual .null
  | flag (set : Bool) : Textual (.flag set)
  | text (s : Text) : Textual (.text s)
  | list {items : List Value} (h : ∀ item ∈ items, Textual item) : Textual (.list items)
  | table {entries : List (Text × Value)} (hkeys : (Ordered.keys entries).Nodup)
    (h : ∀ entry ∈ entries, Textual entry.2) : Textual (.table entries)

theorem denotes_list {items : List Value}
    (h : ∀ item ∈ items, Denotes (renderAt indent (depth + 1) item) item) :
    Denotes (renderAt indent depth (.list items)) (.list items) := by
  cases items with
  | nil => exact .noItems isSpace_nil
  | cons item rest =>
    have hitems := denotesItems_join (List.cons_ne_nil item rest) h (isSpace_newline indent (depth + 1))
      (isSpace_newline indent depth)
    exact .list hitems

theorem denotes_table {entries : List (Text × Value)} (hkeys : (Ordered.keys entries).Nodup)
    (h : ∀ entry ∈ entries, Denotes (renderAt indent (depth + 1) entry.2) entry.2) :
    Denotes (renderAt indent depth (.table entries)) (.table entries) := by
  cases entries with
  | nil => exact .noEntries isSpace_nil
  | cons entry rest =>
    have hentries := denotesEntries_join (List.cons_ne_nil entry rest) h (isSpace_newline indent (depth + 1))
      (isSpace_newline indent depth)
    have htable := Denotes.table hentries
    rw [Ordered.ofList_of_nodup hkeys] at htable
    exact htable

/-- What is written stands for the value, at every depth. -/
theorem denotes_renderAt {v : Value} (h : Textual v) (depth : Nat) : Denotes (renderAt indent depth v) v := by
  induction h generalizing depth with
  | null => exact .null
  | flag set =>
    cases set
    · exact .no
    · exact .yes
  | text s => exact denotes_string s
  | list _ ih => exact denotes_list fun item hi => ih item hi (depth + 1)
  | table hkeys _ ih => exact denotes_table hkeys fun entry he => ih entry he (depth + 1)

theorem isAscii_join {sep : Text} {parts : List Text} (hs : IsAscii sep) (h : ∀ part ∈ parts, IsAscii part) :
    IsAscii (Text.join sep parts) := by
  intro c hc
  rcases Text.mem_join hc with hc | ⟨part, hp, hc⟩
  · exact hs c hc
  · exact h part hp c hc

theorem isAscii_bracket {opening closing : Char} (ho : opening.toNat < 0x80) (hc : closing.toNat < 0x80)
    {members : List Text} (h : ∀ member ∈ members, IsAscii member) :
    IsAscii (bracket indent depth opening closing members) := by
  have hcomma : IsAscii (comma indent (depth + 1)) := by
    obtain ⟨w, hw, hcomma⟩ := comma_eq indent (depth + 1)
    rw [hcomma, isAscii_cons]
    exact ⟨by decide, hw.isAscii⟩
  rw [bracket]
  split
  · simp only [isAscii_cons]
    exact ⟨ho, hc, isAscii_nil⟩
  · have hline (depth : Nat) : IsAscii (newline indent depth) := (isSpace_newline indent depth).isAscii
    simp only [isAscii_append, isAscii_cons]
    exact ⟨⟨⟨⟨ho, hline _⟩, isAscii_join hcomma h⟩, hline _⟩, hc, isAscii_nil⟩

theorem mem_renderItems {items : List Value} {part : Text} (h : part ∈ renderItems indent depth items) :
    ∃ item ∈ items, part = renderAt indent depth item := by
  induction items with
  | nil => cases h
  | cons item rest ih =>
    rw [renderItems, List.mem_cons] at h
    rcases h with rfl | h
    · exact ⟨item, List.mem_cons_self, rfl⟩
    · obtain ⟨i, hi, rfl⟩ := ih h
      exact ⟨i, List.mem_cons_of_mem _ hi, rfl⟩

theorem mem_renderEntries {entries : List (Text × Value)} {part : Text}
    (h : part ∈ renderEntries indent depth entries) :
    ∃ entry ∈ entries, part = string entry.1 ++ ": " ++ renderAt indent depth entry.2 := by
  induction entries with
  | nil => cases h
  | cons entry rest ih =>
    rw [renderEntries, List.mem_cons] at h
    rcases h with rfl | h
    · exact ⟨entry, List.mem_cons_self, rfl⟩
    · obtain ⟨e, he, rfl⟩ := ih h
      exact ⟨e, List.mem_cons_of_mem _ he, rfl⟩

/-- What is written has no character beyond ASCII. -/
theorem isAscii_renderAt {v : Value} (h : Textual v) (depth : Nat) : IsAscii (renderAt indent depth v) := by
  induction h generalizing depth with
  | null => exact (by simp [IsAscii] : IsAscii "null")
  | flag set =>
    cases set
    · exact (by simp [IsAscii] : IsAscii "false")
    · exact (by simp [IsAscii] : IsAscii "true")
  | text s => exact isAscii_string s
  | list _ ih =>
    refine isAscii_bracket (by decide) (by decide) fun part hp => ?_
    obtain ⟨item, hi, rfl⟩ := mem_renderItems hp
    exact ih item hi (depth + 1)
  | table _ _ ih =>
    refine isAscii_bracket (by decide) (by decide) fun part hp => ?_
    obtain ⟨entry, he, rfl⟩ := mem_renderEntries hp
    simp only [isAscii_append]
    exact ⟨⟨isAscii_string entry.1, by simp [IsAscii]⟩, ih entry he (depth + 1)⟩

/-- The text of a value made of texts is a JSON text of that value. -/
theorem isJson_render {v : Value} (h : Textual v) : IsJson (render indent v) v :=
  ⟨[], render indent v, [], isSpace_nil, denotes_renderAt h 0, isSpace_nil, by simp⟩

end ApiDocs.Json
