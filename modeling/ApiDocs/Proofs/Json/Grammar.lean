import ApiDocs.Json.Reader
import ApiDocs.Proofs.Ordered

/-! The grammar of JSON, as a relation between texts and the values that they stand for. It is said without the reader,
    which is shown to find the value of every text of the grammar; so no text has two. -/

namespace ApiDocs.Json

/-! ### White space -/

def spaces : Text := [' ', '\n', '\t', '\r']

def IsSpace (s : Text) : Prop := ∀ c ∈ s, c ∈ spaces

/-! ### Strings -/

/-- The escapes of one letter, each with the character that it stands for. -/
def escapes : List (Char × Char) :=
  [('"', '"'), ('\\', '\\'), ('/', '/'), ('b', '\x08'), ('f', '\x0c'), ('n', '\n'), ('r', '\r'), ('t', '\t')]

/-- A character is the hexadecimal digit of a number, in either case. -/
def IsHexDigit (c : Char) (n : Nat) : Prop :=
  "0123456789abcdef".toList[n]? = some c ∨ "0123456789ABCDEF".toList[n]? = some c

/-- An escape of four hexadecimal digits. -/
inductive IsUnit : Text → Nat → Prop
  | intro {a b c d : Char} {i j k l : Nat} (ha : IsHexDigit a i) (hb : IsHexDigit b j) (hc : IsHexDigit c k)
      (hd : IsHexDigit d l) : IsUnit ['\\', 'u', a, b, c, d] (0x1000 * i + 0x100 * j + 0x10 * k + l)

/-- What stands between the quotes of a string, and the string. -/
inductive Chars : Text → Text → Prop
  | nil : Chars [] []
  | plain {c : Char} {s t : Text} (hc : 0x20 ≤ c.toNat) (hq : c ≠ '"') (hb : c ≠ '\\') (h : Chars s t) :
    Chars (c :: s) (c :: t)
  | escape {letter c : Char} {s t : Text} (hc : (letter, c) ∈ escapes) (h : Chars s t) :
    Chars ('\\' :: letter :: s) (c :: t)
  | unit {u s t : Text} {n : Nat} (hu : IsUnit u n) (hn : n < 0xD800 ∨ 0xE000 ≤ n) (h : Chars s t) :
    Chars (u ++ s) (Char.ofNat n :: t)
  /-- Two surrogates stand for one character. -/
  | pair {u v s t : Text} {high low : Nat} (hu : IsUnit u high) (hv : IsUnit v low)
    (hh : 0xD800 ≤ high ∧ high < 0xDC00) (hl : 0xDC00 ≤ low ∧ low < 0xE000) (h : Chars s t) :
    Chars (u ++ v ++ s) (Char.ofNat (0x10000 + (high - 0xD800) * 0x400 + (low - 0xDC00)) :: t)

/-! ### Numbers -/

def IsDigits (s : Text) : Prop := s ≠ [] ∧ ∀ c ∈ s, c.isDigit = true

/-- A whole part begins with a zero only if it is one. -/
def IsWhole (s : Text) : Prop := IsDigits s ∧ (s.head? = some '0' → s.length = 1)

/-- A fraction that may be absent, and its digits. -/
inductive IsFraction : Text → Text → Prop
  | absent : IsFraction [] []
  | digits {s : Text} (h : IsDigits s) : IsFraction ('.' :: s) s

/-- An exponent that may be absent, and its value. -/
inductive IsExponent : Text → Option Int → Prop
  | absent : IsExponent [] none
  | unsigned {e : Char} {s : Text} (he : e = 'e' ∨ e = 'E') (h : IsDigits s) : IsExponent (e :: s) (some (numberOf s))
  | plus {e : Char} {s : Text} (he : e = 'e' ∨ e = 'E') (h : IsDigits s) :
    IsExponent (e :: '+' :: s) (some (numberOf s))
  | minus {e : Char} {s : Text} (he : e = 'e' ∨ e = 'E') (h : IsDigits s) :
    IsExponent (e :: '-' :: s) (some (-(numberOf s : Int)))

/-- A number without its sign, where the sign is known. Without fraction and exponent it is a whole number. -/
inductive IsMagnitude (negative : Bool) : Text → Value → Prop
  | whole {s : Text} (h : IsWhole s) :
    IsMagnitude negative s (.number (if negative then -(numberOf s : Int) else numberOf s))
  | real {s f e digits : Text} {exponent : Option Int} (hs : IsWhole s) (hf : IsFraction f digits)
    (he : IsExponent e exponent) (h : f ≠ [] ∨ e ≠ []) :
    IsMagnitude negative (s ++ f ++ e)
      (.real (.ofDecimal negative (numberOf (s ++ digits)) (exponent.getD 0 - digits.length)))

/-! ### Values -/

mutual

/-- A text without space around it stands for a value. -/
inductive Denotes : Text → Value → Prop
  | null : Denotes "null" .null
  | yes : Denotes "true" (.flag true)
  | no : Denotes "false" (.flag false)
  | number {s : Text} {v : Value} (h : IsMagnitude false s v) : Denotes s v
  | minus {s : Text} {v : Value} (h : IsMagnitude true s v) : Denotes ('-' :: s) v
  | string {s t : Text} (h : Chars s t) : Denotes ('"' :: s ++ ['"']) (.text t)
  | noItems {w : Text} (hw : IsSpace w) : Denotes ('[' :: w ++ [']']) (.list [])
  | list {s : Text} {items : List Value} (h : DenotesItems s items) : Denotes ('[' :: s ++ [']']) (.list items)
  | noEntries {w : Text} (hw : IsSpace w) : Denotes ('{' :: w ++ ['}']) (.table [])
  /-- Members keep their order; of two that have one key the last counts. -/
  | table {s : Text} {entries : List (Text × Value)} (h : DenotesEntries s entries) :
    Denotes ('{' :: s ++ ['}']) (.table (Ordered.ofList entries))

/-- The items of a list, with a comma between them. -/
inductive DenotesItems : Text → List Value → Prop
  | last {w s w' : Text} {v : Value} (hw : IsSpace w) (h : Denotes s v) (hw' : IsSpace w') :
    DenotesItems (w ++ s ++ w') [v]
  | more {w s w' rest : Text} {v : Value} {items : List Value} (hw : IsSpace w) (h : Denotes s v) (hw' : IsSpace w')
    (hr : DenotesItems rest items) : DenotesItems (w ++ s ++ w' ++ ',' :: rest) (v :: items)

/-- The members of an object, with a comma between them. -/
inductive DenotesEntries : Text → List (Text × Value) → Prop
  | last {w key u w' s w'' : Text} {k : Text} {v : Value} (hw : IsSpace w) (hk : Chars key k) (hu : IsSpace u)
    (hw' : IsSpace w') (h : Denotes s v) (hw'' : IsSpace w'') :
    DenotesEntries (w ++ '"' :: key ++ '"' :: u ++ ':' :: w' ++ s ++ w'') [(k, v)]
  | more {w key u w' s w'' rest : Text} {k : Text} {v : Value} {entries : List (Text × Value)} (hw : IsSpace w)
    (hk : Chars key k) (hu : IsSpace u) (hw' : IsSpace w') (h : Denotes s v) (hw'' : IsSpace w'')
    (hr : DenotesEntries rest entries) :
    DenotesEntries (w ++ '"' :: key ++ '"' :: u ++ ':' :: w' ++ s ++ w'' ++ ',' :: rest) ((k, v) :: entries)

end

/-- A JSON text and its value: there may be space around it. -/
def IsJson (s : Text) (v : Value) : Prop := ∃ w t w', IsSpace w ∧ Denotes t v ∧ IsSpace w' ∧ s = w ++ t ++ w'

/-! ### Reading strings -/

theorem hexDigit?_of_isHexDigit {c : Char} {n : Nat} (h : IsHexDigit c n) : hexDigit? c = some n := by
  have hlt : n < 16 := by
    rcases h with h | h <;> exact (List.getElem?_eq_some_iff.mp h).1
  have hall : ∀ n < 16, ("0123456789abcdef".toList[n]?.bind hexDigit? = some n) ∧
      ("0123456789ABCDEF".toList[n]?.bind hexDigit? = some n) := by decide
  rcases h with h | h
  · have hc := (hall n hlt).1
    rwa [h] at hc
  · have hc := (hall n hlt).2
    rwa [h] at hc

theorem IsUnit.eq {u : Text} {n : Nat} (h : IsUnit u n) :
    ∃ a b c d, u = ['\\', 'u', a, b, c, d] ∧ unit? a b c d = some n := by
  cases h with
  | intro ha hb hc hd =>
    refine ⟨_, _, _, _, rfl, ?_⟩
    simp only [unit?, hexDigit?_of_isHexDigit ha, hexDigit?_of_isHexDigit hb, hexDigit?_of_isHexDigit hc,
      hexDigit?_of_isHexDigit hd]
    refine congrArg some ?_
    omega

theorem escape?_of_mem : ∀ e ∈ escapes, e.1 ≠ 'u' ∧ escape? e.1 = some e.2 := by decide

/-- The reader finds the string that stands between two quotes. -/
theorem readString_of_chars {s t : Text} (h : Chars s t) (rest : Text) :
    readString (s ++ '"' :: rest) = some (t, rest) := by
  induction h with
  | nil => simp [readString]
  | @plain c s t hc hq hb h ih =>
    have hnot : ¬c.toNat < 0x20 := by omega
    rw [List.cons_append, readString]
    · simp [hnot, ih]
    · exact hq
    · exact fun _ _ _ _ _ hc _ => hb hc
    · exact fun _ _ hc _ => hb hc
  | @escape letter c s t hc h ih =>
    obtain ⟨hu, hesc⟩ := escape?_of_mem _ hc
    rw [List.cons_append, List.cons_append, readString]
    · simp only at hesc
      simp [hesc, ih]
    · intro a b c d rest' hletter
      exact absurd hletter hu
  | @unit u s t n hu hn h ih =>
    obtain ⟨a, b, c, d, rfl, hunit⟩ := hu.eq
    have hhigh : ¬(0xD800 ≤ n ∧ n < 0xDC00) := by omega
    have hlow : ¬(0xDC00 ≤ n ∧ n < 0xE000) := by omega
    simp only [List.cons_append, List.nil_append, readString, hunit, ih, Option.bind_eq_bind, Option.bind_some,
      if_neg hhigh, if_neg hlow]
    rfl
  | pair hu hv hh hl h ih =>
    obtain ⟨a, b, c, d, rfl, hunit⟩ := hu.eq
    obtain ⟨a', b', c', d', rfl, hunit'⟩ := hv.eq
    simp only [List.cons_append, List.nil_append, readString, hunit, hunit', ih, Option.bind_eq_bind, Option.bind_some,
      if_pos hh, if_pos hl]
    rfl

/-! ### Reading numbers -/

/-- A text that does not go on with any of some characters. -/
def NotNext (p : Char → Prop) (rest : Text) : Prop := ∀ c ∈ rest.head?, ¬p c

/-- The characters with which a number can go on. -/
def InNumber (c : Char) : Prop := c.isDigit = true ∨ c = '.' ∨ c = 'e' ∨ c = 'E'

theorem notNext_cons {p : Char → Prop} {c : Char} (h : ¬p c) (rest : Text) : NotNext p (c :: rest) := by
  intro d hd
  cases hd
  exact h

theorem NotNext.imp {p q : Char → Prop} {rest : Text} (h : NotNext p rest) (hq : ∀ c, q c → p c) : NotNext q rest :=
  fun c hc hqc => h c hc (hq c hqc)

theorem IsDigits.eq {s : Text} (h : IsDigits s) : ∃ c rest, s = c :: rest ∧ c.isDigit = true := by
  obtain ⟨hne, hall⟩ := h
  cases s with
  | nil => contradiction
  | cons c rest => exact ⟨c, rest, rfl, hall c List.mem_cons_self⟩

theorem spanDigits_append {s rest : Text} (hs : ∀ c ∈ s, c.isDigit = true) (hr : NotNext (·.isDigit = true) rest) :
    spanDigits (s ++ rest) = (s, rest) := by
  have htake : rest.takeWhile Char.isDigit = [] := by
    cases rest with
    | nil => rfl
    | cons c rest => exact List.takeWhile_cons_of_neg (hr c rfl)
  have hdrop : rest.dropWhile Char.isDigit = rest := by
    cases rest with
    | nil => rfl
    | cons c rest => exact List.dropWhile_cons_of_neg (hr c rfl)
  rw [spanDigits, List.takeWhile_append_of_pos hs, List.dropWhile_append_of_pos hs, htake, hdrop, List.append_nil]

theorem readFraction_append {f digits rest : Text} (h : IsFraction f digits)
    (hr : NotNext (fun c => c.isDigit = true ∨ c = '.') rest) : readFraction (f ++ rest) = some (digits, rest) := by
  cases h with
  | absent =>
    rw [List.nil_append, readFraction]
    intro rest' heq
    exact hr '.' (by simp [heq]) (Or.inr rfl)
  | digits hd =>
    rw [List.cons_append, readFraction, spanDigits_append hd.2 (hr.imp fun _ => Or.inl)]
    simp [hd.1]

theorem readExponent_append {e rest : Text} {exponent : Option Int} (h : IsExponent e exponent)
    (hr : NotNext InNumber rest) : readExponent (e ++ rest) = some (exponent, rest) := by
  have hdigit : NotNext (·.isDigit = true) rest := hr.imp fun _ => Or.inl
  cases h with
  | absent =>
    rw [List.nil_append]
    cases rest with
    | nil => rfl
    | cons c rest =>
      have hc : ¬(c = 'e' ∨ c = 'E') := fun h => hr c rfl (Or.inr (Or.inr h))
      simp [readExponent.eq_def, hc]
  | unsigned he hd =>
    have hspan := spanDigits_append hd.2 hdigit
    obtain ⟨d, s, rfl, hfirst⟩ := hd.eq
    rw [List.cons_append] at hspan
    rw [List.cons_append, readExponent, if_pos he]
    · simp [hspan]
    · rintro rest' heq
      cases heq
      cases hfirst
    · rintro rest' heq
      cases heq
      cases hfirst
  | plus he hd =>
    rw [List.cons_append, List.cons_append, readExponent, if_pos he]
    simp [spanDigits_append hd.2 hdigit, hd.1]
  | minus he hd =>
    rw [List.cons_append, List.cons_append, readExponent, if_pos he]
    simp [spanDigits_append hd.2 hdigit, hd.1]

theorem IsFraction.notNext {f digits rest : Text} (h : IsFraction f digits) (hr : NotNext (·.isDigit = true) rest) :
    NotNext (·.isDigit = true) (f ++ rest) := by
  cases h with
  | absent => exact hr
  | digits hd => exact notNext_cons (by decide) _

theorem IsExponent.notNext {e rest : Text} {exponent : Option Int} (h : IsExponent e exponent)
    (hr : NotNext InNumber rest) : NotNext (fun c => c.isDigit = true ∨ c = '.') (e ++ rest) := by
  have hletter {c : Char} (he : c = 'e' ∨ c = 'E') : ¬(c.isDigit = true ∨ c = '.') := by
    rcases he with rfl | rfl <;> decide
  cases h with
  | absent => exact hr.imp fun _ hc => hc.imp id Or.inl
  | unsigned he hd => exact notNext_cons (hletter he) _
  | plus he hd => exact notNext_cons (hletter he) _
  | minus he hd => exact notNext_cons (hletter he) _

theorem readNumber_append {negative : Bool} {s rest : Text} {v : Value} (h : IsMagnitude negative s v)
    (hr : NotNext InNumber rest) : readNumber negative (s ++ rest) = some (v, rest) := by
  have hwhole {s : Text} (hs : IsWhole s) : (s.isEmpty || (s.head? == some '0' && s.length != 1)) = false := by
    have hlen := hs.2
    simp [hs.1.1]
    omega
  cases h with
  | whole hs =>
    have hspan := spanDigits_append hs.1.2 (hr.imp fun _ => Or.inl)
    have hf := readFraction_append .absent (hr.imp fun _ hc => hc.imp id Or.inl)
    have he := readExponent_append .absent hr
    rw [List.nil_append] at hf he
    simp [readNumber, hspan, hwhole hs, hf, he]
  | @real s f e digits exponent hs hfrac hexp hne =>
    have hf := readFraction_append hfrac (hexp.notNext hr)
    have he := readExponent_append hexp hr
    have hspan := spanDigits_append hs.1.2 (hfrac.notNext ((hexp.notNext hr).imp fun _ => Or.inl))
    have hreal : digits = [] → exponent ≠ none := by
      rintro rfl rfl
      cases hexp
      cases hfrac with
      | absent => simp at hne
      | digits hd => exact hd.1 rfl
    rw [List.append_assoc, List.append_assoc]
    simpa [readNumber, hspan, hwhole hs, hf, he] using hreal

/-! ### Reading values -/

theorem skipSpace_append {w : Text} (hw : IsSpace w) (s : Text) : skipSpace (w ++ s) = skipSpace s :=
  List.dropWhile_append_of_pos fun c hc => by simpa [spaces, or_assoc] using hw c hc

theorem skipSpace_cons {c : Char} (hc : c ∉ spaces) (s : Text) : skipSpace (c :: s) = c :: s := by
  refine List.dropWhile_cons_of_neg ?_
  simpa [spaces, or_assoc] using hc

theorem notNext_space {w rest : Text} (hw : IsSpace w) (hr : NotNext InNumber rest) :
    NotNext InNumber (w ++ rest) := by
  have hspace : ∀ c ∈ spaces, ¬InNumber c := by simp [spaces, InNumber]
  cases w with
  | nil => exact hr
  | cons c w => exact notNext_cons (hspace c (hw c List.mem_cons_self)) (w ++ rest)

/-- After a value and some space there may be a comma or the end of what it stands in. -/
theorem next_of_mem {w : Text} (hw : IsSpace w) {c : Char} (hc : c ∈ [',', ']', '}']) (rest : Text) :
    NotNext InNumber (w ++ c :: rest) ∧ skipSpace (w ++ c :: rest) = c :: rest := by
  have hnot : ∀ c ∈ [',', ']', '}'], ¬InNumber c ∧ c ∉ spaces := by simp [InNumber, spaces]
  obtain ⟨hnumber, hspace⟩ := hnot c hc
  refine ⟨notNext_space hw (notNext_cons hnumber rest), ?_⟩
  rw [skipSpace_append hw, skipSpace_cons hspace]

/-- Whether a value can begin with a character. -/
def starts (c : Char) : Bool := c.isDigit || "ntf\"[\x7b-".toList.contains c

theorem starts_ne {c : Char} (h : starts c = true) : c ∉ spaces := by
  have hnot : ∀ c ∈ spaces, starts c = false := by simp [spaces, starts]
  intro hc
  rw [hnot c hc] at h
  cases h

theorem IsMagnitude.eq {negative : Bool} {s : Text} {v : Value} (h : IsMagnitude negative s v) :
    ∃ c t, s = c :: t ∧ c.isDigit = true := by
  cases h with
  | whole hs => exact hs.1.eq
  | real hs =>
    obtain ⟨c, t, rfl, hc⟩ := hs.1.eq
    exact ⟨c, _, rfl, hc⟩

theorem Denotes.eq {s : Text} {v : Value} (h : Denotes s v) : ∃ c t, s = c :: t ∧ starts c = true := by
  cases h with
  | number h =>
    obtain ⟨c, t, rfl, hc⟩ := h.eq
    exact ⟨c, t, rfl, by simp [starts, hc]⟩
  | _ => exact ⟨_, _, rfl, by decide⟩

/-- The space before a value is passed over. -/
theorem skipSpace_value {w s : Text} {v : Value} (hw : IsSpace w) (h : Denotes s v) (rest : Text) :
    skipSpace (w ++ s ++ rest) = s ++ rest := by
  obtain ⟨c, t, rfl, hc⟩ := h.eq
  rw [List.append_assoc, skipSpace_append hw]
  exact skipSpace_cons (starts_ne hc) (t ++ rest)

theorem readValue_digit {c : Char} (hc : c.isDigit = true) (fuel : Nat) (s : Text) :
    readValue (fuel + 1) (c :: s) = readNumber false (c :: s) := by
  rw [readValue]
  all_goals
    intro rest heq
    cases heq
    cases hc

/-- With enough fuel the reader finds a value at the start of a text. -/
def Reads (s : Text) (v : Value) : Prop :=
  ∀ fuel rest, s.length < fuel → NotNext InNumber rest → readValue fuel (s ++ rest) = some (v, rest)

def ReadsItems (s : Text) (items : List Value) : Prop :=
  ∀ fuel rest, s.length + 1 < fuel → readItems fuel (skipSpace (s ++ ']' :: rest)) = some (items, rest)

def ReadsEntries (s : Text) (entries : List (Text × Value)) : Prop :=
  ∀ fuel rest, s.length + 1 < fuel → readEntries fuel (skipSpace (s ++ '}' :: rest)) = some (entries, rest)

theorem readsItems_last {w s w' : Text} {v : Value} (hw : IsSpace w) (hd : Denotes s v) (h : Reads s v)
    (hw' : IsSpace w') : ReadsItems (w ++ s ++ w') [v] := by
  intro fuel rest hf
  obtain ⟨fuel, rfl⟩ : ∃ n, fuel = n + 1 := ⟨fuel - 1, by omega⟩
  simp only [List.length_append] at hf
  obtain ⟨hnext, hclose⟩ := next_of_mem hw' (c := ']') (by simp) rest
  have hvalue := h fuel (w' ++ ']' :: rest) (by omega) hnext
  rw [List.append_assoc, skipSpace_value hw hd, readItems, hvalue]
  simp [hclose]

theorem readsItems_more {w s w' more : Text} {v : Value} {items : List Value} (hw : IsSpace w) (hd : Denotes s v)
    (h : Reads s v) (hw' : IsSpace w') (hr : ReadsItems more items) :
    ReadsItems (w ++ s ++ w' ++ ',' :: more) (v :: items) := by
  intro fuel rest hf
  obtain ⟨fuel, rfl⟩ : ∃ n, fuel = n + 1 := ⟨fuel - 1, by omega⟩
  simp only [List.length_append, List.length_cons] at hf
  obtain ⟨hnext, hcomma⟩ := next_of_mem hw' (c := ',') (by simp) (more ++ ']' :: rest)
  have hvalue := h fuel (w' ++ ',' :: (more ++ ']' :: rest)) (by omega) hnext
  rw [List.append_assoc, List.append_assoc, skipSpace_value hw hd, List.cons_append, readItems, hvalue]
  simp [hcomma, hr fuel rest (by omega)]

/-- A member is read up to what follows it. -/
theorem readEntries_member {w key u w' s tail k : Text} {v : Value} {fuel : Nat} (hw : IsSpace w) (hk : Chars key k)
    (hu : IsSpace u) (hw' : IsSpace w') (hd : Denotes s v) (h : readValue fuel (s ++ tail) = some (v, tail)) :
    readEntries (fuel + 1) (skipSpace (w ++ '"' :: key ++ '"' :: u ++ ':' :: w' ++ s ++ tail)) =
      match skipSpace tail with
      | '}' :: rest => some ([(k, v)], rest)
      | ',' :: rest => (readEntries fuel (skipSpace rest)).map fun r => ((k, v) :: r.1, r.2)
      | _ => none := by
  have hkey := readString_of_chars hk (u ++ ':' :: (w' ++ s ++ tail))
  have hcolon : skipSpace (u ++ ':' :: (w' ++ s ++ tail)) = ':' :: (w' ++ s ++ tail) := by
    rw [skipSpace_append hu, skipSpace_cons (by decide)]
  have hquote : skipSpace (w ++ '"' :: key ++ '"' :: u ++ ':' :: w' ++ s ++ tail) =
      '"' :: (key ++ '"' :: (u ++ ':' :: (w' ++ s ++ tail))) := by
    simp only [List.append_assoc, List.cons_append]
    rw [skipSpace_append hw, skipSpace_cons (by decide)]
  rw [hquote, readEntries, hkey]
  simp only [Option.bind_eq_bind, Option.bind_some, hcolon, skipSpace_value hw' hd, h]
  generalize skipSpace tail = next
  split
  · rfl
  · rename_i rest
    show _ = (readEntries fuel (skipSpace rest)).map _
    cases readEntries fuel (skipSpace rest) <;> rfl
  · simp_all

theorem readsEntries_last {w key u w' s w'' k : Text} {v : Value} (hw : IsSpace w) (hk : Chars key k) (hu : IsSpace u)
    (hw' : IsSpace w') (hd : Denotes s v) (h : Reads s v) (hw'' : IsSpace w'') :
    ReadsEntries (w ++ '"' :: key ++ '"' :: u ++ ':' :: w' ++ s ++ w'') [(k, v)] := by
  intro fuel rest hf
  obtain ⟨fuel, rfl⟩ : ∃ n, fuel = n + 1 := ⟨fuel - 1, by omega⟩
  simp only [List.length_append, List.length_cons] at hf
  obtain ⟨hnext, hclose⟩ := next_of_mem hw'' (c := '}') (by simp) rest
  have hvalue := h fuel (w'' ++ '}' :: rest) (by omega) hnext
  rw [List.append_assoc, readEntries_member hw hk hu hw' hd hvalue, hclose]
  rfl

theorem readsEntries_more {w key u w' s w'' k more : Text} {v : Value} {entries : List (Text × Value)} (hw : IsSpace w)
    (hk : Chars key k) (hu : IsSpace u) (hw' : IsSpace w') (hd : Denotes s v) (h : Reads s v) (hw'' : IsSpace w'')
    (hr : ReadsEntries more entries) :
    ReadsEntries (w ++ '"' :: key ++ '"' :: u ++ ':' :: w' ++ s ++ w'' ++ ',' :: more) ((k, v) :: entries) := by
  intro fuel rest hf
  obtain ⟨fuel, rfl⟩ : ∃ n, fuel = n + 1 := ⟨fuel - 1, by omega⟩
  simp only [List.length_append, List.length_cons] at hf
  obtain ⟨hnext, hcomma⟩ := next_of_mem hw'' (c := ',') (by simp) (more ++ '}' :: rest)
  have hvalue := h fuel (w'' ++ ',' :: (more ++ '}' :: rest)) (by omega) hnext
  rw [List.append_assoc, List.append_assoc, List.cons_append, readEntries_member hw hk hu hw' hd hvalue, hcomma]
  simp [hr fuel rest (by omega)]

theorem reads_of_next {s : Text} {v : Value}
    (h : ∀ fuel rest, s.length ≤ fuel → NotNext InNumber rest → readValue (fuel + 1) (s ++ rest) = some (v, rest)) :
    Reads s v := by
  intro fuel rest hf hr
  obtain ⟨fuel, rfl⟩ : ∃ n, fuel = n + 1 := ⟨fuel - 1, by omega⟩
  exact h fuel rest (by omega) hr

theorem reads_number {s : Text} {v : Value} (h : IsMagnitude false s v) : Reads s v := by
  refine reads_of_next fun fuel rest _ hr => ?_
  have hread := readNumber_append h hr
  obtain ⟨c, t, rfl, hc⟩ := h.eq
  rw [List.cons_append] at hread ⊢
  rw [readValue_digit hc, hread]

theorem reads_list {s : Text} {items : List Value} (h : ReadsItems s items) :
    Reads ('[' :: s ++ [']']) (.list items) := by
  refine reads_of_next fun fuel rest hf _ => ?_
  simp only [List.length_append, List.length_cons, List.length_nil] at hf
  have hitems := h fuel rest (by omega)
  rw [List.append_assoc, List.cons_append, readValue, List.singleton_append]
  split
  · rename_i heq
    -- Items do not begin with the closing bracket.
    obtain ⟨fuel, rfl⟩ : ∃ n, fuel = n + 2 := ⟨fuel - 2, by omega⟩
    rw [heq] at hitems
    simp [readItems, readValue, readNumber, spanDigits] at hitems
  · rw [hitems]
    rfl

theorem reads_table {s : Text} {entries : List (Text × Value)} (h : ReadsEntries s entries) :
    Reads ('{' :: s ++ ['}']) (.table (Ordered.ofList entries)) := by
  refine reads_of_next fun fuel rest hf _ => ?_
  simp only [List.length_append, List.length_cons, List.length_nil] at hf
  have hentries := h fuel rest (by omega)
  rw [List.append_assoc, List.cons_append, readValue, List.singleton_append]
  split
  · rename_i heq
    obtain ⟨fuel, rfl⟩ : ∃ n, fuel = n + 1 := ⟨fuel - 1, by omega⟩
    rw [heq] at hentries
    simp [readEntries] at hentries
  · rw [hentries]
    rfl

mutual

/-- The reader finds the value of every text of the grammar. The fuel it needs is bounded by the length of the text. -/
theorem reads_of_denotes {s : Text} {v : Value} : Denotes s v → Reads s v
  | .null => reads_of_next fun _ _ _ _ => rfl
  | .yes => reads_of_next fun _ _ _ _ => rfl
  | .no => reads_of_next fun _ _ _ _ => rfl
  | .number h => reads_number h
  | .minus h => reads_of_next fun _ _ _ hr => readNumber_append h hr
  | .string h => reads_of_next fun fuel rest _ _ => by
    have hread := readString_of_chars h rest
    rw [List.append_assoc]
    simp [readValue, hread]
  | .noItems hw => reads_of_next fun fuel rest _ _ => by
    rw [List.append_assoc]
    simp [readValue, skipSpace_append hw, skipSpace_cons (show ']' ∉ spaces by decide)]
  | .list h => reads_list (readsItems_of_denotes h)
  | .noEntries hw => reads_of_next fun fuel rest _ _ => by
    rw [List.append_assoc]
    simp [readValue, skipSpace_append hw, skipSpace_cons (show '}' ∉ spaces by decide)]
  | .table h => reads_table (readsEntries_of_denotes h)

theorem readsItems_of_denotes {s : Text} {items : List Value} : DenotesItems s items → ReadsItems s items
  | .last hw h hw' => readsItems_last hw h (reads_of_denotes h) hw'
  | .more hw h hw' hr => readsItems_more hw h (reads_of_denotes h) hw' (readsItems_of_denotes hr)

theorem readsEntries_of_denotes {s : Text} {entries : List (Text × Value)} :
    DenotesEntries s entries → ReadsEntries s entries
  | .last hw hk hu hw' h hw'' => readsEntries_last hw hk hu hw' h (reads_of_denotes h) hw''
  | .more hw hk hu hw' h hw'' hr =>
    readsEntries_more hw hk hu hw' h (reads_of_denotes h) hw'' (readsEntries_of_denotes hr)

end

/-- Reading finds the value of a JSON text. -/
theorem parse_of_isJson {s : Text} {v : Value} (h : IsJson s v) : parse s = some v := by
  obtain ⟨w, t, w', hw, hd, hw', rfl⟩ := h
  have hend : NotNext InNumber w' := by
    have hnil : NotNext InNumber [] := fun _ h => by cases h
    simpa using notNext_space hw' hnil
  have hlen : t.length < (w ++ t ++ w').length + 1 := by
    simp only [List.length_append]
    omega
  have hrest : skipSpace w' = [] := by
    rw [← List.append_nil w', skipSpace_append hw']
    rfl
  rw [parse, skipSpace_value hw hd, reads_of_denotes hd _ w' hlen hend]
  simp [hrest]

/-- A JSON text stands for one value. -/
theorem IsJson.unique {s : Text} {v v' : Value} (h : IsJson s v) (h' : IsJson s v') : v = v' := by
  have hparse := parse_of_isJson h
  rw [parse_of_isJson h'] at hparse
  exact (Option.some.inj hparse).symm

end ApiDocs.Json
