import ApiDocs.Fault
import ApiDocs.Link.Fields
import ApiDocs.Link.Figure
import ApiDocs.Link.Slot
import ApiDocs.Live.Shown
import ApiDocs.Live.Standard
import ApiDocs.Value

/-! Link templates. Text stands for itself; a field in braces stands for a part of a method's id, perhaps one character
    of it, quoted, or fitted into a slot; doubled braces stand for single ones. A field may also pick an attribute of a
    text, as any object has them. A template is read from left to right and the first thing that is wrong with it is
    reported, whether in its form or in its fields. -/

namespace ApiDocs.Link

/-! ### Segments -/

/-- A field in braces: its name with what is picked from it, how it is quoted, and the slot it is fitted into. -/
structure Field where
  path : Text
  conversion : Option Char
  slot : Text
deriving DecidableEq

/-- A part of a template. -/
inductive Segment
  /-- A character that stands for itself. -/
  | char (c : Char)
  /-- A field. -/
  | field (field : Field)
  /-- Something that is not well formed; it ends the template. -/
  | broken
deriving DecidableEq

/-- The path of a field up to the sign that ends it, that sign, and the rest. Between square brackets every sign is part
    of the path. -/
def path? (inBrackets : Bool) : Text → Option (Text × Char × Text)
  | [] => none
  | c :: rest =>
    if inBrackets then (path? (c != ']') rest).map fun found => (c :: found.1, found.2)
    else if c = '{' then none
    else if c = '}' ∨ c = ':' ∨ c = '!' then some ([], c, rest)
    else (path? (c == '[') rest).map fun found => (c :: found.1, found.2)

/-- The slot of a field up to the brace that closes the field, and the rest. Braces inside it come in pairs; `depth`
    of them are open. -/
def slot? (depth : Nat) : Text → Option (Text × Text)
  | [] => none
  | c :: rest =>
    if c = '}' then
      match depth with
      | 0 => some ([], rest)
      | depth + 1 => (slot? depth rest).map fun found => (c :: found.1, found.2)
    else (slot? (if c = '{' then depth + 1 else depth) rest).map fun found => (c :: found.1, found.2)

/-- A field whose opening brace was read, and the rest. -/
def field? (s : Text) : Option (Field × Text) := do
  let (path, stop, rest) ← path? false s
  if stop = '}' then return (⟨path, none, []⟩, rest)
  else if stop = ':' then
    let (slot, rest) ← slot? 0 rest
    return (⟨path, none, slot⟩, rest)
  else
    match rest with
    | conversion :: '}' :: rest => return (⟨path, some conversion, []⟩, rest)
    | conversion :: ':' :: rest =>
      let (slot, rest) ← slot? 0 rest
      return (⟨path, some conversion, slot⟩, rest)
    | _ => none

theorem path?_length {inBrackets : Bool} {s path rest : Text} {stop : Char}
    (h : path? inBrackets s = some (path, stop, rest)) : rest.length < s.length := by
  induction s generalizing inBrackets path with
  | nil => simp [path?] at h
  | cons c s ih =>
    simp only [path?] at h
    split at h
    · obtain ⟨⟨p, q⟩, hp, hq⟩ := Option.map_eq_some_iff.mp h
      cases hq
      exact Nat.lt_succ_of_lt (ih hp)
    · split at h
      · cases h
      · split at h
        · cases h
          simp
        · obtain ⟨⟨p, q⟩, hp, hq⟩ := Option.map_eq_some_iff.mp h
          cases hq
          exact Nat.lt_succ_of_lt (ih hp)

theorem slot?_length {depth : Nat} {s slot rest : Text} (h : slot? depth s = some (slot, rest)) :
    rest.length < s.length := by
  induction s generalizing depth slot with
  | nil => simp [slot?] at h
  | cons c s ih =>
    simp only [slot?] at h
    split at h
    · split at h
      · cases h
        simp
      · obtain ⟨⟨p, q⟩, hp, hq⟩ := Option.map_eq_some_iff.mp h
        cases hq
        exact Nat.lt_succ_of_lt (ih hp)
    · obtain ⟨⟨p, q⟩, hp, hq⟩ := Option.map_eq_some_iff.mp h
      cases hq
      exact Nat.lt_succ_of_lt (ih hp)

/-- A field takes something off the text. -/
theorem field?_length {s rest : Text} {f : Field} (h : field? s = some (f, rest)) : rest.length < s.length := by
  unfold field? at h
  cases hp : path? false s with
  | none => simp [hp] at h
  | some found =>
    obtain ⟨path, stop, after⟩ := found
    have hlt := path?_length hp
    simp only [hp, Option.bind_eq_bind, Option.bind_some] at h
    split at h
    · simp only [pure, Option.some.injEq, Prod.mk.injEq] at h
      obtain ⟨-, rfl⟩ := h
      exact hlt
    · split at h
      · cases hq : slot? 0 after with
        | none => simp [hq] at h
        | some got =>
          have := slot?_length hq
          simp only [hq, Option.bind_some, pure, Option.some.injEq, Prod.mk.injEq] at h
          obtain ⟨-, rfl⟩ := h
          omega
      · split at h
        · simp only [pure, Option.some.injEq, Prod.mk.injEq] at h
          obtain ⟨-, rfl⟩ := h
          simp only [List.length_cons] at hlt
          omega
        · rename_i conversion after'
          cases hq : slot? 0 after' with
          | none => simp [hq] at h
          | some got =>
            have := slot?_length hq
            simp only [hq, Option.bind_some, pure, Option.some.injEq, Prod.mk.injEq] at h
            obtain ⟨-, rfl⟩ := h
            simp only [List.length_cons] at hlt
            omega
        · cases h

/-- The parts of a template, up to the first that is broken. -/
def segments : Text → List Segment
  | [] => []
  | '{' :: '{' :: rest => .char '{' :: segments rest
  | '}' :: '}' :: rest => .char '}' :: segments rest
  | '}' :: _ => [.broken]
  | '{' :: rest =>
    match h : field? rest with
    | none => [.broken]
    | some (field, after) =>
      have : after.length < rest.length := field?_length h
      .field field :: segments after
  | c :: rest => .char c :: segments rest
termination_by s => s.length

/-! ### Values of fields -/

/-- What a text is as a number. -/
inductive Numeral
  | number (n : Nat)
  | tooLarge
  | none
deriving DecidableEq

/-- Reads a text as a number. Digits that are too large are found before anything behind them is looked at. -/
def numeral (s : Text) : Numeral :=
  let digits := (s.takeWhile Text.isDigit).filterMap Text.digit?
  let n := Text.number digits
  if n > largest then .tooLarge
  else if digits.isEmpty || !s.all Text.isDigit then .none
  else .number n

/-- Whether a sign ends a name in a path. -/
def endsName (c : Char) : Bool := c == '.' || c == '['

/-- The elements of an object that are asked for by number. -/
def elements? : Live.Object → Option (List Live.Object)
  | .text s => some (s.map fun c => .text [c])
  | .row ids => some (ids.map .cls)
  | .single item => some [item]
  | _ => none

/-- What an object gives for a key. The content of a class is asked by name, and a class may take arguments. -/
def keyed (template : Text) (object key : Live.Object) : Except Fault Live.Object :=
  let unknown : Fault := .unknownField (Live.World.standard.shown key) template
  match object, key with
  | .content id, .text name =>
    ((Live.World.standard.ownMember? id name).map fun member => .ok (Live.World.rawMember id name member)).getD
      (.error unknown)
  | .content _, _ | .emptyTable, _ => .error unknown
  | .cls id, _ =>
    if id = Live.typeId || (Live.World.standard.attribute? object "__class_getitem__").isSome then .ok (.alias id key)
    else .error .notIndexed
  | _, _ => .error .notIndexed

/-- What an object has under an index. -/
def element (template : Text) (object : Live.Object) (index : Text) : Except Fault Live.Object :=
  match elements? object, numeral index with
  | _, .tooLarge => .error .brokenTemplate
  | some items, .number n => (items[n]?.map .ok).getD (.error .indexBeyondEnd)
  | some _, .none => .error .indexNotNumber
  | none, .number n => keyed template object (.number n)
  | none, .none => keyed template object (.text index)

/-- What is picked from an object by the rest of a path: attributes and elements. -/
def pick (template : Text) (object : Live.Object) : Text → Except Fault Live.Object
  | [] => .ok object
  | '.' :: rest =>
    let name := rest.takeWhile fun c => !endsName c
    have : (rest.dropWhile fun c => !endsName c).length ≤ rest.length := (List.dropWhile_suffix _).length_le
    if name.isEmpty then .error .brokenTemplate
    else
      match Live.World.standard.attribute? object name with
      | some object => pick template object (rest.dropWhile fun c => !endsName c)
      | none => .error .noAttribute
  | '[' :: rest =>
    match h : Text.cutFirst ']' rest with
    | none => .error .brokenTemplate
    | some (index, after) =>
      have : after.length < rest.length := Text.cutFirst_length h
      if index.isEmpty then .error .brokenTemplate
      else
        match element template object index with
        | .ok object => pick template object after
        | .error fault => .error fault
  | _ => .error .brokenTemplate
termination_by s => s.length
decreasing_by all_goals simp only [List.length_cons]; omega

/-- What a path stands for. A field is asked for by its name; a place in a list of values, or none, is not a name. -/
def valueOf (template : Text) (known : List (Text × Text)) (path : Text) : Except Fault Live.Object :=
  let name := path.takeWhile fun c => !endsName c
  match numeral name with
  | .none =>
    if name.isEmpty then .error .brokenTemplate
    else
      match known.lookup name with
      | none => .error (.unknownField (Text.quoted name) template)
      | some value => pick template (.text value) (path.dropWhile fun c => !endsName c)
  | _ => .error .brokenTemplate

/-- An object, written or quoted as the field says. The character NUL asks for nothing. -/
def convert (conversion : Option Char) (object : Live.Object) : Except Fault Live.Object :=
  match conversion with
  | none | some '\x00' => .ok object
  | some 's' => .ok (.text (Live.World.standard.written object))
  | some 'r' => .ok (.text (Live.World.standard.shown object))
  | some 'a' => .ok (.text (Text.ascii (Live.World.standard.shown object)))
  | some _ => .error .brokenTemplate

/-- An object in its slot. Only texts and numbers can be fitted into one, and a flag counts as a number. -/
def fit (slot : Text) (object : Live.Object) : Except Fault Text :=
  if slot.isEmpty then .ok (Live.World.standard.written object)
  else
    match object, Slot.parse? slot with
    | .text s, some slot => ((slot.text? s).map .ok).getD (.error .brokenTemplate)
    | .number n, some slot => slot.number n
    | .flag set, some slot => slot.number (if set then 1 else 0)
    | .text _, none | .number _, none | .flag _, none => .error .brokenTemplate
    | _, _ => .error .slotForObject

/-! ### Filling in -/

/-- Fills in a part of `template`. The slot of a field may have fields of its own, down to `depth` levels. -/
def fillPart (template : Text) (known : List (Text × Text)) : Nat → Text → Except Fault Text
  | 0, _ => .error .brokenTemplate
  | depth + 1, part => do
    let texts ← (segments part).mapM fun segment =>
      match segment with
      | .char c => .ok [c]
      | .broken => .error .brokenTemplate
      | .field field => do
        let value ← valueOf template known field.path
        let value ← convert field.conversion value
        let slot ← if field.slot.contains '{' then fillPart template known depth field.slot else .ok field.slot
        fit slot value
    return texts.flatten

/-- The link that a template gives for the id of a method. -/
def fill (template id : Text) : Except Fault Text := fillPart template (fields id) 2 template

/-- The link that a setting gives, which may not be a template at all. -/
def linkFor (template : Value) (id : Text) : Except Fault Text :=
  match template with
  | .text template => fill template id
  | _ => .error .templateNotText

/-- The template of links into the standard library of the language. -/
def standardTemplate : Text := "https://docs.python.org/3/library/\x7bmodule\x7d.html#\x7bid\x7d"

end ApiDocs.Link
