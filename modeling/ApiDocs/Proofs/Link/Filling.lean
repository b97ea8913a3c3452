import ApiDocs.Link.Template
import ApiDocs.Proofs.Outcome
import ApiDocs.Proofs.Text.Layout
import ApiDocs.Text.Identifier

/-! What a link is made of. A template that is written part by part, with texts without braces, doubled braces and fields
    that are identifiers, is read back part by part, however the parts touch. It gives the texts, single braces and the
    values of the fields in order, or else is refused for the first field that is not known. -/

namespace ApiDocs

/-! ### Identifiers -/

namespace Text

/-- Where the characters that begin an identifier are found. -/
theorem exists_range_of_isIdentifierStart {c : Char} (h : isIdentifierStart c = true) :
    ∃ range ∈ (0x41, 0x7f) :: identifierStartRanges, range.1 ≤ c.toNat ∧ c.toNat ≤ range.2 := by
  rw [isIdentifierStart, inClass] at h
  split at h
  · rename_i hascii
    have hletter : (decide (c.val ≥ 'A'.val ∧ c.val ≤ 'Z'.val) || decide (c.val ≥ 'a'.val) && decide (c.val ≤ 'z'.val) ||
        c == '_') = true := h
    simp only [Bool.or_eq_true, Bool.and_eq_true, decide_eq_true_eq, beq_iff_eq, ge_iff_le, UInt32.le_iff_toNat_le]
      at hletter
    refine ⟨_, List.mem_cons_self, ?_, Nat.le_of_lt_succ hascii⟩
    rcases hletter with (⟨hlow, -⟩ | ⟨hlow, -⟩) | rfl
    · exact hlow
    · exact Nat.le_trans (by decide) hlow
    · decide
  · obtain ⟨range, hrange, hin⟩ := List.any_eq_true.mp h
    exact ⟨range, List.mem_cons_of_mem _ hrange, by simpa using hin⟩

/-- None of them is in a row of digits. -/
theorem identifierStart_apart :
    (((0x41, 0x7f) :: identifierStartRanges).all fun range => zeros.all fun first =>
      Nat.blt range.2 first || Nat.ble (first + 10) range.1) = true := by decide +kernel

theorem isDigit_of_isIdentifierStart {c : Char} (h : isIdentifierStart c = true) : isDigit c = false := by
  rw [isDigit, digit?, Option.isSome_map, Bool.eq_false_iff]
  intro hdigit
  obtain ⟨first, hfirst⟩ := Option.isSome_iff_exists.mp hdigit
  have hrow : first ≤ c.toNat ∧ c.toNat < first + 10 := by simpa using List.find?_some hfirst
  obtain ⟨range, hrange, hin⟩ := exists_range_of_isIdentifierStart h
  have hapart := List.all_eq_true.mp (List.all_eq_true.mp identifierStart_apart range hrange) first
    (List.mem_of_find?_eq_some hfirst)
  rw [Bool.or_eq_true, Nat.blt_eq, Nat.ble_eq] at hapart
  omega

/-- A character that may not stand in an identifier does not. -/
theorem not_mem_of_isIdentifier {name : Text} (h : isIdentifier name = true) {c : Char}
    (hstart : isIdentifierStart c = false) (hrest : isIdentifierRest c = false) : c ∉ name := by
  intro hc
  cases name with
  | nil => cases hc
  | cons first rest =>
    rw [isIdentifier, Bool.and_eq_true] at h
    rcases List.mem_cons.mp hc with rfl | hc
    · exact absurd (hstart.symm.trans h.1) Bool.false_ne_true
    · exact absurd (hrest.symm.trans (List.all_eq_true.mp h.2 c hc)) Bool.false_ne_true

end Text

namespace Link

/-! ### Fields that are known -/

/-- What a field can say about a method. -/
inductive Aspect
  | id
  | owner
  | home
  | cls
  | name
deriving DecidableEq

namespace Aspect

/-- The name of a field that says it. -/
def text : Aspect → Text
  | .id => "id"
  | .owner => "owner"
  | .home => "module"
  | .cls => "cls"
  | .name => "name"

/-- What is said about the method `m` of the class `c`. The module of the class is what stands before its last dot. The
    class itself is what stands behind it, or the whole if that is empty. -/
def value (c m : Text) : Aspect → Text
  | .id => c ++ "." ++ m
  | .owner => c
  | .home => Text.join "." (Text.dotted c).dropLast
  | .cls =>
    let last := (Text.dotted c).getLastD []
    if last.isEmpty then c else last
  | .name => m

def all : List Aspect := [.id, .owner, .home, .cls, .name]

end Aspect

/-- A field that is known: it says something as it is written, or in lower case. -/
structure Known where
  aspect : Aspect
  lower : Bool
deriving DecidableEq

namespace Known

def text (field : Known) : Text := if field.lower then field.aspect.text ++ "_lower" else field.aspect.text

def value (c m : Text) (field : Known) : Text :=
  if field.lower then Text.lower (field.aspect.value c m) else field.aspect.value c m

/-- The ten fields. -/
def all : List Known := Aspect.all.map (⟨·, false⟩) ++ Aspect.all.map (⟨·, true⟩)

/-- The field of a name. -/
def named? (name : Text) : Option Known := all.find? (·.text == name)

end Known

/-- The last dot of a text cuts off the last of its dotted parts. -/
theorem splitLast_eq (s : Text) :
    splitLast s = (Text.join "." (Text.dotted s).dropLast, (Text.dotted s).getLastD []) := by
  rcases Text.exists_last '.' s with hnone | ⟨before, after, rfl, hafter⟩
  · have hone : Text.dotted s = [s] := Text.splitWith_of_not_mem hnone
    rw [splitLast, Text.cutLast_eq_none hnone, hone]
    rfl
  · have hlast : Text.dotted after = [after] := Text.splitWith_of_not_mem hafter
    have hparts : Text.dotted (before ++ '.' :: after) = Text.dotted before ++ [after] :=
      hlast ▸ Text.splitWith_append rfl before after
    have hjoin : Text.join "." (Text.dotted before) = before := Text.join_splitWith '.' before
    rw [splitLast, Text.cutLast_append before hafter, hparts, List.dropLast_concat, hjoin, List.getLastD_concat]
    rfl

theorem splitLast_id (owner : Text) {name : Text} (h : '.' ∉ name) :
    splitLast (owner ++ "." ++ name) = (owner, name) := by
  have hcut : Text.cutLast '.' (owner ++ "." ++ name) = some (owner, name) := by
    rw [List.append_assoc]
    exact Text.cutLast_append owner h
  rw [splitLast, hcut]
  rfl

theorem fields_eq (c : Text) {m : Text} (h : '.' ∉ m) :
    fields (c ++ "." ++ m) = Known.all.map fun field => (field.text, field.value c m) := by
  simp only [fields, plainFields, splitLast_id c h, splitLast_eq c]
  rfl

/-- A name is looked up as the first thing that has it. -/
theorem lookup_map {α : Type} (key value : α → Text) (items : List α) (name : Text) :
    (items.map fun item => (key item, value item)).lookup name = (items.find? (key · == name)).map value := by
  induction items with
  | nil => rfl
  | cons item rest ih =>
    rw [List.map_cons, List.lookup_cons, List.find?_cons, ih, BEq.comm (a := name)]
    split <;> simp_all

theorem lookup_fields (c : Text) {m : Text} (h : '.' ∉ m) (name : Text) :
    (fields (c ++ "." ++ m)).lookup name = (Known.named? name).map (Known.value c m) := by
  rw [fields_eq c h]
  exact lookup_map _ _ _ _

/-! ### Names of fields -/

theorem path?_append {name : Text} (hname : ∀ c ∈ name, c ≠ '{' ∧ c ≠ '}' ∧ c ≠ ':' ∧ c ≠ '!' ∧ c ≠ '[') (rest : Text) :
    path? false (name ++ '}' :: rest) = some (name, '}', rest) := by
  induction name with
  | nil => rfl
  | cons c name ih =>
    obtain ⟨⟨hopen, hclose, hcolon, hmark, hbracket⟩, hrest⟩ := List.forall_mem_cons.mp hname
    rw [List.cons_append, path?, if_neg Bool.false_ne_true, if_neg hopen, if_neg (by simp [hclose, hcolon, hmark]),
      beq_false_of_ne hbracket, ih hrest]
    rfl

/-- A name that is a whole path is asked for as it is, and nothing is picked from what it stands for. -/
theorem valueOf_whole {name : Text} (hends : ∀ c ∈ name, (!endsName c) = true) (hnumeral : numeral name = .none)
    (hne : name ≠ []) (template : Text) (known : List (Text × Text)) :
    valueOf template known name =
      ((known.lookup name).map fun value => .ok (.text value)).getD
        (.error (.unknownField (Text.quoted name) template)) := by
  have hwhole := List.takeWhile_eq_self_iff.mpr hends
  have hnothing := List.dropWhile_eq_nil_iff.mpr hends
  have hempty : name.isEmpty = false := by simpa using hne
  simp only [valueOf, hwhole, hnothing, hnumeral, hempty]
  cases known.lookup name with
  | none => rfl
  | some value => simp [pick]

section Name
variable {name : Text} (h : Text.isIdentifier name = true)
include h

theorem field?_identifier (rest : Text) : field? (name ++ '}' :: rest) = some (⟨name, none, []⟩, rest) := by
  have hpath : path? false (name ++ '}' :: rest) = some (name, '}', rest) := by
    refine path?_append (fun c hc => ?_) rest
    -- Neither a sign that ends a path nor one that opens a bracket is part of an identifier.
    refine ⟨?_, ?_, ?_, ?_, ?_⟩
    all_goals
      rintro rfl
      exact Text.not_mem_of_isIdentifier h (by decide) (by decide) hc
  rw [field?, hpath]
  rfl

theorem numeral_identifier : numeral name = .none := by
  cases name with
  | nil => rfl
  | cons first rest =>
    have hdigit := Text.isDigit_of_isIdentifierStart (Bool.and_eq_true_iff.mp h).1
    have hdigits : (first :: rest).takeWhile Text.isDigit = [] := List.takeWhile_cons_of_neg (by simp [hdigit])
    rw [numeral, hdigits]
    rfl

theorem valueOf_identifier (template : Text) (known : List (Text × Text)) :
    valueOf template known name =
      ((known.lookup name).map fun value => .ok (.text value)).getD
        (.error (.unknownField (Text.quoted name) template)) := by
  refine valueOf_whole (fun c hc => ?_) (numeral_identifier h) ?_ template known
  · have hdot : c ≠ '.' := by
      rintro rfl
      exact Text.not_mem_of_isIdentifier h (by decide) (by decide) hc
    have hbracket : c ≠ '[' := by
      rintro rfl
      exact Text.not_mem_of_isIdentifier h (by decide) (by decide) hc
    simp [endsName, hdot, hbracket]
  · rintro rfl
    cases h

end Name

/-! ### Templates part by part -/

/-- A part of a template as one writes it. -/
inductive Part
  /-- A text that stands for itself. -/
  | literal (s : Text)
  /-- An opening brace that stands for itself. -/
  | opening
  /-- A closing brace that stands for itself. -/
  | closing
  /-- A field. -/
  | field (name : Text)
deriving DecidableEq

namespace Part

/-- How a part is written. -/
def written : Part → Text
  | .literal s => s
  | .opening => ['{', '{']
  | .closing => ['}', '}']
  | .field name => '{' :: name ++ ['}']

/-- Whether a part is what it seems to be: a text has no braces, and the name of a field is an identifier. -/
def isPlain : Part → Bool
  | .literal s => !s.contains '{' && !s.contains '}'
  | .opening | .closing => true
  | .field name => Text.isIdentifier name

/-- The name of a field that is not known. -/
def unknown? : Part → Option Text
  | .field name => if (Known.named? name).isSome then none else some name
  | _ => none

/-- What a part stands for in a link to the method `m` of the class `c`. -/
def filled (c m : Text) : Part → Text
  | .literal s => s
  | .opening => ['{']
  | .closing => ['}']
  | .field name => ((Known.named? name).map (Known.value c m)).getD []

def segments : Part → List Segment
  | .literal s => s.map .char
  | .opening => [.char '{']
  | .closing => [.char '}']
  | .field name => [.field ⟨name, none, []⟩]

end Part

theorem segments_char {c : Char} (hopen : c ≠ '{') (hclose : c ≠ '}') (rest : Text) :
    segments (c :: rest) = .char c :: segments rest :=
  segments.eq_6 c rest (fun _ h => absurd h hopen) (fun _ h => absurd h hclose) hclose hopen

theorem segments_field {s rest : Text} {field : Field} (hs : ∀ others, s ≠ '{' :: others)
    (hfield : field? s = some (field, rest)) : segments ('{' :: s) = .field field :: segments rest := by
  rw [segments.eq_5 s hs]
  split
  · rename_i hnone
    cases hnone.symm.trans hfield
  · rename_i hsome
    cases hsome.symm.trans hfield
    rfl

theorem segments_literal {s : Text} (hopen : '{' ∉ s) (hclose : '}' ∉ s) (rest : Text) :
    segments (s ++ rest) = s.map .char ++ segments rest := by
  induction s with
  | nil => rfl
  | cons c s ih =>
    rw [List.mem_cons, not_or] at hopen hclose
    rw [List.cons_append, segments_char (Ne.symm hopen.1) (Ne.symm hclose.1), ih hopen.2 hclose.2]
    rfl

/-- A part is read as it is meant whatever stands behind it. -/
theorem segments_written {part : Part} (h : part.isPlain = true) (rest : Text) :
    segments (part.written ++ rest) = part.segments ++ segments rest := by
  cases part with
  | literal s =>
    have hplain : '{' ∉ s ∧ '}' ∉ s := by simpa [Part.isPlain] using h
    exact segments_literal hplain.1 hplain.2 rest
  | opening => exact segments.eq_2 rest
  | closing => exact segments.eq_3 rest
  | field name =>
    have hwritten : (Part.field name).written ++ rest = '{' :: (name ++ '}' :: rest) := by simp [Part.written]
    rw [hwritten]
    refine segments_field (fun others hbrace => ?_) (field?_identifier h rest)
    have hname : Text.isIdentifier name = true := h
    -- The name has a first character, and that is no brace.
    cases name with
    | nil => cases hname
    | cons first name =>
      cases hbrace
      exact Text.not_mem_of_isIdentifier hname (by decide) (by decide) List.mem_cons_self

theorem segments_flatMap {parts : List Part} (h : ∀ part ∈ parts, part.isPlain = true) :
    segments (parts.flatMap Part.written) = parts.flatMap Part.segments := by
  induction parts with
  | nil => exact segments.eq_1
  | cons part rest ih =>
    obtain ⟨hpart, hrest⟩ := List.forall_mem_cons.mp h
    rw [List.flatMap_cons, segments_written hpart, ih hrest, List.flatMap_cons]

/-! ### Links -/

/-- What a part gives: its text, or the complaint about a field that is not known. -/
def Part.given (template c m : Text) (part : Part) : Except Fault Text :=
  (part.unknown?.map fun name => .error (.unknownField (Text.quoted name) template)).getD (.ok (part.filled c m))

theorem map_flatten_mapM_append {ε α β : Type} (f : α → Except ε (List β)) (a b : List α) :
    ((a ++ b).mapM f).map List.flatten =
      (a.mapM f).map List.flatten >>= fun first => ((b.mapM f).map List.flatten).map (first ++ ·) := by
  rw [List.mapM_append]
  rcases a.mapM f with fault | first
  · rfl
  · rcases b.mapM f with fault | rest
    · rfl
    · exact congrArg Except.ok (List.flatten_append)

section Given
variable {template c m : Text} {f : Segment → Except Fault Text} (hchar : ∀ c, f (.char c) = .ok [c])
  (hfield : ∀ name, Text.isIdentifier name = true →
    f (.field ⟨name, none, []⟩) = (Part.field name).given template c m)
include hchar

theorem mapM_literal (s : Text) : ((s.map .char).mapM f).map List.flatten = .ok s := by
  induction s with
  | nil => rfl
  | cons c s ih =>
    rw [List.map_cons, ← List.singleton_append, map_flatten_mapM_append, ih, List.mapM_cons, hchar]
    rfl

include hfield

theorem mapM_part {part : Part} (h : part.isPlain = true) :
    (part.segments.mapM f).map List.flatten = part.given template c m := by
  cases part with
  | literal s => exact mapM_literal hchar s
  | opening => exact mapM_literal hchar ['{']
  | closing => exact mapM_literal hchar ['}']
  | field name =>
    rw [Part.segments, List.mapM_cons, hfield name h]
    cases (Part.field name).given template c m with
    | error fault => rfl
    | ok text => exact congrArg Except.ok (List.append_nil text)

theorem mapM_parts {parts : List Part} (h : ∀ part ∈ parts, part.isPlain = true) :
    ((parts.flatMap Part.segments).mapM f).map List.flatten =
      (parts.mapM (Part.given template c m)).map List.flatten := by
  induction parts with
  | nil => rfl
  | cons part rest ih =>
    obtain ⟨hpart, hrest⟩ := List.forall_mem_cons.mp h
    rw [List.flatMap_cons, map_flatten_mapM_append, mapM_part hchar hfield hpart, ih hrest, List.mapM_cons]
    cases part.given template c m with
    | error fault => rfl
    | ok text =>
      cases rest.mapM (Part.given template c m) with
      | error fault => rfl
      | ok texts => rfl

end Given

/-- A template is filled in segment by segment, and what is done with a segment is known for those of plain parts. -/
theorem exists_fill_segments (template c : Text) {m : Text} (hm : '.' ∉ m) :
    ∃ f : Segment → Except Fault Text, fill template (c ++ "." ++ m) = ((segments template).mapM f).map List.flatten ∧
      (∀ c, f (.char c) = .ok [c]) ∧
      ∀ name, Text.isIdentifier name = true → f (.field ⟨name, none, []⟩) = (Part.field name).given template c m := by
  refine ⟨_, rfl, fun c => rfl, fun name hname => ?_⟩
  simp only [valueOf_identifier hname, lookup_fields c hm, Part.given, Part.unknown?, Part.filled]
  cases Known.named? name with
  | none => rfl
  | some field => rfl

theorem fill_parts {c m : Text} (hm : '.' ∉ m) {parts : List Part} (h : ∀ part ∈ parts, part.isPlain = true) :
    fill (parts.flatMap Part.written) (c ++ "." ++ m) =
      (parts.mapM (Part.given (parts.flatMap Part.written) c m)).map List.flatten := by
  obtain ⟨f, hfill, hchar, hfield⟩ := exists_fill_segments (parts.flatMap Part.written) c hm
  rw [hfill, segments_flatMap h, mapM_parts hchar hfield h]

theorem mapM_given_ok {template c m : Text} {parts : List Part} (h : parts.findSome? Part.unknown? = none) :
    parts.mapM (Part.given template c m) = .ok (parts.map (Part.filled c m)) := by
  induction parts with
  | nil => rfl
  | cons part rest ih =>
    rw [List.findSome?_cons] at h
    cases hpart : part.unknown? with
    | none =>
      rw [hpart] at h
      rw [List.mapM_cons, ih h, Part.given, hpart]
      rfl
    | some name =>
      rw [hpart] at h
      cases h

theorem mapM_given_error {template c m name : Text} {parts : List Part}
    (h : parts.findSome? Part.unknown? = some name) :
    parts.mapM (Part.given template c m) = .error (.unknownField (Text.quoted name) template) := by
  induction parts with
  | nil => cases h
  | cons part rest ih =>
    rw [List.findSome?_cons] at h
    cases hpart : part.unknown? with
    | none =>
      rw [hpart] at h
      rw [List.mapM_cons, ih h, Part.given, hpart]
      rfl
    | some other =>
      rw [hpart] at h
      cases h
      rw [List.mapM_cons, Part.given, hpart]
      rfl

/-- The link to a method is the template with single braces for doubled ones and values for fields. A field that is not
    known is complained about, and of several the first one. -/
theorem linkFor_parts (c : Text) {m : Text} (hm : '.' ∉ m) {parts : List Part}
    (hparts : ∀ part ∈ parts, part.isPlain = true) :
    let template := parts.flatMap Part.written
    (parts.findSome? Part.unknown? = none →
      linkFor (.text template) (c ++ "." ++ m) = .ok (parts.flatMap (Part.filled c m))) ∧
    ∀ name, parts.findSome? Part.unknown? = some name → ∃ fault,
      linkFor (.text template) (c ++ "." ++ m) = .error fault ∧ fault.kind = "ValueError" ∧
      fault.message = some ("Unknown field " ++ Text.quoted name ++ " in link template " ++ Text.quoted template) := by
  refine ⟨fun hknown => ?_, fun name hunknown => ?_⟩
  · rw [linkFor, fill_parts hm hparts, mapM_given_ok hknown]
    rfl
  · refine ⟨.unknownField (Text.quoted name) (parts.flatMap Part.written), ?_, rfl, rfl⟩
    rw [linkFor, fill_parts hm hparts, mapM_given_error hunknown]
    rfl

/-- Braces on both sides of a field: `{{{module}}}#{cls_lower}.{name}`. -/
def bracedParts : List Part :=
  [.opening, .field "module", .closing, .literal "#", .field "cls_lower", .literal ".", .field "name"]

/-- Two fields that are not known: `{name}{{{colour}{size}`. -/
def strangeParts : List Part := [.field "name", .opening, .field "colour", .field "size"]

theorem linkFor_parts_tree :
    linkFor (.text "\x7b\x7b\x7bmodule\x7d\x7d\x7d#\x7bcls_lower\x7d.\x7bname\x7d") "wood.plants.Tree.grow" =
      .ok "\x7bwood.plants\x7d#tree.grow" ∧
    ∃ fault, linkFor (.text "\x7bname\x7d\x7b\x7b\x7bcolour\x7d\x7bsize\x7d") "wood.plants.Tree.grow" = .error fault ∧
      fault.kind = "ValueError" ∧
      fault.message = some
        "Unknown field 'colour' in link template '\x7bname\x7d\x7b\x7b\x7bcolour\x7d\x7bsize\x7d'".toList := by
  have hname : '.' ∉ "grow".toList := by decide
  have hbraced : ∀ part ∈ bracedParts, part.isPlain = true := List.all_eq_true.mp (by decide)
  have hstrange : ∀ part ∈ strangeParts, part.isPlain = true := List.all_eq_true.mp (by decide)
  have hlink : bracedParts.flatMap (Part.filled "wood.plants.Tree" "grow") = "\x7bwood.plants\x7d#tree.grow" := by
    decide +kernel
  have hmessage : "Unknown field " ++ Text.quoted "colour" ++ " in link template " ++
      Text.quoted (strangeParts.flatMap Part.written) =
      "Unknown field 'colour' in link template '\x7bname\x7d\x7b\x7b\x7bcolour\x7d\x7bsize\x7d'".toList := by
    decide +kernel
  rw [← hlink, ← hmessage]
  exact ⟨(linkFor_parts "wood.plants.Tree" hname hbraced).1 (by decide),
    (linkFor_parts "wood.plants.Tree" hname hstrange).2 "colour" (by decide)⟩

end Link
end ApiDocs
