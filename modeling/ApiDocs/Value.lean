import ApiDocs.Double
import ApiDocs.Moment
import ApiDocs.Ordered
import ApiDocs.Text.Quoted

/-! Plain data, as class tables and settings hold it. Nothing in a table is checked when it is read: whatever stands
    where a name, a comment or a parent is expected is kept, and shows only where it is used. So the rules for odd
    values are here: which of them count as absent, which can be a key, and how each is written in a message. -/

namespace ApiDocs

/-- A value of plain data. -/
inductive Value
  | null
  | flag (set : Bool)
  | number (n : Int)
  | real (x : Double)
  | text (s : Text)
  | list (items : List Value)
  | table (entries : List (Text × Value))
  /-- A date or a time. It may stand in a file, but is not handed on. -/
  | moment (moment : Moment)
  /-- Something else: how it is written, and how it is shown inside other values. -/
  | other (written shown : Text)
deriving Inhabited

namespace Value

/-- Whether a value counts as present: nothing, zero and everything empty do not. -/
def truthy : Value → Bool
  | .null => false
  | .flag set => set
  | .number n => n != 0
  | .real x => !x.isZero
  | .text s => !s.isEmpty
  | .list items => !items.isEmpty
  | .table entries => !entries.isEmpty
  | .moment _ => true
  | .other _ _ => true

/-- Whether a value can be a key: lists and tables cannot. -/
def isKey : Value → Bool
  | .list _ => false
  | .table _ => false
  | _ => true

/-- The number that a value counts as when keys are compared: a flag counts as one or zero. -/
def number? : Value → Option Scaled
  | .flag set => some (.ofInt (if set then 1 else 0))
  | .number n => some (.ofInt n)
  | .real x => x.scaled?
  | _ => none

/-- Whether two values are the same key. -/
def sameKey : Value → Value → Bool
  | .null, .null => true
  | .text a, .text b => a == b
  | .real (.undefined a), .real (.undefined b) => a == b
  | .moment a, .moment b => a.same b
  | .other _ a, .other _ b => a == b
  | a, b =>
    match a.number?, b.number? with
    | some m, some n => m.same n
    | _, _ => false

/-! ### Order -/

/-- The kinds of values that have an order. -/
inductive Scale
  | texts
  | numbers
  | moments (scale : Moment.Scale)
deriving DecidableEq

/-- What a value is compared with, if it has an order with anything. -/
def scale? : Value → Option Scale
  | .text _ => some .texts
  | .flag _ | .number _ | .real _ => some .numbers
  | .moment m => some (.moments m.scale)
  | _ => none

/-- Whether a value comes before another one on the same scale. Texts are ordered by code point. What is no number comes
    before nothing, and nothing comes before it. -/
def precedes (a b : Value) : Bool :=
  match a, b with
  | .text a, .text b => Text.precedes a b
  | .moment a, .moment b => a.position < b.position
  | _, _ =>
    match a.number?, b.number? with
    | some a, some b => a.less b
    | _, _ => false

/-- Whether a value on the scale of numbers is no number. -/
def isUndefined : Value → Bool
  | .real (.undefined _) => true
  | _ => false

/-! ### Parts -/

/-- The text of a value that is one. -/
def text? : Value → Option Text
  | .text s => some s
  | _ => none

/-- The entries of a table. -/
def entries? : Value → Option (List (Text × Value))
  | .table entries => some entries
  | _ => none

/-- What a loop over a value goes through: the items of a list, the characters of a text, the keys of a table. -/
def elements? : Value → Option (List Value)
  | .list items => some items
  | .text s => some (s.map fun c => .text [c])
  | .table entries => some (entries.map fun entry => .text entry.1)
  | _ => none

/-- A text, or null in its absence. -/
def ofText? : Option Text → Value
  | none => .null
  | some s => .text s

mutual

/-- Whether a value can be handed on as data: it has nothing in it that is something else. -/
def isPlain : Value → Bool
  | .list items => allPlain items
  | .table entries => entriesPlain entries
  | .moment _ => false
  | .other _ _ => false
  | _ => true

/-- Whether all items of a list can be handed on. -/
def allPlain : List Value → Bool
  | [] => true
  | item :: rest => isPlain item && allPlain rest

/-- Whether all entries of a table can be handed on. -/
def entriesPlain : List (Text × Value) → Bool
  | [] => true
  | (_, value) :: rest => isPlain value && entriesPlain rest

end

/-! ### How values are written -/

mutual

/-- A value as messages show it inside other values: texts are quoted. -/
def shown : Value → Text
  | .null => "None"
  | .flag true => "True"
  | .flag false => "False"
  | .number n => Text.ofInt n
  | .real x => x.text
  | .text s => Text.quoted s
  | .list items => "[" ++ Text.join ", " (shownItems items) ++ "]"
  | .table entries => "\x7b" ++ Text.join ", " (shownEntries entries) ++ "\x7d"
  | .moment m => m.shown
  | .other _ shown => shown

/-- The items of a list, each as `shown` writes it. -/
def shownItems : List Value → List Text
  | [] => []
  | item :: rest => shown item :: shownItems rest

/-- The entries of a table, each as `shown` writes it. -/
def shownEntries : List (Text × Value) → List Text
  | [] => []
  | (key, value) :: rest => (Text.quoted key ++ ": " ++ shown value) :: shownEntries rest

end

/-- A value as it stands in a message: a text as it is, most else as `shown` writes it. -/
def display : Value → Text
  | .text s => s
  | .moment m => m.written
  | .other written _ => written
  | value => value.shown

end Value
end ApiDocs
