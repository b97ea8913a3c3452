/-! Text is handled as its list of characters: every rule of this library looks at one character after another, and
    proofs go by induction on the list. This module holds the ways to cut a text and to join its parts. -/

namespace ApiDocs

/-- A text, as the list of its characters. -/
abbrev Text := List Char

instance : Coe String Text := ⟨String.toList⟩

namespace Text

/-! ### Cutting -/

/-- The parts between the characters that satisfy `p`; there is one part more than there are such characters. -/
def splitWith (p : Char → Bool) : Text → List Text
  | [] => [[]]
  | c :: rest =>
    if p c then [] :: splitWith p rest
    else match splitWith p rest with
      | [] => [[c]]
      | part :: parts => (c :: part) :: parts

/-- The lines of a text. Only the line feed ends a line. -/
def lines (s : Text) : List Text := splitWith (· == '\n') s

/-- The parts of a dotted name. -/
def dotted (s : Text) : List Text := splitWith (· == '.') s

/-- What stands before and after the first `c`. -/
def cutFirst (c : Char) : Text → Option (Text × Text)
  | [] => none
  | d :: rest => if d = c then some ([], rest) else (cutFirst c rest).map fun cut => (d :: cut.1, cut.2)

/-- What stands before and after the last `c`. -/
def cutLast (c : Char) : Text → Option (Text × Text)
  | [] => none
  | d :: rest =>
    match cutLast c rest with
    | some cut => some (d :: cut.1, cut.2)
    | none => if d = c then some ([], rest) else none

/-- The text without the characters at its end that satisfy `p`. -/
def dropRight (p : Char → Bool) (s : Text) : Text := (s.reverse.dropWhile p).reverse

/-- The text without the line feeds at both ends. -/
def stripFeeds (s : Text) : Text := dropRight (· == '\n') (s.dropWhile (· == '\n'))

/-- The text without a line feed at its end. -/
def dropLastFeed (s : Text) : Text := if s.getLast? = some '\n' then s.dropLast else s

/-- What is left of `s` after `start`, if `s` begins with it. -/
def after? (start : Text) (s : Text) : Option Text :=
  if start.isPrefixOf s then some (s.drop start.length) else none

/-- What is left of `s` before `stop`, if `s` ends with it. -/
def before? (stop : Text) (s : Text) : Option Text :=
  if stop.isSuffixOf s then some (s.take (s.length - stop.length)) else none

/-- The first hit of `p` among the tails of a text, the text itself first and the empty text last. -/
def search {α : Type} (p : Text → Option α) : Text → Option α
  | [] => p []
  | c :: rest => (p (c :: rest)).or (search p rest)

/-! ### Order -/

/-- Whether a text comes before another one, by code points. -/
def precedes : Text → Text → Bool
  | _, [] => false
  | [], _ :: _ => true
  | a :: s, b :: t => if a = b then precedes s t else a.toNat < b.toNat

/-! ### Joining -/

/-- Parts with `sep` between them. -/
def join (sep : Text) (parts : List Text) : Text := sep.intercalate parts

/-- Lines with line feeds between them. -/
def unlines (parts : List Text) : Text := join ['\n'] parts

/-! ### Numbers -/

/-- A natural number in decimal. -/
def ofNat (n : Nat) : Text := Nat.toDigits 10 n

/-- A whole number in decimal. -/
def ofInt : Int → Text
  | .ofNat n => ofNat n
  | .negSucc n => '-' :: ofNat (n + 1)

/-- Digits with zeros before them up to a width. -/
def widen (width : Nat) (digits : Text) : Text := List.replicate (width - digits.length) '0' ++ digits

/-- A number in `width` or more decimal digits. -/
def padded (width n : Nat) : Text := widen width (ofNat n)

/-- A number in `width` or more hexadecimal digits, in lower case. -/
def hex (width n : Nat) : Text := widen width (Nat.toDigits 16 n)

/-! ### Laws -/

theorem cutFirst_length {c : Char} {s before after : Text} (h : cutFirst c s = some (before, after)) :
    after.length < s.length := by
  induction s generalizing before with
  | nil => simp [cutFirst] at h
  | cons d s ih =>
    simp only [cutFirst] at h
    split at h
    · cases h
      simp
    · obtain ⟨⟨x, y⟩, hc, he⟩ := Option.map_eq_some_iff.mp h
      cases he
      exact Nat.lt_succ_of_lt (ih hc)

end Text
end ApiDocs
