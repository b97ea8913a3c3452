import ApiDocs.Text.Basic

/-! Classes of characters given by ranges of code points. -/

namespace ApiDocs.Text

/-- Whether the code point of `c` lies in one of the ranges, ends included. -/
def inRanges (ranges : List (Nat × Nat)) (c : Char) : Bool :=
  ranges.any fun range => range.1 ≤ c.toNat && c.toNat ≤ range.2

/-- Membership in a class that is given by `ascii` below U+0080 and by ranges from there on. -/
def inClass (ascii : Char → Bool) (ranges : List (Nat × Nat)) (c : Char) : Bool :=
  if c.toNat < 0x80 then ascii c else inRanges ranges c

theorem inClass_ascii {ascii : Char → Bool} {ranges : List (Nat × Nat)} {c : Char} (h : c.toNat < 0x80) :
    inClass ascii ranges c = ascii c := by
  simp [inClass, h]

end ApiDocs.Text
