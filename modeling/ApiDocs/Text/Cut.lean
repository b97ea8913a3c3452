import ApiDocs.Text.Basic

/-! Cutting a text before certain lines. A tag, a section and an entry all begin at the start of a line and run to the
    next such start; `cutBefore` makes that cut, and nothing of the text is lost by it. -/

namespace ApiDocs.Text

/-- Cuts before every line start at which `begins` holds of the rest, given whether the text stands at a line start.
    The result is what stands before the first cut, and the pieces. -/
def cutFrom (begins : Text → Bool) (atStart : Bool) : Text → Text × List Text
  | [] => ([], [])
  | c :: rest =>
    let (lead, pieces) := cutFrom begins (c == '\n') rest
    if atStart && begins (c :: rest) then ([], (c :: lead) :: pieces) else (c :: lead, pieces)

/-- Cuts a text before every line at which `begins` holds of the rest. -/
def cutBefore (begins : Text → Bool) (s : Text) : Text × List Text := cutFrom begins true s

/-- Whether a text begins with `marker`. -/
def startsWith (marker : Char) (s : Text) : Bool := s.head? == some marker

/-! ### Laws -/

theorem cutFrom_flatten (begins : Text → Bool) (atStart : Bool) (s : Text) :
    (cutFrom begins atStart s).1 ++ (cutFrom begins atStart s).2.flatten = s := by
  induction s generalizing atStart with
  | nil => rfl
  | cons c rest ih =>
    have h := ih (c == '\n')
    simp only [cutFrom]
    split <;> simp [h]

/-- Nothing is lost and nothing is moved. -/
theorem cutBefore_flatten (begins : Text → Bool) (s : Text) :
    (cutBefore begins s).1 ++ (cutBefore begins s).2.flatten = s :=
  cutFrom_flatten begins true s

end ApiDocs.Text
