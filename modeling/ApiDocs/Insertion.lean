/-! Sorting by insertion, for relations that need not be an order: the result is then not sorted, but it is the same
    arrangement of the same items each time. The items at the start that are sorted already, upwards or downwards, are
    taken as they are; each of the others is put into its place, which is looked for by halving. -/

namespace ApiDocs.Insertion

variable {α : Type}

/-- The items at the start of a list that each relate to the one before, after a first one, and the rest. -/
def run (relates : α → α → Bool) (first : α) : List α → List α × List α
  | [] => ([], [])
  | x :: rest => if relates x first then ((x :: (run relates x rest).1), (run relates x rest).2) else ([], x :: rest)

/-- The number of items before the place of `x`, which is between `low` and `high`. -/
def position (less : α → α → Bool) (x : α) (sorted : List α) (low high : Nat) : Nat :=
  if low < high then
    let middle := (low + high) / 2
    match sorted[middle]? with
    | some y => if less x y then position less x sorted low middle else position less x sorted (middle + 1) high
    | none => low
  else low
termination_by high - low
decreasing_by all_goals omega

/-- Puts an item into its place. -/
def insert (less : α → α → Bool) (sorted : List α) (x : α) : List α :=
  let n := position less x sorted 0 sorted.length
  sorted.take n ++ x :: sorted.drop n

/-- Sorts a list. -/
def sort (less : α → α → Bool) : List α → List α
  | [] => []
  | [x] => [x]
  | x :: y :: rest =>
    let (sorted, rest) :=
      if less y x then
        let (falling, rest) := run less y rest
        ((x :: y :: falling).reverse, rest)
      else
        let (rising, rest) := run (fun a b => !less a b) y rest
        (x :: y :: rising, rest)
    rest.foldl (insert less) sorted

end ApiDocs.Insertion
