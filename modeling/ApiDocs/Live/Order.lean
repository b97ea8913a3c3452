import ApiDocs.Live.Class

/-! The order of a class and its ancestors. A class comes before its bases, and the bases keep the order in which they are
    listed and the orders that they have themselves. The next class is always the first one that no other order still
    has further back; if there is none, the bases do not go together. -/

namespace ApiDocs.Live

/-- The first head of some lists that is in the tail of none of them. -/
def freeHead? (lists : List (List ClassId)) : Option ClassId :=
  lists.findSome? fun list =>
    match list with
    | [] => none
    | id :: _ => if lists.any fun other => other.tail.contains id then none else some id

/-- The list without `id`, if it is its head. -/
def dropHead (id : ClassId) : List ClassId → List ClassId
  | [] => []
  | other :: rest => if other = id then rest else other :: rest

/-- Joins lists into one that keeps the order of each. The first argument bounds the length of the result. -/
def merge : Nat → List (List ClassId) → Option (List ClassId)
  | 0, lists => if lists.all (·.isEmpty) then some [] else none
  | fuel + 1, lists =>
    if lists.all (·.isEmpty) then some []
    else do
      let id ← freeHead? lists
      let rest ← merge fuel (lists.map (dropHead id))
      return id :: rest

/-- The order of a new class from its bases and their orders. -/
def orderOf (id : ClassId) (bases : List ClassId) (orders : List (List ClassId)) : Option (List ClassId) :=
  let lists := orders ++ [bases]
  (merge lists.flatten.length lists).map (id :: ·)

end ApiDocs.Live
