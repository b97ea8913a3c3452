/-! Tables that keep the order in which their keys were first written. A table is the list of its entries; a key that is
    written again keeps its place and takes the new value. -/

namespace ApiDocs.Ordered

variable {κ ν : Type}

/-- Writes an entry. Keys are compared by `same`; of two equal ones the first stays. -/
def putBy (same : κ → κ → Bool) (key : κ) (value : ν) : List (κ × ν) → List (κ × ν)
  | [] => [(key, value)]
  | entry :: rest =>
    if same entry.1 key then (entry.1, value) :: rest else entry :: putBy same key value rest

/-- Writes an entry. -/
def put [BEq κ] (key : κ) (value : ν) (entries : List (κ × ν)) : List (κ × ν) := putBy (· == ·) key value entries

/-- Takes the entry of a key away. -/
def erase [BEq κ] (key : κ) (entries : List (κ × ν)) : List (κ × ν) := entries.filter fun entry => entry.1 != key

/-- The table that results when entries are written one after the other. -/
def ofList [BEq κ] (entries : List (κ × ν)) : List (κ × ν) :=
  entries.foldl (fun table entry => put entry.1 entry.2 table) []

/-- The value of a key, or `default` if it has none. -/
def getD [BEq κ] (entries : List (κ × ν)) (key : κ) (default : ν) : ν := (entries.lookup key).getD default

/-- The keys in their order. -/
def keys (entries : List (κ × ν)) : List κ := entries.map Prod.fst

/-! ### Laws -/

theorem lookup_put [BEq κ] [LawfulBEq κ] (key : κ) (value : ν) (entries : List (κ × ν)) :
    (put key value entries).lookup key = some value := by
  induction entries with
  | nil => simp [put, putBy]
  | cons entry rest ih =>
    by_cases h : entry.1 = key
    · simp [put, putBy, h]
    · have h' : (key == entry.1) = false := by simpa using Ne.symm h
      have h'' : (entry.1 == key) = false := by simpa using h
      rw [put] at ih ⊢
      obtain ⟨k, v⟩ := entry
      simp only at h' h''
      simp [putBy, h'', List.lookup_cons, h', ih]

theorem lookup_put_of_ne [BEq κ] [LawfulBEq κ] {key other : κ} (h : other ≠ key) (value : ν)
    (entries : List (κ × ν)) : (put key value entries).lookup other = entries.lookup other := by
  induction entries with
  | nil =>
    have h' : (other == key) = false := by simpa using h
    simp [put, putBy, List.lookup_cons, h']
  | cons entry rest ih =>
    rw [put] at ih ⊢
    by_cases he : entry.1 = key
    · have h' : (other == key) = false := by simpa using h
      obtain ⟨k, v⟩ := entry
      subst he
      simp [putBy, List.lookup_cons, h']
    · have h'' : (entry.1 == key) = false := by simpa using he
      obtain ⟨k, v⟩ := entry
      simp only [putBy, h'', Bool.false_eq_true, ↓reduceIte, List.lookup_cons]
      split
      · rfl
      · exact ih

end ApiDocs.Ordered
