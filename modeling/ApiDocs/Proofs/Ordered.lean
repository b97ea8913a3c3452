import ApiDocs.Ordered

/-! What ordered tables keep. A key has one place, that of its first entry, and one value, that of its last. -/

namespace ApiDocs.Ordered

variable {κ ν : Type} [BEq κ]

/-- A table after entries are written into it one after the other. -/
def putAll (table entries : List (κ × ν)) : List (κ × ν) :=
  entries.foldl (fun table entry => put entry.1 entry.2 table) table

theorem ofList_eq (entries : List (κ × ν)) : ofList entries = putAll [] entries := rfl

theorem putAll_cons (table : List (κ × ν)) (entry : κ × ν) (rest : List (κ × ν)) :
    putAll table (entry :: rest) = putAll (put entry.1 entry.2 table) rest := rfl

/-! ### One entry -/

theorem mem_of_mem_put {key : κ} {value : ν} {entries : List (κ × ν)} {entry : κ × ν}
    (h : entry ∈ put key value entries) : entry ∈ entries ∨ entry.2 = value := by
  induction entries with
  | nil =>
    obtain rfl := List.mem_singleton.mp h
    exact Or.inr rfl
  | cons first rest ih =>
    rw [put, putBy] at h
    split at h
    · rcases List.mem_cons.mp h with rfl | h
      · exact Or.inr rfl
      · exact Or.inl (List.mem_cons_of_mem _ h)
    · rcases List.mem_cons.mp h with rfl | h
      · exact Or.inl List.mem_cons_self
      · exact (ih h).imp_left (List.mem_cons_of_mem _)

variable [LawfulBEq κ]

theorem put_of_not_mem {key : κ} {entries : List (κ × ν)} (h : key ∉ keys entries) (value : ν) :
    put key value entries = entries ++ [(key, value)] := by
  induction entries with
  | nil => rfl
  | cons entry rest ih =>
    have hne : (entry.1 == key) = false := by
      rw [beq_eq_false_iff_ne]
      exact fun he => h (he ▸ List.mem_cons_self)
    have hrest := ih fun hr => h (List.mem_cons_of_mem _ hr)
    rw [put] at hrest ⊢
    simp [putBy, hne, hrest]

theorem keys_put_of_mem {key : κ} {entries : List (κ × ν)} (h : key ∈ keys entries) (value : ν) :
    keys (put key value entries) = keys entries := by
  induction entries with
  | nil => cases h
  | cons entry rest ih =>
    rw [put, putBy]
    split
    · rfl
    · rename_i hne
      have hrest : key ∈ keys rest := by
        rcases List.mem_cons.mp h with rfl | h
        · simp at hne
        · exact h
      exact congrArg (entry.1 :: ·) (ih hrest)

theorem keys_put_of_not_mem {key : κ} {entries : List (κ × ν)} (h : key ∉ keys entries) (value : ν) :
    keys (put key value entries) = keys entries ++ [key] := by
  rw [put_of_not_mem h]
  exact List.map_append

theorem nodup_keys_put {entries : List (κ × ν)} (h : (keys entries).Nodup) (key : κ) (value : ν) :
    (keys (put key value entries)).Nodup := by
  by_cases hk : key ∈ keys entries
  · rwa [keys_put_of_mem hk]
  · rw [keys_put_of_not_mem hk]
    exact List.nodup_append.mpr ⟨h, by simp, by
      rintro a ha b hb rfl
      exact hk (List.mem_singleton.mp hb ▸ ha)⟩

/-- What stands in a table after an entry is written: that entry, and those of other keys. -/
theorem mem_put {entries : List (κ × ν)} (h : (keys entries).Nodup) {key : κ} {value : ν} {entry : κ × ν}
    (hm : entry ∈ put key value entries) : entry = (key, value) ∨ (entry ∈ entries ∧ entry.1 ≠ key) := by
  induction entries with
  | nil => exact Or.inl (List.mem_singleton.mp hm)
  | cons first rest ih =>
    obtain ⟨hfirst, hrest⟩ := List.nodup_cons.mp h
    rw [put, putBy] at hm
    split at hm
    · rename_i hsame
      have hkey : first.1 = key := beq_iff_eq.mp hsame
      rcases List.mem_cons.mp hm with rfl | hm
      · exact Or.inl (by rw [hkey])
      · refine Or.inr ⟨List.mem_cons_of_mem _ hm, fun he => hfirst ?_⟩
        rw [hkey, ← he]
        exact List.mem_map_of_mem hm
    · rename_i hne
      rcases List.mem_cons.mp hm with rfl | hm
      · exact Or.inr ⟨List.mem_cons_self, by simpa using hne⟩
      · exact (ih hrest hm).imp_right fun h => ⟨List.mem_cons_of_mem _ h.1, h.2⟩

/-- Where each key stands once, what is found under a key is its entry. -/
theorem lookup_of_mem {entries : List (κ × ν)} (h : (keys entries).Nodup) {entry : κ × ν} (hm : entry ∈ entries) :
    entries.lookup entry.1 = some entry.2 := by
  induction entries with
  | nil => cases hm
  | cons first rest ih =>
    obtain ⟨hfirst, hrest⟩ := List.nodup_cons.mp h
    rcases List.mem_cons.mp hm with rfl | hm
    · rw [List.lookup_cons, beq_self_eq_true]
    · have hne : (entry.1 == first.1) = false := by
        rw [beq_eq_false_iff_ne]
        exact fun he => hfirst (he ▸ List.mem_map_of_mem hm)
      rw [List.lookup_cons, hne]
      exact ih hrest hm

theorem lookup_eq_none_iff {entries : List (κ × ν)} {key : κ} : entries.lookup key = none ↔ key ∉ keys entries := by
  rw [List.lookup_eq_none_iff]
  constructor
  · intro h hkey
    obtain ⟨entry, hm, rfl⟩ := List.mem_map.mp hkey
    exact bne_iff_ne.mp (h entry hm) rfl
  · intro h entry hm
    exact bne_iff_ne.mpr fun he => h (he ▸ List.mem_map_of_mem hm)

theorem lookup_erase (key : κ) (entries : List (κ × ν)) : (erase key entries).lookup key = none := by
  refine List.lookup_eq_none_iff.mpr fun entry hm => ?_
  have hne := bne_iff_ne.mp (List.mem_filter.mp hm).2
  exact bne_iff_ne.mpr hne.symm

theorem lookup_erase_of_ne {key other : κ} (h : other ≠ key) (entries : List (κ × ν)) :
    (erase key entries).lookup other = entries.lookup other := by
  induction entries with
  | nil => rfl
  | cons entry rest ih =>
    obtain ⟨k, v⟩ := entry
    rw [erase] at ih ⊢
    by_cases hk : k = key
    · have hother : (other == k) = false := by simpa [hk] using h
      rw [List.filter_cons_of_neg (by simp [hk]), ih, List.lookup_cons, hother]
    · rw [List.filter_cons_of_pos (by simp [hk]), List.lookup_cons, List.lookup_cons, ih]

/-! ### Many entries -/

theorem nodup_keys_putAll {table : List (κ × ν)} (h : (keys table).Nodup) (entries : List (κ × ν)) :
    (keys (putAll table entries)).Nodup := by
  induction entries generalizing table with
  | nil => exact h
  | cons entry rest ih => exact ih (nodup_keys_put h entry.1 entry.2)

theorem nodup_keys_ofList (entries : List (κ × ν)) : (keys (ofList entries)).Nodup := by
  have hnone : (keys ([] : List (κ × ν))).Nodup := List.nodup_nil
  exact nodup_keys_putAll hnone entries

/-- New keys come behind the others, in the order in which they are first written. -/
theorem keys_putAll (table entries : List (κ × ν)) :
    keys (putAll table entries) =
      keys table ++ ((keys entries).filter fun key => !(keys table).contains key).eraseDups := by
  induction entries generalizing table with
  | nil => simp [putAll, keys]
  | cons entry rest ih =>
    rw [putAll_cons, ih]
    have hkeys : keys (entry :: rest) = entry.1 :: keys rest := rfl
    by_cases hk : entry.1 ∈ keys table
    · rw [keys_put_of_mem hk, hkeys, List.filter_cons_of_neg (by simp [hk])]
    · rw [keys_put_of_not_mem hk, hkeys, List.filter_cons_of_pos (by simp [hk]), List.eraseDups_cons,
        List.filter_filter, List.append_assoc, List.singleton_append]
      refine congrArg (fun l => keys table ++ entry.1 :: l.eraseDups) (List.filter_congr fun key _ => ?_)
      rw [Bool.eq_iff_iff]
      simp [not_or, and_comm]

theorem keys_ofList (entries : List (κ × ν)) : keys (ofList entries) = (keys entries).eraseDups := by
  have hall : (keys entries).filter (fun key => !(keys ([] : List (κ × ν))).contains key) = keys entries :=
    List.filter_eq_self.mpr fun _ _ => rfl
  rw [ofList_eq, keys_putAll, hall]
  rfl

/-- The value of a key is the last that was written. -/
theorem mem_putAll {table entries : List (κ × ν)} (h : (keys table).Nodup) {entry : κ × ν}
    (hm : entry ∈ putAll table entries) :
    (∃ before after, entries = before ++ entry :: after ∧ entry.1 ∉ keys after) ∨
      (entry ∈ table ∧ entry.1 ∉ keys entries) := by
  induction entries generalizing table with
  | nil => exact Or.inr ⟨hm, by simp [keys]⟩
  | cons first rest ih =>
    rcases ih (nodup_keys_put h first.1 first.2) hm with ⟨before, after, rfl, ha⟩ | ⟨hp, hr⟩
    · exact Or.inl ⟨first :: before, after, rfl, ha⟩
    · rcases mem_put h hp with rfl | ⟨ht, hne⟩
      · exact Or.inl ⟨[], rest, rfl, hr⟩
      · exact Or.inr ⟨ht, by simpa [keys, hne] using hr⟩

theorem mem_ofList {entries : List (κ × ν)} {entry : κ × ν} (hm : entry ∈ ofList entries) :
    ∃ before after, entries = before ++ entry :: after ∧ entry.1 ∉ keys after := by
  have hnone : (keys ([] : List (κ × ν))).Nodup := List.nodup_nil
  rcases mem_putAll hnone hm with h | ⟨h, -⟩
  · exact h
  · cases h

/-- Entries of different keys are a table as they are. -/
theorem putAll_of_nodup {table entries : List (κ × ν)} (h : (keys (table ++ entries)).Nodup) :
    putAll table entries = table ++ entries := by
  induction entries generalizing table with
  | nil => simp [putAll]
  | cons entry rest ih =>
    have hnot : entry.1 ∉ keys table := by
      have hsplit : (keys table ++ entry.1 :: keys rest).Nodup := by simpa [keys] using h
      exact fun hk => (List.nodup_append.mp hsplit).2.2 entry.1 hk entry.1 List.mem_cons_self rfl
    rw [putAll_cons, put_of_not_mem hnot, ih (by simpa using h)]
    simp

theorem ofList_of_nodup {entries : List (κ × ν)} (h : (keys entries).Nodup) : ofList entries = entries := by
  rw [ofList_eq, putAll_of_nodup (by simpa using h), List.nil_append]

end ApiDocs.Ordered
