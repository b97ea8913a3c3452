import ApiDocs.Text.Cut

/-! The parts of a text and the text: what is cut out of it and put together again. -/

namespace ApiDocs.Text

theorem mem_of_mem_splitWith {p : Char → Bool} {s part : Text} (hp : part ∈ splitWith p s) {c : Char} (hc : c ∈ part) :
    c ∈ s := by
  induction s generalizing part with
  | nil =>
    obtain rfl := List.mem_singleton.mp hp
    exact hc
  | cons d rest ih =>
    simp only [splitWith] at hp
    split at hp
    · rcases List.mem_cons.mp hp with rfl | hp
      · cases hc
      · exact List.mem_cons_of_mem _ (ih hp hc)
    · split at hp
      · obtain rfl := List.mem_singleton.mp hp
        obtain rfl := List.mem_singleton.mp hc
        exact List.mem_cons_self
      · rename_i first parts hs
        rcases List.mem_cons.mp hp with rfl | hp
        · rcases List.mem_cons.mp hc with rfl | hc
          · exact List.mem_cons_self
          · exact List.mem_cons_of_mem _ (ih (by rw [hs]; exact List.mem_cons_self) hc)
        · exact List.mem_cons_of_mem _ (ih (by rw [hs]; exact List.mem_cons_of_mem _ hp) hc)

/-! ### The last of a character -/

theorem exists_last (c : Char) (s : Text) : c ∉ s ∨ ∃ before after, s = before ++ c :: after ∧ c ∉ after := by
  induction s with
  | nil => exact Or.inl List.not_mem_nil
  | cons d rest ih =>
    rcases ih with hnone | ⟨before, after, rfl, hafter⟩
    · by_cases hd : d = c
      · exact Or.inr ⟨[], rest, by rw [hd]; rfl, hnone⟩
      · exact Or.inl fun h => (List.mem_cons.mp h).elim (fun he => hd he.symm) hnone
    · exact Or.inr ⟨d :: before, after, rfl, hafter⟩

theorem cutLast_eq_none {c : Char} {s : Text} (h : c ∉ s) : cutLast c s = none := by
  induction s with
  | nil => rfl
  | cons d rest ih =>
    obtain ⟨hd, hrest⟩ := not_or.mp (mt List.mem_cons.mpr h)
    simp [cutLast, ih hrest, Ne.symm hd]

theorem cutLast_append {c : Char} (before : Text) {after : Text} (h : c ∉ after) :
    cutLast c (before ++ c :: after) = some (before, after) := by
  induction before with
  | nil => simp [cutLast, cutLast_eq_none h]
  | cons d rest ih => simp [cutLast, ih]

/-! ### Joining -/

@[simp] theorem join_singleton (sep part : Text) : join sep [part] = part := by
  simp [join, List.intercalate]

theorem join_cons_cons (sep first second : Text) (rest : List Text) :
    join sep (first :: second :: rest) = first ++ sep ++ join sep (second :: rest) := by
  simp [join, List.intercalate]

theorem prefix_join (sep : Text) (parts : List Text) (last : Text) : join sep parts <+: join sep (parts ++ [last]) := by
  induction parts with
  | nil => exact List.nil_prefix
  | cons first rest ih =>
    cases rest with
    | nil =>
      rw [join_singleton, List.cons_append, List.nil_append, join_cons_cons, List.append_assoc]
      exact List.prefix_append first _
    | cons second rest =>
      rw [join_cons_cons, List.cons_append, List.cons_append, join_cons_cons]
      exact (List.prefix_append_right_inj _).mpr ih

theorem mem_join {c : Char} {sep : Text} {parts : List Text} (h : c ∈ join sep parts) :
    c ∈ sep ∨ ∃ part ∈ parts, c ∈ part := by
  induction parts with
  | nil => cases h
  | cons first rest ih =>
    cases rest with
    | nil =>
      rw [join_singleton] at h
      exact Or.inr ⟨first, List.mem_cons_self, h⟩
    | cons second rest =>
      rw [join_cons_cons] at h
      rcases List.mem_append.mp h with h | h
      · rcases List.mem_append.mp h with h | h
        · exact Or.inr ⟨first, List.mem_cons_self, h⟩
        · exact Or.inl h
      · exact (ih h).imp_right fun ⟨part, hp, hc⟩ => ⟨part, List.mem_cons_of_mem _ hp, hc⟩

/-! ### Order -/

/-- The lexicographic order of texts, by the numbers of their characters. -/
def Before (a b : Text) : Prop := List.Lex (fun c d : Char => c.toNat < d.toNat) a b

theorem precedes_iff {a b : Text} : precedes a b = true ↔ Before a b := by
  induction a generalizing b with
  | nil =>
    cases b with
    | nil => exact ⟨nofun, nofun⟩
    | cons d b => exact ⟨fun _ => .nil, fun _ => rfl⟩
  | cons c a ih =>
    cases b with
    | nil => exact ⟨nofun, nofun⟩
    | cons d b =>
      rw [precedes]
      split
      · rename_i h
        subst h
        refine ⟨fun h => .cons (ih.mp h), fun h => ?_⟩
        cases h with
        | rel h => exact absurd h (Nat.lt_irrefl _)
        | cons h => exact ih.mpr h
      · rename_i hne
        refine ⟨fun h => .rel (of_decide_eq_true h), fun h => ?_⟩
        cases h with
        | rel h => exact decide_eq_true h
        | cons h => exact absurd rfl hne

theorem precedes_asymm {a b : Text} (h : precedes a b = true) : precedes b a = false := by
  induction a generalizing b with
  | nil => cases b <;> rfl
  | cons c a ih =>
    cases b with
    | nil => cases h
    | cons d b =>
      rw [precedes] at h ⊢
      by_cases hc : c = d
      · rw [if_pos hc] at h
        rw [if_pos hc.symm]
        exact ih h
      · rw [if_neg hc] at h
        rw [if_neg (Ne.symm hc)]
        have hlt : c.toNat < d.toNat := of_decide_eq_true h
        exact decide_eq_false (by omega)

/-- A text comes behind the first of two that stand in order, or before the second. -/
theorem precedes_or_precedes {a b : Text} (h : precedes a b = true) (c : Text) :
    precedes a c = true ∨ precedes c b = true := by
  induction a generalizing b c with
  | nil =>
    cases c with
    | nil => exact Or.inr h
    | cons y c => exact Or.inl rfl
  | cons x a ih =>
    cases b with
    | nil => cases h
    | cons y b =>
      cases c with
      | nil => exact Or.inr rfl
      | cons z c =>
        rw [precedes] at h
        rw [precedes, precedes]
        rcases Nat.lt_trichotomy x.toNat z.toNat with hxz | hxz | hxz
        · have hne : x ≠ z := fun he => Nat.ne_of_lt hxz (congrArg Char.toNat he)
          rw [if_neg hne]
          exact Or.inl (decide_eq_true hxz)
        · obtain rfl := Char.toNat_inj.mp hxz
          rw [if_pos rfl]
          by_cases hxy : x = y
          · rw [if_pos hxy] at h ⊢
            exact ih h c
          · rw [if_neg hxy] at h ⊢
            exact Or.inr h
        · have hzy : z.toNat < y.toNat := by
            split at h
            · rename_i he
              exact he ▸ hxz
            · exact Nat.lt_trans hxz (of_decide_eq_true h)
          have hne : z ≠ y := fun he => Nat.ne_of_lt hzy (congrArg Char.toNat he)
          rw [if_neg hne]
          exact Or.inr (decide_eq_true hzy)

theorem precedes_of_not {a b : Text} (h : precedes b a = false) (hne : a ≠ b) : precedes a b = true := by
  induction a generalizing b with
  | nil =>
    cases b with
    | nil => contradiction
    | cons d b => rfl
  | cons c a ih =>
    cases b with
    | nil => cases h
    | cons d b =>
      rw [precedes] at h ⊢
      by_cases hc : c = d
      · subst hc
        rw [if_pos rfl] at h ⊢
        exact ih h fun he => hne (he ▸ rfl)
      · rw [if_neg (Ne.symm hc)] at h
        rw [if_neg hc]
        have hle : ¬d.toNat < c.toNat := of_decide_eq_false h
        have hcd : c.toNat ≠ d.toNat := fun he => hc (Char.toNat_inj.mp he)
        exact decide_eq_true (by omega)

/-! ### Markers -/

/-- Where the marker does not occur nothing is cut. -/
theorem cutFrom_of_not_mem {marker : Char} {s : Text} (h : marker ∉ s) (atStart : Bool) :
    cutFrom (startsWith marker) atStart s = (s, []) := by
  induction s generalizing atStart with
  | nil => rfl
  | cons c rest ih =>
    have hc : startsWith marker (c :: rest) = false := by
      simp only [startsWith, List.head?_cons, beq_eq_false_iff_ne, ne_eq, Option.some.injEq]
      exact fun hc => h (hc ▸ List.mem_cons_self)
    simp [cutFrom, ih fun hr => h (List.mem_cons_of_mem _ hr), hc]

theorem cutBefore_of_not_mem {marker : Char} {s : Text} (h : marker ∉ s) :
    cutBefore (startsWith marker) s = (s, []) :=
  cutFrom_of_not_mem h true

end ApiDocs.Text
