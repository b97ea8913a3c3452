import ApiDocs.Proofs.Live.Made

/-! The order of a class and its ancestors. Joining lists keeps the order of each of them and puts nothing twice. So a class
    comes first in its own order, and the orders of its ancestors are all kept in it. -/

namespace ApiDocs.Live

/-! ### Joining lists -/

variable {id x : ClassId} {list out : List ClassId} {lists : List (List ClassId)}

theorem sublist_of_dropHead (h : (dropHead id list).Sublist out) : list.Sublist (id :: out) := by
  rcases list with _ | ⟨other, rest⟩
  · exact List.nil_sublist _
  · by_cases hid : other = id
    · subst hid
      rw [dropHead, if_pos rfl] at h
      exact h.cons_cons other
    · rw [dropHead, if_neg hid] at h
      exact h.cons id

theorem mem_of_mem_dropHead (h : x ∈ dropHead id list) : x ∈ list := by
  rcases list with _ | ⟨other, rest⟩
  · exact h
  · rw [dropHead] at h
    split at h
    · exact List.mem_cons_of_mem other h
    · exact h

theorem not_mem_dropHead (h : id ∉ list.tail) : id ∉ dropHead id list := by
  rcases list with _ | ⟨other, rest⟩
  · exact h
  · rw [dropHead]
    split
    · exact h
    · rename_i hid
      exact List.not_mem_cons_of_ne_of_not_mem (Ne.symm hid) h

theorem of_freeHead? (h : freeHead? lists = some id) :
    (∃ list ∈ lists, id ∈ list) ∧ ∀ list ∈ lists, id ∉ list.tail := by
  obtain ⟨list, hlist, hfree⟩ := List.exists_of_findSome?_eq_some h
  rcases list with _ | ⟨head, rest⟩
  · cases hfree
  · simp only at hfree
    split at hfree
    · cases hfree
    · rename_i hnone
      cases hfree
      refine ⟨⟨_, hlist, List.mem_cons_self⟩, fun other hother hmem => hnone ?_⟩
      exact List.any_eq_true.mpr ⟨other, hother, List.contains_iff_mem.mpr hmem⟩

/-- Lists and what they are joined to, one free head after the other. -/
inductive Joins : List (List ClassId) → List ClassId → Prop
  | done {lists : List (List ClassId)} (hempty : ∀ list ∈ lists, list = []) : Joins lists []
  | step {lists : List (List ClassId)} {id : ClassId} {rest : List ClassId} (hfree : freeHead? lists = some id)
    (hrest : Joins (lists.map (dropHead id)) rest) : Joins lists (id :: rest)

theorem joins_of_merge {fuel : Nat} (h : merge fuel lists = some out) : Joins lists out := by
  have hempty : ∀ {lists : List (List ClassId)}, lists.all (·.isEmpty) = true → Joins lists [] := by
    intro lists hall
    exact .done fun list hlist => List.isEmpty_iff.mp (List.all_eq_true.mp hall list hlist)
  induction fuel generalizing lists out with
  | zero =>
    rw [merge] at h
    split at h
    · cases h
      exact hempty ‹_›
    · cases h
  | succ fuel ih =>
    rw [merge] at h
    split at h
    · cases h
      exact hempty ‹_›
    · obtain ⟨id, hid, h⟩ := Option.bind_eq_some_iff.mp h
      obtain ⟨rest, hrest, h⟩ := Option.bind_eq_some_iff.mp h
      cases h
      exact .step hid (ih hrest)

theorem Joins.sublist (h : Joins lists out) (hlist : list ∈ lists) : list.Sublist out := by
  induction h generalizing list with
  | done hempty =>
    obtain rfl := hempty list hlist
    exact List.nil_sublist []
  | step _ _ ih => exact sublist_of_dropHead (ih (List.mem_map_of_mem hlist))

theorem Joins.exists_mem (h : Joins lists out) (hx : x ∈ out) : ∃ list ∈ lists, x ∈ list := by
  induction h with
  | done => cases hx
  | step hfree _ ih =>
    rcases List.mem_cons.mp hx with rfl | hx
    · exact (of_freeHead? hfree).1
    · obtain ⟨_, hdropped, hx⟩ := ih hx
      obtain ⟨list, hlist, rfl⟩ := List.mem_map.mp hdropped
      exact ⟨list, hlist, mem_of_mem_dropHead hx⟩

theorem Joins.nodup (h : Joins lists out) : out.Nodup := by
  induction h with
  | done => exact List.nodup_nil
  | step hfree hrest ih =>
    -- A free head is in no tail, so it is gone when it has been taken off the lists.
    refine List.nodup_cons.mpr ⟨fun hmem => ?_, ih⟩
    obtain ⟨_, hdropped, hmem⟩ := hrest.exists_mem hmem
    obtain ⟨list, hlist, rfl⟩ := List.mem_map.mp hdropped
    exact not_mem_dropHead ((of_freeHead? hfree).2 list hlist) hmem

/-! ### Orders of classes -/

/-- Orders of classes by place: each begins with its own class, has no class twice, and keeps the orders of all classes
    in it. -/
structure Linear (orders : List (List ClassId)) : Prop where
  root : orders[objectId]? = some [objectId]
  first : ∀ (id : ClassId) (order : List ClassId), orders[id]? = some order → order.head? = some id
  distinct : ∀ order ∈ orders, order.Nodup
  within : ∀ order ∈ orders, ∀ id ∈ order, ∃ above, orders[id]? = some above ∧ above.Sublist order

/-- What can come behind a new class in its order. -/
structure Follow (orders : List (List ClassId)) (rest : List ClassId) : Prop where
  distinct : rest.Nodup
  within : ∀ id ∈ rest, ∃ above, orders[id]? = some above ∧ above.Sublist rest

theorem Linear.append {orders : List (List ClassId)} (h : Linear orders) {rest : List ClassId} (hr : Follow orders rest) :
    Linear (orders ++ [orders.length :: rest]) := by
  have hold : ∀ {id : ClassId} {above : List ClassId}, orders[id]? = some above →
      (orders ++ [orders.length :: rest])[id]? = some above := by
    intro id above habove
    rw [List.getElem?_append_left (List.getElem?_eq_some_iff.mp habove).1]
    exact habove
  have hnew : orders.length ∉ rest := by
    intro hmem
    obtain ⟨above, habove, -⟩ := hr.within _ hmem
    exact Nat.lt_irrefl _ (List.getElem?_eq_some_iff.mp habove).1
  refine ⟨hold h.root, fun id order hid => ?_, fun order hmem => ?_, fun order hmem id hid => ?_⟩
  · rcases Nat.lt_trichotomy id orders.length with hlt | rfl | hgt
    · rw [List.getElem?_append_left hlt] at hid
      exact h.first id order hid
    · rw [List.getElem?_concat_length] at hid
      cases hid
      rfl
    · rw [List.getElem?_eq_none (by simpa using Nat.succ_le_of_lt hgt)] at hid
      cases hid
  · rcases List.mem_append.mp hmem with hmem | hmem
    · exact h.distinct order hmem
    · obtain rfl := List.mem_singleton.mp hmem
      exact List.nodup_cons.mpr ⟨hnew, hr.distinct⟩
  · rcases List.mem_append.mp hmem with hmem | hmem
    · obtain ⟨above, habove, hsub⟩ := h.within order hmem id hid
      exact ⟨above, hold habove, hsub⟩
    · obtain rfl := List.mem_singleton.mp hmem
      rcases List.mem_cons.mp hid with rfl | hid
      · exact ⟨_, List.getElem?_concat_length .., List.Sublist.refl _⟩
      · obtain ⟨above, habove, hsub⟩ := hr.within id hid
        exact ⟨above, hold habove, hsub.cons _⟩

/-- The orders of some bases, joined with the bases, can come behind a class that has the bases. -/
theorem Linear.follow_joins {orders : List (List ClassId)} (h : Linear orders) {bases rest : List ClassId}
    (hbases : ∀ base ∈ bases, base < orders.length)
    (hrest : Joins (bases.map (fun base => (orders[base]?).getD []) ++ [bases]) rest) : Follow orders rest where
  distinct := hrest.nodup
  within id hid := by
    have hkept : ∀ base ∈ bases, ∃ above, orders[base]? = some above ∧ above.Sublist rest := by
      intro base hbase
      have habove := List.getElem?_eq_getElem (hbases base hbase)
      refine ⟨_, habove, hrest.sublist (List.mem_append_left _ (List.mem_map.mpr ⟨base, hbase, ?_⟩))⟩
      rw [habove]
      rfl
    obtain ⟨list, hlist, hid⟩ := hrest.exists_mem hid
    rcases List.mem_append.mp hlist with hlist | hlist
    · obtain ⟨base, hbase, rfl⟩ := List.mem_map.mp hlist
      obtain ⟨order, horder, hsub⟩ := hkept base hbase
      rw [horder] at hid
      obtain ⟨above, habove, hbelow⟩ := h.within order (List.mem_of_getElem? horder) id hid
      exact ⟨above, habove, hbelow.trans hsub⟩
    · obtain rfl := List.mem_singleton.mp hlist
      exact hkept id hid

theorem Linear.follow_root {orders : List (List ClassId)} (h : Linear orders) : Follow orders [objectId] where
  distinct := List.nodup_cons.mpr ⟨List.not_mem_nil, List.nodup_nil⟩
  within id hid := by
    obtain rfl := List.mem_singleton.mp hid
    exact ⟨_, h.root, List.Sublist.refl _⟩

/-- What comes before an element of a list comes before it in a longer list that has the element once. -/
theorem sublist_before {α : Type} {front back before after : List α} {a : α}
    (h : (front ++ a :: back).Sublist (before ++ a :: after)) (ha : a ∉ after) : front.Sublist before := by
  induction before generalizing front with
  | nil =>
    rcases front with _ | ⟨x, front⟩
    · exact List.nil_sublist []
    · cases h with
      | cons _ h => exact absurd (h.subset (by simp)) ha
      | cons_cons _ h => exact absurd (h.subset (by simp)) ha
  | cons y before ih =>
    rcases front with _ | ⟨x, front⟩
    · exact List.nil_sublist _
    · cases h with
      | cons _ h => exact (ih h).cons y
      | cons_cons _ h => exact (ih h).cons_cons y

/-! ### Worlds -/

namespace World
variable {world world' : World} {own : ClassId}

/-- The orders of all classes. -/
def orders (world : World) : List (List ClassId) := world.classes.map (·.order)

theorem length_orders (world : World) : world.orders.length = world.classes.length := List.length_map ..

theorem order_eq (world : World) (id : ClassId) : world.order id = (world.orders[id]?).getD [] := by
  rw [orders, List.getElem?_map, order]

theorem orders_modify (world : World) (id : ClassId) {change : Class → Class} (h : ∀ c, (change c).order = c.order) :
    ({ world with classes := world.classes.modify id change } : World).orders = world.orders := by
  refine List.ext_getElem? fun i => ?_
  simp only [orders, List.getElem?_map, List.getElem?_modify]
  rcases world.classes[i]? with _ | c
  · rfl
  · by_cases hi : id = i
    · simp [hi, h]
    · simp [hi]

theorem Touches.orders (h : Touches own world world') : world'.orders = world.orders := by
  induction h with
  | nothing => rfl
  | aside _ hclasses _ ih => rw [World.orders, hclasses, ← World.orders, ih]
  | @value later _ id name object _ ih =>
    rw [← ih]
    exact later.orders_modify id fun _ => rfl
  | changed _ _ horder _ ih => exact (orders_modify _ own horder).trans ih

theorem linear_addMembers (d : Declaration) (body : List (Text × Body)) (state : World × List (Text × Member))
    (h : Linear state.1.orders) : Linear (body.foldl (addMember d) state).1.orders := by
  induction body generalizing state with
  | nil => exact h
  | cons entry rest ih =>
    refine ih _ ?_
    rcases addMember_cases d state entry with ⟨hclasses, -⟩ | ⟨c, hadded, -, horder, -⟩
    · rw [orders, hclasses]
      exact h
    · have happend := h.append h.follow_root
      rw [length_orders] at happend
      rw [hadded, orders, List.map_append, List.map_singleton, horder]
      exact happend

theorem linear_declare {d : Declaration} (hc : world.Closed) (h : Linear world.orders)
    (hd : world.declare d = .ok world') : Linear world'.orders := by
  obtain ⟨listed, grown, members, c, hlisted, hbody, hbases, horder, -, htouches⟩ := declare_cases hd
  have hlinear := linear_addMembers d d.body (world, firstMembers d.home d.comment) h
  have hgrows := grows_addMembers d d.body (world, firstMembers d.home d.comment)
  rw [hbody] at hlinear hgrows
  obtain ⟨rest, hrest, horder⟩ := Option.map_eq_some_iff.mp horder
  rw [funext grown.order_eq] at hrest
  have hbelow : ∀ base ∈ c.bases, base < grown.orders.length := by
    intro base hbase
    rw [length_orders]
    exact Nat.lt_of_lt_of_le (lt_of_actualBases hc (lt_of_basesOf hc hlisted) (hbases ▸ hbase)) hgrows.length
  have happend := hlinear.append (hlinear.follow_joins hbelow (joins_of_merge hrest))
  rw [htouches.orders, orders, List.map_append, List.map_singleton, ← horder]
  rw [length_orders] at happend
  exact happend

theorem linear_standard : Linear World.standard.orders := by
  have hfirst : ∀ id, id < World.standard.orders.length → ∀ order ∈ World.standard.orders[id]?, order.head? = some id := by
    decide +kernel
  have hwithin : World.standard.orders.all fun order => order.all fun id =>
      (World.standard.orders[id]?).any fun above => above.isSublist order := by decide +kernel
  refine ⟨by decide +kernel, fun id order hid => ?_, by decide +kernel, fun order hmem id hid => ?_⟩
  · exact hfirst id (List.getElem?_eq_some_iff.mp hid).1 order hid
  · have hany := List.all_eq_true.mp (List.all_eq_true.mp hwithin order hmem) id hid
    cases habove : World.standard.orders[id]? with
    | none => simp [habove] at hany
    | some above => exact ⟨above, rfl, List.isSublist_iff_sublist.mp (by simpa [habove] using hany)⟩

theorem Made.linear (h : world.Made) : Linear world.orders := by
  induction h with
  | standard => exact linear_standard
  | declare hmade hd ih => exact linear_declare hmade.closed ih hd
  | place _ home path object ih =>
    rw [(touches_place objectId _ home path object).orders]
    exact ih

theorem mem_orders_of_mem {id above : ClassId} (h : above ∈ world.order id) :
    world.orders[id]? = some (world.order id) ∧ world.order id ∈ world.orders := by
  rw [order_eq] at h ⊢
  cases horder : world.orders[id]? with
  | none => simp [horder] at h
  | some order => exact ⟨rfl, List.mem_of_getElem? horder⟩

/-- A class comes first in its own order. -/
theorem Made.order_cons (h : world.Made) {id : ClassId} (hid : id < world.classes.length) :
    ∃ rest, world.order id = id :: rest := by
  have horder := List.getElem?_eq_getElem (world.length_orders ▸ hid)
  have hfirst := h.linear.first id _ horder
  rw [order_eq, horder, Option.getD_some]
  exact List.head?_eq_some_iff.mp hfirst

theorem Made.nodup_order (h : world.Made) (id : ClassId) : (world.order id).Nodup := by
  rcases hrest : world.order id with _ | ⟨above, rest⟩
  · exact List.nodup_nil
  · rw [← hrest]
    have hmem : above ∈ world.order id := hrest ▸ List.mem_cons_self
    exact h.linear.distinct _ (mem_orders_of_mem hmem).2

/-- The order of a class keeps the orders of all its ancestors. -/
theorem Made.order_sublist (h : world.Made) {id above : ClassId} (ha : above ∈ world.order id) :
    above < world.classes.length ∧ (world.order above).Sublist (world.order id) := by
  obtain ⟨order, horder, hsub⟩ := h.linear.within _ (mem_orders_of_mem ha).2 above ha
  refine ⟨world.length_orders ▸ (List.getElem?_eq_some_iff.mp horder).1, ?_⟩
  rw [world.order_eq above, horder]
  exact hsub

end World
end ApiDocs.Live
