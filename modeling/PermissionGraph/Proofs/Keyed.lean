import PermissionGraph.Lists

/-!
# Lookups after writes

What a lookup by key finds after a value was assigned to a key or the entries of a key were
dropped. Other keys find what they found before. Keys in ascending order stay so.
-/

namespace PermissionGraph.Keyed

variable {κ α : Type}

theorem lookup_of_mem_of_nodup [BEq κ] [LawfulBEq κ] {xs : List (κ × α)}
    (h : (xs.map Prod.fst).Nodup) {k : κ} {a : α} (hmem : (k, a) ∈ xs) : xs.lookup k = some a := by
  induction xs with
  | nil => cases hmem
  | cons x xs ih =>
    obtain ⟨l, b⟩ := x
    obtain ⟨hfirst, hrest⟩ := List.nodup_cons.mp h
    rcases List.mem_cons.mp hmem with heq | hmem
    · obtain ⟨rfl, rfl⟩ := Prod.mk.inj heq
      exact List.lookup_cons_self
    · have hne : k ≠ l := fun heq => hfirst (List.mem_map.mpr ⟨(k, a), hmem, heq⟩)
      rw [List.lookup_cons, beq_eq_false_iff_ne.mpr hne]
      exact ih hrest hmem

variable [DecidableEq κ]

@[simp] theorem get?_cons (k k' : κ) (a : α) (xs : Keyed κ α) :
    get? ((k', a) :: xs) k = if k' = k then some a else get? xs k := by
  by_cases h : k' = k <;> simp [get?, h]

@[simp] theorem get?_assign_self (xs : Keyed κ α) (k : κ) (a : α) :
    (assign k a xs).get? k = some a := by
  induction xs with
  | nil => simp [assign, get?]
  | cons x xs ih =>
    obtain ⟨k', a'⟩ := x
    by_cases h : k' = k <;> simp [assign, h, ih]

@[simp] theorem get?_assign_of_ne (xs : Keyed κ α) {k k' : κ} (h : k ≠ k') (a : α) :
    (assign k a xs).get? k' = xs.get? k' := by
  induction xs with
  | nil => simp [assign, get?, h]
  | cons x xs ih =>
    obtain ⟨l, b⟩ := x
    by_cases hl : l = k <;> simp [assign, hl, h, ih]

theorem mem_of_get?_eq_some {xs : Keyed κ α} {k : κ} {a : α} (h : xs.get? k = some a) :
    (k, a) ∈ xs := by
  obtain ⟨⟨k', a'⟩, hfind, rfl⟩ := Option.map_eq_some_iff.mp h
  obtain rfl : k' = k := by simpa using List.find?_some hfind
  exact List.mem_of_find?_eq_some hfind

@[simp] theorem get?_remove_self (xs : Keyed κ α) (k : κ) : (xs.remove k).get? k = none := by
  rw [get?, remove, List.find?_filter, Option.map_eq_none_iff, List.find?_eq_none]
  intro x _
  simp

@[simp] theorem get?_remove_of_ne (xs : Keyed κ α) {k k' : κ} (h : k ≠ k') :
    (xs.remove k).get? k' = xs.get? k' := by
  rw [get?, remove, List.find?_filter, get?]
  congr 2
  funext x
  by_cases hx : x.1 = k' <;> simp [hx, h.symm]

@[simp] theorem get?_assignOrdered_self (xs : Keyed String α) (k : String) (a : α) :
    (assignOrdered k a xs).get? k = some a := by
  induction xs with
  | nil => simp [assignOrdered, get?]
  | cons x xs ih =>
    obtain ⟨l, b⟩ := x
    rw [assignOrdered]
    by_cases hl : l = k
    · simp [hl]
    · rw [if_neg hl]
      split <;> simp [hl, ih]

@[simp] theorem get?_assignOrdered_of_ne (xs : Keyed String α) {k k' : String} (h : k ≠ k')
    (a : α) : (assignOrdered k a xs).get? k' = xs.get? k' := by
  induction xs with
  | nil => simp [assignOrdered, get?, h]
  | cons x xs ih =>
    obtain ⟨l, b⟩ := x
    rw [assignOrdered]
    by_cases hl : l = k
    · simp [hl, h]
    · rw [if_neg hl]
      split <;> simp [h, ih]

theorem mem_assignOrdered {xs : Keyed String α} {k : String} {a : α} {x : String × α}
    (h : x ∈ assignOrdered k a xs) : x = (k, a) ∨ x ∈ xs := by
  induction xs with
  | nil => exact Or.inl (List.mem_singleton.mp h)
  | cons y xs ih =>
    obtain ⟨l, b⟩ := y
    rw [assignOrdered] at h
    split at h
    · exact (List.mem_cons.mp h).imp_right (List.mem_cons_of_mem _)
    · split at h
      · rcases List.mem_cons.mp h with rfl | h
        · exact Or.inr List.mem_cons_self
        · exact (ih h).imp_right (List.mem_cons_of_mem _)
      · exact List.mem_cons.mp h

/-- The keys ascend, so that each stands in the list once. -/
def Ascending (xs : Keyed String α) : Prop := xs.Pairwise fun x y => x.1 < y.1

theorem ascending_nil : Ascending ([] : Keyed String α) := List.Pairwise.nil

theorem Ascending.assignOrdered {xs : Keyed String α} (h : xs.Ascending) (k : String) (a : α) :
    Ascending (xs.assignOrdered k a) := by
  induction xs with
  | nil => exact List.pairwise_singleton _ _
  | cons x xs ih =>
    obtain ⟨l, b⟩ := x
    obtain ⟨hfirst, hrest⟩ := List.pairwise_cons.mp h
    rw [Keyed.assignOrdered]
    split
    · next hl => exact List.pairwise_cons.mpr ⟨hl ▸ hfirst, hrest⟩
    · next hl =>
      split
      · next hlt =>
        refine List.pairwise_cons.mpr ⟨fun y hy => ?_, ih hrest⟩
        rcases mem_assignOrdered hy with rfl | hy
        · exact hlt
        · exact hfirst y hy
      · next hle =>
        have hlt : k < l := Decidable.byContradiction fun hge =>
          hl (String.le_antisymm (String.not_lt.mp hge) (String.not_lt.mp hle))
        refine List.pairwise_cons.mpr ⟨fun y hy => ?_, h⟩
        rcases List.mem_cons.mp hy with rfl | hy
        · exact hlt
        · exact String.lt_trans hlt (hfirst y hy)

theorem Ascending.remove {xs : Keyed String α} (h : xs.Ascending) (k : String) :
    Ascending (xs.remove k) := List.Pairwise.filter _ h

theorem Ascending.get?_eq_some_iff {xs : Keyed String α} (h : xs.Ascending) {k : String} {a : α} :
    xs.get? k = some a ↔ (k, a) ∈ xs := by
  refine ⟨mem_of_get?_eq_some, fun hmem => ?_⟩
  induction xs with
  | nil => cases hmem
  | cons x xs ih =>
    obtain ⟨l, b⟩ := x
    obtain ⟨hfirst, hrest⟩ := List.pairwise_cons.mp h
    rw [get?_cons]
    rcases List.mem_cons.mp hmem with heq | hmem
    · obtain ⟨rfl, rfl⟩ := Prod.mk.inj heq
      rw [if_pos rfl]
    · have hlt : l < k := hfirst (k, a) hmem
      have hne : l ≠ k := fun heq => String.lt_irrefl k (heq ▸ hlt)
      rw [if_neg hne]
      exact ih hrest hmem

theorem filter_cons_self (xs : List (κ × α)) (k : κ) (a : α) :
    ((k, a) :: xs).filter (fun x => x.1 ≠ k) = xs.filter fun x => x.1 ≠ k := by
  apply List.filter_cons_of_neg
  simp

theorem filter_cons_of_ne (xs : List (κ × α)) {k k' : κ} (h : k' ≠ k) (a : α) :
    ((k', a) :: xs).filter (fun x => x.1 ≠ k) = (k', a) :: xs.filter fun x => x.1 ≠ k := by
  apply List.filter_cons_of_pos
  simpa using h

variable [BEq κ] [LawfulBEq κ]

theorem lookup_filter_self (xs : List (κ × α)) (k : κ) :
    (xs.filter fun x => x.1 ≠ k).lookup k = none := by
  rw [List.lookup_eq_none_iff]
  intro x hx
  have hne : x.1 ≠ k := by simpa using (List.mem_filter.mp hx).2
  simpa using hne.symm

theorem lookup_filter_of_ne (xs : List (κ × α)) {k k' : κ} (h : k ≠ k') :
    (xs.filter fun x => x.1 ≠ k).lookup k' = xs.lookup k' := by
  induction xs with
  | nil => rfl
  | cons x xs ih =>
    obtain ⟨l, b⟩ := x
    by_cases hl : l = k
    · subst hl
      have hk : (k' == l) = false := beq_eq_false_iff_ne.mpr h.symm
      rw [filter_cons_self, ih, List.lookup_cons, hk]
    · rw [filter_cons_of_ne xs hl, List.lookup_cons, List.lookup_cons, ih]

theorem filter_eq_self_of_lookup {xs : List (κ × α)} {k : κ} (h : xs.lookup k = none) :
    xs.filter (fun x => x.1 ≠ k) = xs := by
  rw [List.filter_eq_self]
  intro x hx
  have hne : k ≠ x.1 := by simpa using List.lookup_eq_none_iff.mp h x hx
  simpa using hne.symm

theorem lookup_map_write (xs : List (κ × α)) (k : κ) (a : α) (k' : κ) :
    (xs.map fun x => if x.1 = k then (k, a) else x).lookup k' =
      if k' = k then (xs.lookup k).map fun _ => a else xs.lookup k' := by
  induction xs with
  | nil => simp
  | cons x xs ih =>
    obtain ⟨l, b⟩ := x
    rw [List.map_cons, List.lookup_cons, List.lookup_cons]
    by_cases hl : l = k
    · subst hl
      rw [if_pos rfl, List.lookup_cons, ih]
      by_cases hk : k' = l
      · simp [hk]
      · rw [if_neg hk, if_neg hk, beq_eq_false_iff_ne.mpr hk]
    · rw [if_neg hl, List.lookup_cons, ih]
      by_cases hk : k' = k
      · rw [if_pos hk, if_pos hk, hk, beq_eq_false_iff_ne.mpr (Ne.symm hl)]
      · rw [if_neg hk, if_neg hk]

end PermissionGraph.Keyed
