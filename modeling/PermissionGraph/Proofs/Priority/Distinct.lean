import PermissionGraph.Lists
import Mathlib.Data.List.Induction
import Mathlib.Data.List.Nodup

/-!
# Lists that hold nothing twice

An entry can be put into a list only where it is new, so that a list that holds nothing twice goes
on holding nothing twice. To put entries last one by one gives what is left of all of them when
later repetitions are dropped at once.
-/

namespace PermissionGraph.Priority

variable {α : Type} [DecidableEq α] {xs : Priority α} {x y : α}

/-- The list with `x` in it, last of all where it is new. -/
def withLast (xs : Priority α) (x : α) : Priority α := if x ∈ xs then xs else addLast xs x

def withFirst (xs : Priority α) (x : α) : Priority α := if x ∈ xs then xs else addFirst xs x

theorem withLast_of_mem (h : x ∈ xs) : withLast xs x = xs := if_pos h

theorem withLast_of_not_mem (h : x ∉ xs) : withLast xs x = xs ++ [x] := if_neg h

theorem withLast_cons_of_ne (h : x ≠ y) (xs : Priority α) :
    withLast (x :: xs) y = x :: withLast xs y := by
  by_cases hmem : y ∈ xs
  · rw [withLast_of_mem hmem, withLast_of_mem (List.mem_cons_of_mem _ hmem)]
  · have hnot : y ∉ x :: xs := by simp [h.symm, hmem]
    rw [withLast_of_not_mem hmem, withLast_of_not_mem hnot, List.cons_append]

omit [DecidableEq α] in
theorem nodup_append_singleton : (xs ++ [x]).Nodup ↔ xs.Nodup ∧ x ∉ xs := by
  rw [← List.concat_eq_append, List.nodup_concat, and_comm]

theorem nodup_withLast (h : xs.Nodup) (x : α) : (withLast xs x).Nodup := by
  rw [withLast]
  split
  · exact h
  · next hx => exact nodup_append_singleton.mpr ⟨h, hx⟩

theorem nodup_withFirst (h : xs.Nodup) (x : α) : (withFirst xs x).Nodup := by
  rw [withFirst]
  split
  · exact h
  · next hx => exact List.nodup_cons.mpr ⟨hx, h⟩

@[simp] theorem mem_withLast : y ∈ withLast xs x ↔ y ∈ xs ∨ y = x := by
  rw [withLast]
  split
  · next hx => exact ⟨Or.inl, fun h => h.elim id fun hy => hy ▸ hx⟩
  · rw [addLast, List.mem_append, List.mem_singleton]

@[simp] theorem mem_withFirst : y ∈ withFirst xs x ↔ y ∈ xs ∨ y = x := by
  rw [withFirst]
  split
  · next hx => exact ⟨Or.inl, fun h => h.elim id fun hy => hy ▸ hx⟩
  · rw [addFirst, List.mem_cons, or_comm]

@[simp] theorem eraseDups_concat (xs : Priority α) (x : α) :
    (xs ++ [x]).eraseDups = withLast xs.eraseDups x := by
  rw [List.eraseDups_append]
  by_cases h : x ∈ xs
  · rw [withLast_of_mem (List.mem_eraseDups.mpr h)]
    simp [List.removeAll, h]
  · rw [withLast_of_not_mem (mt List.mem_eraseDups.mp h)]
    simp [List.removeAll, List.eraseDups_cons, h]

theorem nodup_eraseDups (xs : Priority α) : xs.eraseDups.Nodup := by
  induction xs using List.reverseRecOn with
  | nil => exact List.nodup_nil
  | append_singleton xs x ih =>
    rw [eraseDups_concat]
    exact nodup_withLast ih x

theorem eraseDups_eq_self (h : xs.Nodup) : xs.eraseDups = xs := by
  induction xs using List.reverseRecOn with
  | nil => rfl
  | append_singleton xs x ih =>
    obtain ⟨hxs, hnew⟩ := nodup_append_singleton.mp h
    rw [eraseDups_concat, ih hxs, withLast_of_not_mem hnew]

@[simp] theorem head?_eraseDups (xs : Priority α) : xs.eraseDups.head? = xs.head? := by
  cases xs with
  | nil => rfl
  | cons x xs => simp [List.eraseDups_cons]

theorem foldl_withLast (h : xs.Nodup) (ys : Priority α) :
    ys.foldl withLast xs = (xs ++ ys).eraseDups := by
  induction ys using List.reverseRecOn with
  | nil => rw [List.foldl_nil, List.append_nil, eraseDups_eq_self h]
  | append_singleton ys y ih =>
    rw [List.foldl_append, ih, ← List.append_assoc, eraseDups_concat]
    rfl

end PermissionGraph.Priority
