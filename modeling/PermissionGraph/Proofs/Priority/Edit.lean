import PermissionGraph.Lists
import Mathlib.Data.List.Basic

/-!
# Edits of a priority list

An edit puts in one entry, first, last, before or after the first occurrence of another, or takes
out the first occurrence of an entry. An edit that does not name an entry does the same whether or
not the entry is in the list, although places behind the entry shift, so that an entry which was put
in can be taken out after any such edits as if it had never been there.
-/

namespace PermissionGraph.Priority

inductive Edit (α : Type)
  | addFirst (x : α)
  | addLast (x : α)
  | addBefore (ref x : α)
  | addAfter (ref x : α)
  | remove (x : α)

namespace Edit

variable {α : Type}

def added? : Edit α → Option α
  | addFirst x | addLast x | addBefore _ x | addAfter _ x => some x
  | remove _ => none

def names : Edit α → List α
  | addFirst x | addLast x | remove x => [x]
  | addBefore ref x | addAfter ref x => [ref, x]

variable [DecidableEq α]

def apply : Edit α → Priority α → Priority α
  | addFirst x, xs => Priority.addFirst xs x
  | addLast x, xs => Priority.addLast xs x
  | addBefore ref x, xs => Priority.addBefore xs ref x
  | addAfter ref x, xs => Priority.addAfter xs ref x
  | remove x, xs => (Priority.remove xs x).2

def applyAll (edits : List (Edit α)) (xs : Priority α) : Priority α :=
  edits.foldl (fun xs edit => edit.apply xs) xs

end Edit

variable {α : Type} [DecidableEq α] {xs before after : Priority α} {ref x : α}

theorem idxOf?_of_first (h : ref ∉ before) :
    (before ++ ref :: after).idxOf? ref = some before.length := by
  induction before with
  | nil => simp [List.idxOf?_cons]
  | cons y before ih =>
    obtain ⟨hy, hbefore⟩ := not_or.mp (mt List.mem_cons.mpr h)
    rw [List.cons_append, List.idxOf?_cons, ih hbefore]
    simp [Ne.symm hy]

omit [DecidableEq α] in
theorem insertIdx_length (before after : Priority α) (x : α) :
    (before ++ after).insertIdx before.length x = before ++ x :: after := by
  induction before with
  | nil => rw [List.nil_append, List.length_nil, List.insertIdx_zero, List.nil_append]
  | cons y before ih =>
    rw [List.cons_append, List.length_cons, List.insertIdx_succ_cons, ih, List.cons_append]

theorem addBefore_of_first (h : ref ∉ before) (x : α) :
    addBefore (before ++ ref :: after) ref x = before ++ x :: ref :: after := by
  simp only [addBefore, idxOf?_of_first h]
  exact insertIdx_length before (ref :: after) x

theorem addAfter_of_first (h : ref ∉ before) (x : α) :
    addAfter (before ++ ref :: after) ref x = before ++ ref :: x :: after := by
  have hplace := insertIdx_length (before ++ [ref]) after x
  rw [List.length_append, List.length_singleton, List.append_assoc, List.append_assoc] at hplace
  simp only [addAfter, idxOf?_of_first h]
  exact hplace

theorem addBefore_of_not_mem (h : ref ∉ xs) (x : α) : addBefore xs ref x = x :: xs := by
  simp only [addBefore, List.idxOf?_eq_none_iff.mpr h]

theorem addAfter_of_not_mem (h : ref ∉ xs) (x : α) : addAfter xs ref x = xs ++ [x] := by
  simp only [addAfter, List.idxOf?_eq_none_iff.mpr h]

/-- What `addBefore` leaves ahead of the entry that it puts in. -/
def ahead (xs : Priority α) (ref : α) : Priority α :=
  if ref ∈ xs then xs.takeWhile (· ≠ ref) else []

theorem ahead_of_first (h : ref ∉ before) (after : Priority α) :
    ahead (before ++ ref :: after) ref = before := by
  have hbefore : ∀ y ∈ before, decide (y ≠ ref) = true :=
    fun y hy => decide_eq_true fun heq => h (heq ▸ hy)
  rw [ahead, if_pos (List.mem_append_right _ List.mem_cons_self),
    List.takeWhile_append_of_pos hbefore, List.takeWhile_cons_of_neg (by simp), List.append_nil]

theorem addBefore_eq_ahead (xs : Priority α) (ref x : α) :
    ∃ rest, xs = ahead xs ref ++ rest ∧ addBefore xs ref x = ahead xs ref ++ x :: rest := by
  by_cases href : ref ∈ xs
  · obtain ⟨before, after, rfl, hfirst⟩ := List.eq_append_cons_of_mem href
    exact ⟨ref :: after, by rw [ahead_of_first hfirst], by
      rw [ahead_of_first hfirst, addBefore_of_first hfirst]⟩
  · exact ⟨xs, by rw [ahead, if_neg href, List.nil_append], by
      rw [ahead, if_neg href, List.nil_append, addBefore_of_not_mem href]⟩

theorem subset_addBefore (xs : Priority α) (ref x : α) : xs ⊆ addBefore xs ref x := by
  obtain ⟨rest, hxs, hadd⟩ := addBefore_eq_ahead xs ref x
  have hsub : ahead xs ref ++ rest ⊆ addBefore xs ref x :=
    hadd ▸ ((List.sublist_cons_self x rest).append_left (ahead xs ref)).subset
  rwa [← hxs] at hsub

/-- A new entry answers first where it answers at all and nothing ahead of it does. -/
theorem findSome?_addBefore {β : Type} (f : α → Option β) (xs : Priority α) (ref x : α) :
    (addBefore xs ref x).findSome? f =
      if (∀ y ∈ ahead xs ref, f y = none) ∧ f x ≠ none then f x else xs.findSome? f := by
  obtain ⟨rest, hxs, hadd⟩ := addBefore_eq_ahead xs ref x
  have hold : xs.findSome? f = ((ahead xs ref).findSome? f).or (rest.findSome? f) := by
    rw [← List.findSome?_append, ← hxs]
  rw [hadd, List.findSome?_append, List.findSome?_cons, hold]
  by_cases hahead : ∀ y ∈ ahead xs ref, f y = none
  · rw [List.findSome?_eq_none_iff.mpr hahead, Option.none_or, Option.none_or]
    cases hx : f x with
    | none => exact (if_neg fun h => h.2 rfl).symm
    | some b => exact (if_pos ⟨hahead, Option.some_ne_none b⟩).symm
  · rw [if_neg (fun h => hahead h.1)]
    obtain ⟨b, hb⟩ := Option.ne_none_iff_exists'.mp (mt List.findSome?_eq_none_iff.mp hahead)
    rw [hb, Option.some_or, Option.some_or]

theorem remove_of_first (h : x ∉ before) :
    remove (before ++ x :: after) x = (true, before ++ after) := by
  rw [remove, List.erase_append_right _ h, List.erase_cons_head]
  simp

theorem remove_of_not_mem (h : x ∉ xs) : remove xs x = (false, xs) := by
  rw [remove, List.erase_of_not_mem h, decide_eq_false h]

namespace Edit

/-- What is put in stands somewhere between the entries that were there. -/
theorem apply_of_added {edit : Edit α} (h : edit.added? = some x) (xs : Priority α) :
    ∃ before after, xs = before ++ after ∧ edit.apply xs = before ++ x :: after := by
  cases edit with
  | addFirst y =>
    obtain rfl := Option.some.inj h
    exact ⟨[], xs, rfl, rfl⟩
  | addLast y =>
    obtain rfl := Option.some.inj h
    exact ⟨xs, [], (List.append_nil xs).symm, rfl⟩
  | addBefore ref y =>
    obtain rfl := Option.some.inj h
    exact ⟨ahead xs ref, addBefore_eq_ahead xs ref y⟩
  | addAfter ref y =>
    obtain rfl := Option.some.inj h
    by_cases href : ref ∈ xs
    · obtain ⟨before, after, rfl, hfirst⟩ := List.eq_append_cons_of_mem href
      refine ⟨before ++ [ref], after, by simp, ?_⟩
      rw [apply, addAfter_of_first hfirst, List.append_assoc]
      rfl
    · exact ⟨xs, [], (List.append_nil xs).symm, addAfter_of_not_mem href y⟩
  | remove y => cases h

theorem mem_apply {edit : Edit α} (h : x ∉ edit.names) (hx : x ∈ xs) : x ∈ edit.apply xs := by
  cases hadded : edit.added? with
  | some y =>
    obtain ⟨before, after, rfl, happly⟩ := apply_of_added hadded xs
    rw [happly]
    exact ((List.sublist_cons_self y after).append_left before).subset hx
  | none =>
    cases edit with
    | remove y =>
      have hne : x ≠ y := fun heq => h (List.mem_singleton.mpr heq)
      exact (List.mem_erase_of_ne hne).mpr hx
    | _ => cases hadded

/-- A change at the first `ref` is the same with and without an entry that has no part in it. -/
theorem erase_of_first (part : Priority α) {f : Priority α → Priority α}
    (hf : ∀ before after, ref ∉ before → f (before ++ ref :: after) = before ++ (part ++ after))
    (href : ref ∈ xs) (hx : x ≠ ref) (hpart : x ∉ part) : (f xs).erase x = f (xs.erase x) := by
  obtain ⟨before, after, rfl, hfirst⟩ := List.eq_append_cons_of_mem href
  have hcons : (ref :: after).erase x = ref :: after.erase x :=
    List.erase_cons_tail (by simpa using hx.symm)
  -- the first `x` stands ahead of `ref` or behind it, and `ref` stays first of its kind
  rw [hf before after hfirst, List.erase_append, List.erase_append_right after hpart,
    List.erase_append, hcons]
  by_cases hmem : x ∈ before
  · rw [if_pos hmem, if_pos hmem, hf _ _ (mt List.mem_of_mem_erase hfirst)]
  · rw [if_neg hmem, if_neg hmem, hf _ _ hfirst]

theorem erase_addLast {y : α} (h : x ≠ y) (xs : Priority α) :
    (Priority.addLast xs y).erase x = Priority.addLast (xs.erase x) y := by
  have hy : [y].erase x = [y] := List.erase_of_not_mem (mt List.mem_singleton.mp h)
  rw [Priority.addLast, Priority.addLast, List.erase_append, hy]
  split
  · rfl
  · next hx => rw [List.erase_of_not_mem hx]

/-- An edit does the same with and without an entry that it does not name. -/
theorem erase_apply {edit : Edit α} (h : x ∉ edit.names) (xs : Priority α) :
    (edit.apply xs).erase x = edit.apply (xs.erase x) := by
  cases edit with
  | addFirst y =>
    have hne : y ≠ x := fun heq => h (List.mem_singleton.mpr heq.symm)
    exact List.erase_cons_tail (by simpa using hne)
  | addLast y => exact erase_addLast (mt List.mem_singleton.mpr h) xs
  | addBefore ref y =>
    obtain ⟨href, hy⟩ := not_or.mp (mt List.mem_cons.mpr h)
    by_cases hmem : ref ∈ xs
    · refine erase_of_first [y, ref] (fun _ _ hfirst => addBefore_of_first hfirst y) hmem href ?_
      simpa [names, and_comm] using h
    · have hne : y ≠ x := fun heq => hy (List.mem_singleton.mpr heq.symm)
      rw [apply, apply, addBefore_of_not_mem hmem,
        addBefore_of_not_mem (mt List.mem_of_mem_erase hmem)]
      exact List.erase_cons_tail (by simpa using hne)
  | addAfter ref y =>
    obtain ⟨href, hy⟩ := not_or.mp (mt List.mem_cons.mpr h)
    by_cases hmem : ref ∈ xs
    · exact erase_of_first [ref, y] (fun _ _ hfirst => addAfter_of_first hfirst y) hmem href h
    · rw [apply, apply, addAfter_of_not_mem hmem,
        addAfter_of_not_mem (mt List.mem_of_mem_erase hmem)]
      exact erase_addLast (mt List.mem_singleton.mpr hy) xs
  | remove y => exact List.erase_comm y x

theorem mem_applyAll {edits : List (Edit α)} (h : ∀ edit ∈ edits, x ∉ edit.names) (hx : x ∈ xs) :
    x ∈ applyAll edits xs := by
  induction edits generalizing xs with
  | nil => exact hx
  | cons edit edits ih =>
    obtain ⟨hedit, hedits⟩ := List.forall_mem_cons.mp h
    exact ih hedits (mem_apply hedit hx)

theorem erase_applyAll {edits : List (Edit α)} (h : ∀ edit ∈ edits, x ∉ edit.names)
    (xs : Priority α) : (applyAll edits xs).erase x = applyAll edits (xs.erase x) := by
  induction edits generalizing xs with
  | nil => rfl
  | cons edit edits ih =>
    obtain ⟨hedit, hedits⟩ := List.forall_mem_cons.mp h
    rw [applyAll, List.foldl_cons, ← applyAll, ih hedits, erase_apply hedit]
    rfl

/-- What was put in new is taken out again as if it had never been there. -/
theorem remove_applyAll_of_added {edit : Edit α} (hedit : edit.added? = some x) (hnew : x ∉ xs)
    {edits : List (Edit α)} (hedits : ∀ edit ∈ edits, x ∉ edit.names) :
    Priority.remove (applyAll edits (edit.apply xs)) x = (true, applyAll edits xs) := by
  obtain ⟨before, after, rfl, happly⟩ := apply_of_added hedit xs
  have hbefore : x ∉ before := fun hx => hnew (List.mem_append_left _ hx)
  have hmem : x ∈ applyAll edits (edit.apply (before ++ after)) := by
    apply mem_applyAll hedits
    rw [happly]
    exact List.mem_append_right _ List.mem_cons_self
  rw [Priority.remove, decide_eq_true hmem, erase_applyAll hedits, happly,
    List.erase_append_right _ hbefore, List.erase_cons_head]

end Edit

end PermissionGraph.Priority
