import PermissionGraph.Proofs.Cache.Owner
import Mathlib.Data.Set.Card

/-!
# The entries that wait

`waiting` lists the entries without a decision, oldest first. A new computation adds its entry at
the end, and the end of a computation takes out its own entry, however it ends. Each node has one
entry at most, so what waits and what is decided make up the cache.
-/

namespace PermissionGraph.Cache

variable {c : Cache} {k : String}

def waiting (c : Cache) : List (String × Nat) :=
  (c.entries.filter (·.2.decision.isNone)).map fun e => (e.1, e.2.computation)

def Distinct (c : Cache) : Prop := (c.entries.map Prod.fst).Nodup

theorem distinct_empty : empty.Distinct := List.nodup_nil

theorem Distinct.erase (h : c.Distinct) (k : String) : (c.erase k).Distinct :=
  List.Nodup.sublist (List.Sublist.map _ List.filter_sublist) h

theorem Distinct.invalidate (h : c.Distinct) (k : String) : (c.invalidate k).2.Distinct := by
  unfold Cache.invalidate
  split
  · exact h.erase k
  · exact h

theorem distinct_invalidateAll (c : Cache) : c.invalidateAll.Distinct := List.nodup_nil

theorem Distinct.reserve (h : c.Distinct) (hk : c.entries.lookup k = none) :
    (c.reserve k).Distinct := by
  have hnew : k ∉ c.entries.map Prod.fst := by
    intro hmem
    obtain ⟨e, he, rfl⟩ := List.mem_map.mp hmem
    simpa using List.lookup_eq_none_iff.mp hk e he
  change (List.map Prod.fst (c.entries ++ [(k, _)])).Nodup
  rw [List.map_append, List.nodup_append]
  refine ⟨h, by simp, fun a ha b hb => ?_⟩
  obtain rfl : b = k := List.mem_singleton.mp hb
  exact fun heq => hnew (heq ▸ ha)

theorem Distinct.fulfil (h : c.Distinct) (k : String) (n : Nat) (d : Decision) :
    (c.fulfil k n d).Distinct := by
  have hkeys : (c.fulfil k n d).entries.map Prod.fst = c.entries.map Prod.fst := by
    unfold Cache.fulfil
    simp only
    split
    · rw [List.map_map]
      refine List.map_congr_left fun e _ => ?_
      by_cases he : e.1 = k
      · simp [he]
      · simp [he]
    · rfl
  rw [Distinct, hkeys]
  exact h

theorem Distinct.abandon (h : c.Distinct) (k : String) (n : Nat) : (c.abandon k n).Distinct := by
  unfold Cache.abandon
  split
  · exact h.erase k
  · exact h

theorem Distinct.lookup_of_mem (h : c.Distinct) {e : CacheEntry} (he : (k, e) ∈ c.entries) :
    c.entries.lookup k = some e := Keyed.lookup_of_mem_of_nodup h he

theorem Distinct.nodup_waiting (h : c.Distinct) : (c.waiting.map Prod.fst).Nodup := by
  rw [waiting, List.map_map]
  exact List.Nodup.sublist (List.Sublist.map _ List.filter_sublist) h

@[simp] theorem waiting_reserve (c : Cache) (k : String) :
    (c.reserve k).waiting = c.waiting ++ [(k, c.computations)] := by
  simp [waiting, reserve]

@[simp] theorem waiting_erase (c : Cache) (k : String) :
    (c.erase k).waiting = c.waiting.filter (·.1 ≠ k) := by
  simp only [waiting, erase, List.filter_map, List.filter_filter, Function.comp_def, Bool.and_comm]

@[simp] theorem waiting_invalidate (c : Cache) (k : String) :
    (c.invalidate k).2.waiting = c.waiting.filter (·.1 ≠ k) := by
  unfold invalidate
  by_cases hk : (c.entries.lookup k).isSome
  · rw [if_pos hk]
    exact c.waiting_erase k
  · rw [if_neg hk]
    have hnone := Option.not_isSome_iff_eq_none.mp hk
    rw [← waiting_erase, waiting, waiting, erase, Keyed.filter_eq_self_of_lookup hnone]

@[simp] theorem waiting_fulfil (c : Cache) (k : String) (n : Nat) (d : Decision) :
    (c.fulfil k n d).waiting =
      if c.awaits k n then c.waiting.filter (·.1 ≠ k) else c.waiting := by
  by_cases ha : c.awaits k n = true
  · rw [if_pos ha, ← waiting_erase, waiting, waiting, fulfil, if_pos ha, erase]
    congr 1
    induction c.entries with
    | nil => rfl
    | cons e es ih =>
      obtain ⟨k', entry⟩ := e
      by_cases hk : k' = k
      · subst hk
        rw [Keyed.filter_cons_self, ← ih]
        simp
      · rw [Keyed.filter_cons_of_ne _ hk, List.map_cons, if_neg hk, List.filter_cons, ih,
          List.filter_cons]
  · rw [if_neg ha, waiting, fulfil, if_neg ha]
    rfl

@[simp] theorem waiting_abandon (c : Cache) (k : String) (n : Nat) :
    (c.abandon k n).waiting =
      if c.awaits k n then c.waiting.filter (·.1 ≠ k) else c.waiting := by
  unfold abandon
  split
  · exact c.waiting_erase k
  · rfl

theorem Distinct.get?_ne_none_iff (h : c.Distinct) :
    c.get? k ≠ none ↔ k ∈ (c.entries.filter (·.2.decision.isSome)).map Prod.fst := by
  rw [List.mem_map]
  constructor
  · intro hk
    obtain ⟨d, hd⟩ := Option.ne_none_iff_exists'.mp hk
    obtain ⟨e, hlookup, he⟩ := Option.bind_eq_some_iff.mp hd
    obtain ⟨l₁, l₂, heq, -⟩ := List.lookup_eq_some_iff.mp hlookup
    exact ⟨(k, e), List.mem_filter.mpr ⟨by simp [heq], by simp [he]⟩, rfl⟩
  · rintro ⟨⟨k', e⟩, he, rfl⟩
    obtain ⟨hmem, hsome⟩ := List.mem_filter.mp he
    rw [get?, h.lookup_of_mem hmem]
    exact Option.isSome_iff_ne_none.mp hsome

/-- The entries are one for each node with a decision, and those that wait. -/
theorem Distinct.size_eq (h : c.Distinct) :
    c.size = {k | c.get? k ≠ none}.ncard + c.waiting.length := by
  have hset : {k | c.get? k ≠ none} =
      ((c.entries.filter (·.2.decision.isSome)).map Prod.fst).toFinset := by
    ext k
    rw [Set.mem_ofPred_eq, h.get?_ne_none_iff, Finset.mem_coe, List.mem_toFinset]
  have hnodup : ((c.entries.filter (·.2.decision.isSome)).map Prod.fst).Nodup :=
    List.Nodup.sublist (List.Sublist.map _ List.filter_sublist) h
  have hdecided : {k | c.get? k ≠ none}.ncard =
      (c.entries.filter (·.2.decision.isSome)).length := by
    rw [hset, Set.ncard_coe_finset, List.toFinset_card_of_nodup hnodup, List.length_map]
  rw [hdecided, waiting, List.length_map, size,
    List.length_eq_length_filter_add (·.2.decision.isSome)]
  simp only [Option.not_isSome]

theorem settled_of_waiting (h : c.waiting = []) : c.Settled := by
  intro entry hentry hnone
  have hmem : (entry.1, entry.2.computation) ∈ c.waiting :=
    List.mem_map.mpr ⟨entry, List.mem_filter.mpr ⟨hentry, by simp [hnone]⟩, rfl⟩
  rw [h] at hmem
  cases hmem

theorem mem_waiting_of_lookup {n : Nat} (h : c.entries.lookup k = some ⟨n, none⟩) :
    (k, n) ∈ c.waiting := by
  obtain ⟨l₁, l₂, heq, -⟩ := List.lookup_eq_some_iff.mp h
  exact List.mem_map.mpr ⟨(k, ⟨n, none⟩), List.mem_filter.mpr ⟨by simp [heq], rfl⟩, rfl⟩

end PermissionGraph.Cache
