import PermissionGraph.Cache
import PermissionGraph.Proofs.Keyed

/-!
# Entries of a cache

A cache is settled when no entry waits for its decision. From a settled cache, a computation that
comes to an end leaves its decision as one more entry, and a computation that breaks off leaves the
entries and the counters as they were.
-/

namespace PermissionGraph.Cache

variable {c : Cache} {k k' : String}

def Settled (c : Cache) : Prop := ∀ entry ∈ c.entries, entry.2.decision ≠ none

theorem settled_empty : Settled empty := by
  intro entry hentry
  cases hentry

theorem Settled.of_subset {d : Cache} (h : c.Settled) (hsub : ∀ x ∈ d.entries, x ∈ c.entries) :
    d.Settled := fun entry hentry => h entry (hsub entry hentry)

theorem Settled.countHit (h : c.Settled) : c.countHit.Settled := h.of_subset fun _ hx => hx

theorem Settled.invalidate (h : c.Settled) (k : String) : (c.invalidate k).2.Settled := by
  unfold Cache.invalidate
  by_cases hk : (c.entries.lookup k).isSome
  · rw [if_pos hk]
    exact h.of_subset fun _ hx => (List.mem_filter.mp hx).1
  · rw [if_neg hk]
    exact h

theorem settled_invalidateAll (c : Cache) : c.invalidateAll.Settled := by
  intro entry hentry
  cases hentry

theorem Settled.lookup_eq_none (h : c.Settled) (hk : c.get? k = none) :
    c.entries.lookup k = none := by
  cases hl : c.entries.lookup k with
  | none => rfl
  | some entry =>
    obtain ⟨l₁, l₂, heq, -⟩ := List.lookup_eq_some_iff.mp hl
    have hdecided : entry.decision ≠ none := h (k, entry) (by simp [heq])
    rw [get?, hl] at hk
    exact absurd hk hdecided

theorem get?_congr {d : Cache} (h : d.entries.lookup k = c.entries.lookup k) :
    d.get? k = c.get? k := by
  rw [get?, get?, h]

@[simp] theorem get?_empty (k : String) : empty.get? k = none := rfl

@[simp] theorem get?_countHit (c : Cache) (k : String) : c.countHit.get? k = c.get? k := rfl

@[simp] theorem lookup_erase (c : Cache) (k k' : String) :
    (c.erase k).entries.lookup k' = if k' = k then none else c.entries.lookup k' := by
  by_cases h : k' = k
  · rw [if_pos h, h]
    exact Keyed.lookup_filter_self c.entries k
  · rw [if_neg h]
    exact Keyed.lookup_filter_of_ne c.entries (Ne.symm h)

@[simp] theorem lookup_invalidate (c : Cache) (k k' : String) :
    (c.invalidate k).2.entries.lookup k' = if k' = k then none else c.entries.lookup k' := by
  unfold invalidate
  by_cases hk : (c.entries.lookup k).isSome
  · rw [if_pos hk]
    exact c.lookup_erase k k'
  · rw [if_neg hk]
    by_cases h : k' = k
    · rw [if_pos h, h]
      exact Option.not_isSome_iff_eq_none.mp hk
    · rw [if_neg h]

@[simp] theorem invalidate_fst (c : Cache) (k : String) :
    (c.invalidate k).1 = (c.entries.lookup k).isSome := by
  unfold invalidate
  split
  · next h => exact h.symm
  · next h => exact (Bool.eq_false_iff.mpr h).symm

@[simp] theorem get?_invalidate_self (c : Cache) (k : String) :
    (c.invalidate k).2.get? k = none := by
  simp [get?]

theorem get?_invalidate_of_ne (c : Cache) (h : k ≠ k') :
    (c.invalidate k).2.get? k' = c.get? k' :=
  get?_congr (by simp [h.symm])

@[simp] theorem get?_invalidateAll (c : Cache) (k : String) : c.invalidateAll.get? k = none := rfl

theorem awaits_eq_true_iff {n : Nat} :
    c.awaits k n = true ↔ ∃ decision, c.entries.lookup k = some ⟨n, decision⟩ := by
  rw [awaits]
  constructor
  · intro h
    cases hl : c.entries.lookup k with
    | none => simp [hl] at h
    | some entry =>
      obtain ⟨number, decision⟩ := entry
      obtain rfl : number = n := by simpa [hl] using h
      exact ⟨decision, rfl⟩
  · rintro ⟨decision, hl⟩
    simp [hl]

theorem lookup_reserve (h : c.entries.lookup k = none) (k' : String) :
    (c.reserve k).entries.lookup k' =
      if k' = k then some ⟨c.computations, none⟩ else c.entries.lookup k' := by
  rw [reserve, List.lookup_append]
  by_cases hk : k' = k
  · rw [if_pos hk, hk, h]
    simp
  · have hne : (k' == k) = false := beq_eq_false_iff_ne.mpr hk
    rw [if_neg hk, List.lookup_cons, hne]
    simp

theorem get?_reserve (h : c.entries.lookup k = none) (k' : String) :
    (c.reserve k).get? k' = c.get? k' := by
  by_cases hk : k' = k
  · simp [get?, lookup_reserve h, hk, h]
  · exact get?_congr (by simp [lookup_reserve h, hk])

theorem awaits_reserve (h : c.entries.lookup k = none) :
    (c.reserve k).awaits k c.computations = true :=
  awaits_eq_true_iff.mpr ⟨none, by simp [lookup_reserve h]⟩

/-- The decision is written where the entry of its computation is in place, and nowhere else. -/
@[simp] theorem lookup_fulfil (c : Cache) (k : String) (n : Nat) (d : Decision) (k' : String) :
    (c.fulfil k n d).entries.lookup k' =
      if k' = k ∧ c.awaits k n = true then some ⟨n, some d⟩ else c.entries.lookup k' := by
  rw [fulfil]
  by_cases ha : c.awaits k n = true
  · rw [if_pos ha, Keyed.lookup_map_write]
    obtain ⟨decision, hl⟩ := awaits_eq_true_iff.mp ha
    by_cases hk : k' = k
    · rw [if_pos hk, if_pos ⟨hk, ha⟩, hl]
      rfl
    · rw [if_neg hk, if_neg fun h => hk h.1]
  · rw [if_neg ha, if_neg fun h => ha h.2]

@[simp] theorem lookup_abandon (c : Cache) (k : String) (n : Nat) (k' : String) :
    (c.abandon k n).entries.lookup k' =
      if k' = k ∧ c.awaits k n = true then none else c.entries.lookup k' := by
  rw [abandon]
  by_cases ha : c.awaits k n = true
  · rw [if_pos ha, lookup_erase]
    by_cases hk : k' = k
    · rw [if_pos hk, if_pos ⟨hk, ha⟩]
    · rw [if_neg hk, if_neg fun h => hk h.1]
  · rw [if_neg ha, if_neg fun h => ha h.2]

/-- A computation that comes to an end appends its decision. -/
theorem fulfil_reserve (h : c.entries.lookup k = none) (d : Decision) :
    (c.reserve k).fulfil k c.computations d =
      { c with
        entries := c.entries ++ [(k, ⟨c.computations, some d⟩)]
        computations := c.computations + 1
        misses := c.misses + 1 } := by
  have hold : c.entries.map (fun e => if e.1 = k then (k, ⟨c.computations, some d⟩) else e) =
      c.entries := by
    refine (List.map_congr_left ?_).trans (List.map_id c.entries)
    intro e he
    have hne : k ≠ e.1 := by simpa using List.lookup_eq_none_iff.mp h e he
    exact if_neg hne.symm
  rw [fulfil, if_pos (awaits_reserve h)]
  simp [reserve, hold]

/-- A computation that breaks off leaves the entries and the counters as they were. -/
theorem abandon_reserve (h : c.entries.lookup k = none) :
    (c.reserve k).abandon k c.computations = { c with computations := c.computations + 1 } := by
  rw [abandon, if_pos (awaits_reserve h), erase, reserve]
  simp only [List.filter_append, Keyed.filter_eq_self_of_lookup h]
  simp

theorem Settled.fulfil_reserve (hc : c.Settled) (h : c.entries.lookup k = none) (d : Decision) :
    ((c.reserve k).fulfil k c.computations d).Settled := by
  rw [Cache.fulfil_reserve h]
  intro entry hentry
  rcases List.mem_append.mp hentry with hold | hnew
  · exact hc entry hold
  · obtain rfl := List.mem_singleton.mp hnew
    exact Option.some_ne_none d

theorem get?_fulfil_reserve (h : c.entries.lookup k = none) (d : Decision) (k' : String) :
    ((c.reserve k).fulfil k c.computations d).get? k' =
      if k' = k then some d else c.get? k' := by
  by_cases hk : k' = k
  · simp [get?, awaits_reserve h, hk]
  · rw [if_neg hk, ← get?_reserve h k']
    exact get?_congr (by simp [hk])

end PermissionGraph.Cache

namespace PermissionGraph.CachePlace

variable {σ : Type} (p : CachePlace σ) {s s' : σ} {k : String}
  {computation : σ → Except Fault Decision × σ}

theorem compute_of_kept {d : Decision} (h : (p.get s).get? k = some d) :
    p.compute k computation s = (.ok d, p.set (p.get s).countHit s) := by
  obtain ⟨⟨number, decision⟩, hentry, hd⟩ := Option.bind_eq_some_iff.mp h
  obtain rfl : decision = some d := hd
  rw [compute]
  simp only [hentry]

theorem compute_of_waiting {number : Nat} (h : (p.get s).entries.lookup k = some ⟨number, none⟩) :
    ∃ f, p.compute k computation s = (.error f, s) := by
  rw [compute]
  simp only [h]
  exact ⟨_, rfl⟩

theorem compute_of_ok (h : (p.get s).entries.lookup k = none) {d : Decision}
    (hs : computation (p.set ((p.get s).reserve k) s) = (.ok d, s')) :
    p.compute k computation s = (.ok d, p.modify (·.fulfil k (p.get s).computations d) s') := by
  rw [compute]
  simp only [h, hs]

theorem compute_of_error (h : (p.get s).entries.lookup k = none) {f : Fault}
    (hs : computation (p.set ((p.get s).reserve k) s) = (.error f, s')) :
    p.compute k computation s = (.error f, p.modify (·.abandon k (p.get s).computations) s') := by
  rw [compute]
  simp only [h, hs]

/-- What the cache is no part of is as the computation leaves it. -/
theorem compute_frame {β : Type} {field : σ → β} (hset : ∀ c s, field (p.set c s) = field s)
    (hcomputation : ∀ s, field (computation s).2 = field s) (k : String) (s : σ) :
    field (p.compute k computation s).2 = field s := by
  have hreserved : ∀ c : Cache, field (computation (p.set c s)).2 = field s := fun c =>
    (hcomputation _).trans (hset c s)
  rw [compute]
  split
  · exact hset _ s
  · rfl
  · split
    all_goals
      next hs =>
        have hcomputed := hreserved ((p.get s).reserve k)
        rw [hs] at hcomputed
        exact (hset _ _).trans hcomputed

end PermissionGraph.CachePlace
