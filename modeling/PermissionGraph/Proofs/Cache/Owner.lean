import PermissionGraph.Proofs.Cache.Entries

/-!
# Which computation an entry belongs to

The end of a computation writes or takes away no entry but its own, and other entries keep their
numbers through it. An entry without a decision is that of a computation still under way, however
computations end.
-/

namespace PermissionGraph.Cache

variable {c : Cache} {k : String}

theorem awaits_congr {d : Cache} (h : d.entries.lookup k = c.entries.lookup k) (n : Nat) :
    d.awaits k n = c.awaits k n := by
  rw [awaits, awaits, h]

theorem awaits_of_lookup_none (h : c.entries.lookup k = none) (n : Nat) :
    c.awaits k n = false := by
  rw [awaits, h]
  rfl

/-- Writing a decision changes no number. -/
@[simp] theorem awaits_fulfil (c : Cache) (k : String) (n : Nat) (d : Decision) (k' : String)
    (n' : Nat) : (c.fulfil k n d).awaits k' n' = c.awaits k' n' := by
  by_cases h : k' = k ∧ c.awaits k n = true
  · obtain ⟨rfl, ha⟩ := h
    obtain ⟨decision, hl⟩ := awaits_eq_true_iff.mp ha
    simp [awaits, hl]
  · exact awaits_congr (by rw [lookup_fulfil, if_neg h]) n'

@[simp] theorem awaits_abandon_self (c : Cache) (k : String) (n : Nat) :
    (c.abandon k n).awaits k n = false := by
  by_cases ha : c.awaits k n = true
  · exact awaits_of_lookup_none (by simp [ha]) n
  · rw [abandon, if_neg ha]
    exact Bool.eq_false_iff.mpr ha

theorem awaits_abandon_of_ne (c : Cache) (k : String) {n n' : Nat} (hn : n' ≠ n) (k' : String) :
    (c.abandon k n).awaits k' n' = c.awaits k' n' := by
  by_cases h : k' = k ∧ c.awaits k n = true
  · obtain ⟨rfl, ha⟩ := h
    obtain ⟨decision, hl⟩ := awaits_eq_true_iff.mp ha
    have hne : (n == n') = false := beq_eq_false_iff_ne.mpr hn.symm
    simp [awaits, hl, hne]
  · exact awaits_congr (by rw [lookup_abandon, if_neg h]) n'

theorem awaits_reserve_of_ne (h : c.entries.lookup k = none) {n : Nat} (hn : n ≠ c.computations)
    (k' : String) : (c.reserve k).awaits k' n = c.awaits k' n := by
  by_cases hk : k' = k
  · subst hk
    have hne : (c.computations == n) = false := beq_eq_false_iff_ne.mpr hn.symm
    simp [awaits, lookup_reserve h, h, hne]
  · exact awaits_congr (by simp [lookup_reserve h, hk]) n

@[simp] theorem computations_invalidate (c : Cache) (k : String) :
    (c.invalidate k).2.computations = c.computations := by
  unfold invalidate
  split <;> rfl

@[simp] theorem computations_abandon (c : Cache) (k : String) (n : Nat) :
    (c.abandon k n).computations = c.computations := by
  rw [abandon]
  split <;> rfl

/-- Every entry without a decision is that of one of the computations `within`. -/
def WaitsWithin (c : Cache) (within : List (String × Nat)) : Prop :=
  ∀ k n, c.entries.lookup k = some ⟨n, none⟩ → (k, n) ∈ within

namespace WaitsWithin

variable {within : List (String × Nat)}

theorem empty (within : List (String × Nat)) : Cache.empty.WaitsWithin within := by
  intro k n h
  cases h

theorem invalidate (h : c.WaitsWithin within) (k : String) :
    (c.invalidate k).2.WaitsWithin within := by
  intro k' n hl
  rw [lookup_invalidate] at hl
  by_cases hk : k' = k
  · simp [hk] at hl
  · rw [if_neg hk] at hl
    exact h k' n hl

theorem invalidateAll (c : Cache) (within : List (String × Nat)) :
    c.invalidateAll.WaitsWithin within := by
  intro k n h
  cases h

theorem reserve (h : c.WaitsWithin within) (hk : c.entries.lookup k = none) :
    (c.reserve k).WaitsWithin ((k, c.computations) :: within) := by
  intro k' n hl
  rw [lookup_reserve hk] at hl
  by_cases hkk : k' = k
  · rw [if_pos hkk] at hl
    obtain rfl : c.computations = n := by simpa using hl
    exact hkk ▸ List.mem_cons_self
  · rw [if_neg hkk] at hl
    exact List.mem_cons_of_mem _ (h k' n hl)

/-- A waiting entry of another computation is none of the one that ends. -/
theorem of_cons {n : Nat} (h : c.WaitsWithin ((k, n) :: within)) {d : Cache}
    (hsub : ∀ k' n', d.entries.lookup k' = some ⟨n', none⟩ →
      c.entries.lookup k' = some ⟨n', none⟩ ∧ ¬ (k' = k ∧ c.awaits k n = true)) :
    d.WaitsWithin within := by
  intro k' n' hl
  obtain ⟨hc, hother⟩ := hsub k' n' hl
  rcases List.mem_cons.mp (h k' n' hc) with heq | hin
  · obtain ⟨rfl, rfl⟩ := Prod.mk.inj heq
    exact absurd ⟨rfl, awaits_eq_true_iff.mpr ⟨none, hc⟩⟩ hother
  · exact hin

theorem fulfil {n : Nat} (h : c.WaitsWithin ((k, n) :: within)) (d : Decision) :
    (c.fulfil k n d).WaitsWithin within := by
  refine h.of_cons fun k' n' hl => ?_
  rw [lookup_fulfil] at hl
  by_cases hk : k' = k ∧ c.awaits k n = true
  · simp [hk] at hl
  · rw [if_neg hk] at hl
    exact ⟨hl, hk⟩

theorem abandon {n : Nat} (h : c.WaitsWithin ((k, n) :: within)) :
    (c.abandon k n).WaitsWithin within := by
  refine h.of_cons fun k' n' hl => ?_
  rw [lookup_abandon] at hl
  by_cases hk : k' = k ∧ c.awaits k n = true
  · simp [hk] at hl
  · rw [if_neg hk] at hl
    exact ⟨hl, hk⟩

end WaitsWithin

end PermissionGraph.Cache
