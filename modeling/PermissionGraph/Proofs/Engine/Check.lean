import PermissionGraph.Engine
import PermissionGraph.Proofs.Cache.Entries

/-!
# Cached checks

What a check answers is what its subject keeps for the lower-cased node, or else what the graph says
at that moment. The answer is kept. A check that breaks off leaves no entry and counts nothing.
-/

namespace PermissionGraph

open Text

theorem eq_ok_of_toOption {ε α : Type} {x : Except ε α} {a : α} (h : x.toOption = some a) :
    x = .ok a := by
  cases x with
  | error f => cases h
  | ok b => exact congrArg Except.ok (Option.some.inj h)

namespace Engine

variable (e : Engine) (s : ContextId) (node : String)

@[simp] theorem cache_setCache_self (c : Cache) : (e.setCache s c).cache s = c := by
  simp [cache, setCache]

@[simp] theorem cache_setCache_of_ne {s s' : ContextId} (h : s ≠ s') (c : Cache) :
    (e.setCache s c).cache s' = e.cache s' := by
  simp [cache, setCache, h]

theorem live_fst_of_graph {e' : Engine} (h : e'.graph = e.graph) :
    (e'.live s node).1 = (e.live s node).1 := by
  simp only [live, liveWith, resolver, resolverOf, h]

@[simp] theorem cache_live (s' : ContextId) : (e.live s node).2.cache s' = e.cache s' := rfl

@[simp] theorem cache_holdsWith (r : ResolverId) (s' : ContextId) :
    (e.holdsWith s r node).2.cache s' = e.cache s' := rfl

/-- A computation of the subject's answer changes nothing but the subject's own cache. -/
theorem modify_live (c : Cache) (f : Cache → Cache) :
    let e' := (cachePlace s).modify f ((e.setCache s c).live s node).2
    e'.graph = e.graph ∧ e'.cache s = f c ∧ ∀ s', s ≠ s' → e'.cache s' = e.cache s' := by
  refine ⟨rfl, ?_, ?_⟩
  · refine (cache_setCache_self _ s _).trans (congrArg f ?_)
    exact cache_setCache_self e s c
  · intro s' hs'
    refine (cache_setCache_of_ne _ hs' _).trans ?_
    exact cache_setCache_of_ne e hs' c

variable {e s node}

theorem permission_of_kept {d : Decision} (h : (e.cache s).get? (lower node) = some d) :
    e.permission s node = (.ok d, e.setCache s (e.cache s).countHit) :=
  (cachePlace s).compute_of_kept h

theorem permission_of_answer (h : (e.cache s).entries.lookup (lower node) = none) {d : Decision}
    (hd : (e.live s (lower node)).1 = .ok d) :
    ∃ e', e.permission s node = (.ok d, e') ∧ e'.graph = e.graph ∧
      e'.cache s = ((e.cache s).reserve (lower node)).fulfil (lower node)
        (e.cache s).computations d ∧
      ∀ s', s ≠ s' → e'.cache s' = e.cache s' := by
  have hlive : ((e.setCache s ((e.cache s).reserve (lower node))).live s (lower node)).1 = .ok d :=
    (live_fst_of_graph _ _ _ rfl).trans hd
  refine ⟨_, (cachePlace s).compute_of_ok h (Prod.ext hlive rfl), ?_⟩
  exact modify_live e s (lower node) _ _

theorem permission_of_fault (h : (e.cache s).entries.lookup (lower node) = none) {f : Fault}
    (hf : (e.live s (lower node)).1 = .error f) :
    ∃ e', e.permission s node = (.error f, e') ∧ e'.graph = e.graph ∧
      e'.cache s = { e.cache s with computations := (e.cache s).computations + 1 } ∧
      ∀ s', s ≠ s' → e'.cache s' = e.cache s' := by
  have hlive : ((e.setCache s ((e.cache s).reserve (lower node))).live s (lower node)).1 =
      .error f := (live_fst_of_graph _ _ _ rfl).trans hf
  refine ⟨_, (cachePlace s).compute_of_error h (Prod.ext hlive rfl), ?_⟩
  rw [← Cache.abandon_reserve h]
  exact modify_live e s (lower node) _ _

theorem permission_frame (e : Engine) (s : ContextId) (node : String) :
    (e.permission s node).2.graph = e.graph ∧
      ∀ s', s ≠ s' → (e.permission s node).2.cache s' = e.cache s' := by
  cases hl : (e.cache s).entries.lookup (lower node) with
  | none =>
    cases hr : (e.live s (lower node)).1 with
    | ok d =>
      obtain ⟨e', he', hgraph, -, hother⟩ := permission_of_answer hl hr
      rw [he']
      exact ⟨hgraph, hother⟩
    | error f =>
      obtain ⟨e', he', hgraph, -, hother⟩ := permission_of_fault hl hr
      rw [he']
      exact ⟨hgraph, hother⟩
  | some entry =>
    obtain ⟨number, _ | d⟩ := entry
    · have hwaits : ∃ f, e.permission s node = (.error f, e) :=
        (cachePlace s).compute_of_waiting hl
      obtain ⟨f, hf⟩ := hwaits
      rw [hf]
      exact ⟨rfl, fun _ _ => rfl⟩
    · have hk : (e.cache s).get? (lower node) = some d := by rw [Cache.get?, hl]; rfl
      rw [permission_of_kept hk]
      exact ⟨rfl, fun s' hs' => cache_setCache_of_ne e hs' _⟩

theorem permission_fst (h : (e.cache s).Settled) :
    (e.permission s node).1 =
      ((e.cache s).get? (lower node)).elim (e.live s (lower node)).1 .ok := by
  cases hk : (e.cache s).get? (lower node) with
  | some d => rw [permission_of_kept hk]; rfl
  | none =>
    have hl := h.lookup_eq_none hk
    cases hr : (e.live s (lower node)).1 with
    | ok d =>
      obtain ⟨e', he', -⟩ := permission_of_answer hl hr
      rw [he']
      rfl
    | error f =>
      obtain ⟨e', he', -⟩ := permission_of_fault hl hr
      rw [he']
      rfl

theorem settled_permission (h : (e.cache s).Settled) :
    ((e.permission s node).2.cache s).Settled := by
  cases hk : (e.cache s).get? (lower node) with
  | some d =>
    rw [permission_of_kept hk, cache_setCache_self]
    exact h.countHit
  | none =>
    have hl := h.lookup_eq_none hk
    cases hr : (e.live s (lower node)).1 with
    | ok d =>
      obtain ⟨e', he', -, hcache, -⟩ := permission_of_answer hl hr
      rw [he', hcache]
      exact h.fulfil_reserve hl d
    | error f =>
      obtain ⟨e', he', -, hcache, -⟩ := permission_of_fault hl hr
      rw [he', hcache]
      exact h

theorem get?_permission (h : (e.cache s).Settled) (k : String) :
    ((e.permission s node).2.cache s).get? k =
      if k = lower node then (e.permission s node).1.toOption else (e.cache s).get? k := by
  cases hk : (e.cache s).get? (lower node) with
  | some d =>
    rw [permission_of_kept hk]
    by_cases hkn : k = lower node <;> simp [hkn, hk, Except.toOption]
  | none =>
    have hl := h.lookup_eq_none hk
    cases hr : (e.live s (lower node)).1 with
    | ok d =>
      obtain ⟨e', he', -, hcache, -⟩ := permission_of_answer hl hr
      rw [he', hcache, Cache.get?_fulfil_reserve hl]
      rfl
    | error f =>
      obtain ⟨e', he', -, hcache, -⟩ := permission_of_fault hl hr
      rw [he', hcache]
      by_cases hkn : k = lower node
      · rw [if_pos hkn, hkn]
        exact hk
      · rw [if_neg hkn]
        rfl

/-- A check that breaks off found nothing kept, and leaves the entries and the counters. -/
theorem of_permission_error (h : (e.cache s).Settled) {f : Fault}
    (hf : (e.permission s node).1 = .error f) :
    (e.cache s).get? (lower node) = none ∧ (e.live s (lower node)).1 = .error f ∧
      (e.permission s node).2.cache s =
        { e.cache s with computations := (e.cache s).computations + 1 } := by
  rw [permission_fst h] at hf
  cases hk : (e.cache s).get? (lower node) with
  | some d => rw [hk] at hf; cases hf
  | none =>
    rw [hk] at hf
    obtain ⟨e', he', -, hcache, -⟩ := permission_of_fault (h.lookup_eq_none hk) hf
    rw [he']
    exact ⟨rfl, hf, hcache⟩

end Engine

end PermissionGraph
