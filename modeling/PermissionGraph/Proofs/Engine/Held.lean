import PermissionGraph.Cache
import PermissionGraph.Proofs.Engine.Current
import PermissionGraph.Proofs.Engine.Trace

/-!
# Checks one after the other

A check of one node leaves what checks of other nodes answer. Each check counts once: as a hit where
an answer to the lower-cased node was kept, else as a miss, so that of the spellings of one node
only the first can miss. The answers that checks have left are given again until they are dropped.
-/

namespace PermissionGraph

open Text

/-- The counters after a check: one more hit where an answer was kept, else one more miss and one
more entry. -/
def CacheStats.checked (stats : CacheStats) (kept : Bool) : CacheStats :=
  if kept then { stats with hits := stats.hits + 1 }
  else { stats with misses := stats.misses + 1, entryCount := stats.entryCount + 1 }

namespace Engine

variable {e : Engine} {s : ContextId} {m node : String} {nodes : List String}

def checks (s : ContextId) (nodes : List String) : List Operation := nodes.map (.holds s)

def held (e : Engine) (s : ContextId) (node : String) : Bool :=
  match (e.holds s node).1 with
  | .ok answer => answer
  | .error _ => false

theorem holds_fst (e : Engine) (s : ContextId) (node : String) :
    (e.holds s node).1 = (e.permission s node).1.map Decision.isAllowed := rfl

theorem permission_of_holds {answer : Bool} (h : (e.holds s node).1 = .ok answer) :
    ∃ d, (e.permission s node).1 = .ok d ∧ d.isAllowed = answer := by
  rw [holds_fst] at h
  cases hd : (e.permission s node).1 with
  | error f =>
    rw [hd] at h
    cases h
  | ok d =>
    rw [hd] at h
    exact ⟨d, rfl, Except.ok.inj h⟩

theorem holds_congr_lower (h : lower m = lower node) : e.holds s m = e.holds s node := by
  rw [holds, holds, permission, permission, h]

theorem held_congr_lower (h : lower m = lower node) : e.held s m = e.held s node := by
  rw [held, held, holds_congr_lower h]

theorem holds_of_resolves (hready : e.Ready s) (h : e.Resolves s (lower node)) :
    (e.holds s node).1 = .ok (e.held s node) := by
  have hanswer : ∃ d, (e.permission s node).1 = .ok d := by
    rw [permission_fst hready.settled]
    cases (e.cache s).get? (lower node) with
    | some d => exact ⟨d, rfl⟩
    | none => exact live_of_resolves h
  obtain ⟨d, hd⟩ := hanswer
  rw [held, holds_fst, hd]
  rfl

theorem permission_step_holds (h : e.Ready s) (m node : String) :
    ((e.step (.holds s m)).permission s node).1 = (e.permission s node).1 := by
  have hkept : ((e.permission s m).2.cache s).get? (lower node) =
      if lower node = lower m then (e.permission s m).1.toOption
      else (e.cache s).get? (lower node) := get?_permission h.settled (lower node)
  have hnow : (e.permission s node).1 =
      ((e.cache s).get? (lower node)).elim (e.live s (lower node)).1 .ok :=
    permission_fst h.settled
  rw [step_of_check (s := s) (m := m) rfl, permission_fst (settled_permission h.settled), hkept,
    live_fst_of_graph _ _ _ (graph_permission m), hnow]
  split
  · next hnode =>
    -- what the first check returned is kept, and where it broke off the graph is asked again
    rw [permission_fst h.settled, ← hnode]
    cases (e.cache s).get? (lower node) with
    | some d => rfl
    | none => cases (e.live s (lower node)).1 <;> rfl
  · rfl

theorem holds_step_holds (h : e.Ready s) (m node : String) :
    ((e.step (.holds s m)).holds s node).1 = (e.holds s node).1 :=
  congrArg (Except.map Decision.isAllowed) (permission_step_holds h m node)

theorem Ready.run (h : e.Ready s) (ops : List Operation) : (e.run ops).Ready s :=
  run_induction (P := (·.Ready s)) (fun _ op _ h => h.step op) h

theorem holds_run_checks (h : e.Ready s) (nodes : List String) (node : String) :
    ((e.run (checks s nodes)).holds s node).1 = (e.holds s node).1 := by
  induction nodes generalizing e with
  | nil => rfl
  | cons m nodes ih => exact (ih (h.step (.holds s m))).trans (holds_step_holds h m node)

theorem stats_step_holds (h : e.Ready s) {answer : Bool}
    (hanswer : (e.holds s node).1 = .ok answer) :
    ((e.step (.holds s node)).cache s).stats =
      (e.cache s).stats.checked ((e.cache s).get? (lower node)).isSome := by
  obtain ⟨d, hd, -⟩ := permission_of_holds hanswer
  rw [step_of_check (s := s) (m := node) rfl]
  cases hk : (e.cache s).get? (lower node) with
  | some d' =>
    rw [permission_of_kept hk, cache_setCache_self]
    rfl
  | none =>
    have hnew := h.settled.lookup_eq_none hk
    rw [permission_fst h.settled, hk] at hd
    obtain ⟨e', he', -, hcache, -⟩ := permission_of_answer hnew hd
    rw [he', hcache, Cache.fulfil_reserve hnew]
    simp [Cache.stats, Cache.size, CacheStats.checked]

def unkept (e : Engine) (s : ContextId) (nodes : List String) : Finset String :=
  (nodes.map lower).toFinset.filter fun k => ((e.cache s).get? k).isNone

theorem unkept_cons (e : Engine) (s : ContextId) (node : String) (nodes : List String) :
    e.unkept s (node :: nodes) =
      if ((e.cache s).get? (lower node)).isNone then insert (lower node) (e.unkept s nodes)
      else e.unkept s nodes := by
  rw [unkept, List.map_cons, List.toFinset_cons, Finset.filter_insert]
  rfl

theorem unkept_step_holds (h : e.Ready s) {answer : Bool}
    (hanswer : (e.holds s node).1 = .ok answer) (nodes : List String) :
    (e.step (.holds s node)).unkept s nodes = (e.unkept s nodes).erase (lower node) := by
  obtain ⟨d, hd, -⟩ := permission_of_holds hanswer
  ext k
  rw [unkept, unkept, step_of_check (s := s) (m := node) rfl]
  by_cases hk : k = lower node <;> simp [get?_permission h.settled, hd, hk, Except.toOption]

/-- Every check counts once, and as a miss only the first for a lower-cased node for which no answer
was kept. -/
theorem stats_run_checks (h : e.Ready s)
    (hanswers : ∀ node ∈ nodes, ∃ answer, (e.holds s node).1 = .ok answer) :
    let before := (e.cache s).stats
    let after := ((e.run (checks s nodes)).cache s).stats
    after.hits + after.misses = before.hits + before.misses + nodes.length ∧
      after.misses = before.misses + (e.unkept s nodes).card := by
  induction nodes generalizing e with
  | nil => exact ⟨rfl, rfl⟩
  | cons node nodes ih =>
    obtain ⟨⟨answer, hanswer⟩, hrest⟩ := List.forall_mem_cons.mp hanswers
    have hlater : ∀ m ∈ nodes, ∃ answer, ((e.step (.holds s node)).holds s m).1 = .ok answer := by
      intro m hm
      rw [holds_step_holds h]
      exact hrest m hm
    obtain ⟨hall, hmisses⟩ := ih (h.step (.holds s node)) hlater
    have hrun : e.run (checks s (node :: nodes)) =
        (e.step (.holds s node)).run (checks s nodes) := rfl
    rw [unkept_step_holds h hanswer, stats_step_holds h hanswer] at hmisses
    rw [stats_step_holds h hanswer] at hall
    rw [hrun, unkept_cons, List.length_cons]
    cases hk : (e.cache s).get? (lower node) with
    | some d =>
      have hnot : lower node ∉ e.unkept s nodes := by simp [unkept, hk]
      rw [hk] at hall hmisses
      rw [Finset.erase_eq_of_notMem hnot] at hmisses
      simp only [CacheStats.checked, Option.isSome_some, if_true] at hall hmisses
      simp only [Option.isNone_some, Bool.false_eq_true, if_false]
      omega
    | none =>
      have hcard :=
        Finset.card_erase_add_one (Finset.mem_insert_self (lower node) (e.unkept s nodes))
      rw [Finset.erase_insert_eq_erase] at hcard
      rw [hk] at hall hmisses
      simp only [CacheStats.checked, Option.isSome_none, Bool.false_eq_true, if_false]
        at hall hmisses
      simp only [Option.isNone_none, if_true]
      omega

variable {k : String} {d : Decision} {op : Operation} {ops : List Operation}

theorem kept_step (h : e.Ready s) (hd : (e.cache s).get? k = some d) (hdrop : ¬ e.Drops s k op) :
    ((e.step op).cache s).get? k = some d := by
  by_cases hcheck : ∃ m, op.check? = some (s, m) ∧ lower m = k
  · obtain ⟨m, hm, rfl⟩ := hcheck
    rw [kept_step_of_check h hm, permission_fst h.settled, hd]
    rfl
  · rw [kept_step_of_other h hdrop fun m hm hk => hcheck ⟨m, hm, hk⟩, hd]

theorem kept_run (h : e.Ready s) (hd : (e.cache s).get? k = some d)
    (hdrop : ∀ n, ¬ e.DropsAt ops s k n) : ((e.run ops).cache s).get? k = some d := by
  induction ops generalizing e with
  | nil => exact hd
  | cons op ops ih =>
    have hfirst : ¬ e.Drops s k op := fun hop => hdrop 0 ⟨op, rfl, hop⟩
    apply ih (h.step op) (kept_step h hd hfirst)
    rintro n ⟨op', hop', hdrop'⟩
    exact hdrop (n + 1) ⟨op', hop', hdrop'⟩

theorem not_dropsAt_checks (e : Engine) (nodes : List String) (n : ℕ) :
    ¬ e.DropsAt (checks s nodes) s k n := by
  rintro ⟨op, hop, hdrop⟩
  obtain ⟨node, -, rfl⟩ := List.mem_map.mp (List.mem_of_getElem? hop)
  exact hdrop

theorem kept_checks (h : e.Ready s) (hnode : node ∈ nodes) (hd : (e.permission s node).1 = .ok d) :
    ((e.run (checks s nodes)).cache s).get? (lower node) = some d := by
  induction nodes generalizing e with
  | nil => cases hnode
  | cons m nodes ih =>
    have hready := h.step (.holds s m)
    change (((e.step (.holds s m)).run (checks s nodes)).cache s).get? (lower node) = some d
    rcases List.mem_cons.mp hnode with rfl | hnode
    · apply kept_run hready _ (not_dropsAt_checks _ nodes)
      rw [kept_step_of_check h rfl, hd]
      rfl
    · exact ih hready hnode ((permission_step_holds h m node).trans hd)

/-- What was answered is answered again as long as it is not dropped. -/
theorem holds_run_of_checked (h : e.Ready s) (hnode : node ∈ nodes) {answer : Bool}
    (hanswer : (e.holds s node).1 = .ok answer)
    (hdrop : ∀ n, ¬ (e.run (checks s nodes)).DropsAt ops s (lower node) n) :
    (((e.run (checks s nodes)).run ops).holds s node).1 = .ok answer := by
  obtain ⟨d, hd, rfl⟩ := permission_of_holds hanswer
  have hkept := kept_run (h.run _) (kept_checks h hnode hd) hdrop
  rw [holds_fst, permission_fst ((h.run _).run ops).settled, hkept]
  rfl

end Engine

end PermissionGraph
