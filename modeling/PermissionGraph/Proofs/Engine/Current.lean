import PermissionGraph.Proofs.Engine.Operation

/-!
# Questions

A question changes nothing in the graph, only what is kept and what was asked. The answers that a
subject keeps are current when each is what the graph says now. They are current when all of them
were just dropped, and questions leave them current.
-/

namespace PermissionGraph

open Text

def Operation.Asks : Operation → Prop
  | permission _ _ | holds _ _ | live _ _ | holdsWith _ _ _ | resolve _ _ _ => True
  | _ => False

/-- The resolver answers whatever it is asked, and never breaks off. -/
def Resolver.Steady (r : Resolver) : Prop :=
  ∀ look source node, ∃ d, r.resolve look source node = .ok d

theorem Resolver.steady_wildcard : Resolver.wildcard.Steady := fun _ _ _ => ⟨_, rfl⟩

namespace Engine

variable {e e' : Engine} {s : ContextId} {op : Operation}

/-- The subject's resolver does not break off on `node`, whichever context it is asked about. -/
def Resolves (e : Engine) (s : ContextId) (node : String) : Prop :=
  ∀ c, ∃ d, (e.resolver (e.resolverOf s)).resolve (e.graph.contextRule? c)
    (e.graph.contextSource c) node = .ok d

/-- A search asks nobody but the subject's resolver. -/
theorem live_of_resolves {node : String} (h : e.Resolves s node) :
    ∃ d, (e.live s node).1 = .ok d := by
  rw [live, liveWith, Graph.search_result]
  cases hfind : (e.graph.ancestry.visits s).findSome? (e.graph.answerOf s fun c =>
      (e.resolver (e.resolverOf s)).resolve (e.graph.contextRule? c) (e.graph.contextSource c)
        node) with
  | none => exact ⟨_, rfl⟩
  | some answer =>
    obtain ⟨c, -, hc⟩ := List.exists_of_findSome?_eq_some hfind
    obtain ⟨d, hd⟩ := h c
    rw [Graph.answerOf, hd] at hc
    split at hc
    · cases d with
      | undecided => cases hc
      | _ => exact ⟨_, (Option.some.inj hc).symm⟩
    · cases hc

theorem resolves_of_steady (h : (e.resolver (e.resolverOf s)).Steady) (node : String) :
    e.Resolves s node := fun _ => h _ _ node

theorem live_of_steady (h : (e.resolver (e.resolverOf s)).Steady) (node : String) :
    ∃ d, (e.live s node).1 = .ok d := live_of_resolves (resolves_of_steady h node)

/-- Every answer that the subject keeps is the live answer, and none is waited for. -/
structure Current (e : Engine) (s : ContextId) : Prop where
  settled : (e.cache s).Settled
  live : ∀ k d, (e.cache s).get? k = some d → (e.live s k).1 = .ok d

theorem current_invalidateAll (e : Engine) (s : ContextId) : (e.invalidateAll s).Current s := by
  rw [invalidateAll]
  refine ⟨?_, fun k d hd => ?_⟩
  · rw [cache_setCache_self]
    exact Cache.settled_invalidateAll _
  · rw [cache_setCache_self, Cache.get?_invalidateAll] at hd
    cases hd

namespace Current

theorem of_frame (h : e.Current s) (hgraph : e'.graph = e.graph)
    (hcache : e'.cache s = e.cache s) : e'.Current s where
  settled := hcache ▸ h.settled
  live k d hd := by
    rw [live_fst_of_graph _ _ _ hgraph]
    exact h.live k d (hcache ▸ hd)

theorem permission_fst (h : e.Current s) (node : String) :
    (e.permission s node).1 = (e.live s (lower node)).1 := by
  rw [Engine.permission_fst h.settled]
  cases hk : (e.cache s).get? (lower node) with
  | none => rfl
  | some d => exact (h.live _ d hk).symm

theorem permission (h : e.Current s) (s' : ContextId) (node : String) :
    (e.permission s' node).2.Current s := by
  by_cases hs : s' = s
  · subst hs
    refine ⟨settled_permission h.settled, fun k d hd => ?_⟩
    rw [live_fst_of_graph _ _ _ (graph_permission node)]
    rw [get?_permission h.settled] at hd
    by_cases hk : k = lower node
    · rw [if_pos hk] at hd
      rw [hk, ← h.permission_fst]
      exact eq_ok_of_toOption hd
    · rw [if_neg hk] at hd
      exact h.live k d hd
  · exact h.of_frame (graph_permission node) ((permission_frame e s' node).2 s hs)

theorem invalidateAll (h : e.Current s) (s' : ContextId) : (e.invalidateAll s').Current s := by
  by_cases hs : s' = s
  · exact hs ▸ current_invalidateAll e s'
  · exact h.of_frame rfl (cache_setCache_of_ne e hs _)

theorem step_of_asks (h : e.Current s) (hop : op.Asks) : (e.step op).Current s := by
  cases op with
  | permission s' node => exact h.permission s' node
  | holds s' node => exact h.permission s' node
  | live s' node => exact h.of_frame rfl rfl
  | holdsWith s' r node => exact h.of_frame rfl rfl
  | resolve r owner node => exact h.of_frame rfl rfl
  | _ => cases hop

end Current

end Engine

end PermissionGraph
