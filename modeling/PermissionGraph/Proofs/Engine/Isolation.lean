import PermissionGraph.Proofs.Engine.Operation
import PermissionGraph.Proofs.Resolution.Search
import PermissionGraph.Proofs.Resolution.Opinion

/-!
# Contexts that do not apply

What a context records is nothing to a subject to which the context does not apply: whatever stands
in its layers, the subject gets the same answers. The walk still goes through the context. To the
wildcard resolver it is as good as a context that applies and records nothing.
-/

namespace PermissionGraph

open Text

namespace Engine

/-- The two engines differ, as far as the subject is concerned, at most in what is recorded in
contexts that do not apply to it. -/
structure AgreeFor (s : ContextId) (e e' : Engine) : Prop where
  size : e'.graph.contexts.size = e.graph.contexts.size
  parents : ∀ c, e'.parents c = e.parents c
  applies : ∀ c, e'.graph.applies c s = e.graph.applies c s
  sources : ∀ c, e.graph.applies c s = true → e'.graph.contextSource c = e.graph.contextSource c
  resolvers : e'.graph.resolvers = e.graph.resolvers
  resolverOf : e'.resolverOf s = e.resolverOf s

variable {e e' : Engine} {s c : ContextId}

theorem AgreeFor.liveWith (h : AgreeFor s e e') (r : ResolverId) (node : String) :
    (e'.liveWith s r node).1 = (e.liveWith s r node).1 := by
  have hancestry : e'.graph.ancestry = e.graph.ancestry := by
    rw [Graph.ancestry, Graph.ancestry, h.size]
    exact congrArg (Links.mk _) (funext h.parents)
  have hresolver : e'.resolver r = e.resolver r := by rw [resolver, h.resolvers, resolver]
  refine congrArg Graph.Search.result (Graph.search_congr hancestry h.applies fun c hc => ?_)
  have hsource := h.sources c hc
  rw [hresolver, Graph.contextRule?_congr hsource, hsource]

/-- Other layers for a context that does not apply to the subject. -/
theorem agreeFor_setLayers (h : e.graph.applies c s = false) (layers : Priority Layer) :
    AgreeFor s e (e.setLayers (.context c) layers) := by
  have happlies : ∀ x, (e.setLayers (.context c) layers).graph.applies x s = e.graph.applies x s :=
    fun x => Graph.applies_congr rfl (map_modifyContext fun _ _ => rfl)
      (map_modifyContext fun _ _ => rfl)
  refine ⟨size_modifyContext _, fun x => parents_modifyContext fun _ _ => rfl, happlies,
    fun x hx => ?_, rfl, resolverOf_modifyContext fun _ _ => rfl⟩
  have hne : c ≠ x := by
    rintro rfl
    exact Bool.false_ne_true (h.symm.trans hx)
  refine Graph.contextSource_congr rfl rfl (Graph.elim_congr ?_ [])
  exact map_modifyContext fun hcx => absurd hcx hne

end Engine

namespace Graph

/-- The graph in which every context applies to the subject, and those that did not apply to it
before have no layers. -/
def openedFor (g : Graph) (s : ContextId) : Graph :=
  { g with contexts := g.contexts.mapIdx fun c ctx =>
      if g.applies c s then ctx else { ctx with audience := .everyone, layers := [] } }

variable {g : Graph} {s c : ContextId} {node : String}

theorem map_openedFor {β : Type} {field : Context → β}
    (hfield : ∀ ctx : Context, field { ctx with audience := .everyone, layers := [] } = field ctx) :
    (g.openedFor s).contexts[c]?.map field = g.contexts[c]?.map field := by
  rw [openedFor, Array.getElem?_mapIdx, Option.map_map]
  congr 1
  funext ctx
  simp only [Function.comp_apply]
  split
  · rfl
  · exact hfield ctx

theorem ancestry_openedFor : (g.openedFor s).ancestry = g.ancestry :=
  ancestry_congr Array.size_mapIdx fun _ => map_openedFor fun _ => rfl

theorem context_openedFor_of_applies (h : g.applies c s = true) :
    (g.openedFor s).contexts[c]? = g.contexts[c]? := by
  rw [openedFor, Array.getElem?_mapIdx]
  simp only [h, if_true, Option.map_id']

theorem context_openedFor_of_not_applies (h : g.applies c s = false) :
    (g.openedFor s).contexts[c]? =
      g.contexts[c]?.map fun ctx => { ctx with audience := .everyone, layers := [] } := by
  rw [openedFor, Array.getElem?_mapIdx]
  simp only [h, Bool.false_eq_true, if_false]

theorem applies_of_size_le (h : g.contexts.size ≤ c) : g.applies c s = false := by
  rw [applies, Array.getElem?_eq_none h]
  rfl

theorem applies_openedFor (hc : c < g.contexts.size) : (g.openedFor s).applies c s = true := by
  cases h : g.applies c s with
  | true =>
    rw [← h]
    exact applies_congr rfl (map_openedFor fun _ => rfl)
      (congrArg _ (context_openedFor_of_applies h))
  | false =>
    rw [applies, context_openedFor_of_not_applies h, Array.getElem?_eq_getElem hc]
    rfl

/-- Contexts that were passed over have nothing to say when they are asked. -/
theorem decidingRuleFor_openedFor (c : ContextId) :
    (g.openedFor s).decidingRuleFor s node c = g.decidingRuleFor s node c := by
  rw [decidingRuleFor, decidingRuleFor]
  rcases Nat.lt_or_ge c g.contexts.size with hc | hc
  · rw [if_pos (applies_openedFor hc)]
    by_cases h : g.applies c s = true
    · have hkept : (g.openedFor s).layersOf c = g.layersOf c :=
        congrArg (Option.elim · [] Context.layers) (context_openedFor_of_applies h)
      have hsource : (g.openedFor s).contextSource c = g.contextSource c :=
        contextSource_congr rfl rfl hkept
      rw [if_pos h, decidingRule_congr hsource]
    · rw [if_neg h]
      refine decidingRule_of_no_layers ?_
      rw [layersOf, context_openedFor_of_not_applies (Bool.eq_false_iff.mpr h),
        Array.getElem?_eq_getElem hc]
      rfl
  · have hsize : (g.openedFor s).contexts.size ≤ c :=
      Nat.le_trans (Nat.le_of_eq Array.size_mapIdx) hc
    rw [applies_of_size_le hc, applies_of_size_le hsize]
    rfl

end Graph

namespace Engine

def openedFor (e : Engine) (s : ContextId) : Engine := { e with graph := e.graph.openedFor s }

variable {e e' : Engine} {s c : ContextId}

theorem resolverOf_openedFor : (e.openedFor s).resolverOf c = e.resolverOf c :=
  Graph.elim_congr (Graph.map_openedFor fun _ => rfl) 0

theorem liveWith_openedFor {r : ResolverId} (h : e.resolver r = .wildcard) (node : String) :
    ((e.openedFor s).liveWith s r node).1 = (e.liveWith s r node).1 := by
  have hopened : (e.openedFor s).resolver r = .wildcard := h
  have hrules : (e.openedFor s).graph.decidingRuleFor s node = e.graph.decidingRuleFor s node :=
    funext Graph.decidingRuleFor_openedFor
  have hancestry : (e.openedFor s).graph.ancestry = e.graph.ancestry := Graph.ancestry_openedFor
  rw [liveWith_wildcard _ _ _ hopened, liveWith_wildcard _ _ _ h, hrules, hancestry]

/-- Contexts that do not apply to a subject keep what they record from its answers, and nothing
else: to the wildcard resolver they might as well apply and record nothing. -/
theorem answers_of_agreeFor (h : AgreeFor s e e') (node : String) :
    (e'.live s node).1 = (e.live s node).1 ∧
      (∀ r, (e'.holdsWith s r node).1 = (e.holdsWith s r node).1) ∧
      (e.resolver (e.resolverOf s) = .wildcard →
        ((e.openedFor s).live s node).1 = (e.live s node).1) ∧
      ∀ r, e.resolver r = .wildcard →
        ((e.openedFor s).holdsWith s r node).1 = (e.holdsWith s r node).1 := by
  refine ⟨?_, fun r => ?_, fun hr => ?_, fun r hr => ?_⟩
  · rw [live, live, h.resolverOf]
    exact h.liveWith _ node
  · exact congrArg (Except.map Decision.isAllowed) (h.liveWith r (lower node))
  · rw [live, live, resolverOf_openedFor]
    exact liveWith_openedFor hr node
  · exact congrArg (Except.map Decision.isAllowed) (liveWith_openedFor hr (lower node))

/-- A subject below another one, which is on a cycle with a context that grants `a.b` to everyone. A
second table, which nobody holds, denies it. -/
def detour : Engine :=
  let (grant, e) := initial.addDatabase (.flat ⟨[("a.b", [⟨"a.b", true⟩])]⟩)
  let (_, e) := e.addDatabase (.flat ⟨[("a.b", [⟨"a.b", false⟩])]⟩)
  let (s, e) := e.addSubject "s" none
  let (other, e) := e.addSubject "other" none
  let (shared, e) := e.addContext "shared" .everyone
  let e := e.setLayers (.context shared) [.database grant]
  let e := (e.addParent s other).2
  let e := (e.addParent other shared).2
  (e.addParent shared other).2

/-- The other subject is denied `a.b`. -/
theorem answers_of_agreeFor_detour :
    let denied := detour.setLayers (.context 1) [.database 1]
    AgreeFor 0 detour denied ∧
      (denied.live 0 "a.b").1 = (detour.live 0 "a.b").1 ∧
      (∀ r, (denied.holdsWith 0 r "a.b").1 = (detour.holdsWith 0 r "a.b").1) ∧
      ((detour.openedFor 0).live 0 "a.b").1 = (detour.live 0 "a.b").1 ∧
      ((detour.openedFor 0).holdsWith 0 0 "a.b").1 = (detour.holdsWith 0 0 "a.b").1 := by
  have hother : detour.graph.applies 1 0 = false := rfl
  have hagree := agreeFor_setLayers hother [.database 1]
  obtain ⟨hlive, hholds, hopened, hopenedHolds⟩ := answers_of_agreeFor hagree "a.b"
  exact ⟨hagree, hlive, hholds, hopened rfl, hopenedHolds 0 rfl⟩

end Engine

end PermissionGraph
