import PermissionGraph.Engine
import PermissionGraph.Proofs.Resolution.Lookup
import PermissionGraph.Proofs.Resolution.Search
import PermissionGraph.Proofs.Resolution.Tables
import Mathlib.Data.Prod.Lex

/-!
# The first opinion decides

An opinion on a node is a rule that a flat table of a reachable, applicable context records first
for one of the node's lookups. Opinions are ranked by the visit of their context, then by their
lookup, then by their table. With the wildcard resolver a live answer is the decision of the opinion
of the least rank, and it is open where nobody has an opinion.
-/

namespace PermissionGraph

theorem exists_first_place {α β : Type} {xs : List α} {f : α → Option β} {b : β}
    (h : xs.findSome? f = some b) :
    ∃ (i : ℕ) (x : α), xs[i]? = some x ∧ f x = some b ∧
      ∀ (j : ℕ) (y : α), xs[j]? = some y → f y ≠ none → i ≤ j := by
  obtain ⟨before, x, after, rfl, hx, hnone⟩ := List.findSome?_eq_some_iff.mp h
  refine ⟨before.length, x, by simp, hx, fun j y hy hne => ?_⟩
  by_contra hlt
  rw [List.getElem?_append_left (by omega)] at hy
  exact hne (hnone y (List.mem_of_getElem? hy))

theorem findSome?_ne_none {α β : Type} {xs : List α} {f : α → Option β} {x : α} (hx : x ∈ xs)
    (hf : f x ≠ none) : xs.findSome? f ≠ none := by
  intro hnone
  exact hf (List.findSome?_eq_none_iff.mp hnone x hx)

namespace Graph

structure Opinion where
  context : ContextId
  lookup : ℕ
  table : ℕ
  rule : Rule

variable (g : Graph) (subject : ContextId) (node : String)

/-- The rule is the first that a table of a reachable, applicable context records for exactly one
of the lookups. -/
structure IsOpinion (o : Opinion) : Prop where
  reached : g.ancestry.Reaches subject o.context
  applies : g.applies o.context subject = true
  recorded : ∃ w t, (Lookup.bySegments node)[o.lookup]? = some w ∧
    (g.tables o.context)[o.table]? = some t ∧ (t.rulesFor w).head? = some o.rule

/-- The visit of the context, then the place of the lookup, then the place of the table. -/
def rank (o : Opinion) : ℕ ×ₗ ℕ ×ₗ ℕ :=
  toLex ((g.ancestry.visits subject).idxOf o.context, toLex (o.lookup, o.table))

structure IsFirstOpinion (o : Opinion) : Prop where
  isOpinion : g.IsOpinion subject node o
  least : ∀ o', g.IsOpinion subject node o' → g.rank subject o ≤ g.rank subject o'

def decidingRule (c : ContextId) : Option Rule :=
  (Lookup.bySegments node).findSome? fun w => (g.tables c).findSome? fun t => (t.rulesFor w).head?

def decidingRuleFor (c : ContextId) : Option Rule :=
  if g.applies c subject then g.decidingRule node c else none

variable {g subject node}

theorem findSome?_tables_ne_none {c : ContextId} {k : ℕ} {t : Table} {w : String} {r : Rule}
    (hk : (g.tables c)[k]? = some t) (hr : (t.rulesFor w).head? = some r) :
    (g.tables c).findSome? (fun t => (t.rulesFor w).head?) ≠ none := by
  apply findSome?_ne_none (List.mem_of_getElem? hk)
  rw [hr]
  exact Option.some_ne_none r

theorem IsOpinion.decidingRuleFor_ne_none {o : Opinion} (h : g.IsOpinion subject node o) :
    g.decidingRuleFor subject node o.context ≠ none := by
  obtain ⟨w, t, hw, ht, hrule⟩ := h.recorded
  rw [decidingRuleFor, if_pos h.applies, decidingRule]
  exact findSome?_ne_none (List.mem_of_getElem? hw) (findSome?_tables_ne_none ht hrule)

theorem IsOpinion.mem_visits {o : Opinion} (h : g.IsOpinion subject node o) :
    o.context ∈ g.ancestry.visits subject :=
  (g.ancestry.mem_visits_iff subject).mpr h.reached

/-- Ranks are compared place by place, since a context has one place in the walk. -/
theorem rank_le {o o' : Opinion} (hmem : o.context ∈ g.ancestry.visits subject)
    (hmem' : o'.context ∈ g.ancestry.visits subject)
    (hvisit : (g.ancestry.visits subject).idxOf o.context ≤
      (g.ancestry.visits subject).idxOf o'.context)
    (hlookup : o.context = o'.context → o.lookup ≤ o'.lookup)
    (htable : o.context = o'.context → o.lookup = o'.lookup → o.table ≤ o'.table) :
    g.rank subject o ≤ g.rank subject o' := by
  rw [rank, rank, Prod.Lex.toLex_le_toLex]
  rcases Nat.lt_or_eq_of_le hvisit with hlt | heq
  · exact Or.inl hlt
  · refine Or.inr ⟨heq, ?_⟩
    have hcontext : o.context = o'.context := by
      have hplace := List.getElem?_idxOf hmem
      rw [heq, List.getElem?_idxOf hmem'] at hplace
      exact (Option.some.inj hplace).symm
    rw [Prod.Lex.toLex_le_toLex]
    rcases Nat.lt_or_eq_of_le (hlookup hcontext) with hlt | hsame
    · exact Or.inl hlt
    · exact Or.inr ⟨hsame, htable hcontext hsame⟩

theorem exists_firstOpinion {r : Rule}
    (h : (g.ancestry.visits subject).findSome? (g.decidingRuleFor subject node) = some r) :
    ∃ o, g.IsFirstOpinion subject node o ∧ o.rule = r := by
  obtain ⟨i, c, hi, hc, hfirstVisit⟩ := exists_first_place h
  have happlies : g.applies c subject = true := by
    by_contra hn
    simp [decidingRuleFor, hn] at hc
  rw [decidingRuleFor, if_pos happlies] at hc
  obtain ⟨j, w, hj, hw, hfirstLookup⟩ := exists_first_place hc
  obtain ⟨k, t, hk, ht, hfirstTable⟩ := exists_first_place hw
  have hplace : (g.ancestry.visits subject).idxOf c = i := by
    obtain ⟨hlen, rfl⟩ := List.getElem?_eq_some_iff.mp hi
    exact (g.ancestry.visits_nodup subject).idxOf_getElem i hlen
  have ho : g.IsOpinion subject node ⟨c, j, k, r⟩ :=
    ⟨(g.ancestry.mem_visits_iff subject).mp (List.mem_of_getElem? hi), happlies, w, t, hj, hk, ht⟩
  refine ⟨⟨c, j, k, r⟩, ⟨ho, ?_⟩, rfl⟩
  rintro ⟨c', j', k', r'⟩ ho'
  obtain ⟨w', t', hj', hk', hr'⟩ := ho'.recorded
  apply rank_le ho.mem_visits ho'.mem_visits
  · simp only [hplace]
    exact hfirstVisit _ c' (List.getElem?_idxOf ho'.mem_visits) ho'.decidingRuleFor_ne_none
  · rintro rfl
    exact hfirstLookup j' w' hj' (findSome?_tables_ne_none hk' hr')
  · rintro rfl rfl
    obtain rfl : w = w' := Option.some.inj (hj.symm.trans hj')
    have hsome : (t'.rulesFor w).head? ≠ none := by
      rw [hr']
      exact Option.some_ne_none r'
    exact hfirstTable k' t' hk' hsome

theorem not_isOpinion_of_none
    (h : (g.ancestry.visits subject).findSome? (g.decidingRuleFor subject node) = none)
    (o : Opinion) : ¬ g.IsOpinion subject node o := by
  intro ho
  exact findSome?_ne_none ho.mem_visits ho.decidingRuleFor_ne_none h

theorem decidingRule_congr {g' : Graph} {c : ContextId}
    (h : g'.contextSource c = g.contextSource c) :
    g'.decidingRule node c = g.decidingRule node c := by
  rw [decidingRule, tables, h]
  rfl

theorem decidingRule_of_no_layers {c : ContextId} (h : g.layersOf c = []) :
    g.decidingRule node c = none := by
  rw [decidingRule, tables_eq_flatMap, h, List.flatMap_nil, List.findSome?_eq_none_iff]
  exact fun _ _ => rfl

theorem decide_eq_decidingRule (c : ContextId) :
    Lookup.decide (g.contextRule? c) node =
      ((g.decidingRule node c).map Rule.decision).getD .undecided := by
  have hlook : g.contextRule? c = fun w => (g.tables c).findSome? fun t => (t.rulesFor w).head? :=
    funext (g.contextRule?_eq_findSome? c)
  rw [Lookup.decide_eq, hlook, Lookup.all_eq_bySegments, ← decidingRule]
  cases g.decidingRule node c <;> rfl

theorem answerOf_wildcard (c : ContextId) :
    g.answerOf subject
      (fun c => Resolver.wildcard.resolve (g.contextRule? c) (g.contextSource c) node) c =
      (g.decidingRuleFor subject node c).map fun r => .ok r.decision := by
  by_cases hc : g.applies c subject
  · rw [answerOf, if_pos hc, decidingRuleFor, if_pos hc, Resolver.resolve_wildcard,
      decide_eq_decidingRule]
    rcases g.decidingRule node c with _ | ⟨_, b⟩
    · rfl
    · cases b <;> rfl
  · rw [answerOf, if_neg hc, decidingRuleFor, if_neg hc, Option.map_none]

end Graph

namespace Engine

variable (e : Engine) (s : ContextId) (node : String)

theorem liveWith_wildcard {r : ResolverId} (h : e.resolver r = .wildcard) :
    (e.liveWith s r node).1 =
      (((e.graph.ancestry.visits s).findSome? (e.graph.decidingRuleFor s node)).map
        fun r => .ok r.decision).getD (.ok .undecided) := by
  have hanswer : e.graph.answerOf s
      (fun c => (e.resolver r).resolve (e.graph.contextRule? c) (e.graph.contextSource c) node) =
      fun c => (e.graph.decidingRuleFor s node c).map fun r => .ok r.decision := by
    rw [h]
    exact funext Graph.answerOf_wildcard
  rw [liveWith, Graph.search_result, hanswer, List.map_findSome?]
  rfl

theorem live_wildcard (h : e.resolver (e.resolverOf s) = .wildcard) :
    (e.live s node).1 =
      (((e.graph.ancestry.visits s).findSome? (e.graph.decidingRuleFor s node)).map
        fun r => .ok r.decision).getD (.ok .undecided) := e.liveWith_wildcard s node h

/-- The walk visits what can be reached, nearer contexts first, and the first opinion decides. -/
theorem live_eq_first_opinion (h : e.resolver (e.resolverOf s) = .wildcard) :
    (e.graph.ancestry.visits s).Pairwise (e.graph.ancestry.Nearer s) ∧
      (∀ c, c ∈ e.graph.ancestry.visits s ↔ e.graph.ancestry.Reaches s c) ∧
      ((∃ o, e.graph.IsFirstOpinion s node o ∧ (e.live s node).1 = .ok o.rule.decision) ∨
        ((∀ o, ¬ e.graph.IsOpinion s node o) ∧ (e.live s node).1 = .ok .undecided)) := by
  refine ⟨e.graph.ancestry.visits_pairwise_nearer s,
    fun _ => e.graph.ancestry.mem_visits_iff s, ?_⟩
  rw [e.live_wildcard s node h]
  cases hr : (e.graph.ancestry.visits s).findSome? (e.graph.decidingRuleFor s node) with
  | none => exact Or.inr ⟨Graph.not_isOpinion_of_none hr, rfl⟩
  | some r =>
    obtain ⟨o, ho, rfl⟩ := Graph.exists_firstOpinion hr
    exact Or.inl ⟨o, ho, rfl⟩

/-- A subject below two contexts on a cycle. The nearer one nests a revocation of `a.b` behind a
grant of `a.*`, and the farther one grants `a.b`. -/
def crossroads : Engine :=
  let (wide, e) := initial.addDatabase (.flat ⟨[("a.*", [⟨"a.*", true⟩])]⟩)
  let (narrow, e) := e.addDatabase (.flat ⟨[("a.b", [⟨"a.b", false⟩])]⟩)
  let (both, e) := e.addDatabase (.layered [.database wide, .database narrow])
  let (grant, e) := e.addDatabase (.flat ⟨[("a.b", [⟨"a.b", true⟩])]⟩)
  let (s, e) := e.addSubject "s" none
  let (near, e) := e.addContext "near" .everyone
  let (far, e) := e.addContext "far" .everyone
  let e := (e.setLayers (.context near) [.database both]).setLayers (.context far) [.database grant]
  let e := (e.addParent s near).2
  let e := (e.addParent near far).2
  (e.addParent far near).2

theorem live_crossroads_eq_first_opinion :
    crossroads.resolver (crossroads.resolverOf 0) = .wildcard ∧
      (crossroads.graph.ancestry.visits 0).Pairwise (crossroads.graph.ancestry.Nearer 0) ∧
      (∀ c, c ∈ crossroads.graph.ancestry.visits 0 ↔ crossroads.graph.ancestry.Reaches 0 c) ∧
      ((∃ o, crossroads.graph.IsFirstOpinion 0 "a.b" o ∧
          (crossroads.live 0 "a.b").1 = .ok o.rule.decision) ∨
        ((∀ o, ¬ crossroads.graph.IsOpinion 0 "a.b" o) ∧
          (crossroads.live 0 "a.b").1 = .ok .undecided)) :=
  ⟨rfl, crossroads.live_eq_first_opinion 0 "a.b" rfl⟩

end Engine

end PermissionGraph
