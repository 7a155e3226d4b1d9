import PermissionGraph.Graph
import PermissionGraph.Proofs.Walk.Breadth
import PermissionGraph.Engine

/-!
# Searches of the graph

A search ends with the first conclusive answer of an applicable context, in the order of the
breadth-first walk, and without an opinion where there is none. It depends on which contexts inherit
from which, on which of them apply, and on what those record. What a context records depends on its
own layers, the databases and the overlays.
-/

namespace PermissionGraph.Graph

variable (g : Graph) (subject : ContextId) (resolve : ContextId → Except Fault Decision)

/-- A decision or a fault, but not an open answer. -/
def conclusive : Except Fault Decision → Option (Except Fault Decision)
  | .ok .undecided => none
  | answer => some answer

def answerOf (c : ContextId) : Option (Except Fault Decision) :=
  if g.applies c subject then conclusive (resolve c) else none

theorem ask_of_answer {c : ContextId} {answer : Except Fault Decision}
    (h : g.answerOf subject resolve c = some answer) (found : Search) :
    g.ask subject resolve c found = (true, ⟨answer, found.asked ++ [c]⟩) := by
  unfold answerOf at h
  by_cases hc : g.applies c subject
  · rw [if_pos hc] at h
    rw [ask, if_pos hc]
    rcases hr : resolve c with f | d
    · obtain rfl : Except.error f = answer := by simpa [hr, conclusive] using h
      rfl
    · cases d <;> simp_all [conclusive, Decision.isDecided]
  · rw [if_neg hc] at h
    cases h

theorem ask_of_no_answer {c : ContextId} (h : g.answerOf subject resolve c = none)
    {found : Search} (hf : found.result = .ok .undecided) :
    ∃ found', g.ask subject resolve c found = (false, found') ∧
      found'.result = .ok .undecided := by
  unfold answerOf at h
  by_cases hc : g.applies c subject
  · rw [if_pos hc] at h
    have hr : resolve c = .ok .undecided := by
      rcases hr : resolve c with f | d
      · simp [hr, conclusive] at h
      · cases d <;> simp_all [conclusive]
    refine ⟨⟨.ok .undecided, found.asked ++ [c]⟩, ?_, rfl⟩
    rw [ask, if_pos hc, hr]
    rfl
  · exact ⟨found, by rw [ask, if_neg hc], hf⟩

theorem visitAll_ask (cs : List ContextId) (found : Search)
    (hf : found.result = .ok .undecided) :
    (Links.visitAll (g.ask subject resolve) cs found).2.result =
      (cs.findSome? (g.answerOf subject resolve)).getD (.ok .undecided) := by
  induction cs generalizing found with
  | nil => exact hf
  | cons c cs ih =>
    rw [Links.visitAll, List.findSome?_cons]
    cases hc : g.answerOf subject resolve c with
    | none =>
      obtain ⟨found', hask, hf'⟩ := g.ask_of_no_answer subject resolve hc hf
      rw [hask]
      exact ih found' hf'
    | some answer =>
      rw [g.ask_of_answer subject resolve hc found]
      rfl

theorem search_result :
    (g.search subject resolve).result =
      ((g.ancestry.visits subject).findSome? (g.answerOf subject resolve)).getD
        (.ok .undecided) := by
  rw [search, Links.breadthFirst_eq_visitAll]
  exact g.visitAll_ask subject resolve _ _ rfl

end PermissionGraph.Graph

namespace PermissionGraph

namespace Graph

variable {g g' : Graph} {subject c : ContextId}

theorem elim_congr {β : Type} {field : Context → β} {found found' : Option Context}
    (h : found'.map field = found.map field) (b : β) :
    found'.elim b field = found.elim b field := by
  cases found <;> cases found' <;> simp_all

theorem ancestry_congr (hsize : g'.contexts.size = g.contexts.size)
    (hparents : ∀ c : ContextId,
      g'.contexts[c]?.map Context.parents = g.contexts[c]?.map Context.parents) :
    g'.ancestry = g.ancestry := by
  have hnext : g'.ancestry.next = g.ancestry.next := funext fun c => elim_congr (hparents c) []
  rw [ancestry, ancestry, hsize]
  exact congrArg (Links.mk _) hnext

theorem applies_congr (hoverlays : g'.overlays = g.overlays)
    (hname : g'.contexts[subject]?.map Context.name = g.contexts[subject]?.map Context.name)
    (haudience : g'.contexts[c]?.map Context.audience = g.contexts[c]?.map Context.audience) :
    g'.applies c subject = g.applies c subject := by
  have hnameOf : g'.nameOf subject = g.nameOf subject := elim_congr hname ""
  simp only [applies, haudience, hnameOf, overlay, hoverlays]

theorem expand_congr (hdatabases : g'.databases = g.databases)
    (hoverlays : g'.overlays = g.overlays) (depth : Nat) (layer : Layer) :
    g'.expand depth layer = g.expand depth layer := by
  induction depth generalizing layer with
  | zero => cases layer <;> simp only [expand, overlay, hoverlays]
  | succ depth ih =>
    cases layer with
    | configured o => simp only [expand, overlay, hoverlays]
    | plugin o => simp only [expand, overlay, hoverlays]
    | database d => simp only [expand, hdatabases, funext ih]

theorem contextSource_congr (hdatabases : g'.databases = g.databases)
    (hoverlays : g'.overlays = g.overlays) (hlayers : g'.layersOf c = g.layersOf c) :
    g'.contextSource c = g.contextSource c := by
  have hsource : g'.source = g.source := by
    funext layer
    rw [source, hdatabases, expand_congr hdatabases hoverlays, source]
  rw [contextSource, contextSource, hlayers, hsource]

theorem contextRule?_congr (h : g'.contextSource c = g.contextSource c) :
    g'.contextRule? c = g.contextRule? c := by
  funext node
  rw [contextRule?_eq_get?, contextRule?_eq_get?, h]

variable {resolve resolve' : ContextId → Except Fault Decision}

/-- What is asked of contexts that do not apply is nothing to a search. -/
theorem search_congr (hancestry : g'.ancestry = g.ancestry)
    (happlies : ∀ c, g'.applies c subject = g.applies c subject)
    (hresolve : ∀ c, g.applies c subject = true → resolve' c = resolve c) :
    g'.search subject resolve' = g.search subject resolve := by
  have hask : g'.ask subject resolve' = g.ask subject resolve := by
    funext c found
    rw [ask, ask, happlies]
    by_cases hc : g.applies c subject = true
    · rw [if_pos hc, if_pos hc, hresolve c hc]
    · rw [if_neg hc, if_neg hc]
  rw [search, search, hancestry, hask]

end Graph

end PermissionGraph
