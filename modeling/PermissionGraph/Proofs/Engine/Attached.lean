import PermissionGraph.Proofs.Engine.Fresh
import PermissionGraph.Proofs.Engine.Isolation
import PermissionGraph.Proofs.Resolution.Search
import PermissionGraph.Proofs.Walk.Appended

/-!
# Subjects below an overlay

An overlay that is attached to a subject comes right behind the parents that the subject had. Its
decisions give way to those of the subject and of these parents, and go before everything that the
subject inherits from farther away.
-/

namespace PermissionGraph

namespace Graph

variable {g g' : Graph} {subject c : ContextId} {resolve : ContextId → Except Fault Decision}

theorem answerOf_eq_none_of_size_le (h : g.contexts.size ≤ c) :
    g.answerOf subject resolve c = none := by
  rw [answerOf, applies_of_size_le h]
  rfl

/-- A context that was linked last among the parents of the subject is asked right after them. -/
theorem search_result_of_appended (h : Links.Appended g.ancestry g'.ancestry subject c)
    (happlies : ∀ x, g'.applies x subject = g.applies x subject) :
    (g'.search subject resolve).result =
      (((subject :: g.ancestry.next subject).findSome? (g.answerOf subject resolve)).or
        (g.answerOf subject resolve c)).getD (g.search subject resolve).result := by
  have hanswers : g'.answerOf subject resolve = g.answerOf subject resolve := by
    funext x
    rw [answerOf, happlies, answerOf]
  have hout : ∀ x, x ∉ g.ancestry.items → g.answerOf subject resolve x = none := fun x hx =>
    answerOf_eq_none_of_size_le (Nat.le_of_not_lt fun hlt => hx (List.mem_range.mpr hlt))
  have hnear : (subject :: g.ancestry.discover [subject] subject).findSome?
      (g.answerOf subject resolve) =
        (subject :: g.ancestry.next subject).findSome? (g.answerOf subject resolve) := by
    rw [List.findSome?_cons, List.findSome?_cons]
    cases hself : g.answerOf subject resolve subject with
    | some answer => rfl
    | none => exact Links.findSome?_discover (by simpa using hself) hout
  obtain ⟨far, hvisits, hvisits'⟩ := h.visits
  rw [search_result, search_result, hvisits, hvisits', hanswers, List.findSome?_append,
    List.findSome?_append, hnear]
  cases (subject :: g.ancestry.next subject).findSome? (g.answerOf subject resolve) with
  | some answer => rfl
  | none =>
    rw [List.findSome?_cons]
    cases g.answerOf subject resolve c <;> rfl

end Graph

namespace Engine

/-- The overlay's context inherits from nobody and is out of the subject's reach. -/
structure Detached (e : Engine) (o : OverlayId) (s : ContextId) : Prop where
  context : ∃ ctx, e.graph.contexts[(e.site o).context]? = some ctx ∧
    ctx.audience = .whileEnabled o ∧ ctx.parents = []
  unreached : ¬ e.graph.ancestry.Reaches s (e.site o).context

/-- What the resolver of a subject makes of the layers of a context. -/
def reading (e : Engine) (s : ContextId) (node : String) (c : ContextId) :
    Except Fault Decision :=
  (e.resolver (e.resolverOf s)).resolve (e.graph.contextRule? c) (e.graph.contextSource c) node

variable {e : Engine} {o : OverlayId} {s c : ContextId}

theorem live_fst (node : String) :
    (e.live s node).1 = (e.graph.search s (e.reading s node)).result := rfl

/-- An overlay that is among the parents is not attached again. -/
theorem attach_of_mem {ctx : Context} (h : e.graph.contexts[s]? = some ctx)
    (hmem : (e.site o).context ∈ ctx.parents) : e.attach o s = (false, e) := by
  have hsame := ctx.addParent_of_mem hmem
  have hself : e.modifyContext s (fun ctx => (ctx.addParent (e.site o).context).2) = e :=
    modifyContext_eq_self fun ctx' hctx' => by
      obtain rfl := Option.some.inj (h.symm.trans hctx')
      rw [hsame]
  rw [attach_eq h, hsame, hself]

namespace Detached

theorem site_lt (h : e.Detached o s) : (e.site o).context < e.graph.contexts.size := by
  obtain ⟨_, hctx, -⟩ := h.context
  exact (Array.getElem?_eq_some_iff.mp hctx).1

theorem site_not_mem (h : e.Detached o s) {ctx : Context}
    (hctx : e.graph.contexts[s]? = some ctx) : (e.site o).context ∉ ctx.parents := by
  intro hmem
  refine h.unreached ((Links.Reaches.refl _ s).link ?_ (List.mem_range.mpr h.site_lt))
  simpa only [Graph.ancestry, hctx, Option.elim_some] using hmem

theorem appended (h : e.Detached o s) {ctx : Context} (hctx : e.graph.contexts[s]? = some ctx) :
    Links.Appended e.graph.ancestry (e.attach o s).2.graph.ancestry s (e.site o).context := by
  have hnew := ctx.addParent_of_not_mem (h.site_not_mem hctx)
  obtain ⟨overlay, hoverlay, -, hroot⟩ := h.context
  rw [attach_eq hctx]
  refine ⟨?_, ?_, fun x hx => ?_, List.mem_range.mpr h.site_lt, ?_, h.unreached⟩
  · exact congrArg List.range (size_modifyContext _)
  · simp only [Graph.ancestry, context_modifyContext hctx, hnew, hctx, Option.elim_some]
  · exact parents_modifyContext fun hsx => absurd hsx.symm hx
  · simp only [Graph.ancestry, hoverlay, Option.elim_some, hroot]

theorem applies (h : e.Detached o s) :
    e.graph.applies (e.site o).context s = (e.graph.overlay o).enabled := by
  obtain ⟨ctx, hctx, haudience, -⟩ := h.context
  rw [Graph.applies, hctx, Option.map_some, haudience]

end Detached

theorem map_attach {β : Type} {field : Context → β}
    (hfield : ∀ (ctx : Context) parents, field { ctx with parents } = field ctx) :
    (e.attach o s).2.graph.contexts[c]?.map field = e.graph.contexts[c]?.map field :=
  map_editContext fun ctx => ctx.field_addParent _ hfield

@[simp] theorem databases_attach : (e.attach o s).2.graph.databases = e.graph.databases := by
  rw [attach, addParent, graph_editContext]

@[simp] theorem overlays_attach : (e.attach o s).2.graph.overlays = e.graph.overlays := by
  rw [attach, addParent, graph_editContext]

@[simp] theorem resolver_attach (r : ResolverId) : (e.attach o s).2.resolver r = e.resolver r := by
  rw [resolver, attach, addParent, graph_editContext, resolver]

theorem reading_attach (node : String) (c : ContextId) :
    (e.attach o s).2.reading s node c = e.reading s node c := by
  have hresolver : (e.attach o s).2.resolverOf s = e.resolverOf s :=
    Graph.elim_congr (map_attach fun _ _ => rfl) 0
  have hsource : (e.attach o s).2.graph.contextSource c = e.graph.contextSource c :=
    Graph.contextSource_congr databases_attach overlays_attach
      (Graph.elim_congr (map_attach fun _ _ => rfl) [])
  simp [reading, hresolver, Graph.contextRule?_congr hsource, hsource]

theorem applies_attach (c : ContextId) :
    (e.attach o s).2.graph.applies c s = e.graph.applies c s :=
  Graph.applies_congr overlays_attach (map_attach fun _ _ => rfl) (map_attach fun _ _ => rfl)

/-- What the subject and the parents that it had decide stands. Where they are open the overlay
decides while it is enabled, and where that is open too all is as before. An overlay is attached
once. -/
theorem live_attach (h : e.Detached o s) (hs : s < e.graph.contexts.size) (node : String) :
    (e.attach o s).1 = true ∧
      ((e.attach o s).2.live s node).1 =
        (((s :: e.parents s).findSome? (e.graph.answerOf s (e.reading s node))).or
          (if (e.graph.overlay o).enabled then
            Graph.conclusive (e.reading s node (e.site o).context) else none)).getD
          (e.live s node).1 ∧
      (e.attach o s).2.attach o s = (false, (e.attach o s).2) := by
  have hctx := Array.getElem?_eq_getElem hs
  have hnew := Context.addParent_of_not_mem _ (h.site_not_mem hctx)
  have hafter := attach_eq (o := o) hctx
  refine ⟨?_, ?_, ?_⟩
  · rw [hafter, hnew]
  · rw [live_fst, live_fst, funext (reading_attach node),
      Graph.search_result_of_appended (h.appended hctx) applies_attach, ← h.applies]
    rfl
  · rw [hafter]
    refine attach_of_mem (context_modifyContext hctx _) ?_
    rw [hnew]
    exact List.mem_append_right _ (List.mem_singleton_self _)

/-- Past the other subject everyone is granted `a.b`, but by default it is denied. -/
def shadowed : Engine :=
  let (r, e) := detour.addRepository (.memory ⟨Config.initial, 0, false, false⟩)
  let (o, e) := e.addOverlay r
  e.addOverlayRule o ⟨"a.b", false⟩

theorem detached_shadowed : shadowed.Detached 0 0 where
  context := ⟨_, rfl, rfl, rfl⟩
  unreached := by
    intro h
    have hlt : (shadowed.site 0).context < 3 :=
      h.closed (P := (· < 3)) (by decide) (by decide +kernel)
    exact absurd hlt (by decide +kernel)

theorem live_attach_shadowed :
    shadowed.Detached 0 0 ∧ 0 < shadowed.graph.contexts.size ∧
      (shadowed.attach 0 0).1 = true ∧
      ((shadowed.attach 0 0).2.live 0 "a.b").1 = .ok .deny ∧
      (shadowed.attach 0 0).2.attach 0 0 = (false, (shadowed.attach 0 0).2) := by
  have hs : 0 < shadowed.graph.contexts.size := by decide +kernel
  obtain ⟨hadded, hlive, hagain⟩ := live_attach detached_shadowed hs "a.b"
  refine ⟨detached_shadowed, hs, hadded, ?_, hagain⟩
  rw [hlive]
  decide +kernel

end Engine

end PermissionGraph
