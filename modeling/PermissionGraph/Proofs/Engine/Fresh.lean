import PermissionGraph.Proofs.Engine.Operation
import PermissionGraph.Proofs.Resolution.Opinion

/-!
# Fresh subjects

A subject that was just added keeps no answers and decides by wildcards, so a check of it answers
what the contexts that it can reach record at that moment. Without parents these are the subject
itself, and with a parent that inherits from nobody that parent comes second.
-/

namespace PermissionGraph

open Text

namespace Graph

variable {g : Graph} {s c : ContextId}

theorem visits_of_no_parents (h : g.ancestry.next s = []) : g.ancestry.visits s = [s] := by
  have hdiscover : g.ancestry.discover [s] s = [] := by rw [Links.discover, h, List.foldl_nil]
  refine (g.ancestry.visitsFrom_cons s [] [s]).trans ?_
  rw [hdiscover, List.append_nil, Links.visitsFrom_nil]

theorem visits_of_parent (h : g.ancestry.next s = [c]) (hc : c < g.contexts.size) (hne : c ≠ s)
    (hnext : g.ancestry.next c = []) : g.ancestry.visits s = [s, c] := by
  have hitem : c ∈ g.ancestry.items := List.mem_range.mpr hc
  have hparent : g.ancestry.discover [s] s = [c] := by
    simp [Links.discover, h, hitem, hne]
  have hlast : g.ancestry.discover ([s] ++ [c]) c = [] := by
    rw [Links.discover, hnext, List.foldl_nil]
  refine (g.ancestry.visitsFrom_cons s [] [s]).trans ?_
  rw [hparent, List.nil_append, Links.visitsFrom_cons, hlast, List.append_nil,
    Links.visitsFrom_nil]

end Graph

namespace Engine

/-- A subject that keeps no answers and decides by wildcards. -/
structure Fresh (e : Engine) (s : ContextId) : Prop where
  cache : e.cache s = Cache.empty
  resolver : e.resolver (e.resolverOf s) = .wildcard

variable {e : Engine} {s : ContextId} {node : String}

theorem Fresh.permission (h : e.Fresh s) :
    (e.permission s node).1 = (e.live s (lower node)).1 := by
  simp [permission_fst (h.cache ▸ Cache.settled_empty), h.cache]

/-- The context that stands for a new subject. -/
theorem context_addSubject (e : Engine) (name : String) :
    (e.addSubject name none).2.graph.contexts[(e.addSubject name none).1]? =
      some ⟨name, .itself, [], [], e.graph.resolvers.size⟩ := by
  simp [addSubject, addContext, addResolver]

theorem nameOf_addSubject (e : Engine) (name : String) (resolver : Option ResolverId) :
    (e.addSubject name resolver).2.graph.nameOf (e.addSubject name resolver).1 = name := by
  have hnone : (e.addSubject name none).2.graph.nameOf (e.addSubject name none).1 = name := by
    rw [Graph.nameOf, context_addSubject]
    rfl
  cases resolver with
  | none => exact hnone
  | some r =>
    let made := e.addContext name .itself
    have hname : (made.2.modifyContext made.1
        fun ctx => { ctx with resolver := r }).graph.contexts[made.1]?.map Context.name =
          made.2.graph.contexts[made.1]?.map Context.name := map_modifyContext fun _ _ => rfl
    exact (Graph.elim_congr hname "").trans hnone

theorem fresh_addSubject (e : Engine) (name : String) :
    (e.addSubject name none).2.Fresh (e.addSubject name none).1 where
  cache := by
    simp [Engine.cache, addSubject]
  resolver := by
    rw [resolverOf, context_addSubject]
    simp [resolver, addSubject, addContext, addResolver]

theorem context_modifyContext {ctx : Context} (h : e.graph.contexts[s]? = some ctx)
    (f : Context → Context) : (e.modifyContext s f).graph.contexts[s]? = some (f ctx) := by
  simp [h]

theorem Fresh.modifyContext (h : e.Fresh s) {f : Context → Context}
    (hf : ∀ ctx, (f ctx).resolver = ctx.resolver) : (e.modifyContext s f).Fresh s where
  cache := h.cache
  resolver := by
    have hresolver : (e.modifyContext s f).resolverOf s = e.resolverOf s :=
      resolverOf_modifyContext fun _ => hf
    rw [hresolver]
    exact h.resolver

theorem decidingRuleFor_itself {ctx : Context} (hctx : e.graph.contexts[s]? = some ctx)
    (hitself : ctx.audience = .itself) :
    e.graph.decidingRuleFor s node s = e.graph.decidingRule node s := by
  have happlies : e.graph.applies s s = true := by
    rw [Graph.applies, hctx, Option.map_some, hitself]
    exact beq_self_eq_true s
  rw [Graph.decidingRuleFor, if_pos happlies]

/-- A fresh subject without parents decides by its own layers. -/
theorem Fresh.permission_of_no_parents (h : e.Fresh s) {ctx : Context}
    (hctx : e.graph.contexts[s]? = some ctx) (hitself : ctx.audience = .itself)
    (hparents : ctx.parents = []) :
    (e.permission s node).1 = .ok (Lookup.decide (e.graph.contextRule? s) (lower node)) := by
  have hnext : e.graph.ancestry.next s = [] := by
    simp only [Graph.ancestry, hctx, Option.elim_some, hparents]
  rw [h.permission, live_wildcard _ _ _ h.resolver, Graph.visits_of_no_parents hnext,
    List.findSome?_singleton, decidingRuleFor_itself hctx hitself, Graph.decide_eq_decidingRule]
  cases e.graph.decidingRule (lower node) s <;> rfl

def addHolder (e : Engine) (name : String) (t : Table) : ContextId × Engine :=
  let (d, e) := e.addDatabase (.flat t)
  let (s, e) := e.addSubject name none
  (s, e.setLayers (.context s) [.database d])

theorem contextRule?_of_table {ctx : Context} {d : DatabaseId} {t : Table}
    (hctx : e.graph.contexts[s]? = some ctx) (hlayers : ctx.layers = [.database d])
    (hd : e.graph.databases[d]? = some (.flat t)) (w : String) :
    e.graph.contextRule? s w = t.get? w := by
  have hpos : e.graph.databases.size ≠ 0 :=
    Nat.ne_zero_of_lt (Array.getElem?_eq_some_iff.mp hd).1
  obtain ⟨depth, hdepth⟩ := Nat.exists_eq_add_one_of_ne_zero hpos
  simp [Graph.contextRule?, Graph.layersOf, hctx, hlayers, Graph.rule?, hdepth, Graph.ruleWithin?,
    hd]

theorem permission_addHolder (e : Engine) (name : String) (t : Table) (node : String) :
    ((e.addHolder name t).2.permission (e.addHolder name t).1 node).1 =
      .ok (Lookup.decide t.get? (lower node)) := by
  have hfresh : (e.addHolder name t).2.Fresh (e.addHolder name t).1 :=
    (fresh_addSubject (e.addDatabase (.flat t)).2 name).modifyContext fun _ => rfl
  have hctx := context_modifyContext (context_addSubject (e.addDatabase (.flat t)).2 name)
    fun ctx => { ctx with layers := [.database e.graph.databases.size] }
  have hd : (e.addHolder name t).2.graph.databases[e.graph.databases.size]? = some (.flat t) :=
    Array.getElem?_push_size
  have hlook : (e.addHolder name t).2.graph.contextRule? (e.addHolder name t).1 = t.get? :=
    funext (contextRule?_of_table hctx rfl hd)
  rw [← hlook]
  exact hfresh.permission_of_no_parents hctx rfl rfl

/-- A subject without layers below one context decides as that context does, if it applies. -/
theorem live_of_parent (h : e.resolver (e.resolverOf s) = .wildcard) {ctx parent : Context}
    {c : ContextId} (hctx : e.graph.contexts[s]? = some ctx) (hitself : ctx.audience = .itself)
    (hlayers : ctx.layers = []) (hparents : ctx.parents = [c]) (hne : c ≠ s)
    (hparent : e.graph.contexts[c]? = some parent) (hroot : parent.parents = []) :
    (e.live s node).1 =
      .ok (if e.graph.applies c s then Lookup.decide (e.graph.contextRule? c) node
        else .undecided) := by
  have hnext : e.graph.ancestry.next s = [c] := by
    simp only [Graph.ancestry, hctx, Option.elim_some, hparents]
  have hlast : e.graph.ancestry.next c = [] := by
    simp only [Graph.ancestry, hparent, Option.elim_some, hroot]
  have hc : c < e.graph.contexts.size := (Array.getElem?_eq_some_iff.mp hparent).1
  have hnone : e.graph.layersOf s = [] := by rw [Graph.layersOf, hctx, Option.elim_some, hlayers]
  rw [live_wildcard _ _ _ h, Graph.visits_of_parent hnext hc hne hlast, List.findSome?_cons,
    decidingRuleFor_itself hctx hitself, Graph.decidingRule_of_no_layers hnone,
    List.findSome?_singleton, Graph.decidingRuleFor]
  by_cases happlies : e.graph.applies c s = true
  · rw [if_pos happlies, if_pos happlies, Graph.decide_eq_decidingRule]
    cases e.graph.decidingRule node c <;> rfl
  · rw [if_neg happlies, if_neg happlies]
    rfl

/-- The context of an overlay is as it was made: it holds the two layers and has no parents. -/
def OwnContext (e : Engine) (o : OverlayId) : Prop :=
  ∃ ctx, e.graph.contexts[(e.site o).context]? = some ctx ∧ ctx.audience = .whileEnabled o ∧
    ctx.parents = [] ∧ ctx.layers = [.configured o, .plugin o]

theorem ownContext_addOverlay (e : Engine) (repository : RepositoryId)
    (hsites : e.sites.size = e.graph.overlays.size) :
    (e.addOverlay repository).2.OwnContext (e.addOverlay repository).1 := by
  have hsite : (e.addOverlay repository).2.site (e.addOverlay repository).1 =
      ⟨e.graph.contexts.size, repository⟩ := by
    simp [site, addOverlay, addContext, addResolver, setLayers, modifyContext, ← hsites]
  have hcontext : (e.addContext overlayName (.whileEnabled e.graph.overlays.size)).2.graph.contexts[
      e.graph.contexts.size]? = some ⟨overlayName, .whileEnabled e.graph.overlays.size, [], [],
        e.graph.resolvers.size⟩ := Array.getElem?_push_size
  rw [OwnContext, hsite]
  exact ⟨_, context_modifyContext hcontext _, rfl, rfl, rfl⟩

theorem contextRule?_of_overlay {o : OverlayId} {ctx : Context}
    (hctx : e.graph.contexts[s]? = some ctx) (hlayers : ctx.layers = [.configured o, .plugin o])
    (w : String) :
    e.graph.contextRule? s w =
      ((e.graph.overlay o).configured.get? w).or ((e.graph.overlay o).plugin.get? w) := by
  rw [Graph.contextRule?_eq_get?]
  simp [Graph.contextSource, Graph.layersOf, hctx, hlayers, Graph.source, Graph.expand, Source.get?,
    Source.getFirst?]

/-- A subject as it was made, but for the overlay that it was attached to: it has no layers and no
other parent, and decides by wildcards. -/
structure AttachedOnly (e : Engine) (s : ContextId) (o : OverlayId) : Prop where
  context : ∃ ctx, e.graph.contexts[s]? = some ctx ∧ ctx.audience = .itself ∧ ctx.layers = [] ∧
    ctx.parents = [(e.site o).context]
  resolver : e.resolver (e.resolverOf s) = .wildcard

/-- Such a subject decides by the overlay's two layers while the overlay is enabled. -/
theorem AttachedOnly.live {o : OverlayId} (h : e.AttachedOnly s o) (hown : e.OwnContext o) :
    (e.live s node).1 =
      .ok (if (e.graph.overlay o).enabled then
          Lookup.decide (fun w => ((e.graph.overlay o).configured.get? w).or
            ((e.graph.overlay o).plugin.get? w)) node
        else .undecided) := by
  obtain ⟨ctx, hctx, hitself, hnone, hparents⟩ := h.context
  obtain ⟨parent, hparent, haudience, hroot, hlayers⟩ := hown
  have hne : (e.site o).context ≠ s := by
    intro hsame
    rw [hsame, hctx] at hparent
    cases hparent
    cases hitself.symm.trans haudience
  have happlies : e.graph.applies (e.site o).context s = (e.graph.overlay o).enabled := by
    rw [Graph.applies, hparent, Option.map_some, haudience]
  rw [live_of_parent h.resolver hctx hitself hnone hparents hne hparent hroot, happlies,
    funext (contextRule?_of_overlay hparent hlayers)]

def addAttached (e : Engine) (name : String) (o : OverlayId) : ContextId × Engine :=
  let (s, e) := e.addSubject name none
  (s, (e.attach o s).2)

theorem attach_eq {o : OverlayId} {ctx : Context} (h : e.graph.contexts[s]? = some ctx) :
    e.attach o s = ((ctx.addParent (e.site o).context).1,
      e.modifyContext s fun ctx => (ctx.addParent (e.site o).context).2) := by
  rw [attach, addParent, editContext, h]

theorem addAttached_snd (e : Engine) (name : String) (o : OverlayId) :
    (e.addAttached name o).2 =
      (e.addSubject name none).2.modifyContext (e.addSubject name none).1
        fun ctx => (ctx.addParent (e.site o).context).2 :=
  congrArg Prod.snd (attach_eq (context_addSubject e name))

theorem fresh_addAttached (e : Engine) (name : String) (o : OverlayId) :
    (e.addAttached name o).2.Fresh (e.addAttached name o).1 := by
  rw [addAttached_snd]
  exact (fresh_addSubject e name).modifyContext fun ctx => ctx.resolver_addParent _

theorem attachedOnly_addAttached (e : Engine) (name : String) (o : OverlayId) :
    (e.addAttached name o).2.AttachedOnly (e.addAttached name o).1 o where
  context := by
    have hctx := context_modifyContext (context_addSubject e name)
      fun ctx => (ctx.addParent (e.site o).context).2
    rw [addAttached_snd]
    exact ⟨_, hctx, rfl, rfl, rfl⟩
  resolver := (fresh_addAttached e name o).resolver

theorem ownContext_addAttached {o : OverlayId} (h : e.OwnContext o) (name : String) :
    (e.addAttached name o).2.OwnContext o := by
  obtain ⟨parent, hparent, hrest⟩ := h
  have hlt : (e.site o).context < e.graph.contexts.size :=
    (Array.getElem?_eq_some_iff.mp hparent).1
  have hne : (e.site o).context ≠ e.graph.contexts.size := Nat.ne_of_lt hlt
  refine ⟨parent, ?_, hrest⟩
  have hsite : (e.addAttached name o).2.site o = e.site o := by
    rw [addAttached_snd]
    rfl
  rw [hsite, addAttached_snd]
  simp [modifyContext, addSubject, addContext, addResolver, Array.getElem?_modify, hne.symm,
    Array.getElem?_push, hne, hparent]

/-- A new subject below an overlay decides by the overlay's two layers while it is enabled. -/
theorem permission_addAttached (e : Engine) (name : String) (o : OverlayId) (h : e.OwnContext o)
    (node : String) :
    ((e.addAttached name o).2.permission (e.addAttached name o).1 node).1 =
      .ok (if (e.graph.overlay o).enabled then
          Lookup.decide (fun w => ((e.graph.overlay o).configured.get? w).or
            ((e.graph.overlay o).plugin.get? w)) (lower node)
        else .undecided) := by
  have hoverlay : (e.addAttached name o).2.graph.overlay o = e.graph.overlay o := by
    rw [addAttached_snd]
    rfl
  rw [(fresh_addAttached e name o).permission,
    (attachedOnly_addAttached e name o).live (ownContext_addAttached h name), hoverlay]

end Engine

end PermissionGraph
