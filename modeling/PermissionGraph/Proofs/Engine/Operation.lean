import PermissionGraph.Proofs.Engine.Check
import PermissionGraph.Proofs.Resolution.Search

/-!
# Operations of the engine

An operation is one call on the engine, and a run is a list of them. Registries and commands act on
the engine through these operations only. No operation but a new resolver changes which resolver a
context has, and a cache is used only by the operations of its own subject.
-/

namespace PermissionGraph

open Text

inductive Operation
  | addDatabase (d : Database)
  | setTable (d : DatabaseId) (t : Table)
  | setLayers (owner : LayerOwner) (layers : Priority Layer)
  | addResolver (r : Resolver)
  | alterResolver (r : ResolverId) (behaviour : Resolver)
  | resolve (r : ResolverId) (owner : LayerOwner) (node : String)
  | addContext (name : String) (audience : Audience)
  | addParent (c parent : ContextId)
  | addParentFirst (c parent : ContextId)
  | removeParent (c parent : ContextId)
  | clearParents (c : ContextId)
  | setResolver (c : ContextId) (r : ResolverId)
  | addSubject (name : String) (resolver : Option ResolverId)
  | permission (s : ContextId) (node : String)
  | holds (s : ContextId) (node : String)
  | live (s : ContextId) (node : String)
  | holdsWith (s : ContextId) (r : ResolverId) (node : String)
  | invalidate (s : ContextId) (node : String)
  | invalidateAll (s : ContextId)
  | addRepository (r : Repository)
  | saveTo (r : RepositoryId) (config : Config)
  | setRefusals (r : RepositoryId) (load save : Bool)
  | editFiles (edit : Files.Tree → Except FileFailure Unit × Files.Tree)
  | addOverlay (repository : RepositoryId)
  | reloadOverlay (o : OverlayId)
  | saveOverlay (o : OverlayId)
  | enableOverlay (o : OverlayId) (enabled : Bool)
  | addOverlayRule (o : OverlayId) (r : Rule)
  | configureDefault (o : OverlayId) (entry : String)
  | removeDefault (o : OverlayId) (node : String)
  | attach (o : OverlayId) (c : ContextId)

namespace Operation

def cacheUser? : Operation → Option ContextId
  | permission s _ | holds s _ | invalidate s _ | invalidateAll s | setResolver s _ => some s
  | _ => none

end Operation

namespace Engine

def step (e : Engine) : Operation → Engine
  | .addDatabase d => (e.addDatabase d).2
  | .setTable d t => e.setTable d t
  | .setLayers owner layers => e.setLayers owner layers
  | .addResolver r => (e.addResolver r).2
  | .alterResolver r behaviour => e.alterResolver r behaviour
  | .resolve r owner node => (e.resolve r owner node).2
  | .addContext name audience => (e.addContext name audience).2
  | .addParent c parent => (e.addParent c parent).2
  | .addParentFirst c parent => (e.addParentFirst c parent).2
  | .removeParent c parent => (e.removeParent c parent).2
  | .clearParents c => e.clearParents c
  | .setResolver c r => e.setResolver c r
  | .addSubject name resolver => (e.addSubject name resolver).2
  | .permission s node => (e.permission s node).2
  | .holds s node => (e.holds s node).2
  | .live s node => (e.live s node).2
  | .holdsWith s r node => (e.holdsWith s r node).2
  | .invalidate s node => (e.invalidate s node).2
  | .invalidateAll s => e.invalidateAll s
  | .addRepository r => (e.addRepository r).2
  | .saveTo r config => (e.saveTo r config).2
  | .setRefusals r load save => e.setRefusals r load save
  | .editFiles edit => (e.editFiles edit).2
  | .addOverlay repository => (e.addOverlay repository).2
  | .reloadOverlay o => e.reloadOverlay o
  | .saveOverlay o => (e.saveOverlay o).2
  | .enableOverlay o enabled => (e.enableOverlay o enabled).2
  | .addOverlayRule o r => e.addOverlayRule o r
  | .configureDefault o entry => (e.configureDefault o entry).2
  | .removeDefault o node => (e.removeDefault o node).2
  | .attach o c => (e.attach o c).2

def run (e : Engine) (ops : List Operation) : Engine := ops.foldl step e

def before (e : Engine) (ops : List Operation) (n : Nat) : Engine := e.run (ops.take n)

theorem before_zero (e : Engine) (ops : List Operation) : e.before ops 0 = e := rfl

theorem before_succ (e : Engine) {ops : List Operation} {n : Nat} {op : Operation}
    (h : ops[n]? = some op) : e.before ops (n + 1) = (e.before ops n).step op := by
  rw [before, before, run, run, List.take_add_one, h, List.foldl_append]
  rfl

/-- What every operation of a run keeps, the run keeps. -/
theorem run_induction {P : Engine → Prop} {e : Engine} {ops : List Operation}
    (hstep : ∀ e op, op ∈ ops → P e → P (e.step op)) (h : P e) : P (e.run ops) := by
  induction ops generalizing e with
  | nil => exact h
  | cons op ops ih =>
    exact ih (fun e op hop => hstep e op (List.mem_cons_of_mem _ hop))
      (hstep e op List.mem_cons_self h)

variable {e : Engine} {s c : ContextId}

@[simp] theorem size_modifyContext (f : Context → Context) :
    (e.modifyContext c f).graph.contexts.size = e.graph.contexts.size :=
  Array.size_modify

@[simp] theorem getElem?_modifyContext (f : Context → Context) :
    (e.modifyContext c f).graph.contexts[s]? =
      e.graph.contexts[s]?.map fun ctx => if c = s then f ctx else ctx := by
  rw [modifyContext]
  simp only [Array.getElem?_modify]
  split
  · rfl
  · exact Option.map_id'.symm

theorem modifyContext_eq_self {f : Context → Context}
    (hf : ∀ ctx, e.graph.contexts[s]? = some ctx → f ctx = ctx) : e.modifyContext s f = e := by
  have hcontexts : e.graph.contexts.modify s f = e.graph.contexts := by
    refine Array.ext_getElem? fun c => ?_
    rw [Array.getElem?_modify]
    split
    · next hsc =>
      subst hsc
      cases hctx : e.graph.contexts[s]? with
      | none => rfl
      | some ctx => rw [Option.map_some, hf ctx hctx]
    · rfl
  rw [modifyContext, hcontexts]

/-- An edit that overrides what another one did makes up for both. -/
theorem modifyContext_modifyContext {f g : Context → Context} (h : ∀ ctx, g (f ctx) = g ctx) :
    (e.modifyContext s f).modifyContext s g = e.modifyContext s g := by
  have hcontexts : (e.graph.contexts.modify s f).modify s g = e.graph.contexts.modify s g := by
    refine Array.ext_getElem? fun c => ?_
    simp only [Array.getElem?_modify]
    split
    · rw [Option.map_map]
      exact congrArg (Option.map · e.graph.contexts[c]?) (funext h)
    · rfl
  simp only [modifyContext, hcontexts]

/-- An edit of a context leaves alone what it does not touch. -/
theorem map_modifyContext {β : Type} {field : Context → β} {f : Context → Context}
    (hf : c = s → ∀ ctx, field (f ctx) = field ctx) :
    (e.modifyContext c f).graph.contexts[s]?.map field = e.graph.contexts[s]?.map field := by
  rw [getElem?_modifyContext, Option.map_map]
  congr 1
  funext ctx
  rw [Function.comp_apply]
  split
  · next h => exact hf h ctx
  · rfl

theorem resolverOf_modifyContext {f : Context → Context}
    (hf : c = s → ∀ ctx, (f ctx).resolver = ctx.resolver) :
    (e.modifyContext c f).resolverOf s = e.resolverOf s :=
  Graph.elim_congr (map_modifyContext hf) 0

theorem parents_modifyContext {f : Context → Context}
    (hf : c = s → ∀ ctx, (f ctx).parents = ctx.parents) :
    (e.modifyContext c f).parents s = e.parents s :=
  Graph.elim_congr (map_modifyContext hf) []

theorem resolverOf_modifyContext_self {r : ResolverId} (hs : s < e.graph.contexts.size) :
    (e.modifyContext s fun ctx => { ctx with resolver := r }).resolverOf s = r := by
  rw [resolverOf, getElem?_modifyContext]
  simp [hs]

@[simp] theorem size_editContext (edit : Context → Bool × Context) :
    (e.editContext c edit).2.graph.contexts.size = e.graph.contexts.size := by
  unfold editContext
  cases e.graph.contexts[c]? with
  | none => rfl
  | some ctx => exact size_modifyContext _

@[simp] theorem getElem?_editContext (edit : Context → Bool × Context) :
    (e.editContext c edit).2.graph.contexts[s]? =
      e.graph.contexts[s]?.map fun ctx => if c = s then (edit ctx).2 else ctx := by
  unfold editContext
  cases hc : e.graph.contexts[c]? with
  | some ctx => exact getElem?_modifyContext _
  | none =>
    by_cases hs : c = s
    · rw [← hs, hc]
      rfl
    · simp only [if_neg hs, Option.map_id']

theorem map_editContext {β : Type} {field : Context → β} {edit : Context → Bool × Context}
    (hedit : ∀ ctx, field (edit ctx).2 = field ctx) :
    (e.editContext c edit).2.graph.contexts[s]?.map field = e.graph.contexts[s]?.map field := by
  unfold editContext
  cases e.graph.contexts[c]? with
  | none => rfl
  | some ctx => exact map_modifyContext fun _ => hedit

/-- Only contexts change. -/
theorem graph_editContext (edit : Context → Bool × Context) :
    (e.editContext c edit).2.graph =
      { e.graph with contexts := (e.editContext c edit).2.graph.contexts } := by
  unfold editContext
  cases e.graph.contexts[c]? <;> rfl

@[simp] theorem caches_editContext (edit : Context → Bool × Context) :
    (e.editContext c edit).2.caches = e.caches := by
  unfold editContext
  cases e.graph.contexts[c]? <;> rfl

end Engine

namespace Context

variable (ctx : Context) (parent : ContextId)

variable {parent} in
theorem addParent_of_mem (h : parent ∈ ctx.parents) : ctx.addParent parent = (false, ctx) :=
  if_pos h

variable {parent} in
theorem addParent_of_not_mem (h : parent ∉ ctx.parents) :
    ctx.addParent parent = (true, { ctx with parents := ctx.parents ++ [parent] }) := if_neg h

theorem field_addParent {β : Type} {field : Context → β}
    (hfield : ∀ (ctx : Context) parents, field { ctx with parents } = field ctx) :
    field (ctx.addParent parent).2 = field ctx := by
  by_cases h : parent ∈ ctx.parents
  · rw [addParent_of_mem ctx h]
  · rw [addParent_of_not_mem ctx h]
    exact hfield ctx _

@[simp] theorem resolver_addParent : (ctx.addParent parent).2.resolver = ctx.resolver :=
  ctx.field_addParent parent fun _ _ => rfl

end Context

namespace Engine

variable {e : Engine} {s c : ContextId}

theorem graph_setResolver (r : ResolverId) :
    (e.setResolver c r).graph = (e.modifyContext c fun ctx => { ctx with resolver := r }).graph := by
  unfold setResolver
  simp only
  split <;> rfl

@[simp] theorem size_setResolver (r : ResolverId) :
    (e.setResolver c r).graph.contexts.size = e.graph.contexts.size := by
  rw [graph_setResolver]
  exact size_modifyContext _

@[simp] theorem graph_permission (node : String) : (e.permission s node).2.graph = e.graph :=
  (permission_frame e s node).1

@[simp] theorem graph_holds (node : String) : (e.holds s node).2.graph = e.graph :=
  graph_permission node

/-- No operation takes a context away. -/
theorem size_step (e : Engine) (op : Operation) :
    e.graph.contexts.size ≤ (e.step op).graph.contexts.size := by
  cases op with
  | setLayers owner layers =>
    cases owner with
    | database d => exact Nat.le_refl _
    | context c => simp [step, Engine.setLayers]
  | addParent c parent => simp [step, addParent]
  | addParentFirst c parent => simp [step, addParentFirst]
  | removeParent c parent => simp [step, removeParent]
  | attach o c => simp [step, attach, addParent]
  | clearParents c => simp [step, clearParents]
  | setResolver c r => simp [step]
  | permission s node => simp [step]
  | holds s node => simp [step]
  | addContext name audience => simp [step, addContext, addResolver]
  | addSubject name resolver =>
    cases resolver <;> simp [step, addSubject, addContext, addResolver, modifyContext]
  | addOverlay repository =>
    simp [step, addOverlay, addContext, addResolver, setLayers, modifyContext]
  | _ => exact Nat.le_refl _

@[simp] theorem sites_editContext (edit : Context → Bool × Context) :
    (e.editContext c edit).2.sites = e.sites := by
  unfold editContext
  cases e.graph.contexts[c]? <;> rfl

@[simp] theorem sites_setResolver (r : ResolverId) : (e.setResolver c r).sites = e.sites := by
  unfold setResolver
  simp only
  split <;> rfl

@[simp] theorem sites_permission (node : String) : (e.permission s node).2.sites = e.sites :=
  (cachePlace s).compute_frame (fun _ _ => rfl) (fun _ => rfl) (lower node) e

@[simp] theorem sites_holds (node : String) : (e.holds s node).2.sites = e.sites :=
  sites_permission node

/-- An operation leaves the overlays where they are bound, or binds one more. -/
theorem sites_step (e : Engine) (op : Operation) :
    (e.step op).sites = e.sites ∨ ∃ site, (e.step op).sites = e.sites.push site := by
  cases op with
  | setLayers owner layers => cases owner <;> exact Or.inl rfl
  | addParent c parent => exact Or.inl (sites_editContext _)
  | addParentFirst c parent => exact Or.inl (sites_editContext _)
  | removeParent c parent => exact Or.inl (sites_editContext _)
  | attach o c => exact Or.inl (sites_editContext _)
  | setResolver c r => exact Or.inl (sites_setResolver r)
  | addSubject name resolver => cases resolver <;> exact Or.inl rfl
  | permission s node => exact Or.inl (sites_permission node)
  | holds s node => exact Or.inl (sites_holds node)
  | addOverlay repository => exact Or.inr ⟨_, rfl⟩
  | _ => exact Or.inl rfl

theorem sites_size_step (e : Engine) (op : Operation) : e.sites.size ≤ (e.step op).sites.size := by
  rcases sites_step e op with h | ⟨site, h⟩
  · exact Nat.le_of_eq (congrArg Array.size h.symm)
  · rw [h, Array.size_push]
    exact Nat.le_succ _

theorem site_step {o : OverlayId} (ho : o < e.sites.size) (op : Operation) :
    (e.step op).site o = e.site o := by
  rcases sites_step e op with h | ⟨site, h⟩
  · rw [site, h, Engine.site]
  · rw [Engine.site, h, Array.getElem?_push_lt ho, Engine.site, Array.getElem?_eq_getElem ho]

/-- A cache is used only by the operations of its own subject. -/
theorem cache_step_of_other (hs : s < e.graph.contexts.size) {op : Operation}
    (hop : op.cacheUser? ≠ some s) : (e.step op).cache s = e.cache s := by
  cases op with
  | setLayers owner layers => cases owner <;> rfl
  | addParent c parent => simp [step, cache, addParent]
  | addParentFirst c parent => simp [step, cache, addParentFirst]
  | removeParent c parent => simp [step, cache, removeParent]
  | attach o c => simp [step, cache, attach, addParent]
  | setResolver c r =>
    have hc : c ≠ s := fun h => hop (congrArg some h)
    rw [step, setResolver]
    split
    · exact cache_setCache_of_ne _ hc _
    · rfl
  | addSubject name resolver =>
    have hc : e.graph.contexts.size ≠ s := (Nat.ne_of_lt hs).symm
    cases resolver <;>
      exact congrArg (Option.getD · Cache.empty) (Keyed.get?_assign_of_ne e.caches hc Cache.empty)
  | permission s' node =>
    exact (permission_frame e s' node).2 s fun h => hop (congrArg some h)
  | holds s' node => exact (permission_frame e s' node).2 s fun h => hop (congrArg some h)
  | invalidate s' node => exact cache_setCache_of_ne _ (fun h => hop (congrArg some h)) _
  | invalidateAll s' => exact cache_setCache_of_ne _ (fun h => hop (congrArg some h)) _
  | _ => rfl

end Engine

end PermissionGraph
