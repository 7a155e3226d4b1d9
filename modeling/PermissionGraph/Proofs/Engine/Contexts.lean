import PermissionGraph.Proofs.Engine.Operation
import PermissionGraph.Proofs.Priority.Distinct
import Mathlib.Data.List.Infix

/-!
# Contexts under an operation

What each operation makes of a context is said once, by `context_step`: it may change the context's
parents, layers or resolver, and it may put one new context behind the others. Names stay, and a
parent list that holds no context twice goes on holding none twice.
-/

namespace PermissionGraph

namespace Context

variable (ctx : Context) (parent : ContextId)

theorem addParent_snd :
    (ctx.addParent parent).2 = { ctx with parents := Priority.withLast ctx.parents parent } := by
  rw [addParent, Priority.withLast]
  split <;> rfl

theorem addParentFirst_snd :
    (ctx.addParentFirst parent).2 =
      { ctx with parents := Priority.withFirst ctx.parents parent } := by
  rw [addParentFirst, Priority.withFirst]
  split <;> rfl

theorem foldl_removeParent {parents : Priority ContextId} (h : ctx.parents = parents) :
    parents.foldl (fun ctx parent => (ctx.removeParent parent).2) ctx =
      { ctx with parents := [] } := by
  induction parents generalizing ctx with
  | nil =>
    rw [List.foldl_nil, ← h]
  | cons parent parents ih =>
    rw [List.foldl_cons, ih]
    · rfl
    · exact (congrArg (List.erase · parent) h).trans (List.erase_cons_head ..)

/-- All parents go, although they are removed one by one. -/
theorem clearParents_eq : ctx.clearParents = { ctx with parents := [] } :=
  ctx.foldl_removeParent rfl

end Context

namespace Operation

def parentsAfter (e : Engine) (s : ContextId) (parents : Priority ContextId) :
    Operation → Priority ContextId
  | addParent c parent => if c = s then Priority.withLast parents parent else parents
  | addParentFirst c parent => if c = s then Priority.withFirst parents parent else parents
  | attach o c => if c = s then Priority.withLast parents (e.site o).context else parents
  | removeParent c parent => if c = s then parents.erase parent else parents
  | clearParents c => if c = s then [] else parents
  | _ => parents

def layersAfter (s : ContextId) (layers : Priority Layer) : Operation → Priority Layer
  | setLayers (.context c) layers' => if c = s then layers' else layers
  | _ => layers

def resolverAfter (s : ContextId) (resolver : ResolverId) : Operation → ResolverId
  | setResolver c r => if c = s then r else resolver
  | _ => resolver

def contextAfter (e : Engine) (s : ContextId) (op : Operation) (ctx : Context) : Context :=
  { ctx with
    parents := op.parentsAfter e s ctx.parents
    layers := op.layersAfter s ctx.layers
    resolver := op.resolverAfter s ctx.resolver }

/-- The context that an operation puts behind those that are there. -/
def newContext? (e : Engine) : Operation → Option Context
  | addContext name audience => some ⟨name, audience, [], [], e.graph.resolvers.size⟩
  | addSubject name resolver =>
    some ⟨name, .itself, [], [], resolver.getD e.graph.resolvers.size⟩
  | addOverlay _ =>
    let o := e.graph.overlays.size
    some ⟨Engine.overlayName, .whileEnabled o, [], [.configured o, .plugin o],
      e.graph.resolvers.size⟩
  | _ => none

end Operation

namespace Engine

variable {e : Engine} {s c : ContextId} {op : Operation}

theorem context_step_of_map (h : (e.step op).graph.contexts[s]? =
      e.graph.contexts[s]?.map (op.contextAfter e s)) (hnew : op.newContext? e = none) :
    (e.step op).graph.contexts[s]? =
      (e.graph.contexts[s]?.map (op.contextAfter e s)).or
        (if s = e.graph.contexts.size then op.newContext? e else none) := by
  rw [h, hnew, ite_self, Option.or_none]

theorem context_step_of_edit {c : ContextId} {f : Context → Context}
    (h : (e.step op).graph.contexts[s]? =
      e.graph.contexts[s]?.map fun ctx => if c = s then f ctx else ctx)
    (hf : ∀ ctx, op.contextAfter e s ctx = if c = s then f ctx else ctx)
    (hnew : op.newContext? e = none) :
    (e.step op).graph.contexts[s]? =
      (e.graph.contexts[s]?.map (op.contextAfter e s)).or
        (if s = e.graph.contexts.size then op.newContext? e else none) :=
  context_step_of_map (by rw [h, funext hf]) hnew

theorem context_step_of_new {ctx : Context} (hsame : op.contextAfter e s = id)
    (hnew : op.newContext? e = some ctx)
    (hlast : (e.step op).graph.contexts[e.graph.contexts.size]? = some ctx)
    (hother : s ≠ e.graph.contexts.size →
      (e.step op).graph.contexts[s]? = e.graph.contexts[s]?) :
    (e.step op).graph.contexts[s]? =
      (e.graph.contexts[s]?.map (op.contextAfter e s)).or
        (if s = e.graph.contexts.size then op.newContext? e else none) := by
  by_cases hs : s = e.graph.contexts.size
  · subst hs
    rw [hlast, if_pos rfl, hnew, Array.getElem?_eq_none (Nat.le_refl _), Option.map_none,
      Option.none_or]
  · rw [hother hs, if_neg hs, Option.or_none, hsame, Option.map_id, id]

/-- What an operation makes of the contexts. -/
theorem context_step (e : Engine) (op : Operation) (s : ContextId) :
    (e.step op).graph.contexts[s]? =
      (e.graph.contexts[s]?.map (op.contextAfter e s)).or
        (if s = e.graph.contexts.size then op.newContext? e else none) := by
  have hsame : ∀ op : Operation, op.contextAfter e s = id →
      (e.step op).graph.contexts = e.graph.contexts →
        (e.step op).graph.contexts[s]? = e.graph.contexts[s]?.map (op.contextAfter e s) := by
    intro op hid hcontexts
    rw [hcontexts, hid, Option.map_id, id]
  cases op with
  | setLayers owner layers =>
    cases owner with
    | database d => exact context_step_of_map (hsame _ rfl rfl) rfl
    | context c =>
      refine context_step_of_edit (getElem?_modifyContext _) (fun ctx => ?_) rfl
      rw [Operation.contextAfter, Operation.layersAfter]
      split <;> rfl
  | addParent c parent =>
    refine context_step_of_edit (getElem?_editContext _) (fun ctx => ?_) rfl
    rw [Operation.contextAfter, Operation.parentsAfter, Context.addParent_snd]
    split <;> rfl
  | addParentFirst c parent =>
    refine context_step_of_edit (getElem?_editContext _) (fun ctx => ?_) rfl
    rw [Operation.contextAfter, Operation.parentsAfter, Context.addParentFirst_snd]
    split <;> rfl
  | removeParent c parent =>
    refine context_step_of_edit (getElem?_editContext _) (fun ctx => ?_) rfl
    rw [Operation.contextAfter, Operation.parentsAfter]
    split <;> rfl
  | attach o c =>
    refine context_step_of_edit (getElem?_editContext _) (fun ctx => ?_) rfl
    rw [Operation.contextAfter, Operation.parentsAfter, Context.addParent_snd]
    split <;> rfl
  | clearParents c =>
    refine context_step_of_edit (getElem?_modifyContext _) (fun ctx => ?_) rfl
    rw [Operation.contextAfter, Operation.parentsAfter, Context.clearParents_eq]
    split <;> rfl
  | setResolver c r =>
    refine context_step_of_edit (c := c) (f := fun ctx => { ctx with resolver := r }) ?_
      (fun ctx => ?_) rfl
    · rw [step, graph_setResolver]
      exact getElem?_modifyContext _
    · rw [Operation.contextAfter, Operation.resolverAfter]
      split <;> rfl
  | permission s' node =>
    exact context_step_of_map (hsame _ rfl (congrArg Graph.contexts (graph_permission node))) rfl
  | holds s' node =>
    exact context_step_of_map (hsame _ rfl (congrArg Graph.contexts (graph_holds node))) rfl
  | addContext name audience =>
    refine context_step_of_new rfl rfl Array.getElem?_push_size fun hs => ?_
    simp [step, addContext, addResolver, Array.getElem?_push, hs]
  | addSubject name resolver =>
    refine context_step_of_new rfl rfl ?_ fun hs => ?_
    · cases resolver <;>
        simp [step, addSubject, addContext, addResolver, modifyContext, Array.getElem_modify]
    · cases resolver <;>
        simp [step, addSubject, addContext, addResolver, modifyContext, Array.getElem?_push,
          Array.getElem?_modify, hs, Ne.symm hs]
  | addOverlay repository =>
    refine context_step_of_new rfl rfl ?_ fun hs => ?_
    · simp [step, addOverlay, addContext, addResolver, setLayers, modifyContext,
        Array.getElem_modify]
    · simp [step, addOverlay, addContext, addResolver, setLayers, modifyContext,
        Array.getElem?_push, Array.getElem?_modify, hs, Ne.symm hs]
  | _ => exact context_step_of_map (hsame _ rfl rfl) rfl

theorem context_step_of_known (hs : s < e.graph.contexts.size) (op : Operation) :
    (e.step op).graph.contexts[s]? = e.graph.contexts[s]?.map (op.contextAfter e s) := by
  rw [context_step, if_neg (Nat.ne_of_lt hs), Option.or_none]

theorem nameOf_step (hs : s < e.graph.contexts.size) (op : Operation) :
    (e.step op).graph.nameOf s = e.graph.nameOf s := by
  rw [Graph.nameOf, context_step_of_known hs, Graph.nameOf, Array.getElem?_eq_getElem hs]
  rfl

theorem nameOf_run (hs : s < e.graph.contexts.size) (ops : List Operation) :
    (e.run ops).graph.nameOf s = e.graph.nameOf s := by
  have hrun : s < (e.run ops).graph.contexts.size ∧
      (e.run ops).graph.nameOf s = e.graph.nameOf s := by
    apply run_induction (P := fun e' => s < e'.graph.contexts.size ∧
      e'.graph.nameOf s = e.graph.nameOf s)
    · rintro e' op - ⟨hknown, hname⟩
      exact ⟨Nat.lt_of_lt_of_le hknown (size_step e' op), (nameOf_step hknown op).trans hname⟩
    · exact ⟨hs, rfl⟩
  exact hrun.2

@[simp] theorem nameOf_attach (o : OverlayId) (s c : ContextId) :
    (e.attach o s).2.graph.nameOf c = e.graph.nameOf c :=
  Graph.elim_congr (map_editContext fun ctx => ctx.field_addParent _ fun _ _ => rfl) ""

/-- Only a new resolver changes which resolver a context has. -/
theorem resolverOf_step (hs : s < e.graph.contexts.size) (hop : ∀ r, op ≠ .setResolver s r) :
    (e.step op).resolverOf s = e.resolverOf s := by
  have hsame : ∀ r, op.resolverAfter s r = r := by
    intro r
    cases op with
    | setResolver c r' =>
      have hc : c ≠ s := fun hc => hop r' (hc ▸ rfl)
      exact if_neg hc
    | _ => rfl
  rw [resolverOf, context_step_of_known hs, resolverOf, Array.getElem?_eq_getElem hs]
  exact hsame _

theorem parents_step_of_known (hs : s < e.graph.contexts.size) (op : Operation) :
    (e.step op).parents s = op.parentsAfter e s (e.parents s) := by
  rw [parents, context_step_of_known hs, parents, Array.getElem?_eq_getElem hs]
  rfl

theorem parents_step_of_new (hs : e.graph.contexts.size ≤ s) (op : Operation) :
    (e.step op).parents s = [] := by
  rw [parents, context_step, Array.getElem?_eq_none hs, Option.map_none, Option.none_or]
  split
  · cases op <;> rfl
  · rfl

end Engine

namespace Operation

def Unlinks (s parent : ContextId) : Operation → Prop
  | removeParent c p => c = s ∧ p = parent
  | clearParents c => c = s
  | _ => False

variable {e : Engine} {s parent : ContextId} {parents : Priority ContextId} {op : Operation}

/-- What an operation may make of a list of parents. -/
theorem parentsAfter_cases {P : Priority ContextId → Prop} (h : P parents)
    (hlast : ∀ p, P (Priority.withLast parents p))
    (hfirst : ∀ p, P (Priority.withFirst parents p))
    (herase : ∀ p, op.Unlinks s p → P (parents.erase p))
    (hclear : (∀ p, op.Unlinks s p) → P []) : P (op.parentsAfter e s parents) := by
  cases op with
  | addParent c p => exact iteInduction (fun _ => hlast p) fun _ => h
  | addParentFirst c p => exact iteInduction (fun _ => hfirst p) fun _ => h
  | attach o c => exact iteInduction (fun _ => hlast _) fun _ => h
  | removeParent c p => exact iteInduction (fun hc => herase p ⟨hc, rfl⟩) fun _ => h
  | clearParents c => exact iteInduction (fun hc => hclear fun _ => hc) fun _ => h
  | _ => exact h

/-- The context whose parents an operation may change. -/
def linked? : Operation → Option ContextId
  | addParent c _ | addParentFirst c _ | removeParent c _ | clearParents c | attach _ c => some c
  | _ => none

theorem parentsAfter_of_other (h : op.linked? ≠ some s) : op.parentsAfter e s parents = parents := by
  have hother : ∀ c, op.linked? = some c → c ≠ s := fun c hc hcs => h (hc.trans (congrArg some hcs))
  cases op with
  | addParent c p => exact if_neg (hother c rfl)
  | addParentFirst c p => exact if_neg (hother c rfl)
  | removeParent c p => exact if_neg (hother c rfl)
  | clearParents c => exact if_neg (hother c rfl)
  | attach o c => exact if_neg (hother c rfl)
  | _ => rfl

theorem nodup_parentsAfter (h : parents.Nodup) : (op.parentsAfter e s parents).Nodup :=
  parentsAfter_cases h (Priority.nodup_withLast h) (Priority.nodup_withFirst h)
    (fun p _ => h.erase p) fun _ => List.nodup_nil

/-- A parent stays until an operation takes it away. -/
theorem mem_parentsAfter (h : parent ∈ parents) (hop : ¬ op.Unlinks s parent) :
    parent ∈ op.parentsAfter e s parents := by
  refine parentsAfter_cases (P := (parent ∈ ·)) h ?_ ?_ ?_ ?_
  · exact fun p => Priority.mem_withLast.mpr (Or.inl h)
  · exact fun p => Priority.mem_withFirst.mpr (Or.inl h)
  · intro p hp
    have hne : parent ≠ p := fun heq => hop (heq ▸ hp)
    exact (List.mem_erase_of_ne hne).mpr h
  · exact fun hall => absurd (hall parent) hop

end Operation

namespace Engine

variable {e : Engine} {s : ContextId}

/-- No operation puts a context twice among the parents of another. -/
theorem nodup_parents_step (h : ∀ s, (e.parents s).Nodup) (op : Operation) (s : ContextId) :
    ((e.step op).parents s).Nodup := by
  rcases Nat.lt_or_ge s e.graph.contexts.size with hs | hs
  · rw [parents_step_of_known hs]
    exact Operation.nodup_parentsAfter (h s)
  · rw [parents_step_of_new hs]
    exact List.nodup_nil

end Engine

end PermissionGraph
