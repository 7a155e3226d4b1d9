import PermissionGraph.Proofs.Engine.Contexts
import PermissionGraph.Proofs.Engine.Current

/-!
# Lists of parents

A call on the parents of a context answers whether it changed them, and leaves the parents of all
other contexts alone. A list is cleared by one removal for each of its entries, which finds its entry
at the head of what is left.
-/

namespace PermissionGraph

namespace Context

variable (ctx : Context) (parent : ContextId)

theorem addParent_fst : (ctx.addParent parent).1 = true ↔ parent ∉ ctx.parents := by
  by_cases h : parent ∈ ctx.parents
  · rw [addParent_of_mem ctx h]
    exact iff_of_false Bool.false_ne_true fun hnot => hnot h
  · rw [addParent_of_not_mem ctx h]
    exact iff_of_true rfl h

theorem addParentFirst_fst : (ctx.addParentFirst parent).1 = (ctx.addParent parent).1 := by
  unfold addParentFirst addParent
  split <;> rfl

theorem removeParent_fst : (ctx.removeParent parent).1 = true ↔ parent ∈ ctx.parents :=
  decide_eq_true_iff

end Context

theorem Operation.linked?_of_asks {op : Operation} (h : op.Asks) : op.linked? = none := by
  cases op <;> first | rfl | cases h

namespace Engine

variable {e : Engine} {s parent : ContextId}

theorem parents_step_of_other {op : Operation} (h : op.linked? ≠ some s) :
    (e.step op).parents s = e.parents s := by
  rcases Nat.lt_or_ge s e.graph.contexts.size with hs | hs
  · rw [parents_step_of_known hs, Operation.parentsAfter_of_other h]
  · rw [parents_step_of_new hs, parents, Array.getElem?_eq_none hs]
    rfl

theorem parents_run_of_other {ops : List Operation} (h : ∀ op ∈ ops, op.linked? ≠ some s) :
    (e.run ops).parents s = e.parents s :=
  run_induction (P := fun e' => e'.parents s = e.parents s)
    (fun _ op hop hkept => (parents_step_of_other (h op hop)).trans hkept) rfl

theorem lt_of_mem_parents (h : parent ∈ e.parents s) : s < e.graph.contexts.size := by
  apply Nat.lt_of_not_le
  intro hs
  rw [parents, Array.getElem?_eq_none hs] at h
  cases h

section

variable (hs : s < e.graph.contexts.size)

include hs

theorem parents_eq : e.parents s = e.graph.contexts[s].parents := by
  rw [parents, Array.getElem?_eq_getElem hs]
  rfl

theorem editContext_fst (edit : Context → Bool × Context) :
    (e.editContext s edit).1 = (edit e.graph.contexts[s]).1 := by
  rw [editContext, Array.getElem?_eq_getElem hs]

theorem addParent_fst : (e.addParent s parent).1 = true ↔ parent ∉ e.parents s := by
  rw [addParent, editContext_fst hs, Context.addParent_fst, parents_eq hs]

theorem addParentFirst_fst : (e.addParentFirst s parent).1 = true ↔ parent ∉ e.parents s := by
  rw [addParentFirst, editContext_fst hs, Context.addParentFirst_fst, Context.addParent_fst,
    parents_eq hs]

theorem removeParent_fst : (e.removeParent s parent).1 = true ↔ parent ∈ e.parents s := by
  rw [removeParent, editContext_fst hs, Context.removeParent_fst, parents_eq hs]

theorem parents_addParent :
    (e.addParent s parent).2.parents s = Priority.withLast (e.parents s) parent :=
  (parents_step_of_known hs (.addParent s parent)).trans (if_pos rfl)

theorem mem_parents_attach (o : OverlayId) :
    (e.site o).context ∈ (e.attach o s).2.parents s := by
  rw [attach, parents_addParent hs]
  exact Priority.mem_withLast.mpr (Or.inr rfl)

theorem parents_addParentFirst :
    (e.addParentFirst s parent).2.parents s = Priority.withFirst (e.parents s) parent :=
  (parents_step_of_known hs (.addParentFirst s parent)).trans (if_pos rfl)

theorem parents_removeParent :
    (e.removeParent s parent).2.parents s = (e.parents s).erase parent :=
  (parents_step_of_known hs (.removeParent s parent)).trans (if_pos rfl)

/-- A parent that is taken out is gone, as it was there once. -/
theorem parents_removeParent_of_nodup (h : (e.parents s).Nodup) :
    (e.removeParent s parent).2.parents s = (e.parents s).filter (· ≠ parent) := by
  rw [parents_removeParent hs, h.erase_eq_filter]
  apply List.filter_congr
  intro p _
  by_cases hp : p = parent <;> simp [hp]

end

/-- Removals in the order of the list take away its front. -/
theorem parents_foldl_removeParent {before after : Priority ContextId}
    (h : e.parents s = before ++ after) :
    (before.foldl (fun e parent => (e.removeParent s parent).2) e).parents s = after := by
  induction before generalizing e with
  | nil => exact h
  | cons parent before ih =>
    have hmem : parent ∈ e.parents s := h.symm ▸ List.mem_cons_self
    apply ih
    rw [parents_removeParent (lt_of_mem_parents hmem), h]
    exact List.erase_cons_head ..

theorem clearParents_removeParent :
    (e.removeParent s parent).2.clearParents s = e.clearParents s := by
  unfold removeParent editContext
  cases e.graph.contexts[s]? with
  | none => rfl
  | some ctx =>
    apply modifyContext_modifyContext
    intro ctx
    rw [Context.clearParents_eq, Context.clearParents_eq]
    rfl

theorem clearParents_of_no_parents (h : e.parents s = []) : e.clearParents s = e := by
  apply modifyContext_eq_self
  intro ctx hctx
  rw [parents, hctx, Option.elim_some] at h
  rw [Context.clearParents_eq, ← h]

/-- To clear the list is to remove each of its entries. -/
theorem clearParents_eq_foldl (e : Engine) (s : ContextId) :
    e.clearParents s =
      (e.parents s).foldl (fun e parent => (e.removeParent s parent).2) e := by
  generalize h : e.parents s = parents
  induction parents generalizing e with
  | nil => exact clearParents_of_no_parents h
  | cons parent parents ih =>
    have hsplit : e.parents s = [parent] ++ parents := h
    have hrest : (e.removeParent s parent).2.parents s = parents :=
      parents_foldl_removeParent hsplit
    rw [List.foldl_cons, ← ih _ hrest, clearParents_removeParent]

theorem parents_clearParents : (e.clearParents s).parents s = [] := by
  rw [clearParents_eq_foldl]
  exact parents_foldl_removeParent (List.append_nil _).symm

end Engine

end PermissionGraph
