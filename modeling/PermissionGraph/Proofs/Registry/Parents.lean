import PermissionGraph.Proofs.Registry.Sound

/-!
# Parents over time

Any number of registries work on one engine, next to calls on the engine itself. Whatever they did,
no list of parents holds a context twice, and what the next call answers and changes follows from
the list that it finds.
-/

namespace PermissionGraph

def RegistryCall.linked? (e : Engine) : RegistryCall → Option ContextId
  | enrolNew _ => some e.graph.contexts.size
  | enrol s => some s
  | engine op => op.linked?
  | _ => none

namespace RegistryState

variable {t : RegistryState} {call : RegistryCall} {s : ContextId}

/-- A call leaves the parents of all other contexts alone. -/
theorem parents_step_of_other (h : call.linked? t.engine ≠ some s) :
    (t.step call).engine.parents s = t.engine.parents s := by
  cases call with
  | enrolNew name =>
    -- The subject is added without parents, and then attached.
    let added := t.engine.step (.addSubject name none)
    let attach : Operation := .attach t.registry.overlay t.engine.graph.contexts.size
    have hadded : added.parents s = t.engine.parents s := Engine.parents_step_of_other nofun
    have hattach : attach.linked? ≠ some s := h
    exact (Engine.parents_step_of_other hattach).trans hadded
  | enrol s' =>
    have hattach : (Operation.attach t.registry.overlay s').linked? ≠ some s := h
    exact Engine.parents_step_of_other hattach
  | remove name => rfl
  | invalidateAll =>
    rw [step, t.registry.invalidateAll_eq_run]
    apply Engine.parents_run_of_other
    intro op hop
    obtain ⟨entry, -, rfl⟩ := List.mem_map.mp hop
    exact nofun
  | subjectsWithNode node =>
    obtain ⟨asked, hasked, hasks⟩ := Registry.holders_snd node t.listed t.engine
    rw [step, Registry.subjectsWithNode, ← listed, hasked]
    apply Engine.parents_run_of_other
    intro op hop
    rw [Operation.linked?_of_asks (hasks op hop)]
    exact nofun
  | engine op => exact Engine.parents_step_of_other h

end RegistryState

namespace Engine

variable {e : Engine}

/-- The engine after calls of registries, each with the registry as it stands at its call. -/
def serve (e : Engine) (calls : List (Registry × RegistryCall)) : Engine :=
  calls.foldl (fun e call => (RegistryState.mk call.1 e |>.step call.2).engine) e

theorem nodup_parents_serve (h : ∀ s, (e.parents s).Nodup)
    (calls : List (Registry × RegistryCall)) : ∀ s, ((e.serve calls).parents s).Nodup := by
  induction calls generalizing e with
  | nil => exact h
  | cons call calls ih => exact ih (RegistryState.nodup_parents_step (t := ⟨call.1, e⟩) h call.2)

/-- After any calls no list of parents holds a context twice. A parent is added just where it is new,
last or first of all, and is taken out just where it is there; an overlay that is attached, by a
registry or not, is a parent that is added last. A list is cleared by removing its entries in their
order, and no call changes the parents of another context. -/
theorem parents_after_calls (calls : List (Registry × RegistryCall)) :
    let e := initial.serve calls
    (∀ s, (e.parents s).Nodup) ∧
      (∀ s parent, s < e.graph.contexts.size →
        ((e.addParent s parent).1 = true ↔ parent ∉ e.parents s) ∧
        ((e.addParentFirst s parent).1 = true ↔ parent ∉ e.parents s) ∧
        ((e.removeParent s parent).1 = true ↔ parent ∈ e.parents s) ∧
        (e.addParent s parent).2.parents s =
          (if parent ∈ e.parents s then e.parents s else e.parents s ++ [parent]) ∧
        (e.addParentFirst s parent).2.parents s =
          (if parent ∈ e.parents s then e.parents s else parent :: e.parents s) ∧
        (e.removeParent s parent).2.parents s = (e.parents s).filter (· ≠ parent)) ∧
      (∀ o s, s < e.graph.contexts.size →
        let parent := (e.site o).context
        ((e.attach o s).1 = true ↔ parent ∉ e.parents s) ∧
        (e.attach o s).2.parents s =
          (if parent ∈ e.parents s then e.parents s else e.parents s ++ [parent])) ∧
      (∀ (r : Registry) s, (r.enrol s e).2 = (e.attach r.overlay s).2) ∧
      (∀ s, e.clearParents s =
          (e.parents s).foldl (fun e parent => (e.removeParent s parent).2) e ∧
        (∀ before after, e.parents s = before ++ after →
          (before.foldl (fun e parent => (e.removeParent s parent).2) e).parents s = after) ∧
        (e.clearParents s).parents s = []) ∧
      ∀ r (call : RegistryCall) s, call.linked? e ≠ some s →
        (RegistryState.mk r e |>.step call).engine.parents s = e.parents s := by
  intro e
  have hinitial : ∀ s, (initial.parents s).Nodup := fun _ => List.nodup_nil
  have hnodup : ∀ s, (e.parents s).Nodup := nodup_parents_serve hinitial calls
  refine ⟨hnodup, fun s parent hs => ?_, fun o s hs => ?_, fun r s => rfl, fun s => ?_,
    fun r call s hcall => ?_⟩
  · exact ⟨addParent_fst hs, addParentFirst_fst hs, removeParent_fst hs, parents_addParent hs,
      parents_addParentFirst hs, parents_removeParent_of_nodup hs (hnodup s)⟩
  · exact ⟨addParent_fst hs, parents_addParent hs⟩
  · exact ⟨clearParents_eq_foldl e s, fun before after => parents_foldl_removeParent,
      parents_clearParents⟩
  · exact RegistryState.parents_step_of_other (t := ⟨r, e⟩) hcall

/-- Two registries take in the same subject, one of them again while its overlay is a parent and once
more after it was removed. In between the subject becomes its own parent, ahead of both overlays. -/
def rivalry : List (Registry × RegistryCall) :=
  let first : Registry := ⟨0, [("alice", 3)]⟩
  let second : Registry := .empty 1
  [(first, .engine (.addRepository (.memory ⟨Config.initial, 0, false, false⟩))),
    (first, .engine (.addOverlay 0)), (second, .engine (.addOverlay 0)),
    (first, .engine (.addContext "group" .everyone)), (.empty 0, .enrolNew "alice"),
    (second, .enrol 3), (first, .enrol 3), (first, .engine (.addParentFirst 3 3)),
    (first, .engine (.removeParent 3 0)), (first, .enrol 3)]

theorem parents_after_rivalry :
    let e := initial.serve rivalry
    let group : RegistryCall := .engine (.clearParents 2)
    3 < e.graph.contexts.size ∧ group.linked? e ≠ some 3 ∧ e.parents 3 = [3, 1, 0] ∧
      (e.addParent 3 0).1 ≠ true ∧ (e.attach 1 3).2.parents 3 = [3, 1, 0] ∧
      (e.addParentFirst 3 2).2.parents 3 = [2, 3, 1, 0] ∧
      (e.removeParent 3 1).1 = true ∧ (e.removeParent 3 1).2.parents 3 = [3, 0] ∧
      (e.clearParents 3).parents 3 = [] ∧
      (RegistryState.mk (.empty 0) e |>.step group).engine.parents 3 = [3, 1, 0] := by
  intro e group
  have hs : 3 < e.graph.contexts.size := by decide +kernel
  have hgroup : group.linked? e ≠ some 3 := by decide
  have hparents : e.parents 3 = [3, 1, 0] := by decide +kernel
  have hsite : (e.site 1).context = 1 := by decide +kernel
  obtain ⟨-, hcalls, hattach, -, hclear, hother⟩ := parents_after_calls rivalry
  obtain ⟨hadd, -, -, -, -, -⟩ := hcalls 3 0 hs
  obtain ⟨-, -, -, -, hfirst, -⟩ := hcalls 3 2 hs
  obtain ⟨-, -, hremove, -, -, hleft⟩ := hcalls 3 1 hs
  obtain ⟨-, hattached⟩ := hattach 1 3 hs
  rw [hparents] at hadd hfirst hremove hleft hattached
  refine ⟨hs, hgroup, hparents, mt hadd.mp (by decide), ?_, hfirst, hremove.mpr (by decide), hleft,
    (hclear 3).2.2, (hother _ _ 3 hgroup).trans hparents⟩
  rw [hsite] at hattached
  exact hattached

end Engine

end PermissionGraph
