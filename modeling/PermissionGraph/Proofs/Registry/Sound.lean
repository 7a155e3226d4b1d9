import PermissionGraph.Proofs.Engine.Parents
import PermissionGraph.Proofs.Registry.Call

/-!
# What the calls of a registry keep

The subjects of a registry stand in the order of their names, each under its own. A subject that was
taken in inherits from the overlay until somebody takes the overlay away from it, and current answers
stay so under questions.
-/

namespace PermissionGraph.RegistryState

variable {t : RegistryState} {call : RegistryCall} {s : ContextId} {name : String}

theorem size_step (t : RegistryState) (call : RegistryCall) :
    t.engine.graph.contexts.size ≤ (t.step call).engine.graph.contexts.size :=
  t.step_induction call (P := fun e => t.engine.graph.contexts.size ≤ e.graph.contexts.size)
    (fun e op _ _ h => Nat.le_trans h (e.size_step op)) (Nat.le_refl _)

theorem nameOf_step (hs : s < t.engine.graph.contexts.size) (call : RegistryCall) :
    (t.step call).engine.graph.nameOf s = t.engine.graph.nameOf s := by
  have hkept := t.step_induction call
    (P := fun e => s < e.graph.contexts.size ∧ e.graph.nameOf s = t.engine.graph.nameOf s)
    (fun e op _ _ h => ⟨Nat.lt_of_lt_of_le h.1 (e.size_step op),
      (Engine.nameOf_step h.1 op).trans h.2⟩) ⟨hs, rfl⟩
  exact hkept.2

/-- No call puts a context twice among the parents of another. -/
theorem nodup_parents_step (h : ∀ s, (t.engine.parents s).Nodup) (call : RegistryCall) :
    ∀ s, ((t.step call).engine.parents s).Nodup :=
  t.step_induction call (P := fun e => ∀ s, (e.parents s).Nodup)
    (fun _ op _ _ h => Engine.nodup_parents_step h op) h

/-- A subject that a call takes in is one that is there. -/
def Admissible (t : RegistryState) (call : RegistryCall) : Prop :=
  ∀ s, call = .enrol s → s < t.engine.graph.contexts.size

theorem of_enrol (hs : s < t.engine.graph.contexts.size) :
    s < (t.step (.enrol s)).engine.graph.contexts.size ∧
      (t.step (.enrol s)).engine.graph.nameOf s = t.engine.graph.nameOf s ∧
      t.defaults ∈ (t.step (.enrol s)).engine.parents s :=
  ⟨Nat.lt_of_lt_of_le hs (t.size_step _), nameOf_step hs _, Engine.mem_parents_attach hs _⟩

/-- A subject that was taken in stands under its own name and inherits from the overlay. -/
theorem of_admission (hcall : t.Admissible call) (h : t.admission? call = some (name, s)) :
    s < (t.step call).engine.graph.contexts.size ∧
      (t.step call).engine.graph.nameOf s = name ∧
      t.defaults ∈ (t.step call).engine.parents s := by
  cases call with
  | enrolNew name' =>
    obtain ⟨rfl, rfl⟩ := Prod.mk.inj (Option.some.inj h)
    -- The new subject is there when it is taken in.
    have hthere := (Array.getElem?_eq_some_iff.mp (Engine.context_addSubject t.engine name')).1
    have hadmitted := of_enrol (t := ⟨t.registry, (t.engine.addSubject name' none).2⟩) hthere
    rw [Engine.nameOf_addSubject] at hadmitted
    exact hadmitted
  | enrol s' =>
    obtain ⟨rfl, rfl⟩ := Prod.mk.inj (Option.some.inj h)
    exact of_enrol (hcall s' rfl)
  | _ => cases h

/-- The subjects stand in the order of their names, each under its own, the overlay that they
inherit from is there, and no context is twice among the parents of another. -/
structure Sound (t : RegistryState) : Prop where
  ascending : t.registry.subjects.Ascending
  named : ∀ entry ∈ t.registry.subjects,
    entry.2 < t.engine.graph.contexts.size ∧ t.engine.graph.nameOf entry.2 = entry.1
  bound : t.registry.overlay < t.engine.sites.size
  parents : ∀ s, (t.engine.parents s).Nodup

namespace Sound

theorem bound_step (h : t.Sound) (call : RegistryCall) :
    t.registry.overlay < (t.step call).engine.sites.size ∧
      (t.step call).engine.site t.registry.overlay = t.engine.site t.registry.overlay :=
  t.step_induction call
    (P := fun e => t.registry.overlay < e.sites.size ∧
      e.site t.registry.overlay = t.engine.site t.registry.overlay)
    (fun e op _ _ h => ⟨Nat.lt_of_lt_of_le h.1 (e.sites_size_step op),
      (Engine.site_step h.1 op).trans h.2⟩) ⟨h.bound, rfl⟩

theorem defaults_step (h : t.Sound) (call : RegistryCall) : (t.step call).defaults = t.defaults := by
  rw [defaults, overlay_step, (h.bound_step call).2, defaults]

/-- An entry that stays is as good as it was. -/
theorem named_step (h : t.Sound) (call : RegistryCall) {entry : String × ContextId}
    (hentry : entry ∈ t.registry.subjects) :
    entry.2 < (t.step call).engine.graph.contexts.size ∧
      (t.step call).engine.graph.nameOf entry.2 = entry.1 := by
  obtain ⟨hs, hname⟩ := h.named entry hentry
  exact ⟨Nat.lt_of_lt_of_le hs (t.size_step call), (nameOf_step hs call).trans hname⟩

theorem step (h : t.Sound) (hcall : t.Admissible call) : (t.step call).Sound := by
  have hbound : (t.step call).registry.overlay < (t.step call).engine.sites.size := by
    rw [overlay_step]
    exact (h.bound_step call).1
  have hfiled : (t.step call).registry.subjects.Ascending ∧
      ∀ entry ∈ (t.step call).registry.subjects,
        entry.2 < (t.step call).engine.graph.contexts.size ∧
          (t.step call).engine.graph.nameOf entry.2 = entry.1 := by
    rcases t.subjects_step call with
      ⟨name, s, hadmission, hsubjects⟩ | ⟨name, -, hsubjects⟩ | hsubjects
    · obtain ⟨hs, hname, -⟩ := of_admission hcall hadmission
      rw [hsubjects]
      refine ⟨h.ascending.assignOrdered name s, fun entry hentry => ?_⟩
      rcases Keyed.mem_assignOrdered hentry with rfl | hentry
      · exact ⟨hs, hname⟩
      · exact h.named_step call hentry
    · rw [hsubjects]
      exact ⟨h.ascending.remove name, fun entry hentry =>
        h.named_step call (List.mem_filter.mp hentry).1⟩
    · rw [hsubjects]
      exact ⟨h.ascending, fun entry => h.named_step call⟩
  exact ⟨hfiled.1, hfiled.2, hbound, nodup_parents_step h.parents call⟩

end Sound

/-- A subject inherits from the overlay until a call takes the overlay away from it. -/
theorem mem_parents_step {parent : ContextId} (hs : s < t.engine.graph.contexts.size)
    (hparent : parent ∈ t.engine.parents s) (hcall : ¬ call.Unlinks s parent) :
    parent ∈ (t.step call).engine.parents s := by
  have hkept := t.step_induction call
    (P := fun e => s < e.graph.contexts.size ∧ parent ∈ e.parents s) ?_ ⟨hs, hparent⟩
  · exact hkept.2
  · intro e op hunlinks _ h
    refine ⟨Nat.lt_of_lt_of_le h.1 (e.size_step op), ?_⟩
    rw [Engine.parents_step_of_known h.1]
    exact Operation.mem_parentsAfter h.2 fun hop => hcall (hunlinks s parent hop)

theorem subjects_step_of_asks (h : call.Asks) :
    (t.step call).registry.subjects = t.registry.subjects := by
  cases call <;> first | rfl | cases h

theorem current_step_of_asks (hs : t.engine.Current s) (h : call.Asks) :
    (t.step call).engine.Current s :=
  t.step_induction call (P := fun e => e.Current s)
    (fun _ _ _ hasks hs => hs.step_of_asks (hasks h)) hs

end PermissionGraph.RegistryState
