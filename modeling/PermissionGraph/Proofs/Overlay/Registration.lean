import PermissionGraph.Proofs.Engine.Fresh
import PermissionGraph.Proofs.Overlay.Coherence
import PermissionGraph.Proofs.Table.Bulk

/-!
# Registrations of plugins and their removal

A registration is recorded under the lower-cased node where the node has an upper-case letter, and
as it is spelled elsewhere. A removal always looks under the lower-cased node. The two meet but for
nodes that lower-casing changes although they have no upper-case letter: title-case letters are
such. What is registered for one of those, no removal finds.
-/

namespace PermissionGraph

open Text

namespace Table

variable (t : Table) {r : Rule} {node : String}

theorem rulesFor_insert_ne_nil (hnode : (insertForm r).node = node) :
    (t.insert r).2.rulesFor node ≠ [] := by
  subst hnode
  change Groups.rulesFor _ (Groups.record (insertForm r) t.groups) ≠ []
  rw [Groups.rulesFor_record_self]
  split
  · next hmem => exact List.ne_nil_of_mem hmem
  · exact List.append_ne_nil_of_right_ne_nil _ (List.cons_ne_nil _ _)

theorem mem_rulesFor_insert : insertForm r ∈ (t.insert r).2.rulesFor (insertForm r).node := by
  change insertForm r ∈ Groups.rulesFor _ (Groups.record (insertForm r) t.groups)
  rw [Groups.rulesFor_record_self]
  split
  · next hmem => exact hmem
  · exact List.mem_append_right _ List.mem_cons_self

theorem rulesFor_insert_of_ne (hnode : (insertForm r).node ≠ node) :
    (t.insert r).2.rulesFor node = t.rulesFor node := Groups.rulesFor_record_of_ne t.groups hnode

theorem removeAll_insert_self (hnode : (insertForm r).node = lower node) :
    ((t.insert r).2.removeAll (lower node)).2 = (t.removeAll (lower node)).2 := by
  rw [removeAll_lower, removeAll_lower, ← hnode]
  exact congrArg Table.mk (Groups.filter_record_self t.groups)

theorem removeAll_insert_of_ne (hnode : (insertForm r).node ≠ lower node) :
    ((t.insert r).2.removeAll (lower node)).2 = ((t.removeAll (lower node)).2.insert r).2 := by
  rw [removeAll_lower, removeAll_lower]
  exact congrArg Table.mk (Groups.filter_record_of_ne t.groups hnode)

theorem get?_removeAll (w : String) :
    (t.removeAll (lower node)).2.get? w = if w = lower node then none else t.get? w := by
  by_cases hw : w = lower node
  · simp [hw, get?]
  · rw [if_neg hw, get?, get?, rulesFor_removeAll_of_ne t hw]

end Table

namespace Overlay

variable {σ : Type} {st : Storage σ} {o : Overlay} {s : σ}

variable {r : Rule} {node : String}

/-- A removal that looks where the rule was recorded takes it out, with all that stood there. -/
theorem remove_addRule_self (hnode : (Table.insertForm r).node = lower node) :
    (o.addRule r).remove st node s = (.ok true, o.withoutPlugin node, s) := by
  have hplugin : (o.addRule r).plugin.rulesFor (lower node) ≠ [] :=
    Table.rulesFor_insert_ne_nil o.plugin hnode
  have hleft : (o.addRule r).withoutPlugin node = o.withoutPlugin node :=
    congrArg (fun plugin => { o with plugin }) (Table.removeAll_insert_self o.plugin hnode)
  rw [remove_of_plugin hplugin, hleft]

/-- A removal that looks elsewhere does what it would do without the rule. -/
theorem remove_addRule_of_ne (hnode : (Table.insertForm r).node ≠ lower node) :
    (o.addRule r).remove st node s =
      ((o.remove st node s).1, (o.remove st node s).2.1.addRule r, (o.remove st node s).2.2) := by
  have hrules : (o.addRule r).plugin.rulesFor (lower node) = o.plugin.rulesFor (lower node) :=
    Table.rulesFor_insert_of_ne o.plugin hnode
  by_cases hplugin : o.plugin.rulesFor (lower node) = []
  · have hplugin' := hrules.trans hplugin
    cases hconfigured : o.configured.contains (lower node) with
    | false => rw [remove_of_unknown hplugin hconfigured, remove_of_unknown hplugin' hconfigured]
    | true =>
      rw [remove_of_configured hplugin hconfigured, remove_of_configured hplugin' hconfigured]
      rfl
  · have hplugin' : (o.addRule r).plugin.rulesFor (lower node) ≠ [] := hrules ▸ hplugin
    have hleft : (o.addRule r).withoutPlugin node = (o.withoutPlugin node).addRule r :=
      congrArg (fun plugin => { o with plugin }) (Table.removeAll_insert_of_ne o.plugin hnode)
    rw [remove_of_plugin hplugin, remove_of_plugin hplugin', hleft]

/-- Where a node folds alike on both ways, a removal takes a registration back without a call of the
storage, and subjects are decided without anything that was registered for the node. Where it does
not, a removal in whatever spelling does what it would do without the registration, which stays. -/
theorem remove_registered (o : Overlay) (ho : o.Reachable) (node : String) (b : Bool) :
    (Table.Folds node → ∃ after : Overlay,
      (∀ (σ : Type) (st : Storage σ) (s : σ),
        (o.addRule ⟨node, b⟩).remove st node s = (.ok true, after, s)) ∧
      after.config = o.config ∧ after.enabled = o.enabled ∧ after.configured = o.configured ∧
      (∀ r ∈ after.plugin.rules, r.node ≠ lower node) ∧
      (∀ other, other ≠ lower node → after.plugin.rulesFor other = o.plugin.rulesFor other) ∧
      ∀ (e : Engine) (id : OverlayId), e.graph.overlay id = after → e.OwnContext id →
        ∀ name asked : String,
          ((e.addAttached name id).2.permission (e.addAttached name id).1 asked).1 =
            .ok (if o.enabled then
                Lookup.decide (fun w => (o.configured.get? w).or
                  (if w = lower node then none else o.plugin.get? w)) (lower asked)
              else .undecided)) ∧
    (¬ Table.Folds node → ∀ (σ : Type) (st : Storage σ) (s : σ) (spelling : String),
      (o.addRule ⟨node, b⟩).remove st spelling s =
        ((o.remove st spelling s).1, (o.remove st spelling s).2.1.addRule ⟨node, b⟩,
          (o.remove st spelling s).2.2) ∧
      ⟨node, b⟩ ∈ ((o.addRule ⟨node, b⟩).remove st spelling s).2.1.plugin.rulesFor node) := by
  constructor
  · intro hfolds
    have hform : (Table.insertForm ⟨node, b⟩).node = lower node :=
      congrArg Rule.node (Table.insertForm_of_folds hfolds)
    refine ⟨o.withoutPlugin node, fun _ _ _ => remove_addRule_self hform, rfl, rfl, rfl, ?_, ?_, ?_⟩
    · intro r hr
      have hne := ho.filed_plugin.node_ne_of_removeAll hr
      rwa [lower_lower] at hne
    · intro other hother
      exact Table.rulesFor_removeAll_of_ne o.plugin hother
    · intro e id hid hown name asked
      have hlook : (fun w => ((o.withoutPlugin node).configured.get? w).or
          ((o.withoutPlugin node).plugin.get? w)) =
          fun w => (o.configured.get? w).or
            (if w = lower node then none else o.plugin.get? w) :=
        funext fun w => congrArg (o.configured.get? w).or (Table.get?_removeAll o.plugin w)
      rw [e.permission_addAttached name id hown asked, hid, hlook]
      rfl
  · intro hfolds σ st s spelling
    have hform : Table.insertForm ⟨node, b⟩ = ⟨node, b⟩ := Table.insertForm_of_not_folds hfolds
    have hne : (Table.insertForm ⟨node, b⟩).node ≠ lower spelling := by
      intro hspelling
      rw [hform] at hspelling
      refine hfolds (Or.inr ?_)
      change node = lower spelling at hspelling
      rw [hspelling, lower_lower]
    refine ⟨remove_addRule_of_ne hne, ?_⟩
    rw [remove_addRule_of_ne hne]
    have hmem := Table.mem_rulesFor_insert (o.remove st spelling s).2.1.plugin (r := ⟨node, b⟩)
    rw [hform] at hmem
    exact hmem

def stage : Engine :=
  ((Engine.initial.addRepository (.memory ⟨Config.initial, 0, false, false⟩)).2.addOverlay 0).2

theorem ownContext_stage : stage.OwnContext 0 := Engine.ownContext_addOverlay _ 0 rfl

theorem remove_registered_stage :
    let registered := stage.addOverlayRule 0 ⟨"Build.*", true⟩
    let removal := registered.removeDefault 0 "Build.*"
    let before := registered.addAttached "steve" 0
    let fresh := removal.2.addAttached "alex" 0
    (before.2.permission before.1 "build.place").1 = .ok .allow ∧ removal.1 = .ok true ∧
      (fresh.2.permission fresh.1 "build.place").1 = .ok .undecided := by
  intro registered removal before fresh
  have hreachable : (stage.graph.overlay 0).Reachable :=
    ⟨Store, Store.storage 0, (Engine.initial.addRepository
      (.memory ⟨Config.initial, 0, false, false⟩)).2.store, [], rfl⟩
  have hfolds : Table.Folds "Build.*" := Or.inl (by decide +kernel)
  obtain ⟨after, hremove, -, -, -, -, -, hfresh⟩ :=
    (remove_registered (stage.graph.overlay 0) hreachable "Build.*" true).1 hfolds
  have hremoval := hremove Store (registered.overlayStorage 0) registered.store
  have hanswer : removal.1 = .ok true := congrArg Prod.fst hremoval
  have hafter : removal.2.graph.overlay 0 = after := congrArg (fun result => result.2.1) hremoval
  refine ⟨?_, hanswer, ?_⟩
  · rw [Engine.permission_addAttached registered "steve" 0 ownContext_stage]
    decide +kernel
  · have hown : removal.2.OwnContext 0 := ownContext_stage
    refine (hfresh removal.2 0 hafter hown "alex" "build.place").trans ?_
    decide +kernel

/-- A node whose only letter has title case: the removal finds nothing, and the rule stays. -/
theorem remove_registered_titleCase :
    let removal := (stage.addOverlayRule 0 ⟨"ǅ", true⟩).removeDefault 0 "ǅ"
    removal.1 = .ok false ∧ (removal.2.graph.overlay 0).plugin.rules = [⟨"ǅ", true⟩] := by
  decide +kernel

end Overlay

end PermissionGraph
