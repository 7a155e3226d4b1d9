import PermissionGraph.Graph
import PermissionGraph.Proofs.Config
import PermissionGraph.Proofs.Overlay.Call
import PermissionGraph.Proofs.Table.Parsed
import PermissionGraph.Proofs.Table.Record

/-!
# What an overlay holds

The flag and the configured layer say the same as the configuration, after every call and whatever
the storage answers. For the calls that edit the layer in place this rests on two facts: a table
built from parsed entries records one more of them as it would have on being built anew, and to
leave out a node's entries is to leave out its group. The plugins' layer records what was registered
and not removed since.
-/

namespace PermissionGraph

open Text

namespace Table

variable (config : Config) (entry node : String)

theorem replaceAll_addEntry :
    replaceAll (config.addEntry (Rule.parse entry).text).rules =
      ((replaceAll config.rules).insert (Rule.parse entry)).2 := by
  rw [Config.rules_addEntry]
  simp [replaceAll, insert]

theorem replaceAll_rules : replaceAll config.rules = recorded config.rules := by
  have hfold : config.rules.map Rule.foldNode = config.rules := by
    rw [Config.rules, List.map_map]
    exact List.map_congr_left fun entry _ => Rule.foldNode_parse entry
  rw [recorded, ← hfold, List.foldl_map, hfold]
  rfl

theorem rules_removeNode :
    (config.removeNode node).2.rules = config.rules.filter (·.node ≠ node) := by
  rw [Config.rules, Config.rules, List.filter_map]
  rfl

theorem contains_replaceAll :
    (replaceAll config.rules).contains (lower node) = config.rules.any (·.node = lower node) := by
  simp [replaceAll_rules]

theorem removeAll_recorded (rules : List Rule) :
    ((recorded rules).removeAll (lower node)).2 =
      recorded (rules.filter (·.node ≠ lower node)) := by
  simp

theorem replaceAll_removeNode :
    replaceAll (config.removeNode (lower node)).2.rules =
      ((replaceAll config.rules).removeAll (lower node)).2 := by
  rw [replaceAll_rules, replaceAll_rules, rules_removeNode, removeAll_recorded]

/-- The first entry that names a node decides for it. -/
theorem get?_replaceAll_rules :
    (replaceAll config.rules).get? node = config.rules.find? (·.node = node) := by
  rw [replaceAll_rules, get?_recorded]

end Table

namespace Overlay

/-- The flag and the configured layer are those of the configuration. -/
structure Coherent (o : Overlay) : Prop where
  enabled : o.enabled = o.config.enabled
  configured : o.configured = Table.replaceAll o.config.rules

variable {σ : Type} {st : Storage σ} {o : Overlay} {s : σ}

theorem coherent_apply (o : Overlay) (config : Config) : (o.apply config).Coherent := ⟨rfl, rfl⟩

theorem coherent_reload : (o.reload st s).1.Coherent := by
  unfold reload
  split <;> exact coherent_apply _ _

theorem Coherent.setEnabled (h : o.Coherent) (enabled : Bool) :
    (o.setEnabled st enabled s).2.1.Coherent := ⟨rfl, h.configured⟩

theorem Coherent.addConfigured (h : o.Coherent) (entry : String) :
    (o.addConfigured st entry s).2.1.Coherent := by
  refine ⟨h.enabled, ?_⟩
  change (o.configured.insert (Rule.parse entry)).2 =
    Table.replaceAll (o.config.addEntry (Rule.parse entry).text).rules
  rw [h.configured, Table.replaceAll_addEntry]

theorem Coherent.remove (h : o.Coherent) (node : String) :
    (o.remove st node s).2.1.Coherent := by
  rcases remove_cases st o s node with hleft | hleft | hleft
  · rw [hleft]
    exact ⟨h.enabled, h.configured⟩
  · rw [hleft]
    exact h
  · rw [hleft]
    refine ⟨h.enabled, ?_⟩
    change (o.configured.removeAll (lower node)).2 =
      Table.replaceAll (o.config.removeNode (lower node)).2.rules
    rw [h.configured, Table.replaceAll_removeNode]

theorem Coherent.perform (h : o.Coherent) (call : Call) :
    (perform st o s call).2.1.Coherent := by
  cases call with
  | reload => exact coherent_reload
  | save => exact h
  | setEnabled enabled => exact h.setEnabled enabled
  | addConfigured entry => exact h.addConfigured entry
  | addRule r => exact ⟨h.enabled, h.configured⟩
  | remove node => exact h.remove node

theorem Coherent.performAll (h : o.Coherent) (calls : List Call) :
    (performAll st calls (o, s)).1.Coherent := by
  induction calls generalizing o s with
  | nil => exact h
  | cons call calls ih => exact ih (h.perform call)

theorem coherent_create (st : Storage σ) (s : σ) : (create st s).1.Coherent := coherent_reload

theorem Reachable.coherent (h : o.Reachable) : o.Coherent := by
  obtain ⟨σ, st, s, calls, rfl⟩ := h
  exact (coherent_create st s).performAll calls

def keep (rules : List Rule) : Call → List Rule
  | .addRule r => rules ++ [Table.insertForm r]
  | .remove node => rules.filter (·.node ≠ lower node)
  | _ => rules

/-- The registrations that no removal took back, oldest first, as they were recorded. -/
def registered (calls : List Call) : List Rule := calls.foldl keep []

/-- The layers hold the entries of the configuration and these registrations. -/
structure Records (o : Overlay) (rules : List Rule) : Prop where
  configured : o.configured = Table.recorded o.config.rules
  plugin : o.plugin = Table.recorded rules

variable {rules : List Rule}

theorem plugin_remove (h : o.plugin = Table.recorded rules) (node : String) :
    (o.remove st node s).2.1.plugin = Table.recorded (rules.filter (·.node ≠ lower node)) := by
  by_cases hplugin : o.plugin.rulesFor (lower node) = []
  · have hnone : rules.find? (·.node = lower node) = none := by
      rw [← Table.get?_recorded, ← h, Table.get?, hplugin, List.head?_nil]
    have hall : rules.filter (·.node ≠ lower node) = rules := by
      rw [List.filter_eq_self]
      simpa using hnone
    rw [hall, ← h]
    cases hconfigured : o.configured.contains (lower node) with
    | false => rw [remove_of_unknown hplugin hconfigured]
    | true => rw [remove_of_configured hplugin hconfigured]; rfl
  · rw [remove_of_plugin hplugin, withoutPlugin, h, Table.removeAll_recorded]

theorem plugin_perform (h : o.plugin = Table.recorded rules) (call : Call) :
    (perform st o s call).2.1.plugin = Table.recorded (keep rules call) := by
  cases call with
  | reload => exact plugin_reload.trans h
  | save => exact h
  | setEnabled enabled => exact h
  | addConfigured entry => exact h
  | addRule r =>
    rw [keep, ← Table.insert_recorded, ← h]
    rfl
  | remove node => exact plugin_remove h node

theorem plugin_performAll (h : o.plugin = Table.recorded rules) (calls : List Call) :
    (performAll st calls (o, s)).1.plugin = Table.recorded (calls.foldl keep rules) := by
  induction calls generalizing o s rules with
  | nil => exact h
  | cons call calls ih => exact ih (plugin_perform h call)

theorem records_performAll (st : Storage σ) (s : σ) (calls : List Call) :
    (performAll st calls (create st s)).1.Records (registered calls) where
  configured :=
    ((coherent_create st s).performAll calls).configured.trans (Table.replaceAll_rules _)
  plugin := plugin_performAll plugin_reload calls

theorem Reachable.records (h : o.Reachable) : ∃ rules, o.Records rules := by
  obtain ⟨σ, st, s, calls, rfl⟩ := h
  exact ⟨registered calls, records_performAll st s calls⟩

theorem Reachable.filed_plugin (h : o.Reachable) : o.plugin.Filed := by
  obtain ⟨rules, hrecords⟩ := h.records
  rw [hrecords.plugin]
  exact Table.filed_recorded rules

theorem Reachable.filed_configured (h : o.Reachable) : o.configured.Filed := by
  obtain ⟨rules, hrecords⟩ := h.records
  rw [hrecords.configured]
  exact Table.filed_recorded _

/-- A fresh overlay has saved the configuration that it loaded, or has loaded and saved none. -/
theorem create_notes (st : Storage σ) (s : σ) :
    let born := create st.noted (s, [])
    (∃ result, (st.load s).1 = .ok born.1.config ∧ born.2.2 = [(born.1.config, result)]) ∨
      ((∃ f, (st.load s).1 = .error f) ∧ born.1.config = Config.initial ∧ born.2.2 = []) := by
  intro born
  have hborn := reload_noted st initial s []
  cases hload : (st.load s).1 with
  | ok config =>
    obtain ⟨result, -, hnotes⟩ := hborn.of_saves ⟨config, hload⟩
    have hnoted : (st.noted.load (s, [])).1 = .ok config := hload
    have hconfig : born.1.config = config :=
      congrArg (fun state => state.1.config) (reload_of_ok hnoted)
    exact Or.inl ⟨result, by rw [hconfig], hnotes⟩
  | error f =>
    obtain ⟨-, hconfig, hnotes⟩ := hborn.of_not_saves (not_saves_reload hload)
    exact Or.inr ⟨⟨f, rfl⟩, hconfig, hnotes⟩

/-- After every call since its creation an overlay is coherent, and contexts that apply while it is
enabled go by its configuration. A call that comes to a save saves once, namely the configuration
that it leaves, and answers with the result; any other call answers no error, saves nothing and
leaves the configuration alone. So what was saved last is the configuration. -/
theorem coherent_after_calls (st : Storage σ) (s : σ) (calls : List Call) :
    let born := create st.noted (s, [])
    let now := performAll st.noted calls born
    now.1 = (performAll st calls (create st s)).1 ∧
      now.1.enabled = now.1.config.enabled ∧
      (∀ (g : Graph) (id : OverlayId) (c subject : ContextId), g.overlays[id]? = some now.1 →
        g.contexts[c]?.map Context.audience = some (.whileEnabled id) →
        g.applies c subject = now.1.config.enabled) ∧
      now.1.configured = Table.replaceAll now.1.config.rules ∧
      (∀ node, now.1.configured.get? node = now.1.config.rules.find? (·.node = node)) ∧
      ((∃ result, (st.load s).1 = .ok born.1.config ∧ born.2.2 = [(born.1.config, result)]) ∨
        ((∃ f, (st.load s).1 = .error f) ∧ born.1.config = Config.initial ∧ born.2.2 = [])) ∧
      (∀ note ∈ now.2.2.getLast?, note.1 = now.1.config) ∧
      ∀ call, let (answer, next) := perform st.noted now.1 now.2 call
        (answer, next.1, next.2.1) = perform st now.1 now.2.1 call ∧
          (Saves st now.1 now.2.1 call → ∃ result, answer = call.answer result ∧
            next.2.2 = now.2.2 ++ [(next.1.config, result)]) ∧
          (¬ Saves st now.1 now.2.1 call →
            (answer = .nothing ∨ ∃ found, answer = .removed (.ok found)) ∧
              next.1.config = now.1.config ∧ next.2.2 = now.2.2) := by
  intro born now
  have hcoherent : now.1.Coherent := (coherent_create st.noted (s, [])).performAll calls
  have hnow := performAll_create_noted st s calls
  have hlast : LastSaved now := lastSaved_performAll calls (lastSaved_create st s)
  refine ⟨congrArg Prod.fst hnow, hcoherent.enabled, ?_, hcoherent.configured, ?_,
    create_notes st s, hlast, ?_⟩
  · intro g id c subject hid hc
    have hoverlay : g.overlay id = now.1 := by
      rw [Graph.overlay, hid, Option.getD_some]
    simp only [Graph.applies, hc, hoverlay]
    exact hcoherent.enabled
  · intro node
    rw [hcoherent.configured, Table.get?_replaceAll_rules]
  · intro call
    have hcall := perform_noted st now.1 now.2.1 now.2.2 call
    exact ⟨hcall.plain_eq, hcall.of_saves, hcall.of_not_saves⟩

end Overlay

end PermissionGraph
