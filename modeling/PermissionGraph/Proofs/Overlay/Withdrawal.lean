import PermissionGraph.Proofs.Overlay.Coherence
import PermissionGraph.Proofs.Overlay.Retry

/-!
# What a removal leaves

A removal takes the rules of one node out of one layer: out of the plugins' where that layer names
the node, with no save, and else out of the operators', with the entries of the configuration that
name it and one save. Other nodes keep what they have, and after a second removal neither layer
names the node.
-/

namespace PermissionGraph

open Text

namespace Table

variable {rules : List Rule} {node : String}

theorem rulesFor_recorded_ne_nil :
    (recorded rules).rulesFor node ≠ [] ↔ ∃ r ∈ (recorded rules).rules, r.node = node := by
  rw [Ne, ← List.head?_eq_none_iff, ← Ne, Option.ne_none_iff_isSome]
  change ((recorded rules).get? node).isSome = true ↔ _
  simp

theorem contains_replaceAll_iff (config : Config) :
    (replaceAll config.rules).contains (lower node) = true ↔
      ∃ entry ∈ config.defaults, (Rule.parse entry).node = lower node := by
  rw [contains_replaceAll, Config.rules, List.any_map, List.any_eq_true]
  simp only [Function.comp_apply, decide_eq_true_eq]

end Table

namespace Overlay

variable {σ : Type} {st : Storage σ} {o : Overlay} {s : σ} {node : String}

def PluginNames (o : Overlay) (node : String) : Prop := ∃ r ∈ o.plugin.rules, r.node = node

def ConfigNames (o : Overlay) (node : String) : Prop :=
  ∃ entry ∈ o.config.defaults, (Rule.parse entry).node = node

theorem Reachable.pluginNames_iff (h : o.Reachable) :
    o.PluginNames node ↔ o.plugin.rulesFor node ≠ [] := by
  obtain ⟨rules, hrecords⟩ := h.records
  rw [PluginNames, hrecords.plugin, Table.rulesFor_recorded_ne_nil]

theorem Coherent.configNames_iff (h : o.Coherent) :
    o.ConfigNames (lower node) ↔ o.configured.contains (lower node) = true := by
  rw [h.configured, Table.contains_replaceAll_iff]
  rfl

/-- Where the configuration does not name a node, the configured layer does not either. -/
theorem Coherent.node_ne_of_mem (h : o.Coherent) (hconfig : ¬ o.ConfigNames node) {r : Rule}
    (hr : r ∈ o.configured.rules) : r.node ≠ node := by
  simp only [h.configured, Table.replaceAll_rules, Table.mem_rules_recorded] at hr
  obtain ⟨entry, hentry, rfl⟩ := List.mem_map.mp hr
  intro hnode
  exact hconfig ⟨entry, hentry, hnode⟩

theorem rules_withoutPlugin (h : o.Reachable) :
    (o.withoutPlugin node).plugin.rules = o.plugin.rules.filter (·.node ≠ lower node) := by
  have hrules := h.filed_plugin.rules_removeAll (lower node)
  rwa [lower_lower] at hrules

theorem rules_withoutConfigured (h : o.Reachable) :
    (o.withoutConfigured node).configured.rules =
      o.configured.rules.filter (·.node ≠ lower node) := by
  have hrules := h.filed_configured.rules_removeAll (lower node)
  rwa [lower_lower] at hrules

theorem enabled_remove : (o.remove st node s).2.1.enabled = o.enabled := by
  unfold remove
  simp only
  split
  · rfl
  · split <;> rfl

/-- A removal changes no more than the rules of its node, in either layer. -/
theorem rulesFor_remove {other : String} (h : other ≠ lower node) :
    (o.remove st node s).2.1.plugin.rulesFor other = o.plugin.rulesFor other ∧
      (o.remove st node s).2.1.configured.rulesFor other = o.configured.rulesFor other := by
  by_cases hplugin : o.plugin.rulesFor (lower node) = []
  · cases hconfigured : o.configured.contains (lower node) with
    | false =>
      rw [remove_of_unknown hplugin hconfigured]
      exact ⟨rfl, rfl⟩
    | true =>
      rw [remove_of_configured hplugin hconfigured]
      exact ⟨rfl, Table.rulesFor_removeAll_of_ne o.configured h⟩
  · rw [remove_of_plugin hplugin]
    exact ⟨Table.rulesFor_removeAll_of_ne o.plugin h, rfl⟩

/-- Where plugins have nothing for a node, a removal leaves nothing of it. -/
theorem node_ne_of_mem_remove (h : o.Reachable) (hplugin : ¬ o.PluginNames (lower node)) {r : Rule}
    (hr : r ∈ (o.remove st node s).2.1.configured.rules ++ (o.remove st node s).2.1.plugin.rules) :
    r.node ≠ lower node := by
  have hnone : o.plugin.rulesFor (lower node) = [] := by
    simpa using (not_congr h.pluginNames_iff).mp hplugin
  have hplugged {r : Rule} (hr : r ∈ o.plugin.rules) : r.node ≠ lower node :=
    fun hnode => hplugin ⟨r, hr, hnode⟩
  by_cases hconfig : o.ConfigNames (lower node)
  · rw [remove_of_configured hnone (h.coherent.configNames_iff.mp hconfig), List.mem_append] at hr
    rcases hr with hr | hr
    · rw [rules_withoutConfigured h, List.mem_filter] at hr
      exact of_decide_eq_true hr.2
    · exact hplugged hr
  · have hunknown := (not_congr h.coherent.configNames_iff).mp hconfig
    rw [remove_of_unknown hnone (Bool.eq_false_iff.mpr hunknown), List.mem_append] at hr
    rcases hr with hr | hr
    · exact h.coherent.node_ne_of_mem hconfig hr
    · exact hplugged hr

/-- What a removal leaves of the overlay does not depend on the storage. -/
theorem remove_overlay {τ : Type} (st' : Storage τ) (s' : τ) :
    (o.remove st node s).2.1 = (o.remove st' node s').2.1 := by
  unfold remove
  simp only
  split
  · rfl
  · split <;> rfl

theorem Reachable.remove (h : o.Reachable) : (o.remove st node s).2.1.Reachable := by
  obtain ⟨σ', st', s', calls, rfl⟩ := h
  refine ⟨σ', st', s', calls ++ [.remove node], ?_⟩
  rw [performAll, List.foldl_append]
  exact remove_overlay st s

theorem not_pluginNames_remove (h : o.Reachable) :
    ¬ (o.remove st node s).2.1.PluginNames (lower node) := by
  rintro ⟨r, hr, hnode⟩
  by_cases hplugin : o.PluginNames (lower node)
  · rw [remove_of_plugin (h.pluginNames_iff.mp hplugin), rules_withoutPlugin h,
      List.mem_filter] at hr
    exact of_decide_eq_true hr.2 hnode
  · exact node_ne_of_mem_remove h hplugin (List.mem_append_right _ hr) hnode

/-- With saves that work, a removal goes just one of three ways. Where plugins named the node, their
rules for it go and nothing is saved. Where they did not and the configuration does, the entries
that name it go, whatever they say and however they spell it, and the rest is saved once. Elsewhere
nothing happens. No other node loses anything, and nothing is left of the node after two calls. -/
theorem remove_takes {σ : Type} (st : Storage σ) (o : Overlay) (ho : o.Reachable) (node : String)
    (s : σ) (hsaves : Accepts st s) (notes : Notes) :
    let m := lower node
    let result := o.remove st.noted node (s, notes)
    let after := result.2.1
    let again := (after.remove st.noted node result.2.2).2.1
    (o.PluginNames m → result = (.ok true, { o with plugin := after.plugin }, s, notes) ∧
        after.plugin.rules = o.plugin.rules.filter (·.node ≠ m)) ∧
      (¬ o.PluginNames m → o.ConfigNames m →
        result = (.ok true, { o with config := after.config, configured := after.configured },
            (st.save after.config s).2, notes ++ [(after.config, .ok ())]) ∧
          after.config = { o.config with
            defaults := o.config.defaults.filter fun entry => (Rule.parse entry).node ≠ m } ∧
          after.configured.rules = o.configured.rules.filter (·.node ≠ m)) ∧
      (¬ o.PluginNames m → ¬ o.ConfigNames m → result = (.ok false, o, s, notes)) ∧
      after.enabled = o.enabled ∧
      (∀ other, other ≠ m → after.plugin.rulesFor other = o.plugin.rulesFor other ∧
        after.configured.rulesFor other = o.configured.rulesFor other) ∧
      (¬ o.PluginNames m → ∀ r ∈ after.configured.rules ++ after.plugin.rules, r.node ≠ m) ∧
      ∀ r ∈ again.configured.rules ++ again.plugin.rules, r.node ≠ m := by
  intro m result after again
  have hplugin : ¬ o.PluginNames m → o.plugin.rulesFor m = [] := by
    intro hnone
    simpa using (not_congr ho.pluginNames_iff).mp hnone
  refine ⟨?_, ?_, ?_, enabled_remove, ?_, ?_, ?_⟩
  · intro hnames
    have hresult : result = (.ok true, o.withoutPlugin node, s, notes) :=
      remove_of_plugin (ho.pluginNames_iff.mp hnames)
    have hafter : after = o.withoutPlugin node := congrArg (fun result => result.2.1) hresult
    rw [hafter]
    exact ⟨hresult, rules_withoutPlugin ho⟩
  · intro hnone hnames
    have hsave := hsaves (o.withoutConfigured node).config
    have hresult : result = ((st.save (o.withoutConfigured node).config s).1.map fun _ => true,
        o.withoutConfigured node, (st.save (o.withoutConfigured node).config s).2,
        notes ++ [((o.withoutConfigured node).config,
          (st.save (o.withoutConfigured node).config s).1)]) :=
      remove_of_configured (hplugin hnone) (ho.coherent.configNames_iff.mp hnames)
    rw [hsave] at hresult
    have hafter : after = o.withoutConfigured node := congrArg (fun result => result.2.1) hresult
    rw [hafter]
    exact ⟨hresult, rfl, rules_withoutConfigured ho⟩
  · intro hnone hnames
    exact remove_of_unknown (hplugin hnone)
      (Bool.eq_false_iff.mpr ((not_congr ho.coherent.configNames_iff).mp hnames))
  · intro other hother
    exact rulesFor_remove hother
  · intro hnone r hr
    exact node_ne_of_mem_remove ho hnone hr
  · intro r hr
    exact node_ne_of_mem_remove ho.remove (not_pluginNames_remove ho) hr

/-- A repository in memory with one node in three entries, and an overlay that has it from a plugin
as well. -/
def stuffed : MemoryRepository := ⟨⟨false, ["Fly", "chat", "-fly", "fly"]⟩, 0, false, false⟩

def stuffing : List Call := [.addRule ⟨"FLY", false⟩, .addRule ⟨"walk", true⟩]

theorem remove_takes_fly :
    let start := performAll MemoryRepository.storage stuffing
      (create MemoryRepository.storage stuffed)
    let first := start.1.remove MemoryRepository.storage.noted "fLY" (start.2, [])
    let second := first.2.1.remove MemoryRepository.storage.noted "fLY" first.2.2
    first.2.1.config = start.1.config ∧ first.2.2.2 = [] ∧ second.1 = .ok true ∧
      second.2.1.config.defaults = ["chat"] ∧ second.2.2.2 = [(⟨false, ["chat"]⟩, .ok ())] ∧
      ∀ r ∈ second.2.1.configured.rules ++ second.2.1.plugin.rules, r.node ≠ "fly" := by
  intro start first second
  have hreachable : start.1.Reachable :=
    ⟨MemoryRepository, MemoryRepository.storage, stuffed, stuffing, rfl⟩
  have hnames : start.1.PluginNames (lower "fLY") := by
    unfold PluginNames
    decide +kernel
  have hsecond : second.1 = .ok true ∧ second.2.1.config.defaults = ["chat"] ∧
      second.2.2.2 = [(⟨false, ["chat"]⟩, .ok ())] := by decide +kernel
  have hm : lower "fLY" = "fly" := by decide +kernel
  have haccepts : Accepts MemoryRepository.storage start.2 := fun _ => rfl
  -- the rest is about any overlay with these properties, and must not be evaluated
  clear_value start
  obtain ⟨hplugin, -, -, -, -, -, hgone⟩ :=
    remove_takes MemoryRepository.storage start.1 hreachable "fLY" start.2 haccepts []
  have hfirst : first = (.ok true, { start.1 with plugin := first.2.1.plugin }, start.2, []) :=
    (hplugin hnames).1
  rw [hm] at hgone
  refine ⟨?_, ?_, hsecond.1, hsecond.2.1, hsecond.2.2, hgone⟩
  · rw [hfirst]
  · rw [hfirst]

end Overlay

end PermissionGraph
