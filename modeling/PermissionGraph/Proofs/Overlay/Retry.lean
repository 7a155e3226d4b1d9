import PermissionGraph.Proofs.Config
import PermissionGraph.Proofs.Overlay.Coherence
import PermissionGraph.Repository

/-!
# Making a change again after a failed save

A change of the configuration edits the overlay and then saves. Where the save fails the edit stays,
so that the same change made again meets an overlay that has it already. Setting the flag and
adding an entry save again all the same. A removal finds nothing left to remove and saves nothing:
the storage keeps the entries, and the answer is that there were none.
-/

namespace PermissionGraph

open Text

/-- A storage keeps the configuration that was saved last: a save that fails leaves it alone. -/
structure Storage.Keeps {σ : Type} (st : Storage σ) (stored : σ → Config) : Prop where
  saved : ∀ config s, (st.save config s).1 = .ok () → stored (st.save config s).2 = config
  failed : ∀ config s f, (st.save config s).1 = .error f → stored (st.save config s).2 = stored s

namespace MemoryRepository

def storage : Storage MemoryRepository where
  load m := (m.load, m)
  save config m := m.save config

theorem keeps_storage : storage.Keeps config where
  saved := by
    intro c m hsave
    change (m.save c).1 = .ok () at hsave
    change (m.save c).2.config = c
    unfold save at hsave ⊢
    split
    · next hrefuses => rw [if_pos hrefuses] at hsave; cases hsave
    · rfl
  failed := by
    intro c m f hsave
    change (m.save c).1 = .error f at hsave
    change (m.save c).2.config = m.config
    unfold save at hsave ⊢
    split
    · rfl
    · next hrefuses => rw [if_neg hrefuses] at hsave; cases hsave

end MemoryRepository

theorem Config.mem_rules_addEntry {config : Config} {entry : String} {r : Rule} :
    r ∈ (config.addEntry (Rule.parse entry).text).rules ↔
      r ∈ config.rules ∨ r = Rule.parse entry := by
  rw [rules_addEntry, List.mem_append, List.mem_singleton]

theorem Table.insert_insert (t : Table) (r : Rule) :
    ((t.insert r).2.insert r).2 = (t.insert r).2 :=
  congrArg Table.mk (Groups.record_record t.groups)

namespace Overlay

inductive Change
  | setEnabled (enabled : Bool)
  | addConfigured (entry : String)
  | remove (node : String)

section

variable {σ : Type} (st : Storage σ) (stored : σ → Config)

/-- Makes a change. Whether a removal found anything is not told. -/
def make (o : Overlay) (s : σ) : Change → Except Failure Unit × Overlay × σ
  | .setEnabled enabled => o.setEnabled st enabled s
  | .addConfigured entry => o.addConfigured st entry s
  | .remove node => ((o.remove st node s).1.map fun _ => (), (o.remove st node s).2)

def Accepts (s : σ) : Prop := ∀ config, (st.save config s).1 = .ok ()

/-- Two outcomes decide alike, and what they stored has the same flag. -/
structure SameEffect (a b : Overlay × σ) : Prop where
  enabled : a.1.enabled = b.1.enabled
  configured : a.1.configured = b.1.configured
  plugin : a.1.plugin = b.1.plugin
  storedFlag : (stored a.2).enabled = (stored b.2).enabled

def SameRules (a b : σ) : Prop := ∀ r, r ∈ (stored a).rules ↔ r ∈ (stored b).rules

end

variable {σ : Type} {st : Storage σ} {stored : σ → Config} {o : Overlay} {s r t : σ}

theorem retry_setEnabled (hkeeps : st.Keeps stored) (enabled : Bool) (hr : Accepts st r)
    (ht : Accepts st t) :
    let retried := (o.make st s (.setEnabled enabled)).2.1.make st r (.setEnabled enabled)
    let once := o.make st t (.setEnabled enabled)
    SameEffect stored retried.2 once.2 ∧ SameRules stored retried.2.2 once.2.2 := by
  intro retried once
  have hretried : stored retried.2.2 = { o.config with enabled } := hkeeps.saved _ r (hr _)
  have honce : stored once.2.2 = { o.config with enabled } := hkeeps.saved _ t (ht _)
  refine ⟨⟨rfl, rfl, rfl, ?_⟩, ?_⟩
  · rw [hretried, honce]
  · intro rule
    rw [hretried, honce]

theorem retry_addConfigured (hkeeps : st.Keeps stored) (entry : String) (hr : Accepts st r)
    (ht : Accepts st t) :
    let retried := (o.make st s (.addConfigured entry)).2.1.make st r (.addConfigured entry)
    let once := o.make st t (.addConfigured entry)
    SameEffect stored retried.2 once.2 ∧ SameRules stored retried.2.2 once.2.2 := by
  intro retried once
  have honce : stored once.2.2 = o.config.addEntry (Rule.parse entry).text :=
    hkeeps.saved _ t (ht _)
  have hretried : stored retried.2.2 =
      (o.config.addEntry (Rule.parse entry).text).addEntry (Rule.parse entry).text :=
    hkeeps.saved _ r (hr _)
  refine ⟨⟨rfl, Table.insert_insert _ _, rfl, ?_⟩, ?_⟩
  · rw [hretried, honce]
    rfl
  · -- the entry stands twice in what the retry stored, and once in the other
    intro rule
    rw [hretried, honce, Config.mem_rules_addEntry, Config.mem_rules_addEntry, or_assoc, or_self]

/-- A removal that fails to save had entries to remove, and the overlay has lost them. -/
theorem make_remove_of_error {node : String} {f : Failure}
    (h : (o.make st s (.remove node)).1 = .error f) :
    o.plugin.rulesFor (lower node) = [] ∧ o.configured.contains (lower node) = true ∧
      (o.make st s (.remove node)).2 =
        (o.withoutConfigured node, (st.save (o.withoutConfigured node).config s).2) ∧
      (st.save (o.withoutConfigured node).config s).1 = .error f := by
  rw [make] at h ⊢
  by_cases hplugin : o.plugin.rulesFor (lower node) = []
  · cases hconfigured : o.configured.contains (lower node) with
    | false =>
      rw [remove_of_unknown hplugin hconfigured] at h
      cases h
    | true =>
      rw [remove_of_configured hplugin hconfigured] at h ⊢
      refine ⟨hplugin, rfl, rfl, ?_⟩
      cases hsave : (st.save (o.withoutConfigured node).config s).1 with
      | ok u => rw [hsave] at h; cases h
      | error g =>
        rw [hsave] at h
        obtain rfl : g = f := Except.error.inj h
        rfl
  · rw [remove_of_plugin hplugin] at h
    cases h

/-- Once the entries are gone, the same removal finds nothing and saves nothing. -/
theorem remove_withoutConfigured {node : String} (h : o.plugin.rulesFor (lower node) = []) :
    (o.withoutConfigured node).remove st node r = (.ok false, o.withoutConfigured node, r) :=
  remove_of_unknown h (Table.contains_removeAll o.configured node)

theorem retry_remove (hkeeps : st.Keeps stored) (ho : o.Coherent) (hs : stored s = o.config)
    {node : String} {f : Failure} (hfailed : (o.make st s (.remove node)).1 = .error f)
    (hr : stored r = stored (o.make st s (.remove node)).2.2) (ht : Accepts st t) :
    let retried := (o.make st s (.remove node)).2.1.remove st node r
    let once := o.make st t (.remove node)
    once.1 = .ok () ∧ SameEffect stored retried.2 once.2 ∧
      retried.1 = .ok false ∧ retried.2.2 = r ∧ stored r = o.config ∧
      ∃ rule ∈ (stored r).rules, rule.node = lower node ∧ rule ∉ (stored once.2.2).rules := by
  intro retried once
  obtain ⟨hplugin, hconfigured, hleft, hsave⟩ := make_remove_of_error hfailed
  have hretried : retried = (.ok false, o.withoutConfigured node, r) := by
    change (o.make st s (.remove node)).2.1.remove st node r = _
    rw [hleft]
    exact remove_withoutConfigured hplugin
  have honce : once = (.ok (), o.withoutConfigured node,
      (st.save (o.withoutConfigured node).config t).2) := by
    change o.make st t (.remove node) = _
    rw [make, remove_of_configured hplugin hconfigured, ht]
    rfl
  have hkept : stored r = o.config := by
    rw [hr, hleft, hkeeps.failed _ s f hsave, hs]
  have hgone : stored once.2.2 = (o.config.removeNode (lower node)).2 := by
    rw [honce]
    exact hkeeps.saved _ t (ht _)
  rw [ho.configured, Table.contains_replaceAll, List.any_eq_true] at hconfigured
  obtain ⟨rule, hrule, hnode⟩ := hconfigured
  rw [decide_eq_true_eq] at hnode
  refine ⟨by rw [honce], ?_, by rw [hretried], by rw [hretried], hkept, rule, ?_, hnode, ?_⟩
  · rw [hretried]
    refine ⟨by rw [honce], by rw [honce], by rw [honce], ?_⟩
    rw [hgone, hkept]
    rfl
  · rw [hkept]
    exact hrule
  · rw [hgone, Table.rules_removeNode, List.mem_filter]
    simp [hnode]

/-- Making a change again after its save failed leaves the overlay and the stored flag as making it
once does, and the stored rules too, but for a removal: made again, that one answers that there was
nothing to remove, and the storage keeps the configuration from before. -/
theorem make_again_after_failure {σ : Type} (st : Storage σ) (stored : σ → Config)
    (hkeeps : st.Keeps stored) (o : Overlay) (ho : o.Reachable) (change : Change) (s : σ)
    (hs : stored s = o.config) (f : Failure) (hfailed : (o.make st s change).1 = .error f)
    (r t : σ) (hr : stored r = stored (o.make st s change).2.2) (hagain : Accepts st r)
    (honce : Accepts st t) :
    let retried := (o.make st s change).2.1.make st r change
    let once := o.make st t change
    retried.1 = .ok () ∧ once.1 = .ok () ∧ SameEffect stored retried.2 once.2 ∧
      (SameRules stored retried.2.2 once.2.2 ↔ ∀ node, change ≠ .remove node) ∧
      ∀ node, change = .remove node →
        ((o.make st s change).2.1.remove st node r).1 = .ok false ∧
          stored retried.2.2 = o.config := by
  intro retried once
  cases change with
  | setEnabled enabled =>
    obtain ⟨heffect, hrules⟩ := retry_setEnabled (o := o) (s := s) hkeeps enabled hagain honce
    exact ⟨hagain _, honce _, heffect, iff_of_true hrules (fun _ => nofun), fun _ => nofun⟩
  | addConfigured entry =>
    obtain ⟨heffect, hrules⟩ := retry_addConfigured (o := o) (s := s) hkeeps entry hagain honce
    exact ⟨hagain _, honce _, heffect, iff_of_true hrules (fun _ => nofun), fun _ => nofun⟩
  | remove node =>
    obtain ⟨hok, heffect, hanswer, hleft, hkept, rule, hrule, -, hgone⟩ :=
      retry_remove hkeeps ho.coherent hs hfailed hr honce
    have hretried : retried.1 = .ok () := congrArg (Except.map fun _ => ()) hanswer
    have hstays : rule ∈ (stored retried.2.2).rules := hleft.symm ▸ hrule
    refine ⟨hretried, hok, heffect, iff_of_false ?_ fun h => h node rfl, ?_⟩
    · intro hrules
      exact hgone ((hrules rule).mp hstays)
    · rintro _ ⟨⟩
      exact ⟨hanswer, (congrArg stored hleft).trans hkept⟩

def flyRepository (refusesSave : Bool) : MemoryRepository :=
  ⟨⟨true, ["fly"]⟩, 1, false, refusesSave⟩

def flyOverlay : Overlay := (create MemoryRepository.storage (flyRepository false)).1

theorem addConfigured_again_after_failure :
    let change := Change.addConfigured "-Fly"
    let failed := flyOverlay.make MemoryRepository.storage (flyRepository true) change
    let retried := failed.2.1.make MemoryRepository.storage (flyRepository false) change
    failed.1 = .error (.internal "unwritable") ∧
      retried.2.2.config.defaults = ["fly", "-fly", "-fly"] ∧ retried.1 = .ok () ∧
      SameRules MemoryRepository.config retried.2.2
        (flyOverlay.make MemoryRepository.storage (flyRepository false) change).2.2 := by
  intro change failed retried
  have hfailed : failed.1 = .error (.internal "unwritable") ∧
      retried.2.2.config.defaults = ["fly", "-fly", "-fly"] := by decide +kernel
  have hreachable : flyOverlay.Reachable :=
    ⟨MemoryRepository, MemoryRepository.storage, flyRepository false, [], rfl⟩
  have haccepts : Accepts MemoryRepository.storage (flyRepository false) := fun _ => rfl
  obtain ⟨hok, -, -, hrules, -⟩ := make_again_after_failure MemoryRepository.storage
    MemoryRepository.config MemoryRepository.keeps_storage flyOverlay hreachable change
    (flyRepository true) rfl _ hfailed.1 (flyRepository false) (flyRepository false) rfl
    haccepts haccepts
  exact ⟨hfailed.1, hfailed.2, hok, hrules.mpr fun _ => nofun⟩

/-- After a removal whose save failed, the same removal answers that there was nothing to remove,
and the repository keeps the entry that a removal with a working save takes out. -/
theorem remove_again_after_failure :
    let failed := flyOverlay.remove MemoryRepository.storage "Fly" (flyRepository true)
    let retried := failed.2.1.remove MemoryRepository.storage "Fly" (flyRepository false)
    let once := flyOverlay.remove MemoryRepository.storage "Fly" (flyRepository false)
    failed.1 = .error (.internal "unwritable") ∧ failed.2.2.config = flyOverlay.config ∧
      retried.1 = .ok false ∧ retried.2.2.config.rules = [⟨"fly", true⟩] ∧
      once.1 = .ok true ∧ once.2.2.config.rules = [] ∧
      ¬ SameRules MemoryRepository.config retried.2.2 once.2.2 := by
  intro failed retried once
  have hanswers : failed.1 = .error (.internal "unwritable") ∧
      failed.2.2.config = flyOverlay.config ∧ retried.1 = .ok false ∧ once.1 = .ok true := by
    decide +kernel
  have hstored : retried.2.2.config.rules = [⟨"fly", true⟩] ∧ once.2.2.config.rules = [] := by
    decide +kernel
  obtain ⟨hfailed, hkept, hretried, honce⟩ := hanswers
  refine ⟨hfailed, hkept, hretried, hstored.1, honce, hstored.2, ?_⟩
  intro hrules
  have hmem := (hrules ⟨"fly", true⟩).mp (by rw [hstored.1]; exact List.mem_cons_self)
  rw [hstored.2] at hmem
  cases hmem

end Overlay

end PermissionGraph
