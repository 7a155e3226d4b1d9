import PermissionGraph.Overlay
import PermissionGraph.Proofs.Keyed
import PermissionGraph.Proofs.Text.Lower

/-!
# Calls of an overlay

The calls of an overlay over any storage with their answers, and runs of them from its creation. A
storage can be made to note what is saved in it, with the result. That changes nothing for the
overlay. A call either saves once, and then it saves the configuration that it leaves and answers by
the result of the save, or it saves nothing, and then the configuration stays and the answer is no
error.

A removal goes one of three ways. What plugins registered for the node goes first, without a save.
Where they registered nothing, what operators configured for it goes, and the configuration is
saved. Where neither did, nothing happens.
-/

namespace PermissionGraph

open Text

namespace Table

variable (t : Table) (node : String)

theorem removeAll_lower :
    t.removeAll (lower node) =
      (t.rulesFor (lower node), ⟨t.groups.filter (·.1 ≠ lower node)⟩) := by
  rw [removeAll, lower_lower]

@[simp] theorem rulesFor_removeAll : (t.removeAll (lower node)).2.rulesFor (lower node) = [] := by
  rw [removeAll_lower, rulesFor, Groups.rulesFor, Keyed.lookup_filter_self, Option.getD_none]

theorem rulesFor_removeAll_of_ne {node other : String} (h : other ≠ lower node) :
    (t.removeAll (lower node)).2.rulesFor other = t.rulesFor other := by
  rw [removeAll_lower, rulesFor, Groups.rulesFor, Keyed.lookup_filter_of_ne _ h.symm]
  rfl

@[simp] theorem contains_removeAll :
    (t.removeAll (lower node)).2.contains (lower node) = false := by
  rw [removeAll_lower, contains, lower_lower, Keyed.lookup_filter_self, Option.isSome_none]

end Table

/-- Saved configurations with the results of their saves, oldest first. -/
abbrev Notes := List (Config × Except Failure Unit)

def Storage.noted {σ : Type} (st : Storage σ) : Storage (σ × Notes) where
  load s := ((st.load s.1).1, (st.load s.1).2, s.2)
  save config s :=
    ((st.save config s.1).1, (st.save config s.1).2, s.2 ++ [(config, (st.save config s.1).1)])

namespace Overlay

variable {σ : Type} {st : Storage σ} {o : Overlay} {s : σ} {notes : Notes}

theorem reload_of_ok {config : Config} (h : (st.load s).1 = .ok config) :
    o.reload st s = (o.apply config, (st.save config (st.load s).2).2) := by
  rw [reload]
  split
  · next config' s' hload =>
    rw [hload] at h ⊢
    obtain rfl : config' = config := Except.ok.inj h
    rfl
  · next f s' hload =>
    rw [hload] at h
    cases h

theorem reload_of_error {f : Failure} (h : (st.load s).1 = .error f) :
    o.reload st s = (o.apply o.config, (st.load s).2) := by
  rw [reload]
  split
  · next config s' hload =>
    rw [hload] at h
    cases h
  · next f' s' hload => rw [hload]

@[simp] theorem plugin_reload : (o.reload st s).1.plugin = o.plugin := by
  unfold reload
  split <;> rfl

def withoutPlugin (o : Overlay) (node : String) : Overlay :=
  { o with plugin := (o.plugin.removeAll (lower node)).2 }

def withoutConfigured (o : Overlay) (node : String) : Overlay :=
  { o with
    configured := (o.configured.removeAll (lower node)).2
    config := (o.config.removeNode (lower node)).2 }

variable {node : String}

theorem remove_of_plugin (h : o.plugin.rulesFor (lower node) ≠ []) :
    o.remove st node s = (.ok true, o.withoutPlugin node, s) := by
  have hremoved : (o.plugin.removeAll (lower node)).1 ≠ [] := by
    rw [Table.removeAll_lower]
    exact h
  rw [remove]
  exact if_pos hremoved

theorem remove_of_no_plugin (h : o.plugin.rulesFor (lower node) = []) :
    o.remove st node s =
      if !o.configured.contains (lower node) then (.ok false, o, s)
      else
        ((st.save (o.withoutConfigured node).config s).1.map fun _ => true,
          o.withoutConfigured node, (st.save (o.withoutConfigured node).config s).2) := by
  have hremoved : ¬ (o.plugin.removeAll (lower node)).1 ≠ [] := by
    rw [Table.removeAll_lower]
    exact not_not_intro h
  rw [remove]
  exact if_neg hremoved

theorem remove_of_unknown (h : o.plugin.rulesFor (lower node) = [])
    (hconfigured : o.configured.contains (lower node) = false) :
    o.remove st node s = (.ok false, o, s) := by
  rw [remove_of_no_plugin h, hconfigured]
  rfl

theorem remove_of_configured (h : o.plugin.rulesFor (lower node) = [])
    (hconfigured : o.configured.contains (lower node) = true) :
    o.remove st node s =
      ((st.save (o.withoutConfigured node).config s).1.map fun _ => true,
        o.withoutConfigured node, (st.save (o.withoutConfigured node).config s).2) := by
  rw [remove_of_no_plugin h, hconfigured]
  rfl

/-- Which overlays a removal can leave. -/
theorem remove_cases (st : Storage σ) (o : Overlay) (s : σ) (node : String) :
    (o.remove st node s).2.1 = o.withoutPlugin node ∨
      (o.remove st node s).2.1 = o ∨ (o.remove st node s).2.1 = o.withoutConfigured node := by
  by_cases hplugin : o.plugin.rulesFor (lower node) = []
  · cases hconfigured : o.configured.contains (lower node) with
    | false => exact Or.inr (Or.inl (by rw [remove_of_unknown hplugin hconfigured]))
    | true => exact Or.inr (Or.inr (by rw [remove_of_configured hplugin hconfigured]))
  · exact Or.inl (by rw [remove_of_plugin hplugin])

inductive Call
  | reload
  | save
  | setEnabled (enabled : Bool)
  | addConfigured (entry : String)
  | addRule (r : Rule)
  | remove (node : String)

inductive Answer
  | nothing
  /-- The result of the save. -/
  | saved (result : Except Failure Unit)
  /-- Whether anything was removed, or why the save failed. -/
  | removed (result : Except Failure Bool)

variable (st) in
/-- What a call answers, and the overlay and its storage after it. -/
def perform (o : Overlay) (s : σ) : Call → Answer × Overlay × σ
  | .reload => (.nothing, o.reload st s)
  | .save => (.saved (o.save st s).1, o, (o.save st s).2)
  | .setEnabled enabled => (.saved (o.setEnabled st enabled s).1, (o.setEnabled st enabled s).2)
  | .addConfigured entry => (.saved (o.addConfigured st entry s).1, (o.addConfigured st entry s).2)
  | .addRule r => (.nothing, o.addRule r, s)
  | .remove node => (.removed (o.remove st node s).1, (o.remove st node s).2)

variable (st) in
def performAll (calls : List Call) (state : Overlay × σ) : Overlay × σ :=
  calls.foldl (fun state call => (perform st state.1 state.2 call).2) state

/-- Some calls over some storage lead to the overlay. -/
def Reachable (o : Overlay) : Prop :=
  ∃ (σ : Type) (st : Storage σ) (s : σ) (calls : List Call),
    (performAll st calls (create st s)).1 = o

variable (st) in
def Saves (o : Overlay) (s : σ) : Call → Prop
  | .reload => ∃ config, (st.load s).1 = .ok config
  | .save | .setEnabled _ | .addConfigured _ => True
  | .addRule _ => False
  | .remove node =>
    o.plugin.rulesFor (lower node) = [] ∧ o.configured.contains (lower node) = true

/-- What a call answers whose save has this result. A reload does not tell. -/
def Call.answer (result : Except Failure Unit) : Call → Answer
  | .reload | .addRule _ => .nothing
  | .save | .setEnabled _ | .addConfigured _ => .saved result
  | .remove _ => .removed (result.map fun _ => true)

variable (st) in
/-- What a call answers and leaves on a storage, and on the same storage with notes. -/
inductive OneNote (o : Overlay) (s : σ) (notes : Notes) (call : Call) :
    Answer × Overlay × σ → Answer × Overlay × σ × Notes → Prop
  | quiet {answer : Answer} {o' : Overlay} {s' : σ} (hcall : ¬ Saves st o s call)
      (hanswer : answer = .nothing ∨ ∃ found, answer = .removed (.ok found))
      (hconfig : o'.config = o.config) (hs : s' = s ∨ s' = (st.load s).2) :
      OneNote o s notes call (answer, o', s') (answer, o', s', notes)
  | saved (o' : Overlay) {s' : σ} (hcall : Saves st o s call) (hs : s' = s ∨ s' = (st.load s).2) :
      OneNote o s notes call (call.answer (st.save o'.config s').1, o', (st.save o'.config s').2)
        (call.answer (st.save o'.config s').1, o', (st.save o'.config s').2,
          notes ++ [(o'.config, (st.save o'.config s').1)])

theorem not_saves_reload {f : Failure} (h : (st.load s).1 = .error f) :
    ¬ Saves st o s .reload := by
  rintro ⟨config, hok⟩
  rw [h] at hok
  cases hok

theorem reload_noted (st : Storage σ) (o : Overlay) (s : σ) (notes : Notes) :
    OneNote st o s notes .reload (.nothing, o.reload st s)
      (.nothing, o.reload st.noted (s, notes)) := by
  cases hload : (st.load s).1 with
  | ok config =>
    have hnoted : (st.noted.load (s, notes)).1 = .ok config := hload
    rw [reload_of_ok hload, reload_of_ok hnoted]
    exact .saved (o.apply config) ⟨config, hload⟩ (Or.inr rfl)
  | error f =>
    have hnoted : (st.noted.load (s, notes)).1 = .error f := hload
    rw [reload_of_error hload, reload_of_error hnoted]
    exact .quiet (not_saves_reload hload) (Or.inl rfl) rfl (Or.inr rfl)

theorem remove_noted (st : Storage σ) (o : Overlay) (s : σ) (notes : Notes) (node : String) :
    OneNote st o s notes (.remove node) (perform st o s (.remove node))
      (perform st.noted o (s, notes) (.remove node)) := by
  rw [perform, perform]
  by_cases hplugin : o.plugin.rulesFor (lower node) = []
  · cases hconfigured : o.configured.contains (lower node) with
    | false =>
      have hcall : ¬ Saves st o s (.remove node) := by
        rintro ⟨-, hknown⟩
        rw [hconfigured] at hknown
        cases hknown
      rw [remove_of_unknown hplugin hconfigured, remove_of_unknown hplugin hconfigured]
      exact .quiet hcall (Or.inr ⟨false, rfl⟩) rfl (Or.inl rfl)
    | true =>
      rw [remove_of_configured hplugin hconfigured, remove_of_configured hplugin hconfigured]
      exact .saved (o.withoutConfigured node) ⟨hplugin, hconfigured⟩ (Or.inl rfl)
  · have hcall : ¬ Saves st o s (.remove node) := fun hsaves => hplugin hsaves.1
    rw [remove_of_plugin hplugin, remove_of_plugin hplugin]
    exact .quiet hcall (Or.inr ⟨true, rfl⟩) rfl (Or.inl rfl)

theorem perform_noted (st : Storage σ) (o : Overlay) (s : σ) (notes : Notes) (call : Call) :
    OneNote st o s notes call (perform st o s call) (perform st.noted o (s, notes) call) := by
  cases call with
  | reload => exact reload_noted st o s notes
  | save => exact .saved o trivial (Or.inl rfl)
  | setEnabled enabled =>
    exact .saved { o with config := { o.config with enabled }, enabled } trivial (Or.inl rfl)
  | addConfigured entry =>
    exact .saved { o with
      config := o.config.addEntry (Rule.parse entry).text
      configured := (o.configured.insert (Rule.parse entry)).2 } trivial (Or.inl rfl)
  | addRule r => exact .quiet id (Or.inl rfl) rfl (Or.inl rfl)
  | remove node => exact remove_noted st o s notes node

namespace OneNote

variable {call : Call} {plain : Answer × Overlay × σ} {noted : Answer × Overlay × σ × Notes}

theorem plain_eq (h : OneNote st o s notes call plain noted) :
    (noted.1, noted.2.1, noted.2.2.1) = plain := by
  cases h <;> rfl

theorem snd_eq (h : OneNote st o s notes call plain noted) :
    (noted.2.1, noted.2.2.1) = plain.2 := congrArg Prod.snd h.plain_eq

theorem of_saves (h : OneNote st o s notes call plain noted) (hcall : Saves st o s call) :
    ∃ result, noted.1 = call.answer result ∧
      noted.2.2.2 = notes ++ [(noted.2.1.config, result)] := by
  cases h with
  | quiet hquiet => exact absurd hcall hquiet
  | saved o' => exact ⟨_, rfl, rfl⟩

theorem of_not_saves (h : OneNote st o s notes call plain noted) (hcall : ¬ Saves st o s call) :
    (noted.1 = .nothing ∨ ∃ found, noted.1 = .removed (.ok found)) ∧
      noted.2.1.config = o.config ∧ noted.2.2.2 = notes := by
  cases h with
  | quiet _ hanswer hconfig => exact ⟨hanswer, hconfig, rfl⟩
  | saved o' hsaves => exact absurd hsaves hcall

theorem notes_subset (h : OneNote st o s notes call plain noted) : notes ⊆ noted.2.2.2 := by
  cases h with
  | quiet => exact fun _ hnote => hnote
  | saved o' => exact fun _ hnote => List.mem_append_left _ hnote

end OneNote

/-- Notes do not change what the calls of an overlay leave. -/
theorem performAll_noted (calls : List Call) {state : Overlay × σ} {noted : Overlay × σ × Notes}
    (h : (noted.1, noted.2.1) = state) :
    ((performAll st.noted calls noted).1, (performAll st.noted calls noted).2.1) =
      performAll st calls state := by
  induction calls generalizing state noted with
  | nil => exact h
  | cons call calls ih =>
    apply ih
    subst h
    exact (perform_noted st _ _ _ call).snd_eq

theorem performAll_create_noted (st : Storage σ) (s : σ) (calls : List Call) :
    ((performAll st.noted calls (create st.noted (s, []))).1,
      (performAll st.noted calls (create st.noted (s, []))).2.1) =
      performAll st calls (create st s) :=
  performAll_noted calls (reload_noted st initial s []).snd_eq

theorem notes_subset_performAll (calls : List Call) (noted : Overlay × σ × Notes) :
    noted.2.2 ⊆ (performAll st.noted calls noted).2.2 := by
  induction calls generalizing noted with
  | nil => exact fun _ hnote => hnote
  | cons call calls ih =>
    have hcall := (perform_noted st noted.1 noted.2.1 noted.2.2 call).notes_subset
    exact fun _ hnote => ih _ (hcall hnote)

/-- The configuration whose save was tried last, if there was one, is the overlay's. -/
def LastSaved (state : Overlay × σ × Notes) : Prop :=
  ∀ note ∈ state.2.2.getLast?, note.1 = state.1.config

theorem OneNote.lastSaved {call : Call} {plain : Answer × Overlay × σ}
    {noted : Answer × Overlay × σ × Notes} (hcall : OneNote st o s notes call plain noted)
    (h : LastSaved (o, s, notes)) : LastSaved noted.2 := by
  cases hcall with
  | quiet _ _ hconfig =>
    intro note hnote
    rw [hconfig]
    exact h note hnote
  | saved o' =>
    intro note hnote
    rw [List.getLast?_concat, Option.mem_some_iff] at hnote
    rw [← hnote]

theorem lastSaved_performAll (calls : List Call) {state : Overlay × σ × Notes}
    (h : LastSaved state) : LastSaved (performAll st.noted calls state) := by
  induction calls generalizing state with
  | nil => exact h
  | cons call calls ih => exact ih ((perform_noted st _ _ _ call).lastSaved h)

theorem lastSaved_create (st : Storage σ) (s : σ) : LastSaved (create st.noted (s, [])) :=
  (reload_noted st initial s []).lastSaved nofun

end Overlay

end PermissionGraph
