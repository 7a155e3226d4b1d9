import PermissionGraph.Proofs.Overlay.Retry

/-!
# Reloads

A reload takes over the configuration that can be loaded, or else the one in effect once more. Calls
keep the flag and the configured layer as the configuration says, so that the second of these
changes nothing. The first changes nothing either when it is done again, as long as the storage
answers with what was saved in it.
-/

namespace PermissionGraph

/-- A storage answers with the configuration that it keeps, where it answers with one, and keeps it
on being asked. -/
structure Storage.Reads {σ : Type} (st : Storage σ) (stored : σ → Config) : Prop where
  loaded : ∀ s config, (st.load s).1 = .ok config → stored s = config
  kept : ∀ s, stored (st.load s).2 = stored s

theorem MemoryRepository.reads_storage : storage.Reads config where
  loaded := by
    intro m c hload
    change m.load = .ok c at hload
    unfold load at hload
    split at hload
    · cases hload
    · exact Except.ok.inj hload
  kept _ := rfl

namespace Overlay

variable {σ : Type} {st : Storage σ} {stored : σ → Config} {o : Overlay} {s : σ}

theorem Coherent.apply_config (h : o.Coherent) : o.apply o.config = o := by
  rw [apply, ← h.enabled, ← h.configured]

theorem Coherent.reload_of_error (h : o.Coherent) {f : Failure}
    (hload : (st.load s).1 = .error f) : o.reload st s = (o, (st.load s).2) := by
  rw [Overlay.reload_of_error hload, h.apply_config]

/-- A reload that loads a configuration leaves it in the storage, saved or not. -/
theorem stored_reload (hkeeps : st.Keeps stored) (hreads : st.Reads stored) {config : Config}
    (hload : (st.load s).1 = .ok config) : stored (o.reload st s).2 = config := by
  rw [reload_of_ok hload]
  cases hsave : (st.save config (st.load s).2).1 with
  | ok u => exact hkeeps.saved config _ hsave
  | error f => rw [hkeeps.failed config _ f hsave, hreads.kept, hreads.loaded s config hload]

/-- What is loaded after a reload is what the reload took over. -/
theorem reload_reload (hkeeps : st.Keeps stored) (hreads : st.Reads stored) {config : Config}
    (hload : (st.load s).1 = .ok config) :
    let first := o.reload st s
    let second := first.1.reload st first.2
    second.1 = first.1 ∧ stored second.2 = stored first.2 := by
  intro first second
  have hstored : stored first.2 = config := stored_reload hkeeps hreads hload
  have hfirst : first.1 = o.apply config := congrArg Prod.fst (reload_of_ok hload)
  cases hagain : (st.load first.2).1 with
  | error f =>
    have hsecond : second = (first.1, (st.load first.2).2) :=
      coherent_reload.reload_of_error hagain
    rw [hsecond]
    exact ⟨rfl, hreads.kept _⟩
  | ok config' =>
    obtain rfl : config = config' := hstored.symm.trans (hreads.loaded _ _ hagain)
    refine ⟨?_, (stored_reload hkeeps hreads hagain).trans hstored.symm⟩
    rw [congrArg Prod.fst (reload_of_ok hagain), hfirst]
    rfl

/-- A reload that can load nothing saves nothing and leaves the overlay as it is. After one that
loads a configuration, another one leaves the overlay and what the storage keeps as they are. The
rules of plugins stay in any case. -/
theorem reload_idle {σ : Type} (st : Storage σ) (o : Overlay) (ho : o.Reachable) (s : σ)
    (notes : Notes) :
    (∀ f, (st.load s).1 = .error f →
      o.reload st s = (o, (st.load s).2) ∧
        o.reload st.noted (s, notes) = (o, (st.load s).2, notes)) ∧
      (∀ stored : σ → Config, st.Keeps stored → st.Reads stored →
        ∀ config, (st.load s).1 = .ok config →
          let first := o.reload st s
          let second := first.1.reload st first.2
          first.1.config = config ∧ second.1 = first.1 ∧ stored second.2 = stored first.2 ∧
            second.1.plugin = o.plugin) ∧
      (o.reload st s).1.plugin = o.plugin := by
  refine ⟨?_, ?_, plugin_reload⟩
  · intro f hload
    have hnoted : (st.noted.load (s, notes)).1 = .error f := hload
    exact ⟨ho.coherent.reload_of_error hload, ho.coherent.reload_of_error hnoted⟩
  · intro stored hkeeps hreads config hload first second
    obtain ⟨hoverlay, hstored⟩ := reload_reload (o := o) hkeeps hreads hload
    refine ⟨congrArg (fun result => result.1.config) (reload_of_ok hload), hoverlay, hstored, ?_⟩
    exact plugin_reload.trans plugin_reload

/-- The overlay over a repository that refuses loads, after an entry was added to what it held. -/
theorem reload_idle_fly :
    let edited := (flyOverlay.addConfigured MemoryRepository.storage "-Fly" (flyRepository false)).2
    let refusing : MemoryRepository := { edited.2 with refusesLoad := true }
    let first := edited.1.reload MemoryRepository.storage edited.2
    edited.1.config.defaults = ["fly", "-fly"] ∧
      edited.1.reload MemoryRepository.storage refusing = (edited.1, refusing) ∧
      first.1.reload MemoryRepository.storage first.2 =
        (first.1, { first.2 with saves := first.2.saves + 1 }) := by
  intro edited refusing first
  have hreachable : edited.1.Reachable :=
    ⟨MemoryRepository, MemoryRepository.storage, flyRepository false, [.addConfigured "-Fly"], rfl⟩
  obtain ⟨hidle, -, -⟩ := reload_idle MemoryRepository.storage edited.1 hreachable refusing []
  obtain ⟨-, hagain, -⟩ := reload_idle MemoryRepository.storage edited.1 hreachable edited.2 []
  have hload : (MemoryRepository.storage.load edited.2).1 = .ok ⟨true, ["fly", "-fly"]⟩ := by
    decide +kernel
  obtain ⟨-, hoverlay, -, -⟩ := hagain MemoryRepository.config MemoryRepository.keeps_storage
    MemoryRepository.reads_storage _ hload
  refine ⟨by decide +kernel, (hidle _ rfl).1, ?_⟩
  exact Prod.ext hoverlay rfl

end Overlay

end PermissionGraph
