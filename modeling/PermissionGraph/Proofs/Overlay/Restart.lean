import PermissionGraph.Repository
import PermissionGraph.Proofs.Config
import PermissionGraph.Proofs.Files.Write
import PermissionGraph.Proofs.Overlay.Coherence
import PermissionGraph.Proofs.Yaml.Comment

/-!
# Restarts over a file

As long as nobody else writes the file and every write succeeds, the file of an overlay holds the
configuration in effect. It can be loaded again just when every entry names a node. Adding an entry
is the only call that lets in one that does not.
-/

namespace PermissionGraph

open Text

structure Persisted (store : Store) (r : RepositoryId) (path : Files.Path) (config : Config) :
    Prop where
  repository : store.repositories[r]? = some (.file path)
  found : store.files.holds path = true
  written : store.files.read path = .ok (DefaultsFile.render config)

namespace Store

variable {store : Store} {r : RepositoryId} {path : Files.Path} {config : Config}

theorem persisted_save (hfile : store.repositories[r]? = some (.file path))
    (hsave : (store.save r config).1 = .ok ()) :
    Persisted (store.save r config).2 r path config := by
  simp only [save, hfile, FileRepository.save] at hsave ⊢
  split at hsave
  · next files hwrite =>
    obtain ⟨hfound, hread⟩ := Files.Tree.read_of_write hwrite
    exact ⟨hfile, hfound, hread⟩
  · cases hsave

/-- A file that holds a configuration is loaded where every entry names a node. -/
theorem load_of_persisted (h : Persisted store r path config)
    (hyaml : DefaultsFile.parse (DefaultsFile.body config) = .ok config) :
    store.load r = config.validate.map fun _ => config := by
  simp only [load, h.repository, FileRepository.load, h.found, h.written,
    DefaultsFile.read_render hyaml]
  cases hvalid : config.validate <;> simp [hvalid, bind, Except.bind, Except.map, pure, Except.pure]

theorem named_of_load (hfile : store.repositories[r]? = some (.file path))
    (hload : store.load r = .ok config) : config.Named := by
  simp only [load, hfile, FileRepository.load] at hload
  split at hload
  · obtain rfl : Config.initial = config := Except.ok.inj hload
    exact Config.named_initial
  · split at hload
    · cases hload
    · next text htext =>
      cases hread : DefaultsFile.read text with
      | error f => rw [hread] at hload; cases hload
      | ok c =>
        rw [hread] at hload
        simp only [bind, Except.bind] at hload
        cases hvalid : c.validate with
        | error f => rw [hvalid] at hload; cases hload
        | ok u =>
          rw [hvalid] at hload
          obtain rfl : c = config := Except.ok.inj hload
          exact Config.named_of_validate hvalid

end Store

namespace Overlay

variable {store : Store} {r : RepositoryId} {path : Files.Path} {o : Overlay} {notes : Notes}

/-- The saves went well, and what they wrote can be read back. -/
def WentWell (notes : Notes) : Prop :=
  ∀ note ∈ notes, note.2 = .ok () ∧
    DefaultsFile.parse (DefaultsFile.body note.1) = .ok note.1

theorem WentWell.of_performAll {st : Storage Store} {calls : List Call}
    {state : Overlay × Store × Notes} (h : WentWell (performAll st.noted calls state).2.2) :
    WentWell state.2.2 := by
  intro note hnote
  exact h note (notes_subset_performAll calls state hnote)

/-- The file holds the configuration in effect, which was saved at some time. -/
structure InFile (r : RepositoryId) (path : Files.Path) (state : Overlay × Store × Notes) :
    Prop where
  persisted : Persisted state.2.1 r path state.1.config
  saved : ∃ result, (state.1.config, result) ∈ state.2.2

theorem InFile.load {state : Overlay × Store × Notes} (h : InFile r path state)
    (hwell : WentWell state.2.2) :
    state.2.1.load r = state.1.config.validate.map fun _ => state.1.config := by
  obtain ⟨result, hsaved⟩ := h.saved
  exact Store.load_of_persisted h.persisted (hwell _ hsaved).2

theorem inFile_of_note {call : Call} {plain : Answer × Overlay × Store}
    {noted : Answer × Overlay × Store × Notes} (h : InFile r path (o, store, notes))
    (hcall : OneNote (Store.storage r) o store notes call plain noted)
    (hwell : WentWell noted.2.2.2) : InFile r path noted.2 := by
  obtain ⟨hpersisted, result, hsaved⟩ := h
  cases hcall with
  | @quiet _ o' s' _ _ hconfig hs =>
    obtain rfl : s' = store := hs.elim id id
    refine ⟨?_, result, ?_⟩
    · rw [hconfig]
      exact hpersisted
    · rw [hconfig]
      exact hsaved
  | @saved o' s' _ hs =>
    obtain rfl : s' = store := hs.elim id id
    have hnote := hwell _ (List.mem_append_right notes List.mem_cons_self)
    exact ⟨Store.persisted_save hpersisted.repository hnote.1, _,
      List.mem_append_right notes List.mem_cons_self⟩

theorem inFile_performAll (calls : List Call) {state : Overlay × Store × Notes}
    (h : InFile r path state)
    (hwell : WentWell (performAll (Store.storage r).noted calls state).2.2) :
    InFile r path (performAll (Store.storage r).noted calls state) := by
  induction calls generalizing state with
  | nil => exact h
  | cons call calls ih =>
    obtain ⟨o, store, notes⟩ := state
    have hnoted := perform_noted (Store.storage r) o store notes call
    have hfirst : WentWell (perform (Store.storage r).noted o (store, notes) call).2.2.2 :=
      WentWell.of_performAll hwell
    exact ih (inFile_of_note h hnoted hfirst) hwell

theorem inFile_create (hfile : store.repositories[r]? = some (.file path)) {config : Config}
    (hload : store.load r = .ok config)
    (hwell : WentWell (create (Store.storage r).noted (store, [])).2.2) :
    InFile r path (create (Store.storage r).noted (store, [])) := by
  have hstart : ((Store.storage r).noted.load (store, [])).1 = .ok config := hload
  rw [create, reload_of_ok hstart] at hwell ⊢
  have hnote := hwell _ List.mem_cons_self
  exact ⟨Store.persisted_save hfile hnote.1, _, List.mem_cons_self⟩

theorem named_create (hfile : store.repositories[r]? = some (.file path)) {config : Config}
    (hload : store.load r = .ok config) :
    (create (Store.storage r).noted (store, [])).1.config.Named := by
  have hstart : ((Store.storage r).noted.load (store, [])).1 = .ok config := hload
  rw [create, reload_of_ok hstart]
  exact Store.named_of_load hfile hload

theorem named_reload (hfile : store.repositories[r]? = some (.file path)) (h : o.config.Named) :
    (o.reload (Store.storage r) store).1.config.Named := by
  cases hload : store.load r with
  | ok config =>
    have hstart : ((Store.storage r).load store).1 = .ok config := hload
    rw [reload_of_ok hstart]
    exact Store.named_of_load hfile hload
  | error f =>
    have hstart : ((Store.storage r).load store).1 = .error f := hload
    rw [reload_of_error hstart]
    exact h

theorem named_remove (h : o.config.Named) (node : String) :
    (o.remove (Store.storage r) node store).2.1.config.Named := by
  rcases remove_cases (Store.storage r) o store node with hleft | hleft | hleft
  · rw [hleft]
    exact h
  · rw [hleft]
    exact h
  · rw [hleft]
    exact h.removeNode _

/-- Only the addition of an entry that names no node lets one in. -/
theorem named_perform (hfile : store.repositories[r]? = some (.file path)) (h : o.config.Named)
    {call : Call}
    (hcall : ∀ entry, call = .addConfigured entry → Config.namesNothing entry = false) :
    (perform (Store.storage r) o store call).2.1.config.Named := by
  cases call with
  | reload => exact named_reload hfile h
  | save => exact h
  | setEnabled enabled => exact h
  | addConfigured entry => exact h.addEntry (hcall entry rfl)
  | addRule r => exact h
  | remove node => exact named_remove h node

theorem named_performAll (calls : List Call)
    (hcalls : ∀ entry, .addConfigured entry ∈ calls → Config.namesNothing entry = false)
    {state : Overlay × Store × Notes} (h : InFile r path state) (hnamed : state.1.config.Named)
    (hwell : WentWell (performAll (Store.storage r).noted calls state).2.2) :
    (performAll (Store.storage r).noted calls state).1.config.Named := by
  induction calls generalizing state with
  | nil => exact hnamed
  | cons call calls ih =>
    obtain ⟨o, store, notes⟩ := state
    have hnoted := perform_noted (Store.storage r) o store notes call
    have hfirst : WentWell (perform (Store.storage r).noted o (store, notes) call).2.2.2 :=
      WentWell.of_performAll hwell
    have hnext : (perform (Store.storage r) o store call).2.1.config.Named := by
      apply named_perform h.persisted.repository hnamed
      rintro entry rfl
      exact hcalls entry List.mem_cons_self
    rw [← hnoted.snd_eq] at hnext
    exact ih (fun entry hentry => hcalls entry (List.mem_cons_of_mem _ hentry))
      (inFile_of_note h hnoted hfirst) hnext hwell

/-- The overlay that a restart gives. -/
theorem create_of_load (hcoherent : o.Coherent) (hload : store.load r = .ok o.config) :
    let restarted := (create (Store.storage r) store).1
    restarted.config = o.config ∧ restarted.enabled = o.enabled ∧
      restarted.configured = o.configured := by
  have hstart : ((Store.storage r).load store).1 = .ok o.config := hload
  rw [create, reload_of_ok hstart]
  exact ⟨rfl, hcoherent.enabled.symm, hcoherent.configured.symm⟩

theorem create_of_failure {f : Failure} (hload : store.load r = .error f) :
    (create (Store.storage r) store).1 = initial := by
  have hstart : ((Store.storage r).load store).1 = .error f := hload
  rw [create, reload_of_error hstart]
  rfl

/-- What a restart finds after any calls on a file: the configuration in effect where every entry
names a node, and otherwise an error on the first entry that does not, which loses everything. -/
theorem load_after_calls (store : Store) (r : RepositoryId) (path : Files.Path)
    (hfile : store.repositories[r]? = some (.file path)) (start : Config)
    (hstart : store.load r = .ok start) (calls : List Call)
    (hwell : WentWell (performAll (Store.storage r).noted calls
      (create (Store.storage r).noted (store, []))).2.2) :
    let now := performAll (Store.storage r) calls (create (Store.storage r) store)
    let restarted := (create (Store.storage r) now.2).1
    (now.2.load r = now.1.config.validate.map fun _ => now.1.config) ∧
      (now.2.load r = .ok now.1.config ↔ now.1.config.Named) ∧
      (now.1.config.Named → restarted.config = now.1.config ∧
        restarted.enabled = now.1.enabled ∧ restarted.configured = now.1.configured) ∧
      (¬ now.1.config.Named → restarted = initial) ∧
      ((∀ entry, .addConfigured entry ∈ calls → Config.namesNothing entry = false) →
        now.1.config.Named) := by
  intro now restarted
  have hcreated := inFile_create hfile hstart hwell.of_performAll
  have hin := inFile_performAll calls hcreated hwell
  have hplain := performAll_create_noted (Store.storage r) store calls
  have hnow : (performAll (Store.storage r).noted calls
      (create (Store.storage r).noted (store, []))).1 = now.1 := congrArg Prod.fst hplain
  have hstore : (performAll (Store.storage r).noted calls
      (create (Store.storage r).noted (store, []))).2.1 = now.2 := congrArg Prod.snd hplain
  have hload := hin.load hwell
  have hrepository := hin.persisted.repository
  rw [hnow, hstore] at hload
  rw [hstore] at hrepository
  have hcoherent : now.1.Coherent := (coherent_create _ store).performAll calls
  have hloaded (hnamed : now.1.config.Named) : now.2.load r = .ok now.1.config := by
    rw [hload, Config.validate_of_named hnamed]
    rfl
  refine ⟨hload, ⟨Store.named_of_load hrepository, hloaded⟩, ?_, ?_, ?_⟩
  · intro hnamed
    exact create_of_load hcoherent (hloaded hnamed)
  · intro hunnamed
    cases hvalid : now.1.config.validate with
    | ok u => exact absurd (Config.named_of_validate hvalid) hunnamed
    | error f =>
      rw [hvalid] at hload
      exact create_of_failure hload
  · intro hcalls
    have hfirst := named_create hfile hstart
    have hnamed := named_performAll calls hcalls hcreated hfirst hwell
    rw [hnow] at hnamed
    exact hnamed

def fresh : Store := ⟨#[.file (⟨["permissions.yml"]⟩)], Files.Tree.empty⟩

def revocation : List Call :=
  [.addConfigured "-Chat.Send", .addRule ⟨"a.b", true⟩, .setEnabled false]

theorem load_fresh_after_revocation :
    let now := performAll (Store.storage 0) revocation (create (Store.storage 0) fresh)
    now.1.config = ⟨false, ["-chat.send"]⟩ ∧ now.2.load 0 = .ok ⟨false, ["-chat.send"]⟩ := by
  have hwell : WentWell (performAll (Store.storage 0).noted revocation
      (create (Store.storage 0).noted (fresh, []))).2.2 := by
    unfold WentWell
    decide +kernel
  have hstart : fresh.load 0 = .ok Config.initial := by decide +kernel
  have hconfig : (performAll (Store.storage 0) revocation
      (create (Store.storage 0) fresh)).1.config = ⟨false, ["-chat.send"]⟩ := by decide +kernel
  have hload := (load_after_calls fresh 0 ⟨["permissions.yml"]⟩ rfl Config.initial hstart
    revocation hwell).1
  rw [hconfig] at hload
  exact ⟨hconfig, hload⟩

def bareMark : List Call := [.addConfigured "chat.send", .setEnabled false, .addConfigured "-"]

/-- An entry that is only the mark of a revocation is accepted and saved, and the file that holds it
cannot be loaded any more: the restarted overlay has forgotten the flag and every entry. -/
theorem load_fresh_after_bareMark :
    let noted := performAll (Store.storage 0).noted bareMark
      (create (Store.storage 0).noted (fresh, []))
    fresh.load 0 = .ok Config.initial ∧ WentWell noted.2.2 ∧
      noted.1.config = ⟨false, ["chat.send", "-"]⟩ ∧
      noted.2.1.load 0 ≠ .ok noted.1.config ∧
      (create (Store.storage 0) noted.2.1).1 = initial := by
  intro noted
  have hstart : fresh.load 0 = .ok Config.initial := by decide +kernel
  have hwell : WentWell noted.2.2 := by
    unfold WentWell
    decide +kernel
  have hcreated := inFile_create rfl hstart (WentWell.of_performAll hwell)
  have hin := inFile_performAll bareMark hcreated hwell
  have hconfig : noted.1.config = ⟨false, ["chat.send", "-"]⟩ := by decide +kernel
  have hload := hin.load hwell
  rw [hconfig] at hload
  refine ⟨hstart, hwell, hconfig, ?_, create_of_failure hload⟩
  rw [hload]
  exact nofun

end Overlay

end PermissionGraph
