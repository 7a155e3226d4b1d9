import Mathlib
import PermissionGraph.Proofs.Registry.Sound

/-!
# Registries over time

After any calls, a name stands for the subject that was last taken in under it, unless the name was
dropped since. The list of subjects is in the order of their names, and those that were taken in
inherit from the overlay once. Right after all answers were dropped, the subjects that hold a node
are those of the list whose live answer is a grant.
-/

namespace PermissionGraph.RegistryState

open Text

def run (t : RegistryState) (calls : List RegistryCall) : RegistryState := calls.foldl step t

/-- The state before call number `n` of a run. -/
def before (t : RegistryState) (calls : List RegistryCall) (n : Nat) : RegistryState :=
  t.run (calls.take n)

def start (ops : List Operation) (o : OverlayId) : RegistryState :=
  ⟨Registry.empty o, Engine.initial.run ops⟩

variable {t : RegistryState} {calls : List RegistryCall} {n i : Nat} {name : String}
  {s : ContextId}

theorem before_zero (t : RegistryState) (calls : List RegistryCall) : t.before calls 0 = t := rfl

theorem before_succ (t : RegistryState) {call : RegistryCall} (h : calls[n]? = some call) :
    t.before calls (n + 1) = (t.before calls n).step call := by
  rw [before, before, run, run, List.take_add_one, h, List.foldl_append]
  rfl

def AdmitsAt (t : RegistryState) (calls : List RegistryCall) (name : String) (s : ContextId)
    (i : Nat) : Prop :=
  ∃ call, calls[i]? = some call ∧ (t.before calls i).admission? call = some (name, s)

/-- Call number `i` takes in a subject under `name`, or drops the name. -/
def TouchesAt (t : RegistryState) (calls : List RegistryCall) (name : String) (i : Nat) : Prop :=
  calls[i]? = some (.remove name) ∨ ∃ s, t.AdmitsAt calls name s i

/-- Of the first `n` calls, number `i` is the last to touch `name`, and takes in `s`. -/
structure LastAdmits (t : RegistryState) (calls : List RegistryCall) (n : Nat) (name : String)
    (s : ContextId) (i : Nat) : Prop where
  lt : i < n
  admits : t.AdmitsAt calls name s i
  untouched : ∀ j, i < j → j < n → ¬ t.TouchesAt calls name j

theorem touchesAt_iff {call : RegistryCall} (h : calls[n]? = some call) :
    t.TouchesAt calls name n ↔ (t.before calls n).Touches name call := by
  refine or_congr ?_ (exists_congr fun s => ?_)
  · rw [h, Option.some_inj]
  · rw [AdmitsAt, h]
    simp

/-- The call that touches a name last is known when the next one touches it. -/
theorem lastAdmits_succ_of_touches (h : t.TouchesAt calls name n) :
    t.LastAdmits calls (n + 1) name s i ↔ i = n ∧ t.AdmitsAt calls name s n := by
  constructor
  · rintro ⟨hi, hadmits, huntouched⟩
    rcases Nat.lt_succ_iff_lt_or_eq.mp hi with hlt | rfl
    · exact absurd h (huntouched n hlt (Nat.lt_succ_self n))
    · exact ⟨rfl, hadmits⟩
  · rintro ⟨rfl, hadmits⟩
    refine ⟨Nat.lt_succ_self i, hadmits, fun j hij hj => ?_⟩
    omega

theorem lastAdmits_succ_of_not_touches (h : ¬ t.TouchesAt calls name n) :
    t.LastAdmits calls (n + 1) name s i ↔ t.LastAdmits calls n name s i := by
  constructor
  · rintro ⟨hi, hadmits, huntouched⟩
    rcases Nat.lt_succ_iff_lt_or_eq.mp hi with hlt | rfl
    · exact ⟨hlt, hadmits, fun j hij hj => huntouched j hij (Nat.lt_succ_of_lt hj)⟩
    · exact absurd (Or.inr ⟨s, hadmits⟩) h
  · rintro ⟨hi, hadmits, huntouched⟩
    refine ⟨Nat.lt_succ_of_lt hi, hadmits, fun j hij hj => ?_⟩
    rcases Nat.lt_succ_iff_lt_or_eq.mp hj with hlt | rfl
    · exact huntouched j hij hlt
    · exact h

/-- A name stands for the subject that was taken in under it last. -/
theorem get?_before (hempty : t.registry.subjects = []) (hn : n ≤ calls.length) :
    (t.before calls n).registry.get? name = some s ↔ ∃ i, t.LastAdmits calls n name s i := by
  induction n with
  | zero =>
    rw [before_zero, Registry.get?, hempty]
    refine ⟨fun h => (by cases h), ?_⟩
    rintro ⟨i, hi, -, -⟩
    omega
  | succ n ih =>
    have hcall : calls[n]? = some calls[n] := List.getElem?_eq_getElem hn
    rw [before_succ t hcall]
    by_cases htouches : t.TouchesAt calls name n
    · simp only [lastAdmits_succ_of_touches htouches, exists_eq_left]
      rcases (touchesAt_iff hcall).mp htouches with hremove | ⟨s', hadmission⟩
      · have hnone : ((t.before calls n).step calls[n]).registry.get? name = none := by
          rw [hremove]
          exact Keyed.get?_remove_self _ name
        rw [hnone]
        refine ⟨fun h => (by cases h), ?_⟩
        rintro ⟨call, hcall', hadmission⟩
        obtain rfl := Option.some.inj (hcall.symm.trans hcall')
        rw [hremove] at hadmission
        cases hadmission
      · rw [get?_step_of_admission hadmission, AdmitsAt, hcall]
        simp [hadmission]
    · simp only [lastAdmits_succ_of_not_touches htouches]
      rw [get?_step_of_other fun h => htouches ((touchesAt_iff hcall).mpr h)]
      exact ih (Nat.le_of_succ_le hn)

theorem sound_start (ops : List Operation) {o : OverlayId}
    (ho : o < (Engine.initial.run ops).sites.size) : (start ops o).Sound where
  ascending := Keyed.ascending_nil
  named entry hentry := by cases hentry
  bound := ho
  parents :=
    Engine.run_induction (P := fun e => ∀ s, (e.parents s).Nodup)
      (fun _ op _ h => Engine.nodup_parents_step h op) fun _ => List.nodup_nil

section

variable (hsound : t.Sound)
  (hcalls : ∀ i call, calls[i]? = some call → (t.before calls i).Admissible call)
  (hn : n ≤ calls.length)

include hsound hcalls hn

theorem sound_before : (t.before calls n).Sound := by
  induction n with
  | zero => exact hsound
  | succ n ih =>
    have hcall : calls[n]? = some calls[n] := List.getElem?_eq_getElem hn
    rw [before_succ t hcall]
    exact (ih (Nat.le_of_succ_le hn)).step (hcalls n _ hcall)

theorem defaults_before : (t.before calls n).defaults = t.defaults := by
  induction n with
  | zero => rfl
  | succ n ih =>
    have hcall : calls[n]? = some calls[n] := List.getElem?_eq_getElem hn
    have hle := Nat.le_of_succ_le hn
    rw [before_succ t hcall, (sound_before hsound hcalls hle).defaults_step, ih hle]

/-- From its admission on a subject inherits from the overlay, while nobody unlinks the two. -/
theorem mem_parents_before (hi : i < n) (hadmits : t.AdmitsAt calls name s i)
    (hkept : ∀ j call, i < j → j < n → calls[j]? = some call → ¬ call.Unlinks s t.defaults) :
    s < (t.before calls n).engine.graph.contexts.size ∧
      t.defaults ∈ (t.before calls n).engine.parents s := by
  induction n with
  | zero => cases hi
  | succ n ih =>
    have hcall : calls[n]? = some calls[n] := List.getElem?_eq_getElem hn
    have hle := Nat.le_of_succ_le hn
    rw [before_succ t hcall]
    rcases Nat.lt_succ_iff_lt_or_eq.mp hi with hlt | rfl
    · obtain ⟨hs, hparent⟩ := ih hle hlt fun j call hij hj =>
        hkept j call hij (Nat.lt_succ_of_lt hj)
      exact ⟨Nat.lt_of_lt_of_le hs (size_step _ _),
        mem_parents_step hs hparent (hkept n _ hlt (Nat.lt_succ_self n) hcall)⟩
    · obtain ⟨call, hcall', hadmission⟩ := hadmits
      obtain rfl := Option.some.inj (hcall.symm.trans hcall')
      obtain ⟨hs, -, hparent⟩ := of_admission (hcalls i _ hcall) hadmission
      rw [defaults_before hsound hcalls hle] at hparent
      exact ⟨hs, hparent⟩

end

/-- Answers are current as long as nothing but questions follows after they were dropped. -/
theorem current_before (hn : n ≤ calls.length) (hi : i < n) (hdrop : calls[i]? = some .invalidateAll)
    (hasks : ∀ j call, i < j → j < n → calls[j]? = some call → call.Asks) :
    ∀ s ∈ (t.before calls n).listed, (t.before calls n).engine.Current s := by
  induction n with
  | zero => cases hi
  | succ n ih =>
    have hcall : calls[n]? = some calls[n] := List.getElem?_eq_getElem hn
    rw [before_succ t hcall]
    rcases Nat.lt_succ_iff_lt_or_eq.mp hi with hlt | rfl
    · have hask : calls[n].Asks := hasks n _ hlt (Nat.lt_succ_self n) hcall
      have hcurrent := ih (Nat.le_of_succ_le hn) hlt fun j call hij hj =>
        hasks j call hij (Nat.lt_succ_of_lt hj)
      intro s hs
      rw [listed, subjects_step_of_asks hask] at hs
      exact current_step_of_asks (hcurrent s hs) hask
    · obtain hdrop : calls[i] = .invalidateAll := Option.some.inj (hcall.symm.trans hdrop)
      rw [hdrop]
      exact fun s hs => Registry.current_invalidateAll _ _ hs

namespace Sound

theorem get?_eq_some_iff (h : t.Sound) :
    t.registry.get? name = some s ↔ (name, s) ∈ t.registry.subjects :=
  h.ascending.get?_eq_some_iff

theorem map_nameOf_listed (h : t.Sound) :
    t.listed.map t.engine.graph.nameOf = t.registry.subjects.map Prod.fst := by
  rw [listed, List.map_map]
  exact List.map_congr_left fun entry hentry => (h.named entry hentry).2

theorem listed_ascending (h : t.Sound) :
    (t.listed.map t.engine.graph.nameOf).Pairwise (· < ·) := by
  rw [h.map_nameOf_listed]
  exact List.pairwise_map.mpr h.ascending

theorem listed_nodup (h : t.Sound) : t.listed.Nodup := by
  refine (List.pairwise_map.mp h.listed_ascending).imp ?_
  rintro x _ hlt rfl
  exact String.lt_irrefl _ hlt

theorem mem_listed_iff (h : t.Sound) : s ∈ t.listed ↔ ∃ name, t.registry.get? name = some s := by
  simp only [h.get?_eq_some_iff, listed, List.mem_map, Prod.exists, exists_eq_right]

theorem nameOf_of_get? (h : t.Sound) (hget : t.registry.get? name = some s) :
    t.engine.graph.nameOf s = name := (h.named _ (h.get?_eq_some_iff.mp hget)).2

end Sound

/-- A name stands for the subject last taken in under it. The subjects are listed in the order of
their names. Each that was taken in, however often, inherits from the overlay once while nobody
unlinks the two. And while only questions were asked since all answers were dropped, the subjects
that hold a node are those of the list whose live answer is a grant. -/
theorem subjects_after_calls {ops : List Operation} {o : OverlayId} {calls : List RegistryCall}
    {n : Nat} (ho : o < (Engine.initial.run ops).sites.size)
    (hcalls : ∀ i call, calls[i]? = some call → ((start ops o).before calls i).Admissible call)
    (hn : n ≤ calls.length) :
    let t := start ops o
    let now := t.before calls n
    (∀ name s, now.registry.get? name = some s ↔ ∃ i, t.LastAdmits calls n name s i) ∧
      (∀ name s, now.registry.get? name = some s → now.engine.graph.nameOf s = name) ∧
      ((now.listed.map now.engine.graph.nameOf).Pairwise (· < ·) ∧ now.listed.Nodup ∧
        now.listed.length = now.registry.size ∧
        ∀ s, s ∈ now.listed ↔ ∃ name, now.registry.get? name = some s) ∧
      (∀ name s i, i < n → t.AdmitsAt calls name s i →
        (∀ j call, i < j → j < n → calls[j]? = some call → ¬ call.Unlinks s now.defaults) →
          (now.engine.parents s).count now.defaults = 1) ∧
      ∀ i, i < n → calls[i]? = some .invalidateAll →
        (∀ j call, i < j → j < n → calls[j]? = some call → call.Asks) →
        (∀ s ∈ now.listed, (now.engine.resolver (now.engine.resolverOf s)).Steady) →
          ∀ node, (now.registry.subjectsWithNode node now.engine).1 =
            .ok (now.listed.filter fun s => (now.engine.live s (lower node)).1 = .ok .allow) := by
  intro t now
  have hstart : t.Sound := sound_start ops ho
  have hsound : now.Sound := sound_before hstart hcalls hn
  have hdefaults : now.defaults = t.defaults := defaults_before hstart hcalls hn
  refine ⟨fun name s => get?_before rfl hn, fun name s => hsound.nameOf_of_get?,
    ⟨hsound.listed_ascending, hsound.listed_nodup, List.length_map _, fun s => hsound.mem_listed_iff⟩,
    fun name s i hi hadmits hkept => ?_, fun i hi hdrop hasks hsteady node => ?_⟩
  · rw [hdefaults] at hkept ⊢
    have hlinked := mem_parents_before hstart hcalls hn hi hadmits hkept
    exact List.count_eq_one_of_mem (hsound.parents s) hlinked.2
  · exact Registry.holders_of_current (current_before hn hi hdrop hasks)
      fun s hs => Engine.live_of_steady (hsteady s hs) (lower node)

def founding : List Operation :=
  [.addRepository (.memory ⟨Config.initial, 0, false, false⟩), .addOverlay 0,
    .addOverlayRule 0 ⟨"fly", true⟩]

/-- Alice leaves and comes back, another Bob takes the place of the first, and Alice loses `fly` past
her kept answer. -/
def reunion : List RegistryCall :=
  [.enrolNew "bob", .enrolNew "alice", .engine (.addSubject "bob" none), .remove "alice", .enrol 2,
    .enrol 3, .engine (.holds 2 "fly"),
    .engine (.addDatabase (.flat ⟨[("fly", [⟨"fly", false⟩])]⟩)),
    .engine (.setLayers (.context 2) [.database 0]), .invalidateAll, .subjectsWithNode "fly"]

theorem admissible_reunion (i : Nat) (call : RegistryCall) (h : reunion[i]? = some call) :
    ((start founding 0).before reunion i).Admissible call := by
  rintro s rfl
  obtain ⟨hi, hcall⟩ := List.getElem?_eq_some_iff.mp h
  change i < 11 at hi
  interval_cases i
  all_goals cases hcall
  all_goals decide +kernel

set_option maxRecDepth 10000 in
theorem subjects_after_reunion :
    let now := (start founding 0).before reunion 11
    0 < (Engine.initial.run founding).sites.size ∧
      (∀ i call, reunion[i]? = some call →
        ((start founding 0).before reunion i).Admissible call) ∧
      now.registry.get? "bob" = some 3 ∧ now.listed = [2, 3] ∧
      (now.engine.parents 2).count now.defaults = 1 ∧
      (now.registry.subjectsWithNode "Fly" now.engine).1 = .ok [3] := by
  intro now
  have ho : 0 < (Engine.initial.run founding).sites.size := by decide +kernel
  have hlisted : now.listed = [2, 3] := by decide +kernel
  have hbob : (start founding 0).AdmitsAt reunion "bob" 3 5 := ⟨_, rfl, by decide +kernel⟩
  have halice : (start founding 0).AdmitsAt reunion "alice" 2 4 := ⟨_, rfl, by decide +kernel⟩
  have hlast : ∀ j, 5 < j → j < 11 → ¬ (start founding 0).TouchesAt reunion "bob" j := by
    intro j hj hlt
    interval_cases j
    all_goals
      rintro (h | ⟨s, call, hcall, hadmission⟩)
      · cases h
      · cases hcall
        cases hadmission
  have hkept : ∀ j call, 4 < j → j < 11 → reunion[j]? = some call →
      ¬ call.Unlinks 2 now.defaults := by
    intro j call hj hlt hcall
    interval_cases j
    all_goals
      cases hcall
      exact id
  have hasks : ∀ j call, 9 < j → j < 11 → reunion[j]? = some call → call.Asks := by
    intro j call hj hlt hcall
    interval_cases j
    cases hcall
    trivial
  have hanswers : (now.engine.resolver (now.engine.resolverOf 2),
      now.engine.resolver (now.engine.resolverOf 3), (now.engine.live 2 "fly").1,
      (now.engine.live 3 "fly").1) = (.wildcard, .wildcard, .ok .deny, .ok .allow) := by
    cbv
  simp only [Prod.mk.injEq] at hanswers
  obtain ⟨halices, hbobs, hdeny, hallow⟩ := hanswers
  have hsteady : ∀ s ∈ now.listed,
      (now.engine.resolver (now.engine.resolverOf s)).Steady := by
    rw [hlisted]
    simp [halices, hbobs, Resolver.steady_wildcard]
  have hfly : lower "Fly" = "fly" := by decide +kernel
  obtain ⟨hget, -, -, hlinked, hholders⟩ :=
    subjects_after_calls (n := 11) ho admissible_reunion (by decide)
  refine ⟨ho, admissible_reunion, (hget "bob" 3).mpr ⟨5, by decide, hbob, hlast⟩, hlisted,
    hlinked "alice" 2 4 (by decide) halice hkept,
    (hholders 9 (by decide) rfl hasks hsteady "Fly").trans ?_⟩
  rw [hlisted, hfly, List.filter_cons, hdeny, List.filter_cons, hallow]
  rfl

end PermissionGraph.RegistryState
