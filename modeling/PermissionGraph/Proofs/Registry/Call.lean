import Mathlib.Data.List.Infix
import PermissionGraph.Proofs.Engine.Current
import PermissionGraph.Registry
import PermissionGraph.Proofs.Engine.Contexts
import PermissionGraph.Proofs.Engine.Fresh

/-!
# Calls of a registry

A registry that asks its subjects for a node asks one after another. It finds those whose live answer
is a grant, as long as all of them keep current answers only, which they do once a registry had them
drop what they kept.

A registry acts on the engine by operations, so what every operation keeps, its calls keep. A call
takes in one subject, drops one name or leaves the list of subjects alone.
-/

namespace PermissionGraph.Registry

open Text

variable {e : Engine} {node : String} {ss : List ContextId}

/-- Subjects are asked one after another, maybe not all of them. -/
theorem holders_snd (node : String) (ss : List ContextId) (e : Engine) :
    ∃ asked, (holders node ss e).2 = e.run asked ∧ ∀ op ∈ asked, op.Asks := by
  induction ss generalizing e with
  | nil => exact ⟨[], rfl, fun op hop => by cases hop⟩
  | cons s ss ih =>
    obtain ⟨asked, hrest, hasks⟩ := ih (e.holds s node).2
    rw [holders]
    split
    · next hs =>
      refine ⟨[.holds s node], (congrArg Prod.snd hs).symm, List.forall_mem_cons.mpr ⟨trivial, ?_⟩⟩
      exact fun op hop => by cases hop
    · next hs =>
      rw [hs] at hrest
      refine ⟨.holds s node :: asked, ?_, List.forall_mem_cons.mpr ⟨trivial, hasks⟩⟩
      rw [Engine.run, List.foldl_cons, Engine.step, hs, ← Engine.run, ← hrest]
      split
      · next hholders => rw [hholders]
      · next hholders => rw [hholders]

/-- Where all answers are current and every subject has one, the subjects that hold a node are those
whose live answer on it is a grant. -/
theorem holders_of_current (hcurrent : ∀ s ∈ ss, e.Current s)
    (hlive : ∀ s ∈ ss, ∃ d, (e.live s (lower node)).1 = .ok d) :
    (holders node ss e).1 = .ok (ss.filter fun s => (e.live s (lower node)).1 = .ok .allow) := by
  induction ss generalizing e with
  | nil => rfl
  | cons s ss ih =>
    obtain ⟨hself, hothers⟩ := List.forall_mem_cons.mp hcurrent
    obtain ⟨⟨d, hd⟩, hrest⟩ := List.forall_mem_cons.mp hlive
    have hgraph := Engine.graph_holds (e := e) (s := s) node
    have hsame : ∀ s', ((e.holds s node).2.live s' (lower node)).1 = (e.live s' (lower node)).1 :=
      fun s' => Engine.live_fst_of_graph _ s' _ hgraph
    have hholds : e.holds s node = (.ok d.isAllowed, (e.holds s node).2) :=
      Prod.ext (congrArg (Except.map Decision.isAllowed)
        ((hself.permission_fst node).trans hd)) rfl
    have htail := ih (e := (e.holds s node).2) (fun s' hs' => (hothers s' hs').permission s node)
      fun s' hs' => (hsame s').symm ▸ hrest s' hs'
    simp only [hsame] at htail
    rw [holders, hholds]
    simp only
    generalize holders node ss (e.holds s node).2 = rest at htail ⊢
    obtain ⟨result, e'⟩ := rest
    obtain rfl : result = _ := htail
    rw [List.filter_cons, hd]
    cases d <;> rfl

theorem invalidateAll_eq_run (r : Registry) (e : Engine) :
    r.invalidateAll e = e.run (r.subjects.map fun entry => .invalidateAll entry.2) := by
  rw [Engine.run, List.foldl_map]
  rfl

/-- Every subject of a registry keeps nothing but current answers once all are dropped. -/
theorem current_invalidateAll (r : Registry) (e : Engine) {s : ContextId}
    (hs : s ∈ r.subjects.map Prod.snd) : (r.invalidateAll e).Current s := by
  have hkept : ∀ (entries : Keyed String ContextId) (e : Engine), e.Current s →
      (entries.foldl (fun e entry => e.invalidateAll entry.2) e).Current s := by
    intro entries
    induction entries with
    | nil => exact fun e h => h
    | cons entry entries ih => exact fun e h => ih _ (h.invalidateAll entry.2)
  rw [invalidateAll]
  generalize r.subjects = entries at hs
  induction entries generalizing e with
  | nil => cases hs
  | cons entry entries ih =>
    rw [List.foldl_cons]
    rcases List.mem_cons.mp hs with rfl | hs
    · exact hkept entries _ (Engine.current_invalidateAll e entry.2)
    · exact ih (e.invalidateAll entry.2) hs

end PermissionGraph.Registry

namespace PermissionGraph

structure RegistryState where
  registry : Registry
  engine : Engine

inductive RegistryCall
  | enrolNew (name : String)
  | enrol (s : ContextId)
  | remove (name : String)
  | invalidateAll
  | subjectsWithNode (node : String)
  /-- Whatever else is done to the engine. -/
  | engine (op : Operation)

namespace RegistryCall

def Unlinks (s parent : ContextId) : RegistryCall → Prop
  | engine op => op.Unlinks s parent
  | _ => False

def Asks : RegistryCall → Prop
  | subjectsWithNode _ => True
  | engine op => op.Asks
  | _ => False

end RegistryCall

namespace RegistryState

def step (t : RegistryState) : RegistryCall → RegistryState
  | .enrolNew name =>
    let (_, r, e) := t.registry.enrolNew name t.engine
    ⟨r, e⟩
  | .enrol s =>
    let (r, e) := t.registry.enrol s t.engine
    ⟨r, e⟩
  | .remove name => ⟨(t.registry.remove name).2, t.engine⟩
  | .invalidateAll => ⟨t.registry, t.registry.invalidateAll t.engine⟩
  | .subjectsWithNode node => ⟨t.registry, (t.registry.subjectsWithNode node t.engine).2⟩
  | .engine op => ⟨t.registry, t.engine.step op⟩

def admission? (t : RegistryState) : RegistryCall → Option (String × ContextId)
  | .enrolNew name => some (name, (t.registry.enrolNew name t.engine).1)
  | .enrol s => some (t.engine.graph.nameOf s, s)
  | _ => none

def listed (t : RegistryState) : List ContextId := t.registry.subjects.map Prod.snd

def defaults (t : RegistryState) : ContextId := (t.engine.site t.registry.overlay).context

variable {t : RegistryState} {call : RegistryCall} {s : ContextId} {name : String}

theorem operations_step (t : RegistryState) (call : RegistryCall) :
    ∃ ops, (t.step call).engine = t.engine.run ops ∧
      ∀ op ∈ ops, (∀ s parent, op.Unlinks s parent → call.Unlinks s parent) ∧
        (call.Asks → op.Asks) := by
  cases call with
  | enrolNew name =>
    refine ⟨[.addSubject name none, .attach t.registry.overlay t.engine.graph.contexts.size], rfl, ?_⟩
    simp [Operation.Unlinks, RegistryCall.Asks]
  | enrol s =>
    refine ⟨[.attach t.registry.overlay s], rfl, ?_⟩
    simp [Operation.Unlinks, RegistryCall.Asks]
  | remove name => exact ⟨[], rfl, by simp⟩
  | invalidateAll =>
    refine ⟨_, t.registry.invalidateAll_eq_run t.engine, fun op hop => ?_⟩
    obtain ⟨entry, -, rfl⟩ := List.mem_map.mp hop
    exact ⟨fun _ _ hunlinks => False.elim hunlinks, fun hasks => False.elim hasks⟩
  | subjectsWithNode node =>
    obtain ⟨asked, hasked, hasks⟩ := Registry.holders_snd node t.listed t.engine
    refine ⟨asked, hasked, fun op hop => ⟨fun s parent hunlinks => ?_, fun _ => hasks op hop⟩⟩
    have hop := hasks op hop
    cases op <;> first | cases hunlinks; done | cases hop
  | engine op =>
    refine ⟨[op], rfl, ?_⟩
    simp [RegistryCall.Unlinks, RegistryCall.Asks]

/-- What the operations of a call keep, the call keeps. -/
theorem step_induction (t : RegistryState) (call : RegistryCall) {P : Engine → Prop}
    (hstep : ∀ e op, (∀ s parent, op.Unlinks s parent → call.Unlinks s parent) →
      (call.Asks → op.Asks) → P e → P (e.step op))
    (h : P t.engine) : P (t.step call).engine := by
  obtain ⟨ops, hops, hall⟩ := t.operations_step call
  rw [hops]
  exact Engine.run_induction (fun e op hop => hstep e op (hall op hop).1 (hall op hop).2) h

theorem overlay_step (t : RegistryState) (call : RegistryCall) :
    (t.step call).registry.overlay = t.registry.overlay := by
  cases call <;> rfl

theorem subjects_step_of_admission (h : t.admission? call = some (name, s)) :
    (t.step call).registry.subjects = t.registry.subjects.assignOrdered name s := by
  have hfiled : ∀ (e : Engine) s, (t.registry.enrol s e).1.subjects =
      t.registry.subjects.assignOrdered (e.graph.nameOf s) s := by
    intro e s
    rw [← Engine.nameOf_attach t.registry.overlay s s]
    rfl
  cases call with
  | enrolNew name' =>
    obtain ⟨rfl, rfl⟩ := Prod.mk.inj (Option.some.inj h)
    have hadmitted := hfiled (t.engine.addSubject name' none).2 (t.engine.addSubject name' none).1
    rw [Engine.nameOf_addSubject] at hadmitted
    exact hadmitted
  | enrol s' =>
    obtain ⟨rfl, rfl⟩ := Prod.mk.inj (Option.some.inj h)
    exact hfiled _ _
  | _ => cases h

/-- A call takes in a subject, drops a name or leaves the subjects as they are. -/
theorem subjects_step (t : RegistryState) (call : RegistryCall) :
    (∃ name s, t.admission? call = some (name, s) ∧
        (t.step call).registry.subjects = t.registry.subjects.assignOrdered name s) ∨
      (∃ name, call = .remove name ∧
        (t.step call).registry.subjects = t.registry.subjects.remove name) ∨
      (t.step call).registry.subjects = t.registry.subjects := by
  cases call with
  | enrolNew name => exact Or.inl ⟨_, _, rfl, subjects_step_of_admission rfl⟩
  | enrol s => exact Or.inl ⟨_, _, rfl, subjects_step_of_admission rfl⟩
  | remove name => exact Or.inr (Or.inl ⟨name, rfl, rfl⟩)
  | _ => exact Or.inr (Or.inr rfl)

theorem get?_step_of_admission (h : t.admission? call = some (name, s)) :
    (t.step call).registry.get? name = some s := by
  rw [Registry.get?, subjects_step_of_admission h]
  exact Keyed.get?_assignOrdered_self _ name s

def Touches (t : RegistryState) (name : String) (call : RegistryCall) : Prop :=
  call = .remove name ∨ ∃ s, t.admission? call = some (name, s)

theorem get?_step_of_other (h : ¬ t.Touches name call) :
    (t.step call).registry.get? name = t.registry.get? name := by
  rw [Registry.get?, Registry.get?]
  rcases t.subjects_step call with
    ⟨name', s, hadmission, hsubjects⟩ | ⟨name', hcall, hsubjects⟩ | hsubjects
  · have hname : name' ≠ name := fun hname => h (Or.inr ⟨s, hname ▸ hadmission⟩)
    rw [hsubjects]
    exact Keyed.get?_assignOrdered_of_ne _ hname s
  · have hname : name' ≠ name := fun hname => h (Or.inl (hname ▸ hcall))
    rw [hsubjects]
    exact Keyed.get?_remove_of_ne _ hname
  · rw [hsubjects]

end RegistryState

end PermissionGraph
