import PermissionGraph.Proofs.Command.Nodes
import PermissionGraph.Proofs.Engine.Fresh
import PermissionGraph.Proofs.Engine.Held

/-!
# Authorization

A command consults a subject's answers for the nodes that decide whether it is open, in their order
and no others. Its three uses take the same decision and leave the same checks behind. They take it
again later, whatever the graph has become, until an answer that was consulted is dropped.
-/

namespace PermissionGraph

open Text

namespace Command

open Engine (checks)

variable {e : Engine} {s : ContextId} {c c' : Command} {held : String → Bool} {wanted : Bool}
  {ns : List String}

theorem meets_eq (h : e.Ready s)
    (hheld : ∀ node ∈ consultedFor held wanted ns, (e.holds s node).1 = .ok (held node)) :
    meets s wanted ns e =
      (.ok (ns.any (held · == wanted)), e.run (checks s (consultedFor held wanted ns))) := by
  induction ns generalizing e with
  | nil => rfl
  | cons n ns ih =>
    rw [consultedFor] at hheld
    rw [meets, consultedFor, List.any_cons]
    by_cases hn : held n = wanted
    · rw [if_pos hn] at hheld ⊢
      have hholds : e.holds s n = (.ok (held n), e.step (.holds s n)) :=
        Prod.ext (hheld n (List.mem_singleton_self n)) rfl
      simp only [hholds, if_pos hn]
      rw [hn, beq_self_eq_true, Bool.true_or]
      rfl
    · rw [if_neg hn] at hheld ⊢
      obtain ⟨hfirst, hrest⟩ := List.forall_mem_cons.mp hheld
      have hholds : e.holds s n = (.ok (held n), e.step (.holds s n)) := Prod.ext hfirst rfl
      have hlater : ∀ node ∈ consultedFor held wanted ns,
          ((e.step (.holds s n)).holds s node).1 = .ok (held node) := by
        intro node hnode
        rw [Engine.holds_step_holds h]
        exact hrest node hnode
      simp only [hholds, if_neg hn]
      rw [ih (h.step _) hlater, beq_false_of_ne hn, Bool.false_or]
      rfl

theorem permits_eq (h : e.Ready s)
    (hheld : ∀ node ∈ c.consulted held, (e.holds s node).1 = .ok (held node)) :
    c.permits s e = (.ok (c.opensTo held), e.run (checks s (c.consulted held))) := by
  by_cases hempty : c.nodes = []
  · simp [permits, opensTo, consulted, consultedFor, hempty, checks, Engine.run]
  · have hmeets : meets s (!c.requireAll) c.nodes e =
        (.ok (c.nodes.any (held · == !c.requireAll)), e.run (checks s (c.consulted held))) :=
      meets_eq h hheld
    have hnonempty : c.nodes.isEmpty = false := by simpa using hempty
    rw [permits, hnonempty, opensTo_of_nonempty hempty]
    cases hall : c.requireAll with
    | false =>
      rw [hall, Bool.not_false] at hmeets
      simp only [hmeets, Bool.not_false, Bool.false_xor, Bool.false_eq_true, if_false]
    | true =>
      rw [hall, Bool.not_true] at hmeets
      simp only [hmeets, Bool.not_true, Bool.true_xor, Bool.false_eq_true, if_false, if_true]
      rfl

/-- All uses of a command take one decision, and leave the checks of these nodes behind. -/
structure UsesAgree (c : Command) (s : ContextId) (e : Engine) (permitted : Bool)
    (refusal : Failure) (nodes : List String) : Prop where
  permits : c.permits s e = (.ok permitted, e.run (checks s nodes))
  check : c.check s e =
    (.ok (if permitted then .ok () else .error refusal), e.run (checks s nodes))
  /-- What is run finds the checks made, and what it returns is passed on. -/
  execute : ∀ {α : Type} (body : Engine → Except Failure α × Engine),
    let e' := e.run (checks s nodes)
    c.execute s body e =
      if permitted then (.ok (.ran (body e').1), (body e').2) else (.ok .denied, e')

theorem usesAgree (h : e.Ready s)
    (hheld : ∀ node ∈ c.consulted held, (e.holds s node).1 = .ok (held node)) :
    c.UsesAgree s e (c.opensTo held) (c.refusal (e.graph.nameOf s)) (c.consulted held) where
  permits := permits_eq h hheld
  check := by
    rw [check, permits_eq h hheld, ← Engine.nameOf_run h.known (checks s (c.consulted held))]
    rfl
  execute body := by
    rw [execute, permits_eq h hheld]
    cases c.opensTo held <;> rfl

theorem opensTo_of_lower (hall : c'.requireAll = c.requireAll)
    (hnodes : ∀ k, k ∈ c'.nodes.map lower ↔ k ∈ c.nodes.map lower)
    (hheld : ∀ m n, lower m = lower n → held m = held n) (h : c.opensTo held = true) :
    c'.opensTo held = true := by
  have hsame : ∀ n ∈ c'.nodes, ∃ m ∈ c.nodes, lower m = lower n := fun n hn =>
    List.mem_map.mp ((hnodes (lower n)).mp (List.mem_map_of_mem hn))
  rw [opensTo_iff] at h ⊢
  rw [hall]
  rcases h with hempty | ⟨hreq, hholds⟩ | ⟨hreq, m, hm, hholds⟩
  · refine Or.inl (List.eq_nil_iff_forall_not_mem.mpr fun n hn => ?_)
    obtain ⟨m, hm, -⟩ := hsame n hn
    rw [hempty] at hm
    cases hm
  · refine Or.inr (Or.inl ⟨hreq, fun n hn => ?_⟩)
    obtain ⟨m, hm, hlower⟩ := hsame n hn
    exact (hheld m n hlower).symm.trans (hholds m hm)
  · obtain ⟨n, hn, hlower⟩ := List.mem_map.mp ((hnodes (lower m)).mpr (List.mem_map_of_mem hm))
    exact Or.inr (Or.inr ⟨hreq, n, hn, (hheld n m hlower).trans hholds⟩)

/-- Only the lower-cased nodes matter where answers do not depend on the spelling. -/
theorem opensTo_congr_lower (hall : c'.requireAll = c.requireAll)
    (hnodes : ∀ k, k ∈ c'.nodes.map lower ↔ k ∈ c.nodes.map lower)
    (hheld : ∀ m n, lower m = lower n → held m = held n) :
    c'.opensTo held = c.opensTo held :=
  Bool.eq_iff_iff.mpr ⟨opensTo_of_lower hall.symm (fun k => (hnodes k).symm) hheld,
    opensTo_of_lower hall hnodes hheld⟩

/-- A command is open where it has no nodes, where all must be held and are, or where one must be
held and is. It consults nodes in ascending order, those of the shortest part that decides, each
with one check that counts as a hit or, where no answer was kept, as a miss. Spellings of a node are
as good as one another. All uses of a command take the same decision, and take it again after any
operations that drop no answer that was consulted. -/
theorem authorization (e : Engine) (subject command : String) (resolver : Option ResolverId)
    (ops : List Operation) (edits : List Edit) :
    let s := (e.addSubject subject resolver).1
    let e := (e.addSubject subject resolver).2.run ops
    let c := (Command.named command).edited edits
    let permitted := c.opensTo (e.held s)
    let refusal := Failure.permissionDenied subject command
    let consulted := c.consulted (e.held s)
    let e' := e.run (checks s consulted)
    (∀ node ∈ c.nodes, e.Resolves s (lower node)) →
    (permitted = true ↔
      c.nodes = [] ∨ (c.requireAll = true ∧ ∀ node ∈ c.nodes, (e.holds s node).1 = .ok true) ∨
        (c.requireAll = false ∧ ∃ node ∈ c.nodes, (e.holds s node).1 = .ok true)) ∧
    (c.nodes.Pairwise (· < ·) ∧ consulted <+: c.nodes) ∧
    (c.Decides (e.held s) consulted ∧
      ∀ nodes, nodes <+: c.nodes → c.Decides (e.held s) nodes → consulted <+: nodes) ∧
    c.UsesAgree s e permitted refusal consulted ∧
    (∀ before node after, consulted = before ++ node :: after →
      let now := e.run (checks s before)
      ((now.step (.holds s node)).cache s).stats =
        (now.cache s).stats.checked ((now.cache s).get? (lower node)).isSome) ∧
    ((e'.cache s).hits + (e'.cache s).misses =
        (e.cache s).hits + (e.cache s).misses + consulted.length ∧
      (e'.cache s).misses = (e.cache s).misses + (e.unkept s consulted).card) ∧
    (∀ c' : Command, c'.requireAll = c.requireAll →
      (∀ k, k ∈ c'.nodes.map lower ↔ k ∈ c.nodes.map lower) →
      (c'.permits s e).1 = .ok permitted) ∧
    ∀ later, (∀ node ∈ consulted, ∀ n, ¬ e'.DropsAt later s (lower node) n) →
      c.UsesAgree s (e'.run later) permitted refusal consulted := by
  intro s e₁ c permitted refusal consulted e' hresolves
  obtain ⟨hbegin, -⟩ := e.ready_addSubject subject resolver
  have hready : e₁.Ready s := hbegin.run ops
  have hname : e₁.graph.nameOf s = subject :=
    (Engine.nameOf_run hbegin.known ops).trans (Engine.nameOf_addSubject e subject resolver)
  obtain ⟨hascending, hcommand⟩ :=
    ascending_edited (c := Command.named command) List.Pairwise.nil edits
  have hrefusal : c.refusal subject = refusal :=
    congrArg (Failure.permissionDenied subject) hcommand
  have hheld : ∀ node ∈ c.nodes, (e₁.holds s node).1 = .ok (e₁.held s node) :=
    fun node hnode => Engine.holds_of_resolves hready (hresolves node hnode)
  have hinitial : consulted <+: c.nodes := consultedFor_initial
  have hconsulted : ∀ node ∈ consulted, (e₁.holds s node).1 = .ok (e₁.held s node) :=
    fun node hnode => hheld node (hinitial.subset hnode)
  have hanswers : ∀ node ∈ consulted, ∃ answer, (e₁.holds s node).1 = .ok answer :=
    fun node hnode => ⟨_, hconsulted node hnode⟩
  refine ⟨?decision, ⟨hascending, hinitial⟩,
    ⟨decides_consulted c _, fun nodes hnodes hdecides => ?least⟩, ?uses,
    fun before node after hsplit => ?counted, Engine.stats_run_checks hready hanswers,
    fun c' hall hlower => ?spelling, fun later hdrop => ?later⟩
  case decision =>
    have hiff : ∀ node ∈ c.nodes,
        (e₁.held s node = true ↔ (e₁.holds s node).1 = .ok true) := by
      intro node hnode
      rw [hheld node hnode, Except.ok.injEq]
    rw [opensTo_iff, forall₂_congr hiff, exists_congr fun node => and_congr_right (hiff node)]
  case least =>
    have hnodup : c.nodes.Nodup := hascending.imp ne_of_lt
    exact consulted_least hnodup hnodes hdecides
  case uses =>
    rw [← hrefusal, ← hname]
    exact usesAgree hready hconsulted
  case counted =>
    have hnode : node ∈ consulted := hsplit ▸ List.mem_append_right _ List.mem_cons_self
    apply Engine.stats_step_holds (hready.run _)
    exact (Engine.holds_run_checks hready before node).trans (hconsulted node hnode)
  case spelling =>
    have hheld' : ∀ node ∈ c'.nodes, (e₁.holds s node).1 = .ok (e₁.held s node) := by
      intro node hnode
      obtain ⟨m, hm, hsame⟩ :=
        List.mem_map.mp ((hlower (lower node)).mp (List.mem_map_of_mem hnode))
      exact Engine.holds_of_resolves hready (hsame ▸ hresolves m hm)
    have hpermits := permits_eq hready fun node hnode =>
      hheld' node (consultedFor_initial.subset hnode)
    rw [hpermits, opensTo_congr_lower hall hlower fun m n => Engine.held_congr_lower]
  case later =>
    -- the resolver is not asked again, so nothing is assumed of what has become of it
    have hkept : ∀ node ∈ consulted, ((e'.run later).holds s node).1 = .ok (e₁.held s node) :=
      fun node hnode => Engine.holds_run_of_checked hready hnode (hconsulted node hnode)
        (hdrop node hnode)
    have hname' : (e'.run later).graph.nameOf s = subject :=
      (Engine.nameOf_run (hready.run _).known later).trans
        ((Engine.nameOf_run hready.known _).trans hname)
    rw [← hrefusal, ← hname']
    exact usesAgree ((hready.run _).run later) hkept

def soar : Command :=
  (Command.named "soar").edited
    [.addNode "fly", .addNode "walk", .addNode "Fly", .removeNode "walk", .setRequireAll true]

def soarRun : List Operation :=
  [.addDatabase (.flat ⟨[("fly", [⟨"fly", true⟩])]⟩), .setLayers (.context 0) [.database 0]]

/-- A subject with a grant, just before the command is asked for. -/
def takeoff : Engine := (Engine.initial.addSubject "ann" none).2.run soarRun

def stall : Engine :=
  (takeoff.run (checks 0 ["Fly", "fly"])).run [.setTable 0 Table.empty]

/-- The second spelling is a hit, and the command stays open when the grant is gone. -/
theorem authorization_soar :
    (∀ node ∈ soar.nodes, takeoff.Resolves 0 (lower node)) ∧
      soar.UsesAgree 0 takeoff true (.permissionDenied "ann" "soar") ["Fly", "fly"] ∧
      (stall.cache 0).stats = ⟨1, 1, 0, 1⟩ ∧ (stall.live 0 "fly").1 = .ok .undecided ∧
      soar.UsesAgree 0 stall true (.permissionDenied "ann" "soar") ["Fly", "fly"] := by
  have hresolver : takeoff.resolver (takeoff.resolverOf 0) = .wildcard := rfl
  have hresolves : ∀ node ∈ soar.nodes, takeoff.Resolves 0 (lower node) := by
    intro node _
    apply Engine.resolves_of_steady
    rw [hresolver]
    exact Resolver.steady_wildcard
  have hconsulted : soar.consulted (takeoff.held 0) = ["Fly", "fly"] := by cbv
  have hopen : soar.opensTo (takeoff.held 0) = true := by cbv
  have hstats : (stall.cache 0).stats = ⟨1, 1, 0, 1⟩ := by cbv
  have hgone : (stall.live 0 "fly").1 = .ok .undecided := by cbv
  have hkept : ∀ node ∈ soar.consulted (takeoff.held 0), ∀ n,
      ¬ (takeoff.run (checks 0 (soar.consulted (takeoff.held 0)))).DropsAt
        [.setTable 0 Table.empty] 0 (lower node) n := by
    rintro node - n ⟨op, hop, hdrop⟩
    obtain rfl := List.mem_singleton.mp (List.mem_of_getElem? hop)
    exact hdrop
  obtain ⟨-, -, -, huses, -, -, -, hlater⟩ :=
    authorization Engine.initial "ann" "soar" none soarRun
      [.addNode "fly", .addNode "walk", .addNode "Fly", .removeNode "walk", .setRequireAll true]
      hresolves
  have huses : soar.UsesAgree 0 takeoff (soar.opensTo (takeoff.held 0))
    (.permissionDenied "ann" "soar") (soar.consulted (takeoff.held 0)) := huses
  have hagain : soar.UsesAgree 0
    ((takeoff.run (checks 0 (soar.consulted (takeoff.held 0)))).run [.setTable 0 Table.empty])
    (soar.opensTo (takeoff.held 0)) (.permissionDenied "ann" "soar")
    (soar.consulted (takeoff.held 0)) := hlater [.setTable 0 Table.empty] hkept
  rw [hconsulted, hopen] at huses hagain
  exact ⟨hresolves, huses, hstats, hgone, hagain⟩

end Command

end PermissionGraph
