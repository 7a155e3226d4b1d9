import PermissionGraph.Proofs.Overlay.Registration

/-!
# The rules in effect and the decisions

What an overlay lists as in effect is what its subjects are decided by. Both layers are tables of
rules recorded one after another: the entries of the configuration, and the registrations that no
removal took back. A subject with nothing but the overlay is decided by the nearest lookup that some
listed rule names and, where several do, by the first of them.
-/

namespace PermissionGraph

open Text

namespace Lookup

variable {look : String → Option Rule} {node w : String}

theorem isDecided_decide :
    (decide look node).isDecided = true ↔ ∃ w ∈ all node, (look w).isSome := by
  rw [← List.findSome?_isSome_iff, decide_eq]
  cases (all node).findSome? look with
  | none => simp [Decision.isDecided]
  | some r =>
    obtain ⟨_, b⟩ := r
    cases b <;> simp [Rule.decision, Decision.ofFlag, Decision.isDecided]

/-- The nearest lookup with a rule decides. -/
theorem decide_of_nearest (h : (all node).find? (fun w => (look w).isSome) = some w) :
    ∃ r, look w = some r ∧ decide look node = r.decision := by
  obtain ⟨hsome, nearer, farther, hsplit, hnone⟩ := List.find?_eq_some_iff_append.mp h
  obtain ⟨r, hr⟩ := Option.isSome_iff_exists.mp hsome
  have hfirst : (all node).findSome? look = some r :=
    List.findSome?_eq_some_iff.mpr ⟨nearer, w, farther, hsplit, hr, by simpa using hnone⟩
  refine ⟨r, hr, ?_⟩
  rw [decide_eq, hfirst, Option.elim_some]

end Lookup

namespace Overlay

variable {o : Overlay} {rules : List Rule}

namespace Records

theorem look (h : o.Records rules) (w : String) :
    (o.configured.get? w).or (o.plugin.get? w) =
      (o.config.rules.find? (·.node = w)).or (rules.find? (·.node = w)) := by
  simp [h.configured, h.plugin]

theorem mem_inEffect (h : o.Records rules) (henabled : o.enabled = true) {r : Rule} :
    r ∈ o.inEffect ↔ r ∈ o.config.rules ++ rules := by
  simp [inEffect, henabled, h.configured, h.plugin]

/-- A lookup finds a rule where some listed rule names it. -/
theorem isSome_look (h : o.Records rules) (henabled : o.enabled = true) (w : String) :
    ((o.configured.get? w).or (o.plugin.get? w)).isSome = o.inEffect.any (·.node = w) := by
  rw [h.look, ← List.find?_append, Bool.eq_iff_iff, List.find?_isSome, List.any_eq_true]
  simp only [h.mem_inEffect henabled]

/-- What a lookup finds is listed. -/
theorem mem_of_look (h : o.Records rules) (henabled : o.enabled = true) {w : String} {r : Rule}
    (hr : (o.configured.get? w).or (o.plugin.get? w) = some r) : r ∈ o.inEffect ∧ r.node = w := by
  rw [h.look, ← List.find?_append] at hr
  exact ⟨(h.mem_inEffect henabled).mpr (List.mem_of_find?_eq_some hr),
    by simpa using List.find?_some hr⟩

end Records

/-- A subject with nothing but an enabled overlay is decided just where a listed rule names a lookup,
and by the first entry of the configuration or else the first registration that names the nearest
such lookup. A disabled overlay lists nothing and decides nothing. -/
theorem inEffect_agrees (st : Storage σ) (s : σ) (calls : List Call) (e : Engine) (id : OverlayId)
    (subject : ContextId) (node : String)
    (ho : e.graph.overlay id = (performAll st calls (create st s)).1) (hown : e.OwnContext id)
    (hsubject : e.AttachedOnly subject id) :
    let o := e.graph.overlay id
    (o.enabled = true → ∃ d, (e.live subject node).1 = .ok d ∧
      (d.isDecided = true ↔ ∃ r ∈ o.inEffect, r.node ∈ Lookup.bySegments node) ∧
      ∀ w, (Lookup.bySegments node).find? (fun w => o.inEffect.any (·.node = w)) = some w →
        ∃ r ∈ o.inEffect, r.node = w ∧ d = r.decision ∧
          (o.config.rules.find? (·.node = w)).or ((registered calls).find? (·.node = w)) =
            some r) ∧
    (o.enabled = false → o.inEffect = [] ∧ (e.live subject node).1 = .ok .undecided) := by
  intro o
  have hrecords : o.Records (registered calls) := by
    have hperformed := records_performAll st s calls
    rwa [← ho] at hperformed
  have hlive : (e.live subject node).1 = .ok (if o.enabled then
      Lookup.decide (fun w => (o.configured.get? w).or (o.plugin.get? w)) node else .undecided) :=
    hsubject.live hown
  refine ⟨fun henabled => ?_, fun hdisabled => ?_⟩
  · refine ⟨_, hlive, ?_, fun w hw => ?_⟩
    · rw [if_pos henabled, Lookup.isDecided_decide, Lookup.all_eq_bySegments]
      simp only [hrecords.isSome_look henabled, List.any_eq_true, decide_eq_true_eq]
      constructor
      · rintro ⟨w, hw, r, hr, rfl⟩
        exact ⟨r, hr, hw⟩
      · rintro ⟨r, hr, hw⟩
        exact ⟨r.node, hw, r, hr, rfl⟩
    · rw [if_pos henabled]
      simp only [← hrecords.isSome_look henabled, ← Lookup.all_eq_bySegments] at hw
      obtain ⟨r, hr, hdecision⟩ := Lookup.decide_of_nearest hw
      obtain ⟨hmem, hnode⟩ := hrecords.mem_of_look henabled hr
      exact ⟨r, hmem, hnode, hdecision, hrecords.look w ▸ hr⟩
  · rw [hlive, inEffect, if_neg (by simp [hdisabled]), if_neg (by simp [hdisabled])]
    exact ⟨rfl, rfl⟩

def disputed : Engine :=
  ((stage.addOverlayRule 0 ⟨"Build.*", true⟩).configureDefault 0 "-build.*").2

theorem inEffect_agrees_disputed :
    let steve := disputed.addAttached "steve" 0
    let o := steve.2.graph.overlay 0
    o = (performAll (Store.storage 0) [.addRule ⟨"Build.*", true⟩, .addConfigured "-build.*"]
      (create (Store.storage 0) (Engine.initial.addRepository
        (.memory ⟨Config.initial, 0, false, false⟩)).2.store)).1 ∧
    steve.2.OwnContext 0 ∧ steve.2.AttachedOnly steve.1 0 ∧ o.enabled = true ∧
      (steve.2.live steve.1 "build.place").1 = .ok .deny := by
  intro steve o
  have ho : o = (performAll (Store.storage 0)
      [.addRule ⟨"Build.*", true⟩, .addConfigured "-build.*"]
      (create (Store.storage 0) (Engine.initial.addRepository
        (.memory ⟨Config.initial, 0, false, false⟩)).2.store)).1 := rfl
  have hown : steve.2.OwnContext 0 :=
    Engine.ownContext_addAttached (e := disputed) ownContext_stage "steve"
  have hsubject := Engine.attachedOnly_addAttached disputed "steve" 0
  have henabled : o.enabled = true := by decide +kernel
  refine ⟨ho, hown, hsubject, henabled, ?_⟩
  obtain ⟨d, hlive, -, hnearest⟩ :=
    (inEffect_agrees _ _ _ steve.2 0 steve.1 "build.place" ho hown hsubject).1 henabled
  obtain ⟨r, -, -, hd, hr⟩ := hnearest "build.*" (by decide +kernel)
  have hfirst : r = ⟨"build.*", false⟩ := by
    refine Option.some.inj (hr.symm.trans ?_)
    decide +kernel
  rw [hlive, hd, hfirst]
  rfl

end Overlay

end PermissionGraph
