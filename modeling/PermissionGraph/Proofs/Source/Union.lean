import PermissionGraph.Source
import PermissionGraph.Proofs.Table.Record
import PermissionGraph.Proofs.Table.Listing

/-!
# The union of two groupings

A grouping is sound when each of its nodes has one group, with at least one rule, and every rule
stands once in the group of its own node. The table of a list is grouped so, and the union of two
sound groupings is sound. It holds for a node what the first one holds, and behind that what the
second one adds.
-/

namespace PermissionGraph.Groups

structure Sound (gs : Groups) : Prop where
  nodes : (gs.map Prod.fst).Nodup
  nonempty : ∀ g ∈ gs, g.2 ≠ []
  nodup : ∀ g ∈ gs, g.2.Nodup
  filed : gs.Filed

variable {gs hs : Groups} {node : String} {rules : List Rule} {r : Rule} {g : String × List Rule}

theorem sound_nil : Sound [] := ⟨List.nodup_nil, nofun, nofun, filed_nil⟩

theorem sound_byNode (h : rules.Nodup) : (byNode rules).Sound where
  nodes := by
    have hnodes : (byNode rules).map Prod.fst = (rules.map Rule.node).eraseDups := by
      rw [byNode, List.map_map]
      exact List.map_id _
    rw [hnodes]
    exact Priority.nodup_eraseDups _
  nonempty _ := ne_nil_of_mem_byNode
  nodup g hg := by
    obtain ⟨node, -, rfl⟩ := List.mem_map.mp hg
    exact h.filter _
  filed g hg r hr := by
    obtain ⟨node, -, rfl⟩ := List.mem_map.mp hg
    exact of_decide_eq_true (List.mem_filter.mp hr).2

theorem mem_of_lookup (h : gs.lookup node = some rules) : (node, rules) ∈ gs := by
  obtain ⟨before, after, rfl, -⟩ := List.lookup_eq_some_iff.mp h
  exact List.mem_append_right _ List.mem_cons_self

theorem rulesFor_of_lookup (h : gs.lookup node = some rules) : gs.rulesFor node = rules := by
  rw [rulesFor, h, Option.getD_some]

theorem head?_rulesFor (gs : Groups) (node : String) :
    (gs.rulesFor node).head? = (gs.lookup node).bind List.head? := by
  rw [rulesFor]
  cases gs.lookup node <;> rfl

theorem mem_rulesFor_iff :
    r ∈ gs.rulesFor node ↔ ∃ rules, gs.lookup node = some rules ∧ r ∈ rules := by
  rw [rulesFor]
  cases gs.lookup node <;> simp

theorem mem_of_rulesFor_ne_nil (h : gs.rulesFor node ≠ []) : (node, gs.rulesFor node) ∈ gs := by
  cases hl : gs.lookup node with
  | none =>
    rw [rulesFor, hl, Option.getD_none] at h
    exact absurd rfl h
  | some rules =>
    rw [rulesFor_of_lookup hl]
    exact mem_of_lookup hl

theorem rulesFor_of_not_mem (h : node ∉ gs.map Prod.fst) : gs.rulesFor node = [] := by
  by_contra hne
  exact h (List.mem_map.mpr ⟨_, mem_of_rulesFor_ne_nil hne, rfl⟩)

namespace Sound

theorem rulesFor_of_mem (h : gs.Sound) (hg : g ∈ gs) : gs.rulesFor g.1 = g.2 :=
  rulesFor_of_lookup (Keyed.lookup_of_mem_of_nodup h.nodes hg)

/-- A node has a group where it has rules. -/
theorem lookup_eq (h : gs.Sound) (node : String) :
    gs.lookup node = if gs.rulesFor node = [] then none else some (gs.rulesFor node) := by
  cases hl : gs.lookup node with
  | none => rw [rulesFor, hl, Option.getD_none, if_pos rfl]
  | some rules => rw [rulesFor_of_lookup hl, if_neg (h.nonempty _ (mem_of_lookup hl))]

theorem head?_eq_none_iff (h : gs.Sound) (node : String) :
    (gs.rulesFor node).head? = none ↔ gs.lookup node = none := by
  rw [List.head?_eq_none_iff, h.lookup_eq]
  by_cases hnil : gs.rulesFor node = [] <;> simp [hnil]

theorem nodup_rulesFor (h : gs.Sound) (node : String) : (gs.rulesFor node).Nodup := by
  by_cases hnil : gs.rulesFor node = []
  · rw [hnil]
    exact List.nodup_nil
  · exact h.nodup _ (mem_of_rulesFor_ne_nil hnil)

theorem node_of_mem (h : gs.Sound) (hr : r ∈ gs.rulesFor node) : r.node = node :=
  h.filed _ (mem_of_rulesFor_ne_nil (List.ne_nil_of_mem hr)) r hr

theorem mem_rules_iff (h : gs.Sound) : r ∈ Groups.rules gs ↔ r ∈ gs.rulesFor r.node := by
  rw [Groups.rules, List.mem_flatMap]
  constructor
  · rintro ⟨g, hg, hr⟩
    rwa [h.filed g hg r hr, h.rulesFor_of_mem hg]
  · intro hr
    exact ⟨_, mem_of_rulesFor_ne_nil (List.ne_nil_of_mem hr), hr⟩

end Sound

theorem rulesFor_mergeGroup_self (node : String) (rules : List Rule) (gs : Groups) :
    rulesFor node (mergeGroup node rules gs) =
      rules.foldl Priority.withLast (rulesFor node gs) := by
  induction gs with
  | nil =>
    rw [mergeGroup, rulesFor_cons, if_pos rfl]
    rfl
  | cons g gs ih =>
    obtain ⟨n, rs⟩ := g
    by_cases h : n = node
    · simp only [mergeGroup, rulesFor_cons, if_pos h]
      rfl
    · simp [mergeGroup, h, ih]

theorem rulesFor_mergeGroup_of_ne {node' : String} (h : node ≠ node') (rules : List Rule)
    (gs : Groups) : rulesFor node' (mergeGroup node rules gs) = rulesFor node' gs := by
  induction gs with
  | nil => simp [mergeGroup, h]
  | cons g gs ih =>
    obtain ⟨n, rs⟩ := g
    by_cases hn : n = node <;> simp [mergeGroup, hn, h, ih]

theorem map_fst_mergeGroup (node : String) (rules : List Rule) (gs : Groups) :
    (mergeGroup node rules gs).map Prod.fst = Priority.withLast (gs.map Prod.fst) node := by
  induction gs with
  | nil => rfl
  | cons g gs ih =>
    obtain ⟨n, rs⟩ := g
    rw [mergeGroup]
    by_cases h : n = node
    · subst h
      rw [if_pos rfl, List.map_cons, List.map_cons, Priority.withLast_of_mem List.mem_cons_self]
    · rw [if_neg h, List.map_cons, List.map_cons, Priority.withLast_cons_of_ne h, ih]

theorem mem_mergeGroup (h : g ∈ mergeGroup node rules gs) :
    g ∈ gs ∨ g = (node, rules.foldl Priority.withLast (rulesFor node gs)) := by
  induction gs with
  | nil => exact Or.inr (List.mem_singleton.mp h)
  | cons g' gs ih =>
    obtain ⟨n, rs⟩ := g'
    rw [mergeGroup] at h
    by_cases hn : n = node
    · rw [if_pos hn] at h
      rw [rulesFor_cons, if_pos hn, ← hn]
      exact (List.mem_cons.mp h).symm.imp_left (List.mem_cons_of_mem _)
    · rw [if_neg hn] at h
      rw [rulesFor_cons, if_neg hn]
      rcases List.mem_cons.mp h with rfl | h
      · exact Or.inl List.mem_cons_self
      · exact (ih h).imp_left (List.mem_cons_of_mem _)

theorem Sound.mergeGroup (h : gs.Sound) (hrules : rules ≠ []) (hnode : ∀ r ∈ rules, r.node = node) :
    (mergeGroup node rules gs).Sound := by
  have hjoined : rules.foldl Priority.withLast (gs.rulesFor node) =
      (gs.rulesFor node ++ rules).eraseDups := Priority.foldl_withLast (h.nodup_rulesFor node) rules
  refine ⟨?_, fun g hg => ?_, fun g hg => ?_, fun g hg r hr => ?_⟩
  · rw [map_fst_mergeGroup]
    exact Priority.nodup_withLast h.nodes node
  · rcases mem_mergeGroup hg with hg | rfl
    · exact h.nonempty g hg
    · obtain ⟨r, hr⟩ := List.exists_mem_of_ne_nil rules hrules
      rw [hjoined]
      exact List.ne_nil_of_mem (List.mem_eraseDups.mpr (List.mem_append_right _ hr))
  · rcases mem_mergeGroup hg with hg | rfl
    · exact h.nodup g hg
    · rw [hjoined]
      exact Priority.nodup_eraseDups _
  · rcases mem_mergeGroup hg with hg | rfl
    · exact h.filed g hg r hr
    · rw [hjoined, List.mem_eraseDups, List.mem_append] at hr
      exact hr.elim h.node_of_mem (hnode r)

theorem Sound.union (h : gs.Sound) (hnonempty : ∀ g ∈ hs, g.2 ≠ []) (hfiled : hs.Filed) :
    (gs.union hs).Sound := by
  induction hs generalizing gs with
  | nil => exact h
  | cons g hs ih =>
    have hg : g ∈ g :: hs := List.mem_cons_self
    apply ih (h.mergeGroup (hnonempty g hg) (hfiled g hg))
    · exact fun g hg => hnonempty g (List.mem_cons_of_mem _ hg)
    · exact fun g hg => hfiled g (List.mem_cons_of_mem _ hg)

theorem rulesFor_union (hnodes : (hs.map Prod.fst).Nodup) (gs : Groups) (node : String) :
    rulesFor node (gs.union hs) =
      (rulesFor node hs).foldl Priority.withLast (rulesFor node gs) := by
  induction hs generalizing gs with
  | nil => rfl
  | cons g hs ih =>
    obtain ⟨n, rs⟩ := g
    obtain ⟨hn, hnodes⟩ := List.nodup_cons.mp hnodes
    have hstep : gs.union ((n, rs) :: hs) = (Groups.mergeGroup n rs gs).union hs := rfl
    rw [hstep, ih hnodes, rulesFor_cons]
    by_cases h : n = node
    · subst h
      rw [if_pos rfl, rulesFor_of_not_mem hn, rulesFor_mergeGroup_self]
      rfl
    · rw [if_neg h, rulesFor_mergeGroup_of_ne h]

end PermissionGraph.Groups
