import PermissionGraph.Proofs.Resolution.Tables
import PermissionGraph.Proofs.Source.Union

/-!
# Three views of a source

A source can be asked for the rule of one node, for its rules under their nodes, and for all of its
rules. Each view is a recursion of its own over the nested layers, and they agree: what decides is
the first rule of a group, a node without a group has no rule, and the rules are those of the
groups. The group of a node in a list of layers is the groups of the layers one after the other,
without later repetitions.
-/

namespace PermissionGraph

def Table.Built (t : Table) : Prop := ∃ calls, t = Table.after calls

theorem Table.Built.sound {t : Table} (h : t.Built) : t.groups.Sound := by
  obtain ⟨calls, rfl⟩ := h
  have hnodup := TableCall.nodup_rulesAfter calls
  rw [after_eq_recorded, groups_recorded hnodup]
  exact Groups.sound_byNode hnodup

namespace Source

def Built (s : Source) : Prop := ∀ t ∈ s.tables, t.Built

structure Agrees (s : Source) : Prop where
  sound : s.groups.Sound
  get? : ∀ node, s.get? node = (s.groups.rulesFor node).head?
  mem_rules : ∀ r, r ∈ s.rules ↔ r ∈ s.groups.rulesFor r.node

variable {ss : List Source} {r : Rule}

theorem tablesOf_eq_flatMap (ss : List Source) : tablesOf ss = ss.flatMap tables := by
  have hmap := tablesOf_map id ss
  rwa [List.map_id] at hmap

theorem getFirst?_eq_head? {node : String}
    (h : ∀ s ∈ ss, s.get? node = (s.groups.rulesFor node).head?) :
    getFirst? node ss = (ss.flatMap fun s => s.groups.rulesFor node).head? := by
  induction ss with
  | nil => rfl
  | cons s ss ih =>
    obtain ⟨hs, hss⟩ := List.forall_mem_cons.mp h
    rw [getFirst?, ih hss, hs, List.flatMap_cons, List.head?_append]

theorem mem_rulesOf : r ∈ rulesOf ss ↔ ∃ s ∈ ss, r ∈ s.rules := by
  induction ss with
  | nil => simp [rulesOf]
  | cons s ss ih => rw [rulesOf, List.mem_append, ih, List.exists_mem_cons_iff]

theorem sound_unionOf (h : ∀ s ∈ ss, s.groups.Sound) {gs : Groups} (hgs : gs.Sound) :
    (unionOf gs ss).Sound := by
  induction ss generalizing gs with
  | nil => exact hgs
  | cons s ss ih =>
    obtain ⟨hs, hss⟩ := List.forall_mem_cons.mp h
    exact ih hss (hgs.union hs.nonempty hs.filed)

theorem rulesFor_unionOf (h : ∀ s ∈ ss, s.groups.Sound) (gs : Groups) (node : String) :
    (unionOf gs ss).rulesFor node =
      (ss.flatMap fun s => s.groups.rulesFor node).foldl Priority.withLast (gs.rulesFor node) := by
  induction ss generalizing gs with
  | nil => rfl
  | cons s ss ih =>
    obtain ⟨hs, hss⟩ := List.forall_mem_cons.mp h
    rw [unionOf, ih hss, Groups.rulesFor_union hs.nodes, List.flatMap_cons, List.foldl_append]

/-- The group of a node is the groups of the layers one after the other, without later
repetitions. -/
theorem rulesFor_layers (h : ∀ s ∈ ss, s.groups.Sound) (node : String) :
    (layers ss).groups.rulesFor node = (ss.flatMap fun s => s.groups.rulesFor node).eraseDups := by
  rw [groups, rulesFor_unionOf h]
  exact Priority.foldl_withLast List.nodup_nil _

theorem agrees_table {t : Table} (h : t.groups.Sound) : (table t).Agrees where
  sound := h
  get? node := by
    rw [get?]
    rfl
  mem_rules _ := h.mem_rules_iff

theorem agrees_layers (h : ∀ s ∈ ss, s.Agrees) : (layers ss).Agrees := by
  have hsound : ∀ s ∈ ss, s.groups.Sound := fun s hs => (h s hs).sound
  refine ⟨sound_unionOf hsound Groups.sound_nil, fun node => ?_, fun r => ?_⟩
  · rw [get?, getFirst?_eq_head? fun s hs => (h s hs).get? node, rulesFor_layers hsound,
      Priority.head?_eraseDups]
  · rw [rules, mem_rulesOf, rulesFor_layers hsound]
    simp only [List.mem_eraseDups, List.mem_flatMap]
    exact exists_congr fun s => and_congr_right fun hs => (h s hs).mem_rules r

mutual

theorem agrees_of_built : ∀ s : Source, s.Built → s.Agrees
  | table t, h => agrees_table (h t (List.mem_singleton_self t)).sound
  | layers ss, h => agrees_layers (agrees_of_built_all ss h)

theorem agrees_of_built_all :
    ∀ ss : List Source, (∀ t ∈ tablesOf ss, t.Built) → ∀ s ∈ ss, s.Agrees
  | [], _ => nofun
  | s :: ss, h => List.forall_mem_cons.mpr
    ⟨agrees_of_built s fun t ht => h t (List.mem_append_left _ ht),
      agrees_of_built_all ss fun t ht => h t (List.mem_append_right _ ht)⟩

end

end Source

namespace Graph

structure TablesBuilt (g : Graph) : Prop where
  flat : ∀ (d : DatabaseId) (t : Table), g.databases[d]? = some (.flat t) → t.Built
  configured : ∀ o, (g.overlay o).configured.Built
  plugin : ∀ o, (g.overlay o).plugin.Built

variable {g : Graph}

theorem built_layers {ss : List Source} (h : ∀ s ∈ ss, s.Built) : (Source.layers ss).Built := by
  intro t ht
  rw [Source.tables, Source.tablesOf_eq_flatMap, List.mem_flatMap] at ht
  obtain ⟨s, hs, ht⟩ := ht
  exact h s hs t ht

theorem built_table {t : Table} (h : t.Built) : (Source.table t).Built := by
  intro t' ht'
  rw [List.mem_singleton.mp ht']
  exact h

theorem TablesBuilt.expand (h : g.TablesBuilt) (depth : ℕ) (layer : Layer) :
    (g.expand depth layer).Built := by
  have hnone : (Source.layers []).Built := built_layers nofun
  induction depth generalizing layer with
  | zero =>
    cases layer with
    | configured o => simpa only [Graph.expand] using built_table (h.configured o)
    | plugin o => simpa only [Graph.expand] using built_table (h.plugin o)
    | database d => exact hnone
  | succ depth ih =>
    cases layer with
    | configured o => exact built_table (h.configured o)
    | plugin o => exact built_table (h.plugin o)
    | database d =>
      rw [Graph.expand]
      split
      · next t hd => exact built_table (h.flat d t hd)
      · next layers hd =>
        apply built_layers
        intro s hs
        obtain ⟨layer, -, rfl⟩ := List.mem_map.mp hs
        exact ih layer
      · exact hnone

end Graph

namespace Engine

variable {e : Engine}

theorem built_source (h : e.graph.TablesBuilt) (owner : LayerOwner) : (e.source owner).Built := by
  cases owner with
  | database d => exact h.expand _ _
  | context c =>
    apply Graph.built_layers
    intro s hs
    obtain ⟨layer, -, rfl⟩ := List.mem_map.mp hs
    exact h.expand _ _

def joinedRules (e : Engine) (layers : Priority Layer) (node : String) : List Rule :=
  (layers.flatMap fun layer => (e.graph.source layer).groups.rulesFor node).eraseDups

theorem rulesFor_source {owner : LayerOwner} (hbuilt : e.graph.TablesBuilt)
    (hnested : e.graph.WellNested) (howner : e.HasLayers owner) (node : String) :
    (e.source owner).groups.rulesFor node = e.joinedRules (e.layers owner) node := by
  have hsound : ∀ s ∈ (e.layers owner).map e.graph.source, s.groups.Sound := by
    intro s hs
    obtain ⟨layer, -, rfl⟩ := List.mem_map.mp hs
    exact (Source.agrees_of_built _ (hbuilt.expand _ layer)).sound
  rw [source_eq_layers howner hnested, Source.rulesFor_layers hsound, List.flatMap_map, joinedRules]

/-- What decides for a node is the first rule of its group, and there is none where there is no
group. A group holds rules of its node only, at least one and none twice, and the rules of all
groups are all rules. The group of a node in nested layers is those of the layers one after the
other, without later repetitions. -/
theorem views_agree (e : Engine) (owner : LayerOwner) (hbuilt : e.graph.TablesBuilt)
    (hnested : e.graph.WellNested) :
    let groups := (e.source owner).groups
    (∀ node, e.rule? owner node = (groups.lookup node).bind List.head? ∧
      (e.rule? owner node = none ↔ groups.lookup node = none)) ∧
    (groups.map Prod.fst).Nodup ∧
    (∀ node rules, groups.lookup node = some rules →
      rules ≠ [] ∧ rules.Nodup ∧ ∀ r ∈ rules, r.node = node) ∧
    (∀ r, r ∈ (e.source owner).rules ↔ ∃ rules, groups.lookup r.node = some rules ∧ r ∈ rules) ∧
    (e.HasLayers owner → ∀ node, groups.lookup node =
      if e.joinedRules (e.layers owner) node = [] then none
      else some (e.joinedRules (e.layers owner) node)) := by
  intro groups
  have hagrees : (e.source owner).Agrees := Source.agrees_of_built _ (built_source hbuilt owner)
  have hsound : groups.Sound := hagrees.sound
  refine ⟨fun node => ?_, hsound.nodes, fun node rules hrules => ?_, fun r => ?_,
    fun howner node => ?_⟩
  · rw [rule?_eq_get?, hagrees.get?]
    exact ⟨Groups.head?_rulesFor _ node, hsound.head?_eq_none_iff node⟩
  · have hmem := Groups.mem_of_lookup hrules
    exact ⟨hsound.nonempty _ hmem, hsound.nodup _ hmem, hsound.filed _ hmem⟩
  · rw [hagrees.mem_rules]
    exact Groups.mem_rulesFor_iff
  · rw [hsound.lookup_eq, rulesFor_source hbuilt hnested howner]

/-- Two tables that disagree on `a.b`, in layers that list one of them twice, nested in layers that
list an empty layer and the other table once more. -/
def shelves : Engine :=
  let (grants, e) := initial.addDatabase (.flat (Table.after
    [.insert ⟨"A.b", true⟩, .insertNode "a.*" true, .removeAll "A.*", .insertNode "c" true]))
  let (denials, e) := e.addDatabase (.flat (Table.after
    [.replaceAll [⟨"a.b", false⟩, ⟨"A.B", true⟩, ⟨"a.b", false⟩]]))
  let (bare, e) := e.addDatabase (.layered [])
  let (inner, e) := e.addDatabase
    (.layered [.database denials, .database grants, .database denials])
  (e.addDatabase (.layered [.database bare, .database inner, .database grants])).2

theorem views_agree_shelves :
    let groups := (shelves.source (.database 4)).groups
    shelves.graph.TablesBuilt ∧ shelves.graph.WellNested ∧ shelves.HasLayers (.database 4) ∧
      groups.lookup "a.b" = some [⟨"a.b", false⟩, ⟨"a.b", true⟩] ∧
      shelves.rule? (.database 4) "a.b" = some ⟨"a.b", false⟩ ∧
      ∃ rules, groups.lookup "c" = some rules ∧ ⟨"c", true⟩ ∈ rules := by
  intro groups
  have hbuilt : shelves.graph.TablesBuilt := by
    refine ⟨fun d t hd => ?_, fun _ => ⟨[], rfl⟩, fun _ => ⟨[], rfl⟩⟩
    match d with
    | 0 | 1 => exact ⟨_, (Database.flat.inj (Option.some.inj hd)).symm⟩
    | 2 | 3 | 4 => cases hd
    | d + 5 => cases hd
  have hnested : shelves.graph.WellNested := by
    refine ⟨id, fun d layers hd d' hd' => ?_⟩
    match d with
    | 0 | 1 => cases hd
    | 2 =>
      cases hd
      cases hd'
    | 3 | 4 =>
      cases hd
      simp only [List.mem_cons, Layer.database.injEq, List.not_mem_nil, or_false] at hd'
      rcases hd' with rfl | rfl | rfl <;> decide
    | d + 5 => cases hd
  have howner : shelves.HasLayers (.database 4) := ⟨_, rfl⟩
  obtain ⟨hrule, -, -, hrules, hlayers⟩ := views_agree shelves (.database 4) hbuilt hnested
  have hgroup : groups.lookup "a.b" = some [⟨"a.b", false⟩, ⟨"a.b", true⟩] := by
    rw [hlayers howner]
    decide +kernel
  refine ⟨hbuilt, hnested, howner, hgroup, ?_, (hrules ⟨"c", true⟩).mp (by decide +kernel)⟩
  rw [(hrule "a.b").1, hgroup]
  rfl

end Engine

end PermissionGraph
