import PermissionGraph.Proofs.Engine.Operation
import PermissionGraph.Proofs.Priority.Edit
import PermissionGraph.Proofs.Resolution.Tables

/-!
# Layers put in between

A layer that is put before another decides for those nodes that it has a rule for and that nothing
ahead of it has a rule for. Where no database comes to be nested in itself, what the layers
themselves record does not depend on the list that they are put into.
-/

namespace PermissionGraph

namespace Graph

variable {g g' : Graph} {height : DatabaseId → ℕ}

/-- A layer does not depend on a database that stands above it. -/
theorem expand_congr_below {d : DatabaseId} (hoverlays : g'.overlays = g.overlays)
    (hdatabases : ∀ d' : DatabaseId, d' ≠ d → g'.databases[d']? = g.databases[d']?)
    (hh : ∀ d layers, g.databases[d]? = some (.layered layers) →
      ∀ d', .database d' ∈ layers → height d' < height d)
    {layer : Layer} (hlayer : ∀ d', layer = .database d' → height d' < height d) (depth : ℕ) :
    g'.expand depth layer = g.expand depth layer := by
  induction depth generalizing layer with
  | zero => cases layer <;> simp only [expand, overlay, hoverlays]
  | succ depth ih =>
    cases layer with
    | configured o => simp only [expand, overlay, hoverlays]
    | plugin o => simp only [expand, overlay, hoverlays]
    | database d' =>
      -- the graphs differ at `d` only, and all that is listed here stands lower still
      have hlow := hlayer d' rfl
      have hne : d' ≠ d := fun heq => (heq ▸ hlow).false
      simp only [expand, hdatabases d' hne]
      split
      · rfl
      · next layers hd' =>
        congr 1
        refine List.map_congr_left fun layer hmem => ih fun d'' hd'' => ?_
        exact (hh d' layers hd' d'' (hd'' ▸ hmem)).trans hlow
      · rfl

end Graph

namespace Engine

variable {e : Engine} {owner : LayerOwner} {layers : Priority Layer} {layer : Layer}

theorem getElem?_setLayers {d : DatabaseId} (howner : e.HasLayers (.database d))
    (d' : DatabaseId) :
    (e.setLayers (.database d) layers).graph.databases[d']? =
      if d = d' then some (.layered layers) else e.graph.databases[d']? := by
  obtain ⟨old, hd⟩ := howner
  simp only [setLayers, Array.getElem?_setIfInBounds, if_pos (Array.getElem?_eq_some_iff.mp hd).1]

theorem HasLayers.setLayers (howner : e.HasLayers owner) (layers : Priority Layer) :
    (e.setLayers owner layers).HasLayers owner := by
  cases owner with
  | database d => exact ⟨layers, by rw [getElem?_setLayers howner, if_pos rfl]⟩
  | context c => exact Nat.lt_of_lt_of_eq howner (size_modifyContext _).symm

theorem layers_setLayers (howner : e.HasLayers owner) (layers : Priority Layer) :
    (e.setLayers owner layers).layers owner = layers := by
  cases owner with
  | database d => simp only [Engine.layers, getElem?_setLayers howner, if_pos]
  | context c =>
    have hc : e.graph.contexts[c]? = some e.graph.contexts[c] := Array.getElem?_eq_getElem howner
    simp only [Engine.layers, Graph.layersOf, Engine.setLayers, getElem?_modifyContext, hc,
      Option.map_some, if_pos, Option.elim_some]

/-- Nothing was nested in itself before layers were put in if nothing is afterwards. -/
theorem wellNested_of_setLayers (howner : e.HasLayers owner) (hkept : e.layers owner ⊆ layers)
    (hnested : (e.setLayers owner layers).graph.WellNested) : e.graph.WellNested := by
  cases owner with
  | context c => exact hnested
  | database d =>
    obtain ⟨height, hh⟩ := hnested
    refine ⟨height, fun d' listed hd' d'' hd'' => ?_⟩
    by_cases hd : d = d'
    · subst hd
      have hlisted : e.layers (.database d) = listed := by simp only [Engine.layers, hd']
      apply hh d layers
      · rw [getElem?_setLayers howner, if_pos rfl]
      · exact hkept (hlisted ▸ hd'')
    · apply hh d' listed _ d'' hd''
      rw [getElem?_setLayers howner, if_neg hd, hd']

/-- What a layer records does not depend on the list that it is put into. -/
theorem rule?_setLayers (howner : e.HasLayers owner)
    (hnested : (e.setLayers owner layers).graph.WellNested) (hlayer : layer ∈ layers)
    (node : String) : (e.setLayers owner layers).graph.rule? layer node =
      e.graph.rule? layer node := by
  have hexpand : ∀ depth,
      e.graph.expand depth layer = (e.setLayers owner layers).graph.expand depth layer := by
    cases owner with
    | context c =>
      intro depth
      refine Graph.expand_congr ?_ ?_ depth layer <;> rfl
    | database d =>
      obtain ⟨height, hh⟩ := hnested
      refine Graph.expand_congr_below (d := d) ?_ ?_ hh ?_
      · rfl
      · intro d' hd'
        rw [getElem?_setLayers howner, if_neg hd'.symm]
      · rintro d' rfl
        exact hh d layers (by rw [getElem?_setLayers howner, if_pos rfl]) d' hlayer
  have hsize : (e.setLayers owner layers).graph.databases.size = e.graph.databases.size := by
    cases owner with
    | context c => rfl
    | database d => exact Array.size_setIfInBounds
  rw [Graph.rule?_eq_get?, Graph.rule?_eq_get?, Graph.source, Graph.source, hexpand, hsize]

/-- A layer that is put before another decides where it has a rule and nothing ahead of it has one,
and nowhere else. -/
theorem rule?_addBefore (howner : e.HasLayers owner) {ref : Layer}
    (hnested : (e.setLayers owner
      (Priority.addBefore (e.layers owner) ref layer)).graph.WellNested) (node : String) :
    (e.setLayers owner (Priority.addBefore (e.layers owner) ref layer)).rule? owner node =
      if (∀ l ∈ Priority.ahead (e.layers owner) ref, e.graph.rule? l node = none) ∧
        e.graph.rule? layer node ≠ none then e.graph.rule? layer node
      else e.rule? owner node := by
  have hbefore : e.graph.WellNested :=
    wellNested_of_setLayers howner (Priority.subset_addBefore _ _ _) hnested
  have hlayers : ∀ l ∈ Priority.addBefore (e.layers owner) ref layer,
      (e.setLayers owner (Priority.addBefore (e.layers owner) ref layer)).graph.rule? l node =
        e.graph.rule? l node := fun l hl => rule?_setLayers howner hnested hl node
  rw [rule?_eq_findSome? (howner.setLayers _) hnested, layers_setLayers howner,
    ← List.head?_filterMap, List.filterMap_congr hlayers, List.head?_filterMap,
    Priority.findSome?_addBefore, rule?_eq_findSome? howner hbefore]

/-- An entry is put first, last, or next to the first occurrence of another, and all others keep
their order; to remove an entry takes out its first occurrence. What was put in new can be removed
after any edits that do not name it as if it had never been there. A layer that is put before
another changes what is recorded only where it has a rule and nothing ahead of it has one. -/
theorem edits_of_layers {α : Type} [DecidableEq α] (xs : Priority α) (x : α) (e : Engine)
    (owner : LayerOwner) :
    (Priority.addFirst xs x = x :: xs ∧ Priority.addLast xs x = xs ++ [x]) ∧
    (∀ ref, ref ∉ xs →
      Priority.addBefore xs ref x = x :: xs ∧ Priority.addAfter xs ref x = xs ++ [x]) ∧
    (∀ ref before after, xs = before ++ ref :: after → ref ∉ before →
      Priority.addBefore xs ref x = before ++ x :: ref :: after ∧
      Priority.addAfter xs ref x = before ++ ref :: x :: after) ∧
    (x ∉ xs → Priority.remove xs x = (false, xs)) ∧
    (∀ before after, xs = before ++ x :: after → x ∉ before →
      Priority.remove xs x = (true, before ++ after)) ∧
    (x ∉ xs → ∀ (edit : Priority.Edit α) (edits : List (Priority.Edit α)),
      edit.added? = some x → (∀ edit ∈ edits, x ∉ edit.names) →
      Priority.remove (Priority.Edit.applyAll edits (edit.apply xs)) x =
        (true, Priority.Edit.applyAll edits xs)) ∧
    (e.HasLayers owner → ∀ ref layer,
      let e' := e.setLayers owner (Priority.addBefore (e.layers owner) ref layer)
      e'.graph.WellNested → ∀ node, e'.rule? owner node =
        if (∀ l ∈ Priority.ahead (e.layers owner) ref, e.graph.rule? l node = none) ∧
          e.graph.rule? layer node ≠ none then e.graph.rule? layer node
        else e.rule? owner node) := by
  refine ⟨⟨rfl, rfl⟩, fun ref href => ?absent, ?present, Priority.remove_of_not_mem, ?removed,
    fun hnew edit edits hedit hedits => ?undone, fun howner ref layer => ?answer⟩
  case absent => exact ⟨Priority.addBefore_of_not_mem href x, Priority.addAfter_of_not_mem href x⟩
  case present =>
    rintro ref before after rfl hfirst
    exact ⟨Priority.addBefore_of_first hfirst x, Priority.addAfter_of_first hfirst x⟩
  case removed =>
    rintro before after rfl hfirst
    exact Priority.remove_of_first hfirst
  case undone => exact Priority.Edit.remove_applyAll_of_added hedit hnew hedits
  case answer =>
    intro e' hnested node
    exact rule?_addBefore howner hnested node

/-- A list of layers between whose two tables a third can be put that has rules for two nodes, one
of them decided by the first table. -/
def drawer : Engine :=
  let (granting, e) := initial.addDatabase (.flat ⟨[("a", [⟨"a", true⟩])]⟩)
  let (_, e) := e.addDatabase (.flat ⟨[("a", [⟨"a", false⟩]), ("b", [⟨"b", false⟩])]⟩)
  let (late, e) := e.addDatabase (.flat ⟨[("b", [⟨"b", true⟩])]⟩)
  (e.addDatabase (.layered [.database granting, .database late, .database granting])).2

theorem edits_of_layers_drawer :
    let xs := drawer.layers (.database 3)
    let denying : Layer := .database 1
    let edits : List (Priority.Edit Layer) :=
      [.addAfter (.database 0) (.database 2), .remove (.database 2), .addLast (.database 2)]
    let e' := drawer.setLayers (.database 3) (Priority.addBefore xs (.database 2) denying)
    drawer.HasLayers (.database 3) ∧ denying ∉ xs ∧ e'.graph.WellNested ∧
    Priority.remove
      (Priority.Edit.applyAll edits (Priority.addBefore xs (.database 2) denying)) denying =
        (true, Priority.Edit.applyAll edits xs) ∧
    e'.rule? (.database 3) "a" = drawer.rule? (.database 3) "a" ∧
    e'.rule? (.database 3) "b" = some ⟨"b", false⟩ := by
  intro xs denying edits e'
  have howner : drawer.HasLayers (.database 3) := ⟨_, rfl⟩
  have hnew : denying ∉ xs := by decide
  have hlisted : Priority.addBefore xs (.database 2) denying =
      [.database 0, .database 1, .database 2, .database 0] := rfl
  have hnested : e'.graph.WellNested := by
    refine ⟨id, fun d layers hd d' hd' => ?_⟩
    match d with
    | 0 | 1 | 2 => cases hd
    | 3 =>
      cases hd
      change .database d' ∈ Priority.addBefore xs (.database 2) denying at hd'
      simp only [hlisted, List.mem_cons, Layer.database.injEq, List.not_mem_nil, or_false] at hd'
      rcases hd' with rfl | rfl | rfl | rfl <;> decide
    | d + 4 => cases hd
  obtain ⟨-, -, -, -, -, hundo, hanswer⟩ := edits_of_layers xs denying drawer (.database 3)
  have hrules := hanswer howner (.database 2) denying hnested
  refine ⟨howner, hnew, hnested,
    hundo hnew (.addBefore (.database 2) denying) edits rfl (by decide), ?_, ?_⟩
  · rw [hrules, if_neg (by decide +kernel)]
  · rw [hrules, if_pos (by decide +kernel)]
    decide +kernel

end Engine

end PermissionGraph
