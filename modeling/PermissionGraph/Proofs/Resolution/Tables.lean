import Mathlib.Data.Finset.Card
import Mathlib.Data.Finset.Range
import PermissionGraph.Graph
import PermissionGraph.Engine

/-!
# Flat tables and owners of layers

Nested layers are flattened into the list of their tables. The first table of the list with a rule
for a node decides, as it does when the layers are asked one inside the other.

A layered database and a context own a list of layers. Where no database is nested in itself, the
source of an owner is made of the sources of its layers, and the first layer with a rule decides.
-/

namespace PermissionGraph

namespace Source

mutual

def tables : Source → List Table
  | table t => [t]
  | layers ss => tablesOf ss

def tablesOf : List Source → List Table
  | [] => []
  | s :: ss => tables s ++ tablesOf ss

end

mutual

theorem get?_eq_findSome? (node : String) :
    ∀ s : Source, s.get? node = s.tables.findSome? (·.get? node)
  | table t => by rw [get?, tables, List.findSome?_singleton]
  | layers ss => by rw [get?, tables, getFirst?_eq_findSome?]

theorem getFirst?_eq_findSome? (node : String) :
    ∀ ss : List Source, getFirst? node ss = (tablesOf ss).findSome? (·.get? node)
  | [] => rfl
  | s :: ss => by
    rw [getFirst?, tablesOf, List.findSome?_append, get?_eq_findSome? node s,
      getFirst?_eq_findSome? node ss]

end

theorem tablesOf_map {α : Type} (f : α → Source) (xs : List α) :
    tablesOf (xs.map f) = xs.flatMap fun x => (f x).tables := by
  induction xs with
  | nil => rfl
  | cons x xs ih => rw [List.map_cons, tablesOf, ih, List.flatMap_cons]

end Source

namespace Graph

variable (g : Graph)

def tables (c : ContextId) : List Table := (g.contextSource c).tables

theorem contextRule?_eq_findSome? (c : ContextId) (node : String) :
    g.contextRule? c node = (g.tables c).findSome? (·.get? node) := by
  rw [contextRule?_eq_get?, Source.get?_eq_findSome?, tables]

theorem tables_eq_flatMap (c : ContextId) :
    g.tables c = (g.layersOf c).flatMap fun layer => (g.source layer).tables := by
  rw [tables, contextSource, Source.tables, Source.tablesOf_map]

/-- No database is nested in itself: what a database lists stands below it in some order. -/
def WellNested : Prop :=
  ∃ height : DatabaseId → ℕ, ∀ d layers, g.databases[d]? = some (.layered layers) →
    ∀ d', .database d' ∈ layers → height d' < height d

/-- The databases that stand no higher than `d`. -/
def below (height : DatabaseId → ℕ) (d : DatabaseId) : Finset DatabaseId :=
  (Finset.range g.databases.size).filter (height · ≤ height d)

theorem card_below_le (height : DatabaseId → ℕ) (d : DatabaseId) :
    (g.below height d).card ≤ g.databases.size := by
  unfold below
  exact (Finset.card_filter_le _ _).trans (Finset.card_range _).le

theorem card_below_pos (height : DatabaseId → ℕ) {d : DatabaseId} (hd : d < g.databases.size) :
    0 < (g.below height d).card := by
  apply Finset.card_pos.mpr
  exact ⟨d, by simp [below, hd]⟩

theorem card_below_lt {height : DatabaseId → ℕ} {d d' : DatabaseId} (hd : d < g.databases.size)
    (h : height d' < height d) : (g.below height d').card < (g.below height d).card := by
  apply Finset.card_lt_card
  rw [Finset.ssubset_iff_of_subset]
  · exact ⟨d, by simp [below, hd], by simp [below, hd, h]⟩
  · intro x hx
    rw [below, Finset.mem_filter] at *
    exact ⟨hx.1, hx.2.trans h.le⟩

/-- A source is the same at every depth that its nesting does not exceed. -/
theorem expand_eq_expand {height : DatabaseId → ℕ}
    (hh : ∀ d layers, g.databases[d]? = some (.layered layers) →
      ∀ d', .database d' ∈ layers → height d' < height d)
    {depth depth' : ℕ} {layer : Layer}
    (h : ∀ d, layer = .database d →
      (g.below height d).card ≤ depth ∧ (g.below height d).card ≤ depth') :
    g.expand depth layer = g.expand depth' layer := by
  induction depth generalizing depth' layer with
  | zero =>
    cases layer with
    | configured o => simp only [expand]
    | plugin o => simp only [expand]
    | database d =>
      cases depth' with
      | zero => rfl
      | succ depth' =>
        have hd : ¬ d < g.databases.size := by
          intro hd
          have hpos := g.card_below_pos height hd
          have hle := (h d rfl).1
          omega
        simp only [expand, Array.getElem?_eq_none (Nat.le_of_not_lt hd)]
  | succ depth ih =>
    cases layer with
    | configured o => simp only [expand]
    | plugin o => simp only [expand]
    | database d =>
      cases hdb : g.databases[d]? with
      | none => cases depth' <;> simp only [expand, hdb]
      | some db =>
        have hd : d < g.databases.size := (Array.getElem?_eq_some_iff.mp hdb).1
        have hpos := g.card_below_pos height hd
        obtain ⟨hle, hle'⟩ := h d rfl
        obtain ⟨k, rfl⟩ := Nat.exists_eq_add_one_of_ne_zero (by omega : depth' ≠ 0)
        cases db with
        | flat t => simp only [expand, hdb]
        | layered layers =>
          simp only [expand, hdb]
          congr 1
          refine List.map_congr_left fun layer hl => ih fun d' hd' => ?_
          have hlt := g.card_below_lt hd (hh d layers hdb d' (hd' ▸ hl))
          omega

/-- Where no database is nested in itself, a layered database is made of the sources that it
lists. -/
theorem source_layered (hw : g.WellNested) {d : DatabaseId} {layers : Priority Layer}
    (hd : g.databases[d]? = some (.layered layers)) :
    g.source (.database d) = .layers (layers.map g.source) := by
  obtain ⟨height, hh⟩ := hw
  have hlt : d < g.databases.size := (Array.getElem?_eq_some_iff.mp hd).1
  obtain ⟨k, hk⟩ := Nat.exists_eq_add_one_of_ne_zero (Nat.ne_zero_of_lt hlt)
  rw [source, hk, expand, hd]
  refine congrArg Source.layers (List.map_congr_left fun layer hl => ?_)
  rw [source, hk, g.expand_eq_expand hh]
  intro d' hd'
  have hbelow := g.card_below_lt hlt (hh d layers hd d' (hd' ▸ hl))
  have hall := g.card_below_le height d
  omega

end Graph

end PermissionGraph

namespace PermissionGraph.Engine

def HasLayers (e : Engine) : LayerOwner → Prop
  | .database d => ∃ layers, e.graph.databases[d]? = some (.layered layers)
  | .context c => c < e.graph.contexts.size

variable {e : Engine} {owner : LayerOwner}

theorem rule?_eq_get? (e : Engine) (owner : LayerOwner) (node : String) :
    e.rule? owner node = (e.source owner).get? node := by
  cases owner with
  | database d => exact e.graph.rule?_eq_get? (.database d) node
  | context c => exact e.graph.contextRule?_eq_get? c node

theorem source_eq_layers (howner : e.HasLayers owner) (hnested : e.graph.WellNested) :
    e.source owner = .layers ((e.layers owner).map e.graph.source) := by
  cases owner with
  | database d =>
    obtain ⟨layers, hd⟩ := howner
    have hlayers : e.layers (.database d) = layers := by simp only [Engine.layers, hd]
    rw [hlayers]
    exact e.graph.source_layered hnested hd
  | context c => rfl

theorem rule?_eq_findSome? (howner : e.HasLayers owner) (hnested : e.graph.WellNested)
    (node : String) :
    e.rule? owner node = (e.layers owner).findSome? fun layer => e.graph.rule? layer node := by
  rw [rule?_eq_get?, source_eq_layers howner hnested, Source.get?, Source.getFirst?_map]
  simp only [Graph.rule?_eq_get?]

end PermissionGraph.Engine
