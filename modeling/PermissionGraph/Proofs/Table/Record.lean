import PermissionGraph.Table
import PermissionGraph.Proofs.Keyed

/-!
# Recording rules

What a table holds for a node after one more rule, and what a list of rules recorded one after
another gives: the first rule that names a node decides for it. Each rule is filed under its own
node, so that to leave out the group of a node is to leave out the rules that name it.
-/

namespace PermissionGraph

open Text

namespace Groups

variable (r : Rule) (node : String) (gs : Groups) (rules : List Rule)

@[simp] theorem rulesFor_cons (n : String) (rs : List Rule) :
    rulesFor node ((n, rs) :: gs) = if n = node then rs else rulesFor node gs := by
  by_cases h : n = node
  · simp [rulesFor, h]
  · have hne : (node == n) = false := beq_eq_false_iff_ne.mpr (Ne.symm h)
    simp [rulesFor, List.lookup_cons, h, hne]

@[simp] theorem rulesFor_record_self :
    rulesFor r.node (record r gs) =
      if r ∈ rulesFor r.node gs then rulesFor r.node gs else rulesFor r.node gs ++ [r] := by
  induction gs with
  | nil => simp [record, rulesFor]
  | cons g gs ih =>
    obtain ⟨n, rs⟩ := g
    by_cases h : n = r.node <;> simp [record, h, ih]

variable {r node}

@[simp] theorem rulesFor_record_of_ne (h : r.node ≠ node) :
    rulesFor node (record r gs) = rulesFor node gs := by
  induction gs with
  | nil => simp [record, h]
  | cons g gs ih =>
    obtain ⟨n, rs⟩ := g
    by_cases hn : n = r.node <;> simp [record, hn, h, ih]

theorem head?_rulesFor_record :
    (rulesFor node (record r gs)).head? =
      (rulesFor node gs).head?.or (if r.node = node then some r else none) := by
  by_cases h : r.node = node
  · subst h
    rw [rulesFor_record_self, if_pos rfl]
    cases hrs : rulesFor r.node gs with
    | nil => rw [if_neg List.not_mem_nil]; rfl
    | cons r' rs =>
      rw [List.head?_cons, Option.some_or]
      split <;> rfl
  · rw [rulesFor_record_of_ne gs h, if_neg h, Option.or_none]

/-- The first rule recorded for a node is the first that names it. -/
theorem head?_rulesFor_foldl :
    (rulesFor node (rules.foldl (fun gs r => record r gs) gs)).head? =
      (rulesFor node gs).head?.or (rules.find? (·.node = node)) := by
  induction rules generalizing gs with
  | nil => rw [List.foldl_nil, List.find?_nil, Option.or_none]
  | cons r rules ih =>
    rw [List.foldl_cons, ih, head?_rulesFor_record, Option.or_assoc]
    by_cases h : r.node = node <;> simp [h]

theorem filter_record_self :
    (record r gs).filter (·.1 ≠ r.node) = List.filter (·.1 ≠ r.node) gs := by
  induction gs with
  | nil => simp [record]
  | cons g gs ih =>
    obtain ⟨n, rs⟩ := g
    rw [record]
    by_cases h : n = r.node
    · subst h
      rw [if_pos rfl, Keyed.filter_cons_self, Keyed.filter_cons_self]
    · rw [if_neg h, Keyed.filter_cons_of_ne _ h, Keyed.filter_cons_of_ne _ h, ih]

theorem filter_record_of_ne (h : r.node ≠ node) :
    (record r gs).filter (·.1 ≠ node) = record r (List.filter (·.1 ≠ node) gs) := by
  induction gs with
  | nil => simp [record, h]
  | cons g gs ih =>
    obtain ⟨n, rs⟩ := g
    rw [record]
    by_cases hr : n = r.node
    · have hn : n ≠ node := hr ▸ h
      rw [if_pos hr, Keyed.filter_cons_of_ne _ hn, Keyed.filter_cons_of_ne _ hn, record, if_pos hr]
    · rw [if_neg hr]
      by_cases hn : n = node
      · subst hn
        rw [Keyed.filter_cons_self, Keyed.filter_cons_self, ih]
      · rw [Keyed.filter_cons_of_ne _ hn, Keyed.filter_cons_of_ne _ hn, ih, record, if_neg hr]

@[simp] theorem record_record : record r (record r gs) = record r gs := by
  induction gs with
  | nil => simp [record]
  | cons g gs ih =>
    obtain ⟨n, rs⟩ := g
    rw [record]
    by_cases h : n = r.node
    · rw [if_pos h, record, if_pos h]
      by_cases hr : r ∈ rs <;> simp [hr]
    · rw [if_neg h, record, if_neg h, ih]

@[simp] theorem isSome_lookup_cons (n : String) (rs : List Rule) :
    (((n, rs) :: gs).lookup node).isSome = (decide (n = node) || (gs.lookup node).isSome) := by
  by_cases h : n = node
  · simp [h]
  · have hne : (node == n) = false := beq_eq_false_iff_ne.mpr (Ne.symm h)
    simp [List.lookup_cons, h, hne]

@[simp] theorem isSome_lookup_record :
    ((record r gs).lookup node).isSome = (decide (r.node = node) || (gs.lookup node).isSome) := by
  induction gs with
  | nil => simp [record]
  | cons g gs ih =>
    obtain ⟨n, rs⟩ := g
    by_cases h : n = r.node
    · simp [record, h]
    · simp [record, h, ih, Bool.or_left_comm]

/-- A node has a group where some rule names it. -/
theorem isSome_lookup_foldl :
    ((rules.foldl (fun gs r => record r gs) gs).lookup node).isSome =
      (rules.any (·.node = node) || (gs.lookup node).isSome) := by
  induction rules generalizing gs with
  | nil => rfl
  | cons r rules ih =>
    rw [List.foldl_cons, ih]
    simp [Bool.or_assoc, Bool.or_left_comm]

@[simp] theorem mem_rules_record {r' : Rule} :
    r' ∈ Groups.rules (record r gs) ↔ r' = r ∨ r' ∈ Groups.rules gs := by
  induction gs with
  | nil => simp [record, Groups.rules]
  | cons g gs ih =>
    obtain ⟨n, rs⟩ := g
    rw [record]
    simp only [Groups.rules, List.flatMap_cons, List.mem_append] at ih ⊢
    by_cases h : n = r.node
    · rw [if_pos h, List.flatMap_cons, List.mem_append, ← or_assoc]
      refine or_congr_left ?_
      by_cases hr : r ∈ rs
      · rw [if_pos hr, or_iff_right_of_imp]
        rintro rfl
        exact hr
      · rw [if_neg hr, List.mem_append, List.mem_singleton, or_comm]
    · rw [if_neg h, List.flatMap_cons, List.mem_append, ih, or_left_comm]

theorem mem_rules_foldl {r' : Rule} :
    r' ∈ Groups.rules (rules.foldl (fun gs r => record r gs) gs) ↔
      r' ∈ rules ∨ r' ∈ Groups.rules gs := by
  induction rules generalizing gs with
  | nil => simp
  | cons r rules ih =>
    rw [List.foldl_cons, ih]
    simp [or_assoc, or_left_comm]

/-- Leaving out the rules of a node leaves out its group. -/
theorem filter_foldl :
    List.filter (·.1 ≠ node) (rules.foldl (fun gs r => record r gs) gs) =
      (rules.filter (·.node ≠ node)).foldl (fun gs r => record r gs)
        (List.filter (·.1 ≠ node) gs) := by
  induction rules generalizing gs with
  | nil => rfl
  | cons r rules ih =>
    rw [List.foldl_cons, ih]
    by_cases h : r.node = node
    · rw [List.filter_cons_of_neg (by simpa using h), ← h, filter_record_self]
    · rw [List.filter_cons_of_pos (by simpa using h), List.foldl_cons, filter_record_of_ne gs h]

end Groups

namespace Table

/-- The table of rules recorded one after another as they are. -/
def recorded (rules : List Rule) : Table := ⟨rules.foldl (fun gs r => gs.record r) []⟩

variable (rules : List Rule) (node : String)

/-- The first rule that names a node decides for it. -/
@[simp] theorem get?_recorded : (recorded rules).get? node = rules.find? (·.node = node) :=
  Groups.head?_rulesFor_foldl [] rules

@[simp] theorem mem_rules_recorded {r : Rule} : r ∈ (recorded rules).rules ↔ r ∈ rules :=
  (Groups.mem_rules_foldl [] rules).trans (or_iff_left List.not_mem_nil)

@[simp] theorem contains_recorded :
    (recorded rules).contains node = rules.any (·.node = Text.lower node) := by
  simp [recorded, contains, Groups.isSome_lookup_foldl]

@[simp] theorem insert_recorded (r : Rule) :
    ((recorded rules).insert r).2 = recorded (rules ++ [insertForm r]) := by
  rw [recorded, recorded, List.foldl_append]
  rfl

/-- Leaving out the rules of a node leaves out its group. -/
@[simp] theorem recorded_removeAll :
    ((recorded rules).removeAll node).2 = recorded (rules.filter (·.node ≠ Text.lower node)) :=
  congrArg Table.mk (Groups.filter_foldl [] rules)

/-- The first rule of a list that names a node, once folded, decides for it. -/
theorem get?_replaceAll :
    (replaceAll rules).get? node = (rules.map Rule.foldNode).find? (·.node = node) := by
  rw [← get?_recorded, recorded, List.foldl_map]
  rfl

theorem get?_replaceAll_singleton (r : Rule) (node : String) :
    (replaceAll [r]).get? node = if r.foldNode.node = node then some r.foldNode else none := by
  rw [get?_replaceAll, List.map_cons, List.map_nil, List.find?_cons]
  by_cases h : r.foldNode.node = node <;> simp [h]

end Table

namespace Groups

/-- Every rule stands in the group of its node. -/
def Filed (gs : Groups) : Prop := ∀ g ∈ gs, ∀ r ∈ g.2, r.node = g.1

variable {gs : Groups}

theorem filed_nil : Filed [] := nofun

theorem Filed.record (h : gs.Filed) (r : Rule) : (gs.record r).Filed := by
  induction gs with
  | nil =>
    intro g hg r' hr'
    obtain rfl := List.mem_singleton.mp hg
    obtain rfl := List.mem_singleton.mp hr'
    rfl
  | cons g gs ih =>
    obtain ⟨n, rs⟩ := g
    have hfirst : ∀ r' ∈ rs, r'.node = n := h (n, rs) List.mem_cons_self
    have hrest : Filed gs := fun g hg => h g (List.mem_cons_of_mem _ hg)
    intro g hg r' hr'
    rw [Groups.record] at hg
    by_cases hn : n = r.node
    · rw [if_pos hn] at hg
      rcases List.mem_cons.mp hg with rfl | hg
      · by_cases hr : r ∈ rs
        · rw [if_pos hr] at hr'
          exact hfirst r' hr'
        · rw [if_neg hr] at hr'
          rcases List.mem_append.mp hr' with hold | hnew
          · exact hfirst r' hold
          · exact (List.mem_singleton.mp hnew) ▸ hn.symm
      · exact hrest g hg r' hr'
    · rw [if_neg hn] at hg
      rcases List.mem_cons.mp hg with rfl | hg
      · exact hfirst r' hr'
      · exact ih hrest g hg r' hr'

theorem filed_foldl (h : gs.Filed) (rules : List Rule) :
    Filed (rules.foldl (fun gs r => gs.record r) gs) := by
  induction rules generalizing gs with
  | nil => exact h
  | cons r rules ih => exact ih (h.record r)

/-- To leave out the group of a node is to leave out the rules that name it. -/
theorem Filed.rules_filter (h : gs.Filed) (node : String) :
    Groups.rules (List.filter (·.1 ≠ node) gs) = (Groups.rules gs).filter (·.node ≠ node) := by
  induction gs with
  | nil => rfl
  | cons g gs ih =>
    obtain ⟨n, rs⟩ := g
    have hfirst : ∀ r ∈ rs, r.node = n := h (n, rs) List.mem_cons_self
    have hrest := ih fun g hg => h g (List.mem_cons_of_mem _ hg)
    simp only [Groups.rules, List.flatMap_cons, List.filter_append] at hrest ⊢
    rw [← hrest]
    by_cases hn : n = node
    · have hnone : rs.filter (·.node ≠ node) = [] := by
        rw [List.filter_eq_nil_iff]
        intro r hr
        simp [hfirst r hr, hn]
      subst hn
      rw [Keyed.filter_cons_self, hnone, List.nil_append]
    · have hall : rs.filter (·.node ≠ node) = rs := by
        rw [List.filter_eq_self]
        intro r hr
        simp [hfirst r hr, hn]
      rw [Keyed.filter_cons_of_ne _ hn, hall, List.flatMap_cons]

end Groups

namespace Table

def Filed (t : Table) : Prop := t.groups.Filed

variable {t : Table}

theorem filed_recorded (rules : List Rule) : (recorded rules).Filed :=
  Groups.filed_foldl Groups.filed_nil rules

theorem Filed.rules_removeAll (h : t.Filed) (node : String) :
    (t.removeAll node).2.rules = t.rules.filter (·.node ≠ lower node) :=
  Groups.Filed.rules_filter h (lower node)

/-- A table that drops the group of a node keeps no rule that names it. -/
theorem Filed.node_ne_of_removeAll (h : t.Filed) {node : String} {r : Rule}
    (hr : r ∈ (t.removeAll node).2.rules) : r.node ≠ lower node := by
  rw [h.rules_removeAll, List.mem_filter] at hr
  exact of_decide_eq_true hr.2

end Table

end PermissionGraph
