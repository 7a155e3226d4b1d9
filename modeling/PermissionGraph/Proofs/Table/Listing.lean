import PermissionGraph.Proofs.Priority.Distinct
import PermissionGraph.Proofs.Table.Bulk

/-!
# A table as a list of rules

A table stands for a list: its rules in the order in which they came in, each once. An insertion
puts a rule last where it is new, a removal takes out the rules of one node, and a replacement gives
the new rules without later repetitions. What the table answers, groups, finds and counts is read
off the list.
-/

namespace PermissionGraph

open Text

namespace Groups

def byNode (rules : List Rule) : Groups :=
  (rules.map Rule.node).eraseDups.map fun node => (node, rules.filter (·.node = node))

variable {r : Rule} {gs : Groups}

theorem record_of_mem (h : r ∈ rulesFor r.node gs) : record r gs = gs := by
  induction gs with
  | nil => cases h
  | cons g gs ih =>
    obtain ⟨n, rs⟩ := g
    rw [rulesFor_cons] at h
    rw [record]
    by_cases hn : n = r.node
    · rw [if_pos hn] at h
      rw [if_pos hn, if_pos h]
    · rw [if_neg hn] at h
      rw [if_neg hn, ih h]

/-- A new rule goes to the end of its group, and a new node behind the other nodes. -/
theorem record_map {nodes : List String} (hnodes : nodes.Nodup) {f : String → List Rule}
    (hr : r ∉ f r.node) (hnew : r.node ∉ nodes → f r.node = []) :
    record r (nodes.map fun n => (n, f n)) =
      (Priority.withLast nodes r.node).map fun n =>
        (n, if n = r.node then f n ++ [r] else f n) := by
  induction nodes with
  | nil =>
    have hnone : f r.node = [] := hnew List.not_mem_nil
    rw [Priority.withLast_of_not_mem List.not_mem_nil]
    simp [record, hnone]
  | cons n nodes ih =>
    obtain ⟨hn, hnodes⟩ := List.nodup_cons.mp hnodes
    rw [List.map_cons, record]
    by_cases heq : n = r.node
    · subst heq
      have hrest : nodes.map (fun n => (n, if n = r.node then f n ++ [r] else f n)) =
          nodes.map fun n => (n, f n) := by
        apply List.map_congr_left
        intro n hmem
        have hne : n ≠ r.node := fun heq => hn (heq ▸ hmem)
        rw [if_neg hne]
      rw [Priority.withLast_of_mem List.mem_cons_self, List.map_cons, hrest, if_pos rfl, if_pos rfl,
        if_neg hr]
    · have hrest := ih hnodes fun hmem => hnew (by simp [Ne.symm heq, hmem])
      rw [if_neg heq, Priority.withLast_cons_of_ne heq, List.map_cons, if_neg heq, hrest]

theorem rules_record (h : r ∉ rulesFor r.node gs) :
    (Groups.rules (record r gs)).Perm (Groups.rules gs ++ [r]) := by
  induction gs with
  | nil => exact List.Perm.refl _
  | cons g gs ih =>
    obtain ⟨n, rs⟩ := g
    rw [rulesFor_cons] at h
    rw [record]
    by_cases hn : n = r.node
    · rw [if_pos hn] at h
      rw [if_pos hn, if_neg h]
      simp only [Groups.rules, List.flatMap_cons, List.append_assoc]
      exact List.perm_append_comm.append_left rs
    · rw [if_neg hn] at h
      rw [if_neg hn]
      simp only [Groups.rules, List.flatMap_cons, List.append_assoc]
      exact (ih h).append_left rs

theorem ne_nil_of_mem_byNode {rules : List Rule} {g : String × List Rule} (h : g ∈ byNode rules) :
    g.2 ≠ [] := by
  obtain ⟨node, hnode, rfl⟩ := List.mem_map.mp h
  obtain ⟨r, hr, rfl⟩ := List.mem_map.mp (List.mem_eraseDups.mp hnode)
  exact List.ne_nil_of_mem (List.mem_filter.mpr ⟨hr, decide_eq_true rfl⟩)

end Groups

namespace Table

variable {rules : List Rule} {r : Rule} {node : String}

theorem recorded_concat (rules : List Rule) (r : Rule) :
    recorded (rules ++ [r]) = ⟨(recorded rules).groups.record r⟩ := by
  rw [recorded, List.foldl_append]
  rfl

theorem filter_node_concat (rules : List Rule) (r : Rule) (node : String) :
    (rules ++ [r]).filter (·.node = node) =
      if r.node = node then rules.filter (·.node = node) ++ [r]
      else rules.filter (·.node = node) := by
  by_cases h : r.node = node <;> simp [h]

theorem rulesFor_record (t : Table) (r : Rule) (node : String) :
    rulesFor ⟨t.groups.record r⟩ node =
      if r.node = node then Priority.withLast (t.rulesFor node) r else t.rulesFor node := by
  by_cases h : r.node = node
  · subst h
    rw [if_pos rfl]
    exact Groups.rulesFor_record_self r t.groups
  · rw [if_neg h]
    exact Groups.rulesFor_record_of_ne t.groups h

theorem rulesFor_recorded (rules : List Rule) (node : String) :
    (recorded rules).rulesFor node = (rules.filter (·.node = node)).eraseDups := by
  induction rules using List.reverseRecOn with
  | nil => rfl
  | append_singleton rules r ih =>
    rw [recorded_concat, rulesFor_record, filter_node_concat, ih]
    split
    · rw [Priority.eraseDups_concat]
    · rfl

theorem mem_rulesFor_recorded : r ∈ (recorded rules).rulesFor r.node ↔ r ∈ rules := by
  rw [rulesFor_recorded, List.mem_eraseDups, List.mem_filter, decide_eq_true_iff]
  exact and_iff_left rfl

theorem recorded_withLast (rules : List Rule) (r : Rule) :
    recorded (Priority.withLast rules r) = ⟨(recorded rules).groups.record r⟩ := by
  by_cases h : r ∈ rules
  · rw [Priority.withLast_of_mem h, Groups.record_of_mem (mem_rulesFor_recorded.mpr h)]
  · rw [Priority.withLast_of_not_mem h, recorded_concat]

theorem recorded_eraseDups (rules : List Rule) : recorded rules.eraseDups = recorded rules := by
  induction rules using List.reverseRecOn with
  | nil => rfl
  | append_singleton rules r ih =>
    rw [Priority.eraseDups_concat, recorded_withLast, ih, recorded_concat]

theorem groups_recorded (h : rules.Nodup) : (recorded rules).groups = Groups.byNode rules := by
  induction rules using List.reverseRecOn with
  | nil => rfl
  | append_singleton rules r ih =>
    obtain ⟨hrules, hnew⟩ := Priority.nodup_append_singleton.mp h
    have hnone : r.node ∉ (rules.map Rule.node).eraseDups →
        rules.filter (·.node = r.node) = [] := by
      intro hnode
      rw [List.filter_eq_nil_iff]
      intro r' hr' heq
      rw [List.mem_eraseDups] at hnode
      exact hnode (List.mem_map.mpr ⟨r', hr', of_decide_eq_true heq⟩)
    rw [recorded_concat, ih hrules, Groups.byNode, Groups.record_map
      (Priority.nodup_eraseDups _) (fun hmem => hnew (List.mem_filter.mp hmem).1) hnone,
      Groups.byNode, List.map_append, List.map_singleton, Priority.eraseDups_concat]
    apply List.map_congr_left
    intro node _
    simp only [filter_node_concat, eq_comm (a := r.node)]

theorem rules_recorded (h : rules.Nodup) : (recorded rules).rules.Perm rules := by
  induction rules using List.reverseRecOn with
  | nil => exact List.Perm.refl _
  | append_singleton rules r ih =>
    obtain ⟨hrules, hnew⟩ := Priority.nodup_append_singleton.mp h
    rw [recorded_concat]
    exact (Groups.rules_record (mt mem_rulesFor_recorded.mp hnew)).trans
      ((ih hrules).append_right [r])

end Table

inductive TableCall
  | insert (r : Rule)
  | insertNode (node : String) (allowed : Bool)
  | removeAll (node : String)
  | replaceAll (rules : List Rule)
  | clear

inductive TableAnswer
  | done
  /-- Whether the rule was new. -/
  | inserted (new : Bool)
  | removed (rules : List Rule)
deriving DecidableEq

namespace TableCall

def insertInto (rules : List Rule) (r : Rule) : TableAnswer × List Rule :=
  (.inserted (r ∉ rules), Priority.withLast rules r)

/-- What a call answers and makes of the list. -/
def onRules (rules : List Rule) : TableCall → TableAnswer × List Rule
  | insert r => insertInto rules (Table.insertForm r)
  | insertNode node allowed => insertInto rules (Table.insertForm ⟨node, allowed⟩)
  | removeAll node =>
    (.removed (rules.filter (·.node = lower node)), rules.filter (·.node ≠ lower node))
  | replaceAll rules => (.done, (rules.map Rule.foldNode).eraseDups)
  | clear => (.done, [])

def rulesAfter (calls : List TableCall) : List Rule :=
  calls.foldl (fun rules call => (call.onRules rules).2) []

variable {rules : List Rule}

theorem nodup_onRules (h : rules.Nodup) (call : TableCall) : (call.onRules rules).2.Nodup := by
  cases call with
  | insert r => exact Priority.nodup_withLast h _
  | insertNode node allowed => exact Priority.nodup_withLast h _
  | removeAll node => exact h.filter _
  | replaceAll rules => exact Priority.nodup_eraseDups _
  | clear => exact List.nodup_nil

theorem rulesAfter_concat (calls : List TableCall) (call : TableCall) :
    rulesAfter (calls ++ [call]) = (call.onRules (rulesAfter calls)).2 := by
  rw [rulesAfter, List.foldl_append]
  rfl

theorem nodup_rulesAfter (calls : List TableCall) : (rulesAfter calls).Nodup := by
  induction calls using List.reverseRecOn with
  | nil => exact List.nodup_nil
  | append_singleton calls call ih =>
    rw [rulesAfter_concat]
    exact nodup_onRules ih call

end TableCall

namespace Table

def perform (t : Table) : TableCall → TableAnswer × Table
  | .insert r => (t.insert r).map .inserted id
  | .insertNode node allowed => (t.insertNode node allowed).map .inserted id
  | .removeAll node => (t.removeAll node).map .removed id
  | .replaceAll rules => (.done, replaceAll rules)
  | .clear => (.done, empty)

def after (calls : List TableCall) : Table := calls.foldl (fun t call => (t.perform call).2) empty

variable {rules : List Rule}

theorem after_concat (calls : List TableCall) (call : TableCall) :
    after (calls ++ [call]) = ((after calls).perform call).2 := by
  rw [after, List.foldl_append]
  rfl

theorem insert_recorded_map (rules : List Rule) (r : Rule) :
    ((recorded rules).insert r).map TableAnswer.inserted id =
      (TableCall.insertInto rules (insertForm r)).map id recorded := by
  rw [insert, TableCall.insertInto, Prod.map, Prod.map, recorded_withLast]
  simp only [holds, mem_rulesFor_recorded, decide_not, id]

/-- A call does to the table of a list what it does to the list. -/
theorem perform_recorded (h : rules.Nodup) (call : TableCall) :
    (recorded rules).perform call = (call.onRules rules).map id recorded := by
  cases call with
  | insert r => exact insert_recorded_map rules r
  | insertNode node allowed => exact insert_recorded_map rules ⟨node, allowed⟩
  | removeAll node =>
    have hremoved : ((recorded rules).removeAll node).1 = rules.filter (·.node = lower node) := by
      rw [removeAll, rulesFor_recorded, Priority.eraseDups_eq_self (h.filter _)]
    rw [perform, TableCall.onRules, Prod.map, hremoved, recorded_removeAll]
    rfl
  | replaceAll rules =>
    rw [perform, TableCall.onRules, Prod.map, recorded_eraseDups, replaceAll_eq_recorded]
    rfl
  | clear => rfl

theorem after_eq_recorded (calls : List TableCall) :
    after calls = recorded (TableCall.rulesAfter calls) := by
  induction calls using List.reverseRecOn with
  | nil => rfl
  | append_singleton calls call ih =>
    rw [after_concat, ih, perform_recorded (TableCall.nodup_rulesAfter calls),
      TableCall.rulesAfter_concat]
    rfl

/-- After any calls the table is its list grouped by node. The next call answers and goes on as it
does for the list. Lookups do not fold the node, and the question whether a node is named folds
it. -/
theorem after_lists_rules (calls : List TableCall) :
    let t := after calls
    let rules := TableCall.rulesAfter calls
    rules.Nodup ∧
      (∀ call, t.perform call = ((call.onRules rules).1, after (calls ++ [call])) ∧
        TableCall.rulesAfter (calls ++ [call]) = (call.onRules rules).2) ∧
      t.groups = Groups.byNode rules ∧ (∀ g ∈ t.groups, g.2 ≠ []) ∧
      (∀ node, t.get? node = rules.find? (·.node = node)) ∧
      (∀ node, t.contains node = rules.any (·.node = lower node)) ∧
      t.size = (rules.map Rule.node).eraseDups.length ∧
      t.isEmpty = rules.isEmpty ∧
      t.rules.Perm rules := by
  intro t rules
  have hnodup : rules.Nodup := TableCall.nodup_rulesAfter calls
  have ht : t = recorded rules := after_eq_recorded calls
  have hgroups : t.groups = Groups.byNode rules := by rw [ht, groups_recorded hnodup]
  refine ⟨hnodup, fun call => ⟨?_, TableCall.rulesAfter_concat calls call⟩, hgroups, ?_, ?_, ?_,
    ?_, ?_, ?_⟩
  · have hanswer : (t.perform call).1 = (call.onRules rules).1 := by
      rw [ht, perform_recorded hnodup]
      rfl
    rw [after_concat, ← hanswer]
  · intro g hg
    rw [hgroups] at hg
    exact Groups.ne_nil_of_mem_byNode hg
  · intro node
    simp [ht]
  · intro node
    simp [ht]
  · rw [size, hgroups, Groups.byNode, List.length_map]
  · rw [isEmpty, hgroups, Groups.byNode]
    cases rules with
    | nil => rfl
    | cons r rules => rw [List.map_cons, List.eraseDups_cons]; rfl
  · rw [ht]
    exact rules_recorded hnodup

/-- Two flags for one node, of which one is recorded again, and a node that comes and goes. -/
def turnover : List TableCall :=
  [.insert ⟨"A", true⟩, .insertNode "a" false, .insert ⟨"b", true⟩, .removeAll "B",
    .insert ⟨"a", true⟩]

theorem after_lists_rules_turnover :
    let t := after turnover
    TableCall.rulesAfter turnover = [⟨"a", true⟩, ⟨"a", false⟩] ∧
      t.groups = [("a", [⟨"a", true⟩, ⟨"a", false⟩])] ∧ t.get? "a" = some ⟨"a", true⟩ ∧
      t.get? "A" = none ∧ t.contains "A" = true ∧ t.contains "b" = false ∧ t.size = 1 ∧
      t.rules.Perm [⟨"a", true⟩, ⟨"a", false⟩] := by
  intro t
  have hrules : TableCall.rulesAfter turnover = [⟨"a", true⟩, ⟨"a", false⟩] := by decide +kernel
  obtain ⟨-, -, hgroups, -, hget, hcontains, hsize, -, hperm⟩ := after_lists_rules turnover
  rw [hrules] at hgroups hget hcontains hsize hperm
  refine ⟨hrules, hgroups, hget "a", hget "A", ?_, ?_, hsize, hperm⟩
  · rw [hcontains]
    decide +kernel
  · rw [hcontains]
    decide +kernel

end Table

end PermissionGraph
