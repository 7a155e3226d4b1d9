import PermissionGraph.Proofs.Table.Record
import PermissionGraph.Proofs.Text.Lower

/-!
# Tables built rule by rule and at once

A table that is built rule by rule records each rule in its insertion form, and one that is built at
once records each with its node lower-cased. So both are the same table just when the two forms are
the same for every rule, which they are but for nodes that lower-casing changes although they have
no upper-case letter.
-/

namespace PermissionGraph

open Text

namespace Table

variable {r : Rule} {node : String} (rules : List Rule)

/-- The two spellings under which a node may be recorded are the same. -/
def Folds (node : String) : Prop := hasUppercase node = true ∨ lower node = node

theorem insertForm_of_folds (h : Folds r.node) : insertForm r = r.foldNode := by
  unfold insertForm
  split
  · rfl
  · next hupper => rw [Rule.foldNode, h.resolve_left hupper]

theorem insertForm_of_not_folds (h : ¬ Folds r.node) : insertForm r = r := by
  rw [insertForm, if_neg fun hupper => h (Or.inl hupper)]

theorem foldl_insert_recorded (before : List Rule) :
    rules.foldl (fun t r => (t.insert r).2) (recorded before) =
      recorded (before ++ rules.map insertForm) := by
  induction rules generalizing before with
  | nil => rw [List.map_nil, List.append_nil, List.foldl_nil]
  | cons r rules ih =>
    simp [ih]

theorem ofRules_eq_recorded : ofRules rules = recorded (rules.map insertForm) :=
  foldl_insert_recorded rules []

theorem replaceAll_eq_recorded : replaceAll rules = recorded (rules.map Rule.foldNode) := by
  rw [recorded, List.foldl_map]
  rfl

theorem contains_recorded_map {form : Rule → Rule} (hr : r ∈ rules)
    (hform : (form r).node = lower r.node) :
    (recorded (rules.map form)).contains r.node = true := by
  simp only [contains_recorded, List.any_map, List.any_eq_true]
  exact ⟨r, hr, decide_eq_true hform⟩

variable {rules}

theorem ofRules_of_folds (h : ∀ r ∈ rules, Folds r.node) : ofRules rules = replaceAll rules := by
  rw [ofRules_eq_recorded, replaceAll_eq_recorded]
  exact congrArg recorded (List.map_congr_left fun r hr => insertForm_of_folds (h r hr))

/-- A rule that keeps a spelling of its own is found under it in one of the tables only. -/
theorem folds_of_get? (h : ∀ node, (ofRules rules).get? node = (replaceAll rules).get? node)
    (hr : r ∈ rules) : Folds r.node := by
  apply Classical.byContradiction
  intro hfolds
  have hsingle : ((rules.map insertForm).find? (·.node = r.node)).isSome = true := by
    rw [List.find?_isSome]
    exact ⟨r, List.mem_map.mpr ⟨r, hr, insertForm_of_not_folds hfolds⟩, decide_eq_true rfl⟩
  rw [← get?_recorded, ← ofRules_eq_recorded, h, replaceAll_eq_recorded, get?_recorded,
    List.find?_isSome] at hsingle
  obtain ⟨folded, hfolded, hnode⟩ := hsingle
  obtain ⟨source, -, rfl⟩ := List.mem_map.mp hfolded
  have hlower : lower source.node = r.node := of_decide_eq_true hnode
  exact hfolds (Or.inr (by rw [← hlower, lower_lower]))

/-- Building a table rule by rule and building it at once give the same table, with the same answer
for every node, just when both spellings of every node are the same. Every rule is then found again
under its node. In the table that was built at once it is found in any case. -/
theorem ofRules_agrees_iff (rules : List Rule) :
    ((∀ r ∈ rules, Folds r.node) ↔ ofRules rules = replaceAll rules) ∧
      ((∀ r ∈ rules, Folds r.node) ↔
        ∀ node, (ofRules rules).get? node = (replaceAll rules).get? node) ∧
      (∀ r ∈ rules, (replaceAll rules).contains r.node = true) ∧
      ((∀ r ∈ rules, Folds r.node) → ∀ r ∈ rules, (ofRules rules).contains r.node = true) := by
  have hbulk : ∀ r ∈ rules, (replaceAll rules).contains r.node = true := by
    intro r hr
    rw [replaceAll_eq_recorded]
    exact contains_recorded_map rules hr rfl
  refine ⟨⟨ofRules_of_folds, ?_⟩, ⟨?_, fun h r hr => folds_of_get? h hr⟩, hbulk, ?_⟩
  · intro h r hr
    exact folds_of_get? (fun node => congrArg (get? · node) h) hr
  · intro h node
    rw [ofRules_of_folds h]
  · intro h r hr
    rw [ofRules_of_folds h]
    exact hbulk r hr

/-- Rules in mixed spellings, with a capital sigma that ends a word and one that does not. -/
def greek : List Rule := [⟨"ΣΑΣ.*", true⟩, ⟨"chat", false⟩, ⟨"σας.*", false⟩, ⟨"ΣΑΣ.*", true⟩]

theorem ofRules_greek_agrees :
    ofRules greek = replaceAll greek ∧ (ofRules greek).contains "ΣΑΣ.*" = true ∧
      (ofRules greek).rulesFor "σας.*" = [⟨"σας.*", true⟩, ⟨"σας.*", false⟩] := by
  obtain ⟨hsame, -, -, hcontains⟩ := ofRules_agrees_iff greek
  have hfolds : ∀ r ∈ greek, Folds r.node := by
    unfold Folds
    decide +kernel
  exact ⟨hsame.mp hfolds, hcontains hfolds ⟨"ΣΑΣ.*", true⟩ (by decide +kernel), by decide +kernel⟩

/-- The only letter of the node has title case: rule by rule it is recorded as it is spelled, and
not found again; at once it is recorded lower-cased. -/
theorem ofRules_titleCase_differs :
    let single := ofRules [⟨"ǅ", true⟩]
    let bulk := replaceAll [⟨"ǅ", true⟩]
    single.groups = [("ǅ", [⟨"ǅ", true⟩])] ∧ bulk.groups = [("ǆ", [⟨"ǆ", true⟩])] ∧
      single.get? "ǆ" ≠ bulk.get? "ǆ" ∧ single.contains "ǅ" = false ∧
      bulk.contains "ǅ" = true := by
  decide +kernel

end Table

end PermissionGraph
