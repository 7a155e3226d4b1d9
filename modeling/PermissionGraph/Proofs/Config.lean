import PermissionGraph.Overlay
import PermissionGraph.Proofs.Table.Parsed
import PermissionGraph.Proofs.Table.Listing

/-!
# Entries of a configuration

A configuration is valid just when every entry names a node, and it is refused for the first entry
that does not. A rule that was read from an entry stays what it is: a configuration that keeps its
written form reads it back, and a table records it in no other spelling, be it on its own or among
others.
-/

namespace PermissionGraph

open Text

namespace Config

variable {c : Config}

/-- The written form of an entry is read back behind the entries that were there. -/
theorem rules_addEntry (c : Config) (entry : String) :
    (c.addEntry (Rule.parse entry).text).rules = c.rules ++ [Rule.parse entry] := by
  simp [rules, addEntry]

def Named (c : Config) : Prop := ∀ entry ∈ c.defaults, namesNothing entry = false

theorem named_initial : initial.Named := by
  intro entry hentry
  cases hentry

theorem validate_of_named (h : c.Named) : c.validate = .ok () := by
  have hnone : c.defaults.find? namesNothing = none := by
    rw [List.find?_eq_none]
    intro entry hentry
    rw [h entry hentry]
    exact Bool.false_ne_true
  rw [validate, hnone]

theorem named_of_validate (h : c.validate = .ok ()) : c.Named := by
  intro entry hentry
  rw [validate] at h
  cases hfind : c.defaults.find? namesNothing with
  | some found => rw [hfind] at h; cases h
  | none => simpa using List.find?_eq_none.mp hfind entry hentry

theorem validate_of_unnamed {before after : List String} {entry : String}
    (hdefaults : c.defaults = before ++ entry :: after)
    (hbefore : ∀ e ∈ before, namesNothing e = false) (hentry : namesNothing entry = true) :
    c.validate =
      .error (.configuration ("Invalid default permission entry: " ++ quoted entry)) := by
  have hnone : before.find? namesNothing = none := by
    rw [List.find?_eq_none]
    intro e he
    rw [hbefore e he]
    exact Bool.false_ne_true
  rw [validate, hdefaults, List.find?_append, hnone, List.find?_cons_of_pos hentry]
  rfl

theorem Named.addEntry (h : c.Named) {entry : String} (hentry : namesNothing entry = false) :
    (c.addEntry (Rule.parse entry).text).Named := by
  intro other hother
  rcases List.mem_append.mp hother with hold | hnew
  · exact h other hold
  · obtain rfl := List.mem_singleton.mp hnew
    simpa [namesNothing] using hentry

theorem Named.removeNode (h : c.Named) (node : String) : (c.removeNode node).2.Named :=
  fun entry hentry => h entry (List.mem_filter.mp hentry).1

end Config

namespace Table

variable {r : Rule}

/-- A final rule is recorded as it is. -/
theorem insert_of_final (h : r.Final) (t : Table) :
    t.insert r = (!t.holds r, ⟨t.groups.record r⟩) := by
  rw [insert, insertForm_of_lower h.lowered]

/-- Among other rules, of which each is folded, a final one is recorded as it is. -/
theorem rulesFor_replaceAll_of_final (h : r.Final) (before after : List Rule) (node : String) :
    (replaceAll (before ++ r :: after)).rulesFor node =
      ((before.map Rule.foldNode ++ r :: after.map Rule.foldNode).filter
        (·.node = node)).eraseDups := by
  rw [replaceAll_eq_recorded, rulesFor_recorded, List.map_append, List.map_cons, h.foldNode_eq]

/-- The written form of a parsed entry is parsed to the same rule, bears the mark of a revocation
just when the rule revokes, and is what a configuration reads back. The node is its own lower-case
form, so that an insertion and a replacement record the rule as it is. -/
theorem records_parsed (entry : String) :
    Rule.parse (Rule.parse entry).text = Rule.parse entry ∧
      let r := Rule.parse entry
      (r.text.toList.head? = some '-' ↔ r.allowed = false) ∧
        (∀ config : Config, (config.addEntry r.text).rules = config.rules ++ [r]) ∧
        lower r.node = r.node ∧
        (∀ (t : Table) node, (t.insert r).1 = decide (r ∉ t.rulesFor r.node) ∧
          (t.insert r).2.rulesFor node =
            if r.node = node then Priority.withLast (t.rulesFor node) r
            else t.rulesFor node) ∧
        ∀ before after node, (replaceAll (before ++ r :: after)).rulesFor node =
          ((before.map Rule.foldNode ++ r :: after.map Rule.foldNode).filter
            (·.node = node)).eraseDups := by
  have hfinal : (Rule.parse entry).Final := Rule.final_parse entry
  refine ⟨hfinal.parse_text, hfinal.head?_text_iff, fun config => config.rules_addEntry entry,
    hfinal.lowered, fun t node => ?_, rulesFor_replaceAll_of_final hfinal⟩
  rw [insert_of_final hfinal]
  refine ⟨?_, t.rulesFor_record (Rule.parse entry) node⟩
  rw [holds, decide_not]

/-- Marks only, a mark behind the first, a sigma that ends no word and one that does, a dotted
capital, a title-case letter, and a capital without a lower-case form. -/
example :
    ["", "-", "---", "--A", "ΑΣ.Σ", "-İ", "ǅ", "𝐀"].map Rule.parse =
      [⟨"", true⟩, ⟨"", false⟩, ⟨"--", false⟩, ⟨"-a", false⟩, ⟨"ασ.ς", true⟩, ⟨"i\u0307", false⟩,
        ⟨"ǆ", true⟩, ⟨"𝐀", true⟩] := by
  decide +kernel

end Table

end PermissionGraph
