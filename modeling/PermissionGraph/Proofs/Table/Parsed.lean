import PermissionGraph.Table
import PermissionGraph.Proofs.Text.Lower

/-!
# Parsed entries

A parsed entry is in its final spelling: its node is lower-case, its written form is read back as
the same rule, and every table records it as it is.
-/

namespace PermissionGraph

open Text

namespace Rule

theorem parse_of_head? {entry : String} (h : entry.toList.head? ≠ some '-') :
    parse entry = ⟨lower entry, true⟩ := by
  rw [parse]
  split
  · next cs heq =>
    rw [heq] at h
    exact absurd rfl h
  · rfl

theorem parse_dash (s : String) : parse ("-" ++ s) = ⟨lower s, false⟩ := by
  rw [parse, String.toList_append]
  rfl

theorem parse_cases (entry : String) :
    (parse entry).node.toList.head? ≠ some '-' ∧ parse entry = ⟨lower entry, true⟩ ∨
      ∃ s, entry = "-" ++ s ∧ parse entry = ⟨lower s, false⟩ := by
  by_cases h : entry.toList.head? = some '-'
  · obtain ⟨cs, hcs⟩ := List.head?_eq_some_iff.mp h
    have heq : entry = "-" ++ String.ofList cs := by
      rw [← String.toList_inj, hcs]
      simp
    refine Or.inr ⟨String.ofList cs, heq, ?_⟩
    rw [heq, parse_dash]
  · have hparse := parse_of_head? h
    refine Or.inl ⟨?_, hparse⟩
    rw [hparse, lower, String.toList_ofList]
    exact head?_lowerChars_ne_dash h

/-- A rule in the spelling that entries are read in: its node is lower-case and, where it is granted,
does not start with the mark of a revocation. -/
structure Final (r : Rule) : Prop where
  lowered : lower r.node = r.node
  unmarked : r.allowed = true → r.node.toList.head? ≠ some '-'

theorem final_parse (entry : String) : (parse entry).Final := by
  rcases parse_cases entry with ⟨hhead, h⟩ | ⟨s, -, h⟩
  · rw [h] at hhead ⊢
    exact ⟨lower_lower entry, fun _ => hhead⟩
  · rw [h]
    exact ⟨lower_lower s, nofun⟩

namespace Final

variable {r : Rule} (h : r.Final)

include h

theorem foldNode_eq : r.foldNode = r := by
  rw [foldNode, h.lowered]

/-- The written form is read back as the same rule. -/
theorem parse_text : parse r.text = r := by
  obtain ⟨node, allowed⟩ := r
  cases allowed with
  | true => rw [text, if_pos rfl, parse_of_head? (h.unmarked rfl), h.lowered]
  | false => rw [text, if_neg Bool.false_ne_true, parse_dash, h.lowered]

/-- The written form bears the mark just when the rule revokes. -/
theorem head?_text_iff : r.text.toList.head? = some '-' ↔ r.allowed = false := by
  obtain ⟨node, allowed⟩ := r
  cases allowed with
  | true =>
    rw [text, if_pos rfl]
    exact iff_of_false (h.unmarked rfl) nofun
  | false =>
    rw [text, if_neg Bool.false_ne_true, String.toList_append]
    exact iff_of_true rfl rfl

end Final

@[simp] theorem foldNode_parse (entry : String) : (parse entry).foldNode = parse entry :=
  (final_parse entry).foldNode_eq

@[simp] theorem parse_text_parse (entry : String) : parse (parse entry).text = parse entry :=
  (final_parse entry).parse_text

end Rule

/-- A rule whose node is lower-case is recorded as it is. -/
theorem Table.insertForm_of_lower {r : Rule} (h : lower r.node = r.node) : insertForm r = r := by
  unfold insertForm
  split
  · rw [Rule.foldNode, h]
  · rfl

@[simp] theorem Table.insertForm_parse (entry : String) :
    insertForm (Rule.parse entry) = Rule.parse entry :=
  insertForm_of_lower (Rule.final_parse entry).lowered

end PermissionGraph
