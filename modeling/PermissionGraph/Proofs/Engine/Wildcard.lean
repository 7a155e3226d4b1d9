import PermissionGraph.Proofs.Engine.Fresh
import PermissionGraph.Proofs.Resolution.Lookup
import PermissionGraph.Proofs.Table.Record
import PermissionGraph.Proofs.Text.Cut

/-!
# Wildcards in any spelling

A wildcard is lower-cased as a whole when it is recorded, and a node is lower-cased as a whole when
it is asked for. The wildcard covers the node in every spelling of both, but for one letter: a `Σ`
that ends a word before the `*` and stands inside a word before a cased letter.
-/

namespace PermissionGraph

open Text

namespace Lookup

theorem lower_wildcard_mem_all_iff {p s : String} (hs : s ≠ "") (hdot : '.' ∉ s.toList) :
    lower (p ++ ".*") ∈ all (lower (p ++ "." ++ s)) ↔
      (endsInSigma p.toList && meetsCased s.toList) = false := by
  have hwildcard : lower (p ++ ".*") =
      String.ofList (lowerBetween [] ['.', '*'] p.toList ++ ['.', '*']) := by
    rw [lower, String.toList_append]
    exact congrArg String.ofList (lowerChars_wildcard p.toList)
  have hnode : lower (p ++ "." ++ s) =
      String.ofList (lowerBetween [] ('.' :: s.toList) p.toList ++
        '.' :: lowerAfter ('.' :: (p.toList.reverse ++ [])) s.toList) := by
    rw [lower, String.toList_append, String.toList_append, List.append_assoc]
    exact congrArg String.ofList (lowerChars_below p.toList s.toList)
  have hne : s.toList ≠ [] := fun h => hs (String.toList_eq_nil_iff.mp h)
  rw [hwildcard, hnode, mem_all_below (length_lowerBetween _ _ _ _) (lowerAfter_ne_nil hne)
    (dot_not_mem_lowerAfter hdot), lowerBetween_wildcard_iff]

end Lookup

namespace Engine

/-- A subject that holds a single wildcard is decided by it on a node right below, whatever the case
of the two, unless the part before the dot ends in a `Σ` after a cased letter and a cased letter
follows the dot. Then the two are folded apart, and the node stays open. -/
theorem permission_of_wildcard (e : Engine) (name p s : String) (b : Bool) (hs : s ≠ "")
    (hdot : '.' ∉ s.toList) :
    let holder := e.addHolder name (Table.replaceAll [⟨p ++ ".*", b⟩])
    (holder.2.permission holder.1 (p ++ "." ++ s)).1 =
      .ok (if endsInSigma p.toList && meetsCased s.toList then .undecided
        else Decision.ofFlag b) := by
  intro holder
  have hcover : (⟨p ++ ".*", b⟩ : Rule).foldNode.node ∈ Lookup.all (lower (p ++ "." ++ s)) ↔
      (endsInSigma p.toList && meetsCased s.toList) = false :=
    Lookup.lower_wildcard_mem_all_iff hs hdot
  rw [permission_addHolder, Lookup.decide_eq_of_single (Table.get?_replaceAll_singleton _)]
  cases hsplit : endsInSigma p.toList && meetsCased s.toList with
  | true =>
    rw [hsplit] at hcover
    rw [if_neg fun hmem => Bool.noConfusion (hcover.mp hmem), if_pos rfl]
  | false =>
    rw [hsplit] at hcover
    rw [if_pos (hcover.mpr rfl), if_neg Bool.false_ne_true]
    rfl

theorem permission_of_mixedCase_wildcard :
    let holder := initial.addHolder "s" (Table.replaceAll [⟨"ǅ.ΧΡΗΣΤΕΣ" ++ ".*", false⟩])
    "42" ≠ "" ∧ '.' ∉ "42".toList ∧
      (holder.2.permission holder.1 ("ǅ.ΧΡΗΣΤΕΣ" ++ "." ++ "42")).1 = .ok .deny := by
  have hs : "42" ≠ "" := by decide
  have hdot : '.' ∉ "42".toList := by decide
  refine ⟨hs, hdot, ?_⟩
  have hsplit : (endsInSigma "ǅ.ΧΡΗΣΤΕΣ".toList && meetsCased "42".toList) = false := by
    decide +kernel
  have hanswer := permission_of_wildcard initial "s" "ǅ.ΧΡΗΣΤΕΣ" "42" false hs hdot
  rw [hsplit] at hanswer
  exact hanswer

/-- The wildcard is recorded as `ας.*`, and the node is asked for as `ασ.β`. -/
theorem permission_of_finalSigma_wildcard :
    let holder := initial.addHolder "s" (Table.replaceAll [⟨"ΑΣ" ++ ".*", true⟩])
    "Β" ≠ "" ∧ '.' ∉ "Β".toList ∧
      (holder.2.permission holder.1 ("ΑΣ" ++ "." ++ "Β")).1 = .ok .undecided ∧
      (holder.2.permission holder.1 ("ΑΣ" ++ "." ++ "Β")).1 ≠ .ok (Decision.ofFlag true) := by
  intro holder
  have hanswer : (holder.2.permission holder.1 ("ΑΣ" ++ "." ++ "Β")).1 = .ok .undecided := by
    rw [permission_addHolder]
    decide +kernel
  refine ⟨by decide, by decide, hanswer, ?_⟩
  rw [hanswer]
  exact nofun

end Engine

end PermissionGraph
