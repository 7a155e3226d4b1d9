import Mathlib.Data.List.Infix
import PermissionGraph.Resolver

/-!
# Lookups by segments, and what a wildcard covers

A node without its trailing dots falls into segments at its dots. The wildcards of a node stand for
its proper segment prefixes, the longest first. They are its parts up to a dot with a `*` behind:
among them is the wildcard of whatever stands before the last segment, and no other wildcard is as
long.
-/

namespace PermissionGraph.Lookup

def segments (node : String) : List (List Char) := (dropTrailingDots node.toList).splitOn '.'

/-- The proper prefixes of a list of segments but the empty one, the longest first. -/
def properPrefixes (segs : List (List Char)) : List (List (List Char)) :=
  segs.dropLast.inits.tail.reverse

def wildcardText (p : List (List Char)) : List Char := ['.'].intercalate p ++ ['.', '*']

def bySegments (node : String) : List String :=
  node :: (properPrefixes (segments node)).map (fun p => String.ofList (wildcardText p)) ++ ["*"]

example : bySegments "this.is.a.node" =
    ["this.is.a.node", "this.is.a.*", "this.is.*", "this.*", "*"] := by decide

theorem properPrefixes_nil_cons {segs : List (List Char)} (h : segs ≠ []) :
    properPrefixes ([] :: segs) = (properPrefixes segs).map ([] :: ·) ++ [[[]]] := by
  obtain ⟨s, ss, rfl⟩ := List.exists_cons_of_ne_nil h
  cases hd : (s :: ss).dropLast with
  | nil => simp [properPrefixes, hd]
  | cons d ds => simp [properPrefixes, hd]

theorem properPrefixes_cons_cons (c : Char) (s : List Char) (ss : List (List Char)) :
    properPrefixes ((c :: s) :: ss) =
      (properPrefixes (s :: ss)).map (fun p => p.modifyHead (c :: ·)) := by
  cases ss with
  | nil => simp [properPrefixes]
  | cons t ss => simp [properPrefixes, Function.comp_def]

theorem wildcardText_nil_cons {p : List (List Char)} (h : p ≠ []) :
    wildcardText ([] :: p) = '.' :: wildcardText p := by
  simp [wildcardText, List.intercalate_cons_of_ne_nil h]

theorem wildcardText_modifyHead (c : Char) {p : List (List Char)} (h : p ≠ []) :
    wildcardText (p.modifyHead (c :: ·)) = c :: wildcardText p := by
  obtain ⟨s, ss, rfl⟩ := List.exists_cons_of_ne_nil h
  simp [wildcardText, List.intercalate_cons_cons_left]

theorem ne_nil_of_mem_properPrefixes {segs p : List (List Char)} (h : p ∈ properPrefixes segs) :
    p ≠ [] := by
  unfold properPrefixes at h
  rw [List.mem_reverse] at h
  cases hs : segs.dropLast with
  | nil => simp [hs] at h
  | cons s ss =>
    rw [hs, List.inits_cons, List.tail_cons, List.mem_map] at h
    obtain ⟨q, -, rfl⟩ := h
    exact List.cons_ne_nil s q

theorem wildcardsFrom_eq (part : String) (found : List String) (cs : List Char) :
    wildcardsFrom part found cs =
      (properPrefixes (cs.splitOn '.')).map
        (fun p => String.ofList (part.toList ++ wildcardText p)) ++ found := by
  induction cs generalizing part found with
  | nil => simp [wildcardsFrom, properPrefixes]
  | cons c cs ih =>
    have hne := List.splitOn_ne_nil '.' cs
    rw [wildcardsFrom, ih, List.splitOn_cons_eq_if_modifyHead]
    by_cases hc : c = '.'
    · subst hc
      rw [if_pos rfl, if_pos (by rfl), properPrefixes_nil_cons hne, List.map_append, List.map_map,
        List.append_assoc]
      congr 1
      · refine List.map_congr_left fun p hp => ?_
        rw [Function.comp_apply, wildcardText_nil_cons (ne_nil_of_mem_properPrefixes hp)]
        simp
      · simp [wildcardText, String.ext_iff]
    · obtain ⟨s, ss, hs⟩ := List.exists_cons_of_ne_nil hne
      rw [if_neg hc, if_neg (by simpa using hc), hs, List.modifyHead_cons,
        properPrefixes_cons_cons, List.map_map]
      congr 1
      refine List.map_congr_left fun p hp => ?_
      rw [Function.comp_apply, wildcardText_modifyHead c (ne_nil_of_mem_properPrefixes hp)]
      simp

theorem all_eq_bySegments (node : String) : all node = bySegments node := by
  rw [all, bySegments, wildcards, wildcardsFrom_eq, segments]
  simp

end PermissionGraph.Lookup

namespace PermissionGraph

namespace Lookup

theorem mem_wildcardsFrom {w part : String} {found : List String} {cs : List Char} :
    w ∈ wildcardsFrom part found cs ↔
      w ∈ found ∨ ∃ q r, cs = q ++ '.' :: r ∧ w.toList = part.toList ++ (q ++ ['.', '*']) := by
  induction cs generalizing part found with
  | nil => simp [wildcardsFrom]
  | cons c cs ih =>
    rw [wildcardsFrom, ih]
    constructor
    · rintro (hfound | ⟨q, r, rfl, hw⟩)
      · by_cases hc : c = '.'
        · rw [if_pos hc, List.mem_cons] at hfound
          refine hfound.elim (fun hw => Or.inr ⟨[], cs, by rw [hc]; rfl, ?_⟩) Or.inl
          simp [hw, hc]
        · rw [if_neg hc] at hfound
          exact Or.inl hfound
      · refine Or.inr ⟨c :: q, r, rfl, ?_⟩
        simpa using hw
    · rintro (hfound | ⟨q, r, hcs, hw⟩)
      · refine Or.inl ?_
        split
        · exact List.mem_cons_of_mem _ hfound
        · exact hfound
      · cases q with
        | nil =>
          obtain ⟨rfl, rfl⟩ := List.cons.inj hcs
          refine Or.inl ?_
          rw [if_pos rfl, List.mem_cons]
          refine Or.inl (String.toList_inj.mp ?_)
          simpa using hw
        | cons d q =>
          obtain ⟨rfl, rfl⟩ := List.cons.inj hcs
          refine Or.inr ⟨q, r, rfl, ?_⟩
          simpa using hw

theorem mem_wildcards {w node : String} :
    w ∈ wildcards node ↔
      ∃ q r, dropTrailingDots node.toList = q ++ '.' :: r ∧ w.toList = q ++ ['.', '*'] := by
  rw [wildcards, mem_wildcardsFrom]
  simp

/-- A text keeps its end if that is no dot. -/
theorem dropTrailingDots_append {s : List Char} (hs : s ≠ []) (hdot : '.' ∉ s) (cs : List Char) :
    dropTrailingDots (cs ++ s) = cs ++ s := by
  obtain ⟨init, last, rfl⟩ := List.eq_nil_or_concat s |>.resolve_left hs
  have hlast : last ≠ '.' := by
    rintro rfl
    simp at hdot
  simp [dropTrailingDots, hlast]

/-- Of the texts as long as `q`, only `q` has a wildcard that covers a node right below `q`. -/
theorem mem_all_below {q q' s : List Char} (hlength : q'.length = q.length) (hs : s ≠ [])
    (hdot : '.' ∉ s) :
    String.ofList (q' ++ ['.', '*']) ∈ all (String.ofList (q ++ '.' :: s)) ↔ q' = q := by
  have hdrop : dropTrailingDots (q ++ '.' :: s) = q ++ '.' :: s := by
    rw [List.append_cons, dropTrailingDots_append hs hdot]
  simp only [all, List.cons_append, List.mem_cons, List.mem_append, mem_wildcards,
    String.toList_ofList, hdrop, List.not_mem_nil, or_false]
  constructor
  · rintro (hnode | ⟨p, r, hcut, hp⟩ | hstar)
    · rw [String.ofList_inj] at hnode
      exact (List.append_inj hnode hlength).1
    · have hq' : q' = p := (List.append_left_inj _).mp hp
      subst hq'
      exact ((List.append_inj hcut hlength.symm).1).symm
    · have hlength : (q' ++ ['.', '*']).length = ['*'].length := by
        rw [← String.toList_ofList (l := q' ++ ['.', '*']), hstar]
        rfl
      simp at hlength
  · rintro rfl
    exact Or.inr (Or.inl ⟨q', s, rfl, rfl⟩)

/-- A single rule decides for a node that it covers, and leaves every other one open. -/
theorem decide_eq_of_single {look : String → Option Rule} {r : Rule}
    (hlook : ∀ w, look w = if r.node = w then some r else none) (node : String) :
    decide look node = if r.node ∈ all node then r.decision else .undecided := by
  have hfind : (all node).findSome? look = if r.node ∈ all node then some r else none := by
    induction all node with
    | nil => rfl
    | cons w ws ih =>
      rw [List.findSome?_cons, hlook]
      by_cases hw : r.node = w
      · simp [hw]
      · simp [hw, ih]
  rw [decide_eq, hfind]
  by_cases hmem : r.node ∈ all node
  · rw [if_pos hmem, if_pos hmem, Option.elim_some]
  · rw [if_neg hmem, if_neg hmem, Option.elim_none]

end Lookup

end PermissionGraph
