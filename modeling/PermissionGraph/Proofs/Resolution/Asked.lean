import PermissionGraph.Resolver
import PermissionGraph.Proofs.Resolution.Lookup

/-!
# Which lookups are asked

A wildcard resolver asks for the lookups of a node one after the other, until one has a rule, and
for nothing else. Whatever stands before a dot of the node, not counted its trailing dots, has its
wildcard among the lookups, and longer wildcards are asked for first.
-/

namespace PermissionGraph

namespace Lookup

theorem inits_tail_eq_map_take {α : Type} (xs : List α) :
    xs.inits.tail = (List.range' 1 xs.length).map (xs.take ·) := by
  apply List.ext_getElem
  · simp
  · intro i h h'
    simp [Nat.add_comm]

theorem properPrefixes_eq_map_take (segs : List (List Char)) :
    properPrefixes segs = (List.range' 1 (segs.length - 1)).reverse.map (segs.take ·) := by
  rw [properPrefixes, inits_tail_eq_map_take, List.length_dropLast, List.map_reverse]
  congr 1
  refine List.map_congr_left fun i hi => ?_
  have hlt : i ≤ segs.length - 1 := by
    have hrange := List.mem_range'_1.mp hi
    omega
  rw [List.dropLast_eq_take, List.take_take, Nat.min_eq_left hlt]

/-- The wildcards of a node with `k` segments stand for its first `k - 1` segments, its first
`k - 2` segments and so on. -/
theorem all_eq_map_take (node : String) :
    all node =
      node :: (List.range' 1 ((segments node).length - 1)).reverse.map
        (fun i => String.ofList (wildcardText ((segments node).take i))) ++ ["*"] := by
  rw [all_eq_bySegments, bySegments, properPrefixes_eq_map_take, List.map_map]
  rfl

variable {look : String → Option Rule} {asked ws : List String} {w node : String}

@[simp] theorem run_noting : (noting look w).run asked = (look w, asked ++ [w]) := rfl

theorem run_findSomeM?_noting_cons :
    ((w :: ws).findSomeM? (noting look)).run asked =
      match look w with
      | some r => (some r, asked ++ [w])
      | none => (ws.findSomeM? (noting look)).run (asked ++ [w]) := by
  rw [List.findSomeM?, StateT.run_bind, run_noting]
  cases look w <;> rfl

/-- The search with notes finds what the search without them does. -/
theorem run_findSomeM?_noting (look : String → Option Rule) (ws asked : List String) :
    (ws.findSomeM? (noting look)).run asked = (ws.findSome? look, asked ++ tried look ws) := by
  induction ws generalizing asked with
  | nil =>
    change (none, asked) = (none, asked ++ [])
    rw [List.append_nil]
  | cons w ws ih =>
    rw [tried]
    simp only [run_findSomeM?_noting_cons, List.findSome?_cons]
    cases look w with
    | some r => rfl
    | none => simp only [ih, List.nil_append, List.append_assoc]

theorem tried_cons (look : String → Option Rule) (w : String) (ws : List String) :
    tried look (w :: ws) = if (look w).isSome then [w] else w :: tried look ws := by
  rw [tried]
  simp only [run_findSomeM?_noting_cons]
  cases look w with
  | some r => rfl
  | none => simp [run_findSomeM?_noting]

/-- Where no lookup has a rule, all of them are made. -/
theorem tried_of_none (h : ∀ w ∈ ws, look w = none) : tried look ws = ws := by
  induction ws with
  | nil => rfl
  | cons w ws ih =>
    have hw := h w List.mem_cons_self
    rw [tried_cons, hw, ih fun v hv => h v (List.mem_cons_of_mem w hv)]
    rfl

/-- The first lookup with a rule is the last that is made. -/
theorem tried_of_first {before : List String} (h : ∀ v ∈ before, look v = none)
    (hw : (look w).isSome = true) : tried look (before ++ w :: ws) = before ++ [w] := by
  induction before with
  | nil => rw [List.nil_append, tried_cons, if_pos hw, List.nil_append]
  | cons v before ih =>
    have hv := h v List.mem_cons_self
    rw [List.cons_append, tried_cons, hv, ih fun u hu => h u (List.mem_cons_of_mem v hu)]
    rfl

theorem run_decideM_noting (look : String → Option Rule) (node : String) (asked : List String) :
    (decideM (noting look) node).run asked =
      (decide look node, asked ++ tried look (all node)) := by
  rw [decideM, StateT.run_bind, run_findSomeM?_noting, decide_eq]
  cases (all node).findSome? look <;> rfl

theorem wildcard_mem_all_iff (q node : String) :
    q ++ ".*" ∈ all node ↔
      node = q ++ ".*" ∨ (q ++ ".").toList <+: dropTrailingDots node.toList := by
  have hstar : q ++ ".*" ≠ "*" := by
    intro h
    have hlength := congrArg (fun s : String => s.toList.length) h
    simp at hlength
  have hmem : q ++ ".*" ∈ wildcards node ↔
      (q ++ ".").toList <+: dropTrailingDots node.toList := by
    rw [mem_wildcards]
    constructor
    · rintro ⟨p, r, hcut, hp⟩
      have hqp : q.toList = p := by simpa using hp
      exact ⟨r, by simp [hcut, hqp]⟩
    · rintro ⟨r, hr⟩
      exact ⟨q.toList, r, by simp [← hr], by simp⟩
  simp only [all, List.cons_append, List.mem_cons, List.mem_append, List.not_mem_nil, hmem, hstar,
    or_false, eq_comm (a := q ++ ".*")]

/-- New wildcards come before those that were found, and are longer. -/
theorem wildcardsFrom_pairwise {part : String} {found : List String} {cs : List Char}
    (hfound : found.Pairwise fun w w' => w'.length < w.length)
    (hlength : ∀ w ∈ found, w.length ≤ part.length + 1) :
    (wildcardsFrom part found cs).Pairwise fun w w' => w'.length < w.length := by
  induction cs generalizing part found with
  | nil => exact hfound
  | cons c cs ih =>
    rw [wildcardsFrom]
    by_cases hc : c = '.'
    · rw [if_pos hc]
      refine ih (List.pairwise_cons.mpr ⟨fun w hw => ?_, hfound⟩) fun w hw => ?_
      · have hw := hlength w hw
        rw [String.length_push, String.length_push]
        omega
      · rcases List.mem_cons.mp hw with rfl | hw
        · rw [String.length_push]
        · have hw := hlength w hw
          rw [String.length_push]
          omega
    · rw [if_neg hc]
      refine ih hfound fun w hw => ?_
      have hw := hlength w hw
      rw [String.length_push]
      omega

theorem length_wildcard (q : String) : (q ++ ".*").length = q.length + 2 := by
  rw [String.length_append]
  rfl

/-- All lookups but the node itself, the longest first. -/
theorem wildcards_pairwise (node : String) :
    (wildcards node ++ ["*"]).Pairwise fun w w' => w'.length < w.length := by
  refine List.pairwise_append.mpr ⟨wildcardsFrom_pairwise List.Pairwise.nil (by simp),
    List.pairwise_singleton _ _, fun w hw w' hw' => ?_⟩
  obtain rfl := List.mem_singleton.mp hw'
  obtain ⟨q, r, -, hq⟩ := mem_wildcards.mp hw
  have hlength := congrArg List.length hq
  rw [String.length_toList, List.length_append] at hlength
  rw [hlength]
  exact Nat.lt_add_left _ Nat.one_lt_two

theorem idxOf_lt_of_pairwise {xs : List String} {w w' : String}
    (h : xs.Pairwise fun w w' => w'.length < w.length) (hw : w ∈ xs) (hw' : w' ∈ xs)
    (hlt : w'.length < w.length) : xs.idxOf w < xs.idxOf w' := by
  have hplace := List.idxOf_lt_length_of_mem hw
  have hplace' := List.idxOf_lt_length_of_mem hw'
  rcases Nat.lt_trichotomy (xs.idxOf w) (xs.idxOf w') with hbefore | hsame | hbehind
  · exact hbefore
  · obtain rfl : w = w' := (List.idxOf_inj hw).mp hsame
    omega
  · have hlonger : xs[xs.idxOf w].length < xs[xs.idxOf w'].length :=
      List.pairwise_iff_getElem.mp h _ _ hplace' hplace hbehind
    rw [List.getElem_idxOf, List.getElem_idxOf] at hlonger
    omega

/-- A node that ends in a `*` has no lookup wildcard that is longer than itself. -/
theorem length_le_of_wildcard_mem {q : String} {cs : List Char} (hnode : node.toList = cs ++ ['*'])
    (h : q ++ ".*" ∈ all node) : (q ++ ".*").length ≤ node.length := by
  rcases (wildcard_mem_all_iff q node).mp h with rfl | hprefix
  · exact Nat.le_refl _
  · rw [hnode, dropTrailingDots_append (List.cons_ne_nil '*' []) (by decide),
      List.prefix_concat_iff] at hprefix
    rcases hprefix with hsame | hprefix
    · have hlast := congrArg List.getLast? hsame
      simp at hlast
    · have hlength := hprefix.length_le
      have hnodeLength := congrArg List.length hnode
      have hdot : ".".length = 1 := rfl
      simp only [String.toList_append, List.length_append, String.length_toList] at hlength
      simp only [String.length_toList, List.length_append, List.length_singleton] at hnodeLength
      rw [length_wildcard, hnodeLength]
      omega

/-- Of two lookups that end in a `*`, the one that is a longer wildcard is asked for first. -/
theorem idxOf_lt_of_longer {q w : String} {cs : List Char} (hq : q ++ ".*" ∈ all node)
    (hw : w ∈ all node) (hcs : w.toList = cs ++ ['*']) (hlt : w.length < (q ++ ".*").length) :
    (all node).idxOf (q ++ ".*") < (all node).idxOf w := by
  have hnode : node ≠ w := by
    rintro rfl
    have hle := length_le_of_wildcard_mem hcs hq
    omega
  have hrest : w ∈ wildcards node ++ ["*"] := by
    simpa [all, hnode.symm] using hw
  rw [all, List.cons_append, List.idxOf_cons_ne _ hnode]
  by_cases hself : node = q ++ ".*"
  · rw [hself, List.idxOf_cons_self]
    exact Nat.succ_pos _
  · have hqrest : q ++ ".*" ∈ wildcards node ++ ["*"] := by
      simpa [all, Ne.symm hself] using hq
    rw [List.idxOf_cons_ne _ hself]
    exact Nat.succ_lt_succ (idxOf_lt_of_pairwise (wildcards_pairwise node) hqrest hrest hlt)

end Lookup

open Lookup

namespace Resolver

theorem asks_wildcard (look : String → Option Rule) (source : Source) (node : String) :
    Resolver.wildcard.asks look source node =
      (.ok (Lookup.decide look node), tried look (all node)) := by
  rw [asks, resolveM, StateT.run_bind, run_decideM_noting]
  rfl

/-- A decision is the same whether or not the lookups for it are noted. -/
theorem fst_asks (resolver : Resolver) (look : String → Option Rule) (source : Source)
    (node : String) : (resolver.asks look source node).1 = resolver.resolve look source node := by
  cases resolver with
  | wildcard => rw [asks_wildcard, resolve_wildcard]
  | exact => rfl
  | constant d => rfl
  | faulty only message =>
    rw [asks, resolve, resolveM, resolveM]
    split
    · rfl
    · rw [StateT.run_bind, run_decideM_noting]
      rfl
  | custom decide => rfl

variable {look look' : String → Option Rule} {source source' : Source} {node w : String} {r : Rule}

theorem asks_wildcard_of_first {before after : List String} (hall : all node = before ++ w :: after)
    (hnone : ∀ v ∈ before, look v = none) (hw : look w = some r) :
    Resolver.wildcard.asks look source node =
      (.ok (Decision.ofFlag r.allowed), before ++ [w]) := by
  have hfind : (all node).findSome? look = some r :=
    List.findSome?_eq_some_iff.mpr ⟨before, w, after, hall, hw, hnone⟩
  rw [asks_wildcard, decide_eq, hfind, hall, tried_of_first hnone (Option.isSome_of_eq_some hw)]
  rfl

theorem asks_wildcard_of_none (hnone : ∀ w ∈ all node, look w = none) :
    Resolver.wildcard.asks look source node = (.ok .undecided, all node) := by
  have hfind : (all node).findSome? look = none := List.findSome?_eq_none_iff.mpr hnone
  rw [asks_wildcard, decide_eq, hfind, tried_of_none hnone]
  rfl

/-- Either some lookup is the first with a rule, or none has one. -/
theorem asks_wildcard_cases (look : String → Option Rule) (source : Source) (node : String) :
    (∃ before w after r, all node = before ++ w :: after ∧ (∀ v ∈ before, look v = none) ∧
        look w = some r ∧
        Resolver.wildcard.asks look source node =
          (.ok (Decision.ofFlag r.allowed), before ++ [w])) ∨
      ((∀ w ∈ all node, look w = none) ∧
        Resolver.wildcard.asks look source node = (.ok .undecided, all node)) := by
  cases hfind : (all node).findSome? look with
  | some r =>
    obtain ⟨before, w, after, hall, hw, hnone⟩ := List.findSome?_eq_some_iff.mp hfind
    exact Or.inl ⟨before, w, after, r, hall, hnone, hw, asks_wildcard_of_first hall hnone hw⟩
  | none =>
    have hnone := List.findSome?_eq_none_iff.mp hfind
    exact Or.inr ⟨hnone, asks_wildcard_of_none hnone⟩

/-- What is not asked for does not count. -/
theorem asks_wildcard_congr
    (h : ∀ w ∈ (Resolver.wildcard.asks look source node).2, look' w = look w) :
    Resolver.wildcard.asks look' source' node = Resolver.wildcard.asks look source node := by
  rcases asks_wildcard_cases look source node with
    ⟨before, w, after, r, hall, hnone, hw, hasks⟩ | ⟨hnone, hasks⟩
  · rw [hasks] at h ⊢
    have hw' : look' w = some r :=
      (h w (List.mem_append_right _ (List.mem_singleton_self w))).trans hw
    exact asks_wildcard_of_first hall
      (fun v hv => (h v (List.mem_append_left _ hv)).trans (hnone v hv)) hw'
  · rw [hasks] at h ⊢
    exact asks_wildcard_of_none fun w hw => (h w hw).trans (hnone w hw)

/-- A wildcard resolver asks for the node, for the wildcards of its segment prefixes from long to
short and for the bare wildcard, up to the first that has a rule and not further. -/
theorem wildcard_asks (look : String → Option Rule) (source : Source) (node : String) :
    all node =
        node :: (List.range' 1 ((segments node).length - 1)).reverse.map
          (fun i => String.ofList (wildcardText ((segments node).take i))) ++ ["*"] ∧
      (Resolver.wildcard.asks look source node).1 =
        Resolver.wildcard.resolve look source node ∧
      ((∃ before w after r, all node = before ++ w :: after ∧ (∀ v ∈ before, look v = none) ∧
          look w = some r ∧
          Resolver.wildcard.asks look source node =
            (.ok (Decision.ofFlag r.allowed), before ++ [w])) ∨
        ((∀ w ∈ all node, look w = none) ∧
          Resolver.wildcard.asks look source node = (.ok .undecided, all node))) ∧
      (∀ look' source', (∀ w ∈ (Resolver.wildcard.asks look source node).2, look' w = look w) →
        Resolver.wildcard.asks look' source' node = Resolver.wildcard.asks look source node) ∧
      (∀ q, q ++ ".*" ∈ all node ↔
        node = q ++ ".*" ∨ (q ++ ".").toList <+: dropTrailingDots node.toList) ∧
      "*" ∈ all node ∧
      (∀ q, q ++ ".*" ∈ all node → (all node).idxOf (q ++ ".*") < (all node).idxOf "*") ∧
      ∀ q q', q ++ ".*" ∈ all node → q' ++ ".*" ∈ all node → q'.length < q.length →
        (all node).idxOf (q ++ ".*") < (all node).idxOf (q' ++ ".*") := by
  have hstar : "*" ∈ all node := by simp [all]
  refine ⟨all_eq_map_take node, fst_asks _ look source node, asks_wildcard_cases look source node,
    fun _ _ h => asks_wildcard_congr h, fun q => wildcard_mem_all_iff q node, hstar,
    fun q hq => ?_, fun q q' hq hq' hlt => ?_⟩
  · have hcs : "*".toList = [] ++ ['*'] := rfl
    refine idxOf_lt_of_longer hq hstar hcs ?_
    rw [length_wildcard]
    exact Nat.succ_lt_succ (Nat.succ_pos _)
  · have hcs : (q' ++ ".*").toList = (q'.toList ++ ['.']) ++ ['*'] := by simp
    refine idxOf_lt_of_longer hq hq' hcs ?_
    rw [length_wildcard, length_wildcard]
    omega

def grudging (w : String) : Option Rule :=
  if w = "a.*" then some ⟨w, false⟩ else if w = "*" then some ⟨w, true⟩ else none

theorem wildcard_asks_grudging :
    all "a..b." = ["a..b.", "a..*", "a.*", "*"] ∧
      Resolver.wildcard.asks grudging (.layers []) "a..b." =
        (.ok .deny, ["a..b.", "a..*", "a.*"]) ∧
      "a." ++ ".*" ∈ all "a..b." ∧ "a" ++ ".*" ∈ all "a..b." ∧
      (all "a..b.").idxOf ("a." ++ ".*") < (all "a..b.").idxOf ("a" ++ ".*") ∧
      (∀ look' source', (∀ w ∈ ["a..b.", "a..*", "a.*"], look' w = grudging w) →
        Resolver.wildcard.asks look' source' "a..b." = (.ok .deny, ["a..b.", "a..*", "a.*"])) := by
  have hall : all "a..b." = ["a..b.", "a..*", "a.*", "*"] := by decide +kernel
  have hasks : Resolver.wildcard.asks grudging (.layers []) "a..b." =
      (.ok .deny, ["a..b.", "a..*", "a.*"]) := by decide +kernel
  obtain ⟨-, -, -, hframe, hcover, -, -, hlonger⟩ :=
    Resolver.wildcard_asks grudging (.layers []) "a..b."
  have hnear : "a." ++ ".*" ∈ all "a..b." := (hcover "a.").mpr (Or.inr (by decide +kernel))
  have hfar : "a" ++ ".*" ∈ all "a..b." := (hcover "a").mpr (Or.inr (by decide +kernel))
  refine ⟨hall, hasks, hnear, hfar, hlonger "a." "a" hnear hfar (by decide +kernel), ?_⟩
  intro look' source' h
  rw [hframe look' source' fun w hw => h w (by rwa [hasks] at hw), hasks]

end Resolver

end PermissionGraph
