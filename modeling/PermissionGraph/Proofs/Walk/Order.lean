import Mathlib
import PermissionGraph.Proofs.Walk.Breadth

/-!
# Walks up to a stop

A walk that a visit may stop goes through its order up to the first item at which the visit asks to
stop, and no further. The breadth-first order goes by the number of links from the start, and among
items that are equally far by the least places of the links that lead there.
-/

namespace PermissionGraph.Links

variable {α σ : Type} (visit : α → σ → Bool × σ)

/-- The state after a visit was applied to the items of a list, whatever it answered. -/
def after (xs : List α) (s : σ) : σ := xs.foldl (fun s x => (visit x s).2) s

/-- Applied to the items of a list in turn, the visit asks to stop at number `n`. -/
def StopsAt (xs : List α) (s : σ) (n : ℕ) : Prop :=
  ∃ x, xs[n]? = some x ∧ (visit x (after visit (xs.take n) s)).1 = true

def noting (x : α) (s : σ × List α) : Bool × σ × List α :=
  ((visit x s.1).1, (visit x s.1).2, s.2 ++ [x])

/-- What comes of a walk in the given order, with the items to which the visit was applied: all of
them, or those up to the first at which it asked to stop. -/
inductive Follows (order : List α) (s : σ) : Bool × σ × List α → Prop
  | through (h : ∀ n, ¬ StopsAt visit order s n) :
    Follows order s (false, after visit order s, order)
  | stopped (n : ℕ) (h : StopsAt visit order s n) (first : ∀ m < n, ¬ StopsAt visit order s m) :
    Follows order s (true, after visit (order.take (n + 1)) s, order.take (n + 1))

variable {visit} {x : α} {xs : List α} {s : σ}

theorem stopsAt_cons_zero : StopsAt visit (x :: xs) s 0 ↔ (visit x s).1 = true := by
  simp [StopsAt, after]

theorem stopsAt_cons_succ (n : ℕ) :
    StopsAt visit (x :: xs) s (n + 1) ↔ StopsAt visit xs (visit x s).2 n := by
  simp [StopsAt, after]

theorem Follows.cons {b : Bool} {s' : σ} {asked : List α} (hx : (visit x s).1 = false)
    (h : Follows visit xs (visit x s).2 (b, s', asked)) :
    Follows visit (x :: xs) s (b, s', x :: asked) := by
  have hzero : ¬ StopsAt visit (x :: xs) s 0 := by simp [stopsAt_cons_zero, hx]
  cases h with
  | through h =>
    refine Follows.through fun n => ?_
    cases n with
    | zero => exact hzero
    | succ n => exact (stopsAt_cons_succ n).not.mpr (h n)
  | stopped n h first =>
    refine Follows.stopped (n + 1) ((stopsAt_cons_succ n).mpr h) fun m hm => ?_
    cases m with
    | zero => exact hzero
    | succ m => exact (stopsAt_cons_succ m).not.mpr (first m (Nat.lt_of_succ_lt_succ hm))

variable (visit xs s)

theorem visitAll_noting (noted : List α) :
    ∃ asked, visitAll (noting visit) xs (s, noted) =
        ((visitAll visit xs s).1, (visitAll visit xs s).2, noted ++ asked) ∧
      Follows visit xs s ((visitAll visit xs s).1, (visitAll visit xs s).2, asked) := by
  induction xs generalizing s noted with
  | nil =>
    refine ⟨[], by simp [visitAll], Follows.through ?_⟩
    simp [StopsAt]
  | cons x xs ih =>
    rcases hx : visit x s with ⟨_ | _, s'⟩
    · obtain ⟨asked, hwalk, hfollows⟩ := ih s' (noted ++ [x])
      have hstate : (visit x s).2 = s' := congrArg Prod.snd hx
      refine ⟨x :: asked, ?_, ?_⟩
      · simpa only [visitAll, noting, hx, List.append_assoc, List.singleton_append] using hwalk
      · simp only [visitAll, hx]
        exact Follows.cons (congrArg Prod.fst hx) (hstate ▸ hfollows)
    · have hstop : StopsAt visit (x :: xs) s 0 :=
        stopsAt_cons_zero.mpr (congrArg Prod.fst hx)
      refine ⟨[x], by simp only [visitAll, noting, hx], ?_⟩
      have hfollows := Follows.stopped 0 hstop (by simp)
      simpa [visitAll, after, hx] using hfollows

/-- Noting what is visited changes nothing in a walk. -/
theorem visitAll_eq_noting (noted : List α) :
    visitAll visit xs s = ((visitAll (noting visit) xs (s, noted)).1,
      (visitAll (noting visit) xs (s, noted)).2.1) := by
  obtain ⟨asked, hwalk, -⟩ := visitAll_noting visit xs s noted
  rw [hwalk]

theorem follows_visitAll : Follows visit xs s (visitAll (noting visit) xs (s, [])) := by
  obtain ⟨asked, hwalk, hfollows⟩ := visitAll_noting visit xs s []
  rw [hwalk]
  exact hfollows

variable [DecidableEq α] {G : Links α} {start x y : α} {d d' : ℕ} {k k' : List ℕ}

variable (G) in
/-- Where an item stands, seen from `start`: `distance` is the least number of links that lead
there, and `places` the least sequence of link places among the routes of that length. -/
structure Address (start x : α) (distance : ℕ) (places : List ℕ) : Prop where
  leads : G.follow start places = some x
  length : places.length = distance
  shortest : ∀ t, G.follow start t = some x → distance ≤ t.length
  least : ∀ t, G.follow start t = some x → t.length = distance → ¬ List.Lex (· < ·) t places

theorem Address.nearest (h : G.Address start x d k) : G.Nearest start x k := by
  refine ⟨h.leads, fun t ht hlt => ?_⟩
  rcases List.shortlex_def.mp hlt with hlength | ⟨hlength, hlex⟩
  · have hshortest := h.shortest t ht
    rw [h.length] at hlength
    omega
  · exact h.least t ht (hlength.trans h.length) hlex

theorem Nearest.address (h : G.Nearest start x k) : G.Address start x k.length k where
  leads := h.1
  length := rfl
  shortest t ht := Nat.le_of_not_lt fun hlt => h.2 t ht (List.Shortlex.of_length_lt hlt)
  least t ht hlength hlex := h.2 t ht (List.Shortlex.of_lex hlength hlex)

theorem Address.lt_of_nearer (hx : G.Address start x d k) (hy : G.Address start y d' k')
    (h : G.Nearer start x y) : d < d' ∨ d = d' ∧ List.Lex (· < ·) k k' := by
  have hbefore : Before k k' := hx.nearest.before h hy.leads
  rw [Before, List.shortlex_def, hx.length, hy.length] at hbefore
  exact hbefore

theorem exists_address_of_mem (h : x ∈ G.visits start) : ∃ d k, G.Address start x d k := by
  obtain ⟨k, hk⟩ := (G.frontier_visits start).exists_nearest (List.mem_append_left _ h)
  exact ⟨k.length, k, hk.address⟩

/-- The breadth-first walk takes what can be reached, each item once and in the order of addresses,
up to the first item at which the visit asks to stop. -/
theorem breadthFirst_follows_addresses (G : Links α) (start : α) (visit : α → σ → Bool × σ)
    (s : σ) :
    (G.visits start).Nodup ∧
      (∀ x, x ∈ G.visits start ↔ G.Reaches start x) ∧
      (∀ x ∈ G.visits start, ∃ d k, G.Address start x d k) ∧
      (G.visits start).Pairwise (fun x y => ∀ d k d' k', G.Address start x d k →
        G.Address start y d' k' → d < d' ∨ d = d' ∧ List.Lex (· < ·) k k') ∧
      Follows visit (G.visits start) s (G.breadthFirst start (noting visit) (s, [])) ∧
      G.breadthFirst start visit s =
        ((G.breadthFirst start (noting visit) (s, [])).1,
          (G.breadthFirst start (noting visit) (s, [])).2.1) := by
  refine ⟨G.visits_nodup start, fun _ => G.mem_visits_iff start, fun _ => exists_address_of_mem,
    ?_, ?_, ?_⟩
  · refine (G.visits_pairwise_nearer start).imp fun {x y} hnearer d k d' k' hx hy => ?_
    exact hx.lt_of_nearer hy hnearer
  · rw [breadthFirst_eq_visitAll]
    exact follows_visitAll visit _ s
  · rw [breadthFirst_eq_visitAll, breadthFirst_eq_visitAll]
    exact visitAll_eq_noting visit _ s []

/-- A loop at the start, an item that is a link of the start and of its first link, and a way
back. -/
def knot : Links ℕ where
  items := [0, 1, 2, 3]
  next
    | 0 => [0, 1, 2]
    | 1 => [3, 2]
    | 3 => [0]
    | _ => []

def countToTwo (x n : ℕ) : Bool × ℕ := (x == 2, n + 1)

theorem breadthFirst_knot_follows_addresses :
    knot.visits 0 = [0, 1, 2, 3] ∧ 2 ∈ knot.visits 0 ∧ (∃ d k, knot.Address 0 2 d k) ∧
      knot.breadthFirst 0 (noting countToTwo) (0, []) = (true, 3, [0, 1, 2]) ∧
      Follows countToTwo [0, 1, 2, 3] 0 (true, 3, [0, 1, 2]) := by
  have horder : knot.visits 0 = [0, 1, 2, 3] := by cbv
  have hwalk : knot.breadthFirst 0 (noting countToTwo) (0, []) = (true, 3, [0, 1, 2]) := by
    rw [breadthFirst_eq_visitAll, horder]
    rfl
  have htwo : 2 ∈ knot.visits 0 := by rw [horder]; decide
  obtain ⟨-, -, haddress, -, hfollows, -⟩ := breadthFirst_follows_addresses knot 0 countToTwo 0
  rw [horder, hwalk] at hfollows
  exact ⟨horder, htwo, haddress 2 htwo, hwalk, hfollows⟩

end PermissionGraph.Links
