import PermissionGraph.Proofs.Walk.Route
import Mathlib.Data.List.Induction

/-!
# The order of the breadth-first walk

`visits` is what the walk takes, in order, when nothing stops it. It holds each item that can be
reached once, and nearer items stand before others. A walk with any visit goes through `visits` up
to the first item at which it is stopped.
-/

namespace PermissionGraph.Links

variable {α σ : Type} [DecidableEq α] (G : Links α)

def visitAll (visit : α → σ → Bool × σ) : List α → σ → Bool × σ
  | [], s => (false, s)
  | x :: xs, s =>
    match visit x s with
    | (true, s) => (true, s)
    | (false, s) => visitAll visit xs s

def note (x : α) (noted : List α) : Bool × List α := (false, noted ++ [x])

def visitsFrom (queue seen : List α) : List α := (G.breadthFrom note queue seen []).2

def visits (start : α) : List α := (G.breadthFirst start note []).2

theorem breadthFrom_note_append (queue seen before noted : List α) :
    G.breadthFrom note queue seen (before ++ noted) =
      (false, before ++ (G.breadthFrom note queue seen noted).2) := by
  fun_induction G.breadthFrom note queue seen noted with
  | case1 => simp only [breadthFrom]
  | case2 seen noted x queue s h => cases h
  | case3 seen noted x queue s h new ih =>
    cases h
    rw [breadthFrom]
    simpa only [note, List.append_assoc] using ih

theorem visitsFrom_nil (seen : List α) : G.visitsFrom [] seen = [] := by
  rw [visitsFrom, breadthFrom]

theorem visitsFrom_cons (x : α) (queue seen : List α) :
    G.visitsFrom (x :: queue) seen =
      x :: G.visitsFrom (queue ++ G.discover seen x) (seen ++ G.discover seen x) := by
  have h := G.breadthFrom_note_append (queue ++ G.discover seen x) (seen ++ G.discover seen x) [x] []
  rw [visitsFrom, breadthFrom]
  exact congrArg Prod.snd h

theorem breadthFrom_eq_visitAll (visit : α → σ → Bool × σ) (queue seen : List α) (s : σ) :
    G.breadthFrom visit queue seen s = visitAll visit (G.visitsFrom queue seen) s := by
  fun_induction G.breadthFrom visit queue seen s with
  | case1 seen s => rw [visitsFrom_nil, visitAll]
  | case2 seen s x queue s' h => rw [visitsFrom_cons, visitAll, h]
  | case3 seen s x queue s' h new ih =>
    rw [visitsFrom_cons, visitAll, h]
    exact ih

/-- A walk takes the items of `visits` in order until it is stopped. -/
theorem breadthFirst_eq_visitAll (visit : α → σ → Bool × σ) (start : α) (s : σ) :
    G.breadthFirst start visit s = visitAll visit (G.visits start) s :=
  G.breadthFrom_eq_visitAll visit [start] [start] s

theorem idxOf_lt_concat {ys : List α} {y a : α} (hy : y ∈ ys) (ha : a ∉ ys) :
    (ys ++ [a]).idxOf y < (ys ++ [a]).idxOf a := by
  rw [List.idxOf_append_of_mem hy, List.idxOf_append_of_notMem ha]
  have hlt := List.idxOf_lt_length_of_mem hy
  omega

theorem pairwise_idxOf_concat {ys new : List α} (a : α) (hnew : ∀ y ∈ new, y ∈ ys)
    (h : new.Pairwise fun y z => ys.idxOf y < ys.idxOf z) :
    new.Pairwise fun y z => (ys ++ [a]).idxOf y < (ys ++ [a]).idxOf z := by
  refine List.Pairwise.imp_of_mem (fun {y z} hy hz hlt => ?_) h
  rw [List.idxOf_append_of_mem (hnew y hy), List.idxOf_append_of_mem (hnew z hz)]
  exact hlt

theorem discover_spec (seen : List α) (x : α) :
    (∀ y, y ∈ G.discover seen x ↔ y ∈ G.next x ∧ y ∈ G.items ∧ y ∉ seen) ∧
      (G.discover seen x).Pairwise (fun y z => (G.next x).idxOf y < (G.next x).idxOf z) := by
  unfold discover
  induction G.next x using List.reverseRecOn with
  | nil => simp
  | append_singleton ys a ih =>
    obtain ⟨hmem, hsorted⟩ := ih
    rw [List.foldl_append, List.foldl_cons, List.foldl_nil]
    set new := ys.foldl (fun new y => if y ∈ G.items ∧ y ∉ seen ∧ y ∉ new then new ++ [y] else new)
      [] with hnew
    have hnext : ∀ y ∈ new, y ∈ ys := fun y hy => ((hmem y).mp hy).1
    have hkeep := pairwise_idxOf_concat a hnext hsorted
    by_cases ha : a ∈ G.items ∧ a ∉ seen ∧ a ∉ new
    · rw [if_pos ha]
      have hays : a ∉ ys := fun h => ha.2.2 ((hmem a).mpr ⟨h, ha.1, ha.2.1⟩)
      refine ⟨fun y => ?_, List.pairwise_append.mpr ⟨hkeep, List.pairwise_singleton _ _, ?_⟩⟩
      · simp only [List.mem_append, List.mem_singleton, hmem]
        constructor
        · rintro (⟨hy, h⟩ | rfl)
          · exact ⟨Or.inl hy, h⟩
          · exact ⟨Or.inr rfl, ha.1, ha.2.1⟩
        · rintro ⟨hy | rfl, h⟩
          · exact Or.inl ⟨hy, h⟩
          · exact Or.inr rfl
      · intro y hy z hz
        obtain rfl := List.mem_singleton.mp hz
        exact idxOf_lt_concat (hnext y hy) hays
    · rw [if_neg ha]
      refine ⟨fun y => ?_, hkeep⟩
      simp only [List.mem_append, List.mem_singleton, hmem]
      constructor
      · rintro ⟨hy, h⟩
        exact ⟨Or.inl hy, h⟩
      · rintro ⟨hy | rfl, h⟩
        · exact ⟨hy, h⟩
        · by_contra hy
          exact ha ⟨h.1, h.2, fun hn => hy ⟨hnext y hn, h⟩⟩

theorem mem_discover {seen : List α} {x y : α} :
    y ∈ G.discover seen x ↔ y ∈ G.next x ∧ y ∈ G.items ∧ y ∉ seen :=
  (G.discover_spec seen x).1 y

variable (start : α) {visited queue : List α} {x y z : α}

/-- What holds between two visits: what was visited and what is queued stand nearest first, what a
visited item links to is among them, and each is linked from a visited one by its nearest route. -/
structure Frontier (visited queue : List α) : Prop where
  sorted : (visited ++ queue).Pairwise (G.Nearer start)
  start_mem : start ∈ visited ++ queue
  closed : ∀ v ∈ visited, ∀ y ∈ G.next v, y ∈ G.items → y ∈ visited ++ queue
  found : ∀ y ∈ visited ++ queue, G.Nearest start y [] ∨
    ∃ v ∈ visited, ∃ r i, G.Nearest start v r ∧ G.Nearest start y (r ++ [i])

theorem Frontier.initial : G.Frontier start [] [start] where
  sorted := List.pairwise_singleton _ _
  start_mem := List.mem_singleton_self start
  closed := by simp
  found y hy := by
    obtain rfl := List.mem_singleton.mp hy
    exact Or.inl (Nearest.start G y)

namespace Frontier

variable {G start}

theorem exists_nearest (h : G.Frontier start visited queue) (hy : y ∈ visited ++ queue) :
    ∃ r, G.Nearest start y r := by
  rcases h.found y hy with hr | ⟨_, _, r, i, _, hr⟩
  · exact ⟨[], hr⟩
  · exact ⟨r ++ [i], hr⟩

/-- No route leaves the visited items before the nearest route to the head of the queue. -/
theorem not_before_head (h : G.Frontier start visited (x :: queue)) {r t : List ℕ}
    (hr : G.Nearest start x r) (ht : G.follow start t = some z) (hz : z ∉ visited) :
    ¬ Before t r := by
  have hqueue : ∀ {t z}, G.follow start t = some z → z ∈ x :: queue → ¬ Before t r := by
    intro t z ht hz
    rcases List.mem_cons.mp hz with rfl | hz
    · exact hr.2 t ht
    · intro hlt
      have hxz : G.Nearer start x z := by
        have hsorted := (List.pairwise_append.mp h.sorted).2.1
        exact (List.pairwise_cons.mp hsorted).1 z hz
      exact Before.irrefl t (hlt.trans (hr.before hxz ht))
  induction t using List.reverseRecOn generalizing z with
  | nil =>
    have hzs : z = start := (Option.some.inj ht).symm
    subst hzs
    rcases List.mem_append.mp h.start_mem with hs | hs
    · exact absurd hs hz
    · exact hqueue ht hs
  | append_singleton t i ih =>
    obtain ⟨w, hw, hlink, hitem⟩ := G.follow_concat_eq_some.mp ht
    by_cases hv : w ∈ visited
    · rcases List.mem_append.mp (h.closed w hv z (List.mem_of_getElem? hlink) hitem) with hs | hs
      · exact absurd hs hz
      · exact hqueue ht hs
    · intro hlt
      exact ih hw hv ((before_concat_self t i).trans hlt)

/-- A newly found item is nearest by way of the item at which it is found. -/
theorem nearest_discovered (h : G.Frontier start visited (x :: queue)) {r : List ℕ}
    (hr : G.Nearest start x r) (hy : y ∈ G.discover (visited ++ x :: queue) x) :
    G.Nearest start y (r ++ [(G.next x).idxOf y]) := by
  obtain ⟨hlink, hitem, hunseen⟩ := G.mem_discover.mp hy
  refine ⟨G.follow_concat_eq_some.mpr ⟨x, hr.1, List.getElem?_idxOf hlink, hitem⟩, ?_⟩
  intro t ht hlt
  induction t using List.reverseRecOn with
  | nil =>
    have hys : start = y := Option.some.inj ht
    exact hunseen (hys ▸ h.start_mem)
  | append_singleton t i _ =>
    obtain ⟨w, hw, hlink', -⟩ := G.follow_concat_eq_some.mp ht
    have hv : w ∉ visited := fun hv =>
      hunseen (h.closed w hv y (List.mem_of_getElem? hlink') hitem)
    rcases Before.lt_or_eq (h.not_before_head hr hw hv) with hrt | rfl
    · exact Before.irrefl _ (hlt.trans (hrt.concat _ i))
    · have hwx : x = w := Option.some.inj (hr.1.symm.trans hw)
      subst hwx
      obtain ⟨_, hget⟩ := List.getElem?_eq_some_iff.mp hlink'
      have hne := List.not_of_lt_findIdx ((before_concat_iff r i _).mp hlt)
      simp [hget] at hne

theorem nearer_discovered (h : G.Frontier start visited (x :: queue)) {r : List ℕ}
    (hr : G.Nearest start x r) (hz : z ∈ visited ++ x :: queue)
    (hy : y ∈ G.discover (visited ++ x :: queue) x) : G.Nearer start z y := by
  have hnear := h.nearest_discovered hr hy
  rcases h.found z hz with hs | ⟨v, hv, t, i, ht, hz⟩
  · refine ⟨[], hs.1, fun u hu => ?_⟩
    exact Before.trans_not (List.Shortlex.of_length_lt (by simp)) (hnear.2 u hu)
  · have hvx : G.Nearer start v x :=
      (List.pairwise_append.mp h.sorted).2.2 v hv x (List.mem_cons_self ..)
    have hlt := (ht.before hvx hr.1).concat i ((G.next x).idxOf y)
    exact ⟨t ++ [i], hz.1, fun u hu => Before.trans_not hlt (hnear.2 u hu)⟩

theorem pairwise_discovered (h : G.Frontier start visited (x :: queue)) {r : List ℕ}
    (hr : G.Nearest start x r) :
    (G.discover (visited ++ x :: queue) x).Pairwise (G.Nearer start) := by
  refine List.Pairwise.imp_of_mem (fun {y z} hy hz hlt => ?_) (G.discover_spec _ x).2
  refine ⟨_, (h.nearest_discovered hr hy).1, fun u hu => ?_⟩
  exact Before.trans_not ((before_concat_iff r _ _).mpr hlt) ((h.nearest_discovered hr hz).2 u hu)

theorem step (h : G.Frontier start visited (x :: queue)) :
    G.Frontier start (visited ++ [x]) (queue ++ G.discover (visited ++ x :: queue) x) := by
  obtain ⟨r, hr⟩ := h.exists_nearest (y := x) (by simp)
  have hshape : visited ++ [x] ++ (queue ++ G.discover (visited ++ x :: queue) x) =
      (visited ++ x :: queue) ++ G.discover (visited ++ x :: queue) x := by simp
  constructor
  · rw [hshape, List.pairwise_append]
    exact ⟨h.sorted, h.pairwise_discovered hr, fun z hz y hy => h.nearer_discovered hr hz hy⟩
  · rw [hshape]
    exact List.mem_append_left _ h.start_mem
  · intro v hv y hlink hitem
    rw [hshape]
    by_cases hy : y ∈ visited ++ x :: queue
    · exact List.mem_append_left _ hy
    · rcases List.mem_append.mp hv with hv | hv
      · exact List.mem_append_left _ (h.closed v hv y hlink hitem)
      · obtain rfl := List.mem_singleton.mp hv
        exact List.mem_append_right _ (G.mem_discover.mpr ⟨hlink, hitem, hy⟩)
  · intro y hy
    rw [hshape] at hy
    rcases List.mem_append.mp hy with hy | hy
    · rcases h.found y hy with hs | ⟨v, hv, hrest⟩
      · exact Or.inl hs
      · exact Or.inr ⟨v, List.mem_append_left _ hv, hrest⟩
    · exact Or.inr ⟨x, by simp, r, _, hr, h.nearest_discovered hr hy⟩

/-- At the end of the walk nothing is queued. -/
theorem finish {seen : List α} (h : G.Frontier start visited queue)
    (hseen : seen = visited ++ queue) :
    G.Frontier start (G.breadthFrom note queue seen visited).2 [] := by
  fun_induction G.breadthFrom note queue seen visited with
  | case1 => exact h
  | case2 seen visited x queue s hs => cases hs
  | case3 seen visited x queue s hs new ih =>
    cases hs
    subst hseen
    exact ih h.step (by simp [new])

end Frontier

theorem frontier_visits : G.Frontier start (G.visits start) [] :=
  (Frontier.initial G start).finish rfl

/-- The walk takes nearer items first. -/
theorem visits_pairwise_nearer : (G.visits start).Pairwise (G.Nearer start) := by
  simpa only [List.append_nil] using (G.frontier_visits start).sorted

/-- The walk takes what can be reached, and nothing else. -/
theorem mem_visits_iff : x ∈ G.visits start ↔ G.Reaches start x := by
  have h := G.frontier_visits start
  constructor
  · intro hx
    obtain ⟨r, hr⟩ := h.exists_nearest (List.mem_append_left _ hx)
    exact ⟨r, hr.1⟩
  · rintro ⟨r, hr⟩
    induction r using List.reverseRecOn generalizing x with
    | nil =>
      obtain rfl : start = x := Option.some.inj hr
      simpa only [List.append_nil] using h.start_mem
    | append_singleton r i ih =>
      obtain ⟨z, hz, hlink, hitem⟩ := G.follow_concat_eq_some.mp hr
      simpa only [List.append_nil] using
        h.closed z (ih hz) x (List.mem_of_getElem? hlink) hitem

theorem visits_nodup : (G.visits start).Nodup := by
  refine List.Pairwise.imp (fun {x y} h => ?_) (G.visits_pairwise_nearer start)
  rintro rfl
  exact Nearer.irrefl G start x h

end PermissionGraph.Links
