import PermissionGraph.Proofs.Walk.Breadth

/-!
# One more link

A start gets one more link behind its others, to an item that it could not reach and that links to
nothing. The breadth-first walk then takes that item right after the others that the start links to,
and takes everything else in the order in which it did before.
-/

namespace PermissionGraph.Links

variable {α : Type} [DecidableEq α] {G G' : Links α} {start c x : α} {seen seen' queue : List α}

theorem discover_congr (hitems : G'.items = G.items) (hnext : G'.next x = G.next x)
    (hseen : ∀ y ∈ G.next x, y ∈ G.items → (y ∈ seen' ↔ y ∈ seen)) :
    G'.discover seen' x = G.discover seen x := by
  rw [discover, discover, hnext, hitems]
  refine List.foldl_ext _ _ _ fun new y hy => ?_
  by_cases hitem : y ∈ G.items
  · simp only [hseen y hy hitem]
  · rw [if_neg fun h => hitem h.1, if_neg fun h => hitem h.1]

theorem discover_concat (hitems : G'.items = G.items) (hnext : G'.next x = G.next x ++ [c])
    (hitem : c ∈ G.items) (hseen : c ∉ seen) (hnew : c ∉ G.next x) :
    G'.discover seen x = G.discover seen x ++ [c] := by
  have hdiscover : c ∉ G.discover seen x := fun h => hnew (G.mem_discover.mp h).1
  rw [discover, hnext, hitems, List.foldl_append, ← discover, List.foldl_cons, List.foldl_nil,
    if_pos ⟨hitem, hseen, hdiscover⟩]

/-- The first answer among the items that are found is the first among all that are linked to, where
what is passed over has none. -/
theorem findSome?_discover {β : Type} {f : α → Option β} (hseen : ∀ y ∈ seen, f y = none)
    (hitem : ∀ y, y ∉ G.items → f y = none) :
    (G.discover seen x).findSome? f = (G.next x).findSome? f := by
  unfold discover
  induction G.next x using List.reverseRecOn with
  | nil => rfl
  | append_singleton ys a ih =>
    rw [List.foldl_append, List.foldl_cons, List.foldl_nil, List.findSome?_append, ← ih]
    set new := ys.foldl (fun new y => if y ∈ G.items ∧ y ∉ seen ∧ y ∉ new then new ++ [y] else new)
      []
    by_cases ha : a ∈ G.items ∧ a ∉ seen ∧ a ∉ new
    · rw [if_pos ha, List.findSome?_append]
    · rw [if_neg ha, List.findSome?_singleton]
      cases hnew : new.findSome? f with
      | some b => rfl
      | none =>
        have hnone : f a = none := by
          by_contra hne
          refine ha ⟨by_contra fun h => hne (hitem a h), fun h => hne (hseen a h), fun h => ?_⟩
          exact hne (List.findSome?_eq_none_iff.mp hnew a h)
        rw [hnone, Option.none_or]

variable (G) in
/-- Induction along the breadth-first walk. -/
theorem visitsFrom_induction {motive : List α → List α → Prop} (nil : ∀ seen, motive [] seen)
    (cons : ∀ x queue seen,
      motive (queue ++ G.discover seen x) (seen ++ G.discover seen x) → motive (x :: queue) seen)
    (queue seen : List α) : motive queue seen := by
  suffices h : ∀ noted : List α, motive queue seen from h []
  intro noted
  fun_induction G.breadthFrom note queue seen noted with
  | case1 => exact nil _
  | case2 seen noted x queue s h => cases h
  | case3 seen noted x queue s h new ih => exact cons x queue seen ih

/-- `G'` has one more link than `G`: the last one of `start` leads to `c`. -/
structure Appended (G G' : Links α) (start c : α) : Prop where
  items : G'.items = G.items
  next_start : G'.next start = G.next start ++ [c]
  next_of_ne : ∀ x, x ≠ start → G'.next x = G.next x
  item : c ∈ G.items
  leaf : G.next c = []
  unreached : ¬ G.Reaches start c

/-- What stands in the queue once the start was visited. -/
structure Pending (G : Links α) (start : α) (queue seen : List α) : Prop where
  start_seen : start ∈ seen
  ne_start : ∀ x ∈ queue, x ≠ start
  reached : ∀ x ∈ queue, G.Reaches start x

theorem Pending.first :
    G.Pending start (G.discover [start] start) ([start] ++ G.discover [start] start) where
  start_seen := List.mem_append_left _ (List.mem_singleton_self start)
  ne_start x hx := by
    rintro rfl
    exact (G.mem_discover.mp hx).2.2 (List.mem_singleton_self x)
  reached x hx := by
    obtain ⟨hlink, hitem, -⟩ := G.mem_discover.mp hx
    exact (Reaches.refl G start).link hlink hitem

theorem Pending.step (h : G.Pending start (x :: queue) seen) :
    G.Pending start (queue ++ G.discover seen x) (seen ++ G.discover seen x) where
  start_seen := List.mem_append_left _ h.start_seen
  ne_start y hy := by
    rcases List.mem_append.mp hy with hy | hy
    · exact h.ne_start y (List.mem_cons_of_mem x hy)
    · rintro rfl
      exact (G.mem_discover.mp hy).2.2 h.start_seen
  reached y hy := by
    rcases List.mem_append.mp hy with hy | hy
    · exact h.reached y (List.mem_cons_of_mem x hy)
    · obtain ⟨hlink, hitem, -⟩ := G.mem_discover.mp hy
      exact (h.reached x (List.mem_cons_self ..)).link hlink hitem

def SeenAlike (c : α) (seen seen' : List α) : Prop := ∀ y, y ≠ c → (y ∈ seen' ↔ y ∈ seen)

omit [DecidableEq α] in
theorem SeenAlike.append (h : SeenAlike c seen seen') (new : List α) :
    SeenAlike c (seen ++ new) (seen' ++ new) := by
  intro y hy
  rw [List.mem_append, List.mem_append, h y hy]

namespace Appended

theorem ne_start (h : Appended G G' start c) : c ≠ start := by
  rintro rfl
  exact h.unreached (Reaches.refl G c)

theorem not_mem_next (h : Appended G G' start c) (hx : G.Reaches start x) : c ∉ G.next x :=
  fun hlink => h.unreached (hx.link hlink h.item)

theorem discover_leaf (h : Appended G G' start c) (seen : List α) : G'.discover seen c = [] := by
  rw [discover, h.next_of_ne c h.ne_start, h.leaf, List.foldl_nil]

/-- Past the start both graphs offer the same items, whether `c` was seen or not. -/
theorem discover_eq (h : Appended G G' start c) (hp : G.Pending start (x :: queue) seen)
    (hseen : SeenAlike c seen seen') : G'.discover seen' x = G.discover seen x := by
  have hx := List.mem_cons_self (a := x) (l := queue)
  refine discover_congr h.items (h.next_of_ne x (hp.ne_start x hx)) fun y hlink _ => hseen y ?_
  rintro rfl
  exact h.not_mem_next (hp.reached x hx) hlink

/-- Once `c` was visited the walks go on alike. -/
theorem visitsFrom_eq (h : Appended G G' start c) (hp : G.Pending start queue seen)
    (hseen : SeenAlike c seen seen') : G'.visitsFrom queue seen' = G.visitsFrom queue seen := by
  induction queue, seen using G.visitsFrom_induction generalizing seen' with
  | nil seen => rw [visitsFrom_nil, visitsFrom_nil]
  | cons x queue seen ih =>
    rw [visitsFrom_cons, visitsFrom_cons, h.discover_eq hp hseen]
    exact congrArg (x :: ·) (ih hp.step (hseen.append _))

/-- Up to `c` the walks go alike, and `c` is visited when its turn comes. -/
theorem visitsFrom_insert (h : Appended G G' start c) (before : List α)
    (hp : G.Pending start (before ++ queue) seen) (hseen : SeenAlike c seen seen') :
    ∃ far, G.visitsFrom (before ++ queue) seen = before ++ far ∧
      G'.visitsFrom (before ++ c :: queue) seen' = before ++ c :: far := by
  induction before generalizing queue seen seen' with
  | nil =>
    refine ⟨G.visitsFrom queue seen, rfl, ?_⟩
    rw [List.nil_append, visitsFrom_cons, h.discover_leaf, List.append_nil, List.append_nil]
    exact congrArg (c :: ·) (h.visitsFrom_eq hp hseen)
  | cons x before ih =>
    have hstep : G.Pending start (before ++ (queue ++ G.discover seen x))
        (seen ++ G.discover seen x) := List.append_assoc before queue _ ▸ hp.step
    obtain ⟨far, hfar, hfar'⟩ := ih hstep (hseen.append _)
    refine ⟨far, ?_, ?_⟩
    · rw [List.cons_append, visitsFrom_cons, List.append_assoc, hfar, List.cons_append]
    · rw [List.cons_append, visitsFrom_cons, h.discover_eq hp hseen, List.append_assoc,
        List.cons_append, hfar', List.cons_append]

/-- The new link puts `c` right behind what the start links to, and nothing else changes its place.
-/
theorem visits (h : Appended G G' start c) :
    ∃ far, G.visits start = start :: G.discover [start] start ++ far ∧
      G'.visits start = start :: G.discover [start] start ++ c :: far := by
  have hfirst : G'.discover [start] start = G.discover [start] start ++ [c] :=
    discover_concat h.items h.next_start h.item (by simpa using h.ne_start)
      (h.not_mem_next (Reaches.refl G start))
  have hseen : SeenAlike c ([start] ++ G.discover [start] start)
      ([start] ++ (G.discover [start] start ++ [c])) := by
    intro y hy
    simp [hy]
  have hp : G.Pending start (G.discover [start] start ++ [])
      ([start] ++ G.discover [start] start) := by
    rw [List.append_nil]
    exact Pending.first
  obtain ⟨far, hfar, hfar'⟩ := h.visitsFrom_insert _ hp hseen
  rw [List.append_nil] at hfar
  refine ⟨far, (G.visitsFrom_cons start [] [start]).trans ?_,
    (G'.visitsFrom_cons start [] [start]).trans ?_⟩
  · exact congrArg (start :: ·) hfar
  · rw [hfirst]
    exact congrArg (start :: ·) hfar'

end Appended

end PermissionGraph.Links
