import PermissionGraph.Proofs.Walk.Order

/-!
# The order of the depth-first walk

`descend` is the walk as a recursion: an item that was seen is passed over, and any other is visited
before the recursion goes through what it links to. The walk with a stack visits the same items in
the same order, although an item can stand on the stack more than once.
-/

namespace PermissionGraph.Links

variable {α σ : Type} [DecidableEq α] (G : Links α)

theorem unseen_le_of_prefix {seen seen' : List α} (h : seen <+: seen') :
    G.unseen seen' ≤ G.unseen seen := by
  refine List.countP_mono_left fun x _ hx => ?_
  simp only [decide_eq_true_eq] at hx ⊢
  exact fun hmem => hx (h.subset hmem)

theorem unseen_lt_of_prefix {seen seen' : List α} {x : α} (hx : x ∈ G.items ∧ x ∉ seen)
    (h : seen ++ [x] <+: seen') : G.unseen seen' < G.unseen seen :=
  Nat.lt_of_le_of_lt (G.unseen_le_of_prefix h) (G.unseen_append_lt (by simpa using hx) (by simp))

/-- Passes over an item that was seen; visits any other and then descends to what it links to, in
order. The answer is what was seen, in the order of visits. -/
def descend (x : α) (seen : List α) : { seen' : List α // seen <+: seen' } :=
  if _h : x ∈ G.items ∧ x ∉ seen then
    let last : { seen' : List α // seen ++ [x] <+: seen' } :=
      (G.next x).foldl (fun s y => ⟨(descend y s.1).1, s.2.trans (descend y s.1).2⟩)
        ⟨seen ++ [x], List.prefix_rfl⟩
    ⟨last.1, (List.prefix_append seen [x]).trans last.2⟩
  else ⟨seen, List.prefix_rfl⟩
termination_by G.unseen seen
decreasing_by exact G.unseen_lt_of_prefix _h s.2

def descendAll (xs seen : List α) : List α := xs.foldl (fun seen y => (G.descend y seen).1) seen

def preorder (start : α) : List α := (G.descend start []).1

variable {G} {x : α} {seen seen' stack xs ys : List α}

theorem descend_of_new (h : x ∈ G.items ∧ x ∉ seen) :
    (G.descend x seen).1 = G.descendAll (G.next x) (seen ++ [x]) := by
  rw [descend, dif_pos h, descendAll]
  exact (List.foldl_hom (Subtype.val : { seen' : List α // seen ++ [x] <+: seen' } → List α)
    fun _ _ => rfl).symm

theorem descend_of_not_new (h : ¬ (x ∈ G.items ∧ x ∉ seen)) : (G.descend x seen).1 = seen := by
  rw [descend, dif_neg h]

theorem descendAll_cons : G.descendAll (x :: xs) seen = G.descendAll xs (G.descend x seen).1 := rfl

theorem descendAll_append :
    G.descendAll (xs ++ ys) seen = G.descendAll ys (G.descendAll xs seen) :=
  List.foldl_append

theorem prefix_descendAll (xs seen : List α) : seen <+: G.descendAll xs seen := by
  induction xs generalizing seen with
  | nil => exact List.prefix_rfl
  | cons x xs ih => exact (G.descend x seen).2.trans (ih _)

/-- What was seen before need not be descended to. -/
theorem descendAll_filter (h : seen <+: seen') :
    G.descendAll (xs.filter (· ∉ seen)) seen' = G.descendAll xs seen' := by
  induction xs generalizing seen' with
  | nil => rfl
  | cons x xs ih =>
    by_cases hx : x ∈ seen
    · have hold : (G.descend x seen').1 = seen' :=
        descend_of_not_new fun hnew => hnew.2 (h.subset hx)
      rw [List.filter_cons_of_neg (by simpa using hx), ih h, descendAll_cons, hold]
    · rw [List.filter_cons_of_pos (by simpa using hx), descendAll_cons, descendAll_cons,
        ih (h.trans (G.descend x seen').2)]

/-- A visit at the top of the stack puts on it what the recursion descends to. -/
theorem descendAll_push (h : x ∈ G.items ∧ x ∉ seen) :
    G.descendAll ((G.next x).filter (· ∉ seen ++ [x]) ++ stack) (seen ++ [x]) =
      G.descendAll (x :: stack) seen := by
  rw [descendAll_append, descendAll_filter List.prefix_rfl, descendAll_cons, descend_of_new h]

theorem descendAll_skip (h : ¬ (x ∈ G.items ∧ x ∉ seen)) :
    G.descendAll (x :: stack) seen = G.descendAll stack seen := by
  rw [descendAll_cons, descend_of_not_new h]

/-- What a visit at the top of the stack adds comes right behind the visited item. -/
theorem exists_eq_cons_of_new (hx : x ∈ G.items ∧ x ∉ seen) {new : List α}
    (h : G.descendAll (x :: stack) seen = seen ++ new) :
    ∃ rest, new = x :: rest ∧
      G.descendAll ((G.next x).filter (· ∉ seen ++ [x]) ++ stack) (seen ++ [x]) =
        (seen ++ [x]) ++ rest := by
  rw [← descendAll_push hx] at h
  obtain ⟨rest, hrest⟩ := prefix_descendAll (G := G)
    ((G.next x).filter (· ∉ seen ++ [x]) ++ stack) (seen ++ [x])
  refine ⟨rest, ?_, hrest.symm⟩
  rw [← hrest, List.append_assoc, List.append_cancel_left_eq] at h
  exact h.symm

variable (G) in
/-- Induction along the depth-first walk. -/
theorem stack_induction {motive : List α → List α → Prop} (nil : ∀ seen, motive [] seen)
    (visit : ∀ x stack seen, x ∈ G.items ∧ x ∉ seen →
      motive ((G.next x).filter (· ∉ seen ++ [x]) ++ stack) (seen ++ [x]) →
        motive (x :: stack) seen)
    (skip : ∀ x stack seen, ¬ (x ∈ G.items ∧ x ∉ seen) → motive stack seen →
      motive (x :: stack) seen)
    (stack seen : List α) : motive stack seen :=
  match stack with
  | [] => nil seen
  | x :: stack =>
    if hx : x ∈ G.items ∧ x ∉ seen then
      visit x stack seen hx (stack_induction nil visit skip _ _)
    else skip x stack seen hx (stack_induction nil visit skip stack seen)
termination_by (G.unseen seen, stack.length)
decreasing_by
  · exact Prod.Lex.left _ _ (G.unseen_lt_of_prefix hx List.prefix_rfl)
  · exact Prod.Lex.right _ (Nat.lt_succ_self _)

/-- The walk visits what the recursion adds to what was seen. -/
theorem depthFrom_eq_visitAll (visit : α → σ → Bool × σ) (stack seen : List α) (s : σ)
    {new : List α} (h : G.descendAll stack seen = seen ++ new) :
    G.depthFrom visit stack seen s = visitAll visit new s := by
  induction stack, seen using G.stack_induction generalizing new s with
  | nil seen =>
    obtain rfl : new = [] := List.self_eq_append_right.mp h
    rw [depthFrom, visitAll]
  | visit x stack seen hx ih =>
    obtain ⟨rest, rfl, hrest⟩ := exists_eq_cons_of_new hx h
    rw [depthFrom, dif_pos hx, visitAll]
    rcases visit x s with ⟨_ | _, s'⟩
    · exact ih s' hrest
    · rfl
  | skip x stack seen hx ih =>
    rw [depthFrom, dif_neg hx]
    exact ih s (descendAll_skip hx ▸ h)

theorem depthFirst_eq_visitAll (visit : α → σ → Bool × σ) (start : α) (s : σ) :
    G.depthFirst start visit s = visitAll visit (G.preorder start) s :=
  depthFrom_eq_visitAll visit [start] [] s rfl

variable (G) in
/-- Between two rounds every link of a seen item leads to a seen item or to the stack, and nothing
stands there that cannot be reached. -/
structure Dive (start : α) (stack seen : List α) : Prop where
  nodup : seen.Nodup
  closed : ∀ v ∈ seen, ∀ y ∈ G.next v, y ∈ G.items → y ∈ seen ∨ y ∈ stack
  reached : ∀ y, y ∈ seen ∨ y ∈ stack → y ∈ G.items → G.Reaches start y
  items : ∀ y ∈ seen, y ∈ G.items

namespace Dive

variable {start : α}

theorem initial (start : α) : G.Dive start [start] [] where
  nodup := List.nodup_nil
  closed := by simp
  reached := by
    rintro y (hy | hy) -
    · cases hy
    · exact List.mem_singleton.mp hy ▸ Reaches.refl G start
  items := by simp

theorem visit (h : G.Dive start (x :: stack) seen) (hx : x ∈ G.items ∧ x ∉ seen) :
    G.Dive start ((G.next x).filter (· ∉ seen ++ [x]) ++ stack) (seen ++ [x]) where
  nodup := List.nodup_append.mpr ⟨h.nodup, List.pairwise_singleton _ x, by
    rintro y hy z hz rfl
    exact hx.2 (List.mem_singleton.mp hz ▸ hy)⟩
  closed := by
    intro v hv y hlink hitem
    by_cases hy : y ∈ seen ++ [x]
    · exact Or.inl hy
    · refine Or.inr (List.mem_append.mpr ?_)
      rcases List.mem_append.mp hv with hv | hv
      · rcases h.closed v hv y hlink hitem with hseen | hstack
        · exact absurd (List.mem_append_left _ hseen) hy
        · rcases List.mem_cons.mp hstack with rfl | hstack
          · exact absurd (List.mem_append_right _ (List.mem_singleton_self y)) hy
          · exact Or.inr hstack
      · obtain rfl := List.mem_singleton.mp hv
        exact Or.inl (List.mem_filter.mpr ⟨hlink, by simpa using hy⟩)
  reached := by
    have hreach : G.Reaches start x := h.reached x (Or.inr List.mem_cons_self) hx.1
    rintro y (hy | hy) hitem
    · rcases List.mem_append.mp hy with hy | hy
      · exact h.reached y (Or.inl hy) hitem
      · exact List.mem_singleton.mp hy ▸ hreach
    · rcases List.mem_append.mp hy with hy | hy
      · exact hreach.link (List.mem_filter.mp hy).1 hitem
      · exact h.reached y (Or.inr (List.mem_cons_of_mem x hy)) hitem
  items := by
    intro y hy
    rcases List.mem_append.mp hy with hy | hy
    · exact h.items y hy
    · exact List.mem_singleton.mp hy ▸ hx.1

theorem skip (h : G.Dive start (x :: stack) seen) (hx : ¬ (x ∈ G.items ∧ x ∉ seen)) :
    G.Dive start stack seen where
  nodup := h.nodup
  closed := by
    intro v hv y hlink hitem
    rcases h.closed v hv y hlink hitem with hseen | hstack
    · exact Or.inl hseen
    · rcases List.mem_cons.mp hstack with rfl | hstack
      · exact Or.inl (by_contra fun hseen => hx ⟨hitem, hseen⟩)
      · exact Or.inr hstack
  reached := by
    rintro y (hy | hy) hitem
    · exact h.reached y (Or.inl hy) hitem
    · exact h.reached y (Or.inr (List.mem_cons_of_mem x hy)) hitem
  items := h.items

/-- At the end of the walk the stack is empty. -/
theorem finish (h : G.Dive start stack seen) : G.Dive start [] (G.descendAll stack seen) := by
  induction stack, seen using G.stack_induction with
  | nil seen => exact h
  | visit x stack seen hx ih => exact descendAll_push hx ▸ ih (h.visit hx)
  | skip x stack seen hx ih => rw [descendAll_skip hx]; exact ih (h.skip hx)

end Dive

theorem dive_preorder (start : α) : G.Dive start [] (G.preorder start) := (Dive.initial start).finish

theorem preorder_nodup (start : α) : (G.preorder start).Nodup := (dive_preorder start).nodup

theorem mem_preorder_iff {start : α} (hstart : start ∈ G.items) :
    x ∈ G.preorder start ↔ G.Reaches start x := by
  have h := dive_preorder (G := G) start
  constructor
  · intro hx
    exact h.reached x (Or.inl hx) (h.items x hx)
  · intro hx
    refine hx.closed (P := (· ∈ G.preorder start)) ?_ fun z hz y hlink hitem => ?_
    · rw [preorder, descend_of_new ⟨hstart, List.not_mem_nil⟩]
      exact (prefix_descendAll _ _).subset (List.mem_singleton_self start)
    · exact (h.closed z hz y hlink hitem).resolve_right List.not_mem_nil

omit [DecidableEq α] in
theorem visitAll_fst {visit : α → σ → Bool × σ} {answer : α → Bool}
    (h : ∀ x s, (visit x s).1 = answer x) (s : σ) : (visitAll visit xs s).1 = xs.any answer := by
  induction xs generalizing s with
  | nil => rfl
  | cons x xs ih =>
    have hx := h x s
    rcases hvisit : visit x s with ⟨_ | _, s'⟩
    · rw [hvisit] at hx
      simp only [visitAll, hvisit, List.any_cons, ← hx, ih, Bool.false_or]
    · rw [hvisit] at hx
      simp only [visitAll, hvisit, List.any_cons, ← hx, Bool.true_or]

/-- The depth-first walk takes its items in the order of the recursion, up to the first item at which
the visit asks to stop. These are the items that can be reached, each once; so the walk is stopped
just where the breadth-first walk is, if the visit answers by the item alone. -/
theorem depthFirst_follows_preorder (G : Links α) {start : α} (hstart : start ∈ G.items)
    (visit : α → σ → Bool × σ) (s : σ) :
    (∀ x seen, (G.descend x seen).1 =
        if x ∈ G.items ∧ x ∉ seen then
          (G.next x).foldl (fun seen y => (G.descend y seen).1) (seen ++ [x])
        else seen) ∧
      Follows visit (G.preorder start) s (G.depthFirst start (noting visit) (s, [])) ∧
      G.depthFirst start visit s =
        ((G.depthFirst start (noting visit) (s, [])).1,
          (G.depthFirst start (noting visit) (s, [])).2.1) ∧
      (G.preorder start).Nodup ∧
      (∀ x, x ∈ G.preorder start ↔ G.Reaches start x) ∧
      ∀ answer : α → Bool, (∀ x s, (visit x s).1 = answer x) →
        (G.depthFirst start visit s).1 = (G.breadthFirst start visit s).1 := by
  refine ⟨fun x seen => ?_, ?_, ?_, preorder_nodup start, fun _ => mem_preorder_iff hstart, ?_⟩
  · by_cases hx : x ∈ G.items ∧ x ∉ seen
    · rw [if_pos hx]
      exact descend_of_new hx
    · rw [if_neg hx, descend_of_not_new hx]
  · rw [depthFirst_eq_visitAll]
    exact follows_visitAll visit _ s
  · rw [depthFirst_eq_visitAll, depthFirst_eq_visitAll]
    exact visitAll_eq_noting visit _ s []
  · intro answer hanswer
    rw [depthFirst_eq_visitAll, breadthFirst_eq_visitAll, visitAll_fst hanswer,
      visitAll_fst hanswer, Bool.eq_iff_iff, List.any_eq_true, List.any_eq_true]
    simp only [mem_preorder_iff hstart, mem_visits_iff]

theorem depthFirst_knot_follows_preorder :
    0 ∈ knot.items ∧ knot.preorder 0 = [0, 1, 3, 2] ∧
      knot.depthFirst 0 (noting countToTwo) (0, []) = (true, 4, [0, 1, 3, 2]) ∧
      Follows countToTwo [0, 1, 3, 2] 0 (true, 4, [0, 1, 3, 2]) ∧
      (∀ x s, (countToTwo x s).1 = (x == 2)) ∧
      (knot.depthFirst 0 countToTwo 0).1 = (knot.breadthFirst 0 countToTwo 0).1 := by
  have hstart : 0 ∈ knot.items := by decide
  have horder : knot.preorder 0 = [0, 1, 3, 2] := by cbv
  have hwalk : knot.depthFirst 0 (noting countToTwo) (0, []) = (true, 4, [0, 1, 3, 2]) := by cbv
  have hanswer : ∀ x s, (countToTwo x s).1 = (x == 2) := fun _ _ => rfl
  obtain ⟨-, hfollows, -, -, -, hsame⟩ := depthFirst_follows_preorder knot hstart countToTwo 0
  rw [horder, hwalk] at hfollows
  exact ⟨hstart, horder, hwalk, hfollows, hanswer, hsame (· == 2) hanswer⟩

end PermissionGraph.Links
