/-!
# Walks over a finite graph

Both walks visit what can be reached from a start along links, each item once, until a visit asks to
stop. The breadth-first walk takes the nearest items first, the depth-first walk an item's whole
ancestry before the item's next link. Links out of the graph are not followed.
-/

namespace PermissionGraph

structure Links (α : Type) where
  items : List α
  next : α → List α

namespace Links

variable {α σ : Type} [DecidableEq α] (G : Links α)

def unseen (seen : List α) : Nat := G.items.countP (· ∉ seen)

/-- The items that `x` links to and that were not seen, each once. -/
def discover (seen : List α) (x : α) : List α :=
  (G.next x).foldl (fun new y => if y ∈ G.items ∧ y ∉ seen ∧ y ∉ new then new ++ [y] else new) []

theorem unseen_append_lt {seen new : List α} (hmem : ∀ y ∈ new, y ∈ G.items ∧ y ∉ seen)
    (hne : new ≠ []) : G.unseen (seen ++ new) < G.unseen seen := by
  obtain ⟨y, hy⟩ := List.exists_mem_of_ne_nil new hne
  have hle : ∀ xs : List α, xs.countP (· ∉ seen ++ new) ≤ xs.countP (· ∉ seen) := fun xs =>
    List.countP_mono_left (by simp +contextual)
  have hlt : ∀ xs : List α, y ∈ xs → xs.countP (· ∉ seen ++ new) < xs.countP (· ∉ seen) := by
    intro xs
    induction xs with
    | nil => simp
    | cons x xs ih =>
      intro h
      have hx := hle xs
      by_cases hxy : y = x
      · subst hxy
        have hs := (hmem y hy).2
        simp [hs, hy] at hx ⊢
        omega
      · have hlt := ih (by simpa [hxy] using h)
        simp only [List.countP_cons]
        by_cases h1 : x ∈ seen <;> by_cases h2 : x ∈ new <;> simp [h1, h2] at hlt ⊢ <;> omega
  exact hlt _ (hmem y hy).1

theorem discover_mem {seen : List α} {x y : α} (h : y ∈ G.discover seen x) :
    y ∈ G.items ∧ y ∉ seen := by
  have key : ∀ (ys new : List α), (∀ z ∈ new, z ∈ G.items ∧ z ∉ seen) →
      ∀ z ∈ ys.foldl (fun new y =>
        if y ∈ G.items ∧ y ∉ seen ∧ y ∉ new then new ++ [y] else new) new,
        z ∈ G.items ∧ z ∉ seen := by
    intro ys
    induction ys with
    | nil => intro new h; simpa using h
    | cons a ys ih =>
      intro new h
      rw [List.foldl_cons]
      apply ih
      split
      · rename_i ha
        intro z hz
        rcases List.mem_append.mp hz with hz | hz
        · exact h z hz
        · rw [List.mem_singleton.mp hz]; exact ⟨ha.1, ha.2.1⟩
      · exact h
  exact key _ [] (by simp) y h

/-- Visits the queue in order; what a visited item newly links to queues up behind. -/
def breadthFrom (visit : α → σ → Bool × σ) (queue seen : List α) (s : σ) : Bool × σ :=
  match queue with
  | [] => (false, s)
  | x :: queue =>
    match visit x s with
    | (true, s) => (true, s)
    | (false, s) =>
      let new := G.discover seen x
      breadthFrom visit (queue ++ new) (seen ++ new) s
termination_by (G.unseen seen, queue.length)
decreasing_by
  by_cases hne : G.discover seen x = []
  · simp only [hne, List.append_nil, List.length_cons]
    exact Prod.Lex.right _ (Nat.lt_succ_self _)
  · exact Prod.Lex.left _ _ (G.unseen_append_lt (fun _ => G.discover_mem) hne)

def breadthFirst (start : α) (visit : α → σ → Bool × σ) (s : σ) : Bool × σ :=
  G.breadthFrom visit [start] [start] s

/-- Visits the top of the stack unless it was seen; its unseen links go on top, the first one
uppermost. -/
def depthFrom (visit : α → σ → Bool × σ) (stack seen : List α) (s : σ) : Bool × σ :=
  match stack with
  | [] => (false, s)
  | x :: stack =>
    if _h : x ∈ G.items ∧ x ∉ seen then
      match visit x s with
      | (true, s) => (true, s)
      | (false, s) =>
        depthFrom visit ((G.next x).filter (· ∉ seen ++ [x]) ++ stack) (seen ++ [x]) s
    else depthFrom visit stack seen s
termination_by (G.unseen seen, stack.length)
decreasing_by
  · exact Prod.Lex.left _ _ (G.unseen_append_lt (by simpa using _h) (by simp))
  · exact Prod.Lex.right _ (Nat.lt_succ_self _)

def depthFirst (start : α) (visit : α → σ → Bool × σ) (s : σ) : Bool × σ :=
  G.depthFrom visit [start] [] s

end Links

end PermissionGraph
