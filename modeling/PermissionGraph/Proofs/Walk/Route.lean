import PermissionGraph.Traversal
import Mathlib.Data.List.Shortlex

/-!
# Routes through a finite graph

A route names, link by link, the place of the link that is followed. Routes are compared by their
number of links, and routes of the same length by the first place in which they differ. An item is
nearer to the start than another if some route to it comes before every route to the other.
-/

namespace PermissionGraph.Links

/-- Fewer links first, then the lower place at the first difference. -/
abbrev Before (r t : List ℕ) : Prop := List.Shortlex (· < ·) r t

theorem Before.irrefl (r : List ℕ) : ¬ Before r r := fun h => Std.Asymm.asymm _ _ h h

theorem Before.trans {r s t : List ℕ} (h : Before r s) (h' : Before s t) : Before r t := by
  rw [Before, List.shortlex_def] at *
  rcases h with h | ⟨h, hl⟩ <;> rcases h' with h' | ⟨h', hl'⟩
  · exact Or.inl (h.trans h')
  · exact Or.inl (h' ▸ h)
  · exact Or.inl (h.symm ▸ h')
  · exact Or.inr ⟨h.trans h', List.lt_trans hl hl'⟩

theorem Before.eq_of_not {r t : List ℕ} (h : ¬ Before r t) (h' : ¬ Before t r) : r = t :=
  Std.Trichotomous.trichotomous r t h h'

theorem Before.lt_or_eq {r t : List ℕ} (h : ¬ Before t r) : Before r t ∨ r = t := by
  by_cases h' : Before r t
  · exact Or.inl h'
  · exact Or.inr (Before.eq_of_not h' h)

theorem Before.trans_not {r s t : List ℕ} (h : Before r s) (h' : ¬ Before t s) : Before r t := by
  rcases Before.lt_or_eq h' with h' | rfl
  · exact h.trans h'
  · exact h

theorem Before.not_trans {r s t : List ℕ} (h : ¬ Before s r) (h' : Before s t) : Before r t := by
  rcases Before.lt_or_eq h with h | rfl
  · exact h.trans h'
  · exact h'

theorem before_concat_self (r : List ℕ) (i : ℕ) : Before r (r ++ [i]) :=
  List.Shortlex.of_length_lt (by simp)

/-- Routes keep their order when each takes one more link, whatever the links. -/
theorem Before.concat {r t : List ℕ} (h : Before r t) (i j : ℕ) : Before (r ++ [i]) (t ++ [j]) := by
  rcases List.shortlex_def.mp h with h | ⟨hlen, hlex⟩
  · exact List.Shortlex.of_length_lt (by simpa using h)
  · refine List.Shortlex.of_lex (by simpa using hlen) ?_
    clear h
    induction hlex with
    | nil => simp at hlen
    | cons _ ih => exact List.Lex.cons (ih (by simpa using hlen))
    | rel h => exact List.Lex.rel h

theorem before_concat_iff (r : List ℕ) (i j : ℕ) : Before (r ++ [i]) (r ++ [j]) ↔ i < j := by
  constructor
  · intro h
    by_contra hij
    rcases Nat.lt_or_eq_of_le (Nat.le_of_not_lt hij) with hji | rfl
    · have hback : Before (r ++ [j]) (r ++ [i]) :=
        ((List.shortlex_singleton_iff j i).mpr hji).append_left r
      exact Before.irrefl _ (h.trans hback)
    · exact Before.irrefl _ h
  · intro h
    exact ((List.shortlex_singleton_iff i j).mpr h).append_left r

variable {α : Type} [DecidableEq α] (G : Links α)

/-- What a route leads to. A link out of the graph leads nowhere. -/
def follow (x : α) : List ℕ → Option α
  | [] => some x
  | i :: route =>
    match (G.next x)[i]? with
    | some y => if y ∈ G.items then follow y route else none
    | none => none

theorem follow_append (x : α) (r t : List ℕ) :
    G.follow x (r ++ t) = (G.follow x r).bind (G.follow · t) := by
  induction r generalizing x with
  | nil => rfl
  | cons i r ih =>
    rw [List.cons_append, follow, follow]
    cases (G.next x)[i]? with
    | none => rfl
    | some y =>
      by_cases hy : y ∈ G.items
      · simp only [if_pos hy, ih]
      · simp only [if_neg hy, Option.bind_none]

theorem follow_concat_eq_some {x y : α} {r : List ℕ} {i : ℕ} :
    G.follow x (r ++ [i]) = some y ↔
      ∃ z, G.follow x r = some z ∧ (G.next z)[i]? = some y ∧ y ∈ G.items := by
  rw [follow_append]
  cases G.follow x r with
  | none => simp
  | some z =>
    cases hz : (G.next z)[i]? with
    | none => simp [follow, hz]
    | some w =>
      by_cases hw : w ∈ G.items
      · simp only [Option.bind_some, follow, hz, if_pos hw, Option.some.injEq, exists_eq_left']
        constructor
        · rintro rfl
          exact ⟨rfl, hw⟩
        · exact And.left
      · simp only [Option.bind_some, follow, hz, if_neg hw, Option.some.injEq, exists_eq_left']
        constructor
        · intro h
          cases h
        · rintro ⟨rfl, h⟩
          exact absurd h hw

def Reaches (start x : α) : Prop := ∃ r, G.follow start r = some x

theorem Reaches.refl (x : α) : G.Reaches x x := ⟨[], rfl⟩

variable {G} in
theorem Reaches.link {start x y : α} (h : G.Reaches start x) (hlink : y ∈ G.next x)
    (hitem : y ∈ G.items) : G.Reaches start y := by
  obtain ⟨r, hr⟩ := h
  exact ⟨r ++ [(G.next x).idxOf y],
    G.follow_concat_eq_some.mpr ⟨x, hr, List.getElem?_idxOf hlink, hitem⟩⟩

variable {G} in
/-- No route leaves a set of items that links do not leave. -/
theorem Reaches.closed {start x : α} {P : α → Prop} (h : G.Reaches start x) (hstart : P start)
    (hclosed : ∀ z, P z → ∀ y ∈ G.next z, y ∈ G.items → P y) : P x := by
  obtain ⟨r, hr⟩ := h
  induction r generalizing start with
  | nil => exact Option.some.inj hr ▸ hstart
  | cons i r ih =>
    rw [follow] at hr
    split at hr
    · rename_i y hy
      split at hr
      · rename_i hitem
        exact ih (hclosed start hstart y (List.mem_of_getElem? hy) hitem) hr
      · cases hr
    · cases hr

/-- `r` leads from `start` to `x`, and no route to `x` comes before it. -/
def Nearest (start x : α) (r : List ℕ) : Prop :=
  G.follow start r = some x ∧ ∀ t, G.follow start t = some x → ¬ Before t r

/-- Some route to `x` comes before every route to `y`. -/
def Nearer (start x y : α) : Prop :=
  ∃ r, G.follow start r = some x ∧ ∀ t, G.follow start t = some y → Before r t

theorem Nearest.start (start : α) : G.Nearest start start [] :=
  ⟨rfl, fun _ _ => List.not_shortlex_nil_right⟩

/-- The nearest route to a nearer item comes before every route to the other. -/
theorem Nearest.before {G : Links α} {start x y : α} {r t : List ℕ} (hr : G.Nearest start x r)
    (h : G.Nearer start x y) (ht : G.follow start t = some y) : Before r t := by
  obtain ⟨u, hu, hlt⟩ := h
  exact Before.not_trans (hr.2 u hu) (hlt t ht)

theorem Nearer.irrefl (start x : α) : ¬ G.Nearer start x x := by
  rintro ⟨r, hr, h⟩
  exact Before.irrefl r (h r hr)

end PermissionGraph.Links
