/-!
# Association lists and priority lists

In an association list a key stands at most once. `assign` keeps the place of a key that is there and
appends a new one; `assignOrdered` keeps string keys in ascending order.

A priority list is consulted from the front, so a place in it is a priority. Places are named by the
entries themselves; the same entry may stand in a list more than once.
-/

namespace PermissionGraph

abbrev Keyed (κ α : Type) := List (κ × α)

namespace Keyed

variable {κ α : Type} [DecidableEq κ]

def get? (xs : Keyed κ α) (k : κ) : Option α := (xs.find? (·.1 = k)).map Prod.snd

def assign (k : κ) (a : α) : Keyed κ α → Keyed κ α
  | [] => [(k, a)]
  | (k', a') :: xs => if k' = k then (k, a) :: xs else (k', a') :: assign k a xs

def remove (xs : Keyed κ α) (k : κ) : Keyed κ α := xs.filter (·.1 ≠ k)

def assignOrdered (k : String) (a : α) : Keyed String α → Keyed String α
  | [] => [(k, a)]
  | (k', a') :: xs =>
    if k' = k then (k, a) :: xs
    else if k' < k then (k', a') :: assignOrdered k a xs
    else (k, a) :: (k', a') :: xs

end Keyed

abbrev Priority (α : Type) := List α

namespace Priority

variable {α : Type} [DecidableEq α]

def addFirst (xs : Priority α) (x : α) : Priority α := x :: xs

def addLast (xs : Priority α) (x : α) : Priority α := xs ++ [x]

/-- Puts `x` before the first `ref`, or first of all where there is none. -/
def addBefore (xs : Priority α) (ref x : α) : Priority α :=
  match xs.idxOf? ref with
  | some i => xs.insertIdx i x
  | none => x :: xs

/-- Puts `x` after the first `ref`, or last of all where there is none. -/
def addAfter (xs : Priority α) (ref x : α) : Priority α :=
  match xs.idxOf? ref with
  | some i => xs.insertIdx (i + 1) x
  | none => xs ++ [x]

def remove (xs : Priority α) (x : α) : Bool × Priority α := (decide (x ∈ xs), xs.erase x)

end Priority

end PermissionGraph
