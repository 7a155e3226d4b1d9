import PermissionGraph.Table

/-!
# Layered sources of rules

A source is a table or a list of sources in priority order. It answers for a node with the first
layer that has an answer, and lists what all layers record.
-/

namespace PermissionGraph

inductive Source
  | table (t : Table)
  | layers (sources : List Source)

namespace Groups

def mergeGroup (node : String) (rules : List Rule) : Groups → Groups
  | [] => [(node, rules.foldl (fun rs r => if r ∈ rs then rs else rs ++ [r]) [])]
  | (n, rs) :: gs =>
    if n = node then (n, rules.foldl (fun rs r => if r ∈ rs then rs else rs ++ [r]) rs) :: gs
    else (n, rs) :: mergeGroup node rules gs

def union (gs hs : Groups) : Groups := hs.foldl (fun acc g => mergeGroup g.1 g.2 acc) gs

end Groups

namespace Source

mutual

def get? (node : String) : Source → Option Rule
  | table t => t.get? node
  | layers ss => getFirst? node ss

def getFirst? (node : String) : List Source → Option Rule
  | [] => none
  | s :: ss => (get? node s).or (getFirst? node ss)

end

mutual

/-- Every node with all rules recorded for it, earlier layers first. -/
def groups : Source → Groups
  | table t => t.groups
  | layers ss => unionOf [] ss

def unionOf (gs : Groups) : List Source → Groups
  | [] => gs
  | s :: ss => unionOf (gs.union (groups s)) ss

end

mutual

def rules : Source → List Rule
  | table t => t.rules
  | layers ss => rulesOf ss

def rulesOf : List Source → List Rule
  | [] => []
  | s :: ss => rules s ++ rulesOf ss

end

theorem getFirst?_map {α : Type} (node : String) (f : α → Source) (xs : List α) :
    getFirst? node (xs.map f) = xs.findSome? fun x => (f x).get? node := by
  induction xs with
  | nil => rfl
  | cons x xs ih =>
    rw [List.map_cons, getFirst?, ih, List.findSome?_cons]
    cases (f x).get? node <;> rfl

end Source

end PermissionGraph
