import PermissionGraph.Rule

/-!
# Flat tables of rules

A table groups rules by node. Groups stand in the order in which their nodes first came in, the
rules of a group in the order in which they were recorded, and no rule is recorded twice.
-/

namespace PermissionGraph

open Text

abbrev Groups := List (String × List Rule)

namespace Groups

def rulesFor (node : String) (gs : Groups) : List Rule := (gs.lookup node).getD []

/-- Records `r` at the end of its group, unless it is there. -/
def record (r : Rule) : Groups → Groups
  | [] => [(r.node, [r])]
  | (n, rs) :: gs =>
    if n = r.node then (n, if r ∈ rs then rs else rs ++ [r]) :: gs else (n, rs) :: record r gs

def rules (gs : Groups) : List Rule := gs.flatMap Prod.snd

end Groups

structure Table where
  groups : Groups
deriving DecidableEq, Inhabited

namespace Table

def empty : Table := ⟨[]⟩

def rulesFor (t : Table) (node : String) : List Rule := t.groups.rulesFor node

/-- The first rule recorded under exactly `node`. -/
def get? (t : Table) (node : String) : Option Rule := (t.rulesFor node).head?

def rules (t : Table) : List Rule := t.groups.rules

/-- The form in which a single insertion records a rule: a node without an upper-case character is
kept as it is. -/
def insertForm (r : Rule) : Rule := if hasUppercase r.node then r.foldNode else r

def holds (t : Table) (r : Rule) : Bool := decide (r ∈ t.rulesFor r.node)

/-- Records a rule in its insertion form; the flag says whether it was new. -/
def insert (t : Table) (r : Rule) : Bool × Table :=
  let r := insertForm r
  (!t.holds r, ⟨t.groups.record r⟩)

def insertNode (t : Table) (node : String) (allowed : Bool) : Bool × Table :=
  t.insert ⟨node, allowed⟩

def ofRules (rules : List Rule) : Table := rules.foldl (fun t r => (t.insert r).2) empty

def replaceAll (rules : List Rule) : Table :=
  ⟨rules.foldl (fun gs r => gs.record r.foldNode) []⟩

/-- Whether anything is recorded for the node, in any spelling of it. -/
def contains (t : Table) (node : String) : Bool := (t.groups.lookup (lower node)).isSome

/-- Drops the group of the node, in any spelling of it, and gives the rules dropped. -/
def removeAll (t : Table) (node : String) : List Rule × Table :=
  (t.rulesFor (lower node), ⟨t.groups.filter (·.1 ≠ lower node)⟩)

def size (t : Table) : Nat := t.groups.length

def isEmpty (t : Table) : Bool := t.groups.isEmpty

end Table

end PermissionGraph
