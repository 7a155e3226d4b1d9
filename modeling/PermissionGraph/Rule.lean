import PermissionGraph.Text.Lower
import PermissionGraph.Text.Character

/-!
# Decisions and rules

The answer to a permission question is that the permission is granted, that it is revoked, or no
opinion. A rule grants or revokes one permission node. Its written form is the node, with a leading
`-` where it revokes.
-/

namespace PermissionGraph

open Text

inductive Decision
  | allow
  | deny
  | undecided
deriving DecidableEq, Inhabited

namespace Decision

def ofFlag (allowed : Bool) : Decision := if allowed then allow else deny

/-- No opinion counts as not granted. -/
def isAllowed : Decision → Bool
  | allow => true
  | deny | undecided => false

def isDecided : Decision → Bool
  | allow | deny => true
  | undecided => false

def text : Decision → String
  | allow => "allow"
  | deny => "deny"
  | undecided => "default"

def ofText? (s : String) : Option Decision :=
  [allow, deny, undecided].find? (·.text == s)

end Decision

structure Rule where
  node : String
  allowed : Bool
deriving DecidableEq, Inhabited

namespace Rule

def decision (r : Rule) : Decision := Decision.ofFlag r.allowed

def text (r : Rule) : String := if r.allowed then r.node else "-" ++ r.node

/-- Reads an entry: one leading `-` revokes, and the node is lower-cased. -/
def parse (entry : String) : Rule :=
  match entry.toList with
  | '-' :: cs => ⟨String.ofList (lowerChars cs), false⟩
  | cs => ⟨String.ofList (lowerChars cs), true⟩

def foldNode (r : Rule) : Rule := { r with node := lower r.node }

/-- Order by node, a revocation before a grant of the same node. -/
def precedes (r s : Rule) : Bool :=
  r.node < s.node || (r.node == s.node && (!r.allowed || s.allowed))

def describe (r : Rule) : String :=
  "PermissionState \x7b permission: " ++ quoted r.node ++ ", allowed: " ++ toString r.allowed ++
    " \x7d"

end Rule

def sortRules (rules : List Rule) : List Rule := rules.mergeSort Rule.precedes

end PermissionGraph
