import PermissionGraph.Failure
import PermissionGraph.Source

/-!
# Resolvers

A resolver turns the rules of one source into a decision on a node. The wildcard resolver looks the
node up under its own name and then under the wildcards that cover it: for `a.b.c` these are `a.b.*`,
`a.*` and `*`. Trailing dots name no further segment, and the first lookup with a rule decides.

How a node is looked up is left open, in any monad. `Lookup.decide` and `Resolver.resolve` are for
lookups that change nothing; with lookups that are noted, the same definitions tell which ones a
resolver makes.
-/

namespace PermissionGraph

namespace Lookup

def dropTrailingDots (cs : List Char) : List Char :=
  (cs.reverse.dropWhile (· == '.')).reverse

/-- Puts the wildcards for the dots of a text before those in `found`, the last one first; `part` is
what stands before the text. -/
def wildcardsFrom (part : String) (found : List String) : List Char → List String
  | [] => found
  | c :: cs =>
    let part := part.push c
    wildcardsFrom part (if c = '.' then part.push '*' :: found else found) cs

def wildcards (node : String) : List String :=
  wildcardsFrom "" [] (dropTrailingDots node.toList)

def all (node : String) : List String := node :: wildcards node ++ ["*"]

variable {m : Type → Type} [Monad m]

/-- The decision of the first lookup with a rule, behind which nothing is looked up. -/
def decideM (look : String → m (Option Rule)) (node : String) : m Decision := do
  match ← (all node).findSomeM? look with
  | some r => return r.decision
  | none => return .undecided

def decide (look : String → Option Rule) (node : String) : Decision :=
  Id.run (decideM (fun w => pure (look w)) node)

theorem decide_eq (look : String → Option Rule) (node : String) :
    decide look node = ((all node).findSome? look).elim .undecided Rule.decision := by
  rw [decide, decideM, List.findSomeM?_pure, pure_bind]
  cases (all node).findSome? look <;> rfl

def noting (look : String → Option Rule) (w : String) : StateM (List String) (Option Rule) :=
  modifyGet fun asked => (look w, asked ++ [w])

/-- Those of some lookups that are made until one has a rule. -/
def tried (look : String → Option Rule) (ws : List String) : List String :=
  ((ws.findSomeM? (noting look)).run []).2

end Lookup

inductive Resolver
  /-- Tries every lookup of the node. -/
  | wildcard
  /-- Tries the node alone. -/
  | exact
  | constant (decision : Decision)
  /-- Breaks off on `node`, or on every node where none is named; else tries every lookup. -/
  | faulty (node : Option String) (message : String)
  /-- Any other way to decide from what the source records. -/
  | custom (decide : Source → String → Except Fault Decision)

namespace Resolver

variable {m : Type → Type} [Monad m]

/-- The decision on a node, where `look` finds the rule of exactly one node in the source. -/
def resolveM : Resolver → (String → m (Option Rule)) → Source → String → m (Except Fault Decision)
  | wildcard, look, _, node => return .ok (← Lookup.decideM look node)
  | exact, look, _, node => return .ok ((← look node).elim .undecided Rule.decision)
  | constant d, _, _, _ => return .ok d
  | faulty only message, look, _, node =>
    if only.all (· == node) then return .error ⟨message⟩
    else return .ok (← Lookup.decideM look node)
  | custom decide, _, source, node => return decide source node

def resolve (r : Resolver) (look : String → Option Rule) (source : Source) (node : String) :
    Except Fault Decision :=
  Id.run (r.resolveM (fun w => pure (look w)) source node)

theorem resolve_wildcard (look : String → Option Rule) (source : Source) (node : String) :
    wildcard.resolve look source node = .ok (Lookup.decide look node) := rfl

/-- The decision on a node, with what was looked up for it in order. -/
def asks (r : Resolver) (look : String → Option Rule) (source : Source) (node : String) :
    Except Fault Decision × List String :=
  (r.resolveM (Lookup.noting look) source node).run []

end Resolver

end PermissionGraph
