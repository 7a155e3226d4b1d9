import PermissionGraph.Engine

/-!
# Commands

A command is open to a subject that holds one of its nodes or, where it asks for them all, every
one. Without nodes it is open to everyone. Nodes are checked in ascending order, and no further than
the answer needs.
-/

namespace PermissionGraph

open Text

structure Command where
  name : String
  /-- In ascending order, each once. -/
  nodes : List String
  requireAll : Bool

inductive Execution (α : Type)
  | denied
  | ran (result : Except Failure α)

namespace Command

def named (name : String) : Command := ⟨name, [], false⟩

def insertNode (node : String) : List String → List String
  | [] => [node]
  | n :: ns =>
    if n = node then n :: ns
    else if n < node then n :: insertNode node ns
    else node :: n :: ns

def addNode (c : Command) (node : String) : Command := { c with nodes := insertNode node c.nodes }

def removeNode (c : Command) (node : String) : Command :=
  { c with nodes := c.nodes.filter (· ≠ node) }

/-- Checks nodes until one is held, or is not, as `wanted` says; the answer is whether such a node
was met. -/
def meets (s : ContextId) (wanted : Bool) : List String → Engine → Except Fault Bool × Engine
  | [], e => (.ok false, e)
  | n :: ns, e =>
    match e.holds s n with
    | (.error f, e) => (.error f, e)
    | (.ok held, e) => if held = wanted then (.ok true, e) else meets s wanted ns e

def permits (c : Command) (s : ContextId) (e : Engine) : Except Fault Bool × Engine :=
  if c.nodes.isEmpty then (.ok true, e)
  else if c.requireAll then
    let (result, e) := meets s false c.nodes e
    (result.map not, e)
  else meets s true c.nodes e

def refusal (c : Command) (subject : String) : Failure := .permissionDenied subject c.name

def check (c : Command) (s : ContextId) (e : Engine) :
    Except Fault (Except Failure Unit) × Engine :=
  let (result, e) := c.permits s e
  (result.map fun permitted =>
    if permitted then .ok () else .error (c.refusal (e.graph.nameOf s)), e)

def execute {α : Type} (c : Command) (s : ContextId) (body : Engine → Except Failure α × Engine)
    (e : Engine) : Except Fault (Execution α) × Engine :=
  match c.permits s e with
  | (.error f, e) => (.error f, e)
  | (.ok false, e) => (.ok .denied, e)
  | (.ok true, e) =>
    let (result, e) := body e
    (.ok (.ran result), e)

def describe (c : Command) : String :=
  let nodes := if c.nodes.isEmpty then "\x7b\x7d"
    else "\x7b" ++ ", ".intercalate (c.nodes.map quoted) ++ "\x7d"
  "CommandPermissions \x7b command: " ++ quoted c.name ++ ", nodes: " ++ nodes ++
    ", require_all: " ++ toString c.requireAll ++ " \x7d"

end Command

end PermissionGraph
