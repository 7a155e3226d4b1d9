import PermissionGraph.Engine

/-!
# Registries of subjects

A registry knows the subjects that take part, by name, and gives each of them the same overlay of
defaults.
-/

namespace PermissionGraph

structure Registry where
  overlay : OverlayId
  /-- Subjects by name, in ascending order of names. -/
  subjects : Keyed String ContextId

namespace Registry

def empty (overlay : OverlayId) : Registry := ⟨overlay, []⟩

/-- Takes in a subject under its own name, in place of any other of that name. -/
def enrol (r : Registry) (s : ContextId) (e : Engine) : Registry × Engine :=
  let (_, e) := e.attach r.overlay s
  ({ r with subjects := r.subjects.assignOrdered (e.graph.nameOf s) s }, e)

def enrolNew (r : Registry) (name : String) (e : Engine) : ContextId × Registry × Engine :=
  let (s, e) := e.addSubject name none
  (s, r.enrol s e)

def get? (r : Registry) (name : String) : Option ContextId := r.subjects.get? name

def remove (r : Registry) (name : String) : Option ContextId × Registry :=
  (r.get? name, { r with subjects := r.subjects.remove name })

def contains (r : Registry) (name : String) : Bool := (r.get? name).isSome

def size (r : Registry) : Nat := r.subjects.length

def names (r : Registry) : List String := r.subjects.map Prod.fst

def holders (node : String) : List ContextId → Engine → Except Fault (List ContextId) × Engine
  | [], e => (.ok [], e)
  | s :: ss, e =>
    match e.holds s node with
    | (.error f, e) => (.error f, e)
    | (.ok held, e) =>
      match holders node ss e with
      | (.error f, e) => (.error f, e)
      | (.ok rest, e) => (.ok (if held then s :: rest else rest), e)

def subjectsWithNode (r : Registry) (node : String) (e : Engine) :
    Except Fault (List ContextId) × Engine :=
  holders node (r.subjects.map Prod.snd) e

def invalidateAll (r : Registry) (e : Engine) : Engine :=
  r.subjects.foldl (fun e entry => e.invalidateAll entry.2) e

end Registry

end PermissionGraph
