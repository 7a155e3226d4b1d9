import PermissionGraph.Overlay
import PermissionGraph.Lists
import PermissionGraph.Resolver
import PermissionGraph.Source
import PermissionGraph.Traversal

/-!
# The graph of contexts

A context holds layers of rules and names the contexts it inherits from. A question is put to the
contexts that a subject can reach, nearest first; those that do not apply to the subject are passed
over, but what they inherit from is still reached. The first decision stands.

Layers are read in two ways: as a tree of sources, which lists all they record, and one node at a
time, where nothing is read behind the first layer with a rule. `ruleWithin?_eq_get?` says that both
find the same rules.
-/

namespace PermissionGraph

abbrev DatabaseId := Nat
abbrev ContextId := Nat
abbrev ResolverId := Nat
abbrev OverlayId := Nat

inductive Layer
  | database (id : DatabaseId)
  | configured (overlay : OverlayId)
  | plugin (overlay : OverlayId)
deriving DecidableEq

inductive Database
  | flat (table : Table)
  | layered (layers : Priority Layer)

inductive Audience
  | everyone
  /-- The subjects with one of these names. -/
  | named (subjects : List String)
  /-- The subject that the context is. -/
  | itself
  | whileEnabled (overlay : OverlayId)

structure Context where
  name : String
  audience : Audience
  parents : Priority ContextId
  layers : Priority Layer
  resolver : ResolverId

namespace Context

/-- Puts a new parent last; the flag says whether it was new. -/
def addParent (c : Context) (parent : ContextId) : Bool × Context :=
  if parent ∈ c.parents then (false, c)
  else (true, { c with parents := Priority.addLast c.parents parent })

def addParentFirst (c : Context) (parent : ContextId) : Bool × Context :=
  if parent ∈ c.parents then (false, c)
  else (true, { c with parents := Priority.addFirst c.parents parent })

def removeParent (c : Context) (parent : ContextId) : Bool × Context :=
  let (removed, parents) := Priority.remove c.parents parent
  (removed, { c with parents })

def clearParents (c : Context) : Context :=
  c.parents.foldl (fun c parent => (c.removeParent parent).2) c

end Context

structure Graph where
  databases : Array Database
  contexts : Array Context
  resolvers : Array Resolver
  overlays : Array Overlay

namespace Graph

variable (g : Graph)

def overlay (o : OverlayId) : Overlay := g.overlays[o]?.getD Overlay.initial

/-- The source that a layer refers to, where databases are nested at most `depth` deep. -/
def expand : Nat → Layer → Source
  | _, .configured o => .table (g.overlay o).configured
  | _, .plugin o => .table (g.overlay o).plugin
  | 0, .database _ => .layers []
  | depth + 1, .database d =>
    match g.databases[d]? with
    | some (.flat t) => .table t
    | some (.layered layers) => .layers (layers.map (expand depth))
    | none => .layers []

def source (layer : Layer) : Source := g.expand g.databases.size layer

def layersOf (c : ContextId) : Priority Layer := g.contexts[c]?.elim [] Context.layers

def contextSource (c : ContextId) : Source := .layers ((g.layersOf c).map g.source)

def ruleWithin? (node : String) : Nat → Layer → Option Rule
  | _, .configured o => (g.overlay o).configured.get? node
  | _, .plugin o => (g.overlay o).plugin.get? node
  | 0, .database _ => none
  | depth + 1, .database d =>
    match g.databases[d]? with
    | some (.flat t) => t.get? node
    | some (.layered layers) => layers.findSome? (ruleWithin? node depth)
    | none => none

def rule? (layer : Layer) (node : String) : Option Rule :=
  g.ruleWithin? node g.databases.size layer

def contextRule? (c : ContextId) (node : String) : Option Rule :=
  (g.layersOf c).findSome? (g.rule? · node)

theorem ruleWithin?_eq_get? (node : String) (depth : Nat) (layer : Layer) :
    g.ruleWithin? node depth layer = (g.expand depth layer).get? node := by
  induction depth generalizing layer with
  | zero => cases layer <;> simp [ruleWithin?, expand, Source.get?, Source.getFirst?]
  | succ depth ih =>
    cases layer with
    | configured o => simp [ruleWithin?, expand, Source.get?]
    | plugin o => simp [ruleWithin?, expand, Source.get?]
    | database d =>
      rw [ruleWithin?, expand]
      split <;> simp [Source.get?, Source.getFirst?, Source.getFirst?_map, funext ih]

theorem rule?_eq_get? (layer : Layer) (node : String) :
    g.rule? layer node = (g.source layer).get? node :=
  g.ruleWithin?_eq_get? node g.databases.size layer

theorem contextRule?_eq_get? (c : ContextId) (node : String) :
    g.contextRule? c node = (g.contextSource c).get? node := by
  simp [contextRule?, contextSource, Source.get?, Source.getFirst?_map, rule?_eq_get?]

def nameOf (c : ContextId) : String := g.contexts[c]?.elim "" Context.name

def applies (c subject : ContextId) : Bool :=
  match g.contexts[c]?.map Context.audience with
  | none => false
  | some .everyone => true
  | some (.named subjects) => subjects.contains (g.nameOf subject)
  | some .itself => c == subject
  | some (.whileEnabled o) => (g.overlay o).enabled

def ancestry : Links ContextId where
  items := List.range g.contexts.size
  next c := g.contexts[c]?.elim [] Context.parents

/-- What a search has found: the answer so far and the contexts that were asked. -/
structure Search where
  result : Except Fault Decision
  asked : List ContextId

def ask (subject : ContextId) (resolve : ContextId → Except Fault Decision) (c : ContextId)
    (found : Search) : Bool × Search :=
  if g.applies c subject then
    let result := resolve c
    let stop := match result with
      | .ok d => d.isDecided
      | .error _ => true
    (stop, ⟨result, found.asked ++ [c]⟩)
  else (false, found)

/-- Searches the contexts that `subject` can reach, nearest first, for what `resolve` makes of
each. -/
def search (subject : ContextId) (resolve : ContextId → Except Fault Decision) : Search :=
  (g.ancestry.breadthFirst subject (g.ask subject resolve) ⟨.ok .undecided, []⟩).2

end Graph

end PermissionGraph
