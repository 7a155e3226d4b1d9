import PermissionGraph.Cache
import PermissionGraph.Graph
import PermissionGraph.Lists
import PermissionGraph.Repository

/-!
# The engine

The engine is the graph together with what its use leaves behind: the answers that subjects keep,
the consultations of resolvers, and the stored configurations. A subject is a context with a cache.
Changes to the graph leave kept answers alone; only a new resolver drops those of its subject.
-/

namespace PermissionGraph

open Text

structure OverlaySite where
  context : ContextId
  repository : RepositoryId

structure Engine where
  graph : Graph
  caches : Keyed ContextId Cache
  sites : Array OverlaySite
  /-- Every call of a resolver with the node it was asked for, oldest first. -/
  consultations : List (ResolverId × String)
  store : Store

inductive LayerOwner
  | database (id : DatabaseId)
  | context (id : ContextId)

namespace Engine

def initial : Engine where
  graph := ⟨#[], #[], #[], #[]⟩
  caches := []
  sites := #[]
  consultations := []
  store := ⟨#[], Files.Tree.empty⟩

def addDatabase (e : Engine) (d : Database) : DatabaseId × Engine :=
  (e.graph.databases.size,
    { e with graph := { e.graph with databases := e.graph.databases.push d } })

def table (e : Engine) (d : DatabaseId) : Table :=
  match e.graph.databases[d]? with
  | some (.flat t) => t
  | _ => Table.empty

def setTable (e : Engine) (d : DatabaseId) (t : Table) : Engine :=
  { e with graph := { e.graph with
    databases := e.graph.databases.setIfInBounds d (.flat t) } }

def layers (e : Engine) : LayerOwner → Priority Layer
  | .database d =>
    match e.graph.databases[d]? with
    | some (.layered layers) => layers
    | _ => []
  | .context c => e.graph.layersOf c

def modifyContext (e : Engine) (c : ContextId) (f : Context → Context) : Engine :=
  { e with graph := { e.graph with contexts := e.graph.contexts.modify c f } }

def setLayers (e : Engine) (owner : LayerOwner) (layers : Priority Layer) : Engine :=
  match owner with
  | .database d =>
    { e with graph := { e.graph with
      databases := e.graph.databases.setIfInBounds d (.layered layers) } }
  | .context c => e.modifyContext c fun ctx => { ctx with layers }

def source (e : Engine) : LayerOwner → Source
  | .database d => e.graph.source (.database d)
  | .context c => e.graph.contextSource c

def rule? (e : Engine) : LayerOwner → String → Option Rule
  | .database d => e.graph.rule? (.database d)
  | .context c => e.graph.contextRule? c

def addResolver (e : Engine) (r : Resolver) : ResolverId × Engine :=
  (e.graph.resolvers.size,
    { e with graph := { e.graph with resolvers := e.graph.resolvers.push r } })

def resolver (e : Engine) (r : ResolverId) : Resolver := e.graph.resolvers[r]?.getD .wildcard

/-- Changes how a resolver decides. It remains the same resolver to those that use it. -/
def alterResolver (e : Engine) (r : ResolverId) (behaviour : Resolver) : Engine :=
  { e with graph := { e.graph with resolvers := e.graph.resolvers.setIfInBounds r behaviour } }

def consulted (e : Engine) (r : ResolverId) : List String :=
  (e.consultations.filter (·.1 = r)).map Prod.snd

def noteConsultations (e : Engine) (r : ResolverId) (node : String) (times : Nat) : Engine :=
  { e with consultations := e.consultations ++ List.replicate times (r, node) }

def resolve (e : Engine) (r : ResolverId) (owner : LayerOwner) (node : String) :
    Except Fault Decision × Engine :=
  ((e.resolver r).resolve (e.rule? owner) (e.source owner) node, e.noteConsultations r node 1)

/-- A new context without parents or layers, with a wildcard resolver of its own. -/
def addContext (e : Engine) (name : String) (audience : Audience) : ContextId × Engine :=
  let (resolver, e) := e.addResolver .wildcard
  (e.graph.contexts.size,
    { e with graph := { e.graph with
      contexts := e.graph.contexts.push ⟨name, audience, [], [], resolver⟩ } })

def parents (e : Engine) (c : ContextId) : Priority ContextId :=
  e.graph.contexts[c]?.elim [] Context.parents

def editContext (e : Engine) (c : ContextId) (edit : Context → Bool × Context) : Bool × Engine :=
  match e.graph.contexts[c]? with
  | some ctx => ((edit ctx).1, e.modifyContext c fun ctx => (edit ctx).2)
  | none => (false, e)

def addParent (e : Engine) (c parent : ContextId) : Bool × Engine :=
  e.editContext c (·.addParent parent)

def addParentFirst (e : Engine) (c parent : ContextId) : Bool × Engine :=
  e.editContext c (·.addParentFirst parent)

def removeParent (e : Engine) (c parent : ContextId) : Bool × Engine :=
  e.editContext c (·.removeParent parent)

def clearParents (e : Engine) (c : ContextId) : Engine := e.modifyContext c Context.clearParents

def resolverOf (e : Engine) (c : ContextId) : ResolverId :=
  e.graph.contexts[c]?.elim 0 Context.resolver

def resolveByDefault (e : Engine) (c : ContextId) (node : String) :
    Except Fault Decision × Engine :=
  e.resolve (e.resolverOf c) (.context c) node

def isSubject (e : Engine) (c : ContextId) : Bool := (e.caches.get? c).isSome

def addSubject (e : Engine) (name : String) (resolver : Option ResolverId) : ContextId × Engine :=
  let (c, e) := e.addContext name .itself
  let e := match resolver with
    | some r => e.modifyContext c fun ctx => { ctx with resolver := r }
    | none => e
  (c, { e with caches := e.caches.assign c Cache.empty })

def cache (e : Engine) (s : ContextId) : Cache := (e.caches.get? s).getD Cache.empty

def setCache (e : Engine) (s : ContextId) (c : Cache) : Engine :=
  { e with caches := e.caches.assign s c }

def cachePlace (s : ContextId) : CachePlace Engine where
  get e := e.cache s
  set c e := e.setCache s c

def liveWith (e : Engine) (s : ContextId) (r : ResolverId) (node : String) :
    Except Fault Decision × Engine :=
  let found := e.graph.search s fun c =>
    (e.resolver r).resolve (e.graph.contextRule? c) (e.graph.contextSource c) node
  (found.result, e.noteConsultations r node found.asked.length)

/-- Asks the graph as it stands; the node is taken as it is spelled. -/
def live (e : Engine) (s : ContextId) (node : String) : Except Fault Decision × Engine :=
  e.liveWith s (e.resolverOf s) node

/-- The decision on a node in any spelling, kept from the first time it was asked for. -/
def permission (e : Engine) (s : ContextId) (node : String) : Except Fault Decision × Engine :=
  (cachePlace s).compute (lower node) (fun e => e.live s (lower node)) e

def holds (e : Engine) (s : ContextId) (node : String) : Except Fault Bool × Engine :=
  let (result, e) := e.permission s node
  (result.map Decision.isAllowed, e)

def holdsWith (e : Engine) (s : ContextId) (r : ResolverId) (node : String) :
    Except Fault Bool × Engine :=
  let (result, e) := e.liveWith s r (lower node)
  (result.map Decision.isAllowed, e)

def invalidate (e : Engine) (s : ContextId) (node : String) : Bool × Engine :=
  let (removed, c) := (e.cache s).invalidate (lower node)
  (removed, e.setCache s c)

def invalidateAll (e : Engine) (s : ContextId) : Engine := e.setCache s (e.cache s).invalidateAll

/-- Gives a context another resolver. A subject's kept answers go, unless it is the same one. -/
def setResolver (e : Engine) (c : ContextId) (r : ResolverId) : Engine :=
  let changed := e.resolverOf c ≠ r
  let e := e.modifyContext c fun ctx => { ctx with resolver := r }
  if changed ∧ e.isSubject c then e.invalidateAll c else e

def describe (e : Engine) (c : ContextId) : String :=
  let shared := "name: " ++ quoted (e.graph.nameOf c) ++ ", parents: " ++
    toString (e.parents c).length
  if e.isSubject c then
    "PermissionSubject \x7b " ++ shared ++ ", cached: " ++ toString (e.cache c).size ++ " \x7d"
  else
    "SimpleContext \x7b " ++ shared ++ ", databases: " ++
      toString (e.layers (.context c)).length ++ " \x7d"

def addRepository (e : Engine) (r : Repository) : RepositoryId × Engine :=
  (e.store.repositories.size,
    { e with store := { e.store with repositories := e.store.repositories.push r } })

def saveTo (e : Engine) (r : RepositoryId) (config : Config) : Except Failure Unit × Engine :=
  let (result, store) := e.store.save r config
  (result, { e with store })

def setRefusals (e : Engine) (r : RepositoryId) (load save : Bool) : Engine :=
  { e with store := e.store.setRefusals r load save }

def editFiles (e : Engine) (edit : Files.Tree → Except FileFailure Unit × Files.Tree) :
    Except Failure Unit × Engine :=
  let (result, files) := edit e.store.files
  (result.mapError .file, { e with store := { e.store with files } })

def writeFile (e : Engine) (path : Files.Path) (content : Files.Content) :
    Except Failure Unit × Engine :=
  e.editFiles (·.write path content)

def makeDirectory (e : Engine) (path : Files.Path) : Except Failure Unit × Engine :=
  e.editFiles (·.makeDirectories path)

def overlayName : String := "Default Permissions"

def addOverlay (e : Engine) (repository : RepositoryId) : OverlayId × Engine :=
  let o := e.graph.overlays.size
  let (overlay, store) := Overlay.create (Store.storage repository) e.store
  let (c, e) := e.addContext overlayName (.whileEnabled o)
  let e := e.setLayers (.context c) [.configured o, .plugin o]
  (o, { e with
    graph := { e.graph with overlays := e.graph.overlays.push overlay }
    sites := e.sites.push ⟨c, repository⟩
    store })

def site (e : Engine) (o : OverlayId) : OverlaySite := e.sites[o]?.getD ⟨0, 0⟩

def overlayStorage (e : Engine) (o : OverlayId) : Storage Store :=
  Store.storage (e.site o).repository

def setOverlay (e : Engine) (o : OverlayId) (overlay : Overlay) : Engine :=
  { e with graph := { e.graph with overlays := e.graph.overlays.setIfInBounds o overlay } }

def editOverlay {α : Type} (e : Engine) (o : OverlayId)
    (edit : Storage Store → Overlay → Store → α × Overlay × Store) : α × Engine :=
  let (result, overlay, store) := edit (e.overlayStorage o) (e.graph.overlay o) e.store
  (result, { e.setOverlay o overlay with store })

def reloadOverlay (e : Engine) (o : OverlayId) : Engine :=
  (e.editOverlay o fun st overlay s => ((), overlay.reload st s)).2

def saveOverlay (e : Engine) (o : OverlayId) : Except Failure Unit × Engine :=
  e.editOverlay o fun st overlay s =>
    let (result, s) := overlay.save st s
    (result, overlay, s)

def enableOverlay (e : Engine) (o : OverlayId) (enabled : Bool) : Except Failure Unit × Engine :=
  e.editOverlay o fun st overlay s => overlay.setEnabled st enabled s

def addOverlayRule (e : Engine) (o : OverlayId) (r : Rule) : Engine :=
  e.setOverlay o ((e.graph.overlay o).addRule r)

def configureDefault (e : Engine) (o : OverlayId) (entry : String) :
    Except Failure Unit × Engine :=
  e.editOverlay o fun st overlay s => overlay.addConfigured st entry s

def removeDefault (e : Engine) (o : OverlayId) (node : String) : Except Failure Bool × Engine :=
  e.editOverlay o fun st overlay s => overlay.remove st node s

/-- Makes a context inherit from an overlay; the flag says whether it did not before. -/
def attach (e : Engine) (o : OverlayId) (c : ContextId) : Bool × Engine :=
  e.addParent c (e.site o).context

end Engine

end PermissionGraph
