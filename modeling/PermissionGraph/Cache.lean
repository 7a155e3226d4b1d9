import PermissionGraph.Rule
import PermissionGraph.Failure

/-!
# A compute-once cache of decisions

A missing entry is put in place empty, then its decision is computed, and then it is filled in,
unless it was dropped in between. Entries carry the number of the computation that made them, so an
entry that took the place of a dropped one is told from it. The counters of a cache at one moment
give the share of lookups that were answered from an entry.
-/

namespace PermissionGraph

structure CacheEntry where
  computation : Nat
  decision : Option Decision

structure Cache where
  entries : List (String × CacheEntry)
  computations : Nat
  hits : Nat
  misses : Nat
  invalidations : Nat

namespace Cache

def empty : Cache := ⟨[], 0, 0, 0, 0⟩

def size (c : Cache) : Nat := c.entries.length

def get? (c : Cache) (node : String) : Option Decision :=
  (c.entries.lookup node).bind CacheEntry.decision

def erase (c : Cache) (node : String) : Cache :=
  { c with entries := c.entries.filter (·.1 ≠ node) }

/-- Drops the entry of a node, computed or not; the flag says whether there was one. -/
def invalidate (c : Cache) (node : String) : Bool × Cache :=
  if (c.entries.lookup node).isSome then
    (true, { c.erase node with invalidations := c.invalidations + 1 })
  else (false, c)

def invalidateAll (c : Cache) : Cache :=
  { c with entries := [], invalidations := c.invalidations + 1 }

def countHit (c : Cache) : Cache := { c with hits := c.hits + 1 }

def reserve (c : Cache) (node : String) : Cache :=
  { c with
    entries := c.entries ++ [(node, ⟨c.computations, none⟩)]
    computations := c.computations + 1 }

/-- The entry of `node` is the one that `computation` put in place. -/
def awaits (c : Cache) (node : String) (computation : Nat) : Bool :=
  (c.entries.lookup node).any (·.computation == computation)

/-- Ends a computation with its decision, which is kept only where its entry is still in place. -/
def fulfil (c : Cache) (node : String) (computation : Nat) (d : Decision) : Cache :=
  { c with
    entries := if c.awaits node computation then
        c.entries.map (fun e => if e.1 = node then (node, ⟨computation, some d⟩) else e)
      else c.entries
    misses := c.misses + 1 }

def abandon (c : Cache) (node : String) (computation : Nat) : Cache :=
  if c.awaits node computation then c.erase node else c

end Cache

structure CachePlace (σ : Type) where
  get : σ → Cache
  set : Cache → σ → σ

namespace CachePlace

variable {σ : Type} (p : CachePlace σ)

def modify (f : Cache → Cache) (s : σ) : σ := p.set (f (p.get s)) s

/-- The decision kept for `node`, computed first where there is none. The computation may use the
cache itself, but not ask for the entry that waits for it. -/
def compute (node : String) (computation : σ → Except Fault Decision × σ) (s : σ) :
    Except Fault Decision × σ :=
  let c := p.get s
  match c.entries.lookup node with
  | some ⟨_, some d⟩ => (.ok d, p.set c.countHit s)
  | some ⟨_, none⟩ => (.error ⟨"the entry waits for its own computation"⟩, s)
  | none =>
    match computation (p.set (c.reserve node) s) with
    | (.ok d, s) => (.ok d, p.modify (·.fulfil node c.computations d) s)
    | (.error e, s) => (.error e, p.modify (·.abandon node c.computations) s)

end CachePlace

structure CacheStats where
  hits : Nat
  misses : Nat
  invalidations : Nat
  entryCount : Nat
deriving DecidableEq

namespace CacheStats

/-- Hits per hundred lookups, in binary64; zero where there were no lookups. -/
def hitRate (s : CacheStats) : Float :=
  if s.hits + s.misses = 0 then 0.0
  else s.hits.toUInt64.toFloat / (s.hits + s.misses).toUInt64.toFloat * 100.0

end CacheStats

def Cache.stats (c : Cache) : CacheStats := ⟨c.hits, c.misses, c.invalidations, c.size⟩

end PermissionGraph
