import PermissionGraph.Cache
import PermissionGraph.Overlay

/-!
# Interchange forms

How rules, decisions, statistics and configurations are given as plain values. A record may hold
fields that are not asked for. In place of a record a list may give the fields in their order.
-/

namespace PermissionGraph

inductive Value
  | null
  | boolean (b : Bool)
  | integer (i : Int)
  /-- A number written with a fraction or an exponent. -/
  | decimal (text : String)
  | string (s : String)
  | list (items : List Value)
  | record (fields : List (String × Value))
deriving Inhabited

namespace Value

def boolean? : Value → Option Bool
  | boolean b => some b
  | _ => none

def string? : Value → Option String
  | string s => some s
  | _ => none

def count? : Value → Option Nat
  | integer i => if 0 ≤ i ∧ i.toNat < UInt64.size then some i.toNat else none
  | _ => none

def strings? : Value → Option (List String)
  | list items => items.mapM string?
  | _ => none

def field? (fields : List (String × Value)) (name : String) : Option Value := fields.lookup name

end Value

namespace Rule

def ofValue? : Value → Option Rule
  | .record fields => do
    let node ← (← Value.field? fields "permission").string?
    let allowed ← (← Value.field? fields "allowed").boolean?
    return ⟨node, allowed⟩
  | .list [.string node, .boolean allowed] => some ⟨node, allowed⟩
  | _ => none

def toValue (r : Rule) : Value :=
  .record [("permission", .string r.node), ("allowed", .boolean r.allowed)]

end Rule

namespace Decision

/-- A decision is given by its text, alone or as the only field of a record. -/
def ofValue? : Value → Option Decision
  | .string s => ofText? s
  | .record [(s, .null)] => ofText? s
  | _ => none

def toValue (d : Decision) : Value := .string d.text

end Decision

namespace CacheStats

def ofValue? : Value → Option CacheStats
  | .record fields => do
    let count (name : String) : Option Nat := (Value.field? fields name).bind Value.count?
    return ⟨← count "hits", ← count "misses", ← count "invalidations", ← count "entry_count"⟩
  | .list [hits, misses, invalidations, entryCount] => do
    return ⟨← hits.count?, ← misses.count?, ← invalidations.count?, ← entryCount.count?⟩
  | _ => none

def toValue (s : CacheStats) : Value :=
  .record [("hits", .integer s.hits), ("misses", .integer s.misses),
    ("invalidations", .integer s.invalidations), ("entry_count", .integer s.entryCount)]

end CacheStats

namespace Config

/-- Both fields have their initial value where they are missing. -/
def ofFields? (enabled defaults : Option Value) : Option Config := do
  let enabled ← (enabled.getD (.boolean initial.enabled)).boolean?
  let defaults ← (defaults.getD (.list [])).strings?
  return ⟨enabled, defaults⟩

def ofValue? : Value → Option Config
  | .record fields => ofFields? (Value.field? fields "enabled") (Value.field? fields "defaults")
  | .list [] => ofFields? none none
  | .list [enabled] => ofFields? (some enabled) none
  | .list [enabled, defaults] => ofFields? (some enabled) (some defaults)
  | _ => none

def toValue (c : Config) : Value :=
  .record [("enabled", .boolean c.enabled), ("defaults", .list (c.defaults.map .string))]

end Config

end PermissionGraph
