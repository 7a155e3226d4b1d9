import PermissionGraph.Rule
import PermissionGraph.Failure
import PermissionGraph.Text.Character
import PermissionGraph.Table

/-!
# The overlay of defaults

The overlay holds two layers of rules that every subject inherits: those that operators configured,
which persist, and those that plugins registered. What persists is the configuration: whether the
defaults apply at all, and the entries that operators wrote. An operation that changes the
configuration edits the overlay first and then saves; a save that fails leaves the edit in place.
-/

namespace PermissionGraph

open Text

structure Config where
  enabled : Bool
  defaults : List String
deriving DecidableEq, Inhabited

namespace Config

def initial : Config := ⟨true, []⟩

def rules (c : Config) : List Rule := c.defaults.map Rule.parse

def addEntry (c : Config) (entry : String) : Config := { c with defaults := c.defaults ++ [entry] }

def removeNode (c : Config) (node : String) : Bool × Config :=
  let kept := c.defaults.filter (fun e => (Rule.parse e).node ≠ node)
  (kept.length != c.defaults.length, { c with defaults := kept })

def namesNothing (entry : String) : Bool := isBlank (Rule.parse entry).node

/-- Refuses the first entry that names no node. -/
def validate (c : Config) : Except Failure Unit :=
  match c.defaults.find? namesNothing with
  | some entry => .error (.configuration ("Invalid default permission entry: " ++ quoted entry))
  | none => .ok ()

def describe (c : Config) : String :=
  "DefaultsConfig \x7b enabled: " ++ toString c.enabled ++ ", defaults: [" ++
    ", ".intercalate (c.defaults.map quoted) ++ "] \x7d"

end Config

structure Storage (σ : Type) where
  load : σ → Except Failure Config × σ
  save : Config → σ → Except Failure Unit × σ

structure Overlay where
  config : Config
  enabled : Bool
  configured : Table
  plugin : Table
deriving DecidableEq, Inhabited

namespace Overlay

def initial : Overlay := ⟨Config.initial, true, Table.empty, Table.empty⟩

/-- Takes over a configuration; the plugins' rules stay. -/
def apply (o : Overlay) (config : Config) : Overlay :=
  { o with
    config
    enabled := config.enabled
    configured := Table.replaceAll config.rules }

def addRule (o : Overlay) (r : Rule) : Overlay := { o with plugin := (o.plugin.insert r).2 }

def inEffect (o : Overlay) : List Rule :=
  if o.enabled then (o.configured.rules ++ o.plugin.rules).eraseDups else []

def describe (o : Overlay) : String :=
  "DefaultPermissions \x7b enabled: " ++ toString o.enabled ++ ", configured: " ++
    toString o.configured.size ++ ", plugin: " ++ toString o.plugin.size ++ " \x7d"

variable {σ : Type} (st : Storage σ)

def save (o : Overlay) (s : σ) : Except Failure Unit × σ := st.save o.config s

/-- Loads the configuration and writes it back, whether or not the write succeeds. The configuration
in effect stays where none can be loaded. -/
def reload (o : Overlay) (s : σ) : Overlay × σ :=
  match st.load s with
  | (.ok config, s) => (o.apply config, (st.save config s).2)
  | (.error _, s) => (o.apply o.config, s)

def create (s : σ) : Overlay × σ := initial.reload st s

def setEnabled (o : Overlay) (enabled : Bool) (s : σ) : Except Failure Unit × Overlay × σ :=
  let o := { o with config := { o.config with enabled }, enabled }
  let (result, s) := o.save st s
  (result, o, s)

/-- Appends an operator's entry in its normal spelling. -/
def addConfigured (o : Overlay) (entry : String) (s : σ) : Except Failure Unit × Overlay × σ :=
  let r := Rule.parse entry
  let o := { o with config := o.config.addEntry r.text, configured := (o.configured.insert r).2 }
  let (result, s) := o.save st s
  (result, o, s)

/-- Removes what plugins registered for a node or, where they registered nothing, what operators
configured for it. The flag says whether anything was removed. -/
def remove (o : Overlay) (node : String) (s : σ) : Except Failure Bool × Overlay × σ :=
  let node := lower node
  let (removed, plugin) := o.plugin.removeAll node
  if removed ≠ [] then (.ok true, { o with plugin }, s)
  else if !o.configured.contains node then (.ok false, o, s)
  else
    let o := { o with
      configured := (o.configured.removeAll node).2
      config := (o.config.removeNode node).2 }
    let (result, s) := o.save st s
    (result.map fun _ => true, o, s)

end Overlay

end PermissionGraph
