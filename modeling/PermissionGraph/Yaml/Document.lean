import PermissionGraph.Yaml.Scanner

/-!
# Documents

A stream holds at most one document, and a document is one node. An anchor numbers its node by the
count of anchor names before it, and an alias refers to a number; of several nodes with one number
the last one is meant.
-/

namespace PermissionGraph.Yaml

structure ScalarNode where
  tag : Option String
  style : Style
  text : String
deriving DecidableEq

inductive Node
  | scalar (number : Option Nat) (s : ScalarNode)
  | alias (number : Nat)
  | sequence (number : Option Nat) (items : List Node)
  | mapping (number : Option Nat) (entries : List (Node × Node))

namespace Node

def empty : Node := .scalar none ⟨none, .plain, ""⟩

mutual

def numbered : Node → List (Nat × Node)
  | n@(.scalar number _) => (number.map (·, n)).toList
  | .alias _ => []
  | n@(.sequence number items) => (number.map (·, n)).toList ++ numberedItems items
  | n@(.mapping number entries) => (number.map (·, n)).toList ++ numberedEntries entries

def numberedItems : List Node → List (Nat × Node)
  | [] => []
  | n :: ns => numbered n ++ numberedItems ns

def numberedEntries : List (Node × Node) → List (Nat × Node)
  | [] => []
  | (k, v) :: entries => numbered k ++ numbered v ++ numberedEntries entries

end

end Node

structure Document where
  root : Node
  /-- The numbered nodes, the last one first. -/
  numbered : List (Nat × Node)

namespace Document

def ofRoot (root : Node) : Document := ⟨root, root.numbered.reverse⟩

def follow (d : Document) : Node → Option Node
  | .alias number => d.numbered.lookup number
  | n => some n

end Document

structure Reading where
  handles : List (String × String)
  /-- Each name once, with the number of its latest node. -/
  anchors : List (String × Nat)
  tokens : List Token

namespace Reading

def nameNode (r : Reading) : Option String → Option Nat × Reading
  | none => (none, r)
  | some name =>
    let number := r.anchors.length
    (some number,
      { r with anchors := (name, number) :: r.anchors.filter (·.1 ≠ name) })

def resolveTag (r : Reading) (handle suffix : String) : Option String :=
  if handle = "" then some suffix else (r.handles.lookup handle).map (· ++ suffix)

def properties (r : Reading) : Option (Option String × Option String × Reading) := do
  match r.tokens with
  | .anchor name :: .tag handle suffix :: ts =>
    return (some name, some (← r.resolveTag handle suffix), { r with tokens := ts })
  | .tag handle suffix :: .anchor name :: ts =>
    return (some name, some (← r.resolveTag handle suffix), { r with tokens := ts })
  | .anchor name :: ts => return (some name, none, { r with tokens := ts })
  | .tag handle suffix :: ts =>
    return (none, some (← r.resolveTag handle suffix), { r with tokens := ts })
  | _ => return (none, none, r)

def skip (r : Reading) : Reading := { r with tokens := r.tokens.tail }

def isAt (r : Reading) (ts : List Token) : Bool := r.tokens.head?.any ts.contains

mutual

/-- Reads a node. Outside flow collections it may be a block, and where `indentless` is set a
sequence without an indentation of its own. -/
def node (block indentless : Bool) : Nat → Reading → Option (Node × Reading)
  | 0, _ => none
  | fuel + 1, r =>
    match r.tokens with
    | .alias name :: _ => (r.anchors.lookup name).map fun number => (.alias number, r.skip)
    | _ => do
      let (anchor, tag, r) ← r.properties
      let (number, named) := r.nameNode anchor
      match r.tokens with
      | .scalar style text :: _ => return (.scalar number ⟨tag, style, text⟩, named.skip)
      | .flowSequenceStart :: _ =>
        let (items, r) ← flowItems true fuel named.skip
        return (.sequence number items, r)
      | .flowMappingStart :: _ =>
        let (entries, r) ← flowEntries true fuel named.skip
        return (.mapping number entries, r)
      | t :: _ =>
        if indentless && t == .blockEntry then
          let (items, r) ← indentlessItems fuel named
          return (.sequence number items, r)
        else if block && t == .blockSequenceStart then
          let (items, r) ← blockItems fuel named.skip
          return (.sequence number items, r)
        else if block && t == .blockMappingStart then
          let (entries, r) ← blockEntries fuel named.skip
          return (.mapping number entries, r)
        else if anchor.isSome || tag.isSome then
          return (.scalar number ⟨tag, .plain, ""⟩, named)
        else none
      | [] =>
        if anchor.isSome || tag.isSome then return (.scalar number ⟨tag, .plain, ""⟩, named)
        else none

/-- Reads a node of a block, or a missing one where one of `ends` comes next. -/
def blockNode (indentless : Bool) (ends : List Token) : Nat → Reading → Option (Node × Reading)
  | 0, _ => none
  | fuel + 1, r => if r.isAt ends then some (.empty, r) else node true indentless fuel r

def blockItems : Nat → Reading → Option (List Node × Reading)
  | 0, _ => none
  | fuel + 1, r =>
    match r.tokens with
    | .blockEntry :: _ => do
      let (item, r) ← blockNode false [.blockEntry, .blockEnd] fuel r.skip
      let (items, r) ← blockItems fuel r
      return (item :: items, r)
    | .blockEnd :: _ => some ([], r.skip)
    | _ => none

def indentlessItems : Nat → Reading → Option (List Node × Reading)
  | 0, _ => none
  | fuel + 1, r =>
    match r.tokens with
    | .blockEntry :: _ => do
      let (item, r) ← blockNode false [.blockEntry, .key, .value, .blockEnd] fuel r.skip
      let (items, r) ← indentlessItems fuel r
      return (item :: items, r)
    | _ => some ([], r)

def blockEntries : Nat → Reading → Option (List (Node × Node) × Reading)
  | 0, _ => none
  | fuel + 1, r =>
    match r.tokens with
    | .key :: _ => do
      let (key, r) ← blockNode true [.key, .value, .blockEnd] fuel r.skip
      let (value, r) ← if r.isAt [.value] then
          blockNode true [.key, .value, .blockEnd] fuel r.skip
        else some (.empty, r)
      let (entries, r) ← blockEntries fuel r
      return ((key, value) :: entries, r)
    | .blockEnd :: _ => some ([], r.skip)
    | _ => none

def flowValue (ends : List Token) : Nat → Reading → Option (Node × Reading)
  | 0, _ => none
  | fuel + 1, r =>
    if r.isAt [.value] then
      let r := r.skip
      if r.isAt ends then some (.empty, r) else node false false fuel r
    else some (.empty, r)

/-- Reads what is left of a flow sequence. A pair in it is a mapping of one entry; where its key is
missing the token after the key's indicator is passed over. -/
def flowItems (first : Bool) : Nat → Reading → Option (List Node × Reading)
  | 0, _ => none
  | fuel + 1, r =>
    if r.isAt [.flowSequenceEnd] then some ([], r.skip)
    else do
      let r ← if first then some r else if r.isAt [.flowEntry] then some r.skip else none
      if r.isAt [.key] then
        let r := r.skip
        let (key, r) ← if r.isAt [.value, .flowEntry, .flowSequenceEnd] then
            some (.empty, r.skip)
          else node false false fuel r
        let (value, r) ← flowValue [.flowEntry, .flowSequenceEnd] fuel r
        let (items, r) ← flowItems false fuel r
        return (.mapping none [(key, value)] :: items, r)
      else if r.isAt [.flowSequenceEnd] then return ([], r.skip)
      else
        let (item, r) ← node false false fuel r
        let (items, r) ← flowItems false fuel r
        return (item :: items, r)

/-- Reads what is left of a flow mapping. An entry without an indicator of its key has no value. -/
def flowEntries (first : Bool) : Nat → Reading → Option (List (Node × Node) × Reading)
  | 0, _ => none
  | fuel + 1, r =>
    if r.isAt [.flowMappingEnd] then some ([], r.skip)
    else do
      let r ← if first then some r else if r.isAt [.flowEntry] then some r.skip else none
      if r.isAt [.key] then
        let r := r.skip
        let (key, r) ← if r.isAt [.value, .flowEntry, .flowMappingEnd] then some (.empty, r)
          else node false false fuel r
        let (value, r) ← flowValue [.flowEntry, .flowMappingEnd] fuel r
        let (entries, r) ← flowEntries false fuel r
        return ((key, value) :: entries, r)
      else if r.isAt [.flowMappingEnd] then return ([], r.skip)
      else
        let (key, r) ← node false false fuel r
        let (entries, r) ← flowEntries false fuel r
        return ((key, .empty) :: entries, r)

end

end Reading

namespace Document

def defaultHandles : List (String × String) := [("!", "!"), ("!!", "tag:yaml.org,2002:")]

/-- Reads the directives before a document: one version at most, and each tag handle once. -/
def directives (version : Bool) (handles : List (String × String)) :
    List Token → Option (List (String × String) × List Token)
  | .version major minor :: ts =>
    if version || major ≠ 1 || (minor ≠ 1 && minor ≠ 2) then none else directives true handles ts
  | .tagHandle handle expansion :: ts =>
    if (handles.lookup handle).isSome then none
    else directives version (handles ++ [(handle, expansion)]) ts
  | ts => some (handles, ts)

def isDirective : Token → Bool
  | .version .. | .tagHandle .. => true
  | _ => false

/-- Reads the node of a document; `explicit` says that the document's start was marked. -/
def readRoot (explicit : Bool) (handles : List (String × String)) (ts : List Token) :
    Option (Node × List Token) :=
  let missing := match ts with
    | [] => true
    | t :: _ => isDirective t || t == .documentStart || t == .documentEnd
  if explicit && missing then some (.empty, ts)
  else
    (Reading.node true false (3 * ts.length + 3) ⟨handles ++ defaultHandles, [], ts⟩).map
      fun (n, r) => (n, r.tokens)

def ofTokens? (ts : List Token) : Option (Option Document) :=
  if ts.isEmpty then some none
  else do
    let (handles, body) ← directives false [] ts
    let (n, rest) ← match body with
      | .documentStart :: body => readRoot true handles body
      | body => if ts.head?.any isDirective then none else readRoot false handles body
    if rest.all (· == .documentEnd) then return some (ofRoot n) else none

def read (cs : List Char) : Option (Option Document) :=
  if cs.all isReadable then (scan cs).bind ofTokens? else none

end Document

end PermissionGraph.Yaml
