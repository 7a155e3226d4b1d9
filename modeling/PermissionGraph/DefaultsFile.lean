import PermissionGraph.Overlay
import PermissionGraph.Yaml.Document
import PermissionGraph.Yaml.Scalar.Written

/-!
# The file of defaults

A configuration is kept as a YAML mapping below a header that explains it to operators. What is
written can be read back; a reader accepts any YAML that says the same.
-/

namespace PermissionGraph.DefaultsFile

open Yaml

def header : String :=
  "# This is the configuration file for default server permissions.\n" ++
  "# If enabled is set to false, by default nobody will have default permissions.\n" ++
  "# Plugins can set their own default permissions, and server admins can\n" ++
  "# set default permissions under the defaults section of this file.\n"

def endLine (cs : List Char) : List Char := if cs.getLast?.any isBreak then cs else cs ++ ['\n']

def itemLine (entry : String) : List Char := endLine ('-' :: ' ' :: Scalar.write entry)

def body (c : Config) : String :=
  let items := if c.defaults.isEmpty then "defaults: []\n".toList
    else "defaults:\n".toList ++ c.defaults.flatMap itemLine
  "enabled: " ++ toString c.enabled ++ "\n" ++ String.ofList items

def render (c : Config) : String := header ++ body c

def booleanTag : String := "tag:yaml.org,2002:bool"

/-- A plain scalar gives a truth value, and so does a literal one that is tagged as such. -/
def flag? : Node → Option Bool
  | .scalar _ s =>
    if s.style = .plain || (s.style = .literal && s.tag = some booleanTag) then boolean? s.text
    else none
  | _ => none

def text? (d : Document) (n : Node) : Option String :=
  match d.follow n with
  | some (.scalar _ s) => some s.text
  | _ => none

def isMissing (s : ScalarNode) : Bool := s.style = .plain && s.text = ""

def texts? (d : Document) : Node → Option (List String)
  | .sequence _ items => items.mapM (text? d)
  | .scalar _ s => if isMissing s then some [] else none
  | _ => none

structure Fields where
  enabled : Option Bool
  defaults : Option (List String)

/-- Takes in one entry. Each field is given once at most, and other keys are passed over. -/
def Fields.add (d : Document) (fields : Fields) (entry : Node × Node) : Option Fields := do
  let key ← text? d entry.1
  if key = "enabled" then
    if fields.enabled.isSome then none
    else return { fields with enabled := some (← (d.follow entry.2).bind flag?) }
  else if key = "defaults" then
    if fields.defaults.isSome then none
    else return { fields with defaults := some (← (d.follow entry.2).bind (texts? d)) }
  else return fields

def ofNode? (d : Document) : Node → Option Config
  | .mapping _ entries => do
    let fields ← entries.foldlM (Fields.add d) ⟨none, none⟩
    return ⟨fields.enabled.getD Config.initial.enabled, fields.defaults.getD []⟩
  | .scalar _ s => if isMissing s then some Config.initial else none
  | _ => none

def ofDocument? (d : Document) : Option Config := (d.follow d.root).bind (ofNode? d)

def parse (text : String) : Except Failure Config :=
  match Document.read text.toList with
  | none => .error .malformedDocument
  | some none => .ok Config.initial
  | some (some d) =>
    match ofDocument? d with
    | none => .error .malformedDocument
    | some config => .ok config

/-- Reads the text of a file; one without content gives the initial configuration. -/
def read (text : String) : Except Failure Config :=
  if Text.isBlank text then .ok Config.initial else parse text

end PermissionGraph.DefaultsFile
