import PermissionGraph.Yaml.Scalar.Written
import PermissionGraph.Yaml.Scalar.Read

/-!
# Tokens, names, tags and directives

The tokens are the marks of structure and the scalars that a stream consists of. Blocks that a stream
shows by indentation have tokens for their start and end. The readers are for the parts of a stream
that are made of names: anchors and aliases, tags, and the directives before a document.
-/

namespace PermissionGraph.Yaml

inductive Token
  | version (major minor : Nat)
  | tagHandle (handle expansion : String)
  | documentStart
  | documentEnd
  | blockSequenceStart
  | blockMappingStart
  | blockEnd
  | flowSequenceStart
  | flowSequenceEnd
  | flowMappingStart
  | flowMappingEnd
  | blockEntry
  | flowEntry
  | key
  | value
  | alias (name : String)
  | anchor (name : String)
  | tag (handle suffix : String)
  | scalar (style : Style) (text : String)
deriving DecidableEq

end PermissionGraph.Yaml

namespace PermissionGraph.Yaml.Property

def endsName (c : Char) : Bool := "?:,]\x7d%@".toList.contains c || c == '\x60'

def readName (cs : List Char) : Option (String × List Char) :=
  let name := cs.takeWhile isWord
  let rest := cs.dropWhile isWord
  if name.isEmpty || !(atGap rest || rest.head?.any endsName) then none
  else some (String.ofList name, rest)

def isUriChar (verbatim : Bool) (c : Char) : Bool :=
  isWord c || ";/?:@&=+$.!~*'()".toList.contains c || (verbatim && ",[]".toList.contains c)

def octets? (n : Nat) : Option Nat :=
  if n < 0x80 then some 1
  else if 0xC0 ≤ n ∧ n < 0xE0 then some 2
  else if 0xE0 ≤ n ∧ n < 0xF0 then some 3
  else if 0xF0 ≤ n ∧ n < 0xF8 then some 4
  else none

/-- Reads a part of a tag. `%` and two digits stand for an octet; `pending` octets of a character are
still to come. -/
def readUri (verbatim : Bool) (pending : Nat) : List Char → Option (List Char × List Char)
  | [] => if pending = 0 then some ([], []) else none
  | c :: cs =>
    if c == '%' then
      match cs with
      | a :: b :: ds => do
        let high ← digit? 16 a
        let low ← digit? 16 b
        let octet := high * 16 + low
        let pending ←
          if pending = 0 then (octets? octet).map (· - 1)
          else if 0x80 ≤ octet ∧ octet < 0xC0 then some (pending - 1)
          else none
        let (uri, rest) ← readUri verbatim pending ds
        return (Char.ofNat octet :: uri, rest)
      | _ => none
    else if pending ≠ 0 then none
    else if isUriChar verbatim c then
      (readUri verbatim 0 cs).map fun (uri, rest) => (c :: uri, rest)
    else some ([], c :: cs)

/-- What counts of a part of a tag: nothing from an escaped NUL on. -/
def counted (uri : List Char) : List Char := uri.takeWhile (· ≠ '\x00')

def readUri1 (verbatim : Bool) (cs : List Char) : Option (List Char × List Char) :=
  ((readUri verbatim 0 cs).filter (!·.1.isEmpty)).map fun (uri, rest) => (counted uri, rest)

/-- Reads a tag after its `!`: a verbatim one, one with a named handle, or one with the primary
handle. A lone `!` is a tag of its own. -/
def readTag (inFlow : Bool) (cs : List Char) : Option (Token × List Char) := do
  let (handle, suffix, rest) ← match cs with
    | '<' :: cs => do
      let (uri, rest) ← readUri1 true cs
      match rest with
      | '>' :: rest => some ([], uri, rest)
      | _ => none
    | cs =>
      let word := cs.takeWhile isWord
      match cs.dropWhile isWord with
      | '!' :: rest => do
        let (uri, rest) ← readUri1 false rest
        some ('!' :: word ++ ['!'], uri, rest)
      | rest => do
        let (uri, rest) ← readUri false 0 rest
        let suffix := counted (word ++ uri)
        some (if suffix.isEmpty then ([], ['!'], rest) else (['!'], suffix, rest))
  if atGap rest || (inFlow && rest.head? == some ',') then
    some (.tag (String.ofList handle) (String.ofList suffix), rest)
  else none

/-- Reads a part of a version number, of at most nine digits. -/
def readNumber (cs : List Char) : Option (Nat × List Char) :=
  let digits := cs.takeWhile isDigit
  if 9 < digits.length then none
  else (natural? 10 digits).map fun n => (n, cs.dropWhile isDigit)

def readVersion (cs : List Char) : Option (Token × List Char) := do
  let (major, rest) ← readNumber (cs.dropWhile isBlank)
  match rest with
  | '.' :: rest =>
    let (minor, rest) ← readNumber rest
    some (.version major minor, rest)
  | _ => none

def readTagHandle (cs : List Char) : Option (Token × List Char) :=
  match cs.dropWhile isBlank with
  | '!' :: cs => do
    let word := cs.takeWhile isWord
    let (handle, rest) ← match cs.dropWhile isWord with
      | '!' :: rest => some ('!' :: word ++ ['!'], rest)
      | rest => if word.isEmpty then some (['!'], rest) else none
    if !rest.head?.any isBlank then none
    else
      let (uri, rest) ← readUri1 true (rest.dropWhile isBlank)
      if atGap rest then some (.tagHandle (String.ofList handle) (String.ofList uri), rest)
      else none
  | _ => none

def readDirective (cs : List Char) : Option (Token × List Char) := do
  let name := String.ofList (cs.takeWhile isWord)
  let rest := cs.dropWhile isWord
  if !atGap rest then none
  else
    let (token, rest) ←
      if name = "YAML" then readVersion rest
      else if name = "TAG" then readTagHandle rest
      else none
    let rest ← Scalar.endOfLine? rest
    return (token, rest)

end PermissionGraph.Yaml.Property
