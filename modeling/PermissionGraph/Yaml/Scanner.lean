import PermissionGraph.Yaml.Token
import PermissionGraph.Yaml.Scalar.Read

/-!
# From characters to tokens

A stream shows the structure of its blocks by columns, and a mapping's key is known as one only when
its `:` is met. So the scanner keeps the columns of the open blocks and the place of the last token
that may turn out to be a key, and puts the tokens for a key and for its mapping there.
-/

namespace PermissionGraph.Yaml

structure Position where
  /-- The number of bytes before it, in UTF-8. -/
  offset : Nat
  line : Nat
  column : Nat

namespace Position

def start : Position := ⟨0, 0, 0⟩

def next (p : Position) (c : Char) : Position :=
  let offset := p.offset + c.utf8Size
  if isBreak c then ⟨offset, p.line + 1, 0⟩ else ⟨offset, p.line, p.column + 1⟩

end Position

structure PossibleKey where
  /-- The number of tokens before it. -/
  place : Nat
  /-- Nothing but a key can stand here. -/
  required : Bool
  position : Position

structure Scanner where
  rest : List Char
  position : Position
  /-- The tokens so far, the last one first. -/
  tokens : List Token
  /-- The columns of the open blocks, the innermost first. -/
  indents : List Nat
  possibleKey : Option PossibleKey
  /-- The possible keys outside the open flow collections, the innermost first. -/
  outerKeys : List (Option PossibleKey)
  /-- A key may start here. -/
  keyAllowed : Bool

namespace Scanner

def start (cs : List Char) : Scanner := ⟨cs, Position.start, [], [], none, [], true⟩

def inFlow (s : Scanner) : Bool := !s.outerKeys.isEmpty

/-- The least column of a line within the innermost block. -/
def floor (s : Scanner) : Nat := s.indents.head?.elim 0 (· + 1)

def advance (s : Scanner) (rest : List Char) : Scanner :=
  let taken := s.rest.take (s.rest.length - rest.length)
  { s with rest, position := taken.foldl Position.next s.position }

def push (s : Scanner) (t : Token) : Scanner := { s with tokens := t :: s.tokens }

def insert (s : Scanner) (place : Nat) (t : Token) : Scanner :=
  let later := s.tokens.length - place
  { s with tokens := s.tokens.take later ++ t :: s.tokens.drop later }

def skip1 (s : Scanner) : Scanner :=
  match s.rest with
  | [] => s
  | c :: rest => { s with rest, position := s.position.next c }

/-- Skips blanks, comments and breaks, and a mark of the byte order at the start of a line. A tab is
no blank where a key may start in a block. Outside flow collections a key may start after a break. -/
def skipGap (inFlow inComment keyAllowed : Bool) (p : Position) :
    List Char → Bool × Position × List Char
  | [] => (keyAllowed, p, [])
  | c :: cs =>
    if isBreak c then skipGap inFlow false (keyAllowed || !inFlow) (p.next c) cs
    else if inComment then skipGap inFlow true keyAllowed (p.next c) cs
    else if c == ' ' || (c == '\t' && (inFlow || !keyAllowed)) ||
        (c == byteOrderMark && p.column == 0) then
      skipGap inFlow false keyAllowed (p.next c) cs
    else if c == '#' then skipGap inFlow true keyAllowed (p.next c) cs
    else (keyAllowed, p, c :: cs)

def toToken (s : Scanner) : Scanner :=
  let (keyAllowed, position, rest) := skipGap s.inFlow false s.keyAllowed s.position s.rest
  { s with keyAllowed, position, rest }

/-- The greatest number of bytes of a key. -/
def longestKey : Nat := 1024

def isStale (s : Scanner) (k : PossibleKey) : Bool :=
  k.position.line < s.position.line || k.position.offset + longestKey < s.position.offset

/-- Gives up the possible key where it can be one no longer. Those outside the open flow collections
wait until theirs is closed, as a stale key stays stale. -/
def dropStaleKey (s : Scanner) : Option Scanner :=
  match s.possibleKey with
  | none => some s
  | some k =>
    if !s.isStale k then some s
    else if k.required then none
    else some { s with possibleKey := none }

/-- Gives up the possible key, which must not be a required one. -/
def dropKey (s : Scanner) : Option Scanner :=
  if s.possibleKey.any (·.required) then none else some { s with possibleKey := none }

def noteKey (s : Scanner) : Option Scanner :=
  if s.keyAllowed then do
    let required := !s.inFlow && s.indents.head? == some s.position.column
    let s ← s.dropKey
    return { s with possibleKey := some ⟨s.tokens.length, required, s.position⟩ }
  else some s

def unrollTo (s : Scanner) (column : Nat) : Scanner :=
  if s.inFlow then s
  else
    let ended := s.indents.takeWhile (column < ·)
    { s with
      indents := s.indents.dropWhile (column < ·)
      tokens := ended.map (fun _ => Token.blockEnd) ++ s.tokens }

def unrollAll (s : Scanner) : Scanner :=
  if s.inFlow then s
  else { s with indents := [], tokens := s.indents.map (fun _ => Token.blockEnd) ++ s.tokens }

/-- Starts a block at `column`, behind the first `place` tokens, unless the innermost one is indented
as far. -/
def roll (s : Scanner) (column place : Nat) (t : Token) : Scanner :=
  if s.inFlow || column < s.floor then s
  else { s.insert place t with indents := column :: s.indents }

def take1 (s : Scanner) (t : Token) : Scanner := s.skip1.push t

def fetchMark (s : Scanner) (t : Token) : Option Scanner := do
  let s ← s.unrollAll.dropKey
  return { s.skip1.skip1.skip1.push t with keyAllowed := false }

def fetchDirective (s : Scanner) : Option Scanner := do
  let s ← s.unrollAll.dropKey
  let (token, rest) ← Property.readDirective s.rest.tail
  return { (s.advance rest).push token with keyAllowed := false }

def fetchFlowStart (s : Scanner) (t : Token) : Option Scanner := do
  let s ← s.noteKey
  return { s.take1 t with
    possibleKey := none
    outerKeys := s.possibleKey :: s.outerKeys
    keyAllowed := true }

def fetchFlowEnd (s : Scanner) (t : Token) : Option Scanner := do
  let s ← s.dropKey
  let s := match s.outerKeys with
    | key :: keys => { s with possibleKey := key, outerKeys := keys }
    | [] => s
  return { s.take1 t with keyAllowed := false }

def fetchFlowEntry (s : Scanner) : Option Scanner := do
  let s ← s.dropKey
  return { s.take1 .flowEntry with keyAllowed := true }

/-- Outside flow collections an indicator of a block is allowed where a key is. -/
def startBlock (s : Scanner) (t : Token) : Option Scanner :=
  if s.inFlow then some s
  else if s.keyAllowed then some (s.roll s.position.column s.tokens.length t)
  else none

def fetchBlockEntry (s : Scanner) : Option Scanner := do
  let s ← s.startBlock .blockSequenceStart
  let s ← s.dropKey
  return { s.take1 .blockEntry with keyAllowed := true }

def fetchKey (s : Scanner) : Option Scanner := do
  let s ← s.startBlock .blockMappingStart
  let s ← s.dropKey
  return { s.take1 .key with keyAllowed := !s.inFlow }

def fetchValue (s : Scanner) : Option Scanner :=
  match s.possibleKey with
  | some k =>
    let s := (s.insert k.place .key).roll k.position.column k.place .blockMappingStart
    some { s.take1 .value with possibleKey := none, keyAllowed := false }
  | none => do
    let s ← s.startBlock .blockMappingStart
    return { s.take1 .value with keyAllowed := !s.inFlow }

def fetchName (s : Scanner) (token : String → Token) : Option Scanner := do
  let s ← s.noteKey
  let (name, rest) ← Property.readName s.rest.tail
  return { (s.advance rest).push (token name) with keyAllowed := false }

def fetchTag (s : Scanner) : Option Scanner := do
  let s ← s.noteKey
  let (token, rest) ← Property.readTag s.inFlow s.rest.tail
  return { (s.advance rest).push token with keyAllowed := false }

def scalar (style : Style) (value : List Char) : Token := .scalar style (String.ofList value)

def fetchBlock (s : Scanner) (folded : Bool) : Option Scanner := do
  let s ← s.dropKey
  let (value, rest) ← Scalar.readBlock folded s.floor s.rest.tail
  let style := if folded then Style.folded else .literal
  return { (s.advance rest).push (scalar style value) with keyAllowed := true }

def fetchSingleQuoted (s : Scanner) : Option Scanner := do
  let s ← s.noteKey
  let (value, rest) ← Scalar.readSingleQuoted false .none s.rest.tail
  return { (s.advance rest).push (scalar .singleQuoted value) with keyAllowed := false }

def fetchDoubleQuoted (s : Scanner) : Option Scanner := do
  let s ← s.noteKey
  let (value, rest) ← Scalar.readDoubleQuoted false .none none s.rest.tail
  return { (s.advance rest).push (scalar .doubleQuoted value) with keyAllowed := false }

def fetchPlain (s : Scanner) : Option Scanner := do
  let s ← s.noteKey
  let (value, ended) ← Scalar.readPlain s.inFlow s.floor s.position.column .none s.rest
  return { (s.advance ended.rest).push (scalar .plain value) with keyAllowed := ended.crossedLine }

def startsNothing (c : Char) : Bool :=
  isBlank c || isBreak c || c == '%' || c == '@' || c == '\x60'

def fetch (s : Scanner) (c : Char) (cs : List Char) : Option Scanner :=
  if s.position.column == 0 && c == '%' then s.fetchDirective
  else if s.position.column == 0 && atDocumentMark (c :: cs) then
    s.fetchMark (if c == '-' then .documentStart else .documentEnd)
  else
    match c with
    | '[' => s.fetchFlowStart .flowSequenceStart
    | '{' => s.fetchFlowStart .flowMappingStart
    | ']' => s.fetchFlowEnd .flowSequenceEnd
    | '}' => s.fetchFlowEnd .flowMappingEnd
    | ',' => s.fetchFlowEntry
    | '*' => s.fetchName .alias
    | '&' => s.fetchName .anchor
    | '!' => s.fetchTag
    | '\'' => s.fetchSingleQuoted
    | '"' => s.fetchDoubleQuoted
    | '|' => if s.inFlow then none else s.fetchBlock false
    | '>' => if s.inFlow then none else s.fetchBlock true
    | '-' => if atGap cs then s.fetchBlockEntry else s.fetchPlain
    | '?' => if s.inFlow || atGap cs then s.fetchKey else s.fetchPlain
    | ':' => if s.inFlow || atGap cs then s.fetchValue else s.fetchPlain
    | c => if startsNothing c then none else s.fetchPlain

/-- All tokens of a stream, where `fuel` exceeds the number of its characters. -/
def run : Nat → Scanner → Option (List Token)
  | 0, _ => none
  | fuel + 1, s => do
    let s ← s.toToken.dropStaleKey
    match s.rest with
    | [] =>
      let s ← s.unrollAll.dropKey
      return s.tokens.reverse
    | c :: cs =>
      let s := s.unrollTo s.position.column
      run fuel (← s.fetch c cs)

end Scanner

def scan (cs : List Char) : Option (List Token) :=
  (Scanner.start (normalizeBreaks cs)).run (cs.length + 1)

end PermissionGraph.Yaml
