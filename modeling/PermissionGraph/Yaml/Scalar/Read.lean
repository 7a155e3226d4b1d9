import PermissionGraph.Yaml.Character
import PermissionGraph.Yaml.Implicit

/-!
# Reading scalars

Each reader takes the rest of a stream and gives the value of the scalar at its start with what
follows it. A block scalar is a header line and the lines after it that are indented far enough. In a
literal block every break stands for itself; in a folded block a single break between two lines that
start with a word stands for a space.
-/

namespace PermissionGraph.Yaml.Scalar

def after {α : Type} (cs : List Char) (result : Option (List Char × α)) : Option (List Char × α) :=
  result.map fun (value, rest) => (cs ++ value, rest)

/-- In a flow collection a plain scalar must not have `:` before these. -/
def isColonTrap (c : Char) : Bool := ",?[]\x7b\x7d".toList.contains c

def isFlowIndicator (c : Char) : Bool := ",[]\x7b\x7d".toList.contains c

structure PlainEnd where
  crossedLine : Bool
  rest : List Char

/-- Where a word would start after a gap, the scalar has ended instead: at a line that starts before
column `floor` outside flow collections, at a comment, or at the mark of a document. -/
def endsAtWord (inFlow : Bool) (floor column : Nat) (gap : Gap) (cs : List Char) : Bool :=
  match gap with
  | .none => false
  | _ =>
    (!inFlow && gap.isLines && column < floor) || cs.head? == some '#' ||
      (column == 0 && atDocumentMark cs)

def readPlain (inFlow : Bool) (floor column : Nat) (gap : Gap) :
    List Char → Option (List Char × PlainEnd)
  | [] => some ([], ⟨gap.isLines, []⟩)
  | c :: cs =>
    if isBreak c then readPlain inFlow floor 0 (gap.addBreak c) cs
    else if isBlank c then
      if gap.isLines && column < floor && c == '\t' then none
      else readPlain inFlow floor (column + 1) (gap.addBlank c) cs
    else if endsAtWord inFlow floor column gap (c :: cs) then some ([], ⟨gap.isLines, c :: cs⟩)
    else if inFlow && c == ':' && cs.head?.any isColonTrap then none
    else if (c == ':' && atGap cs) || (inFlow && isFlowIndicator c) then
      some ([], ⟨gap.isLines, c :: cs⟩)
    else after (gap.text ++ [c]) (readPlain inFlow floor (column + 1) .none cs)

/-- Reads the inside of single quotes and the closing quote. A line within it must not look like the
mark of a document; `lineStart` says that a line has just begun. -/
def readSingleQuoted (lineStart : Bool) (gap : Gap) : List Char → Option (List Char × List Char)
  | [] => none
  | c :: cs =>
    if isBreak c then readSingleQuoted true (gap.addBreak c) cs
    else if isBlank c then readSingleQuoted false (gap.addBlank c) cs
    else if lineStart && atDocumentMark (c :: cs) then none
    else if c == '\'' then
      match cs with
      | '\'' :: ds => after (gap.text ++ ['\'']) (readSingleQuoted false .none ds)
      | _ => some (gap.text, cs)
    else after (gap.text ++ [c]) (readSingleQuoted false .none cs)

def unescape? : Char → Option Char
  | '0' => some '\x00'
  | 'a' => some '\x07'
  | 'b' => some '\x08'
  | 't' => some '\t'
  | '\t' => some '\t'
  | 'n' => some '\n'
  | 'v' => some '\x0b'
  | 'f' => some '\x0c'
  | 'r' => some '\r'
  | 'e' => some '\x1b'
  | ' ' => some ' '
  | '"' => some '"'
  | '/' => some '/'
  | '\\' => some '\\'
  | 'N' => some '\u0085'
  | '_' => some '\u00a0'
  | 'L' => some '\u2028'
  | 'P' => some '\u2029'
  | _ => none

def escapeWidth? : Char → Option Nat
  | 'x' => some 2
  | 'u' => some 4
  | 'U' => some 8
  | _ => none

def character? (n : Nat) : Option Char :=
  if n < 0xD800 ∨ (0xDFFF < n ∧ n < 0x110000) then some (Char.ofNat n) else none

structure PendingCode where
  digits : Nat
  value : Nat

/-- Reads the inside of double quotes and the closing quote. An escaped break joins two lines. -/
def readDoubleQuoted (lineStart : Bool) (gap : Gap) (code : Option PendingCode) :
    List Char → Option (List Char × List Char)
  | [] => none
  | c :: cs =>
    match code with
    | some ⟨digits, value⟩ =>
      (digit? 16 c).bind fun d =>
        let value := value * 16 + d
        if digits ≤ 1 then
          (character? value).bind fun x => after [x] (readDoubleQuoted false .none none cs)
        else readDoubleQuoted false .none (some ⟨digits - 1, value⟩) cs
    | none =>
      if isBreak c then readDoubleQuoted true (gap.addBreak c) none cs
      else if isBlank c then readDoubleQuoted false (gap.addBlank c) none cs
      else if lineStart && atDocumentMark (c :: cs) then none
      else if c == '"' then some (gap.text, cs)
      else if c == '\\' then
        match cs with
        | [] => none
        | d :: ds =>
          if isBreak d then after gap.text (readDoubleQuoted true (.lines none []) none ds)
          else
            match escapeWidth? d with
            | some digits =>
              after gap.text (readDoubleQuoted false .none (some ⟨digits, 0⟩) ds)
            | none =>
              (unescape? d).bind fun x =>
                after (gap.text ++ [x]) (readDoubleQuoted false .none none ds)
      else after (gap.text ++ [c]) (readDoubleQuoted false .none none cs)

/-- What is kept of the breaks at the end of a block: none, one or all. -/
inductive Chomping
  | strip
  | clip
  | keep

structure BlockHeader where
  chomping : Chomping
  /-- How much farther than its parent the block is indented, where the header says so. -/
  increment : Option Nat

namespace BlockHeader

def chomping? : Char → Option Chomping
  | '-' => some .strip
  | '+' => some .keep
  | _ => none

def increment? (c : Char) : Option Nat :=
  if isDigit c && c != '0' then some (c.toNat - '0'.toNat) else none

def read : List Char → Option (BlockHeader × List Char)
  | [] => some (⟨.clip, none⟩, [])
  | c :: cs =>
    match chomping? c with
    | some chomping =>
      match cs with
      | d :: ds =>
        if isDigit d then (increment? d).map fun n => (⟨chomping, some n⟩, ds)
        else some (⟨chomping, none⟩, cs)
      | [] => some (⟨chomping, none⟩, [])
    | none =>
      if isDigit c then
        (increment? c).map fun n =>
          match cs with
          | d :: ds =>
            match chomping? d with
            | some chomping => (⟨chomping, some n⟩, ds)
            | none => (⟨.clip, some n⟩, cs)
          | [] => (⟨.clip, some n⟩, [])
      else some (⟨.clip, none⟩, c :: cs)

end BlockHeader

def endOfLine? (cs : List Char) : Option (List Char) :=
  let cs := cs.dropWhile isBlank
  let cs := if cs.head? == some '#' then cs.dropWhile (!isBreak ·) else cs
  if atBreak cs then some cs.tail else none

/-- The place before the first line of a block: the breaks that were passed, the column, and the
farthest column up to which spaces were found. -/
structure BlockStart where
  breaks : List Char
  column : Nat
  farthest : Nat
  rest : List Char

/-- Passes the empty lines before a block, and the spaces before its first line: all of them, or as
many as `indent` says. A tab among them is refused. -/
def blockStart (indent : Option Nat) (column farthest : Nat) (breaks : List Char) :
    List Char → Option BlockStart
  | [] => some ⟨breaks, column, max farthest column, []⟩
  | c :: cs =>
    let before := indent.all (column < ·)
    if before && c == ' ' then blockStart indent (column + 1) farthest breaks cs
    else if before && c == '\t' then none
    else if isBreak c then blockStart indent 0 (max farthest column) (breaks ++ [c]) cs
    else some ⟨breaks, column, max farthest column, c :: cs⟩

inductive BlockPlace
  | line (startsBlank : Bool)
  | between (column : Nat) (first : Option Char) (more : List Char) (startsBlank : Bool)

def betweenLines (folded : Bool) (first : Option Char) (more : List Char) (blankAround : Bool) :
    List Char :=
  if folded && first == some '\n' && !blankAround then if more.isEmpty then [' '] else more
  else first.toList ++ more

def chomp (chomping : Chomping) (first : Option Char) (more : List Char) : List Char :=
  match chomping with
  | .strip => []
  | .clip => first.toList
  | .keep => first.toList ++ more

def readLines (folded : Bool) (chomping : Chomping) (indent : Nat) (place : BlockPlace) :
    List Char → Option (List Char × List Char)
  | [] =>
    match place with
    | .line _ => some ([], [])
    | .between _ first more _ => some (chomp chomping first more, [])
  | c :: cs =>
    match place with
    | .line startsBlank =>
      if isBreak c then readLines folded chomping indent (.between 0 (some c) [] startsBlank) cs
      else
        (readLines folded chomping indent place cs).map fun (value, rest) => (c :: value, rest)
    | .between column first more startsBlank =>
      if column < indent && c == ' ' then
        readLines folded chomping indent (.between (column + 1) first more startsBlank) cs
      else if column < indent && c == '\t' then none
      else if isBreak c then
        readLines folded chomping indent (.between 0 first (more ++ [c]) startsBlank) cs
      else if column < indent || indent < column then some (chomp chomping first more, c :: cs)
      else
        (readLines folded chomping indent (.line (isBlank c)) cs).map fun (value, rest) =>
          (betweenLines folded first more (startsBlank || isBlank c) ++ c :: value, rest)

/-- Reads a block after its indicator. `floor` is the least column of its lines, one more than the
column of its parent, or zero where it has none. -/
def readBlock (folded : Bool) (floor : Nat) (cs : List Char) : Option (List Char × List Char) := do
  let (header, rest) ← BlockHeader.read cs
  let body ← endOfLine? rest
  let start ← blockStart (header.increment.map (floor - 1 + ·)) 0 0 [] body
  let indent := match header.increment with
    | some n => floor - 1 + n
    | none => max (max start.farthest floor) 1
  readLines folded header.chomping indent (.between start.column none start.breaks false) start.rest

end PermissionGraph.Yaml.Scalar
