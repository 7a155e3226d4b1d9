/-!
# Characters of YAML, and gaps between words

The classes of characters that the grammar of YAML tells apart. Within a flow scalar, blanks before a
line break are dropped, and so are those after it. A single break stands for a space, and the breaks
after the first stand for themselves. A stream is read with every break but the two Unicode
separators normalised to `\n`.
-/

namespace PermissionGraph.Yaml

def isBreak (c : Char) : Bool :=
  c == '\n' || c == '\r' || c == '\u0085' || c == '\u2028' || c == '\u2029'

def isBlank (c : Char) : Bool := c == ' ' || c == '\t'

def isWord (c : Char) : Bool := c.isAlphanum || c == '-' || c == '_'

def byteOrderMark : Char := '\ufeff'

/-- Characters that may stand in a stream at all. -/
def isReadable (c : Char) : Bool :=
  let n := c.toNat
  n == 0x9 || n == 0xA || n == 0xD || (0x20 ≤ n && n ≤ 0x7E) || n == 0x85 ||
    (0xA0 ≤ n && n ≤ 0xFFFD) || 0x10000 ≤ n

/-- Characters that are written as they are. -/
def isPrintable (c : Char) : Bool :=
  let n := c.toNat
  n == 0xA || (0x20 ≤ n && n ≤ 0x7E) ||
    (0xA0 ≤ n && n ≤ 0xFFFD && c != byteOrderMark) || 0x10000 ≤ n

/-- The rest of a stream starts with a blank or a break, or there is none. -/
def atGap : List Char → Bool
  | [] => true
  | c :: _ => isBlank c || isBreak c

def atBreak : List Char → Bool
  | [] => true
  | c :: _ => isBreak c

def atDocumentMark : List Char → Bool
  | '-' :: '-' :: '-' :: cs => atGap cs
  | '.' :: '.' :: '.' :: cs => atGap cs
  | _ => false

/-- One line break for a carriage return, with or without a line feed, and for a next-line. -/
def normalizeBreaks : List Char → List Char
  | [] => []
  | '\r' :: '\n' :: cs => '\n' :: normalizeBreaks cs
  | c :: cs => (if c == '\r' || c == '\u0085' then '\n' else c) :: normalizeBreaks cs

inductive Gap
  | none
  | blanks (cs : List Char)
  /-- The first break, unless it was escaped, and those after it. -/
  | lines (first : Option Char) (more : List Char)

namespace Gap

def isLines : Gap → Bool
  | lines .. => true
  | _ => false

def addBlank (c : Char) : Gap → Gap
  | none => blanks [c]
  | blanks cs => blanks (cs ++ [c])
  | lines first more => lines first more

def addBreak (c : Char) : Gap → Gap
  | none | blanks _ => lines (some c) []
  | lines first more => lines first (more ++ [c])

def text : Gap → List Char
  | none => []
  | blanks cs => cs
  | lines (some '\n') [] => [' ']
  | lines (some '\n') more => more
  | lines first more => first.toList ++ more

end Gap

end PermissionGraph.Yaml
