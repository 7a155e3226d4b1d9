import PermissionGraph.Yaml.Character
import PermissionGraph.Yaml.Implicit

/-!
# Written scalars

A text can be written in several styles, each of which suits some texts only. `Style.choose` picks the
first that suits: a literal block where the text has lines, and else plain, single-quoted and
double-quoted in this order. Lines after the first are indented by two spaces, and no line is ever
folded.
-/

namespace PermissionGraph.Yaml

inductive Style
  | plain
  | singleQuoted
  | doubleQuoted
  | literal
  | folded
deriving DecidableEq

namespace Style

/-- Some character of the first kind stands directly before one of the second. -/
def adjacent (p q : Char → Bool) : List Char → Bool
  | c :: d :: cs => (p c && q d) || adjacent p q (d :: cs)
  | _ => false

def isSpace (c : Char) : Bool := c == ' '

def isIndicator (c : Char) : Bool :=
  "#,[]\x7b\x7d&*!|>'\"%@".toList.contains c || c == '\x60'

/-- After its first character the text has something that would end a plain scalar. -/
def breaksOff : List Char → Bool
  | ':' :: [] => true
  | c :: d :: cs =>
    (c == ':' && atGap (d :: cs)) || (d == '#' && (isBlank c || isBreak c)) || breaksOff (d :: cs)
  | _ => false

def hasIndicator (cs : List Char) : Bool :=
  cs.take 3 == ['-', '-', '-'] || cs.take 3 == ['.', '.', '.'] ||
  (match cs with
    | [] => false
    | c :: rest =>
      isIndicator c || ((c == '?' || c == '-') && atGap rest) || breaksOff (c :: rest))

def hasEnd (p : Char → Bool) (cs : List Char) : Bool := cs.head?.any p || cs.getLast?.any p

def hasUnprintable (cs : List Char) : Bool := cs.any (!isPrintable ·)

def suitsPlain (cs : List Char) : Bool :=
  !cs.isEmpty && !hasEnd isSpace cs && !cs.any isBreak && !hasUnprintable cs && !hasIndicator cs

def suitsSingleQuoted (cs : List Char) : Bool :=
  !adjacent isBreak isSpace cs && !adjacent isSpace isBreak cs && !hasUnprintable cs

def suitsLiteral (cs : List Char) : Bool :=
  !cs.isEmpty && !cs.getLast?.any isSpace && !adjacent isSpace isBreak cs && !hasUnprintable cs

def choose (s : String) : Style :=
  let cs := s.toList
  if cs.contains '\n' then if suitsLiteral cs then literal else doubleQuoted
  else if !isImplicit s && suitsPlain cs then plain
  else if suitsSingleQuoted cs then singleQuoted
  else doubleQuoted

end Style

end PermissionGraph.Yaml

namespace PermissionGraph.Yaml.Scalar

def indentation : List Char := [' ', ' ']

def upperHex (width n : Nat) : List Char :=
  let ds := (Nat.toDigits 16 n).map Char.toUpper
  List.replicate (width - ds.length) '0' ++ ds

def escape (c : Char) : List Char :=
  match c with
  | '\x00' => ['\\', '0']
  | '\x07' => ['\\', 'a']
  | '\x08' => ['\\', 'b']
  | '\t' => ['\\', 't']
  | '\n' => ['\\', 'n']
  | '\x0b' => ['\\', 'v']
  | '\x0c' => ['\\', 'f']
  | '\r' => ['\\', 'r']
  | '\x1b' => ['\\', 'e']
  | '"' => ['\\', '"']
  | '\\' => ['\\', '\\']
  | '\u0085' => ['\\', 'N']
  | '\u2028' => ['\\', 'L']
  | '\u2029' => ['\\', 'P']
  | c =>
    if isPrintable c then [c]
    else if c.toNat ≤ 0xFF then '\\' :: 'x' :: upperHex 2 c.toNat
    else if c.toNat ≤ 0xFFFF then '\\' :: 'u' :: upperHex 4 c.toNat
    else '\\' :: 'U' :: upperHex 8 c.toNat

def doubleQuoted (cs : List Char) : List Char := '"' :: cs.flatMap escape ++ ['"']

/-- The inside of single quotes and the closing quote; `fresh` says that a line has just begun. -/
def singleQuotedFrom (fresh : Bool) : List Char → List Char
  | [] => (if fresh then indentation else []) ++ ['\'']
  | c :: cs =>
    if isBreak c then c :: singleQuotedFrom true cs
    else
      (if fresh then indentation else []) ++ (if c = '\'' then ['\'', '\''] else [c]) ++
        singleQuotedFrom false cs

def singleQuoted (cs : List Char) : List Char := '\'' :: singleQuotedFrom false cs

def literalFrom (fresh : Bool) : List Char → List Char
  | [] => []
  | c :: cs =>
    if isBreak c then c :: literalFrom true cs
    else (if fresh then indentation else []) ++ c :: literalFrom false cs

def chomping (cs : List Char) : List Char :=
  match cs.reverse with
  | [] => ['-']
  | [c] => if isBreak c then ['+'] else ['-']
  | c :: d :: _ => if !isBreak c then ['-'] else if isBreak d then ['+'] else []

/-- A block whose first line starts with a space or is empty tells its indentation. -/
def indentationHint (cs : List Char) : List Char :=
  if cs.head?.any (fun c => c == ' ' || isBreak c) then ['2'] else []

def literal (cs : List Char) : List Char :=
  '|' :: indentationHint cs ++ chomping cs ++ '\n' :: literalFrom true cs

def write (s : String) : List Char :=
  let cs := s.toList
  match Style.choose s with
  | .plain => cs
  | .singleQuoted => singleQuoted cs
  | .literal => literal cs
  | _ => doubleQuoted cs

end PermissionGraph.Yaml.Scalar
