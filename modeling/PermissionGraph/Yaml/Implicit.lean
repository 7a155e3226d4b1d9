/-!
# Plain texts that stand for something else

A plain scalar may stand for null, a truth value or a number. A text that would be taken so needs
quotes.
-/

namespace PermissionGraph.Yaml

def isNull (s : String) : Bool := s == "" || s == "~" || s == "null" || s == "Null" || s == "NULL"

def boolean? (s : String) : Option Bool :=
  if s == "true" || s == "True" || s == "TRUE" then some true
  else if s == "false" || s == "False" || s == "FALSE" then some false
  else none

def isDigit (c : Char) : Bool := '0' ≤ c && c ≤ '9'

def digit? (base : Nat) (c : Char) : Option Nat :=
  let value :=
    if isDigit c then some (c.toNat - '0'.toNat)
    else if 'a' ≤ c && c ≤ 'f' then some (c.toNat - 'a'.toNat + 10)
    else if 'A' ≤ c && c ≤ 'F' then some (c.toNat - 'A'.toNat + 10)
    else none
  value.filter (· < base)

def natural? (base : Nat) (cs : List Char) : Option Nat :=
  if cs.isEmpty then none
  else cs.foldlM (fun n c => (digit? base c).map (n * base + ·)) 0

def base? : Char → Option Nat
  | 'x' => some 16
  | 'o' => some 8
  | 'b' => some 2
  | _ => none

def halfRange : Nat := Nat.pow 2 127

/-- Integers in base sixteen, eight or two that fit into 128 bits, those below zero with a sign. -/
def isBasedInteger (cs : List Char) : Bool :=
  let within (bound : Nat) (c : Char) (ds : List Char) : Bool :=
    ((base? c).bind (natural? · ds)).any (· < bound)
  match cs with
  | '-' :: '0' :: c :: ds => within (halfRange + 1) c ds
  | '+' :: '0' :: c :: ds => within (2 * halfRange) c ds
  | '0' :: c :: ds => within (2 * halfRange) c ds
  | _ => false

def dropSign : List Char → List Char
  | '-' :: cs => cs
  | '+' :: cs => cs
  | cs => cs

def isZeroPadded (cs : List Char) : Bool :=
  match dropSign cs with
  | '0' :: c :: ds => (c :: ds).all isDigit
  | _ => false

/-- A decimal number `digits * 10 ^ exponent`. -/
structure Scientific where
  digits : Nat
  exponent : Int

namespace Scientific

def decimal (cs : List Char) : Nat := cs.foldl (fun n c => n * 10 + (c.toNat - '0'.toNat)) 0

def exponent? : List Char → Option Int
  | [] => some 0
  | e :: cs =>
    if e != 'e' && e != 'E' then none
    else
      let digits := dropSign cs
      if digits.isEmpty || !digits.all isDigit then none
      else
        let n : Int := decimal digits
        some (if cs.head? == some '-' then -n else n)

/-- Reads a number without a sign: digits with at most one point among them, and an exponent. -/
def ofChars? (cs : List Char) : Option Scientific :=
  let whole := cs.takeWhile isDigit
  let rest := cs.dropWhile isDigit
  let (fraction, rest) := match rest with
    | '.' :: rest => (rest.takeWhile isDigit, rest.dropWhile isDigit)
    | _ => ([], rest)
  if whole.isEmpty && fraction.isEmpty then none
  else (exponent? rest).map fun e => ⟨decimal (whole ++ fraction), e - fraction.length⟩

/-- The least number that is too large for binary64. -/
def overflow : Nat := Nat.pow 2 1024 - Nat.pow 2 970

/-- The number rounds to a finite one of binary64. -/
def isFinite (x : Scientific) : Bool :=
  if x.digits = 0 then true
  else
    let magnitude : Int := (Nat.toDigits 10 x.digits).length + x.exponent
    if magnitude < 300 then true
    else if 320 < magnitude then false
    else if 0 ≤ x.exponent then x.digits * Nat.pow 10 x.exponent.toNat < overflow
    else x.digits < overflow * Nat.pow 10 (-x.exponent).toNat

end Scientific

def isInfinity (cs : List Char) : Bool :=
  let s := String.ofList (dropSign cs)
  s == ".inf" || s == ".Inf" || s == ".INF"

def isNotANumber (s : String) : Bool := s == ".nan" || s == ".NaN" || s == ".NAN"

def isFloat (cs : List Char) : Bool :=
  isInfinity cs || isNotANumber (String.ofList cs) ||
    (Scientific.ofChars? (dropSign cs)).any Scientific.isFinite

/-- The text needs quotes to be taken as a text. -/
def isImplicit (s : String) : Bool :=
  isNull s || (boolean? s).isSome || isBasedInteger s.toList || isZeroPadded s.toList ||
    isFloat s.toList

end PermissionGraph.Yaml
