import PermissionGraph.Failure

/-!
# A tree of files

Files and directories below one root, with the answers that a Linux file system gives where an
operation cannot be carried out. A path is a text relative to the root directory, cut into pieces at
its slashes. Empty pieces and `.` lead nowhere and are called idle.
-/

namespace PermissionGraph.Files

structure Path where
  pieces : List String
deriving DecidableEq

namespace Path

def ofText (text : String) : Path := ⟨text.splitOn "/"⟩

def text (p : Path) : String := "/".intercalate p.pieces

/-- The names on the way, without the empty ones that doubled slashes make. -/
def segments (p : Path) : List String := p.pieces.filter (· ≠ "")

def endsInSlash (p : Path) : Bool := p.pieces.getLast? == some ""

def isIdle (piece : String) : Bool := piece == "" || piece == "."

def dropIdleEnd (pieces : List String) : List String := (pieces.reverse.dropWhile isIdle).reverse

def parent? (p : Path) : Option Path :=
  match dropIdleEnd p.pieces with
  | [] => none
  | piece :: pieces => some ⟨dropIdleEnd (piece :: pieces).dropLast⟩

theorem length_dropIdleEnd_le (pieces : List String) :
    (dropIdleEnd pieces).length ≤ pieces.length := by
  have h := (List.dropWhile_sublist isIdle (l := pieces.reverse)).length_le
  simpa [dropIdleEnd] using h

theorem length_parent?_lt {p above : Path} (h : p.parent? = some above) :
    above.pieces.length < p.pieces.length := by
  have hp := length_dropIdleEnd_le p.pieces
  unfold parent? at h
  split at h
  · cases h
  · next piece pieces heq =>
    cases h
    have ha := length_dropIdleEnd_le (piece :: pieces).dropLast
    rw [heq] at hp
    simp only [List.length_dropLast, List.length_cons] at ha hp ⊢
    omega

def join (p : Path) (name : String) : Path :=
  ⟨(if p.endsInSlash then p.pieces.dropLast else p.pieces) ++ [name]⟩

def trimmed (p : Path) : String := "/".intercalate (dropIdleEnd (p.pieces.dropWhile isIdle))

end Path

inductive Content
  | text (s : String)
  /-- Bytes that are no UTF-8 text. -/
  | undecodable
deriving DecidableEq

namespace Content

def ofBytes (b : ByteArray) : Content :=
  match String.fromUTF8? b with
  | some s => text s
  | none => undecodable

end Content

inductive Entry
  | file (content : Content)
  | directory
deriving DecidableEq

abbrev Location := List String

/-- Entries by their locations; the root is always there. -/
structure Tree where
  entries : List (Location × Entry)

namespace Tree

def empty : Tree := ⟨[]⟩

def entry? (t : Tree) (location : Location) : Option Entry :=
  if location = [] then some .directory else t.entries.lookup location

def put (t : Tree) (location : Location) (e : Entry) : Tree :=
  ⟨(location, e) :: t.entries.filter (·.1 ≠ location)⟩

def longestName : Nat := 255

/-- The greatest number of bytes of a path, less those of the root directory's own path. -/
def longestPath : Nat := 4064

def child (location : Location) (segment : String) : Except FileFailure Location :=
  if segment = "." then .ok location
  else if segment = ".." then .ok location.dropLast
  else if longestName < segment.utf8ByteSize then .error .nameTooLong
  else .ok (location ++ [segment])

def enter (t : Tree) (location : Location) (segment : String) : Except FileFailure Location := do
  let next ← child location segment
  match t.entry? next with
  | some .directory => .ok next
  | some (.file _) => .error .notDirectory
  | none => .error .notFound

def above (t : Tree) (p : Path) : Except FileFailure Location :=
  if p.pieces.any (·.toList.contains '\x00') then .error .nulInName
  else if longestPath < p.text.utf8ByteSize then .error .nameTooLong
  else p.segments.dropLast.foldlM t.enter []

def status (t : Tree) (p : Path) : Except FileFailure Entry := do
  let above ← t.above p
  let location ← p.segments.getLast?.elim (.ok above) (child above)
  match t.entry? location with
  | none => .error .notFound
  | some (.file content) => if p.endsInSlash then .error .notDirectory else .ok (.file content)
  | some .directory => .ok .directory

def holds (t : Tree) (p : Path) : Bool := (t.status p).isOk

def isDirectory (t : Tree) (p : Path) : Bool :=
  match t.status p with
  | .ok .directory => true
  | _ => false

def read (t : Tree) (p : Path) : Except FileFailure String := do
  match ← t.status p with
  | .directory => .error .isDirectory
  | .file .undecodable => .error .notText
  | .file (.text s) => .ok s

/-- A last name that stands for a directory which is there anyway. -/
def isDots (name : String) : Bool := name == "." || name == ".."

def makeDirectory (t : Tree) (p : Path) : Except FileFailure Tree := do
  let above ← t.above p
  match p.segments.getLast? with
  | none => .error .alreadyExists
  | some name =>
    if isDots name then .error .alreadyExists
    else
      let location ← child above name
      if (t.entry? location).isSome then .error .alreadyExists
      else .ok (t.put location .directory)

def ensureDirectory (t : Tree) (p : Path) : Except FileFailure Unit × Tree :=
  match t.makeDirectory p with
  | .ok t => (.ok (), t)
  | .error e => if t.isDirectory p then (.ok (), t) else (.error e, t)

/-- Makes a directory after those above it, where they are missing. What was made on the way
stays. -/
def makeDirectories (t : Tree) (p : Path) : Except FileFailure Unit × Tree :=
  match t.makeDirectory p, h : p.parent? with
  | .error .notFound, some above =>
    have := Path.length_parent?_lt h
    match t.makeDirectories above with
    | (.ok (), t) => t.ensureDirectory p
    | (.error e, t) => (.error e, t)
  | _, _ => t.ensureDirectory p
termination_by p.pieces.length

/-- Where a file of this path is written. A path that ends in a slash names no file. -/
def fileLocation (t : Tree) (p : Path) : Except FileFailure Location := do
  let above ← t.above p
  match p.segments.getLast? with
  | none => .error .isDirectory
  | some name =>
    if isDots name || p.endsInSlash then .error .isDirectory
    else
      let location ← child above name
      if t.entry? location = some .directory then .error .isDirectory else .ok location

def write (t : Tree) (p : Path) (content : Content) : Except FileFailure Unit × Tree :=
  match p.parent?.elim (.ok (), t) t.makeDirectories with
  | (.error e, t) => (.error e, t)
  | (.ok (), t) =>
    match t.fileLocation p with
    | .error e => (.error e, t)
    | .ok location => (.ok (), t.put location (.file content))

end Tree

end PermissionGraph.Files
