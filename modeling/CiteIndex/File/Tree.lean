import CiteIndex.File.Error
import CiteIndex.File.Path

/-!
# File trees

A file tree says what stands at which location: files with their bytes, symbolic links with the
path that they hold, directories. A location is a list of names from the root; the root itself is
always a directory. Paths are followed from a working directory, through links, up to a limit.

- `FileTree.node?`, `FileTree.put`, `FileTree.remove`: the tree as a map from locations
- `FileTree.resolve`: where a path leads
-/

namespace CiteIndex

abbrev Location := List Text

inductive Node where
  | file (content : ByteArray)
  | link (target : Path)
  | directory

/-- Files are compared byte by byte. -/
instance : DecidableEq Node := fun
  | .file a, .file b =>
    if h : a.data = b.data then .isTrue (congrArg Node.file (ByteArray.ext h))
    else .isFalse fun heq => h (by injection heq with heq; rw [heq])
  | .link a, .link b =>
    if h : a = b then .isTrue (congrArg Node.link h)
    else .isFalse fun heq => h (by injection heq)
  | .directory, .directory => .isTrue rfl
  | .file _, .link _ | .file _, .directory | .link _, .file _ | .link _, .directory
  | .directory, .file _ | .directory, .link _ => .isFalse nofun

/-- What stands at which location, and the directory at which relative paths begin. -/
structure FileTree where
  nodes : List (Location × Node)
  workDir : Location

inductive Spot where
  /-- To something that is there. -/
  | found (place : Location) (node : Node)
  /-- To a file, although the path asks for a directory. -/
  | blocked
  /-- To a name that is free in a directory that is there; `slash` if the path ended in one. -/
  | vacant (place : Location) (name : Text) (slash : Bool)

namespace FileTree

/-! ## The tree as a map -/

def node? (t : FileTree) (place : Location) : Option Node :=
  match place with
  | [] => some .directory
  | _ :: _ => (t.nodes.find? fun entry => entry.1 == place).map (·.2)

/-- The tree with a node at a location in place of what stood there. -/
def put (t : FileTree) (place : Location) (node : Node) : FileTree :=
  { t with nodes := (place, node) :: t.nodes.filter fun entry => entry.1 != place }

def remove (t : FileTree) (place : Location) : FileTree :=
  { t with nodes := t.nodes.filter fun entry => entry.1 != place }

theorem node?_put_self (t : FileTree) {place : Location} (h : place ≠ []) (node : Node) :
    (t.put place node).node? place = some node := by
  cases place with
  | nil => exact absurd rfl h
  | cons name rest => simp [node?, put]

/-- Putting a node at one location leaves all others as they are. -/
theorem node?_put_of_ne (t : FileTree) {place other : Location} (h : other ≠ place) (node : Node) :
    (t.put place node).node? other = t.node? other := by
  cases other with
  | nil => rfl
  | cons name rest =>
    have hne : (place == name :: rest) = false := beq_false_of_ne h.symm
    simp only [node?, put, List.find?_cons, hne, List.find?_filter]
    congr 2
    funext entry
    by_cases heq : entry.1 = name :: rest
    · simp [heq, h]
    · simp [heq]

/-! ## Following a path -/

inductive Halt where
  | arrived (spot : Spot)
  /-- A link with a given target stands in a directory, and some steps remain. -/
  | atLink (place : Location) (target : Path) (rest : List Text)

/-- Goes on from a directory along the pieces of a path until the end or the next link that has
to be followed. -/
def advance (t : FileTree) (followLast slash : Bool) (place : Location) :
    List Text → Except FileError Halt
  | [] => .ok (.arrived (.found place .directory))
  | step :: rest =>
    if step = ['.'] then t.advance followLast slash place rest
    else if step = ['.', '.'] then t.advance followLast slash place.dropLast rest
    else
      match t.node? (place ++ [step]) with
      | none =>
        if rest.isEmpty then .ok (.arrived (.vacant place step slash)) else .error .notFound
      | some .directory => t.advance followLast slash (place ++ [step]) rest
      | some (.file content) =>
        if !rest.isEmpty then .error .notADirectory
        -- A slash at the end asks for a directory.
        else if slash then .ok (.arrived .blocked)
        else .ok (.arrived (.found (place ++ [step]) (.file content)))
      | some (.link target) =>
        if rest.isEmpty && !slash && !followLast then
          .ok (.arrived (.found (place ++ [step]) (.link target)))
        else .ok (.atLink place target rest)

/-- The pieces of a path that are followed one by one. -/
def steps (p : Path) : List Text :=
  (Text.splitWhere (· == '/') p.text).filter fun piece => !piece.isEmpty

def endsInSlash (p : Path) : Bool :=
  Text.endsWith p.text ['/']

/-- Goes along the pieces of a path, through at most `links` links. -/
def walk (t : FileTree) (followLast : Bool) (links : Nat) (slash : Bool) (place : Location)
    (pieces : List Text) : Except FileError Spot :=
  match t.advance followLast slash place pieces with
  | .error e => .error e
  | .ok (.arrived spot) => .ok spot
  | .ok (.atLink dir target rest) =>
    match links with
    | 0 => .error .tooManyLinks
    | links + 1 =>
      t.walk followLast links (slash || (rest.isEmpty && endsInSlash target))
        (if target.isAbsolute then [] else dir) (steps target ++ rest)

def linkLimit : Nat := 40

/-- Where a path leads. A link at its very end is followed only if `followLast` says so. -/
def resolve (t : FileTree) (followLast : Bool) (p : Path) : Except FileError Spot :=
  if p.text.isEmpty then .error .notFound
  else t.walk followLast linkLimit (endsInSlash p) (if p.isAbsolute then [] else t.workDir)
    (steps p)

end FileTree

end CiteIndex
