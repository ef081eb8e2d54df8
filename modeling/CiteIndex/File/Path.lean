import CiteIndex.Text.Basic

/-!
# Paths

A path is kept as it was written. Its components are what stands between the slashes, without
empty pieces and without `.` except at the very start of a relative path; `..` is a component of
its own and is not cancelled against the component before it.

- `Path.join`, `Path.parent?`, `Path.directory`: around the last component
- `Path.fileName?`, `Path.stem?`, `Path.extension?`: inside the last component
- `Path.compare`: order by components
-/

namespace CiteIndex

structure Path where
  text : Text
  deriving DecidableEq, Repr

namespace Path

def of (s : String) : Path := ⟨s.toList⟩

def isAbsolute (p : Path) : Bool :=
  p.text.head? == some '/'

/-! ## Pieces -/

/-- Pieces that name nothing inside a path: nothing between two slashes, and a lone dot. -/
def isIdle (piece : Text) : Bool :=
  piece.isEmpty || piece == ['.']

def trimIdle (pieces : List Text) : List Text :=
  (pieces.reverse.dropWhile isIdle).reverse

/-- The first piece, which is empty exactly for an absolute and for an empty path, and the pieces
after it up to the last one that names something. -/
def pieces (p : Path) : Text × List Text :=
  match Text.splitWhere (· == '/') p.text with
  | [] => ([], [])
  | first :: rest => (first, trimIdle rest)

/-! ## Components -/

inductive Component where
  /-- The slash at the start of an absolute path. -/
  | root
  /-- A lone dot at the start of a relative path. -/
  | here
  /-- Two dots. -/
  | up
  | name (text : Text)
  deriving DecidableEq, Repr

def Component.ofPiece (piece : Text) : Component :=
  if piece == ['.', '.'] then .up else .name piece

def components (p : Path) : List Component :=
  let (first, rest) := p.pieces
  let tail := (rest.filter (fun piece => !isIdle piece)).map Component.ofPiece
  if p.text.isEmpty then []
  else if first.isEmpty then .root :: tail
  else if first == ['.'] then .here :: tail
  else Component.ofPiece first :: tail

/-! ## Around the last component -/

/-- The path without its last component. -/
def parent? (p : Path) : Option Path :=
  let (first, rest) := p.pieces
  match rest with
  -- The root and the empty path have no parent.
  | [] => if first.isEmpty then none else some ⟨[]⟩
  | _ :: _ =>
    let kept := trimIdle rest.dropLast
    if first.isEmpty then some ⟨'/' :: Text.join ['/'] kept⟩
    else some ⟨Text.join ['/'] (first :: kept)⟩

/-- The directory that a path lies in. -/
def directory (p : Path) : Path :=
  match p.parent? with
  | some ⟨c :: cs⟩ => ⟨c :: cs⟩
  -- A path of one component lies in the current directory.
  | _ => ⟨['.']⟩

/-- A path below a base. -/
def join (base p : Path) : Path :=
  -- An absolute path replaces the base.
  if p.isAbsolute || base.text.isEmpty then p
  else if base.text.endsWith ['/'] then ⟨base.text ++ p.text⟩
  else ⟨base.text ++ '/' :: p.text⟩

/-! ## Inside the last component -/

def fileName? (p : Path) : Option Text :=
  match p.components.getLast? with
  | some (.name t) => some t
  | _ => none

/-- What stands before and after the last dot of a name. -/
def cutLastDot? (name : Text) : Option (Text × Text) :=
  match Text.cutAt? (· == '.') name.reverse with
  | some (after, c :: before) => some ((c :: before).reverse, after.reverse)
  -- A dot at the very start does not count.
  | _ => none

def stem? (p : Path) : Option Text :=
  p.fileName?.map fun name =>
    match cutLastDot? name with
    | some (before, _) => before
    | none => name

def extension? (p : Path) : Option Text :=
  (p.fileName?.bind cutLastDot?).map (·.2)

/-! ## Order -/

/-- Place of a component's sort: the root, a dot, two dots, names. -/
def Component.rank : Component → Nat
  | .root => 0
  | .here => 1
  | .up => 2
  | .name _ => 3

def Component.compare : Component → Component → Ordering
  | .name a, .name b => Text.compare a b
  | a, b => Ord.compare a.rank b.rank

def compareComponents : List Component → List Component → Ordering
  | [], [] => .eq
  | [], _ :: _ => .lt
  | _ :: _, [] => .gt
  | a :: as, b :: bs => (a.compare b).then (compareComponents as bs)

def compare (p q : Path) : Ordering :=
  compareComponents p.components q.components

end Path

end CiteIndex
