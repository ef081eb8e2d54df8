import CiteIndex.File.Tree

/-!
# Reading and writing files

The operations on a file tree that the rest of the library is built from. Reading looks through
links; each operation that writes says which location it changes, and changes nothing if it
fails, `createDirectories` apart, which may have made some of the directories.

- `FileTree.readText`, `FileTree.isFile`, `FileTree.fileNames`: reading
- `FileTree.writeFile`, `FileTree.replaceFile`: writing in place, and by way of a new file
-/

namespace CiteIndex

namespace FileTree

/-! ## Texts and bytes -/

def textOf? (bytes : ByteArray) : Option Text :=
  (String.fromUTF8? bytes).map String.toList

def bytesOf (t : Text) : ByteArray :=
  (String.ofList t).toUTF8

/-- Every text is read back from its bytes. -/
@[simp]
theorem textOf?_bytesOf (t : Text) : textOf? (bytesOf t) = some t := by
  have hread : String.fromUTF8? (String.ofList t).toUTF8 = some (String.ofList t) :=
    dif_pos (String.ofList t).isValidUTF8
  rw [textOf?, bytesOf, hread, Option.map_some, String.toList_ofList]

/-! ## Reading -/

def readBytes (t : FileTree) (p : Path) : Except FileError ByteArray :=
  match t.resolve true p with
  | .error e => .error e
  | .ok (.found _ (.file content)) => .ok content
  | .ok (.found _ .directory) => .error .isADirectory
  | .ok (.found _ (.link _)) => .error .notFound
  | .ok .blocked => .error .notADirectory
  | .ok (.vacant _ _ _) => .error .notFound

def readText (t : FileTree) (p : Path) : Except FileError Text :=
  match t.readBytes p with
  | .error e => .error e
  | .ok content =>
    match textOf? content with
    | some text => .ok text
    | none => .error .invalidData

def pathExists (t : FileTree) (p : Path) : Bool :=
  match t.resolve true p with
  | .ok (.found _ _) => true
  | _ => false

def isFile (t : FileTree) (p : Path) : Bool :=
  match t.resolve true p with
  | .ok (.found _ (.file _)) => true
  | _ => false

def isDirectory (t : FileTree) (p : Path) : Bool :=
  match t.resolve true p with
  | .ok (.found _ .directory) => true
  | _ => false

def childName? (dir place : Location) : Option Text :=
  match place.getLast? with
  | some name => if place.dropLast == dir then some name else none
  | none => none

/-- The names in the directory at a path, in the order of the tree. -/
def fileNames (t : FileTree) (p : Path) : Except FileError (List Text) :=
  match t.resolve true p with
  | .error e => .error e
  | .ok (.found dir .directory) => .ok (t.nodes.filterMap fun entry => childName? dir entry.1)
  | .ok (.found _ _) | .ok .blocked => .error .notADirectory
  | .ok (.vacant _ _ _) => .error .notFound

/-! ## Writing in place -/

/-- Writes a file at a path, through links, over what it held before. -/
def writeFile (t : FileTree) (p : Path) (content : ByteArray) : Except FileError FileTree :=
  match t.resolve true p with
  | .error e => .error e
  | .ok (.found place (.file _)) => .ok (t.put place (.file content))
  | .ok (.found _ .directory) => .error .isADirectory
  | .ok (.found _ (.link _)) => .error .notFound
  -- No file is written at a path that asks for a directory.
  | .ok .blocked => .error .isADirectory
  | .ok (.vacant dir name slash) =>
    if slash then .error .isADirectory else .ok (t.put (dir ++ [name]) (.file content))

def createLink (t : FileTree) (p target : Path) : Except FileError FileTree :=
  match t.resolve false p with
  | .error e => .error e
  | .ok (.found _ _) | .ok .blocked => .error .alreadyExists
  | .ok (.vacant dir name slash) =>
    if slash then .error .notFound else .ok (t.put (dir ++ [name]) (.link target))

def removeFile (t : FileTree) (p : Path) : Except FileError FileTree :=
  match t.resolve false p with
  | .error e => .error e
  | .ok (.found _ .directory) => .error .isADirectory
  | .ok (.found place _) => .ok (t.remove place)
  | .ok .blocked => .error .notADirectory
  | .ok (.vacant _ _ _) => .error .notFound

/-! ## Directories -/

def createDirectory (t : FileTree) (p : Path) : Except FileError FileTree :=
  match t.resolve false p with
  | .error e => .error e
  | .ok (.found _ _) | .ok .blocked => .error .alreadyExists
  | .ok (.vacant dir name _) => .ok (t.put (dir ++ [name]) .directory)

/-- The failure to make a directory, forgiven if there is one. -/
def unlessDirectory (t : FileTree) (p : Path) (e : FileError) : Except FileError Unit × FileTree :=
  if t.isDirectory p then (.ok (), t) else (.error e, t)

/-- Makes a directory and up to `levels` missing directories above it. -/
def createDirectoriesWithin (levels : Nat) (t : FileTree) (p : Path) :
    Except FileError Unit × FileTree :=
  if p.text.isEmpty then (.ok (), t)
  else
    match t.createDirectory p, levels, p.parent? with
    | .ok made, _, _ => (.ok (), made)
    | .error .notFound, levels + 1, some above =>
      match createDirectoriesWithin levels t above with
      | (.error e, t) => (.error e, t)
      | (.ok (), t) =>
        match t.createDirectory p with
        | .ok made => (.ok (), made)
        | .error e => t.unlessDirectory p e
    | .error e, _, _ => t.unlessDirectory p e

def createDirectories (t : FileTree) (p : Path) : Except FileError Unit × FileTree :=
  createDirectoriesWithin p.text.length t p

/-! ## Writing by way of a new file -/

/-- The letters of the names of a location and of a link there. -/
def entryLetters (entry : Location × Node) : Text :=
  entry.1.flatten ++
    match entry.2 with
    | .link target => target.text
    | _ => []

/-- A name that is longer than all names in the tree, in its links and in a path. -/
def freshName (t : FileTree) (p : Path) : Text :=
  ".tmp".toList ++ List.replicate (p.text ++ t.nodes.flatMap entryLetters).length 'x'

/-- Where a file lands that is moved to a spot. -/
def landing : Except FileError Spot → Except FileError Location
  | .error e => .error e
  | .ok (.found _ .directory) => .error .isADirectory
  -- A link is replaced itself, not what it leads to.
  | .ok (.found place _) => .ok place
  | .ok .blocked => .error .notADirectory
  | .ok (.vacant dir name slash) => if slash then .error .notADirectory else .ok (dir ++ [name])

/-- Writes a file at a new location and moves it to the spot that is found then. -/
def writeBeside (t : FileTree) (temp : Location) (content : ByteArray)
    (spot : FileTree → Except FileError Spot) : Except FileError Unit × FileTree :=
  let written := t.put temp (.file content)
  match landing (spot written) with
  -- The new file is removed again if it cannot be moved.
  | .error e => (.error e, written.remove temp)
  | .ok place => (.ok (), (written.remove temp).put place (.file content))

/-- Moves a new file to a path, from the directory that the path lies in. -/
def moveInto (t : FileTree) (p : Path) (content : ByteArray) : Except FileError Unit × FileTree :=
  match t.resolve true p.directory with
  | .ok (.found dir .directory) =>
    t.writeBeside (dir ++ [t.freshName p]) content fun written => written.resolve false p
  | .ok (.found _ _) | .ok .blocked => (.error .notADirectory, t)
  | .ok (.vacant _ _ _) => (.error .notFound, t)
  | .error e => (.error e, t)

/-- Replaces the file at a path by way of a new file in the same directory, so that nobody sees it
half written. -/
def replaceFile (t : FileTree) (p : Path) (content : ByteArray) :
    Except FileError Unit × FileTree :=
  match t.resolve true p with
  -- What the path leads to through links is replaced, and the links stay.
  | .ok (.found place node) =>
    t.writeBeside (place.dropLast ++ [t.freshName p]) content fun _ => .ok (.found place node)
  | .ok .blocked => (.error .notADirectory, t)
  -- If it leads to nothing, the new file is moved to the path itself.
  | .ok (.vacant _ _ _) | .error .notFound => t.moveInto p content
  | .error e => (.error e, t)

end FileTree

end CiteIndex
