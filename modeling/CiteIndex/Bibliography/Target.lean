import CiteIndex.Document

/-!
# The file that a record is inserted into

Records go to a bibliography file in the directory of the document. If there is exactly one, it
is used without asking; otherwise the caller has to confirm a new file or choose one of several.

- `Target.select`: what the directory of a document offers
-/

namespace CiteIndex

namespace Bibliography

inductive Target where
  /-- No bibliography file yet; this one can be made. -/
  | create (path : Path)
  /-- The only bibliography file. -/
  | existing (path : Path)
  /-- Several bibliography files, in order. -/
  | choose (candidates : List Path)
  deriving DecidableEq, Repr

namespace Target

/-- The file that can be used without asking. -/
def auto? : Target → Option Path
  | .existing path => some path
  | .create _ => none
  | .choose _ => none

def extension : Text := "bib".toList

def fallbackStem : Text := "references".toList

/-- Does a path have the extension of bibliography files, in any case of ASCII letters. -/
def hasExtension (p : Path) : Bool :=
  match p.extension? with
  | some e => e.sameIgnoringCase extension
  | none => false

/-- The bibliography files directly in a directory, in the order of the tree. -/
def filesIn (files : FileTree) (dir : Path) : Except FileError (List Path) :=
  (files.fileNames dir).map fun names =>
    (names.map fun name => dir.join ⟨name⟩).filter fun p => hasExtension p && files.isFile p

def offered (d : Document) : Path :=
  d.baseDir.join ⟨d.stem?.getD fallbackStem ++ '.' :: extension⟩

/-- What the bibliography files found, in order, amount to. -/
def ofFound (d : Document) : List Path → Target
  | [] => .create (offered d)
  | [path] => .existing path
  | paths => .choose paths

def select (files : FileTree) (d : Document) : Except FileError Target :=
  (filesIn files d.baseDir).map fun found =>
    ofFound d (found.mergeSort fun p q => (p.compare q).isLE)

end Target

end Bibliography

end CiteIndex
