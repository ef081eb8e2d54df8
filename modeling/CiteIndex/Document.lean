import CiteIndex.File.Access

/-!
# Documents

A document is the text that a request is made for, together with the directory that its relative
bibliography paths start from. Nothing about it is remembered between requests.
-/

namespace CiteIndex

structure Document where
  /-- Nothing for a document that has not been saved. -/
  path : Option Path
  text : Text
  baseDir : Path
  deriving DecidableEq, Repr

namespace Document

def unsaved (text : Text) (baseDir : Path) : Document :=
  ⟨none, text, baseDir⟩

/-- The document at a path, with a text that need not be the stored one. -/
def withText (path : Path) (text : Text) : Document :=
  ⟨some path, text, path.directory⟩

def load (files : FileTree) (path : Path) : Except FileError Document :=
  (files.readText path).map (withText path)

def stem? (d : Document) : Option Text :=
  d.path.bind Path.stem?

end Document

end CiteIndex
