import CiteIndex.Bibliography.Reference
import CiteIndex.Candidate.Item
import CiteIndex.Document

/-!
# Completion lists

What can be cited in a document: its labels, then the entries of the bibliography files that it
names. Files that cannot be read contribute nothing and disturb nothing.

- `Completion.locate`: the bibliography files of a document that exist
- `Completion.build`: the whole list
-/

namespace CiteIndex

open Bibliography

namespace Completion

/-- The bibliography files that a text names, from a base directory, as far as they exist. -/
def locate (files : FileTree) (text : Text) (baseDir : Path) : List Path :=
  ((Reference.extract text).map fun name => baseDir.join ⟨name⟩).filter files.isFile

def entriesIn (files : FileTree) (path : Path) : List Entry :=
  match files.readText path with
  | .ok contents => Entry.parse path contents
  | .error _ => []

/-- The bibliography files at some paths that can be read, with their texts. -/
def contentsOf (files : FileTree) (paths : List Path) : List (Path × Text) :=
  paths.filterMap fun path =>
    match files.readText path with
    | .ok contents => some (path, contents)
    | .error _ => none

/-- The candidates from the bibliography files of a document, by file and then as they stand in
the file. -/
def ofBibliographies (files : FileTree) (d : Document) : List Candidate :=
  -- All files are read before the first is parsed.
  ((contentsOf files (locate files d.text d.baseDir)).flatMap fun (path, contents) =>
    Entry.parse path contents).map Candidate.ofEntry

def build (files : FileTree) (d : Document) : List Candidate :=
  Candidate.ofDocumentLabels d.text ++ ofBibliographies files d

end Completion

end CiteIndex
