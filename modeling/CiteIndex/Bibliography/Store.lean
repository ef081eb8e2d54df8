import CiteIndex.Bibliography.Layout
import CiteIndex.Doi
import CiteIndex.File.Access

/-!
# Bibliography files as stores

Records are appended to a bibliography file, laid out, behind an empty line. A file that mentions
the DOI of a record already, anywhere and in any case of letters, is left alone.

- `Store.read`: the contents of a store
- `Store.append`: the contents with one more record
- `Store.insert`: appending a record to a file
-/

namespace CiteIndex

namespace Bibliography

inductive InsertOutcome where
  /-- It was appended; this is its key. -/
  | inserted (path : Path) (key : Option Text)
  /-- The file mentions the DOI, and nothing was written. -/
  | alreadyPresent (path : Path)
  deriving DecidableEq, Repr

namespace Store

/-- The contents of a store. -/
def read (files : FileTree) (target : Path) : Except FileError Text :=
  match files.readText target with
  -- A file that does not exist is an empty one.
  | .error .notFound => .ok []
  | result => result

/-- What is put between the contents of a store and a further record. -/
def separator (contents : Text) : Text :=
  if contents.getLast? == some '\n' then ['\n'] else ['\n', '\n']

/-- The contents of a store with one more record. -/
def append (contents record : Text) : Text :=
  -- Contents that are white space alone are dropped.
  if (Text.trim contents).isEmpty then Layout.format record
  else contents ++ separator contents ++ Layout.format record

/-- Appends the record of a DOI to a file, unless the file mentions the DOI. -/
def insert (files : FileTree) (target : Path) (record : Text) (doi : Doi) :
    Except FileError InsertOutcome × FileTree :=
  match read files target with
  | .error e => (.error e, files)
  | .ok contents =>
    if doi.occursIn contents then (.ok (.alreadyPresent target), files)
    else
      match files.replaceFile target (FileTree.bytesOf (append contents record)) with
      | (.error e, files) => (.error e, files)
      | (.ok (), files) => (.ok (.inserted target (Layout.recordKey? record)), files)

end Store

end Bibliography

end CiteIndex
