import CiteIndex.Text.Basic

/-!
# File errors

The causes for which an operation on files fails.
-/

namespace CiteIndex

inductive FileError where
  /-- A file or a directory on the way to it does not exist. -/
  | notFound
  /-- A directory stands where a file is needed. -/
  | isADirectory
  /-- A file stands where a directory is needed. -/
  | notADirectory
  /-- The contents are no text. -/
  | invalidData
  /-- Something stands where a directory is to be made. -/
  | alreadyExists
  /-- A chain of links is too long, or leads back to itself. -/
  | tooManyLinks
  deriving DecidableEq, Repr

def FileError.message : FileError → Text
  | .notFound => "No such file or directory (os error 2)".toList
  | .isADirectory => "Is a directory (os error 21)".toList
  | .notADirectory => "Not a directory (os error 20)".toList
  | .invalidData => "stream did not contain valid UTF-8".toList
  | .alreadyExists => "File exists (os error 17)".toList
  | .tooManyLinks => "Too many levels of symbolic links (os error 40)".toList

end CiteIndex
