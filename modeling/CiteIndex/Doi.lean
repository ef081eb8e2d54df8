import CiteIndex.Text.Blank
import CiteIndex.Text.Case
import CiteIndex.Text.Percent

/-!
# DOIs

A DOI names a work. It is typed in many ways, bare, behind `doi:` or as an address of a resolver,
and means the same in any case of letters, so it is kept in a normal form beside the form in which
it was typed.

- `Doi.parse`: reading what was typed
- `Doi.addressOn`: the address of the work at a resolver
- `Doi.occursIn`: is the DOI mentioned in a text
-/

namespace CiteIndex

inductive DoiError where
  | empty
  | malformed (input : Text)
  deriving DecidableEq, Repr

structure Doi where
  /-- As it was typed, trimmed. -/
  raw : Text
  /-- Bare and in lower case. -/
  normalized : Text
  deriving DecidableEq, Repr

namespace Doi

/-! ## Reading -/

/-- What can stand in front of a bare DOI. -/
def leads : List Text :=
  ["https://doi.org/".toList, "http://doi.org/".toList, "https://dx.doi.org/".toList,
    "http://dx.doi.org/".toList, "doi:".toList, "DOI:".toList]

def bare (t : Text) : Text :=
  match leads.findSome? fun lead => Text.dropStart? lead t with
  | some rest => Text.trimStart rest
  | none => t

/-- Does a bare DOI begin with `10.` and have something but white space behind its first slash. -/
def isWellFormed (t : Text) : Bool :=
  Text.startsWith t "10.".toList &&
    match Text.cutAt? (· == '/') t with
    | some (_, suffix) => !(Text.trim suffix).isEmpty
    | none => false

def parse (input : Text) : Except DoiError Doi :=
  let typed := Text.trim input
  if typed.isEmpty then .error .empty
  else if isWellFormed (bare typed) then .ok ⟨typed, Text.lower (bare typed)⟩
  else .error (.malformed typed)

/-! ## Use -/

/-- The address of the work at a resolver: every segment of the DOI with its own escapes. -/
def addressOn (d : Doi) (resolver : Text) : Text :=
  let segments := (Text.splitWhere (· == '/') d.normalized).map Percent.encode
  Text.dropEndWhile (· == '/') resolver ++ '/' :: Text.join ['/'] segments

def defaultResolver : Text := "https://doi.org".toList

def address (d : Doi) : Text :=
  d.addressOn defaultResolver

/-- Is the DOI mentioned in a text, in any case of letters. -/
def occursIn (d : Doi) (contents : Text) : Bool :=
  Text.holds d.normalized (Text.lower contents)

end Doi

end CiteIndex
