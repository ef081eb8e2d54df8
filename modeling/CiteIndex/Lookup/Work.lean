import CiteIndex.Json.Value
import CiteIndex.Lookup.Error

/-!
# Works

A work as a catalogue describes it. Only the DOI has to be there; whatever else is missing or of
the wrong sort counts as absent.

- `Work.ofJson`: the work that a catalogue's item describes
- `Work.description`: one line about a work
-/

namespace CiteIndex

structure Author where
  given : Option Text
  family : Option Text
  deriving DecidableEq, Repr

structure Work where
  doi : Text
  titles : List Text
  authors : List Author
  containerTitles : List Text
  year : Option Int
  kind : Text
  publisher : Option Text
  deriving DecidableEq, Repr

namespace Work

/-! ## Reading -/

def strings (v : Json) : List Text :=
  (v.array?.getD []).filterMap Json.string?

/-- An integer brought into 32 signed bits. -/
def wrap32 (n : Int) : Int :=
  n.bmod 4294967296

def yearIn? (v : Json) (name : String) : Option Int :=
  ((((v.member name).member "date-parts").item 0).item 0).int64?

/-- Members that can hold the date of publication, the best one first. -/
def dateMembers : List String :=
  ["published", "published-print", "published-online", "issued"]

def year? (v : Json) : Option Int :=
  (dateMembers.findSome? (yearIn? v)).map wrap32

def authorOf (v : Json) : Author :=
  ⟨(v.member "given").string?, (v.member "family").string?⟩

def ofJson (v : Json) : Except LookupError Work :=
  match (v.member "DOI").string? with
  | none => .error .missingDoi
  | some doi => .ok {
      doi := doi
      titles := strings (v.member "title")
      authors := ((v.member "author").array?.getD []).map authorOf
      containerTitles := strings (v.member "container-title")
      year := year? v
      kind := (v.member "type").string?.getD "unknown".toList
      publisher := (v.member "publisher").string? }

/-! ## Showing -/

/-- The first title. -/
def displayTitle (w : Work) : Text :=
  w.titles.head?.getD "Untitled".toList

def authorSummary? (w : Work) : Option Text :=
  match w.authors with
  | [] => none
  | first :: others =>
    (first.family <|> first.given).map fun name =>
      if others.isEmpty then name else name ++ " et al.".toList

def venue? (w : Work) : Option Text :=
  w.containerTitles.head?

/-- Authors, venue and year in one line, as far as there are any. -/
def description (w : Work) : Text :=
  Text.join ", ".toList
    (w.authorSummary?.toList ++ w.venue?.toList ++ (w.year.map Text.ofInt).toList)

end Work

end CiteIndex
