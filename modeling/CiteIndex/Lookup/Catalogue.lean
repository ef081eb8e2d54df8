import CiteIndex.Json.Reader
import CiteIndex.Lookup.Work
import CiteIndex.Settings.Basic

/-!
# Searching a catalogue

A search sends the words as one parameter of the query and the number of results as the other, and
reads the works from the answer in the order in which the catalogue ranks them.

- `Catalogue.searchAddress`: the address that a search asks for
- `Catalogue.worksIn`: the works in an answer
- `Catalogue.search`: a search
-/

namespace CiteIndex

structure Catalogue where
  client : Client
  baseUrl : Text
  rows : Nat
  deriving DecidableEq, Repr

namespace Catalogue

/-- The catalogue at a base address that is asked for some number of results. -/
def make (client : Client) (baseUrl : Text) (rows : Nat) : Catalogue :=
  ⟨client, Text.dropEndWhile (· == '/') baseUrl, clampRows rows⟩

def searchAddress (c : Catalogue) (words : Text) : Text :=
  c.baseUrl ++ "/works?query=".toList ++ Percent.encode words ++ "&rows=".toList
    ++ Text.ofNat c.rows

/-- The works in a catalogue's answer, at most as many as were asked for. -/
def worksIn (c : Catalogue) (body : Text) : Except LookupError (List Work) :=
  match Json.read? body with
  | none => .error .malformedJson
  | some v =>
    match ((v.member "message").member "items").array? with
    | none => .error .missingItems
    -- Items that describe no work are passed over before the limit counts.
    | some items => .ok ((items.filterMap fun item => (Work.ofJson item).toOption).take c.rows)

def search (c : Catalogue) (net : Transport) (query : Text) (sent : List Request) :
    Except LookupError (List Work) × List Request :=
  let words := Text.trim query
  if words.isEmpty then (.error .emptyQuery, sent)
  else
    match c.client.fetch net none (c.searchAddress words) sent with
    | (.error e, sent) => (.error (.fetch e), sent)
    | (.ok body, sent) => (c.worksIn body, sent)

end Catalogue

end CiteIndex
