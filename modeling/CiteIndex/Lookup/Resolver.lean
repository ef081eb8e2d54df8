import CiteIndex.Lookup.Error

/-!
# Resolving DOIs to records

A resolver leads from a DOI to the place where its work is registered, which answers with a
bibliography record if asked for one.

- `Resolver.fetchRecord`: the record of a DOI
-/

namespace CiteIndex

structure Resolver where
  client : Client
  url : Text
  deriving DecidableEq, Repr

namespace Resolver

def recordType : Text := "application/x-bibtex".toList

/-- The record that an answer for a DOI holds: its text, trimmed, if that begins with an at
sign. -/
def recordIn (doi : Doi) (body : Text) : Except LookupError Text :=
  match Text.trim body with
  | '@' :: rest => .ok ('@' :: rest)
  | _ => .error (.notARecord doi.normalized)

def fetchRecord (r : Resolver) (net : Transport) (doi : Doi) (sent : List Request) :
    Except LookupError Text × List Request :=
  match r.client.fetch net (some recordType) (doi.addressOn r.url) sent with
  | (.error e, sent) => (.error (.fetch e), sent)
  | (.ok body, sent) => (recordIn doi body, sent)

end Resolver

end CiteIndex
