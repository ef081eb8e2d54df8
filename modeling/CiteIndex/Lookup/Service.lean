import CiteIndex.Bibliography.Store
import CiteIndex.Lookup.Catalogue
import CiteIndex.Lookup.Resolver

/-!
# Lookups on behalf of the user

Searching, fetching and inserting with the user's settings. An insert looks into its target
first, fetches only if the target does not mention the DOI, and looks again before it writes,
because the target may have changed in the meantime.

- `Lookup.ofSettings?`: what lookups are made with
- `Lookup.search`, `Lookup.fetchRecord`, `Lookup.insert`: the lookups
-/

namespace CiteIndex

open Bibliography

structure Lookup where
  catalogue : Catalogue
  resolver : Resolver
  deriving DecidableEq, Repr

namespace Lookup

def ofSettings? (s : Settings) : Option Lookup :=
  (Client.make? s.userAgent s.resolver.maxRedirects).map fun client =>
    ⟨Catalogue.make client s.catalogue.baseUrl s.catalogue.effectiveRows, ⟨client, s.resolver.url⟩⟩

def search (l : Lookup) (net : Transport) (query : Text) (sent : List Request) :
    Except LookupError (List Work) × List Request :=
  l.catalogue.search net query sent

def fetchRecord (l : Lookup) (net : Transport) (typed : Text) (sent : List Request) :
    Except LookupError (Doi × Text) × List Request :=
  match Doi.parse typed with
  | .error e => (.error (.doi e), sent)
  | .ok doi =>
    match l.resolver.fetchRecord net doi sent with
    | (.error e, sent) => (.error e, sent)
    | (.ok record, sent) => (.ok (doi, record), sent)

inductive Precheck where
  | done (outcome : InsertOutcome)
  | needsRecord (doi : Doi)

/-- The first step of an insert: reads the DOI and looks into the target. -/
def precheck (files : FileTree) (typed : Text) (target : Path) : Except LookupError Precheck :=
  match Doi.parse typed with
  | .error e => .error (.doi e)
  | .ok doi =>
    match Store.read files target with
    | .error e => .error (.file e)
    | .ok contents =>
      if doi.occursIn contents then .ok (.done (.alreadyPresent target))
      else .ok (.needsRecord doi)

/-- The last step of an insert: appends the record that was fetched. -/
def finish (files : FileTree) (doi : Doi) (record : Text) (target : Path) :
    Except LookupError InsertOutcome × FileTree :=
  match Store.insert files target record doi with
  | (.ok outcome, files) => (.ok outcome, files)
  | (.error e, files) => (.error (.file e), files)

structure InsertRun where
  result : Except LookupError InsertOutcome
  files : FileTree
  sent : List Request

/-- Appends the record of a DOI to a file, unless the file mentions the DOI. -/
def insert (l : Lookup) (net : Transport) (files : FileTree) (typed : Text) (target : Path)
    (sent : List Request) : InsertRun :=
  match precheck files typed target with
  | .error e => ⟨.error e, files, sent⟩
  | .ok (.done outcome) => ⟨.ok outcome, files, sent⟩
  | .ok (.needsRecord doi) =>
    match l.resolver.fetchRecord net doi sent with
    | (.error e, sent) => ⟨.error e, files, sent⟩
    | (.ok record, sent) =>
      let written := finish files doi record target
      ⟨written.1, written.2, sent⟩

end Lookup

end CiteIndex
