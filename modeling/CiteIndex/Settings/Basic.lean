import CiteIndex.Doi

/-!
# Settings

What the user can set: the catalogue that is searched, the resolver of DOIs, and how requests are
made. Every setting has a default.

- `Settings`: all settings
- `Settings.userAgent`, `CatalogueSettings.effectiveRows`: what follows from them
-/

namespace CiteIndex

def maxRows : Nat := 15

structure CatalogueSettings where
  baseUrl : Text := "https://api.crossref.org".toList
  rows : Nat := maxRows
  /-- Address under which the catalogue can reach the user. -/
  politeEmail : Option Text := none
  deriving DecidableEq, Repr

structure ResolverSettings where
  url : Text := Doi.defaultResolver
  maxRedirects : Nat := 10
  deriving DecidableEq, Repr

structure RequestSettings where
  timeoutSeconds : Nat := 20
  userAgent : Text := "novaref/0.1.0".toList
  deriving DecidableEq, Repr

structure Settings where
  catalogue : CatalogueSettings := {}
  resolver : ResolverSettings := {}
  requests : RequestSettings := {}
  deriving DecidableEq, Repr

/-- How many results a search asks for: what is set, but at least one and at most `maxRows`. -/
def clampRows (rows : Nat) : Nat :=
  max 1 (min rows maxRows)

def CatalogueSettings.effectiveRows (s : CatalogueSettings) : Nat :=
  clampRows s.rows

/-- The user agent that requests name, with the user's address behind it if one is set. -/
def Settings.userAgent (s : Settings) : Text :=
  let agent := s.requests.userAgent
  match s.catalogue.politeEmail.map Text.trim with
  | some (c :: cs) => agent ++ " (mailto:".toList ++ (c :: cs) ++ [')']
  | _ => agent

end CiteIndex
