import CiteIndex.Url.Host

/-!
# URLs

A URL in its parts, each already in normal form, and its written form.

- `Url`: the parts
- `Url.text`, `Url.requestText`: the written form, with and without the fragment
-/

namespace CiteIndex

inductive UrlPath where
  /-- Segments, each behind a slash. -/
  | segments (list : List Text)
  /-- A text without hierarchy. -/
  | rootless (text : Text)
  deriving DecidableEq, Repr

structure Url where
  scheme : Text
  /-- Name and password with their at sign, empty without them. -/
  userInfo : Text
  /-- Nothing for URLs without an authority. -/
  host : Option Text
  /-- Nothing for the default port of the scheme. -/
  port : Option Nat
  path : UrlPath
  query : Option Text
  fragment : Option Text
  deriving DecidableEq, Repr

namespace Url

/-! ## Schemes -/

def defaultPort? (scheme : Text) : Option Nat :=
  if scheme == "http".toList || scheme == "ws".toList then some 80
  else if scheme == "https".toList || scheme == "wss".toList then some 443
  else if scheme == "ftp".toList then some 21
  else none

def hasDomain (scheme : Text) : Bool :=
  (defaultPort? scheme).isSome

def fileScheme : Text := "file".toList

/-- Schemes under which a backslash counts as a slash and a path is never empty. -/
def isSpecial (scheme : Text) : Bool :=
  hasDomain scheme || scheme == fileScheme

/-! ## Written form -/

/-- A part with its mark in front, nothing if there is no such part. -/
def marked (mark : Char) : Option Text → Text
  | none => []
  | some t => mark :: t

def authorityText (u : Url) : Text :=
  match u.host with
  | none => []
  | some host => '/' :: '/' :: u.userInfo ++ host ++ marked ':' (u.port.map Text.ofNat)

/-- The path as it is written. -/
def pathText (u : Url) : Text :=
  match u.path with
  | .rootless t => t
  | .segments list =>
    let written := list.flatMap ('/' :: ·)
    -- Two slashes in front would be read as those of a host.
    if u.host.isNone && Text.startsWith written ['/', '/'] then '/' :: '.' :: written else written

def requestText (u : Url) : Text :=
  u.scheme ++ ':' :: u.authorityText ++ u.pathText ++ marked '?' u.query

def text (u : Url) : Text :=
  u.requestText ++ marked '#' u.fragment

end Url

end CiteIndex
