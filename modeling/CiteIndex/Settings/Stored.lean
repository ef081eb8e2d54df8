import CiteIndex.File.Access
import CiteIndex.Settings.Basic
import CiteIndex.Toml.Printer
import CiteIndex.Toml.Reader

/-!
# Stored settings

Settings are stored as a TOML file with one section for each group. Whatever is missing in the
file has its default, and names that mean nothing are passed over.

- `Settings.ofToml?`, `Settings.toToml?`: the written form
- `Settings.load`, `Settings.save`: the file
- `Settings.path`: where the file is
-/

namespace CiteIndex

namespace Settings

inductive StorageError where
  | file (e : FileError)
  /-- The file is no TOML, or a setting has a value of the wrong sort. -/
  | malformed
  /-- A number is too large to be written. -/
  | unwritable
  deriving DecidableEq, Repr

/-! ## Reading -/

inductive Section where
  | named (members : List (Text × Toml))
  | positional (items : List Toml)

/-- The group that a value states. -/
def Section.of? : Toml → Option Section
  | .table members => some (.named members)
  | .array items => some (.positional items)
  -- A moment states none of the settings.
  | .moment _ => some (.named [])
  | _ => none

def Section.get? (s : Section) (name : String) (position : Nat) : Option Toml :=
  match s with
  | .named members => Toml.member? members name.toList
  | .positional items => items[position]?

def text? (v : Option Toml) (default : Text) : Option Text :=
  match v with
  | none => some default
  | some (.string t) => some t
  | some _ => none

def number? (v : Option Toml) (limit default : Nat) : Option Nat :=
  match v with
  | none => some default
  | some (.integer (.ofNat n)) => if n ≤ limit then some n else none
  | some _ => none

def maxStored : Nat := 9223372036854775807

def catalogueOf? (s : Section) : Option CatalogueSettings := do
  let defaults : CatalogueSettings := {}
  let baseUrl ← text? (s.get? "base_url" 0) defaults.baseUrl
  let rows ← number? (s.get? "rows" 1) 4294967295 defaults.rows
  let email ←
    match s.get? "polite_email" 2 with
    | none => some none
    | some (.string t) => some (some t)
    | some _ => none
  return ⟨baseUrl, rows, email⟩

def resolverOf? (s : Section) : Option ResolverSettings := do
  let defaults : ResolverSettings := {}
  let url ← text? (s.get? "resolver_url" 0) defaults.url
  let maxRedirects ← number? (s.get? "max_redirects" 1) maxStored defaults.maxRedirects
  return ⟨url, maxRedirects⟩

def requestsOf? (s : Section) : Option RequestSettings := do
  let defaults : RequestSettings := {}
  let timeout ← number? (s.get? "timeout_secs" 0) maxStored defaults.timeoutSeconds
  let agent ← text? (s.get? "user_agent" 1) defaults.userAgent
  return ⟨timeout, agent⟩

/-- The settings of one group in a document, or their defaults. -/
def group? (document : List (Text × Toml)) (name : String) (read? : Section → Option α)
    (default : α) : Option α :=
  match Toml.member? document name.toList with
  | none => some default
  | some v => (Section.of? v).bind read?

def ofToml? (t : Text) : Option Settings := do
  let document ← Toml.read? t
  let catalogue ← group? document "crossref" catalogueOf? {}
  let resolver ← group? document "doi" resolverOf? {}
  let requests ← group? document "http" requestsOf? {}
  return ⟨catalogue, resolver, requests⟩

/-! ## Writing -/

def line (name : String) (value : Text) : Text :=
  name.toList ++ " = ".toList ++ value ++ ['\n']

/-- The document that states all settings, if its numbers can be written. -/
def toToml? (s : Settings) : Option Text :=
  if s.resolver.maxRedirects ≤ maxStored ∧ s.requests.timeoutSeconds ≤ maxStored then
    some <|
      "[crossref]\n".toList
      ++ line "base_url" (Toml.quoted s.catalogue.baseUrl)
      ++ line "rows" (Text.ofNat s.catalogue.rows)
      ++ ((s.catalogue.politeEmail.map fun e => line "polite_email" (Toml.quoted e)).getD [])
      ++ "\n[doi]\n".toList
      ++ line "resolver_url" (Toml.quoted s.resolver.url)
      ++ line "max_redirects" (Text.ofNat s.resolver.maxRedirects)
      ++ "\n[http]\n".toList
      ++ line "timeout_secs" (Text.ofNat s.requests.timeoutSeconds)
      ++ line "user_agent" (Toml.quoted s.requests.userAgent)
  else none

/-! ## The file -/

/-- The settings stored at a path; the defaults if nothing is there. -/
def load (files : FileTree) (p : Path) : Except StorageError Settings :=
  if files.pathExists p then
    match files.readText p with
    | .error e => .error (.file e)
    | .ok t =>
      match ofToml? t with
      | some s => .ok s
      | none => .error .malformed
  else .ok {}

/-- Stores settings at a path. -/
def save (s : Settings) (files : FileTree) (p : Path) : Except StorageError Unit × FileTree :=
  -- The directories above the path stay even if storing fails.
  let made :=
    match p.parent? with
    | some above => files.createDirectories above
    | none => (.ok (), files)
  match made with
  | (.error e, files) => (.error (.file e), files)
  | (.ok (), files) =>
    match s.toToml? with
    | none => (.error .unwritable, files)
    | some t =>
      match files.writeFile p (FileTree.bytesOf t) with
      | .ok files => (.ok (), files)
      | .error e => (.error (.file e), files)

structure Environment where
  /-- The path itself. -/
  settingsFile : Option Path
  /-- The directory of all settings, if it is an absolute path. -/
  settingsHome : Option Path
  home : Path

def path (env : Environment) : Path :=
  match env.settingsFile with
  | some p => p
  | none =>
    let base :=
      match env.settingsHome with
      | some p => if p.isAbsolute then p else env.home.join (Path.of ".config")
      | none => env.home.join (Path.of ".config")
    (base.join (Path.of "novaref")).join (Path.of "config.toml")

end Settings

end CiteIndex
