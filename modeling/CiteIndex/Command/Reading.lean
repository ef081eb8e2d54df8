import CiteIndex.Json.Record
import CiteIndex.Command.View

/-!
# Values read from JSON

Labels, bibliography entries and settings as editors and scripts send them: the shapes that
reports show, as long as every member has the right type.

- `Label.ofView?`, `Bibliography.Entry.ofView?`: all members are needed, but for texts that can be
  missing
- `Settings.ofView?`: every member has a default
-/

namespace CiteIndex

open Bibliography

def LabelKind.ofView? : Json → Option LabelKind
  | .string name => ofName? name
  | .object [(name, .null)] => ofName? name
  | _ => none

def Label.ofView? (v : Json) : Option Label :=
  match v.fields? ["name", "line", "type"] with
  | some [name, line, kind] => do
    return ⟨← name.required Json.string?, ← line.required (Json.natUpTo? 18446744073709551615),
      ← kind.required LabelKind.ofView?⟩
  | _ => none

def Bibliography.Entry.ofView? (v : Json) : Option Entry :=
  match v.fields? ["key", "type", "title", "author", "authors", "year", "journal", "booktitle",
    "source_file"] with
  | some [key, kind, title, author, authors, year, journal, booktitle, source] => do
    return {
      key := ← key.required Json.string?
      kind := ← kind.required Json.string?
      title := ← title.optionalText
      author := ← author.optionalText
      authors := ← authors.required Json.texts?
      year := ← year.optionalText
      journal := ← journal.optionalText
      booktitle := ← booktitle.optionalText
      source := ⟨← source.required Json.string?⟩ }
  | _ => none

def CatalogueSettings.ofView? (v : Json) : Option CatalogueSettings :=
  let default : CatalogueSettings := {}
  match v.fields? ["base_url", "rows", "polite_email"] with
  | some [url, rows, email] => do
    return ⟨← url.withDefault Json.string? default.baseUrl,
      ← rows.withDefault (Json.natUpTo? 4294967295) default.rows,
      ← email.withDefault Json.textOrNull? default.politeEmail⟩
  | _ => none

def ResolverSettings.ofView? (v : Json) : Option ResolverSettings :=
  let default : ResolverSettings := {}
  match v.fields? ["resolver_url", "max_redirects"] with
  | some [url, redirects] => do
    return ⟨← url.withDefault Json.string? default.url,
      ← redirects.withDefault (Json.natUpTo? 18446744073709551615) default.maxRedirects⟩
  | _ => none

def RequestSettings.ofView? (v : Json) : Option RequestSettings :=
  let default : RequestSettings := {}
  match v.fields? ["timeout_secs", "user_agent"] with
  | some [seconds, agent] => do
    return ⟨← seconds.withDefault (Json.natUpTo? 18446744073709551615) default.timeoutSeconds,
      ← agent.withDefault Json.string? default.userAgent⟩
  | _ => none

def Settings.ofView? (v : Json) : Option Settings :=
  match v.fields? ["crossref", "doi", "http"] with
  | some [catalogue, resolver, requests] => do
    return ⟨← catalogue.withDefault CatalogueSettings.ofView? {},
      ← resolver.withDefault ResolverSettings.ofView? {},
      ← requests.withDefault RequestSettings.ofView? {}⟩
  | _ => none

end CiteIndex
