import CiteIndex.Bibliography.Target
import CiteIndex.Candidate.Completion
import CiteIndex.Json.Printer
import CiteIndex.Lookup.Service
import CiteIndex.Settings.Stored

/-!
# Values as JSON

How reports show the values of this library to editors and scripts.
-/

namespace CiteIndex

open Bibliography

def Label.view (l : Label) : Json :=
  .ofMembers [("name", .string l.name), ("line", .ofNat l.line), ("type", .string l.kind.name)]

def Bibliography.Entry.view (e : Entry) : Json :=
  .ofMembers [
    ("key", .string e.key),
    ("type", .string e.kind),
    ("title", .ofText? e.title),
    ("author", .ofText? e.author),
    ("authors", .ofTexts e.authors),
    ("year", .ofText? e.year),
    ("journal", .ofText? e.journal),
    ("booktitle", .ofText? e.booktitle),
    ("source_file", .string e.source.text)]

def SortKey.view : SortKey → Json
  | .label kind name =>
    .ofMembers [("group", .string "label".toList), ("label_type", .string kind),
      ("name", .string name)]
  | .bibliography key =>
    .ofMembers [("group", .string "bibliography".toList), ("key", .string key)]

def CandidateSource.view : CandidateSource → Json
  | .label l => .ofMembers [("kind", .string "label".toList), ("item", l.view)]
  | .entry e => .ofMembers [("kind", .string "bibliography".toList), ("item", e.view)]

def Candidate.view (c : Candidate) : Json :=
  .ofMembers [
    ("label", .string c.label),
    ("detail", .string c.detail),
    ("documentation", .string c.documentation),
    ("insert_text", .string c.insertText),
    ("icon", .string c.icon.name),
    ("sort_key", c.sortKey.view),
    ("sort_text", .string c.sortText),
    ("source", c.source.view)]

def Path.view (p : Path) : Json :=
  .string p.text

def Bibliography.Target.view : Target → Json
  | .create path => .ofMembers [("kind", .string "create".toList), ("path", path.view)]
  | .existing path => .ofMembers [("kind", .string "existing".toList), ("path", path.view)]
  | .choose candidates =>
    .ofMembers [("kind", .string "choose".toList),
      ("candidates", .array (candidates.map Path.view))]

def Bibliography.InsertOutcome.view : InsertOutcome → Json
  | .inserted path key =>
    .ofMembers [("status", .string "inserted".toList), ("path", path.view), ("key", .ofText? key)]
  | .alreadyPresent path =>
    .ofMembers [("status", .string "already_present".toList), ("path", path.view)]

def Author.view (a : Author) : Json :=
  .ofMembers [("given", .ofText? a.given), ("family", .ofText? a.family)]

def Work.view (w : Work) : Json :=
  .ofMembers [
    ("doi", .string w.doi),
    ("title", .ofTexts w.titles),
    ("authors", .array (w.authors.map Author.view)),
    ("container_title", .ofTexts w.containerTitles),
    ("published_year", (w.year.map Json.integer).getD .null),
    ("work_type", .string w.kind),
    ("publisher", .ofText? w.publisher)]

def Settings.view (s : Settings) : Json :=
  -- An address that is not set is left out.
  let email := s.catalogue.politeEmail.map fun e => ("polite_email", Json.string e)
  .ofMembers [
    ("crossref", .ofMembers ([("base_url", .string s.catalogue.baseUrl),
      ("rows", .ofNat s.catalogue.rows)] ++ email.toList)),
    ("doi", .ofMembers [("resolver_url", .string s.resolver.url),
      ("max_redirects", .ofNat s.resolver.maxRedirects)]),
    ("http", .ofMembers [("timeout_secs", .ofNat s.requests.timeoutSeconds),
      ("user_agent", .string s.requests.userAgent)])]

end CiteIndex
