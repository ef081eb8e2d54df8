import CiteIndex.Bibliography.Entry
import CiteIndex.Candidate.SortKey
import CiteIndex.Label.Occurrence

/-!
# Candidates

A candidate is one line of a completion list: what is inserted, what is shown beside it, and what
it was made from, a label or a bibliography entry.

- `Candidate.ofLabel`, `Candidate.ofEntry`: how candidates are made
- `Candidate.sortByKey`, `Candidate.sortByText`: stable sorts
-/

namespace CiteIndex

open Bibliography

inductive CandidateSource where
  | label (label : Label)
  | entry (entry : Entry)
  deriving DecidableEq, Repr

structure Candidate where
  label : Text
  detail : Text
  /-- Longer description, with asterisks and backticks for emphasis. -/
  documentation : Text
  insertText : Text
  icon : Icon
  sortKey : SortKey
  source : CandidateSource
  deriving DecidableEq, Repr

namespace Candidate

def sortText (c : Candidate) : Text :=
  c.sortKey.text

/-! ## From labels -/

/-- The name of a label between angle brackets and backticks. -/
def quotedName (name : Text) : Text :=
  '\x60' :: '<' :: name ++ ['>', '\x60']

def paragraphBreak : Text := ['\n', '\n']

def ofLabel (l : Label) : Candidate :=
  { label := l.name
    detail := l.kind.description ++ " (line ".toList ++ Text.ofNat (l.line + 1) ++ [')']
    documentation :=
      match l.kind.descriptor? with
      | some d => d.detail ++ paragraphBreak ++ quotedName l.name
      | none => quotedName l.name
    insertText := l.name
    icon := l.kind.icon
    sortKey := .label l.kind.name l.name
    source := .label l }

/-! ## From entries -/

/-- Type, the first two authors and the year, as far as there are any. -/
def entryDetail (e : Entry) : Text :=
  let kind := '[' :: e.kind ++ [']']
  let authors :=
    if e.authors.isEmpty then []
    else ' ' :: Text.join ", ".toList (e.authors.take 2) ++
      (if e.authors.length > 2 then ", et al.".toList else [])
  let year :=
    match e.year with
    | some y => (if e.authors.isEmpty then [' '] else [',', ' ']) ++ y
    | none => []
  kind ++ authors ++ year

/-- Where an entry appeared: the journal, else the collection, else the year alone. -/
def venue? (e : Entry) : Option Text :=
  let withYear := fun (place : Text) =>
    match e.year with
    | some y => place ++ ' ' :: '(' :: y ++ [')']
    | none => place
  match e.journal, e.booktitle with
  | some journal, _ => some (withYear journal)
  | none, some booktitle => some (withYear ("In: ".toList ++ booktitle))
  | none, none => e.year

/-- The name of the file that an entry stands in, or its whole path if that has no name. -/
def sourceName (e : Entry) : Text :=
  e.source.fileName?.getD e.source.text

/-- Title, authors, venue and source of an entry, one paragraph each. -/
def entryDocumentation (e : Entry) : Text :=
  let title := e.title.map fun t => '*' :: '*' :: t ++ ['*', '*']
  let author := e.author.map fun a => '*' :: a ++ ['*']
  Text.join paragraphBreak
    (title.toList ++ author.toList ++ (venue? e).toList ++ ["Source: ".toList ++ sourceName e])

def ofEntry (e : Entry) : Candidate :=
  { label := e.key
    detail := entryDetail e
    documentation := entryDocumentation e
    insertText := e.key
    icon := .reference
    sortKey := .bibliography e.key
    source := .entry e }

/-! ## Order -/

def sortByKey (cs : List Candidate) : List Candidate :=
  cs.mergeSort fun a b => (a.sortKey.compare b.sortKey).isLE

def sortByText (cs : List Candidate) : List Candidate :=
  cs.mergeSort fun a b => (Text.compare a.sortText b.sortText).isLE

/-- The candidates for the labels of a document, by kind and then by name. -/
def ofDocumentLabels (document : Text) : List Candidate :=
  sortByKey ((Label.extract document).map ofLabel)

end Candidate

end CiteIndex
