import CiteIndex.Command.Arguments
import CiteIndex.Command.Help
import CiteIndex.Command.View

/-!
# Running commands

A command is run on a file tree and a transport, and its result is rendered as text or as JSON.
Commands that write nothing give back the tree as it was.

- `Invocation.run`: what a command does
- `Output.ofResult`: what is printed, and the exit code
-/

namespace CiteIndex

open Bibliography

/-! ## Results -/

structure Answer where
  data : Json
  text : Text

inductive Failure where
  /-- The run was cut short. -/
  | fatal
  /-- The input was rejected. -/
  | rejected (message : Text)
  | network (message : Text)
  | file (message : Text)
  /-- A file would have to be made without leave. -/
  | needsLeave (message : Text)
  /-- There are several files to choose from. -/
  | needsChoice (message : Text)
  deriving DecidableEq, Repr

namespace Failure

def code : Failure → Nat
  | .fatal => 1
  | .rejected _ => 3
  | .network _ => 6
  | .file _ => 1
  | .needsLeave _ => 8
  | .needsChoice _ => 8

/-- The name and the wording of a failure that is reported. -/
def report? : Failure → Option (Text × Text)
  | .fatal => none
  | .rejected m => some ("validation".toList, m)
  | .network m => some ("network".toList, m)
  | .file m => some ("io".toList, m)
  | .needsLeave m => some ("create_required".toList, m)
  | .needsChoice m => some ("choice_required".toList, m)

def ofLookup (e : LookupError) : Failure :=
  if e.isValidation then .rejected e.message
  else if e.isNetwork then .network e.message
  else .file e.message

end Failure

structure Run where
  result : Except Failure Answer
  files : FileTree
  sent : List Request

structure Surroundings where
  files : FileTree
  net : Transport
  environment : Settings.Environment
  /-- Does the environment ask for reports in JSON. -/
  prefersJson : Bool
  /-- Bytes on standard input. -/
  input : ByteArray

/-! ## Texts of results -/

namespace Answer

def ofLines (ls : List Text) : Text :=
  ls.flatMap fun l => l ++ ['\n']

def itemsView (items : List Json) : Json :=
  .ofMembers [("items", .array items), ("total", .ofNat items.length)]

def ofLabels (document : Path) (labels : List Label) : Answer where
  data := itemsView (labels.map Label.view)
  text := ofLines <|
    if labels.isEmpty then ["No labels in ".toList ++ document.text]
    else labels.map fun l =>
      Text.alignRight 5 (Text.ofNat (l.line + 1)) ++ ' ' :: ' ' :: Text.alignLeft 8 l.kind.name
        ++ ' ' :: l.name

def fileLines (path : Path) (entries : List Entry) : List Text :=
  (path.text ++ " (".toList ++ Text.ofNat entries.length ++ " entries)".toList) ::
    entries.map fun e =>
      ' ' :: ' ' :: Text.alignLeft 24 e.key ++ " [".toList ++ e.kind ++ "] ".toList
        ++ e.title.getD []

def ofBibliographies (document : Path) (found : List (Path × List Entry)) : Answer where
  data := itemsView <| found.map fun (path, entries) =>
    .ofMembers [("path", path.view), ("entries", .array (entries.map Entry.view))]
  text := ofLines <|
    if found.isEmpty then ["No bibliography files found for ".toList ++ document.text]
    else found.flatMap fun (path, entries) => fileLines path entries

def ofCandidates (candidates : List Candidate) : Answer where
  data := itemsView (candidates.map Candidate.view)
  text := ofLines <| candidates.map fun c => Text.alignLeft 32 c.label ++ ' ' :: c.detail

def workLines (number : Nat) (w : Work) : List Text :=
  let description := if w.description.isEmpty then [] else ["    ".toList ++ w.description]
  (Text.alignRight 2 (Text.ofNat number) ++ ". ".toList ++ w.displayTitle) :: description
    ++ ["    doi: ".toList ++ w.doi]

def ofWorks (query : Text) (works : List Work) : Answer where
  data := .ofMembers [("items", .array (works.map Work.view)), ("total", .ofNat works.length),
    ("query", .string query)]
  text := ofLines <|
    if works.isEmpty then ["No results for: ".toList ++ query]
    else works.zipIdx.flatMap fun (w, i) => workLines (i + 1) w

def ofRecord (doi : Doi) (record : Text) : Answer where
  data := .ofMembers [("doi", .string doi.normalized),
    ("bibtex", .string (Layout.format record))]
  text := Layout.format record

def ofTarget (t : Target) : Answer where
  data := t.view
  text := ofLines <|
    match t with
    | .existing path => [path.text]
    | .create path => ["No bibliography yet; would create ".toList ++ path.text]
    | .choose candidates =>
      "Several bibliography files; choose one with --bib:".toList ::
        candidates.map fun path => ' ' :: ' ' :: path.text

def ofOutcome (outcome : InsertOutcome) : Answer where
  data := outcome.view
  text := ofLines <|
    match outcome with
    | .inserted path key =>
      ["Added ".toList ++ key.getD "record".toList ++ " to ".toList ++ path.text]
    | .alreadyPresent path => ["Already exists in ".toList ++ path.text]

def ofPath (path : Path) : Answer where
  data := .ofMembers [("path", path.view)]
  text := path.text ++ ['\n']

end Answer

/-! ## Commands -/

namespace Invocation

/-- A result for which any error cuts the run short. -/
def orFatal {ε α : Type} (result : Except ε α) : Except Failure α :=
  result.mapError fun _ => .fatal

def inputText (s : Surroundings) : Except Failure Text :=
  match FileTree.textOf? s.input with
  | some t => .ok t
  | none => .error .fatal

def document (s : Surroundings) (path : Path) : Except Failure Document :=
  orFatal (Document.load s.files path)

def choices (candidates : List Path) : Text :=
  Text.join ", ".toList (candidates.map fun p => p.fileName?.getD p.text)

/-- The file that an insert writes to. -/
def insertTarget (files : FileTree) (d : Document) (file : Option Path) (create : Bool) :
    Except Failure Path :=
  match file with
  | some path =>
    -- Making a file takes the user's word, and so does choosing one of several below.
    if !files.pathExists path && !create then
      .error (.needsLeave (path.text ++ " does not exist; pass --create to create it".toList))
    else .ok path
  | none =>
    match Target.select files d with
    | .error _ => .error .fatal
    | .ok (.existing path) => .ok path
    | .ok (.create path) =>
      if create then .ok path
      else .error (.needsLeave
        ("No .bib file next to the document; pass --create to create ".toList ++ path.text))
    | .ok (.choose candidates) =>
      .error (.needsChoice
        ("Several .bib files found, pick one with --bib: ".toList ++ choices candidates))

def lookup (settings : Settings) : Except Failure Lookup :=
  match Lookup.ofSettings? settings with
  | some l => .ok l
  | none => .error .fatal

/-- A run that writes and sends nothing. -/
def quiet (s : Surroundings) (result : Except Failure Answer) : Run :=
  ⟨result, s.files, []⟩

def runSearch (s : Surroundings) (settings : Settings) (words : List Text) : Run :=
  let query := Text.join [' '] words
  match lookup settings with
  | .error e => quiet s (.error e)
  | .ok l =>
    let (result, sent) := l.search s.net query []
    ⟨(result.mapError Failure.ofLookup).map (Answer.ofWorks query), s.files, sent⟩

def runFetch (s : Surroundings) (settings : Settings) (doi : Text) : Run :=
  match lookup settings with
  | .error e => quiet s (.error e)
  | .ok l =>
    let (result, sent) := l.fetchRecord s.net doi []
    ⟨(result.mapError Failure.ofLookup).map fun (doi, record) => Answer.ofRecord doi record,
      s.files, sent⟩

def runInsert (s : Surroundings) (settings : Settings) (doi : Text) (path : Path)
    (file : Option Path) (create : Bool) : Run :=
  match document s path with
  | .error e => quiet s (.error e)
  | .ok d =>
    match insertTarget s.files d file create with
    | .error e => quiet s (.error e)
    | .ok target =>
      match lookup settings with
      | .error e => quiet s (.error e)
      | .ok l =>
        let done := l.insert s.net s.files doi target []
        ⟨(done.result.mapError Failure.ofLookup).map Answer.ofOutcome, done.files, done.sent⟩

def completion (s : Surroundings) (path : Path) (fromInput : Bool) : Except Failure Answer := do
  let d ← if fromInput then (inputText s).map (Document.withText path) else document s path
  return Answer.ofCandidates (Completion.build s.files d)

def bibliographies (s : Surroundings) (path : Path) : Except Failure Answer := do
  let d ← document s path
  let found := Completion.locate s.files d.text d.baseDir
  return Answer.ofBibliographies path (found.map fun p => (p, Completion.entriesIn s.files p))

def settingsAnswer (settings : Settings) : Except Failure Answer :=
  match settings.toToml? with
  | some t => .ok ⟨settings.view, t⟩
  | none => .error .fatal

def runWith (inv : Invocation) (s : Surroundings) (settings : Settings) : Run :=
  match inv.command with
  | .labels path =>
    quiet s ((document s path).map fun d => Answer.ofLabels path (Label.extract d.text))
  | .bibliographies path => quiet s (bibliographies s path)
  | .complete path fromInput => quiet s (completion s path fromInput)
  | .search words => runSearch s settings words
  | .fetch doi => runFetch s settings doi
  | .target path =>
    quiet s ((document s path).bind fun d =>
      (orFatal (Target.select s.files d)).map Answer.ofTarget)
  | .insert doi path file create => runInsert s settings doi path file create
  | .settings => quiet s (settingsAnswer settings)
  | .settingsPath =>
    quiet s (.ok (Answer.ofPath (inv.settingsFile.getD (Settings.path s.environment))))

def reportsJson (inv : Invocation) (s : Surroundings) : Bool :=
  inv.json || s.prefersJson

/-- The run of a command. -/
def run (inv : Invocation) (s : Surroundings) : Run :=
  -- The settings are read first, whatever the command is.
  match Settings.load s.files (inv.settingsFile.getD (Settings.path s.environment)) with
  | .error _ => quiet s (.error .fatal)
  | .ok settings => inv.runWith s settings

end Invocation

/-! ## Printing -/

structure Output where
  code : Nat
  stdout : Text
  stderr : Text
  deriving DecidableEq, Repr

namespace Output

def json (v : Json) : Text :=
  v.pretty ++ ['\n']

def metaView (milliseconds : Nat) : Json :=
  .ofMembers [("duration_ms", .ofNat milliseconds)]

def ofResult (inJson : Bool) (milliseconds : Nat) : Except Failure Answer → Output
  | .ok answer =>
    if inJson then
      ⟨0, json (.ofMembers [("status", .string "ok".toList), ("data", answer.data),
        ("meta", metaView milliseconds)]), []⟩
    else ⟨0, answer.text, []⟩
  | .error failure =>
    match failure.report? with
    | none => ⟨failure.code, [], "Error\n".toList⟩
    | some (kind, message) =>
      if inJson then
        ⟨failure.code, json (.ofMembers [("status", .string "error".toList),
          ("error", .string kind), ("message", .string message),
          ("meta", metaView milliseconds)]), []⟩
      else ⟨failure.code, [], message ++ ['\n']⟩

def ofStop : Invocation.Stop → Output
  | .wrongUsage => ⟨2, [], Help.on []⟩
  | .help topic => ⟨0, Help.on topic, []⟩
  | .version => ⟨0, "novaref 0.1.0\n".toList, []⟩

end Output

end CiteIndex
