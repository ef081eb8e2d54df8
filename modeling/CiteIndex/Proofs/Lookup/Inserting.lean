import CiteIndex.Lookup.Service
import CiteIndex.Proofs.Bibliography.Stores
import CiteIndex.Proofs.Http.Redirects

/-!
# What an insert does

An insert ends in one of a few ways, and each says what became of the files and which requests were
sent. Nothing is asked for if the DOI is no DOI, if the file cannot be read or if it mentions the
DOI, and no file changes unless the record was appended.

- `Lookup.insert_asksFor`: an insert that asks for the record
- `Lookup.insert_all_or_nothing`: all ways in which an insert can end
-/

namespace CiteIndex

open Bibliography

namespace Bibliography.Store

variable {files : FileTree} {target : Path} {record : Text} {doi : Doi}

/-- Behind white space a record stands alone. -/
theorem append_of_blank {old : Text} (h : ∀ c ∈ old, Text.isBlank c) (record : Text) :
    append old record = Layout.format record := by
  have hblank : (Text.trim old).isEmpty := List.isEmpty_iff.2 (Text.trim_eq_nil_iff.2 h)
  rw [append, if_pos hblank]

/-- Other contents are brought to the end of a line, and an empty line separates the record. -/
theorem append_of_ink {old : Text} (h : ¬∀ c ∈ old, Text.isBlank c) (record : Text) :
    append old record =
      old ++ (if old.getLast? = some '\n' then [] else ['\n']) ++ '\n' :: Layout.format record := by
  rw [append_of_not_blank h, separator]
  by_cases hfeed : old.getLast? = some '\n' <;> simp [hfeed]

theorem read_of_unreadable {e : FileError} (h : files.readText target = .error e)
    (hfound : e ≠ .notFound) : read files target = .error e := by
  cases e with
  | notFound => exact absurd rfl hfound
  | _ => rw [read, h]

/-- What is read is the file, or nothing where there is no file. -/
theorem read_eq_ok_iff {old : Text} :
    read files target = .ok old ↔
      files.readText target = .ok old ∨ files.readText target = .error .notFound ∧ old = [] := by
  by_cases hmissing : files.readText target = .error .notFound
  · simp [read, hmissing, eq_comm]
  · cases hread : files.readText target with
    | ok text => simp [read, hread]
    | error e =>
        have hfound : e ≠ .notFound := fun he => hmissing (hread.trans (congrArg _ he))
        simp [read_of_unreadable hread hfound, hfound]

end Bibliography.Store

namespace Resolver

/-- What a resolver answers is a record if it begins with an at sign. -/
theorem recordIn_of_at {body : Text} (doi : Doi) (h : (Text.trim body).head? = some '@') :
    recordIn doi body = .ok (Text.trim body) := by
  rw [recordIn]
  split
  · rename_i rest htrim
    rw [htrim]
  · rename_i hnone
    rcases List.head?_eq_some_iff.1 h with ⟨rest, htrim⟩
    exact absurd htrim (hnone rest)

/-- Anything else is an error. -/
theorem recordIn_of_not_at {body : Text} (doi : Doi) (h : (Text.trim body).head? ≠ some '@') :
    recordIn doi body = .error (.notARecord doi.normalized) := by
  rw [recordIn]
  split
  · rename_i rest htrim
    exact absurd (by rw [htrim]; rfl) h
  · rfl

variable {r : Resolver} {net : Transport} {doi : Doi} {sent sent' : List Request}

theorem fetchRecord_of_unanswered {e : FetchError}
    (h : r.client.fetch net (some recordType) (doi.addressOn r.url) sent = (.error e, sent')) :
    r.fetchRecord net doi sent = (.error (.fetch e), sent') := by
  rw [fetchRecord, h]

theorem fetchRecord_of_answered {body : Text}
    (h : r.client.fetch net (some recordType) (doi.addressOn r.url) sent = (.ok body, sent')) :
    r.fetchRecord net doi sent = (recordIn doi body, sent') := by
  rw [fetchRecord, h]

end Resolver

namespace Lookup

variable {l : Lookup} {net : Transport} {files : FileTree} {typed : Text} {target : Path}
  {sent sent' : List Request} {doi : Doi} {old : Text}

/-- An insert into a file that mentions the DOI does nothing. -/
theorem insert_of_present (hdoi : Doi.parse typed = .ok doi)
    (hread : Store.read files target = .ok old) (hpresent : doi.occursIn old) :
    l.insert net files typed target sent = ⟨.ok (.alreadyPresent target), files, sent⟩ := by
  simp [insert, precheck, hdoi, hread, hpresent]

/-- A DOI that the file does not mention is one to ask for. -/
theorem precheck_of_absent (hdoi : Doi.parse typed = .ok doi)
    (hread : Store.read files target = .ok old) (habsent : doi.occursIn old = false) :
    precheck files typed target = .ok (.needsRecord doi) := by
  simp [precheck, hdoi, hread, habsent]

/-- An insert that gets no record changes nothing. -/
theorem insert_of_no_record {e : LookupError} (hdoi : Doi.parse typed = .ok doi)
    (hread : Store.read files target = .ok old) (habsent : doi.occursIn old = false)
    (hfetch : l.resolver.fetchRecord net doi sent = (.error e, sent')) :
    l.insert net files typed target sent = ⟨.error e, files, sent'⟩ := by
  rw [insert, precheck_of_absent hdoi hread habsent]
  simp only [hfetch]

/-- An insert that gets a record appends it by replacing the file. -/
theorem insert_of_record {record : Text} (hdoi : Doi.parse typed = .ok doi)
    (hread : Store.read files target = .ok old) (habsent : doi.occursIn old = false)
    (hfetch : l.resolver.fetchRecord net doi sent = (.ok record, sent')) :
    l.insert net files typed target sent =
      match files.replaceFile target (FileTree.bytesOf (Store.append old record)) with
      | (.error e, files) => ⟨.error (.file e), files, sent'⟩
      | (.ok (), files) => ⟨.ok (.inserted target (Layout.recordKey? record)), files, sent'⟩ := by
  rw [insert, precheck_of_absent hdoi hread habsent]
  simp only [hfetch, finish, Store.insert, hread, habsent, Bool.false_eq_true, if_false]
  rcases files.replaceFile target (FileTree.bytesOf (Store.append old record)) with ⟨e | _, files'⟩
    <;> rfl

/-- What an insert does that asks for the record of a DOI, given the answer to that. All that it can
change is one file, whose contents were `old`. -/
structure AsksFor (files : FileTree) (target : Path) (doi : Doi) (old : Text)
    (answer : Except FetchError Text × List Request) (run : InsertRun) : Prop where
  sent : run.sent = answer.2
  unanswered : ∀ e, answer.1 = .error e → run.result = .error (.fetch e) ∧ run.files = files
  noRecord : ∀ body, answer.1 = .ok body → (Text.trim body).head? ≠ some '@' →
    run.result = .error (.notARecord doi.normalized) ∧ run.files = files
  unwritten : ∀ body, answer.1 = .ok body → (Text.trim body).head? = some '@' → ∀ e,
    (files.replaceFile target (FileTree.bytesOf (Store.append old (Text.trim body)))).1 = .error e →
    run.result = .error (.file e) ∧ run.files = files
  noDirectory : ∀ body, answer.1 = .ok body → (Text.trim body).head? = some '@' →
    files.IsLost target →
    (∀ dir, files.resolve true target.directory ≠ .ok (.found dir .directory)) →
    ∃ e, run.result = .error (.file e) ∧ run.files = files
  written : ∀ body, answer.1 = .ok body → (Text.trim body).head? = some '@' →
    (files.replaceFile target (FileTree.bytesOf (Store.append old (Text.trim body)))).1 = .ok () →
    run.result = .ok (.inserted target (Layout.recordKey? (Text.trim body))) ∧
      ∃ place, files.Rewrites run.files target (Store.append old (Text.trim body)) place

/-- An insert into a file that does not mention the DOI asks for the record. -/
theorem insert_asksFor (hdoi : Doi.parse typed = .ok doi)
    (hread : Store.read files target = .ok old) (habsent : doi.occursIn old = false)
    (htarget : ¬files.Dangles target) :
    AsksFor files target doi old
      (l.resolver.client.fetch net (some Resolver.recordType) (doi.addressOn l.resolver.url) sent)
      (l.insert net files typed target sent) := by
  rcases hanswer : l.resolver.client.fetch net (some Resolver.recordType)
    (doi.addressOn l.resolver.url) sent with ⟨e | body, sent'⟩
  · rw [insert_of_no_record hdoi hread habsent (Resolver.fetchRecord_of_unanswered hanswer)]
    constructor <;> simp
  have hfetch := Resolver.fetchRecord_of_answered hanswer
  by_cases hat : (Text.trim body).head? = some '@'
  · have hrecord : l.resolver.fetchRecord net doi sent = (.ok (Text.trim body), sent') := by
      simp only [hfetch, Resolver.recordIn_of_at doi hat]
    rw [insert_of_record hdoi hread habsent hrecord]
    rcases hwrite : files.replaceFile target
      (FileTree.bytesOf (Store.append old (Text.trim body))) with ⟨e | _, files'⟩
    -- A file that could not be replaced is as it was.
    · have hsame : files' = files := FileTree.replaceFile_error hwrite
      constructor <;> simp [hat, hwrite, hsame]
    · have hrewrites := FileTree.rewrites_of_replaceFile htarget hwrite
      constructor
      case noDirectory =>
        rintro body' ⟨⟩ - hlost hdirectory
        rcases hlost.replaceFile_of_no_directory hdirectory
          (FileTree.bytesOf (Store.append old (Text.trim body))) with ⟨e, hfail⟩
        cases hfail.symm.trans hwrite
      all_goals simp [hat, hwrite, hrewrites]
  · have hnone : l.resolver.fetchRecord net doi sent =
        (.error (.notARecord doi.normalized), sent') := by
      simp only [hfetch, Resolver.recordIn_of_not_at doi hat]
    rw [insert_of_no_record hdoi hread habsent hnone]
    constructor <;> simp [hat]

/-! ## A server with one answer -/

/-- The server that answers every request with a text. -/
def answering (body : Text) : Transport :=
  .ofTable [] (.answered ⟨200, [], some (FileTree.bytesOf body)⟩)

def atServer : Lookup :=
  let client : Client := ⟨"agent".toList, 1⟩
  ⟨Catalogue.make client "http://a".toList 15, ⟨client, "http://a".toList⟩⟩

/-- Whoever asks that server gets the text with one request. -/
theorem fetch_answering {address body : Text} {url : Url} (hurl : Url.parse address = .ok url)
    (hscheme : url.scheme ∈ Transport.schemes)
    (hbody : Utf8.decodeLossy (FileTree.bytesOf body) = body) (client : Client)
    (accept : Option Text) (before : List Request) :
    ∃ request, client.fetch (answering body) accept address before =
      (.ok body, before ++ [request]) := by
  have htext : (answering body).bodyText? ⟨200, [], some (FileTree.bytesOf body)⟩ = some body :=
    congrArg some hbody
  exact ⟨_, Client.fetchWith_of_success hurl (if_pos (List.contains_iff_mem.2 hscheme)) rfl htext⟩

theorem fetch_atServer {body : Text} (hbody : Utf8.decodeLossy (FileTree.bytesOf body) = body)
    (before : List Request) :
    ∃ request, atServer.resolver.client.fetch (answering body) (some Resolver.recordType)
      (Store.bookDoi.addressOn atServer.resolver.url) before = (.ok body, before ++ [request]) := by
  have hurl : Url.parse (Store.bookDoi.addressOn atServer.resolver.url) =
      .ok ⟨"http".toList, [], some "a".toList, none, .segments ["10.1".toList, "x".toList], none,
        none⟩ := rfl
  exact fetch_answering hurl (by decide) hbody _ _ before

/-! ## All inserts -/

/-- An insert appends the record to one file, or it changes nothing; and it sends nothing unless the
record is needed. -/
theorem insert_all_or_nothing (l : Lookup) (net : Transport) (files : FileTree) (typed : Text)
    (target : Path) (sent : List Request) (htarget : ¬files.Dangles target) :
    let run := l.insert net files typed target sent
    (∀ e, Doi.parse typed = .error e → run = ⟨.error (.doi e), files, sent⟩) ∧
    ∀ doi, Doi.parse typed = .ok doi →
      (∀ e, files.readText target = .error e → e ≠ .notFound →
        run = ⟨.error (.file e), files, sent⟩) ∧
      ∀ old, (files.readText target = .ok old ∨
          files.readText target = .error .notFound ∧ old = []) →
        (doi.occursIn old → run = ⟨.ok (.alreadyPresent target), files, sent⟩) ∧
        (doi.occursIn old = false →
          AsksFor files target doi old
            (l.resolver.client.fetch net (some Resolver.recordType)
              (doi.addressOn l.resolver.url) sent) run) ∧
        ∀ record,
          ((∀ c ∈ old, Text.isBlank c) → Store.append old record = Layout.format record) ∧
          (¬(∀ c ∈ old, Text.isBlank c) →
            Store.append old record =
              old ++ (if old.getLast? = some '\n' then [] else ['\n']) ++
                '\n' :: Layout.format record) := by
  intro run
  refine ⟨?_, fun doi hdoi => ⟨?_, fun old hold => ?_⟩⟩
  · intro e he
    simp [run, insert, precheck, he]
  · intro e he hfound
    simp [run, insert, precheck, hdoi, Store.read_of_unreadable he hfound]
  -- From here on the target was read, if only as an empty one.
  have hread : Store.read files target = .ok old := Store.read_eq_ok_iff.2 hold
  refine ⟨?_, ?_, fun record => ⟨?_, ?_⟩⟩
  · exact insert_of_present hdoi hread
  · exact fun habsent => insert_asksFor hdoi hread habsent htarget
  · exact fun hblank => Store.append_of_blank hblank record
  · exact fun hink => Store.append_of_ink hink record

/-- A record that the server knows is appended to an empty store. -/
theorem insert_book :
    ¬(Store.refsTree []).Dangles Store.refs ∧
      (atServer.insert (answering Store.book) (Store.refsTree []) "10.1/x".toList Store.refs
        []).result = .ok (.inserted Store.refs (some "k".toList)) := by
  have htarget : ¬(Store.refsTree []).Dangles Store.refs := fun h =>
    absurd (rfl : (Store.refsTree []).resolve true Store.refs =
      .ok (.found [Store.refs.text] (.file (FileTree.bytesOf [])))) h.1.not_found
  have hdecode : Utf8.decodeLossy (FileTree.bytesOf Store.book) = Store.book := by decide +kernel
  rcases fetch_atServer hdecode [] with ⟨request, hfetch⟩
  have hall := insert_all_or_nothing atServer (answering Store.book) (Store.refsTree [])
    "10.1/x".toList Store.refs [] htarget
  have hasks := ((hall.2 Store.bookDoi rfl).2 []
    (Store.read_eq_ok_iff.1 (Store.read_refsTree []))).2.1 rfl
  rw [hfetch] at hasks
  have hkey : Layout.recordKey? (Text.trim Store.book) = some "k".toList := by decide +kernel
  have hwritten := (hasks.written Store.book rfl (by decide +kernel) rfl).1
  rw [hkey] at hwritten
  exact ⟨htarget, hwritten⟩

end Lookup

end CiteIndex
