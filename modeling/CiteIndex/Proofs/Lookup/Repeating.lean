import CiteIndex.Proofs.Bibliography.Mentions
import CiteIndex.Proofs.Lookup.Inserting

/-!
# Repeated inserts

An insert that is repeated finds its own record if the record mentions the DOI. Nothing makes it do
so: the record is whatever the resolver answered, and a resolver may answer with one that does not
say which DOI it is for. Then the record is fetched and appended once more.

- `Store.occursIn_append`: mentions in the contents behind an insert
- `Lookup.insert_again`: what the second of two inserts does
- `Lookup.insert_misc_twice`: a record that is appended twice
-/

namespace CiteIndex

open Bibliography

namespace Bibliography.Store

variable {typed : Text} {doi : Doi} {old record : Text}

/-- What the laid out record mentions is mentioned behind the insert. -/
theorem occursIn_append_of_format (h : doi.occursIn (Layout.format record)) (old : Text) :
    doi.occursIn (append old record) := by
  by_cases hblank : ∀ c ∈ old, Text.isBlank c
  · rw [append_of_blank hblank]
    exact h
  · rw [append_of_ink hblank]
    exact Doi.occursIn_append_right h _

/-- A DOI without a line feed is mentioned by the contents or by the laid out record. -/
theorem occursIn_append (hdoi : Doi.parse typed = .ok doi) (hfeed : '\n' ∉ doi.normalized) :
    doi.occursIn (append old record) =
      (doi.occursIn old || doi.occursIn (Layout.format record)) := by
  by_cases hblank : ∀ c ∈ old, Text.isBlank c
  · rw [append_of_blank hblank, Doi.occursIn_gap hdoi hblank, Bool.false_or]
  · rw [append_of_ink hblank, Doi.occursIn_append_break (by decide) hfeed]
    split
    · rw [List.append_nil]
    · rw [Doi.occursIn_append_last hdoi (by decide) hfeed]

end Bibliography.Store

namespace Lookup

variable {l : Lookup} {net : Transport} {files : FileTree} {typed : Text} {target path : Path}
  {sent : List Request} {key : Option Text}

/-- An insert that appended a record had fetched it, and the file reads as extended by it. -/
theorem exists_of_inserted
    (h : (l.insert net files typed target sent).result = .ok (.inserted path key)) :
    ∃ doi old record, Doi.parse typed = .ok doi ∧ Store.read files target = .ok old ∧
      doi.occursIn old = false ∧ (l.resolver.fetchRecord net doi sent).1 = .ok record ∧
      Store.read (l.insert net files typed target sent).files target =
        .ok (Store.append old record) := by
  cases hdoi : Doi.parse typed with
  | error e => simp [insert, precheck, hdoi] at h
  | ok doi =>
      cases hread : Store.read files target with
      | error e => simp [insert, precheck, hdoi, hread] at h
      | ok old =>
          cases hpresent : doi.occursIn old with
          | true => simp [insert_of_present hdoi hread hpresent] at h
          | false =>
              rcases hfetch : l.resolver.fetchRecord net doi sent with ⟨e | record, sent'⟩
              · simp [insert_of_no_record hdoi hread hpresent hfetch] at h
              · refine ⟨doi, old, record, rfl, rfl, hpresent, by rw [hfetch], ?_⟩
                rw [insert_of_record hdoi hread hpresent hfetch] at h ⊢
                rcases hwrite : files.replaceFile target
                  (FileTree.bytesOf (Store.append old record)) with ⟨e | _, files'⟩
                · simp [hwrite] at h
                · exact Store.read_of_readText (FileTree.readText_replaceFile hwrite)

/-- An insert into a file that does not mention the DOI asks for the record, and does not return as
if it had found it. -/
theorem insert_of_absent {doi : Doi} {old : Text} (hdoi : Doi.parse typed = .ok doi)
    (hread : Store.read files target = .ok old) (habsent : doi.occursIn old = false) :
    (l.insert net files typed target sent).sent = (l.resolver.fetchRecord net doi sent).2 ∧
      ∀ path', (l.insert net files typed target sent).result ≠ .ok (.alreadyPresent path') := by
  rcases hfetch : l.resolver.fetchRecord net doi sent with ⟨e | record, sent'⟩
  · simp [insert_of_no_record hdoi hread habsent hfetch]
  · rw [insert_of_record hdoi hread habsent hfetch]
    rcases files.replaceFile target (FileTree.bytesOf (Store.append old record))
      with ⟨e | _, files'⟩ <;> simp

/-! ## Inserts at the server with one answer -/

/-- A record that says which DOI it is for. -/
def named : Text := "@misc{k, doi={10.1/X}}".toList

/-- A record that does not. -/
def misc : Text := "@misc{k, title={T}}".toList

/-- The same, laid out. -/
def miscLaid : Text := "@misc\x7bk,\n  title={T}\n\x7d\n".toList

/-- At the server with one answer an insert into a file that does not mention the DOI appends it. -/
theorem insert_answering {body contents : Text}
    (hbody : Utf8.decodeLossy (FileTree.bytesOf body) = body)
    (hrecord : Resolver.recordIn Store.bookDoi body = .ok body)
    (habsent : Store.bookDoi.occursIn contents = false) (before : List Request) :
    ∃ request, atServer.insert (answering body) (Store.refsTree contents) "10.1/x".toList Store.refs
        before =
      ⟨.ok (.inserted Store.refs (Layout.recordKey? body)),
        Store.refsTree (Store.append contents body), before ++ [request]⟩ := by
  rcases fetch_atServer hbody before with ⟨request, hfetch⟩
  have hfetched : atServer.resolver.fetchRecord (answering body) Store.bookDoi before =
      (.ok body, before ++ [request]) := by
    rw [Resolver.fetchRecord_of_answered hfetch, hrecord]
  have hreplace : (Store.refsTree contents).replaceFile Store.refs
      (FileTree.bytesOf (Store.append contents body)) =
        (.ok (), Store.refsTree (Store.append contents body)) := rfl
  refine ⟨request, ?_⟩
  rw [insert_of_record rfl (Store.read_refsTree contents) habsent hfetched, hreplace]

/-! ## The second of two inserts -/

/-- An insert that is repeated at once finds the DOI if the new contents mention it, and else asks
for the record again. -/
theorem insert_again
    (hinserted : (l.insert net files typed target sent).result = .ok (.inserted path key)) :
    let once := l.insert net files typed target sent
    ∃ doi old record new, Doi.parse typed = .ok doi ∧ Store.read files target = .ok old ∧
      (l.resolver.fetchRecord net doi sent).1 = .ok record ∧
      Store.read once.files target = .ok new ∧ new = Store.append old record ∧
      (doi.occursIn new → ∀ net', l.insert net' once.files typed target once.sent =
        ⟨.ok (.alreadyPresent target), once.files, once.sent⟩) ∧
      (doi.occursIn new = false → ∀ net',
        let again := l.insert net' once.files typed target once.sent
        again.sent = (l.resolver.fetchRecord net' doi once.sent).2 ∧
          ∀ path', again.result ≠ .ok (.alreadyPresent path')) ∧
      (doi.occursIn (Layout.format record) → doi.occursIn new) ∧
      ('\n' ∉ doi.normalized → doi.occursIn new = doi.occursIn (Layout.format record)) ∧
      ((∀ c ∈ doi.normalized, Text.isBlank c = false) → doi.occursIn record →
        1 < (Text.lines (Text.trim record)).length ∨
          (∃ b, Layout.BeginsWith record b []) ∧ (∀ c ∈ [',', '{', '}'], c ∉ doi.normalized) →
        doi.occursIn new) := by
  intro once
  obtain ⟨doi, old, record, hdoi, hread, habsent, hfetch, hnew⟩ := exists_of_inserted hinserted
  refine ⟨doi, old, record, _, hdoi, hread, hfetch, hnew, rfl, ?_, ?_, ?_, ?_, ?_⟩
  · intro hpresent net'
    exact insert_of_present hdoi hnew hpresent
  · intro habsent' net'
    exact insert_of_absent hdoi hnew habsent'
  · exact fun h => Store.occursIn_append_of_format h old
  · intro hfeed
    rw [Store.occursIn_append hdoi hfeed, habsent, Bool.false_or]
  · intro hink hrecord hkept
    refine Store.occursIn_append_of_format ?_ old
    -- Records in several lines keep every mention, those in one line if no separator is in it.
    rcases hkept with hlines | ⟨⟨b, hbegins⟩, hplain⟩
    · rw [Layout.occursIn_format_of_lines hdoi hink hlines]
      exact hrecord
    · rw [Layout.occursIn_format_of_block hdoi hink hbegins (hplain ',' (by simp))
        (hplain '{' (by simp)) (hplain '}' (by simp))]
      exact hrecord

/-- The second insert finds a record that mentions its DOI. -/
theorem insert_named_again :
    let once := atServer.insert (answering named) (Store.refsTree []) "10.1/x".toList Store.refs []
    once.result = .ok (.inserted Store.refs (some "k".toList)) ∧
      atServer.insert (answering named) once.files "10.1/x".toList Store.refs once.sent =
        ⟨.ok (.alreadyPresent Store.refs), once.files, once.sent⟩ := by
  intro once
  have hdecode : Utf8.decodeLossy (FileTree.bytesOf named) = named := by decide +kernel
  have htrim : Text.trim named = named := by decide +kernel
  have hrecord : Resolver.recordIn Store.bookDoi named = .ok named := by
    rw [Resolver.recordIn_of_at _ (by rw [htrim]; rfl), htrim]
  have habsent : Store.bookDoi.occursIn [] = false := rfl
  obtain ⟨request, honce⟩ := insert_answering hdecode hrecord habsent []
  have hkey : Layout.recordKey? named = some "k".toList := by decide +kernel
  have hinserted : once.result = .ok (.inserted Store.refs (some "k".toList)) := by
    rw [show once = _ from honce, hkey]
  obtain ⟨doi, old, record, new, hdoi, -, -, hnew, -, hpresent, -⟩ := insert_again hinserted
  cases (rfl : Doi.parse "10.1/x".toList = .ok Store.bookDoi).symm.trans hdoi
  rw [honce, Store.read_refsTree] at hnew
  cases hnew
  exact ⟨hinserted, hpresent (by decide +kernel) _⟩

/-- A record that does not mention the DOI is appended every time. -/
theorem insert_misc_twice :
    let once := atServer.insert (answering misc) (Store.refsTree []) "10.1/x".toList Store.refs []
    let twice := atServer.insert (answering misc) once.files "10.1/x".toList Store.refs once.sent
    once.result = .ok (.inserted Store.refs (some "k".toList)) ∧
      twice.result = .ok (.inserted Store.refs (some "k".toList)) ∧
      twice.sent.length = once.sent.length + 1 ∧
      Store.read once.files Store.refs = .ok miscLaid ∧
      Store.read twice.files Store.refs = .ok (miscLaid ++ '\n' :: miscLaid) := by
  have hdecode : Utf8.decodeLossy (FileTree.bytesOf misc) = misc := by decide +kernel
  have htrim : Text.trim misc = misc := by decide +kernel
  have hrecord : Resolver.recordIn Store.bookDoi misc = .ok misc := by
    rw [Resolver.recordIn_of_at _ (by rw [htrim]; rfl), htrim]
  have hkey : Layout.recordKey? misc = some "k".toList := by decide +kernel
  have hfirst : Store.append [] misc = miscLaid := by decide +kernel
  have hsecond : Store.append miscLaid misc = miscLaid ++ '\n' :: miscLaid := by decide +kernel
  have habsent : Store.bookDoi.occursIn miscLaid = false := by decide +kernel
  have hempty : Store.bookDoi.occursIn [] = false := rfl
  obtain ⟨request, honce⟩ := insert_answering hdecode hrecord hempty []
  obtain ⟨request', htwice⟩ := insert_answering hdecode hrecord habsent ([] ++ [request])
  rw [hkey, hfirst] at honce
  rw [hkey, hsecond] at htwice
  simp only [honce, htwice, Store.read_refsTree]
  simp

end Lookup

end CiteIndex
