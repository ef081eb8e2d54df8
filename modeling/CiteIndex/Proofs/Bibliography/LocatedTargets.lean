import CiteIndex.Proofs.Bibliography.LinkedStores
import CiteIndex.Proofs.Bibliography.Targets
import CiteIndex.Proofs.Bibliography.WrittenCalls
import CiteIndex.Proofs.Candidate.Ranking

/-!
# From the file of an insert to the candidates

A document that names a bibliography file of its own directory is completed from that file, and from
the records that were inserted into it. Where a record goes is told by the extension of a file, in
any case of letters; what a document names has to end in the extension in lower case. A file whose
extension is written in another way takes records, and no document finds them.

- `Reference.citing`, `Reference.extract_citing`: a document that names one file
- `Target.found`, `Target.mem_found_iff`: the files that count for a directory
- `Completion.ofBibliographies_insert`: the candidates behind an insert
- `Target.locate_found`: which of the files a document finds by their names
- `Target.not_locate_found`: a file that is not found
-/

namespace CiteIndex

open Bibliography

/-! ## Documents that name one file -/

namespace Bibliography.Reference

def Between.empty : Between :=
  ⟨[], by simp, by decide⟩

def citing (name : Literal) : WrittenCall :=
  ⟨.empty, [(name, .empty)]⟩

/-- A call with one name names a bibliography file if the name has the ending. -/
theorem extract_citing (name : Literal) :
    extract (citing name).text = if Text.endsWith name.text ending then [name.text] else [] := by
  have hcall := directivesFrom_text false (citing name) []
  have hnone : directivesFrom false [] = [] := by simp [directivesFrom]
  rw [List.append_nil, hnone] at hcall
  rw [extract, directives, hcall, List.flatMap_singleton, quoted_inside, WrittenCall.literals,
    citing, List.map_cons, List.map_nil, List.filter_cons, List.filter_nil]

example : (citing ⟨"refs.bib".toList, by simp⟩).text = "#bibliography(\"refs.bib\")".toList :=
  rfl

end Bibliography.Reference

/-! ## Files that count for a directory -/

namespace Bibliography.Target

variable {files : FileTree} {d : Document} {target : Target} {p : Path}

def found : Target → List Path
  | .create _ => []
  | .existing path => [path]
  | .choose candidates => candidates

theorem found_ofFound (d : Document) (paths : List Path) : (ofFound d paths).found = paths := by
  match paths with
  | [] => rfl
  | [p] => rfl
  | p :: q :: more => rfl

/-- What is selected, whatever kind of target it is, are the bibliography files of the directory. -/
theorem mem_found_iff (ht : files.IsProper) (hselect : select files d = .ok target) :
    p ∈ target.found ↔ ∃ name, IsBibFile files d.baseDir name ∧ d.baseDir.join ⟨name⟩ = p := by
  cases hfound : filesIn files d.baseDir with
  | error e => cases (select_of_unreadable hfound).symm.trans hselect
  | ok paths =>
      obtain ⟨sorted, hperm, hsorted⟩ := exists_select (d := d) hfound
      cases hsorted.symm.trans hselect
      rw [found_ofFound, hperm.mem_iff, mem_filesIn ht hfound]

end Bibliography.Target

/-! ## Candidates behind an insert -/

namespace Completion

variable {files files' : FileTree} {d : Document} {p path : Path} {record : Text} {doi : Doi}
  {key : Option Text}

/-- An insert leaves a file at its path, and the text of it can be read. -/
theorem isFile_insert
    (hinsert : Store.insert files p record doi = (.ok (.inserted path key), files')) :
    files'.isFile p ∧ ∃ old, Store.read files p = .ok old ∧
      files'.readText p = .ok (Store.append old record) := by
  obtain ⟨old, place, hread, hplace, rfl⟩ := Store.exists_replacesAt hinsert
  have hfile := hplace.resolve_put (FileTree.bytesOf (Store.append old record))
  exact ⟨FileTree.isFile_iff.2 ⟨_, _, hfile⟩, old, hread, FileTree.readText_of_resolve hfile⟩

/-- Every key of a record that was appended is the key of an entry then. -/
theorem exists_entry_append (source : Path) (hrecord : Layout.IsEntry record) (old : Text)
    {e : Entry} (he : e ∈ Entry.parse source (Layout.format record)) :
    ∃ e' ∈ Entry.parse source (Store.append old record), e'.key = e.key ∧ e'.source = source := by
  have halone := Store.standsAlone_of_isEntry old hrecord
  obtain ⟨b, hbegins, -⟩ := hrecord
  have hparse := Entry.parse_append source (Store.scan_append hbegins.text halone)
  -- A key that is taken is that of an old entry, and any other one is added.
  have hkey : e.key ∈ (Entry.parse source (Store.append old record)).map Entry.key := by
    by_cases htaken : e.key ∈ (Entry.parse source old).map Entry.key
    · rw [hparse, List.map_append]
      exact List.mem_append_left _ htaken
    · refine List.mem_map_of_mem ?_
      rw [hparse]
      exact List.mem_append_right _ (List.mem_filter.2 ⟨he, by simpa using htaken⟩)
  obtain ⟨e', he', hsame⟩ := List.mem_map.1 hkey
  obtain ⟨b', -, rfl⟩ := List.mem_map.1 he'
  exact ⟨_, he', hsame, rfl⟩

/-- A document that finds the file of an insert alone has the entries of that file for candidates,
and among them one for every key of the record. -/
theorem ofBibliographies_insert (hlocate : locate files' d.text d.baseDir = [p])
    (hinsert : Store.insert files p record doi = (.ok (.inserted path key), files')) :
    ∃ old, Store.read files p = .ok old ∧
      ofBibliographies files' d =
        (Entry.parse p (Store.append old record)).map Candidate.ofEntry ∧
      (Layout.IsEntry record → ∀ e ∈ Entry.parse p (Layout.format record),
        ∃ c ∈ ofBibliographies files' d, c.insertText = e.key ∧
          ∃ e', c.source = .entry e' ∧ e'.source = p) := by
  obtain ⟨-, old, hold, hread⟩ := isFile_insert hinsert
  have hcandidates : ofBibliographies files' d =
      (Entry.parse p (Store.append old record)).map Candidate.ofEntry := by
    rw [ofBibliographies, hlocate, flatMap_contentsOf, List.flatMap_singleton, entriesIn, hread]
  refine ⟨old, hold, hcandidates, fun hrecord e he => ?_⟩
  obtain ⟨e', he', hkey, hsource⟩ := exists_entry_append p hrecord old he
  rw [hcandidates]
  exact ⟨_, List.mem_map_of_mem he', hkey, e', rfl, hsource⟩

end Completion

/-! ## Files that are found again -/

namespace Bibliography.Target

variable {files : FileTree} {d : Document} {target : Target} {p : Path} {name : Reference.Literal}

/-- What a document finds that names one file of its directory. -/
theorem locate_citing (htext : d.text = (Reference.citing name).text) :
    Completion.locate files d.text d.baseDir =
      if Text.endsWith name.text Reference.ending ∧ files.isFile (d.baseDir.join ⟨name.text⟩) then
        [d.baseDir.join ⟨name.text⟩] else [] := by
  rw [Completion.locate, htext, Reference.extract_citing]
  by_cases hends : Text.endsWith name.text Reference.ending
  · by_cases hfile : files.isFile (d.baseDir.join ⟨name.text⟩) <;> simp [hends, hfile]
  · simp [hends]

/-- A document finds a bibliography file of its own directory by the name of the file exactly if the
name ends in the extension in lower case. It finds a record then that is inserted into the file, be
it the only one, which is used without asking, or one of several: the entries of the file are all
its candidates, and every key of the record is among them. -/
theorem locate_found (ht : files.IsProper) (hselect : select files d = .ok target)
    (hp : p ∈ target.found) (hname : p.fileName? = some name.text)
    (htext : d.text = (Reference.citing name).text) :
    (p ∈ Completion.locate files d.text d.baseDir ↔
      Text.endsWith name.text Reference.ending) ∧
    (Text.endsWith name.text Reference.ending →
      ∀ (files' : FileTree) (record : Text) (doi : Doi) (path : Path) (key : Option Text),
        Store.insert files p record doi = (.ok (.inserted path key), files') →
          Completion.locate files' d.text d.baseDir = [p] ∧
          ∃ old, Store.read files p = .ok old ∧
            Completion.ofBibliographies files' d =
              (Entry.parse p (Store.append old record)).map Candidate.ofEntry ∧
            (Layout.IsEntry record → ∀ e ∈ Entry.parse p (Layout.format record),
              ∃ c ∈ Completion.ofBibliographies files' d, c.insertText = e.key ∧
                ∃ e', c.source = .entry e' ∧ e'.source = p)) := by
  obtain ⟨n, hbib, rfl⟩ := (mem_found_iff ht hselect).1 hp
  -- The name under which the directory lists the file is the one that the document gives.
  obtain rfl : n = name.text := by
    rw [Path.fileName?_join (hbib.holds.isName ht)] at hname
    exact Option.some.inj hname
  constructor
  · rw [locate_citing htext]
    by_cases hends : Text.endsWith name.text Reference.ending
    · simp [hends, hbib.file]
    · simp [hends]
  · intro hends files' record doi path key hinsert
    have hlocate : Completion.locate files' d.text d.baseDir = [d.baseDir.join ⟨name.text⟩] := by
      rw [locate_citing htext, if_pos ⟨hends, (Completion.isFile_insert hinsert).1⟩]
    exact ⟨hlocate, Completion.ofBibliographies_insert hlocate hinsert⟩

def refsName : Reference.Literal :=
  ⟨"refs.bib".toList, by simp⟩

def paper : Document :=
  .withText (Path.of "paper.typ") (Reference.citing refsName).text

theorem locate_found_refs :
    (Store.refsTree []).IsProper ∧
      select (Store.refsTree []) paper = .ok (.existing (Path.of "./refs.bib")) ∧
      ∃ files', Store.insert (Store.refsTree []) (Path.of "./refs.bib") Store.book Store.bookDoi =
          (.ok (.inserted (Path.of "./refs.bib") (some "k".toList)), files') ∧
        ∃ c ∈ Completion.ofBibliographies files' paper, c.insertText = "k".toList := by
  have ht : (Store.refsTree []).IsProper := by decide
  have hselect : select (Store.refsTree []) paper = .ok (.existing (Path.of "./refs.bib")) :=
    select_of_only rfl
  have hread : Store.read (Store.refsTree []) (Path.of "./refs.bib") = .ok [] := by
    have hresolve : (Store.refsTree []).resolve true (Path.of "./refs.bib") =
        .ok (.found [Store.refs.text] (.file (FileTree.bytesOf []))) := rfl
    exact Store.read_of_resolve hresolve
  have hkey : Layout.recordKey? Store.book = some "k".toList := by decide +kernel
  obtain ⟨files', hreplace⟩ : ∃ files', (Store.refsTree []).replaceFile (Path.of "./refs.bib")
      (FileTree.bytesOf (Store.append [] Store.book)) = (.ok (), files') := ⟨_, rfl⟩
  have hinsert : Store.insert (Store.refsTree []) (Path.of "./refs.bib") Store.book Store.bookDoi =
      (.ok (.inserted (Path.of "./refs.bib") (some "k".toList)), files') := by
    have habsent : Store.bookDoi.occursIn [] = false := by decide
    rw [Store.insert, hread]
    simp only [habsent, hreplace, hkey]
    rfl
  have hentries : (Entry.parse (Path.of "./refs.bib") (Layout.format Store.book)).map Entry.key =
      ["k".toList] := by decide +kernel
  obtain ⟨e, he, hk⟩ : ∃ e ∈ Entry.parse (Path.of "./refs.bib") (Layout.format Store.book),
      e.key = "k".toList := List.mem_map.1 (by rw [hentries]; exact List.mem_singleton_self _)
  have hname : (Path.of "./refs.bib").fileName? = some refsName.text := by decide
  have htext : paper.text = (Reference.citing refsName).text := rfl
  obtain ⟨-, hfound⟩ := locate_found ht hselect (List.mem_singleton_self _) hname htext
  obtain ⟨-, old, -, -, hcandidates⟩ := hfound (by decide) files' _ _ _ _ hinsert
  obtain ⟨c, hc, hinsertText, -⟩ := hcandidates Store.isEntry_book e he
  exact ⟨ht, hselect, files', hinsert, c, hc, hinsertText.trans hk⟩

def capitalName : Reference.Literal :=
  ⟨"refs.BIB".toList, by simp⟩

def capitalTree : FileTree :=
  ⟨[([capitalName.text], .file .empty)], []⟩

def capitalPaper : Document :=
  .withText (Path.of "paper.typ") (Reference.citing capitalName).text

/-- Not every file that takes records is found by its name. -/
theorem not_locate_found :
    ¬∀ (files : FileTree) (d : Document) (target : Target) (p : Path) (name : Reference.Literal),
      files.IsProper → select files d = .ok target → p ∈ target.found →
        p.fileName? = some name.text → (∀ c ∈ name.text, c ≠ '(') →
          d.text = (Reference.citing name).text →
            p ∈ Completion.locate files d.text d.baseDir := by
  intro hall
  have hselect : select capitalTree capitalPaper = .ok (.existing (Path.of "./refs.BIB")) :=
    select_of_only rfl
  have hplain : ∀ c ∈ "refs.BIB".toList, c ≠ '(' := by simp
  have htext : capitalPaper.text = (Reference.citing capitalName).text := rfl
  have hfound := hall _ _ _ _ capitalName (by decide) hselect (List.mem_singleton_self _)
    (by decide) hplain htext
  rw [locate_citing htext, if_neg (by decide)] at hfound
  cases hfound

end Bibliography.Target

end CiteIndex
