import CiteIndex.Proofs.Bibliography.Stores
import CiteIndex.Proofs.File.Writing

/-!
# Stores behind links

The path of a store can end in a link. If the link leads to a file, by way of other links or not,
the record goes to that file, and the link stays. A link that leads to nothing does not stay: the
record becomes a file in its place, and what the link names is not made.

- `FileTree.ReplacesAt.of_link`: which file is replaced at a path that ends in a link
- `Store.exists_replacesAt`: the one place that an insert writes
- `Store.insert_through_link`: inserts at a path that ends in a link
- `Store.not_insert_keeps_link`: a link that does not stay
-/

namespace CiteIndex

/-! ## Files replaced at links -/

namespace FileTree

variable {t : FileTree} {p held : Path} {place q : Location} {old : ByteArray}

theorem IsLost.not_pathExists (h : t.IsLost p) : ¬t.pathExists p := by
  intro hexists
  obtain ⟨_, _, hfound⟩ := exists_resolve_of_pathExists hexists
  exact h.not_found hfound

/-- At a path that ends in a link the file behind the link is replaced, or, if there is nothing
behind it, the link. -/
theorem ReplacesAt.of_link (h : t.ReplacesAt p place)
    (hlink : t.resolve false p = .ok (.found q (.link held))) :
    (∃ old, t.resolve true p = .ok (.found place (.file old))) ∨ t.IsLost p ∧ place = q := by
  cases h with
  | file hfound => exact .inl ⟨_, hfound⟩
  | link hlost hfound =>
      cases hfound.symm.trans hlink
      exact .inr ⟨hlost, rfl⟩
  | free _ hfree => cases hfree.symm.trans hlink

/-- A link and the file that it leads to stand at different places. -/
theorem ne_of_link (hfile : t.resolve true p = .ok (.found place (.file old)))
    (hlink : t.resolve false p = .ok (.found q (.link held))) : q ≠ place := by
  rintro rfl
  have hnode : t.node? q = some (.file old) := (shows_of_resolve hfile).resolve_left (by simp)
  have hheld : t.node? q = some (.link held) := (shows_of_resolve hlink).resolve_left (by simp)
  cases hnode.symm.trans hheld

/-- A link stays when the file behind it has a new content. -/
theorem resolve_link_put (hfile : t.resolve true p = .ok (.found place (.file old)))
    (hlink : t.resolve false p = .ok (.found q (.link held))) (content : ByteArray) :
    (t.put place (.file content)).resolve false p = .ok (.found q (.link held)) := by
  have hnode : t.node? place = some (.file old) := (shows_of_resolve hfile).resolve_left (by simp)
  have hdirectory : t.node? place ≠ some .directory := by simp [hnode]
  have hput := resolve_put content hdirectory (by simp [hnode]) hlink
  simpa [Spot.written, ne_of_link hfile hlink] using hput

/-- Where a link led to nothing, there is a file then and no link. -/
theorem IsLost.resolve_put_link (hlost : t.IsLost p)
    (hlink : t.resolve false p = .ok (.found q (.link held))) (content : ByteArray) :
    (t.put q (.file content)).resolve false p = .ok (.found q (.file content)) := by
  refine FileTree.resolve_put_link content hlink (fun _ => hlost.not_found) ?_
  rcases hlost with hlost | ⟨_, _, _, hlost⟩ <;> simp [hlost]

end FileTree

/-! ## Inserts at links -/

namespace Bibliography.Store

variable {files files' : FileTree} {target path held : Path} {record : Text} {doi : Doi}
  {key : Option Text} {q : Location}

/-- An insert puts the old contents with the record behind them at one place. -/
theorem exists_replacesAt
    (h : insert files target record doi = (.ok (.inserted path key), files')) :
    ∃ old place, read files target = .ok old ∧ files.ReplacesAt target place ∧
      files' = files.put place (.file (FileTree.bytesOf (append old record))) := by
  rw [insert] at h
  split at h
  · cases h
  · rename_i old hread
    split at h
    · cases h
    · rcases files.replaceFile_cases target (FileTree.bytesOf (append old record)) with
        ⟨e, hfail⟩ | ⟨place, hplace, hreplace⟩
      · rw [hfail] at h
        cases h
      · rw [hreplace] at h
        cases h
        exact ⟨old, place, hread, hplace, rfl⟩

/-- Where a path leads to nothing, an empty store is read. -/
theorem read_of_isLost (h : files.IsLost target) : read files target = .ok [] := by
  rcases h with h | ⟨_, _, _, h⟩ <;> rw [read, FileTree.readText, FileTree.readBytes, h]

/-- An insert at a path that ends in a link changes one place, to which the path leads then. The
link stays exactly if it led to something, and then that is where the record went, behind the
contents that were there; else the record is all that the place of the link holds. -/
theorem insert_through_link (hlink : files.resolve false target = .ok (.found q (.link held)))
    (hinsert : insert files target record doi = (.ok (.inserted path key), files')) :
    ∃ old place, read files target = .ok old ∧
      files'.resolve true target =
        .ok (.found place (.file (FileTree.bytesOf (append old record)))) ∧
      files.DiffersOnlyAt files' place ∧
      (files'.resolve false target = .ok (.found q (.link held)) ↔ files.pathExists target) ∧
      (files.pathExists target →
        ∃ content, files.resolve true target = .ok (.found place (.file content))) ∧
      (¬files.pathExists target → place = q ∧ old = []) := by
  obtain ⟨old, place, hread, hplace, rfl⟩ := exists_replacesAt hinsert
  refine ⟨old, place, hread, hplace.resolve_put _, files.differsOnlyAt_put place _, ?_⟩
  rcases hplace.of_link hlink with ⟨content, hfile⟩ | ⟨hlost, rfl⟩
  · have hexists := FileTree.pathExists_of_resolve hfile
    have hstays := FileTree.resolve_link_put hfile hlink (FileTree.bytesOf (append old record))
    exact ⟨iff_of_true hstays hexists, fun _ => ⟨content, hfile⟩, fun hnone => absurd hexists hnone⟩
  · have hreplaced := hlost.resolve_put_link hlink (FileTree.bytesOf (append old record))
    have hold : old = [] := by
      cases hread.symm.trans (read_of_isLost hlost)
      rfl
    have hnone := hlost.not_pathExists
    refine ⟨iff_of_false ?_ hnone, fun hexists => absurd hexists hnone, fun _ => ⟨rfl, hold⟩⟩
    intro hstays
    cases hreplaced.symm.trans hstays

/-- A store behind two links, in a directory of its own. -/
def linkedTree : FileTree :=
  ⟨[([refs.text], .link (Path.of "./shared.bib")),
    (["shared.bib".toList], .link (Path.of "/lib/all.bib")),
    (["lib".toList], .directory),
    (["lib".toList, "all.bib".toList], .file (FileTree.bytesOf leftOpen))], []⟩

theorem insert_through_link_twice :
    linkedTree.resolve false refs = .ok (.found [refs.text] (.link (Path.of "./shared.bib"))) ∧
      ∃ files', insert linkedTree refs book bookDoi =
          (.ok (.inserted refs (some "k".toList)), files') ∧
        files'.resolve false refs = .ok (.found [refs.text] (.link (Path.of "./shared.bib"))) ∧
        files'.node? ["lib".toList, "all.bib".toList] =
          some (.file (FileTree.bytesOf (append leftOpen book))) := by
  have hlink : linkedTree.resolve false refs =
      .ok (.found [refs.text] (.link (Path.of "./shared.bib"))) := rfl
  have hfile : linkedTree.resolve true refs =
      .ok (.found ["lib".toList, "all.bib".toList] (.file (FileTree.bytesOf leftOpen))) := rfl
  have hexists := FileTree.pathExists_of_resolve hfile
  have hread : read linkedTree refs = .ok leftOpen := read_of_resolve hfile
  have hkey : Layout.recordKey? book = some "k".toList := by decide +kernel
  obtain ⟨files', hreplace⟩ : ∃ files', linkedTree.replaceFile refs
      (FileTree.bytesOf (append leftOpen book)) = (.ok (), files') := ⟨_, rfl⟩
  have hinsert : insert linkedTree refs book bookDoi =
      (.ok (.inserted refs (some "k".toList)), files') := by
    rw [insert, hread]
    simp only [occursIn_leftOpen, hreplace, hkey]
    rfl
  obtain ⟨old, place, hold, hput, -, hstays, hplace, -⟩ := insert_through_link hlink hinsert
  obtain rfl : leftOpen = old := Except.ok.inj (hread.symm.trans hold)
  obtain ⟨_, hfound⟩ := hplace hexists
  cases hfile.symm.trans hfound
  exact ⟨hlink, files', hinsert, hstays.2 hexists,
    (FileTree.shows_of_resolve hput).resolve_left (by simp)⟩

/-- A store behind a link to a file that is not there. -/
def danglingTree : FileTree :=
  ⟨[([refs.text], .link (Path.of "shared.bib"))], []⟩

/-- Not every link at the end of a path stays. The file that this one names could be made. -/
theorem not_insert_keeps_link :
    danglingTree.resolve true refs = .ok (.vacant [] "shared.bib".toList false) ∧
      ¬∀ (files files' : FileTree) (target path held : Path) (q : Location) (record : Text)
        (doi : Doi) (key : Option Text),
        files.resolve false target = .ok (.found q (.link held)) →
        insert files target record doi = (.ok (.inserted path key), files') →
        files'.resolve false target = .ok (.found q (.link held)) := by
  have hlink : danglingTree.resolve false refs =
      .ok (.found [refs.text] (.link (Path.of "shared.bib"))) := rfl
  have hlost : danglingTree.IsLost refs := .inr ⟨_, _, _, rfl⟩
  obtain ⟨files', hreplace⟩ : ∃ files', danglingTree.replaceFile refs
      (FileTree.bytesOf (append [] book)) = (.ok (), files') := ⟨_, rfl⟩
  have hinsert : insert danglingTree refs book bookDoi =
      (.ok (.inserted refs (Layout.recordKey? book)), files') := by
    have habsent : bookDoi.occursIn [] = false := by decide
    rw [insert, read_of_isLost hlost]
    simp only [habsent, hreplace]
    rfl
  refine ⟨rfl, fun hall => ?_⟩
  obtain ⟨old, place, -, hplace, rfl⟩ := exists_replacesAt hinsert
  have hstays := hall _ _ _ _ _ _ _ _ _ hlink hinsert
  rcases hplace.of_link hlink with ⟨_, hfile⟩ | ⟨-, rfl⟩
  · exact hlost.not_found hfile
  · cases (hlost.resolve_put_link hlink _).symm.trans hstays

end Bibliography.Store

end CiteIndex
