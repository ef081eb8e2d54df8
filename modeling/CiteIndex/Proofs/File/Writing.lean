import CiteIndex.Proofs.File.Replacing

/-!
# What a write can change

An operation that writes the file at a path leaves everything else alone: what stands elsewhere, and
which paths lead to something as long as the path that is written does so already. Both follow from
the single place at which a file is put. Paths are followed by looking at places, so trees with the
same nodes at all places lead every path the same way.

- `FileTree.resolve_congr`: where paths lead depends on the nodes at places alone
- `FileTree.DiffersOnlyAt`: trees that agree everywhere but at one place
- `FileTree.WritesOnly`: trees that only writing at a path can lead to
- `FileTree.WritesOnly.pathExists`: writing a file that is there makes no other
-/

namespace CiteIndex

namespace FileTree

variable {t t' : FileTree} {followLast slash : Bool} {place : Location} {p : Path}

/-! ## Trees with the same nodes -/

theorem advance_congr (h : ∀ q, t.node? q = t'.node? q) (pieces : List Text) :
    t.advance followLast slash place pieces = t'.advance followLast slash place pieces := by
  induction pieces generalizing place with
  | nil => rfl
  | cons step rest ih => simp only [advance, h, ih]

theorem walk_congr (h : ∀ q, t.node? q = t'.node? q) (links : Nat) (pieces : List Text) :
    t.walk followLast links slash place pieces = t'.walk followLast links slash place pieces := by
  induction links generalizing slash place pieces with
  | zero => rw [walk, walk, advance_congr h]
  | succ links ih =>
      rw [walk, walk, advance_congr h]
      simp only [ih]

/-- Where paths lead depends on what stands where, not on how the tree lists it. -/
theorem resolve_congr (h : ∀ q, t.node? q = t'.node? q) (hdir : t.workDir = t'.workDir) (p : Path) :
    t.resolve followLast p = t'.resolve followLast p := by
  simp only [resolve, walk_congr h, hdir]

theorem pathExists_of_resolve {node : Node} (h : t.resolve true p = .ok (.found place node)) :
    t.pathExists p := by
  rw [pathExists, h]

theorem exists_resolve_of_pathExists (h : t.pathExists p) :
    ∃ place node, t.resolve true p = .ok (.found place node) := by
  rw [pathExists] at h
  split at h
  · rename_i hfound
    exact ⟨_, _, hfound⟩
  · cases h

theorem pathExists_of_isFile (h : t.isFile p) : t.pathExists p := by
  rw [isFile] at h
  split at h
  · rename_i hfound
    exact pathExists_of_resolve hfound
  · cases h

/-- A file that takes the place of another leads no path to something new. -/
theorem pathExists_of_put {old content : ByteArray} (hold : t.node? place = some (.file old))
    (h : (t.put place (.file content)).pathExists p) : t.pathExists p := by
  have hplace : place ≠ [] := by
    rintro rfl
    cases hold
  have hnode := node?_put_self t hplace (.file content)
  obtain ⟨q, node, hfound⟩ := exists_resolve_of_pathExists h
  -- With the old file put back, the path leads where it led in the first tree.
  have hdirectory : (t.put place (.file content)).node? place ≠ some .directory := by simp [hnode]
  have hback := resolve_put old hdirectory (by simp [hnode]) hfound
  have hsame : ∀ r, ((t.put place (.file content)).put place (.file old)).node? r = t.node? r := by
    intro r
    by_cases hr : r = place
    · rw [hr, node?_put_self _ hplace, hold]
    · rw [node?_put_of_ne _ hr, node?_put_of_ne _ hr]
  have hresolve := (resolve_congr hsame rfl p).symm.trans hback
  cases node with
  | directory => exact pathExists_of_resolve hresolve
  | _ =>
      simp only [Spot.written] at hresolve
      split at hresolve
      · exact pathExists_of_resolve hresolve
      · exact pathExists_of_resolve hresolve

/-! ## Changes at one place -/

/-- Two trees that agree everywhere but at one place. -/
structure DiffersOnlyAt (t t' : FileTree) (place : Location) : Prop where
  others : ∀ other, other ≠ place → t'.node? other = t.node? other
  workDir : t'.workDir = t.workDir

theorem differsOnlyAt_put (t : FileTree) (place : Location) (node : Node) :
    t.DiffersOnlyAt (t.put place node) place :=
  ⟨fun _ hne => node?_put_of_ne t hne node, rfl⟩

/-- What may become of a tree in which only the file at a path is written: nothing changes, or that
file has a new content. -/
inductive WritesOnly (t : FileTree) (target : Path) : FileTree → Prop where
  | nothing : WritesOnly t target t
  | file {place : Location} {content : ByteArray} (replaces : t.ReplacesAt target place) :
      WritesOnly t target (t.put place (.file content))

/-- Where a path leads to something, it is a file that is written there. -/
theorem ReplacesAt.node?_of_pathExists (h : t.ReplacesAt p place) (hexists : t.pathExists p) :
    ∃ old, t.node? place = some (.file old) := by
  have hfound : ¬t.IsLost p := by
    intro hlost
    obtain ⟨q, node, hspot⟩ := exists_resolve_of_pathExists hexists
    exact hlost.not_found hspot
  cases h with
  | file hspot => exact ⟨_, (shows_of_resolve hspot).resolve_left (by simp)⟩
  | link hlost => exact absurd hlost hfound
  | free hlost => exact absurd hlost hfound

namespace WritesOnly

/-- At most one place differs, and it is the one that is written. -/
theorem differsOnlyAt (h : t.WritesOnly p t') :
    t' = t ∨ ∃ place, t.ReplacesAt p place ∧ t.DiffersOnlyAt t' place := by
  cases h with
  | nothing => exact .inl rfl
  | @file place content hplace => exact .inr ⟨place, hplace, t.differsOnlyAt_put place _⟩

/-- Writing where a path leads to something puts nothing at a free place. -/
theorem node? (h : t.WritesOnly p t') (hexists : t.pathExists p) {other : Location}
    (hother : t'.node? other ≠ none) : t.node? other ≠ none := by
  cases h with
  | nothing => exact hother
  | @file place content hplace =>
      by_cases heq : other = place
      · obtain ⟨old, hold⟩ := hplace.node?_of_pathExists hexists
        simp [heq, hold]
      · rw [node?_put_of_ne t heq] at hother
        exact hother

/-- Nor does any other path lead to something then that led to nothing. -/
theorem pathExists (h : t.WritesOnly p t') (hexists : t.pathExists p) {other : Path}
    (hother : t'.pathExists other) : t.pathExists other := by
  cases h with
  | nothing => exact hother
  | @file place content hplace =>
      obtain ⟨old, hold⟩ := hplace.node?_of_pathExists hexists
      exact pathExists_of_put hold hother

end WritesOnly

/-- Replacing the file at a path writes nothing else, and may fail to write that. -/
theorem writesOnly_replaceFile (t : FileTree) (p : Path) (content : ByteArray) :
    t.WritesOnly p (t.replaceFile p content).2 := by
  rcases t.replaceFile_cases p content with ⟨e, hfail⟩ | ⟨place, hplace, hreplace⟩
  · rw [hfail]
    exact .nothing
  · rw [hreplace]
    exact .file hplace

end FileTree

end CiteIndex
