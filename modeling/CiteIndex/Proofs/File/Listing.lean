import CiteIndex.Proofs.File.Names
import CiteIndex.Proofs.File.Writing
import Mathlib.Data.List.Nodup

/-!
# Names in a directory

A tree as file systems have them holds one node at each location, under proper names. The names in a
directory are then listed once each, and what a tree is does not depend on the order in which it
lists them.

- `FileTree.IsProper`: trees as file systems have them
- `FileTree.Holds`: a directory holds a name
- `FileTree.mem_fileNames_iff`, `FileTree.nodup_fileNames`: the names that are listed
- `FileTree.node?_eq_of_perm`: trees that are listed in another order
-/

namespace CiteIndex

namespace FileTree

/-- One node stands at each location, and all names of locations are names. -/
structure IsProper (t : FileTree) : Prop where
  locations : (t.nodes.map Prod.fst).Nodup
  names : ∀ entry ∈ t.nodes, ∀ name ∈ entry.1, IsName name

instance (t : FileTree) : Decidable t.IsProper :=
  decidable_of_iff ((t.nodes.map Prod.fst).Nodup ∧ ∀ entry ∈ t.nodes, ∀ name ∈ entry.1, IsName name)
    ⟨fun h => ⟨h.1, h.2⟩, fun h => ⟨h.1, h.2⟩⟩

/-- Something in the directory at a path has a name. -/
def Holds (t : FileTree) (p : Path) (name : Text) : Prop :=
  ∃ dir, t.resolve true p = .ok (.found dir .directory) ∧ t.node? (dir ++ [name]) ≠ none

variable {t t' : FileTree} {p : Path} {name : Text} {names : List Text} {dir place : Location}
  {node : Node}

/-! ## Nodes -/

theorem node?_ne_none_iff (hplace : place ≠ []) :
    t.node? place ≠ none ↔ place ∈ t.nodes.map Prod.fst := by
  cases place with
  | nil => exact absurd rfl hplace
  | cons first rest => simp [node?]

/-- In a proper tree each node that is listed is the one at its location. -/
theorem node?_eq_some_iff (ht : t.IsProper) (hplace : place ≠ []) :
    t.node? place = some node ↔ (place, node) ∈ t.nodes := by
  constructor
  · intro h
    exact mem_nodes_of_node? h hplace
  · intro h
    obtain ⟨other, hother⟩ := Option.ne_none_iff_exists'.1
      ((node?_ne_none_iff hplace).2 (List.mem_map_of_mem (f := Prod.fst) h))
    -- There is no other entry for the location.
    cases List.inj_on_of_nodup_map ht.locations h (mem_nodes_of_node? hother hplace) rfl
    exact hother

/-- The order in which nodes are listed does not matter. -/
theorem IsProper.perm (ht : t.IsProper) (hperm : t'.nodes.Perm t.nodes) : t'.IsProper :=
  ⟨(hperm.map Prod.fst).nodup_iff.2 ht.locations, fun entry hentry =>
    ht.names entry (hperm.mem_iff.1 hentry)⟩

/-- The order of a tree does not matter to what it holds. -/
theorem node?_eq_of_perm (ht : t.IsProper) (hperm : t'.nodes.Perm t.nodes) (place : Location) :
    t'.node? place = t.node? place := by
  by_cases hplace : place = []
  · rw [hplace]
    rfl
  · refine Option.ext fun node => ?_
    rw [node?_eq_some_iff (ht.perm hperm) hplace, node?_eq_some_iff ht hplace, hperm.mem_iff]

/-! ## Names that are listed -/

theorem isDirectory_iff :
    t.isDirectory p ↔ ∃ dir, t.resolve true p = .ok (.found dir .directory) := by
  rw [isDirectory]
  split <;> simp_all

theorem isFile_iff :
    t.isFile p ↔ ∃ place content, t.resolve true p = .ok (.found place (.file content)) := by
  rw [isFile]
  split <;> simp_all

theorem childName?_eq_some_iff : childName? dir place = some name ↔ place = dir ++ [name] := by
  rw [childName?]
  rcases List.eq_nil_or_concat place with rfl | ⟨above, last, rfl⟩
  · simp
  · simp [and_comm]

/-- Names are listed at exactly those paths that lead to a directory. -/
theorem fileNames_eq_ok_iff :
    t.fileNames p = .ok names ↔ ∃ dir, t.resolve true p = .ok (.found dir .directory) ∧
      t.nodes.filterMap (fun entry => childName? dir entry.1) = names := by
  rw [fileNames]
  split <;> simp_all

/-- The names that are listed are those of what the directory holds. -/
theorem mem_fileNames_iff (h : t.fileNames p = .ok names) : name ∈ names ↔ t.Holds p name := by
  obtain ⟨dir, hdir, rfl⟩ := fileNames_eq_ok_iff.1 h
  have hmem : (name ∈ t.nodes.filterMap fun entry => childName? dir entry.1) ↔
      t.node? (dir ++ [name]) ≠ none := by
    rw [node?_ne_none_iff (by simp), List.mem_filterMap, List.mem_map]
    simp only [childName?_eq_some_iff]
  rw [hmem]
  constructor
  · exact fun hnode => ⟨dir, hdir, hnode⟩
  · rintro ⟨_, hfound, hnode⟩
    cases hdir.symm.trans hfound
    exact hnode

/-- No name is listed twice. -/
theorem nodup_fileNames (ht : t.IsProper) (h : t.fileNames p = .ok names) : names.Nodup := by
  obtain ⟨dir, -, rfl⟩ := fileNames_eq_ok_iff.1 h
  have hlocations := ht.locations.filterMap (f := childName? dir) fun place place' name h h' =>
    (childName?_eq_some_iff.1 h).trans (childName?_eq_some_iff.1 h').symm
  rwa [List.filterMap_map] at hlocations

theorem Holds.isName (h : t.Holds p name) (ht : t.IsProper) : IsName name := by
  obtain ⟨dir, -, hnode⟩ := h
  obtain ⟨entry, hentry, hplace⟩ := List.mem_map.1 ((node?_ne_none_iff (by simp)).1 hnode)
  exact ht.names entry hentry name (by simp [hplace])

end FileTree

end CiteIndex
