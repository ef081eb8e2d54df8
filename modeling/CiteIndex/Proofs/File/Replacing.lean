import CiteIndex.Proofs.File.ReadBack

/-!
# Replacing files

A file is replaced by way of a new one beside it. The new file has a name that no path leads
through, so nothing else changes while it is there, and nothing is left of it in the end. What
remains is one location with a new content, or the tree as it was.

- `FileTree.resolve_put_freshName`: a file under a fresh name is in nobody's way
- `FileTree.writeBeside_freshName`: nothing is left of the new file
- `FileTree.replaceFile_cases`: all that replacing a file can do
- `FileTree.readText_replaceFile`: a replaced file reads as its new content
- `FileTree.Rewrites`: what differs behind a replaced file
-/

namespace CiteIndex

theorem Text.length_le_of_mem_splitWhere {isSeparator : Char → Bool} {t piece : Text}
    (h : piece ∈ splitWhere isSeparator t) : piece.length ≤ t.length := by
  induction t generalizing piece with
  | nil =>
      rw [splitWhere, List.mem_singleton] at h
      exact Nat.le_of_eq (congrArg List.length h)
  | cons c cs ih =>
      rw [splitWhere] at h
      split at h
      · rcases List.mem_cons.1 h with rfl | h
        · exact Nat.zero_le _
        · exact Nat.le_succ_of_le (ih h)
      · cases hsplit : splitWhere isSeparator cs with
        | nil =>
            rw [hsplit, consHead, List.mem_singleton] at h
            rw [h]
            exact Nat.succ_le_succ (Nat.zero_le _)
        | cons first rest =>
            rw [hsplit] at ih
            rw [hsplit, consHead] at h
            rcases List.mem_cons.1 h with rfl | h
            · exact Nat.succ_le_succ (ih List.mem_cons_self)
            · exact Nat.le_succ_of_le (ih (List.mem_cons_of_mem _ h))

namespace FileTree

variable {t : FileTree} {followLast slash : Bool} {links : Nat} {dir place q : Location}
  {pieces : List Text} {content : ByteArray} {target p : Path} {name : Text} {node : Node}

/-! ## Fresh names -/

theorem mem_nodes_of_node? (h : t.node? q = some node) (hq : q ≠ []) : (q, node) ∈ t.nodes := by
  cases q with
  | nil => exact absurd rfl hq
  | cons first rest =>
      obtain ⟨entry, hfind, rfl⟩ := Option.map_eq_some_iff.1 h
      have hplace : entry.1 = first :: rest := by simpa using List.find?_some hfind
      rw [← hplace]
      exact List.mem_of_find?_eq_some hfind

theorem length_freshName (t : FileTree) (p : Path) :
    (t.freshName p).length = 4 + (p.text.length + (t.nodes.flatMap entryLetters).length) := by
  rw [freshName, List.length_append, List.length_replicate, List.length_append]
  rfl

/-- A fresh name is longer than what is said of any entry. -/
theorem length_lt_freshName {entry : Location × Node} (h : entry ∈ t.nodes) (p : Path) :
    (entryLetters entry).length < (t.freshName p).length := by
  have hle : (entryLetters entry).length ≤ (t.nodes.flatMap entryLetters).length :=
    (List.sublist_flatten_of_mem (List.mem_map_of_mem h)).length_le
  rw [length_freshName]
  omega

theorem length_le_of_mem_steps (h : name ∈ steps p) : name.length ≤ p.text.length :=
  Text.length_le_of_mem_splitWhere (List.mem_filter.1 h).1

/-- The fresh name is on no way along the path. -/
theorem freshName_notMem_steps (t : FileTree) (p : Path) : t.freshName p ∉ steps p := by
  intro h
  have hle := length_le_of_mem_steps h
  rw [length_freshName] at hle
  omega

/-- Nor is it on the way along any link. -/
theorem freshName_notMem_steps_link (h : t.node? q = some (.link target)) (p : Path) :
    t.freshName p ∉ steps target := by
  intro hmem
  have hq : q ≠ [] := by
    rintro rfl
    cases h
  have hle := length_le_of_mem_steps hmem
  have hlink : target.text.length ≤ (entryLetters (q, .link target)).length :=
    (List.sublist_append_right _ _).length_le
  have hlt := length_lt_freshName (mem_nodes_of_node? h hq) p
  omega

/-- Nothing has the fresh name in any directory. -/
theorem notMem_nodes_freshName (t : FileTree) (dir : Location) (p : Path) :
    ∀ entry ∈ t.nodes, entry.1 ≠ dir ++ [t.freshName p] := by
  intro entry h heq
  have hmem : t.freshName p ∈ entry.1 := heq ▸ List.mem_append_right _ List.mem_cons_self
  have hle : (t.freshName p).length ≤ (entryLetters entry).length :=
    ((List.sublist_flatten_of_mem hmem).trans (List.sublist_append_left _ _)).length_le
  exact absurd (length_lt_freshName h p) (Nat.not_lt.2 hle)

/-! ## Paths beside a new file -/

/-- A path whose pieces do not have a name goes the same way whatever is put under that name. -/
theorem advance_put_of_notMem (hname : name ∉ pieces) :
    (t.put (dir ++ [name]) node).advance followLast slash place pieces =
      t.advance followLast slash place pieces := by
  induction pieces generalizing place with
  | nil => rfl
  | cons step rest ih =>
      obtain ⟨hstep, hrest⟩ := List.ne_and_not_mem_of_not_mem_cons hname
      have hne : place ++ [step] ≠ dir ++ [name] := by
        intro heq
        exact hstep (List.singleton_inj.1 (List.append_inj' heq rfl).2).symm
      have hnode := node?_put_of_ne t hne node
      rw [advance, advance, hnode]
      simp only [ih hrest]

/-- A link at which a path stops is in the tree, and what remains of the path is a part of it. -/
theorem atLink_of_advance {rest : List Text}
    (h : t.advance followLast slash place pieces = .ok (.atLink dir target rest)) :
    (∃ q, t.node? q = some (.link target)) ∧ rest <:+ pieces := by
  fun_induction advance t followLast slash place pieces with
  | case2 place more ih => exact (ih h).imp_right fun hmore => hmore.trans (List.suffix_cons _ _)
  | case3 place more _ ih =>
      exact (ih h).imp_right fun hmore => hmore.trans (List.suffix_cons _ _)
  | case6 place step more _ _ _ ih =>
      exact (ih h).imp_right fun hmore => hmore.trans (List.suffix_cons _ _)
  | case11 place step more _ _ target hnode =>
      cases h
      exact ⟨⟨_, hnode⟩, List.suffix_cons _ _⟩
  | case1 | case4 | case5 | case7 | case8 | case9 | case10 => cases h

/-- A node under a name that no path holds is never met. -/
theorem walk_put_of_notMem
    (hlinks : ∀ q target, t.node? q = some (.link target) → name ∉ steps target)
    (hname : name ∉ pieces) :
    (t.put (dir ++ [name]) node).walk followLast links slash place pieces =
      t.walk followLast links slash place pieces := by
  -- Behind a link its target is followed, which does not have the name either.
  induction links generalizing slash place pieces with
  | zero => rw [walk, walk, advance_put_of_notMem hname]
  | succ links ih =>
      rw [walk, walk, advance_put_of_notMem hname]
      split
      · rfl
      · rfl
      · rename_i d target rest hhalt
        obtain ⟨⟨q, hnode⟩, hrest⟩ := atLink_of_advance hhalt
        have hgoes : name ∉ steps target ++ rest := by
          rw [List.mem_append, not_or]
          exact ⟨hlinks q target hnode, fun h => hname (hrest.subset h)⟩
        exact ih hgoes

/-- A file under a fresh name is in nobody's way. -/
theorem resolve_put_freshName (t : FileTree) (dir : Location) (p : Path) (node : Node) :
    (t.put (dir ++ [t.freshName p]) node).resolve followLast p = t.resolve followLast p := by
  rw [resolve, resolve]
  split
  · rfl
  · exact walk_put_of_notMem (fun q target h => freshName_notMem_steps_link h p)
      (freshName_notMem_steps t p)

/-- A file under a fresh name is removed without a trace. -/
theorem remove_put_freshName (t : FileTree) (dir : Location) (p : Path) (node : Node) :
    (t.put (dir ++ [t.freshName p]) node).remove (dir ++ [t.freshName p]) = t := by
  have hkeep : ∀ entry ∈ t.nodes, (entry.1 != dir ++ [t.freshName p]) = true :=
    fun entry h => bne_iff_ne.2 (notMem_nodes_freshName t dir p entry h)
  have hnodes := List.filter_eq_self.2 hkeep
  simp [put, remove, hnodes]

/-! ## Replacing a file -/

/-- Nothing is left of a new file: the spot that was looked for without it holds the content, or
the tree is as it was. -/
theorem writeBeside_freshName (t : FileTree) (dir : Location) (p : Path) (content : ByteArray)
    {spot : FileTree → Except FileError Spot}
    (hspot : spot (t.put (dir ++ [t.freshName p]) (.file content)) = spot t) :
    t.writeBeside (dir ++ [t.freshName p]) content spot =
      match landing (spot t) with
      | .error e => (.error e, t)
      | .ok place => (.ok (), t.put place (.file content)) := by
  cases hland : landing (spot t) with
  | error e => simp only [writeBeside, hspot, hland, remove_put_freshName]
  | ok place => simp only [writeBeside, hspot, hland, remove_put_freshName]

/-- A path leads to nothing, if all links are followed. -/
def IsLost (t : FileTree) (p : Path) : Prop :=
  t.resolve true p = .error .notFound ∨
    ∃ dir name slash, t.resolve true p = .ok (.vacant dir name slash)

/-- The location that gets a new content if the file at a path is replaced. -/
inductive ReplacesAt (t : FileTree) (p : Path) : Location → Prop where
  /-- The file to which the path leads through links. -/
  | file {place : Location} {old : ByteArray}
    (found : t.resolve true p = .ok (.found place (.file old))) : ReplacesAt t p place
  /-- A link at the end of the path that leads to nothing. -/
  | link {place : Location} {target : Path} (lost : t.IsLost p)
    (found : t.resolve false p = .ok (.found place (.link target))) : ReplacesAt t p place
  /-- The free name at the end of the path. -/
  | free {dir : Location} {name : Text} (lost : t.IsLost p)
    (free : t.resolve false p = .ok (.vacant dir name false)) : ReplacesAt t p (dir ++ [name])

theorem IsLost.not_found (h : t.IsLost p) : t.resolve true p ≠ .ok (.found place node) := by
  rcases h with h | ⟨_, _, _, h⟩ <;> simp [h]

/-- With links followed to the end, none is found there. -/
theorem resolve_ne_link : t.resolve true p ≠ .ok (.found place (.link target)) := by
  intro h
  rw [resolve] at h
  split at h
  · cases h
  · cases (walk_link h).1

/-- Where a path that leads to nothing has room for a file. -/
theorem IsLost.replacesAt (hlost : t.IsLost p) (h : landing (t.resolve false p) = .ok place) :
    t.ReplacesAt p place := by
  cases hspot : t.resolve false p with
  | error e => cases hspot ▸ h
  | ok spot =>
      rw [hspot] at h
      cases spot with
      | found q node =>
          cases node with
          | directory => cases h
          | link target =>
              cases h
              exact .link hlost hspot
          -- A file would be found if links were followed, too.
          | file old => exact absurd (resolve_followLast hspot nofun) hlost.not_found
      | blocked => cases h
      | vacant dir name slash =>
          cases slash with
          | true => cases h
          | false =>
              cases h
              exact .free hlost hspot

theorem IsLost.replaceFile_eq (hlost : t.IsLost p) (content : ByteArray) :
    t.replaceFile p content = t.moveInto p content := by
  rcases hlost with hlost | ⟨_, _, _, hlost⟩ <;> simp only [replaceFile, hlost]

/-- At a path that leads to nothing a file is put, if there is a directory for the new one and room
for it at the path. -/
theorem IsLost.replaceFile (hlost : t.IsLost p) (content : ByteArray) :
    (∃ e, t.replaceFile p content = (.error e, t)) ∨
      ∃ place, landing (t.resolve false p) = .ok place ∧
        t.replaceFile p content = (.ok (), t.put place (.file content)) := by
  rw [hlost.replaceFile_eq, moveInto]
  split
  · rename_i dir _
    rw [writeBeside_freshName t dir p content (resolve_put_freshName t dir p _)]
    cases hland : landing (t.resolve false p) with
    | error e => exact .inl ⟨e, rfl⟩
    | ok place => exact .inr ⟨place, rfl, rfl⟩
  all_goals exact .inl ⟨_, rfl⟩

/-- A file is replaced at one location, or the tree stays as it was. -/
theorem replaceFile_cases (t : FileTree) (p : Path) (content : ByteArray) :
    (∃ e, t.replaceFile p content = (.error e, t)) ∨
      ∃ place, t.ReplacesAt p place ∧
        t.replaceFile p content = (.ok (), t.put place (.file content)) := by
  have hlost (h : t.IsLost p) : (∃ e, t.replaceFile p content = (.error e, t)) ∨
      ∃ place, t.ReplacesAt p place ∧
        t.replaceFile p content = (.ok (), t.put place (.file content)) := by
    rcases h.replaceFile content with hfail | ⟨place, hland, hreplace⟩
    · exact .inl hfail
    · exact .inr ⟨place, h.replacesAt hland, hreplace⟩
  cases hspot : t.resolve true p with
  | error e =>
      cases e with
      | notFound => exact hlost (.inl hspot)
      | _ => exact .inl ⟨_, by rw [replaceFile, hspot]⟩
  | ok spot =>
      cases spot with
      | found place node =>
          have hwrite : t.replaceFile p content =
              match landing (.ok (.found place node)) with
              | .error e => (.error e, t)
              | .ok place => (.ok (), t.put place (.file content)) := by
            rw [replaceFile, hspot]
            exact writeBeside_freshName t place.dropLast p content rfl
          -- A directory is not replaced, and no path that is followed to its end leads to a link.
          cases node with
          | directory => exact .inl ⟨_, hwrite⟩
          | link target => exact absurd hspot resolve_ne_link
          | file old => exact .inr ⟨place, .file hspot, hwrite⟩
      | blocked => exact .inl ⟨_, by rw [replaceFile, hspot]⟩
      | vacant dir name slash => exact hlost (.inr ⟨dir, name, slash, hspot⟩)

/-- A file that could not be replaced left the tree alone. -/
theorem replaceFile_error {t' : FileTree} {e : FileError}
    (h : t.replaceFile p content = (.error e, t')) : t' = t := by
  rcases replaceFile_cases t p content with ⟨e', hfail⟩ | ⟨place, -, hreplace⟩
  · cases hfail.symm.trans h
    rfl
  · cases hreplace.symm.trans h

/-- A file that is put where one is replaced is what the path leads to. -/
theorem ReplacesAt.resolve_put (h : t.ReplacesAt p place) (content : ByteArray) :
    (t.put place (.file content)).resolve true p = .ok (.found place (.file content)) := by
  cases h with
  | file hfound => exact resolve_put_file content hfound
  | link hlost hfound =>
      have hends : t.resolve true p ≠ .error .tooManyLinks := by
        rcases hlost with hlost | ⟨_, _, _, hlost⟩ <;> simp [hlost]
      have hput := resolve_put_link content hfound (fun _ => hlost.not_found) hends
      exact resolve_followLast hput nofun
  | free hlost hfree => exact resolve_followLast (resolve_put_vacant content hfree) nofun

/-- The text of a file is read at every path that leads to it. -/
theorem readText_of_resolve {text : Text}
    (h : t.resolve true p = .ok (.found place (.file (bytesOf text)))) :
    t.readText p = .ok text := by
  rw [readText, readBytes, h]
  simp

/-- A file that was replaced reads as its new content. -/
theorem readText_replaceFile {t' : FileTree} {text : Text}
    (h : t.replaceFile p (bytesOf text) = (.ok (), t')) : t'.readText p = .ok text := by
  rcases replaceFile_cases t p (bytesOf text) with ⟨e, hfail⟩ | ⟨place, hplace, hreplace⟩
  · cases hfail.symm.trans h
  · cases hreplace.symm.trans h
    exact readText_of_resolve (hplace.resolve_put (bytesOf text))

/-! ## What changes -/

/-- A path ends in a link that leads to nothing. -/
def Dangles (t : FileTree) (p : Path) : Prop :=
  t.IsLost p ∧ ∃ q target, t.resolve false p = .ok (.found q (.link target))

/-- Two trees that differ in one file, to which a path leads. The file was there, or its location
was free, and it holds a text in the second tree. -/
structure Rewrites (t t' : FileTree) (p : Path) (text : Text) (place : Location) : Prop where
  before : (∃ old, t.resolve true p = .ok (.found place (.file old))) ∨
    t.IsLost p ∧ t.node? place = none
  after : t'.resolve true p = .ok (.found place (.file (bytesOf text)))
  others : ∀ other, other ≠ place → t'.node? other = t.node? other
  workDir : t'.workDir = t.workDir

/-- Replacing a file changes nothing but the file that the path leads to. -/
theorem rewrites_of_replaceFile {t' : FileTree} {text : Text} (hdangles : ¬t.Dangles p)
    (h : t.replaceFile p (bytesOf text) = (.ok (), t')) :
    ∃ place, t.Rewrites t' p text place := by
  rcases replaceFile_cases t p (bytesOf text) with ⟨e, hfail⟩ | ⟨place, hplace, hreplace⟩
  · cases hfail.symm.trans h
  · cases hreplace.symm.trans h
    refine ⟨place, ?_, hplace.resolve_put _, fun other hne => node?_put_of_ne t hne _, rfl⟩
    cases hplace with
    | file hfound => exact .inl ⟨_, hfound⟩
    | link hlost hfound => exact absurd ⟨hlost, _, _, hfound⟩ hdangles
    | free hlost hfree => exact .inr ⟨hlost, shows_of_resolve hfree⟩

/-- Without a directory for the new file a path that leads to nothing stays so. -/
theorem IsLost.replaceFile_of_no_directory (hlost : t.IsLost p)
    (hdirectory : ∀ dir, t.resolve true p.directory ≠ .ok (.found dir .directory))
    (content : ByteArray) : ∃ e, t.replaceFile p content = (.error e, t) := by
  rw [hlost.replaceFile_eq, moveInto]
  split
  · rename_i dir hdir
    exact absurd hdir (hdirectory dir)
  all_goals exact ⟨_, rfl⟩

end FileTree

end CiteIndex
