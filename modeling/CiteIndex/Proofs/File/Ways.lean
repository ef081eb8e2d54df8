import CiteIndex.Proofs.File.Names
import CiteIndex.Proofs.File.Writing

/-!
# Ways through a tree

The way to a name in a directory is the way to the directory and one step more. A way that ends
elsewhere than at a new file is not changed by that file, because it does not come past it: no way
leads through a file.

- `FileTree.walk_append`: ways that go on behind a directory
- `FileTree.resolve_join`, `FileTree.resolve_join_end`: where the path of a name leads
- `FileTree.DiffersOnlyAt.resolve_back`: ways that end elsewhere than at a new file
-/

namespace CiteIndex

namespace FileTree

variable {t t' : FileTree} {followLast slash slash' : Bool} {links : Nat} {dir place q r : Location}
  {pieces rest : List Text} {base p : Path} {name : Text} {content : ByteArray} {node : Node}

/-! ## Ways that go on -/

/-- Behind the pieces that lead to a directory the others lead on from there. -/
theorem advance_append
    (h : t.advance true slash' dir pieces = .ok (.arrived (.found r .directory)))
    (rest : List Text) :
    t.advance followLast slash dir (pieces ++ rest) = t.advance followLast slash r rest := by
  fun_induction advance t true slash' dir pieces with
  | case1 =>
      cases h
      rfl
  | case2 dir more ih =>
      rw [List.cons_append, advance, if_pos rfl]
      exact ih h
  | case3 dir more hdot ih =>
      rw [List.cons_append, advance, if_neg hdot, if_pos rfl]
      exact ih h
  | case6 dir step more hdot hdots hnode ih =>
      rw [List.cons_append, advance, if_neg hdot, if_neg hdots, hnode]
      exact ih h
  | case4 | case5 | case7 | case8 | case9 | case10 | case11 => cases h

/-- A link on the way stays on it, with what was put behind. -/
theorem advance_append_link {target : Path} {more : List Text}
    (h : t.advance true slash' dir pieces = .ok (.atLink q target more)) (hrest : rest ≠ []) :
    t.advance followLast slash dir (pieces ++ rest) = .ok (.atLink q target (more ++ rest)) := by
  fun_induction advance t true slash' dir pieces with
  | case2 dir more' ih =>
      rw [List.cons_append, advance, if_pos rfl]
      exact ih h
  | case3 dir more' hdot ih =>
      rw [List.cons_append, advance, if_neg hdot, if_pos rfl]
      exact ih h
  | case6 dir step more' hdot hdots hnode ih =>
      rw [List.cons_append, advance, if_neg hdot, if_neg hdots, hnode]
      exact ih h
  | case11 dir step more' hdot hdots target' hnode _ =>
      cases h
      rw [List.cons_append, advance, if_neg hdot, if_neg hdots, hnode]
      simp [hrest]
  | case1 | case4 | case5 | case7 | case8 | case9 | case10 => cases h

theorem walk_of_advance
    (h : t.advance followLast slash dir pieces = t.advance followLast slash r rest) :
    t.walk followLast links slash dir pieces = t.walk followLast links slash r rest := by
  cases links <;> rw [walk, walk, h]

/-- A way goes on from where its beginning led to, with the links that are left. -/
theorem walk_append (h : t.walk true links slash' dir pieces = .ok (.found r .directory))
    (hrest : rest ≠ []) :
    ∃ left ≤ links, t.walk followLast links slash dir (pieces ++ rest) =
      t.walk followLast left slash r rest := by
  induction links generalizing slash' dir pieces with
  | zero =>
      rw [walk] at h
      split at h
      · cases h
      · rename_i hhalt
        cases h
        exact ⟨0, Nat.le_refl 0, walk_of_advance (advance_append hhalt rest)⟩
      · cases h
  | succ links ih =>
      rw [walk] at h
      split at h
      · cases h
      · rename_i hhalt
        cases h
        exact ⟨links + 1, Nat.le_refl _, walk_of_advance (advance_append hhalt rest)⟩
      · rename_i d target more hhalt
        obtain ⟨left, hleft, hwalk⟩ := ih h
        refine ⟨left, Nat.le_succ_of_le hleft, ?_⟩
        have hgoes : (more ++ rest).isEmpty = false := by simp [hrest]
        rw [walk, advance_append_link hhalt hrest]
        simp only [hgoes, Bool.false_and, Bool.or_false]
        rw [← List.append_assoc]
        exact hwalk

/-! ## Names in a directory -/

theorem text_ne_nil_of_resolve {spot : Spot} (h : t.resolve followLast p = .ok spot) :
    p.text ≠ [] := by
  intro hempty
  rw [resolve, hempty] at h
  cases h

/-- The path of a name in a directory leads there, and to the name. -/
theorem resolve_join (hname : IsName name)
    (hdir : t.resolve true base = .ok (.found dir .directory)) (followLast : Bool) :
    ∃ links, t.resolve followLast (base.join ⟨name⟩) =
      t.walk followLast links false dir [name] := by
  have hbase := text_ne_nil_of_resolve hdir
  have hjoin : (base.join ⟨name⟩).text ≠ [] := by
    obtain ⟨front, hjoin, -⟩ := Path.exists_join hname hbase
    simp [hjoin]
  rw [resolve, if_neg (by simpa using hbase)] at hdir
  obtain ⟨links, -, hwalk⟩ := walk_append hdir (List.cons_ne_nil name [])
  refine ⟨links, ?_⟩
  rw [resolve, if_neg (by simpa using hjoin), steps_join hname hbase, isAbsolute_join hname hbase,
    endsInSlash_join hname hbase, hwalk]

/-- If the last link is not followed, the path of a name leads to what has the name. -/
theorem resolve_join_end (hname : IsName name)
    (hdir : t.resolve true base = .ok (.found dir .directory)) :
    t.resolve false (base.join ⟨name⟩) =
      .ok (match t.node? (dir ++ [name]) with
        | none => .vacant dir name false
        | some node => .found (dir ++ [name]) node) := by
  obtain ⟨links, hresolve⟩ := resolve_join hname hdir false
  have hhalt : t.advance false false dir [name] = .ok (.arrived (match t.node? (dir ++ [name]) with
      | none => .vacant dir name false
      | some node => .found (dir ++ [name]) node)) := by
    rw [advance, if_neg hname.ne_here, if_neg hname.ne_up]
    cases hnode : t.node? (dir ++ [name]) with
    | none => rfl
    | some node => cases node <;> rfl
  rw [hresolve]
  cases links <;> rw [walk, hhalt]

/-- A name below a directory leads to what stands there. -/
theorem resolve_join_eq_found_iff (hname : IsName name)
    (hdir : t.resolve true base = .ok (.found dir .directory)) :
    t.resolve false (base.join ⟨name⟩) = .ok (.found q node) ↔
      q = dir ++ [name] ∧ t.node? q = some node := by
  rw [resolve_join_end hname hdir]
  cases hnode : t.node? (dir ++ [name]) with
  | none =>
      constructor
      · nofun
      · rintro ⟨rfl, hsome⟩
        cases hnode.symm.trans hsome
  | some other =>
      constructor
      · intro h
        cases h
        exact ⟨rfl, hnode⟩
      · rintro ⟨rfl, hsome⟩
        cases hnode.symm.trans hsome
        rfl

/-- Where the path of a name leads, its directory is there. -/
theorem exists_directory_of_join {spot : Spot} (hname : IsName name) (hbase : base.text ≠ [])
    (h : t.resolve followLast (base.join ⟨name⟩) = .ok spot) :
    ∃ dir, t.resolve true base = .ok (.found dir .directory) := by
  rw [resolve, if_neg (by simpa using text_ne_nil_of_resolve h), steps_join hname hbase,
    isAbsolute_join hname hbase] at h
  obtain ⟨dir, hdir⟩ := walk_start (List.cons_ne_nil name []) h
  refine ⟨dir, ?_⟩
  rw [resolve, if_neg (by simpa using hbase)]
  exact hdir _

/-! ## Ways past a new file -/

/-- Steps that end neither at the new file nor in front of a file were possible before. -/
theorem advance_back (hothers : ∀ other, other ≠ place → t'.node? other = t.node? other)
    (hfile : t'.node? place = some (.file content)) {halt : Halt}
    (h : t'.advance followLast slash dir pieces = .ok halt) (hblocked : halt ≠ .arrived .blocked)
    (helse : halt ≠ .arrived (.found place (.file content))) :
    t.advance followLast slash dir pieces = .ok halt := by
  have hsame : ∀ {q : Location}, t'.node? q ≠ some (.file content) → t.node? q = t'.node? q := by
    intro q hq
    refine (hothers q ?_).symm
    rintro rfl
    exact hq hfile
  fun_induction advance t' followLast slash dir pieces with
  | case1 => exact h
  | case2 dir rest ih =>
      rw [advance, if_pos rfl]
      exact ih h
  | case3 dir rest hdot ih =>
      rw [advance, if_neg hdot, if_pos rfl]
      exact ih h
  | case4 dir step rest hdot hdots hnode hrest =>
      rw [advance, if_neg hdot, if_neg hdots, hsame (by simp [hnode]), hnode]
      simpa only [hrest, if_true] using h
  | case5 => cases h
  | case6 dir step rest hdot hdots hnode ih =>
      rw [advance, if_neg hdot, if_neg hdots, hsame (by simp [hnode]), hnode]
      exact ih h
  | case7 => cases h
  | case8 =>
      cases h
      exact absurd rfl hblocked
  | case9 dir step rest hdot hdots content' hnode hrest hslash =>
      cases h
      -- A file ends the way here, and it is not the new one.
      have hne : dir ++ [step] ≠ place := by
        rintro rfl
        cases hnode.symm.trans hfile
        exact helse rfl
      rw [advance_file hdot hdots ((hothers _ hne).symm.trans hnode) (by simpa using hrest),
        if_neg hslash]
  | case10 dir step rest hdot hdots target hnode hlast =>
      rw [advance, if_neg hdot, if_neg hdots, hsame (by simp [hnode]), hnode]
      simpa only [hlast, if_true] using h
  | case11 dir step rest hdot hdots target hnode hlast =>
      rw [advance, if_neg hdot, if_neg hdots, hsame (by simp [hnode]), hnode]
      simpa only [if_neg hlast] using h

/-- Unless it ends at the new file, a way behind a write was there before. -/
theorem walk_back (hothers : ∀ other, other ≠ place → t'.node? other = t.node? other)
    (hfile : t'.node? place = some (.file content))
    (h : t'.walk followLast links slash dir pieces = .ok (.found q node))
    (helse : ¬(q = place ∧ node = .file content)) :
    t.walk followLast links slash dir pieces = .ok (.found q node) := by
  have harrived : ∀ {slash dir pieces},
      t'.advance followLast slash dir pieces = .ok (.arrived (.found q node)) →
        t.advance followLast slash dir pieces = .ok (.arrived (.found q node)) := by
    intro slash dir pieces h
    refine advance_back hothers hfile h (by simp) fun heq => ?_
    cases heq
    exact helse ⟨rfl, rfl⟩
  induction links generalizing slash dir pieces with
  | zero =>
      rw [walk] at h ⊢
      split at h
      · cases h
      · rename_i hhalt
        cases h
        rw [harrived hhalt]
      · cases h
  | succ links ih =>
      rw [walk] at h ⊢
      split at h
      · cases h
      · rename_i hhalt
        cases h
        rw [harrived hhalt]
      · -- At a link the way goes on with one link less, in both trees.
        rename_i hhalt
        rw [advance_back hothers hfile hhalt (by simp) (by simp)]
        exact ih h

/-- A path that leads elsewhere than to a new file led there before. -/
theorem DiffersOnlyAt.resolve_back (h : t.DiffersOnlyAt t' place)
    (hfile : t'.node? place = some (.file content))
    (hresolve : t'.resolve followLast p = .ok (.found q node))
    (helse : ¬(q = place ∧ node = .file content)) :
    t.resolve followLast p = .ok (.found q node) := by
  have htext := text_ne_nil_of_resolve hresolve
  rw [resolve, if_neg (by simpa using htext)] at hresolve ⊢
  rw [← h.workDir]
  exact walk_back h.others hfile hresolve helse

end FileTree

end CiteIndex
