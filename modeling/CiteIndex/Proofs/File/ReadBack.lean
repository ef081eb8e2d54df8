import CiteIndex.File.Access

/-!
# Reading back what was written

Where a path leads once a file was put at a location, whatever links lead to it. The one case that
needs an argument is a link that leads nowhere: the file takes its place, so the path must not lead
through that link on its way to it.

- `Spot.written`: where a path leads once a file was put at a location
- `FileTree.walk_put`, `FileTree.walk_put_link`: following a path after a file was put
- `FileTree.resolve_put_file`, `FileTree.resolve_put_vacant`, `FileTree.resolve_put_link`: the same
  of whole paths
-/

namespace CiteIndex

/-- The spot that a file which is put at a location makes of another. -/
def Spot.written (place : Location) (content : ByteArray) : Spot → Spot
  | .found q .directory => .found q .directory
  | .found q node => if q = place then .found q (.file content) else .found q node
  | .blocked => .blocked
  | .vacant dir name slash =>
    if dir ++ [name] = place then if slash then .blocked else .found place (.file content)
    else .vacant dir name slash

namespace FileTree

def Halt.written (place : Location) (content : ByteArray) : Halt → Halt
  | .arrived spot => .arrived (spot.written place content)
  | .atLink dir target rest => .atLink dir target rest

variable {t : FileTree} {followLast slash : Bool} {links : Nat} {dir place q : Location}
  {pieces : List Text} {content : ByteArray} {target : Path} {spot : Spot}

/-! ## Where a path can lead -/

/-- Does a tree hold what a spot says. Directories at the start of a path are not looked up. -/
def Shows (t : FileTree) : Spot → Prop
  | .found q node => node = .directory ∨ t.node? q = some node
  | .blocked => True
  | .vacant dir name _ => t.node? (dir ++ [name]) = none

theorem shows_of_advance (h : t.advance followLast slash dir pieces = .ok (.arrived spot)) :
    t.Shows spot := by
  fun_induction advance t followLast slash dir pieces with
  | case1 =>
      cases h
      exact .inl rfl
  | case2 dir rest ih => exact ih h
  | case3 dir rest _ ih => exact ih h
  | case4 dir step rest _ _ hnode _ =>
      cases h
      exact hnode
  | case5 => cases h
  | case6 dir step rest _ _ _ ih => exact ih h
  | case7 => cases h
  | case8 =>
      cases h
      trivial
  | case9 dir step rest _ _ content hnode =>
      cases h
      exact .inr hnode
  | case10 dir step rest _ _ target hnode =>
      cases h
      exact .inr hnode
  | case11 => cases h

/-- A path stops at a link only if it ends there without a slash, and if the last link is not to be
followed. -/
theorem arrived_link (h : t.advance followLast slash dir pieces = .ok (.arrived (.found q (.link target)))) :
    followLast = false ∧ slash = false := by
  fun_induction advance t followLast slash dir pieces with
  | case2 dir rest ih => exact ih h
  | case3 dir rest _ ih => exact ih h
  | case6 dir step rest _ _ _ ih => exact ih h
  | case10 dir step rest _ _ target hnode hlast =>
      simp only [Bool.and_eq_true, Bool.not_eq_true'] at hlast
      exact ⟨hlast.2, hlast.1.2⟩
  | case1 | case4 | case5 | case7 | case8 | case9 | case11 => cases h

/-- What a way ends at is in the tree. -/
theorem shows_of_walk (h : t.walk followLast links slash dir pieces = .ok spot) : t.Shows spot := by
  -- A walk that arrives ends in an advance that does, whatever links were followed before.
  induction links generalizing slash dir pieces with
  | zero =>
      rw [walk] at h
      split at h
      · cases h
      · rename_i hadvance
        cases h
        exact shows_of_advance hadvance
      · cases h
  | succ links ih =>
      rw [walk] at h
      split at h
      · cases h
      · rename_i hadvance
        cases h
        exact shows_of_advance hadvance
      · exact ih h

/-- A way ends at a link only if the last link is not followed. -/
theorem walk_link (h : t.walk followLast links slash dir pieces = .ok (.found q (.link target))) :
    followLast = false ∧ slash = false := by
  induction links generalizing slash dir pieces with
  | zero =>
      rw [walk] at h
      split at h
      · cases h
      · rename_i hadvance
        cases h
        exact arrived_link hadvance
      · cases h
  | succ links ih =>
      rw [walk] at h
      split at h
      · cases h
      · rename_i hadvance
        cases h
        exact arrived_link hadvance
      · have hrest := ih h
        simp only [Bool.or_eq_false_iff] at hrest
        exact ⟨hrest.1, hrest.2.1⟩

/-! ## Putting a file -/

/-- A step to a file ends a path. -/
theorem advance_file {step : Text} {rest : List Text} (hdot : step ≠ ['.'])
    (hdots : step ≠ ['.', '.']) (hnode : t.node? (dir ++ [step]) = some (.file content))
    (hrest : rest.isEmpty) :
    t.advance followLast slash dir (step :: rest) =
      .ok (.arrived (if slash then .blocked else .found (dir ++ [step]) (.file content))) := by
  rw [advance, if_neg hdot, if_neg hdots, hnode]
  cases slash <;> simp [hrest]

/-- A path goes the same way once a file was put at a location, unless it goes through a link that
stood there. -/
theorem advance_put (content : ByteArray) (hplace : t.node? place ≠ some .directory) {halt : Halt}
    (h : t.advance followLast slash dir pieces = .ok halt) :
    (t.put place (.file content)).advance followLast slash dir pieces =
        .ok (halt.written place content) ∨
      ∃ target rest, halt = .atLink place.dropLast target rest ∧
        t.node? place = some (.link target) ∧ (rest ≠ [] ∨ slash ∨ followLast) := by
  -- The new file is met at its location and nowhere else.
  have hput : ∀ {dir : Location} {step : Text}, dir ++ [step] = place →
      (t.put place (.file content)).node? (dir ++ [step]) = some (.file content) := by
    rintro dir step rfl
    exact node?_put_self t (by simp) _
  have hother : ∀ {dir : Location} {step : Text}, dir ++ [step] ≠ place →
      (t.put place (.file content)).node? (dir ++ [step]) = t.node? (dir ++ [step]) :=
    fun hne => node?_put_of_ne t hne _
  fun_induction advance t followLast slash dir pieces with
  | case1 =>
      cases h
      exact .inl rfl
  | case2 dir rest ih =>
      rw [advance, if_pos rfl]
      exact ih h
  | case3 dir rest hdot ih =>
      rw [advance, if_neg hdot, if_pos rfl]
      exact ih h
  | case4 dir step rest hdot hdots hnode hrest =>
      cases h
      left
      by_cases heq : dir ++ [step] = place
      · rw [advance_file hdot hdots (hput heq) hrest, heq]
        simp [Halt.written, Spot.written, heq]
      · rw [advance, if_neg hdot, if_neg hdots, hother heq, hnode]
        simp [Halt.written, Spot.written, heq, hrest]
  | case5 => cases h
  | case6 dir step rest hdot hdots hnode ih =>
      -- A directory stands here, so this is not where the file was put.
      have hne : dir ++ [step] ≠ place := by
        rintro rfl
        exact hplace hnode
      rw [advance, if_neg hdot, if_neg hdots, hother hne, hnode]
      exact ih h
  | case7 => cases h
  | case8 dir step rest hdot hdots content' hnode hrest hslash =>
      cases h
      left
      have hend : rest.isEmpty := by simpa using hrest
      by_cases heq : dir ++ [step] = place
      · rw [advance_file hdot hdots (hput heq) hend, if_pos hslash]
        rfl
      · rw [advance_file hdot hdots ((hother heq).trans hnode) hend, if_pos hslash]
        rfl
  | case9 dir step rest hdot hdots content' hnode hrest hslash =>
      cases h
      left
      have hend : rest.isEmpty := by simpa using hrest
      by_cases heq : dir ++ [step] = place
      · rw [advance_file hdot hdots (hput heq) hend, if_neg hslash]
        simp [Halt.written, Spot.written, heq]
      · rw [advance_file hdot hdots ((hother heq).trans hnode) hend, if_neg hslash]
        simp [Halt.written, Spot.written, heq]
  | case10 dir step rest hdot hdots target hnode hlast =>
      cases h
      left
      have hend : rest.isEmpty ∧ ¬slash := by
        simp only [Bool.and_eq_true, Bool.not_eq_true'] at hlast
        simpa using hlast.1
      by_cases heq : dir ++ [step] = place
      · rw [advance_file hdot hdots (hput heq) hend.1, if_neg hend.2]
        simp [Halt.written, Spot.written, heq]
      · rw [advance, if_neg hdot, if_neg hdots, hother heq, hnode]
        simp only [hlast, if_true, Halt.written, Spot.written, if_neg heq]
  | case11 dir step rest hdot hdots target hnode hlast =>
      cases h
      -- This is the link in whose place the file was put, or another one.
      by_cases heq : dir ++ [step] = place
      · right
        subst heq
        refine ⟨target, rest, by simp, hnode, ?_⟩
        cases rest <;> cases slash <;> cases followLast <;> simp_all
      · left
        rw [advance, if_neg hdot, if_neg hdots, hother heq, hnode]
        simp only [hlast, Halt.written]
        rfl

/-- Putting a file where none is or where a file was changes no path but those that lead there. -/
theorem walk_put (content : ByteArray) (hplace : t.node? place ≠ some .directory)
    (hlink : ∀ target, t.node? place ≠ some (.link target))
    (h : t.walk followLast links slash dir pieces = .ok spot) :
    (t.put place (.file content)).walk followLast links slash dir pieces =
      .ok (spot.written place content) := by
  -- No link is lost at `place`, so between two links nothing changes but the file.
  have hadvance : ∀ {slash dir pieces halt}, t.advance followLast slash dir pieces = .ok halt →
      (t.put place (.file content)).advance followLast slash dir pieces =
        .ok (halt.written place content) := by
    intro slash dir pieces halt h
    rcases advance_put content hplace h with h | ⟨target, rest, -, hnode, -⟩
    · exact h
    · exact absurd hnode (hlink target)
  induction links generalizing slash dir pieces with
  | zero =>
      rw [walk] at h ⊢
      split at h
      · cases h
      · rename_i hhalt
        cases h
        rw [hadvance hhalt]
        rfl
      · cases h
  | succ links ih =>
      rw [walk] at h ⊢
      split at h
      · cases h
      · rename_i hhalt
        cases h
        rw [hadvance hhalt]
        rfl
      · rename_i hhalt
        rw [hadvance hhalt]
        exact ih h

/-! ## Links on the way -/

/-- A path that goes on behind some of its pieces has a directory there. -/
theorem advance_start {rest : List Text} (hrest : rest ≠ []) {halt : Halt}
    (h : t.advance followLast slash dir (pieces ++ rest) = .ok halt) :
    (∃ r, ∀ slash, t.advance true slash dir pieces = .ok (.arrived (.found r .directory))) ∨
      ∃ d target more, halt = .atLink d target (more ++ rest) ∧
        ∀ slash, t.advance true slash dir pieces = .ok (.atLink d target more) := by
  induction pieces generalizing dir with
  | nil => exact .inl ⟨dir, fun _ => rfl⟩
  | cons step more ih =>
      have hgoes : (more ++ rest).isEmpty = false := by simpa using fun _ => hrest
      rw [List.cons_append, advance] at h
      by_cases hdot : step = ['.']
      · subst hdot
        exact ih h
      · by_cases hdots : step = ['.', '.']
        · subst hdots
          exact ih h
        · simp only [if_neg hdot, if_neg hdots] at h
          cases hnode : t.node? (dir ++ [step]) with
          -- More steps follow, so only a directory or a link can stand here.
          | none => simp [hnode, hgoes] at h
          | some node =>
              cases node with
              | directory =>
                  simp only [hnode] at h
                  simpa only [advance, if_neg hdot, if_neg hdots, hnode] using ih h
              | file content => simp [hnode, hgoes] at h
              | link target =>
                  simp only [hnode, hgoes, Bool.false_and] at h
                  cases h
                  refine .inr ⟨dir, target, more, rfl, fun slash => ?_⟩
                  rw [advance, if_neg hdot, if_neg hdots, hnode]
                  simp

/-- The beginning of a way leads to a directory. -/
theorem walk_start {rest : List Text} (hrest : rest ≠ [])
    (h : t.walk followLast links slash dir (pieces ++ rest) = .ok spot) :
    ∃ r, ∀ slash, t.walk true links slash dir pieces = .ok (.found r .directory) := by
  induction links generalizing slash dir pieces with
  | zero =>
      rw [walk] at h
      split at h
      · cases h
      · rename_i hhalt
        rcases advance_start hrest hhalt with ⟨r, hr⟩ | ⟨_, _, _, heq, -⟩
        · exact ⟨r, fun slash => by rw [walk, hr slash]⟩
        · cases heq
      · cases h
  | succ links ih =>
      rw [walk] at h
      split at h
      · cases h
      · rename_i hhalt
        rcases advance_start hrest hhalt with ⟨r, hr⟩ | ⟨_, _, _, heq, -⟩
        · exact ⟨r, fun slash => by rw [walk, hr slash]⟩
        · cases heq
      · rename_i hhalt
        rcases advance_start hrest hhalt with ⟨r, hr⟩ | ⟨d, target, more, heq, hmore⟩
        · exact ⟨r, fun slash => by rw [walk, hr slash]⟩
        · cases heq
          -- Behind the link its target takes the place of the pieces before it.
          rw [← List.append_assoc] at h
          rcases ih h with ⟨r, hr⟩
          refine ⟨r, fun slash => ?_⟩
          rw [walk, hmore slash]
          exact hr _

/-- With fewer links to follow a path leads to the same place, or nowhere. -/
theorem walk_of_le {links' : Nat} (hle : links' ≤ links)
    (h : t.walk followLast links slash dir pieces = .ok spot) :
    t.walk followLast links' slash dir pieces = .ok spot ∨
      t.walk followLast links' slash dir pieces = .error .tooManyLinks := by
  -- Both walks take the same steps until the one with fewer links runs out of them.
  induction links' generalizing links slash dir pieces with
  | zero =>
      cases links <;> rw [walk] at h ⊢ <;> split at h
      · cases h
      · exact .inl h
      · cases h
      · cases h
      · exact .inl h
      · exact .inr rfl
  | succ links' ih =>
      rcases Nat.exists_eq_add_of_le' (Nat.one_le_of_lt hle) with ⟨links, rfl⟩
      rw [walk] at h ⊢
      split at h
      · cases h
      · exact .inl h
      · exact ih (Nat.le_of_succ_le_succ hle) h

/-- Following the last link makes a difference only where a path ends at one. -/
theorem advance_followLast {halt : Halt} (h : t.advance false slash dir pieces = .ok halt) :
    t.advance true slash dir pieces = .ok halt ∨
      ∃ q target, halt = .arrived (.found q (.link target)) ∧ slash = false ∧
        t.advance true slash dir pieces = .ok (.atLink q.dropLast target []) := by
  fun_induction advance t false slash dir pieces with
  | case1 => exact .inl h
  | case2 dir rest ih =>
      rw [advance, if_pos rfl]
      exact ih h
  | case3 dir rest hdot ih =>
      rw [advance, if_neg hdot, if_pos rfl]
      exact ih h
  | case4 dir step rest hdot hdots hnode hrest =>
      left
      rw [advance, if_neg hdot, if_neg hdots, hnode]
      simpa only [hrest, if_true] using h
  | case5 => cases h
  | case6 dir step rest hdot hdots hnode ih =>
      rw [advance, if_neg hdot, if_neg hdots, hnode]
      exact ih h
  | case7 => cases h
  | case8 dir step rest hdot hdots content' hnode hrest hslash =>
      left
      rw [advance_file hdot hdots hnode (by simpa using hrest), if_pos hslash]
      exact h
  | case9 dir step rest hdot hdots content' hnode hrest hslash =>
      left
      rw [advance_file hdot hdots hnode (by simpa using hrest), if_neg hslash]
      exact h
  -- The one case that differs: the path ends at a link, which is now followed.
  | case10 dir step rest hdot hdots target hnode hlast =>
      right
      cases h
      simp only [Bool.and_eq_true, Bool.not_eq_true', List.isEmpty_iff] at hlast
      refine ⟨dir ++ [step], target, rfl, hlast.1.2, ?_⟩
      rw [advance, if_neg hdot, if_neg hdots, hnode, hlast.1.1]
      simp
  | case11 dir step rest hdot hdots target hnode hlast =>
      left
      rw [advance, if_neg hdot, if_neg hdots, hnode]
      simpa using h

/-- A path that leads to something else than a link leads there if the last link is followed. -/
theorem walk_followLast (h : t.walk false links slash dir pieces = .ok spot)
    (hspot : ∀ q target, spot ≠ .found q (.link target)) :
    t.walk true links slash dir pieces = .ok spot := by
  induction links generalizing slash dir pieces with
  | zero =>
      rw [walk] at h ⊢
      split at h
      · cases h
      -- An advance that arrives, at something else than a link.
      · rename_i hhalt
        rcases advance_followLast hhalt with hsame | ⟨q, target, heq, -, -⟩
        · rw [hsame]
          exact h
        · cases heq
          cases h
          exact absurd rfl (hspot q target)
      · cases h
  | succ links ih =>
      rw [walk] at h ⊢
      split at h
      · cases h
      · rename_i hhalt
        rcases advance_followLast hhalt with hsame | ⟨q, target, heq, -, -⟩
        · rw [hsame]
          exact h
        · cases heq
          cases h
          exact absurd rfl (hspot q target)
      · rename_i hhalt
        rcases advance_followLast hhalt with hsame | ⟨q, target, heq, -, -⟩
        · rw [hsame]
          exact ih h
        · cases heq

/-- A path that leads to a link leads where the link does if the last link is followed. -/
theorem walk_target (h : t.walk false links slash dir pieces = .ok (.found q (.link target))) :
    t.walk true links slash dir pieces = .error .tooManyLinks ∨
      ∃ n, n < links ∧ t.walk true links slash dir pieces =
        t.walk true n (endsInSlash target) (if target.isAbsolute then [] else q.dropLast)
          (steps target) := by
  induction links generalizing slash dir pieces with
  | zero =>
      rw [walk] at h ⊢
      split at h
      · cases h
      · rename_i hhalt
        cases h
        rcases arrived_link hhalt with ⟨hlast, hslash⟩
        rcases advance_followLast hhalt with hsame | ⟨q, target, heq, -, hlink⟩
        · exact absurd (arrived_link hsame).1 (by simp)
        · cases heq
          rw [hlink]
          exact .inl rfl
      · cases h
  | succ links ih =>
      rw [walk] at h ⊢
      split at h
      · cases h
      · rename_i hhalt
        cases h
        rcases advance_followLast hhalt with hsame | ⟨q, target, heq, hslash, hlink⟩
        · exact absurd (arrived_link hsame).1 (by simp)
        · cases heq
          -- The walk ends here, so one link is spent on the last one.
          refine .inr ⟨links, Nat.lt_succ_self links, ?_⟩
          rw [hlink, hslash]
          simp
      · rename_i hhalt
        rcases advance_followLast hhalt with hsame | ⟨q, target, heq, -, -⟩
        · rw [hsame]
          rcases ih h with hmany | ⟨n, hn, hwalk⟩
          · exact .inl hmany
          · exact .inr ⟨n, Nat.lt_succ_of_lt hn, hwalk⟩
        · cases heq

/-- A file that is put in the place of a link that leads nowhere is found where the link was. -/
theorem walk_put_link (content : ByteArray)
    (h : t.walk false links slash dir pieces = .ok (.found q (.link target)))
    (hlost : ∀ r, t.walk true links slash dir pieces ≠ .ok (.found r .directory))
    (hends : t.walk true links slash dir pieces ≠ .error .tooManyLinks) :
    (t.put q (.file content)).walk false links slash dir pieces = .ok (.found q (.file content)) := by
  have hnode : t.node? q = some (.link target) := by
    rcases shows_of_walk h with hnode | hnode
    · cases hnode
    · exact hnode
  have hplace : t.node? q ≠ some .directory := by simp [hnode]
  induction links generalizing slash dir pieces with
  | zero =>
      rw [walk] at h ⊢
      split at h
      · cases h
      · rename_i hhalt
        cases h
        rcases advance_put content hplace hhalt with hput | ⟨_, _, heq, -⟩
        · rw [hput]
          simp [Halt.written, Spot.written]
        · cases heq
      · cases h
  | succ links ih =>
      rw [walk] at h ⊢
      split at h
      · cases h
      · rename_i hhalt
        cases h
        rcases advance_put content hplace hhalt with hput | ⟨_, _, heq, -⟩
        · rw [hput]
          simp [Halt.written, Spot.written]
        · cases heq
      · rename_i d target' rest hhalt
        -- A link on the way is followed whether or not the last one is.
        have hsame : t.walk true (links + 1) slash dir pieces =
            t.walk true links (slash || (rest.isEmpty && endsInSlash target'))
              (if target'.isAbsolute then [] else d) (steps target' ++ rest) := by
          rcases advance_followLast hhalt with hsame | ⟨_, _, heq, -, -⟩
          · rw [walk, hsame]
          · cases heq
        rw [hsame] at hlost hends
        rcases advance_put content hplace hhalt with hput | ⟨target'', rest', heq, hnode', hgoes⟩
        · rw [hput]
          exact ih h hlost hends
        · -- The path would go through the link and on, so the link would lead to a directory.
          cases heq
          obtain rfl : target' = target := by
            rw [hnode] at hnode'
            injection hnode' with hnode'
            injection hnode' with hnode'
            exact hnode'.symm
          have hslash : slash = false := (Bool.or_eq_false_iff.1 (walk_link h).2).1
          have hrest : rest ≠ [] := by simpa [hslash] using hgoes
          rcases walk_start hrest h with ⟨r, hr⟩
          rcases walk_target h with hmany | ⟨n, hn, hwalk⟩
          · exact absurd hmany hends
          · rw [hwalk] at hlost hends
            rcases walk_of_le (Nat.le_of_lt hn) (hr _) with hfound | hmany
            · exact absurd hfound (hlost r)
            · exact absurd hmany hends

/-! ## Whole paths -/

theorem shows_of_resolve {p : Path} (h : t.resolve followLast p = .ok spot) : t.Shows spot := by
  rw [resolve] at h
  split at h
  · cases h
  · exact shows_of_walk h

/-- A file that is put in place of no directory and no link changes what paths lead to at its own
place only. -/
theorem resolve_put {p : Path} (content : ByteArray) (hplace : t.node? place ≠ some .directory)
    (hlink : ∀ target, t.node? place ≠ some (.link target))
    (h : t.resolve followLast p = .ok spot) :
    (t.put place (.file content)).resolve followLast p = .ok (spot.written place content) := by
  rw [resolve] at h ⊢
  split at h
  · cases h
  · rename_i hempty
    rw [if_neg hempty]
    exact walk_put content hplace hlink h

/-- A file that is put where a file was found is found there. -/
theorem resolve_put_file {p : Path} {old : ByteArray} (content : ByteArray)
    (h : t.resolve followLast p = .ok (.found q (.file old))) :
    (t.put q (.file content)).resolve followLast p = .ok (.found q (.file content)) := by
  have hnode : t.node? q = some (.file old) := (shows_of_resolve h).resolve_left (by simp)
  have hdir : t.node? q ≠ some .directory := by simp [hnode]
  have hput := resolve_put content hdir (by simp [hnode]) h
  simpa [Spot.written] using hput

/-- So is one that is put at a free name. -/
theorem resolve_put_vacant {p : Path} {name : Text} (content : ByteArray)
    (h : t.resolve followLast p = .ok (.vacant dir name false)) :
    (t.put (dir ++ [name]) (.file content)).resolve followLast p =
      .ok (.found (dir ++ [name]) (.file content)) := by
  have hfree : t.node? (dir ++ [name]) = none := shows_of_resolve h
  have hdir : t.node? (dir ++ [name]) ≠ some .directory := by simp [hfree]
  have hput := resolve_put content hdir (by simp [hfree]) h
  simpa [Spot.written] using hput

/-- A path that does not end in a link leads to the same with links followed. -/
theorem resolve_followLast {p : Path} (h : t.resolve false p = .ok spot)
    (hspot : ∀ q target, spot ≠ .found q (.link target)) : t.resolve true p = .ok spot := by
  rw [resolve] at h ⊢
  split at h
  · cases h
  · rename_i hempty
    rw [if_neg hempty]
    exact walk_followLast h hspot

/-- If a file is put in place of a link, the path of the link leads to the file. -/
theorem resolve_put_link {p : Path} (content : ByteArray)
    (h : t.resolve false p = .ok (.found q (.link target)))
    (hlost : ∀ r, t.resolve true p ≠ .ok (.found r .directory))
    (hends : t.resolve true p ≠ .error .tooManyLinks) :
    (t.put q (.file content)).resolve false p = .ok (.found q (.file content)) := by
  rw [resolve] at h hlost hends ⊢
  split at h
  · cases h
  · rename_i hempty
    rw [if_neg hempty] at hlost hends ⊢
    exact walk_put_link content h hlost hends

end FileTree

end CiteIndex
