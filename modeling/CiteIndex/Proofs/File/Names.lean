import CiteIndex.File.Access
import CiteIndex.Proofs.Candidate.Ranking
import CiteIndex.Proofs.Text.Words
import CiteIndex.Proofs.Url.Segments

/-!
# Names below a directory

The path of a name in a directory is the path of the directory with one more component. That
component is the name, so different names have different paths.

- `IsName`: what something in a directory can be called
- `Path.fileName?_join`, `Path.isName_of_fileName?`: the names of paths are names
- `FileTree.steps_join`: the way to a name in a directory
- `Path.compare_eq_compare`: paths are compared part by part
-/

namespace CiteIndex

structure IsName (name : Text) : Prop where
  ne_nil : name ≠ []
  ne_here : name ≠ ['.']
  ne_up : name ≠ ['.', '.']
  slash_not_mem : '/' ∉ name

instance (name : Text) : Decidable (IsName name) :=
  decidable_of_iff (name ≠ [] ∧ name ≠ ['.'] ∧ name ≠ ['.', '.'] ∧ '/' ∉ name)
    ⟨fun h => ⟨h.1, h.2.1, h.2.2.1, h.2.2.2⟩, fun h => ⟨h.1, h.2, h.3, h.4⟩⟩

variable {base p q : Path} {name : Text}

namespace IsName

theorem splitWhere_eq (h : IsName name) : Text.splitWhere (· == '/') name = [name] :=
  Text.splitWhere_eq_singleton (Text.beq_mark_of_not_mem h.slash_not_mem)

theorem isIdle_eq (h : IsName name) : Path.isIdle name = false := by
  simp [Path.isIdle, h.ne_nil, h.ne_here]

theorem ofPiece_eq (h : IsName name) : Path.Component.ofPiece name = .name name := by
  simp [Path.Component.ofPiece, h.ne_up]

theorem head_ne (h : IsName name) : name.head? ≠ some '/' := fun hhead =>
  h.slash_not_mem (List.mem_of_mem_head? hhead)

end IsName

namespace Path

/-! ## Paths of names -/

/-- The path of a name goes on behind that of its directory, or behind all of it but the slash at
the end. -/
theorem exists_join (hname : IsName name) (hbase : base.text ≠ []) :
    ∃ front, (base.join ⟨name⟩).text = front ++ '/' :: name ∧
      (base.text = front ∨ base.text = front ++ ['/']) := by
  have hrelative : isAbsolute ⟨name⟩ = false := by simpa [isAbsolute] using hname.head_ne
  rw [join, hrelative, Bool.false_or, if_neg (by simpa using hbase)]
  by_cases hslash : base.text.endsWith ['/']
  · obtain ⟨front, hfront⟩ : ['/'] <:+ base.text := by simpa [Text.endsWith] using hslash
    refine ⟨front, ?_, .inr hfront.symm⟩
    rw [if_pos hslash, ← hfront, List.append_assoc, List.singleton_append]
  · exact ⟨base.text, by rw [if_neg hslash], .inl rfl⟩

theorem trimIdle_append (hname : isIdle name = false) (pieces : List Text) :
    trimIdle (pieces ++ [name]) = pieces ++ [name] := by
  simp [trimIdle, hname]

/-- What stands behind a slash is the last component. -/
theorem fileName?_of_append (hname : IsName name) {front : Text}
    (hp : p.text = front ++ '/' :: name) : p.fileName? = some name := by
  obtain ⟨first, rest, hfront⟩ := List.exists_cons_of_ne_nil
    (Text.splitWhere_ne_nil (· == '/') front)
  have hpieces : p.pieces = (first, rest ++ [name]) := by
    rw [pieces, hp, Text.splitWhere_append_cons rfl, hfront, hname.splitWhere_eq]
    simp [trimIdle_append hname.isIdle_eq]
  have hlast : ∀ c cs, (c :: (cs ++ [Component.name name])).getLast? = some (.name name) :=
    fun c cs => by rw [← List.cons_append, List.getLast?_concat]
  have hcomponents : p.components.getLast? = some (.name name) := by
    rw [components, hpieces]
    simp only [hp, List.isEmpty_iff, List.append_eq_nil_iff, reduceCtorEq, and_false, if_false,
      List.filter_append, List.map_append, List.filter_cons, hname.isIdle_eq, Bool.not_false,
      if_true, List.filter_nil, List.map_cons, List.map_nil, hname.ofPiece_eq]
    split
    · exact hlast _ _
    · split
      · exact hlast _ _
      · exact hlast _ _
  rw [fileName?, hcomponents]

/-- The last component of the path of a name in a directory is the name. -/
theorem fileName?_join (hname : IsName name) (base : Path) :
    (base.join ⟨name⟩).fileName? = some name := by
  by_cases hbase : base.text = []
  · have hjoin : base.join ⟨name⟩ = ⟨name⟩ := by simp [join, hbase]
    have hpieces : pieces ⟨name⟩ = (name, []) := by
      rw [pieces, hname.splitWhere_eq]
      rfl
    rw [hjoin, fileName?, components, hpieces]
    simp [hname.ne_nil, hname.ne_here, hname.ofPiece_eq]
  · obtain ⟨front, hjoin, -⟩ := exists_join hname hbase
    exact fileName?_of_append hname hjoin

/-- Different names below a path make different paths. -/
theorem join_inj {name' : Text} (hname : IsName name) (hname' : IsName name') :
    base.join ⟨name⟩ = base.join ⟨name'⟩ ↔ name = name' := by
  constructor
  · intro h
    rw [← Option.some_inj, ← fileName?_join hname base, h, fileName?_join hname' base]
  · rintro rfl
    rfl

/-! ## Names of paths -/

theorem isName_of_ofPiece {piece : Text} (h : Component.ofPiece piece = .name name)
    (hidle : isIdle piece = false) (hslash : '/' ∉ piece) : IsName name := by
  rw [Component.ofPiece] at h
  split at h
  · cases h
  · rename_i hup
    cases h
    rw [isIdle, Bool.or_eq_false_iff, List.isEmpty_eq_false_iff, beq_eq_false_iff_ne] at hidle
    exact ⟨hidle.1, hidle.2, by simpa using hup, hslash⟩

theorem slash_not_mem_pieces {first : Text} {rest : List Text} (h : p.pieces = (first, rest)) :
    ∀ piece ∈ first :: rest, '/' ∉ piece := by
  have hsplit : ∀ piece ∈ Text.splitWhere (· == '/') p.text, '/' ∉ piece := fun piece hpiece hc =>
    absurd (Text.not_separator_of_mem_splitWhere hpiece '/' hc).1 (by decide)
  rw [pieces] at h
  split at h
  · cases h
    simp
  · rename_i hpieces
    cases h
    intro piece hpiece
    refine hsplit piece ?_
    rw [hpieces]
    rcases List.mem_cons.1 hpiece with rfl | hpiece
    · exact List.mem_cons_self
    · have hkept := (List.dropWhile_sublist _).mem (List.mem_reverse.1 hpiece)
      exact List.mem_cons_of_mem _ (List.mem_reverse.1 hkept)

/-- Names in a path are such that something can have them. -/
theorem isName_of_mem_components (h : .name name ∈ p.components) : IsName name := by
  rw [components] at h
  cases hpieces : p.pieces with
  | mk first rest =>
      have hslash := slash_not_mem_pieces hpieces
      have htail : .name name ∈ (rest.filter fun piece => !isIdle piece).map Component.ofPiece →
          IsName name := by
        intro h
        obtain ⟨piece, hpiece, hname⟩ := List.mem_map.1 h
        obtain ⟨hpiece, hidle⟩ := List.mem_filter.1 hpiece
        exact isName_of_ofPiece hname (by simpa using hidle)
          (hslash piece (List.mem_cons_of_mem _ hpiece))
      simp only [hpieces] at h
      split at h
      · cases h
      · split at h
        · exact htail (by simpa using h)
        · rename_i hne
          split at h
          · exact htail (by simpa using h)
          · rename_i hhere
            rcases List.mem_cons.1 h with h | h
            · exact isName_of_ofPiece h.symm (by simp [isIdle, hne, hhere])
                (hslash first List.mem_cons_self)
            · exact htail h

/-- What is the name of a path can be that of something in a directory. -/
theorem isName_of_fileName? (h : p.fileName? = some name) : IsName name := by
  rw [fileName?] at h
  split at h
  · rename_i hlast
    cases h
    exact isName_of_mem_components (List.mem_of_mem_getLast? hlast)
  · cases h

/-! ## Order -/

/-- The parts of a component, the first of which tells its sort. -/
def Component.parts : Component → List Text
  | .root => [['0']]
  | .here => [['1']]
  | .up => [['2']]
  | .name t => [['3'], t]

theorem Component.parts_injective : Function.Injective Component.parts := by
  intro a b h
  cases a <;> cases b <;> simp_all [parts]

theorem Component.compare_eq_compare (a b : Component) :
    a.compare b = Ord.compare a.parts b.parts := by
  cases a with
  | name t =>
      cases b with
      | name t' => simp [Component.compare, parts, Text.compare_eq_compare, List.compare_cons_cons]
      | _ => rfl
  | _ => cases b <;> rfl

/-- Paths are compared as lists of their components' parts. -/
theorem compareComponents_eq_compare (cs ds : List Component) :
    compareComponents cs ds = Ord.compare (cs.map Component.parts) (ds.map Component.parts) := by
  fun_induction compareComponents cs ds with
  | case1 => rfl
  | case2 => rfl
  | case3 => rfl
  | case4 a as b bs ih =>
      rw [List.map_cons, List.map_cons, List.compare_cons_cons, ih, Component.compare_eq_compare]

instance : Std.TransCmp compare where
  eq_swap := by
    intro p q
    rw [compare, compare, compareComponents_eq_compare, compareComponents_eq_compare]
    exact Std.OrientedOrd.eq_swap
  isLE_trans := by
    intro p q r
    rw [compare, compare, compare, compareComponents_eq_compare, compareComponents_eq_compare,
      compareComponents_eq_compare]
    exact Std.TransOrd.isLE_trans

/-- Paths that are alike in order have the same components. -/
theorem components_of_compare (h : p.compare q = .eq) : p.components = q.components := by
  rw [compare, compareComponents_eq_compare] at h
  exact List.map_injective_iff.2 Component.parts_injective (Std.LawfulEqOrd.eq_of_compare h)

end Path

/-! ## The way to a name -/

namespace FileTree

/-- A name below a base is one more step on the way. -/
theorem steps_join (hname : IsName name) (hbase : base.text ≠ []) :
    steps (base.join ⟨name⟩) = steps base ++ [name] := by
  obtain ⟨front, hjoin, hfront⟩ := Path.exists_join hname hbase
  have hsteps : steps (base.join ⟨name⟩) =
      (Text.splitWhere (· == '/') front).filter (fun piece => !piece.isEmpty) ++ [name] := by
    rw [steps, hjoin, Text.splitWhere_append_cons rfl, List.filter_append, hname.splitWhere_eq]
    simp [hname.ne_nil]
  rw [hsteps]
  rcases hfront with hfront | hfront
  · rw [steps, hfront]
  · rw [steps, hfront, Text.splitWhere_append_cons rfl, List.filter_append]
    simp [Text.splitWhere]

theorem endsInSlash_join (hname : IsName name) (hbase : base.text ≠ []) :
    endsInSlash (base.join ⟨name⟩) = false := by
  obtain ⟨front, hjoin, -⟩ := Path.exists_join hname hbase
  rw [endsInSlash, hjoin, Text.endsWith, Bool.eq_false_iff]
  intro hslash
  obtain ⟨init, hinit⟩ := List.isSuffixOf_iff_suffix.1 hslash
  have hlast : name.getLast? = some '/' := by
    obtain ⟨c, hc⟩ := Option.isSome_iff_exists.1 (List.getLast?_isSome.2 hname.ne_nil)
    have hends := congrArg List.getLast? hinit
    rw [List.getLast?_concat, List.getLast?_append, List.getLast?_cons, hc] at hends
    rw [hc]
    exact hends.symm
  exact hname.slash_not_mem (List.mem_of_mem_getLast? hlast)

theorem isAbsolute_join (hname : IsName name) (hbase : base.text ≠ []) :
    (base.join ⟨name⟩).isAbsolute = base.isAbsolute := by
  obtain ⟨front, hjoin, hfront⟩ := Path.exists_join hname hbase
  rw [Path.isAbsolute, Path.isAbsolute, hjoin]
  rcases hfront with hfront | hfront
  · obtain ⟨c, cs, hcons⟩ := List.exists_cons_of_ne_nil hbase
    rw [← hfront, hcons]
    rfl
  · rw [hfront]
    cases front <;> rfl

end FileTree

end CiteIndex
