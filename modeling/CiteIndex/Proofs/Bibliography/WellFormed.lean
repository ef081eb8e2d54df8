import CiteIndex.Proofs.Bibliography.Authors

/-!
# What holds of every entry

A file may hold anything, yet an entry that is read from it is in order: its key can be cited and
cites no other entry of the file, its type is a name in lower case, and its texts are clean. What
becomes no entry is left out for one of three reasons.

- `Entry.IsWellFormed`: an entry in order
- `Entry.isWellFormed_ofBlock`: blocks of a citable type with a usable key give such entries
- `Entry.Keeps`: which of some blocks become entries
- `Entry.keeps_citable`: the blocks that are kept
- `Entry.parse_wellFormed`: the entries of a file
-/

namespace CiteIndex

namespace Bibliography

namespace Entry

/-! ## Entries in order -/

inductive IsLowerName : Text → Prop where
  | mk {c : Char} {cs : Text} (start : 'a' ≤ c ∧ c ≤ 'z')
      (more : ∀ d ∈ cs, 'a' ≤ d ∧ d ≤ 'z' ∨ '0' ≤ d ∧ d ≤ '9' ∨ d = '_' ∨ d = '-') :
      IsLowerName (c :: cs)

structure IsWellFormed (e : Entry) : Prop where
  key_ne_nil : e.key ≠ []
  key_char : ∀ c ∈ e.key, Text.isBlank c = false ∧ c ≠ ','
  kind_name : IsLowerName e.kind
  kind_citable : e.kind ∉ Block.pseudoKinds
  title : ∀ t ∈ e.title, IsClean t
  author : ∀ t ∈ e.author, IsClean t
  journal : ∀ t ∈ e.journal, IsClean t
  booktitle : ∀ t ∈ e.booktitle, IsClean t
  year : ∀ y ∈ e.year, y.length = 4 ∧ ∀ c ∈ y, '0' ≤ c ∧ c ≤ '9'

/-! ## Types -/

theorem toLower_of_isKindChar {c : Char} (hc : Block.isKindChar c) :
    (c.isAlpha → 'a' ≤ c.toLower ∧ c.toLower ≤ 'z') ∧
      ('a' ≤ c.toLower ∧ c.toLower ≤ 'z' ∨ '0' ≤ c.toLower ∧ c.toLower ≤ '9' ∨ c.toLower = '_' ∨
        c.toLower = '-') := by
  have hall : ∀ n < 128, Block.isKindChar (Char.ofNat n) →
      ((Char.ofNat n).isAlpha → 'a' ≤ (Char.ofNat n).toLower ∧ (Char.ofNat n).toLower ≤ 'z') ∧
        ('a' ≤ (Char.ofNat n).toLower ∧ (Char.ofNat n).toLower ≤ 'z' ∨
          '0' ≤ (Char.ofNat n).toLower ∧ (Char.ofNat n).toLower ≤ '9' ∨
            (Char.ofNat n).toLower = '_' ∨ (Char.ofNat n).toLower = '-') := by decide
  have hcode := hall c.toNat (Block.code_of_isKindChar hc)
  rw [Char.ofNat_toNat] at hcode
  exact hcode hc

/-- The type of every block is such a name in lower case. -/
theorem isLowerName_of_mem_scan {t : Text} {b : Block} (hb : b ∈ Block.scan t) :
    IsLowerName b.kind.lowerAscii := by
  obtain ⟨⟨⟨c, cs, hkind, hletter⟩, hchars⟩, -⟩ := Block.parts_of_mem_scan hb
  rw [hkind] at hchars ⊢
  refine .mk ((toLower_of_isKindChar (hchars c List.mem_cons_self)).1 hletter) ?_
  intro d hd
  obtain ⟨d', hd', rfl⟩ := List.mem_map.1 hd
  exact (toLower_of_isKindChar (hchars d' (List.mem_cons_of_mem c hd'))).2

theorem not_pseudo_lowerAscii {b : Block} (hb : b.isPseudo = false) :
    b.kind.lowerAscii ∉ Block.pseudoKinds := by
  intro hmem
  have hlower : ∀ k ∈ Block.pseudoKinds, k.lowerAscii = k := by decide
  have hnot := List.any_eq_false.1 hb _ hmem
  apply hnot
  rw [Text.sameIgnoringCase, hlower _ hmem, beq_self_eq_true]

/-! ## Keys and years -/

theorem isUsableKey_iff {k : Text} :
    isUsableKey k ↔ k ≠ [] ∧ ∀ c ∈ k, Text.isBlank c = false := by
  simp [isUsableKey]

theorem ne_comma_of_mem_key {b : Block} {c : Char} : c ∈ b.key → c ≠ ',' := by
  intro hc
  have hpart := List.all_takeWhile (p := (· != ',')) (l := b.body)
  simpa using List.all_eq_true.1 hpart c (Text.mem_of_mem_trim hc)

/-- A year is written in four decimal digits. -/
theorem digits_of_year? {t y : Text} (h : year? t = some y) :
    y.length = 4 ∧ ∀ c ∈ y, '0' ≤ c ∧ c ≤ '9' := by
  simp only [year?, Option.ite_none_right_eq_some, Bool.and_eq_true, beq_iff_eq] at h
  obtain ⟨⟨hfour, -⟩, hdigits⟩ := h
  obtain rfl := Option.some.inj hdigits
  refine ⟨hfour, ?_⟩
  intro c hc
  have hdigit := List.all_eq_true.1 (List.all_takeWhile (p := Char.isDigit) (l := t)) c hc
  simp only [Char.isDigit, Bool.and_eq_true, decide_eq_true_eq] at hdigit
  exact hdigit

/-- A block of a citable type with a usable key describes a well-formed entry. -/
theorem isWellFormed_ofBlock (source : Path) {t : Text} {b : Block} (hb : b ∈ Block.scan t)
    (hpseudo : b.isPseudo = false) (hkey : isUsableKey b.key) :
    (ofBlock source b).IsWellFormed := by
  obtain ⟨hne, hink⟩ := isUsableKey_iff.1 hkey
  refine
    { key_ne_nil := hne
      key_char := fun c hc => ⟨hink c hc, ne_comma_of_mem_key hc⟩
      kind_name := isLowerName_of_mem_scan hb
      kind_citable := not_pseudo_lowerAscii hpseudo
      title := fun t ht => isClean_of_text? ht
      author := ?_
      journal := fun t ht => isClean_of_text? ht
      booktitle := fun t ht => isClean_of_text? ht
      year := ?_ }
  · intro line hline
    rcases authors_ofBlock source b with ⟨-, hnone, -⟩ | ⟨t, -, hclean, hauthor, -⟩
    · rw [hnone] at hline
      cases hline
    · rw [hauthor] at hline
      obtain rfl := Option.some.inj hline
      exact IsClean.join_commas (splitAuthors_ne_nil t) (isClean_of_mem_splitAuthors hclean)
  · intro y hy
    obtain ⟨value, -, hyear⟩ := Option.bind_eq_some_iff.1 hy
    exact digits_of_year? hyear

/-! ## Blocks that are kept -/

/-- Of some blocks those are kept, in their order, that are of a citable type, have a usable key,
and do not repeat the key of one that was kept before. -/
structure Keeps (blocks kept : List Block) : Prop where
  sublist : kept.Sublist blocks
  left_out : ∀ before b after, blocks = before ++ b :: after →
    ∃ keptBefore keptAfter, keptBefore.Sublist before ∧ keptAfter.Sublist after ∧
      (kept = keptBefore ++ b :: keptAfter ∨
        kept = keptBefore ++ keptAfter ∧
          (b.isPseudo ∨ (b.key = [] ∨ ∃ c ∈ b.key, Text.isBlank c) ∨
            ∃ k ∈ keptBefore, k.key = b.key))

theorem firstOfKey_sublist (seen : List Text) (bs : List Block) :
    (firstOfKey seen bs).Sublist bs := by
  induction bs generalizing seen with
  | nil => exact .slnil
  | cons b rest ih =>
      rw [firstOfKey]
      split
      · exact (ih seen).cons b
      · exact (ih (b.key :: seen)).cons_cons b

theorem citable_sublist (bs : List Block) : (citable bs).Sublist bs :=
  (firstOfKey_sublist [] _).trans List.filter_sublist

/-- No key stays twice, and none that was seen before. -/
theorem keys_firstOfKey (seen : List Text) (bs : List Block) :
    ((firstOfKey seen bs).map Block.key).Nodup ∧
      ∀ k ∈ (firstOfKey seen bs).map Block.key, k ∉ seen := by
  induction bs generalizing seen with
  | nil => simp [firstOfKey]
  | cons b rest ih =>
      rw [firstOfKey]
      split
      · exact ih seen
      · rename_i hseen
        -- Behind a block that is kept its key counts as seen.
        obtain ⟨hnodup, hfresh⟩ := ih (b.key :: seen)
        rw [List.map_cons]
        constructor
        · rw [List.nodup_cons]
          refine ⟨?_, hnodup⟩
          intro hmem
          exact hfresh b.key hmem List.mem_cons_self
        · intro k hk
          rcases List.mem_cons.1 hk with rfl | hk
          · simpa using hseen
          · intro hmem
            exact hfresh k hk (List.mem_cons_of_mem b.key hmem)

/-- The blocks that are kept of some blocks and of more. -/
theorem citable_append (before after : List Block) :
    citable (before ++ after) = citable before ++
      firstOfKey ((citable before).map Block.key)
        (after.filter fun b => !b.isPseudo && isUsableKey b.key) := by
  rw [citable, List.filter_append, firstOfKey_append, List.append_nil, citable]

/-- The entries of a file are the blocks that are kept. -/
theorem keeps_citable (blocks : List Block) : Keeps blocks (citable blocks) := by
  refine ⟨citable_sublist blocks, ?_⟩
  rintro before b after rfl
  have hafter (seen : List Text) :
      (firstOfKey seen (after.filter fun b => !b.isPseudo && isUsableKey b.key)).Sublist after :=
    (firstOfKey_sublist seen _).trans List.filter_sublist
  -- What is kept of the blocks before does not depend on this one, and all later ones are read with
  -- some keys as seen, whichever these are.
  rw [citable_append, List.filter_cons]
  by_cases hfit : (!b.isPseudo && isUsableKey b.key) = true
  · rw [if_pos hfit, firstOfKey]
    by_cases hseen : b.key ∈ (citable before).map Block.key
    · rw [if_pos (List.contains_iff_mem.2 hseen)]
      obtain ⟨k, hk, heq⟩ := List.mem_map.1 hseen
      exact ⟨_, _, citable_sublist before, hafter _, .inr ⟨rfl, .inr (.inr ⟨k, hk, heq⟩)⟩⟩
    · rw [if_neg (by simpa using hseen)]
      exact ⟨_, _, citable_sublist before, hafter _, .inl rfl⟩
  · rw [if_neg hfit]
    refine ⟨_, _, citable_sublist before, hafter _, .inr ⟨rfl, ?_⟩⟩
    rcases Bool.eq_false_or_eq_true b.isPseudo with hpseudo | hpseudo
    · exact .inl hpseudo
    · refine .inr (.inl ?_)
      by_contra hreason
      have husable : isUsableKey b.key := by simpa [isUsableKey_iff] using hreason
      rw [hpseudo, husable] at hfit
      exact hfit rfl

/-! ## Entries of a file -/

/-- The entries of a file have different keys, each is in order, and they are what the blocks of the
file describe, in their order, without those that are of a pseudo type, have an unusable key, or
repeat the key of an entry before them. -/
theorem parse_wellFormed (source : Path) (contents : Text) :
    ((parse source contents).map key).Nodup ∧
      (∀ e ∈ parse source contents, e.IsWellFormed) ∧
      ∃ kept, Keeps (Block.scan contents) kept ∧
        parse source contents = kept.map (ofBlock source) := by
  refine ⟨?_, ?_, citable (Block.scan contents), keeps_citable _, rfl⟩
  · have hkeys : (parse source contents).map key =
        (citable (Block.scan contents)).map Block.key := by
      rw [parse, List.map_map]
      rfl
    rw [hkeys]
    exact (keys_firstOfKey [] _).1
  · intro e he
    obtain ⟨b, hscan, hpseudo, hkey, rfl⟩ := exists_block_of_mem_parse he
    exact isWellFormed_ofBlock source hscan hpseudo hkey

/-- A file with a pseudo-entry, an unusable key, an entry that is not closed, and its key again. -/
def mangledFile : Text :=
  ("@string\x7ba = 1\x7d @misc\x7ba b, year = 1\x7d @In-Proc (k, title = \x7b \t A\n\x7bB\x7d \x7d,\n" ++
    "year = \"1999.\", author = \x7bX and Y\x7d @x\n@misc\x7bk\x7d").toList

def mangledEntry : Entry :=
  { key := "k".toList
    kind := "in-proc".toList
    title := some "A B".toList
    author := some "X, Y".toList
    authors := ["X".toList, "Y".toList]
    year := some "1999".toList
    journal := none
    booktitle := none
    source := Path.of "refs.bib" }

theorem parse_wellFormed_mangled :
    mangledEntry ∈ parse (Path.of "refs.bib") mangledFile ∧
      ((parse (Path.of "refs.bib") mangledFile).map key).Nodup ∧ mangledEntry.IsWellFormed ∧
      ∃ kept, Keeps (Block.scan mangledFile) kept ∧
        parse (Path.of "refs.bib") mangledFile = kept.map (ofBlock (Path.of "refs.bib")) := by
  have hmem : mangledEntry ∈ parse (Path.of "refs.bib") mangledFile := by decide +kernel
  obtain ⟨hnodup, hentries, hkept⟩ := parse_wellFormed (Path.of "refs.bib") mangledFile
  exact ⟨hmem, hnodup, hentries mangledEntry hmem, hkept⟩

end Entry

end Bibliography

end CiteIndex
