import CiteIndex.Bibliography.Entry
import CiteIndex.Proofs.Bibliography.Blocks

/-!
# Entries of a text that goes on

Which blocks of a file become entries depends on the keys of the blocks before them. Appending
blocks to a file keeps its entries and adds those of the new blocks whose keys are not taken.

- `Entry.firstOfKey_append`, `Entry.firstOfKey_seen`: the first block of each key
- `Entry.parse_append`: the entries of a file to which blocks were appended
- `Entry.exists_new_iff`: when a key cites one of the appended blocks
-/

namespace CiteIndex

namespace Bibliography

namespace Entry

/-! ## The first block of each key -/

/-- Of the keys that were seen, neither order nor number matters. -/
theorem firstOfKey_congr {seen seen' : List Text} (h : ∀ k, k ∈ seen ↔ k ∈ seen')
    (bs : List Block) : firstOfKey seen bs = firstOfKey seen' bs := by
  induction bs generalizing seen seen' with
  | nil => rfl
  | cons b rest ih =>
      have hb : seen.contains b.key = seen'.contains b.key := by
        rw [Bool.eq_iff_iff, List.contains_iff_mem, List.contains_iff_mem]
        exact h b.key
      have hcons : ∀ k, k ∈ b.key :: seen ↔ k ∈ b.key :: seen' := fun k => by
        rw [List.mem_cons, List.mem_cons, h k]
      rw [firstOfKey, firstOfKey, hb, ih h, ih hcons]

/-- Keys that are taken only take entries away. -/
theorem firstOfKey_seen (taken seen : List Text) (bs : List Block) :
    firstOfKey (taken ++ seen) bs =
      (firstOfKey seen bs).filter fun b => !taken.contains b.key := by
  induction bs generalizing seen with
  | nil => rfl
  | cons b rest ih =>
      have hmove : firstOfKey (b.key :: (taken ++ seen)) rest =
          firstOfKey (taken ++ b.key :: seen) rest :=
        firstOfKey_congr (by grind) rest
      -- The block goes if its key was seen, goes if its key is taken, and else stays and is seen.
      by_cases hseen : b.key ∈ seen
      · simp [firstOfKey, hseen, ih]
      · by_cases htaken : b.key ∈ taken
        · have hsame : firstOfKey (taken ++ b.key :: seen) rest = firstOfKey (taken ++ seen) rest :=
            firstOfKey_congr (by grind) rest
          have hrest := ih (b.key :: seen)
          rw [hsame] at hrest
          simpa [firstOfKey, hseen, htaken] using hrest
        · simp [firstOfKey, hseen, htaken, hmove, ih]

/-- Blocks with taken keys might as well not be there. -/
theorem firstOfKey_filter (taken seen : List Text) (bs : List Block) :
    firstOfKey (taken ++ seen) bs =
      firstOfKey seen (bs.filter fun b => !taken.contains b.key) := by
  induction bs generalizing seen with
  | nil => rfl
  | cons b rest ih =>
      have hmove : firstOfKey (b.key :: (taken ++ seen)) rest =
          firstOfKey (taken ++ b.key :: seen) rest :=
        firstOfKey_congr (by grind) rest
      by_cases htaken : b.key ∈ taken
      · simpa [firstOfKey, htaken] using ih seen
      · by_cases hseen : b.key ∈ seen
        · simpa [firstOfKey, htaken, hseen] using ih seen
        · simp [firstOfKey, htaken, hseen, hmove, ih]

/-- Behind some blocks, their keys have been seen as well. -/
theorem firstOfKey_append (seen : List Text) (bs cs : List Block) :
    firstOfKey seen (bs ++ cs) =
      firstOfKey seen bs ++ firstOfKey ((firstOfKey seen bs).map Block.key ++ seen) cs := by
  induction bs generalizing seen with
  | nil => rfl
  | cons b rest ih =>
      by_cases hseen : b.key ∈ seen
      · simp [firstOfKey, hseen, ih]
      · have hmove : ∀ ks : List Text, firstOfKey (ks ++ b.key :: seen) cs =
            firstOfKey (b.key :: (ks ++ seen)) cs := fun ks =>
          firstOfKey_congr (by grind) cs
        simp [firstOfKey, hseen, ih, hmove]

/-- Keeping the first block of each key is removing those that repeat an earlier key. -/
theorem firstOfKey_eq_eraseDupsBy (bs : List Block) :
    firstOfKey [] bs = bs.eraseDupsBy fun b c => b.key == c.key := by
  induction hlen : bs.length using Nat.strongRecOn generalizing bs with
  | ind n ih =>
      subst hlen
      cases bs with
      | nil => rfl
      | cons b rest =>
          -- The first block stays. The rest is that without its key, which is shorter.
          have hfirst := firstOfKey_filter [b.key] [] rest
          have hle := List.length_filter_le (fun c => !([b.key].contains c.key)) rest
          have hrec := ih _ (by simp only [List.length_cons]; omega)
            (rest.filter fun c => !([b.key].contains c.key)) rfl
          rw [List.eraseDupsBy_cons, firstOfKey]
          simp_all

/-! ## Entries by what is read of their blocks -/

/-- The entry of a block of which a type, a key and fields were read. -/
theorem ofBlock_congr (source : Path) {b c : Block} (h : b.reading = c.reading) :
    ofBlock source b = ofBlock source c := by
  obtain ⟨hkind, hkey, hfields⟩ : b.kind = c.kind ∧ b.key = c.key ∧ b.fields = c.fields := by
    simpa [Block.reading] using h
  simp only [ofBlock, hkind, hkey, hfields]

/-- A condition on the reading of blocks picks equal readings from lists that read alike. -/
theorem filter_reading {p : Block → Bool} (hp : ∀ b c, b.reading = c.reading → p b = p c)
    {bs cs : List Block} (h : bs.map Block.reading = cs.map Block.reading) :
    (bs.filter p).map Block.reading = (cs.filter p).map Block.reading := by
  induction bs generalizing cs with
  | nil =>
      obtain rfl : cs = [] := by simpa using h.symm
      rfl
  | cons b bs ih =>
      cases cs with
      | nil => cases h
      | cons c cs =>
          rcases List.cons.inj h with ⟨hb, hbs⟩
          by_cases hpc : p c
          · simp [hp b c hb, hpc, hb, ih hbs]
          · simp [hp b c hb, hpc, ih hbs]

/-- Which blocks come first of their key shows in the readings. -/
theorem firstOfKey_reading (seen : List Text) {bs cs : List Block}
    (h : bs.map Block.reading = cs.map Block.reading) :
    (firstOfKey seen bs).map Block.reading = (firstOfKey seen cs).map Block.reading := by
  induction bs generalizing cs seen with
  | nil =>
      obtain rfl : cs = [] := by simpa using h.symm
      rfl
  | cons b bs ih =>
      cases cs with
      | nil => cases h
      | cons c cs =>
          rcases List.cons.inj h with ⟨hb, hbs⟩
          -- Whether a block stays depends on its key, which is part of what is read.
          have hkey : b.key = c.key := congrArg (fun r => r.2.1) hb
          by_cases hseen : c.key ∈ seen
          · simp [firstOfKey, hkey, hseen, ih seen hbs]
          · simp [firstOfKey, hkey, hseen, hb, ih (c.key :: seen) hbs]

/-- Entries depend on nothing but what is read of the blocks. -/
theorem citable_reading (source : Path) {bs cs : List Block}
    (h : bs.map Block.reading = cs.map Block.reading) :
    (citable bs).map (ofBlock source) = (citable cs).map (ofBlock source) := by
  have hmap : (citable bs).map Block.reading = (citable cs).map Block.reading := by
    refine firstOfKey_reading [] (filter_reading (fun b c hbc => ?_) h)
    have hkind : b.kind = c.kind := congrArg (fun r => r.1) hbc
    have hkey : b.key = c.key := congrArg (fun r => r.2.1) hbc
    simp only [Block.isPseudo, hkind, hkey]
  -- Now both lists agree place by place, and so do their entries.
  generalize citable bs = us at hmap
  generalize citable cs = vs at hmap
  induction us generalizing vs with
  | nil =>
      obtain rfl : vs = [] := by simpa using hmap.symm
      rfl
  | cons u us ih =>
      cases vs with
      | nil => cases hmap
      | cons v vs =>
          rcases List.cons.inj hmap with ⟨hu, hus⟩
          rw [List.map_cons, List.map_cons, ofBlock_congr source hu, ih vs hus]

/-! ## Appended blocks -/

/-- The entries of a file to which blocks were appended: the old ones, and those of the new blocks
whose keys are not taken. -/
theorem parse_append (source : Path) {t old new : Text}
    (h : (Block.scan t).map Block.reading =
      (Block.scan old).map Block.reading ++ (Block.scan new).map Block.reading) :
    parse source t = parse source old ++
      (parse source new).filter fun e => !((parse source old).map key).contains e.key := by
  have hblocks : (Block.scan t).map Block.reading =
      (Block.scan old ++ Block.scan new).map Block.reading := by rw [h, List.map_append]
  have hentries := citable_reading source hblocks
  have hkeys : (parse source old).map key = (citable (Block.scan old)).map Block.key := by
    rw [parse, List.map_map]
    rfl
  rw [parse, hentries, hkeys, parse, parse, List.filter_map, ← List.map_append]
  -- The old entries are equal on both sides; what is left is about the new ones.
  congr 1
  rw [citable, List.filter_append, firstOfKey_append]
  congr 1
  rw [firstOfKey_seen]
  rfl

/-- A key cites one of the appended blocks just if it is the key of an entry among them and was not
taken. -/
theorem exists_new_iff {source : Path} {t old new : Text}
    (h : parse source t = parse source old ++
      (parse source new).filter fun e => !((parse source old).map key).contains e.key) (k : Text) :
    (∃ e ∈ parse source t, e.key = k ∧ e ∉ parse source old) ↔
      k ∈ (parse source new).map key ∧ k ∉ (parse source old).map key := by
  rw [h]
  constructor
  · rintro ⟨e, he, rfl, hold⟩
    rcases List.mem_append.1 he with he | he
    · exact absurd he hold
    · rcases List.mem_filter.1 he with ⟨he, hfree⟩
      refine ⟨List.mem_map_of_mem he, ?_⟩
      simpa using hfree
  -- The entry with that key among the new ones is one of those that were added.
  · rintro ⟨hnew, hold⟩
    rcases List.mem_map.1 hnew with ⟨e, he, rfl⟩
    have hfree : (!((parse source old).map key).contains e.key) = true := by simpa using hold
    refine ⟨e, List.mem_append_right _ (List.mem_filter.2 ⟨he, hfree⟩), rfl, fun hmem => ?_⟩
    exact hold (List.mem_map_of_mem hmem)

/-! ## Keys that cite -/

theorem mem_of_mem_firstOfKey {seen : List Text} {bs : List Block} {b : Block}
    (h : b ∈ firstOfKey seen bs) : b ∈ bs := by
  induction bs generalizing seen with
  | nil => exact h
  | cons c rest ih =>
      rw [firstOfKey] at h
      split at h
      · exact List.mem_cons_of_mem _ (ih h)
      · rcases List.mem_cons.1 h with rfl | h
        · exact List.mem_cons_self
        · exact List.mem_cons_of_mem _ (ih h)

/-- An entry has a usable key. -/
theorem isUsableKey_of_mem_parse {source : Path} {t : Text} {e : Entry} (h : e ∈ parse source t) :
    isUsableKey e.key := by
  rcases List.mem_map.1 h with ⟨b, hb, rfl⟩
  have hfilter := (List.mem_filter.1 (mem_of_mem_firstOfKey hb)).2
  rw [Bool.and_eq_true] at hfilter
  exact hfilter.2

/-- An entry is what a block of a citable type with a usable key describes. -/
theorem exists_block_of_mem_parse {source : Path} {t : Text} {e : Entry} (h : e ∈ parse source t) :
    ∃ b ∈ Block.scan t, b.isPseudo = false ∧ isUsableKey b.key ∧ e = ofBlock source b := by
  rcases List.mem_map.1 h with ⟨b, hb, rfl⟩
  rcases List.mem_filter.1 (mem_of_mem_firstOfKey hb) with ⟨hscan, hfilter⟩
  rw [Bool.and_eq_true, Bool.not_eq_true'] at hfilter
  exact ⟨b, hscan, hfilter.1, hfilter.2, rfl⟩

/-- The first block of a file is an entry if it is of a citable type and its key is usable. -/
theorem ofBlock_mem_parse (source : Path) {t : Text} {b : Block} {bs : List Block}
    (h : Block.scan t = b :: bs) (hpseudo : b.isPseudo = false) (hkey : isUsableKey b.key) :
    ofBlock source b ∈ parse source t := by
  have hkeep : (!b.isPseudo && isUsableKey b.key) = true := by rw [hpseudo, hkey]; rfl
  rw [parse, citable, h, List.filter_cons, if_pos hkeep, firstOfKey]
  simp

end Entry

end Bibliography

end CiteIndex
