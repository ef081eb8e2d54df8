import CiteIndex.Proofs.Bibliography.FieldSpacing
import CiteIndex.Proofs.Bibliography.Layouts
import CiteIndex.Proofs.Text.Lines

/-!
# Spacing

What the length of gaps means to a bibliography file: nothing, as long as its white space is ASCII
and every block in it is closed. The blocks of the squeezed text are those of the text, with bodies
that are squeezed themselves, and the entries are the same. Laying out a record in lines exchanges
gaps alone, so it keeps the entries of the record.

- `Block.closed_induction`: induction over texts in which every block is closed
- `Block.scan_squeezeFrom`: the blocks of a squeezed text
- `Entry.parse_squeezeFrom`: its entries
- `Layout.parse_format_of_lines`: laying out a record in lines keeps its entries
-/

namespace CiteIndex

namespace Bibliography

open Text (squeezeFrom HasAsciiBlanks)

/-! ## Blocks that are closed -/

namespace Block

/-- A closed block is read up to its closing delimiter. -/
theorem scan_at_closed {t kind rest body behind : Text} {close : Char}
    (hheader : header? t = some (kind, close, rest))
    (hcut : cutAtTop? close .outside rest = some (body, behind)) :
    scan ('@' :: t) = ⟨kind, body⟩ :: scan behind := by
  have hbody : cutBody close rest = (body, behind) := by rw [cutBody, hcut]
  rw [scan_at hheader, hbody]

theorem openBlocks_at_closed {t kind rest body behind : Text} {close : Char}
    (hheader : header? t = some (kind, close, rest))
    (hcut : cutAtTop? close .outside rest = some (body, behind)) :
    openBlocks ('@' :: t) = openBlocks behind := by
  have hbody : cutBody close rest = (body, behind) := by rw [cutBody, hcut]
  rw [openBlocks_at hheader, if_neg (by simp [hcut]), hbody]

/-- Induction over the texts in which every block is closed. -/
@[elab_as_elim]
theorem closed_induction {motive : Text → Prop} (nil : motive [])
    (skip : ∀ c cs, c ≠ '@' → motive cs → motive (c :: cs))
    (plain : ∀ cs, header? cs = none → motive cs → motive ('@' :: cs))
    (block : ∀ cs kind close rest body behind, header? cs = some (kind, close, rest) →
      cutAtTop? close .outside rest = some (body, behind) → motive behind → motive ('@' :: cs))
    (t : Text) (h : openBlocks t = []) : motive t := by
  fun_induction openBlocks t with
  | case1 => exact nil
  | case2 => cases h
  | case3 cs kind close rest hheader hcut ih =>
      rcases hcut' : cutAtTop? close .outside rest with _ | ⟨body, behind⟩
      · exact absurd hcut' hcut
      · have hbody : cutBody close rest = (body, behind) := by rw [cutBody, hcut']
        rw [hbody] at h ih
        exact block cs kind close rest body behind hheader hcut' (ih h)
  | case4 cs hheader ih => exact plain cs hheader (ih h)
  | case5 c cs hc ih => exact skip c cs hc (ih h)

theorem openBlocks_of_not_mem {w : Text} : '@' ∉ w → openBlocks w = [] := by
  intro hw
  induction w with
  | nil => rw [openBlocks]
  | cons c cs ih =>
      have hc := List.ne_of_not_mem_cons hw
      rw [openBlocks_cons_of_ne hc.symm, ih (List.not_mem_of_not_mem_cons hw)]

/-- White space at the end of a text in which every block is closed is not read. -/
theorem scan_append_gap {w : Text} (hw : ∀ c ∈ w, Text.isBlank c) {t : Text}
    (hclosed : openBlocks t = []) : scan (t ++ w) = scan t ∧ openBlocks (t ++ w) = [] := by
  have hat : '@' ∉ w := fun h => absurd (hw '@' h) (by decide)
  refine closed_induction ?_ ?_ ?_ ?_ t hclosed
  · rw [List.nil_append, scan_of_not_mem hat, scan]
    exact ⟨rfl, openBlocks_of_not_mem hat⟩
  · intro c cs hc ih
    rw [List.cons_append, scan_cons_of_ne hc, scan_cons_of_ne hc, openBlocks_cons_of_ne hc]
    exact ih
  · intro cs hheader ih
    have hheader' := header?_append_gap hheader hw
    rw [List.cons_append, scan_at_of_none hheader', scan_at_of_none hheader,
      openBlocks_at_of_none hheader']
    exact ih
  · intro cs kind close rest body behind hheader hcut ih
    have hheader' : header? (cs ++ w) = some (kind, close, rest ++ w) := header?_append hheader
    have hcut' := cutAtTop?_append hcut w
    rw [List.cons_append, scan_at_closed hheader' hcut', scan_at_closed hheader hcut,
      openBlocks_at_closed hheader' hcut', ih.1]
    exact ⟨rfl, ih.2⟩

/-! ## Blocks of a squeezed text -/

/-- What a closed block leaves to be read is the end of the text. -/
theorem closed_suffix {t kind rest body behind : Text} {close : Char}
    (hheader : header? t = some (kind, close, rest))
    (hcut : cutAtTop? close .outside rest = some (body, behind)) :
    body ++ close :: behind <:+ t := by
  rw [← (eq_append_of_cutAtTop? hcut).1]
  exact header_suffix hheader

/-- The header of a squeezed text. -/
theorem header?_squeezeFrom (inGap : Bool) {t : Text} (ht : HasAsciiBlanks t) :
    header? (squeezeFrom inGap t) =
      (header? t).map fun h => (h.1, h.2.1, squeezeFrom false h.2.2) := by
  rcases exists_header t with ⟨gap, name, gap', rest, rfl, hgap, hname, hgap', hstart, htail, hrest⟩
  have hheadStart := ht.right.head hstart
  have hheadRest := ht.right.right.right.head hrest
  have hink : ∀ c ∈ name, Text.isBlank c = false := by
    intro c hc
    exact ht.right.left.ink_of (fun _ => isKindChar_of_blank) hc (hname c hc)
  -- Each part is squeezed apart, and begins and ends where it did.
  have hbehind : squeezeFrom false (gap' ++ rest) =
      squeezeFrom false gap' ++ squeezeFrom false rest :=
    Text.squeezeFrom_append_of_head hheadRest false gap'
  have hparts : squeezeFrom inGap (gap ++ (name ++ (gap' ++ rest))) =
      squeezeFrom inGap gap ++ (name ++ (squeezeFrom false gap' ++ squeezeFrom false rest)) := by
    rw [Text.squeezeFrom_append_of_head hheadStart, Text.squeezeFrom_ink_append hink, hbehind]
  have hstart' : ∀ c ∈ (name ++ (squeezeFrom false gap' ++ squeezeFrom false rest)).head?,
      Text.isAsciiBlank c = false := by
    rw [← hbehind, ← Text.squeezeFrom_ink_append hink, Text.head?_squeezeFrom hheadStart]
    exact hstart
  have htail' : ∀ c ∈ (squeezeFrom false gap' ++ squeezeFrom false rest).head?,
      isKindChar c = false := by
    rw [← hbehind]
    exact Text.head_squeezeFrom (by decide) htail
  have hrest' : ∀ c ∈ (squeezeFrom false rest).head?, Text.isAsciiBlank c = false := by
    rw [Text.head?_squeezeFrom hheadRest]
    exact hrest
  have hgaps : ∀ c ∈ squeezeFrom inGap gap, Text.isAsciiBlank c :=
    Text.isAsciiBlank_of_mem_squeezeFrom hgap
  have hgaps' : ∀ c ∈ squeezeFrom false gap', Text.isAsciiBlank c :=
    Text.isAsciiBlank_of_mem_squeezeFrom hgap'
  rw [hparts, header?_parts gap name gap' rest hgap hname hgap' hstart htail hrest]
  cases rest with
  | nil =>
      rw [header?_parts _ name _ _ hgaps hname hgaps' hstart' htail' hrest']
      cases name <;> rfl
  | cons d ds =>
      have hcons := Text.squeezeFrom_cons_of_ink (hheadRest d rfl) false ds
      rw [hcons] at hstart' htail' hrest' ⊢
      rw [header?_parts _ name _ _ hgaps hname hgaps' hstart' htail' hrest']
      cases name with
      | nil => rfl
      | cons c cs => by_cases halpha : c.isAlpha <;> simp [halpha, Function.comp_def]

theorem isBlank_of_close {t kind rest : Text} {close : Char}
    (h : header? t = some (kind, close, rest)) : Text.isBlank close = false := by
  rcases close_of_header? h with rfl | rfl <;> rfl

/-- A reader that skips all but at signs does so in a squeezed text, whether or not the character
is dropped there. -/
theorem skip_squeezeFrom {α : Type} {read : Text → α}
    (hread : ∀ d ds, d ≠ '@' → read (d :: ds) = read ds) {c : Char} (hc : c ≠ '@') (inGap : Bool)
    (cs : Text) : read (squeezeFrom inGap (c :: cs)) = read (squeezeFrom (Text.isBlank c) cs) := by
  cases hblank : Text.isBlank c with
  | false => rw [Text.squeezeFrom_cons_of_ink hblank, hread c _ hc]
  | true =>
      cases inGap with
      | true => rw [Text.squeezeFrom_true_cons hblank]
      | false => rw [Text.squeezeFrom_false_cons hblank, hread ' ' _ (by decide)]

theorem hasAsciiBlanks_behind {t kind rest body behind : Text} {close : Char}
    (ht : HasAsciiBlanks t) (hheader : header? t = some (kind, close, rest))
    (hcut : cutAtTop? close .outside rest = some (body, behind)) : HasAsciiBlanks behind :=
  ht.mono fun _ hc => (closed_suffix hheader hcut).subset
    (List.mem_append_right body (List.mem_cons_of_mem close hc))

/-- Every block of a squeezed text is closed just if every block of the text is. -/
theorem openBlocks_squeezeFrom (inGap : Bool) {t : Text} (ht : HasAsciiBlanks t) :
    openBlocks (squeezeFrom inGap t) = [] ↔ openBlocks t = [] := by
  induction hlen : t.length using Nat.strongRecOn generalizing t inGap with
  | ind n ih =>
      subst hlen
      cases t with
      | nil => exact Iff.rfl
      | cons c cs =>
          have hcs : cs.length < (c :: cs).length := Nat.lt_succ_self _
          by_cases hat : c = '@'
          · subst hat
            have hheader' := header?_squeezeFrom false ht.tail
            rw [Text.squeezeFrom_cons_of_ink rfl]
            rcases hheader : header? cs with _ | ⟨kind, close, rest⟩
            · rw [hheader, Option.map_none] at hheader'
              rw [openBlocks_at_of_none hheader', openBlocks_at_of_none hheader]
              exact ih _ hcs false ht.tail rfl
            · rw [hheader, Option.map_some] at hheader'
              have hclose := cutAtTop?_squeezeFrom (isBlank_of_close hheader) false .outside rest
              rcases hcut : cutAtTop? close .outside rest with _ | ⟨body, behind⟩
              · -- The block is left open in both texts.
                rw [hcut, Option.map_none] at hclose
                rw [openBlocks_at hheader', openBlocks_at hheader, if_pos hclose, if_pos hcut]
                simp
              · rw [hcut, Option.map_some] at hclose
                rw [openBlocks_at_closed hheader' hclose, openBlocks_at_closed hheader hcut]
                have hlt := length_lt_of_header? hheader
                have hshort := length_lt_of_cutAtTop? hcut
                have hbehind := hasAsciiBlanks_behind ht.tail hheader hcut
                exact ih behind.length (by omega) false hbehind rfl
          · rw [skip_squeezeFrom (fun _ ds hd => openBlocks_cons_of_ne hd ds) hat,
              openBlocks_cons_of_ne hat]
            exact ih _ hcs _ ht.tail rfl

def squeeze (b : Block) : Block :=
  ⟨b.kind, squeezeFrom false b.body⟩

/-- The blocks of a squeezed text are those of the text, squeezed. -/
theorem scan_squeezeFrom {t : Text} (hclosed : openBlocks t = []) :
    HasAsciiBlanks t → ∀ inGap, scan (squeezeFrom inGap t) = (scan t).map squeeze := by
  refine closed_induction ?_ ?_ ?_ ?_ t hclosed
  · intro _ _
    simp [squeezeFrom, scan]
  · intro c cs hat ih ht inGap
    rw [skip_squeezeFrom (fun _ ds hd => scan_cons_of_ne hd ds) hat, scan_cons_of_ne hat]
    exact ih ht.tail _
  · intro cs hheader ih ht inGap
    have hheader' := header?_squeezeFrom false ht.tail
    rw [hheader, Option.map_none] at hheader'
    rw [Text.squeezeFrom_cons_of_ink rfl, scan_at_of_none hheader', scan_at_of_none hheader]
    exact ih ht.tail false
  · intro cs kind close rest body behind hheader hcut ih ht inGap
    have hheader' := header?_squeezeFrom false ht.tail
    have hcut' := cutAtTop?_squeezeFrom (isBlank_of_close hheader) false .outside rest
    rw [hheader, Option.map_some] at hheader'
    rw [hcut, Option.map_some] at hcut'
    have hbehind := hasAsciiBlanks_behind ht.tail hheader hcut
    rw [Text.squeezeFrom_cons_of_ink rfl, scan_at_closed hheader' hcut',
      scan_at_closed hheader hcut, List.map_cons, ih hbehind false]
    rfl

theorem key_squeeze (b : Block) : b.squeeze.key = squeezeFrom false b.key := by
  have hcomma : ∀ c, Text.isBlank c → (c != ',') = true := by
    intro c hc
    rw [bne_iff_ne]
    exact Text.ne_of_isBlank hc rfl
  rw [key, key, squeeze, Text.takeWhile_squeezeFrom hcomma, Text.trim_squeezeFrom]

/-- Squeezing a body squeezes its fields. -/
theorem fields_squeeze {b : Block} (hb : HasAsciiBlanks b.body) :
    b.squeeze.fields = b.fields.map Field.squeeze := by
  have hcomma : ∀ c, Text.isBlank c → (c == ',') = false := by
    intro c hc
    rw [beq_eq_false_iff_ne]
    exact Text.ne_of_isBlank hc rfl
  rw [fields, fields, squeeze, Text.cutAt?_squeezeFrom hcomma]
  rcases hcut : Text.cutAt? (· == ',') b.body with _ | ⟨before, rest⟩
  · rfl
  · have hrest : HasAsciiBlanks rest := by
      rcases Text.eq_append_of_cutAt? hcut with ⟨_, -, hbody⟩
      rw [hbody] at hb
      exact hb.right.tail
    exact Field.parse_squeezeFrom false hrest

end Block

/-! ## Entries of a squeezed text -/

namespace Entry

/-- A cleaned value does not show how wide its gaps were. -/
theorem clean_squeezeFrom (t : Text) : clean (squeezeFrom false t) = clean t := by
  have hblank : ∀ c, Text.isBlank c → (!(c == '{' || c == '}')) = true := by
    intro c hc
    have hopen : c ≠ '{' := Text.ne_of_isBlank hc rfl
    have hclose : c ≠ '}' := Text.ne_of_isBlank hc rfl
    simp [hopen, hclose]
  rw [clean, clean, Text.words_filter_squeezeFrom hblank]

theorem field?_map_squeeze (fields : List Field) (name : Text) :
    field? (fields.map Field.squeeze) name = (field? fields name).map FieldValue.squeeze := by
  simp only [field?, List.find?_map, Option.map_map, Function.comp_def, Field.squeeze]

/-- The texts of an entry do not show the gaps of its fields. -/
theorem text?_map_squeeze (fields : List Field) (name : Text) :
    text? (fields.map Field.squeeze) name = text? fields name := by
  rw [text?, text?, field?_map_squeeze]
  rcases field? fields name with _ | value
  · rfl
  · cases value with
    | braced t => simp [FieldValue.squeeze, FieldValue.delimited?, clean_squeezeFrom]
    | quoted t => simp [FieldValue.squeeze, FieldValue.delimited?, clean_squeezeFrom]
    | bare t => rfl

theorem isUsableKey_squeezeFrom (k : Text) : isUsableKey (squeezeFrom false k) = isUsableKey k := by
  rw [isUsableKey, isUsableKey, Text.squeezeFrom_isEmpty, Text.any_isBlank_squeezeFrom]

theorem squeezeFrom_of_isUsableKey {k : Text} (hk : isUsableKey k) : squeezeFrom false k = k := by
  refine Text.squeezeFrom_eq_self (fun c hc => ?_) false
  simp only [isUsableKey, Bool.and_eq_true, Bool.not_eq_true', List.any_eq_false,
    Bool.not_eq_true] at hk
  exact hk.2 c hc

/-- The year of an entry does not show the gaps of its fields. -/
theorem year_map_squeeze (fields : List Field) :
    ((field? (fields.map Field.squeeze) "year".toList).bind fun value => year? (clean value.text)) =
      (field? fields "year".toList).bind fun value => year? (clean value.text) := by
  rw [field?_map_squeeze]
  rcases field? fields "year".toList with _ | value
  · rfl
  · cases value with
    | braced t => simp [FieldValue.squeeze, FieldValue.text, clean_squeezeFrom]
    | quoted t => simp [FieldValue.squeeze, FieldValue.text, clean_squeezeFrom]
    | bare t => rfl

/-- Blocks whose fields differ in the length of gaps alone have the same entry. -/
theorem ofBlock_of_squeeze (source : Path) {b b' : Block} (hkind : b'.kind = b.kind)
    (hkey : b'.key = b.key)
    (hfields : b'.fields.map Field.squeeze = b.fields.map Field.squeeze) :
    ofBlock source b' = ofBlock source b := by
  have htext : ∀ name, text? b'.fields name = text? b.fields name := by
    intro name
    rw [← text?_map_squeeze, hfields, text?_map_squeeze]
  have hyear : ((field? b'.fields "year".toList).bind fun value => year? (clean value.text)) =
      (field? b.fields "year".toList).bind fun value => year? (clean value.text) := by
    rw [← year_map_squeeze, hfields, year_map_squeeze]
  simp only [ofBlock, hkind, hkey, hyear, htext]

/-- The entry of a squeezed block is that of the block. -/
theorem ofBlock_squeeze (source : Path) {b : Block} (hb : HasAsciiBlanks b.body)
    (hkey : isUsableKey b.key) : ofBlock source b.squeeze = ofBlock source b := by
  have hsame : b.squeeze.key = b.key := by
    rw [Block.key_squeeze, squeezeFrom_of_isUsableKey hkey]
  have hkind : b.squeeze.kind = b.kind := rfl
  simp only [ofBlock, hsame, hkind, Block.fields_squeeze hb, year_map_squeeze, text?_map_squeeze]

/-- A change of blocks that keeps their keys keeps which of them are the first of a key. -/
theorem firstOfKey_map {f : Block → Block} (seen : List Text) {bs : List Block}
    (hf : ∀ b ∈ bs, (f b).key = b.key) :
    firstOfKey seen (bs.map f) = (firstOfKey seen bs).map f := by
  induction bs generalizing seen with
  | nil => rfl
  | cons b rest ih =>
      rcases List.forall_mem_cons.1 hf with ⟨hb, hrest⟩
      rw [List.map_cons, firstOfKey, firstOfKey, hb, ih _ hrest, ih _ hrest]
      split
      · rfl
      · rfl

/-- A change of blocks that keeps usable keys, and makes no others usable, keeps which of them can
be cited. -/
theorem citable_map {f : Block → Block} (hpseudo : ∀ b, (f b).isPseudo = b.isPseudo)
    (husable : ∀ b, isUsableKey (f b).key = isUsableKey b.key)
    (hkey : ∀ b, isUsableKey b.key → (f b).key = b.key) (bs : List Block) :
    citable (bs.map f) = (citable bs).map f := by
  have hfilter : (bs.map f).filter (fun b => !b.isPseudo && isUsableKey b.key) =
      (bs.filter fun b => !b.isPseudo && isUsableKey b.key).map f := by
    rw [List.filter_map]
    simp only [Function.comp_def, hpseudo, husable]
  rw [citable, hfilter, firstOfKey_map]
  · rfl
  · intro b hb
    have hkeep := (List.mem_filter.1 hb).2
    rw [Bool.and_eq_true] at hkeep
    exact hkey b hkeep.2

/-- Which blocks are entries does not depend on their gaps. -/
theorem citable_map_squeeze (bs : List Block) :
    citable (bs.map Block.squeeze) = (citable bs).map Block.squeeze := by
  refine citable_map (f := Block.squeeze) (fun _ => rfl) (fun b => ?_) (fun b hb => ?_) bs
  · rw [Block.key_squeeze, isUsableKey_squeezeFrom]
  · rw [Block.key_squeeze, squeezeFrom_of_isUsableKey hb]

/-- The entries of a text in which every block is closed do not depend on the length of its
gaps. -/
theorem parse_squeezeFrom (source : Path) (inGap : Bool) {t : Text} (ht : HasAsciiBlanks t)
    (hclosed : Block.openBlocks t = []) :
    parse source (squeezeFrom inGap t) = parse source t := by
  rw [parse, parse, Block.scan_squeezeFrom hclosed ht, citable_map_squeeze, List.map_map]
  refine List.map_congr_left fun b hb => ?_
  have hmem := List.mem_filter.1 (mem_of_mem_firstOfKey hb)
  have hbody : HasAsciiBlanks b.body := ht.mono (Block.parts_of_mem_scan hmem.1).2
  have husable := hmem.2
  rw [Bool.and_eq_true] at husable
  exact ofBlock_squeeze source hbody husable.2

end Entry

/-! ## Records in lines -/

namespace Layout

/-- Laying out lines adds no white space but line feeds and blanks. -/
theorem hasAsciiBlanks_formatLines {t : Text} (ht : HasAsciiBlanks t) :
    HasAsciiBlanks ((Text.lines t).map formatLine).flatten := by
  intro c hc hblank
  obtain ⟨laid, hlaid, hc⟩ := List.mem_flatten.1 hc
  obtain ⟨line, hline, rfl⟩ := List.mem_map.1 hlaid
  obtain ⟨indent, hindent, hlaid⟩ := laidLine_eq line
  rw [formatLine_eq_laidLine, hlaid] at hc
  rcases List.mem_append.1 hc with hc | hc
  · rcases List.mem_append.1 hc with hc | hc
    · rw [hindent c hc]
      rfl
    · exact ht c (Text.mem_of_mem_lines hline (Text.mem_of_mem_trim hc)) hblank
  · obtain rfl := List.mem_singleton.1 hc
    rfl

/-- Laying out a record that comes in more than one line keeps its entries, whatever stands in it,
as long as all its white space is ASCII and every block in it is closed. -/
theorem parse_format_of_lines (source : Path) {raw : Text}
    (hlines : 1 < (Text.lines (Text.trim raw)).length) (hblanks : HasAsciiBlanks raw)
    (hclosed : Block.openBlocks raw = []) :
    Entry.parse source (format raw) = Entry.parse source raw := by
  have hfeed : ∀ c ∈ ['\n'], Text.isBlank c := List.all_eq_true.1 rfl
  rcases Text.exists_trim raw with ⟨w, w', hw, hw', heq⟩
  rcases Block.scan_append_gap hfeed hclosed with ⟨hscan, hended⟩
  -- Up to the length of gaps the laid out record is the record on lines of its own.
  have hsame : squeezeFrom true (format raw) = squeezeFrom true (raw ++ ['\n']) := by
    have hend : ∀ c ∈ w' ++ ['\n'], Text.isBlank c := List.forall_mem_append.2 ⟨hw', hfeed⟩
    calc
      squeezeFrom true (format raw) = squeezeFrom true (Text.trim raw ++ (['\n'] ++ [])) := by
        rw [format_of_lines hlines, squeezeFrom_formatLines, List.append_nil]
      _ = squeezeFrom true (Text.trim raw ++ ((w' ++ ['\n']) ++ [])) :=
        Text.squeezeFrom_ending hfeed hend (by simp) (by simp) true (Text.trim raw) []
      _ = squeezeFrom true (w ++ (Text.trim raw ++ w') ++ ['\n']) := by
        rw [List.append_assoc w, Text.squeezeFrom_gap_append hw]
        simp
      _ = squeezeFrom true (raw ++ ['\n']) := by rw [← heq]
  have hblanks' : HasAsciiBlanks (raw ++ ['\n']) := by
    intro c hc hblank
    rcases List.mem_append.1 hc with hc | hc
    · exact hblanks c hc hblank
    · obtain rfl := List.mem_singleton.1 hc
      rfl
  have hlaid : HasAsciiBlanks (format raw) := by
    rw [format_of_lines hlines]
    exact hasAsciiBlanks_formatLines (hblanks.mono fun _ => Text.mem_of_mem_trim)
  -- So its blocks are closed as well, and both texts have the entries of the squeezed one.
  have hclosed' : Block.openBlocks (format raw) = [] := by
    rw [← Block.openBlocks_squeezeFrom true hlaid, hsame]
    exact (Block.openBlocks_squeezeFrom true hblanks').2 hended
  calc
    Entry.parse source (format raw) = Entry.parse source (squeezeFrom true (format raw)) :=
      (Entry.parse_squeezeFrom source true hlaid hclosed').symm
    _ = Entry.parse source (squeezeFrom true (raw ++ ['\n'])) := by rw [hsame]
    _ = Entry.parse source (raw ++ ['\n']) := Entry.parse_squeezeFrom source true hblanks' hended
    _ = Entry.parse source raw := by rw [Entry.parse, hscan, Entry.parse]

/-- A record in lines: text around its blocks, a header and a value broken over lines, quotes and
at signs inside values. -/
def scattered : Text :=
  "from a mail\n@string\x7bj = \"J\"\x7d\r\n\t@article\n\x7bk ,\n\n title = \x7bA\n\n".toList ++
    "   \x7bB\x7d @c\x7d,\n year= 2001 \x7d and\n  @misc(m,\x0c note=\"x, y\"\n)".toList

theorem parse_format_scattered :
    1 < (Text.lines (Text.trim scattered)).length ∧ HasAsciiBlanks scattered ∧
      Block.openBlocks scattered = [] ∧ format scattered ≠ scattered ∧
      (Entry.parse (Path.of "refs.bib") (format scattered)).map (fun e => (e.key, e.title)) =
        [("k".toList, some "A B @c".toList), ("m".toList, none)] := by
  have hlines : 1 < (Text.lines (Text.trim scattered)).length := by decide +kernel
  have hblanks : HasAsciiBlanks scattered := by decide +kernel
  have hclosed : Block.openBlocks scattered = [] := List.isEmpty_iff.1 (by decide +kernel)
  refine ⟨hlines, hblanks, hclosed, by decide +kernel, ?_⟩
  rw [parse_format_of_lines (Path.of "refs.bib") hlines hblanks hclosed]
  decide +kernel

end Layout

end Bibliography

end CiteIndex
