import CiteIndex.Proofs.Bibliography.LaidTwice
import CiteIndex.Proofs.Bibliography.Spacing

/-!
# What a laid out record is cited as

Laying out a record in one line takes its first block apart and drops all others. The first piece
that is not blank becomes the key, even if the record has none, so that the types and the keys of
the blocks stay just if the record is not taken apart at all, or if it has one block alone and that
has a key.

- `Block.citation`: type and key of a block
- `Layout.scan_of_split`: the one block of a record that was taken apart
- `Layout.citations_format_iff`: when the types and keys of a record stay
-/

namespace CiteIndex

namespace Bibliography

namespace Block

/-- What a block is cited as: its type and its key. -/
def citation (b : Block) : Text × Text :=
  (b.kind, b.key)

/-- A closed block ends outside all braces and quotes. -/
theorem isTop_of_mem_scan {t : Text} (hclosed : openBlocks t = []) :
    ∀ b ∈ scan t, (Nesting.outside.after b.body).isTop := by
  refine closed_induction ?_ ?_ ?_ ?_ t hclosed
  · intro b hb
    simp [scan] at hb
  · intro c cs hc ih
    rw [scan_cons_of_ne hc]
    exact ih
  · intro cs hheader ih
    rw [scan_at_of_none hheader]
    exact ih
  · intro cs kind close rest body behind hheader hcut ih b hb
    rw [scan_at_closed hheader hcut] at hb
    rcases List.mem_cons.1 hb with rfl | hb
    · exact (eq_append_of_cutAtTop? hcut).2.2
    · exact ih b hb

/-- White space around a text in which every block is closed is not read. -/
theorem scan_trim {t : Text} : openBlocks (Text.trim t) = [] → scan t = scan (Text.trim t) := by
  intro hclosed
  obtain ⟨w, w', hw, hw', heq⟩ := Text.exists_trim t
  have hat : '@' ∉ w := fun h => absurd (hw '@' h) (by decide)
  calc
    scan t = scan (Text.trim t ++ w') := by
      rw [heq, scan_append_of_not_mem hat, ← heq]
    _ = scan (Text.trim t) := (scan_append_gap hw' hclosed).1

end Block

namespace Layout

/-! ## The first piece -/

/-- Behind white space no piece begins with a comma, since that would have ended it. -/
theorem head_of_splitCommasFrom {s : Nesting} {t first : Text} {rest : List Text} :
    splitCommasFrom s t = first :: rest →
      (s.isTop → (Text.trimStart first).head? ≠ some ',') ∧
        ∀ piece ∈ rest, (Text.trimStart piece).head? ≠ some ',' := by
  intro hsplit
  -- Over the text. The first piece is read from the state `s`, all others from the top level.
  induction t generalizing s first rest with
  | nil =>
      cases hsplit
      simp [Text.trimStart]
  | cons c cs ih =>
      obtain ⟨next, more, hnext⟩ :=
        List.exists_cons_of_ne_nil (splitCommasFrom_ne_nil (s.step c) cs)
      obtain ⟨hfirst, hrest⟩ := ih hnext
      rw [splitCommasFrom, hnext] at hsplit
      split at hsplit
      · -- The comma is left out, and the next piece begins at the top level as well.
        rename_i hc
        obtain ⟨rfl, rfl⟩ := List.cons.inj hsplit
        have hstep : (s.step c).isTop := by
          rw [hc.1, Nesting.step_of_plain s (by decide)]
          exact hc.2
        refine ⟨fun _ => by simp [Text.trimStart], ?_⟩
        exact List.forall_mem_cons.2 ⟨hfirst hstep, hrest⟩
      · rename_i hc
        obtain ⟨rfl, rfl⟩ := List.cons.inj hsplit
        refine ⟨?_, hrest⟩
        intro htop
        cases hblank : Text.isBlank c with
        -- White space is trimmed and leaves the state as it is; anything else comes first.
        | true =>
            have hplain : c ≠ '{' ∧ c ≠ '}' ∧ c ≠ '"' :=
              ⟨Text.ne_of_isBlank hblank rfl, Text.ne_of_isBlank hblank rfl,
                Text.ne_of_isBlank hblank rfl⟩
            rw [Nesting.step_of_plain s hplain] at hfirst
            simpa [Text.trimStart, hblank] using hfirst htop
        | false =>
            have hne : c ≠ ',' := fun h => hc ⟨h, htop⟩
            simpa [Text.trimStart, hblank] using hne

/-- So there is something in each piece that could be a key. -/
theorem trim_takeWhile_piece {body piece : Text} :
    piece ∈ pieces body → Text.trim (piece.takeWhile (· != ',')) ≠ [] := by
  intro hpiece
  obtain ⟨hmem, hkeep⟩ := List.mem_filter.1 hpiece
  obtain ⟨whole, hwhole, rfl⟩ := List.mem_map.1 hmem
  obtain ⟨first, rest, hsplit⟩ := List.exists_cons_of_ne_nil (splitCommasFrom_ne_nil .outside body)
  have hhead : (Text.trimStart whole).head? ≠ some ',' := by
    obtain ⟨hfirst, hrest⟩ := head_of_splitCommasFrom hsplit
    rw [splitCommas, hsplit] at hwhole
    rcases List.mem_cons.1 hwhole with rfl | hwhole
    · exact hfirst rfl
    · exact hrest whole hwhole
  cases htrim : Text.trim whole with
  | nil =>
      rw [htrim] at hkeep
      cases hkeep
  | cons c cs =>
      have hink : Text.isBlank c = false := Text.head_trim c (by rw [htrim]; rfl)
      have hstart : (Text.trimStart whole).head? = some c := by
        obtain ⟨w, -, heq⟩ := Text.exists_dropEndWhile Text.isBlank (Text.trimStart whole)
        have hcut : Text.trimStart whole = Text.trim whole ++ w := heq
        rw [hcut, htrim]
        rfl
      have hne : (c != ',') = true := by
        rw [bne_iff_ne]
        rintro rfl
        exact hhead hstart
      rw [List.takeWhile_cons_of_pos (p := (· != ',')) hne]
      exact trim_ne_nil_of_mem List.mem_cons_self hink

/-! ## A record that is taken apart -/

/-- The text that a record is taken apart into: a header, the first piece, and a rest that makes up
for the body. -/
theorem flatten_split {b : Block} {key : Text} {fields : List Text} :
    pieces b.body = key :: fields → ∃ indent more, '@' ∉ indent ∧
      ((('@' :: (b.kind ++ '{' :: (key ++ [',']))) ::
        (withCommas fields ++ [['}']])).map formatLine).flatten =
          indent ++ '@' :: (b.kind ++ '{' :: (key ++ ',' :: more)) ∧
      ink (key ++ ',' :: more) = ink (b.body ++ ['}']) := by
  intro hpieces
  have hbody : ink (key :: fields).flatten = ink b.body := by
    rw [← hpieces]
    exact ink_flatten_pieces b.body
  obtain ⟨indent, hindent, hheader⟩ := laidLine_eq ('@' :: (b.kind ++ '{' :: (key ++ [','])))
  -- The header line ends in its comma, so it is trimmed already.
  have htrim : Text.trim ('@' :: (b.kind ++ '{' :: (key ++ [',']))) =
      '@' :: (b.kind ++ '{' :: (key ++ [','])) := by
    rw [trim_headed]
    have hend : Text.trimEnd (key ++ [',']) = key ++ [','] :=
      Text.dropEndWhile_append_cons (by decide) key []
    rw [hend]
  refine ⟨indent, '\n' :: ((withCommas fields ++ [['}']]).map formatLine).flatten, ?_, ?_, ?_⟩
  · intro hat
    exact absurd (hindent '@' hat) (by decide)
  · rw [List.map_cons, List.flatten_cons, formatLine_eq_laidLine, hheader, htrim]
    simp
  · calc
      ink (key ++ ',' :: '\n' :: ((withCommas fields ++ [['}']]).map formatLine).flatten)
          = ink key ++ (ink ([','] ++ ['\n']) ++
              ink ((withCommas fields ++ [['}']]).map formatLine).flatten) := by
            rw [← ink_append, ← ink_append]
            simp
      _ = ink key ++ ink (withCommas fields ++ [['}']]).flatten := by
            have hnone : ink ([','] ++ ['\n']) = [] := by decide
            rw [hnone, ink_formatLines]
            rfl
      _ = ink (key :: fields).flatten ++ ink ['}'] := by
            simp only [List.flatten_append, List.flatten_cons, List.flatten_nil, List.append_nil,
              ink_append, ink_withCommas, List.append_assoc]
      _ = ink (b.body ++ ['}']) := by rw [hbody, ink_append]

/-- A record that is taken apart has one block, whose key is in the first piece that is not
blank. -/
theorem scan_of_split {t key : Text} {b : Block} {bs : List Block} {fields : List Text} :
    Block.openBlocks t = [] → Block.scan t = b :: bs → cutAtTop? '}' .outside b.body = none →
      pieces b.body = key :: fields →
        (Block.scan ((('@' :: (b.kind ++ '{' :: (key ++ [',']))) ::
          (withCommas fields ++ [['}']])).map formatLine).flatten).map Block.citation =
            [(b.kind, Text.trim (key.takeWhile (· != ',')))] := by
  intro hclosed hscan hbraces hpieces
  have hmem : b ∈ Block.scan t := by
    rw [hscan]
    exact List.mem_cons_self
  obtain ⟨hletter, hchars⟩ := (Block.parts_of_mem_scan hmem).1
  obtain ⟨indent, more, hat, hlines, hink⟩ := flatten_split hpieces
  -- What stands behind the header has the ink of the body and one brace, so it ends at that.
  have hbody : Passes '}' .outside b.body (Nesting.outside.after b.body) := ⟨hbraces, rfl⟩
  have hcut := cutAtTop?_ink (.inl rfl) .outside (key ++ ',' :: more)
  rw [hink, cutAtTop?_ink (.inl rfl),
    hbody.cut_stop (Block.isTop_of_mem_scan hclosed b hmem) []] at hcut
  obtain ⟨⟨body, tail⟩, hcut', heq⟩ := Option.map_eq_some_iff.1 hcut.symm
  have hinkBody : ink body = ink b.body := (Prod.mk.inj heq).1
  have hinkTail : ink tail = [] := (Prod.mk.inj heq).2
  have hnone : Block.scan tail = [] := by
    apply Block.scan_of_not_mem
    intro hmem'
    have hmark : '@' ∈ ink tail := List.mem_filter.2 ⟨hmem', by decide⟩
    rw [hinkTail] at hmark
    cases hmark
  have hlen : (ink key).length ≤ (ink body).length := by
    have hparts : ink key ++ ink fields.flatten = ink body := by
      calc
        ink key ++ ink fields.flatten = ink (pieces b.body).flatten := by
          rw [hpieces, List.flatten_cons, ink_append]
        _ = ink body := by rw [ink_flatten_pieces, hinkBody]
    rw [← hparts, List.length_append]
    exact Nat.le_add_right _ _
  -- The key is as long as it was, since the body cannot end before the comma behind it.
  have htake := takeWhile_body (eq_append_of_cutAtTop? hcut').1 hlen
  have hblock : Block.scan ('@' :: (b.kind ++ '{' :: (key ++ ',' :: more))) =
      [⟨b.kind, body⟩] := by
    rw [Block.scan_at_closed (Block.header?_braces hletter hchars _) hcut', hnone]
  rw [hlines, Block.scan_append_of_not_mem hat, hblock]
  simp [Block.citation, Block.key, htake]

/-! ## A record that is not -/

/-- A record in one line that is not taken apart stays that line. -/
theorem scan_of_unsplit {t : Text} : '\n' ∉ t → Text.trim t = t → Block.openBlocks t = [] →
    splitBlock? t = none → Block.scan ((recordLines t).map formatLine).flatten = Block.scan t := by
  intro hfeed htrim hclosed hsplit
  by_cases hne : t = []
  · subst hne
    rfl
  · have hlines : recordLines t = [t] := by
      rw [recordLines, Text.lines_eq_self hfeed hne]
      simp [hsplit]
    obtain ⟨indent, hindent, hline⟩ := formatLine_eq t
    have hat : '@' ∉ indent := fun h => absurd (hindent '@' h) (by decide)
    have hend : ∀ c ∈ ['\n'], Text.isBlank c := List.all_eq_true.1 rfl
    calc
      Block.scan ((recordLines t).map formatLine).flatten = Block.scan (formatLine t) := by
        rw [hlines]
        simp
      _ = Block.scan (t ++ ['\n']) := by
        rw [hline, htrim, Block.scan_append_of_not_mem hat]
      _ = Block.scan t := (Block.scan_append_gap hend hclosed).1

/-! ## Types and keys -/

/-- Laying out a record in one line keeps the types and the keys of its blocks just if it does not
take the record apart, or if there is one block alone and that has a key. All blocks are closed, and
no brace closes more than is open in the first one, as some could in parentheses. -/
theorem citations_format_iff {record : Text} :
    '\n' ∉ Text.trim record → Block.openBlocks (Text.trim record) = [] →
      (∀ b ∈ (Block.scan record).head?, cutAtTop? '}' .outside b.body = none) →
        ((Block.scan (format record)).map Block.citation =
            (Block.scan record).map Block.citation ↔
          splitBlock? (Text.trim record) = none ∨
            ∃ b, Block.scan record = [b] ∧ b.key ≠ []) := by
  intro hfeed hclosed hbraces
  rw [Block.scan_trim hclosed] at hbraces ⊢
  cases hsplit : splitBlock? (Text.trim record) with
  | none =>
      have hscan := scan_of_unsplit hfeed (Text.trim_trim record) hclosed hsplit
      rw [format, hscan]
      simp
  | some lines =>
      obtain ⟨b, bs, key, field, fields, hscan, hpieces, rfl⟩ := splitBlock?_eq_some_iff.1 hsplit
      rw [hscan] at hbraces ⊢
      have hone := scan_of_split hclosed hscan (hbraces b rfl) hpieces
      have hmem : key ∈ pieces b.body := by
        rw [hpieces]
        exact List.mem_cons_self
      -- The new key is never empty, so a missing one is made up for.
      have hkey : Text.trim (key.takeWhile (· != ',')) = b.key ↔ b.key ≠ [] := by
        constructor
        · intro heq
          rw [← heq]
          exact trim_takeWhile_piece hmem
        · intro hne
          exact key_of_firstPiece hpieces hne
      have hformat : format record = ((('@' :: (b.kind ++ '{' :: (key ++ [',']))) ::
          (withCommas (field :: fields) ++ [['}']])).map formatLine).flatten := by
        have hne : Text.trim record ≠ [] := by
          intro hnil
          rw [hnil, Block.scan] at hscan
          cases hscan
        rw [format, recordLines, Text.lines_eq_self hfeed hne]
        simp [hsplit]
      rw [hformat, hone]
      simp only [List.map_cons, Block.citation, List.cons.injEq, Prod.mk.injEq, true_and, hkey]
      constructor
      · rintro ⟨hne, hnil⟩
        have hbs : bs = [] := List.map_eq_nil_iff.1 hnil.symm
        exact .inr ⟨b, ⟨rfl, hbs⟩, hne⟩
      · rintro (hnone | ⟨b', ⟨rfl, rfl⟩, hne⟩)
        · cases hnone
        · exact ⟨hne, rfl⟩

/-- A record of two entries, the first in parentheses and with a value that looks like one. -/
def twoEntries : Text :=
  " @misc(a, title = \x7bA, @b\x7bc,\x7d\x7d) @misc\x7bb, title = \x7bB\x7d\x7d\n".toList

/-- Laying out two entries in one line changes what the record is cited as. -/
theorem citations_format_twoEntries :
    '\n' ∉ Text.trim twoEntries ∧ Block.openBlocks (Text.trim twoEntries) = [] ∧
      (∀ b ∈ (Block.scan twoEntries).head?, cutAtTop? '}' .outside b.body = none) ∧
      (Block.scan (format twoEntries)).map Block.citation ≠
        (Block.scan twoEntries).map Block.citation := by
  have hfeed : '\n' ∉ Text.trim twoEntries := by decide +kernel
  have hclosed : Block.openBlocks (Text.trim twoEntries) = [] :=
    List.isEmpty_iff.1 (by decide +kernel)
  have hbraces : ∀ b ∈ (Block.scan twoEntries).head?, cutAtTop? '}' .outside b.body = none := by
    decide +kernel
  refine ⟨hfeed, hclosed, hbraces, ?_⟩
  intro hsame
  rcases (citations_format_iff hfeed hclosed hbraces).1 hsame with hnone | ⟨b, hscan, -⟩
  · exact absurd hnone (by decide +kernel)
  · have hlength : (Block.scan twoEntries).length = 1 := congrArg List.length hscan
    exact absurd hlength (by decide +kernel)

def keyless : Text :=
  "@misc\x7b, title=\x7bT\x7d, year=\x7b2000\x7d\x7d".toList

/-- Not all records in one line keep the types and keys of their blocks. -/
theorem not_citations_format :
    ¬∀ record : Text, '\n' ∉ Text.trim record → Block.openBlocks (Text.trim record) = [] →
      (Block.scan (format record)).map Block.citation =
        (Block.scan record).map Block.citation := by
  intro h
  have hclosed : Block.openBlocks (Text.trim keyless) = [] :=
    List.isEmpty_iff.1 (by decide +kernel)
  have hkeys : (Block.scan (format keyless)).map Block.citation =
      [("misc".toList, "title=\x7bT\x7d".toList)] := by decide +kernel
  have hnone : (Block.scan keyless).map Block.citation = [("misc".toList, [])] := by
    decide +kernel
  have hsame := h keyless (by decide +kernel) hclosed
  rw [hkeys, hnone] at hsame
  exact absurd hsame (by decide)

end Layout

end Bibliography

end CiteIndex
