import CiteIndex.Bibliography.Layout
import CiteIndex.Proofs.Bibliography.Entries

/-!
# Laid out records

Laying a record out moves white space about and, for a record in one line, drops commas that stand
for nothing. Braces, quotes and everything else stay in their order, a record that begins with a
header at the margin still does, and its first block keeps its key.

- `Layout.IsKind`: the types that a header at the margin can have
- `Layout.ink_format`: all that is neither white space nor a comma stays
- `Layout.squeezeFrom_formatLines`: of a record in lines, all that is not white space stays
- `Layout.exists_firstBlock`: the first block of a laid out record
-/

namespace CiteIndex

namespace Bibliography

namespace Layout

/-! ## Headers at the margin -/

/-- A type of records: a letter, then letters, digits and underscores. -/
structure IsKind (kind : Text) : Prop where
  letter : ∃ c cs, kind = c :: cs ∧ c.isAlpha
  chars : ∀ c ∈ kind, isHeaderChar c

theorem isKindChar_of_isHeaderChar {c : Char} (h : isHeaderChar c) : Block.isKindChar c := by
  simp only [isHeaderChar, Bool.or_eq_true, beq_iff_eq] at h
  simp [Block.isKindChar, h]

theorem isBlank_of_isHeaderChar {c : Char} (h : isHeaderChar c) : Text.isBlank c = false :=
  Block.isBlank_of_isKindChar (isKindChar_of_isHeaderChar h)

theorem ne_of_isHeaderChar {c d : Char} (hc : isHeaderChar c) (hd : isHeaderChar d = false) :
    c ≠ d := by
  rintro rfl
  simp [hc] at hd

section Headed

variable {kind : Text} (hkind : IsKind kind)
include hkind

theorem IsKind.ne_nil : kind ≠ [] := by
  rcases hkind.letter with ⟨c, cs, rfl, -⟩
  simp

theorem IsKind.isKindChar : ∀ c ∈ kind, Block.isKindChar c := by
  intro c hc
  exact isKindChar_of_isHeaderChar (hkind.chars c hc)

theorem header?_kind (rest : Text) :
    Block.header? (kind ++ '{' :: rest) = some (kind, '}', rest) :=
  Block.header?_braces hkind.letter hkind.isKindChar rest

/-- The blocks of a record that begins with a closed one. -/
theorem scan_headed {rest body tail : Text}
    (hclosed : cutAtTop? '}' .outside rest = some (body, tail)) :
    Block.scan ('@' :: (kind ++ '{' :: rest)) = ⟨kind, body⟩ :: Block.scan tail := by
  have hbody : Block.cutBody '}' rest = (body, tail) := by rw [Block.cutBody, hclosed]
  rw [Block.scan_at (header?_kind hkind rest), hbody]

omit hkind in
theorem trim_headed (rest : Text) :
    Text.trim ('@' :: (kind ++ '{' :: rest)) = '@' :: (kind ++ '{' :: Text.trimEnd rest) := by
  rw [Text.trim_cons (by decide)]
  exact congrArg ('@' :: ·) (Text.dropEndWhile_append_cons (by decide) kind rest)

/-- A line that begins with a header stays at the margin. -/
theorem formatLine_headed (rest : Text) :
    formatLine ('@' :: (kind ++ '{' :: rest)) =
      '@' :: (kind ++ '{' :: (Text.trimEnd rest ++ ['\n'])) := by
  have hstop : ∀ c ∈ ('{' :: Text.trimEnd rest).head?, isHeaderChar c = false := by
    simp [isHeaderChar]
  have hflush : isFlush ('@' :: (kind ++ '{' :: Text.trimEnd rest)) := by
    have htake := Text.takeWhile_append_stop hkind.chars hstop
    have hdrop := Text.dropWhile_append_stop hkind.chars hstop
    have hbrace : Text.trimStart ('{' :: Text.trimEnd rest) = '{' :: Text.trimEnd rest := rfl
    rcases List.exists_cons_of_ne_nil hkind.ne_nil with ⟨c, cs, rfl⟩
    simp only [isFlush, isHeaderLine, htake, hdrop, hbrace]
    simp
  rw [formatLine, trim_headed]
  simp [hflush]

/-- The header of a record stands in its first line. -/
theorem exists_lines_headed (rest : Text) :
    ∃ line more, Text.lines ('@' :: (kind ++ '{' :: rest)) =
      ('@' :: (kind ++ '{' :: line)) :: more := by
  have hchars : ∀ c ∈ '@' :: (kind ++ ['{']), c ≠ '\n' ∧ c ≠ '\r' := by
    intro c hc
    simp only [List.mem_cons, List.mem_append, List.not_mem_nil, or_false] at hc
    rcases hc with rfl | hc | rfl
    · decide
    · have h := hkind.chars c hc
      exact ⟨ne_of_isHeaderChar h (by decide), ne_of_isHeaderChar h (by decide)⟩
    · decide
  rcases Text.exists_lines_append (List.cons_ne_nil _ _) hchars rest with ⟨line, more, hlines⟩
  exact ⟨line, more, by simpa using hlines⟩

end Headed

/-- A record that begins at its margin with a closed block, `tail` behind it. -/
structure BeginsWith (record : Text) (b : Block) (tail : Text) : Prop where
  kind : IsKind b.kind
  text : Text.trim record = '@' :: (b.kind ++ '{' :: (b.body ++ '}' :: tail))
  closed : cutAtTop? '}' .outside (b.body ++ '}' :: tail) = some (b.body, tail)

/-- A record that is exactly one closed entry, in which braces are balanced whatever the quotes. -/
def IsEntry (record : Text) : Prop :=
  ∃ b, BeginsWith record b [] ∧ IsBalanced (Text.trim record)

/-! ## The two ways to lay out -/

/-- A record is laid out in its own lines, or in those that it is taken apart into. -/
theorem format_cases (record : Text) :
    format record = ((Text.lines (Text.trim record)).map formatLine).flatten ∨
      ∃ lines, splitBlock? (Text.trim record) = some lines ∧
        format record = (lines.map formatLine).flatten := by
  rw [format, recordLines]
  split
  · rename_i line hlines
    cases hsplit : splitBlock? (Text.trim record) with
    | none =>
        left
        -- The one line is the whole record, so it is laid out like any other.
        have hline := Text.lines_eq_singleton (Text.trim_trim record) hlines
        rw [hlines, ← hline]
        rfl
    | some lines => exact .inr ⟨lines, rfl, rfl⟩
  · exact .inl rfl

/-- A record that comes in more than one line is laid out in its lines. -/
theorem format_of_lines {record : Text} (hlines : 1 < (Text.lines (Text.trim record)).length) :
    format record = ((Text.lines (Text.trim record)).map formatLine).flatten := by
  rw [format, recordLines]
  split
  · rename_i line heq
    rw [heq] at hlines
    exact absurd hlines (Nat.lt_irrefl 1)
  · rfl

/-- The lines that a record is taken apart into, if it begins with a closed block. -/
theorem splitBlock?_headed {kind rest body tail : Text} (hkind : IsKind kind)
    (hclosed : cutAtTop? '}' .outside rest = some (body, tail)) {lines : List Text}
    (h : splitBlock? ('@' :: (kind ++ '{' :: rest)) = some lines) :
    ∃ key fields, ((splitCommas body).map Text.trim).filter (fun piece => !piece.isEmpty) =
        key :: fields ∧
      lines = ('@' :: (kind ++ '{' :: (key ++ [',']))) :: (withCommas fields ++ [['}']]) := by
  rw [splitBlock?, scan_headed hkind hclosed] at h
  simp only at h
  split at h
  · rename_i key field fields hpieces
    refine ⟨key, field :: fields, hpieces, ?_⟩
    simpa using h.symm
  · cases h

/-- A laid out record begins with the type of its block and an opening brace. -/
theorem format_header {record tail : Text} {b : Block} (hbegins : BeginsWith record b tail) :
    ∃ rest, format record = '@' :: (b.kind ++ '{' :: rest) := by
  rcases hbegins with ⟨hkind, hrecord, hclosed⟩
  rcases format_cases record with h | ⟨lines, hsplit, h⟩
  · rcases exists_lines_headed hkind (b.body ++ '}' :: tail) with ⟨line, more, hlines⟩
    rw [hrecord, hlines, List.map_cons, formatLine_headed hkind] at h
    exact ⟨Text.trimEnd line ++ ['\n'] ++ (more.map formatLine).flatten, by simpa using h⟩
  · rw [hrecord] at hsplit
    rcases splitBlock?_headed hkind hclosed hsplit with ⟨key, fields, -, rfl⟩
    rw [List.map_cons, formatLine_headed hkind] at h
    exact ⟨_, by simpa using h⟩

/-! ## Ink -/

/-- A character that laying out neither moves nor drops. -/
def isInk (c : Char) : Bool :=
  !Text.isBlank c && c != ','

/-- All that laying out leaves as it is. -/
def ink (t : Text) : Text :=
  t.filter isInk

theorem ink_cons (c : Char) (t : Text) : ink (c :: t) = ink [c] ++ ink t := by
  cases hc : isInk c <;> simp [ink, hc]

theorem ink_append (t u : Text) : ink (t ++ u) = ink t ++ ink u :=
  List.filter_append ..

theorem ink_feed : ink ['\n'] = [] := by decide

theorem ink_comma : ink [','] = [] := by decide

theorem ink_gap {w : Text} (hw : ∀ c ∈ w, Text.isBlank c) : ink w = [] := by
  refine List.filter_eq_nil_iff.2 fun c hc => ?_
  simp [isInk, hw c hc]

theorem ink_trim (t : Text) : ink (Text.trim t) = ink t := by
  -- White space has no ink.
  rcases Text.exists_trim t with ⟨w, w', hw, hw', heq⟩
  have hink := congrArg ink heq
  rw [ink_append, ink_append, ink_gap hw, ink_gap hw'] at hink
  simpa using hink.symm

/-- A line that is laid out keeps its ink. -/
theorem ink_formatLine (line : Text) : ink (formatLine line) = ink line := by
  have hindent : ink [' '] = [] := by decide
  rw [← ink_trim line, formatLine]
  split
  · rename_i heq
    rw [heq]
    exact ink_feed
  · rename_i c cs heq
    rw [heq]
    split
    · rw [ink_append, ink_feed, List.append_nil]
    · rw [ink_append, ink_cons, ink_cons ' ' (c :: cs), hindent, ink_feed]
      simp

theorem ink_formatLines (lines : List Text) :
    ink (lines.map formatLine).flatten = ink lines.flatten := by
  induction lines with
  | nil => rfl
  | cons line rest ih =>
      rw [List.map_cons, List.flatten_cons, List.flatten_cons, ink_append, ink_append,
        ink_formatLine, ih]

/-- Cutting a text into lines loses no ink. -/
theorem ink_lines (t : Text) : ink (Text.lines t).flatten = ink t := by
  induction hlen : t.length using Nat.strongRecOn generalizing t with
  | ind n ih =>
      subst hlen
      by_cases ht : t = []
      · subst ht
        rfl
      · rcases Text.exists_line ht with ⟨line, ending, rest, heq, hlines, hend⟩
        have hgap : ink ending = [] := by
          rcases hend with rfl | rfl | ⟨rfl, -⟩ <;> decide
        rw [hlines, List.flatten_cons, ink_append, heq, ink_append, ink_append, hgap,
          List.nil_append]
        -- The rest is shorter: a line was taken off.
        by_cases hrest : rest = []
        · subst hrest
          rfl
        · have hlt : rest.length < t.length := Text.length_rest_lt heq hend hrest
          rw [ih rest.length hlt rest rfl]

/-- Cutting a text at commas loses no ink. -/
theorem ink_splitCommas (s : Nesting) (t : Text) : ink (splitCommasFrom s t).flatten = ink t := by
  induction t generalizing s with
  | nil => rfl
  | cons c cs ih =>
      rw [splitCommasFrom, ink_cons c cs, ← ih (s.step c)]
      split
      · rename_i hc
        rw [hc.1, ink_comma]
        rfl
      -- Any other character goes in front of the first piece.
      · cases splitCommasFrom (s.step c) cs with
        | nil => exact (List.append_nil _).symm
        | cons piece pieces => exact ink_cons c (piece ++ pieces.flatten)

theorem ink_withCommas (pieces : List Text) : ink (withCommas pieces).flatten = ink pieces.flatten := by
  fun_induction withCommas pieces with
  | case1 => rfl
  | case2 => rfl
  | case3 piece rest _ ih =>
      rw [List.flatten_cons, List.flatten_cons, ink_append, ink_append, ink_append, ink_comma, ih,
        List.append_nil]

/-- Trimming the pieces and leaving out the empty ones loses no ink. -/
theorem ink_pieces (pieces : List Text) :
    ink ((pieces.map Text.trim).filter fun piece => !piece.isEmpty).flatten = ink pieces.flatten := by
  induction pieces with
  | nil => rfl
  | cons piece rest ih =>
      rw [List.map_cons, List.flatten_cons, ink_append, ← ih, ← ink_trim piece]
      by_cases hempty : Text.trim piece = []
      · rw [List.filter_cons_of_neg (by simp [hempty]), hempty]
        rfl
      · rw [List.filter_cons_of_pos (by simp [hempty]), List.flatten_cons, ink_append]

/-- The lines of a block in one line hold all its ink. -/
theorem ink_split {kind rest body tail : Text} (hkind : IsKind kind)
    (hclosed : cutAtTop? '}' .outside rest = some (body, tail)) {lines : List Text}
    (h : splitBlock? ('@' :: (kind ++ '{' :: rest)) = some lines) :
    ink (lines.map formatLine).flatten = ink ('@' :: (kind ++ '{' :: (body ++ ['}']))) := by
  rcases splitBlock?_headed hkind hclosed h with ⟨key, fields, hpieces, rfl⟩
  have hink : ink (key :: fields).flatten = ink body := by
    rw [← hpieces, ink_pieces, splitCommas, ink_splitCommas]
  rw [List.flatten_cons, ink_append] at hink
  rw [ink_formatLines]
  simp only [List.flatten_cons, List.flatten_append, List.flatten_nil, List.append_nil,
    ink_append, ink_withCommas, ink_cons _ (kind ++ _), ink_cons _ (_ ++ ['}']),
    ink_cons _ (_ ++ [',']), ink_comma, ← hink, List.append_assoc]

/-- All ink of a record that is one closed block stays. -/
theorem ink_format {record : Text} {b : Block} (hbegins : BeginsWith record b []) :
    ink (format record) = ink (Text.trim record) := by
  rcases hbegins with ⟨hkind, hrecord, hclosed⟩
  rcases format_cases record with h | ⟨lines, hsplit, h⟩
  · rw [h, ink_formatLines, ink_lines]
  · rw [hrecord] at hsplit
    rw [h, ink_split hkind hclosed hsplit, hrecord]

/-- What is not ink does not matter to the end of a block. -/
theorem cutAtTop?_ink {close : Char} (hclose : close = '}' ∨ close = ')') (s : Nesting) (t : Text) :
    cutAtTop? close s (ink t) =
      (cutAtTop? close s t).map fun cut => (ink cut.1, ink cut.2) := by
  refine cutAtTop?_filter (fun c hc => ?_) s t
  have hne : ∀ d, isInk d = true → c ≠ d := by
    rintro d hd rfl
    simp [hd] at hc
  refine ⟨hne _ (by decide), hne _ (by decide), hne _ (by decide), hne _ ?_⟩
  rcases hclose with rfl | rfl <;> decide

/-- A laid out record that is one closed and balanced block closes nothing that it stands in. -/
theorem cutAtTop?_format {record : Text} {b : Block} (hbegins : BeginsWith record b [])
    (hbalanced : IsBalanced (Text.trim record)) {close : Char} (hclose : close = '}' ∨ close = ')')
    (s : Nesting) : cutAtTop? close s (format record) = none := by
  rcases id hbegins with ⟨hkind, hrecord, hclosed⟩
  have hmargin : ∀ c ∈ '@' :: b.kind, c ≠ '{' ∧ c ≠ '}' ∧ c ≠ '"' ∧ c ≠ close := by
    intro c hc
    rcases List.mem_cons.1 hc with rfl | hc
    · rcases hclose with rfl | rfl <;> decide
    · have h := hkind.chars c hc
      refine ⟨ne_of_isHeaderChar h (by decide), ne_of_isHeaderChar h (by decide),
        ne_of_isHeaderChar h (by decide), ne_of_isHeaderChar h ?_⟩
      rcases hclose with rfl | rfl <;> decide
  -- The outer braces match each other, so the body is balanced by itself.
  have hbody : IsBalanced b.body := by
    rcases eq_append_of_cutAtTop? hclosed with ⟨-, -, htop⟩
    have hplain : braceDepth? 0 ('@' :: b.kind) = some 0 :=
      braceDepth?_of_plain 0 fun c hc => ⟨(hmargin c hc).1, (hmargin c hc).2.1⟩
    have hwhole : braceDepth? 0 (('@' :: b.kind) ++ ('{' :: b.body ++ ['}'])) = some 0 := by
      simpa [IsBalanced, hrecord] using hbalanced
    rw [braceDepth?_append, hplain] at hwhole
    exact isBalanced_of_closed hwhole htop
  have hopen : close ≠ '{' := by rcases hclose with rfl | rfl <;> decide
  -- The header moves nothing, and the body is passed as a group.
  have hpass : Passes close s (Text.trim record) s := by
    rw [hrecord]
    simpa using (Passes.of_plain s hmargin).append (Passes.group hopen s hbody)
  have hnone : cutAtTop? close s (ink (format record)) = none := by
    -- The laid out record has the ink of the record, and that is all that matters.
    rw [ink_format hbegins, cutAtTop?_ink hclose, hpass.1]
    rfl
  rw [cutAtTop?_ink hclose] at hnone
  simpa using hnone

/-! ## Gaps -/

def laidLine (line : Text) : Text :=
  match Text.trim line with
  | [] => []
  | c :: cs => if isFlush (c :: cs) then c :: cs else ' ' :: ' ' :: c :: cs

theorem formatLine_eq_laidLine (line : Text) : formatLine line = laidLine line ++ ['\n'] := by
  cases htrim : Text.trim line with
  | nil => simp [formatLine, laidLine, htrim]
  | cons c cs => by_cases hflush : isFlush (c :: cs) <;> simp [formatLine, laidLine, htrim, hflush]

/-- A line is laid out by trimming and indenting it. -/
theorem laidLine_eq (line : Text) :
    ∃ indent, (∀ c ∈ indent, c = ' ') ∧ laidLine line = indent ++ Text.trim line := by
  rw [laidLine]
  split
  · rename_i htrim
    exact ⟨[], by simp, by rw [htrim]; rfl⟩
  · rename_i c cs htrim
    rw [htrim]
    split
    · exact ⟨[], by simp, rfl⟩
    · exact ⟨[' ', ' '], by simp, rfl⟩

theorem isBlank_of_indent {indent : Text} : (∀ c ∈ indent, c = ' ') →
    ∀ c ∈ indent, Text.isBlank c := by
  intro hindent c hc
  rw [hindent c hc]
  decide

theorem formatLine_eq (line : Text) :
    ∃ indent, (∀ c ∈ indent, Text.isBlank c) ∧
      formatLine line = indent ++ (Text.trim line ++ ['\n']) := by
  obtain ⟨indent, hindent, hlaid⟩ := laidLine_eq line
  refine ⟨indent, isBlank_of_indent hindent, ?_⟩
  rw [formatLine_eq_laidLine, hlaid, List.append_assoc]

/-- Up to its gaps a line is laid out as it is. -/
theorem squeezeFrom_formatLine (line : Text) :
    Text.squeezeFrom true (formatLine line) = Text.squeezeFrom true (line ++ ['\n']) := by
  rcases Text.exists_trim line with ⟨w, w', hw, hw', heq⟩
  rcases formatLine_eq line with ⟨indent, hindent, hformat⟩
  have hfeed : ∀ c ∈ ['\n'], Text.isBlank c := List.all_eq_true.1 rfl
  have hend : ∀ c ∈ w' ++ ['\n'], Text.isBlank c := List.forall_mem_append.2 ⟨hw', hfeed⟩
  have hline := congrArg (fun l => Text.squeezeFrom true (l ++ ['\n'])) heq
  simp only [List.append_assoc, Text.squeezeFrom_gap_append hw] at hline
  have hending := Text.squeezeFrom_ending hfeed hend (by simp) (by simp) true (Text.trim line) []
  rw [hline, hformat, Text.squeezeFrom_gap_append hindent]
  simpa using hending

/-- Laying out the lines of a text moves nothing but white space. -/
theorem squeezeFrom_formatLines (t : Text) :
    Text.squeezeFrom true ((Text.lines t).map formatLine).flatten =
      Text.squeezeFrom true (t ++ ['\n']) := by
  have hfeed : ∀ c ∈ ['\n'], Text.isBlank c := List.all_eq_true.1 rfl
  induction hlen : t.length using Nat.strongRecOn generalizing t with
  | ind n ih =>
      subst hlen
      by_cases ht : t = []
      · subst ht
        rfl
      · rcases Text.exists_line ht with ⟨line, ending, rest, heq, hlines, hend⟩
        rcases formatLine_eq line with ⟨indent, -, hformat⟩
        -- Both the line as it is laid out and the line with its end lead into a gap.
        have hafter : Text.endsInGap true (formatLine line) = true := by
          rw [hformat, ← List.append_assoc, Text.endsInGap_append_cons]
          rfl
        have hafter' : Text.endsInGap true (line ++ ['\n']) = true :=
          Text.endsInGap_append_cons true line '\n'
        rw [hlines, List.map_cons, List.flatten_cons, Text.squeezeFrom_append, hafter,
          squeezeFrom_formatLine]
        by_cases hrest : rest = []
        · -- The last line, whether or not something ends it.
          subst hrest
          have hblank : ∀ c ∈ ending ++ ['\n'], Text.isBlank c := by
            rcases hend with rfl | rfl | ⟨rfl, -⟩ <;> exact List.all_eq_true.1 rfl
          have hsame := Text.squeezeFrom_ending hfeed hblank (by simp) (by simp) true line []
          rw [heq]
          simpa [Text.lines, Text.squeezeFrom] using hsame
        · have hlt : rest.length < t.length := Text.length_rest_lt heq hend hrest
          have hblank : (∀ c ∈ ending, Text.isBlank c) ∧ ending ≠ [] := by
            rcases hend with rfl | rfl | ⟨-, rfl⟩
            · exact ⟨List.all_eq_true.1 rfl, by simp⟩
            · exact ⟨List.all_eq_true.1 rfl, by simp⟩
            · exact absurd rfl hrest
          have hsame := Text.squeezeFrom_ending hfeed hblank.1 (by simp) hblank.2 true line
            (rest ++ ['\n'])
          rw [ih rest.length hlt rest rfl, heq, List.append_assoc, List.append_assoc, ← hsame,
            ← List.append_assoc, Text.squeezeFrom_append _ (line ++ ['\n']), hafter']

/-! ## The first block -/

/-- Bodies that differ in the length of gaps alone have the same key, if one can be cited. -/
theorem key_of_squeezeFrom_eq {kind body body' : Text}
    (h : Text.squeezeFrom false body' = Text.squeezeFrom false body)
    (hkey : Entry.isUsableKey (Block.key ⟨kind, body⟩)) :
    Block.key ⟨kind, body'⟩ = Block.key ⟨kind, body⟩ := by
  have hcomma : ∀ c, Text.isBlank c → (c != ',') = true := by
    intro c hc
    rw [bne_iff_ne]
    rintro rfl
    exact absurd hc (by decide)
  -- A comma ends the key, and squeezing keeps commas where they are.
  have hsqueeze : ∀ t, Text.squeezeFrom false (Text.trim (t.takeWhile (· != ','))) =
      Text.trim ((Text.squeezeFrom false t).takeWhile (· != ',')) := by
    intro t
    rw [← Text.trim_squeezeFrom false, Text.takeWhile_squeezeFrom hcomma]
  have hblank : ∀ c ∈ Text.trim (body.takeWhile (· != ',')), Text.isBlank c = false := by
    simp only [Entry.isUsableKey, Bool.and_eq_true, Bool.not_eq_true', List.any_eq_false,
      Bool.not_eq_true] at hkey
    exact hkey.2
  refine Text.eq_of_squeezeFrom_eq hblank ?_
  change Text.squeezeFrom false (Text.trim (body'.takeWhile (· != ','))) = _
  rw [hsqueeze, h, ← hsqueeze, Text.squeezeFrom_eq_self hblank]
  rfl

theorem splitCommasFrom_ne_nil (s : Nesting) (t : Text) : splitCommasFrom s t ≠ [] := by
  cases t with
  | nil => simp [splitCommasFrom]
  | cons c cs =>
      rw [splitCommasFrom]
      split
      · simp
      · cases splitCommasFrom (s.step c) cs <;> simp [Text.consHead]

/-- The first piece holds all that stands before the first comma. -/
theorem takeWhile_splitCommas {s : Nesting} {t piece : Text} {pieces : List Text}
    (h : splitCommasFrom s t = piece :: pieces) :
    piece.takeWhile (· != ',') = t.takeWhile (· != ',') := by
  induction t generalizing s piece pieces with
  | nil =>
      cases h
      rfl
  | cons c cs ih =>
      rw [splitCommasFrom] at h
      split at h
      · rename_i hc
        cases h
        simp [hc.1]
      -- A comma inside braces is no cut, yet both sides stop at it.
      · cases hcs : splitCommasFrom (s.step c) cs with
        | nil => exact absurd hcs (splitCommasFrom_ne_nil _ _)
        | cons piece' pieces' =>
            rw [hcs] at h
            cases h
            cases hc : c != ',' <;> simp [hc, ih hcs]

/-- The first piece that is not blank holds the key, if there is one. -/
theorem key_of_firstPiece {kind body key : Text} {fields : List Text}
    (hpieces : ((splitCommas body).map Text.trim).filter (fun piece => !piece.isEmpty) =
      key :: fields) (hkey : Block.key ⟨kind, body⟩ ≠ []) :
    Text.trim (key.takeWhile (· != ',')) = Block.key ⟨kind, body⟩ := by
  have hcomma : ∀ c, Text.isBlank c → (c != ',') = true := by
    intro c hc
    rw [bne_iff_ne]
    exact Text.ne_of_isBlank hc rfl
  obtain ⟨piece, pieces, hcommas⟩ :=
    List.exists_cons_of_ne_nil (splitCommasFrom_ne_nil .outside body)
  have hpiece : Text.trim ((Text.trim piece).takeWhile (· != ',')) = Block.key ⟨kind, body⟩ := by
    rw [Text.trim_takeWhile_trim hcomma, takeWhile_splitCommas hcommas]
    rfl
  have hne : Text.trim piece ≠ [] := by
    intro hnil
    rw [hnil] at hpiece
    exact hkey hpiece.symm
  have hkeep : (!(Text.trim piece).isEmpty) = true := by simpa using hne
  rw [splitCommas, hcommas, List.map_cons, List.filter_cons, if_pos hkeep] at hpieces
  rw [← (List.cons.inj hpieces).1]
  exact hpiece

/-- A record in lines keeps the key of its first block. -/
theorem exists_firstBlock_lines {record tail : Text} {b : Block}
    (hbegins : BeginsWith record b tail) (hkey : Entry.isUsableKey b.key)
    (hlines : format record = ((Text.lines (Text.trim record)).map formatLine).flatten) :
    ∃ b' more, Block.scan (format record) = b' :: more ∧ b'.kind = b.kind ∧ b'.key = b.key := by
  rcases format_header hbegins with ⟨rest', hformat⟩
  rcases b with ⟨kind, body⟩
  rcases hbegins with ⟨hkind, hrecord, hclosed⟩
  have hsolid : ∀ c ∈ '@' :: (kind ++ ['{']), Text.isBlank c = false := by
    intro c hc
    simp only [List.mem_cons, List.mem_append, List.not_mem_nil, or_false] at hc
    rcases hc with rfl | hc | rfl
    · decide
    · exact isBlank_of_isHeaderChar (hkind.chars c hc)
    · decide
  -- Behind the header both texts are the same up to the length of gaps.
  have hsame : Text.squeezeFrom false rest' =
      Text.squeezeFrom false (body ++ '}' :: tail ++ ['\n']) := by
    have h := squeezeFrom_formatLines (Text.trim record)
    have hhead : ∀ t, Text.squeezeFrom true ('@' :: (kind ++ '{' :: t)) =
        '@' :: (kind ++ ['{']) ++ Text.squeezeFrom false t := by
      intro t
      have happend := Text.squeezeFrom_append true ('@' :: (kind ++ ['{'])) t
      rw [Text.squeezeFrom_eq_self hsolid] at happend
      have hend : Text.endsInGap true (('@' :: kind) ++ ['{']) = false :=
        Text.endsInGap_append_cons true ('@' :: kind) '{'
      rw [List.cons_append] at hend
      rw [hend] at happend
      simpa using happend
    rw [← hlines, hformat, hrecord] at h
    have hassoc : '@' :: (kind ++ '{' :: (body ++ '}' :: tail)) ++ ['\n'] =
        '@' :: (kind ++ '{' :: (body ++ '}' :: tail ++ ['\n'])) := by simp
    rw [hassoc, hhead, hhead] at h
    exact List.append_cancel_left h
  -- So they are cut at the same place, and the bodies are the same up to that as well.
  have hcut := cutAtTop?_append hclosed ['\n']
  have hsqueezed : cutAtTop? '}' .outside (Text.squeezeFrom false rest') =
      some (Text.squeezeFrom false body, Text.squeezeFrom false (tail ++ ['\n'])) := by
    rw [hsame, cutAtTop?_squeezeFrom (by decide), hcut]
    rfl
  rw [cutAtTop?_squeezeFrom (by decide)] at hsqueezed
  rcases Option.map_eq_some_iff.1 hsqueezed with ⟨⟨body', tail'⟩, hclosed', heq⟩
  refine ⟨⟨kind, body'⟩, Block.scan tail', ?_, rfl, key_of_squeezeFrom_eq (Prod.mk.inj heq).1 hkey⟩
  rw [hformat, scan_headed hkind hclosed']

/-- A body that goes on behind the first comma of a text has the start of the text. -/
theorem takeWhile_body {t more body tail : Text} (h : t ++ ',' :: more = body ++ '}' :: tail)
    (hink : (ink t).length ≤ (ink body).length) :
    body.takeWhile (· != ',') = t.takeWhile (· != ',') := by
  rcases Text.exists_stop (· != ',') t with ⟨first, rest, rfl, hfirst, hrest⟩
  obtain ⟨u, hu⟩ : ∃ u, rest ++ ',' :: more = ',' :: u := by
    cases rest with
    | nil => exact ⟨more, rfl⟩
    | cons c cs =>
        obtain rfl : c = ',' := by simpa using hrest c rfl
        exact ⟨cs ++ ',' :: more, rfl⟩
  rw [Text.takeWhile_append_stop hfirst hrest]
  rw [List.append_assoc, hu] at h
  -- Either the comma stands in the body or the closing brace stands before the comma.
  rcases List.append_eq_append_iff.1 h with ⟨w, rfl, hw⟩ | ⟨w, rfl, hw⟩
  · cases w with
    | nil => cases hw
    | cons c cs =>
        rcases List.cons.inj hw with ⟨rfl, rfl⟩
        exact Text.takeWhile_append_stop hfirst (by simp)
  · -- The body would end before the comma, and lack the ink of its own brace.
    cases w with
    | nil => cases hw
    | cons c cs =>
        rcases List.cons.inj hw with ⟨rfl, -⟩
        have hbrace : ink ['}'] = ['}'] := by decide
        rw [ink_append, ink_append, ink_cons, hbrace] at hink
        simp only [List.length_append, List.length_singleton] at hink
        omega

/-- What follows the header of a record that is taken apart: the key, a comma, and a body with the
ink of the first one. -/
theorem exists_key_split {kind rest body tail : Text} (hkind : IsKind kind)
    (hclosed : cutAtTop? '}' .outside rest = some (body, tail))
    (hkey : Block.key ⟨kind, body⟩ ≠ []) {lines : List Text}
    (hsplit : splitBlock? ('@' :: (kind ++ '{' :: rest)) = some lines) :
    ∃ key more, (lines.map formatLine).flatten = '@' :: (kind ++ '{' :: (key ++ ',' :: more)) ∧
      Text.trim (key.takeWhile (· != ',')) = Block.key ⟨kind, body⟩ ∧
      (ink key).length ≤ (ink body).length ∧
      ink (key ++ ',' :: more) = ink (body ++ ['}']) := by
  have hink := ink_split hkind hclosed hsplit
  rcases splitBlock?_headed hkind hclosed hsplit with ⟨key, fields, hpieces, rfl⟩
  have hbody : ink (key :: fields).flatten = ink body := by
    rw [← hpieces, ink_pieces, splitCommas, ink_splitCommas]
  have htrim : Text.trimEnd (key ++ [',']) = key ++ [','] :=
    Text.dropEndWhile_append_cons (by decide) _ []
  have hlines : (List.map formatLine (('@' :: (kind ++ '{' :: (key ++ [',']))) ::
      (withCommas fields ++ [['}']]))).flatten = '@' :: (kind ++ '{' :: (key ++ ',' ::
        '\n' :: ((withCommas fields ++ [['}']]).map formatLine).flatten)) := by
    rw [List.map_cons, List.flatten_cons, formatLine_headed hkind, htrim]
    simp
  refine ⟨key, _, hlines, key_of_firstPiece hpieces hkey, ?_, ?_⟩
  · rw [← hbody, List.flatten_cons, ink_append, List.length_append]
    exact Nat.le_add_right _ _
  · have hhead : ∀ t, ink ('@' :: (kind ++ '{' :: t)) = ink ('@' :: kind ++ ['{']) ++ ink t :=
      fun t => by rw [← ink_append]; simp
    rw [hlines, hhead, hhead] at hink
    exact List.append_cancel_left hink

/-- A record that is taken apart keeps the key of its first block. -/
theorem exists_firstBlock_split {record tail : Text} {b : Block}
    (hbegins : BeginsWith record b tail) (hkey : Entry.isUsableKey b.key) {lines : List Text}
    (hsplit : splitBlock? (Text.trim record) = some lines)
    (hlines : format record = (lines.map formatLine).flatten) :
    ∃ b' more, Block.scan (format record) = b' :: more ∧ b'.kind = b.kind ∧ b'.key = b.key := by
  rcases b with ⟨kind, body⟩
  rcases hbegins with ⟨hkind, hrecord, hclosed⟩
  have hne : Block.key ⟨kind, body⟩ ≠ [] := by
    intro hnil
    rw [hnil] at hkey
    cases hkey
  rw [hrecord] at hsplit
  rcases exists_key_split hkind hclosed hne hsplit with ⟨key, more, hformat, hkey', hlen, hink⟩
  -- The ink behind the header is that of the body and its brace, so the cut leaves the ink of the body.
  rcases eq_append_of_cutAtTop? hclosed with ⟨-, hpass, htop⟩
  have hcut := cutAtTop?_ink (.inl rfl) .outside (key ++ ',' :: more)
  rw [hink, cutAtTop?_ink (.inl rfl), hpass.cut_stop htop []] at hcut
  rcases Option.map_eq_some_iff.1 hcut.symm with ⟨⟨body', tail'⟩, hclosed', heq⟩
  have hbody : ink body' = ink body := (Prod.mk.inj heq).1
  refine ⟨⟨kind, body'⟩, Block.scan tail', ?_, rfl, ?_⟩
  · rw [hlines, hformat, scan_headed hkind hclosed']
  · have htake := takeWhile_body (eq_append_of_cutAtTop? hclosed').1 (by rw [hbody]; exact hlen)
    rw [← hkey', ← htake]
    rfl

/-- The first block of a laid out record is of the type of the record, and has its key if that can
be cited. -/
theorem exists_firstBlock {record tail : Text} {b : Block} (hbegins : BeginsWith record b tail)
    (hkey : Entry.isUsableKey b.key) :
    ∃ b' more, Block.scan (format record) = b' :: more ∧ b'.kind = b.kind ∧ b'.key = b.key := by
  rcases format_cases record with h | ⟨lines, hsplit, h⟩
  · exact exists_firstBlock_lines hbegins hkey h
  · exact exists_firstBlock_split hbegins hkey hsplit h

/-! ## Where a laid out record begins -/

/-- An at sign at the start of a line stays there, but for the indentation. -/
theorem formatLine_at (t : Text) :
    ∃ indent rest, (∀ c ∈ indent, Text.isAsciiBlank c) ∧
      formatLine ('@' :: t) = indent ++ '@' :: rest := by
  rw [formatLine, Text.trim_cons (by decide)]
  split
  · rename_i heq
    cases heq
  · rename_i c cs heq
    rcases List.cons.inj heq with ⟨rfl, rfl⟩
    split
    · exact ⟨[], _, by simp, rfl⟩
    · exact ⟨[' ', ' '], _, List.all_eq_true.1 rfl, rfl⟩

/-- A record that begins with an at sign still does, behind at most an indent. -/
theorem format_at {record t : Text} (hrecord : Text.trim record = '@' :: t) :
    ∃ indent rest, (∀ c ∈ indent, Text.isAsciiBlank c) ∧
      format record = indent ++ '@' :: rest := by
  have hfirst : ∀ line more, ∃ indent rest, (∀ c ∈ indent, Text.isAsciiBlank c) ∧
      ((('@' :: line) :: more).map formatLine).flatten = indent ++ '@' :: rest := by
    intro line more
    rcases formatLine_at line with ⟨indent, rest, hindent, hline⟩
    refine ⟨indent, rest ++ (more.map formatLine).flatten, hindent, ?_⟩
    rw [List.map_cons, List.flatten_cons, hline]
    simp
  rcases format_cases record with h | ⟨lines, hsplit, h⟩
  · rcases Text.exists_lines_append (w := ['@']) (by simp) (by simp) t with ⟨line, more, hlines⟩
    have hlines : Text.lines ('@' :: t) = ('@' :: line) :: more := hlines
    rw [h, hrecord, hlines]
    exact hfirst line more
  -- A record that was taken apart begins with the line of its header.
  · obtain ⟨line, more, rfl⟩ : ∃ line more, lines = ('@' :: line) :: more := by
      rw [splitBlock?] at hsplit
      split at hsplit
      · cases hsplit
      · split at hsplit
        · cases hsplit
          exact ⟨_, _, rfl⟩
        · cases hsplit
    rw [h]
    exact hfirst line more

/-! ## The key of a record -/

/-- The key of a record of a citable type is that of its block, unless it is empty. -/
theorem recordKey?_eq {record tail : Text} {b : Block} (hbegins : BeginsWith record b tail)
    (hpseudo : b.isPseudo = false) :
    recordKey? record = (some b.key).filter fun k => !k.isEmpty := by
  rcases hbegins with ⟨hkind, hrecord, hclosed⟩
  rcases Text.exists_trim record with ⟨w, w', hw, -, heq⟩
  have hat : '@' ∉ w := fun h => absurd (hw '@' h) (by decide)
  have hscan : Block.scan record = b :: Block.scan (tail ++ w') := by
    have hassoc : Text.trim record ++ w' =
        '@' :: (b.kind ++ '{' :: (b.body ++ '}' :: tail ++ w')) := by
      rw [hrecord]
      simp
    rw [heq, Block.scan_append_of_not_mem hat, hassoc,
      scan_headed hkind (cutAtTop?_append hclosed w')]
  rw [recordKey?, hscan, List.find?_cons, hpseudo]
  rfl

end Layout

end Bibliography

end CiteIndex
