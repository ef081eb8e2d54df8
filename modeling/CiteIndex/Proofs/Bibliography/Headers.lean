import CiteIndex.Proofs.Bibliography.LaidTwice

/-!
# Two readers of headers

Laying out decides by `isHeaderLine` which lines stand at the margin, and scanning decides by
`Block.header?` where a block begins. Both take an opening, which is white space, a type, white
space and an opening delimiter, but neither takes every one: the one wants the type right behind the
at sign and without hyphens, the other wants it to begin with a letter and all white space to be
ASCII.
So a line of a laid out record stands at the margin exactly if a block begins in it, unless its
opening is one that only the one or only the other reader takes.

- `Layout.Opening`: what both readers look for
- `Layout.IsLine`, `Layout.laidLine_of_isLine`: the lines of a laid out record
- `Layout.isHeaderLine_iff`, `Layout.opensEntry_iff`: what each reader takes
- `Layout.margin_iff_opensEntry`: where they agree
-/

namespace CiteIndex

namespace Bibliography

namespace Layout

/-! ## Openings -/

/-- White space, a type, white space, an opening delimiter, and anything behind it. -/
structure Opening where
  gap : Text
  kind : Text
  gap' : Text
  delimiter : Char
  more : Text
  isBlank_gap : ∀ c ∈ gap, Text.isBlank c
  kind_ne_nil : kind ≠ []
  isKindChar_kind : ∀ c ∈ kind, Block.isKindChar c
  isBlank_gap' : ∀ c ∈ gap', Text.isBlank c
  opens : delimiter = '{' ∨ delimiter = '('

namespace Opening

def text (o : Opening) : Text :=
  o.gap ++ (o.kind ++ (o.gap' ++ o.delimiter :: o.more))

structure IsPlain (o : Opening) : Prop where
  gap : o.gap = []
  hyphen : '-' ∉ o.kind

structure IsScanned (o : Opening) : Prop where
  gap : ∀ c ∈ o.gap, Text.isAsciiBlank c
  letter : ∀ c ∈ o.kind.head?, c.isAlpha
  gap' : ∀ c ∈ o.gap', Text.isAsciiBlank c

variable (o : Opening)

theorem not_blank_delimiter : Text.isBlank o.delimiter = false := by
  rcases o.opens with h | h <;> rw [h] <;> decide

theorem not_kindChar_delimiter : Block.isKindChar o.delimiter = false := by
  rcases o.opens with h | h <;> rw [h] <;> decide

theorem head_kind : ∀ c ∈ (o.kind ++ (o.gap' ++ o.delimiter :: o.more)).head?,
    Text.isBlank c = false := by
  intro c hc
  obtain ⟨d, ds, hkind⟩ := List.exists_cons_of_ne_nil o.kind_ne_nil
  rw [hkind] at hc
  obtain rfl : d = c := Option.some.inj hc
  exact Block.isBlank_of_isKindChar (o.isKindChar_kind d (by simp [hkind]))

theorem head_gap' : ∀ c ∈ (o.gap' ++ o.delimiter :: o.more).head?, Block.isKindChar c = false := by
  intro c hc
  cases hgap : o.gap' with
  | nil =>
      rw [hgap] at hc
      obtain rfl : o.delimiter = c := Option.some.inj hc
      exact o.not_kindChar_delimiter
  | cons d ds =>
      rw [hgap] at hc
      obtain rfl : d = c := Option.some.inj hc
      exact Block.isKindChar_of_isBlank (o.isBlank_gap' d (by simp [hgap]))

theorem head_delimiter : ∀ c ∈ (o.delimiter :: o.more).head?, Text.isBlank c = false := by
  intro c hc
  obtain rfl : o.delimiter = c := Option.some.inj hc
  exact o.not_blank_delimiter

variable {o}

/-- A text is an opening in one way at most. -/
theorem text_inj {o' : Opening} (heq : o.text = o'.text) : o = o' := by
  obtain ⟨hgap, heq⟩ :=
    Text.append_stop_inj o.isBlank_gap o.head_kind o'.isBlank_gap o'.head_kind heq
  obtain ⟨hkind, heq⟩ :=
    Text.append_stop_inj o.isKindChar_kind o.head_gap' o'.isKindChar_kind o'.head_gap' heq
  obtain ⟨hgap', heq⟩ :=
    Text.append_stop_inj o.isBlank_gap' o.head_delimiter o'.isBlank_gap' o'.head_delimiter heq
  obtain ⟨hdelimiter, hmore⟩ := List.cons.inj heq
  cases o
  cases o'
  simp_all

/-- A text is that of one opening only. -/
theorem exists_text_iff {p : Opening → Prop} : (∃ o', o'.text = o.text ∧ p o') ↔ p o := by
  constructor
  · rintro ⟨o', heq, ho'⟩
    rwa [← text_inj heq]
  · intro ho
    exact ⟨o, rfl, ho⟩

end Opening

/-! ## What laying out takes -/

/-- Types in header lines may hold what other types may, but for the hyphen. -/
theorem isHeaderChar_iff {c : Char} : isHeaderChar c ↔ Block.isKindChar c ∧ c ≠ '-' := by
  constructor
  · intro hc
    exact ⟨isKindChar_of_isHeaderChar hc, ne_of_isHeaderChar hc (by decide)⟩
  · rintro ⟨hc, hne⟩
    simpa [Block.isKindChar, isHeaderChar, hne] using hc

/-- Laying out takes a line for a header exactly if its at sign stands before such an opening. -/
theorem isHeaderLine_iff {rest : Text} :
    isHeaderLine ('@' :: rest) ↔ ∃ o : Opening, o.text = rest ∧ o.IsPlain := by
  constructor
  · intro h
    -- The reader stops twice, and where it does the parts of the opening end.
    obtain ⟨kind, tail, rfl, hkind, htail⟩ := Text.exists_stop isHeaderChar rest
    obtain ⟨gap', more, rfl, hgap', hmore⟩ := Text.exists_stop Text.isBlank tail
    rw [isHeaderLine, Text.takeWhile_append_stop hkind htail,
      Text.dropWhile_append_stop hkind htail, Text.trimStart,
      Text.dropWhile_append_stop hgap' hmore] at h
    rcases kind with _ | ⟨c, cs⟩
    · cases h
    · rcases more with _ | ⟨d, ds⟩
      · cases h
      · have hopens : d = '{' ∨ d = '(' := by simpa using h
        refine
          ⟨{ gap := []
             kind := c :: cs
             gap' := gap'
             delimiter := d
             more := ds
             isBlank_gap := by simp
             kind_ne_nil := List.cons_ne_nil c cs
             isKindChar_kind := fun x hx => (isHeaderChar_iff.1 (hkind x hx)).1
             isBlank_gap' := hgap'
             opens := hopens }, rfl, rfl, ?_⟩
        intro hmem
        exact (isHeaderChar_iff.1 (hkind '-' hmem)).2 rfl
  · rintro ⟨o, rfl, hgap, hhyphen⟩
    have hkind : ∀ c ∈ o.kind, isHeaderChar c := by
      intro c hc
      refine isHeaderChar_iff.2 ⟨o.isKindChar_kind c hc, ?_⟩
      rintro rfl
      exact hhyphen hc
    have htail : ∀ c ∈ (o.gap' ++ o.delimiter :: o.more).head?, isHeaderChar c = false := by
      intro c hc
      refine Bool.eq_false_iff.2 fun hchar => ?_
      have hkindChar := isKindChar_of_isHeaderChar hchar
      rw [o.head_gap' c hc] at hkindChar
      cases hkindChar
    rw [Opening.text, hgap, List.nil_append, isHeaderLine, Text.takeWhile_append_stop hkind htail,
      Text.dropWhile_append_stop hkind htail, Text.trimStart,
      Text.dropWhile_append_stop o.isBlank_gap' o.head_delimiter]
    obtain ⟨c, cs, hcons⟩ := List.exists_cons_of_ne_nil o.kind_ne_nil
    rw [hcons]
    simpa using o.opens

/-! ## What scanning takes -/

/-- Scanning takes an at sign before `rest` for the beginning of a block, where `rest` is what
stands behind the sign in its line and `behind` are the lines that follow, and the delimiter that
opens the block stands in the same line. -/
def OpensEntry (rest behind : Text) : Prop :=
  ∃ kind close more,
    Block.header? (rest ++ '\n' :: behind) = some (kind, close, more ++ '\n' :: behind)

theorem closing?_isSome_iff {c : Char} : (∃ close, Block.closing? c = some close) ↔
    c = '{' ∨ c = '(' := by
  by_cases hbrace : c = '{'
  · simp [Block.closing?, hbrace]
  · by_cases hparen : c = '(' <;> simp [Block.closing?, hbrace, hparen]

/-- Scanning takes an at sign for the beginning of a block exactly if it stands before such an
opening. -/
theorem opensEntry_iff {rest behind : Text} :
    OpensEntry rest behind ↔ ∃ o : Opening, o.text = rest ∧ o.IsScanned := by
  have hblank : ∀ {w : Text}, (∀ c ∈ w, Text.isAsciiBlank c) → ∀ c ∈ w, Text.isBlank c :=
    fun hw c hc => Text.isBlank_of_isAsciiBlank (hw c hc)
  constructor
  · rintro ⟨kind, close, more, h⟩
    obtain ⟨gap, gap', d, heq, hgap, ⟨⟨c, cs, rfl, hletter⟩, hchars⟩, hgap', hclose⟩ :=
      Block.header?_eq_some_iff.1 h
    refine
      ⟨{ gap := gap
         kind := c :: cs
         gap' := gap'
         delimiter := d
         more := more
         isBlank_gap := hblank hgap
         kind_ne_nil := List.cons_ne_nil c cs
         isKindChar_kind := hchars
         isBlank_gap' := hblank hgap'
         opens := closing?_isSome_iff.1 ⟨close, hclose⟩ }, ?_, hgap, by simpa using hletter, hgap'⟩
    -- Both texts go on with the same lines.
    have hsame : (gap ++ (c :: cs ++ (gap' ++ d :: more))) ++ '\n' :: behind =
        rest ++ '\n' :: behind := by
      rw [heq]
      simp
    exact List.append_cancel_right hsame
  · rintro ⟨o, rfl, hgap, hletter, hgap'⟩
    obtain ⟨close, hclose⟩ := closing?_isSome_iff.2 o.opens
    obtain ⟨c, cs, hkind⟩ := List.exists_cons_of_ne_nil o.kind_ne_nil
    refine ⟨o.kind, close, o.more, Block.header?_eq_some_iff.2 ?_⟩
    refine ⟨o.gap, o.gap', o.delimiter, by simp [Opening.text], hgap, ⟨⟨c, cs, hkind, ?_⟩, ?_⟩,
      hgap', hclose⟩
    · exact hletter c (by rw [hkind]; rfl)
    · exact o.isKindChar_kind

/-! ## Lines of a laid out record -/

/-- A line of a text in which every line ends in a line feed, and what stands before and behind. -/
structure IsLine (t before line behind : Text) : Prop where
  text : t = before ++ (line ++ '\n' :: behind)
  start : ∀ c ∈ before.getLast?, c = '\n'
  feed : '\n' ∉ line

/-- A line of a text that begins with another one is that one, or a line of what comes behind it. -/
theorem IsLine.cases {first t before line behind : Text} (hfirst : '\n' ∉ first)
    (hline : IsLine (first ++ '\n' :: t) before line behind) :
    first = line ∨ ∃ before', IsLine t before' line behind := by
  obtain ⟨htext, hstart, hfeed⟩ := hline
  have hpass : ∀ {w : Text}, '\n' ∉ w → ∀ c ∈ w, (c != '\n') = true := by
    intro w hw c hc
    simpa using ne_of_mem_of_not_mem hc hw
  have hstop : ∀ w : Text, ∀ c ∈ ('\n' :: w).head?, (c != '\n') = false := by simp
  obtain ⟨w, before', rfl, hw, hbefore'⟩ := Text.exists_stop (· != '\n') before
  cases before' with
  | nil =>
      -- No line feed stands before the line, so nothing does.
      left
      cases hlast : w.getLast? with
      | none =>
          obtain rfl := List.getLast?_eq_none_iff.1 hlast
          exact (Text.append_stop_inj (hpass hfirst) (hstop _) (hpass hfeed) (hstop _) htext).1
      | some c =>
          have hne := hw c (List.mem_of_mem_getLast? hlast)
          rw [hstart c (by rw [List.append_nil, hlast]; rfl)] at hne
          cases hne
  | cons c before' =>
      -- The first line ends where what stands before has its first line feed.
      right
      obtain rfl : c = '\n' := by simpa using hbefore' c rfl
      rw [List.append_assoc] at htext
      have hrest := (Text.append_stop_inj (hpass hfirst) (hstop _) hw (hstop _) htext).2
      refine ⟨before', (List.cons.inj hrest).2, ?_, hfeed⟩
      intro d hd
      apply hstart d
      rw [List.getLast?_append, List.getLast?_cons, hd]
      rfl

theorem laidLine_of_isLine_format {ls : List Text} (hfeed : ∀ l ∈ ls, '\n' ∉ l)
    {before line behind : Text} (hline : IsLine (ls.map formatLine).flatten before line behind) :
    ∃ l ∈ ls, laidLine l = line := by
  induction ls generalizing before with
  | nil =>
      have htext := hline.text
      simp at htext
  | cons l ls ih =>
      obtain ⟨hl, hls⟩ := List.forall_mem_cons.1 hfeed
      rw [List.map_cons, List.flatten_cons, formatLine_eq_laidLine, List.append_assoc] at hline
      rcases hline.cases (feed_not_mem_laidLine hl) with hlaid | ⟨before', hbehind⟩
      · exact ⟨l, List.mem_cons_self, hlaid⟩
      · obtain ⟨l', hmem, hlaid⟩ := ih hls hbehind
        exact ⟨l', List.mem_cons_of_mem l hmem, hlaid⟩

/-- Each line of a laid out record is some line laid out. -/
theorem laidLine_of_isLine {record before line behind : Text}
    (hline : IsLine (format record) before line behind) : ∃ l, '\n' ∉ l ∧ laidLine l = line := by
  have hfeed := (recordLines_framed (Text.trim_trim record)).1.feed
  obtain ⟨l, hl, hlaid⟩ := laidLine_of_isLine_format hfeed hline
  exact ⟨l, hfeed l hl, hlaid⟩

/-- A line that begins with an at sign once it is trimmed stands at the margin if it is a header. -/
theorem laidLine_at_iff {l rest : Text} (hat : Text.trim (laidLine l) = '@' :: rest) :
    laidLine l = '@' :: rest ↔ isHeaderLine ('@' :: rest) := by
  rw [trim_laidLine] at hat
  simp [laidLine, hat, isFlush]

/-! ## Where both agree -/

/-- A line of a laid out record that begins with an at sign once it is trimmed stands at the margin
exactly if its opening is plain, and a block begins in it exactly if its opening is one that is
scanned. So both say the same of the line unless its opening is only one of these. -/
theorem margin_iff_opensEntry {record before line behind rest : Text}
    (hline : IsLine (format record) before line behind) (hat : Text.trim line = '@' :: rest) :
    (line = '@' :: rest ↔ ∃ o : Opening, o.text = rest ∧ o.IsPlain) ∧
      (OpensEntry rest behind ↔ ∃ o : Opening, o.text = rest ∧ o.IsScanned) ∧
      ((line = '@' :: rest ↔ OpensEntry rest behind) ↔
        ∀ o : Opening, o.text = rest → (o.IsPlain ↔ o.IsScanned)) := by
  obtain ⟨l, -, rfl⟩ := laidLine_of_isLine hline
  have hmargin := (laidLine_at_iff hat).trans isHeaderLine_iff
  refine ⟨hmargin, opensEntry_iff, ?_⟩
  rw [hmargin, opensEntry_iff]
  constructor
  · rintro hsame o rfl
    rw [Opening.exists_text_iff, Opening.exists_text_iff] at hsame
    exact hsame
  · intro hsame
    constructor
    · rintro ⟨o, heq, hplain⟩
      exact ⟨o, heq, (hsame o heq).1 hplain⟩
    · rintro ⟨o, heq, hscanned⟩
      exact ⟨o, heq, (hsame o heq).2 hscanned⟩

/-- A record with an at sign inside of a value, which laying out takes for a header. -/
def digitRecord : Text :=
  "@misc\x7ba,\n  note=\x7b\n@1st(x)\x7d\n\x7d".toList

theorem margin_iff_opensEntry_digit :
    IsLine (format digitRecord) "@misc\x7ba,\n  note=\x7b\n".toList "@1st(x)\x7d".toList
        "\x7d\n".toList ∧
      (∃ o : Opening, o.text = "1st(x)\x7d".toList ∧ o.IsPlain) ∧
      (¬∃ o : Opening, o.text = "1st(x)\x7d".toList ∧ o.IsScanned) ∧
      ¬OpensEntry "1st(x)\x7d".toList "\x7d\n".toList := by
  have hlast : ("@misc\x7ba,\n  note=\x7b\n".toList).getLast? = some '\n' := by decide +kernel
  have hline : IsLine (format digitRecord) "@misc\x7ba,\n  note=\x7b\n".toList
      "@1st(x)\x7d".toList "\x7d\n".toList :=
    { text := by decide +kernel
      start := by simp only [hlast, Option.mem_some_iff, forall_eq']
      feed := by decide +kernel }
  have hheader : Block.header? ("1st(x)\x7d".toList ++ '\n' :: "\x7d\n".toList) = none := by
    decide +kernel
  have hnot : ¬OpensEntry "1st(x)\x7d".toList "\x7d\n".toList := by
    rintro ⟨kind, close, more, h⟩
    rw [hheader] at h
    cases h
  have hat : Text.trim "@1st(x)\x7d".toList = '@' :: "1st(x)\x7d".toList := by decide +kernel
  obtain ⟨hmargin, hopens, -⟩ := margin_iff_opensEntry hline hat
  exact ⟨hline, hmargin.1 (by decide +kernel), fun h => hnot (hopens.2 h), hnot⟩

def hyphenRecord : Text :=
  "@in-proceedings\x7bk,\n  title=\x7bT\x7d\n\x7d".toList

/-- A block begins in the first line of this record, but the line does not stand at the margin. -/
theorem not_margin_iff_opensEntry :
    ¬∀ record before line behind rest : Text, IsLine (format record) before line behind →
      Text.trim line = '@' :: rest → (line = '@' :: rest ↔ OpensEntry rest behind) := by
  intro h
  have hline : IsLine (format hyphenRecord) [] "  @in-proceedings\x7bk,".toList
      "  title=\x7bT\x7d\n\x7d\n".toList :=
    { text := by decide +kernel
      start := by simp
      feed := by decide +kernel }
  have hopens : OpensEntry "in-proceedings\x7bk,".toList "  title=\x7bT\x7d\n\x7d\n".toList :=
    ⟨"in-proceedings".toList, '\x7d', "k,".toList, by decide +kernel⟩
  have hmargin := (h hyphenRecord _ _ _ "in-proceedings\x7bk,".toList hline (by decide +kernel)).2
    hopens
  exact absurd hmargin (by decide +kernel)

end Layout

end Bibliography

end CiteIndex
