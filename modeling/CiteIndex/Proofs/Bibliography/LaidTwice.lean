import CiteIndex.Proofs.Bibliography.Pieces
import CiteIndex.Proofs.Text.Lines

/-!
# Laying out twice

How a line is laid out depends on what trimming leaves of it alone, and trimming takes away no
more than laying out has put there. A laid out record begins and ends with a line that is not
blank, so that its lines are read back as they were laid out: a record that is laid out a second
time stays as it is.

- `Layout.IsFramed`: lines that do not run together when they are laid out
- `Layout.recordLines_framed`: the lines of a record are such lines
- `Layout.lines_laidOut`: the lines of a laid out record
- `Layout.format_format`: laying out twice
-/

namespace CiteIndex

namespace Text

/-! ## Ends of lines put together -/

theorem head?_join {line : Text} (separator : Text) (rest : List Text) : line ≠ [] →
    (join separator (line :: rest)).head? = line.head? := by
  intro hne
  obtain ⟨c, cs, rfl⟩ := List.exists_cons_of_ne_nil hne
  cases rest with
  | nil => rfl
  | cons next more => rfl

theorem getLast?_join (separator : Text) {ls : List Text} : (∀ l ∈ ls.getLast?, l ≠ []) →
    (join separator ls).getLast? = ls.getLast?.bind List.getLast? := by
  intro hlast
  fun_induction join separator ls with
  | case1 => rfl
  | case2 line => rfl
  | case3 line rest hrest ih =>
      obtain ⟨next, more, rfl⟩ := List.exists_cons_of_ne_nil fun h => hrest h
      rw [List.getLast?_cons_cons] at hlast ⊢
      -- The last line is not empty, so what stands before it does not matter.
      have hmore := List.getLast?_eq_some_getLast (List.cons_ne_nil next more)
      have hne := List.getLast?_eq_some_getLast (hlast _ hmore)
      rw [List.getLast?_append, ih hlast, hmore, Option.bind_some, hne]
      rfl

end Text

namespace Bibliography

namespace Layout

/-! ## One line -/

/-- Laying out a line changes nothing but the white space around it. -/
theorem trim_laidLine (line : Text) : Text.trim (laidLine line) = Text.trim line := by
  obtain ⟨indent, hindent, hlaid⟩ := laidLine_eq line
  have hnil : ∀ c ∈ ([] : Text), Text.isBlank c := by simp
  calc
    Text.trim (laidLine line) = Text.trim (indent ++ (Text.trim line ++ [])) := by
      rw [hlaid, List.append_nil]
    _ = Text.trim (Text.trim line) :=
      Text.trim_append_gaps (isBlank_of_indent hindent) hnil (Text.trim line)
    _ = Text.trim line := Text.trim_trim line

/-- Of a line only what trimming leaves of it matters. -/
theorem formatLine_congr {line line' : Text} :
    Text.trim line = Text.trim line' → formatLine line = formatLine line' := by
  intro htrim
  rw [formatLine, formatLine, htrim]

theorem getLast_laidLine {line : Text} :
    ∀ c ∈ (laidLine line).getLast?, Text.trim line ≠ [] → Text.isBlank c = false := by
  intro c hc hne
  obtain ⟨indent, -, hlaid⟩ := laidLine_eq line
  have hlast := List.getLast?_eq_some_getLast hne
  rw [hlaid, List.getLast?_append, hlast] at hc
  exact Text.getLast_trim c (by rw [hlast]; exact hc)

theorem feed_not_mem_laidLine {line : Text} : '\n' ∉ line → '\n' ∉ laidLine line := by
  intro hfeed hmem
  obtain ⟨indent, hindent, hlaid⟩ := laidLine_eq line
  rw [hlaid] at hmem
  rcases List.mem_append.1 hmem with hmem | hmem
  · exact absurd (hindent '\n' hmem) (by decide)
  · exact hfeed (Text.mem_of_mem_trim hmem)

theorem laidLine_ends_no_return (line : Text) : (laidLine line).getLast? ≠ some '\r' := by
  intro hreturn
  by_cases hne : Text.trim line = []
  · -- A blank line is laid out as an empty one.
    rw [laidLine, hne] at hreturn
    cases hreturn
  · exact absurd (getLast_laidLine '\r' hreturn hne) (by decide)

/-! ## Lines of a record -/

/-- Lines that begin and end with one that is not blank, and of which none holds a line feed. -/
structure IsFramed (ls : List Text) : Prop where
  feed : ∀ l ∈ ls, '\n' ∉ l
  first : ∀ l ∈ ls.head?, Text.trim l ≠ []
  last : ∀ l ∈ ls.getLast?, Text.trim l ≠ []

theorem trim_ne_nil_of_mem {line : Text} {c : Char} :
    c ∈ line → Text.isBlank c = false → Text.trim line ≠ [] := by
  intro hc hink hnil
  have hblank := Text.trim_eq_nil_iff.1 hnil c hc
  rw [hink] at hblank
  cases hblank

/-- The first and the last line of a trimmed text are not blank. -/
theorem lines_framed {t : Text} : Text.trim t = t → IsFramed (Text.lines t) := by
  intro htrim
  have hink : ∀ {c : Char}, Text.isBlank c = false → c ≠ '\n' ∧ c ≠ '\r' := by
    rintro c hc
    constructor
    · rintro rfl
      cases hc
    · rintro rfl
      cases hc
  refine ⟨fun l hl => Text.feed_not_mem_lines hl, ?_, ?_⟩
  · intro l hl
    cases t with
    | nil => cases hl
    | cons c cs =>
        have hc : Text.isBlank c = false := Text.head_trim c (by rw [htrim]; rfl)
        have hhead := Text.head_lines rfl (hink hc).1 (hink hc).2 l hl
        exact trim_ne_nil_of_mem (List.mem_of_mem_head? hhead) hc
  · intro l hl
    cases hlast : t.getLast? with
    | none =>
        obtain rfl := List.getLast?_eq_none_iff.1 hlast
        cases hl
    | some c =>
        have hc : Text.isBlank c = false := Text.getLast_trim c (by rw [htrim]; exact hlast)
        have hend := Text.getLast_lines hlast (hink hc).1 l hl
        exact trim_ne_nil_of_mem (List.mem_of_mem_getLast? hend) hc

/-- The lines that a record without line feeds is taken apart into. -/
theorem splitBlock?_framed {t : Text} {ls : List Text} :
    '\n' ∉ t → splitBlock? t = some ls → IsFramed ls ∧ 1 < ls.length := by
  intro hfeed hsplit
  obtain ⟨b, bs, key, field, fields, hscan, hpieces, rfl⟩ := splitBlock?_eq_some_iff.1 hsplit
  obtain ⟨⟨-, hkind⟩, hbody⟩ := Block.parts_of_mem_scan (t := t) (b := b) (by simp [hscan])
  have hkind' : '\n' ∉ b.kind := by
    intro hmem
    exact absurd (hkind '\n' hmem) (by decide)
  have hpiece : ∀ p ∈ key :: field :: fields, '\n' ∉ p := by
    intro p hp hmem
    rw [← hpieces] at hp
    exact hfeed (hbody '\n' ((mem_pieces hp).2.2 '\n' hmem))
  obtain ⟨hkey, hfields⟩ := List.forall_mem_cons.1 hpiece
  constructor
  · -- No line of the block holds a line feed, and the first and the last hold ink.
    refine ⟨?_, ?_, ?_⟩
    · intro l hl hmem
      simp only [List.mem_cons, List.mem_append, List.not_mem_nil, or_false] at hl
      rcases hl with rfl | hl | rfl
      · simp [hkind', hkey] at hmem
      · rcases mem_of_mem_withCommas hl hmem with hcomma | ⟨p, hp, hmem⟩
        · exact absurd hcomma (by decide)
        · exact hfields p hp hmem
      · exact absurd hmem (by decide)
    · intro l hl
      obtain rfl := Option.some.inj hl
      exact trim_ne_nil_of_mem List.mem_cons_self rfl
    · intro l hl
      rw [← List.cons_append, List.getLast?_append] at hl
      obtain rfl := Option.some.inj hl
      exact trim_ne_nil_of_mem List.mem_cons_self rfl
  · simp only [List.length_cons, List.length_append, List.length_nil]
    omega

/-- A record has such lines, and if it has one line alone, then that is the record. -/
theorem recordLines_framed {t : Text} : Text.trim t = t →
    IsFramed (recordLines t) ∧ ∀ line, recordLines t = [line] → line = t := by
  intro htrim
  have hframed := lines_framed htrim
  rw [recordLines]
  split
  · rename_i line hlines
    obtain rfl := Text.lines_eq_singleton htrim hlines
    have hfeed : '\n' ∉ t := hframed.feed t (by simp [hlines])
    cases hsplit : splitBlock? t with
    -- The one line stays, or it is taken apart into more than one.
    | none =>
        rw [hlines] at hframed
        refine ⟨hframed, ?_⟩
        intro line hline
        exact (List.singleton_inj.1 hline).symm
    | some ls =>
        obtain ⟨hls, hlen⟩ := splitBlock?_framed hfeed hsplit
        refine ⟨hls, ?_⟩
        rintro line rfl
        exact absurd hlen (Nat.lt_irrefl 1)
  · rename_i hmany
    exact ⟨hframed, fun line hline => absurd hline (hmany line)⟩

/-! ## Lines of a laid out record -/

/-- Lines laid out one by one are joined by line feeds, with one at the end. -/
theorem flatten_formatLines (line : Text) (rest : List Text) :
    ((line :: rest).map formatLine).flatten =
      Text.join ['\n'] ((line :: rest).map laidLine) ++ ['\n'] := by
  induction rest generalizing line with
  | nil =>
      calc
        ([line].map formatLine).flatten = formatLine line := by simp
        _ = laidLine line ++ ['\n'] := formatLine_eq_laidLine line
  | cons next more ih =>
      calc
        ((line :: next :: more).map formatLine).flatten
            = formatLine line ++ ((next :: more).map formatLine).flatten := by simp
        _ = (laidLine line ++ ['\n']) ++
              (Text.join ['\n'] ((next :: more).map laidLine) ++ ['\n']) := by
            rw [formatLine_eq_laidLine, ih next]
        _ = Text.join ['\n'] ((line :: next :: more).map laidLine) ++ ['\n'] := by
            simp [Text.join]

/-- The last of the laid out lines ends in something else than white space. -/
theorem last_laidOut {line : Text} {rest : List Text} : IsFramed (line :: rest) →
    ∀ l ∈ (Text.trim line :: rest.map laidLine).getLast?,
      l ≠ [] ∧ ∀ c ∈ l.getLast?, Text.isBlank c = false := by
  intro hframed l hl
  cases hrest : rest.getLast? with
  | none =>
      obtain rfl := List.getLast?_eq_none_iff.1 hrest
      obtain rfl : Text.trim line = l := Option.some.inj hl
      exact ⟨hframed.first line rfl, Text.getLast_trim⟩
  | some final =>
      obtain ⟨more, rfl⟩ := List.getLast?_eq_some_iff.1 hrest
      have hfinal : Text.trim final ≠ [] :=
        hframed.last final (by rw [← List.cons_append, List.getLast?_append]; rfl)
      obtain rfl : laidLine final = l := by
        rw [List.map_append, ← List.cons_append, List.getLast?_append] at hl
        exact Option.some.inj hl
      refine ⟨?_, fun c hc => getLast_laidLine c hc hfinal⟩
      intro hnil
      rw [← trim_laidLine, hnil] at hfinal
      exact hfinal rfl

/-- Trimming takes the last line feed away, the indent of the first line, and nothing else. -/
theorem trim_laidOut {line : Text} {rest : List Text} : IsFramed (line :: rest) →
    Text.trim ((line :: rest).map formatLine).flatten =
      Text.join ['\n'] (Text.trim line :: rest.map laidLine) := by
  intro hframed
  obtain ⟨indent, hindent, hlaid⟩ := laidLine_eq line
  have hfeed : ∀ c ∈ ['\n'], Text.isBlank c := List.all_eq_true.1 rfl
  have hindented : Text.join ['\n'] (laidLine line :: rest.map laidLine) =
      indent ++ Text.join ['\n'] (Text.trim line :: rest.map laidLine) := by
    rw [hlaid]
    cases rest with
    | nil => rfl
    | cons next more => simp [Text.join]
  have hself : Text.trim (Text.join ['\n'] (Text.trim line :: rest.map laidLine)) =
      Text.join ['\n'] (Text.trim line :: rest.map laidLine) := by
    apply Text.trim_eq_self_of_ends
    · rw [Text.head?_join ['\n'] (rest.map laidLine) (hframed.first line rfl)]
      exact Text.head_trim
    · intro c hc
      rw [Text.getLast?_join ['\n'] fun l hl => (last_laidOut hframed l hl).1] at hc
      obtain ⟨l, hl, hc⟩ := Option.bind_eq_some_iff.1 hc
      exact (last_laidOut hframed l hl).2 c hc
  calc
    Text.trim ((line :: rest).map formatLine).flatten
        = Text.trim (indent ++
            (Text.join ['\n'] (Text.trim line :: rest.map laidLine) ++ ['\n'])) := by
          rw [flatten_formatLines, List.map_cons, hindented, List.append_assoc]
    _ = Text.trim (Text.join ['\n'] (Text.trim line :: rest.map laidLine)) :=
          Text.trim_append_gaps (isBlank_of_indent hindent) hfeed _
    _ = Text.join ['\n'] (Text.trim line :: rest.map laidLine) := hself

/-- The lines of a laid out record are the laid out lines, the first one without its indent. -/
theorem lines_laidOut {line : Text} {rest : List Text} : IsFramed (line :: rest) →
    Text.lines (Text.trim ((line :: rest).map formatLine).flatten) =
      Text.trim line :: rest.map laidLine := by
  intro hframed
  rw [trim_laidOut hframed]
  -- No laid out line holds a line feed, ends in a carriage return, or is empty at the end.
  apply Text.lines_join
  · intro l hl
    rcases List.mem_cons.1 hl with rfl | hl
    · refine ⟨fun h => hframed.feed line List.mem_cons_self (Text.mem_of_mem_trim h), ?_⟩
      intro hreturn
      exact absurd (Text.getLast_trim '\r' hreturn) (by decide)
    · obtain ⟨l, hmem, rfl⟩ := List.mem_map.1 hl
      exact ⟨feed_not_mem_laidLine (hframed.feed l (List.mem_cons_of_mem line hmem)),
        laidLine_ends_no_return l⟩
  · intro hnil
    exact (last_laidOut hframed [] hnil).1 rfl

/-! ## Twice -/

/-- Laying out a laid out record changes nothing, whatever the record holds. -/
theorem format_format (record : Text) : format (format record) = format record := by
  obtain ⟨hframed, hsingle⟩ := recordLines_framed (Text.trim_trim record)
  cases hlines : recordLines (Text.trim record) with
  | nil =>
      -- Nothing is laid out, so there is nothing to lay out again.
      have hnil : format record = [] := by rw [format, hlines]; rfl
      rw [hnil]
      rfl
  | cons line rest =>
      rw [hlines] at hframed
      have hformat : format record = ((line :: rest).map formatLine).flatten := by
        rw [format, hlines]
      have hagain : Text.lines (Text.trim (format record)) =
          Text.trim line :: rest.map laidLine := by
        rw [hformat]
        exact lines_laidOut hframed
      cases rest with
      | nil =>
          -- A record that stays in one line was not taken apart, and is the same one again.
          obtain rfl : line = Text.trim record := hsingle line hlines
          have hone : Text.trim (format record) = Text.trim record := by
            -- One line is all of the text that it is a line of.
            have h := Text.lines_eq_singleton (Text.trim_trim (format record)) hagain
            rw [h, Text.trim_trim]
          rw [format, hone, ← format]
      | cons next more =>
          have hmany : recordLines (Text.trim (format record)) =
              Text.trim line :: (next :: more).map laidLine := by
            rw [recordLines, hagain]
            rfl
          have hrest : ((next :: more).map laidLine).map formatLine =
              (next :: more).map formatLine := by
            rw [List.map_map]
            apply List.map_congr_left
            intro l _
            exact formatLine_congr (trim_laidLine l)
          calc
            format (format record)
                = ((Text.trim line :: (next :: more).map laidLine).map formatLine).flatten := by
                  rw [format, hmany]
            _ = ((line :: next :: more).map formatLine).flatten := by
                  rw [List.map_cons, hrest, formatLine_congr (Text.trim_trim line)]
                  rfl
            _ = format record := hformat.symm

end Layout

end Bibliography

end CiteIndex
