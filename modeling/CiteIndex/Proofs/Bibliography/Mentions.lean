import CiteIndex.Proofs.Bibliography.Layouts
import CiteIndex.Proofs.Text.Mentions

/-!
# Mentions in laid out records

Laying out a record moves white space and commas, and takes the braces around the body apart from
what is in it. A DOI that has none of these in it is mentioned in the laid out record just if the
record mentions it, as long as nothing of the record is left out: what stands behind the one block
of a record in one line is.

- `Layout.occursIn_formatLines`: mentions in lines that were laid out
- `Layout.any_occursIn_splitCommas`: mentions in the pieces of a body
- `Layout.occursIn_format_of_lines`, `Layout.occursIn_format_of_block`: mentions in whole records
-/

namespace CiteIndex

open Bibliography

namespace Doi

variable {typed : Text} {doi : Doi}

theorem occursIn_nil (hdoi : parse typed = .ok doi) : doi.occursIn [] = false :=
  occursIn_gap hdoi (by simp)

/-- A break at the end of a text is no part of a mention. -/
theorem occursIn_append_last {c : Char} (hdoi : parse typed = .ok doi) (hc : Text.isBreak c)
    (hmem : c ∉ doi.normalized) (t : Text) : doi.occursIn (t ++ [c]) = doi.occursIn t := by
  rw [occursIn_append_break hc hmem, occursIn_nil hdoi, Bool.or_false]

section Ink

variable (hdoi : parse typed = .ok doi) (hink : ∀ c ∈ doi.normalized, Text.isBlank c = false)
include hink

/-! ## White space in a text -/

omit hdoi in
/-- A DOI holds no white space, so none is mentioned across a blank. -/
theorem occursIn_append_blank {c : Char} (hc : Text.isBlank c) (s t : Text) :
    doi.occursIn (s ++ c :: t) = (doi.occursIn s || doi.occursIn t) := by
  have hmem : c ∉ doi.normalized := fun h => by simp [hink c h] at hc
  exact occursIn_append_break (Text.isBreak_of_blank hc) hmem s t

include hdoi

theorem occursIn_gap_append {w : Text} (hw : ∀ c ∈ w, Text.isBlank c) (t : Text) :
    doi.occursIn (w ++ t) = doi.occursIn t := by
  induction w with
  | nil => rfl
  | cons c cs ih =>
      rcases List.forall_mem_cons.1 hw with ⟨hc, hcs⟩
      have hsplit := occursIn_append_blank hink hc [] (cs ++ t)
      rw [occursIn_nil hdoi, Bool.false_or, ih hcs] at hsplit
      exact hsplit

theorem occursIn_append_gap {w : Text} (hw : ∀ c ∈ w, Text.isBlank c) (t : Text) :
    doi.occursIn (t ++ w) = doi.occursIn t := by
  cases w with
  | nil => rw [List.append_nil]
  | cons c cs =>
      rcases List.forall_mem_cons.1 hw with ⟨hc, hcs⟩
      rw [occursIn_append_blank hink hc, occursIn_gap hdoi hcs, Bool.or_false]

theorem occursIn_trim (t : Text) : doi.occursIn (Text.trim t) = doi.occursIn t := by
  rcases Text.exists_trim t with ⟨w, w', hw, hw', heq⟩
  have hwhole := congrArg doi.occursIn heq
  rw [occursIn_gap_append hdoi hink hw, occursIn_append_gap hdoi hink hw'] at hwhole
  exact hwhole.symm

/-- The lines of a text mention what the text does. -/
theorem any_occursIn_lines (t : Text) : (Text.lines t).any doi.occursIn = doi.occursIn t := by
  induction hlen : t.length using Nat.strongRecOn generalizing t with
  | ind n ih =>
      subst hlen
      by_cases ht : t = []
      · subst ht
        exact (occursIn_nil hdoi).symm
      · rcases Text.exists_line ht with ⟨line, ending, rest, heq, hlines, hend⟩
        have hsplit : doi.occursIn t = (doi.occursIn line || doi.occursIn rest) := by
          rw [heq]
          rcases hend with rfl | rfl | ⟨rfl, rfl⟩
          · exact occursIn_append_blank hink (by decide) line rest
          · have hfeed : doi.occursIn ('\n' :: rest) = doi.occursIn rest :=
              occursIn_gap_append hdoi hink (List.forall_mem_singleton.2 rfl) rest
            rw [← hfeed]
            exact occursIn_append_blank hink (by decide) line ('\n' :: rest)
          · simp [occursIn_nil hdoi]
        rw [hlines, List.any_cons, hsplit]
        -- The rest is shorter: a line was taken off.
        by_cases hrest : rest = []
        · subst hrest
          exact congrArg _ (occursIn_nil hdoi).symm
        · rw [ih rest.length (Text.length_rest_lt heq hend hrest) rest rfl]

end Ink

end Doi

namespace Bibliography.Layout

variable {typed : Text} {doi : Doi} (hdoi : Doi.parse typed = .ok doi)
  (hink : ∀ c ∈ doi.normalized, Text.isBlank c = false)
include hdoi hink

/-! ## Records in lines -/

/-- Laying out a line neither makes nor breaks a mention, in the line or behind it. -/
theorem occursIn_formatLine (line rest : Text) :
    doi.occursIn (formatLine line ++ rest) = (doi.occursIn line || doi.occursIn rest) := by
  have hindent : ∀ c ∈ [' ', ' '], Text.isBlank c := List.all_eq_true.1 rfl
  have hfeed (s : Text) :
      doi.occursIn (s ++ '\n' :: rest) = (doi.occursIn s || doi.occursIn rest) :=
    Doi.occursIn_append_blank hink (by decide) s rest
  rw [← Doi.occursIn_trim hdoi hink line, formatLine]
  split
  · rename_i htrim
    rw [htrim]
    exact hfeed []
  · rename_i c cs htrim
    rw [htrim]
    split
    · rw [List.append_assoc]
      exact hfeed (c :: cs)
    · have hline := hfeed ([' ', ' '] ++ c :: cs)
      rw [Doi.occursIn_gap_append hdoi hink hindent] at hline
      simpa using hline

/-- Lines that were laid out mention what the lines did. -/
theorem occursIn_formatLines (lines : List Text) :
    doi.occursIn (lines.map formatLine).flatten = lines.any doi.occursIn := by
  induction lines with
  | nil => exact Doi.occursIn_nil hdoi
  | cons line rest ih =>
      rw [List.map_cons, List.flatten_cons, occursIn_formatLine hdoi hink, ih, List.any_cons]

/-- A record of more than one line mentions a DOI just if it does when it is laid out. -/
theorem occursIn_format_of_lines {record : Text}
    (hlines : 1 < (Text.lines (Text.trim record)).length) :
    doi.occursIn (format record) = doi.occursIn record := by
  rw [format_of_lines hlines, occursIn_formatLines hdoi hink, Doi.any_occursIn_lines hdoi hink,
    Doi.occursIn_trim hdoi hink]

/-! ## Records in one line -/

omit hdoi hink in
/-- The pieces between commas mention what the text does. A text in front of it belongs to the first
piece. -/
theorem exists_splitCommasFrom (hcomma : ',' ∉ doi.normalized) (s : Nesting) (t : Text) :
    ∃ piece pieces, splitCommasFrom s t = piece :: pieces ∧
      ∀ front, (doi.occursIn (front ++ piece) || pieces.any doi.occursIn) =
        doi.occursIn (front ++ t) := by
  induction t generalizing s with
  | nil => exact ⟨[], [], rfl, fun front => by simp⟩
  | cons c cs ih =>
      rcases ih (s.step c) with ⟨piece, pieces, hsplit, hmentions⟩
      rw [splitCommasFrom, hsplit]
      split
      · rename_i hc
        refine ⟨[], piece :: pieces, rfl, fun front => ?_⟩
        have hrest := hmentions []
        rw [List.nil_append, List.nil_append] at hrest
        rw [hc.1, Doi.occursIn_append_break (by decide) hcomma, List.any_cons, hrest,
          List.append_nil]
      -- Any other character goes in front of the first piece.
      · refine ⟨c :: piece, pieces, rfl, fun front => ?_⟩
        simpa using hmentions (front ++ [c])

omit hdoi hink in
/-- A DOI without commas is mentioned in a text exactly if it is in one of the pieces. -/
theorem any_occursIn_splitCommas (hcomma : ',' ∉ doi.normalized) (t : Text) :
    (splitCommas t).any doi.occursIn = doi.occursIn t := by
  rcases exists_splitCommasFrom hcomma .outside t with ⟨piece, pieces, hsplit, hmentions⟩
  rw [splitCommas, hsplit, List.any_cons]
  exact hmentions []

/-- Trimming the pieces and leaving out the empty ones takes no mention away. -/
theorem any_occursIn_pieces (pieces : List Text) :
    ((pieces.map Text.trim).filter fun piece => !piece.isEmpty).any doi.occursIn =
      pieces.any doi.occursIn := by
  induction pieces with
  | nil => rfl
  | cons piece rest ih =>
      rw [List.map_cons, List.any_cons, ← ih, ← Doi.occursIn_trim hdoi hink piece]
      by_cases hempty : Text.trim piece = []
      · rw [List.filter_cons_of_neg (by simp [hempty]), hempty, Doi.occursIn_nil hdoi,
          Bool.false_or]
      · rw [List.filter_cons_of_pos (by simp [hempty]), List.any_cons]

omit hink in
theorem any_occursIn_withCommas (hcomma : ',' ∉ doi.normalized) (pieces : List Text) :
    (withCommas pieces).any doi.occursIn = pieces.any doi.occursIn := by
  fun_induction withCommas pieces with
  | case1 => rfl
  | case2 => rfl
  | case3 piece rest _ ih =>
      rw [List.any_cons, List.any_cons, ih, Doi.occursIn_append_last hdoi (by decide) hcomma]

/-- A record of one closed block mentions a DOI without commas and braces just if it does when it is
laid out. -/
theorem occursIn_format_of_block {record : Text} {b : Block} (hbegins : BeginsWith record b [])
    (hcomma : ',' ∉ doi.normalized) (hopen : '{' ∉ doi.normalized)
    (hclose : '}' ∉ doi.normalized) : doi.occursIn (format record) = doi.occursIn record := by
  rcases hbegins with ⟨hkind, hrecord, hclosed⟩
  rw [← Doi.occursIn_trim hdoi hink record]
  rcases format_cases record with h | ⟨lines, hsplit, h⟩
  · rw [h, occursIn_formatLines hdoi hink, Doi.any_occursIn_lines hdoi hink]
  · rw [hrecord] at hsplit ⊢
    rcases splitBlock?_headed hkind hclosed hsplit with ⟨key, fields, hpieces, rfl⟩
    have hbody : (doi.occursIn key || fields.any doi.occursIn) = doi.occursIn b.body := by
      rw [← List.any_cons, ← hpieces, any_occursIn_pieces hdoi hink,
        any_occursIn_splitCommas hcomma]
    -- The header and the brace at the end stand apart from the body on both sides.
    have hopened (t : Text) : doi.occursIn ('@' :: (b.kind ++ '{' :: t)) =
        (doi.occursIn ('@' :: b.kind) || doi.occursIn t) :=
      Doi.occursIn_append_break (by decide) hopen ('@' :: b.kind) t
    have hkey : doi.occursIn (key ++ [',']) = doi.occursIn key :=
      Doi.occursIn_append_last hdoi (by decide) hcomma key
    have hend (t : Text) : doi.occursIn (t ++ ['}']) = doi.occursIn t :=
      Doi.occursIn_append_last hdoi (by decide) hclose t
    have hlast : doi.occursIn ['}'] = false := (hend []).trans (Doi.occursIn_nil hdoi)
    rw [h, occursIn_formatLines hdoi hink, List.any_cons, List.any_append,
      any_occursIn_withCommas hdoi hcomma, hopened, hopened, hkey, hend, ← hbody]
    simp [hlast, Bool.or_assoc]

end Bibliography.Layout

end CiteIndex
