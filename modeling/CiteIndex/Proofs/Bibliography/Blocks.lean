import CiteIndex.Bibliography.Block
import CiteIndex.Proofs.Bibliography.Fields

/-!
# Blocks of a text that goes on

What the scanner makes of a text when more text follows on a new line. A block that was closed
stays as it was. A block that was left open ends before the new text, provided that the new text
begins with an at sign and does not close it; so the open blocks of a text, each with the delimiter
it waits for and the state it ends in, are all that has to be known of it.

- `Block.scan_at`, `Block.header?_parts`: the scanner by the parts of the text
- `Block.header?_eq_some_iff`: what a header is
- `Block.forall_mem_scan`: where the blocks of a text are read
- `Block.openBlocks`: what a text leaves open
- `Block.reading`: type, key and fields of a block
- `Block.scan_append`: the blocks of a text and of what follows on a new line
-/

namespace CiteIndex

namespace Bibliography

namespace Block

/-! ## The header of a block -/

section Header

variable {gap kind gap' rest : Text}

/-- A type is written in ASCII characters. -/
theorem code_of_isKindChar {c : Char} (hc : isKindChar c) : c.toNat < 128 := by
  delta isKindChar Char.isAlphanum Char.isAlpha Char.isUpper Char.isLower Char.isDigit at hc
  simp only [Bool.or_eq_true, Bool.and_eq_true, decide_eq_true_eq, beq_iff_eq,
    UInt32.le_iff_toNat_le, ge_iff_le] at hc
  rcases hc with (((⟨-, hc⟩ | ⟨-, hc⟩) | ⟨-, hc⟩) | rfl) | rfl
  · exact Nat.lt_of_le_of_lt hc (by decide)
  · exact Nat.lt_of_le_of_lt hc (by decide)
  · exact Nat.lt_of_le_of_lt hc (by decide)
  · decide
  · decide

theorem isBlank_of_isKindChar {c : Char} (hc : isKindChar c) : Text.isBlank c = false := by
  have hall : Text.blankCodes.all (fun n => !isKindChar (Char.ofNat n)) = true := by decide
  cases hblank : Text.isBlank c with
  | false => rfl
  | true =>
      have hcode := List.all_eq_true.1 hall c.toNat (Text.mem_blankCodes hblank)
      rw [Char.ofNat_toNat, hc] at hcode
      cases hcode

theorem isKindChar_of_isBlank {c : Char} (hc : Text.isBlank c) : isKindChar c = false := by
  cases hkind : isKindChar c with
  | false => rfl
  | true =>
      rw [isBlank_of_isKindChar hkind] at hc
      cases hc

theorem isKindChar_of_blank {c : Char} (hc : Text.isAsciiBlank c) : isKindChar c = false :=
  isKindChar_of_isBlank (Text.isBlank_of_isAsciiBlank hc)

/-- Blanks, a type, blanks, and what stands there. -/
theorem exists_header (t : Text) :
    ∃ gap kind gap' rest, t = gap ++ (kind ++ (gap' ++ rest)) ∧
      (∀ c ∈ gap, Text.isAsciiBlank c) ∧ (∀ c ∈ kind, isKindChar c) ∧
      (∀ c ∈ gap', Text.isAsciiBlank c) ∧
      (∀ c ∈ (kind ++ (gap' ++ rest)).head?, Text.isAsciiBlank c = false) ∧
      (∀ c ∈ (gap' ++ rest).head?, isKindChar c = false) ∧
      ∀ c ∈ rest.head?, Text.isAsciiBlank c = false := by
  rcases Text.exists_stop Text.isAsciiBlank t with ⟨gap, start, rfl, hgap, hstart⟩
  rcases Text.exists_stop isKindChar start with ⟨kind, tail, rfl, hkind, htail⟩
  rcases Text.exists_stop Text.isAsciiBlank tail with ⟨gap', rest, rfl, hgap', hrest⟩
  exact ⟨gap, kind, gap', rest, rfl, hgap, hkind, hgap', hstart, htail, hrest⟩

/-- A header that is written out in its parts is read: gap, type, gap and opening delimiter. -/
theorem header?_parts (gap kind gap' rest : Text) (hgap : ∀ c ∈ gap, Text.isAsciiBlank c)
    (hkind : ∀ c ∈ kind, isKindChar c) (hgap' : ∀ c ∈ gap', Text.isAsciiBlank c)
    (hstart : ∀ c ∈ (kind ++ (gap' ++ rest)).head?, Text.isAsciiBlank c = false)
    (htail : ∀ c ∈ (gap' ++ rest).head?, isKindChar c = false)
    (hrest : ∀ c ∈ rest.head?, Text.isAsciiBlank c = false) :
    header? (gap ++ (kind ++ (gap' ++ rest))) =
      match kind, rest with
      | c :: cs, delimiter :: more =>
        if c.isAlpha then (closing? delimiter).map fun close => (c :: cs, close, more) else none
      | _, _ => none := by
  simp only [header?, Text.skipBlanks, Text.dropWhile_append_stop hgap hstart,
    Text.takeWhile_append_stop hkind htail, Text.dropWhile_append_stop hkind htail,
    Text.dropWhile_append_stop hgap' hrest]
  cases kind <;> cases rest <;> rfl

/-- A header is blanks, a type that begins with a letter, blanks and an opening delimiter. -/
theorem header?_eq_some_iff {t more : Text} {close : Char} :
    header? t = some (kind, close, more) ↔
      ∃ gap gap' delimiter, t = gap ++ (kind ++ (gap' ++ delimiter :: more)) ∧
        (∀ c ∈ gap, Text.isAsciiBlank c) ∧
        ((∃ c cs, kind = c :: cs ∧ c.isAlpha) ∧ ∀ c ∈ kind, isKindChar c) ∧
        (∀ c ∈ gap', Text.isAsciiBlank c) ∧ closing? delimiter = some close := by
  constructor
  · intro h
    rcases exists_header t with ⟨gap, name, gap', rest, rfl, hgap, hname, hgap', hstart, htail, hrest⟩
    rw [header?_parts gap name gap' rest hgap hname hgap' hstart htail hrest] at h
    rcases name with _ | ⟨c, cs⟩
    · cases h
    · rcases rest with _ | ⟨d, ds⟩
      · cases h
      · obtain ⟨hletter, h⟩ := Option.ite_none_right_eq_some.1 h
        obtain ⟨close', hclose, heq⟩ := Option.map_eq_some_iff.1 h
        cases heq
        exact ⟨gap, gap', d, rfl, hgap, ⟨⟨c, cs, rfl, hletter⟩, hname⟩, hgap', hclose⟩
  · rintro ⟨gap, gap', d, rfl, hgap, ⟨⟨c, cs, rfl, hletter⟩, hchars⟩, hgap', hclose⟩
    have hdelimiter : Text.isAsciiBlank d = false ∧ isKindChar d = false := by
      simp only [closing?] at hclose
      split at hclose
      · subst d
        decide
      · obtain ⟨rfl, -⟩ := Option.ite_none_right_eq_some.1 hclose
        decide
    have hstart : Text.isAsciiBlank c = false := by
      refine Bool.eq_false_iff.2 fun hblank => ?_
      have hchar := hchars c List.mem_cons_self
      rw [isKindChar_of_blank hblank] at hchar
      cases hchar
    -- The type ends at the blanks behind it or, without any, at the delimiter.
    have htail : ∀ x ∈ (gap' ++ d :: more).head?, isKindChar x = false := by
      intro x hx
      cases gap' with
      | nil =>
          obtain rfl := Option.some.inj hx
          exact hdelimiter.2
      | cons y ys =>
          obtain rfl := Option.some.inj hx
          exact isKindChar_of_blank (hgap' y List.mem_cons_self)
    rw [header?_parts gap (c :: cs) gap' (d :: more) hgap hchars hgap' (by simpa using hstart) htail
      (by simpa using hdelimiter.1)]
    simp [hletter, hclose]

/-- A type with a brace right behind it is a header. -/
theorem header?_braces (hletter : ∃ c cs, kind = c :: cs ∧ c.isAlpha)
    (hkind : ∀ c ∈ kind, isKindChar c) (rest : Text) :
    header? (kind ++ '{' :: rest) = some (kind, '}', rest) :=
  header?_eq_some_iff.2 ⟨[], [], '{', rfl, by simp, ⟨hletter, hkind⟩, by simp, rfl⟩

/-- A header stays one when the text goes on. -/
theorem header?_append {t more : Text} {close : Char} (h : header? t = some (kind, close, rest)) :
    header? (t ++ more) = some (kind, close, rest ++ more) := by
  rcases header?_eq_some_iff.1 h with ⟨gap, gap', d, rfl, hgap, hkind, hgap', hclose⟩
  exact header?_eq_some_iff.2 ⟨gap, gap', d, by simp, hgap, hkind, hgap', hclose⟩

theorem close_of_header? {t : Text} {close : Char} (h : header? t = some (kind, close, rest)) :
    close = '}' ∨ close = ')' := by
  rcases header?_eq_some_iff.1 h with ⟨-, -, d, -, -, -, -, hclose⟩
  unfold closing? at hclose
  split at hclose
  · exact .inl (Option.some.inj hclose).symm
  · rcases Option.ite_none_right_eq_some.1 hclose with ⟨-, hclose⟩
    exact .inr (Option.some.inj hclose).symm

/-- What was no header does not become one by blanks and something that is neither a type nor a
delimiter. -/
theorem header?_append_none {t w more : Text} (h : header? t = none)
    (hw : ∀ c ∈ w, Text.isAsciiBlank c)
    (hmore : ∀ c ∈ more.head?, Text.isAsciiBlank c = false ∧ isKindChar c = false ∧
      closing? c = none) : header? (t ++ (w ++ more)) = none := by
  have hblank : ∀ c ∈ more.head?, Text.isAsciiBlank c = false := fun c hc => (hmore c hc).1
  have hstop : ∀ w : Text, (∀ c ∈ w, Text.isAsciiBlank c) →
      ∀ c ∈ (w ++ more).head?, isKindChar c = false := by
    intro w hw c hc
    cases w with
    | nil => exact (hmore c hc).2.1
    | cons d ds =>
        obtain rfl : d = c := Option.some.inj hc
        exact isKindChar_of_blank (hw d List.mem_cons_self)
  rcases exists_header t with ⟨gap, name, gap', tail, rfl, hgap, hname, hgap', hstart, htail, hrest⟩
  cases tail with
  | nil =>
      cases name with
      | nil =>
          -- Nothing but blanks stands there, and what follows begins no type.
          have hnil : gap' = [] := by
            cases gap' with
            | nil => rfl
            | cons c cs =>
                have := hstart c (by simp)
                simp [hgap' c List.mem_cons_self] at this
          subst hnil
          have hall : ∀ c ∈ gap ++ w, Text.isAsciiBlank c := List.forall_mem_append.2 ⟨hgap, hw⟩
          have hparts := header?_parts (gap ++ w) [] [] more hall (by simp) (by simp)
            (by simpa using hblank) (hstop [] (by simp)) hblank
          simpa using hparts
      | cons c cs =>
          -- A type and blanks stand there, and what follows is no delimiter.
          have hall : ∀ c ∈ gap' ++ w, Text.isAsciiBlank c := List.forall_mem_append.2 ⟨hgap', hw⟩
          have hparts := header?_parts gap (c :: cs) (gap' ++ w) more hgap hname hall hstart
            (hstop _ hall) hblank
          have hassoc : gap ++ ((c :: cs) ++ (gap' ++ [])) ++ (w ++ more) =
              gap ++ ((c :: cs) ++ (gap' ++ w ++ more)) := by simp
          rw [hassoc, hparts]
          cases more with
          | nil => rfl
          | cons d ds => simp [(hmore d rfl).2.2]
  | cons d ds =>
      -- Something that is no delimiter stands there already.
      have hstart' : ∀ x ∈ (name ++ (gap' ++ (d :: ds ++ (w ++ more)))).head?,
          Text.isAsciiBlank x = false := by
        cases name <;> cases gap' <;> exact hstart
      have htail' : ∀ x ∈ (gap' ++ (d :: ds ++ (w ++ more))).head?, isKindChar x = false := by
        cases gap' <;> exact htail
      have hparts := header?_parts gap name gap' (d :: ds ++ (w ++ more)) hgap hname hgap'
        hstart' htail' hrest
      rw [header?_parts gap name gap' (d :: ds) hgap hname hgap' hstart htail hrest] at h
      have hassoc : gap ++ (name ++ (gap' ++ d :: ds)) ++ (w ++ more) =
          gap ++ (name ++ (gap' ++ (d :: ds ++ (w ++ more)))) := by simp
      rw [hassoc, hparts]
      cases name with
      | nil => rfl
      | cons c cs => simpa using h

/-- What was no header does not become one by an at sign on a new line. -/
theorem header?_append_at {t w : Text} (h : header? t = none)
    (hw : ∀ c ∈ w, Text.isAsciiBlank c) (more : Text) :
    header? (t ++ (w ++ '@' :: more)) = none := by
  apply header?_append_none h hw
  intro c hc
  obtain rfl : '@' = c := Option.some.inj hc
  decide

/-- Nor by white space of any kind. -/
theorem header?_append_gap {t w : Text} (h : header? t = none) (hw : ∀ c ∈ w, Text.isBlank c) :
    header? (t ++ w) = none := by
  rcases Text.exists_stop Text.isAsciiBlank w with ⟨gap, rest, rfl, hgap, hrest⟩
  apply header?_append_none h hgap
  intro c hc
  have hblank : Text.isBlank c := hw c (List.mem_append_right gap (List.mem_of_mem_head? hc))
  have hopen : c ≠ '{' := Text.ne_of_isBlank hblank rfl
  have hparen : c ≠ '(' := Text.ne_of_isBlank hblank rfl
  exact ⟨hrest c hc, isKindChar_of_isBlank hblank, by simp [closing?, hopen, hparen]⟩

end Header

/-! ## Lines -/

theorem cutAtLine_cons {c : Char} {t : Text} (h : c = '\n' → t.head? ≠ some '@') :
    cutAtLine (c :: t) = Text.consLeft c (cutAtLine t) := by
  rw [cutAtLine]
  rintro cs rfl rfl
  exact h rfl rfl

/-- What is cut off at a line stays when the text goes on. -/
theorem cutAtLine_append {t : Text} (h : (cutAtLine t).2 ≠ []) (more : Text) :
    cutAtLine (t ++ more) = ((cutAtLine t).1, (cutAtLine t).2 ++ more) := by
  fun_induction cutAtLine t with
  | case1 => exact absurd rfl h
  | case2 cs => rfl
  | case3 c cs hline ih =>
      rw [List.cons_append, cutAtLine_cons, ih h]
      · rfl
      · rintro rfl hat
        cases cs with
        | nil => exact h rfl
        | cons d ds => exact hline ds rfl (by simpa using hat)

theorem head_append_line {w : Text} (hw : '@' ∉ w) (t : Text) :
    (w ++ '\n' :: t).head? ≠ some '@' := by
  cases w with
  | nil => simp
  | cons c cs =>
      intro h
      exact List.ne_of_not_mem_cons hw (by simpa using h.symm)

/-- A text that is not cut ends where an at sign follows on a new line. -/
theorem cutAtLine_append_line {t w : Text} (h : (cutAtLine t).2 = []) (hw : '@' ∉ w)
    (more : Text) :
    cutAtLine (t ++ (w ++ '\n' :: '@' :: more)) = (t ++ w, '@' :: more) := by
  fun_induction cutAtLine t with
  | case1 =>
      -- Nothing is left to read but `w`, and the line break behind it is the first cut.
      induction w with
      | nil => rfl
      | cons c cs ih =>
          have hcs := List.not_mem_of_not_mem_cons hw
          rw [List.nil_append] at ih
          rw [List.nil_append, List.cons_append, cutAtLine_cons fun _ => head_append_line hcs _,
            ih hcs]
          rfl
  | case2 cs => cases h
  | case3 c cs hline ih =>
      rw [List.cons_append, cutAtLine_cons, ih h]
      · rfl
      -- An at sign behind this line break would be in the text, which is then cut, or in `w`.
      · rintro rfl hat
        cases cs with
        | nil => exact head_append_line hw _ hat
        | cons d ds => exact hline ds rfl (by simpa using hat)

theorem cutAtLine_fst {t : Text} (h : (cutAtLine t).2 = []) : (cutAtLine t).1 = t := by
  fun_induction cutAtLine t with
  | case1 => rfl
  | case2 cs => cases h
  | case3 c cs _ ih => exact congrArg (c :: ·) (ih h)

/-- A block that a text leaves open is not closed by blanks, and by what follows only if that
closes it. -/
theorem cutAtTop?_append_gap {close : Char} {s : Nesting} {t w new : Text}
    (ht : cutAtTop? close s t = none) (hclose : close = '}' ∨ close = ')')
    (hw : ∀ c ∈ w, Text.isAsciiBlank c) (hnew : cutAtTop? close (s.after t) new = none) :
    cutAtTop? close s (t ++ (w ++ new)) = none := by
  have hblank : Text.isAsciiBlank close = false := by
    rcases hclose with rfl | rfl <;> rfl
  have hpass : Passes close (s.after t) w (s.after t) :=
    Passes.of_plain _ fun c hc =>
      ⟨ne_of_isAsciiBlank (hw c hc) rfl, ne_of_isAsciiBlank (hw c hc) rfl,
        ne_of_isAsciiBlank (hw c hc) rfl, ne_of_isAsciiBlank (hw c hc) hblank⟩
  have hall := (Passes.append ⟨ht, rfl⟩ hpass).append ⟨hnew, rfl⟩
  simpa using hall.1

/-! ## The scanner by the parts of the text -/

/-- An at sign with a header begins a block, behind which scanning goes on. -/
theorem scan_at {t kind rest : Text} {close : Char} (h : header? t = some (kind, close, rest)) :
    scan ('@' :: t) = ⟨kind, (cutBody close rest).1⟩ :: scan (cutBody close rest).2 := by
  have hread : read? t = some (⟨kind, (cutBody close rest).1⟩, (cutBody close rest).2) := by
    rw [read?, h]
    rfl
  rw [scan, if_pos rfl]
  split
  · rename_i hread'
    rw [hread] at hread'
    cases hread'
    rfl
  · rename_i hread'
    rw [hread] at hread'
    cases hread'

/-- An at sign without a header is passed over. -/
theorem scan_at_of_none {t : Text} (h : header? t = none) : scan ('@' :: t) = scan t := by
  have hread : read? t = none := by rw [read?, h]; rfl
  rw [scan, if_pos rfl]
  split
  · rename_i hread'
    rw [hread] at hread'
    cases hread'
  · rfl

theorem scan_cons_of_ne {c : Char} (hc : c ≠ '@') (t : Text) : scan (c :: t) = scan t := by
  rw [scan, if_neg hc]

/-- Text without an at sign holds no block. -/
theorem scan_append_of_not_mem {w : Text} (hw : '@' ∉ w) (t : Text) : scan (w ++ t) = scan t := by
  induction w with
  | nil => rfl
  | cons c cs ih =>
      have hc := List.ne_of_not_mem_cons hw
      rw [List.cons_append, scan_cons_of_ne hc.symm, ih (List.not_mem_of_not_mem_cons hw)]

theorem scan_of_not_mem {w : Text} (hw : '@' ∉ w) : scan w = [] := by
  have hscan := scan_append_of_not_mem hw []
  rw [List.append_nil] at hscan
  rw [hscan, scan]

/-! ## Where blocks come from -/

theorem header_suffix {t kind rest : Text} {close : Char} :
    header? t = some (kind, close, rest) → rest <:+ t := by
  intro h
  rcases header?_eq_some_iff.1 h with ⟨gap, gap', d, rfl, -, -, -, -⟩
  exact ⟨gap ++ (kind ++ (gap' ++ [d])), by simp⟩

/-- The type of a block is a letter and what can stand behind it. -/
theorem kind_of_header? {t kind rest : Text} {close : Char} :
    header? t = some (kind, close, rest) →
      (∃ c cs, kind = c :: cs ∧ c.isAlpha) ∧ ∀ c ∈ kind, isKindChar c := by
  intro h
  rcases header?_eq_some_iff.1 h with ⟨-, -, -, -, -, hkind, -, -⟩
  exact hkind

/-- What is cut off are the two ends of the text. -/
theorem cutAtLine_parts (t : Text) :
    (cutAtLine t).1 <+: t ∧ (cutAtLine t).2 <:+ t := by
  fun_induction cutAtLine t with
  | case1 => exact ⟨List.nil_prefix, List.suffix_rfl⟩
  | case2 cs => exact ⟨List.nil_prefix, List.suffix_cons ..⟩
  | case3 c cs _ ih =>
      obtain ⟨⟨more, hmore⟩, hsuffix⟩ := ih
      constructor
      · exact ⟨more, congrArg (c :: ·) hmore⟩
      · exact hsuffix.trans (List.suffix_cons c cs)

/-- A body begins where the text behind the header begins, and what is read next is an end of it. -/
theorem cutBody_parts (close : Char) (t : Text) :
    (cutBody close t).1 <+: t ∧ (cutBody close t).2 <:+ t := by
  rw [cutBody]
  cases hcut : cutAtTop? close .outside t with
  | none => exact cutAtLine_parts t
  | some cut =>
      obtain ⟨heq, -, -⟩ := eq_append_of_cutAtTop? hcut
      constructor
      · exact ⟨close :: cut.2, heq.symm⟩
      · exact ⟨cut.1 ++ [close], by simp [← heq]⟩

/-- Every block of a text is read behind one of its at signs. -/
theorem forall_mem_scan {p : Block → Prop} (t : Text) :
    (∀ cs kind close rest, '@' :: cs <:+ t → header? cs = some (kind, close, rest) →
      p ⟨kind, (cutBody close rest).1⟩) → ∀ b ∈ scan t, p b := by
  intro hp
  induction hlen : t.length using Nat.strongRecOn generalizing t with
  | ind n ih =>
      subst hlen
      intro b hb
      cases t with
      | nil => simp [scan] at hb
      | cons c cs =>
          have hcs : cs <:+ c :: cs := List.suffix_cons c cs
          have hlt : cs.length < (c :: cs).length := Nat.lt_succ_self _
          by_cases hc : c = '@'
          · subst hc
            cases hheader : header? cs with
            | none =>
                rw [scan_at_of_none hheader] at hb
                exact ih _ hlt cs (fun ds k cl r hds => hp ds k cl r (hds.trans hcs)) rfl b hb
            | some header =>
                obtain ⟨kind, close, rest⟩ := header
                rw [scan_at hheader] at hb
                rcases List.mem_cons.1 hb with rfl | hb
                · exact hp cs kind close rest List.suffix_rfl hheader
                -- The next blocks are those of what this one leaves.
                · have hrest : (cutBody close rest).2 <:+ '@' :: cs :=
                    ((cutBody_parts close rest).2.trans (header_suffix hheader)).trans hcs
                  have hshort : (cutBody close rest).2.length < ('@' :: cs).length := by
                    have := length_lt_of_header? hheader
                    have := length_cutBody_le close rest
                    simp only [List.length_cons]
                    omega
                  exact ih _ hshort _ (fun ds k cl r hds => hp ds k cl r (hds.trans hrest)) rfl b hb
          · rw [scan_cons_of_ne hc] at hb
            exact ih _ hlt cs (fun ds k cl r hds => hp ds k cl r (hds.trans hcs)) rfl b hb

/-- The types of the blocks of a text, and what their bodies are made of. -/
theorem parts_of_mem_scan {t : Text} {b : Block} : b ∈ scan t →
    ((∃ c cs, b.kind = c :: cs ∧ c.isAlpha) ∧ ∀ c ∈ b.kind, isKindChar c) ∧
      ∀ c ∈ b.body, c ∈ t := by
  intro hb
  refine forall_mem_scan (p := fun b => ((∃ c cs, b.kind = c :: cs ∧ c.isAlpha) ∧
    ∀ c ∈ b.kind, isKindChar c) ∧ ∀ c ∈ b.body, c ∈ t) t ?_ b hb
  intro cs kind close rest hsuffix hheader
  refine ⟨kind_of_header? hheader, ?_⟩
  intro c hc
  have hrest : c ∈ rest := (cutBody_parts close rest).1.subset hc
  exact hsuffix.subset (List.mem_cons_of_mem '@' ((header_suffix hheader).subset hrest))

/-! ## What a text leaves open -/

/-- The blocks that are not closed in a text, each with the delimiter that would close it and the
state at the end of the text. -/
def openBlocks : Text → List (Char × Nesting)
  | [] => []
  | c :: cs =>
    if c = '@' then
      match _hheader : header? cs with
      | some (_, close, rest) =>
        if cutAtTop? close .outside rest = none then
          (close, Nesting.outside.after rest) :: openBlocks (cutBody close rest).2
        else openBlocks (cutBody close rest).2
      | none => openBlocks cs
    else openBlocks cs
termination_by t => t.length
decreasing_by
  all_goals simp only [List.length_cons]
  · have := length_lt_of_header? _hheader
    have := length_cutBody_le close rest
    omega
  · have := length_lt_of_header? _hheader
    have := length_cutBody_le close rest
    omega
  all_goals omega

/-- A block counts as open exactly if no delimiter at the top level closes it. -/
theorem openBlocks_at {t kind rest : Text} {close : Char} (h : header? t = some (kind, close, rest)) :
    openBlocks ('@' :: t) =
      if cutAtTop? close .outside rest = none then
        (close, Nesting.outside.after rest) :: openBlocks (cutBody close rest).2
      else openBlocks (cutBody close rest).2 := by
  rw [openBlocks, if_pos rfl]
  split
  · rename_i hheader
    rw [h] at hheader
    cases hheader
    rfl
  · rename_i hheader
    rw [h] at hheader
    cases hheader

theorem openBlocks_at_of_none {t : Text} (h : header? t = none) :
    openBlocks ('@' :: t) = openBlocks t := by
  rw [openBlocks, if_pos rfl]
  split
  · rename_i hheader
    rw [h] at hheader
    cases hheader
  · rfl

theorem openBlocks_cons_of_ne {c : Char} (hc : c ≠ '@') (t : Text) :
    openBlocks (c :: t) = openBlocks t := by
  rw [openBlocks, if_neg hc]

/-- An open block waits for a closing brace or parenthesis. -/
theorem close_of_mem_openBlocks {t : Text} {o : Char × Nesting} (h : o ∈ openBlocks t) :
    o.1 = '}' ∨ o.1 = ')' := by
  fun_induction openBlocks t with
  | case1 => cases h
  | case2 cs kind close rest hheader _ ih =>
      rcases List.mem_cons.1 h with rfl | h
      · exact close_of_header? hheader
      · exact ih h
  | case3 cs kind close rest hheader _ ih => exact ih h
  | case4 cs hheader ih => exact ih h
  | case5 c cs hc ih => exact ih h

/-! ## What is read of a block -/

/-- Type, key and fields of a block: all that an entry is made from. -/
def reading (b : Block) : Text × Text × List Field :=
  (b.kind, b.key, b.fields)

/-- The key and the fields of a body that holds no comma. -/
theorem reading_of_no_comma (kind : Text) {body : Text} (h : ∀ c ∈ body, (c != ',') = true) :
    reading ⟨kind, body⟩ = (kind, Text.trim body, []) := by
  have hmark : ∀ c ∈ body, (c == ',') = false := fun c hc => by simpa using h c hc
  simp only [reading, key, fields, Text.takeWhile_eq_self h, Text.cutAt?_eq_none hmark]

/-- The key and the fields of a body on both sides of its first comma. -/
theorem reading_of_comma (kind : Text) {first : Text} (h : ∀ c ∈ first, (c != ',') = true)
    (rest : Text) :
    reading ⟨kind, first ++ ',' :: rest⟩ = (kind, Text.trim first, Field.parse rest) := by
  have hmark : ∀ c ∈ first, (c == ',') = false := fun c hc => by simpa using h c hc
  have hstop : ∀ c ∈ (',' :: rest).head?, (c != ',') = false := by simp
  simp only [reading, key, fields, Text.takeWhile_append_stop h hstop,
    Text.cutAt?_append_stop hmark (c := ',') rfl]

/-- Blanks at the end of a body are not read. -/
theorem reading_append_gap (kind body : Text) {w : Text} (hw : ∀ c ∈ w, Text.isAsciiBlank c) :
    reading ⟨kind, body ++ w⟩ = reading ⟨kind, body⟩ := by
  rcases Text.exists_stop (· != ',') body with ⟨first, rest, rfl, hfirst, hrest⟩
  cases rest with
  | nil =>
      -- The whole body is a key, and keys are trimmed.
      have hall : ∀ c ∈ first ++ w, (c != ',') = true := by
        refine List.forall_mem_append.2 ⟨hfirst, fun c hc => ?_⟩
        have hne : c ≠ ',' := ne_of_isAsciiBlank (hw c hc) rfl
        simpa using hne
      have hblank : ∀ c ∈ w, Text.isBlank c := fun c hc => Text.isBlank_of_isAsciiBlank (hw c hc)
      have htrim := Text.trim_append_gaps (w := []) (by simp) hblank first
      rw [List.append_nil, reading_of_no_comma kind hall, reading_of_no_comma kind hfirst]
      simpa using htrim
  | cons c cs =>
      obtain rfl : c = ',' := by simpa using hrest c rfl
      rw [List.append_assoc, List.cons_append, reading_of_comma kind hfirst,
        reading_of_comma kind hfirst, Field.parse_append_gap cs hw]

/-! ## Text that follows -/

/-- The blocks of a text and of what follows behind blanks with an at sign: those of the text are
read as before, and those of the rest as if they stood alone. What the text leaves open must end
there, so in that case the at sign stands on a new line and the rest closes nothing. -/
theorem scan_append {t w new : Text} (hw : ∀ c ∈ w, Text.isAsciiBlank c)
    (hopen : ∀ o ∈ openBlocks t,
      (∃ w', w = w' ++ ['\n']) ∧ cutAtTop? o.1 o.2 ('@' :: new) = none) :
    (scan (t ++ (w ++ '@' :: new))).map reading =
      (scan t).map reading ++ (scan ('@' :: new)).map reading := by
  have hat : '@' ∉ w := fun h => absurd (hw '@' h) (by decide)
  induction hlen : t.length using Nat.strongRecOn generalizing t with
  | ind n ih =>
      subst hlen
      cases t with
      -- Blanks in front of the rest hold no block.
      | nil => simpa [scan] using congrArg (List.map reading) (scan_append_of_not_mem hat ('@' :: new))
      | cons c cs =>
          by_cases hc : c = '@'
          · subst hc
            cases hheader : header? cs with
            | none =>
                -- No block begins at this sign, in the longer text either.
                rw [openBlocks_at_of_none hheader] at hopen
                rw [List.cons_append, scan_at_of_none hheader,
                  scan_at_of_none (header?_append_at hheader hw new)]
                exact ih cs.length (by simp) hopen rfl
            | some header =>
                rcases header with ⟨kind, close, rest⟩
                have hlt := length_lt_of_header? hheader
                have hle := length_cutBody_le close rest
                have hshort : (cutBody close rest).2.length < ('@' :: cs).length := by
                  simp only [List.length_cons]
                  omega
                rw [openBlocks_at hheader] at hopen
                rw [List.cons_append, scan_at hheader, scan_at (header?_append hheader)]
                cases hcut : cutAtTop? close .outside rest with
                | some cut =>
                    -- The block is closed in the text, and more text does not change it.
                    rcases cut with ⟨body, behind⟩
                    rw [if_neg (by simp [hcut])] at hopen
                    have hbody : cutBody close rest = (body, behind) := by rw [cutBody, hcut]
                    rw [hbody] at hopen hshort ⊢
                    rw [cutBody, cutAtTop?_append hcut]
                    simpa using ih behind.length hshort hopen rfl
                | none =>
                    -- The block is left open, and nothing that follows closes it.
                    rw [if_pos hcut] at hopen
                    rcases List.forall_mem_cons.1 hopen with ⟨⟨hline, hnew⟩, hopen⟩
                    have hbody : cutBody close rest = cutAtLine rest := by rw [cutBody, hcut]
                    have hnone : cutAtTop? close .outside (rest ++ (w ++ '@' :: new)) = none :=
                      cutAtTop?_append_gap hcut (close_of_header? hheader) hw hnew
                    rw [hbody] at hopen hshort ⊢
                    rw [cutBody, hnone]
                    by_cases hend : (cutAtLine rest).2 = []
                    · -- The block ends with the text, so the new line is where it is cut off.
                      rcases hline with ⟨w, rfl⟩
                      have hw := (List.forall_mem_append.1 hw).1
                      have hat : '@' ∉ w := fun h => hat (List.mem_append_left _ h)
                      rw [List.append_assoc, List.singleton_append, cutAtLine_append_line hend hat,
                        hend, cutAtLine_fst hend]
                      simp [scan, reading_append_gap kind rest hw]
                    -- The block was cut off at a line before, and still is.
                    · rw [cutAtLine_append hend]
                      simpa using ih _ hshort hopen rfl
          · rw [openBlocks_cons_of_ne hc] at hopen
            rw [List.cons_append, scan_cons_of_ne hc, scan_cons_of_ne hc]
            exact ih cs.length (by simp) hopen rfl

end Block

end Bibliography

end CiteIndex
