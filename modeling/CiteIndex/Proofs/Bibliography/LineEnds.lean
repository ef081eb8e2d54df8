import CiteIndex.Proofs.Bibliography.Spacing
import CiteIndex.Proofs.Text.LineEnds

/-!
# Line ends in a bibliography file

A carriage return before every line feed of a bibliography file changes none of its entries. It
stands where blanks may stand, so the scanner finds the same blocks; the fields of a block are the
same up to the length of gaps; and a block that is never closed, which ends before a line feed and
an at sign, only gets one more blank at its end. Nothing is assumed of the file.

- `Field.parse_withReturns`: the fields of a body
- `Block.cutBody_withReturns`: where a block ends, closed or not
- `Block.scan_withReturns`: the blocks of a file
- `Entry.parse_withReturns`: its entries
-/

namespace CiteIndex

namespace Bibliography

open Text (withReturns)

/-! ## Inside a value -/

theorem cutAtTop?_withReturns {stop : Char} (hstop : Text.isBlank stop = false) (s : Nesting)
    (t : Text) :
    cutAtTop? stop s (withReturns t) =
      (cutAtTop? stop s t).map fun cut => (withReturns cut.1, withReturns cut.2) :=
  (cutsAtInk_cutAtTop? hstop).cut_withReturns s t

theorem afterComma_withReturns (t : Text) :
    afterComma (withReturns t) = withReturns (afterComma t) := by
  rw [afterComma, cutAtTop?_withReturns rfl, afterComma]
  cases cutAtTop? ',' .outside t with
  | none => rfl
  | some cut => rfl

/-! ## Fields -/

/-- A value with a carriage return before every line feed. A bare value holds none. -/
def FieldValue.withReturns : FieldValue → FieldValue
  | .braced t => .braced (Text.withReturns t)
  | .quoted t => .quoted (Text.withReturns t)
  | .bare t => .bare t

def Field.withReturns (f : Field) : Field :=
  ⟨f.name, f.value.withReturns, Text.withReturns f.raw⟩

namespace Field

/-- The source of a value that was read changes like the text. -/
theorem source_withReturns {t rest : Text} {value : FieldValue}
    (h : readValue? t = some (value, rest)) :
    value.withReturns.source = Text.withReturns value.source := by
  have hdelimited : ∀ (first last : Char) (inside : Text), first ≠ '\n' → last ≠ '\n' →
      Text.withReturns (first :: inside ++ [last]) =
        first :: Text.withReturns inside ++ [last] := by
    intro first last inside hfirst hlast
    rw [List.cons_append, Text.withReturns_cons hfirst, Text.withReturns_append,
      Text.withReturns_cons hlast]
    rfl
  cases value with
  | braced t => exact (hdelimited '{' '}' t (by decide) (by decide)).symm
  | quoted t => exact (hdelimited '"' '"' t (by decide) (by decide)).symm
  | bare t =>
      exact (Text.withReturns_of_class (p := isBareChar) rfl (isBareChar_of_readValue? h)).symm

/-- A value is read alike with both kinds of line ends. -/
theorem readValue?_withReturns (t : Text) :
    readValue? (Text.withReturns t) =
      (readValue? t).map fun found => (found.1.withReturns, Text.withReturns found.2) := by
  cases t with
  | nil => rfl
  | cons c cs =>
      by_cases hfeed : c = '\n'
      · -- No value begins with a line end.
        subst hfeed
        rfl
      · have hbare : isBareChar '\r' = isBareChar '\n' := rfl
        have hword : Text.withReturns ((c :: cs).takeWhile isBareChar) =
            (c :: cs).takeWhile isBareChar :=
          Text.withReturns_of_class rfl (List.all_eq_true.1 List.all_takeWhile)
        have htake := (Text.takeWhile_withReturns hbare (c :: cs)).trans hword
        have hdrop := Text.dropWhile_withReturns hbare (c :: cs)
        rw [Text.withReturns_cons hfeed] at htake hdrop
        rw [Text.withReturns_cons hfeed, readValue?, readValue?, htake, hdrop,
          cutsAtInk_cutGroup?.cut_withReturns, cutsAtInk_cutQuote?.cut_withReturns]
        by_cases hopen : c = '{'
        · simp [hopen, Function.comp_def, FieldValue.withReturns]
        · by_cases hquote : c = '"'
          · simp [hquote, Function.comp_def, FieldValue.withReturns]
          · rw [if_neg hopen, if_neg hquote, if_neg hopen, if_neg hquote]
            split
            · rfl
            · rfl

/-- One round of reading. -/
theorem read_withReturns (t : Text) :
    read (Text.withReturns t) = ((read t).1.map withReturns, Text.withReturns (read t).2) := by
  have hblank : Text.isAsciiBlank '\r' = Text.isAsciiBlank '\n' := rfl
  have hgaps : ∀ {gap : Text}, (∀ c ∈ gap, Text.isAsciiBlank c) →
      ∀ c ∈ Text.withReturns gap, Text.isAsciiBlank c := Text.forall_mem_withReturns rfl
  cases round t with
  | @field name gap gap' value hname hne hgap hgap' hvalue =>
      have hsame : Text.withReturns name = name := Text.withReturns_of_class rfl hname
      have hsign : Text.withReturns ('=' :: (gap' ++ value)) =
          '=' :: (Text.withReturns gap' ++ Text.withReturns value) := by
        rw [Text.withReturns_cons (by decide), Text.withReturns_append]
      have hparts : Text.withReturns (name ++ (gap ++ '=' :: (gap' ++ value))) =
          name ++ (Text.withReturns gap ++
            '=' :: (Text.withReturns gap' ++ Text.withReturns value)) := by
        rw [Text.withReturns_append, Text.withReturns_append, hsame, hsign]
      rw [hparts, read_field hname hne hgap hgap' hvalue,
        read_field hname hne (hgaps hgap) (hgaps hgap') (Text.head_withReturns hblank hvalue),
        readValue?_withReturns]
      cases hread : readValue? value with
      | none => exact congrArg (Prod.mk none) (afterComma_withReturns value)
      | some found =>
          -- The source of the field changes part by part, like the text.
          have hraw : Text.withReturns (name ++ gap ++ '=' :: gap' ++ found.1.source) =
              name ++ Text.withReturns gap ++ '=' :: Text.withReturns gap' ++
                found.1.withReturns.source := by
            rw [source_withReturns hread, Text.withReturns_append, Text.withReturns_append,
              Text.withReturns_append, hsame, Text.withReturns_cons (by decide)]
          simp only [Option.map_some, withReturns, hraw, afterComma_withReturns]
  | @malformed name gap rest hname hgap hrest hstop hbad =>
      have hsame : Text.withReturns name = name := Text.withReturns_of_class rfl hname
      have hparts : Text.withReturns (name ++ (gap ++ rest)) =
          name ++ (Text.withReturns gap ++ Text.withReturns rest) := by
        rw [Text.withReturns_append, Text.withReturns_append, hsame]
      have hstop' : ∀ c ∈ (Text.withReturns gap ++ Text.withReturns rest).head?,
          isNameChar c = false := by
        rw [← Text.withReturns_append]
        exact Text.head_withReturns rfl hstop
      have hbad' : name = [] ∨ (Text.withReturns rest).head? ≠ some '=' :=
        hbad.imp_right (Text.head?_withReturns_ne (by decide))
      rw [hparts, read_malformed hname hgap hrest hstop hbad, read_malformed hname (hgaps hgap)
        (Text.head_withReturns hblank hrest) hstop' hbad', afterComma_withReturns]
      rfl

/-- The fields of a text are the same, with carriage returns in their values. -/
theorem parse_withReturns (t : Text) :
    parse (Text.withReturns t) = (parse t).map withReturns := by
  induction hlen : t.length using Nat.strongRecOn generalizing t with
  | ind n ih =>
      subst hlen
      rcases Text.exists_stop isSeparator t with ⟨sep, rest, rfl, hsep, hrest⟩
      have hseps : ∀ c ∈ Text.withReturns sep, isSeparator c := Text.forall_mem_withReturns rfl hsep
      have hrest' := Text.head_withReturns (p := isSeparator) rfl hrest
      rw [Text.withReturns_append]
      by_cases hnil : rest = []
      · subst hnil
        rw [Text.withReturns_nil, List.append_nil, List.append_nil, parse_of_separators hsep,
          parse_of_separators hseps]
        rfl
      · have hnil' : Text.withReturns rest ≠ [] := fun h => hnil (Text.withReturns_eq_nil_iff.1 h)
        have hlt : (read rest).2.length < (sep ++ rest).length := by
          have hle := length_read_lt hnil
          simp only [List.length_append]
          omega
        rw [parse_of_stop _ hseps hnil' hrest', parse_of_stop _ hsep hnil hrest, read_withReturns,
          ih _ hlt _ rfl, List.map_append]
        cases (read rest).1 <;> rfl

/-- Such fields differ in the length of gaps alone. -/
theorem squeeze_withReturns (f : Field) : f.withReturns.squeeze = f.squeeze := by
  rcases f with ⟨name, value, raw⟩
  cases value <;>
    simp [withReturns, squeeze, FieldValue.withReturns, FieldValue.squeeze,
      Text.squeezeFrom_withReturns]

end Field

/-! ## Blocks -/

namespace Block

def withReturns (b : Block) : Block :=
  ⟨b.kind, Text.withReturns b.body⟩

/-- A header is read alike with both kinds of line ends, and is the same. -/
theorem header?_withReturns (t : Text) :
    header? (Text.withReturns t) =
      (header? t).map fun h => (h.1, h.2.1, Text.withReturns h.2.2) := by
  have hblank : Text.isAsciiBlank '\r' = Text.isAsciiBlank '\n' := rfl
  have hkind : isKindChar '\r' = isKindChar '\n' := rfl
  have hword : ∀ s : Text, Text.withReturns (s.takeWhile isKindChar) = s.takeWhile isKindChar :=
    fun _ => Text.withReturns_of_class rfl (List.all_eq_true.1 List.all_takeWhile)
  simp only [header?, Text.skipBlanks, Text.dropWhile_withReturns hblank,
    Text.takeWhile_withReturns hkind, Text.dropWhile_withReturns hkind, hword]
  -- The type is the same, and what follows it begins with the same delimiter, if with any.
  generalize (t.dropWhile Text.isAsciiBlank).takeWhile isKindChar = kind
  generalize ((t.dropWhile Text.isAsciiBlank).dropWhile isKindChar).dropWhile
    Text.isAsciiBlank = rest
  rcases kind with _ | ⟨c, cs⟩
  · rfl
  · rcases rest with _ | ⟨d, ds⟩
    · rfl
    · by_cases hfeed : d = '\n'
      · subst hfeed
        cases halpha : c.isAlpha <;> simp [halpha, closing?]
      · rw [Text.withReturns_cons hfeed]
        cases halpha : c.isAlpha <;> simp [halpha, Function.comp_def]

/-- The cut before a line feed and an at sign leaves a carriage return at the end of what stands
before it. -/
theorem cutAtLine_withReturns (t : Text) :
    ∃ w, (∀ c ∈ w, Text.isAsciiBlank c) ∧
      cutAtLine (Text.withReturns t) =
        (Text.withReturns (cutAtLine t).1 ++ w, Text.withReturns (cutAtLine t).2) := by
  fun_induction cutAtLine t with
  | case1 => exact ⟨[], by simp, rfl⟩
  | case2 cs => exact ⟨['\r'], List.all_eq_true.1 rfl, rfl⟩
  | case3 c cs hline ih =>
      rcases ih with ⟨w, hw, hcut⟩
      refine ⟨w, hw, ?_⟩
      by_cases hfeed : c = '\n'
      · subst hfeed
        have hat : (Text.withReturns cs).head? ≠ some '@' := by
          apply Text.head?_withReturns_ne (by decide)
          intro hat
          obtain ⟨ds, rfl⟩ := List.head?_eq_some_iff.1 hat
          exact hline ds rfl rfl
        rw [Text.withReturns_feed, cutAtLine_cons (by simp), cutAtLine_cons fun _ => hat, hcut]
        simp [Text.consLeft]
      · rw [Text.withReturns_cons hfeed, cutAtLine_cons fun h => absurd h hfeed, hcut]
        simp [Text.consLeft, Text.withReturns_cons hfeed]

/-- A block ends at the same place, up to a blank if it is not closed. -/
theorem cutBody_withReturns {close : Char} (hclose : Text.isBlank close = false) (t : Text) :
    ∃ w, (∀ c ∈ w, Text.isAsciiBlank c) ∧
      cutBody close (Text.withReturns t) =
        (Text.withReturns (cutBody close t).1 ++ w, Text.withReturns (cutBody close t).2) := by
  rw [cutBody, cutBody, cutAtTop?_withReturns hclose]
  cases cutAtTop? close .outside t with
  | some cut => exact ⟨[], by simp, by simp⟩
  | none => exact cutAtLine_withReturns t

theorem scan_withReturns_skip {c : Char} (hc : c ≠ '@') (cs : Text) :
    scan (Text.withReturns (c :: cs)) = scan (Text.withReturns cs) := by
  by_cases hfeed : c = '\n'
  · subst hfeed
    rw [Text.withReturns_feed, scan_cons_of_ne (by decide), scan_cons_of_ne (by decide)]
  · rw [Text.withReturns_cons hfeed, scan_cons_of_ne hc]

/-- The blocks of a file are the same, with carriage returns in their bodies. -/
theorem scan_withReturns (t : Text) :
    (scan (Text.withReturns t)).map reading = ((scan t).map withReturns).map reading := by
  induction hlen : t.length using Nat.strongRecOn generalizing t with
  | ind n ih =>
      subst hlen
      rcases t with _ | ⟨c, cs⟩
      · simp [scan]
      · have hcs : cs.length < (c :: cs).length := Nat.lt_succ_self _
        by_cases hat : c = '@'
        · subst hat
          have hheader' := header?_withReturns cs
          rw [Text.withReturns_cons (by decide)]
          rcases hheader : header? cs with _ | ⟨kind, close, rest⟩
          · rw [hheader, Option.map_none] at hheader'
            rw [scan_at_of_none hheader', scan_at_of_none hheader]
            exact ih _ hcs cs rfl
          · rw [hheader, Option.map_some] at hheader'
            rcases cutBody_withReturns (isBlank_of_close hheader) rest with ⟨w, hw, hcut⟩
            have hshort : (cutBody close rest).2.length < ('@' :: cs).length := by
              have hlt := length_lt_of_header? hheader
              have hle := length_cutBody_le close rest
              simp only [List.length_cons]
              omega
            rw [scan_at hheader', scan_at hheader, hcut, List.map_cons, List.map_cons,
              List.map_cons, reading_append_gap kind _ hw, ih _ hshort _ rfl]
            rfl
        · rw [scan_withReturns_skip hat, scan_cons_of_ne hat]
          exact ih _ hcs cs rfl

theorem key_withReturns (b : Block) : b.withReturns.key = Text.withReturns b.key := by
  have hcomma : ('\r' != ',') = ('\n' != ',') := rfl
  rw [key, key, withReturns, Text.takeWhile_withReturns hcomma, Text.trim_withReturns]

/-- The fields of a block differ in their line ends only. -/
theorem fields_withReturns (b : Block) : b.withReturns.fields = b.fields.map Field.withReturns := by
  have hcomma : ∀ c, Text.isBlank c → (c == ',') = false := by
    intro c hc
    rw [beq_eq_false_iff_ne]
    exact Text.ne_of_isBlank hc rfl
  rw [fields, fields, withReturns, Text.cutAt?_withReturns hcomma]
  cases Text.cutAt? (· == ',') b.body with
  | none => rfl
  | some cut => exact Field.parse_withReturns cut.2

end Block

/-! ## Entries -/

namespace Entry

theorem isUsableKey_withReturns (k : Text) : isUsableKey (withReturns k) = isUsableKey k := by
  have hempty : (withReturns k).isEmpty = k.isEmpty := by
    rw [Bool.eq_iff_iff, List.isEmpty_iff, List.isEmpty_iff, Text.withReturns_eq_nil_iff]
  rw [isUsableKey, isUsableKey, hempty, Text.any_isBlank_withReturns]

theorem withReturns_of_isUsableKey {k : Text} (hk : isUsableKey k) : withReturns k = k := by
  rw [isUsableKey, Bool.and_eq_true, Bool.not_eq_true', Bool.not_eq_true', List.any_eq_false] at hk
  exact Text.withReturns_eq_self fun h => hk.2 '\n' h rfl

/-- Entries do not show the line ends of their blocks. -/
theorem ofBlock_withReturns (source : Path) {b : Block} (hkey : isUsableKey b.key) :
    ofBlock source b.withReturns = ofBlock source b := by
  refine ofBlock_of_squeeze source rfl ?_ ?_
  · rw [Block.key_withReturns, withReturns_of_isUsableKey hkey]
  · rw [Block.fields_withReturns, List.map_map]
    exact List.map_congr_left fun f _ => Field.squeeze_withReturns f

/-- The entries of a file do not depend on how its lines end. -/
theorem parse_withReturns (source : Path) (t : Text) :
    parse source (withReturns t) = parse source t := by
  have hcitable : citable ((Block.scan t).map Block.withReturns) =
      (citable (Block.scan t)).map Block.withReturns := by
    refine citable_map (f := Block.withReturns) (fun _ => rfl) (fun b => ?_) (fun b hb => ?_) _
    · rw [Block.key_withReturns, isUsableKey_withReturns]
    · rw [Block.key_withReturns, withReturns_of_isUsableKey hb]
  calc
    parse source (withReturns t)
      = (citable ((Block.scan t).map Block.withReturns)).map (ofBlock source) :=
        citable_reading source (Block.scan_withReturns t)
    _ = (citable (Block.scan t)).map fun b => ofBlock source b.withReturns := by
        rw [hcitable, List.map_map]
        rfl
    _ = parse source t := by
        refine List.map_congr_left fun b hb => ofBlock_withReturns source ?_
        have hkeep := (List.mem_filter.1 (mem_of_mem_firstOfKey hb)).2
        rw [Bool.and_eq_true] at hkeep
        exact hkeep.2

end Entry

end Bibliography

end CiteIndex
