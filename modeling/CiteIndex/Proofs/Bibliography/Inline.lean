import CiteIndex.Proofs.Bibliography.Pieces
import CiteIndex.Proofs.Bibliography.Written
import CiteIndex.Proofs.Text.Lines

/-!
# Records in one line

Records as catalogues send them: one entry in one line, blanks between all tokens, as many commas
between two fields as there may be, and values put together from several. Three readers take such
a line apart: the layout at the top-level commas, the scanner at the closing brace, and the reader
of fields at the end of each value. All of them cut it at the same places, so that laying it out
exchanges what stands between the fields and nothing else.

- `InlineField`, `InlineRecord`: what can be written, with the conditions on it
- `InlineRecord.reading_block`: type, key and fields of a record that was written
- `InlineRecord.pieces_body`: the pieces that it is taken apart into
- `Layout.format_inline`: the laid out record, and what is read of it
-/

namespace CiteIndex

namespace Bibliography

/-! ## Separators -/

/-- What stands between two fields: blanks and commas, at least one comma. -/
abbrev Separators := { w : Text // (∀ c ∈ w, Field.isSeparator c) ∧ ',' ∈ w }

def Gap.none : Gap :=
  ⟨[], by simp⟩

/-- Separators are blanks up to the first comma, which ends what stands before them. -/
theorem Separators.exists_comma (w : Separators) : ∃ (gap : Gap) (more : Text),
    w.1 = gap.1 ++ ',' :: more ∧ ∀ c ∈ more, Field.isSeparator c := by
  obtain ⟨w, hsep, hcomma⟩ := w
  obtain ⟨gap, rest, rfl, hgap, hrest⟩ := Text.exists_stop Text.isAsciiBlank w
  obtain ⟨-, hrest'⟩ := List.forall_mem_append.1 hsep
  cases rest with
  | nil =>
      rw [List.append_nil] at hcomma
      exact absurd (hgap ',' hcomma) (by decide)
  | cons c cs =>
      obtain ⟨hc, hcs⟩ := List.forall_mem_cons.1 hrest'
      have hblank : Text.isAsciiBlank c = false := hrest c rfl
      obtain rfl : c = ',' := by simpa [Field.isSeparator, hblank] using hc
      exact ⟨⟨gap, hgap⟩, cs, rfl, hcs⟩

theorem Passes.ofSeparators {stop : Char} {w : Text} : isEnd stop → stop ≠ ',' →
    (∀ c ∈ w, Field.isSeparator c) → Passes stop .outside w .outside := by
  intro hstop hcomma hw
  have hblank : Field.isSeparator stop = false := by
    simp only [isEnd, Bool.or_eq_true, beq_iff_eq] at hstop
    rcases hstop with (rfl | rfl) | rfl
    · decide
    · decide
    · exact absurd rfl hcomma
  have hne : ∀ c ∈ w, ∀ d, Field.isSeparator d = false → c ≠ d := by
    rintro c hc d hd rfl
    rw [hw c hc] at hd
    cases hd
  exact Passes.of_plain _ fun c hc =>
    ⟨hne c hc _ (by decide), hne c hc _ (by decide), hne c hc _ (by decide), hne c hc stop hblank⟩

/-! ## Fields -/

structure ValuePart where
  beforeSign : Gap
  beforeValue : Gap
  value : FieldValue
  isWritable_value : value.IsWritable

def ValuePart.text (p : ValuePart) : Text :=
  p.beforeSign.1 ++ '#' :: (p.beforeValue.1 ++ p.value.source)

structure InlineField where
  before : Separators
  name : Text
  isWord_name : IsWord name
  at_not_mem_name : '@' ∉ name
  beforeSign : Gap
  beforeValue : Gap
  value : FieldValue
  isWritable_value : value.IsWritable
  parts : List ValuePart

namespace InlineField

def raw (f : InlineField) : Text :=
  f.name ++ f.beforeSign.1 ++ '=' :: f.beforeValue.1 ++ f.value.source

def text (f : InlineField) : Text :=
  f.raw ++ (f.parts.map ValuePart.text).flatten

/-- The field that was written. Of its value the first part is read. -/
def field (f : InlineField) : Field :=
  ⟨f.name, f.value, f.raw⟩

/-- No further part of a value holds a delimiter at the top level. -/
theorem passes_parts {stop : Char} (parts : List ValuePart) : isEnd stop →
    Passes stop .outside (parts.map ValuePart.text).flatten .outside := by
  intro hstop
  induction parts with
  | nil => exact Passes.nil stop .outside
  | cons p rest ih =>
      have hsign : Passes stop .outside ['#'] .outside := Passes.ofSign hstop rfl (by decide)
      have hpart := (Passes.ofGap hstop .outside p.beforeSign).append (hsign.append
        ((Passes.ofGap hstop _ p.beforeValue).append
          (p.value.passes_source hstop p.isWritable_value)))
      have hpart' : Passes stop .outside p.text .outside := by
        simpa [ValuePart.text] using hpart
      exact hpart'.append ih

/-- A field shows no comma and no closing delimiter at its top level. -/
theorem passes_text {stop : Char} (f : InlineField) : isEnd stop →
    Passes stop .outside f.text .outside := by
  intro hstop
  have hsign : Passes stop .outside ['='] .outside := Passes.ofSign hstop rfl (by decide)
  have hraw := (((Passes.ofWord hstop .outside f.isWord_name).append
    (Passes.ofGap hstop _ f.beforeSign)).append hsign).append
      ((Passes.ofGap hstop _ f.beforeValue).append (f.value.passes_source hstop f.isWritable_value))
  have htext := hraw.append (passes_parts f.parts hstop)
  simpa [text, raw] using htext

theorem exists_name (f : InlineField) :
    ∃ c cs, f.text = c :: cs ∧ isWordChar c ∧ c ≠ '@' := by
  obtain ⟨c, cs, hname⟩ := List.exists_cons_of_ne_nil f.isWord_name.ne_nil
  have hmem : c ∈ f.name := by
    rw [hname]
    exact List.mem_cons_self
  refine ⟨c, cs ++ f.beforeSign.1 ++ '=' :: f.beforeValue.1 ++ f.value.source ++
    (f.parts.map ValuePart.text).flatten, ?_, f.isWord_name.chars c hmem, ?_⟩
  · rw [text, raw, hname]
    simp
  · rintro rfl
    exact f.at_not_mem_name hmem

theorem getLast_source {value : FieldValue} : value.IsWritable →
    ∃ t c, value.source = t ++ [c] ∧ Text.isBlank c = false := by
  intro hvalue
  cases value with
  | braced t => exact ⟨'{' :: t, '}', rfl, rfl⟩
  | quoted t => exact ⟨'"' :: t, '"', rfl, rfl⟩
  | bare t =>
      have hne : t ≠ [] := IsWord.ne_nil hvalue
      refine ⟨t.dropLast, t.getLast hne, (List.dropLast_concat_getLast hne).symm, ?_⟩
      exact isBlank_of_isWordChar (IsWord.chars hvalue _ (List.getLast_mem hne))

theorem getLast_text (f : InlineField) : ∃ t c, f.text = t ++ [c] ∧ Text.isBlank c = false := by
  rcases List.eq_nil_or_concat f.parts with hnil | ⟨parts, p, hparts⟩
  · obtain ⟨t, c, hsource, hc⟩ := getLast_source f.isWritable_value
    refine ⟨f.name ++ f.beforeSign.1 ++ '=' :: f.beforeValue.1 ++ t, c, ?_, hc⟩
    rw [text, raw, hnil, hsource]
    simp
  · obtain ⟨t, c, hsource, hc⟩ := getLast_source p.isWritable_value
    refine ⟨f.raw ++ (parts.map ValuePart.text).flatten ++
      (p.beforeSign.1 ++ '#' :: (p.beforeValue.1 ++ t)), c, ?_, hc⟩
    rw [text, hparts]
    simp [ValuePart.text, hsource]

/-- A field begins and ends with something else than white space. -/
theorem trim_text (f : InlineField) : Text.trim f.text = f.text := by
  apply Text.trim_eq_self_of_ends
  · intro c hc
    obtain ⟨d, ds, htext, hword, -⟩ := f.exists_name
    rw [htext] at hc
    obtain rfl : d = c := Option.some.inj hc
    exact isBlank_of_isWordChar hword
  · intro c hc
    obtain ⟨t, d, htext, hblank⟩ := f.getLast_text
    rw [htext, List.getLast?_concat] at hc
    obtain rfl : d = c := Option.some.inj hc
    exact hblank

end InlineField

/-! ## Records -/

/-- What is written of a record behind its key: fields, each behind separators, and what stands
before the closing brace. -/
def inlineText (last : Text) : List InlineField → Text
  | [] => last
  | f :: rest => f.before.1 ++ (f.text ++ inlineText last rest)

structure InlineRecord where
  beforeKind : Gap
  kind : Text
  isKind : Layout.IsKind kind
  afterKind : Gap
  beforeKey : Gap
  key : Text
  isWord_key : IsWord key
  fields : List InlineField
  fields_ne_nil : fields ≠ []
  last : Text
  isSeparator_last : ∀ c ∈ last, Field.isSeparator c

namespace InlineRecord

def body (r : InlineRecord) : Text :=
  r.beforeKey.1 ++ (r.key ++ inlineText r.last r.fields)

def text (r : InlineRecord) : Text :=
  '@' :: (r.beforeKind.1 ++ (r.kind ++ (r.afterKind.1 ++ '{' :: (r.body ++ ['}']))))

def block (r : InlineRecord) : Block :=
  ⟨r.kind, r.body⟩

end InlineRecord

/-! ## Reading the fields -/

/-- The first part of a value ends where it was written. -/
theorem head_parts {last : Text} (parts : List ValuePart) (fields : List InlineField) :
    (∀ c ∈ last, Field.isSeparator c) →
      ∀ c ∈ ((parts.map ValuePart.text).flatten ++ inlineText last fields).head?,
        Field.isBareChar c = false := by
  intro hlast c hc
  have hsep : ∀ d, Field.isSeparator d → Field.isBareChar d = false := by
    intro d hd
    rw [Field.isSeparator, Bool.or_eq_true, beq_iff_eq] at hd
    rcases hd with hd | rfl
    · exact Field.not_isBareChar_of_blank hd
    · rfl
  cases parts with
  | cons p rest =>
      have hsign : ∀ d ∈ ('#' :: (p.beforeValue.1 ++ p.value.source ++
          ((rest.map ValuePart.text).flatten ++ inlineText last fields))).head?,
          Field.isBareChar d = false := by
        intro d hd
        obtain rfl := Option.some.inj hd
        rfl
      apply head_gap_append p.beforeSign (fun _ => Field.not_isBareChar_of_blank) hsign c
      simpa [ValuePart.text] using hc
  | nil =>
      cases fields with
      | nil => exact hsep c (hlast c (List.mem_of_mem_head? hc))
      | cons f rest =>
          obtain ⟨d, ds, hbefore⟩ := List.exists_cons_of_ne_nil (List.ne_nil_of_mem f.before.2.2)
          rw [List.map_nil, List.flatten_nil, List.nil_append, inlineText, hbefore] at hc
          obtain rfl : d = c := Option.some.inj hc
          exact hsep d (f.before.2.1 d (by rw [hbefore]; exact List.mem_cons_self))

/-- One round of reading takes the name and the first part of the value. -/
theorem InlineField.read_text (f : InlineField) {rest : Text} :
    (∀ c ∈ ((f.parts.map ValuePart.text).flatten ++ rest).head?, Field.isBareChar c = false) →
      Field.read (f.text ++ rest) =
        (some f.field, afterComma ((f.parts.map ValuePart.text).flatten ++ rest)) := by
  intro hrest
  have hname : ∀ c ∈ f.name, Field.isNameChar c := by
    intro c hc
    exact isNameChar_of_isWordChar (f.isWord_name.chars c hc)
  have hhead : ∀ c ∈ (f.value.source ++ ((f.parts.map ValuePart.text).flatten ++ rest)).head?,
      Text.isAsciiBlank c = false := by
    obtain ⟨d, ds, hsource, hd⟩ := f.value.exists_source f.isWritable_value
    rw [hsource]
    simpa using hd
  have hread := Field.read_field hname f.isWord_name.ne_nil f.beforeSign.2 f.beforeValue.2 hhead
  rw [f.value.readValue?_source f.isWritable_value hrest] at hread
  have htext : f.text ++ rest = f.name ++ (f.beforeSign.1 ++ '=' :: (f.beforeValue.1 ++
      (f.value.source ++ ((f.parts.map ValuePart.text).flatten ++ rest)))) := by
    simp [text, raw]
  rw [htext, hread]
  simp [field, raw]

/-- Behind the first comma of separators some of them are left. -/
theorem afterComma_separators {t : Text} (w : Separators) : Passes ',' .outside t .outside →
    ∃ more, (∀ c ∈ more, Field.isSeparator c) ∧
      ∀ rest, afterComma (t ++ (w.1 ++ rest)) = more ++ rest := by
  intro ht
  obtain ⟨gap, more, hw, hmore⟩ := w.exists_comma
  refine ⟨more, hmore, ?_⟩
  intro rest
  have hcomma : isEnd ',' := rfl
  have hgap := ht.append (Passes.ofGap hcomma .outside gap)
  have hcut := hgap.cut_stop rfl (more ++ rest)
  have hassoc : t ++ (w.1 ++ rest) = t ++ gap.1 ++ ',' :: (more ++ rest) := by
    rw [hw]
    simp
  rw [hassoc, afterComma, hcut]

/-- Behind the last value nothing is read. -/
theorem parse_afterComma_last {t last : Text} : Passes ',' .outside t .outside →
    (∀ c ∈ last, Field.isSeparator c) → Field.parse (afterComma (t ++ last)) = [] := by
  intro ht hlast
  -- Either a comma ends the value, or nothing but blanks follows it.
  by_cases hcomma : ',' ∈ last
  · obtain ⟨more, hmore, hafter⟩ := afterComma_separators ⟨last, hlast, hcomma⟩ ht
    have hend : afterComma (t ++ last) = more := by simpa using hafter []
    rw [hend]
    exact Field.parse_of_separators hmore
  · have hblank : ∀ c ∈ last, Text.isAsciiBlank c := by
      intro c hc
      have hsep := hlast c hc
      rw [Field.isSeparator, Bool.or_eq_true, beq_iff_eq] at hsep
      rcases hsep with hsep | rfl
      · exact hsep
      · exact absurd hc hcomma
    have hend : isEnd ',' := rfl
    have hgap := ht.append (Passes.ofGap hend .outside ⟨last, hblank⟩)
    rw [afterComma, hgap.1]
    exact Field.parse_of_separators (by simp)

/-- One field is read behind separators, and the others behind the next comma. -/
theorem InlineField.parse_text {w rest : Text} (f : InlineField) :
    (∀ c ∈ w, Field.isSeparator c) →
      (∀ c ∈ ((f.parts.map ValuePart.text).flatten ++ rest).head?, Field.isBareChar c = false) →
        Field.parse (w ++ (f.text ++ rest)) =
          f.field :: Field.parse (afterComma ((f.parts.map ValuePart.text).flatten ++ rest)) := by
  intro hw hrest
  obtain ⟨c, cs, htext, hword, -⟩ := f.exists_name
  have hstop : ∀ d ∈ (f.text ++ rest).head?, Field.isSeparator d = false := by
    rw [htext]
    simpa using isSeparator_of_isWordChar hword
  have hparse := Field.parse_of_stop (f.text ++ rest) hw (by simp [htext]) hstop
  rw [f.read_text hrest] at hparse
  exact hparse

/-- Behind the first comma all fields are read as they were written. -/
theorem parse_inlineText {w last : Text} (f : InlineField) (rest : List InlineField) :
    (∀ c ∈ w, Field.isSeparator c) → (∀ c ∈ last, Field.isSeparator c) →
      Field.parse (w ++ (f.text ++ inlineText last rest)) =
        f.field :: rest.map InlineField.field := by
  intro hw hlast
  have hcomma : isEnd ',' := rfl
  -- Over the fields behind `f`. What the comma before the next one leaves are separators again.
  induction rest generalizing f w with
  | nil =>
      have hend := parse_afterComma_last (InlineField.passes_parts f.parts hcomma) hlast
      rw [f.parse_text hw (head_parts f.parts [] hlast), inlineText, hend]
      rfl
  | cons g rest ih =>
      obtain ⟨more, hmore, hafter⟩ :=
        afterComma_separators g.before (InlineField.passes_parts f.parts hcomma)
      rw [f.parse_text hw (head_parts f.parts (g :: rest) hlast), inlineText, hafter, ih g hmore]
      rfl

namespace InlineRecord

/-- Of a record that was written the type, the key and the fields are read as they were written. -/
theorem reading_block (r : InlineRecord) :
    r.block.reading = (r.kind, r.key, r.fields.map InlineField.field) := by
  obtain ⟨f, rest, hfields⟩ := List.exists_cons_of_ne_nil r.fields_ne_nil
  -- The key ends at the first comma of what stands before the first field.
  obtain ⟨gap, more, hbefore, hmore⟩ := f.before.exists_comma
  have hbody : r.body = (r.beforeKey.1 ++ (r.key ++ gap.1)) ++
      ',' :: (more ++ (f.text ++ inlineText r.last rest)) := by
    rw [body, hfields, inlineText, hbefore]
    simp
  have hfirst := r.isWord_key.ne_comma_of_mem r.beforeKey gap
  calc
    r.block.reading = (r.kind, Text.trim (r.beforeKey.1 ++ (r.key ++ gap.1)),
        Field.parse (more ++ (f.text ++ inlineText r.last rest))) := by
      rw [block, hbody, Block.reading_of_comma r.kind hfirst]
    _ = (r.kind, r.key, r.fields.map InlineField.field) := by
      rw [r.isWord_key.trim_gaps, parse_inlineText f rest hmore r.isSeparator_last, hfields]
      rfl

/-! ## Reading the record -/

/-- Fields in one line hold no closing brace at the top level. -/
theorem passes_inlineText {last : Text} (fields : List InlineField) :
    (∀ c ∈ last, Field.isSeparator c) →
      Passes '}' .outside (inlineText last fields) .outside := by
  intro hlast
  induction fields with
  | nil => exact Passes.ofSeparators rfl (by decide) hlast
  | cons f rest ih =>
      have hbefore : Passes '}' .outside f.before.1 .outside :=
        Passes.ofSeparators rfl (by decide) f.before.2.1
      exact hbefore.append ((f.passes_text rfl).append ih)

def head (r : InlineRecord) : WrittenBlock where
  beforeKind := r.beforeKind
  kind := r.kind
  letter_kind := r.isKind.letter
  chars_kind := r.isKind.isKindChar
  afterKind := r.afterKind
  inBraces := true
  beforeKey := r.beforeKey
  key := r.key
  isWord_key := r.isWord_key
  afterKey := Gap.none
  fields := []
  lastComma := none

/-- The scanner finds the one block that was written. -/
theorem scan_text (r : InlineRecord) {after : Text} : '@' ∉ after →
    Block.scan (r.text ++ after) = [r.block] := by
  intro hafter
  -- No part of the body shows a closing brace, so it ends at the one behind it.
  have hbody : Passes '}' .outside r.body .outside :=
    (Passes.ofGap rfl .outside r.beforeKey).append
      ((Passes.ofWord rfl _ r.isWord_key).append (passes_inlineText r.fields r.isSeparator_last))
  have hcut : Block.cutBody '}' (r.body ++ '}' :: after) = (r.body, after) := by
    rw [Block.cutBody, hbody.cut_stop rfl]
  have hheader := r.head.header?_text (r.body ++ '}' :: after)
  have hassoc : r.text ++ after = '@' :: (r.head.beforeKind.1 ++ (r.head.kind ++
      (r.head.afterKind.1 ++ r.head.opening :: (r.body ++ '}' :: after)))) := by
    simp [text, head, WrittenBlock.opening]
  calc
    Block.scan (r.text ++ after)
        = ⟨r.head.kind, (Block.cutBody '}' (r.body ++ '}' :: after)).1⟩ ::
            Block.scan (Block.cutBody '}' (r.body ++ '}' :: after)).2 := by
          rw [hassoc]
          exact Block.scan_at hheader
    _ = [r.block] := by
          rw [hcut, Block.scan_of_not_mem hafter]
          rfl

/-- A record begins and ends with something else than white space. -/
theorem trim_text (r : InlineRecord) : Text.trim r.text = r.text := by
  apply Text.trim_eq_self_of_ends
  · intro c hc
    obtain rfl : '@' = c := Option.some.inj hc
    decide
  · intro c hc
    have hend : r.text = '@' :: (r.beforeKind.1 ++ (r.kind ++ (r.afterKind.1 ++
        '{' :: r.body))) ++ ['}'] := by simp [text]
    rw [hend, List.getLast?_concat] at hc
    obtain rfl : '}' = c := Option.some.inj hc
    decide

/-! ## Taking the record apart -/

/-- The pieces of a body are its key and its fields, whatever separates them. -/
theorem pieces_inlineText {token last : Text} (fields : List InlineField) :
    Passes ',' .outside token .outside → token ≠ [] → Text.trim token = token →
      (∀ c ∈ last, Field.isSeparator c) →
        Layout.pieces (token ++ inlineText last fields) =
          token :: fields.map InlineField.text := by
  intro hpass hne htrim hlast
  -- Each field is the token of the fields behind it, as the key is that of all.
  induction fields generalizing token with
  | nil =>
      calc
        Layout.pieces (token ++ last) = Layout.pieces (token ++ (last ++ [])) := by simp
        _ = token :: Layout.pieces [] := Layout.pieces_token hpass hne htrim hlast (.inr rfl)
        _ = [token] := rfl
  | cons f rest ih =>
      obtain ⟨c, cs, htext, -, -⟩ := f.exists_name
      have hnext : f.text ≠ [] := by simp [htext]
      calc
        Layout.pieces (token ++ (f.before.1 ++ (f.text ++ inlineText last rest)))
            = token :: Layout.pieces (f.text ++ inlineText last rest) :=
          Layout.pieces_token hpass hne htrim f.before.2.1 (.inl f.before.2.2)
        _ = token :: f.text :: rest.map InlineField.text := by
          rw [ih (f.passes_text rfl) hnext f.trim_text]

/-- The pieces of a record that was written: its key and the texts of its fields. -/
theorem pieces_body (r : InlineRecord) :
    Layout.pieces r.body = r.key :: r.fields.map InlineField.text := by
  have hgap : ∀ c ∈ r.beforeKey.1, Field.isSeparator c := by
    intro c hc
    exact Field.isSeparator_of_blank (r.beforeKey.2 c hc)
  rw [body, Layout.pieces_separators hgap]
  exact pieces_inlineText r.fields (Passes.ofWord rfl .outside r.isWord_key)
    r.isWord_key.ne_nil r.isWord_key.trim_eq_self r.isSeparator_last

end InlineRecord

/-! ## Lines of their own -/

def InlineField.onNewLine (f : InlineField) : InlineField :=
  { f with before := ⟨",\n  ".toList, List.all_eq_true.1 rfl, List.mem_cons_self⟩ }

/-- The record with each field on a line of its own, and nothing between the other tokens. -/
def InlineRecord.laidOut (r : InlineRecord) : InlineRecord :=
  { r with
    beforeKind := Gap.none
    afterKind := Gap.none
    beforeKey := Gap.none
    fields := r.fields.map InlineField.onNewLine
    fields_ne_nil := by simpa using r.fields_ne_nil
    last := ['\n']
    isSeparator_last := List.all_eq_true.1 rfl }

/-- Fields on lines of their own are joined by commas and line feeds. -/
theorem inlineText_onNewLine (f : InlineField) (rest : List InlineField) :
    inlineText ['\n'] ((f :: rest).map InlineField.onNewLine) =
      ",\n  ".toList ++ Text.join ",\n  ".toList ((f :: rest).map InlineField.text) ++ ['\n'] := by
  induction rest generalizing f with
  | nil => rfl
  | cons g rest ih =>
      calc
        inlineText ['\n'] ((f :: g :: rest).map InlineField.onNewLine)
            = ",\n  ".toList ++ (f.text ++
                inlineText ['\n'] ((g :: rest).map InlineField.onNewLine)) := rfl
        _ = ",\n  ".toList ++ (f.text ++ (",\n  ".toList ++
                Text.join ",\n  ".toList ((g :: rest).map InlineField.text) ++ ['\n'])) := by
            rw [ih g]
        _ = ",\n  ".toList ++ Text.join ",\n  ".toList
              ((f :: g :: rest).map InlineField.text) ++ ['\n'] := by
            simp [Text.join]

/-- The laid out record, written down. -/
theorem InlineRecord.text_laidOut (r : InlineRecord) :
    r.laidOut.text = '@' :: (r.kind ++ '{' :: (r.key ++ ",\n  ".toList ++
      Text.join ",\n  ".toList (r.fields.map InlineField.text) ++ ['\n', '}'])) := by
  obtain ⟨f, rest, hfields⟩ := List.exists_cons_of_ne_nil r.fields_ne_nil
  have hbody : r.laidOut.body = r.key ++ inlineText ['\n'] (r.fields.map InlineField.onNewLine) :=
    rfl
  have htext : r.laidOut.text = '@' :: (r.kind ++ '{' :: (r.laidOut.body ++ ['}'])) := rfl
  rw [htext, hbody, hfields, inlineText_onNewLine]
  simp

namespace Layout

/-- A line that begins with a word is indented, as no header line does. -/
theorem formatLine_word {c : Char} {cs : Text} : isWordChar c → c ≠ '@' →
    Text.trim (c :: cs) = c :: cs → formatLine (c :: cs) = ' ' :: ' ' :: (c :: cs) ++ ['\n'] := by
  intro hc hat htrim
  have hbrace : c ≠ '}' := ne_of_isWordChar hc (by decide)
  have hflush : isFlush (c :: cs) = false := by
    have hheader : isHeaderLine (c :: cs) = false := by
      rw [isHeaderLine]
      rintro rest heq
      exact hat (List.cons.inj heq).1
    simp [isFlush, hheader, hbrace]
  rw [formatLine, htrim]
  simp [hflush]

/-- Laying out a field indents it, with or without a comma behind it. -/
theorem formatLine_field (f : InlineField) :
    formatLine f.text = ' ' :: ' ' :: f.text ++ ['\n'] ∧
      formatLine (f.text ++ [',']) = ' ' :: ' ' :: (f.text ++ [',']) ++ ['\n'] := by
  obtain ⟨c, cs, htext, hword, hat⟩ := f.exists_name
  have htrim := f.trim_text
  rw [htext] at htrim ⊢
  have hcomma : Text.trim (c :: cs ++ [',']) = c :: cs ++ [','] := by
    calc
      Text.trim (c :: (cs ++ [','])) = c :: Text.trimEnd (cs ++ [',']) :=
        Text.trim_cons (isBlank_of_isWordChar hword) (cs ++ [','])
      _ = c :: (cs ++ [',']) := congrArg (c :: ·) (Text.dropEndWhile_append_cons (by decide) cs [])
  exact ⟨formatLine_word hword hat htrim, formatLine_word hword hat hcomma⟩

theorem flatten_withCommas (f : InlineField) (rest : List InlineField) :
    ((withCommas ((f :: rest).map InlineField.text)).map formatLine).flatten =
      ' ' :: ' ' :: Text.join ",\n  ".toList ((f :: rest).map InlineField.text) ++ ['\n'] := by
  induction rest generalizing f with
  | nil =>
      calc
        ((withCommas [f.text]).map formatLine).flatten = formatLine f.text := by simp [withCommas]
        _ = ' ' :: ' ' :: f.text ++ ['\n'] := (formatLine_field f).1
  | cons g rest ih =>
      calc
        ((withCommas ((f :: g :: rest).map InlineField.text)).map formatLine).flatten
            = formatLine (f.text ++ [',']) ++
                ((withCommas ((g :: rest).map InlineField.text)).map formatLine).flatten := rfl
        _ = (' ' :: ' ' :: (f.text ++ [',']) ++ ['\n']) ++
              (' ' :: ' ' :: Text.join ",\n  ".toList ((g :: rest).map InlineField.text) ++
                ['\n']) := by
            rw [(formatLine_field f).2, ih g]
        _ = ' ' :: ' ' :: Text.join ",\n  ".toList ((f :: g :: rest).map InlineField.text) ++
              ['\n'] := by
            simp [Text.join]

/-- The lines that a record in one line is taken apart into. -/
theorem recordLines_inline (r : InlineRecord) : '\n' ∉ r.text →
    recordLines r.text = ('@' :: (r.kind ++ '{' :: (r.key ++ [',']))) ::
      (withCommas (r.fields.map InlineField.text) ++ [['}']]) := by
  intro hfeed
  obtain ⟨f, rest, hfields⟩ := List.exists_cons_of_ne_nil r.fields_ne_nil
  have hscan : Block.scan r.text = [r.block] := by
    simpa using r.scan_text (List.not_mem_nil (a := '@'))
  have hpieces := r.pieces_body
  have hsplit : splitBlock? r.text = some (('@' :: (r.kind ++ '{' :: (r.key ++ [',']))) ::
      (withCommas (r.fields.map InlineField.text) ++ [['}']])) := by
    rw [hfields] at hpieces ⊢
    exact splitBlock?_eq_some_iff.2
      ⟨r.block, [], r.key, f.text, rest.map InlineField.text, hscan, hpieces, rfl⟩
  rw [recordLines, Text.lines_eq_self hfeed (by simp [InlineRecord.text])]
  simp [hsplit]

/-- Laid out, the record is the one with each field on a line of its own. -/
theorem format_inline_eq (r : InlineRecord) {before after : Text} :
    (∀ c ∈ before, Text.isBlank c) → (∀ c ∈ after, Text.isBlank c) → '\n' ∉ r.text →
      format (before ++ (r.text ++ after)) = r.laidOut.text ++ ['\n'] := by
  intro hbefore hafter hfeed
  obtain ⟨f, rest, hfields⟩ := List.exists_cons_of_ne_nil r.fields_ne_nil
  have hheader : formatLine ('@' :: (r.kind ++ '{' :: (r.key ++ [',']))) =
      '@' :: (r.kind ++ '{' :: (r.key ++ [','] ++ ['\n'])) := by
    have hend : Text.trimEnd (r.key ++ [',']) = r.key ++ [','] :=
      Text.dropEndWhile_append_cons (by decide) r.key []
    rw [formatLine_headed r.isKind, hend]
  have hbrace : formatLine ['}'] = ['}', '\n'] := by decide
  calc
    format (before ++ (r.text ++ after))
        = ((recordLines r.text).map formatLine).flatten := by
          rw [format, Text.trim_append_gaps hbefore hafter, r.trim_text]
    _ = formatLine ('@' :: (r.kind ++ '{' :: (r.key ++ [',']))) ++
          (((withCommas ((f :: rest).map InlineField.text)).map formatLine).flatten ++
            formatLine ['}']) := by
          rw [recordLines_inline r hfeed, hfields]
          simp
    _ = '@' :: (r.kind ++ '{' :: (r.key ++ [','] ++ ['\n'])) ++ ((' ' :: ' ' ::
          Text.join ",\n  ".toList ((f :: rest).map InlineField.text) ++ ['\n']) ++
            ['}', '\n']) := by
          rw [hheader, flatten_withCommas, hbrace]
    _ = r.laidOut.text ++ ['\n'] := by
          rw [r.text_laidOut, hfields]
          simp

/-- A record in one line is laid out with its key on the line of the header, each field on a line
of its own, and the closing brace on the last. What is read of it is what was read of the one
line. -/
theorem format_inline (r : InlineRecord) (before after : Text) :
    (∀ c ∈ before, Text.isBlank c) → (∀ c ∈ after, Text.isBlank c) → '\n' ∉ r.text →
      format (before ++ (r.text ++ after)) =
          '@' :: (r.kind ++ '{' :: (r.key ++ ",\n  ".toList ++
            Text.join ",\n  ".toList (r.fields.map InlineField.text) ++ ['\n', '}', '\n'])) ∧
        (Block.scan (before ++ (r.text ++ after))).map Block.reading =
          [(r.kind, r.key, r.fields.map InlineField.field)] ∧
        (Block.scan (format (before ++ (r.text ++ after)))).map Block.reading =
          [(r.kind, r.key, r.fields.map InlineField.field)] := by
  intro hbefore hafter hfeed
  have hat : ∀ w : Text, (∀ c ∈ w, Text.isBlank c) → '@' ∉ w := by
    intro w hw hmem
    exact absurd (hw '@' hmem) (by decide)
  have hformat := format_inline_eq r hbefore hafter hfeed
  refine ⟨?_, ?_, ?_⟩
  · rw [hformat, r.text_laidOut]
    simp
  · rw [Block.scan_append_of_not_mem (hat before hbefore), r.scan_text (hat after hafter)]
    exact congrArg (fun reading => [reading]) r.reading_block
  -- What was laid out is a record that could have been written.
  · rw [hformat, r.laidOut.scan_text (by decide)]
    have hread : r.laidOut.fields.map InlineField.field = r.fields.map InlineField.field := by
      simp [InlineRecord.laidOut, InlineField.onNewLine, InlineField.field, InlineField.raw]
    have hlaid := r.laidOut.reading_block
    rw [hread] at hlaid
    exact congrArg (fun reading => [reading]) hlaid

/-- A record whose commas, quotes and braces stand in each other: white space between all tokens,
redundant commas, and a value put together from one of each kind. -/
def tangled : InlineRecord where
  beforeKind := ⟨['\t'], List.all_eq_true.1 rfl⟩
  kind := "In_Book2".toList
  isKind := ⟨⟨'I', "n_Book2".toList, rfl, rfl⟩, List.all_eq_true.1 rfl⟩
  afterKind := ⟨[' '], List.all_eq_true.1 rfl⟩
  beforeKey := ⟨[' ', '\r'], List.all_eq_true.1 rfl⟩
  key := "a/b:1".toList
  isWord_key := ⟨by decide, List.all_eq_true.1 rfl⟩
  fields :=
    [{ before := ⟨" ,,".toList, List.all_eq_true.1 rfl, by decide⟩
       name := "title".toList
       isWord_name := ⟨by decide, List.all_eq_true.1 rfl⟩
       at_not_mem_name := by decide
       beforeSign := ⟨[' '], List.all_eq_true.1 rfl⟩
       beforeValue := ⟨['\x0c'], List.all_eq_true.1 rfl⟩
       value := .braced "A, \x7bB\x7d \"@c(".toList
       isWritable_value := show IsBalanced _ by decide
       parts :=
        [{ beforeSign := ⟨[' '], List.all_eq_true.1 rfl⟩
           beforeValue := Gap.none
           value := .quoted "x\x7b,\"\x7d".toList
           isWritable_value := show IsBalanced _ ∧ _ by decide },
         { beforeSign := Gap.none
           beforeValue := ⟨[' '], List.all_eq_true.1 rfl⟩
           value := .bare "c-3".toList
           isWritable_value := ⟨by decide, List.all_eq_true.1 rfl⟩ }] },
     { before := ⟨",".toList, List.all_eq_true.1 rfl, by decide⟩
       name := "year".toList
       isWord_name := ⟨by decide, List.all_eq_true.1 rfl⟩
       at_not_mem_name := by decide
       beforeSign := Gap.none
       beforeValue := Gap.none
       value := .bare "2001".toList
       isWritable_value := ⟨by decide, List.all_eq_true.1 rfl⟩
       parts := [] }]
  fields_ne_nil := by decide
  last := " , ,".toList
  isSeparator_last := List.all_eq_true.1 rfl

theorem format_inline_tangled :
    (∀ c ∈ [' '], Text.isBlank c) ∧ (∀ c ∈ ['\n'], Text.isBlank c) ∧ '\n' ∉ tangled.text ∧
      tangled.text = ("@\tIn_Book2 \x7b \ra/b:1 ,,title =\x0c\x7bA, \x7bB\x7d \"@c(\x7d ".toList ++
        "#\"x\x7b,\"\x7d\"# c-3,year=2001 , ,\x7d".toList) ∧
      format ([' '] ++ (tangled.text ++ ['\n'])) =
        "@In_Book2\x7ba/b:1,\n  title =\x0c\x7bA, \x7bB\x7d \"@c(\x7d ".toList ++
          "#\"x\x7b,\"\x7d\"# c-3,\n  year=2001\n\x7d\n".toList := by
  have hbefore : ∀ c ∈ [' '], Text.isBlank c := List.all_eq_true.1 rfl
  have hafter : ∀ c ∈ ['\n'], Text.isBlank c := List.all_eq_true.1 rfl
  have hfeed : '\n' ∉ tangled.text := by decide
  refine ⟨hbefore, hafter, hfeed, by decide, ?_⟩
  have hformat := (format_inline tangled [' '] ['\n'] hbefore hafter hfeed).1
  rw [hformat]
  decide

example : "abcdefghijklmnopqrstuvwxyzABCDEFGHIJKLMNOPQRSTUVWXYZ0123456789_-:./".toList.all
    isWordChar = true := rfl

end Layout

end Bibliography

end CiteIndex
