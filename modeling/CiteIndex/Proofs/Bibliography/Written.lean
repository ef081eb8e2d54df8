import CiteIndex.Proofs.Bibliography.Entries

/-!
# Reading back what was written

Bibliography files as they are written: entries in braces or parentheses with values of all three
kinds, blanks between all tokens, free text around the entries. Reading such a file gives exactly
what was written. Two readers have to agree on that: the one that looks for the end of a block, and
the one that looks for the end of each value inside it.

- `WrittenField`, `WrittenBlock`, `WrittenFile`: what can be written, with the conditions on it
- `WrittenBlock.reading_block`: type, key and fields of a block that was written
- `WrittenFile.scan_text`: the blocks of a file that was written
- `WrittenFile.read_back`: blocks, keys, fields and entries of a file that was written
-/

namespace CiteIndex

namespace Bibliography

/-! ## Tokens -/

/-- Blanks between two tokens. -/
abbrev Gap := { t : Text // ∀ c ∈ t, Text.isAsciiBlank c }

/-- A character of keys, field names and bare values. -/
def isWordChar (c : Char) : Bool :=
  !(Text.isBlank c || c == '{' || c == '}' || c == '(' || c == ')' || c == '"' || c == ',' ||
    c == '=' || c == '#')

structure IsWord (t : Text) : Prop where
  ne_nil : t ≠ []
  chars : ∀ c ∈ t, isWordChar c

abbrev FreeText := { t : Text // '@' ∉ t }

theorem ne_of_isWordChar {c d : Char} (hc : isWordChar c) (hd : isWordChar d = false) : c ≠ d := by
  rintro rfl
  simp [hc] at hd

theorem isBlank_of_isWordChar {c : Char} (hc : isWordChar c) : Text.isBlank c = false := by
  cases h : Text.isBlank c with
  | false => rfl
  | true => simp [isWordChar, h] at hc

theorem isAsciiBlank_of_isWordChar {c : Char} (hc : isWordChar c) : Text.isAsciiBlank c = false := by
  cases h : Text.isAsciiBlank c with
  | false => rfl
  | true =>
      have hblank := isBlank_of_isWordChar hc
      rw [Text.isBlank_of_isAsciiBlank h] at hblank
      cases hblank

theorem isNameChar_of_isWordChar {c : Char} (hc : isWordChar c) : Field.isNameChar c := by
  simp only [Field.isNameChar, isAsciiBlank_of_isWordChar hc, Bool.not_eq_true',
    Bool.or_eq_false_iff, beq_eq_false_iff_ne, true_and]
  refine ⟨⟨⟨⟨?_, ?_⟩, ?_⟩, ?_⟩, ?_⟩ <;> exact ne_of_isWordChar hc (by decide)

theorem isSeparator_of_isWordChar {c : Char} (hc : isWordChar c) : Field.isSeparator c = false := by
  simp only [Field.isSeparator, isAsciiBlank_of_isWordChar hc, Bool.false_or, beq_eq_false_iff_ne]
  exact ne_of_isWordChar hc (by decide)

namespace IsWord

variable {key : Text} (hkey : IsWord key)
include hkey

theorem trim_eq_self : Text.trim key = key :=
  Text.trim_eq_self fun c hc => isBlank_of_isWordChar (hkey.chars c hc)

theorem trim_gaps (before after : Gap) : Text.trim (before.1 ++ (key ++ after.1)) = key := by
  have hgap : ∀ w : Gap, ∀ c ∈ w.1, Text.isBlank c := fun w c hc =>
    Text.isBlank_of_isAsciiBlank (w.2 c hc)
  rw [Text.trim_append_gaps (hgap before) (hgap after), hkey.trim_eq_self]

/-- A key between blanks is all that stands before the first comma. -/
theorem ne_comma_of_mem (before after : Gap) :
    ∀ c ∈ before.1 ++ (key ++ after.1), (c != ',') = true := by
  have hgap : ∀ w : Gap, ∀ c ∈ w.1, (c != ',') = true := fun w c hc => by
    simpa using ne_of_isAsciiBlank (w.2 c hc) (d := ',') rfl
  have hword : ∀ c ∈ key, (c != ',') = true := fun c hc => by
    simpa using ne_of_isWordChar (hkey.chars c hc) (d := ',') (by decide)
  exact List.forall_mem_append.2 ⟨hgap before, List.forall_mem_append.2 ⟨hword, hgap after⟩⟩

end IsWord

/-- The delimiters and separators that end something at the top level. -/
def isEnd (c : Char) : Bool :=
  c == '}' || c == ')' || c == ','

namespace Passes

variable {stop : Char}

theorem ofGap (hstop : isEnd stop) (s : Nesting) (w : Gap) : Passes stop s w s := by
  have hblank : Text.isAsciiBlank stop = false := by
    simp only [isEnd, Bool.or_eq_true, beq_iff_eq] at hstop
    rcases hstop with (rfl | rfl) | rfl <;> rfl
  exact of_plain s fun c hc =>
    ⟨ne_of_isAsciiBlank (w.2 c hc) rfl, ne_of_isAsciiBlank (w.2 c hc) rfl,
      ne_of_isAsciiBlank (w.2 c hc) rfl, ne_of_isAsciiBlank (w.2 c hc) hblank⟩

theorem ofWord (hstop : isEnd stop) (s : Nesting) {t : Text} (ht : IsWord t) :
    Passes stop s t s := by
  have hword : isWordChar stop = false := by
    simp only [isEnd, Bool.or_eq_true, beq_iff_eq] at hstop
    rcases hstop with (rfl | rfl) | rfl <;> decide
  exact of_plain s fun c hc =>
    ⟨ne_of_isWordChar (ht.chars c hc) (by decide), ne_of_isWordChar (ht.chars c hc) (by decide),
      ne_of_isWordChar (ht.chars c hc) (by decide), ne_of_isWordChar (ht.chars c hc) hword⟩

theorem ofSign {c : Char} : isEnd stop → isEnd c = false → c ≠ '{' ∧ c ≠ '"' →
    Passes stop .outside [c] .outside := by
  intro hstop hc hplain
  apply of_plain
  intro d hd
  obtain rfl := List.mem_singleton.1 hd
  refine ⟨hplain.1, ?_, hplain.2, ?_⟩
  · rintro rfl
    cases hc
  · rintro rfl
    rw [hstop] at hc
    cases hc

end Passes

/-! ## Values -/

namespace FieldValue

/-- The values that can be written: braces are balanced, and quotes stand inside braces if they
stand inside quotes. -/
def IsWritable : FieldValue → Prop
  | .braced t => IsBalanced t
  | .quoted t => IsBalanced t ∧ quotesAreInner 0 t
  | .bare t => IsWord t

/-- The reader of blocks passes over a value that was written. -/
theorem passes_source {stop : Char} (hstop : isEnd stop) {value : FieldValue}
    (h : value.IsWritable) : Passes stop .outside value.source .outside := by
  cases value with
  | braced t =>
      refine Passes.group ?_ .outside h
      rintro rfl
      simp [isEnd] at hstop
  | quoted t =>
      refine Passes.quote ?_ h.1 h.2
      rintro rfl
      simp [isEnd] at hstop
  | bare t => exact Passes.ofWord hstop .outside h

/-- A written value begins with a character that is no blank. -/
theorem exists_source {value : FieldValue} (h : value.IsWritable) :
    ∃ c cs, value.source = c :: cs ∧ Text.isAsciiBlank c = false := by
  cases value with
  | braced t => exact ⟨'{', t ++ ['}'], rfl, rfl⟩
  | quoted t => exact ⟨'"', t ++ ['"'], rfl, rfl⟩
  | bare t =>
      rcases List.exists_cons_of_ne_nil h.ne_nil with ⟨c, cs, rfl⟩
      exact ⟨c, cs, rfl, isAsciiBlank_of_isWordChar (h.chars c List.mem_cons_self)⟩

/-- The reader of fields reads it. -/
theorem readValue?_source {value : FieldValue} (h : value.IsWritable) {more : Text}
    (hmore : ∀ c ∈ more.head?, Field.isBareChar c = false) :
    Field.readValue? (value.source ++ more) = some (value, more) := by
  cases value with
  | braced t =>
      have hcut : cutGroup? 0 (t ++ '}' :: more) = some (t, more) := cutGroup?_of_balanced h more
      simp [source, Field.readValue?, hcut]
  | quoted t =>
      have hcut : cutQuote? 0 (t ++ '"' :: more) = some (t, more) :=
        cutQuote?_of_balanced h.1 h.2 more
      simp [source, Field.readValue?, hcut]
  | bare t =>
      -- Word characters are bare, and are none of the openings that are tried first.
      have hbare : ∀ c ∈ t, Field.isBareChar c := fun c hc => by
        have hword := h.chars c hc
        simp only [Field.isBareChar, isAsciiBlank_of_isWordChar hword, Bool.not_eq_true',
          Bool.or_eq_false_iff, beq_eq_false_iff_ne, true_and]
        exact ⟨⟨⟨ne_of_isWordChar hword (by decide), ne_of_isWordChar hword (by decide)⟩,
          ne_of_isWordChar hword (by decide)⟩, ne_of_isWordChar hword (by decide)⟩
      rcases List.exists_cons_of_ne_nil h.ne_nil with ⟨c, cs, rfl⟩
      have hc := h.chars c List.mem_cons_self
      have hopen : c ≠ '{' := ne_of_isWordChar hc (by decide)
      have hquote : c ≠ '"' := ne_of_isWordChar hc (by decide)
      have htake := Text.takeWhile_append_stop hbare hmore
      have hdrop := Text.dropWhile_append_stop hbare hmore
      rw [List.cons_append] at htake hdrop
      rw [source, List.cons_append, Field.readValue?, if_neg hopen, if_neg hquote,
        if_pos (hbare c List.mem_cons_self), htake, hdrop]

end FieldValue

/-! ## Fields -/

structure WrittenField where
  beforeName : Gap
  name : Text
  isWord_name : IsWord name
  beforeSign : Gap
  beforeValue : Gap
  value : FieldValue
  isWritable_value : value.IsWritable
  afterValue : Gap

namespace WrittenField

def raw (f : WrittenField) : Text :=
  f.name ++ f.beforeSign.1 ++ '=' :: f.beforeValue.1 ++ f.value.source

def text (f : WrittenField) : Text :=
  f.beforeName.1 ++ (f.raw ++ f.afterValue.1)

def field (f : WrittenField) : Field :=
  ⟨f.name, f.value, f.raw⟩

/-- A written field holds no delimiter at the top level. -/
theorem passes_text {stop : Char} (hstop : isEnd stop) (f : WrittenField) :
    Passes stop .outside f.text .outside := by
  have hsign : Passes stop .outside ['='] .outside := Passes.ofSign hstop rfl (by decide)
  have hraw := (((Passes.ofWord hstop .outside f.isWord_name).append
    (Passes.ofGap hstop _ f.beforeSign)).append hsign).append
      ((Passes.ofGap hstop _ f.beforeValue).append (f.value.passes_source hstop f.isWritable_value))
  have htext := (Passes.ofGap hstop .outside f.beforeName).append
    (hraw.append (Passes.ofGap hstop _ f.afterValue))
  simpa [text, raw] using htext

end WrittenField

/-- What is written of a block behind its key: fields, each behind a comma, and a last comma or
none. -/
def fieldsText (last : Option Gap) : List WrittenField → Text
  | [] =>
    match last with
    | some w => ',' :: w.1
    | none => []
  | f :: rest => ',' :: (f.text ++ fieldsText last rest)

theorem head_fieldsText {last : Option Gap} {fields : List WrittenField} :
    ∀ c ∈ (fieldsText last fields).head?, c = ',' := by
  cases fields <;> cases last <;> simp [fieldsText]

theorem head_gap_append {p : Char → Bool} {t : Text} (w : Gap) :
    (∀ c, Text.isAsciiBlank c → p c = false) → (∀ c ∈ t.head?, p c = false) →
      ∀ c ∈ (w.1 ++ t).head?, p c = false := by
  intro hblank ht c hc
  obtain ⟨w, hw⟩ := w
  cases w with
  | nil => exact ht c hc
  | cons d ds =>
      obtain rfl : d = c := Option.some.inj hc
      exact hblank d (hw d List.mem_cons_self)

theorem head_gap_fieldsText (w : Gap) (last : Option Gap) (fields : List WrittenField) {p : Char → Bool}
    (hblank : ∀ c, Text.isAsciiBlank c → p c = false) (hcomma : p ',' = false) :
    ∀ c ∈ (w.1 ++ fieldsText last fields).head?, p c = false := by
  apply head_gap_append w hblank
  intro c hc
  rwa [head_fieldsText c hc]

/-- Behind a comma all fields are read as they were written. -/
theorem parse_fieldsText (w : Gap) (last : Option Gap) (fields : List WrittenField) :
    Field.parse (afterComma (w.1 ++ fieldsText last fields)) = fields.map WrittenField.field := by
  have hcomma : isEnd ',' := rfl
  induction fields generalizing w with
  | nil =>
      have hgap := Passes.ofGap hcomma .outside w
      cases last with
      | none =>
          rw [fieldsText, List.append_nil, afterComma, hgap.1]
          exact Field.parse_of_separators (by simp)
      | some w' =>
          rw [fieldsText, afterComma, hgap.cut_stop rfl]
          exact Field.parse_of_separators fun c hc => Field.isSeparator_of_blank (w'.2 c hc)
  | cons f rest ih =>
      have hname : ∀ c ∈ f.name, Field.isNameChar c := fun c hc =>
        isNameChar_of_isWordChar (f.isWord_name.chars c hc)
      have hsep : ∀ c ∈ f.beforeName.1, Field.isSeparator c := fun c hc =>
        Field.isSeparator_of_blank (f.beforeName.2 c hc)
      -- The name begins with a character that is no separator, so one round of reading begins there.
      rcases List.exists_cons_of_ne_nil f.isWord_name.ne_nil with ⟨c, cs, hcons⟩
      have hc : isWordChar c := f.isWord_name.chars c (by rw [hcons]; exact List.mem_cons_self)
      have hsepFalse : Field.isSeparator c = false := isSeparator_of_isWordChar hc
      -- The field is read up to the end of its value, and the rest is what the comma behind leaves.
      have hvalue := f.value.readValue?_source f.isWritable_value
        (head_gap_fieldsText f.afterValue last rest (fun _ => Field.not_isBareChar_of_blank) rfl)
      have hhead : ∀ c ∈ (f.value.source ++ (f.afterValue.1 ++ fieldsText last rest)).head?,
          Text.isAsciiBlank c = false := by
        rcases f.value.exists_source f.isWritable_value with ⟨d, ds, hsource, hd⟩
        rw [hsource]
        simpa using hd
      have hread := Field.read_field hname f.isWord_name.ne_nil f.beforeSign.2 f.beforeValue.2 hhead
      rw [hvalue] at hread
      have hparse := Field.parse_of_stop (c :: (cs ++ (f.beforeSign.1 ++
        '=' :: (f.beforeValue.1 ++ (f.value.source ++ (f.afterValue.1 ++ fieldsText last rest))))))
        hsep (List.cons_ne_nil _ _) (by simpa using hsepFalse)
      rw [← List.cons_append, ← hcons, hread] at hparse
      have hcut := (Passes.ofGap hcomma .outside w).cut_stop rfl (f.text ++ fieldsText last rest)
      have htext : f.text ++ fieldsText last rest = f.beforeName.1 ++ (f.name ++ (f.beforeSign.1 ++
          '=' :: (f.beforeValue.1 ++ (f.value.source ++ (f.afterValue.1 ++ fieldsText last rest))))) := by
        simp [WrittenField.text, WrittenField.raw]
      rw [fieldsText, afterComma, hcut, List.map_cons, ← ih f.afterValue]
      simp only
      rw [htext, hparse]
      simp [WrittenField.field, WrittenField.raw]

/-- Written fields hold no delimiter at the top level but their commas. -/
theorem passes_fieldsText {stop : Char} (hstop : isEnd stop) (hcomma : stop ≠ ',')
    (last : Option Gap) (fields : List WrittenField) :
    Passes stop .outside (fieldsText last fields) .outside := by
  have hsign : ¬(',' = stop ∧ Nesting.outside.isTop) := fun h => hcomma h.1.symm
  induction fields with
  | nil =>
      cases last with
      | none => exact Passes.nil stop .outside
      | some w => exact (Passes.ofGap hstop .outside w).cons hsign
  | cons f rest ih => exact ((f.passes_text hstop).append ih).cons hsign

/-! ## Blocks -/

structure WrittenBlock where
  beforeKind : Gap
  kind : Text
  letter_kind : ∃ c cs, kind = c :: cs ∧ c.isAlpha
  chars_kind : ∀ c ∈ kind, Block.isKindChar c
  afterKind : Gap
  inBraces : Bool
  beforeKey : Gap
  key : Text
  isWord_key : IsWord key
  afterKey : Gap
  fields : List WrittenField
  lastComma : Option Gap

namespace WrittenBlock

def body (b : WrittenBlock) : Text :=
  b.beforeKey.1 ++ (b.key ++ b.afterKey.1) ++ fieldsText b.lastComma b.fields

def opening (b : WrittenBlock) : Char :=
  if b.inBraces then '{' else '('

def closing (b : WrittenBlock) : Char :=
  if b.inBraces then '}' else ')'

def text (b : WrittenBlock) : Text :=
  '@' :: (b.beforeKind.1 ++ (b.kind ++ (b.afterKind.1 ++ b.opening :: (b.body ++ [b.closing]))))

def block (b : WrittenBlock) : Block :=
  ⟨b.kind, b.body⟩

/-- Of a block that was written the type, the key and the fields are read as they were written. -/
theorem reading_block (b : WrittenBlock) :
    b.block.reading = (b.kind, b.key, b.fields.map WrittenField.field) := by
  have hfirst := b.isWord_key.ne_comma_of_mem b.beforeKey b.afterKey
  have hkey := b.isWord_key.trim_gaps b.beforeKey b.afterKey
  have hfields := parse_fieldsText ⟨[], by simp⟩ b.lastComma b.fields
  rw [block, body]
  -- Either nothing stands behind the key, or a comma that ends it.
  cases htext : fieldsText b.lastComma b.fields with
  | nil =>
      rw [htext] at hfields
      rw [List.append_nil, Block.reading_of_no_comma _ hfirst, hkey, ← hfields]
      simp [afterComma, cutAtTop?, Field.parse_of_separators]
  | cons c more =>
      obtain rfl : c = ',' := head_fieldsText c (by rw [htext]; rfl)
      have hcut : cutAtTop? ',' .outside (',' :: more) = some ([], more) :=
        (Passes.nil ',' .outside).cut_stop rfl more
      rw [htext, List.nil_append, afterComma, hcut] at hfields
      rw [Block.reading_of_comma _ hfirst, hkey, ← hfields]

/-- A written key can be cited. -/
theorem isUsableKey_block (b : WrittenBlock) : Entry.isUsableKey b.block.key := by
  have hkey : b.block.key = b.key := congrArg (fun r => r.2.1) b.reading_block
  have hne : b.key.isEmpty = false := by simpa using b.isWord_key.ne_nil
  have hblank : b.key.any Text.isBlank = false := by
    rw [List.any_eq_false]
    intro c hc
    simp [isBlank_of_isWordChar (b.isWord_key.chars c hc)]
  rw [hkey, Entry.isUsableKey, hne, hblank]
  rfl

/-- The header of a written block is read as it was written. -/
theorem header?_text (b : WrittenBlock) (more : Text) :
    Block.header? (b.beforeKind.1 ++ (b.kind ++ (b.afterKind.1 ++ b.opening :: more))) =
      some (b.kind, b.closing, more) := by
  rcases b.letter_kind with ⟨c, cs, hkind, halpha⟩
  have hc : Block.isKindChar c := b.chars_kind c (by rw [hkind]; exact List.mem_cons_self)
  have hstart : ∀ d ∈ (b.kind ++ (b.afterKind.1 ++ b.opening :: more)).head?,
      Text.isAsciiBlank d = false := by
    intro d hd
    obtain rfl : c = d := by simpa [hkind] using hd
    cases hblank : Text.isAsciiBlank c with
    | false => rfl
    | true =>
        rw [Block.isKindChar_of_blank hblank] at hc
        cases hc
  have hopening : Block.isKindChar b.opening = false ∧ Text.isAsciiBlank b.opening = false := by
    rw [opening]
    cases b.inBraces <;> decide
  -- The kind ends at the gap behind it, or at the opening if there is none.
  have htail : ∀ d ∈ (b.afterKind.1 ++ b.opening :: more).head?, Block.isKindChar d = false := by
    rcases b.afterKind with ⟨w, hw⟩
    cases w with
    | nil => simpa using hopening.1
    | cons d ds => simpa using Block.isKindChar_of_blank (hw d List.mem_cons_self)
  have hclosing : Block.closing? b.opening = some b.closing := by
    rw [opening, closing]
    cases b.inBraces <;> rfl
  have hchars := b.chars_kind
  rw [hkind] at hchars hstart ⊢
  have hparts := Block.header?_parts _ (c :: cs) _ (b.opening :: more) b.beforeKind.2 hchars
    b.afterKind.2 hstart htail (by simpa using hopening.2)
  simpa only [halpha, hclosing, if_true, Option.map_some] using hparts

/-- A block that was written ends where it was closed. -/
theorem cutBody_text (b : WrittenBlock) (more : Text) :
    Block.cutBody b.closing (b.body ++ b.closing :: more) = (b.body, more) := by
  -- No part of the body shows the closing delimiter at the top level.
  have hend : isEnd b.closing ∧ b.closing ≠ ',' := by
    rw [closing]
    cases b.inBraces <;> decide
  have hkey := (Passes.ofGap hend.1 .outside b.beforeKey).append
    ((Passes.ofWord hend.1 _ b.isWord_key).append (Passes.ofGap hend.1 _ b.afterKey))
  have hbody : Passes b.closing .outside b.body .outside :=
    hkey.append (passes_fieldsText hend.1 hend.2 b.lastComma b.fields)
  rw [Block.cutBody, hbody.cut_stop rfl]

/-- A written block is read as it was written, whatever stands behind it. -/
theorem scan_text (b : WrittenBlock) (more : Text) :
    Block.scan (b.text ++ more) = b.block :: Block.scan more := by
  have hassoc : b.text ++ more = '@' :: (b.beforeKind.1 ++ (b.kind ++ (b.afterKind.1 ++
      b.opening :: (b.body ++ b.closing :: more)))) := by simp [text]
  rw [hassoc, Block.scan_at (b.header?_text _), cutBody_text]
  rfl

end WrittenBlock

/-! ## Files -/

/-- A file as it is written: free text, and blocks with free text behind each. -/
structure WrittenFile where
  before : FreeText
  parts : List (WrittenBlock × FreeText)

namespace WrittenFile

def blocks (file : WrittenFile) : List WrittenBlock :=
  file.parts.map Prod.fst

def text (file : WrittenFile) : Text :=
  file.before.1 ++ (file.parts.map fun part => part.1.text ++ part.2.1).flatten

/-- The blocks of a file that was written. -/
theorem scan_text (file : WrittenFile) :
    Block.scan file.text = file.blocks.map WrittenBlock.block := by
  rcases file with ⟨before, parts⟩
  rw [text, Block.scan_append_of_not_mem before.2, blocks]
  induction parts with
  | nil => simp [Block.scan]
  | cons part rest ih =>
      rw [List.map_cons, List.flatten_cons, List.append_assoc, WrittenBlock.scan_text,
        Block.scan_append_of_not_mem part.2.2, ih]
      rfl

/-- Reading a file gives what was written: its blocks in order, of each block type, key and fields,
and of all blocks that can hold an entry the first one with each key. -/
theorem read_back (source : Path) (file : WrittenFile) :
    Block.scan file.text = file.blocks.map WrittenBlock.block ∧
      (∀ b ∈ file.blocks, b.block.kind = b.kind ∧ b.block.key = b.key ∧
        b.block.fields = b.fields.map WrittenField.field) ∧
      Entry.parse source file.text =
        (((file.blocks.map WrittenBlock.block).filter fun b => !b.isPseudo).eraseDupsBy
          fun b c => b.key == c.key).map (Entry.ofBlock source) := by
  refine ⟨file.scan_text, fun b _ => ?_, ?_⟩
  · simpa [Block.reading] using b.reading_block
  -- Keys are words, so all blocks of citable types have usable ones.
  · have hkeys : (file.blocks.map WrittenBlock.block).filter
        (fun b => !b.isPseudo && Entry.isUsableKey b.key) =
          (file.blocks.map WrittenBlock.block).filter fun b => !b.isPseudo := by
      refine List.filter_congr fun b hb => ?_
      rcases List.mem_map.1 hb with ⟨w, -, rfl⟩
      rw [w.isUsableKey_block, Bool.and_true]
    rw [Entry.parse, Entry.citable, file.scan_text, hkeys, Entry.firstOfKey_eq_eraseDupsBy]

example : ∃ file : WrittenFile, file.text = "a @Book ( k,t = {x) @y{z}} ,) b".toList := by
  have hvalue : FieldValue.IsWritable (.braced "x) @y{z}".toList) := by
    rw [FieldValue.IsWritable]
    decide
  let none : Gap := ⟨[], List.all_eq_true.1 rfl⟩
  let blank : Gap := ⟨[' '], List.all_eq_true.1 rfl⟩
  let field : WrittenField :=
    ⟨none, ['t'], ⟨by simp, List.all_eq_true.1 rfl⟩, blank, blank, .braced "x) @y{z}".toList,
      hvalue, blank⟩
  let block : WrittenBlock :=
    ⟨none, "Book".toList, ⟨'B', "ook".toList, by decide, by decide⟩, List.all_eq_true.1 rfl, blank,
      false, blank, ['k'], ⟨by simp, List.all_eq_true.1 rfl⟩, none, [field], some none⟩
  exact ⟨⟨⟨"a ".toList, by decide⟩, [(block, ⟨" b".toList, by decide⟩)]⟩, rfl⟩

end WrittenFile

end Bibliography

end CiteIndex
