import CiteIndex.Proofs.Bibliography.FieldParts
import CiteIndex.Proofs.Bibliography.NestingPlaces
import CiteIndex.Proofs.Text.Rounds

/-!
# Places of fields

The reader of fields once more, reading in place: it goes from position to position in the bytes of
a text and cuts name, value and source text of each field out of them. Each round ends behind its
start, also where it finds no field, and on the bytes of a text no cut is inside a character. The
fields stand one behind the other.

- `Field.roundAt`, `Field.reader`: one round of the reader in place, and all of them
- `Field.roundAt_lt`: a round ends behind its start
- `Field.ReadsAt`, `Field.readsAt`: a field at a position on the bytes of a text
- `Field.parse_places`: where the fields of a text are, and what they are made of
-/

namespace CiteIndex

namespace Bibliography

open InPlace

open Text (utf8)

inductive ValueBytes where
  | braced (bytes : List UInt8)
  | quoted (bytes : List UInt8)
  | bare (bytes : List UInt8)
  deriving DecidableEq, Repr

def FieldValue.bytes : FieldValue → ValueBytes
  | .braced t => .braced (utf8 t)
  | .quoted t => .quoted (utf8 t)
  | .bare t => .bare (utf8 t)

namespace Field

/-! ## The reader in place -/

/-- A field where it stands, from the first byte of its name to behind the last of its value. -/
structure Place where
  start : Nat
  stop : Nat
  name : List UInt8
  value : ValueBytes
  raw : List UInt8
  deriving DecidableEq, Repr

def Place.behind (before : Text) (f : Field) : Place :=
  ⟨(utf8 before).length, (utf8 (before ++ f.raw)).length, utf8 f.name, f.value.bytes, utf8 f.raw⟩

def valueAt (bytes : List UInt8) (start : Nat) : Except Fault (Option (ValueBytes × Nat)) :=
  match peek? bytes start with
  | none => .ok none
  | some c =>
    if c = '{' then do
      match ← search groupStep 0 start (bytes.drop start) with
      | some close =>
        let inside ← slice bytes (start + 1) close
        return some (.braced inside, close + 1)
      | none => return none
    else if c = '"' then do
      match ← search quoteStep 0 (start + 1) (bytes.drop (start + 1)) with
      | some close =>
        let inside ← slice bytes (start + 1) close
        return some (.quoted inside, close + 1)
      | none => return none
    else
      let stop := skip isBareChar bytes start
      if start < stop then do
        let word ← slice bytes start stop
        return some (.bare word, stop)
      else .ok none

/-- The position behind the next top-level comma, or the end. -/
def nextFieldAt (bytes : List UInt8) (start : Nat) : Except Fault Nat := do
  match ← search (topStep ',') .outside start (bytes.drop start) with
  | some comma => return comma + 1
  | none => return bytes.length

/-- The field at a position, if a well-formed one stands there, and the position of the next one. -/
def fieldAt (bytes : List UInt8) (start : Nat) : Except Fault (Option Place × Nat) := do
  let nameEnd := skip isNameChar bytes start
  let name ← slice bytes start nameEnd
  let sign := skip Text.isAsciiBlank bytes nameEnd
  if name = [] ∨ peek? bytes sign ≠ some '=' then
    let next ← nextFieldAt bytes sign
    return (none, next)
  else
    let valueStart := skip Text.isAsciiBlank bytes (sign + 1)
    match ← valueAt bytes valueStart with
    | none =>
      let next ← nextFieldAt bytes valueStart
      return (none, next)
    | some (value, stop) =>
      let raw ← slice bytes start stop
      let next ← nextFieldAt bytes stop
      return (some ⟨start, stop, name, value, raw⟩, next)

/-- One round from a position on. There is none where nothing but separators is left. -/
def roundAt (bytes : List UInt8) (pos : Nat) : Except Fault (Option (Option Place × Nat)) :=
  let start := skip isSeparator bytes pos
  if bytes.length ≤ start then .ok none else some <$> fieldAt bytes start

/-! ## Progress -/

theorem bounds_of_peek? {bytes : List UInt8} {i : Nat} {c : Char} (h : peek? bytes i = some c) :
    i < bytes.length := by
  obtain ⟨b, hb, -⟩ := Option.map_eq_some_iff.1 h
  exact (List.getElem?_eq_some_iff.1 hb).1

theorem bounds_of_search_drop {σ : Type} {step : σ → Char → Except Fault (Option σ)} {s : σ}
    {i j : Nat} {bytes : List UInt8} (hi : i ≤ bytes.length)
    (h : search step s i (bytes.drop i) = .ok (some j)) : i ≤ j ∧ j < bytes.length := by
  have hbounds := bounds_of_search h
  rw [List.length_drop] at hbounds
  omega

/-- The next field begins further on, unless the text is at its end. -/
theorem bounds_of_nextFieldAt {bytes : List UInt8} {start next : Nat} (hstart : start ≤ bytes.length)
    (h : nextFieldAt bytes start = .ok next) :
    start ≤ next ∧ next ≤ bytes.length ∧ (start < bytes.length → start < next) := by
  obtain ⟨found, hfound, h⟩ := bind_eq_ok h
  cases found with
  | some comma =>
      have hbounds := bounds_of_search_drop hstart hfound
      cases h
      omega
  | none =>
      cases h
      omega

/-- A value takes at least one byte and ends inside the text. -/
theorem bounds_of_valueAt {bytes : List UInt8} {start stop : Nat} {value : ValueBytes}
    (h : valueAt bytes start = .ok (some (value, stop))) : start < stop ∧ stop ≤ bytes.length := by
  rw [valueAt] at h
  split at h
  · cases h
  · rename_i c hpeek
    have hstart := bounds_of_peek? hpeek
    split at h
    · -- A group.
      obtain ⟨found, hfound, h⟩ := bind_eq_ok h
      cases found with
      | none => cases h
      | some close =>
          obtain ⟨inside, -, h⟩ := bind_eq_ok h
          have hbounds := bounds_of_search_drop (Nat.le_of_lt hstart) hfound
          cases h
          omega
    · split at h
      · -- A string in quotes.
        obtain ⟨found, hfound, h⟩ := bind_eq_ok h
        cases found with
        | none => cases h
        | some close =>
            obtain ⟨inside, -, h⟩ := bind_eq_ok h
            have hbounds := bounds_of_search_drop hstart hfound
            cases h
            omega
      · -- A bare value, which is not empty.
        simp only at h
        split at h
        · rename_i hlt
          obtain ⟨word, -, h⟩ := bind_eq_ok h
          have hle := skip_le isBareChar (Nat.le_of_lt hstart)
          cases h
          exact ⟨hlt, hle⟩
        · cases h

/-- Every round goes on by at least one byte and stays inside the text. -/
theorem bounds_of_fieldAt {bytes : List UInt8} {start next : Nat} {found : Option Place}
    (hstart : start < bytes.length) (h : fieldAt bytes start = .ok (found, next)) :
    start < next ∧ next ≤ bytes.length := by
  have hname := le_skip isNameChar bytes start
  have hnameEnd := skip_le isNameChar (Nat.le_of_lt hstart)
  have hsign := le_skip Text.isAsciiBlank bytes (skip isNameChar bytes start)
  have hsignEnd := skip_le Text.isAsciiBlank hnameEnd
  obtain ⟨name, -, h⟩ := bind_eq_ok h
  generalize skip Text.isAsciiBlank bytes (skip isNameChar bytes start) = sign at *
  simp only at h
  split at h
  · -- Name or sign is missing.
    obtain ⟨next', hnext, h⟩ := bind_eq_ok h
    have hbounds := bounds_of_nextFieldAt hsignEnd hnext
    cases h
    omega
  · rename_i hfield
    have hequals : peek? bytes sign = some '=' := by
      by_contra hne
      exact hfield (.inr hne)
    have hsignLt := bounds_of_peek? hequals
    have hvalue := le_skip Text.isAsciiBlank bytes (sign + 1)
    have hvalueEnd := skip_le Text.isAsciiBlank (i := sign + 1) hsignLt
    obtain ⟨value?, hvalueAt, h⟩ := bind_eq_ok h
    cases value? with
    | none =>
        obtain ⟨next', hnext, h⟩ := bind_eq_ok h
        have hbounds := bounds_of_nextFieldAt hvalueEnd hnext
        cases h
        omega
    | some found =>
        have hstop := bounds_of_valueAt hvalueAt
        obtain ⟨raw, -, h⟩ := bind_eq_ok h
        obtain ⟨next', hnext, h⟩ := bind_eq_ok h
        have hbounds := bounds_of_nextFieldAt hstop.2 hnext
        cases h
        omega

/-- A round goes on behind its start, and not behind the end of the text. -/
theorem roundAt_lt {bytes : List UInt8} {pos next : Nat} {found : Option Place}
    (h : roundAt bytes pos = .ok (some (found, next))) : pos < next ∧ next ≤ bytes.length := by
  have hpos := le_skip isSeparator bytes pos
  rw [roundAt] at h
  split at h
  · cases h
  · rename_i hstart
    cases hfield : fieldAt bytes (skip isSeparator bytes pos) with
    | error e =>
        rw [hfield] at h
        cases h
    | ok read =>
        rw [hfield] at h
        cases h
        have hbounds := bounds_of_fieldAt (Nat.lt_of_not_le hstart) hfield
        omega

def reader (bytes : List UInt8) : Rounds Place where
  round := roundAt bytes
  size := bytes.length
  progress _ _ _ h := roundAt_lt h

/-! ## The parts of a round on the bytes of a text -/

theorem isAsciiClass_isSeparator : IsAsciiClass isSeparator :=
  isAsciiClass_isAsciiBlank.or (isAsciiClass_eq (by decide))

theorem isAsciiClass_isNameChar : IsAsciiClass isNameChar :=
  ((((((isAsciiClass_isAsciiBlank.or (isAsciiClass_eq (by decide))).or
    (isAsciiClass_eq (by decide))).or (isAsciiClass_eq (by decide))).or
    (isAsciiClass_eq (by decide))).or (isAsciiClass_eq (by decide)))).not

theorem isAsciiClass_isBareChar : IsAsciiClass isBareChar :=
  (((((isAsciiClass_isAsciiBlank.or (isAsciiClass_eq (by decide))).or
    (isAsciiClass_eq (by decide))).or (isAsciiClass_eq (by decide))).or
    (isAsciiClass_eq (by decide)))).not

/-- The next field begins where the text behind the next top-level comma does. -/
theorem nextFieldAt_utf8 (s t : Text) :
    ∃ front, t = front ++ afterComma t ∧
      nextFieldAt (utf8 (s ++ t)) (utf8 s).length = .ok (utf8 (s ++ front)).length := by
  have hcomma : ','.toNat < 128 := by decide
  have hsearch := search_topStep hcomma .outside (utf8 s).length t
  rw [nextFieldAt, drop_utf8, hsearch, ok_bind, afterComma]
  cases hcut : cutAtTop? ',' .outside t with
  | none => exact ⟨t, by simp, rfl⟩
  | some cut =>
      obtain ⟨heq, -, -⟩ := eq_append_of_cutAtTop? hcut
      have hnext := length_utf8_ascii (c := ',') (by decide) (s ++ cut.1)
      refine ⟨cut.1 ++ [','], by simpa using heq, ?_⟩
      rw [← List.append_assoc, hnext, Text.utf8_append s cut.1, List.length_append]
      rfl

/-- The search for the brace that closes a group ends where the text is cut. -/
theorem search_group (s t : Text) :
    search groupStep 0 (utf8 s).length ((utf8 (s ++ '{' :: t)).drop (utf8 s).length) =
      .ok ((cutGroup? 0 t).map fun cut => (utf8 (s ++ '{' :: cut.1)).length) := by
  rw [drop_utf8, search_utf8_cons isAsciiSearch_groupStep]
  refine (search_groupStep 0 _ t).trans ?_
  congr 2
  funext cut
  have hbytes : utf8 ('{' :: cut.1) = utf8 ['{'] ++ utf8 cut.1 := Text.utf8_append ['{'] cut.1
  rw [Text.utf8_append s, hbytes, List.length_append, List.length_append, Nat.add_assoc]

/-- The search for the quote that closes a string ends where the text is cut. -/
theorem search_quote (s t : Text) :
    search quoteStep 0 ((utf8 s).length + 1) ((utf8 (s ++ '"' :: t)).drop ((utf8 s).length + 1)) =
      .ok ((cutQuote? 0 t).map fun cut => (utf8 (s ++ '"' :: cut.1)).length) := by
  have hdrop := drop_utf8 (s ++ ['"']) t
  rw [List.append_assoc, List.singleton_append, length_utf8_ascii (by decide)] at hdrop
  rw [hdrop, search_quoteStep, ← length_utf8_ascii (c := '"') (by decide)]
  congr 2
  funext cut
  rw [← List.length_append, ← Text.utf8_append, List.append_assoc, List.singleton_append]

/-- The inside of a value between its delimiters, and the position behind them. -/
theorem slice_inside {first last : Char} (hfirst : first.toNat < 128) (hlast : last.toNat < 128)
    (s inside rest : Text) :
    slice (utf8 (s ++ first :: (inside ++ last :: rest))) ((utf8 s).length + 1)
        (utf8 (s ++ first :: inside)).length = .ok (utf8 inside) ∧
      (utf8 (s ++ first :: inside)).length + 1 = (utf8 (s ++ (first :: inside ++ [last]))).length := by
  have hslice := slice_utf8 (s ++ [first]) inside (last :: rest)
  have hstop := length_utf8_ascii hlast (s ++ first :: inside)
  rw [length_utf8_ascii hfirst] at hslice
  simp only [List.append_assoc, List.singleton_append] at hslice hstop
  exact ⟨hslice, hstop.symm⟩

/-- The value that is read at a position is the one at the start of the rest of the text. -/
theorem valueAt_utf8 (s t : Text) :
    valueAt (utf8 (s ++ t)) (utf8 s).length =
      .ok ((readValue? t).map fun read =>
        (read.1.bytes, (utf8 (s ++ read.1.source)).length)) := by
  cases t with
  | nil =>
      have hend := peek?_utf8_end s
      rw [List.append_nil, valueAt, hend]
      rfl
  | cons c cs =>
      obtain ⟨x, hx, hc⟩ := peek?_utf8_cons s c cs
      -- The byte is compared as `x`, which is no delimiter unless the character is that one.
      have hsame : ∀ d : Char, d.toNat < 128 → (x = d ↔ c = d) := by
        intro d hd
        rcases hc with rfl | ⟨hx, hc⟩
        · rfl
        · exact iff_of_false (ne_of_beyond hx hd) (ne_of_beyond hc hd)
      rw [valueAt, hx, readValue?]
      simp only [hsame '{' (by decide), hsame '"' (by decide)]
      split
      · -- A group.
        subst c
        rw [search_group, ok_bind]
        cases hcut : cutGroup? 0 cs with
        | none => rfl
        | some cut =>
            have hopen : '{'.toNat < 128 := by decide
            have hclose : '}'.toNat < 128 := by decide
            obtain ⟨hslice, hstop⟩ := slice_inside hopen hclose s cut.1 cut.2
            rw [← eq_append_of_cutGroup? hcut] at hslice
            simp only [Option.map_some, hslice, ok_bind, hstop]
            rfl
      · split
        · subst c
          -- A string in quotes.
          rw [search_quote, ok_bind]
          cases hcut : cutQuote? 0 cs with
          | none => rfl
          | some cut =>
              have hquote : '"'.toNat < 128 := by decide
              obtain ⟨hslice, hstop⟩ := slice_inside hquote hquote s cut.1 cut.2
              rw [← eq_append_of_cutQuote? hcut] at hslice
              simp only [Option.map_some, hslice, ok_bind, hstop]
              rfl
        · -- A bare value, if the character can begin one.
          have hskip := skip_utf8 isAsciiClass_isBareChar s (c :: cs)
          simp only [hskip]
          by_cases hbare : isBareChar c
          · have hlt := length_utf8_lt s c (cs.takeWhile isBareChar)
            have hslice := slice_utf8 s ((c :: cs).takeWhile isBareChar)
              ((c :: cs).dropWhile isBareChar)
            rw [List.takeWhile_append_dropWhile] at hslice
            rw [← List.takeWhile_cons_of_pos hbare] at hlt
            rw [if_pos hlt, hslice, ok_bind, if_pos hbare]
            rfl
          · rw [List.takeWhile_cons_of_neg hbare, List.append_nil, if_neg (Nat.lt_irrefl _),
              if_neg hbare]
            rfl

/-- What is read at a position behind a part of a text is what is read from the rest: the field, if
there is one, and where to go on. -/
def ReadsAt (s t : Text) : Prop :=
  ∃ front, t = front ++ (read t).2 ∧ (∀ f ∈ (read t).1, f.raw <+: front) ∧
    fieldAt (utf8 (s ++ t)) (utf8 s).length =
      .ok ((read t).1.map (Place.behind s), (utf8 (s ++ front)).length)

/-- A round without name or sign finds no field and goes on behind the next comma. -/
theorem readsAt_malformed (s : Text) {name gap rest : Text} (hname : ∀ c ∈ name, isNameChar c)
    (hgap : ∀ c ∈ gap, Text.isAsciiBlank c) (hrest : ∀ c ∈ rest.head?, Text.isAsciiBlank c = false)
    (hstop : ∀ c ∈ (gap ++ rest).head?, isNameChar c = false)
    (hbad : name = [] ∨ rest.head? ≠ some '=') :
    ReadsAt s (name ++ (gap ++ rest)) := by
  have hskip := skip_utf8_stop isAsciiClass_isNameChar hname s hstop
  have hskipGap := skip_utf8_stop isAsciiClass_isAsciiBlank hgap (s ++ name) hrest
  have hslice := slice_utf8 s name (gap ++ rest)
  obtain ⟨front, heq, hnext⟩ := nextFieldAt_utf8 (s ++ (name ++ gap)) rest
  simp only [List.append_assoc] at hskipGap hnext
  have hnone : utf8 name = [] ∨ peek? (utf8 (s ++ (name ++ (gap ++ rest))))
      (utf8 (s ++ (name ++ gap))).length ≠ some '=' := by
    rcases hbad with rfl | hbad
    · exact .inl rfl
    · have hpeek := peek?_utf8_ne (by decide) (s ++ (name ++ gap)) hbad
      simp only [List.append_assoc] at hpeek
      exact .inr hpeek
  rw [ReadsAt, read_malformed hname hgap hrest hstop hbad]
  refine ⟨name ++ (gap ++ front), ?_, nofun, ?_⟩
  · simp only [List.append_assoc, ← heq]
  · simp only [fieldAt, hskip, hslice, ok_bind, hskipGap, if_pos hnone, hnext]
    rfl

/-- A round with name and sign finds the field whose value stands behind the sign. -/
theorem readsAt_field (s : Text) {name gap gap' value : Text} (hname : ∀ c ∈ name, isNameChar c)
    (hne : name ≠ []) (hgap : ∀ c ∈ gap, Text.isAsciiBlank c)
    (hgap' : ∀ c ∈ gap', Text.isAsciiBlank c)
    (hvalue : ∀ c ∈ value.head?, Text.isAsciiBlank c = false) :
    ReadsAt s (name ++ (gap ++ '=' :: (gap' ++ value))) := by
  -- The positions of name, gap, sign and value, each behind the parts before it.
  have hskip := skip_utf8_stop isAsciiClass_isNameChar hname s
    (not_isNameChar_of_sign hgap (gap' ++ value))
  have hskipGap := skip_utf8_stop isAsciiClass_isAsciiBlank hgap (s ++ name)
    (t := '=' :: (gap' ++ value)) (by simp [Text.isAsciiBlank])
  have hbehind := length_utf8_ascii (c := '=') (by decide) (s ++ (name ++ gap))
  have hskipGap' := skip_utf8_stop isAsciiClass_isAsciiBlank hgap'
    (s ++ (name ++ (gap ++ ['=']))) hvalue
  have hslice := slice_utf8 s name (gap ++ '=' :: (gap' ++ value))
  have hsign := peek?_utf8_ascii (c := '=') (by decide) (s ++ (name ++ gap)) (gap' ++ value)
  have hread := valueAt_utf8 (s ++ (name ++ (gap ++ '=' :: gap'))) value
  simp only [List.append_assoc, List.cons_append, List.nil_append] at hskipGap hskipGap'
  simp only [List.append_assoc, List.cons_append] at hbehind hsign hread
  have hfield : ¬(utf8 name = [] ∨
      peek? (utf8 (s ++ (name ++ (gap ++ '=' :: (gap' ++ value)))))
        (utf8 (s ++ (name ++ gap))).length ≠ some '=') := by
    rintro (hnil | hno)
    · exact Text.utf8_ne_nil hne hnil
    · exact hno hsign
  rw [ReadsAt, read_field hname hne hgap hgap' hvalue]
  cases hcut : readValue? value with
  | none =>
      rw [hcut] at hread
      -- Without a value the round goes on behind the next comma.
      obtain ⟨front, heq, hnext⟩ := nextFieldAt_utf8 (s ++ (name ++ (gap ++ '=' :: gap'))) value
      simp only [List.append_assoc, List.cons_append] at hnext
      refine ⟨name ++ (gap ++ '=' :: (gap' ++ front)), ?_, ?_, ?_⟩
      · simp only [List.append_assoc, List.cons_append, ← heq]
      · rintro f hf
        cases hf
      · simp only [fieldAt, hskip, hslice, ok_bind, hskipGap, if_neg hfield, ← hbehind,
          hskipGap', hread, Option.map_none, hnext]
        rfl
  | some found =>
      obtain ⟨v, rest⟩ := found
      rw [hcut] at hread
      -- The field ends with its value, and the round goes on behind the comma after that.
      obtain rfl := eq_append_of_readValue? hcut
      have hraw := slice_utf8 s (name ++ gap ++ '=' :: gap' ++ v.source) rest
      obtain ⟨front, heq, hnext⟩ :=
        nextFieldAt_utf8 (s ++ (name ++ (gap ++ '=' :: (gap' ++ v.source)))) rest
      simp only [List.append_assoc, List.cons_append] at hraw hnext
      refine ⟨name ++ (gap ++ '=' :: (gap' ++ (v.source ++ front))), ?_, ?_, ?_⟩
      · simp only [List.append_assoc, List.cons_append, ← heq]
      · rintro f hf
        obtain rfl := Option.some.inj hf
        exact ⟨front, by simp⟩
      · simp only [fieldAt, hskip, hslice, ok_bind, hskipGap, if_neg hfield, ← hbehind,
          hskipGap', hread, Option.map_some, hraw, hnext, Place.behind, List.append_assoc,
          List.cons_append]
        rfl

theorem readsAt (s t : Text) : ReadsAt s t := by
  cases round t with
  | field hname hne hgap hgap' hvalue => exact readsAt_field s hname hne hgap hgap' hvalue
  | malformed hname hgap hrest hstop hbad => exact readsAt_malformed s hname hgap hrest hstop hbad

/-! ## All rounds -/

theorem roundAt_of_separators (s : Text) {sep : Text} (hsep : ∀ c ∈ sep, isSeparator c) :
    roundAt (utf8 (s ++ sep)) (utf8 s).length = .ok none := by
  have hskip := skip_utf8_stop isAsciiClass_isSeparator hsep s (t := []) (by simp)
  rw [List.append_nil] at hskip
  rw [roundAt, hskip, if_pos (Nat.le_refl _)]

theorem roundAt_of_stop (s : Text) {sep t : Text} (hsep : ∀ c ∈ sep, isSeparator c) (hne : t ≠ [])
    (hstop : ∀ c ∈ t.head?, isSeparator c = false) :
    ∃ front, t = front ++ (read t).2 ∧ (∀ f ∈ (read t).1, f.raw <+: front) ∧
      roundAt (utf8 (s ++ (sep ++ t))) (utf8 s).length =
        .ok (some ((read t).1.map (Place.behind (s ++ sep)), (utf8 (s ++ (sep ++ front))).length)) := by
  obtain ⟨front, heq, hraw, hfield⟩ := readsAt (s ++ sep) t
  have hlt : (utf8 (s ++ sep)).length < (utf8 (s ++ (sep ++ t))).length := by
    obtain ⟨c, cs, rfl⟩ := List.exists_cons_of_ne_nil hne
    rw [← List.append_assoc]
    exact length_utf8_lt (s ++ sep) c cs
  refine ⟨front, heq, hraw, ?_⟩
  simp only [List.append_assoc] at hfield
  rw [roundAt, skip_utf8_stop isAsciiClass_isSeparator hsep s hstop, if_neg (Nat.not_le.2 hlt),
    hfield]
  rfl

/-- A place is that of a field: its source text stands there. -/
def Stands (t : Text) (p : Place) (f : Field) : Prop :=
  ∃ before after, t = before ++ (f.raw ++ after) ∧ p = .behind before f

/-- Behind any part of a text, a round of the reader ends where the fields are read on. -/
theorem reader_reads (s t : Text) :
    (reader (utf8 (s ++ t))).Reads parse (Stands (s ++ t)) Place.start Place.stop s t := by
  obtain ⟨sep, rest, rfl, hsep, hstop⟩ := Text.exists_stop isSeparator t
  by_cases hne : rest = []
  · subst hne
    rw [List.append_nil]
    exact .done (roundAt_of_separators s hsep) (parse_of_separators hsep)
  · obtain ⟨front, heq, hraw, hround⟩ := roundAt_of_stop s hsep hne hstop
    have hitems := parse_of_stop rest hsep hne hstop
    have hlt := length_read_lt hne
    generalize (read rest).1 = found at *
    generalize (read rest).2 = behind at *
    subst heq
    have hfront : sep ++ front ≠ [] := by
      intro hnil
      rw [(List.append_eq_nil_iff.1 hnil).2, List.nil_append] at hlt
      exact Nat.lt_irrefl _ hlt
    cases found with
    | none =>
        rw [← List.append_assoc sep] at hround hitems ⊢
        exact .skipped hfront hround hitems
    | some f =>
        obtain ⟨more, rfl⟩ := hraw f rfl
        have hstands : Stands (s ++ (sep ++ (f.raw ++ more ++ behind))) (.behind (s ++ sep) f) f :=
          ⟨s ++ sep, more ++ behind, by simp, rfl⟩
        rw [← List.append_assoc sep] at hround hitems hstands ⊢
        refine .found hfront hround hitems hstands (length_utf8_le s sep) (.inl ?_)
        have hle := length_utf8_le (s ++ sep ++ f.raw) more
        simpa only [Place.behind, List.append_assoc] using hle

/-- The reader in place reads every text to the end without a fault, going forward in each round.
It finds the fields of the text, each where its source text stands and behind the one before, and
each as it would be read from that source text alone. -/
theorem parse_places (t : Text) :
    ∃ places, (reader (utf8 t)).run 0 = .ok places ∧ List.Forall₂ (Stands t) places (parse t) ∧
      (places.Pairwise fun p q => p.stop ≤ q.start) ∧ (∀ f ∈ parse t, f.IsProper) ∧
      ∀ pos found next, roundAt (utf8 t) pos = .ok (some (found, next)) →
        pos < next ∧ next ≤ (utf8 t).length := by
  have hreads : ∀ s rest, t = s ++ rest →
      (reader (utf8 t)).Reads parse (Stands t) Place.start Place.stop s rest := by
    rintro s rest rfl
    exact reader_reads s rest
  obtain ⟨places, hplaces, hstands, -, hsorted⟩ := Rounds.run_reads hreads [] t rfl
  exact ⟨places, hplaces, hstands, hsorted, fun f hf => isProper_of_mem_parse hf,
    fun pos found next h => roundAt_lt h⟩

end Field

end Bibliography

end CiteIndex
