import CiteIndex.Bibliography.Nesting

/-!
# Fields

Inside a block, after the key, stand `name = value` pairs between commas. Reading them never
fails: what is no such pair is passed over up to the next top-level comma.

- `Field.read`: one round of reading, at a character that is neither blank nor comma
- `Field.parse`: all fields of a text, in order
-/

namespace CiteIndex

namespace Bibliography

/-- A value as written, without its outer delimiters. -/
inductive FieldValue where
  | braced (text : Text)
  | quoted (text : Text)
  /-- A number or the name of a macro. -/
  | bare (text : Text)
  deriving DecidableEq, Repr

namespace FieldValue

def text : FieldValue → Text
  | .braced t => t
  | .quoted t => t
  | .bare t => t

def delimited? : FieldValue → Option Text
  | .braced t => some t
  | .quoted t => some t
  | .bare _ => none

def source : FieldValue → Text
  | .braced t => '{' :: t ++ ['}']
  | .quoted t => '"' :: t ++ ['"']
  | .bare t => t

end FieldValue

structure Field where
  name : Text
  value : FieldValue
  /-- The source text from the first character of the name to the last of the value. -/
  raw : Text
  deriving DecidableEq, Repr

namespace Field

/-! ## Values -/

def isBareChar (c : Char) : Bool :=
  !(Text.isAsciiBlank c || c == ',' || c == '#' || c == '}' || c == '"')

def readValue? : Text → Option (FieldValue × Text)
  | [] => none
  | c :: cs =>
    if c = '{' then (cutGroup? 0 cs).map fun cut => (.braced cut.1, cut.2)
    else if c = '"' then (cutQuote? 0 cs).map fun cut => (.quoted cut.1, cut.2)
    else if isBareChar c then
      some (.bare ((c :: cs).takeWhile isBareChar), (c :: cs).dropWhile isBareChar)
    else none

/-! ## One field -/

def isSeparator (c : Char) : Bool :=
  Text.isAsciiBlank c || c == ','

def isNameChar (c : Char) : Bool :=
  !(Text.isAsciiBlank c || c == '=' || c == ',' || c == '{' || c == '}' || c == '"')

/-- The field that stands at the start of a text, or nothing if there is none that is well
formed, and the text after the next top-level comma. -/
def read (t : Text) : Option Field × Text :=
  let name := t.takeWhile isNameChar
  let afterName := t.dropWhile isNameChar
  match name, Text.skipBlanks afterName with
  | c :: cs, '=' :: afterSign =>
    match readValue? (Text.skipBlanks afterSign) with
    | some (value, rest) =>
      let raw := (c :: cs) ++ afterName.takeWhile Text.isAsciiBlank ++
        '=' :: afterSign.takeWhile Text.isAsciiBlank ++ value.source
      (some ⟨c :: cs, value, raw⟩, afterComma rest)
    | none => (none, afterComma (Text.skipBlanks afterSign))
  | _, rest => (none, afterComma rest)

/-! ## Progress -/

theorem length_dropWhile_le (p : Char → Bool) (t : Text) :
    (t.dropWhile p).length ≤ t.length :=
  (List.dropWhile_sublist p).length_le

theorem length_lt_of_readValue? {t rest : Text} {value : FieldValue}
    (h : readValue? t = some (value, rest)) : rest.length < t.length := by
  cases t with
  | nil => cases h
  | cons c cs =>
    rw [readValue?] at h
    split at h
    · obtain ⟨cut, hcut, heq⟩ := Option.map_eq_some_iff.1 h
      cases heq
      exact Nat.lt_succ_of_lt (length_lt_of_cutGroup? hcut)
    · split at h
      · obtain ⟨cut, hcut, heq⟩ := Option.map_eq_some_iff.1 h
        cases heq
        exact Nat.lt_succ_of_lt (length_lt_of_cutQuote? hcut)
      · split at h
        · rename_i hbare
          cases h
          rw [List.dropWhile_cons_of_pos hbare]
          exact Nat.lt_succ_of_le (length_dropWhile_le _ _)
        · cases h

/-- A round takes something of the text even if it finds no field. -/
theorem length_read_lt {t : Text} (h : t ≠ []) : (read t).2.length < t.length := by
  have hname := length_dropWhile_le isNameChar t
  have hblank := length_dropWhile_le Text.isAsciiBlank (t.dropWhile isNameChar)
  unfold read
  simp only
  split
  · rename_i afterSign _ heq
    have hsign := length_dropWhile_le Text.isAsciiBlank afterSign
    simp only [Text.skipBlanks] at heq
    rw [heq, List.length_cons] at hblank
    split
    · rename_i hvalue
      have := length_lt_of_readValue? hvalue
      have := length_afterComma_le ‹Text›
      simp only [Text.skipBlanks] at *
      omega
    · have := length_afterComma_le (Text.skipBlanks afterSign)
      simp only [Text.skipBlanks] at *
      omega
  · by_cases hrest : Text.skipBlanks (t.dropWhile isNameChar) = []
    · rw [hrest]
      exact Nat.lt_of_le_of_lt (length_afterComma_le []) (List.length_pos_iff.2 h)
    · have := length_afterComma_lt hrest
      simp only [Text.skipBlanks] at *
      omega

/-! ## All fields -/

def parse (t : Text) : List Field :=
  match _rest : t.dropWhile isSeparator with
  | [] => []
  | c :: cs =>
    let round := read (c :: cs)
    round.1.toList ++ parse round.2
termination_by t.length
decreasing_by
  have hle := length_dropWhile_le isSeparator t
  have hlt := length_read_lt (List.cons_ne_nil c cs)
  rw [_rest] at hle
  omega

end Field

end Bibliography

end CiteIndex
