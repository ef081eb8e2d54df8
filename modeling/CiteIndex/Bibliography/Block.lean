import CiteIndex.Bibliography.Field

/-!
# Blocks

A bibliography file is a sequence of blocks `@type{...}` or `@type(...)` with free text between
them. A block ends at its closing delimiter outside inner braces and quotes, so an at sign or a
brace inside a value never ends it early. A block that is never closed ends before the next line
that begins with an at sign.

- `Block.header?`: type and opening delimiter after an at sign
- `Block.read?`: the block after an at sign
- `Block.scan`: all blocks of a file, in order
-/

namespace CiteIndex

namespace Bibliography

/-- A block, without its outer delimiters. -/
structure Block where
  kind : Text
  body : Text
  deriving DecidableEq, Repr

namespace Block

/-! ## Parts of a block -/

def pseudoKinds : List Text :=
  ["comment".toList, "string".toList, "preamble".toList]

def isPseudo (b : Block) : Bool :=
  pseudoKinds.any fun kind => b.kind.sameIgnoringCase kind

/-- The citation key: the body up to its first comma, trimmed. -/
def key (b : Block) : Text :=
  Text.trim (b.body.takeWhile (· != ','))

def fields (b : Block) : List Field :=
  match Text.cutAt? (· == ',') b.body with
  | some (_, rest) => Field.parse rest
  | none => []

/-! ## Reading a block -/

/-- A character that a block type can hold after its first letter. -/
def isKindChar (c : Char) : Bool :=
  c.isAlphanum || c == '_' || c == '-'

def closing? (c : Char) : Option Char :=
  if c = '{' then some '}' else if c = '(' then some ')' else none

/-- The type that stands at the start of a text before an opening delimiter, the delimiter that
closes the block, and the text after the opening one. -/
def header? (t : Text) : Option (Text × Char × Text) :=
  let start := Text.skipBlanks t
  match start.takeWhile isKindChar, Text.skipBlanks (start.dropWhile isKindChar) with
  | c :: cs, delimiter :: rest =>
    if c.isAlpha then (closing? delimiter).map fun close => (c :: cs, close, rest) else none
  | _, _ => none

/-- What stands before the first line feed that an at sign follows, and the text from that at
sign on. -/
def cutAtLine : Text → Text × Text
  -- Without such a line feed the whole text stands before.
  | [] => ([], [])
  | '\n' :: '@' :: cs => ([], '@' :: cs)
  | c :: cs => Text.consLeft c (cutAtLine cs)

/-- The body of a block that `close` closes, and the text after the block. -/
def cutBody (close : Char) (t : Text) : Text × Text :=
  match cutAtTop? close .outside t with
  | some cut => cut
  | none => cutAtLine t

def read? (t : Text) : Option (Block × Text) :=
  (header? t).map fun (kind, close, rest) =>
    let cut := cutBody close rest
    (⟨kind, cut.1⟩, cut.2)

/-! ## Progress -/

theorem length_lt_of_header? {t kind rest : Text} {close : Char}
    (h : header? t = some (kind, close, rest)) : rest.length < t.length := by
  have hstart := Field.length_dropWhile_le Text.isAsciiBlank t
  have hkind := Field.length_dropWhile_le isKindChar (Text.skipBlanks t)
  have hblank := Field.length_dropWhile_le Text.isAsciiBlank
    ((Text.skipBlanks t).dropWhile isKindChar)
  unfold header? at h
  simp only at h
  split at h
  · rename_i _ heq
    split at h
    · obtain ⟨_, _, hclose⟩ := Option.map_eq_some_iff.1 h
      cases hclose
      simp only [Text.skipBlanks] at *
      rw [heq, List.length_cons] at hblank
      omega
    · cases h
  · cases h

theorem length_cutAtLine_le (t : Text) : (cutAtLine t).2.length ≤ t.length := by
  fun_induction cutAtLine t with
  | case1 => exact Nat.le_refl _
  | case2 cs => simp
  | case3 c cs _ ih => exact Nat.le_succ_of_le ih

theorem length_cutBody_le (close : Char) (t : Text) : (cutBody close t).2.length ≤ t.length := by
  unfold cutBody
  split
  · rename_i cut hcut
    obtain ⟨before, rest⟩ := cut
    exact Nat.le_of_lt (length_lt_of_cutAtTop? hcut)
  · exact length_cutAtLine_le t

/-- Reading a block takes something of the text, which is why reading all of them ends. -/
theorem length_lt_of_read? {t rest : Text} {b : Block} (h : read? t = some (b, rest)) :
    rest.length < t.length := by
  obtain ⟨⟨kind, close, body⟩, hheader, heq⟩ := Option.map_eq_some_iff.1 h
  cases heq
  exact Nat.lt_of_le_of_lt (length_cutBody_le close body) (length_lt_of_header? hheader)

/-! ## All blocks -/

def scan : Text → List Block
  | [] => []
  | c :: cs =>
    if c = '@' then
      match _hread : read? cs with
      | some (b, rest) => b :: scan rest
      | none => scan cs
    else scan cs
termination_by t => t.length
decreasing_by
  · have := length_lt_of_read? _hread
    simp only [List.length_cons]
    omega
  all_goals simp

end Block

end Bibliography

end CiteIndex
