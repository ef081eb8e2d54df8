import CiteIndex.Text.Basic

/-!
# Blanks

Two classes of white space are in use. The readers of bibliography files skip the five ASCII
blanks; trimming and word splitting go by the Unicode property `White_Space`, of which the ASCII
blanks are a part.
-/

namespace CiteIndex

namespace Text

/-- Blank, tab, line feed, form feed, carriage return. -/
def isAsciiBlank (c : Char) : Bool :=
  c == ' ' || c == '\t' || c == '\n' || c == '\x0c' || c == '\r'

/-- The Unicode property `White_Space`. -/
def isBlank (c : Char) : Bool :=
  let n := c.toNat
  (9 ≤ n && n ≤ 13) || n == 0x20 || n == 0x85 || n == 0xA0 || n == 0x1680
    || (0x2000 ≤ n && n ≤ 0x200A) || n == 0x2028 || n == 0x2029 || n == 0x202F || n == 0x205F
    || n == 0x3000

theorem isBlank_of_isAsciiBlank {c : Char} (h : isAsciiBlank c = true) : isBlank c = true := by
  simp only [isAsciiBlank, Bool.or_eq_true, beq_iff_eq] at h
  rcases h with (((h | h) | h) | h) | h <;> subst h <;> decide

def skipBlanks (t : Text) : Text :=
  t.dropWhile isAsciiBlank

def trimStart (t : Text) : Text :=
  t.dropWhile isBlank

def trimEnd (t : Text) : Text :=
  dropEndWhile isBlank t

def trim (t : Text) : Text :=
  trimEnd (trimStart t)

/-- The longest pieces of a text that hold no white space, in order. -/
def words (t : Text) : List Text :=
  (splitWhere isBlank t).filter (fun w => !w.isEmpty)

end Text

end CiteIndex
