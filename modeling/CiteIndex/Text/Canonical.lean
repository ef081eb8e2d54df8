import CiteIndex.Text.Combining
import CiteIndex.Text.Composite

/-!
# Canonical form

Several texts may write the same characters: a letter with an accent is one code point or two, and
marks may come in different orders. The canonical form (Unicode's form C) of a text is the one
that is composed as far as possible: every character is taken apart, marks are put in order, and
bases are composed with the marks that follow them.

- `Text.canonical`: the canonical form of a text
-/

namespace CiteIndex

namespace Text

/-! ## Order of marks -/

/-- Puts a mark in front of a text whose marks are in order, behind the marks of lower class that
the text begins with. -/
def insertMark (c : Char) : Text → Text
  | [] => [c]
  | d :: ds =>
    if 0 < combiningClass d ∧ combiningClass d < combiningClass c then d :: insertMark c ds
    else c :: d :: ds

/-- The text with the marks on each base in ascending order of their classes. -/
def orderMarks : Text → Text
  | [] => []
  | c :: cs => insertMark c (orderMarks cs)

/-! ## Composing -/

/-- Can no character of a class be composed with the base in front of some marks, given last
first. -/
def isBlocked (marks : Text) (order : Nat) : Bool :=
  match marks with
  | [] => false
  -- A mark is in the way if its class is not lower.
  | last :: _ => order ≤ combiningClass last

/-- A base, the marks behind it that did not compose with it, given last first, and a text behind
these, composed as far as possible. -/
def composeAfter (base : Char) (marks : Text) : Text → Text
  | [] => base :: marks.reverse
  | c :: cs =>
    let order := combiningClass c
    match if isBlocked marks order then none else composed? base c with
    | some whole => composeAfter whole marks cs
    | none =>
      if order = 0 then base :: marks.reverse ++ composeAfter c [] cs
      else composeAfter base (c :: marks) cs

def compose : Text → Text
  | [] => []
  | c :: cs => if combiningClass c = 0 then composeAfter c [] cs else c :: compose cs

/-- The canonical form of a text. -/
def canonical (t : Text) : Text :=
  -- Characters before the first mark are composed already.
  if t.all fun c => c.toNat < 0x300 then t else compose (orderMarks (t.flatMap parts))

end Text

end CiteIndex
