import CiteIndex.Label.Kind

/-!
# Labels in a document

A label is declared by its name in angle brackets. The brackets cannot be nested and a name holds
no line break, so every opening bracket is looked at once and on its own.

- `Label.nameAt?`: the name that a text opens with after a bracket
- `Label.extract`: all declarations of a document, in order
-/

namespace CiteIndex

structure Label where
  /-- The whole identifier between the brackets. -/
  name : Text
  /-- Number of line feeds before the declaration. -/
  line : Nat
  kind : LabelKind
  deriving DecidableEq, Repr

namespace Label

def isNameStart (c : Char) : Bool :=
  c.isAlpha || c == '_'

def isNameChar (c : Char) : Bool :=
  c.isAlphanum || c == '_' || c == ':' || c == '-'

/-- The label name that stands at the start of a text, if it is closed by a bracket. -/
def nameAt? (t : Text) : Option Text :=
  match t.takeWhile isNameChar, t.dropWhile isNameChar with
  | c :: cs, '>' :: _ => if isNameStart c then some (c :: cs) else none
  | _, _ => none

/-- The declarations in a text whose first character stands on line `line`. -/
def extractFrom (line : Nat) : Text → List Label
  | [] => []
  | c :: cs =>
    if c = '\n' then extractFrom (line + 1) cs
    else if c = '<' then
      match nameAt? cs with
      | some name => ⟨name, line, LabelKind.classify name⟩ :: extractFrom line cs
      | none => extractFrom line cs
    else extractFrom line cs

/-- All label declarations of a document in the order of their positions, repeated ones
included. -/
def extract (document : Text) : List Label :=
  extractFrom 0 document

end Label

end CiteIndex
