import CiteIndex.Bibliography.Block

/-!
# Layout of records

Records are stored with one field per line: the header line and the line of the closing brace at
the margin, every other line indented by two blanks. A record that comes in one line is first
taken apart at its top-level commas.

- `Layout.format`: a record laid out
- `Layout.recordKey?`: the key that a record is cited by
-/

namespace CiteIndex

namespace Bibliography

namespace Layout

/-! ## Lines at the margin -/

def isHeaderChar (c : Char) : Bool :=
  c.isAlphanum || c == '_'

/-- Is the line an at sign, a type, blanks, and an opening delimiter with anything after it. -/
def isHeaderLine : Text → Bool
  | '@' :: rest =>
    match rest.takeWhile isHeaderChar, Text.trimStart (rest.dropWhile isHeaderChar) with
    | _ :: _, c :: _ => c == '{' || c == '('
    | _, _ => false
  | _ => false

def isFlush (line : Text) : Bool :=
  line == ['}'] || isHeaderLine line

/-- One line of a laid out record, with its line feed. -/
def formatLine (line : Text) : Text :=
  match Text.trim line with
  -- Blank lines stay, as empty ones.
  | [] => ['\n']
  | c :: cs => if isFlush (c :: cs) then c :: cs ++ ['\n'] else ' ' :: ' ' :: c :: cs ++ ['\n']

/-! ## Records in one line -/

def withCommas : List Text → List Text
  | [] => []
  | [piece] => [piece]
  | piece :: rest => (piece ++ [',']) :: withCommas rest

/-- The lines of the first block of a text, if it has a key and at least one field. -/
def splitBlock? (t : Text) : Option (List Text) :=
  match Block.scan t with
  | [] => none
  | b :: _ =>
    match ((splitCommas b.body).map Text.trim).filter fun piece => !piece.isEmpty with
    | key :: field :: fields =>
      -- Every character of the body but the separating commas ends up in some line.
      some (('@' :: b.kind ++ '{' :: key ++ [',']) :: withCommas (field :: fields) ++ [['}']])
    | _ => none

/-- The lines of a trimmed record before they are laid out. -/
def recordLines (t : Text) : List Text :=
  match Text.lines t with
  | [_] => (splitBlock? t).getD [t]
  | lines => lines

/-! ## Records -/

def format (record : Text) : Text :=
  ((recordLines (Text.trim record)).map formatLine).flatten

/-- The key of the first block of a record that is of a citable type, unless it is empty. -/
def recordKey? (record : Text) : Option Text :=
  (((Block.scan record).find? fun b => !b.isPseudo).map Block.key).filter fun k => !k.isEmpty

end Layout

end Bibliography

end CiteIndex
