import CiteIndex.Bibliography.Block
import CiteIndex.File.Path
import CiteIndex.Text.Alphabet

/-!
# Entries

An entry is a block that can be cited: it is of a citable type, its key is usable, and no earlier
block of the same file has that key. Its fields are cleaned of braces and surplus white space.

- `Entry.ofBlock`: the entry that a block describes
- `Entry.parse`: the entries of a file, in order
-/

namespace CiteIndex

namespace Bibliography

structure Entry where
  key : Text
  /-- The block type in lower case. -/
  kind : Text
  title : Option Text
  /-- The authors in one line, a comma between them. -/
  author : Option Text
  authors : List Text
  /-- Four digits. -/
  year : Option Text
  journal : Option Text
  booktitle : Option Text
  /-- The file that the entry stands in. -/
  source : Path
  deriving DecidableEq, Repr

namespace Entry

/-! ## Field texts -/

/-- A value without braces, with single blanks between its words and none around them. -/
def clean (value : Text) : Text :=
  Text.join [' '] (Text.words (value.filter fun c => !(c == '{' || c == '}')))

/-- The value of the first field with a given name, in any case of ASCII letters. -/
def field? (fields : List Field) (name : Text) : Option FieldValue :=
  (fields.find? fun f => f.name.sameIgnoringCase name).map (·.value)

/-- The cleaned text of a field whose value stands in braces or quotes. -/
def text? (fields : List Field) (name : Text) : Option Text :=
  -- An empty text counts as absent.
  (((field? fields name).bind FieldValue.delimited?).map clean).filter fun t => !t.isEmpty

/-- The first four characters, if they are digits and no letter or digit follows them. -/
def year? (t : Text) : Option Text :=
  let digits := t.takeWhile Char.isDigit
  let numberGoesOn :=
    match t.dropWhile Char.isDigit with
    | [] => false
    | c :: _ => Text.isAlphanumeric c
  if digits.length == 4 && !numberGoesOn then some digits else none

/-! ## Authors -/

/-- The pieces of an author list between the words `and`, each with one blank on both sides. -/
def splitAuthors : Text → List Text
  | [] => [[]]
  | ' ' :: 'a' :: 'n' :: 'd' :: ' ' :: rest => [] :: splitAuthors rest
  | c :: rest => Text.consHead c (splitAuthors rest)

def authorNames (t : Text) : List Text :=
  ((splitAuthors t).map Text.trim).filter fun name => !name.isEmpty

/-- An author list in one line: a comma in place of each `and`. -/
def authorLine (t : Text) : Text :=
  Text.trim (Text.join ", ".toList (splitAuthors t))

/-! ## Entries of a file -/

def ofBlock (source : Path) (b : Block) : Entry :=
  let fields := b.fields
  let authorText := text? fields "author".toList
  { key := b.key
    kind := b.kind.lowerAscii
    title := text? fields "title".toList
    author := authorText.map authorLine
    authors := (authorText.map authorNames).getD []
    year := (field? fields "year".toList).bind fun value => year? (clean value.text)
    journal := text? fields "journal".toList
    booktitle := text? fields "booktitle".toList
    source := source }

/-- A key that can be cited: not empty and without white space. -/
def isUsableKey (key : Text) : Bool :=
  !key.isEmpty && !key.any Text.isBlank

/-- The blocks without those that repeat a key in `seen` or of an earlier block. -/
def firstOfKey (seen : List Text) : List Block → List Block
  | [] => []
  | b :: rest =>
    if seen.contains b.key then firstOfKey seen rest
    else b :: firstOfKey (b.key :: seen) rest

def citable (blocks : List Block) : List Block :=
  firstOfKey [] (blocks.filter fun b => !b.isPseudo && isUsableKey b.key)

def parse (source : Path) (contents : Text) : List Entry :=
  (citable (Block.scan contents)).map (ofBlock source)

end Entry

end Bibliography

end CiteIndex
