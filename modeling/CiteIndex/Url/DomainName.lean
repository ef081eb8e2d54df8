import CiteIndex.Text.Canonical
import CiteIndex.Text.Joining
import CiteIndex.Url.NameTable
import CiteIndex.Url.Punycode

/-!
# Domain names

A domain name is a sequence of labels with dots between them. Before it is sent, its characters
are replaced and composed so that all spellings of a name become one, its labels are checked, and
labels beyond ASCII are written in Punycode with a marker in front. A label that is already in that
form must be one that this writes.

- `DomainName.folded?`: the characters of a name in the one form
- `DomainName.ascii?`: the form in which a name is sent
-/

namespace CiteIndex

namespace DomainName

/-! ## Characters -/

/-- Characters other than blanks and controls that no name can hold, as they delimit parts of a
URL. -/
def delimiters : Text :=
  ['#', '%', '/', ':', '<', '>', '?', '@', '[', '\\', ']', '^', '|']

def isDenied (c : Char) : Bool :=
  c.toNat ≤ 0x20 || c.toNat == 0x7F || delimiters.contains c

def isAscii (t : Text) : Bool :=
  t.all fun c => c.toNat < 128

def folded? (name : Text) : Option Text :=
  (name.mapM replacement?).map fun pieces => Text.canonical pieces.flatten

/-! ## Joiners -/

def nonJoiner : Char := '\u200c'

def joiner : Char := '\u200d'

/-- Does a text begin with a letter that joins on one of some sides, marks before it passed over. -/
def beginsJoining (sides : List Joining) (t : Text) : Bool :=
  match t.dropWhile (Text.joining · == .transparent) with
  | [] => false
  | c :: _ => sides.contains (Text.joining c)

/-- The combining class of the signs that take the vowel off a letter. -/
def viramaClass : Nat := 9

/-- Can a joiner stand between two texts, of which the one before is given in reverse. -/
def joinerFits (c : Char) (before after : Text) : Bool :=
  -- Both kinds may follow a sign that takes a vowel off.
  (before.head?.any fun sign => Text.combiningClass sign == viramaClass)
    -- The one that keeps letters from joining may also stand between letters that would join.
    || (c == nonJoiner && beginsJoining [.left, .both] before
      && beginsJoining [.right, .both] after)

/-- Do all joiners of a label fit where they stand, behind a text that is given in reverse. -/
def joinersFit (before : Text) : Text → Bool
  | [] => true
  | c :: cs =>
    (!(c == nonJoiner || c == joiner) || joinerFits c before cs) && joinersFit (c :: before) cs

/-! ## Directions -/

/-- A direction that makes a whole name subject to the rule for directions. -/
def runsBack (d : Direction) : Bool :=
  d == .rightToLeft || d == .arabicNumber

/-- Does a label keep the rule for directions: it runs one way, begins with a letter, ends with a
letter or a number but for marks, and does not mix two forms of digits if it runs to the left. -/
def keepsDirection (label : Text) : Bool :=
  let directions := label.map Text.direction
  match directions, (directions.reverse.dropWhile (· == .mark)).head? with
  | [], _ => true
  | .leftToRight :: _, some last =>
    !directions.any runsBack && (last == .leftToRight || last == .europeanNumber)
  | .rightToLeft :: _, some last =>
    !directions.contains .leftToRight && last != .neutral
      && !(directions.contains .europeanNumber && directions.contains .arabicNumber)
  | _, _ => false

/-! ## Labels -/

/-- Marker in front of the ASCII form of a label beyond ASCII. -/
def marker : Text := "xn--".toList

def labelLimit : Nat := 1000

/-- The most characters of an ASCII form after its marker. -/
def asciiFormLimit : Nat := 2000

/-- The label that a label without marker is, or that one with marker writes. -/
def decoded? (label : Text) : Option Text :=
  match Text.dropStart? marker label with
  | none => some label
  | some numbers => do
    if numbers.getLast?.all (· == '-') || asciiFormLimit < numbers.length then none
    else
      let plain ← Punycode.decode? numbers
      if folded? plain == some plain then some plain else none

/-- Can a label stand in a name, whatever the other labels are. -/
def isSound (label : Text) : Bool :=
  !(label.take 1).any Text.isMark && joinersFit [] label
    && (isAscii label || label.length ≤ labelLimit)

def asciiForm (label : Text) : Text :=
  if isAscii label then label else marker ++ Punycode.encode label

/-! ## Names -/

/-- Do the labels of a name keep the rule for directions, if one of them is subject to it. -/
def keepDirections (labels : List Text) : Bool :=
  !(labels.any fun label => label.any fun c => runsBack (Text.direction c))
    || labels.all keepsDirection

/-- The labels of a name that is in the one form, without Punycode. -/
def labels? (folded : Text) : Option (List Text) :=
  if folded.any isDenied then none
  else (Text.splitWhere (· == '.') folded).mapM decoded?

/-- The ASCII form of a name with these labels, if they may stand in one name. -/
def ofLabels? (labels : List Text) : Option Text :=
  if labels.all isSound && keepDirections labels then
    some (Text.join ['.'] (labels.map asciiForm))
  else none

/-- The form in which a name is sent; none if no name can be so written. -/
def ascii? (name : Text) : Option Text :=
  ((folded? name).bind labels?).bind ofLabels?

end DomainName

end CiteIndex
