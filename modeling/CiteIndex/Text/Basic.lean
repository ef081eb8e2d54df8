/-!
# Text

A text is a list of characters, so that every reader of this library recurses on its input.
This module holds the operations that need no character classes:

- `Text.splitWhere`, `Text.join`: pieces between separators, and back
- `Text.lines`: lines without their terminators
- `Text.holds`: does one text occur inside another
- `Text.compare`: order by code point, which is the order of the UTF-8 forms as well
-/

namespace CiteIndex

/-- A piece of text, character by character. -/
abbrev Text := List Char

namespace Text

/-! ## Splitting and joining -/

def consHead (c : Char) : List Text → List Text
  | [] => [[c]]
  | piece :: rest => (c :: piece) :: rest

def consLeft (c : Char) (cut : Text × Text) : Text × Text :=
  (c :: cut.1, cut.2)

theorem map_consLeft_eq_some {c : Char} {cut? : Option (Text × Text)} {left right : Text}
    (h : cut?.map (consLeft c) = some (left, right)) :
    ∃ left', cut? = some (left', right) ∧ left = c :: left' := by
  obtain ⟨cut, rfl, heq⟩ := Option.map_eq_some_iff.1 h
  cases heq
  exact ⟨cut.1, rfl, rfl⟩

/-- The pieces between the characters that satisfy `isSeparator`. -/
def splitWhere (isSeparator : Char → Bool) : Text → List Text
  -- There is always at least one piece.
  | [] => [[]]
  | c :: cs =>
    if isSeparator c then [] :: splitWhere isSeparator cs
    else consHead c (splitWhere isSeparator cs)

def join (separator : Text) : List Text → Text
  | [] => []
  | [piece] => piece
  | piece :: rest => piece ++ separator ++ join separator rest

/-- The text before the first character that satisfies `isMark`, and the text after it. -/
def cutAt? (isMark : Char → Bool) : Text → Option (Text × Text)
  | [] => none
  | c :: cs => if isMark c then some ([], cs) else (cutAt? isMark cs).map (consLeft c)

/-- The lines of a text, without the line feeds that end them. -/
def lines : Text → List Text
  -- Text after the last line feed is a line only if there is some.
  | [] => []
  | '\n' :: cs => [] :: lines cs
  -- One carriage return before a line feed is dropped with it.
  | '\r' :: '\n' :: cs => [] :: lines cs
  | c :: cs => consHead c (lines cs)

theorem length_lt_of_cutAt? {isMark : Char → Bool} {t before rest : Text}
    (h : cutAt? isMark t = some (before, rest)) : rest.length < t.length := by
  induction t generalizing before with
  | nil => cases h
  | cons c cs ih =>
    rw [cutAt?] at h
    split at h
    · cases h
      simp
    · obtain ⟨_, hcut, _⟩ := map_consLeft_eq_some h
      exact Nat.lt_succ_of_lt (ih hcut)

/-! ## Ends of a text -/

def dropEndWhile (drop : Char → Bool) : Text → Text
  | [] => []
  | c :: cs =>
    match dropEndWhile drop cs with
    | [] => if drop c then [] else [c]
    | kept => c :: kept

def dropStart? : (start t : Text) → Option Text
  | [], t => some t
  | _ :: _, [] => none
  | a :: as, b :: bs => if a = b then dropStart? as bs else none

theorem eq_append_of_dropStart? {start t rest : Text} (h : dropStart? start t = some rest) :
    t = start ++ rest := by
  induction start generalizing t with
  | nil =>
    cases h
    rfl
  | cons a as ih =>
    cases t with
    | nil => cases h
    | cons b bs =>
      rw [dropStart?] at h
      split at h
      · rename_i hab
        rw [hab, ih h, List.cons_append]
      · cases h

def startsWith (t start : Text) : Bool :=
  start.isPrefixOf t

def endsWith (t ending : Text) : Bool :=
  ending.isSuffixOf t

def holds (part : Text) : Text → Bool
  | [] => part.isEmpty
  | c :: cs => part.isPrefixOf (c :: cs) || holds part cs

/-! ## Case of ASCII letters -/

/-- ASCII letters in lower case, all else as it is. -/
def lowerAscii (t : Text) : Text :=
  t.map Char.toLower

def sameIgnoringCase (a b : Text) : Bool :=
  lowerAscii a == lowerAscii b

/-! ## Order, numbers, columns -/

/-- Lexicographic order by code point. -/
def compare : Text → Text → Ordering
  | [], [] => .eq
  | [], _ :: _ => .lt
  | _ :: _, [] => .gt
  | a :: as, b :: bs =>
    if a.val < b.val then .lt else if b.val < a.val then .gt else compare as bs

def ofNat (n : Nat) : Text :=
  Nat.toDigits 10 n

/-- A number in decimal digits, with a minus sign if it is negative. -/
def ofInt : Int → Text
  | .ofNat n => ofNat n
  | .negSucc n => '-' :: ofNat (n + 1)

def alignRight (width : Nat) (t : Text) : Text :=
  List.replicate (width - t.length) ' ' ++ t

def alignLeft (width : Nat) (t : Text) : Text :=
  t ++ List.replicate (width - t.length) ' '

end Text

end CiteIndex
