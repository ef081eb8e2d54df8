import CiteIndex.Json.Reader
import CiteIndex.Toml.Assembly

/-!
# Reading TOML

A document is a sequence of lines: blank, comments, `name = value`, and headers in single or
double brackets. Values may go over several lines inside arrays and triple quotes.

- `Toml.read?`: the table that a whole document states
-/

namespace CiteIndex

namespace Toml

namespace Reader

/-! ## Blanks, line ends, comments -/

def isBlank (c : Char) : Bool :=
  c == ' ' || c == '\t'

def skip (t : Text) : Text :=
  t.dropWhile isBlank

def isPlain (c : Char) : Bool :=
  c == '\t' || (0x20 ≤ c.toNat && c.toNat != 0x7F)

def newline? : Text → Option Text
  | '\n' :: rest => some rest
  | '\r' :: '\n' :: rest => some rest
  | _ => none

def skipComment : Text → Text
  | '#' :: rest => rest.dropWhile isPlain
  | t => t

/-- The text after blanks and a comment that reach to the end of the line. -/
def lineEnd? (t : Text) : Option Text :=
  match skipComment (skip t) with
  | [] => some []
  | rest => newline? rest

/-- The text without blanks, comments and line ends at its start, as they may stand between the
items of an array. -/
def skipLines : (fuel : Nat) → Text → Text
  | 0, t => t
  | fuel + 1, t =>
    let rest := skipComment (skip t)
    match newline? rest with
    | some next => skipLines fuel next
    | none => rest

/-! ## Strings -/

def escaped? (c : Char) : Option Char :=
  if c = '"' ∨ c = '\\' then some c
  else if c = 'b' then some '\x08'
  else if c = 't' then some '\t'
  else if c = 'n' then some '\n'
  else if c = 'f' then some '\x0c'
  else if c = 'r' then some '\r'
  else none

def scalar? (n : Nat) : Option Char :=
  if n < 0xD800 ∨ (0xDFFF < n ∧ n ≤ 0x10FFFF) then some (Char.ofNat n) else none

/-- The character that follows a backslash, and the text after it. -/
def escape? : Text → Option (Char × Text)
  | 'u' :: a :: b :: c :: d :: rest => do
    let n ← Json.Reader.hex4? a b c d
    return (← scalar? n, rest)
  | 'U' :: a :: b :: c :: d :: e :: f :: g :: h :: rest => do
    let high ← Json.Reader.hex4? a b c d
    let low ← Json.Reader.hex4? e f g h
    return (← scalar? (high * 65536 + low), rest)
  | c :: rest => (escaped? c).map fun plain => (plain, rest)
  | [] => none

def basic? : (fuel : Nat) → Text → Option (Text × Text)
  | 0, _ => none
  | fuel + 1, t =>
    match t with
    | [] => none
    | '"' :: rest => some ([], rest)
    | '\\' :: rest => do
      let (c, rest) ← escape? rest
      (basic? fuel rest).map (Text.consLeft c)
    | c :: rest => if isPlain c then (basic? fuel rest).map (Text.consLeft c) else none

def literal? (t : Text) : Option (Text × Text) :=
  match t.dropWhile fun c => isPlain c && c != '\x27' with
  | '\x27' :: rest => some (t.takeWhile (fun c => isPlain c && c != '\x27'), rest)
  | _ => none

def skipBlankLines : Text → Text
  | ' ' :: rest => skipBlankLines rest
  | '\t' :: rest => skipBlankLines rest
  | '\n' :: rest => skipBlankLines rest
  | '\r' :: '\n' :: rest => skipBlankLines rest
  | t => t

/-- The text after the rest of a line that a backslash ends, and after all blanks and line ends
that follow. -/
def joined? (t : Text) : Option Text :=
  (newline? (skip t)).map skipBlankLines

/-- Up to two quotes that belong to a string although its closing quotes have begun. -/
def closingQuotes (quote : Char) : Text → Text × Text
  | a :: b :: rest =>
    if a = quote ∧ b = quote then ([a, b], rest)
    else if a = quote then ([a], b :: rest)
    else ([], a :: b :: rest)
  | [a] => if a = quote then ([a], []) else ([], [a])
  | [] => ([], [])

/-- A string in triple quotes after the opening ones. -/
def multiline? (quote : Char) : (fuel : Nat) → Text → Option (Text × Text)
  | 0, _ => none
  | fuel + 1, t =>
    match t with
    | [] => none
    | c :: rest =>
      if c = quote ∧ rest.take 2 = [quote, quote] then some (closingQuotes quote (rest.drop 2))
      -- Escapes count only in double quotes.
      else if c = '\\' ∧ quote = '"' then
        match joined? rest with
        | some rest => multiline? quote fuel rest
        | none => do
          let (c, rest) ← escape? rest
          (multiline? quote fuel rest).map (Text.consLeft c)
      else
        match newline? (c :: rest) with
        | some rest => (multiline? quote fuel rest).map (Text.consLeft '\n')
        | none => if isPlain c then (multiline? quote fuel rest).map (Text.consLeft c) else none

def skipNewline (t : Text) : Text :=
  (newline? t).getD t

def string? (t : Text) : Option (Text × Text) :=
  match t with
  | '"' :: '"' :: '"' :: rest => multiline? '"' (t.length + 1) (skipNewline rest)
  | '\x27' :: '\x27' :: '\x27' :: rest => multiline? '\x27' (t.length + 1) (skipNewline rest)
  | '"' :: rest => basic? (t.length + 1) rest
  | '\x27' :: rest => literal? rest
  | _ => none

/-! ## Names -/

def isNameChar (c : Char) : Bool :=
  c.isAlphanum || c == '_' || c == '-'

def simpleName? (t : Text) : Option (Text × Text) :=
  match t with
  | '"' :: rest => basic? (t.length + 1) rest
  | '\x27' :: rest => literal? rest
  | _ =>
    match t.takeWhile isNameChar with
    | [] => none
    | name => some (name, t.dropWhile isNameChar)

/-- What the number of parts of a name, and the number of arrays and inline tables inside each
other, stay below. -/
def nestingLimit : Nat := 80

/-- A dotted name of at most `parts` parts, with the blanks after it. -/
def nameOf? : (parts : Nat) → Text → Option (List Text × Text)
  | 0, _ => none
  | parts + 1, t => do
    let (name, rest) ← simpleName? (skip t)
    match skip rest with
    | '.' :: rest => (nameOf? parts rest).map fun (names, rest) => (name :: names, rest)
    | rest => some ([name], rest)

/-- The dotted name at the start of a text, with the blanks after it. -/
def name? (t : Text) : Option (List Text × Text) :=
  nameOf? (nestingLimit - 1) t

/-! ## Numbers and moments -/

def isLiteralChar (c : Char) : Bool :=
  c.isAlphanum || c == '+' || c == '-' || c == '_' || c == '.' || c == ':'

/-- The digits of a number without single underscores between them. -/
def digits? (isDigit : Char → Bool) (t : Text) : Option Text :=
  let pieces := Text.splitWhere (· == '_') t
  if pieces.all fun piece => !piece.isEmpty && piece.all isDigit then some pieces.flatten else none

def isDigitIn (base : Nat) (c : Char) : Bool :=
  match Json.Reader.hex4?.digit? c with
  | some d => d < base
  | none => false

def valueIn (base : Nat) (digits : Text) : Nat :=
  digits.foldl (fun n c => n * base + ((Json.Reader.hex4?.digit? c).getD 0)) 0

def natural? (base : Nat) (t : Text) : Option Nat :=
  (digits? (isDigitIn base) t).map (valueIn base)

def wholeDigits? (t : Text) : Option Text :=
  (digits? Char.isDigit t).bind fun digits =>
    match digits with
    | '0' :: _ :: _ => none
    | _ => some digits

def cutSign : Text → Bool × Text
  | '-' :: rest => (true, rest)
  | '+' :: rest => (false, rest)
  | t => (false, t)

/-- The integer that a literal writes, if it fits 64 signed bits. -/
def integer? (t : Text) : Option Int := do
  let n ←
    match t with
    | '0' :: 'x' :: digits => (natural? 16 digits).map Int.ofNat
    | '0' :: 'o' :: digits => (natural? 8 digits).map Int.ofNat
    | '0' :: 'b' :: digits => (natural? 2 digits).map Int.ofNat
    | _ =>
      let (negative, digits) := cutSign t
      (wholeDigits? digits).map fun ds =>
        if negative then -(valueIn 10 ds : Int) else (valueIn 10 ds : Int)
  if -9223372036854775808 ≤ n ∧ n ≤ 9223372036854775807 then some n else none

def isExponent (t : Text) : Bool :=
  (digits? Char.isDigit (cutSign t).2).isSome

/-- Does a number with this whole part, fraction and exponent round to infinity. -/
def isAboveRange (whole fraction exponent : Text) : Bool :=
  let plain := List.filter (· != '_')
  let power := Decimal.signedValue (plain exponent) - ((plain fraction).length : Int)
  Decimal.exceedsDouble (plain whole ++ plain fraction) power

/-- Is the literal a number with a fraction or an exponent, infinity, or no number. -/
def isDecimal (t : Text) : Bool :=
  let (negative, body) := cutSign t
  body == "inf".toList || body == "nan".toList ||
    let (mantissa, exponent) :=
      match Text.cutAt? (fun c => c == 'e' || c == 'E') body with
      | some (m, e) => (m, some e)
      | none => (body, none)
    let (whole, fraction) :=
      match Text.cutAt? (· == '.') mantissa with
      | some (w, f) => (w, some f)
      | none => (mantissa, none)
    (wholeDigits? whole).isSome && (fraction.isSome || exponent.isSome)
      && fraction.all (fun f => (digits? Char.isDigit f).isSome) && exponent.all isExponent
      -- Numbers above the range of double precision are none; those below it are.
      && (negative || !isAboveRange whole (fraction.getD []) (exponent.getD []))

def fixed? (width : Nat) (t : Text) : Option Nat :=
  if t.length = width ∧ t.all Char.isDigit then some (Decimal.value t) else none

def daysIn (year month : Nat) : Nat :=
  if month = 2 then
    if (year % 4 = 0 ∧ year % 100 ≠ 0) ∨ year % 400 = 0 then 29 else 28
  else if month = 4 ∨ month = 6 ∨ month = 9 ∨ month = 11 then 30
  else 31

def isDate (t : Text) : Bool :=
  match Text.splitWhere (· == '-') t with
  | [y, m, d] =>
    match fixed? 4 y, fixed? 2 m, fixed? 2 d with
    | some y, some m, some d => 1 ≤ m && m ≤ 12 && 1 ≤ d && d ≤ daysIn y m
    | _, _, _ => false
  | _ => false

/-- Is the literal hours and minutes up to a limit, with a colon between them. -/
def isHourMinute (t : Text) : Bool :=
  match Text.splitWhere (· == ':') t with
  | [h, m] => (fixed? 2 h).any (· ≤ 23) && (fixed? 2 m).any (· ≤ 59)
  | _ => false

def isTime (t : Text) : Bool :=
  let (clock, fraction) :=
    match Text.cutAt? (· == '.') t with
    | some (c, f) => (c, some f)
    | none => (t, none)
  match Text.splitWhere (· == ':') clock with
  | [h, m, s] =>
    isHourMinute (h ++ ':' :: m) && (fixed? 2 s).any (· ≤ 60)
      && fraction.all fun f => !f.isEmpty && f.all Char.isDigit
  | _ => false

/-- Is the literal a time of day with or without its distance from universal time. -/
def isZonedTime (t : Text) : Bool :=
  isTime t ||
    match t.reverse with
    | 'Z' :: rest => isTime rest.reverse
    | 'z' :: rest => isTime rest.reverse
    | _ =>
      match Text.cutAt? (fun c => c == '+' || c == '-') t with
      | some (time, offset) => isTime time && isHourMinute offset
      | none => false

/-- Is the literal a date, a time, or a date with a time behind it. -/
def isMoment (t : Text) : Bool :=
  isDate t || isTime t ||
    (isDate (t.take 10) &&
      match t.drop 10 with
      | c :: rest => (c == 'T' || c == 't' || c == ' ') && isZonedTime rest
      | [] => false)

/-- The literal at the start of a text: a run of its characters, and after a date and one blank a
further run that begins with a digit. -/
def cutLiteral (t : Text) : Text × Text :=
  let word := t.takeWhile isLiteralChar
  let rest := t.dropWhile isLiteralChar
  match rest with
  | ' ' :: d :: more =>
    if isDate word && d.isDigit then
      (word ++ ' ' :: (d :: more).takeWhile isLiteralChar, (d :: more).dropWhile isLiteralChar)
    else (word, rest)
  | _ => (word, rest)

def ofLiteral? (t : Text) : Option Toml :=
  if t == "true".toList then some (.boolean true)
  else if t == "false".toList then some (.boolean false)
  else
    match integer? t with
    | some n => some (.integer n)
    | none =>
      if isDecimal t then some (.decimal t)
      else if isMoment t then some (.moment t)
      else none

/-! ## Values -/

mutual

/-- The value at the start of a text; `depth` more arrays and inline tables may be opened. -/
def value? (fuel depth : Nat) (t : Text) : Option (Toml × Text) :=
  match fuel with
  | 0 => none
  | fuel + 1 =>
    match t with
    | '"' :: _ => (string? t).map fun (s, rest) => (.string s, rest)
    | '\x27' :: _ => (string? t).map fun (s, rest) => (.string s, rest)
    | '[' :: rest =>
      match depth with
      | 0 => none
      | depth + 1 => (items? fuel depth rest).map fun (vs, rest) => (.array vs, rest)
    | '\x7b' :: rest =>
      match depth, skip rest with
      | 0, _ => none
      | _ + 1, '\x7d' :: rest => some (.table [], rest)
      | depth + 1, rest => do
        let (pairs, rest) ← pairs? fuel depth rest
        let members ← assignAll? [] pairs
        some (.table (finishMembers members), rest)
    | _ =>
      let (literal, rest) := cutLiteral t
      (ofLiteral? literal).map fun v => (v, rest)

def items? (fuel depth : Nat) (t : Text) : Option (List Toml × Text) :=
  match fuel with
  | 0 => none
  | fuel + 1 =>
    match skipLines (t.length + 1) t with
    | ']' :: rest => some ([], rest)
    | start => do
      let (v, rest) ← value? fuel depth start
      match skipLines (rest.length + 1) rest with
      | ',' :: rest => (items? fuel depth rest).map fun (vs, rest) => (v :: vs, rest)
      | ']' :: rest => some ([v], rest)
      | _ => none

def pairs? (fuel depth : Nat) (t : Text) : Option (List (List Text × Toml) × Text) :=
  match fuel with
  | 0 => none
  | fuel + 1 => do
    let (names, rest) ← name? t
    match rest with
    | '=' :: rest => do
      let (v, rest) ← value? fuel depth (skip rest)
      match skip rest with
      | ',' :: rest => (pairs? fuel depth rest).map fun (ps, rest) => ((names, v) :: ps, rest)
      | '\x7d' :: rest => some ([(names, v)], rest)
      | _ => none
    | _ => none

end

/-! ## Documents -/

inductive Line where
  | pair (names : List Text) (v : Toml)
  | header (names : List Text)
  | arrayHeader (names : List Text)

def header? (t : Text) : Option (Line × Text) :=
  match t with
  | '[' :: inner => do
    let (names, rest) ← name? inner
    match rest with
    | ']' :: ']' :: rest => some (.arrayHeader names, rest)
    | _ => none
  | _ => do
    let (names, rest) ← name? t
    match rest with
    | ']' :: rest => some (.header names, rest)
    | _ => none

def pair? (t : Text) : Option (Line × Text) := do
  let (names, rest) ← name? t
  match rest with
  | '=' :: rest =>
    (value? (2 * rest.length + 2) (nestingLimit - 1) (skip rest)).map fun (v, rest) =>
      (.pair names v, rest)
  | _ => none

def document? : (fuel : Nat) → Text → Option (List Line)
  | 0, _ => none
  | fuel + 1, t =>
    match skipLines (t.length + 1) t with
    | [] => some []
    | '[' :: rest => do
      let (line, rest) ← header? rest
      (document? fuel (← lineEnd? rest)).map (line :: ·)
    | start => do
      let (line, rest) ← pair? start
      (document? fuel (← lineEnd? rest)).map (line :: ·)

/-- The pairs up to the next header, and the lines from that header on. -/
def cutSection : List Line → List (List Text × Toml) × List Line
  | .pair names v :: rest =>
    let cut := cutSection rest
    ((names, v) :: cut.1, cut.2)
  | rest => ([], rest)

/-- The members that the lines of a document add to what is there. -/
def assemble? : (fuel : Nat) → Members → List Line → Option Members
  | _, ms, [] => some ms
  | 0, _, _ :: _ => none
  | fuel + 1, ms, line :: lines =>
    let (pairs, rest) := cutSection lines
    match line with
    | .header names => (openTable? ms names pairs).bind fun ms => assemble? fuel ms rest
    | .arrayHeader names => (openArrayTable? ms names pairs).bind fun ms => assemble? fuel ms rest
    | .pair names v => (assignAll? ms ((names, v) :: pairs)).bind fun ms => assemble? fuel ms rest

end Reader

/-- The members of the table that a whole document states. -/
def read? (t : Text) : Option (List (Text × Toml)) :=
  -- A byte order mark in front is passed over.
  let body := (Text.dropStart? ['\ufeff'] t).getD t
  do
    let lines ← Reader.document? (body.length + 1) body
    let members ← Reader.assemble? (lines.length + 1) [] lines
    return finishMembers members

end Toml

end CiteIndex
