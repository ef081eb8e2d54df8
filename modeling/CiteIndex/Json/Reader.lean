import CiteIndex.Json.Value
import CiteIndex.Text.Decimal

/-!
# Reading JSON

The reader takes exactly the JSON grammar. Strings may not hold control characters or half a
surrogate pair, numbers have no surplus zeros and fit double precision, and arrays and objects
may be nested up to a limit.

- `Json.read?`: the value that a whole text writes
-/

namespace CiteIndex

namespace Json

namespace Reader

/-! ## Strings -/

def hex4? (a b c d : Char) : Option Nat := do
  let a ← digit? a
  let b ← digit? b
  let c ← digit? c
  let d ← digit? d
  return ((a * 16 + b) * 16 + c) * 16 + d
where
  /-- The value of a hexadecimal digit. -/
  digit? (c : Char) : Option Nat :=
    if c.isDigit then some (c.toNat - '0'.toNat)
    else if 'a' ≤ c ∧ c ≤ 'f' then some (c.toNat - 'a'.toNat + 10)
    else if 'A' ≤ c ∧ c ≤ 'F' then some (c.toNat - 'A'.toNat + 10)
    else none

def escaped? (c : Char) : Option Char :=
  if c = '"' ∨ c = '\\' ∨ c = '/' then some c
  else if c = 'b' then some '\x08'
  else if c = 'f' then some '\x0c'
  else if c = 'n' then some '\n'
  else if c = 'r' then some '\r'
  else if c = 't' then some '\t'
  else none

def isHighSurrogate (n : Nat) : Bool :=
  0xD800 ≤ n && n ≤ 0xDBFF

def isLowSurrogate (n : Nat) : Bool :=
  0xDC00 ≤ n && n ≤ 0xDFFF

def string? : Text → Option (Text × Text)
  | [] => none
  | '"' :: rest => some ([], rest)
  | '\\' :: 'u' :: a :: b :: c :: d :: rest => do
    let unit ← hex4? a b c d
    if isHighSurrogate unit then
      match rest with
      | '\\' :: 'u' :: e :: f :: g :: h :: rest' =>
        let second ← hex4? e f g h
        if isLowSurrogate second then
          let point := 0x10000 + (unit - 0xD800) * 0x400 + (second - 0xDC00)
          (string? rest').map (Text.consLeft (Char.ofNat point))
        else none
      | _ => none
    else if isLowSurrogate unit then none
    else (string? rest).map (Text.consLeft (Char.ofNat unit))
  | '\\' :: c :: rest => do
    let plain ← escaped? c
    (string? rest).map (Text.consLeft plain)
  | c :: rest => if c.toNat < 0x20 then none else (string? rest).map (Text.consLeft c)

/-! ## Numbers -/

/-- The digits before point and exponent: a zero alone, or digits that begin with none. -/
def wholeDigits? (t : Text) : Option (Text × Text) :=
  match t.takeWhile Char.isDigit with
  | [] => none
  | '0' :: _ :: _ => none
  | digits => some (digits, t.dropWhile Char.isDigit)

/-- The fraction of a number, if there is one, with its point. -/
def fraction? (t : Text) : Option (Text × Text) :=
  match t with
  | '.' :: rest =>
    match rest.takeWhile Char.isDigit with
    | [] => none
    | digits => some ('.' :: digits, rest.dropWhile Char.isDigit)
  | _ => some ([], t)

/-- The exponent of a number, if there is one, with its letter and sign. -/
def exponent? (t : Text) : Option (Text × Text) :=
  match t with
  | [] => some ([], [])
  | c :: rest =>
    if c = 'e' ∨ c = 'E' then
      let sign := (rest.take 1).filter fun s => s == '+' || s == '-'
      let digits := rest.drop sign.length
      match digits.takeWhile Char.isDigit with
      | [] => none
      | ds => some (c :: sign ++ ds, digits.dropWhile Char.isDigit)
    else some ([], t)

/-- The number that stands at the start of a text, if it is finite in double precision. -/
def number? (t : Text) : Option (Json × Text) := do
  let sign := (t.take 1).filter (· == '-')
  let (digits, rest) ← wholeDigits? (t.drop sign.length)
  let (fraction, rest) ← fraction? rest
  let (exponent, rest) ← exponent? rest
  let magnitude := Decimal.value digits
  let power := Decimal.signedValue (exponent.drop 1) - ((fraction.drop 1).length : Int)
  if Decimal.exceedsDouble (digits ++ fraction.drop 1) power then none
  -- A minus sign before a lone zero makes no integer.
  else if fraction.isEmpty && exponent.isEmpty && (sign.isEmpty || magnitude != 0) then
    some (.integer (if sign.isEmpty then (magnitude : Int) else -(magnitude : Int)), rest)
  else some (.decimal (sign ++ digits ++ fraction ++ exponent), rest)

/-! ## Values -/

def isBlank (c : Char) : Bool :=
  c == ' ' || c == '\t' || c == '\n' || c == '\r'

def skip (t : Text) : Text :=
  t.dropWhile isBlank

mutual

/-- The value at the start of a text; `depth` more arrays and objects may be opened. -/
def value? (fuel depth : Nat) (t : Text) : Option (Json × Text) :=
  match fuel with
  | 0 => none
  | fuel + 1 =>
    match skip t with
    | '"' :: rest => (string? rest).map fun (s, rest) => (.string s, rest)
    | '[' :: rest =>
      match depth, skip rest with
      | 0, _ => none
      | _ + 1, ']' :: rest => some (.array [], rest)
      | depth + 1, rest => (items? fuel depth rest).map fun (vs, rest) => (.array vs, rest)
    | '\x7b' :: rest =>
      match depth, skip rest with
      | 0, _ => none
      | _ + 1, '\x7d' :: rest => some (.object [], rest)
      | depth + 1, rest => (members? fuel depth rest).map fun (ms, rest) => (.object ms, rest)
    | c :: rest =>
      match Text.dropStart? "null".toList (c :: rest), Text.dropStart? "true".toList (c :: rest),
        Text.dropStart? "false".toList (c :: rest) with
      | some rest, _, _ => some (.null, rest)
      | none, some rest, _ => some (.bool true, rest)
      | none, none, some rest => some (.bool false, rest)
      | none, none, none => number? (c :: rest)
    | [] => none

def items? (fuel depth : Nat) (t : Text) : Option (List Json × Text) :=
  match fuel with
  | 0 => none
  | fuel + 1 => do
    let (v, rest) ← value? fuel depth t
    match skip rest with
    | ',' :: rest => (items? fuel depth rest).map fun (vs, rest) => (v :: vs, rest)
    | ']' :: rest => some ([v], rest)
    | _ => none

def members? (fuel depth : Nat) (t : Text) : Option (List (Text × Json) × Text) :=
  match fuel with
  | 0 => none
  | fuel + 1 =>
    match skip t with
    | '"' :: rest => do
      let (name, rest) ← string? rest
      match skip rest with
      | ':' :: rest => do
        let (v, rest) ← value? fuel depth rest
        match skip rest with
        | ',' :: rest => (members? fuel depth rest).map fun (ms, rest) => ((name, v) :: ms, rest)
        | '\x7d' :: rest => some ([(name, v)], rest)
        | _ => none
      | _ => none
    | _ => none

end

end Reader

def nestingLimit : Nat := 127

/-- The value that a whole text writes, with arrays and objects nested up to a limit. -/
def readWithin? (limit : Nat) (t : Text) : Option Json :=
  match Reader.value? (2 * t.length + 2) limit t with
  | some (v, rest) => if (Reader.skip rest).isEmpty then some v else none
  | none => none

def read? (t : Text) : Option Json :=
  readWithin? nestingLimit t

end Json

end CiteIndex
