import CiteIndex.Text.Basic

/-!
# Punycode

Labels of domain names with characters beyond ASCII are sent in an ASCII form: the ASCII characters
first, then one number for each other character, in ascending order of code points, that says how
far the writer has to move on. The numbers are written in 36 digits with thresholds that adapt to
the numbers before.

- `Punycode.encode`, `Punycode.decode?`: a label and its ASCII form, without the marker in front
-/

namespace CiteIndex

namespace Punycode

/-! ## Digits and thresholds -/

/-- The digit of a value below 36: letters, then decimal digits. -/
def digit (value : Nat) : Char :=
  if value < 26 then Char.ofNat ('a'.toNat + value) else Char.ofNat ('0'.toNat + (value - 26))

def value? (c : Char) : Option Nat :=
  if c.isLower then some (c.toNat - 'a'.toNat)
  else if c.isUpper then some (c.toNat - 'A'.toNat)
  else if c.isDigit then some (c.toNat - '0'.toNat + 26)
  else none

/-- The least value of a digit at a place that is not the last of its number. -/
def threshold (place bias : Nat) : Nat :=
  max 1 (min 26 (place - bias))

/-- Divides a distance by 35 until it is small, counting 36 for every division. -/
def scale : (fuel distance : Nat) → Nat × Nat
  | 0, distance => (0, distance)
  | fuel + 1, distance =>
    if 455 < distance then
      let (count, rest) := scale fuel (distance / 35)
      (count + 36, rest)
    else (0, distance)

/-- The bias after a number, where `count` characters have been written so far. -/
def adapt (distance count : Nat) (isFirst : Bool) : Nat :=
  let halved := if isFirst then distance / 700 else distance / 2
  let (counted, rest) := scale halved (halved + halved / count)
  counted + 36 * rest / (rest + 38)

/-! ## Encoding -/

def number (bias : Nat) : (fuel place value : Nat) → Text
  | 0, _, _ => []
  | fuel + 1, place, value =>
    let t := threshold place bias
    if value < t then [digit value]
    else digit (t + (value - t) % (36 - t)) ::
      number bias fuel (place + 36) ((value - t) / (36 - t))

structure Progress where
  written : Text
  distance : Nat
  bias : Nat
  count : Nat

/-- Goes past one character of the label on the round for code point `point`. -/
def Progress.pass (basics point : Nat) (s : Progress) (c : Char) : Progress :=
  if c.toNat < point then { s with distance := s.distance + 1 }
  else if c.toNat = point then
    { written := s.written ++ number s.bias (s.distance + 1) 36 s.distance
      distance := 0
      bias := adapt s.distance (s.count + 1) (s.count == basics)
      count := s.count + 1 }
  else s

/-- The rounds for ascending code points, from `next` on. -/
def rounds (label : Text) (basics next : Nat) (s : Progress) : List Nat → Progress
  | [] => s
  | point :: points =>
    let moved := { s with distance := s.distance + (point - next) * (s.count + 1) }
    let passed := label.foldl (Progress.pass basics point) moved
    rounds label basics (point + 1) { passed with distance := passed.distance + 1 } points

def encode (label : Text) : Text :=
  let basic := label.filter fun c => c.toNat < 128
  let points := ((label.filter fun c => 128 ≤ c.toNat).map Char.toNat).mergeSort.eraseDups
  let start := if basic.isEmpty then [] else basic ++ ['-']
  (rounds label basic.length 128 ⟨start, 0, 72, basic.length⟩ points).written

/-! ## Decoding -/

/-- What a number and the weights of its digits stay below. -/
def numberLimit : Nat := 4294967296

/-- The number at the start of a text, from a given place and weight on, added to what has been
reached, and the rest. -/
def readNumber? (reached bias place weight : Nat) : Text → Option (Nat × Text)
  | [] => none
  | c :: cs => do
    let d ← value? c
    let t := threshold place bias
    let sum := reached + d * weight
    if numberLimit ≤ sum then none
    else if d < t then some (sum, cs)
    else if numberLimit ≤ weight * (36 - t) then none
    else readNumber? sum bias (place + 36) (weight * (36 - t)) cs

/-- The label after the numbers in a text, from a state of reading. -/
def insertAll? : (fuel point index bias : Nat) → (label rest : Text) → Option Text
  | _, _, _, _, label, [] => some label
  | 0, _, _, _, _, _ :: _ => none
  | fuel + 1, point, index, bias, label, rest => do
    let (reached, rest) ← readNumber? index bias 36 1 rest
    let count := label.length + 1
    let point := point + reached / count
    let place := reached % count
    if 0x10FFFF < point ∨ (0xD800 ≤ point ∧ point ≤ 0xDFFF) then none
    else
      insertAll? fuel point (place + 1) (adapt (reached - index) count (index == 0))
        (label.take place ++ Char.ofNat point :: label.drop place) rest

/-- The label that an ASCII form writes. The last hyphen ends the ASCII characters of the label. -/
def decode? (t : Text) : Option Text :=
  match Text.cutAt? (· == '-') t.reverse with
  -- A hyphen in front ends none.
  | some (_, []) => none
  | some (numbers, basic) =>
    if basic.all fun c => c.toNat < 128 then
      insertAll? t.length 128 0 72 basic.reverse numbers.reverse
    else none
  | none => insertAll? t.length 128 0 72 [] t

end Punycode

end CiteIndex
