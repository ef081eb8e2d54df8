import CiteIndex.Text.Percent
import CiteIndex.Url.Error

/-!
# Addresses

Hosts that are written as numbers. An IPv4 address has up to four parts, each decimal, octal or
hexadecimal, the last of which fills the bytes that are left; an IPv6 address has eight groups of
which one run of zeros may be left out, and may end in an IPv4 address.

- `Address.endsInNumber`, `Address.ipv4`: names that have to be IPv4 addresses, and reading them
- `Address.ipv6`: reading IPv6 addresses
-/

namespace CiteIndex

namespace Address

/-! ## IPv4 -/

def digitsIn? (base : Nat) (digits : Text) : Option Nat :=
  digits.foldlM (fun n c =>
    match Percent.hexValue? c with
    | some d => if d < base then some (n * base + d) else none
    | none => none) 0

/-- The value of one part of an IPv4 address. Without further digits `0x` and `0` are zero. -/
def partValue? : Text → Option Nat
  | [] => none
  | '0' :: 'x' :: digits => digitsIn? 16 digits
  | '0' :: 'X' :: digits => digitsIn? 16 digits
  -- A leading zero makes the number octal.
  | '0' :: d :: digits => digitsIn? 8 (d :: digits)
  | digits => digitsIn? 10 digits

/-- The parts of a name between dots, without an empty one at the end. -/
def parts (t : Text) : List Text :=
  let pieces := Text.splitWhere (· == '.') t
  match pieces.getLast? with
  | some [] => pieces.dropLast
  | _ => pieces

/-- Is the last part of a name a number, so that the whole has to be an IPv4 address. -/
def endsInNumber (t : Text) : Bool :=
  match (parts t).getLast? with
  | none => false
  | some [] => false
  | some part => part.all Char.isDigit || (partValue? part).isSome

/-- The number that the parts of an IPv4 address make up: a byte each, and the rest of the four
bytes for the last. -/
def combine? : (room : Nat) → List Nat → Option Nat
  | _, [] => none
  | room, [last] => if last < 256 ^ room then some last else none
  | room, first :: rest =>
    if first < 256 ∧ 1 < room then
      (combine? (room - 1) rest).map fun n => first * 256 ^ (room - 1) + n
    else none

def ipv4Text (n : Nat) : Text :=
  let bytes := [n / 16777216 % 256, n / 65536 % 256, n / 256 % 256, n % 256]
  Text.join ['.'] (bytes.map Text.ofNat)

def ipv4 (t : Text) : Except UrlError Text :=
  match ((parts t).mapM partValue?).bind (combine? 4) with
  | some n => .ok (ipv4Text n)
  | none => .error .invalidIpv4

/-! ## IPv6 -/

/-- The value of a group of one to four hexadecimal digits. -/
def group? (t : Text) : Option Nat :=
  if 1 ≤ t.length ∧ t.length ≤ 4 then digitsIn? 16 t else none

def byte? (t : Text) : Option Nat :=
  match t with
  | [] => none
  | '0' :: _ :: _ => none
  | digits => (digitsIn? 10 digits).bind fun n => if n < 256 then some n else none

/-- The two groups that an IPv4 address fills at the end of an IPv6 address. -/
def dottedGroups? (t : Text) : Option (List Nat) :=
  match (Text.splitWhere (· == '.') t).mapM byte? with
  | some [a, b, c, d] => some [a * 256 + b, c * 256 + d]
  | _ => none

def groups? : List Text → Option (List Nat)
  | [] => some []
  | [last] => if last.contains '.' then dottedGroups? last else (group? last).map ([·])
  | first :: rest => do
    let n ← group? first
    let ns ← groups? rest
    return n :: ns

/-- The values of the groups in a text, none if it is empty. -/
def groupsIn? (t : Text) : Option (List Nat) :=
  if t.isEmpty then some [] else groups? (Text.splitWhere (· == ':') t)

def cutDoubleColon? : Text → Option (Text × Text)
  | [] => none
  | ':' :: ':' :: cs => some ([], cs)
  | c :: cs => (cutDoubleColon? cs).map (Text.consLeft c)

def allGroups? (t : Text) : Option (List Nat) :=
  match cutDoubleColon? t with
  | none => (groupsIn? t).bind fun ns => if ns.length = 8 then some ns else none
  | some (left, right) => do
    if left.contains '.' then none
    let before ← groupsIn? left
    let after ← groupsIn? right
    if before.length + after.length ≤ 7 then
      some (before ++ List.replicate (8 - before.length - after.length) 0 ++ after)
    else none

def zeroRun (ns : List Nat) : Nat :=
  (ns.takeWhile (· == 0)).length

def longestZeroRun : List Nat → Nat
  | [] => 0
  | n :: ns => max (zeroRun (n :: ns)) (longestZeroRun ns)

def groupsText (ns : List Nat) : Text :=
  Text.join [':'] (ns.map (Nat.toDigits 16))

/-- What stands before and after the first run of `length` zeros. -/
def cutZeroRun (length : Nat) : List Nat → List Nat × List Nat
  | [] => ([], [])
  | n :: ns =>
    if zeroRun (n :: ns) = length then ([], (n :: ns).drop length)
    else
      let cut := cutZeroRun length ns
      (n :: cut.1, cut.2)

/-- The groups of an IPv6 address with the first of the longest runs of zeros left out, if it is
longer than one group. -/
def ipv6Text (ns : List Nat) : Text :=
  let longest := longestZeroRun ns
  if longest < 2 then groupsText ns
  else
    let cut := cutZeroRun longest ns
    groupsText cut.1 ++ ':' :: ':' :: groupsText cut.2

def ipv6 (t : Text) : Except UrlError Text :=
  match allGroups? t with
  | some ns => .ok (ipv6Text ns)
  | none => .error .invalidIpv6

end Address

end CiteIndex
