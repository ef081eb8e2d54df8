import CiteIndex.Text.Basic

/-!
# Percent encoding

Texts inside URLs write some characters as the bytes of their UTF-8 form, each byte as a percent
sign and two hexadecimal digits.

- `Percent.encode`: a text as one component of a URL
- `Percent.encodeWhere`: with a chosen set of characters to be encoded
- `Percent.decode`: the bytes that a text writes
-/

namespace CiteIndex

namespace Percent

def hexDigit (n : Nat) : Char :=
  (Nat.digitChar n).toUpper

def escape (b : UInt8) : Text :=
  ['%', hexDigit (b.toNat / 16), hexDigit (b.toNat % 16)]

def escapeChar (c : Char) : Text :=
  (String.utf8EncodeChar c).flatMap escape

def encodeWhere (isEncoded : Char → Bool) (t : Text) : Text :=
  t.flatMap fun c => if isEncoded c then escapeChar c else [c]

/-- A character that stands for itself in every component of a URL. -/
def isUnreserved (c : Char) : Bool :=
  c.isAlphanum || c == '-' || c == '.' || c == '_' || c == '~'

def encode (t : Text) : Text :=
  encodeWhere (fun c => !isUnreserved c) t

def hexValue? (c : Char) : Option Nat :=
  if c.isDigit then some (c.toNat - '0'.toNat)
  else if 'a' ≤ c ∧ c ≤ 'f' then some (c.toNat - 'a'.toNat + 10)
  else if 'A' ≤ c ∧ c ≤ 'F' then some (c.toNat - 'A'.toNat + 10)
  else none

/-- The byte that the first two characters of a text write in hexadecimal digits. -/
def escaped? : Text → Option UInt8
  | a :: b :: _ => do
    let high ← hexValue? a
    let low ← hexValue? b
    return UInt8.ofNat (high * 16 + low)
  | _ => none

/-- The bytes of a text in which the next `skip` characters belong to an escape already read. -/
def decodeFrom (skip : Nat) : Text → List UInt8
  | [] => []
  | c :: cs =>
    match skip with
    | n + 1 => decodeFrom n cs
    | 0 =>
      if c = '%' then
        match escaped? cs with
        | some b => b :: decodeFrom 2 cs
        | none => 0x25 :: decodeFrom 0 cs
      else String.utf8EncodeChar c ++ decodeFrom 0 cs

/-- The bytes that a text writes. A percent sign without two hexadecimal digits behind it stands
for itself. -/
def decode (t : Text) : List UInt8 :=
  decodeFrom 0 t

end Percent

end CiteIndex
