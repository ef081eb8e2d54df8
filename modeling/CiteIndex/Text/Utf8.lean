import CiteIndex.Text.Basic

/-!
# Reading UTF-8 with replacements

Bodies of responses are read as UTF-8 whatever they are. Each longest part of a sequence that
cannot be completed becomes one replacement character, and a byte order mark in front is dropped.

- `Utf8.decodeLossy`: the text of any bytes
-/

namespace CiteIndex

namespace Utf8

def replacement : Char := '\ufffd'

/-- What a first byte asks for: how many bytes follow, the range of the first of them, and the
bits that the first byte carries. -/
def lead? (b : Nat) : Option (Nat × Nat × Nat × Nat) :=
  if 0xC2 ≤ b ∧ b ≤ 0xDF then some (1, 0x80, 0xBF, b - 0xC0)
  else if b = 0xE0 then some (2, 0xA0, 0xBF, 0)
  else if b = 0xED then some (2, 0x80, 0x9F, 13)
  else if 0xE1 ≤ b ∧ b ≤ 0xEF then some (2, 0x80, 0xBF, b - 0xE0)
  else if b = 0xF0 then some (3, 0x90, 0xBF, 0)
  else if 0xF1 ≤ b ∧ b ≤ 0xF3 then some (3, 0x80, 0xBF, b - 0xF0)
  else if b = 0xF4 then some (3, 0x80, 0x8F, 4)
  else none

/-- A sequence that is being read: bytes to come, the range of the next one, the bits so far. -/
structure Pending where
  missing : Nat
  low : Nat
  high : Nat
  bits : Nat

/-- The text of a byte outside a sequence, and the sequence that it begins. -/
def start (b : Nat) : Text × Option Pending :=
  if b < 0x80 then ([Char.ofNat b], none)
  else
    match lead? b with
    | some (missing, low, high, bits) => ([], some ⟨missing, low, high, bits⟩)
    | none => ([replacement], none)

/-- The text that one more byte gives, and the sequence that is open after it. -/
def next (pending : Option Pending) (b : Nat) : Text × Option Pending :=
  match pending with
  | none => start b
  | some p =>
    if p.low ≤ b ∧ b ≤ p.high then
      let bits := p.bits * 64 + (b - 0x80)
      if p.missing ≤ 1 then ([Char.ofNat bits], none)
      else ([], some ⟨p.missing - 1, 0x80, 0xBF, bits⟩)
    else
      let (text, begun) := start b
      (replacement :: text, begun)

def decodeFrom (pending : Option Pending) : List UInt8 → Text
  | [] => if pending.isSome then [replacement] else []
  | b :: bs =>
    let (text, pending) := next pending b.toNat
    text ++ decodeFrom pending bs

def decodeLossy (bytes : ByteArray) : Text :=
  match bytes.toList with
  | 0xEF :: 0xBB :: 0xBF :: rest => decodeFrom none rest
  | all => decodeFrom none all

end Utf8

end CiteIndex
