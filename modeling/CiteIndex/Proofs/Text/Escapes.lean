import CiteIndex.Text.Percent
import CiteIndex.Proofs.Text.ByteOrder

/-!
# Percent escapes undone

What an encoded text writes is the text itself, so texts that differ are encoded differently. The
characters of an encoded text are those of the text that stand for themselves, percent signs and
hexadecimal digits.

- `Percent.decode_encodeWhere`: an encoded text writes the bytes of the text
- `Percent.encode_inj`: different texts are encoded differently
- `Percent.mem_encodeWhere`: what an encoded text is made of
-/

namespace CiteIndex

/-- Different texts have different bytes. -/
theorem Text.utf8_inj {s t : Text} : utf8 s = utf8 t ↔ s = t := by
  constructor
  · intro h
    have hbytes : FileTree.bytesOf s = FileTree.bytesOf t :=
      ByteArray.ext (Array.toList_inj.1 h)
    rw [FileTree.bytesOf, FileTree.bytesOf, String.toUTF8_eq_toByteArray,
      String.toUTF8_eq_toByteArray, String.toByteArray_inj] at hbytes
    exact String.ofList_injective hbytes
  · rintro rfl
    rfl

namespace Percent

/-! ## Single escapes -/

theorem hexValue?_hexDigit {n : Nat} (hn : n < 16) : hexValue? (hexDigit n) = some n := by
  have hall : ∀ n < 16, hexValue? (hexDigit n) = some n := by decide
  exact hall n hn

theorem isUnreserved_hexDigit {n : Nat} (hn : n < 16) : isUnreserved (hexDigit n) := by
  have hall : ∀ n < 16, isUnreserved (hexDigit n) := by decide
  exact hall n hn

theorem decodeFrom_escape (b : UInt8) (t : Text) :
    decodeFrom 0 (escape b ++ t) = b :: decodeFrom 0 t := by
  have hbyte : b.toNat < 256 := b.toNat_lt
  have hdigits : escaped? (hexDigit (b.toNat / 16) :: hexDigit (b.toNat % 16) :: t) = some b := by
    rw [escaped?, hexValue?_hexDigit (by omega), hexValue?_hexDigit (by omega)]
    calc
      some (UInt8.ofNat (b.toNat / 16 * 16 + b.toNat % 16)) = some (UInt8.ofNat b.toNat) := by
        rw [Nat.div_add_mod']
      _ = some b := by rw [UInt8.ofNat_toNat]
  simp [escape, decodeFrom, hdigits]

/-- Bytes are read back from their escapes. -/
theorem decodeFrom_escapes (bytes : List UInt8) (t : Text) :
    decodeFrom 0 (bytes.flatMap escape ++ t) = bytes ++ decodeFrom 0 t := by
  induction bytes with
  | nil => rfl
  | cons b bytes ih =>
      rw [List.flatMap_cons, List.append_assoc, decodeFrom_escape, ih, List.cons_append]

/-! ## Encoded texts -/

variable {isEncoded : Char → Bool}

theorem encodeWhere_cons (c : Char) (t : Text) :
    encodeWhere isEncoded (c :: t) =
      (if isEncoded c then escapeChar c else [c]) ++ encodeWhere isEncoded t :=
  List.flatMap_cons

/-- An encoded text writes the text, whatever else is encoded beside the percent sign. -/
theorem decode_encodeWhere (hpercent : isEncoded '%') (t : Text) :
    decode (encodeWhere isEncoded t) = Text.utf8 t := by
  rw [decode]
  induction t with
  | nil => exact Text.utf8_nil.symm
  | cons c cs ih =>
      rw [encodeWhere_cons, Text.utf8_cons]
      by_cases hc : isEncoded c
      · rw [if_pos hc, escapeChar, decodeFrom_escapes, ih]
      · have hne : c ≠ '%' := by
          rintro rfl
          exact hc hpercent
        rw [if_neg hc, List.singleton_append, decodeFrom]
        simp only [hne, if_false, ih]

/-- Every text is read back from its escaped form. -/
theorem decode_encode (t : Text) : decode (encode t) = Text.utf8 t :=
  decode_encodeWhere (by decide) t

/-- Different texts are encoded differently. -/
theorem encode_inj {s t : Text} : encode s = encode t ↔ s = t := by
  constructor
  · intro h
    rw [← Text.utf8_inj, ← decode_encode, h, decode_encode]
  · rintro rfl
    rfl

theorem encodeWhere_eq_self {t : Text} (ht : ∀ c ∈ t, isEncoded c = false) :
    encodeWhere isEncoded t = t := by
  induction t with
  | nil => rfl
  | cons c cs ih =>
      obtain ⟨hc, hcs⟩ := List.forall_mem_cons.1 ht
      rw [encodeWhere_cons, hc, ih hcs]
      rfl

/-! ## What an encoded text is made of -/

theorem code_of_isUnreserved {c : Char} (hc : isUnreserved c) : c.toNat < 128 := by
  delta isUnreserved Char.isAlphanum Char.isAlpha Char.isUpper Char.isLower Char.isDigit at hc
  simp only [Bool.or_eq_true, Bool.and_eq_true, decide_eq_true_eq, beq_iff_eq,
    UInt32.le_iff_toNat_le, ge_iff_le] at hc
  rcases hc with (((((⟨-, hc⟩ | ⟨-, hc⟩) | ⟨-, hc⟩) | rfl) | rfl) | rfl) | rfl
  · exact Nat.lt_of_le_of_lt hc (by decide)
  · exact Nat.lt_of_le_of_lt hc (by decide)
  · exact Nat.lt_of_le_of_lt hc (by decide)
  · decide
  · decide
  · decide
  · decide

theorem mem_escapeChar {c d : Char} : d ∈ escapeChar c → d = '%' ∨ isUnreserved d := by
  intro hd
  obtain ⟨b, -, hd⟩ := List.mem_flatMap.1 hd
  have hbyte : b.toNat < 256 := b.toNat_lt
  simp only [escape, List.mem_cons, List.not_mem_nil, or_false] at hd
  rcases hd with rfl | rfl | rfl
  · exact .inl rfl
  · exact .inr (isUnreserved_hexDigit (by omega))
  · exact .inr (isUnreserved_hexDigit (by omega))

theorem mem_encodeWhere {t : Text} {d : Char} :
    d ∈ encodeWhere isEncoded t → d ∈ t ∧ isEncoded d = false ∨ d = '%' ∨ isUnreserved d := by
  intro hd
  obtain ⟨c, hc, hd⟩ := List.mem_flatMap.1 hd
  split at hd
  · exact .inr (mem_escapeChar hd)
  · rename_i hplain
    obtain rfl := List.mem_singleton.1 hd
    exact .inl ⟨hc, Bool.eq_false_iff.2 hplain⟩

/-- Escaped texts hold nothing but unreserved characters and percent signs. -/
theorem mem_encode {t : Text} {d : Char} : d ∈ encode t → d = '%' ∨ isUnreserved d := by
  intro hd
  rcases mem_encodeWhere hd with ⟨-, hplain⟩ | hd
  · exact .inr (by simpa using hplain)
  · exact hd

end Percent

end CiteIndex
