import CiteIndex.File.Access

/-!
# Order of UTF-8 forms

Texts are compared by code point. Whoever sorts them as they are stored compares bytes. The two
orders are the same: of two characters the one with the smaller code point has the smaller UTF-8
form, and neither form begins with the other.

- `Text.utf8`: the bytes of a text
- `Text.compare_utf8EncodeChar`: forms of different characters
- `Text.compare_utf8`: comparing bytes is comparing characters
-/

namespace CiteIndex

namespace Text

def utf8 (t : Text) : List UInt8 :=
  (FileTree.bytesOf t).data.toList

theorem utf8_eq_flatMap (t : Text) : utf8 t = t.flatMap String.utf8EncodeChar := by
  rw [utf8, FileTree.bytesOf, String.toUTF8_eq_toByteArray, String.toByteArray_ofList]
  exact List.toList_data_toByteArray

theorem utf8_nil : utf8 [] = [] := by
  rw [utf8_eq_flatMap, List.flatMap_nil]

theorem utf8_cons (c : Char) (t : Text) : utf8 (c :: t) = String.utf8EncodeChar c ++ utf8 t := by
  rw [utf8_eq_flatMap, utf8_eq_flatMap, List.flatMap_cons]

/-! ## Bytes -/

theorem compare_bytes_eq_lt_iff {x y : UInt8} {xs ys : List UInt8} :
    Ord.compare (x :: xs) (y :: ys) = .lt ↔
      x.toNat < y.toNat ∨ x.toNat = y.toNat ∧ Ord.compare xs ys = .lt := by
  rw [List.compare_cons_cons, Ordering.then_eq_lt, Std.compare_eq_lt,
    Std.LawfulEqOrd.compare_eq_iff_eq, UInt8.lt_iff_toNat_lt, ← UInt8.toNat_inj]

theorem compare_append_left (xs ys zs : List UInt8) :
    Ord.compare (xs ++ ys) (xs ++ zs) = Ord.compare ys zs := by
  induction xs with
  | nil => rfl
  | cons x xs ih =>
      have hself : Ord.compare x x = .eq := Std.ReflOrd.compare_self
      rw [List.cons_append, List.cons_append, List.compare_cons_cons, hself, Ordering.eq_then, ih]

/-! ## Characters -/

theorem code_lt (c : Char) : c.val.toNat < 0x110000 := by
  have hvalid := c.valid
  simp only [UInt32.isValidChar, Nat.isValidChar] at hvalid
  omega

/-- The smaller of two characters has the smaller form, whatever follows. -/
theorem compare_utf8EncodeChar {a b : Char} (hlt : a.val < b.val) (xs ys : List UInt8) :
    Ord.compare (String.utf8EncodeChar a ++ xs) (String.utf8EncodeChar b ++ ys) = .lt := by
  have hcode : a.val.toNat < b.val.toNat := hlt
  have hbound := code_lt b
  -- Forms of different lengths part at the first byte, forms of one length at the first digit to
  -- the base 64 in which the code points do.
  fun_cases String.utf8EncodeChar a <;> fun_cases String.utf8EncodeChar b
  all_goals
    simp only [List.cons_append, List.nil_append, compare_bytes_eq_lt_iff, UInt8.toNat_ofNat']
    simp (disch := omega) only [Nat.mod_eq_of_lt]
    generalize Ord.compare (_ : List UInt8) _ = later
    by_cases later = .lt <;> simp only [*] <;> omega

/-! ## Texts -/

/-- Comparing two texts byte by byte is comparing them character by character. -/
theorem compare_utf8 (s t : Text) : Ord.compare (utf8 s) (utf8 t) = compare s t := by
  have hne (c : Char) (cs : Text) : utf8 (c :: cs) ≠ [] := by
    rw [utf8_cons]
    exact List.append_ne_nil_of_left_ne_nil String.utf8EncodeChar_ne_nil _
  fun_induction compare s t with
  | case1 => rw [utf8_nil, List.compare_nil_nil]
  | case2 b bs =>
      obtain ⟨y, ys, hbytes⟩ := List.exists_cons_of_ne_nil (hne b bs)
      rw [utf8_nil, hbytes, List.compare_nil_cons]
  | case3 a as =>
      obtain ⟨x, xs, hbytes⟩ := List.exists_cons_of_ne_nil (hne a as)
      rw [utf8_nil, hbytes, List.compare_cons_nil]
  | case4 a as b bs hlt =>
      rw [utf8_cons, utf8_cons]
      exact compare_utf8EncodeChar hlt (utf8 as) (utf8 bs)
  | case5 a as b bs _ hlt =>
      have hswap : Ord.compare (utf8 (b :: bs)) (utf8 (a :: as)) = .lt := by
        rw [utf8_cons, utf8_cons]
        exact compare_utf8EncodeChar hlt (utf8 bs) (utf8 as)
      rw [Std.OrientedOrd.eq_swap, hswap]
      rfl
  | case6 a as b bs hnot hnot' ih =>
      have heq : a = b := Char.le_antisymm (UInt32.not_lt.1 hnot') (UInt32.not_lt.1 hnot)
      subst heq
      rw [utf8_cons, utf8_cons, compare_append_left, ih]

end Text

end CiteIndex
