import CiteIndex.Proofs.Text.ByteOrder

/-!
# Reading in place

A reader that copies nothing works on the bytes of a text and on positions in them. It can go wrong
where one that takes a text apart cannot: a position may lie inside a character or behind the end,
and a counter may fall below zero. What is defined here fails in these cases. On the bytes of a text
none of them arises as long as a reader stops at ASCII characters only, since all bytes of a
character beyond ASCII lie beyond ASCII themselves.

- `InPlace.slice`, `InPlace.charAt`: the bytes between two positions, and the one at a position
- `InPlace.skip`, `InPlace.search`: going on while a condition holds, and until a state says so
- `InPlace.slice_utf8`: a position behind a part of a text is no position inside a character
- `InPlace.skip_utf8`, `InPlace.search_utf8_cons`: the readers go character by character
-/

namespace CiteIndex

open Text (utf8)

namespace Text

theorem utf8_append (s t : Text) : utf8 (s ++ t) = utf8 s ++ utf8 t := by
  rw [utf8_eq_flatMap, utf8_eq_flatMap, utf8_eq_flatMap, List.flatMap_append]

theorem utf8_ne_nil {t : Text} (h : t ≠ []) : utf8 t ≠ [] := by
  obtain ⟨c, cs, rfl⟩ := List.exists_cons_of_ne_nil h
  rw [utf8_cons]
  exact List.append_ne_nil_of_left_ne_nil String.utf8EncodeChar_ne_nil (utf8 cs)

end Text

namespace InPlace

inductive Fault where
  /-- The positions are not in order, not between characters, or not in the text. -/
  | slice (start stop : Nat)
  | index (i : Nat)
  /-- A counter is at zero and should be lowered. -/
  | counter
  deriving DecidableEq, Repr

/-! ## Readers -/

/-- Does a byte go on with a character. -/
def isContinuation (b : UInt8) : Bool :=
  0x80 ≤ b.toNat && b.toNat < 0xC0

/-- Does a position lie between characters. -/
def isBoundary (bytes : List UInt8) (i : Nat) : Bool :=
  if i = 0 then true
  else
    match bytes[i]? with
    | some b => !isContinuation b
    | none => i == bytes.length

def slice (bytes : List UInt8) (start stop : Nat) : Except Fault (List UInt8) :=
  if start ≤ stop ∧ stop ≤ bytes.length ∧ isBoundary bytes start ∧ isBoundary bytes stop then
    .ok ((bytes.take stop).drop start)
  else .error (.slice start stop)

/-- The character as which the byte at a position is compared, if the position is in the text. -/
def peek? (bytes : List UInt8) (i : Nat) : Option Char :=
  bytes[i]?.map Char.ofUInt8

def charAt (bytes : List UInt8) (i : Nat) : Except Fault Char :=
  match peek? bytes i with
  | some c => .ok c
  | none => .error (.index i)

/-- The first position from `i` on at which a condition does not hold. -/
def skip (p : Char → Bool) (bytes : List UInt8) (i : Nat) : Nat :=
  i + ((bytes.drop i).takeWhile fun b => p (Char.ofUInt8 b)).length

/-- The position at which the search ends, where `i` is that of the first of the bytes. The state
that is kept may end the search at a character, or may not be able to take it. -/
def search {σ : Type} (step : σ → Char → Except Fault (Option σ)) :
    σ → Nat → List UInt8 → Except Fault (Option Nat)
  | _, _, [] => .ok none
  | s, i, b :: bs =>
    match step s (Char.ofUInt8 b) with
    | .error e => .error e
    | .ok none => .ok (some i)
    | .ok (some s') => search step s' (i + 1) bs

/-! ## Bounds -/

@[simp]
theorem ok_bind {α β : Type} (a : α) (f : α → Except Fault β) : (Except.ok a >>= f) = f a := rfl

/-- Two computations in a row succeed only if both do. -/
theorem bind_eq_ok {α β : Type} {x : Except Fault α} {f : α → Except Fault β} {b : β}
    (h : (x >>= f) = .ok b) : ∃ a, x = .ok a ∧ f a = .ok b := by
  cases x with
  | error e => cases h
  | ok a => exact ⟨a, rfl, h⟩

theorem le_skip (p : Char → Bool) (bytes : List UInt8) (i : Nat) : i ≤ skip p bytes i :=
  Nat.le_add_right _ _

/-- A slice that is cut lies inside the text. -/
theorem bounds_of_slice {bytes part : List UInt8} {start stop : Nat}
    (h : slice bytes start stop = .ok part) :
    start ≤ stop ∧ stop ≤ bytes.length ∧ part.length = stop - start := by
  rw [slice] at h
  split at h
  · rename_i hin
    cases h
    refine ⟨hin.1, hin.2.1, ?_⟩
    rw [List.length_drop, List.length_take, Nat.min_eq_left hin.2.1]
  · cases h

/-- A search ends inside the text. -/
theorem bounds_of_search {σ : Type} {step : σ → Char → Except Fault (Option σ)} {s : σ} {i j : Nat}
    {bytes : List UInt8} (h : search step s i bytes = .ok (some j)) :
    i ≤ j ∧ j < i + bytes.length := by
  induction bytes generalizing s i with
  | nil => cases h
  | cons b bs ih =>
      rw [search] at h
      rw [List.length_cons]
      split at h
      · cases h
      · cases h
        omega
      · have := ih h
        omega

theorem skip_le (p : Char → Bool) {bytes : List UInt8} {i : Nat} (h : i ≤ bytes.length) :
    skip p bytes i ≤ bytes.length := by
  have hle := (List.takeWhile_sublist (fun b => p (Char.ofUInt8 b)) (l := bytes.drop i)).length_le
  rw [List.length_drop] at hle
  rw [skip]
  omega

/-! ## Bytes of characters -/

theorem toNat_ofUInt8 (b : UInt8) : (Char.ofUInt8 b).toNat = b.toNat := rfl

/-- A character is one byte that is compared as it, or it is written in bytes that are compared as
characters beyond ASCII, as it is itself. -/
theorem utf8EncodeChar_cases (c : Char) :
    (∃ b, String.utf8EncodeChar c = [b] ∧ Char.ofUInt8 b = c) ∨
      128 ≤ c.toNat ∧ ∀ b ∈ String.utf8EncodeChar c, 128 ≤ (Char.ofUInt8 b).toNat := by
  have hcode : c.val.toNat = c.toNat := rfl
  fun_cases String.utf8EncodeChar c with
  | case1 =>
      left
      refine ⟨_, rfl, Char.toNat_inj.1 ?_⟩
      rw [toNat_ofUInt8, UInt8.toNat_ofNat']
      omega
  | case2 | case3 | case4 =>
      right
      refine ⟨by omega, ?_⟩
      simp only [List.forall_mem_cons, toNat_ofUInt8, UInt8.toNat_ofNat', List.not_mem_nil,
        false_implies, implies_true, and_true]
      omega

theorem length_utf8_le (s t : Text) : (utf8 s).length ≤ (utf8 (s ++ t)).length := by
  rw [Text.utf8_append, List.length_append]
  exact Nat.le_add_right _ _

theorem length_utf8_lt (s : Text) (c : Char) (t : Text) :
    (utf8 s).length < (utf8 (s ++ c :: t)).length := by
  have hpos := List.length_pos_iff.2 (String.utf8EncodeChar_ne_nil (c := c))
  rw [Text.utf8_append, Text.utf8_cons, List.length_append, List.length_append]
  omega

/-- Behind an ASCII character begins the next position. -/
theorem length_utf8_ascii {c : Char} (hc : c.toNat < 128) (s : Text) :
    (utf8 (s ++ [c])).length = (utf8 s).length + 1 := by
  rcases utf8EncodeChar_cases c with ⟨b, hbytes, -⟩ | ⟨hbeyond, -⟩
  · rw [Text.utf8_append, Text.utf8_cons, hbytes, List.length_append]
    rfl
  · omega

/-- No character begins with a byte that goes on with one. -/
theorem head_utf8EncodeChar (c : Char) :
    ∀ b ∈ (String.utf8EncodeChar c).head?, isContinuation b = false := by
  fun_cases String.utf8EncodeChar c
  all_goals
    intro b hb
    obtain rfl := Option.some.inj hb
    simp only [isContinuation, UInt8.toNat_ofNat', Bool.and_eq_false_iff, decide_eq_false_iff_not]
    omega

/-! ## Positions between characters -/

/-- Behind every part of a text lies a boundary. -/
theorem isBoundary_utf8 (s t : Text) : isBoundary (utf8 (s ++ t)) (utf8 s).length := by
  rw [isBoundary, Text.utf8_append]
  split
  · rfl
  · rw [List.getElem?_append_right (Nat.le_refl _), Nat.sub_self]
    cases t with
    | nil => simp [Text.utf8_nil]
    | cons c cs =>
        obtain ⟨b, bs, hbytes⟩ :=
          List.exists_cons_of_ne_nil (String.utf8EncodeChar_ne_nil (c := c))
        have hfirst := head_utf8EncodeChar c b (by rw [hbytes]; rfl)
        rw [Text.utf8_cons, hbytes]
        simp [hfirst]

/-- Between positions behind parts of a text stand the bytes of a part. -/
theorem slice_utf8 (s t u : Text) :
    slice (utf8 (s ++ (t ++ u))) (utf8 s).length (utf8 (s ++ t)).length = .ok (utf8 t) := by
  have hstart := isBoundary_utf8 s (t ++ u)
  have hstop := isBoundary_utf8 (s ++ t) u
  rw [List.append_assoc] at hstop
  rw [slice, if_pos, ← List.append_assoc, Text.utf8_append (s ++ t), List.take_left,
    Text.utf8_append, List.drop_left]
  refine ⟨length_utf8_le s t, ?_, hstart, hstop⟩
  rw [← List.append_assoc]
  exact length_utf8_le (s ++ t) u

/-- A slice up to the end. -/
theorem slice_utf8_end (s t : Text) :
    slice (utf8 (s ++ t)) (utf8 s).length (utf8 (s ++ t)).length = .ok (utf8 t) := by
  have hslice := slice_utf8 s t []
  rwa [List.append_nil] at hslice

theorem drop_utf8 (s t : Text) : (utf8 (s ++ t)).drop (utf8 s).length = utf8 t := by
  rw [Text.utf8_append, List.drop_left]

/-! ## Conditions on characters -/

/-- Conditions that hold of all characters beyond ASCII or of none. -/
def IsAsciiClass (p : Char → Bool) : Prop :=
  ∀ c d, 128 ≤ c.toNat → 128 ≤ d.toNat → p c = p d

theorem IsAsciiClass.of_lt {p : Char → Bool} (h : ∀ c, p c → c.toNat < 128) : IsAsciiClass p := by
  have hbeyond : ∀ c : Char, 128 ≤ c.toNat → p c = false := by
    intro c hc
    refine Bool.eq_false_iff.2 fun hpc => ?_
    have := h c hpc
    omega
  intro c d hc hd
  rw [hbeyond c hc, hbeyond d hd]

theorem IsAsciiClass.not {p : Char → Bool} (hp : IsAsciiClass p) : IsAsciiClass fun c => !p c :=
  fun c d hc hd => congrArg Bool.not (hp c d hc hd)

theorem IsAsciiClass.or {p q : Char → Bool} (hp : IsAsciiClass p) (hq : IsAsciiClass q) :
    IsAsciiClass fun c => p c || q c := by
  intro c d hc hd
  simp only [hp c d hc hd, hq c d hc hd]

theorem isAsciiClass_eq {a : Char} (ha : a.toNat < 128) : IsAsciiClass (· == a) :=
  .of_lt fun c hc => by rwa [eq_of_beq hc]

section Class

variable {p : Char → Bool} (hp : IsAsciiClass p)
include hp

/-- The bytes of a character are compared like the character. -/
theorem IsAsciiClass.ofByte {c : Char} {b : UInt8} (hb : b ∈ String.utf8EncodeChar c) :
    p (Char.ofUInt8 b) = p c := by
  rcases utf8EncodeChar_cases c with ⟨b', hbytes, rfl⟩ | ⟨hc, hbytes⟩
  · rw [hbytes, List.mem_singleton] at hb
    rw [hb]
  · exact hp _ _ (hbytes b hb) hc

theorem IsAsciiClass.ofByte_of_mem {t : Text} (ht : ∀ c ∈ t, p c = false) :
    ∀ b ∈ utf8 t, p (Char.ofUInt8 b) = false := by
  intro b hb
  rw [Text.utf8_eq_flatMap, List.mem_flatMap] at hb
  obtain ⟨c, hc, hb⟩ := hb
  exact (hp.ofByte hb).trans (ht c hc)

/-- A class that takes all characters beyond ASCII or none is told from single bytes. -/
theorem takeWhile_utf8 (t : Text) :
    ((utf8 t).takeWhile fun b => p (Char.ofUInt8 b)) = utf8 (t.takeWhile p) := by
  induction t with
  | nil => rfl
  | cons c cs ih =>
      have hbytes : ∀ b ∈ String.utf8EncodeChar c, p (Char.ofUInt8 b) = p c :=
        fun b hb => hp.ofByte hb
      rw [Text.utf8_cons]
      cases hc : p c with
      | true =>
          rw [List.takeWhile_append_of_pos fun b hb => (hbytes b hb).trans hc, ih,
            List.takeWhile_cons_of_pos hc, Text.utf8_cons]
      | false =>
          obtain ⟨b, bs, hcons⟩ :=
            List.exists_cons_of_ne_nil (String.utf8EncodeChar_ne_nil (c := c))
          have hb : p (Char.ofUInt8 b) = false :=
            (hbytes b (by rw [hcons]; exact List.mem_cons_self)).trans hc
          rw [hcons, List.cons_append, List.takeWhile_cons_of_neg (by simp [hb]),
            List.takeWhile_cons_of_neg (by simp [hc]), Text.utf8_nil]

/-- Skipping goes on behind the characters that a condition holds of. -/
theorem skip_utf8 (s t : Text) :
    skip p (utf8 (s ++ t)) (utf8 s).length = (utf8 (s ++ t.takeWhile p)).length := by
  rw [skip, drop_utf8, takeWhile_utf8 hp, Text.utf8_append s (t.takeWhile p), List.length_append]

/-- The run of a class is skipped to its end. -/
theorem skip_utf8_stop {w : Text} (hw : ∀ c ∈ w, p c) (s : Text) {t : Text}
    (ht : ∀ c ∈ t.head?, p c = false) :
    skip p (utf8 (s ++ (w ++ t))) (utf8 s).length = (utf8 (s ++ w)).length := by
  rw [skip_utf8 hp, List.takeWhile_append_of_pos hw]
  cases t with
  | nil => rw [List.takeWhile_nil, List.append_nil]
  | cons c cs => rw [List.takeWhile_cons_of_neg (by simp [ht c rfl]), List.append_nil]

end Class

/-- The byte behind a part of a text is compared like the character that stands there. -/
theorem peek?_utf8_cons (s : Text) (c : Char) (t : Text) :
    ∃ x, peek? (utf8 (s ++ c :: t)) (utf8 s).length = some x ∧
      (x = c ∨ 128 ≤ x.toNat ∧ 128 ≤ c.toNat) := by
  obtain ⟨b, bs, hbytes⟩ := List.exists_cons_of_ne_nil (String.utf8EncodeChar_ne_nil (c := c))
  refine ⟨Char.ofUInt8 b, ?_, ?_⟩
  · rw [peek?, Text.utf8_append, List.getElem?_append_right (Nat.le_refl _), Nat.sub_self,
      Text.utf8_cons, hbytes]
    rfl
  · rcases utf8EncodeChar_cases c with ⟨b', hone, hb'⟩ | ⟨hc, hbeyond⟩
    · obtain ⟨rfl, -⟩ := List.cons.inj (hbytes.symm.trans hone)
      exact .inl hb'
    · exact .inr ⟨hbeyond b (by rw [hbytes]; exact List.mem_cons_self), hc⟩

theorem peek?_utf8_end (s : Text) : peek? (utf8 s) (utf8 s).length = none := by
  rw [peek?, List.getElem?_eq_none (Nat.le_refl _)]
  rfl

/-- At an ASCII character that character is compared. -/
theorem peek?_utf8_ascii {c : Char} (hc : c.toNat < 128) (s t : Text) :
    peek? (utf8 (s ++ c :: t)) (utf8 s).length = some c := by
  obtain ⟨x, hx, rfl | ⟨-, hbeyond⟩⟩ := peek?_utf8_cons s c t
  · exact hx
  · omega

theorem peek?_utf8_ne {c : Char} (hc : c.toNat < 128) (s : Text) {t : Text}
    (ht : t.head? ≠ some c) : peek? (utf8 (s ++ t)) (utf8 s).length ≠ some c := by
  cases t with
  | nil =>
      rw [List.append_nil, peek?_utf8_end]
      exact nofun
  | cons d ds =>
      obtain ⟨x, hx, hd⟩ := peek?_utf8_cons s d ds
      rw [hx]
      rintro hxc
      obtain rfl := Option.some.inj hxc
      rcases hd with rfl | ⟨hbeyond, -⟩
      · exact ht rfl
      · omega

/-- An ASCII character is read from its byte. -/
theorem charAt_utf8 {c : Char} (hc : c.toNat < 128) (s t : Text) :
    charAt (utf8 (s ++ c :: t)) (utf8 s).length = .ok c := by
  rw [charAt, peek?_utf8_ascii hc]

/-! ## Searches -/

section Search

variable {σ : Type} {step : σ → Char → Except Fault (Option σ)}

/-- Searches whose state does not change at characters beyond ASCII. -/
def IsAsciiSearch (step : σ → Char → Except Fault (Option σ)) : Prop :=
  ∀ s c, 128 ≤ c.toNat → step s c = .ok (some s)

/-- Bytes beyond ASCII are passed over. -/
theorem search_append_beyond (hstep : IsAsciiSearch step) (s : σ) (i : Nat) {bs : List UInt8}
    (hbs : ∀ b ∈ bs, 128 ≤ (Char.ofUInt8 b).toNat) (rest : List UInt8) :
    search step s i (bs ++ rest) = search step s (i + bs.length) rest := by
  induction bs generalizing i with
  | nil => rfl
  | cons b bs ih =>
      obtain ⟨hb, hbs⟩ := List.forall_mem_cons.1 hbs
      rw [List.cons_append, search, hstep s _ hb]
      simp only
      rw [ih (i + 1) hbs, List.length_cons]
      congr 1
      omega

/-- A search in the bytes of a text takes one character after the other. -/
theorem search_utf8_cons (hstep : IsAsciiSearch step) (s : σ) (i : Nat) (c : Char) (t : Text) :
    search step s i (utf8 (c :: t)) =
      match step s c with
      | .error e => .error e
      | .ok none => .ok (some i)
      | .ok (some s') => search step s' (i + (utf8 [c]).length) (utf8 t) := by
  have hone : utf8 [c] = String.utf8EncodeChar c := by
    rw [Text.utf8_cons, Text.utf8_nil, List.append_nil]
  rw [Text.utf8_cons, hone]
  rcases utf8EncodeChar_cases c with ⟨b, hbytes, hb⟩ | ⟨hc, hbytes⟩
  · rw [hbytes, List.singleton_append, search, hb]
    rfl
  · rw [search_append_beyond hstep s i hbytes, hstep s c hc]

end Search

end InPlace

end CiteIndex
