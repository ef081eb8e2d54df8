import CiteIndex.Bibliography.Field
import CiteIndex.Proofs.Bibliography.Balance

/-!
# Fields of a text that ends in blanks

The reader of fields takes a text apart into a name, blanks, a sign, blanks and a value. Read in
those parts, it is seen to take no notice of blanks at the end of the text: they close no value
that is open, and belong to none.

- `Field.read_field`, `Field.read_malformed`: one round of reading, by the parts of the text
- `Field.parse_append_gap`: blanks at the end change no field
-/

namespace CiteIndex

namespace Bibliography

/-! ## Blanks are nothing else -/

theorem ne_of_isAsciiBlank {c d : Char} (hc : Text.isAsciiBlank c) (hd : Text.isAsciiBlank d = false) :
    c ≠ d := by
  rintro rfl
  simp [hc] at hd

theorem Field.not_isNameChar_of_blank {c : Char} (hc : Text.isAsciiBlank c) :
    Field.isNameChar c = false := by
  simp [Field.isNameChar, hc]

theorem Field.not_isBareChar_of_blank {c : Char} (hc : Text.isAsciiBlank c) :
    Field.isBareChar c = false := by
  simp [Field.isBareChar, hc]

/-- What stops at the end of a text stops at a gap behind it as well. -/
theorem head_append_gap {p : Char → Bool} {t w : Text} (ht : ∀ c ∈ t.head?, p c = false)
    (hw : ∀ c ∈ w, Text.isAsciiBlank c) (hp : ∀ c, Text.isAsciiBlank c → p c = false) :
    ∀ c ∈ (t ++ w).head?, p c = false := by
  intro c hc
  cases t with
  | nil => exact hp c (hw c (List.mem_of_mem_head? hc))
  | cons d ds => exact ht c hc

/-! ## One round of reading -/

namespace Field

section Read

variable {name gap rest : Text}

/-- Where the name and the blanks behind it end. -/
theorem exists_name (t : Text) :
    ∃ name gap rest, t = name ++ (gap ++ rest) ∧ (∀ c ∈ name, isNameChar c) ∧
      (∀ c ∈ gap, Text.isAsciiBlank c) ∧ (∀ c ∈ rest.head?, Text.isAsciiBlank c = false) ∧
      ∀ c ∈ (gap ++ rest).head?, isNameChar c = false := by
  rcases Text.exists_stop isNameChar t with ⟨name, tail, rfl, hname, htail⟩
  rcases Text.exists_stop Text.isAsciiBlank tail with ⟨gap, rest, rfl, hgap, hrest⟩
  exact ⟨name, gap, rest, rfl, hname, hgap, hrest, htail⟩

/-- A name ends at the sign behind it, or at the blanks in front of the sign. -/
theorem not_isNameChar_of_sign (hgap : ∀ c ∈ gap, Text.isAsciiBlank c) (rest : Text) :
    ∀ c ∈ (gap ++ '=' :: rest).head?, isNameChar c = false := by
  intro c hc
  cases gap with
  | nil =>
      obtain rfl : '=' = c := by simpa using hc
      rfl
  | cons d ds =>
      obtain rfl : d = c := by simpa using hc
      exact not_isNameChar_of_blank (hgap d List.mem_cons_self)

/-- A name, a sign and what can be read as a value make a field. -/
theorem read_field {gap' : Text} (hname : ∀ c ∈ name, isNameChar c) (hne : name ≠ [])
    (hgap : ∀ c ∈ gap, Text.isAsciiBlank c) (hgap' : ∀ c ∈ gap', Text.isAsciiBlank c)
    (hrest : ∀ c ∈ rest.head?, Text.isAsciiBlank c = false) :
    read (name ++ (gap ++ '=' :: (gap' ++ rest))) =
      match readValue? rest with
      | some (value, more) =>
        (some ⟨name, value, name ++ gap ++ '=' :: gap' ++ value.source⟩, afterComma more)
      | none => (none, afterComma rest) := by
  have hstop := not_isNameChar_of_sign hgap (gap' ++ rest)
  -- Each part ends where the next one begins, so the reader cuts the text as it was put together.
  have hsign : ∀ c ∈ ('=' :: (gap' ++ rest)).head?, Text.isAsciiBlank c = false := by
    simp [Text.isAsciiBlank]
  rcases List.exists_cons_of_ne_nil hne with ⟨c, cs, rfl⟩
  cases hvalue : readValue? rest <;>
    simp only [read, Text.takeWhile_append_stop hname hstop, Text.dropWhile_append_stop hname hstop,
      Text.skipBlanks, Text.dropWhile_append_stop hgap hsign,
      Text.takeWhile_append_stop hgap hsign, Text.dropWhile_append_stop hgap' hrest,
      Text.takeWhile_append_stop hgap' hrest, hvalue]

/-- Without a name or without a sign there is no field. -/
theorem read_malformed (hname : ∀ c ∈ name, isNameChar c)
    (hgap : ∀ c ∈ gap, Text.isAsciiBlank c)
    (hrest : ∀ c ∈ rest.head?, Text.isAsciiBlank c = false)
    (hstop : ∀ c ∈ (gap ++ rest).head?, isNameChar c = false)
    (hbad : name = [] ∨ rest.head? ≠ some '=') :
    read (name ++ (gap ++ rest)) = (none, afterComma rest) := by
  simp only [read, Text.takeWhile_append_stop hname hstop, Text.dropWhile_append_stop hname hstop,
    Text.skipBlanks, Text.dropWhile_append_stop hgap hrest]
  split
  · rcases hbad with h | h
    · cases h
    · exact absurd rfl h
  · rfl

inductive Round : Text → Prop where
  | field {name gap gap' value : Text} (hname : ∀ c ∈ name, isNameChar c) (hne : name ≠ [])
      (hgap : ∀ c ∈ gap, Text.isAsciiBlank c) (hgap' : ∀ c ∈ gap', Text.isAsciiBlank c)
      (hvalue : ∀ c ∈ value.head?, Text.isAsciiBlank c = false) :
      Round (name ++ (gap ++ '=' :: (gap' ++ value)))
  | malformed {name gap rest : Text} (hname : ∀ c ∈ name, isNameChar c)
      (hgap : ∀ c ∈ gap, Text.isAsciiBlank c)
      (hrest : ∀ c ∈ rest.head?, Text.isAsciiBlank c = false)
      (hstop : ∀ c ∈ (gap ++ rest).head?, isNameChar c = false)
      (hbad : name = [] ∨ rest.head? ≠ some '=') : Round (name ++ (gap ++ rest))

/-- Every text has the parts of a round. -/
theorem round (t : Text) : Round t := by
  rcases exists_name t with ⟨name, gap, rest, rfl, hname, hgap, hrest, hstop⟩
  by_cases hsign : name ≠ [] ∧ rest.head? = some '='
  · rcases hsign with ⟨hne, hhead⟩
    rcases rest with _ | ⟨d, tail⟩
    · cases hhead
    · obtain rfl : d = '=' := by simpa using hhead
      rcases Text.exists_stop Text.isAsciiBlank tail with ⟨gap', value, rfl, hgap', hvalue⟩
      exact .field hname hne hgap hgap' hvalue
  · refine .malformed hname hgap hrest hstop ?_
    by_cases hne : name = []
    · exact .inl hne
    · exact .inr fun h => hsign ⟨hne, h⟩

end Read

/-! ## Blanks at the end -/

section Gap

variable {w : Text} (hw : ∀ c ∈ w, Text.isAsciiBlank c)
include hw

theorem cutGroup?_gap (depth : Nat) : cutGroup? depth w = none := by
  induction w generalizing depth with
  | nil => rfl
  | cons c cs ih =>
      rcases List.forall_mem_cons.1 hw with ⟨hc, hcs⟩
      have hopen : c ≠ '{' := ne_of_isAsciiBlank hc rfl
      have hclose : c ≠ '}' := ne_of_isAsciiBlank hc rfl
      simp [cutGroup?, hopen, hclose, ih hcs]

theorem cutQuote?_gap (depth : Nat) : cutQuote? depth w = none := by
  induction w generalizing depth with
  | nil => rfl
  | cons c cs ih =>
      rcases List.forall_mem_cons.1 hw with ⟨hc, hcs⟩
      have hquote : c ≠ '"' := ne_of_isAsciiBlank hc rfl
      have hopen : c ≠ '{' := ne_of_isAsciiBlank hc rfl
      have hclose : c ≠ '}' := ne_of_isAsciiBlank hc rfl
      simp [cutQuote?, hquote, hopen, hclose, ih hcs]

theorem cutGroup?_append_gap (depth : Nat) (t : Text) :
    cutGroup? depth (t ++ w) = (cutGroup? depth t).map fun cut => (cut.1, cut.2 ++ w) := by
  fun_induction cutGroup? depth t with
  | case1 depth => simpa using cutGroup?_gap hw depth
  | case2 depth cs ih => simp [cutGroup?, ih, Function.comp_def, Text.consLeft]
  | case3 => simp [cutGroup?]
  | case4 cs depth _ ih => simp [cutGroup?, ih, Function.comp_def, Text.consLeft]
  | case5 depth c cs h1 h2 ih => simp [cutGroup?, h1, h2, ih, Function.comp_def, Text.consLeft]

theorem cutQuote?_append_gap (depth : Nat) (t : Text) :
    cutQuote? depth (t ++ w) = (cutQuote? depth t).map fun cut => (cut.1, cut.2 ++ w) := by
  fun_induction cutQuote? depth t with
  | case1 depth => simpa using cutQuote?_gap hw depth
  | case2 => simp_all [cutQuote?]
  | case3 => simp_all [cutQuote?, Function.comp_def, Text.consLeft]
  | case4 => simp_all [cutQuote?, Function.comp_def, Text.consLeft]
  | case5 => simp_all [cutQuote?, Function.comp_def, Text.consLeft]

/-- White space at the end of a text belongs to no value. -/
theorem readValue?_append_gap (t : Text) :
    readValue? (t ++ w) = (readValue? t).map fun p => (p.1, p.2 ++ w) := by
  cases t with
  | nil =>
      cases w with
      | nil => rfl
      | cons c cs =>
          have hc := hw c List.mem_cons_self
          have hopen : c ≠ '{' := ne_of_isAsciiBlank hc rfl
          have hquote : c ≠ '"' := ne_of_isAsciiBlank hc rfl
          simp [readValue?, hopen, hquote, not_isBareChar_of_blank hc]
  | cons c cs =>
      -- A bare value ends at the gap at the latest, as blanks are not part of one.
      rcases Text.exists_stop isBareChar (c :: cs) with ⟨bare, rest, heq, hbare, hrest⟩
      have hrest' : ∀ c ∈ (rest ++ w).head?, isBareChar c = false :=
        head_append_gap hrest hw fun _ => not_isBareChar_of_blank
      rw [List.cons_append, readValue?, readValue?, cutGroup?_append_gap hw, cutQuote?_append_gap hw,
        ← List.cons_append, heq, List.append_assoc, Text.takeWhile_append_stop hbare hrest,
        Text.dropWhile_append_stop hbare hrest, Text.takeWhile_append_stop hbare hrest',
        Text.dropWhile_append_stop hbare hrest']
      split
      · simp [Function.comp_def]
      · split
        · simp [Function.comp_def]
        · split <;> rfl

/-- Only what follows a comma keeps the gap at the end. -/
theorem afterComma_append_gap (t : Text) :
    ∃ w', (∀ c ∈ w', Text.isAsciiBlank c) ∧ afterComma (t ++ w) = afterComma t ++ w' := by
  unfold afterComma
  cases hcut : cutAtTop? ',' .outside t with
  | some cut =>
      rcases cut with ⟨before, rest⟩
      rw [cutAtTop?_append hcut w]
      exact ⟨w, hw, rfl⟩
  | none =>
      -- Blanks hold no comma, so the search for one still runs to the end.
      have hgap : Passes ',' (Nesting.outside.after t) w (Nesting.outside.after t) :=
        Passes.of_plain _ fun c hc =>
          ⟨ne_of_isAsciiBlank (hw c hc) rfl, ne_of_isAsciiBlank (hw c hc) rfl,
            ne_of_isAsciiBlank (hw c hc) rfl, ne_of_isAsciiBlank (hw c hc) rfl⟩
      have hpass : Passes ',' .outside (t ++ w) (Nesting.outside.after t) :=
        Passes.append ⟨hcut, rfl⟩ hgap
      rw [hpass.1]
      exact ⟨[], by simp, rfl⟩

/-- White space at the end of a text belongs to no field. -/
theorem read_append_gap (t : Text) :
    ∃ w', (∀ c ∈ w', Text.isAsciiBlank c) ∧
      read (t ++ w) = ((read t).1, (read t).2 ++ w') := by
  cases round t with
  | @field name gap gap' value hname hne hgap hgap' hvalue =>
      rw [read_field hname hne hgap hgap' hvalue]
      -- The value is looked for behind blanks, and there is none without something behind them.
      cases value with
      | nil =>
          have hall : ∀ c ∈ gap' ++ w, Text.isAsciiBlank c := List.forall_mem_append.2 ⟨hgap', hw⟩
          have hread := read_field hname hne hgap hall hvalue
          exact ⟨[], by simp, by simpa [readValue?] using hread⟩
      | cons v vs =>
          have hvalue' : ∀ c ∈ (v :: vs ++ w).head?, Text.isAsciiBlank c = false := hvalue
          have hread := read_field hname hne hgap hgap' hvalue'
          have hassoc : name ++ (gap ++ '=' :: (gap' ++ v :: vs)) ++ w =
              name ++ (gap ++ '=' :: (gap' ++ ((v :: vs) ++ w))) := by simp
          rw [readValue?_append_gap hw] at hread
          rw [hassoc, hread]
          cases hval : readValue? (v :: vs) with
          | none =>
              rcases afterComma_append_gap hw (v :: vs) with ⟨w', hw', hcomma⟩
              exact ⟨w', hw', by simpa using hcomma⟩
          | some p =>
              rcases afterComma_append_gap hw p.2 with ⟨w', hw', hcomma⟩
              exact ⟨w', hw', by simpa using hcomma⟩
  | @malformed name gap rest hname hgap hrest hstop hbad =>
      rw [read_malformed hname hgap hrest hstop hbad]
      cases rest with
      | nil =>
          -- Nothing but blanks follows the name, with or without the gap.
          have hall : ∀ c ∈ gap ++ w, Text.isAsciiBlank c := List.forall_mem_append.2 ⟨hgap, hw⟩
          have hstop' : ∀ c ∈ ((gap ++ w) ++ []).head?, isNameChar c = false := by
            intro c hc
            rw [List.append_nil] at hc
            exact not_isNameChar_of_blank (hall c (List.mem_of_mem_head? hc))
          have hread := read_malformed hname hall hrest hstop' (.inr (by simp))
          exact ⟨[], by simp, by simpa using hread⟩
      -- What stands there is passed over up to a comma.
      | cons d ds =>
          have hstop' : ∀ c ∈ (gap ++ (d :: ds ++ w)).head?, isNameChar c = false := by
            cases gap <;> exact hstop
          have hrest' : ∀ c ∈ (d :: ds ++ w).head?, Text.isAsciiBlank c = false := hrest
          have hread := read_malformed hname hgap hrest' hstop' hbad
          rcases afterComma_append_gap hw (d :: ds) with ⟨w', hw', hcomma⟩
          refine ⟨w', hw', ?_⟩
          rw [← hcomma]
          simpa using hread

end Gap

/-- Separators alone make no field. -/
theorem parse_of_separators {t : Text} (ht : ∀ c ∈ t, isSeparator c) : parse t = [] := by
  rw [parse]
  split
  · rfl
  · rename_i heq
    rw [Text.dropWhile_eq_nil ht] at heq
    cases heq

/-- One field is read, and the others from what it leaves. -/
theorem parse_of_stop {sep : Text} (rest : Text) (hsep : ∀ c ∈ sep, isSeparator c) (hne : rest ≠ [])
    (hrest : ∀ c ∈ rest.head?, isSeparator c = false) :
    parse (sep ++ rest) = (read rest).1.toList ++ parse (read rest).2 := by
  rw [parse]
  split
  · rename_i heq
    rw [Text.dropWhile_append_stop hsep hrest] at heq
    exact absurd heq hne
  · rename_i heq
    rw [Text.dropWhile_append_stop hsep hrest] at heq
    rw [heq]

theorem isSeparator_of_blank {c : Char} (hc : Text.isAsciiBlank c) : isSeparator c := by
  simp [isSeparator, hc]

/-- Blanks at the end of a text change no field. -/
theorem parse_append_gap (t : Text) {w : Text} (hw : ∀ c ∈ w, Text.isAsciiBlank c) :
    parse (t ++ w) = parse t := by
  induction hlen : t.length using Nat.strongRecOn generalizing t w with
  | ind n ih =>
      subst hlen
      rcases Text.exists_stop isSeparator t with ⟨sep, rest, rfl, hsep, hrest⟩
      -- Either nothing but separators is left, or one round of reading shortens the text.
      cases rest with
      | nil =>
          have hall : ∀ c ∈ sep ++ w, isSeparator c :=
            List.forall_mem_append.2 ⟨hsep, fun c hc => isSeparator_of_blank (hw c hc)⟩
          rw [List.append_nil, parse_of_separators hall, parse_of_separators hsep]
      | cons c cs =>
          rcases read_append_gap hw (c :: cs) with ⟨w', hw', hread⟩
          have hlt := length_read_lt (List.cons_ne_nil c cs)
          rw [List.append_assoc, parse_of_stop (c :: cs ++ w) hsep (by simp) hrest,
            parse_of_stop (c :: cs) hsep (by simp) hrest, hread]
          have hrec := ih (read (c :: cs)).2.length (by simp at hlt ⊢; omega) (read (c :: cs)).2 hw' rfl
          rw [hrec]

end Field

end Bibliography

end CiteIndex
