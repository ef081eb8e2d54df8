import CiteIndex.Proofs.Bibliography.FieldSpacing

/-!
# What a field is made of

A field that was read holds a name, a sign and a value, each without the characters that would have
ended it. The reader takes no notice of what stands behind a value, so the source text of a field is
read as that field wherever it stands.

- `IsBalanced.counts`: balanced braces, by their numbers
- `depth_of_cutQuote?`: the quotes inside a quoted value
- `FieldValue.IsProper`, `Field.IsProper`: what a value and a field are made of
- `Field.parse_written`: the source text of a field read once more
- `Field.isProper_of_mem_parse`: all fields of a text
-/

namespace CiteIndex

namespace Bibliography

/-! ## Inside of braces -/

/-- The inside of a group that is closed closes all groups that are open in front of it, and no
more. -/
theorem braceDepth?_of_cutGroup? {depth : Nat} {t inside rest : Text}
    (h : cutGroup? depth t = some (inside, rest)) : braceDepth? depth inside = some 0 := by
  fun_induction cutGroup? depth t generalizing inside with
  | case1 => cases h
  | case2 depth cs ih =>
      obtain ⟨left, hcut, rfl⟩ := Text.map_consLeft_eq_some h
      simpa [braceDepth?] using ih hcut
  | case3 cs =>
      cases h
      rfl
  | case4 cs depth _ ih =>
      obtain ⟨left, hcut, rfl⟩ := Text.map_consLeft_eq_some h
      simpa [braceDepth?] using ih hcut
  | case5 depth c cs hopen hclose ih =>
      obtain ⟨left, hcut, rfl⟩ := Text.map_consLeft_eq_some h
      simpa [braceDepth?, hopen, hclose] using ih hcut

/-- Braces are counted: those that open and those that close differ by the change of depth. -/
theorem count_of_braceDepth? {d d' : Nat} {t : Text} (h : braceDepth? d t = some d') :
    t.count '{' + d = t.count '}' + d' := by
  fun_induction braceDepth? d t with
  | case1 d =>
      cases h
      rfl
  | case2 d cs ih =>
      have := ih h
      simp only [List.count_cons_self, List.count_cons_of_ne (show '{' ≠ '}' by decide)]
      omega
  | case3 => cases h
  | case4 cs d _ ih =>
      have := ih h
      simp only [List.count_cons_self, List.count_cons_of_ne (show '}' ≠ '{' by decide)]
      omega
  | case5 d c cs hopen hclose ih =>
      rw [List.count_cons_of_ne hopen, List.count_cons_of_ne hclose]
      exact ih h

/-- A balanced text opens as many groups as it closes, and no beginning of it closes more. -/
theorem IsBalanced.counts {t : Text} (h : IsBalanced t) :
    t.count '{' = t.count '}' ∧ ∀ u, u <+: t → u.count '}' ≤ u.count '{' := by
  refine ⟨count_of_braceDepth? h, ?_⟩
  rintro u ⟨v, rfl⟩
  rw [IsBalanced, braceDepth?_append, Option.bind_eq_some_iff] at h
  obtain ⟨d, hdepth, -⟩ := h
  have := count_of_braceDepth? hdepth
  omega

/-! ## Inside of quotes -/

theorem Nesting.depth_step (s : Nesting) (c : Char) :
    (s.step c).depth =
      if c = '{' then s.depth + 1 else if c = '}' then s.depth - 1 else s.depth := by
  rw [step]
  split
  · rfl
  · split
    · rfl
    · split
      · split <;> simp_all
      · rfl

/-- No quote inside a quoted value is at brace depth zero. -/
theorem depth_of_cutQuote? {s : Nesting} {t inside rest : Text}
    (h : cutQuote? s.depth t = some (inside, rest)) :
    ∀ u v, inside = u ++ '"' :: v → (s.after u).depth ≠ 0 := by
  induction t generalizing s inside with
  | nil => cases h
  | cons c cs ih =>
      have hstep : ¬(c = '"' ∧ s.depth = 0) →
          cutQuote? s.depth (c :: cs) = (cutQuote? (s.step c).depth cs).map (Text.consLeft c) := by
        intro hc
        rw [cutQuote?, if_neg hc, s.depth_step]
        split
        · rfl
        · split <;> rfl
      by_cases hc : c = '"' ∧ s.depth = 0
      · rw [cutQuote?, if_pos hc] at h
        cases h
        simp
      · rw [hstep hc] at h
        obtain ⟨left, hcut, rfl⟩ := Text.map_consLeft_eq_some h
        intro u v huv
        cases u with
        | nil =>
            obtain ⟨rfl, -⟩ := List.cons.inj huv
            exact fun hdepth => hc ⟨rfl, hdepth⟩
        | cons d ds =>
            obtain ⟨rfl, hds⟩ := List.cons.inj huv
            exact ih hcut ds v hds

/-- The quote that closes a value is the same one whatever stands behind it. -/
theorem cutQuote?_of_cutQuote? {depth : Nat} {t inside rest : Text}
    (h : cutQuote? depth t = some (inside, rest)) (more : Text) :
    cutQuote? depth (inside ++ '"' :: more) = some (inside, more) := by
  fun_induction cutQuote? depth t generalizing inside with
  | case1 => cases h
  | case2 depth c cs hstop =>
      cases h
      simp [cutQuote?, hstop.2]
  | case3 depth cs hquote ih =>
      obtain ⟨left, hcut, rfl⟩ := Text.map_consLeft_eq_some h
      simp [Text.consLeft, cutQuote?, ih hcut]
  | case4 depth cs hquote _ ih =>
      obtain ⟨left, hcut, rfl⟩ := Text.map_consLeft_eq_some h
      simp [Text.consLeft, cutQuote?, ih hcut]
  | case5 depth c cs hquote hopen hclose ih =>
      obtain ⟨left, hcut, rfl⟩ := Text.map_consLeft_eq_some h
      simp [Text.consLeft, cutQuote?, hquote, hopen, hclose, ih hcut]

/-! ## Values -/

/-- What a value does not hold: a brace that is not paired, a quote outside braces, or a character
that ends a bare value. -/
def FieldValue.IsProper : FieldValue → Prop
  | .braced t => t.count '{' = t.count '}' ∧ ∀ u, u <+: t → u.count '}' ≤ u.count '{'
  | .quoted t => ∀ u v, t = u ++ '"' :: v → (Nesting.outside.after u).depth ≠ 0
  | .bare t => t ≠ [] ∧ ∀ c ∈ t, Text.isAsciiBlank c = false ∧ c ∉ [',', '#', '}', '"']

namespace Field

/-- The ways in which a value is read. -/
theorem readValue?_cases {t rest : Text} {value : FieldValue} (h : readValue? t = some (value, rest)) :
    (∃ inside cs, t = '{' :: cs ∧ value = .braced inside ∧ cutGroup? 0 cs = some (inside, rest)) ∨
    (∃ inside cs, t = '"' :: cs ∧ value = .quoted inside ∧ cutQuote? 0 cs = some (inside, rest)) ∨
    ∃ c cs, c ≠ '{' ∧ c ≠ '"' ∧ value = .bare (c :: cs) ∧ ∀ x ∈ c :: cs, isBareChar x := by
  cases t with
  | nil => cases h
  | cons c cs =>
      rw [readValue?] at h
      split at h
      · rename_i hopen
        obtain ⟨⟨inside, tail⟩, hcut, heq⟩ := Option.map_eq_some_iff.1 h
        cases heq
        exact .inl ⟨inside, cs, by rw [hopen], rfl, hcut⟩
      · rename_i hopen
        split at h
        · rename_i hquote
          obtain ⟨⟨inside, tail⟩, hcut, heq⟩ := Option.map_eq_some_iff.1 h
          cases heq
          exact .inr (.inl ⟨inside, cs, by rw [hquote], rfl, hcut⟩)
        · rename_i hquote
          split at h
          · rename_i hbare
            cases h
            refine .inr (.inr ⟨c, cs.takeWhile isBareChar, hopen, hquote, ?_, ?_⟩)
            · rw [List.takeWhile_cons_of_pos hbare]
            · exact List.forall_mem_cons.2 ⟨hbare, fun x hx => List.all_eq_true.1 List.all_takeWhile x hx⟩
          · cases h

/-- Every value that is read is proper. -/
theorem isProper_of_readValue? {t rest : Text} {value : FieldValue}
    (h : readValue? t = some (value, rest)) : value.IsProper := by
  rcases readValue?_cases h with ⟨inside, cs, -, rfl, hcut⟩ | ⟨inside, cs, -, rfl, hcut⟩ |
    ⟨c, cs, -, -, rfl, hbare⟩
  · exact IsBalanced.counts (braceDepth?_of_cutGroup? hcut)
  · exact depth_of_cutQuote? (s := .outside) hcut
  · refine ⟨List.cons_ne_nil c cs, fun x hx => ?_⟩
    have hx := hbare x hx
    simp only [isBareChar, Bool.not_eq_true', Bool.or_eq_false_iff, beq_eq_false_iff_ne] at hx
    simp [hx]

/-- A value is read from its own text. -/
theorem readValue?_of_readValue? {t rest : Text} {value : FieldValue}
    (h : readValue? t = some (value, rest)) : readValue? value.source = some (value, []) := by
  rcases readValue?_cases h with ⟨inside, cs, -, rfl, hcut⟩ | ⟨inside, cs, -, rfl, hcut⟩ |
    ⟨c, cs, hopen, hquote, rfl, hbare⟩
  · have hinside := cutGroup?_of_balanced (braceDepth?_of_cutGroup? hcut) []
    simp [FieldValue.source, readValue?, hinside]
  · have hinside := cutQuote?_of_cutQuote? hcut []
    simp [FieldValue.source, readValue?, hinside]
  · rw [FieldValue.source, readValue?, if_neg hopen, if_neg hquote,
      if_pos (hbare c List.mem_cons_self), Text.takeWhile_eq_self hbare,
      Text.dropWhile_eq_nil hbare]

theorem head_source_of_readValue? {t rest : Text} {value : FieldValue}
    (h : readValue? t = some (value, rest)) :
    ∀ c ∈ value.source.head?, Text.isAsciiBlank c = false := by
  rcases readValue?_cases h with ⟨inside, cs, -, rfl, -⟩ | ⟨inside, cs, -, rfl, -⟩ |
    ⟨c, cs, -, -, rfl, hbare⟩
  · simp [FieldValue.source, Text.isAsciiBlank]
  · simp [FieldValue.source, Text.isAsciiBlank]
  · have hc := hbare c List.mem_cons_self
    simp only [isBareChar, Bool.not_eq_true', Bool.or_eq_false_iff] at hc
    simp [FieldValue.source, hc]

/-! ## Fields -/

/-- What a field is made of, and that its source text holds this field and nothing else. -/
structure IsProper (f : Field) : Prop where
  name_ne_nil : f.name ≠ []
  name_char : ∀ c ∈ f.name, Text.isAsciiBlank c = false ∧ c ∉ ['=', ',', '{', '}', '"']
  value : f.value.IsProper
  raw : ∃ gap gap', (∀ c ∈ gap, Text.isAsciiBlank c) ∧ (∀ c ∈ gap', Text.isAsciiBlank c) ∧
    f.raw = f.name ++ (gap ++ '=' :: (gap' ++ f.value.source))
  parse_raw : parse f.raw = [f]

theorem isSeparator_of_isNameChar {c : Char} (hc : isNameChar c) : isSeparator c = false := by
  simp only [isNameChar, Bool.not_eq_true', Bool.or_eq_false_iff] at hc
  simp [isSeparator, hc]

/-- A name, a sign and a value that was read somewhere are read as a field. -/
theorem parse_written {name gap gap' t rest : Text} {value : FieldValue}
    (hname : ∀ c ∈ name, isNameChar c) (hne : name ≠ []) (hgap : ∀ c ∈ gap, Text.isAsciiBlank c)
    (hgap' : ∀ c ∈ gap', Text.isAsciiBlank c) (hvalue : readValue? t = some (value, rest)) :
    parse (name ++ (gap ++ '=' :: (gap' ++ value.source))) =
      [⟨name, value, name ++ gap ++ '=' :: gap' ++ value.source⟩] := by
  have hread := read_field hname hne hgap hgap' (head_source_of_readValue? hvalue)
  rw [readValue?_of_readValue? hvalue] at hread
  have hstart : ∀ c ∈ (name ++ (gap ++ '=' :: (gap' ++ value.source))).head?,
      isSeparator c = false := by
    obtain ⟨c, cs, rfl⟩ := List.exists_cons_of_ne_nil hne
    rintro x hx
    obtain rfl : c = x := by simpa using hx
    exact isSeparator_of_isNameChar (hname c List.mem_cons_self)
  have hnone : ∀ c ∈ ([] : Text), isSeparator c := by simp
  have hparse := parse_of_stop _ hnone (by simp [hne]) hstart
  rw [List.nil_append, hread] at hparse
  rw [hparse]
  have hrest : parse (afterComma []) = [] := parse_of_separators (by simp [afterComma, cutAtTop?])
  rw [hrest]
  rfl

/-- Every field that is read is proper. -/
theorem isProper_of_read {t : Text} {f : Field} (h : (read t).1 = some f) : f.IsProper := by
  cases round t with
  | @field name gap gap' value hname hne hgap hgap' hvalue =>
      rw [read_field hname hne hgap hgap' hvalue] at h
      cases hread : readValue? value with
      | none =>
          rw [hread] at h
          cases h
      | some found =>
          rw [hread] at h
          cases h
          refine ⟨hne, ?_, isProper_of_readValue? hread, ⟨gap, gap', hgap, hgap', by simp⟩, ?_⟩
          · intro c hc
            have hc := hname c hc
            simp only [isNameChar, Bool.not_eq_true', Bool.or_eq_false_iff, beq_eq_false_iff_ne] at hc
            simp [hc]
          · have hparse := parse_written hname hne hgap hgap' hread
            simpa using hparse
  | @malformed name gap rest hname hgap hrest hstop hbad =>
      rw [read_malformed hname hgap hrest hstop hbad] at h
      cases h

/-- Every field of a text is one that a round of reading finds. -/
theorem isProper_of_mem_parse {t : Text} {f : Field} (h : f ∈ parse t) : f.IsProper := by
  fun_induction parse t with
  | case1 => cases h
  | case2 t c cs hrest round ih =>
      rcases List.mem_append.1 h with h | h
      · exact isProper_of_read (Option.mem_toList.1 h)
      · exact ih h

end Field

end Bibliography

end CiteIndex
