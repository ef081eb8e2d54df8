import CiteIndex.Proofs.Bibliography.FieldParts
import CiteIndex.Proofs.Bibliography.Pieces

/-!
# Fields of pieces

The fields of a text can be read from the whole of it, or from its pieces between top-level commas,
one after the other. The pieces follow braces and quotes through the text, while the reader of
fields begins anew behind each value, and forgets the braces that a bare value has opened. It still
finds the same fields, unless a quote follows before those braces are closed: the quote counts for
the reader of fields alone, and hides the commas behind it.

- `groupsHoldQuote`: quotes inside of groups that are open
- `Nesting.Trails`, `Nesting.Trails.passes`: a state that forgot some groups stops wherever the
  other one does
- `Field.Takes`, `Field.exists_takes`: what one round of reading takes, whatever follows
- `Field.PartAtQuote`: fields that are the same up to a bare value in front of a quote
- `Field.parsePieces_round`: one round of reading against the pieces
- `Field.parse_splitCommas`: the fields of all pieces
- `Field.not_parse_splitCommas`: a text whose pieces have one field more
-/

namespace CiteIndex

namespace Bibliography

/-! ## Quotes inside of open groups -/

/-- Does a text hold a quote before it closes the `depth` groups that are open in front of it. -/
def groupsHoldQuote : Nat → Text → Bool
  | 0, _ => false
  | _ + 1, [] => false
  | depth + 1, c :: cs =>
    if c = '{' then groupsHoldQuote (depth + 2) cs
    else if c = '}' then groupsHoldQuote depth cs
    else c == '"' || groupsHoldQuote (depth + 1) cs

namespace Nesting

/-- Two states in front of a text: the same one twice, or one that forgot some of the groups that
are open, with no quote in the text before all of them are closed. -/
inductive Trails : Nesting → Nesting → Text → Prop where
  | same (s : Nesting) (t : Text) : Trails s s t
  | behind {d d' : Nat} {t : Text} (hle : d ≤ d') (hquote : groupsHoldQuote d' t = false) :
      Trails ⟨d, false⟩ ⟨d', false⟩ t

namespace Trails

variable {a a' s : Nesting} {stop c : Char} {t u v : Text}

/-- The relation is kept along every character. -/
theorem step (h : Trails a s (c :: t)) : Trails (a.step c) (s.step c) t := by
  cases h with
  | same => exact .same _ _
  | @behind d d' _ hle hquote =>
      cases d' with
      | zero =>
          obtain rfl : d = 0 := Nat.le_zero.1 hle
          exact .same _ _
      | succ d' =>
          rw [groupsHoldQuote] at hquote
          by_cases hopen : c = '{'
          · subst hopen
            exact .behind (Nat.succ_le_succ hle) hquote
          · by_cases hclose : c = '}'
            · subst hclose
              exact .behind (Nat.sub_le_sub_right hle 1) hquote
            -- The groups are open, so the character is no quote, and moves neither state.
            · rw [if_neg hopen, if_neg hclose, Bool.or_eq_false_iff, beq_eq_false_iff_ne] at hquote
              have hplain : c ≠ '{' ∧ c ≠ '}' ∧ c ≠ '"' := ⟨hopen, hclose, hquote.1⟩
              rw [step_of_plain _ hplain, step_of_plain _ hplain]
              exact .behind hle hquote.2

/-- At the top level no group is left that could be forgotten. -/
theorem eq_of_isTop (h : Trails a s t) (htop : s.isTop) : a = s := by
  cases h with
  | same => rfl
  | @behind d d' _ hle hquote =>
      obtain rfl : d' = 0 := by simpa [isTop] using htop
      obtain rfl : d = 0 := Nat.le_zero.1 hle
      rfl

/-- What the state that forgot some groups passes over, the other one does. -/
theorem passes (h : Trails a s (u ++ v)) (hu : Passes stop a u a') :
    Passes stop s u (s.after u) ∧ Trails a' (s.after u) v := by
  obtain ⟨hcut, rfl⟩ := hu
  -- Along the text. A stop that only the other state sees is at its top level, where both agree.
  induction u generalizing a s with
  | nil => exact ⟨.nil stop s, h⟩
  | cons c cs ih =>
      rw [cutAtTop?] at hcut
      split at hcut
      · cases hcut
      · rename_i hc
        obtain ⟨hpass, htrails⟩ := ih h.step (Option.map_eq_none_iff.1 hcut)
        refine ⟨hpass.cons fun hstop => hc ⟨hstop.1, ?_⟩, htrails⟩
        rw [h.eq_of_isTop hstop.2]
        exact hstop.2

/-- The groups that are open can be forgotten where no quote follows in them. -/
theorem forget {d : Nat} (h : Trails ⟨d, false⟩ s t) (hquote : groupsHoldQuote d t = false) :
    Trails .outside s t := by
  cases h with
  | same => exact .behind (Nat.zero_le d) hquote
  | behind _ hquote' => exact .behind (Nat.zero_le _) hquote'

end Trails

end Nesting

/-! ## The text behind a comma -/

theorem Nesting.eq_outside_of_isTop {s : Nesting} (h : s.isTop) : s = .outside := by
  obtain ⟨depth, quoted⟩ := s
  simp only [isTop, Bool.and_eq_true, beq_iff_eq, Bool.not_eq_true'] at h
  rw [h.1, h.2]
  rfl

/-- Behind a text without a comma at the top level nothing is left. -/
theorem afterComma_of_passes {t : Text} {s : Nesting} (h : Passes ',' .outside t s) :
    afterComma t = [] := by
  rw [afterComma, h.1]

theorem afterComma_of_cut {t : Text} {s : Nesting} (h : Passes ',' .outside t s) (htop : s.isTop)
    (rest : Text) : afterComma (t ++ ',' :: rest) = rest := by
  rw [afterComma, h.cut_stop htop]

/-! ## Values -/

def FieldValue.openGroups : FieldValue → Nat
  | .bare t => t.count '{'
  | .braced _ | .quoted _ => 0

namespace Passes

variable {stop : Char} {t inside rest : Text}

/-- Between the quotes of a value nothing is at the top level. -/
theorem of_cutQuote? {depth : Nat} (h : cutQuote? depth t = some (inside, rest)) :
    Passes stop ⟨depth, true⟩ inside ⟨0, true⟩ := by
  have hinner : ∀ {c : Char} {s : Nesting}, s.quoted = true → ¬(c = stop ∧ s.isTop) := by
    rintro c s hquoted ⟨-, htop⟩
    simp [Nesting.isTop, hquoted] at htop
  fun_induction cutQuote? depth t generalizing inside with
  | case1 => cases h
  | case2 depth c cs hstop =>
      cases h
      rw [hstop.2]
      exact nil stop _
  | case3 depth cs _ ih =>
      obtain ⟨left, hcut, rfl⟩ := Text.map_consLeft_eq_some h
      exact cons (hinner rfl) (ih hcut)
  | case4 depth cs _ _ ih =>
      obtain ⟨left, hcut, rfl⟩ := Text.map_consLeft_eq_some h
      exact cons (hinner rfl) (ih hcut)
  | case5 depth c cs hquote hopen hclose ih =>
      obtain ⟨left, hcut, rfl⟩ := Text.map_consLeft_eq_some h
      refine cons (hinner rfl) ?_
      by_cases hc : c = '"'
      · subst hc
        rw [Nesting.step_quote_inner fun hdepth => hquote ⟨rfl, hdepth⟩]
        exact ih hcut
      · rw [Nesting.step_of_plain _ ⟨hopen, hclose, hc⟩]
        exact ih hcut

/-- Nor is there a comma in a bare value, which opens a group with every brace. -/
theorem of_isBareChar (depth : Nat) (ht : ∀ c ∈ t, Field.isBareChar c) :
    Passes ',' ⟨depth, false⟩ t ⟨depth + t.count '{', false⟩ := by
  induction t generalizing depth with
  | nil => exact nil ',' _
  | cons c cs ih =>
      obtain ⟨hc, hcs⟩ := List.forall_mem_cons.1 ht
      have hne : ∀ d, Field.isBareChar d = false → c ≠ d := by
        rintro d hd rfl
        simp [hd] at hc
      refine cons (fun hcomma => hne ',' rfl hcomma.1) ?_
      by_cases hopen : c = '{'
      · subst hopen
        have hcount : depth + ('{' :: cs).count '{' = depth + 1 + cs.count '{' := by
          rw [List.count_cons_self, Nat.add_right_comm, Nat.add_assoc]
        rw [hcount]
        exact ih (depth + 1) hcs
      · rw [Nesting.step_of_plain _ ⟨hopen, hne '}' rfl, hne '"' rfl⟩,
          List.count_cons_of_ne hopen]
        exact ih depth hcs

end Passes

namespace Field

variable {t rest rest' : Text} {value : FieldValue}

/-- No comma in a value is at the top level. -/
theorem passes_of_readValue? (h : readValue? t = some (value, rest)) :
    Passes ',' .outside value.source ⟨value.openGroups, false⟩ := by
  rcases readValue?_cases h with ⟨inside, cs, -, rfl, hcut⟩ | ⟨inside, cs, -, rfl, hcut⟩ |
    ⟨c, cs, -, -, rfl, hbare⟩
  · exact Passes.group (by decide) .outside (braceDepth?_of_cutGroup? hcut)
  · have hinside : Passes ',' ⟨0, true⟩ inside ⟨0, true⟩ := Passes.of_cutQuote? hcut
    refine Passes.cons (by simp) (hinside.append (Passes.cons (by simp) ?_))
    exact Passes.nil ',' .outside
  · have hpasses := Passes.of_isBareChar 0 hbare
    rw [Nat.zero_add] at hpasses
    exact hpasses

/-- What stops at the start of a text stops at the start of a part of it. -/
theorem head_of_part {p : Char → Bool} (hrest : ∀ c ∈ rest.head?, p c = false)
    (hle : rest' <+: rest) : ∀ c ∈ rest'.head?, p c = false := by
  obtain ⟨more, rfl⟩ := hle
  cases rest' with
  | nil => simp
  | cons c cs => exact hrest

/-- A bare value ends at a character that it cannot hold, or with the text. -/
theorem head_of_readValue?_bare {word : Text} (h : readValue? t = some (.bare word, rest)) :
    ∀ c ∈ rest.head?, isBareChar c = false := by
  cases t with
  | nil => cases h
  | cons c cs =>
      rw [readValue?] at h
      split at h
      · obtain ⟨cut, -, heq⟩ := Option.map_eq_some_iff.1 h
        cases heq
      · split at h
        · obtain ⟨cut, -, heq⟩ := Option.map_eq_some_iff.1 h
          cases heq
        · split at h
          · obtain ⟨word', more, heq, hword, hmore⟩ := Text.exists_stop isBareChar (c :: cs)
            rw [heq, Text.dropWhile_append_stop hword hmore] at h
            cases h
            exact hmore
          · cases h

/-- A value is read whatever part of the text behind it is left. -/
theorem readValue?_of_part (h : readValue? t = some (value, rest)) (hle : rest' <+: rest) :
    readValue? (value.source ++ rest') = some (value, rest') := by
  rcases readValue?_cases h with ⟨inside, cs, -, rfl, hcut⟩ | ⟨inside, cs, -, rfl, hcut⟩ |
    ⟨c, cs, hopen, hquote, rfl, hbare⟩
  · have hinside := cutGroup?_of_balanced (braceDepth?_of_cutGroup? hcut) rest'
    simp [FieldValue.source, readValue?, hinside]
  · have hinside := cutQuote?_of_cutQuote? hcut rest'
    simp [FieldValue.source, readValue?, hinside]
  · have hstop := head_of_readValue?_bare h
    have hstop' := head_of_part hstop hle
    have htake := Text.takeWhile_append_stop hbare hstop'
    have hdrop := Text.dropWhile_append_stop hbare hstop'
    rw [List.cons_append] at htake hdrop
    rw [FieldValue.source, List.cons_append, readValue?, if_neg hopen, if_neg hquote,
      if_pos (hbare c List.mem_cons_self), htake, hdrop]

theorem head_source_append (h : readValue? t = some (value, rest)) (more : Text) :
    ∀ c ∈ (value.source ++ more).head?, Text.isAsciiBlank c = false := by
  have hhead := head_source_of_readValue? h
  cases hsource : value.source with
  | nil =>
      -- Every value is written with some character.
      rcases readValue?_cases h with ⟨_, _, -, rfl, -⟩ | ⟨_, _, -, rfl, -⟩ |
        ⟨_, _, -, -, rfl, -⟩ <;> cases hsource
  | cons c cs =>
      rw [hsource] at hhead
      exact hhead

/-- Where there is no value, there is none if less of the text follows. -/
theorem readValue?_eq_none_of_part (h : readValue? t = none) (hle : rest <+: t) :
    readValue? rest = none := by
  -- A value in the part would be read from the whole text as well.
  cases hread : readValue? rest with
  | none => rfl
  | some found =>
      obtain ⟨more, rfl⟩ := hle
      have hsource := eq_append_of_readValue? hread
      rcases readValue?_cases hread with ⟨inside, cs, rfl, hvalue, hcut⟩ |
        ⟨inside, cs, rfl, hvalue, hcut⟩ | ⟨c, cs, hopen, hquote, hvalue, hbare⟩
      · have hinside := cutGroup?_of_balanced (braceDepth?_of_cutGroup? hcut) (found.2 ++ more)
        have hcs : cs ++ more = inside ++ '}' :: (found.2 ++ more) := by
          rw [eq_append_of_cutGroup? hcut]
          simp
        rw [← hcs] at hinside
        simp [readValue?, hinside] at h
      · have hinside := cutQuote?_of_cutQuote? hcut (found.2 ++ more)
        have hcs : cs ++ more = inside ++ '"' :: (found.2 ++ more) := by
          rw [eq_append_of_cutQuote? hcut]
          simp
        rw [← hcs] at hinside
        simp [readValue?, hinside] at h
      · rw [hsource, hvalue, FieldValue.source, List.cons_append, List.cons_append, readValue?,
          if_neg hopen, if_neg hquote, if_pos (hbare c List.mem_cons_self)] at h
        cases h

/-! ## One round of reading -/

/-- What a round of reading takes from a text, where it stands in front of `rest`: the field that it
finds, whose source text it is then, and no comma at the top level. It takes the same if there is
less behind it. -/
structure Takes (front rest : Text) (found : Option Field) : Prop where
  passes : Passes ',' .outside front ⟨(found.map fun f => f.value.openGroups).getD 0, false⟩
  raw_eq : ∀ f ∈ found, f.raw = front
  read_part : ∀ rest', rest' <+: rest → read (front ++ rest') = (found, afterComma rest')

theorem passes_name {name gap : Text} (hname : ∀ c ∈ name, isNameChar c)
    (hgap : ∀ c ∈ gap, Text.isAsciiBlank c) : Passes ',' .outside (name ++ gap) .outside := by
  apply Passes.of_plain
  intro c hc
  rcases List.mem_append.1 hc with hc | hc
  · have hchar := hname c hc
    simp only [isNameChar, Bool.not_eq_true', Bool.or_eq_false_iff, beq_eq_false_iff_ne] at hchar
    obtain ⟨⟨⟨⟨⟨-, -⟩, hcomma⟩, hopen⟩, hclose⟩, hquote⟩ := hchar
    exact ⟨hopen, hclose, hquote, hcomma⟩
  · have hblank := hgap c hc
    exact ⟨ne_of_isAsciiBlank hblank rfl, ne_of_isAsciiBlank hblank rfl,
      ne_of_isAsciiBlank hblank rfl, ne_of_isAsciiBlank hblank rfl⟩

theorem passes_sign {name gap gap' : Text} (hname : ∀ c ∈ name, isNameChar c)
    (hgap : ∀ c ∈ gap, Text.isAsciiBlank c) (hgap' : ∀ c ∈ gap', Text.isAsciiBlank c) :
    Passes ',' .outside (name ++ gap ++ '=' :: gap') .outside := by
  have hnone : ∀ c ∈ ([] : Text), isNameChar c := by simp
  exact (passes_name hname hgap).append (Passes.cons (by simp) (passes_name hnone hgap'))

/-- Every text begins with what a round of reading takes from it. -/
theorem exists_takes (t : Text) :
    ∃ front rest found, t = front ++ rest ∧ Takes front rest found := by
  cases round t with
  | @field name gap gap' value hname hne hgap hgap' hvalue =>
      have hsign := passes_sign hname hgap hgap'
      cases hread : readValue? value with
      | some cut =>
          obtain ⟨v, rest⟩ := cut
          obtain rfl := eq_append_of_readValue? hread
          refine ⟨name ++ gap ++ '=' :: gap' ++ v.source, rest,
            some ⟨name, v, name ++ gap ++ '=' :: gap' ++ v.source⟩, by simp, ?_⟩
          refine ⟨hsign.append (passes_of_readValue? hread), ?_, ?_⟩
          · rintro f hf
            cases hf
            rfl
          · intro rest' hle
            have hfield := read_field hname hne hgap hgap' (head_source_append hread rest')
            rw [readValue?_of_part hread hle] at hfield
            simpa using hfield
      -- What should be the value is left, and skipped from its start.
      | none =>
          refine ⟨name ++ gap ++ '=' :: gap', value, none, by simp, hsign, by simp, ?_⟩
          intro rest' hle
          have hfield := read_field hname hne hgap hgap' (head_of_part hvalue hle)
          rw [readValue?_eq_none_of_part hread hle] at hfield
          simpa using hfield
  | @malformed name gap rest hname hgap hrest hstop hbad =>
      refine ⟨name ++ gap, rest, none, by simp, passes_name hname hgap, by simp, ?_⟩
      intro rest' hle
      have hstop' : ∀ c ∈ (gap ++ rest').head?, isNameChar c = false :=
        head_of_part hstop ((List.prefix_append_right_inj gap).2 hle)
      have hbad' : name = [] ∨ rest'.head? ≠ some '=' := by
        refine hbad.imp_right fun hsign hsign' => ?_
        obtain ⟨more, rfl⟩ := hle
        rw [List.head?_append, hsign'] at hsign
        exact hsign rfl
      have hfield := read_malformed hname hgap (head_of_part hrest hle) hstop' hbad'
      simpa using hfield

/-- The field that a round finds is the first one, with any part of the text behind it. -/
theorem Takes.parse {front : Text} {found : Option Field} (h : Takes front rest found)
    (hhead : ∀ c ∈ (front ++ rest).head?, isSeparator c = false) (hle : rest' <+: rest) :
    parse (front ++ rest') = found.toList ++ Field.parse (afterComma rest') := by
  have hread := h.read_part rest' hle
  cases hfront : front ++ rest' with
  | nil =>
      -- A round that takes nothing finds nothing.
      obtain ⟨rfl, rfl⟩ := List.append_eq_nil_iff.1 hfront
      rw [List.append_nil, read] at hread
      cases hread
      rfl
  | cons c cs =>
      have hnone : ∀ c ∈ ([] : Text), isSeparator c := by simp
      have hhead' : ∀ d ∈ (c :: cs).head?, isSeparator d = false := by
        rw [← hfront]
        exact head_of_part hhead ((List.prefix_append_right_inj front).2 hle)
      have hstop := parse_of_stop (c :: cs) hnone (List.cons_ne_nil c cs) hhead'
      rw [List.nil_append, ← hfront, hread] at hstop
      rw [← hfront, hstop]

/-! ## The fields of pieces -/

/-- The first piece is the beginning of the text. -/
theorem prefix_of_splitCommasFrom {s : Nesting} {piece : Text} {pieces : List Text}
    (h : splitCommasFrom s t = piece :: pieces) : piece <+: t := by
  induction t generalizing s piece pieces with
  | nil =>
      cases h
      exact List.prefix_refl []
  | cons c cs ih =>
      rw [splitCommasFrom] at h
      split at h
      · cases h
        exact List.nil_prefix
      · obtain ⟨first, others, hsplit⟩ :=
          List.exists_cons_of_ne_nil (Layout.splitCommasFrom_ne_nil (s.step c) cs)
        rw [hsplit, Text.consHead, List.cons.injEq] at h
        obtain ⟨rfl, rfl⟩ := h
        exact (List.prefix_cons_inj c).2 (ih hsplit)

/-- The fields of all pieces between the top-level commas of a text read in state `s`. -/
def parsePieces (s : Nesting) (t : Text) : List Field :=
  (splitCommasFrom s t).flatMap parse

/-- A separator in front is passed over. -/
theorem parse_cons_separator {c : Char} (hc : isSeparator c) (t : Text) :
    parse (c :: t) = parse t := by
  obtain ⟨sep, rest, rfl, hsep, hrest⟩ := Text.exists_stop isSeparator t
  have hsep' : ∀ d ∈ c :: sep, isSeparator d := List.forall_mem_cons.2 ⟨hc, hsep⟩
  cases rest with
  | nil => rw [List.append_nil, parse_of_separators hsep, parse_of_separators hsep']
  | cons d ds =>
      rw [parse_of_stop (d :: ds) hsep (by simp) hrest, ← List.cons_append,
        parse_of_stop (d :: ds) hsep' (by simp) hrest]

theorem step_separator (s : Nesting) {c : Char} (hc : isSeparator c) : s.step c = s := by
  have hne : ∀ d, isSeparator d = false → c ≠ d := by
    rintro d hd rfl
    simp [hc] at hd
  exact Nesting.step_of_plain s ⟨hne '{' rfl, hne '}' rfl, hne '"' rfl⟩

/-- Separators in front of a text change no piece but for a few that are empty. -/
theorem parsePieces_separators {sep : Text} (s : Nesting) (hsep : ∀ c ∈ sep, isSeparator c)
    (t : Text) : parsePieces s (sep ++ t) = parsePieces s t := by
  induction sep with
  | nil => rfl
  | cons c cs ih =>
      obtain ⟨hc, hcs⟩ := List.forall_mem_cons.1 hsep
      rw [← ih hcs, parsePieces, parsePieces, List.cons_append, splitCommasFrom,
        step_separator s hc]
      split
      · rw [List.flatMap_cons, parse_of_separators (by simp), List.nil_append]
      · obtain ⟨piece, pieces, hsplit⟩ :=
          List.exists_cons_of_ne_nil (Layout.splitCommasFrom_ne_nil s (cs ++ t))
        rw [hsplit, Text.consHead, List.flatMap_cons, List.flatMap_cons, parse_cons_separator hc]

end Field

namespace Nesting.Trails

variable {a s : Nesting} {t : Text}

/-- Separators do not change either state. -/
theorem separators {sep : Text} (hsep : ∀ c ∈ sep, Field.isSeparator c)
    (h : Trails a s (sep ++ t)) : Trails a s t := by
  induction sep with
  | nil => exact h
  | cons c cs ih =>
      obtain ⟨hc, hcs⟩ := List.forall_mem_cons.1 hsep
      have hstep := h.step
      rw [Field.step_separator a hc, Field.step_separator s hc] at hstep
      exact ih hcs hstep

/-- Behind the next comma that the reader of fields sees, what is left falls into the same pieces,
but for what stands in front of it in the first one. -/
theorem exists_afterComma (h : Trails .outside s t) {piece : Text} {pieces : List Text}
    (hsplit : splitCommasFrom s t = piece :: pieces) :
    ∃ s', Trails .outside s' (afterComma t) ∧
      Field.parsePieces s' (afterComma t) =
        Field.parse (afterComma piece) ++ pieces.flatMap Field.parse := by
  cases hcut : cutAtTop? ',' .outside t with
  | none =>
      -- The other state meets no comma either, so all of the text is one piece.
      have hpass : Passes ',' .outside t (outside.after t) := ⟨hcut, rfl⟩
      have hwhole : splitCommasFrom s (t ++ []) = [t ++ []] :=
        Layout.splitCommasFrom_append (Trails.passes (t.append_nil.symm ▸ h) hpass).1 rfl
      rw [List.append_nil, hsplit, List.cons.injEq] at hwhole
      obtain ⟨rfl, rfl⟩ := hwhole
      rw [afterComma_of_passes hpass]
      refine ⟨.outside, .same _ _, ?_⟩
      simp [Field.parsePieces, splitCommasFrom]
  | some cut =>
      obtain ⟨before, tail⟩ := cut
      obtain ⟨rfl, hpass, htop⟩ := eq_append_of_cutAtTop? hcut
      obtain ⟨hpass', htrails⟩ := h.passes hpass
      rw [eq_outside_of_isTop htop] at hpass htrails
      have hcomma : ∀ c ∈ [','], Field.isSeparator c := List.forall_mem_singleton.2 rfl
      rw [afterComma_of_cut hpass rfl]
      refine ⟨s.after before, separators hcomma htrails, ?_⟩
      -- The comma ends the piece, or the other state is inside of a group that was forgotten.
      obtain ⟨first, others, hrest⟩ :=
        List.exists_cons_of_ne_nil (Layout.splitCommasFrom_ne_nil (s.after before) tail)
      by_cases htop' : (s.after before).isTop
      · have hnext : splitCommasFrom (s.after before) (',' :: tail) =
            [] :: splitCommasFrom (s.after before) tail := by
          rw [splitCommasFrom, if_pos ⟨rfl, htop'⟩, Field.step_separator _ rfl]
        rw [Layout.splitCommasFrom_append hpass' hnext, List.cons.injEq] at hsplit
        obtain ⟨rfl, rfl⟩ := hsplit
        rw [List.append_nil, afterComma_of_passes hpass, Field.parse_of_separators (by simp)]
        rfl
      · have hnext : splitCommasFrom (s.after before) (',' :: tail) = (',' :: first) :: others := by
          rw [splitCommasFrom, if_neg fun h => htop' h.2, Field.step_separator _ rfl, hrest]
          rfl
        rw [Layout.splitCommasFrom_append hpass' hnext, List.cons.injEq] at hsplit
        obtain ⟨rfl, rfl⟩ := hsplit
        rw [afterComma_of_cut hpass rfl, Field.parsePieces, hrest, List.flatMap_cons]

end Nesting.Trails

namespace Field

/-- Two lists of fields of a text are the same up to a field with a bare value, which leaves groups
open in front of a quote. -/
def PartAtQuote (t : Text) (fields fields' : List Field) : Prop :=
  ∃ before f after after' front rest, t = front ++ (f.raw ++ rest) ∧
    groupsHoldQuote f.value.openGroups rest ∧
    fields = before ++ f :: after ∧ fields' = before ++ f :: after'

/-- What stands in front of a text does not change where the fields part. -/
theorem PartAtQuote.append {fields fields' : List Field} (front : Text) (before : List Field)
    (h : PartAtQuote t fields fields') :
    PartAtQuote (front ++ t) (before ++ fields) (before ++ fields') := by
  obtain ⟨before', f, after, after', front', rest, rfl, hquote, rfl, rfl⟩ := h
  exact ⟨before ++ before', f, after, after', front ++ front', rest, by simp, hquote, by simp,
    by simp⟩

/-- One round of reading: the field that it finds is the first one of the pieces as well, and what
it leaves falls into the other pieces, unless a quote follows in groups that the value opened. -/
theorem parsePieces_round {s : Nesting} (hne : t ≠ [])
    (hhead : ∀ c ∈ t.head?, isSeparator c = false) (h : Nesting.Trails .outside s t) :
    (∃ s', Nesting.Trails .outside s' (read t).2 ∧
      parsePieces s t = (read t).1.toList ++ parsePieces s' (read t).2) ∨
    PartAtQuote t (parse t) (parsePieces s t) := by
  have hnone : ∀ c ∈ ([] : Text), isSeparator c := by simp
  have hparse := parse_of_stop t hnone hne hhead
  obtain ⟨front, rest, found, rfl, htakes⟩ := exists_takes t
  rw [List.nil_append, htakes.read_part rest (List.prefix_refl rest)] at hparse
  rw [hparse, htakes.read_part rest (List.prefix_refl rest)]
  obtain ⟨hpass, htrails⟩ := h.passes htakes.passes
  obtain ⟨piece, pieces, hsplit⟩ :=
    List.exists_cons_of_ne_nil (Layout.splitCommasFrom_ne_nil (s.after front) rest)
  have hpieces : parsePieces s (front ++ rest) =
      found.toList ++ (parse (afterComma piece) ++ pieces.flatMap parse) := by
    rw [parsePieces, Layout.splitCommasFrom_append hpass hsplit, List.flatMap_cons,
      htakes.parse hhead (prefix_of_splitCommasFrom hsplit), List.append_assoc]
  rw [hpieces]
  -- Behind the value the reader knows nothing of the groups that the value opened.
  cases hquote : groupsHoldQuote ((found.map fun f => f.value.openGroups).getD 0) rest with
  | false =>
      obtain ⟨s', htrails', hrest⟩ := (htrails.forget hquote).exists_afterComma hsplit
      exact .inl ⟨s', htrails', by rw [hrest]⟩
  | true =>
      cases found with
      | none => simp [groupsHoldQuote] at hquote
      | some f =>
          have hraw := htakes.raw_eq f rfl
          exact .inr ⟨[], f, _, _, [], rest, by rw [hraw]; rfl, hquote, rfl, rfl⟩

/-- The fields of all pieces, in a state of braces and quotes that knows of groups which the reader
of fields forgot. -/
theorem parse_eq_parsePieces_or {s : Nesting} (h : Nesting.Trails .outside s t) :
    parse t = parsePieces s t ∨ PartAtQuote t (parse t) (parsePieces s t) := by
  induction hlen : t.length using Nat.strongRecOn generalizing s t with
  | ind n ih =>
      subst hlen
      obtain ⟨sep, u, rfl, hsep, hu⟩ := Text.exists_stop isSeparator t
      rw [parsePieces_separators s hsep]
      cases u with
      | nil =>
          rw [List.append_nil, parse_of_separators hsep]
          exact .inl (by simp [parsePieces, splitCommasFrom, parse_of_separators])
      | cons c cs =>
          have hne := List.cons_ne_nil c cs
          have hparse := parse_of_stop (c :: cs) hsep hne hu
          rcases parsePieces_round hne hu (h.separators hsep) with ⟨s', htrails, hpieces⟩ | hpart
          -- What the round leaves is shorter, and the two lists go on as they do for it.
          · have hlt : (read (c :: cs)).2.length < (sep ++ c :: cs).length := by
              rw [List.length_append]
              exact Nat.lt_of_lt_of_le (length_read_lt hne) (Nat.le_add_left _ _)
            rw [hparse, hpieces]
            rcases ih _ hlt htrails rfl with hsame | hpart
            · exact .inl (by rw [hsame])
            · obtain ⟨taken, htaken⟩ := read_suffix (c :: cs)
              have hlong := hpart.append (sep ++ taken) (read (c :: cs)).1.toList
              rw [List.append_assoc, htaken] at hlong
              exact .inr hlong
          · have hnone : ∀ d ∈ ([] : Text), isSeparator d := by simp
            rw [hparse, ← parse_of_stop (c :: cs) hnone hne hu]
            exact .inr (hpart.append sep [])

/-- The fields of a text are the fields of the pieces between its top-level commas, one piece after
the other, unless a bare value leaves groups open in front of a quote. They are the same up to that
value even then. -/
theorem parse_splitCommas (t : Text) :
    parse t = (splitCommas t).flatMap parse ∨
      PartAtQuote t (parse t) ((splitCommas t).flatMap parse) :=
  parse_eq_parsePieces_or (.same .outside t)

/-- The reader of fields does not see that the accent stands in braces, and takes its quote for one
that opens here. -/
theorem not_parse_splitCommas :
    ¬∀ t, (parse t).map (fun f => (f.name, f.value)) =
      (splitCommas t).flatMap fun piece => (parse piece).map fun f => (f.name, f.value) := by
  intro h
  have haccent := h "x = M\x7b\\\"u\x7dller, y = 1".toList
  revert haccent
  decide +kernel

end Field

end Bibliography

end CiteIndex
