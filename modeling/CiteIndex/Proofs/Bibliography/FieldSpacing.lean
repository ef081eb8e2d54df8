import CiteIndex.Proofs.Bibliography.Fields

/-!
# Spacing of fields

What the length of gaps means to the fields of a text whose white space is ASCII: nothing. They are
found at the same places of the squeezed text, with values that are squeezed themselves.

- `Field.squeeze`: a field with its gaps squeezed
- `Field.eq_append_of_readValue?`, `Field.read_suffix`: what is read and what is left of a text
- `Field.parse_squeezeFrom`: the fields of a squeezed text
-/

namespace CiteIndex

namespace Bibliography

open Text (squeezeFrom HasAsciiBlanks)

/-! ## Inside a value -/

/-- White space plays no part in where a group is closed. -/
theorem cutsAtInk_cutGroup? : Text.CutsAtInk cutGroup? := by
  refine ⟨fun _ => rfl, fun d c hc cs => ?_, fun d c _ => ?_⟩
  · have hopen : c ≠ '{' := Text.ne_of_isBlank hc rfl
    have hclose : c ≠ '}' := Text.ne_of_isBlank hc rfl
    simp [cutGroup?, hopen, hclose]
  · by_cases hopen : c = '{'
    · exact .inr ⟨d + 1, fun cs => by simp [cutGroup?, hopen]⟩
    · by_cases hclose : c = '}'
      · cases d with
        | zero => exact .inl fun cs => by simp [cutGroup?, hclose]
        | succ d => exact .inr ⟨d, fun cs => by simp [cutGroup?, hclose]⟩
      · exact .inr ⟨d, fun cs => by simp [cutGroup?, hopen, hclose]⟩

/-- White space plays no part in where a string is closed. -/
theorem cutsAtInk_cutQuote? : Text.CutsAtInk cutQuote? := by
  refine ⟨fun _ => rfl, fun d c hc cs => ?_, fun d c _ => ?_⟩
  · have hquote : c ≠ '"' := Text.ne_of_isBlank hc rfl
    have hopen : c ≠ '{' := Text.ne_of_isBlank hc rfl
    have hclose : c ≠ '}' := Text.ne_of_isBlank hc rfl
    rw [cutQuote?, if_neg fun h => hquote h.1, if_neg hopen, if_neg hclose]
  · by_cases hstop : c = '"' ∧ d = 0
    · exact .inl fun cs => by rw [cutQuote?, if_pos hstop]
    · right
      by_cases hopen : c = '{'
      · exact ⟨d + 1, fun cs => by rw [cutQuote?, if_neg hstop, if_pos hopen]⟩
      · by_cases hclose : c = '}'
        · exact ⟨d - 1, fun cs => by rw [cutQuote?, if_neg hstop, if_neg hopen, if_pos hclose]⟩
        · exact ⟨d, fun cs => by rw [cutQuote?, if_neg hstop, if_neg hopen, if_neg hclose]⟩

theorem cutGroup?_squeezeFrom (inGap : Bool) (depth : Nat) (t : Text) :
    cutGroup? depth (squeezeFrom inGap t) =
      (cutGroup? depth t).map fun cut => (squeezeFrom inGap cut.1, squeezeFrom false cut.2) :=
  cutsAtInk_cutGroup?.cut_squeezeFrom inGap depth t

theorem cutQuote?_squeezeFrom (inGap : Bool) (depth : Nat) (t : Text) :
    cutQuote? depth (squeezeFrom inGap t) =
      (cutQuote? depth t).map fun cut => (squeezeFrom inGap cut.1, squeezeFrom false cut.2) :=
  cutsAtInk_cutQuote?.cut_squeezeFrom inGap depth t

theorem eq_append_of_cutGroup? {depth : Nat} {t inside rest : Text} :
    cutGroup? depth t = some (inside, rest) → t = inside ++ '}' :: rest := by
  intro h
  fun_induction cutGroup? depth t generalizing inside with
  | case1 => cases h
  | case2 depth cs ih =>
      rcases Text.map_consLeft_eq_some h with ⟨left, hcut, rfl⟩
      rw [ih hcut]
      rfl
  | case3 cs =>
      cases h
      rfl
  | case4 cs depth _ ih =>
      rcases Text.map_consLeft_eq_some h with ⟨left, hcut, rfl⟩
      rw [ih hcut]
      rfl
  | case5 depth c cs _ _ ih =>
      rcases Text.map_consLeft_eq_some h with ⟨left, hcut, rfl⟩
      rw [ih hcut]
      rfl

theorem eq_append_of_cutQuote? {depth : Nat} {t inside rest : Text} :
    cutQuote? depth t = some (inside, rest) → t = inside ++ '"' :: rest := by
  intro h
  fun_induction cutQuote? depth t generalizing inside with
  | case1 => cases h
  | case2 depth c cs hstop =>
      cases h
      rw [hstop.1]
      rfl
  | case3 depth cs _ ih =>
      rcases Text.map_consLeft_eq_some h with ⟨left, hcut, rfl⟩
      rw [ih hcut]
      rfl
  | case4 depth cs _ _ ih =>
      rcases Text.map_consLeft_eq_some h with ⟨left, hcut, rfl⟩
      rw [ih hcut]
      rfl
  | case5 depth c cs _ _ _ ih =>
      rcases Text.map_consLeft_eq_some h with ⟨left, hcut, rfl⟩
      rw [ih hcut]
      rfl

/-! ## Fields -/

/-- A value with its gaps squeezed. A bare value has none. -/
def FieldValue.squeeze : FieldValue → FieldValue
  | .braced t => .braced (squeezeFrom false t)
  | .quoted t => .quoted (squeezeFrom false t)
  | .bare t => .bare t

def Field.squeeze (f : Field) : Field :=
  ⟨f.name, f.value.squeeze, squeezeFrom false f.raw⟩

namespace Field

/-- A value with its delimiters and the rest make up the text. -/
theorem eq_append_of_readValue? {t rest : Text} {value : FieldValue} :
    readValue? t = some (value, rest) → t = value.source ++ rest := by
  intro h
  cases t with
  | nil => cases h
  | cons c cs =>
      rw [readValue?] at h
      split at h
      · rename_i hopen
        rcases Option.map_eq_some_iff.1 h with ⟨⟨inside, tail⟩, hcut, heq⟩
        cases heq
        rw [hopen, eq_append_of_cutGroup? hcut]
        simp [FieldValue.source]
      · split at h
        · rename_i hquote
          rcases Option.map_eq_some_iff.1 h with ⟨⟨inside, tail⟩, hcut, heq⟩
          cases heq
          rw [hquote, eq_append_of_cutQuote? hcut]
          simp [FieldValue.source]
        · split at h
          · cases h
            exact List.takeWhile_append_dropWhile.symm
          · cases h

theorem isBareChar_of_readValue? {t word rest : Text} :
    readValue? t = some (.bare word, rest) → ∀ c ∈ word, isBareChar c := by
  intro h
  cases t with
  | nil => cases h
  | cons d ds =>
      rw [readValue?] at h
      split at h
      · rcases Option.map_eq_some_iff.1 h with ⟨_, _, heq⟩
        cases heq
      · split at h
        · rcases Option.map_eq_some_iff.1 h with ⟨_, _, heq⟩
          cases heq
        · split at h
          · cases h
            exact List.all_eq_true.1 List.all_takeWhile
          · cases h

/-- All that is left to read is at the end of the text. -/
theorem afterComma_suffix (t : Text) : afterComma t <:+ t := by
  unfold afterComma
  split
  · rename_i before rest hcut
    rcases eq_append_of_cutAtTop? hcut with ⟨rfl, -, -⟩
    exact ⟨before ++ [','], by simp⟩
  · exact List.nil_suffix

/-- What a round leaves is the end of the text. -/
theorem read_suffix (t : Text) : (read t).2 <:+ t := by
  cases round t with
  | @field name gap gap' value hname hne hgap hgap' hvalue =>
      have hend : value <:+ name ++ (gap ++ '=' :: (gap' ++ value)) :=
        ⟨name ++ (gap ++ '=' :: gap'), by simp⟩
      rw [read_field hname hne hgap hgap' hvalue]
      cases hread : readValue? value with
      | none => exact (afterComma_suffix value).trans hend
      | some found =>
          have hmore : found.2 <:+ value := ⟨found.1.source, (eq_append_of_readValue? hread).symm⟩
          exact (afterComma_suffix found.2).trans (hmore.trans hend)
  | @malformed name gap rest hname hgap hrest hstop hbad =>
      have hend : rest <:+ name ++ (gap ++ rest) := ⟨name ++ gap, by simp⟩
      rw [read_malformed hname hgap hrest hstop hbad]
      exact (afterComma_suffix rest).trans hend

theorem afterComma_squeezeFrom (inGap : Bool) (t : Text) :
    afterComma (squeezeFrom inGap t) = squeezeFrom false (afterComma t) := by
  have hcomma : Text.isBlank ',' = false := rfl
  rw [afterComma, cutAtTop?_squeezeFrom hcomma, afterComma]
  cases cutAtTop? ',' .outside t with
  | none => rfl
  | some cut => rfl

/-- The source of a value that was read, squeezed, is that of the squeezed value. -/
theorem source_squeeze {t rest : Text} {value : FieldValue} (ht : HasAsciiBlanks t)
    (h : readValue? t = some (value, rest)) (inGap : Bool) :
    squeezeFrom inGap value.source = value.squeeze.source := by
  have hdelimited : ∀ (open' close : Char) (inside : Text), Text.isBlank open' = false →
      Text.isBlank close = false → squeezeFrom inGap (open' :: inside ++ [close]) =
        open' :: squeezeFrom false inside ++ [close] := by
    intro open' close inside hopen hclose
    rw [List.cons_append, Text.squeezeFrom_cons_of_ink hopen, Text.squeezeFrom_append_ink hclose]
    rfl
  cases value with
  | braced inside => exact hdelimited '{' '}' inside rfl rfl
  | quoted inside => exact hdelimited '"' '"' inside rfl rfl
  | bare word =>
      -- Nothing in a bare value is white space.
      have hink : ∀ c ∈ word, Text.isBlank c = false := by
        intro c hc
        have hmem : c ∈ t := by
          rw [eq_append_of_readValue? h]
          exact List.mem_append_left rest hc
        exact ht.ink_of (fun _ => not_isBareChar_of_blank) hmem (isBareChar_of_readValue? h c hc)
      exact Text.squeezeFrom_eq_self hink inGap

/-- A value is read from a squeezed text as one that is squeezed itself. -/
theorem readValue?_squeezeFrom {t : Text} (ht : HasAsciiBlanks t)
    (hhead : ∀ c ∈ t.head?, Text.isAsciiBlank c = false) :
    readValue? (squeezeFrom false t) =
      (readValue? t).map fun found => (found.1.squeeze, squeezeFrom false found.2) := by
  cases t with
  | nil => rfl
  | cons c cs =>
      have hc : Text.isBlank c = false := ht.head hhead c rfl
      rw [Text.squeezeFrom_cons_of_ink hc, readValue?, readValue?, cutGroup?_squeezeFrom,
        cutQuote?_squeezeFrom]
      by_cases hopen : c = '{'
      · simp [hopen, Function.comp_def, FieldValue.squeeze]
      · by_cases hquote : c = '"'
        · simp [hquote, Function.comp_def, FieldValue.squeeze]
        · -- A bare value ends at the same character of both texts.
          rcases Text.exists_stop isBareChar (c :: cs) with ⟨word, rest, heq, hword, hrest⟩
          have hink : ∀ d ∈ word, Text.isBlank d = false := by
            intro d hd
            have hmem : d ∈ c :: cs := by
              rw [heq]
              exact List.mem_append_left rest hd
            exact ht.ink_of (fun _ => not_isBareChar_of_blank) hmem (hword d hd)
          have hspace : isBareChar ' ' = false := rfl
          have hrest' := Text.head_squeezeFrom hspace hrest
          have hsqueezed : c :: squeezeFrom false cs = word ++ squeezeFrom false rest := by
            rw [← Text.squeezeFrom_cons_of_ink hc false, heq, Text.squeezeFrom_ink_append hink]
          rw [if_neg hopen, if_neg hquote, if_neg hopen, if_neg hquote, hsqueezed, heq,
            Text.takeWhile_append_stop hword hrest, Text.dropWhile_append_stop hword hrest,
            Text.takeWhile_append_stop hword hrest', Text.dropWhile_append_stop hword hrest']
          split
          · rfl
          · rfl

/-- One round of reading a squeezed text. -/
theorem read_squeezeFrom {t : Text} (ht : HasAsciiBlanks t) :
    read (squeezeFrom false t) = ((read t).1.map squeeze, squeezeFrom false (read t).2) := by
  have hnames : ∀ {name u : Text}, HasAsciiBlanks (name ++ u) → (∀ c ∈ name, isNameChar c) →
      ∀ c ∈ name, Text.isBlank c = false := by
    intro name u hascii hname c hc
    exact hascii.left.ink_of (fun _ => not_isNameChar_of_blank) hc (hname c hc)
  cases round t with
  | @field name gap gap' value hname hne hgap hgap' hvalue =>
      have hink := hnames ht hname
      have hascii : HasAsciiBlanks value := ht.right.right.tail.right
      have hhead := hascii.head hvalue
      have hgaps : ∀ c ∈ squeezeFrom false gap, Text.isAsciiBlank c :=
        Text.isAsciiBlank_of_mem_squeezeFrom hgap
      have hgaps' : ∀ c ∈ squeezeFrom false gap', Text.isAsciiBlank c :=
        Text.isAsciiBlank_of_mem_squeezeFrom hgap'
      have hvalue' : ∀ c ∈ (squeezeFrom false value).head?, Text.isAsciiBlank c = false := by
        rw [Text.head?_squeezeFrom hhead]
        exact hvalue
      have hparts : squeezeFrom false (name ++ (gap ++ '=' :: (gap' ++ value))) =
          name ++ (squeezeFrom false gap ++
            '=' :: (squeezeFrom false gap' ++ squeezeFrom false value)) := by
        rw [Text.squeezeFrom_ink_append hink, Text.squeezeFrom_append_ink rfl,
          Text.squeezeFrom_append_of_head hhead]
      rw [hparts, read_field hname hne hgaps hgaps' hvalue', read_field hname hne hgap hgap' hvalue,
        readValue?_squeezeFrom hascii hvalue]
      cases hread : readValue? value with
      | none => exact congrArg (Prod.mk none) (afterComma_squeezeFrom false value)
      | some found =>
          rcases found with ⟨v, more⟩
          -- The source of the field is squeezed part by part.
          have hsource : ∀ c ∈ v.source.head?, Text.isBlank c = false := by
            intro c hc
            refine hhead c ?_
            rw [eq_append_of_readValue? hread, List.head?_append, Option.mem_def.1 hc]
            rfl
          have hraw : squeezeFrom false (name ++ gap ++ '=' :: gap' ++ v.source) =
              name ++ squeezeFrom false gap ++ '=' :: squeezeFrom false gap' ++
                v.squeeze.source := by
            have hassoc : name ++ gap ++ '=' :: gap' ++ v.source =
                name ++ (gap ++ '=' :: (gap' ++ v.source)) := by simp
            rw [hassoc, Text.squeezeFrom_ink_append hink, Text.squeezeFrom_append_ink rfl,
              Text.squeezeFrom_append_of_head hsource, source_squeeze hascii hread]
            simp
          simp only [Option.map_some, squeeze, hraw, afterComma_squeezeFrom]
  | @malformed name gap rest hname hgap hrest hstop hbad =>
      have hhead := ht.right.right.head hrest
      have hsame : (squeezeFrom false rest).head? = rest.head? := Text.head?_squeezeFrom hhead false
      have hgaps : ∀ c ∈ squeezeFrom false gap, Text.isAsciiBlank c :=
        Text.isAsciiBlank_of_mem_squeezeFrom hgap
      have hrest' : ∀ c ∈ (squeezeFrom false rest).head?, Text.isAsciiBlank c = false := by
        rw [hsame]
        exact hrest
      have hstop' : ∀ c ∈ (squeezeFrom false gap ++ squeezeFrom false rest).head?,
          isNameChar c = false := by
        rw [← Text.squeezeFrom_append_of_head hhead]
        exact Text.head_squeezeFrom rfl hstop
      have hbad' : name = [] ∨ (squeezeFrom false rest).head? ≠ some '=' := by
        rw [hsame]
        exact hbad
      have hparts : squeezeFrom false (name ++ (gap ++ rest)) =
          name ++ (squeezeFrom false gap ++ squeezeFrom false rest) := by
        rw [Text.squeezeFrom_ink_append (hnames ht hname), Text.squeezeFrom_append_of_head hhead]
      rw [hparts, read_malformed hname hgaps hrest' hstop' hbad',
        read_malformed hname hgap hrest hstop hbad, afterComma_squeezeFrom]
      rfl

/-- The fields of a squeezed text are those of the text, squeezed. -/
theorem parse_squeezeFrom (inGap : Bool) {t : Text} (ht : HasAsciiBlanks t) :
    parse (squeezeFrom inGap t) = (parse t).map squeeze := by
  induction hlen : t.length using Nat.strongRecOn generalizing t inGap with
  | ind n ih =>
      subst hlen
      -- Separators go first; they are separators still when they are squeezed.
      rcases Text.exists_stop isSeparator t with ⟨sep, rest, rfl, hsep, hrest⟩
      have hseps : ∀ c ∈ squeezeFrom inGap sep, isSeparator c := by
        intro c hc
        rcases Text.mem_squeezeFrom hc with rfl | hc
        · rfl
        · exact hsep c hc
      cases rest with
      | nil =>
          rw [List.append_nil, parse_of_separators hsep, parse_of_separators hseps]
          rfl
      | cons c cs =>
          have hsepc : isSeparator c = false := hrest c rfl
          have hascii : Text.isAsciiBlank c = false := by
            cases hblank : Text.isAsciiBlank c with
            | false => rfl
            | true =>
                rw [isSeparator_of_blank hblank] at hsepc
                cases hsepc
          have hink : Text.isBlank c = false := ht.right.ink List.mem_cons_self hascii
          have hhead : ∀ d ∈ (c :: squeezeFrom false cs).head?, isSeparator d = false := by
            intro d hd
            obtain rfl : c = d := by simpa using hd
            exact hsepc
          -- The round on the squeezed text finds the squeezed field and leaves the squeezed rest.
          have hround : read (c :: squeezeFrom false cs) =
              ((read (c :: cs)).1.map squeeze, squeezeFrom false (read (c :: cs)).2) := by
            rw [← Text.squeezeFrom_cons_of_ink hink false]
            exact read_squeezeFrom ht.right
          have hlt : (read (c :: cs)).2.length < (sep ++ c :: cs).length := by
            have hle := length_read_lt (List.cons_ne_nil c cs)
            simp only [List.length_append]
            omega
          have hleft : HasAsciiBlanks (read (c :: cs)).2 :=
            ht.right.mono fun d hd => (read_suffix (c :: cs)).subset hd
          have hrec := ih (read (c :: cs)).2.length hlt false hleft rfl
          rw [Text.squeezeFrom_append_ink hink, parse_of_stop _ hseps (by simp) hhead,
            parse_of_stop _ hsep (by simp) hrest, hround, hrec, List.map_append]
          cases (read (c :: cs)).1 <;> rfl

end Field

end Bibliography

end CiteIndex
