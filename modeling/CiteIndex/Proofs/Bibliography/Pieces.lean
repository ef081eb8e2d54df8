import CiteIndex.Proofs.Bibliography.Layouts
import CiteIndex.Proofs.Text.Lines

/-!
# Pieces of records in one line

A record in one line is taken apart at the top-level commas in the body of its first block. The
pieces are trimmed, and those that are blank are left out, so that white space and further commas
between two pieces make no difference.

- `Layout.pieces`: the pieces of a body
- `Layout.splitBlock?_eq_some_iff`: the lines that a record is taken apart into
- `Layout.pieces_token`: the first piece of a body that begins with a token
-/

namespace CiteIndex

namespace Bibliography

namespace Layout

/-- The pieces of a body between its top-level commas, without white space around them, and only
those that hold something else. -/
def pieces (body : Text) : List Text :=
  ((splitCommas body).map Text.trim).filter fun piece => !piece.isEmpty

/-- A text is laid out by its first block exactly if that has a key and at least one field. -/
theorem splitBlock?_eq_some_iff {t : Text} {lines : List Text} :
    splitBlock? t = some lines ↔
      ∃ b bs key field fields, Block.scan t = b :: bs ∧ pieces b.body = key :: field :: fields ∧
        lines = ('@' :: (b.kind ++ '{' :: (key ++ [',']))) ::
          (withCommas (field :: fields) ++ [['}']]) := by
  rw [splitBlock?]
  cases hscan : Block.scan t with
  | nil => simp
  | cons b bs =>
      rcases hpieces : pieces b.body with _ | ⟨key, _ | ⟨field, fields⟩⟩
      · have hnone := hpieces
        rw [pieces] at hnone
        simp [hpieces, hnone]
      · have hkey := hpieces
        rw [pieces] at hkey
        simp [hpieces, hkey]
      · have hfields := hpieces
        rw [pieces] at hfields
        simp only [hfields]
        constructor
        · intro h
          exact ⟨b, bs, key, field, fields, rfl, hpieces, by simpa using (Option.some.inj h).symm⟩
        · rintro ⟨b', bs', key', field', fields', hcons, hpieces', rfl⟩
          obtain ⟨rfl, rfl⟩ := List.cons.inj hcons
          rw [hpieces] at hpieces'
          cases hpieces'
          simp

/-! ## What pieces are made of -/

theorem mem_of_mem_splitCommasFrom {s : Nesting} {t piece : Text} {c : Char} :
    piece ∈ splitCommasFrom s t → c ∈ piece → c ∈ t := by
  intro hpiece hc
  induction t generalizing s piece with
  | nil =>
      obtain rfl : piece = [] := by simpa [splitCommasFrom] using hpiece
      cases hc
  | cons d ds ih =>
      rw [splitCommasFrom] at hpiece
      split at hpiece
      · rcases List.mem_cons.1 hpiece with rfl | hpiece
        · cases hc
        · exact List.mem_cons_of_mem d (ih hpiece hc)
      -- The character goes in front of the first piece.
      · cases hds : splitCommasFrom (s.step d) ds with
        | nil => exact absurd hds (splitCommasFrom_ne_nil _ _)
        | cons first rest =>
            rw [hds] at hpiece
            have hmem : ∀ q ∈ first :: rest, c ∈ q → c ∈ ds := by
              intro q hq hcq
              rw [← hds] at hq
              exact ih hq hcq
            rcases List.mem_cons.1 hpiece with rfl | hpiece
            · rcases List.mem_cons.1 hc with rfl | hc
              · exact List.mem_cons_self
              · exact List.mem_cons_of_mem d (hmem first List.mem_cons_self hc)
            · exact List.mem_cons_of_mem d (hmem piece (List.mem_cons_of_mem _ hpiece) hc)

/-- Pieces are trimmed, not empty, and parts of the body. -/
theorem mem_pieces {body piece : Text} (h : piece ∈ pieces body) :
    piece ≠ [] ∧ Text.trim piece = piece ∧ ∀ c ∈ piece, c ∈ body := by
  obtain ⟨hmem, hne⟩ := List.mem_filter.1 h
  obtain ⟨whole, hwhole, rfl⟩ := List.mem_map.1 hmem
  refine ⟨by simpa using hne, Text.trim_trim whole, ?_⟩
  intro c hc
  exact mem_of_mem_splitCommasFrom hwhole (Text.mem_of_mem_trim hc)

/-- The pieces hold all ink of the body. -/
theorem ink_flatten_pieces (body : Text) : ink (pieces body).flatten = ink body := by
  calc
    ink (pieces body).flatten = ink (splitCommasFrom .outside body).flatten := ink_pieces _
    _ = ink body := ink_splitCommas .outside body

theorem mem_of_mem_withCommas {line : Text} {fields : List Text} {c : Char} :
    line ∈ withCommas fields → c ∈ line → c = ',' ∨ ∃ field ∈ fields, c ∈ field := by
  intro hline hc
  fun_induction withCommas fields with
  | case1 => cases hline
  | case2 field =>
      obtain rfl := List.mem_singleton.1 hline
      exact .inr ⟨_, List.mem_cons_self, hc⟩
  | case3 field rest _ ih =>
      rcases List.mem_cons.1 hline with rfl | hline
      · rcases List.mem_append.1 hc with hc | hc
        · exact .inr ⟨field, List.mem_cons_self, hc⟩
        · exact .inl (List.mem_singleton.1 hc)
      · rcases ih hline with hcomma | ⟨other, hother, hc⟩
        · exact .inl hcomma
        · exact .inr ⟨other, List.mem_cons_of_mem field hother, hc⟩

/-! ## The first piece -/

theorem pieces_cons_comma (t : Text) : pieces (',' :: t) = pieces t := by
  rw [pieces, splitCommas, splitCommasFrom, if_pos ⟨rfl, rfl⟩]
  rfl

/-- A text that shows no comma at the top level goes in front of the first piece of the rest. -/
theorem splitCommasFrom_append {s s' : Nesting} {t u piece : Text} {rest : List Text} :
    Passes ',' s t s' → splitCommasFrom s' u = piece :: rest →
      splitCommasFrom s (t ++ u) = (t ++ piece) :: rest := by
  intro ht hu
  obtain ⟨hcut, rfl⟩ := ht
  -- Along the passed text, whose characters all go in front of the first piece of what follows.
  induction t generalizing s with
  | nil => exact hu
  | cons c cs ih =>
      rw [cutAtTop?] at hcut
      split at hcut
      · cases hcut
      · rename_i hc
        have hcs := ih (Option.map_eq_none_iff.1 hcut) hu
        rw [List.cons_append, splitCommasFrom, if_neg hc, hcs]
        rfl

theorem pieces_cons_blank {c : Char} (hc : Text.isBlank c) (t : Text) :
    pieces (c :: t) = pieces t := by
  have hpass : Passes ',' .outside [c] .outside := by
    apply Passes.of_plain
    intro d hd
    obtain rfl := List.mem_singleton.1 hd
    have hne : ∀ e, Text.isBlank e = false → d ≠ e := by
      intro e he heq
      rw [heq, he] at hc
      cases hc
    exact ⟨hne _ rfl, hne _ rfl, hne _ rfl, hne _ rfl⟩
  obtain ⟨piece, rest, hsplit⟩ :=
    List.exists_cons_of_ne_nil (splitCommasFrom_ne_nil .outside t)
  have hcons : splitCommasFrom .outside (c :: t) = (c :: piece) :: rest :=
    splitCommasFrom_append hpass hsplit
  have hgap : ∀ d ∈ [c], Text.isBlank d := by simpa using hc
  have hnil : ∀ d ∈ ([] : Text), Text.isBlank d := by simp
  have htrim : Text.trim (c :: piece) = Text.trim piece := by
    simpa using Text.trim_append_gaps hgap hnil piece
  rw [pieces, pieces, splitCommas, splitCommas, hcons, hsplit, List.map_cons, List.map_cons, htrim]

/-- Separators in front make no piece. -/
theorem pieces_separators {w : Text} (hw : ∀ c ∈ w, Field.isSeparator c) (t : Text) :
    pieces (w ++ t) = pieces t := by
  induction w with
  | nil => rfl
  | cons c cs ih =>
      obtain ⟨hc, hcs⟩ := List.forall_mem_cons.1 hw
      rw [Field.isSeparator, Bool.or_eq_true, beq_iff_eq] at hc
      rcases hc with hc | rfl
      · calc
          pieces (c :: (cs ++ t)) = pieces (cs ++ t) :=
            pieces_cons_blank (Text.isBlank_of_isAsciiBlank hc) (cs ++ t)
          _ = pieces t := ih hcs
      · calc
          pieces (',' :: (cs ++ t)) = pieces (cs ++ t) := pieces_cons_comma (cs ++ t)
          _ = pieces t := ih hcs

theorem pieces_of_split {t first : Text} {rest : List Text} :
    splitCommas t = first :: rest → Text.trim first ≠ [] →
      pieces t = Text.trim first :: (rest.map Text.trim).filter fun piece => !piece.isEmpty := by
  intro hsplit hne
  have hkeep : (!(Text.trim first).isEmpty) = true := by simpa using hne
  rw [pieces, hsplit, List.map_cons, List.filter_cons, if_pos hkeep]

/-- A text that shows no comma at the top level is one piece, if a comma follows it or nothing. -/
theorem pieces_append_comma {t : Text} (rest : Text) :
    Passes ',' .outside t .outside → Text.trim t ≠ [] →
      pieces (t ++ ',' :: rest) = Text.trim t :: pieces rest := by
  intro hpass hne
  have hcomma : splitCommasFrom .outside (',' :: rest) = [] :: splitCommas rest := by
    rw [splitCommasFrom, if_pos ⟨rfl, rfl⟩]
    rfl
  have hsplit : splitCommas (t ++ ',' :: rest) = (t ++ []) :: splitCommas rest :=
    splitCommasFrom_append hpass hcomma
  rw [List.append_nil] at hsplit
  exact pieces_of_split hsplit hne

/-- A body without commas at the top level is one piece. -/
theorem pieces_eq_singleton {t : Text} :
    Passes ',' .outside t .outside → Text.trim t ≠ [] → pieces t = [Text.trim t] := by
  intro hpass hne
  have hnil : splitCommasFrom .outside [] = [[]] := rfl
  have hsplit : splitCommas (t ++ []) = [t ++ []] := splitCommasFrom_append hpass hnil
  rw [List.append_nil] at hsplit
  exact pieces_of_split hsplit hne

/-- A token is the first piece, whatever white space and further commas are between it and the next
one. -/
theorem pieces_token {token w rest : Text} :
    Passes ',' .outside token .outside → token ≠ [] → Text.trim token = token →
      (∀ c ∈ w, Field.isSeparator c) → ',' ∈ w ∨ rest = [] →
        pieces (token ++ (w ++ rest)) = token :: pieces rest := by
  intro hpass hne htrim hw hend
  obtain ⟨gap, more, rfl, hgap, hstop⟩ := Text.exists_stop Text.isAsciiBlank w
  obtain ⟨-, hmore⟩ := List.forall_mem_append.1 hw
  have hgapPass : Passes ',' .outside (token ++ gap) .outside := by
    apply hpass.append
    apply Passes.of_plain
    intro c hc
    exact ⟨ne_of_isAsciiBlank (hgap c hc) rfl, ne_of_isAsciiBlank (hgap c hc) rfl,
      ne_of_isAsciiBlank (hgap c hc) rfl, ne_of_isAsciiBlank (hgap c hc) rfl⟩
  have htoken : Text.trim (token ++ gap) = token := by
    have hblank : ∀ c ∈ gap, Text.isBlank c := fun c hc => Text.isBlank_of_isAsciiBlank (hgap c hc)
    have hnil : ∀ c ∈ ([] : Text), Text.isBlank c := by simp
    calc
      Text.trim (token ++ gap) = Text.trim token := by
        simpa using Text.trim_append_gaps hnil hblank token
      _ = token := htrim
  have hne' : Text.trim (token ++ gap) ≠ [] := by simpa [htoken] using hne
  cases more with
  | nil =>
      -- No comma follows, so the body ends here.
      have hcomma : ',' ∉ gap := by
        intro hmem
        exact absurd (hgap ',' hmem) (by decide)
      obtain rfl : rest = [] := by simpa [hcomma] using hend
      calc
        pieces (token ++ (gap ++ [] ++ [])) = pieces (token ++ gap) := by simp
        _ = [Text.trim (token ++ gap)] := pieces_eq_singleton hgapPass hne'
        _ = token :: pieces [] := by rw [htoken]; rfl
  | cons c cs =>
      obtain ⟨hc, hcs⟩ := List.forall_mem_cons.1 hmore
      obtain rfl : c = ',' := by
        have hblank : Text.isAsciiBlank c = false := hstop c rfl
        simpa [Field.isSeparator, hblank] using hc
      calc
        pieces (token ++ ((gap ++ ',' :: cs) ++ rest))
            = pieces ((token ++ gap) ++ ',' :: (cs ++ rest)) := by simp
        _ = Text.trim (token ++ gap) :: pieces (cs ++ rest) :=
            pieces_append_comma (cs ++ rest) hgapPass hne'
        _ = token :: pieces rest := by rw [htoken, pieces_separators hcs]

end Layout

end Bibliography

end CiteIndex
