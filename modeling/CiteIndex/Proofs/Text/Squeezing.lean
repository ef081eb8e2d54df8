import CiteIndex.Proofs.Text.Gaps

/-!
# Readers of squeezed texts

What a reader finds in a text whose gaps were squeezed. A reader that stops at places which are not
white space finds the same places, and pieces that are squeezed themselves; the words of a text are
the same, also if some characters are left out of it. All this is about any white space. A reader
that goes by the ASCII blanks alone needs a text that has no others.

- `Text.CutsAtInk`: readers that cut a text at something else than white space
- `Text.CutsAtInk.cut_squeezeFrom`: such a reader cuts a squeezed text at the same place
- `Text.words_filter_squeezeFrom`: the words of a squeezed text
- `Text.HasAsciiBlanks`: texts whose white space is ASCII
-/

namespace CiteIndex

namespace Text

/-! ## Squeezing by parts -/

theorem squeezeFrom_cons_of_ink {c : Char} (hc : isBlank c = false) (inGap : Bool) (t : Text) :
    squeezeFrom inGap (c :: t) = c :: squeezeFrom false t := by
  simp [squeezeFrom, hc]

/-- White space that begins a gap becomes one blank. -/
theorem squeezeFrom_false_cons {c : Char} (hc : isBlank c) (t : Text) :
    squeezeFrom false (c :: t) = ' ' :: squeezeFrom true t := by
  simp [squeezeFrom, hc]

/-- White space inside a gap is dropped. -/
theorem squeezeFrom_true_cons {c : Char} (hc : isBlank c) (t : Text) :
    squeezeFrom true (c :: t) = squeezeFrom true t := by
  simp [squeezeFrom, hc]

/-- Squeezing brings nothing new but blanks. -/
theorem mem_squeezeFrom {inGap : Bool} {t : Text} {c : Char} :
    c ∈ squeezeFrom inGap t → c = ' ' ∨ c ∈ t := by
  intro hc
  induction t generalizing inGap with
  | nil => cases hc
  | cons d ds ih =>
      have hrest : ∀ {g}, c ∈ squeezeFrom g ds → c = ' ' ∨ c ∈ d :: ds := by
        intro g h
        exact (ih h).imp_right (List.mem_cons_of_mem d)
      cases hd : isBlank d with
      | false =>
          rw [squeezeFrom_cons_of_ink hd] at hc
          rcases List.mem_cons.1 hc with rfl | hc
          · exact .inr List.mem_cons_self
          · exact hrest hc
      | true =>
          cases inGap with
          | true =>
              rw [squeezeFrom_true_cons hd] at hc
              exact hrest hc
          | false =>
              rw [squeezeFrom_false_cons hd] at hc
              rcases List.mem_cons.1 hc with rfl | hc
              · exact .inl rfl
              · exact hrest hc

/-- A text that begins with something else than white space is squeezed alike inside and outside a
gap. -/
theorem squeezeFrom_of_head {t : Text} (ht : ∀ c ∈ t.head?, isBlank c = false) (inGap : Bool) :
    squeezeFrom inGap t = squeezeFrom false t := by
  cases t with
  | nil => rfl
  | cons c cs =>
      have hc : isBlank c = false := ht c rfl
      simp [squeezeFrom, hc]

theorem endsInGap_of_ink {w : Text} (hw : ∀ c ∈ w, isBlank c = false) :
    endsInGap false w = false := by
  induction w with
  | nil => rfl
  | cons c cs ih =>
      rcases List.forall_mem_cons.1 hw with ⟨hc, hcs⟩
      rw [endsInGap_cons, hc]
      exact ih hcs

/-- A part without white space stays. -/
theorem squeezeFrom_ink_append {w : Text} (hw : ∀ c ∈ w, isBlank c = false) (t : Text) :
    squeezeFrom false (w ++ t) = w ++ squeezeFrom false t := by
  rw [squeezeFrom_append, squeezeFrom_eq_self hw, endsInGap_of_ink hw]

/-- A gap is squeezed apart from a text behind it that begins with something else. -/
theorem squeezeFrom_append_of_head {t : Text} (ht : ∀ c ∈ t.head?, isBlank c = false)
    (inGap : Bool) (w : Text) :
    squeezeFrom inGap (w ++ t) = squeezeFrom inGap w ++ squeezeFrom false t := by
  rw [squeezeFrom_append, squeezeFrom_of_head ht]

/-- A text can be squeezed in two parts at any ink. -/
theorem squeezeFrom_append_ink {c : Char} (hc : isBlank c = false) (inGap : Bool) (s t : Text) :
    squeezeFrom inGap (s ++ c :: t) = squeezeFrom inGap s ++ c :: squeezeFrom false t := by
  have hhead : ∀ d ∈ (c :: t).head?, isBlank d = false := by
    intro d hd
    obtain rfl : c = d := by simpa using hd
    exact hc
  rw [squeezeFrom_append_of_head hhead, squeezeFrom_cons_of_ink hc]

/-- What does not stand at the start of a text, and is no blank, does not at that of the squeezed
text. -/
theorem head_squeezeFrom {p : Char → Bool} {t : Text} (hp : p ' ' = false)
    (ht : ∀ c ∈ t.head?, p c = false) : ∀ c ∈ (squeezeFrom false t).head?, p c = false := by
  intro c hc
  cases t with
  | nil => cases hc
  | cons d ds =>
      cases hd : isBlank d with
      | true =>
          obtain rfl : ' ' = c := by simpa [squeezeFrom_false_cons hd] using hc
          exact hp
      | false =>
          rw [squeezeFrom_cons_of_ink hd] at hc
          exact ht c hc

theorem head?_squeezeFrom {t : Text} (ht : ∀ c ∈ t.head?, isBlank c = false) (inGap : Bool) :
    (squeezeFrom inGap t).head? = t.head? := by
  cases t with
  | nil => rfl
  | cons c cs =>
      have hc : isBlank c = false := ht c rfl
      rw [squeezeFrom_cons_of_ink hc]
      rfl

/-- A squeezed gap is a gap of ASCII blanks. -/
theorem isAsciiBlank_of_mem_squeezeFrom {inGap : Bool} {w : Text} (hw : ∀ c ∈ w, isAsciiBlank c) :
    ∀ c ∈ squeezeFrom inGap w, isAsciiBlank c := by
  intro c hc
  rcases mem_squeezeFrom hc with rfl | hc
  · rfl
  · exact hw c hc

theorem any_isBlank_squeezeFrom (t : Text) : (squeezeFrom false t).any isBlank = t.any isBlank := by
  induction t with
  | nil => rfl
  | cons c cs ih =>
      cases hc : isBlank c with
      | true =>
          have hblank : isBlank ' ' = true := rfl
          simp [squeezeFrom_false_cons hc, hc, hblank]
      | false =>
          rw [squeezeFrom_cons_of_ink hc, List.any_cons, List.any_cons, ih]

theorem squeezeFrom_isEmpty (t : Text) : (squeezeFrom false t).isEmpty = t.isEmpty := by
  cases t with
  | nil => rfl
  | cons c cs => cases hc : isBlank c <;> simp [squeezeFrom, hc]

/-! ## Readers that cut a text -/

/-- A reader that cuts a text in two, in a state that changes from character to character. White
space never ends the first part and leaves the state as it is. -/
structure CutsAtInk {σ : Type} (cut? : σ → Text → Option (Text × Text)) : Prop where
  nil : ∀ s, cut? s [] = none
  blank : ∀ s c, isBlank c → ∀ cs, cut? s (c :: cs) = (cut? s cs).map (consLeft c)
  ink : ∀ s c, isBlank c = false →
    (∀ cs, cut? s (c :: cs) = some ([], cs)) ∨
      ∃ s', ∀ cs, cut? s (c :: cs) = (cut? s' cs).map (consLeft c)

/-- Such a reader cuts a squeezed text at the same place. -/
theorem CutsAtInk.cut_squeezeFrom {σ : Type} {cut? : σ → Text → Option (Text × Text)}
    (hcut : CutsAtInk cut?) (inGap : Bool) (s : σ) (t : Text) :
    cut? s (squeezeFrom inGap t) =
      (cut? s t).map fun cut => (squeezeFrom inGap cut.1, squeezeFrom false cut.2) := by
  induction t generalizing s inGap with
  | nil => rw [squeezeFrom, hcut.nil, Option.map_none]
  | cons c cs ih =>
      cases hc : isBlank c with
      -- A blank, which is dropped inside a gap and becomes one blank at its start.
      | true =>
          have hspace : isBlank ' ' = true := rfl
          rw [hcut.blank s c hc]
          cases inGap with
          | true =>
              simp only [squeezeFrom_true_cons hc, ih, Option.map_map, Function.comp_def, consLeft]
          | false =>
              simp only [squeezeFrom_false_cons hc, hcut.blank s ' ' hspace, ih, Option.map_map,
                Function.comp_def, consLeft]
      | false =>
          rw [squeezeFrom_cons_of_ink hc]
          rcases hcut.ink s c hc with hstop | ⟨s', hgo⟩
          · rw [hstop, hstop]
            rfl
          · simp only [hgo, ih, Option.map_map, Function.comp_def, consLeft,
              squeezeFrom_cons_of_ink hc]

theorem ne_of_isBlank {c d : Char} (hc : isBlank c) (hd : isBlank d = false) : c ≠ d := by
  rintro rfl
  simp [hc] at hd

theorem eq_append_of_cutAt? {isMark : Char → Bool} {t before rest : Text} :
    cutAt? isMark t = some (before, rest) → ∃ c, isMark c ∧ t = before ++ c :: rest := by
  intro h
  induction t generalizing before with
  | nil => cases h
  | cons c cs ih =>
      rw [cutAt?] at h
      split at h
      · rename_i hmark
        cases h
        exact ⟨c, hmark, rfl⟩
      · rcases map_consLeft_eq_some h with ⟨left, hcut, rfl⟩
        rcases ih hcut with ⟨d, hmark, rfl⟩
        exact ⟨d, hmark, rfl⟩

theorem cutsAtInk_cutAt? {isMark : Char → Bool} (hmark : ∀ c, isBlank c → isMark c = false) :
    CutsAtInk fun _ : Unit => cutAt? isMark := by
  refine ⟨fun _ => rfl, fun _ c hc cs => ?_, fun _ c _ => ?_⟩
  · simp [cutAt?, hmark c hc]
  · cases hc : isMark c with
    | true => exact .inl fun cs => by simp [cutAt?, hc]
    | false => exact .inr ⟨(), fun cs => by simp [cutAt?, hc]⟩

theorem cutAt?_squeezeFrom {isMark : Char → Bool} (hmark : ∀ c, isBlank c → isMark c = false)
    (inGap : Bool) (t : Text) :
    cutAt? isMark (squeezeFrom inGap t) =
      (cutAt? isMark t).map fun cut => (squeezeFrom inGap cut.1, squeezeFrom false cut.2) :=
  (cutsAtInk_cutAt? hmark).cut_squeezeFrom inGap () t

/-! ## Words -/

theorem splitWhere_ne_nil (p : Char → Bool) (t : Text) : splitWhere p t ≠ [] := by
  cases t with
  | nil => simp [splitWhere]
  | cons c cs =>
      rw [splitWhere]
      split
      · simp
      · cases splitWhere p cs <;> simp [consHead]

theorem words_cons_blank {c : Char} (hc : isBlank c) (t : Text) : words (c :: t) = words t := by
  simp [words, splitWhere, hc]

/-- The words of a text by its first piece, which may be empty, and the words behind it. -/
def firstAndWords (t : Text) : Text × List Text :=
  match splitWhere isBlank t with
  | [] => ([], [])
  | first :: rest => (first, rest.filter fun w => !w.isEmpty)

theorem words_eq (t : Text) :
    words t = if (firstAndWords t).1.isEmpty then (firstAndWords t).2
      else (firstAndWords t).1 :: (firstAndWords t).2 := by
  obtain ⟨first, rest, hsplit⟩ := List.exists_cons_of_ne_nil (splitWhere_ne_nil isBlank t)
  have hparts : firstAndWords t = (first, rest.filter fun w => !w.isEmpty) := by
    rw [firstAndWords, hsplit]
  rw [words, hsplit, hparts, List.filter_cons]
  cases first <;> simp

theorem firstAndWords_cons_blank {c : Char} (hc : isBlank c) (t : Text) :
    firstAndWords (c :: t) = ([], words t) := by
  rw [firstAndWords, splitWhere, if_pos hc, words]

theorem firstAndWords_cons_ink {c : Char} (hc : isBlank c = false) (t : Text) :
    firstAndWords (c :: t) = (c :: (firstAndWords t).1, (firstAndWords t).2) := by
  obtain ⟨first, rest, hsplit⟩ := List.exists_cons_of_ne_nil (splitWhere_ne_nil isBlank t)
  simp [firstAndWords, splitWhere, hc, hsplit, consHead]

/-- Squeezing changes no word, also when some characters that are no blanks are left out behind. -/
theorem words_filter_squeezeFrom {p : Char → Bool} (hp : ∀ c, isBlank c → p c) (inGap : Bool)
    (t : Text) : words ((squeezeFrom inGap t).filter p) = words (t.filter p) := by
  -- Outside a gap the first piece stays as well, which is what the next character needs.
  have hboth : ∀ t : Text,
      (∀ inGap, words ((squeezeFrom inGap t).filter p) = words (t.filter p)) ∧
        firstAndWords ((squeezeFrom false t).filter p) = firstAndWords (t.filter p) := by
    intro t
    induction t with
    | nil => exact ⟨fun _ => rfl, rfl⟩
    | cons c cs ih =>
        rcases ih with ⟨hwords, hfirst⟩
        cases hc : isBlank c with
        | true =>
            have hspace : isBlank ' ' = true := rfl
            have hkeep : p ' ' := hp ' ' hspace
            have hsqueeze := squeezeFrom_false_cons hc cs
            have hgap := squeezeFrom_true_cons hc cs
            have hright : (c :: cs).filter p = c :: cs.filter p :=
              List.filter_cons_of_pos (hp c hc)
            have hleft : (' ' :: squeezeFrom true cs).filter p =
                ' ' :: (squeezeFrom true cs).filter p := List.filter_cons_of_pos hkeep
            refine ⟨fun g => ?_, ?_⟩
            · cases g with
              | true => rw [hgap, hright, words_cons_blank hc, hwords true]
              | false =>
                  rw [hsqueeze, hleft, hright, words_cons_blank hspace, words_cons_blank hc,
                    hwords true]
            · rw [hsqueeze, hleft, hright, firstAndWords_cons_blank hspace,
                firstAndWords_cons_blank hc, hwords true]
        | false =>
            have hsame : firstAndWords ((squeezeFrom false (c :: cs)).filter p) =
                firstAndWords ((c :: cs).filter p) := by
              rw [squeezeFrom_cons_of_ink hc]
              cases hpc : p c with
              | true =>
                  rw [List.filter_cons_of_pos hpc, List.filter_cons_of_pos hpc,
                    firstAndWords_cons_ink hc, firstAndWords_cons_ink hc, hfirst]
              | false =>
                  have hdrop : ¬p c = true := by simp [hpc]
                  rw [List.filter_cons_of_neg hdrop, List.filter_cons_of_neg hdrop, hfirst]
            refine ⟨fun g => ?_, hsame⟩
            have hgap : squeezeFrom g (c :: cs) = squeezeFrom false (c :: cs) := by
              rw [squeezeFrom_cons_of_ink hc, squeezeFrom_cons_of_ink hc]
            rw [hgap, words_eq, words_eq ((c :: cs).filter p), hsame]
  exact (hboth t).1 inGap

/-! ## Texts whose white space is ASCII -/

def HasAsciiBlanks (t : Text) : Prop :=
  ∀ c ∈ t, isBlank c → isAsciiBlank c

theorem all_isAsciiBlank_iff {t : Text} :
    t.all (fun c => !isBlank c || isAsciiBlank c) = true ↔ HasAsciiBlanks t := by
  simp only [List.all_eq_true, HasAsciiBlanks, Bool.or_eq_true, Bool.not_eq_true',
    ← Bool.not_eq_true, Decidable.imp_iff_not_or]

instance (t : Text) : Decidable (HasAsciiBlanks t) :=
  decidable_of_iff _ all_isAsciiBlank_iff

namespace HasAsciiBlanks

variable {s t : Text}

theorem mono (ht : HasAsciiBlanks t) (hs : ∀ c ∈ s, c ∈ t) : HasAsciiBlanks s :=
  fun c hc => ht c (hs c hc)

theorem left (h : HasAsciiBlanks (s ++ t)) : HasAsciiBlanks s :=
  h.mono fun _ => List.mem_append_left t

theorem right (h : HasAsciiBlanks (s ++ t)) : HasAsciiBlanks t :=
  h.mono fun _ => List.mem_append_right s

theorem tail {c : Char} (h : HasAsciiBlanks (c :: t)) : HasAsciiBlanks t :=
  h.mono fun _ => List.mem_cons_of_mem c

/-- What is no ASCII blank is no white space. -/
theorem ink (h : HasAsciiBlanks t) {c : Char} (hc : c ∈ t) (hink : isAsciiBlank c = false) :
    isBlank c = false := by
  cases hblank : isBlank c with
  | false => rfl
  | true =>
      rw [h c hc hblank] at hink
      cases hink

/-- Nor is anything that a class without ASCII blanks holds. -/
theorem ink_of (h : HasAsciiBlanks t) {p : Char → Bool} (hp : ∀ c, isAsciiBlank c → p c = false)
    {c : Char} (hc : c ∈ t) (hpc : p c) : isBlank c = false := by
  refine h.ink hc ?_
  cases hblank : isAsciiBlank c with
  | false => rfl
  | true =>
      rw [hp c hblank] at hpc
      cases hpc

/-- What begins with no ASCII blank begins with no white space. -/
theorem head (h : HasAsciiBlanks t) (ht : ∀ c ∈ t.head?, isAsciiBlank c = false) :
    ∀ c ∈ t.head?, isBlank c = false :=
  fun c hc => h.ink (List.mem_of_mem_head? hc) (ht c hc)

end HasAsciiBlanks

end Text

end CiteIndex
