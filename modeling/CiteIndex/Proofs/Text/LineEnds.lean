import CiteIndex.Proofs.Text.Squeezing

/-!
# Line ends

A line can end in a line feed, or in a carriage return and a line feed. This module writes a
carriage return before every line feed of a text, whatever stands before it already, and says what
the pieces are that readers cut from such a text: with carriage returns themselves, as long as the
reader makes no difference between the two characters.

- `Text.withReturns`: a carriage return before every line feed
- `Text.takeWhile_withReturns`, `Text.dropWhile_withReturns`: readers that go by a class
- `Text.CutsAtInk.cut_withReturns`: readers that cut a text at something else than white space
- `Text.trim_withReturns`, `Text.squeezeFrom_withReturns`: white space of both kinds
-/

namespace CiteIndex

namespace Text

/-- The text with a carriage return before every line feed. -/
def withReturns (t : Text) : Text :=
  t.flatMap fun c => if c = '\n' then ['\r', '\n'] else [c]

@[simp]
theorem withReturns_nil : withReturns [] = [] := rfl

@[simp]
theorem withReturns_feed (t : Text) : withReturns ('\n' :: t) = '\r' :: '\n' :: withReturns t := rfl

theorem withReturns_cons {c : Char} (hc : c ≠ '\n') (t : Text) :
    withReturns (c :: t) = c :: withReturns t := by
  simp [withReturns, hc]

theorem withReturns_append (s t : Text) :
    withReturns (s ++ t) = withReturns s ++ withReturns t := by
  simp [withReturns]

theorem withReturns_eq_self {t : Text} (ht : '\n' ∉ t) : withReturns t = t := by
  induction t with
  | nil => rfl
  | cons c cs ih =>
      have hc : c ≠ '\n' := (List.ne_of_not_mem_cons ht).symm
      rw [withReturns_cons hc, ih (List.not_mem_of_not_mem_cons ht)]

theorem withReturns_eq_nil_iff {t : Text} : withReturns t = [] ↔ t = [] := by
  cases t with
  | nil => exact Iff.rfl
  | cons c cs => by_cases hc : c = '\n' <;> simp [withReturns, hc]

/-- A text begins with a carriage return then, or with what it began with. -/
theorem head?_withReturns_ne {c : Char} (hc : c ≠ '\r') {t : Text} (ht : t.head? ≠ some c) :
    (withReturns t).head? ≠ some c := by
  intro h
  cases t with
  | nil => cases h
  | cons d ds =>
      by_cases hfeed : d = '\n'
      · subst hfeed
        exact hc (Option.some.inj h).symm
      · rw [withReturns_cons hfeed] at h
        exact ht h

theorem mem_withReturns {c : Char} {t : Text} : c ∈ withReturns t → c = '\r' ∨ c ∈ t := by
  intro h
  rcases List.mem_flatMap.1 h with ⟨d, hd, hc⟩
  split at hc
  · rename_i hfeed
    rcases List.mem_cons.1 hc with rfl | hc
    · exact .inl rfl
    · rw [List.mem_singleton.1 hc, ← hfeed]
      exact .inr hd
  · rw [List.mem_singleton.1 hc]
    exact .inr hd

/-! ## Readers that go by a class -/

section Class

variable {p : Char → Bool}

/-- A class that holds a text and carriage returns holds the text with carriage returns. -/
theorem forall_mem_withReturns (hp : p '\r') {t : Text} (ht : ∀ c ∈ t, p c) :
    ∀ c ∈ withReturns t, p c := by
  intro c hc
  rcases mem_withReturns hc with rfl | hc
  · exact hp
  · exact ht c hc

theorem feed_not_mem (hp : p '\n' = false) {t : Text} (ht : ∀ c ∈ t, p c) : '\n' ∉ t := by
  intro h
  rw [ht _ h] at hp
  cases hp

/-- A class without line feeds holds no text that changes. -/
theorem withReturns_of_class (hp : p '\n' = false) {t : Text} (ht : ∀ c ∈ t, p c) :
    withReturns t = t :=
  withReturns_eq_self (feed_not_mem hp ht)

/-- What stops a reader still does, if the reader makes no difference between line ends. -/
theorem head_withReturns (hp : p '\r' = p '\n') {t : Text} (ht : ∀ c ∈ t.head?, p c = false) :
    ∀ c ∈ (withReturns t).head?, p c = false := by
  intro c hc
  cases t with
  | nil => cases hc
  | cons d ds =>
      have hd : p d = false := ht d rfl
      by_cases hfeed : d = '\n'
      · subst hfeed
        obtain rfl : '\r' = c := by simpa using hc
        rw [hp, hd]
      · rw [withReturns_cons hfeed] at hc
        obtain rfl : d = c := by simpa using hc
        exact hd

/-- A run of characters that both parts of a line end belong to, or neither, is cut alike. -/
theorem takeWhile_withReturns (hp : p '\r' = p '\n') (t : Text) :
    (withReturns t).takeWhile p = withReturns (t.takeWhile p) := by
  rcases exists_stop p t with ⟨w, rest, rfl, hw, hrest⟩
  have hrest' := head_withReturns hp hrest
  rw [takeWhile_append_stop hw hrest, withReturns_append]
  by_cases hfeed : p '\n'
  · exact takeWhile_append_stop (forall_mem_withReturns (hp.trans hfeed) hw) hrest'
  · rw [withReturns_of_class (Bool.eq_false_iff.2 hfeed) hw]
    exact takeWhile_append_stop hw hrest'

theorem dropWhile_withReturns (hp : p '\r' = p '\n') (t : Text) :
    (withReturns t).dropWhile p = withReturns (t.dropWhile p) := by
  rcases exists_stop p t with ⟨w, rest, rfl, hw, hrest⟩
  have hrest' := head_withReturns hp hrest
  rw [dropWhile_append_stop hw hrest, withReturns_append]
  by_cases hfeed : p '\n'
  · exact dropWhile_append_stop (forall_mem_withReturns (hp.trans hfeed) hw) hrest'
  · rw [withReturns_of_class (Bool.eq_false_iff.2 hfeed) hw]
    exact dropWhile_append_stop hw hrest'

end Class

/-! ## Readers that cut -/

/-- A reader that cuts a text at something else than white space cuts it at the same place. -/
theorem CutsAtInk.cut_withReturns {σ : Type} {cut? : σ → Text → Option (Text × Text)}
    (hcut : CutsAtInk cut?) (s : σ) (t : Text) :
    cut? s (withReturns t) =
      (cut? s t).map fun cut => (withReturns cut.1, withReturns cut.2) := by
  induction t generalizing s with
  | nil => rw [withReturns_nil, hcut.nil, Option.map_none]
  | cons c cs ih =>
      by_cases hfeed : c = '\n'
      · -- Both characters of the line end are passed over in one state.
        subst hfeed
        rw [withReturns_feed, hcut.blank s '\r' rfl, hcut.blank s '\n' rfl, ih,
          hcut.blank s '\n' rfl]
        simp [Function.comp_def, consLeft]
      · rw [withReturns_cons hfeed]
        have hgo : ∀ s', (∀ ds, cut? s (c :: ds) = (cut? s' ds).map (consLeft c)) →
            cut? s (c :: withReturns cs) =
              (cut? s (c :: cs)).map fun cut => (withReturns cut.1, withReturns cut.2) := by
          intro s' hgo
          rw [hgo, hgo, ih]
          simp [Function.comp_def, consLeft, withReturns_cons hfeed]
        cases hblank : isBlank c with
        | true => exact hgo s (hcut.blank s c hblank)
        | false =>
            rcases hcut.ink s c hblank with hstop | ⟨s', hstep⟩
            · rw [hstop, hstop]
              rfl
            · exact hgo s' hstep

theorem cutAt?_withReturns {isMark : Char → Bool} (hmark : ∀ c, isBlank c → isMark c = false)
    (t : Text) :
    cutAt? isMark (withReturns t) =
      (cutAt? isMark t).map fun cut => (withReturns cut.1, withReturns cut.2) :=
  (cutsAtInk_cutAt? hmark).cut_withReturns () t

/-- A beginning without line ends is followed by the same. -/
theorem dropStart?_withReturns {start : Text} (hstart : ∀ c ∈ start, isBlank c = false) (t : Text) :
    dropStart? start (withReturns t) = (dropStart? start t).map withReturns := by
  induction start generalizing t with
  | nil => rfl
  | cons a as ih =>
      rcases List.forall_mem_cons.1 hstart with ⟨ha, has⟩
      have hne : ∀ c, isBlank c → a ≠ c := fun c hc => (ne_of_isBlank hc ha).symm
      cases t with
      | nil => rfl
      | cons c cs =>
          by_cases hfeed : c = '\n'
          · subst hfeed
            rw [withReturns_feed, dropStart?, dropStart?, if_neg (hne '\r' rfl),
              if_neg (hne '\n' rfl), Option.map_none]
          · rw [withReturns_cons hfeed, dropStart?, dropStart?, ih has]
            split
            · rfl
            · rfl

/-! ## White space -/

theorem trimStart_withReturns (t : Text) : trimStart (withReturns t) = withReturns (trimStart t) :=
  dropWhile_withReturns rfl t

theorem trimEnd_withReturns (t : Text) : trimEnd (withReturns t) = withReturns (trimEnd t) := by
  induction t with
  | nil => rfl
  | cons c cs ih =>
      by_cases hfeed : c = '\n'
      · subst hfeed
        have hreturn : isBlank '\r' = true := rfl
        have hblank : isBlank '\n' = true := rfl
        by_cases hnil : trimEnd cs = []
        · simp [trimEnd_cons, ih, hreturn, hblank, hnil]
        · simp [trimEnd_cons, ih, withReturns_eq_nil_iff, hnil]
      · by_cases hnil : trimEnd cs = [] ∧ isBlank c
        · simp [withReturns_cons hfeed, trimEnd_cons, ih, hnil]
        · simp only [withReturns_cons hfeed, trimEnd_cons, ih, withReturns_eq_nil_iff, hnil, if_false]

/-- Trimming leaves the line ends inside of a text. -/
theorem trim_withReturns (t : Text) : trim (withReturns t) = withReturns (trim t) := by
  rw [trim, trimStart_withReturns, trimEnd_withReturns, trim]

/-- Line ends are gaps, so squeezing makes them the same. -/
theorem squeezeFrom_withReturns (inGap : Bool) (t : Text) :
    squeezeFrom inGap (withReturns t) = squeezeFrom inGap t := by
  induction t generalizing inGap with
  | nil => rfl
  | cons c cs ih =>
      by_cases hfeed : c = '\n'
      · subst hfeed
        have hreturn : isBlank '\r' = true := rfl
        have hblank : isBlank '\n' = true := rfl
        cases inGap with
        | true =>
            rw [withReturns_feed, squeezeFrom_true_cons hreturn, squeezeFrom_true_cons hblank,
              squeezeFrom_true_cons hblank, ih]
        | false =>
            rw [withReturns_feed, squeezeFrom_false_cons hreturn, squeezeFrom_true_cons hblank,
              squeezeFrom_false_cons hblank, ih]
      · rw [withReturns_cons hfeed, squeezeFrom, squeezeFrom, ih, ih]

theorem any_isBlank_withReturns (t : Text) : (withReturns t).any isBlank = t.any isBlank := by
  rw [← any_isBlank_squeezeFrom, squeezeFrom_withReturns, any_isBlank_squeezeFrom]

end Text

end CiteIndex
