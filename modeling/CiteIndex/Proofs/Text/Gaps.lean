import CiteIndex.Text.Blank

/-!
# Gaps

A gap is a stretch of white space. Trimming takes the gaps at both ends of a text away, cutting a
text into lines loses nothing but gaps, and two texts that differ only in how long their gaps are
become equal once every gap is squeezed to one blank.

- `Text.dropEndWhile_append`, `Text.exists_trim`: what trimming leaves
- `Text.exists_line`: the first line of a text and what ends it
- `Text.squeezeFrom`: one blank in place of every gap
-/

namespace CiteIndex

namespace Text

/-! ## White space by code point -/

def blankCodes : List Nat :=
  [9, 10, 11, 12, 13, 0x20, 0x85, 0xA0, 0x1680, 0x2000, 0x2001, 0x2002, 0x2003, 0x2004, 0x2005,
    0x2006, 0x2007, 0x2008, 0x2009, 0x200A, 0x2028, 0x2029, 0x202F, 0x205F, 0x3000]

theorem mem_blankCodes {c : Char} (hc : isBlank c) : c.toNat ∈ blankCodes := by
  simp only [isBlank, Bool.or_eq_true, Bool.and_eq_true, decide_eq_true_eq, beq_iff_eq] at hc
  simp only [blankCodes, List.mem_cons, List.not_mem_nil, or_false]
  omega

/-! ## Reading up to a stop -/

section Stop

variable {p : Char → Bool} {w rest : Text}

theorem takeWhile_append_stop (hw : ∀ c ∈ w, p c) (hrest : ∀ c ∈ rest.head?, p c = false) :
    (w ++ rest).takeWhile p = w := by
  rw [List.takeWhile_append_of_pos hw]
  cases rest with
  | nil => simp
  | cons c cs =>
      have hc : p c = false := hrest c rfl
      simp [hc]

theorem dropWhile_append_stop (hw : ∀ c ∈ w, p c) (hrest : ∀ c ∈ rest.head?, p c = false) :
    (w ++ rest).dropWhile p = rest := by
  rw [List.dropWhile_append_of_pos hw]
  cases rest with
  | nil => rfl
  | cons c cs =>
      have hc : p c = false := hrest c rfl
      simp [hc]

/-- Where a text stops is fixed by the text. -/
theorem append_stop_inj {w' rest' : Text} (hw : ∀ c ∈ w, p c)
    (hrest : ∀ c ∈ rest.head?, p c = false) (hw' : ∀ c ∈ w', p c)
    (hrest' : ∀ c ∈ rest'.head?, p c = false) (heq : w ++ rest = w' ++ rest') :
    w = w' ∧ rest = rest' := by
  constructor
  · rw [← takeWhile_append_stop hw hrest, heq, takeWhile_append_stop hw' hrest']
  · rw [← dropWhile_append_stop hw hrest, heq, dropWhile_append_stop hw' hrest']

theorem takeWhile_eq_self (hw : ∀ c ∈ w, p c) : w.takeWhile p = w := by
  have hnil : ∀ c ∈ ([] : Text).head?, p c = false := by simp
  simpa using takeWhile_append_stop hw hnil

theorem dropWhile_eq_nil (hw : ∀ c ∈ w, p c) : w.dropWhile p = [] := by
  have hnil : ∀ c ∈ ([] : Text).head?, p c = false := by simp
  simpa using dropWhile_append_stop hw hnil

/-- A text is cut at the first mark. -/
theorem cutAt?_append_stop {isMark : Char → Bool} {c : Char} (hw : ∀ c ∈ w, isMark c = false)
    (hc : isMark c) (rest : Text) : cutAt? isMark (w ++ c :: rest) = some (w, rest) := by
  induction w with
  | nil => simp [cutAt?, hc]
  | cons d ds ih =>
      rcases List.forall_mem_cons.1 hw with ⟨hd, hds⟩
      simp [cutAt?, hd, ih hds, consLeft]

theorem cutAt?_eq_none {isMark : Char → Bool} (hw : ∀ c ∈ w, isMark c = false) :
    cutAt? isMark w = none := by
  induction w with
  | nil => rfl
  | cons d ds ih =>
      rcases List.forall_mem_cons.1 hw with ⟨hd, hds⟩
      simp [cutAt?, hd, ih hds]

/-- A text is the longest part at its start whose characters pass, and what stops it. -/
theorem exists_stop (p : Char → Bool) (t : Text) :
    ∃ w rest, t = w ++ rest ∧ (∀ c ∈ w, p c) ∧ ∀ c ∈ rest.head?, p c = false := by
  induction t with
  | nil => exact ⟨[], [], rfl, by simp, by simp⟩
  | cons c cs ih =>
      by_cases hc : p c
      · rcases ih with ⟨w, rest, rfl, hw, hrest⟩
        refine ⟨c :: w, rest, rfl, ?_, hrest⟩
        intro x hx
        rcases List.mem_cons.1 hx with rfl | hx
        · exact hc
        · exact hw x hx
      · exact ⟨[], c :: cs, rfl, by simp, by simpa using hc⟩

end Stop

/-! ## Trimming -/

/-- Characters are dropped from the second text, and from the first only if the second is used up.
-/
theorem dropEndWhile_append (p : Char → Bool) (s t : Text) :
    dropEndWhile p (s ++ t) =
      if dropEndWhile p t = [] then dropEndWhile p s else s ++ dropEndWhile p t := by
  induction s with
  | nil => by_cases h : dropEndWhile p t = [] <;> simp [h, dropEndWhile]
  | cons c cs ih =>
      rw [List.cons_append, dropEndWhile, ih]
      by_cases h : dropEndWhile p t = []
      · simp [h, dropEndWhile]
      · simp [h]

theorem dropEndWhile_eq_nil_iff {p : Char → Bool} {t : Text} :
    dropEndWhile p t = [] ↔ ∀ c ∈ t, p c := by
  induction t with
  | nil => simp [dropEndWhile]
  | cons c cs ih =>
      rw [dropEndWhile, List.forall_mem_cons, ← ih]
      cases dropEndWhile p cs with
      | nil => by_cases h : p c <;> simp [h]
      | cons d ds => simp

/-- Nothing before a character that stays is dropped. -/
theorem dropEndWhile_append_cons {p : Char → Bool} {c : Char} (hc : p c = false) (s t : Text) :
    dropEndWhile p (s ++ c :: t) = s ++ c :: dropEndWhile p t := by
  have hkeep : dropEndWhile p (c :: t) = c :: dropEndWhile p t := by
    rw [dropEndWhile]
    cases dropEndWhile p t <;> simp [hc]
  rw [dropEndWhile_append, hkeep]
  simp

theorem exists_dropEndWhile (p : Char → Bool) (t : Text) :
    ∃ w, (∀ c ∈ w, p c) ∧ t = dropEndWhile p t ++ w := by
  induction t with
  | nil => exact ⟨[], by simp, rfl⟩
  | cons c cs ih =>
      rcases ih with ⟨w, hw, hcs⟩
      rw [dropEndWhile]
      -- The first character is dropped only if all behind it is.
      cases hdrop : dropEndWhile p cs with
      | nil =>
          rw [hdrop, List.nil_append] at hcs
          subst hcs
          by_cases hc : p c
          · exact ⟨c :: cs, by simpa [hc] using hw, by simp [hc]⟩
          · exact ⟨cs, hw, by simp [hc]⟩
      | cons d ds =>
          rw [hdrop] at hcs
          exact ⟨w, hw, by simpa using hcs⟩

theorem trimEnd_append_gap {t w : Text} (hw : ∀ c ∈ w, isBlank c) : trimEnd (t ++ w) = trimEnd t := by
  rw [trimEnd, dropEndWhile_append, if_pos (dropEndWhile_eq_nil_iff.2 hw), trimEnd]

/-- White space around a text is trimmed off. -/
theorem trim_append_gaps {w w' : Text} (hw : ∀ c ∈ w, isBlank c) (hw' : ∀ c ∈ w', isBlank c)
    (t : Text) : trim (w ++ (t ++ w')) = trim t := by
  rw [trim, trimStart, List.dropWhile_append_of_pos hw, List.dropWhile_append, trim, trimStart]
  by_cases h : (t.dropWhile isBlank).isEmpty
  · rw [if_pos h, dropWhile_eq_nil hw', List.isEmpty_iff.1 h]
  · rw [if_neg h, trimEnd_append_gap hw']

/-- A text is what trimming leaves, between two gaps. -/
theorem exists_trim (t : Text) :
    ∃ w w', (∀ c ∈ w, isBlank c) ∧ (∀ c ∈ w', isBlank c) ∧ t = w ++ (trim t ++ w') := by
  rcases exists_stop isBlank t with ⟨w, rest, rfl, hw, hrest⟩
  rcases exists_dropEndWhile isBlank rest with ⟨w', hw', hrest'⟩
  refine ⟨w, w', hw, hw', ?_⟩
  rw [trim, trimStart, dropWhile_append_stop hw hrest, trimEnd, ← hrest']

theorem trim_eq_nil_iff {t : Text} : trim t = [] ↔ ∀ c ∈ t, isBlank c := by
  constructor
  · intro h
    rcases exists_trim t with ⟨w, w', hw, hw', heq⟩
    rw [h, List.nil_append] at heq
    rw [heq]
    exact List.forall_mem_append.2 ⟨hw, hw'⟩
  · intro h
    have hnil : ∀ c ∈ ([] : Text), isBlank c := by simp
    simpa [trim, trimStart, trimEnd, dropEndWhile] using trim_append_gaps h hnil []

theorem trim_cons {c : Char} (hc : isBlank c = false) (t : Text) :
    trim (c :: t) = c :: trimEnd t := by
  rw [trim, trimStart, List.dropWhile_cons_of_neg (by simp [hc])]
  exact dropEndWhile_append_cons hc [] t

theorem trim_eq_self {t : Text} (ht : ∀ c ∈ t, isBlank c = false) : trim t = t := by
  rcases exists_trim t with ⟨w, w', hw, hw', heq⟩
  have hnil : w = [] := by
    refine List.eq_nil_iff_forall_not_mem.2 fun c hc => ?_
    have := ht c (heq ▸ List.mem_append_left _ hc)
    simp [hw c hc] at this
  have hnil' : w' = [] := by
    refine List.eq_nil_iff_forall_not_mem.2 fun c hc => ?_
    have := ht c (heq ▸ List.mem_append_right _ (List.mem_append_right _ hc))
    simp [hw' c hc] at this
  simpa [hnil, hnil'] using heq.symm

theorem trim_trim (t : Text) : trim (trim t) = trim t := by
  rcases exists_trim t with ⟨w, w', hw, hw', heq⟩
  have htrim := trim_append_gaps hw hw' (trim t)
  rw [← heq] at htrim
  exact htrim.symm

theorem length_trim_le (t : Text) : (trim t).length ≤ t.length := by
  rcases exists_trim t with ⟨w, w', -, -, heq⟩
  have := congrArg List.length heq
  simp only [List.length_append] at this
  omega

/-! ## Lines -/

theorem lines_cons {c : Char} (hfeed : c ≠ '\n') (hreturn : c ≠ '\r') (t : Text) :
    lines (c :: t) = consHead c (lines t) := by
  rw [lines]
  · exact hfeed
  · intro cs hc _
    exact hreturn hc

/-- A text whose start holds no line end begins its first line with it. -/
theorem exists_lines_append {w : Text} (hne : w ≠ []) (hw : ∀ c ∈ w, c ≠ '\n' ∧ c ≠ '\r')
    (t : Text) : ∃ line rest, lines (w ++ t) = (w ++ line) :: rest := by
  induction w with
  | nil => exact absurd rfl hne
  | cons c cs ih =>
      rcases List.forall_mem_cons.1 hw with ⟨hc, hcs⟩
      rw [List.cons_append, lines_cons hc.1 hc.2]
      by_cases hnil : cs = []
      · subst hnil
        cases hlines : lines t with
        | nil => exact ⟨[], [], by simp [hlines, consHead]⟩
        | cons line rest => exact ⟨line, rest, by simp [hlines, consHead]⟩
      · rcases ih hnil hcs with ⟨line, rest, hlines⟩
        exact ⟨line, rest, by rw [hlines]; rfl⟩

/-- The first line of a text, what ends it, and the text behind. -/
theorem exists_line {t : Text} (ht : t ≠ []) :
    ∃ line ending rest, t = line ++ (ending ++ rest) ∧ lines t = line :: lines rest ∧
      (ending = ['\n'] ∨ ending = ['\r', '\n'] ∨ ending = [] ∧ rest = []) := by
  fun_induction lines t with
  | case1 => exact absurd rfl ht
  | case2 cs => exact ⟨[], ['\n'], cs, rfl, rfl, .inl rfl⟩
  | case3 cs => exact ⟨[], ['\r', '\n'], cs, rfl, rfl, .inr (.inl rfl)⟩
  | case4 c cs _ _ ih =>
      -- A last line of one character, or one that goes on in the rest.
      by_cases hcs : cs = []
      · subst hcs
        exact ⟨[c], [], [], rfl, rfl, .inr (.inr ⟨rfl, rfl⟩)⟩
      · rcases ih hcs with ⟨line, ending, rest, heq, hlines, hend⟩
        exact ⟨c :: line, ending, rest, by rw [heq]; rfl, by rw [hlines]; rfl, hend⟩

theorem length_rest_lt {t line ending rest : Text} (ht : t = line ++ (ending ++ rest))
    (hend : ending = ['\n'] ∨ ending = ['\r', '\n'] ∨ ending = [] ∧ rest = [])
    (hrest : rest ≠ []) : rest.length < t.length := by
  subst ht
  simp only [List.length_append]
  rcases hend with rfl | rfl | ⟨-, rfl⟩
  · simp only [List.length_singleton]
    omega
  · simp only [List.length_cons, List.length_nil]
    omega
  · exact absurd rfl hrest

theorem lines_eq_nil_iff {t : Text} : lines t = [] ↔ t = [] := by
  refine ⟨fun h => ?_, fun h => by rw [h]; rfl⟩
  by_cases ht : t = []
  · exact ht
  · rcases exists_line ht with ⟨line, ending, rest, -, hlines, -⟩
    rw [h] at hlines
    cases hlines

/-- A trimmed text of one line is that line. -/
theorem lines_eq_singleton {t line : Text} (ht : trim t = t) (h : lines t = [line]) : t = line := by
  have hne : t ≠ [] := by
    rintro rfl
    cases h
  -- The one line is the first, and nothing but its end can follow.
  rcases exists_line hne with ⟨line', ending, rest, heq, hlines, hend⟩
  rw [h] at hlines
  rcases List.cons.inj hlines with ⟨rfl, hrest⟩
  obtain rfl : rest = [] := lines_eq_nil_iff.1 hrest.symm
  by_cases hending : ending = []
  · simpa [hending] using heq
  · -- A line end would have been trimmed away.
    have hblank : ∀ c ∈ ending, isBlank c := by
      rcases hend with rfl | rfl | ⟨rfl, -⟩
      · exact List.all_eq_true.1 rfl
      · exact List.all_eq_true.1 rfl
      · exact absurd rfl hending
    have htrim : trim t = trim line := by
      rw [heq, List.append_nil]
      exact trim_append_gaps (w := []) (by simp) hblank line
    have hlen := congrArg List.length heq
    have hle := length_trim_le line
    have hpos := List.length_pos_iff.2 hending
    rw [← htrim, ht] at hle
    simp only [List.length_append, List.length_nil] at hlen
    omega

/-! ## Squeezing -/

/-- The text with one blank in place of every gap; none for a gap at its start if `inGap`. -/
def squeezeFrom (inGap : Bool) : Text → Text
  | [] => []
  | c :: cs =>
    if isBlank c then
      if inGap then squeezeFrom true cs else ' ' :: squeezeFrom true cs
    else c :: squeezeFrom false cs

/-- Is a place in a gap, after a text that began in one or not. -/
def endsInGap (inGap : Bool) (t : Text) : Bool :=
  t.foldl (fun _ c => isBlank c) inGap

theorem endsInGap_cons (inGap : Bool) (c : Char) (cs : Text) :
    endsInGap inGap (c :: cs) = endsInGap (isBlank c) cs := by
  rw [endsInGap, List.foldl_cons, endsInGap]

/-- Squeezing goes on from one text to the next, in a gap or not. -/
theorem squeezeFrom_append (inGap : Bool) (s t : Text) :
    squeezeFrom inGap (s ++ t) = squeezeFrom inGap s ++ squeezeFrom (endsInGap inGap s) t := by
  induction s generalizing inGap with
  | nil => rfl
  | cons c cs ih =>
      cases hc : isBlank c <;> cases inGap <;> simp [squeezeFrom, endsInGap_cons, hc, ih]

theorem squeezeFrom_gap {w : Text} (hw : ∀ c ∈ w, isBlank c) : squeezeFrom true w = [] := by
  induction w with
  | nil => rfl
  | cons c cs ih =>
      rcases List.forall_mem_cons.1 hw with ⟨hc, hcs⟩
      simp [squeezeFrom, hc, ih hcs]

/-- All gaps are squeezed to the same. -/
theorem squeezeFrom_gap_congr {w w' : Text} (hw : ∀ c ∈ w, isBlank c) (hw' : ∀ c ∈ w', isBlank c)
    (hne : w ≠ []) (hne' : w' ≠ []) (inGap : Bool) : squeezeFrom inGap w = squeezeFrom inGap w' := by
  cases inGap with
  | true => rw [squeezeFrom_gap hw, squeezeFrom_gap hw']
  | false =>
      rcases List.exists_cons_of_ne_nil hne with ⟨c, cs, rfl⟩
      rcases List.exists_cons_of_ne_nil hne' with ⟨d, ds, rfl⟩
      rcases List.forall_mem_cons.1 hw with ⟨hc, hcs⟩
      rcases List.forall_mem_cons.1 hw' with ⟨hd, hds⟩
      simp [squeezeFrom, hc, hd, squeezeFrom_gap hcs, squeezeFrom_gap hds]

theorem endsInGap_append_cons (inGap : Bool) (s : Text) (c : Char) :
    endsInGap inGap (s ++ [c]) = isBlank c := by
  induction s generalizing inGap with
  | nil => rfl
  | cons d ds ih => simpa [endsInGap_cons] using ih (isBlank d)

theorem endsInGap_gap {w : Text} (hw : ∀ c ∈ w, isBlank c) : endsInGap true w = true := by
  induction w with
  | nil => rfl
  | cons c cs ih =>
      rcases List.forall_mem_cons.1 hw with ⟨hc, hcs⟩
      simp [endsInGap_cons, hc, ih hcs]

/-- A gap at the start of a line is squeezed away. -/
theorem squeezeFrom_gap_append {w : Text} (hw : ∀ c ∈ w, isBlank c) (t : Text) :
    squeezeFrom true (w ++ t) = squeezeFrom true t := by
  rw [squeezeFrom_append, squeezeFrom_gap hw, List.nil_append, endsInGap_gap hw]

/-- What ends a line may be exchanged. -/
theorem squeezeFrom_ending {w w' : Text} (hw : ∀ c ∈ w, isBlank c) (hw' : ∀ c ∈ w', isBlank c)
    (hne : w ≠ []) (hne' : w' ≠ []) (inGap : Bool) (s t : Text) :
    squeezeFrom inGap (s ++ (w ++ t)) = squeezeFrom inGap (s ++ (w' ++ t)) := by
  have hends : ∀ {g : Text}, (∀ c ∈ g, isBlank c) → g ≠ [] → ∀ b, endsInGap b g = true := by
    intro g hg hgne b
    rcases List.exists_cons_of_ne_nil hgne with ⟨c, cs, rfl⟩
    rcases List.forall_mem_cons.1 hg with ⟨hc, hcs⟩
    simpa [endsInGap_cons, hc] using endsInGap_gap hcs
  rw [squeezeFrom_append, squeezeFrom_append, squeezeFrom_append inGap s, squeezeFrom_append _ w',
    hends hw hne, hends hw' hne', squeezeFrom_gap_congr hw hw' hne hne']

theorem squeezeFrom_eq_self {t : Text} (ht : ∀ c ∈ t, isBlank c = false) (inGap : Bool) :
    squeezeFrom inGap t = t := by
  induction t generalizing inGap with
  | nil => rfl
  | cons c cs ih =>
      rcases List.forall_mem_cons.1 ht with ⟨hc, hcs⟩
      simp [squeezeFrom, hc, ih hcs]

/-- Squeezing that leaves no blank has changed nothing but gaps at the start. -/
theorem eq_of_squeezeFrom_eq {s t : Text} (hs : ∀ c ∈ s, isBlank c = false)
    (h : squeezeFrom false t = s) : t = s := by
  induction t generalizing s with
  | nil => simpa [squeezeFrom] using h
  | cons c cs ih =>
      -- A blank would have left one, which the result does not hold.
      cases hc : isBlank c with
      | true =>
          subst h
          simp only [squeezeFrom, hc, if_true, Bool.false_eq_true, if_false,
            List.forall_mem_cons] at hs
          exact absurd hs.1 (by decide)
      | false =>
          subst h
          simp only [squeezeFrom, hc, Bool.false_eq_true, if_false, List.forall_mem_cons] at hs ⊢
          rw [← ih hs.2 rfl]

/-- Squeezing does not disturb where a text stops at other characters. -/
theorem takeWhile_squeezeFrom {p : Char → Bool} (hp : ∀ c, isBlank c → p c) (inGap : Bool)
    (t : Text) : (squeezeFrom inGap t).takeWhile p = squeezeFrom inGap (t.takeWhile p) := by
  induction t generalizing inGap with
  | nil => rfl
  | cons c cs ih =>
      have hblank : p ' ' := hp ' ' (by decide)
      cases hc : isBlank c with
      | true => cases inGap <;> simp [squeezeFrom, hc, hblank, hp c hc, ih]
      | false => cases hpc : p c <;> simp [squeezeFrom, hc, hpc, ih]

/-- Trimming may be done before squeezing or after it. -/
theorem trimStart_squeezeFrom (inGap inGap' : Bool) (t : Text) :
    trimStart (squeezeFrom inGap t) = squeezeFrom inGap' (trimStart t) := by
  induction t generalizing inGap with
  | nil => rfl
  | cons c cs ih =>
      have hblank : isBlank ' ' = true := by decide
      cases hc : isBlank c with
      | true => cases inGap <;> simpa [squeezeFrom, trimStart, hc, hblank] using ih true
      | false => simp [squeezeFrom, trimStart, hc]

theorem squeezeFrom_eq_nil_iff {t : Text} : squeezeFrom true t = [] ↔ ∀ c ∈ t, isBlank c := by
  induction t with
  | nil => simp [squeezeFrom]
  | cons c cs ih => cases hc : isBlank c <;> simp [squeezeFrom, hc, ih]

theorem trimEnd_cons (c : Char) (t : Text) :
    trimEnd (c :: t) = if trimEnd t = [] ∧ isBlank c then [] else c :: trimEnd t := by
  rw [trimEnd, dropEndWhile, trimEnd]
  cases dropEndWhile isBlank t <;> cases isBlank c <;> simp

theorem trimEnd_squeezeFrom (inGap : Bool) (t : Text) :
    trimEnd (squeezeFrom inGap t) = squeezeFrom inGap (trimEnd t) := by
  induction t generalizing inGap with
  | nil => rfl
  | cons c cs ih =>
      have hblank : isBlank ' ' = true := by decide
      -- What trimming leaves is squeezed to nothing only if it is nothing.
      have hnil : squeezeFrom true (trimEnd cs) = [] ↔ trimEnd cs = [] := by
        refine ⟨fun h => ?_, fun h => by rw [h]; rfl⟩
        rcases exists_dropEndWhile isBlank cs with ⟨w, hw, hcs⟩
        rw [hcs]
        refine dropEndWhile_eq_nil_iff.2 (List.forall_mem_append.2 ⟨?_, hw⟩)
        exact squeezeFrom_eq_nil_iff.1 h
      cases hc : isBlank c with
      | true =>
          by_cases hcs : trimEnd cs = [] <;> cases inGap <;>
            simp [squeezeFrom, trimEnd_cons, hc, hblank, ih, hnil, hcs]
      | false => simp [squeezeFrom, trimEnd_cons, hc, ih]

/-- Nor does trimming. -/
theorem trim_takeWhile_trim {p : Char → Bool} (hp : ∀ c, isBlank c → p c) (t : Text) :
    trim ((trim t).takeWhile p) = trim (t.takeWhile p) := by
  rcases exists_trim t with ⟨w, w', hw, hw', heq⟩
  rcases exists_stop p (trim t) with ⟨first, rest, htrim, hfirst, hrest⟩
  have hpass : ∀ c ∈ w ++ first, p c := List.forall_mem_append.2 ⟨fun c hc => hp c (hw c hc), hfirst⟩
  rw [htrim] at heq ⊢
  rw [takeWhile_append_stop hfirst hrest, heq]
  -- The cut is before the trimmed gap unless the text has no stop, and takes the gap as well then.
  cases rest with
  | nil =>
      have hall : ∀ c ∈ w ++ (first ++ w'), p c := by
        rw [← List.append_assoc]
        exact List.forall_mem_append.2 ⟨hpass, fun c hc => hp c (hw' c hc)⟩
      rw [List.append_nil, takeWhile_eq_self hall, trim_append_gaps hw hw']
  | cons c cs =>
      have hstop : ∀ d ∈ (c :: cs ++ w').head?, p d = false := hrest
      rw [List.append_assoc, ← List.append_assoc, takeWhile_append_stop hpass hstop]
      have hnil : ∀ c ∈ ([] : Text), isBlank c := by simp
      simpa using (trim_append_gaps hw hnil first).symm

/-- Trimming and squeezing do not disturb each other. -/
theorem trim_squeezeFrom (inGap : Bool) (t : Text) :
    trim (squeezeFrom inGap t) = squeezeFrom false (trim t) := by
  rw [trim, trimStart_squeezeFrom inGap false, trimEnd_squeezeFrom, trim]

end Text

end CiteIndex
