import CiteIndex.Text.Case
import CiteIndex.Proofs.Text.Gaps

/-!
# Lower case once more

The lower case of a text is the same however its ASCII letters are written, although that of a sigma
depends on the letters around it. Taking the lower case once more changes nothing: the table of
lower cases maps no capital letter to another one.

- `Text.lower_congr`: texts that differ in the case of ASCII letters
- `Text.CaseRun.avoids`: a run of the table beside another one
- `Text.IsLow`, `Text.isLow_of_mem_lowerAfter`: what a lower case is made of
- `Text.lower_lower`: the lower case of a lower case
-/

namespace CiteIndex

namespace Text

/-! ## ASCII letters -/

/-- What holds of the ASCII characters and of all others holds of all characters. -/
theorem ascii_cases {p : Char → Prop} (hascii : ∀ n < 128, p (Char.ofNat n))
    (hbeyond : ∀ c : Char, 128 ≤ c.toNat → p c) (c : Char) : p c := by
  by_cases hc : c.toNat < 128
  · have hp := hascii c.toNat hc
    rwa [Char.ofNat_toNat] at hp
  · exact hbeyond c (Nat.le_of_not_lt hc)

theorem toLower_of_beyond {c : Char} (hc : 128 ≤ c.toNat) : c.toLower = c := by
  delta Char.toLower
  rw [dif_neg]
  rintro ⟨-, hle⟩
  have hle : c.toNat ≤ 90 := hle
  omega

/-- A character that is no capital letter is the lower case of itself only, unless it is a small
letter. -/
theorem toLower_eq_iff {c d : Char} (hd : d.isAlpha = false) : c.toLower = d ↔ c = d := by
  have hletter : ∀ c : Char, c.toLower = c ∨ c.toLower.isAlpha :=
    ascii_cases (by decide) fun c hc => .inl (toLower_of_beyond hc)
  have hself : ∀ d : Char, d.isAlpha = false → d.toLower = d :=
    ascii_cases (by decide) fun d hd _ => toLower_of_beyond hd
  constructor
  · rintro rfl
    rcases hletter c with h | h
    · exact h.symm
    · rw [hd] at h
      cases h
  · rintro rfl
    exact hself c hd

theorem isBlank_toLower (c : Char) : isBlank c.toLower = isBlank c := by
  refine ascii_cases (p := fun c => isBlank c.toLower = isBlank c) (by decide) ?_ c
  intro c hc
  rw [toLower_of_beyond hc]

theorem isCased_toLower (c : Char) : isCased c.toLower = isCased c := by
  refine ascii_cases (p := fun c => isCased c.toLower = isCased c) (by decide) ?_ c
  intro c hc
  rw [toLower_of_beyond hc]

theorem isCaseIgnorable_toLower (c : Char) : isCaseIgnorable c.toLower = isCaseIgnorable c := by
  refine ascii_cases (p := fun c => isCaseIgnorable c.toLower = isCaseIgnorable c) (by decide) ?_ c
  intro c hc
  rw [toLower_of_beyond hc]

theorem lowerChar_toLower (c : Char) : lowerChar c.toLower = lowerChar c := by
  refine ascii_cases (p := fun c => lowerChar c.toLower = lowerChar c) (by decide) ?_ c
  intro c hc
  rw [toLower_of_beyond hc]

/-- Whether a cased character follows does not depend on the case of ASCII letters. -/
theorem meetsCased_lowerAscii (t : Text) : meetsCased (lowerAscii t) = meetsCased t := by
  induction t with
  | nil => rfl
  | cons c cs ih =>
      rw [lowerAscii, List.map_cons, meetsCased, meetsCased]
      cases hc : isCaseIgnorable c with
      | true =>
          rw [List.dropWhile_cons_of_pos (by rw [isCaseIgnorable_toLower, hc]),
            List.dropWhile_cons_of_pos hc]
          exact ih
      | false =>
          rw [List.dropWhile_cons_of_neg (by rw [isCaseIgnorable_toLower, hc]; exact nofun),
            List.dropWhile_cons_of_neg (by rw [hc]; exact nofun)]
          exact isCased_toLower c

/-- ASCII letters may be taken to lower case first. -/
theorem lowerAfter_lowerAscii (before t : Text) :
    lowerAfter (lowerAscii before) (lowerAscii t) = lowerAfter before t := by
  induction t generalizing before with
  | nil => rfl
  | cons c cs ih =>
      have hsigma : (c.toLower == 'Σ') = (c == 'Σ') := by
        rw [Bool.eq_iff_iff, beq_iff_eq, beq_iff_eq]
        exact toLower_eq_iff (by decide)
      have hdot : (c.toLower == 'İ') = (c == 'İ') := by
        rw [Bool.eq_iff_iff, beq_iff_eq, beq_iff_eq]
        exact toLower_eq_iff (by decide)
      have hrest : lowerAfter (c.toLower :: lowerAscii before) (lowerAscii cs) =
          lowerAfter (c :: before) cs := ih (c :: before)
      have hbehind : meetsCased (cs.map Char.toLower) = meetsCased cs := meetsCased_lowerAscii cs
      rw [lowerAscii, lowerAscii, List.map_cons, lowerAfter, lowerAfter, hsigma, hdot,
        lowerChar_toLower, hbehind]
      rw [← lowerAscii, ← lowerAscii, hrest, meetsCased_lowerAscii]

/-- Texts that differ in the case of ASCII letters only have the same lower case. -/
theorem lower_congr {s t : Text} (h : s.lowerAscii = t.lowerAscii) : lower s = lower t := by
  have hs : lower s.lowerAscii = lower s := lowerAfter_lowerAscii [] s
  have ht : lower t.lowerAscii = lower t := lowerAfter_lowerAscii [] t
  rw [← hs, h, ht]

/-! ## The table -/

/-- Is a number one of those from the first to the last lower case of a run. -/
def CaseRun.reaches (run : CaseRun) (n : Nat) : Bool :=
  Nat.ble run.target n && Nat.ble n (run.target + (run.last - run.first))

/-- Is none of the lower cases of a run a capital letter of another one. Where the two overlap,
capital and small letters take turns. -/
def CaseRun.avoids (run other : CaseRun) : Bool :=
  Nat.blt other.last run.target || Nat.blt (run.target + (run.last - run.first)) other.first ||
    (other.step == 2 && (run.step == 2 || run.first == run.last)
      && (run.target + other.first) % 2 == 1)

theorem CaseRun.not_covers_of_avoids {run other : CaseRun} {n : Nat} (h : run.avoids other)
    (hn : run.covers n) : other.covers (run.target + (n - run.first)) = false := by
  obtain ⟨first, last, step, target⟩ := run
  obtain ⟨first', last', step', target'⟩ := other
  simp only [covers, avoids, Bool.and_eq_true, Bool.or_eq_true, decide_eq_true_eq, Nat.blt_eq,
    beq_iff_eq, Bool.eq_false_iff, ne_eq, not_and] at *
  obtain ⟨⟨hfirst, hlast⟩, hstep⟩ := hn
  rintro ⟨hfirst', hlast'⟩
  rcases h with (h | h) | ⟨⟨rfl, rfl | rfl⟩, hturns⟩ <;> omega

/-- No lower case of a run is a capital letter, white space, a capital I with a dot above or an
ASCII character other than a small letter, and all of them are characters. -/
def CaseRun.isLow (run : CaseRun) : Bool :=
  caseRuns.all run.avoids && (0x130 :: blankCodes).all (fun n => !run.reaches n)
    && (128 ≤ run.target || run.first == run.last && 0x61 ≤ run.target && run.target ≤ 0x7A)
    && (run.target + (run.last - run.first) < 0xD800
      || 0xDFFF < run.target && run.target + (run.last - run.first) < 0x110000)

/-- The lower cases in the table are all low. -/
theorem isLow_of_mem_caseRuns : ∀ run ∈ caseRuns, run.isLow := by
  have hall : caseRuns.all CaseRun.isLow = true := by decide +kernel
  exact List.all_eq_true.1 hall

/-! ## What a lower case is made of -/

/-- A character that stays as it is when the lower case of a text is taken. -/
structure IsLow (c : Char) : Prop where
  lowerChar_eq : lowerChar c = c
  ne_sigma : c ≠ 'Σ'
  ne_dotted : c ≠ 'İ'

theorem toNat_ofNat {n : Nat} (h : n < 0xD800 ∨ 0xDFFF < n ∧ n < 0x110000) :
    (Char.ofNat n).toNat = n := by
  rw [Char.ofNat, dif_pos h]
  rfl

/-- The lower case of a run of the table is low, and no white space. -/
theorem isLow_of_covers {run : CaseRun} (hrun : run ∈ caseRuns) {n : Nat} (hn : run.covers n) :
    IsLow (Char.ofNat (run.target + (n - run.first))) ∧
      isBlank (Char.ofNat (run.target + (n - run.first))) = false := by
  have hlow := isLow_of_mem_caseRuns run hrun
  simp only [CaseRun.isLow, Bool.and_eq_true, Bool.or_eq_true, decide_eq_true_eq, beq_iff_eq,
    List.all_eq_true] at hlow
  obtain ⟨⟨⟨havoids, hcodes⟩, hascii⟩, hvalid⟩ := hlow
  have hbounds : run.first ≤ n ∧ n ≤ run.last := by
    simp only [CaseRun.covers, Bool.and_eq_true, decide_eq_true_eq] at hn
    exact hn.1
  -- What holds of all lower cases of the run holds of this one.
  have hreaches : run.reaches (run.target + (n - run.first)) := by
    simp only [CaseRun.reaches, Bool.and_eq_true, Nat.ble_eq]
    omega
  have hnone : caseRuns.find? (CaseRun.covers · (run.target + (n - run.first))) = none := by
    rw [List.find?_eq_none]
    intro other hother
    rw [CaseRun.not_covers_of_avoids (havoids other hother) hn]
    exact nofun
  have hcode := toNat_ofNat (n := run.target + (n - run.first)) (by omega)
  have hne : ∀ m ∈ 0x130 :: blankCodes, run.target + (n - run.first) ≠ m := by
    rintro m hm rfl
    have := hcodes _ hm
    rw [hreaches] at this
    cases this
  -- No run changes it again.
  have hlower : lowerChar (Char.ofNat (run.target + (n - run.first))) =
      Char.ofNat (run.target + (n - run.first)) := by
    rw [lowerChar, hcode, hnone]
    split
    · have hsmall : ∀ m < 128, 0x61 ≤ m ∧ m ≤ 0x7A → (Char.ofNat m).toLower = Char.ofNat m := by
        decide
      exact hsmall _ (by omega) (by omega)
    · rfl
  refine ⟨⟨hlower, ?_, ?_⟩, ?_⟩
  · intro hsigma
    rw [hsigma] at hlower
    exact absurd hlower (by decide +kernel)
  · intro hdotted
    rw [hdotted] at hcode
    exact hne 0x130 List.mem_cons_self hcode.symm
  · refine Bool.eq_false_iff.2 fun hblank => ?_
    have hmem := mem_blankCodes hblank
    rw [hcode] at hmem
    exact hne _ (List.mem_cons_of_mem _ hmem) rfl

/-- One character is low in lower case, and no white space if it was none. -/
theorem isLow_lowerChar {c : Char} (hsigma : c ≠ 'Σ') (hdotted : c ≠ 'İ') :
    IsLow (lowerChar c) ∧ (isBlank c = false → isBlank (lowerChar c) = false) := by
  by_cases hc : c.toNat < 128
  · have hall : ∀ n < 128, (lowerChar (Char.ofNat n).toLower = (Char.ofNat n).toLower ∧
        (Char.ofNat n).toLower ≠ 'Σ' ∧ (Char.ofNat n).toLower ≠ 'İ') := by decide
    have hlow := hall c.toNat hc
    rw [Char.ofNat_toNat] at hlow
    rw [lowerChar, if_pos hc, isBlank_toLower]
    exact ⟨⟨hlow.1, hlow.2.1, hlow.2.2⟩, id⟩
  · cases hrun : caseRuns.find? (CaseRun.covers · c.toNat) with
    | none =>
        have hsame : lowerChar c = c := by rw [lowerChar, if_neg hc, hrun]
        rw [hsame]
        exact ⟨⟨hsame, hsigma, hdotted⟩, id⟩
    | some run =>
        have hcovers := List.find?_some hrun
        have hlow := isLow_of_covers (List.mem_of_find?_eq_some hrun) hcovers
        rw [lowerChar, if_neg hc, hrun]
        exact ⟨hlow.1, fun _ => hlow.2⟩

/-- What a character becomes in the lower case of a text. -/
theorem lowerAfter_cons (before : Text) (c : Char) (cs : Text) :
    ∃ low, lowerAfter before (c :: cs) = low ++ lowerAfter (c :: before) cs ∧ low ≠ [] ∧
      ∀ d ∈ low, IsLow d ∧ (isBlank c = false → isBlank d = false) := by
  have hspecial : ∀ d ∈ ['ς', 'σ', 'i', '\u0307'],
      (lowerChar d = d ∧ d ≠ 'Σ' ∧ d ≠ 'İ') ∧ isBlank d = false := by
    intro d hd
    simp only [List.mem_cons, List.not_mem_nil, or_false] at hd
    rcases hd with rfl | rfl | rfl | rfl <;> decide +kernel
  have hlow : ∀ d ∈ ['ς', 'σ', 'i', '\u0307'],
      IsLow d ∧ (isBlank c = false → isBlank d = false) := by
    intro d hd
    obtain ⟨⟨hlower, hsigma, hdotted⟩, hblank⟩ := hspecial d hd
    exact ⟨⟨hlower, hsigma, hdotted⟩, fun _ => hblank⟩
  rw [lowerAfter]
  by_cases hsigma : c = 'Σ'
  · -- A capital sigma has two lower cases, one for the end of a word.
    rw [if_pos (beq_iff_eq.2 hsigma)]
    split
    · exact ⟨_, rfl, by simp, fun d hd => hlow d (by simp_all)⟩
    · exact ⟨_, rfl, by simp, fun d hd => hlow d (by simp_all)⟩
  · rw [if_neg (mt beq_iff_eq.1 hsigma)]
    by_cases hdotted : c = 'İ'
    · rw [if_pos (beq_iff_eq.2 hdotted)]
      refine ⟨_, rfl, by simp, fun d hd => hlow d ?_⟩
      rcases List.mem_cons.1 hd with rfl | hd
      · simp
      · simp_all
    · rw [if_neg (mt beq_iff_eq.1 hdotted)]
      refine ⟨_, rfl, by simp, fun d hd => ?_⟩
      rw [List.mem_singleton.1 hd]
      exact isLow_lowerChar hsigma hdotted

/-- A text in lower case holds nothing but characters that stay as they are. -/
theorem isLow_of_mem_lowerAfter {before t : Text} : ∀ c ∈ lowerAfter before t, IsLow c := by
  induction t generalizing before with
  | nil => exact nofun
  | cons c cs ih =>
      obtain ⟨low, heq, -, hlow⟩ := lowerAfter_cons before c cs
      rw [heq]
      exact List.forall_mem_append.2 ⟨fun d hd => (hlow d hd).1, ih⟩

/-- A text of such characters is its own lower case. -/
theorem lowerAfter_of_isLow (before : Text) {t : Text} (h : ∀ c ∈ t, IsLow c) :
    lowerAfter before t = t := by
  induction t generalizing before with
  | nil => rfl
  | cons c cs ih =>
      obtain ⟨hc, hcs⟩ := List.forall_mem_cons.1 h
      rw [lowerAfter, if_neg (mt beq_iff_eq.1 hc.ne_sigma), if_neg (mt beq_iff_eq.1 hc.ne_dotted),
        hc.lowerChar_eq, ih (c :: before) hcs]
      rfl

/-- Taking the lower case once more changes nothing. -/
theorem lower_lower (t : Text) : lower (lower t) = lower t :=
  lowerAfter_of_isLow [] isLow_of_mem_lowerAfter

/-! ## The lower case of a part -/

/-- The lower case of a text begins with that of its first part and ends with that of its last, each
as it is beside the other. -/
theorem exists_lowerAfter_append (before s t : Text) :
    ∃ front, lowerAfter before (s ++ t) = front ++ lowerAfter (s.reverse ++ before) t := by
  induction s generalizing before with
  | nil => exact ⟨[], rfl⟩
  | cons c cs ih =>
      obtain ⟨low, heq, -, -⟩ := lowerAfter_cons before c (cs ++ t)
      obtain ⟨front, hfront⟩ := ih (c :: before)
      refine ⟨low ++ front, ?_⟩
      rw [List.cons_append, heq, hfront, List.append_assoc, List.reverse_cons, List.append_assoc]
      rfl

/-- What is no white space does not become white space. -/
theorem exists_ink_lowerAfter {before t : Text} (h : ∃ c ∈ t, isBlank c = false) :
    ∃ d ∈ lowerAfter before t, isBlank d = false := by
  obtain ⟨c, hc, hblank⟩ := h
  obtain ⟨s, u, rfl⟩ := List.append_of_mem hc
  obtain ⟨front, hfront⟩ := exists_lowerAfter_append before s (c :: u)
  obtain ⟨low, hlow, hne, hink⟩ := lowerAfter_cons (s.reverse ++ before) c u
  obtain ⟨d, ds, rfl⟩ := List.exists_cons_of_ne_nil hne
  rw [hfront, hlow]
  exact ⟨d, by simp, (hink d List.mem_cons_self).2 hblank⟩

/-- Neither does the last character of a text. -/
theorem exists_concat_lowerAfter {c : Char} (hc : isBlank c = false) (before t : Text) :
    ∃ u d, lowerAfter before (t ++ [c]) = u ++ [d] ∧ isBlank d = false := by
  obtain ⟨front, hfront⟩ := exists_lowerAfter_append before t [c]
  obtain ⟨low, hlow, hne, hink⟩ := lowerAfter_cons (t.reverse ++ before) c []
  refine ⟨front ++ low.dropLast, low.getLast hne, ?_, (hink _ (List.getLast_mem hne)).2 hc⟩
  rw [hfront, hlow, lowerAfter, List.append_nil, List.append_assoc,
    List.dropLast_concat_getLast hne]

end Text

end CiteIndex
