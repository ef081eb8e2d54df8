import CiteIndex.Doi
import CiteIndex.Proofs.Text.Gaps

/-!
# Mentions of a DOI

A text that mentions a DOI still does when lines are put around it, although the lower case of a
sigma depends on what is around it: white space, commas and braces end every word. White space
alone mentions no DOI.

- `Text.lower_append_break`: the lower case of two texts with a break between them
- `Doi.occursIn_append_break`: mentions on the two sides of a break
- `Doi.occursIn_append`: mentions stay
- `Doi.occursIn_gap`: white space mentions nothing
-/

namespace CiteIndex

namespace Text

/-! ## Lower case around a break -/

/-- A character that ends words: white space, a comma or a brace. -/
def isBreak (c : Char) : Bool :=
  isBlank c || [',', '{', '}'].contains c

theorem isBreak_of_blank {c : Char} (hc : isBlank c) : isBreak c := by
  simp [isBreak, hc]

/-- A break has no case, and a sigma does not look through it. -/
theorem lower_of_isBreak {c : Char} (hc : isBreak c) :
    lower [c] = [c] ∧ isCased c = false ∧ isCaseIgnorable c = false := by
  have hall : ∀ n ∈ blankCodes ++ [0x2C, 0x7B, 0x7D], lower [Char.ofNat n] = [Char.ofNat n] ∧
      isCased (Char.ofNat n) = false ∧ isCaseIgnorable (Char.ofNat n) = false := by
    decide +kernel
  have hcode : c.toNat ∈ blankCodes ++ [0x2C, 0x7B, 0x7D] := by
    rw [isBreak, Bool.or_eq_true] at hc
    rcases hc with hc | hc
    · exact List.mem_append_left _ (mem_blankCodes hc)
    · simp only [List.contains_iff_mem, List.mem_cons, List.not_mem_nil, or_false] at hc
      rcases hc with rfl | rfl | rfl <;> decide
  simpa using hall c.toNat hcode

/-- A break hides what is behind it from a sigma. -/
theorem meetsCased_append_break {c : Char} (hc : isBreak c) (t u : Text) :
    meetsCased (t ++ c :: u) = meetsCased t := by
  induction t with
  | nil => simp [meetsCased, lower_of_isBreak hc]
  | cons d ds ih =>
      -- What can be ignored is looked through on both sides, and anything else decides.
      by_cases hd : isCaseIgnorable d
      · simpa [meetsCased, hd] using ih
      · simp [meetsCased, hd]

theorem lowerAfter_before_break {c : Char} (hc : isBreak c) (before more t : Text) :
    lowerAfter (before ++ c :: more) t = lowerAfter before t := by
  induction t generalizing before with
  | nil => rfl
  | cons d ds ih =>
      rw [lowerAfter, lowerAfter, meetsCased_append_break hc, ← List.cons_append, ih]

/-- Texts on both sides of a break are taken to lower case on their own. -/
theorem lowerAfter_append_break {c : Char} (hc : isBreak c) (before t u : Text) :
    lowerAfter before (t ++ c :: u) = lowerAfter before t ++ c :: lower u := by
  induction t generalizing before with
  | nil =>
      have hsigma : (c == 'Σ') = false := by
        rw [beq_eq_false_iff_ne]
        rintro rfl
        exact absurd hc (by decide)
      have hone : lowerAfter [] [c] = [c] := (lower_of_isBreak hc).1
      have hrest : lowerAfter (c :: before) u = lowerAfter [] u :=
        lowerAfter_before_break hc [] before u
      rw [lowerAfter, hsigma] at hone
      simp only [Bool.false_eq_true, if_false, lowerAfter, List.append_nil] at hone
      rw [List.nil_append, lowerAfter, lowerAfter, hsigma, hrest]
      simp only [Bool.false_eq_true, if_false, hone]
      rfl
  | cons d ds ih =>
      rw [List.cons_append, lowerAfter, lowerAfter, ih, meetsCased_append_break hc,
        List.append_assoc]

/-- The lower case of a text with a break is that of both parts. -/
theorem lower_append_break {c : Char} (hc : isBreak c) (t u : Text) :
    lower (t ++ c :: u) = lower t ++ c :: lower u :=
  lowerAfter_append_break hc [] t u

/-- White space has no case. -/
theorem lower_gap {w : Text} (hw : ∀ c ∈ w, isBlank c) : lower w = w := by
  induction w with
  | nil => rfl
  | cons c cs ih =>
      rcases List.forall_mem_cons.1 hw with ⟨hc, hcs⟩
      have hsplit : lower (c :: cs) = c :: lower cs :=
        lower_append_break (isBreak_of_blank hc) [] cs
      rw [hsplit, ih hcs]

/-! ## Texts inside texts -/

theorem holds_iff_infix {part t : Text} : holds part t ↔ part <:+: t := by
  induction t with
  | nil => simp [holds]
  | cons c cs ih =>
      rw [holds, Bool.or_eq_true, List.isPrefixOf_iff_prefix, List.infix_cons_iff, ih]

/-- A text without a character stands on one side of it. -/
theorem infix_append_cons {c : Char} {part s t : Text} (hc : c ∉ part) :
    part <:+: s ++ c :: t ↔ part <:+: s ∨ part <:+: t := by
  have hnil {start : Text} (hsub : start ⊆ part) (h : start <+: c :: t) : start = [] := by
    rcases List.prefix_cons_iff.1 h with rfl | ⟨rest, rfl, -⟩
    · rfl
    · exact absurd (hsub List.mem_cons_self) hc
  rw [List.infix_append_iff, List.infix_cons_iff]
  constructor
  · rintro (h | (h | h) | ⟨left, right, rfl, hleft, hright⟩)
    · exact .inl h
    · rw [hnil (List.Subset.refl part) h]
      exact .inl (List.nil_infix)
    · exact .inr h
    -- What stands across the character ends before it.
    · rw [hnil (List.subset_append_right left right) hright, List.append_nil]
      exact .inl hleft.isInfix
  · exact Or.imp_right fun h => .inl (.inr h)

end Text

namespace Doi

variable {typed : Text} {doi : Doi}

/-- A DOI is mentioned where its normal form stands in the lower case of the contents. -/
theorem occursIn_iff (doi : Doi) (contents : Text) :
    doi.occursIn contents ↔ doi.normalized <:+: Text.lower contents :=
  Text.holds_iff_infix

/-- A DOI without a break is mentioned on one side of it. -/
theorem occursIn_append_break {c : Char} (hc : Text.isBreak c) (hdoi : c ∉ doi.normalized)
    (s t : Text) : doi.occursIn (s ++ c :: t) = (doi.occursIn s || doi.occursIn t) := by
  rw [Bool.eq_iff_iff, Bool.or_eq_true, occursIn_iff, occursIn_iff, occursIn_iff,
    Text.lower_append_break hc, Text.infix_append_cons hdoi]

/-- Lines put behind a text take no mention away. -/
theorem occursIn_append {contents : Text} (h : doi.occursIn contents) (more : Text) :
    doi.occursIn (contents ++ '\n' :: more) := by
  rw [occursIn_iff] at h ⊢
  rw [Text.lower_append_break (by decide)]
  exact h.trans (List.prefix_append _ _).isInfix

/-- Neither do lines put in front of it. -/
theorem occursIn_append_right {more : Text} (h : doi.occursIn more) (contents : Text) :
    doi.occursIn (contents ++ '\n' :: more) := by
  rw [occursIn_iff] at h ⊢
  rw [Text.lower_append_break (by decide)]
  exact h.trans ((List.suffix_cons _ _).trans (List.suffix_append _ _)).isInfix

/-- A DOI begins with a digit. -/
theorem one_mem_of_parse (h : parse typed = .ok doi) : '1' ∈ doi.normalized := by
  simp only [parse] at h
  split at h
  · cases h
  · split at h
    · rename_i hformed
      cases h
      rw [isWellFormed, Bool.and_eq_true] at hformed
      rcases List.isPrefixOf_iff_prefix.1 hformed.1 with ⟨rest, hrest⟩
      rw [← hrest]
      exact List.mem_cons_self
    · cases h

/-- White space mentions no DOI. -/
theorem occursIn_gap (h : parse typed = .ok doi) {w : Text} (hw : ∀ c ∈ w, Text.isBlank c) :
    doi.occursIn w = false := by
  rw [Bool.eq_false_iff]
  intro hoccurs
  rw [occursIn_iff, Text.lower_gap hw] at hoccurs
  have hblank := hw '1' (hoccurs.subset (one_mem_of_parse h))
  exact absurd hblank (by decide)

end Doi

end CiteIndex
