import CiteIndex.Proofs.Text.Lines
import Mathlib.Data.List.Chain

/-!
# Texts with single blanks

Words that are joined by single blanks make a text with no white space at its ends, no two white
space characters in a row, and none but blanks. Such a text can be cut at any of its blanks, and
two of them can be put together with a blank in between.

- `Text.IsSpaced`: what such a text is
- `Text.IsSpaced.of_append_blank`: cutting at a blank
- `Text.IsSpaced.append_blank`: putting together with a blank in between
- `Text.isSpaced_join_words`: words joined by single blanks
-/

namespace CiteIndex

namespace Text

/-- A text with single blanks inside, which is all its white space. -/
structure IsSpaced (t : Text) : Prop where
  ne_nil : t ≠ []
  head : ∀ c ∈ t.head?, isBlank c = false
  last : ∀ c ∈ t.getLast?, isBlank c = false
  blank : ∀ c ∈ t, isBlank c → c = ' '
  single : t.IsChain fun a b => ¬(isBlank a ∧ isBlank b)

namespace IsSpaced

variable {s t w : Text}

theorem trim_eq (h : IsSpaced t) : trim t = t :=
  trim_eq_self_of_ends h.head h.last

theorem of_ink (hne : w ≠ []) (hw : ∀ c ∈ w, isBlank c = false) : IsSpaced w where
  ne_nil := hne
  head c hc := hw c (List.mem_of_mem_head? hc)
  last c hc := hw c (List.mem_of_mem_getLast? hc)
  blank c hc hblank := by
    rw [hw c hc] at hblank
    cases hblank
  single := by
    apply List.Pairwise.isChain
    apply List.pairwise_of_forall_mem_list
    intro a ha b _ hblank
    rw [hw a ha] at hblank
    cases hblank.1

/-- A character that is no white space can be put behind. -/
theorem concat {c : Char} (h : IsSpaced t) (hc : isBlank c = false) : IsSpaced (t ++ [c]) where
  ne_nil := List.append_ne_nil_of_left_ne_nil h.ne_nil [c]
  head d hd := by
    rw [List.head?_append_of_ne_nil t h.ne_nil] at hd
    exact h.head d hd
  last d hd := by
    rw [List.getLast?_concat] at hd
    obtain rfl : c = d := Option.some.inj hd
    exact hc
  blank d hd hblank := by
    rcases List.mem_append.1 hd with hd | hd
    · exact h.blank d hd hblank
    · obtain rfl := List.mem_singleton.1 hd
      rw [hc] at hblank
      cases hblank
  single := by
    refine List.isChain_append.2 ⟨h.single, .singleton c, ?_⟩
    intro a _ b hb hblank
    obtain rfl : c = b := Option.some.inj hb
    rw [hc] at hblank
    cases hblank.2

/-- Two such texts can be put together with a blank in between. -/
theorem append_blank (hs : IsSpaced s) (ht : IsSpaced t) : IsSpaced (s ++ ' ' :: t) where
  ne_nil := List.append_ne_nil_of_left_ne_nil hs.ne_nil _
  head c hc := by
    rw [List.head?_append_of_ne_nil s hs.ne_nil] at hc
    exact hs.head c hc
  last c hc := by
    rw [List.getLast?_append, List.getLast?_cons, List.getLast?_eq_some_getLast ht.ne_nil] at hc
    exact ht.last c (by rw [List.getLast?_eq_some_getLast ht.ne_nil]; exact hc)
  blank c hc hblank := by
    rcases List.mem_append.1 hc with hc | hc
    · exact hs.blank c hc hblank
    · rcases List.mem_cons.1 hc with rfl | hc
      · rfl
      · exact ht.blank c hc hblank
  single := by
    refine List.isChain_append.2 ⟨hs.single, List.isChain_cons.2 ⟨?_, ht.single⟩, ?_⟩
    · intro b hb hblank
      rw [ht.head b hb] at hblank
      cases hblank.2
    · intro a ha b _ hblank
      rw [hs.last a ha] at hblank
      cases hblank.1

/-- At a blank both neighbours are something else. -/
theorem of_append_blank (h : IsSpaced (s ++ ' ' :: t)) : IsSpaced s ∧ IsSpaced t := by
  have hspace : isBlank ' ' := by decide
  obtain ⟨hchain, hrest, hlink⟩ := List.isChain_append.1 h.single
  obtain ⟨hnext, htail⟩ := List.isChain_cons.1 hrest
  -- A blank stands at neither end of the text, so there is something on both sides of it.
  have hs : s ≠ [] := by
    rintro rfl
    exact absurd (h.head ' ' rfl) (by decide)
  have ht : t ≠ [] := by
    rintro rfl
    exact absurd (h.last ' ' (by simp)) (by decide)
  constructor
  · refine ⟨hs, ?_, ?_, ?_, hchain⟩
    · intro c hc
      exact h.head c (by rw [List.head?_append_of_ne_nil s hs]; exact hc)
    · intro c hc
      exact Bool.eq_false_iff.2 fun hblank => hlink c hc ' ' rfl ⟨hblank, hspace⟩
    · intro c hc
      exact h.blank c (List.mem_append_left _ hc)
  · refine ⟨ht, ?_, ?_, ?_, htail⟩
    · intro c hc
      exact Bool.eq_false_iff.2 fun hblank => hnext c hc ⟨hspace, hblank⟩
    · intro c hc
      apply h.last c
      rw [List.getLast?_append, List.getLast?_cons, List.getLast?_eq_some_getLast ht]
      rw [List.getLast?_eq_some_getLast ht] at hc
      exact hc
    · intro c hc
      exact h.blank c (List.mem_append_right s (List.mem_cons_of_mem ' ' hc))

end IsSpaced

/-! ## Words -/

/-- Pieces hold no separator, and nothing that the text does not hold. -/
theorem not_separator_of_mem_splitWhere {isSeparator : Char → Bool} {t piece : Text} :
    piece ∈ splitWhere isSeparator t → ∀ c ∈ piece, isSeparator c = false ∧ c ∈ t := by
  intro hpiece c hc
  induction t generalizing piece with
  | nil =>
      obtain rfl := List.mem_singleton.1 hpiece
      cases hc
  | cons d ds ih =>
      rw [splitWhere] at hpiece
      split at hpiece
      · rcases List.mem_cons.1 hpiece with rfl | hpiece
        · cases hc
        · obtain ⟨hsep, hmem⟩ := ih hpiece hc
          exact ⟨hsep, List.mem_cons_of_mem d hmem⟩
      · -- The character belongs to the first piece.
        rename_i hd
        have hd' : isSeparator d = false := Bool.eq_false_iff.2 hd
        cases hsplit : splitWhere isSeparator ds with
        | nil =>
            rw [hsplit] at hpiece
            obtain rfl := List.mem_singleton.1 hpiece
            obtain rfl := List.mem_singleton.1 hc
            exact ⟨hd', List.mem_cons_self⟩
        | cons first rest =>
            rw [hsplit] at hpiece ih
            rcases List.mem_cons.1 hpiece with rfl | hpiece
            · rcases List.mem_cons.1 hc with rfl | hc
              · exact ⟨hd', List.mem_cons_self⟩
              · obtain ⟨hsep, hmem⟩ := ih List.mem_cons_self hc
                exact ⟨hsep, List.mem_cons_of_mem d hmem⟩
            · obtain ⟨hsep, hmem⟩ := ih (List.mem_cons_of_mem first hpiece) hc
              exact ⟨hsep, List.mem_cons_of_mem d hmem⟩

/-- A word is not empty and made of characters of the text that are no white space. -/
theorem mem_words {t w : Text} (hw : w ∈ words t) :
    w ≠ [] ∧ ∀ c ∈ w, isBlank c = false ∧ c ∈ t := by
  obtain ⟨hpiece, hne⟩ := List.mem_filter.1 hw
  refine ⟨?_, not_separator_of_mem_splitWhere hpiece⟩
  rintro rfl
  cases hne

theorem mem_join {separator : Text} {pieces : List Text} {c : Char} :
    c ∈ join separator pieces → c ∈ separator ∨ ∃ p ∈ pieces, c ∈ p := by
  intro hc
  fun_induction join separator pieces with
  | case1 => cases hc
  | case2 piece => exact .inr ⟨piece, List.mem_cons_self, hc⟩
  | case3 piece rest _ ih =>
      rcases List.mem_append.1 hc with hc | hc
      · rcases List.mem_append.1 hc with hc | hc
        · exact .inr ⟨piece, List.mem_cons_self, hc⟩
        · exact .inl hc
      · rcases ih hc with hc | ⟨p, hp, hc⟩
        · exact .inl hc
        · exact .inr ⟨p, List.mem_cons_of_mem piece hp, hc⟩

/-- Spaced texts joined by single blanks are spaced. -/
theorem isSpaced_join_words {ws : List Text} (hne : ws ≠ []) (hws : ∀ w ∈ ws, IsSpaced w) :
    IsSpaced (join [' '] ws) := by
  fun_induction join [' '] ws with
  | case1 => exact absurd rfl hne
  | case2 w => exact hws w List.mem_cons_self
  | case3 w rest hrest ih =>
      obtain ⟨hw, hmore⟩ := List.forall_mem_cons.1 hws
      have hlater : IsSpaced (join [' '] rest) := ih (fun h => hrest h) hmore
      rw [List.append_assoc]
      exact hw.append_blank hlater

end Text

end CiteIndex
