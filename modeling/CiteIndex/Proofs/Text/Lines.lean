import CiteIndex.Proofs.Text.Gaps

/-!
# Lines put together

Lines that hold no line feed, put together with line feeds between them, are read back as they
were, unless the end of a line could be taken for a part of its line break. What is put together
begins with the first line and ends with the last one, so it is trimmed if those are.

- `Text.feed_not_mem_lines`: no line holds a line feed
- `Text.trim_eq_self_of_ends`: texts that begin and end with something else than white space
- `Text.lines_join`: the lines of lines put together
-/

namespace CiteIndex

namespace Text

/-! ## Ends of trimmed texts -/

/-- No trimmed text begins or ends with white space. -/
theorem not_blank_of_trim {t s s' : Text} {c : Char} :
    trim t = s ++ c :: s' → s = [] ∨ s' = [] → isBlank c = false := by
  intro htrim hends
  cases hblank : isBlank c with
  | false => rfl
  | true =>
      -- Trimming once more would take the character away.
      have hgap : ∀ x ∈ [c], isBlank x := by simpa using hblank
      have hnil : ∀ x ∈ ([] : Text), isBlank x := by simp
      have hshort : trim (s ++ c :: s') = trim (s ++ s') := by
        rcases hends with rfl | rfl
        · simpa using trim_append_gaps hgap hnil s'
        · simpa using trim_append_gaps hnil hgap s
      have hsame : trim (s ++ c :: s') = s ++ c :: s' := by
        calc
          trim (s ++ c :: s') = trim (trim t) := by rw [htrim]
          _ = trim t := trim_trim t
          _ = s ++ c :: s' := htrim
      have hle : (trim (s ++ s')).length ≤ (s ++ s').length := length_trim_le _
      have hlen : (trim (s ++ s')).length = (s ++ c :: s').length := by
        rw [← hshort, hsame]
      simp only [List.length_append, List.length_cons] at hle hlen
      omega

theorem head_trim {t : Text} : ∀ c ∈ (trim t).head?, isBlank c = false := by
  intro c hc
  obtain ⟨s, htrim⟩ := List.head?_eq_some_iff.1 hc
  exact not_blank_of_trim (s := []) htrim (.inl rfl)

theorem getLast_trim {t : Text} : ∀ c ∈ (trim t).getLast?, isBlank c = false := by
  intro c hc
  obtain ⟨s, htrim⟩ := List.getLast?_eq_some_iff.1 hc
  exact not_blank_of_trim htrim (.inr rfl)

/-- A text that begins and ends with something else than white space is trimmed. -/
theorem trim_eq_self_of_ends {t : Text} :
    (∀ c ∈ t.head?, isBlank c = false) → (∀ c ∈ t.getLast?, isBlank c = false) → trim t = t := by
  intro hstart hend
  cases t with
  | nil => rfl
  | cons c cs =>
      have hc : isBlank c = false := hstart c rfl
      obtain ⟨d, hlast⟩ : ∃ d, (c :: cs).getLast? = some d :=
        ⟨_, List.getLast?_eq_some_getLast (List.cons_ne_nil c cs)⟩
      obtain ⟨s, hs⟩ := List.getLast?_eq_some_iff.1 hlast
      have htrimEnd : trimEnd (c :: cs) = c :: cs := by
        rw [hs]
        exact dropEndWhile_append_cons (hend d hlast) s []
      calc
        trim (c :: cs) = c :: trimEnd cs := trim_cons hc cs
        _ = trimEnd (c :: cs) := (dropEndWhile_append_cons hc [] cs).symm
        _ = c :: cs := htrimEnd

theorem mem_of_mem_trim {t : Text} {c : Char} : c ∈ trim t → c ∈ t := by
  intro hc
  obtain ⟨w, w', -, -, heq⟩ := exists_trim t
  rw [heq]
  exact List.mem_append_right w (List.mem_append_left w' hc)

/-! ## Lines of a text -/

/-- No line holds a line feed. -/
theorem feed_not_mem_lines {t line : Text} : line ∈ lines t → '\n' ∉ line := by
  intro h
  fun_induction lines t generalizing line with
  | case1 => cases h
  | case2 cs ih =>
      rcases List.mem_cons.1 h with rfl | h
      · exact List.not_mem_nil
      · exact ih h
  | case3 cs ih =>
      rcases List.mem_cons.1 h with rfl | h
      · exact List.not_mem_nil
      · exact ih h
  | case4 c cs hfeed hreturn ih =>
      have hc : '\n' ≠ c := fun hc => hfeed hc.symm
      rcases hlines : lines cs with _ | ⟨first, rest⟩
      · rw [hlines] at h
        obtain rfl := List.mem_singleton.1 h
        simpa using hc
      · rw [hlines] at h ih
        rcases List.mem_cons.1 h with rfl | h
        · exact List.not_mem_cons_of_ne_of_not_mem hc (ih List.mem_cons_self)
        · exact ih (List.mem_cons_of_mem _ h)

theorem mem_of_mem_lines {t line : Text} {c : Char} :
    line ∈ lines t → c ∈ line → c ∈ t := by
  intro hline hc
  induction hlen : t.length using Nat.strongRecOn generalizing t with
  | ind n ih =>
      subst hlen
      by_cases ht : t = []
      · subst ht
        cases hline
      · rcases exists_line ht with ⟨first, ending, rest, heq, hlines, hend⟩
        rw [hlines] at hline
        rw [heq]
        rcases List.mem_cons.1 hline with rfl | hline
        · exact List.mem_append_left _ hc
        · have hrest : rest ≠ [] := by
            rintro rfl
            cases hline
          have hlt := length_rest_lt heq hend hrest
          exact List.mem_append_right _ (List.mem_append_right _ (ih _ hlt hline rfl))

theorem head_lines {t : Text} {c : Char} : t.head? = some c → c ≠ '\n' → c ≠ '\r' →
    ∀ l ∈ (lines t).head?, l.head? = some c := by
  intro ht hfeed hreturn l hl
  obtain ⟨s, rfl⟩ := List.head?_eq_some_iff.1 ht
  rw [lines_cons hfeed hreturn] at hl
  cases hlines : lines s with
  | nil =>
      rw [hlines] at hl
      obtain rfl : [c] = l := Option.some.inj hl
      rfl
  | cons first rest =>
      rw [hlines] at hl
      obtain rfl : c :: first = l := Option.some.inj hl
      rfl

/-- The last line of a text that ends in something else than a line feed ends as the text does. -/
theorem getLast_lines {t : Text} {c : Char} : t.getLast? = some c → c ≠ '\n' →
    ∀ l ∈ (lines t).getLast?, l.getLast? = some c := by
  intro ht hc
  induction hlen : t.length using Nat.strongRecOn generalizing t with
  | ind n ih =>
      subst hlen
      intro l hl
      have hne : t ≠ [] := by
        rintro rfl
        cases ht
      obtain ⟨first, ending, rest, heq, hlines, hend⟩ := exists_line hne
      have hlast : (first ++ (ending ++ rest)).getLast? = some c := by rw [← heq, ht]
      by_cases hrest : rest = []
      · -- There is one line, and no line break behind it, since that would be the end.
        subst hrest
        have hfirst : l = first := by
          rw [hlines] at hl
          simpa [lines] using hl.symm
        rcases hend with rfl | rfl | ⟨rfl, -⟩
        · simp at hlast
          exact absurd hlast.symm hc
        · simp at hlast
          exact absurd hlast.symm hc
        · rw [hfirst]
          simpa using hlast
      · -- The last line of the rest is that of the text.
        have hlt := length_rest_lt heq hend hrest
        have hrest' : rest.getLast? = some c := by
          have hmore := List.getLast?_eq_some_getLast hrest
          simp only [List.getLast?_append, hmore] at hlast
          rw [hmore]
          simpa using hlast
        have hlines' : lines rest ≠ [] := fun h => hrest (lines_eq_nil_iff.1 h)
        obtain ⟨next, more, hnext⟩ := List.exists_cons_of_ne_nil hlines'
        apply ih rest.length hlt hrest' rfl
        rw [hlines, hnext, List.getLast?_cons_cons] at hl
        rw [hnext]
        exact hl

/-! ## Lines put together -/

theorem lines_eq_self {line : Text} : '\n' ∉ line → line ≠ [] → lines line = [line] := by
  intro hfeed hne
  fun_induction lines line with
  | case1 => exact absurd rfl hne
  | case2 cs => simp at hfeed
  | case3 cs => simp at hfeed
  | case4 c cs _ _ ih =>
      by_cases hcs : cs = []
      · subst hcs
        rfl
      · rw [ih (List.not_mem_of_not_mem_cons hfeed) hcs]
        rfl

/-- A line ends at a line feed, if its own end is no carriage return. -/
theorem lines_append_feed {line : Text} (rest : Text) :
    '\n' ∉ line → line.getLast? ≠ some '\r' →
      lines (line ++ '\n' :: rest) = line :: lines rest := by
  intro hfeed hreturn
  induction line with
  | nil => rfl
  | cons c cs ih =>
      have hc : c ≠ '\n' := (List.ne_of_not_mem_cons hfeed).symm
      have hcs : '\n' ∉ cs := List.not_mem_of_not_mem_cons hfeed
      have hlast : cs.getLast? ≠ some '\r' := by
        cases cs with
        | nil => simp
        | cons d ds => simpa [List.getLast?_cons_cons] using hreturn
      -- Behind a carriage return the line goes on, and not with a line feed.
      have hgo : lines (c :: (cs ++ '\n' :: rest)) = consHead c (lines (cs ++ '\n' :: rest)) := by
        rw [lines]
        · exact hc
        · intro more hret hmore
          cases cs with
          | nil =>
              subst hret
              exact hreturn rfl
          | cons d ds =>
              obtain rfl : d = '\n' := (List.cons.inj hmore).1
              exact hcs List.mem_cons_self
      rw [List.cons_append, hgo, ih hcs hlast]
      rfl

/-- Lines are read back from the text that they make up, if each can stand in one line. -/
theorem lines_join {ls : List Text} :
    (∀ l ∈ ls, '\n' ∉ l ∧ l.getLast? ≠ some '\r') → ls.getLast? ≠ some [] →
      lines (join ['\n'] ls) = ls := by
  intro hls hlast
  fun_induction join ['\n'] ls with
  | case1 => rfl
  | case2 line =>
      have hline := hls line List.mem_cons_self
      exact lines_eq_self hline.1 (by simpa using hlast)
  | case3 line rest hrest ih =>
      obtain ⟨hline, hmore⟩ := List.forall_mem_cons.1 hls
      have hlast' : rest.getLast? ≠ some [] := by
        cases rest with
        | nil => exact absurd rfl hrest
        | cons next more => simpa [List.getLast?_cons_cons] using hlast
      have hsplit := lines_append_feed (join ['\n'] rest) hline.1 hline.2
      calc
        lines (line ++ ['\n'] ++ join ['\n'] rest) = lines (line ++ '\n' :: join ['\n'] rest) := by
          simp
        _ = line :: lines (join ['\n'] rest) := hsplit
        _ = line :: rest := by rw [ih hmore hlast']

end Text

end CiteIndex
