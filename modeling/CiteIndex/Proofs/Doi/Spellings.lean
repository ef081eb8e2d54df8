import CiteIndex.Doi
import CiteIndex.Proofs.Text.LowerCase

/-!
# Spellings of a DOI

However a bare DOI is typed, with something in front of it, with white space around it and between,
and in any case of its ASCII letters, it is read as the same DOI. Its normal form is one more
spelling, so the DOI that it is read as is the same once more.

- `Doi.isWellFormed_iff`, `Doi.isWellFormed_congr`, `Doi.isWellFormed_lower`: well-formed DOIs
- `Doi.parse_spelled`: what is read of a bare DOI with something around it
- `Doi.Respells`, `Doi.parse_respelled`: all spellings of a DOI
-/

namespace CiteIndex

/-! ## Ends of a text -/

namespace Text

theorem trimEnd_trimEnd (t : Text) : trimEnd (trimEnd t) = trimEnd t := by
  obtain ⟨w, hw, heq⟩ := exists_dropEndWhile isBlank t
  calc
    trimEnd (trimEnd t) = trimEnd (trimEnd t ++ w) := (trimEnd_append_gap hw).symm
    _ = trimEnd t := congrArg trimEnd heq.symm

theorem trimEnd_concat {c : Char} (hc : isBlank c = false) (t : Text) :
    trimEnd (t ++ [c]) = t ++ [c] :=
  dropEndWhile_append_cons hc t []

/-- A text without white space at its end ends with something else. -/
theorem exists_concat_of_trimEnd {t : Text} (ht : trimEnd t = t) (hne : t ≠ []) :
    ∃ u c, t = u ++ [c] ∧ isBlank c = false := by
  refine ⟨t.dropLast, t.getLast hne, (List.dropLast_concat_getLast hne).symm, ?_⟩
  refine Bool.eq_false_iff.2 fun hblank => ?_
  have htrim : trimEnd (t.dropLast ++ [t.getLast hne]) = trimEnd t.dropLast :=
    trimEnd_append_gap (by simpa using hblank)
  obtain ⟨w, -, heq⟩ := exists_dropEndWhile isBlank t.dropLast
  rw [List.dropLast_concat_getLast hne, ht] at htrim
  have hlength := congrArg List.length heq
  rw [← trimEnd, ← htrim, List.length_append, List.length_dropLast] at hlength
  have := List.length_pos_iff.2 hne
  omega

theorem trim_of_start {t : Text} (hstart : ∀ c ∈ t.head?, isBlank c = false) :
    trim t = trimEnd t := by
  have htrim : trimStart t = t := dropWhile_append_stop (w := []) (by simp) hstart
  rw [trim, htrim]

end Text

namespace Doi

open Text (isBlank trim trimEnd trimStart lower)

/-! ## Well-formed DOIs -/

/-- What a bare DOI is: it begins with `10.`, and behind some slash stands something but white
space. -/
theorem isWellFormed_iff {t : Text} :
    isWellFormed t ↔
      "10.".toList <+: t ∧ ∃ u v, t = u ++ '/' :: v ∧ ∃ c ∈ v, isBlank c = false := by
  rw [isWellFormed, Bool.and_eq_true, Text.startsWith, List.isPrefixOf_iff_prefix]
  refine and_congr_right fun _ => ?_
  obtain ⟨w, rest, rfl, hw, hrest⟩ := Text.exists_stop (· != '/') t
  have hslash : '/' ∉ w := fun h => absurd (hw '/' h) (by decide)
  have hmark : ∀ c ∈ w, (c == '/') = false := fun c hc => by simpa using hw c hc
  cases rest with
  | nil =>
      rw [List.append_nil, Text.cutAt?_eq_none hmark]
      refine iff_of_false nofun ?_
      rintro ⟨u, v, rfl, -⟩
      exact hslash (by simp)
  | cons c cs =>
      obtain rfl : c = '/' := by simpa using hrest c rfl
      rw [Text.cutAt?_append_stop hmark (by rfl)]
      have hinside : (!(trim cs).isEmpty) = true ↔ ∃ c ∈ cs, isBlank c = false := by
        rw [Bool.not_eq_true', ← Bool.not_eq_true, List.isEmpty_iff, Text.trim_eq_nil_iff]
        simp
      refine hinside.trans ⟨fun h => ⟨w, cs, rfl, h⟩, ?_⟩
      -- Another slash with something behind it stands behind the first one.
      rintro ⟨u, v, heq, c, hc, hblank⟩
      refine ⟨c, ?_, hblank⟩
      rcases List.append_eq_append_iff.1 heq with ⟨x, rfl, hx⟩ | ⟨x, rfl, hx⟩
      · cases x with
        | nil =>
            obtain rfl : cs = v := by simpa using hx
            exact hc
        | cons d ds =>
            obtain ⟨-, rfl⟩ := List.cons.inj hx
            simp [hc]
      · cases x with
        | nil =>
            obtain rfl : v = cs := by simpa using hx
            exact hc
        | cons d ds =>
            obtain ⟨rfl, -⟩ := List.cons.inj hx
            exact absurd (by simp) hslash

theorem ten_prefix_lowerAscii {p : Text} (hp : ∀ c ∈ p, c.isAlpha = false) (t : Text) :
    p <+: t.lowerAscii ↔ p <+: t := by
  induction p generalizing t with
  | nil => simp
  | cons a as ih =>
      obtain ⟨ha, has⟩ := List.forall_mem_cons.1 hp
      cases t with
      | nil => simp [Text.lowerAscii]
      | cons b bs =>
          have hb : a = b.toLower ↔ a = b := by
            rw [eq_comm, Text.toLower_eq_iff ha, eq_comm]
          rw [Text.lowerAscii, List.map_cons, List.cons_prefix_cons, List.cons_prefix_cons, hb]
          exact and_congr_right fun _ => ih has bs

/-- The case of ASCII letters does not matter to what a DOI is. -/
theorem isWellFormed_lowerAscii (t : Text) : isWellFormed t.lowerAscii = isWellFormed t := by
  have hten : ∀ c ∈ "10.".toList, c.isAlpha = false := by
    intro c hc
    replace hc : c ∈ ['1', '0', '.'] := hc
    simp only [List.mem_cons, List.not_mem_nil, or_false] at hc
    rcases hc with rfl | rfl | rfl <;> rfl
  rw [Bool.eq_iff_iff, isWellFormed_iff, isWellFormed_iff, ten_prefix_lowerAscii hten t]
  refine and_congr_right fun _ => ⟨?_, ?_⟩
  · rintro ⟨u, v, heq, c, hc, hblank⟩
    obtain ⟨u', rest, rfl, -, hrest⟩ := List.map_eq_append_iff.1 heq
    obtain ⟨d, v', rfl, hd, rfl⟩ := List.map_eq_cons_iff.1 hrest
    obtain rfl := (Text.toLower_eq_iff (by decide)).1 hd
    obtain ⟨c', hc', rfl⟩ := List.mem_map.1 hc
    exact ⟨u', v', rfl, c', hc', by rwa [Text.isBlank_toLower] at hblank⟩
  · rintro ⟨u, v, rfl, c, hc, hblank⟩
    refine ⟨u.map Char.toLower, v.map Char.toLower, by simp [Text.lowerAscii], c.toLower, ?_, ?_⟩
    · exact List.mem_map_of_mem hc
    · rwa [Text.isBlank_toLower]

theorem isWellFormed_congr {s t : Text} (h : s.lowerAscii = t.lowerAscii) :
    isWellFormed s = isWellFormed t := by
  rw [← isWellFormed_lowerAscii, h, isWellFormed_lowerAscii]

/-- The lower case of a well-formed DOI is one. -/
theorem isWellFormed_lower {t : Text} (h : isWellFormed t) : isWellFormed (lower t) := by
  obtain ⟨⟨r, hten⟩, u, v, hslash, c, hc, hblank⟩ := isWellFormed_iff.1 h
  refine isWellFormed_iff.2 ⟨?_, ?_⟩
  · rw [← hten]
    exact ⟨Text.lowerAfter ['.', '0', '1'] r, rfl⟩
  · obtain ⟨front, hfront⟩ := Text.exists_lowerAfter_append [] u ('/' :: v)
    refine ⟨front, Text.lowerAfter ('/' :: (u.reverse ++ [])) v, ?_,
      Text.exists_ink_lowerAfter ⟨c, hc, hblank⟩⟩
    rw [hslash, lower, hfront]
    rfl

theorem trimEnd_lower {t : Text} (ht : trimEnd t = t) (hne : t ≠ []) :
    trimEnd (lower t) = lower t := by
  obtain ⟨u, c, rfl, hc⟩ := Text.exists_concat_of_trimEnd ht hne
  obtain ⟨u', d, heq, hd⟩ := Text.exists_concat_lowerAfter hc [] u
  rw [lower, heq, Text.trimEnd_concat hd]

/-! ## What stands in front of a DOI -/

theorem bare_of_ten {t : Text} (h : "10.".toList <+: t) : bare t = t := by
  obtain ⟨r, rfl⟩ := h
  rfl

/-- What may stand in front of a DOI is dropped, and white space behind it. -/
theorem bare_lead {lead : Text} (h : lead ∈ leads) (rest : Text) :
    bare (lead ++ rest) = trimStart rest := by
  simp only [leads, List.mem_cons, List.not_mem_nil, or_false] at h
  rcases h with rfl | rfl | rfl | rfl | rfl | rfl <;> rfl

theorem exists_head_of_mem_leads {lead : Text} (h : lead ∈ leads) :
    ∃ c cs, lead = c :: cs ∧ isBlank c = false := by
  simp only [leads, List.mem_cons, List.not_mem_nil, or_false] at h
  rcases h with rfl | rfl | rfl | rfl | rfl | rfl <;> exact ⟨_, _, rfl, by decide⟩

/-- A bare DOI is read behind something and with white space around it. -/
theorem parse_spelled {w lead gap x w' : Text} (hw : ∀ c ∈ w, isBlank c) (hlead : lead ∈ [] :: leads)
    (hgap : ∀ c ∈ gap, isBlank c) (hx : isWellFormed x) (hend : trimEnd x = x)
    (hw' : ∀ c ∈ w', isBlank c) :
    ∃ d, parse (w ++ (lead ++ (gap ++ (x ++ w')))) = .ok d ∧ d.normalized = lower x := by
  have hten := (isWellFormed_iff.1 hx).1
  have hne : x ≠ [] := by
    rintro rfl
    exact absurd hten (by decide)
  have hstart : ∀ c ∈ x.head?, isBlank c = false := by
    obtain ⟨r, rfl⟩ := hten
    rintro c hc
    obtain rfl : '1' = c := Option.some.inj hc
    decide
  -- What is left of the text when it is trimmed, and of that when nothing stands in front.
  obtain ⟨typed, htyped, hbare⟩ :
      ∃ typed, trim (lead ++ (gap ++ x)) = typed ∧ bare typed = x := by
    rcases List.mem_cons.1 hlead with rfl | hlead
    · have hnone : ∀ c ∈ ([] : Text), isBlank c := by simp
      have htrim := Text.trim_append_gaps hgap hnone x
      rw [List.append_nil, Text.trim_of_start hstart, hend] at htrim
      exact ⟨x, htrim, bare_of_ten hten⟩
    · obtain ⟨u, c, rfl, hc⟩ := Text.exists_concat_of_trimEnd hend hne
      obtain ⟨d, ds, rfl, hd⟩ := exists_head_of_mem_leads hlead
      refine ⟨d :: ds ++ (gap ++ (u ++ [c])), ?_, ?_⟩
      · have hwhole := Text.trimEnd_concat hc (d :: ds ++ (gap ++ u))
        have htrim : trim (d :: ds ++ (gap ++ (u ++ [c]))) = _ := Text.trim_of_start (by simpa using hd)
        rw [htrim]
        simpa using hwhole
      · rw [bare_lead hlead]
        exact Text.dropWhile_append_stop hgap hstart
  have htrim : trim (w ++ (lead ++ (gap ++ (x ++ w')))) = typed := by
    have hwrap := Text.trim_append_gaps hw hw' (lead ++ (gap ++ x))
    simpa [htyped] using hwrap
  have hnonempty : typed.isEmpty = false := by
    rw [List.isEmpty_eq_false_iff]
    rintro rfl
    exact hne hbare.symm
  refine ⟨⟨typed, lower x⟩, ?_, rfl⟩
  simp only [parse, htrim, hnonempty, hbare, hx]
  rfl

/-! ## All spellings -/

/-- A spelling of a bare DOI: one of the known texts or nothing in front of it, white space around
and between, and its ASCII letters in any case. -/
def Respells (t s : Text) : Prop :=
  ∃ w lead gap s' w', t = w ++ (lead ++ (gap ++ (s' ++ w'))) ∧ (∀ c ∈ w, isBlank c) ∧
    lead ∈ [] :: leads ∧ (∀ c ∈ gap, isBlank c) ∧ s'.lowerAscii = s.lowerAscii ∧
    ∀ c ∈ w', isBlank c

theorem trimEnd_lowerAscii (t : Text) : trimEnd t.lowerAscii = (trimEnd t).lowerAscii := by
  induction t with
  | nil => rfl
  | cons c cs ih =>
      have hcs : trimEnd (cs.map Char.toLower) = (trimEnd cs).map Char.toLower := ih
      rw [Text.lowerAscii, List.map_cons, Text.trimEnd_cons, Text.trimEnd_cons, hcs,
        Text.isBlank_toLower]
      simp only [List.map_eq_nil_iff]
      split <;> rfl

/-- What is read of a bare DOI. -/
theorem normalized_of_parse_ten {s : Text} {d : Doi} (h : parse s = .ok d)
    (hten : Text.startsWith s "10.".toList) :
    isWellFormed (trimEnd s) ∧ d.normalized = lower (trimEnd s) := by
  obtain ⟨r, rfl⟩ := List.isPrefixOf_iff_prefix.1 hten
  have hkeep : trimEnd ("10.".toList ++ r) = "10.".toList ++ trimEnd r :=
    Text.dropEndWhile_append_cons (c := '.') (by decide) ['1', '0'] r
  have htrim : trim ("10.".toList ++ r) = trimEnd ("10.".toList ++ r) := by
    refine Text.trim_of_start ?_
    rintro c hc
    obtain rfl : '1' = c := Option.some.inj hc
    decide
  have hbare : bare ("10.".toList ++ trimEnd r) = "10.".toList ++ trimEnd r :=
    bare_of_ten (List.prefix_append _ _)
  simp only [parse, htrim, hkeep, hbare] at h ⊢
  split at h
  · cases h
  · split at h
    · rename_i hformed
      cases h
      exact ⟨hformed, rfl⟩
    · cases h

/-- All spellings of a DOI are read as the same DOI, and so is its normal form. A text mentions it or
does not, whichever the spelling and whatever the case of the ASCII letters of the text. -/
theorem parse_respelled {s t : Text} {d : Doi} (hs : parse s = .ok d)
    (hten : Text.startsWith s "10.".toList) (ht : Respells t s ∨ t = d.normalized) :
    ∃ d', parse t = .ok d' ∧ d'.normalized = d.normalized ∧
      ∀ contents contents' : Text, contents'.lowerAscii = contents.lowerAscii →
        d'.occursIn contents' = d.occursIn contents := by
  obtain ⟨hformed, hnormal⟩ := normalized_of_parse_ten hs hten
  obtain ⟨d', hparse, hsame⟩ : ∃ d', parse t = .ok d' ∧ d'.normalized = d.normalized := by
    -- Either spelling is one with white space and a lead around a bare DOI, which may be empty.
    rcases ht with ⟨w, lead, gap, s', w', rfl, hw, hlead, hgap, hcase, hw'⟩ | rfl
    · obtain ⟨v, hv, hsplit⟩ := Text.exists_dropEndWhile isBlank s'
      have hends : (trimEnd s').lowerAscii = (trimEnd s).lowerAscii := by
        rw [← trimEnd_lowerAscii, hcase, trimEnd_lowerAscii]
      rw [← isWellFormed_congr hends] at hformed
      obtain ⟨d', hparse, hlower⟩ := parse_spelled hw hlead hgap hformed (Text.trimEnd_trimEnd s')
        (List.forall_mem_append.2 ⟨hv, hw'⟩)
      refine ⟨d', ?_, ?_⟩
      · rw [← hparse, ← List.append_assoc (trimEnd s'), trimEnd, ← hsplit]
      · rw [hlower, hnormal, Text.lower_congr hends]
    · have hne : trimEnd s ≠ [] := by
        rintro hnil
        rw [hnil] at hformed
        exact absurd hformed (by decide)
      have hnone : ∀ c ∈ ([] : Text), isBlank c := by simp
      have hlead : [] ∈ [] :: leads := List.mem_cons_self
      obtain ⟨d', hparse, hlower⟩ := parse_spelled hnone hlead hnone (isWellFormed_lower hformed)
        (trimEnd_lower (Text.trimEnd_trimEnd s) hne) hnone
      refine ⟨d', ?_, ?_⟩
      · rw [hnormal, ← hparse, List.append_nil]
        rfl
      · rw [hlower, hnormal, Text.lower_lower]
  refine ⟨d', hparse, hsame, ?_⟩
  intro contents contents' hcontents
  rw [occursIn, occursIn, hsame, Text.lower_congr hcontents]

/-- A DOI typed behind a text and in other letters. -/
theorem parse_respelled_capital :
    parse "10.1000/Ab ".toList = .ok ⟨"10.1000/Ab".toList, "10.1000/ab".toList⟩ ∧
      Text.startsWith "10.1000/Ab ".toList "10.".toList ∧
      Respells "\tDOI: 10.1000/aB ".toList "10.1000/Ab ".toList ∧
      ∃ d', parse "\tDOI: 10.1000/aB ".toList = .ok d' ∧ d'.normalized = "10.1000/ab".toList ∧
        ∀ contents contents' : Text, contents'.lowerAscii = contents.lowerAscii →
          d'.occursIn contents' =
            (⟨"10.1000/Ab".toList, "10.1000/ab".toList⟩ : Doi).occursIn contents := by
  have hs : parse "10.1000/Ab ".toList = .ok ⟨"10.1000/Ab".toList, "10.1000/ab".toList⟩ := rfl
  have hten : Text.startsWith "10.1000/Ab ".toList "10.".toList := by decide
  have ht : Respells "\tDOI: 10.1000/aB ".toList "10.1000/Ab ".toList :=
    ⟨['\t'], "DOI:".toList, [' '], "10.1000/aB ".toList, [], rfl,
      List.forall_mem_singleton.2 (by decide), by decide, List.forall_mem_singleton.2 (by decide),
      by decide, nofun⟩
  exact ⟨hs, hten, ht, parse_respelled hs hten (.inl ht)⟩

end Doi

end CiteIndex
