import CiteIndex.Proofs.Bibliography.Entries
import CiteIndex.Proofs.Text.Words

/-!
# Authors of an entry

An entry has its authors twice, in one line with commas and as a list of names. Both come from one
cleaned text, in which every `and` that separates two names has one blank on either side. So no
two of them share a blank, and what stands between them is never empty.

- `Entry.IsClean`: a text without braces, with single blanks
- `Entry.join_splitAuthors`, `Entry.not_infix_of_mem_splitAuthors`: the pieces of an author list
- `Entry.authorNames_eq`, `Entry.authorLine_eq`: pieces of a cleaned text are names as they are
- `Entry.authors_agree`: the two forms
-/

namespace CiteIndex

namespace Bibliography

namespace Entry

/-! ## Cleaned texts -/

/-- A text without braces, with single blanks inside, which is all its white space. -/
structure IsClean (t : Text) : Prop extends Text.IsSpaced t where
  unbraced : ∀ c ∈ t, c ≠ '{' ∧ c ≠ '}'

/-- Cleaning takes all braces out and leaves single blanks. -/
theorem isClean_clean {value : Text} : clean value ≠ [] → IsClean (clean value) := by
  intro hne
  have hwords : Text.words (value.filter fun c => !(c == '{' || c == '}')) ≠ [] := by
    intro hnil
    rw [clean, hnil] at hne
    exact hne rfl
  constructor
  · apply Text.isSpaced_join_words hwords
    intro w hw
    obtain ⟨hword, hink⟩ := Text.mem_words hw
    exact .of_ink hword fun c hc => (hink c hc).1
  · intro c hc
    rcases Text.mem_join hc with hblank | ⟨w, hw, hc⟩
    · obtain rfl := List.mem_singleton.1 hblank
      decide
    · have hkept := (List.mem_filter.1 ((Text.mem_words hw).2 c hc).2).2
      simpa using hkept

/-- Every text that an entry shows was cleaned. -/
theorem isClean_of_text? {fields : List Field} {name t : Text} :
    text? fields name = some t → IsClean t := by
  intro h
  obtain ⟨hmap, hne⟩ := Option.filter_eq_some_iff.1 h
  obtain ⟨value, -, rfl⟩ := Option.map_eq_some_iff.1 hmap
  apply isClean_clean
  intro hnil
  rw [hnil] at hne
  cases hne

namespace IsClean

variable {s t : Text}

theorem append_blank (hs : IsClean s) (ht : IsClean t) : IsClean (s ++ ' ' :: t) where
  toIsSpaced := hs.toIsSpaced.append_blank ht.toIsSpaced
  unbraced c hc := by
    rcases List.mem_append.1 hc with hc | hc
    · exact hs.unbraced c hc
    · rcases List.mem_cons.1 hc with rfl | hc
      · decide
      · exact ht.unbraced c hc

theorem of_append_blank (h : IsClean (s ++ ' ' :: t)) : IsClean s ∧ IsClean t := by
  obtain ⟨hs, ht⟩ := h.toIsSpaced.of_append_blank
  refine ⟨⟨hs, ?_⟩, ⟨ht, ?_⟩⟩
  · intro c hc
    exact h.unbraced c (List.mem_append_left _ hc)
  · intro c hc
    exact h.unbraced c (List.mem_append_right s (List.mem_cons_of_mem ' ' hc))

theorem append_comma (hs : IsClean s) : IsClean (s ++ [',']) where
  toIsSpaced := hs.toIsSpaced.concat (by decide)
  unbraced c hc := by
    rcases List.mem_append.1 hc with hc | hc
    · exact hs.unbraced c hc
    · obtain rfl := List.mem_singleton.1 hc
      decide

/-- Clean texts with commas between them are one clean text. -/
theorem join_commas {pieces : List Text} (hne : pieces ≠ []) (h : ∀ p ∈ pieces, IsClean p) :
    IsClean (Text.join ", ".toList pieces) := by
  fun_induction Text.join ", ".toList pieces with
  | case1 => exact absurd rfl hne
  | case2 piece => exact h piece List.mem_cons_self
  | case3 piece rest hrest ih =>
      obtain ⟨hpiece, hmore⟩ := List.forall_mem_cons.1 h
      have hlater : IsClean (Text.join ", ".toList rest) := ih (fun h => hrest h) hmore
      have hboth : IsClean ((piece ++ [',']) ++ ' ' :: Text.join ", ".toList rest) :=
        hpiece.append_comma.append_blank hlater
      simpa using hboth

/-- What stands between the words `and` of a clean text is clean. -/
theorem of_join_ands {pieces : List Text} (h : IsClean (Text.join " and ".toList pieces)) :
    ∀ p ∈ pieces, IsClean p := by
  fun_induction Text.join " and ".toList pieces with
  | case1 => intro p hp; cases hp
  | case2 piece =>
      intro p hp
      obtain rfl := List.mem_singleton.1 hp
      exact h
  | case3 piece rest _ ih =>
      have hparts : piece ++ " and ".toList ++ Text.join " and ".toList rest =
          piece ++ ' ' :: ("and".toList ++ ' ' :: Text.join " and ".toList rest) := by simp
      rw [hparts] at h
      -- The word stands between two blanks of the text, which is cut at both.
      obtain ⟨hpiece, hlater⟩ := h.of_append_blank
      exact List.forall_mem_cons.2 ⟨hpiece, ih hlater.of_append_blank.2⟩

end IsClean

/-! ## Pieces of an author list -/

theorem splitAuthors_ne_nil (t : Text) : splitAuthors t ≠ [] := by
  fun_cases splitAuthors t with
  | case1 => simp
  | case2 rest => simp
  | case3 c rest _ => cases splitAuthors rest <;> simp [Text.consHead]

/-- Splitting an author list loses nothing but the words between the names. -/
theorem join_splitAuthors (t : Text) : Text.join " and ".toList (splitAuthors t) = t := by
  fun_induction splitAuthors t with
  | case1 => rfl
  | case2 rest ih =>
      obtain ⟨first, more, hsplit⟩ := List.exists_cons_of_ne_nil (splitAuthors_ne_nil rest)
      rw [hsplit] at ih ⊢
      rw [Text.join, ih]
      · rfl
      · simp
  | case3 c rest _ ih =>
      obtain ⟨first, more, hsplit⟩ := List.exists_cons_of_ne_nil (splitAuthors_ne_nil rest)
      rw [hsplit] at ih ⊢
      cases more with
      | nil => simpa [Text.consHead, Text.join] using ih
      | cons next later => simpa [Text.consHead, Text.join] using ih

/-- The first piece goes as far as the first separator. -/
theorem prefix_of_splitAuthors {t first : Text} {more : List Text} :
    splitAuthors t = first :: more → first <+: t := by
  intro hsplit
  rw [← join_splitAuthors t, hsplit]
  cases more with
  | nil => exact List.prefix_refl first
  | cons next later =>
      rw [Text.join, List.append_assoc]
      · exact List.prefix_append first _
      · simp

/-- No name still holds the word at which the list was split, however these words overlap. -/
theorem not_infix_of_mem_splitAuthors {t piece : Text} :
    piece ∈ splitAuthors t → ¬" and ".toList <:+: piece := by
  intro hpiece
  fun_induction splitAuthors t generalizing piece with
  | case1 =>
      obtain rfl := List.mem_singleton.1 hpiece
      decide
  | case2 rest ih =>
      rcases List.mem_cons.1 hpiece with rfl | hpiece
      · decide
      · exact ih hpiece
  | case3 c rest hstart ih =>
      obtain ⟨first, more, hsplit⟩ := List.exists_cons_of_ne_nil (splitAuthors_ne_nil rest)
      rw [hsplit] at hpiece ih
      rcases List.mem_cons.1 hpiece with rfl | hpiece
      · intro hinfix
        rcases List.infix_cons_iff.1 hinfix with hprefix | hinfix
        · -- A separator at the start of the piece would be one at the start of the text.
          have hrest : c :: first <+: c :: rest :=
            (List.prefix_cons_inj c).2 (prefix_of_splitAuthors hsplit)
          obtain ⟨tail, htail⟩ := hprefix.trans hrest
          obtain ⟨hc, hmore⟩ := List.cons.inj htail
          exact hstart tail hc.symm hmore.symm
        · exact ih List.mem_cons_self hinfix
      · exact ih (List.mem_cons_of_mem first hpiece)

/-! ## Names and lines -/

/-- The names in a clean list are clean themselves. -/
theorem isClean_of_mem_splitAuthors {t : Text} (h : IsClean t) :
    ∀ p ∈ splitAuthors t, IsClean p := by
  apply IsClean.of_join_ands
  rw [join_splitAuthors]
  exact h

/-- The pieces of a clean text are names as they are. -/
theorem authorNames_eq {t : Text} (h : IsClean t) : authorNames t = splitAuthors t := by
  have hpieces := isClean_of_mem_splitAuthors h
  have htrim : (splitAuthors t).map Text.trim = splitAuthors t :=
    (List.map_congr_left fun p hp => (hpieces p hp).trim_eq).trans (List.map_id _)
  rw [authorNames, htrim, List.filter_eq_self]
  intro p hp
  simpa using (hpieces p hp).ne_nil

/-- In a clean list, putting commas in place of the words is splitting there and joining with
commas. -/
theorem authorLine_eq {t : Text} (h : IsClean t) :
    authorLine t = Text.join ", ".toList (splitAuthors t) :=
  (IsClean.join_commas (splitAuthors_ne_nil t) (isClean_of_mem_splitAuthors h)).trim_eq

/-- What a block gives for its authors, if it has any. -/
theorem authors_ofBlock (source : Path) (b : Block) :
    (text? b.fields "author".toList = none ∧ (ofBlock source b).author = none ∧
        (ofBlock source b).authors = []) ∨
      ∃ t, text? b.fields "author".toList = some t ∧ IsClean t ∧
        (ofBlock source b).author = some (Text.join ", ".toList (splitAuthors t)) ∧
        (ofBlock source b).authors = splitAuthors t := by
  cases htext : text? b.fields "author".toList with
  | none =>
      refine .inl ⟨rfl, ?_, ?_⟩
      · simp only [ofBlock, htext, Option.map_none]
      · simp only [ofBlock, htext, Option.map_none, Option.getD_none]
  | some t =>
      have hclean := isClean_of_text? htext
      refine .inr ⟨t, rfl, hclean, ?_, ?_⟩
      · simp only [ofBlock, htext, Option.map_some, authorLine_eq hclean]
      · simp only [ofBlock, htext, Option.map_some, Option.getD_some, authorNames_eq hclean]

/-- The line of authors of an entry is absent just if it has no names, and holds the names with
commas between them. No name is empty, has white space at an end, or holds an `and` that would
separate names. With the word `and` between them the names give the author field back. -/
theorem authors_agree (source : Path) (contents : Text) :
    ∀ e ∈ parse source contents,
      (e.author = none ↔ e.authors = []) ∧
        (∀ line ∈ e.author, line = Text.join ", ".toList e.authors) ∧
        (∀ name ∈ e.authors, name ≠ [] ∧ Text.trim name = name ∧ ¬" and ".toList <:+: name) ∧
        ∃ b ∈ Block.scan contents, e = ofBlock source b ∧
          Text.join " and ".toList e.authors = (text? b.fields "author".toList).getD [] := by
  intro e he
  obtain ⟨b, hscan, -, -, rfl⟩ := exists_block_of_mem_parse he
  rcases authors_ofBlock source b with ⟨htext, hline, hnames⟩ | ⟨t, htext, hclean, hline, hnames⟩
  · -- Without authors there is nothing to agree on.
    refine ⟨?_, ?_, ?_, b, hscan, rfl, ?_⟩
    · rw [hline, hnames]
      simp
    · rw [hline]
      intro line hmem
      cases hmem
    · rw [hnames]
      intro name hmem
      cases hmem
    · rw [hnames, htext]
      rfl
  · -- All comes from the names into which the cleaned field is split.
    refine ⟨?_, ?_, ?_, b, hscan, rfl, ?_⟩
    · rw [hline, hnames]
      simp [splitAuthors_ne_nil]
    · rw [hline, hnames]
      intro line hmem
      exact (Option.some.inj hmem).symm
    · rw [hnames]
      intro name hmem
      have hname := isClean_of_mem_splitAuthors hclean name hmem
      exact ⟨hname.ne_nil, hname.trim_eq, not_infix_of_mem_splitAuthors hmem⟩
    · rw [hnames, htext, join_splitAuthors]
      rfl

/-- A file with an author field in which the word `and` is repeated, stands at both ends, behind a
line break and in braces. -/
def tangledAuthors : Text :=
  "@misc\x7bk, author = \x7band A. One \x7band\x7d\n  B\t and and  and C and\x7d\x7d".toList

def tangledEntry : Entry :=
  { key := "k".toList
    kind := "misc".toList
    title := none
    author := some "and A. One, B, and, C and".toList
    authors := ["and A. One".toList, "B".toList, "and".toList, "C and".toList]
    year := none
    journal := none
    booktitle := none
    source := Path.of "refs.bib" }

theorem authors_agree_tangled :
    tangledEntry ∈ parse (Path.of "refs.bib") tangledAuthors ∧
      (tangledEntry.author = none ↔ tangledEntry.authors = []) ∧
      (∀ line ∈ tangledEntry.author, line = Text.join ", ".toList tangledEntry.authors) ∧
      (∀ name ∈ tangledEntry.authors,
        name ≠ [] ∧ Text.trim name = name ∧ ¬" and ".toList <:+: name) ∧
      ∃ b ∈ Block.scan tangledAuthors, tangledEntry = ofBlock (Path.of "refs.bib") b ∧
        Text.join " and ".toList tangledEntry.authors =
          (text? b.fields "author".toList).getD [] := by
  have hmem : tangledEntry ∈ parse (Path.of "refs.bib") tangledAuthors := by decide +kernel
  exact ⟨hmem, authors_agree (Path.of "refs.bib") tangledAuthors tangledEntry hmem⟩

end Entry

end Bibliography

end CiteIndex
