import CiteIndex.Bibliography.Reference
import CiteIndex.Proofs.Bibliography.LineEnds
import CiteIndex.Proofs.Label.Declarations

/-!
# Line ends in a document

How the lines of a document end matters neither to its labels nor to the bibliography files that it
names. A label holds no line end and its line is counted in line feeds; between the parts of a
`bibliography` call any white space may stand; and a file name in quotes ends before a line feed,
so a carriage return that was put there belongs to a name that is none.

- `Label.extract_withReturns`: the labels of a document
- `Bibliography.Reference.extract_withReturns`: the files that it names
- `index_withReturns`: nothing that is read of a text depends on how its lines end
-/

namespace CiteIndex

open Text (withReturns)

/-! ## Labels -/

namespace Label

theorem nameAt?_withReturns (t : Text) : nameAt? (withReturns t) = nameAt? t := by
  have hchar : isNameChar '\r' = isNameChar '\n' := rfl
  have hword : withReturns (t.takeWhile isNameChar) = t.takeWhile isNameChar :=
    Text.withReturns_of_class rfl (List.all_eq_true.1 List.all_takeWhile)
  rw [nameAt?, nameAt?, Text.takeWhile_withReturns hchar, Text.dropWhile_withReturns hchar, hword]
  generalize t.takeWhile isNameChar = word
  generalize t.dropWhile isNameChar = rest
  -- What follows the name begins with the same character, or with a line end.
  rcases word with _ | ⟨c, cs⟩
  · rfl
  · rcases rest with _ | ⟨d, ds⟩
    · rfl
    · by_cases hfeed : d = '\n'
      · subst hfeed
        simp
      · rw [Text.withReturns_cons hfeed]
        by_cases hclose : d = '>'
        · subst hclose
          rfl
        · simp [hclose]

theorem extractFrom_withReturns (line : Nat) (t : Text) :
    extractFrom line (withReturns t) = extractFrom line t := by
  induction t generalizing line with
  | nil => rfl
  | cons c cs ih =>
      by_cases hfeed : c = '\n'
      · -- The carriage return is passed over, and the line feed is counted.
        subst hfeed
        have hreturn := extractFrom_append_of_not_open (w := ['\r']) (by simp) line
          ('\n' :: withReturns cs)
        exact hreturn.trans (ih (line + 1))
      · rw [Text.withReturns_cons hfeed, extractFrom_cons, extractFrom_cons, ih, first?, first?,
          nameAt?_withReturns]

theorem extract_withReturns (t : Text) : extract (withReturns t) = extract t :=
  extractFrom_withReturns 0 t

end Label

/-! ## References -/

namespace Bibliography.Reference

/-- The call at the start of a text. -/
theorem directiveAt?_withReturns (t : Text) :
    directiveAt? (withReturns t) =
      (directiveAt? t).map fun call => (withReturns call.1, withReturns call.2) := by
  have hword : ∀ c ∈ "bibliography".toList, Text.isBlank c = false := by
    have hall : ("bibliography".toList.all fun c => Text.isBlank c == false) = true := rfl
    exact fun c hc => beq_iff_eq.1 (List.all_eq_true.1 hall c hc)
  have hclose : ∀ c, Text.isBlank c → (c == ')') = false := by
    intro c hc
    rw [beq_eq_false_iff_ne]
    exact Text.ne_of_isBlank hc rfl
  rw [directiveAt?, directiveAt?, Text.dropStart?_withReturns hword]
  rcases Text.dropStart? "bibliography".toList t with _ | rest
  · rfl
  · rw [Option.map_some]
    simp only [Text.trimStart_withReturns]
    generalize Text.trimStart rest = more
    rcases more with _ | ⟨c, cs⟩
    · rfl
    · by_cases hfeed : c = '\n'
      · subst hfeed
        rfl
      · rw [Text.withReturns_cons hfeed]
        by_cases hopen : c = '('
        · subst hopen
          exact Text.cutAt?_withReturns hclose cs
        · simp [hopen]

theorem directivesFrom_inWord (c : Char) (cs : Text) :
    directivesFrom true (c :: cs) = directivesFrom (Text.isWordChar c) cs := by
  rw [directivesFrom, if_pos rfl]

/-- Outside of words, a call is read where it begins. -/
theorem directivesFrom_call {t inside rest : Text} (h : directiveAt? t = some (inside, rest)) :
    directivesFrom false t = inside :: directivesFrom false rest := by
  rcases t with _ | ⟨c, cs⟩
  · cases h
  · rw [directivesFrom, if_neg Bool.false_ne_true]
    split
    · rename_i heq
      cases h.symm.trans heq
      rfl
    · rename_i heq
      cases h.symm.trans heq

/-- Where no call begins, reading goes on with the next character. -/
theorem directivesFrom_skip {c : Char} {cs : Text} (h : directiveAt? (c :: cs) = none)
    (inWord : Bool) : directivesFrom inWord (c :: cs) = directivesFrom (Text.isWordChar c) cs := by
  cases inWord with
  | true => exact directivesFrom_inWord c cs
  | false =>
      rw [directivesFrom, if_neg Bool.false_ne_true]
      split
      · rename_i heq
        cases h.symm.trans heq
      · rfl

/-- No call begins at a line end, and no word goes on behind one. -/
theorem directivesFrom_lineEnd (inWord : Bool) (t : Text) :
    directivesFrom inWord ('\r' :: '\n' :: t) = directivesFrom false t ∧
      directivesFrom inWord ('\n' :: t) = directivesFrom false t := by
  have hfeed : ∀ inWord, directivesFrom inWord ('\n' :: t) = directivesFrom false t :=
    fun inWord => directivesFrom_skip rfl inWord
  exact ⟨(directivesFrom_skip rfl inWord).trans (hfeed _), hfeed inWord⟩

/-- The calls of a text are the same, with carriage returns in their arguments. -/
theorem directivesFrom_withReturns (inWord : Bool) (t : Text) :
    directivesFrom inWord (withReturns t) = (directivesFrom inWord t).map withReturns := by
  induction hlen : t.length using Nat.strongRecOn generalizing t inWord with
  | ind n ih =>
      subst hlen
      rcases t with _ | ⟨c, cs⟩
      · simp [directivesFrom]
      · have hcs : cs.length < (c :: cs).length := Nat.lt_succ_self _
        by_cases hfeed : c = '\n'
        · subst hfeed
          rw [Text.withReturns_feed, (directivesFrom_lineEnd inWord _).1,
            (directivesFrom_lineEnd inWord cs).2]
          exact ih _ hcs false cs rfl
        · have hcall := directiveAt?_withReturns (c :: cs)
          rw [Text.withReturns_cons hfeed] at hcall ⊢
          cases inWord with
          | true =>
              rw [directivesFrom_inWord, directivesFrom_inWord]
              exact ih _ hcs _ cs rfl
          | false =>
              rcases hdirective : directiveAt? (c :: cs) with _ | ⟨inside, rest⟩
              · rw [hdirective, Option.map_none] at hcall
                rw [directivesFrom_skip hcall, directivesFrom_skip hdirective]
                exact ih _ hcs _ cs rfl
              · rw [hdirective, Option.map_some] at hcall
                have hshort := length_lt_of_directiveAt? hdirective
                rw [directivesFrom_call hcall, directivesFrom_call hdirective, List.map_cons,
                  ih _ hshort false rest rfl]

/-- A name ends at a quote or at a line feed, and only in the first case it is one. -/
theorem nameAt?_withReturns (t : Text) :
    nameAt? (withReturns t) = (nameAt? t).map fun found => (found.1, withReturns found.2) := by
  rcases Text.exists_stop isNameChar t with ⟨w, rest, rfl, hw, hrest⟩
  have hsame : withReturns w = w := Text.withReturns_of_class rfl hw
  rw [Text.withReturns_append, hsame]
  rcases rest with _ | ⟨c, cs⟩
  · rw [Text.withReturns_nil, List.append_nil, nameAt?, Text.dropWhile_eq_nil hw]
    rfl
  · by_cases hfeed : c = '\n'
    · -- The carriage return could belong to the name, which the line feed ends all the same.
      subst hfeed
      have hlonger : ∀ d ∈ w ++ ['\r'], isNameChar d :=
        List.forall_mem_append.2 ⟨hw, List.forall_mem_singleton.2 rfl⟩
      have hstop : ∀ d ∈ ('\n' :: withReturns cs).head?, isNameChar d = false := by
        intro d hd
        obtain rfl : '\n' = d := by simpa using hd
        rfl
      have hassoc : w ++ withReturns ('\n' :: cs) = (w ++ ['\r']) ++ '\n' :: withReturns cs := by
        simp
      rw [hassoc, nameAt?, Text.dropWhile_append_stop hlonger hstop, nameAt?,
        Text.dropWhile_append_stop hw hrest]
      rfl
    · have hrest' : ∀ d ∈ (c :: withReturns cs).head?, isNameChar d = false := hrest
      rw [Text.withReturns_cons hfeed, nameAt?, nameAt?, Text.dropWhile_append_stop hw hrest,
        Text.dropWhile_append_stop hw hrest', Text.takeWhile_append_stop hw hrest,
        Text.takeWhile_append_stop hw hrest']
      by_cases hquote : c = '"'
      · subst hquote
        by_cases hend : Text.endsWith w ending
        · simp [hend]
        · simp [hend]
      · simp [hquote]

/-- A quote that no file name follows is passed over alone. -/
theorem quoted_skip {c : Char} {cs : Text} (h : c = '"' → nameAt? cs = none) :
    quoted (c :: cs) = quoted cs := by
  rw [quoted]
  split
  · rename_i hquote
    split
    · rename_i heq
      rw [h hquote] at heq
      cases heq
    · rfl
  · rfl

/-- A file name is read up to the quote that closes it. -/
theorem quoted_name {cs name rest : Text} (h : nameAt? cs = some (name, rest)) :
    quoted ('"' :: cs) = name :: quoted rest := by
  rw [quoted, if_pos rfl]
  split
  · rename_i heq
    cases h.symm.trans heq
    rfl
  · rename_i heq
    cases h.symm.trans heq

/-- The file names in the arguments of a call. -/
theorem quoted_withReturns (t : Text) : quoted (withReturns t) = quoted t := by
  induction hlen : t.length using Nat.strongRecOn generalizing t with
  | ind n ih =>
      subst hlen
      rcases t with _ | ⟨c, cs⟩
      · rfl
      · have hcs : cs.length < (c :: cs).length := Nat.lt_succ_self _
        have hrest := ih _ hcs cs rfl
        have hname := nameAt?_withReturns cs
        by_cases hfeed : c = '\n'
        · subst hfeed
          rw [Text.withReturns_feed, quoted_skip (by simp), quoted_skip (by simp), hrest,
            quoted_skip (by simp)]
        · rw [Text.withReturns_cons hfeed]
          by_cases hquote : c = '"'
          · subst hquote
            rcases hfound : nameAt? cs with _ | ⟨name, rest⟩
            · rw [hfound, Option.map_none] at hname
              rw [quoted_skip fun _ => hname, quoted_skip fun _ => hfound, hrest]
            · rw [hfound, Option.map_some] at hname
              have hlt := length_lt_of_nameAt? hfound
              rw [quoted_name hname, quoted_name hfound, ih _ (Nat.lt_succ_of_lt hlt) rest rfl]
          · rw [quoted_skip fun h => absurd h hquote, quoted_skip fun h => absurd h hquote, hrest]

theorem extract_withReturns (t : Text) : extract (withReturns t) = extract t := by
  rw [extract, directives, directivesFrom_withReturns, List.flatMap_map, extract, directives]
  exact congrArg (List.flatMap · _) (funext quoted_withReturns)

end Bibliography.Reference

/-! ## All that is read -/

open Bibliography

/-- Entries, labels and references of a text do not depend on how its lines end. -/
theorem index_withReturns (source : Path) (t : Text) :
    Entry.parse source (withReturns t) = Entry.parse source t ∧
      Label.extract (withReturns t) = Label.extract t ∧
      Reference.extract (withReturns t) = Reference.extract t := by
  refine ⟨?_, ?_, ?_⟩
  · exact Entry.parse_withReturns source t
  · exact Label.extract_withReturns t
  · exact Reference.extract_withReturns t

end CiteIndex
