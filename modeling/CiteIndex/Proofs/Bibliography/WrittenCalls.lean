import CiteIndex.Proofs.Document.LineEnds

/-!
# References as written

A document is written here from its parts: texts that do not hold the word of a call, and calls,
whose arguments are string literals and what stands between them. The files that the document names
are then the literals with the right ending. A literal with another ending leaves the reader at the
quote that closes it, from where it tries what stands between that literal and the next one, and
finds that it is no file name either.

- `Reference.WrittenCall`, `Reference.WrittenDocument`: calls and documents by their parts
- `Reference.quoted_inside`: the file names in the arguments of a call
- `Reference.directivesFrom_text`: a call in a text, and what is read behind it
- `Reference.extract_text`: the file names of a document
-/

namespace CiteIndex

/-! ## Starts and words -/

namespace Text

theorem dropStart?_append (start t : Text) : dropStart? start (start ++ t) = some t := by
  induction start with
  | nil => rfl
  | cons c cs ih => rw [List.cons_append, dropStart?, if_pos rfl, ih]

/-- No word goes on with white space. -/
theorem isWordChar_of_isBlank {c : Char} (hc : isBlank c) : isWordChar c = false := by
  have hall : blankCodes.all (fun n => !isWordChar (Char.ofNat n)) = true := by
    decide +kernel
  have hcode := List.all_eq_true.1 hall c.toNat (mem_blankCodes hc)
  rwa [Char.ofNat_toNat, Bool.not_eq_true'] at hcode

def endsInWord (t : Text) : Bool :=
  t.getLast?.any isWordChar

theorem endsInWord_append (t : Text) (c : Char) : endsInWord (t ++ [c]) = isWordChar c := by
  simp [endsInWord]

end Text

namespace Bibliography.Reference

/-! ## Calls by their parts -/

structure Literal where
  text : Text
  plain : ∀ c ∈ text, c ≠ '"' ∧ c ≠ '\n' ∧ c ≠ ')'

/-- What stands in the arguments of a call outside of string literals: parentheses that open, names
of arguments, commas, line ends. -/
structure Between where
  text : Text
  plain : ∀ c ∈ text, c ≠ '"' ∧ c ≠ ')'
  not_ending : Text.endsWith text ending = false

structure WrittenCall where
  opening : Between
  arguments : List (Literal × Between)

def argumentsText : List (Literal × Between) → Text
  | [] => []
  | (literal, between) :: rest =>
    '"' :: (literal.text ++ '"' :: (between.text ++ argumentsText rest))

namespace WrittenCall

def inside (call : WrittenCall) : Text :=
  call.opening.text ++ argumentsText call.arguments

def text (call : WrittenCall) : Text :=
  '#' :: ("bibliography".toList ++ '(' :: (call.inside ++ [')']))

def literals (call : WrittenCall) : List Text :=
  call.arguments.map fun argument => argument.1.text

end WrittenCall

/-! ## File names -/

theorem quoted_append_plain {w : Text} (hw : ∀ c ∈ w, c ≠ '"') (t : Text) :
    quoted (w ++ t) = quoted t := by
  induction w with
  | nil => rfl
  | cons c cs ih =>
      obtain ⟨hc, hcs⟩ := List.forall_mem_cons.1 hw
      rw [List.cons_append, quoted_skip fun hquote => absurd hquote hc, ih hcs]

/-- A literal is a file name exactly if it has the ending. -/
theorem nameAt?_literal (literal : Literal) (rest : Text) :
    nameAt? (literal.text ++ '"' :: rest) =
      if Text.endsWith literal.text ending then some (literal.text, rest) else none := by
  have hchars : ∀ c ∈ literal.text, isNameChar c := by
    intro c hc
    obtain ⟨hquote, hfeed, -⟩ := literal.plain c hc
    simp [isNameChar, hquote, hfeed]
  have hstop : ∀ c ∈ ('"' :: rest).head?, isNameChar c = false := by
    intro c hc
    obtain rfl : '"' = c := by simpa using hc
    rfl
  rw [nameAt?, Text.dropWhile_append_stop hchars hstop, Text.takeWhile_append_stop hchars hstop]
  rfl

/-- What stands between two literals is no file name, although a quote stands at both its ends. -/
theorem nameAt?_between (between : Between) {rest : Text} (hrest : ∀ c ∈ rest.head?, c = '"') :
    nameAt? (between.text ++ rest) = none := by
  obtain ⟨w, more, heq, hw, hmore⟩ := Text.exists_stop isNameChar between.text
  cases more with
  | nil =>
      -- A line of its own, which ends at the next quote or with the arguments.
      rw [List.append_nil] at heq
      have hstop : ∀ c ∈ rest.head?, isNameChar c = false := by
        intro c hc
        rw [hrest c hc]
        rfl
      rw [heq, nameAt?, Text.dropWhile_append_stop hw hstop, Text.takeWhile_append_stop hw hstop,
        ← heq, between.not_ending]
      split <;> rfl
  | cons c cs =>
      have hmem : c ∈ between.text := by simp [heq]
      have hquote : c ≠ '"' := (between.plain c hmem).1
      have hstop : ∀ d ∈ (c :: cs ++ rest).head?, isNameChar d = false := hmore
      rw [heq, List.append_assoc, nameAt?, Text.dropWhile_append_stop hw hstop]
      simp [hquote]

theorem head_argumentsText (arguments : List (Literal × Between)) :
    ∀ c ∈ (argumentsText arguments).head?, c = '"' := by
  intro c hc
  cases arguments with
  | nil => cases hc
  | cons argument rest => exact (Option.some.inj hc).symm

/-- The literals with the right ending are found one after the other, whichever other literals are
passed over. -/
theorem quoted_argumentsText (arguments : List (Literal × Between)) :
    quoted (argumentsText arguments) =
      (arguments.map fun argument => argument.1.text).filter (Text.endsWith · ending) := by
  induction arguments with
  | nil => simp [argumentsText, quoted]
  | cons argument rest ih =>
      obtain ⟨literal, between⟩ := argument
      have hname := nameAt?_literal literal (between.text ++ argumentsText rest)
      have hbetween : quoted (between.text ++ argumentsText rest) = quoted (argumentsText rest) :=
        quoted_append_plain (fun c hc => (between.plain c hc).1) _
      rw [argumentsText, List.map_cons, List.filter_cons]
      split at hname
      · rename_i hends
        rw [quoted_name hname, if_pos hends, hbetween, ih]
      · rename_i hends
        have hliteral : ∀ c ∈ literal.text, c ≠ '"' := fun c hc => (literal.plain c hc).1
        have hnone := nameAt?_between between (head_argumentsText rest)
        -- The closing quote is tried as an opening one, with what stands behind the literal.
        rw [quoted_skip fun _ => hname, quoted_append_plain hliteral, quoted_skip fun _ => hnone,
          if_neg hends, hbetween, ih]

/-- The file names in a call are its literals with the ending. -/
theorem quoted_inside (call : WrittenCall) :
    quoted call.inside = call.literals.filter (Text.endsWith · ending) := by
  have hopening : ∀ c ∈ call.opening.text, c ≠ '"' := fun c hc => (call.opening.plain c hc).1
  rw [WrittenCall.inside, quoted_append_plain hopening, quoted_argumentsText]
  rfl

/-! ## Calls in a text -/

/-- No argument closes the call. -/
theorem not_closed_argumentsText (arguments : List (Literal × Between)) :
    ∀ c ∈ argumentsText arguments, c ≠ ')' := by
  induction arguments with
  | nil => simp [argumentsText]
  | cons argument rest ih =>
      obtain ⟨literal, between⟩ := argument
      have hliteral : ∀ c ∈ literal.text, c ≠ ')' := fun c hc => (literal.plain c hc).2.2
      have hbetween : ∀ c ∈ between.text, c ≠ ')' := fun c hc => (between.plain c hc).2
      rw [argumentsText]
      refine List.forall_mem_cons.2 ⟨by decide, List.forall_mem_append.2 ⟨hliteral, ?_⟩⟩
      exact List.forall_mem_cons.2 ⟨by decide, List.forall_mem_append.2 ⟨hbetween, ih⟩⟩

theorem directiveAt?_sign (t : Text) : directiveAt? ('#' :: t) = none := rfl

/-- A call is read up to its closing parenthesis, wherever it stands. -/
theorem directivesFrom_text (inWord : Bool) (call : WrittenCall) (rest : Text) :
    directivesFrom inWord (call.text ++ rest) = call.inside :: directivesFrom false rest := by
  have hinside : ∀ c ∈ call.inside, (c == ')') = false := by
    intro c hc
    rw [beq_eq_false_iff_ne]
    rcases List.mem_append.1 hc with hc | hc
    · exact (call.opening.plain c hc).2
    · exact not_closed_argumentsText call.arguments c hc
  have hcall : directiveAt? ("bibliography".toList ++ '(' :: (call.inside ++ ')' :: rest)) =
      some (call.inside, rest) := by
    rw [directiveAt?, Text.dropStart?_append]
    exact Text.cutAt?_append_stop hinside rfl rest
  have htext : call.text ++ rest =
      '#' :: ("bibliography".toList ++ '(' :: (call.inside ++ ')' :: rest)) := by
    rw [WrittenCall.text, List.cons_append, List.append_assoc, List.cons_append, List.append_assoc,
      List.singleton_append]
  rw [htext, directivesFrom_skip (directiveAt?_sign _)]
  exact directivesFrom_call hcall

/-! ## Texts without calls -/

/-- Does the word of a call stand in a text, with no further word character beside it. -/
def HoldsWord (t : Text) : Prop :=
  ∃ before after, t = before ++ ("bibliography".toList ++ after) ∧
    (∀ c ∈ before.getLast?, Text.isWordChar c = false) ∧
    ∀ c ∈ after.head?, Text.isWordChar c = false

/-- Looks for the word at every place of a text. -/
def findsWord (t : Text) : Bool :=
  (List.range t.length).any fun n =>
    (Text.dropStart? "bibliography".toList (t.drop n)).any fun after =>
      !Text.endsInWord (t.take n) && !after.head?.any Text.isWordChar

theorem not_any_isWordChar {o : Option Char} :
    o.any Text.isWordChar = false ↔ ∀ c ∈ o, Text.isWordChar c = false := by
  cases o <;> simp

theorem findsWord_iff {t : Text} : findsWord t ↔ HoldsWord t := by
  simp only [findsWord, Text.endsInWord, List.any_eq_true, List.mem_range, Option.any_eq_true,
    Bool.and_eq_true, Bool.not_eq_true', not_any_isWordChar]
  constructor
  · rintro ⟨n, -, after, hword, hbefore, hafter⟩
    refine ⟨t.take n, after, ?_, hbefore, hafter⟩
    rw [← Text.eq_append_of_dropStart? hword, List.take_append_drop]
  · rintro ⟨before, after, rfl, hbefore, hafter⟩
    refine ⟨before.length, by simp, after, ?_, ?_, hafter⟩
    · rw [List.drop_left, Text.dropStart?_append]
    · rwa [List.take_left]

instance : DecidablePred HoldsWord := fun _ =>
  decidable_of_iff _ findsWord_iff

structure Gap where
  text : Text
  not_holdsWord : ¬HoldsWord text

/-- A call begins with the word and with what cannot go on with it. -/
theorem exists_word_of_directiveAt? {t inside rest : Text}
    (h : directiveAt? t = some (inside, rest)) :
    ∃ after, t = "bibliography".toList ++ after ∧
      ∀ c ∈ after.head?, Text.isWordChar c = false := by
  rw [directiveAt?] at h
  split at h
  · cases h
  · rename_i after hword
    refine ⟨after, Text.eq_append_of_dropStart? hword, ?_⟩
    cases after with
    | nil => cases h
    | cons c cs =>
        intro d hd
        obtain rfl : c = d := by simpa using hd
        by_cases hblank : Text.isBlank c
        · exact Text.isWordChar_of_isBlank hblank
        · rw [Text.trimStart, List.dropWhile_cons_of_neg (by simpa using hblank)] at h
          split at h
          · rename_i hopen
            obtain ⟨rfl, -⟩ := List.cons.inj hopen
            rfl
          · cases h

/-- No call begins in a gap, whatever follows it behind the sign of a call. -/
theorem directiveAt?_gap {before w t : Text} (gap : Gap) (heq : gap.text = before ++ w)
    (hbefore : Text.endsInWord before = false) (ht : ∀ c ∈ t.head?, c = '#') :
    directiveAt? (w ++ t) = none := by
  have hbefore' : ∀ c ∈ before.getLast?, Text.isWordChar c = false := by
    intro c hc
    rw [Text.endsInWord, Option.mem_def.1 hc] at hbefore
    exact hbefore
  cases hcall : directiveAt? (w ++ t) with
  | none => rfl
  | some call =>
      obtain ⟨after, hword, hafter⟩ := exists_word_of_directiveAt? hcall
      -- The word ends with the gap or in it, since the sign of a call is none of its letters.
      rcases List.append_eq_append_iff.1 hword with ⟨cut, hcut, htail⟩ | ⟨cut, hcut, htail⟩
      · cases cut with
        | nil =>
            refine absurd ⟨before, [], ?_, hbefore', by simp⟩ gap.not_holdsWord
            rw [heq, hcut, List.append_nil, List.append_nil]
        | cons d ds =>
            have hsign : d = '#' := ht d (by rw [htail]; rfl)
            have hmem : '#' ∈ "bibliography".toList := by
              rw [hcut, hsign]
              simp
            exact absurd hmem (by decide)
      · refine absurd ⟨before, cut, by rw [heq, hcut], hbefore', ?_⟩ gap.not_holdsWord
        intro c hc
        refine hafter c ?_
        rw [htail, List.head?_append, Option.mem_def.1 hc]
        rfl

/-- A gap is passed over. -/
theorem directivesFrom_gap (gap : Gap) {t : Text} (ht : ∀ c ∈ t.head?, c = '#') :
    directivesFrom false (gap.text ++ t) = directivesFrom (Text.endsInWord gap.text) t := by
  -- Behind any part of the gap, with the word that goes on there.
  have hgap : ∀ w before, gap.text = before ++ w →
      directivesFrom (Text.endsInWord before) (w ++ t) =
        directivesFrom (Text.endsInWord gap.text) t := by
    intro w
    induction w with
    | nil =>
        intro before heq
        rw [heq, List.append_nil, List.nil_append]
    | cons c cs ih =>
        intro before heq
        have hnext := ih (before ++ [c]) (by simpa using heq)
        rw [Text.endsInWord_append] at hnext
        rw [← hnext]
        cases hbefore : Text.endsInWord before with
        | true => exact directivesFrom_inWord c (cs ++ t)
        | false =>
            exact directivesFrom_skip (directiveAt?_gap gap heq hbefore ht) false
  exact hgap gap.text [] rfl

/-! ## Documents -/

/-- A document: calls with texts around them that do not hold the word of a call. -/
structure WrittenDocument where
  opening : Gap
  calls : List (WrittenCall × Gap)

def callsText : List (WrittenCall × Gap) → Text
  | [] => []
  | (call, gap) :: rest => call.text ++ (gap.text ++ callsText rest)

def WrittenDocument.text (document : WrittenDocument) : Text :=
  document.opening.text ++ callsText document.calls

theorem head_callsText (calls : List (WrittenCall × Gap)) :
    ∀ c ∈ (callsText calls).head?, c = '#' := by
  intro c hc
  cases calls with
  | nil => cases hc
  | cons call rest => exact (Option.some.inj hc).symm

/-- The calls of a document are read one after the other. -/
theorem directivesFrom_callsText (inWord : Bool) (calls : List (WrittenCall × Gap)) :
    directivesFrom inWord (callsText calls) = calls.map fun call => call.1.inside := by
  induction calls generalizing inWord with
  | nil => simp [callsText, directivesFrom]
  | cons call rest ih =>
      obtain ⟨call, gap⟩ := call
      rw [callsText, directivesFrom_text, directivesFrom_gap gap (head_callsText rest), ih]
      rfl

/-- The bibliography files that a document names are the literals with the ending of bibliography
files, call by call and literal by literal, as often as they stand there. -/
theorem extract_text (document : WrittenDocument) :
    extract document.text =
      document.calls.flatMap fun call => call.1.literals.filter (Text.endsWith · ending) := by
  have hgap := directivesFrom_gap document.opening (head_callsText document.calls)
  rw [extract, directives, WrittenDocument.text, hgap, directivesFrom_callsText, List.flatMap_map]
  exact congrArg (List.flatMap · _) (funext fun call => quoted_inside call.1)

example : ∃ document : WrittenDocument,
    document.text = ("See bibliographies.\n#bibliography(\"refs.bib\")\n" ++
      "#bibliography((\"a.bib\", \"x.yml\"))").toList ∧
    document.calls.map (fun call => call.1.literals) =
      [["refs.bib".toList], ["a.bib".toList, "x.yml".toList]] := by
  let empty : Between := ⟨[], by simp, rfl⟩
  let comma : Between := ⟨", ".toList, by simp, rfl⟩
  let first : WrittenCall := ⟨empty, [(⟨"refs.bib".toList, by simp⟩, empty)]⟩
  let second : WrittenCall := ⟨⟨['('], by simp, rfl⟩,
    [(⟨"a.bib".toList, by simp⟩, comma), (⟨"x.yml".toList, by simp⟩, empty)]⟩
  -- The longer word in front does not count, nor does the parenthesis that closes the array.
  exact ⟨⟨⟨"See bibliographies.\n".toList, by decide +kernel⟩,
    [(first, ⟨['\n'], by decide +kernel⟩), (second, ⟨[')'], by decide +kernel⟩)]⟩, rfl, rfl⟩

end Bibliography.Reference

end CiteIndex
