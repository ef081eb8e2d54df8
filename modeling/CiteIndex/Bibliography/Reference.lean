import CiteIndex.Text.Alphabet

/-!
# References to bibliography files

A document names its bibliography files as quoted arguments of `bibliography(...)` calls. The
arguments reach to the first closing parenthesis; what matters in them is only the quoted strings
that end in `.bib`.

- `Reference.directives`: the arguments of all calls
- `Reference.quoted`: the file names in the arguments of one call
- `Reference.extract`: all file names of a document, in order
-/

namespace CiteIndex

namespace Bibliography

namespace Reference

/-! ## Calls -/

/-- The arguments of the call that stands at the start of a text: the word, white space, and
everything between the parentheses; and the text after the call. -/
def directiveAt? (t : Text) : Option (Text × Text) :=
  match Text.dropStart? "bibliography".toList t with
  | none => none
  | some rest =>
    match Text.trimStart rest with
    | '(' :: inside => Text.cutAt? (· == ')') inside
    | _ => none

theorem length_lt_of_directiveAt? {t inside rest : Text}
    (h : directiveAt? t = some (inside, rest)) : rest.length < t.length := by
  unfold directiveAt? at h
  split at h
  · cases h
  · rename_i word hword
    rw [Text.eq_append_of_dropStart? hword, List.length_append]
    split at h
    · rename_i args hargs
      have hcut := Text.length_lt_of_cutAt? h
      have htrim : (Text.trimStart word).length ≤ word.length :=
        (List.dropWhile_sublist _).length_le
      rw [hargs, List.length_cons] at htrim
      omega
    · cases h

/-- The arguments of the calls in a text. `inWord` tells whether a word goes on before it. -/
def directivesFrom (inWord : Bool) : Text → List Text
  | [] => []
  | c :: cs =>
    -- No call begins inside of a word.
    if inWord then directivesFrom (Text.isWordChar c) cs
    else
      match _hcall : directiveAt? (c :: cs) with
      | some (inside, rest) => inside :: directivesFrom false rest
      | none => directivesFrom (Text.isWordChar c) cs
termination_by t => t.length
decreasing_by
  · simp
  · exact length_lt_of_directiveAt? _hcall
  · simp

/-- The arguments of all calls in a document. -/
def directives (document : Text) : List Text :=
  directivesFrom false document

/-! ## File names -/

def ending : Text := ".bib".toList

def isNameChar (c : Char) : Bool :=
  !(c == '"' || c == '\n')

/-- The file name that stands at the start of a text after a quote, and the text after the
closing quote. -/
def nameAt? (t : Text) : Option (Text × Text) :=
  match t.dropWhile isNameChar with
  | '"' :: rest =>
    if Text.endsWith (t.takeWhile isNameChar) ending then some (t.takeWhile isNameChar, rest)
    else none
  | _ => none

theorem length_lt_of_nameAt? {t name rest : Text} (h : nameAt? t = some (name, rest)) :
    rest.length < t.length := by
  have hdrop : (t.dropWhile isNameChar).length ≤ t.length := (List.dropWhile_sublist _).length_le
  unfold nameAt? at h
  split at h
  · rename_i heq
    rw [heq, List.length_cons] at hdrop
    split at h
    · cases h
      omega
    · cases h
  · cases h

/-- The file names among the quoted strings of the arguments of a call. -/
def quoted : Text → List Text
  | [] => []
  | c :: cs =>
    if c = '"' then
      match _hname : nameAt? cs with
      | some (name, rest) => name :: quoted rest
      -- The quote is passed over alone, so its partner may still open a name.
      | none => quoted cs
    else quoted cs
termination_by t => t.length
decreasing_by
  · have := length_lt_of_nameAt? _hname
    simp only [List.length_cons]
    omega
  · simp
  · simp

/-- The bibliography files that a document names, by call and then by argument. Nothing is
resolved and repeated names stay. -/
def extract (document : Text) : List Text :=
  (directives document).flatMap quoted

end Reference

end Bibliography

end CiteIndex
