import CiteIndex.Label.Occurrence
import CiteIndex.Proofs.Text.Lines

/-!
# Declarations of labels

Where a document declares a label is a matter of its text alone: an opening bracket, an identifier
and a closing bracket stand there. This module compares the scanner with that, and with a search
that goes through the document line by line and continues behind each declaration it has found.

- `Label.Declares`: a label is declared behind some part of a document
- `Label.exists_located`: the scanner finds each declaration once, in order
- `Label.extract_append_line`: a document in two parts with a line feed between them
- `Label.extractFrom_lines`: the search by lines
- `Label.extract_declarations`: what the labels of a document are
-/

namespace CiteIndex

def Text.byteLength : Text → Nat
  | [] => 0
  | c :: cs => c.utf8Size + byteLength cs

theorem Text.byteLength_append (s t : Text) :
    byteLength (s ++ t) = byteLength s + byteLength t := by
  induction s with
  | nil => rw [List.nil_append, byteLength, Nat.zero_add]
  | cons c cs ih => rw [List.cons_append, byteLength, byteLength, ih, Nat.add_assoc]

/-- A text that begins with another and one character more is longer. -/
theorem Text.byteLength_lt_of_longer {s t : Text} {c : Char} (h : s ++ [c] <+: t) :
    s.byteLength < t.byteLength := by
  rcases h with ⟨more, rfl⟩
  have hpos : 0 < c.utf8Size := Char.utf8Size_pos c
  rw [byteLength_append, byteLength_append, byteLength]
  omega

namespace Label

/-! ## What a declaration is -/

def IsLetter (c : Char) : Prop :=
  'A' ≤ c ∧ c ≤ 'Z' ∨ 'a' ≤ c ∧ c ≤ 'z'

inductive IsIdentifier : Text → Prop where
  | mk {c : Char} {cs : Text} (start : IsLetter c ∨ c = '_')
      (more : ∀ d ∈ cs, IsLetter d ∨ '0' ≤ d ∧ d ≤ '9' ∨ d = '_' ∨ d = ':' ∨ d = '-') :
      IsIdentifier (c :: cs)

/-- The first descriptor with which a name begins gives its kind. -/
inductive HasKind (name : Text) : LabelKind → Prop where
  | known {earlier later : List LabelKind.Descriptor} {d : LabelKind.Descriptor}
      (place : LabelKind.catalog = earlier ++ d :: later) (fits : d.start <+: name)
      (first : ∀ e ∈ earlier, ¬e.start <+: name) : HasKind name d.kind
  | unknown (unlisted : ∀ d ∈ LabelKind.catalog, ¬d.start <+: name) : HasKind name .unknown

/-- Behind the part `start` of a document the label `l` is declared. -/
structure Declares (document start : Text) (l : Label) : Prop where
  brackets : ∃ rest, document = start ++ '<' :: (l.name ++ '>' :: rest)
  name : IsIdentifier l.name
  line : l.line = start.count '\n'
  kind : HasKind l.name l.kind

theorem isLetter_iff {c : Char} : IsLetter c ↔ c.isAlpha = true := by
  have hupper : c.isUpper = true ↔ 'A' ≤ c ∧ c ≤ 'Z' := decide_eq_true_iff
  have hlower : c.isLower = true ↔ 'a' ≤ c ∧ c ≤ 'z' := by
    have hboth : c.isLower = (decide ('a' ≤ c) && decide (c ≤ 'z')) := rfl
    rw [hboth, Bool.and_eq_true, decide_eq_true_iff, decide_eq_true_iff]
  have hletter : c.isAlpha = true ↔ c.isUpper = true ∨ c.isLower = true := Bool.or_eq_true_iff
  rw [IsLetter, hletter, hupper, hlower]

theorem isNameStart_iff {c : Char} : isNameStart c = true ↔ IsLetter c ∨ c = '_' := by
  rw [isNameStart, Bool.or_eq_true, beq_iff_eq, isLetter_iff]

theorem isNameChar_iff {c : Char} :
    isNameChar c = true ↔ IsLetter c ∨ '0' ≤ c ∧ c ≤ '9' ∨ c = '_' ∨ c = ':' ∨ c = '-' := by
  have hdigit : c.isDigit = true ↔ '0' ≤ c ∧ c ≤ '9' := by
    simp only [Char.isDigit, Char.le_def, Bool.and_eq_true, decide_eq_true_eq]
  simp only [isNameChar, Char.isAlphanum, Bool.or_eq_true, beq_iff_eq, isLetter_iff, hdigit,
    or_assoc]

theorem isNameChar_of_isNameStart {c : Char} (h : isNameStart c = true) : isNameChar c = true := by
  rcases isNameStart_iff.1 h with h | h
  · exact isNameChar_iff.2 (.inl h)
  · exact isNameChar_iff.2 (.inr (.inr (.inl h)))

theorem isIdentifier_cons_iff {c : Char} {cs : Text} :
    IsIdentifier (c :: cs) ↔ isNameStart c = true ∧ ∀ d ∈ cs, isNameChar d = true := by
  constructor
  · rintro ⟨hstart, hmore⟩
    exact ⟨isNameStart_iff.2 hstart, fun d hd => isNameChar_iff.2 (hmore d hd)⟩
  · rintro ⟨hstart, hmore⟩
    exact .mk (isNameStart_iff.1 hstart) fun d hd => isNameChar_iff.1 (hmore d hd)

theorem isNameChar_of_isIdentifier {name : Text} (h : IsIdentifier name) :
    ∀ c ∈ name, isNameChar c = true := by
  cases h with
  | mk hstart hmore =>
      intro c hc
      rcases List.mem_cons.1 hc with rfl | hc
      · exact isNameChar_of_isNameStart (isNameStart_iff.2 hstart)
      · exact isNameChar_iff.2 (hmore c hc)

/-- The kind that a name has is the one that is found for it. -/
theorem hasKind_iff {name : Text} {kind : LabelKind} :
    HasKind name kind ↔ LabelKind.classify name = kind := by
  constructor
  · intro h
    cases h with
    | @known earlier later d place fits first =>
        have hfind : LabelKind.catalog.find? (fun d => Text.startsWith name d.start) = some d := by
          refine List.find?_eq_some_iff_append.2 ⟨List.isPrefixOf_iff_prefix.2 fits, earlier, later,
            place, fun e he => ?_⟩
          have hno : ¬Text.startsWith name e.start = true :=
            fun h => first e he (List.isPrefixOf_iff_prefix.1 h)
          simpa using hno
        rw [LabelKind.classify, hfind]
    | unknown unlisted =>
        have hfind : LabelKind.catalog.find? (fun d => Text.startsWith name d.start) = none := by
          exact List.find?_eq_none.2 fun d hd h => unlisted d hd (List.isPrefixOf_iff_prefix.1 h)
        rw [LabelKind.classify, hfind]
  · rintro rfl
    rw [LabelKind.classify]
    split
    · rename_i d hfind
      rcases List.find?_eq_some_iff_append.1 hfind with ⟨hfits, earlier, later, place, hfirst⟩
      refine .known place (List.isPrefixOf_iff_prefix.1 hfits) fun e he hstart => ?_
      have hno := hfirst e he
      rw [Text.startsWith, List.isPrefixOf_iff_prefix.2 hstart] at hno
      cases hno
    · rename_i hfind
      refine .unknown fun d hd hstart => ?_
      exact List.find?_eq_none.1 hfind d hd (List.isPrefixOf_iff_prefix.2 hstart)

/-! ## One place -/

/-- A name is read exactly where an identifier stands before a closing bracket. -/
theorem nameAt?_eq_some_iff {t name : Text} :
    nameAt? t = some name ↔ IsIdentifier name ∧ ∃ rest, t = name ++ '>' :: rest := by
  constructor
  · intro h
    rcases Text.exists_stop isNameChar t with ⟨w, tail, rfl, hw, htail⟩
    rw [nameAt?, Text.takeWhile_append_stop hw htail, Text.dropWhile_append_stop hw htail] at h
    rcases w with _ | ⟨c, cs⟩
    · cases h
    · split at h
      · rename_i d ds rest hword
        cases hword
        split at h
        · rename_i hstart
          cases h
          exact ⟨isIdentifier_cons_iff.2 ⟨hstart, (List.forall_mem_cons.1 hw).2⟩, rest, rfl⟩
        · cases h
      · cases h
  · rintro ⟨hname, rest, rfl⟩
    have hstop : ∀ c ∈ ('>' :: rest).head?, isNameChar c = false := by
      intro c hc
      obtain rfl : '>' = c := by simpa using hc
      rfl
    have hchars := isNameChar_of_isIdentifier hname
    cases hname with
    | mk hstart hmore =>
        rw [nameAt?, Text.takeWhile_append_stop hchars hstop,
          Text.dropWhile_append_stop hchars hstop]
        exact if_pos (isNameStart_iff.2 hstart)

def named (line : Nat) (name : Text) : Label :=
  ⟨name, line, LabelKind.classify name⟩

/-- The label that is declared at the very start of a text. -/
def first? (line : Nat) : Text → Option Label
  | [] => none
  | c :: cs => if c = '<' then (nameAt? cs).map (named line) else none

/-- What is read at a place is what is declared there. -/
theorem first?_eq_some_iff {start t : Text} {l : Label} :
    first? (start.count '\n') t = some l ↔ Declares (start ++ t) start l := by
  constructor
  · intro h
    rcases t with _ | ⟨c, cs⟩
    · cases h
    · rw [first?] at h
      split at h
      · rename_i hopen
        rcases Option.map_eq_some_iff.1 h with ⟨name, hname, rfl⟩
        rcases nameAt?_eq_some_iff.1 hname with ⟨hident, rest, rfl⟩
        exact ⟨⟨rest, by rw [hopen]; rfl⟩, hident, rfl, hasKind_iff.2 rfl⟩
      · cases h
  · rintro ⟨⟨rest, htext⟩, hname, hline, hkind⟩
    obtain rfl := List.append_cancel_left htext
    have hat : nameAt? (l.name ++ '>' :: rest) = some l.name :=
      nameAt?_eq_some_iff.2 ⟨hname, rest, rfl⟩
    rw [first?, if_pos rfl, hat, Option.map_some, named, hasKind_iff.1 hkind, ← hline]

/-- The scanner looks at one place and goes on behind its first character. -/
theorem extractFrom_cons (line : Nat) (c : Char) (cs : Text) :
    extractFrom line (c :: cs) =
      (first? line (c :: cs)).toList ++ extractFrom (line + [c].count '\n') cs := by
  by_cases hfeed : c = '\n'
  · subst hfeed
    simp [extractFrom, first?]
  · by_cases hopen : c = '<'
    · subst hopen
      cases hname : nameAt? cs <;> simp [extractFrom, first?, hname, named]
    · simp [extractFrom, first?, hfeed, hopen]

/-! ## All places -/

theorem start_prefix_of_declares {document start : Text} {l : Label}
    (h : Declares document start l) : start <+: document := by
  rcases h.brackets with ⟨rest, rfl⟩
  exact List.prefix_append _ _

/-- What begins with a part of a document is that part, or it begins with one character more. -/
theorem eq_or_prefix {before start cs : Text} {c : Char} (hbefore : before <+: start)
    (hstart : start <+: before ++ c :: cs) : start = before ∨ before ++ [c] <+: start := by
  rcases hbefore with ⟨more, rfl⟩
  rcases more with _ | ⟨d, ds⟩
  · exact .inl (List.append_nil before)
  · rcases (List.prefix_append_right_inj before).1 hstart with ⟨rest, heq⟩
    have hd : d = c := (List.cons.inj heq).1
    exact .inr ⟨ds, by simp [hd]⟩

/-- What is declared right behind a part of a document, with that part. -/
def locatedAt (before t : Text) : List (Text × Label) :=
  (first? (before.count '\n') t).toList.map fun l => (before, l)

theorem mem_locatedAt_iff {before t start : Text} {l : Label} :
    (start, l) ∈ locatedAt before t ↔ start = before ∧ Declares (before ++ t) start l := by
  rw [locatedAt, List.mem_map]
  constructor
  · rintro ⟨l', hl', heq⟩
    cases heq
    exact ⟨rfl, first?_eq_some_iff.1 (Option.mem_toList.1 hl')⟩
  · rintro ⟨rfl, hl⟩
    exact ⟨l, Option.mem_toList.2 (first?_eq_some_iff.2 hl), rfl⟩

theorem labels_locatedAt (before t : Text) :
    (locatedAt before t).map (·.2) = (first? (before.count '\n') t).toList := by
  rw [locatedAt, List.map_map]
  exact List.map_id _

theorem pairwise_locatedAt (before t : Text) :
    (locatedAt before t).Pairwise fun p q => p.1.byteLength < q.1.byteLength := by
  rw [locatedAt]
  cases first? (before.count '\n') t with
  | none => exact .nil
  | some l => exact List.pairwise_singleton _ _

/-- From some place on the scanner finds each declaration once, in the order of the places. -/
theorem exists_located (before t : Text) :
    ∃ located : List (Text × Label),
      located.map (·.2) = extractFrom (before.count '\n') t ∧
      (located.Pairwise fun p q => p.1.byteLength < q.1.byteLength) ∧
      ∀ start l, (start, l) ∈ located ↔ before <+: start ∧ Declares (before ++ t) start l := by
  induction t generalizing before with
  | nil =>
      refine ⟨[], rfl, List.Pairwise.nil, fun start l => ?_⟩
      constructor
      · intro h
        cases h
      -- There is no room for a declaration at the end.
      · rintro ⟨⟨more, rfl⟩, ⟨rest, htext⟩, -, -, -⟩
        have hlength := congrArg List.length htext
        simp at hlength
  | cons c cs ih =>
      rcases ih (before ++ [c]) with ⟨located, hlabels, hsorted, hall⟩
      have hdocument : before ++ [c] ++ cs = before ++ c :: cs := by simp
      rw [hdocument] at hall
      refine ⟨locatedAt before (c :: cs) ++ located, ?_, ?_, fun start l => ?_⟩
      · rw [List.map_append, labels_locatedAt, hlabels, List.count_append, ← extractFrom_cons]
      · -- Everything found later stands behind at least one more character.
        refine List.pairwise_append.2 ⟨pairwise_locatedAt before _, hsorted, ?_⟩
        rintro ⟨start, l⟩ hhere ⟨start', l'⟩ hlater
        obtain ⟨rfl, -⟩ := mem_locatedAt_iff.1 hhere
        exact Text.byteLength_lt_of_longer ((hall start' l').1 hlater).1
      · rw [List.mem_append, mem_locatedAt_iff, hall]
        constructor
        · rintro (⟨rfl, h⟩ | ⟨hbefore, h⟩)
          · exact ⟨List.prefix_rfl, h⟩
          · exact ⟨(List.prefix_append _ _).trans hbefore, h⟩
        · rintro ⟨hbefore, h⟩
          rcases eq_or_prefix hbefore (start_prefix_of_declares h) with heq | hmore
          · exact .inl ⟨heq, h⟩
          · exact .inr ⟨hmore, h⟩

/-! ## Two parts -/

theorem prefix_of_not_mem {c : Char} {w s t : Text} (hc : c ∉ w) (h : w <+: s ++ c :: t) :
    w <+: s := by
  by_cases hlen : w.length ≤ s.length
  · exact List.prefix_of_prefix_length_le h (List.prefix_append _ _) hlen
  · -- A longer part would reach over the character.
    have hthrough : s ++ [c] <+: s ++ c :: t := ⟨t, by simp⟩
    have hle : (s ++ [c]).length ≤ w.length := by
      simp only [List.length_append, List.length_singleton]
      omega
    have hmore := List.prefix_of_prefix_length_le hthrough h hle
    exact absurd (hmore.subset (List.mem_append_right s List.mem_cons_self)) hc

/-- No declaration goes through a character that neither belongs to names nor closes them. -/
theorem nameAt?_append_stop {c : Char} (hchar : isNameChar c = false) (hclose : c ≠ '>')
    (s t : Text) : nameAt? (s ++ c :: t) = nameAt? s := by
  refine Option.ext fun name => ?_
  rw [nameAt?_eq_some_iff, nameAt?_eq_some_iff]
  refine and_congr_right fun hident => ⟨?_, ?_⟩
  · rintro ⟨rest, hrest⟩
    have hc : c ∉ name ++ ['>'] := by
      intro hc
      rcases List.mem_append.1 hc with hc | hc
      · rw [isNameChar_of_isIdentifier hident c hc] at hchar
        cases hchar
      · exact hclose (List.mem_singleton.1 hc)
    have hprefix : name ++ ['>'] <+: s ++ c :: t := ⟨rest, by simp [hrest]⟩
    rcases prefix_of_not_mem hc hprefix with ⟨more, rfl⟩
    exact ⟨more, by simp⟩
  · rintro ⟨rest, rfl⟩
    exact ⟨rest ++ c :: t, by simp⟩

/-- A character that can be part of no label divides a document. -/
theorem extractFrom_append_stop {c : Char} (hname : isNameChar c = false) (hclose : c ≠ '>')
    (line : Nat) (s t : Text) :
    extractFrom line (s ++ c :: t) =
      extractFrom line s ++ extractFrom (line + s.count '\n') (c :: t) := by
  induction s generalizing line with
  | nil => rfl
  | cons d ds ih =>
      have hfirst : first? line (d :: (ds ++ c :: t)) = first? line (d :: ds) := by
        rw [first?, first?, nameAt?_append_stop hname hclose]
      have hcount : line + [d].count '\n' + ds.count '\n' = line + (d :: ds).count '\n' := by
        rw [← List.singleton_append (l := ds), List.count_append, Nat.add_assoc]
      calc
        extractFrom line (d :: ds ++ c :: t)
          = (first? line (d :: ds)).toList ++
              extractFrom (line + [d].count '\n') (ds ++ c :: t) := by
            rw [List.cons_append, extractFrom_cons, hfirst]
        _ = (first? line (d :: ds)).toList ++ (extractFrom (line + [d].count '\n') ds ++
              extractFrom (line + (d :: ds).count '\n') (c :: t)) := by
            rw [ih, hcount]
        _ = extractFrom line (d :: ds) ++ extractFrom (line + (d :: ds).count '\n') (c :: t) := by
            rw [extractFrom_cons line d ds, List.append_assoc]

def lower (lines : Nat) (l : Label) : Label :=
  { l with line := l.line + lines }

/-- Line numbers count from that of the first line. -/
theorem extractFrom_add (line lines : Nat) (t : Text) :
    extractFrom (line + lines) t = (extractFrom line t).map (lower lines) := by
  induction t generalizing line with
  | nil => rfl
  | cons c cs ih =>
      have hfirst : (first? (line + lines) (c :: cs)).toList =
          (first? line (c :: cs)).toList.map (lower lines) := by
        by_cases hopen : c = '<'
        · cases hname : nameAt? cs <;> simp [first?, hopen, hname, named, lower]
        · simp [first?, hopen]
      have hline : line + lines + [c].count '\n' = line + [c].count '\n' + lines := by omega
      rw [extractFrom_cons, extractFrom_cons line, List.map_append, hfirst, hline, ih]

/-- A document that is cut at a line feed is read in two parts. -/
theorem extract_append_line (s t : Text) :
    extract (s ++ '\n' :: t) = extract s ++ (extract t).map (lower (s.count '\n' + 1)) := by
  have hfeed : ∀ line, extractFrom line ('\n' :: t) = extractFrom (line + 1) t := fun _ => rfl
  calc
    extract (s ++ '\n' :: t) = extractFrom 0 s ++ extractFrom (0 + s.count '\n') ('\n' :: t) :=
      extractFrom_append_stop rfl (by decide) 0 s t
    _ = extractFrom 0 s ++ extractFrom (0 + (s.count '\n' + 1)) t := by rw [hfeed, Nat.add_assoc]
    _ = extract s ++ (extract t).map (lower (s.count '\n' + 1)) := by
      rw [extractFrom_add, extract, extract]

/-! ## Line by line -/

/-- The names declared in a text, the leftmost first, each looked for behind the one before. -/
def search : Text → List Text
  | [] => []
  | c :: cs =>
    if c = '<' then
      match nameAt? cs with
      | some name => name :: search (cs.drop (name.length + 1))
      | none => search cs
    else search cs
termination_by t => t.length
decreasing_by
  all_goals simp only [List.length_cons, List.length_drop]
  all_goals omega

theorem search_at {cs name : Text} (h : nameAt? cs = some name) :
    search ('<' :: cs) = name :: search (cs.drop (name.length + 1)) := by
  rw [search, if_pos rfl, h]

theorem search_skip {c : Char} {cs : Text} (h : c = '<' → nameAt? cs = none) :
    search (c :: cs) = search cs := by
  rw [search]
  split
  · rename_i hopen
    rw [h hopen]
  · rfl

/-- Where no bracket opens there is nothing to find. -/
theorem extractFrom_append_of_not_open {w : Text} (hw : ∀ c ∈ w, c ≠ '<' ∧ c ≠ '\n') (line : Nat)
    (t : Text) : extractFrom line (w ++ t) = extractFrom line t := by
  induction w with
  | nil => rfl
  | cons c cs ih =>
      rcases List.forall_mem_cons.1 hw with ⟨⟨hopen, hfeed⟩, hcs⟩
      rw [List.cons_append, extractFrom, if_neg hfeed, if_neg hopen]
      exact ih hcs

/-- No declaration begins in a name or at the bracket behind it. -/
theorem extractFrom_name {name : Text} (h : IsIdentifier name) (line : Nat) (rest : Text) :
    extractFrom line (name ++ '>' :: rest) = extractFrom line rest := by
  have hpass : ∀ c ∈ name ++ ['>'], c ≠ '<' ∧ c ≠ '\n' := by
    refine List.forall_mem_append.2 ⟨fun c hc => ?_, by simp⟩
    have hchar := isNameChar_of_isIdentifier h c hc
    constructor <;> rintro rfl <;> exact absurd hchar (by decide)
  simpa using extractFrom_append_of_not_open hpass line rest

/-- On a line of its own the search misses nothing: what it passes over is a name and a closing
bracket, and no declaration begins in there. -/
theorem extractFrom_eq_search (line : Nat) {t : Text} (ht : '\n' ∉ t) :
    extractFrom line t = (search t).map (named line) := by
  induction hlen : t.length using Nat.strongRecOn generalizing t with
  | ind n ih =>
      subst hlen
      rcases t with _ | ⟨c, cs⟩
      · rw [search]
        rfl
      · have hcs : '\n' ∉ cs := List.not_mem_of_not_mem_cons ht
        have hfeed : c ≠ '\n' := (List.ne_of_not_mem_cons ht).symm
        have hrest := ih cs.length (Nat.lt_succ_self _) hcs rfl
        by_cases hat : c = '<' ∧ ∃ name, nameAt? cs = some name
        · rcases hat with ⟨rfl, name, hname⟩
          rcases nameAt?_eq_some_iff.1 hname with ⟨hident, rest, rfl⟩
          have hsame := extractFrom_name hident line rest
          have hdrop : (name ++ '>' :: rest).drop (name.length + 1) = rest := by simp
          have hshort := ih rest.length (by simp; omega)
            (fun h => hcs (List.mem_append_right _ (List.mem_cons_of_mem _ h))) rfl
          rw [search_at hname, hdrop, extractFrom_cons, first?, if_pos rfl, hname, List.map_cons]
          simpa [hsame] using hshort
        · have hskip : c = '<' → nameAt? cs = none := by
            intro hopen
            refine Option.eq_none_iff_forall_not_mem.2 fun name hname => hat ⟨hopen, name, hname⟩
          have hfirst : first? line (c :: cs) = none := by
            by_cases hopen : c = '<'
            · rw [first?, if_pos hopen, hskip hopen, Option.map_none]
            · rw [first?, if_neg hopen]
          rw [search_skip hskip, extractFrom_cons, hfirst, ← hrest]
          simp [hfeed]

/-- The scanner finds what a search finds that takes the lines one by one. -/
theorem extractFrom_lines (line : Nat) (t : Text) :
    extractFrom line t =
      ((Text.lines t).zipIdx line).flatMap fun p => (search p.1).map (named p.2) := by
  induction hlen : t.length using Nat.strongRecOn generalizing t line with
  | ind n ih =>
      subst hlen
      by_cases ht : t = []
      · subst ht
        rfl
      · rcases Text.exists_line ht with ⟨content, ending, rest, heq, hlines, hend⟩
        have hfeed : '\n' ∉ content :=
          Text.feed_not_mem_lines (by rw [hlines]; exact List.mem_cons_self)
        have hhere := extractFrom_eq_search line hfeed
        have hcount : content.count '\n' = 0 := List.count_eq_zero.2 hfeed
        have hfirst : extractFrom line t = extractFrom line content ++ extractFrom (line + 1) rest := by
          rcases hend with rfl | rfl | ⟨rfl, rfl⟩
          · rw [heq]
            simpa [hcount, extractFrom] using
              extractFrom_append_stop (c := '\n') rfl (by decide) line content rest
          -- A carriage return before the line feed belongs to no declaration.
          · rw [heq]
            simpa [hcount, extractFrom] using
              extractFrom_append_stop (c := '\r') rfl (by decide) line content ('\n' :: rest)
          · rw [heq]
            simp [extractFrom]
        have hrest : extractFrom (line + 1) rest =
            ((Text.lines rest).zipIdx (line + 1)).flatMap fun p =>
              (search p.1).map (named p.2) := by
          by_cases hnil : rest = []
          · subst hnil
            rfl
          · exact ih rest.length (Text.length_rest_lt heq hend hnil) (line + 1) rest rfl
        rw [hfirst, hhere, hrest, hlines, List.zipIdx_cons, List.flatMap_cons]

/-! ## The labels of a document -/

/-- The labels of a document are its declarations, each once and in order; the search by lines finds
the same; and so the labels of two parts are those of the document. -/
theorem extract_declarations :
    (∀ document,
      (∃ located : List (Text × Label),
        located.map (·.2) = extract document ∧
        (located.map fun p => p.1.byteLength).Pairwise (· < ·) ∧
        ∀ start l, (start, l) ∈ located ↔ Declares document start l) ∧
      extract document =
        (Text.lines document).zipIdx.flatMap fun p => (search p.1).map (named p.2)) ∧
    ∀ s t, extract (s ++ '\n' :: t) = extract s ++ (extract t).map (lower (s.count '\n' + 1)) := by
  refine ⟨fun document => ⟨?_, extractFrom_lines 0 document⟩, extract_append_line⟩
  rcases exists_located [] document with ⟨located, hlabels, hsorted, hall⟩
  refine ⟨located, hlabels, List.pairwise_map.2 hsorted, fun start l => ?_⟩
  have hprefix : [] <+: start := List.nil_prefix
  rw [hall, List.nil_append, and_iff_right hprefix]

end Label

end CiteIndex
