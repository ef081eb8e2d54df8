import CiteIndex.Url.Reader
import CiteIndex.Proofs.Text.Escapes
import CiteIndex.Proofs.Text.LowerCase
import CiteIndex.Proofs.Text.Squeezing
import CiteIndex.Proofs.Text.Words

/-!
# Segments of a path

A path is the segments between its slashes, and is written from them again. When a path is read, the
segments that stand for a directory are resolved: one goes away, the other takes the segment before
it along. No escape keeps them from that, since they may be escapes themselves.

- `Text.join_splitWhere`, `Text.splitWhere_flatMap`: pieces between marks and behind marks
- `Url.enter`, `Url.resolveSegments_append`: segments put behind others one by one
- `Url.resolveSegments_of_plain`: where nothing has to be resolved
- `Url.isHere_encode`, `Url.isAbove_encode`: which texts stand for a directory when encoded
-/

namespace CiteIndex

/-! ## Pieces -/

namespace Text

variable {isSeparator : Char → Bool} {mark : Char}

/-- No character of a text without a mark is taken for the mark. -/
theorem beq_mark_of_not_mem {t : Text} (h : mark ∉ t) : ∀ c ∈ t, (c == mark) = false := by
  intro c hc
  refine beq_eq_false_iff_ne.2 ?_
  rintro rfl
  exact h hc

theorem splitWhere_append_cons (hmark : isSeparator mark) (s t : Text) :
    splitWhere isSeparator (s ++ mark :: t) =
      splitWhere isSeparator s ++ splitWhere isSeparator t := by
  induction s with
  | nil => simp [splitWhere, hmark]
  | cons c cs ih =>
      rw [List.cons_append, splitWhere, splitWhere, ih]
      split
      · rfl
      · obtain ⟨first, rest, hsplit⟩ :=
          List.exists_cons_of_ne_nil (splitWhere_ne_nil isSeparator cs)
        rw [hsplit]
        rfl

theorem splitWhere_eq_singleton {t : Text} (ht : ∀ c ∈ t, isSeparator c = false) :
    splitWhere isSeparator t = [t] := by
  induction t with
  | nil => rfl
  | cons c cs ih =>
      obtain ⟨hc, hcs⟩ := List.forall_mem_cons.1 ht
      simp [splitWhere, hc, ih hcs, consHead]

/-- Pieces behind a mark each are read back. -/
theorem splitWhere_flatMap (hmark : isSeparator mark) {pieces : List Text}
    (hpieces : ∀ p ∈ pieces, ∀ c ∈ p, isSeparator c = false) (s : Text) :
    splitWhere isSeparator (s ++ pieces.flatMap (mark :: ·)) =
      splitWhere isSeparator s ++ pieces := by
  induction pieces generalizing s with
  | nil => simp
  | cons p ps ih =>
      obtain ⟨hp, hps⟩ := List.forall_mem_cons.1 hpieces
      rw [List.flatMap_cons, List.cons_append, splitWhere_append_cons hmark, ih hps,
        splitWhere_eq_singleton hp]
      rfl

/-- Pieces without the mark are known from the text that they make up. -/
theorem flatMap_mark_inj {ps qs : List Text} (hps : ∀ p ∈ ps, mark ∉ p) (hqs : ∀ q ∈ qs, mark ∉ q) :
    ps.flatMap (mark :: ·) = qs.flatMap (mark :: ·) ↔ ps = qs := by
  have hread : ∀ pieces : List Text, (∀ p ∈ pieces, mark ∉ p) →
      splitWhere (· == mark) (pieces.flatMap (mark :: ·)) = [] :: pieces := by
    intro pieces hpieces
    exact @splitWhere_flatMap (· == mark) mark (beq_self_eq_true mark) pieces
      (fun p hp => beq_mark_of_not_mem (hpieces p hp)) []
  constructor
  · intro h
    have hsame := hread ps hps
    rw [h, hread qs hqs] at hsame
    exact (List.cons.inj hsame).2.symm
  · rintro rfl
    rfl

theorem join_cons (p : Text) (ps : List Text) :
    join [mark] (p :: ps) = p ++ ps.flatMap (mark :: ·) := by
  induction ps generalizing p with
  | nil => simp [join]
  | cons q qs ih =>
      rw [join, ih]
      · simp
      · simp

/-- Pieces without marks are read back. -/
theorem splitWhere_join (hmark : isSeparator mark) {pieces : List Text} (hne : pieces ≠ [])
    (hpieces : ∀ p ∈ pieces, ∀ c ∈ p, isSeparator c = false) :
    splitWhere isSeparator (join [mark] pieces) = pieces := by
  obtain ⟨p, ps, rfl⟩ := List.exists_cons_of_ne_nil hne
  obtain ⟨hp, hps⟩ := List.forall_mem_cons.1 hpieces
  rw [join_cons, splitWhere_flatMap hmark hps, splitWhere_eq_singleton hp]
  rfl

/-- A text is what stands between its marks. -/
theorem join_splitWhere (mark : Char) (t : Text) : join [mark] (splitWhere (· == mark) t) = t := by
  induction t with
  | nil => rfl
  | cons c cs ih =>
      obtain ⟨first, rest, hsplit⟩ := List.exists_cons_of_ne_nil (splitWhere_ne_nil (· == mark) cs)
      rw [hsplit, join_cons] at ih
      rw [splitWhere, hsplit]
      split
      · rename_i hc
        obtain rfl := beq_iff_eq.1 hc
        rw [join_cons, List.flatMap_cons, List.cons_append, ih]
        rfl
      · rw [consHead, join_cons, List.cons_append, ih]

end Text

namespace Url

/-! ## Resolving segments -/

/-- What was done with one more segment that is not the last. -/
def enter (done : List Text) (segment : Text) : List Text :=
  if isAbove segment then done.dropLast
  else if isHere segment then done
  else done ++ [segment]

theorem resolveSegments_cons {later : List Text} (hne : later ≠ []) (done : List Text)
    (segment : Text) :
    resolveSegments done (segment :: later) = resolveSegments (enter done segment) later := by
  rw [resolveSegments, enter]
  · split
    · rfl
    · split <;> rfl
  · exact hne

/-- Segments are resolved from the first to the last. -/
theorem resolveSegments_append {later : List Text} (hne : later ≠ []) (done segments : List Text) :
    resolveSegments done (segments ++ later) =
      resolveSegments (segments.foldl enter done) later := by
  induction segments generalizing done with
  | nil => rfl
  | cons segment segments ih =>
      have hmore : segments ++ later ≠ [] := List.append_ne_nil_of_right_ne_nil segments hne
      rw [List.cons_append, resolveSegments_cons hmore, ih, List.foldl_cons]

theorem mem_enter {done : List Text} {segment s : Text} :
    s ∈ enter done segment → s ∈ done ∨ s = segment := by
  intro hs
  rw [enter] at hs
  split at hs
  · exact .inl (List.dropLast_subset done hs)
  · split at hs
    · exact .inl hs
    · simpa using hs

theorem mem_foldl_enter {done segments : List Text} {s : Text} :
    s ∈ segments.foldl enter done → s ∈ done ∨ s ∈ segments := by
  intro hs
  induction segments generalizing done with
  | nil => exact .inl hs
  | cons segment segments ih =>
      rcases ih hs with hs | hs
      · rcases mem_enter hs with hs | rfl
        · exact .inl hs
        · exact .inr List.mem_cons_self
      · exact .inr (List.mem_cons_of_mem segment hs)

theorem resolveSegments_last (done : List Text) (last : Text) :
    resolveSegments done [last] =
      enter done last ++ (if isAbove last || isHere last then [[]] else []) := by
  rw [resolveSegments, enter]
  cases isAbove last <;> cases isHere last <;> simp

/-- Resolving makes no segments but the empty one. -/
theorem mem_resolveSegments {done segments : List Text} {s : Text} :
    s ∈ resolveSegments done segments → s ∈ done ∨ s ∈ segments ∨ s = [] := by
  intro hs
  rcases List.eq_nil_or_concat segments with rfl | ⟨front, last, rfl⟩
  · exact .inl hs
  · rw [List.concat_eq_append, resolveSegments_append (by simp), resolveSegments_last] at hs
    rcases List.mem_append.1 hs with hs | hs
    · rcases mem_enter hs with hs | rfl
      · rcases mem_foldl_enter hs with hs | hs
        · exact .inl hs
        · exact .inr (.inl (by simp [hs]))
      · exact .inr (.inl (by simp))
    · split at hs
      · exact .inr (.inr (List.mem_singleton.1 hs))
      · cases hs

/-- Segments that do not stand for a directory are left as they are. -/
theorem resolveSegments_of_plain {segments : List Text}
    (hplain : ∀ s ∈ segments, isHere s = false ∧ isAbove s = false) (done : List Text) :
    resolveSegments done segments = done ++ segments := by
  induction segments generalizing done with
  | nil => exact (List.append_nil done).symm
  | cons segment segments ih =>
      obtain ⟨⟨hhere, habove⟩, hmore⟩ := List.forall_mem_cons.1 hplain
      have henter : enter done segment = done ++ [segment] := by simp [enter, hhere, habove]
      cases segments with
      | nil => simp [resolveSegments_last, henter, hhere, habove]
      | cons next later =>
          rw [resolveSegments_cons (by simp), ih hmore, henter, List.append_assoc]
          rfl

/-! ## Segments of an encoded text -/

theorem segmentsOf_append_slash (special : Bool) (s t : Text) :
    segmentsOf special (s ++ '/' :: t) = segmentsOf special s ++ segmentsOf special t := by
  have hslash : isSlash special '/' := by simp [isSlash]
  rw [segmentsOf, Text.splitWhere_append_cons hslash, List.map_append]
  rfl

theorem slash_not_mem_segmentsOf {special : Bool} {t s : Text} :
    s ∈ segmentsOf special t → '/' ∉ s := by
  intro hs hslash
  obtain ⟨piece, hpiece, rfl⟩ := List.mem_map.1 hs
  rcases Percent.mem_encodeWhere hslash with ⟨hmem, -⟩ | hescape
  · have hseparator := (Text.not_separator_of_mem_splitWhere hpiece '/' hmem).1
    simp [isSlash] at hseparator
  · exact absurd hescape (by decide)

theorem slash_not_mem_encode (t : Text) : '/' ∉ Percent.encode t := by
  intro hslash
  exact absurd (Percent.mem_encode hslash) (by decide)

/-- What an encoded text is made of neither separates segments nor is encoded in a path. -/
theorem plain_of_mem_encode {t : Text} {c : Char} :
    c ∈ Percent.encode t → isSlash true c = false ∧ isPathEscaped c = false := by
  intro hc
  have hall : ∀ c : Char, c = '%' ∨ Percent.isUnreserved c →
      isSlash true c = false ∧ isPathEscaped c = false := by
    refine Text.ascii_cases (by decide) fun c hbeyond hc => ?_
    rcases hc with rfl | hc
    · exact absurd hbeyond (by decide)
    · exact absurd (Percent.code_of_isUnreserved hc) (Nat.not_lt.2 hbeyond)
  exact hall c (Percent.mem_encode hc)

/-- Encoded segments are read back as they are written. -/
theorem segmentsOf_join_encode {texts : List Text} (hne : texts ≠ []) :
    segmentsOf true (Text.join ['/'] (texts.map Percent.encode)) = texts.map Percent.encode := by
  have hsplit : Text.splitWhere (isSlash true) (Text.join ['/'] (texts.map Percent.encode)) =
      texts.map Percent.encode := by
    refine Text.splitWhere_join (by decide) (by simpa using hne) ?_
    intro p hp c hc
    obtain ⟨t, -, rfl⟩ := List.mem_map.1 hp
    exact (plain_of_mem_encode hc).1
  have hkeep (t : Text) :
      Percent.encodeWhere isPathEscaped (Percent.encode t) = Percent.encode t :=
    Percent.encodeWhere_eq_self fun c hc => (plain_of_mem_encode hc).2
  rw [segmentsOf, hsplit, List.map_map]
  exact List.map_congr_left fun t _ => hkeep t

/-! ## Texts that stand for a directory -/

theorem toLower_eq_e {c : Char} : c.toLower = 'e' ↔ c = 'e' ∨ c = 'E' := by
  refine Text.ascii_cases (p := fun c => c.toLower = 'e' ↔ c = 'e' ∨ c = 'E') (by decide) ?_ c
  intro c hbeyond
  rw [Text.toLower_of_beyond hbeyond]
  refine ⟨.inl, ?_⟩
  rintro (rfl | rfl)
  · rfl
  · exact absurd hbeyond (by decide)

/-- A segment that stands for its own directory writes a dot. -/
theorem decode_of_isHere {s : Text} (hs : isHere s) : Percent.decode s = Text.utf8 ['.'] := by
  have hforms : s = ['.'] ∨ ∃ a, s = ['%', '2', a] ∧ (a = 'e' ∨ a = 'E') := by
    simpa [isHere, Text.lowerAscii, List.map_eq_cons_iff, Text.toLower_eq_iff, toLower_eq_e] using hs
  rcases hforms with rfl | ⟨a, rfl, rfl | rfl⟩ <;> rfl

/-- A segment that stands for the directory above writes two dots. -/
theorem decode_of_isAbove {s : Text} (hs : isAbove s) : Percent.decode s = Text.utf8 ['.', '.'] := by
  have hforms : s = ['.', '.'] ∨ (∃ a, s = ['.', '%', '2', a] ∧ (a = 'e' ∨ a = 'E')) ∨
      (∃ a, s = ['%', '2', a, '.'] ∧ (a = 'e' ∨ a = 'E')) ∨
      ∃ a b, s = ['%', '2', a, '%', '2', b] ∧ (a = 'e' ∨ a = 'E') ∧ (b = 'e' ∨ b = 'E') := by
    simpa [isAbove, Text.lowerAscii, List.map_eq_cons_iff, Text.toLower_eq_iff, toLower_eq_e]
      using hs
  rcases hforms with rfl | ⟨a, rfl, rfl | rfl⟩ | ⟨a, rfl, rfl | rfl⟩ |
    ⟨a, b, rfl, rfl | rfl, rfl | rfl⟩ <;> rfl

/-- An escaped segment stands for its own directory only if it is one dot. -/
theorem isHere_encode {t : Text} : isHere (Percent.encode t) ↔ t = ['.'] := by
  constructor
  · intro h
    rw [← Text.utf8_inj, ← Percent.decode_encode, decode_of_isHere h]
  · rintro rfl
    decide

/-- An escaped segment stands for the directory above only if it is two dots. -/
theorem isAbove_encode {t : Text} : isAbove (Percent.encode t) ↔ t = ['.', '.'] := by
  constructor
  · intro h
    rw [← Text.utf8_inj, ← Percent.decode_encode, decode_of_isAbove h]
  · rintro rfl
    decide

end Url

end CiteIndex
