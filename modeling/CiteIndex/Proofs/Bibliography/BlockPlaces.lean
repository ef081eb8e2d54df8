import CiteIndex.Proofs.Bibliography.Blocks
import CiteIndex.Proofs.Bibliography.NestingPlaces
import CiteIndex.Proofs.Text.Rounds

/-!
# Places of blocks

The scanner once more, reading in place: it goes from position to position in the bytes of a text
and cuts type and body of each block out of them. Each round begins behind the one before, so the
scanner ends, and on the bytes of a text every cut is between characters. The blocks stand one behind
the other, and no at sign that a block begins at is passed over.

- `Block.roundAt`, `Block.scanner`: one round of the scanner in place, and all of them
- `Block.roundAt_lt`: a round ends behind its start
- `Block.Opens`, `Block.Ends`: what stands in front of a body and behind it
- `Block.roundAt_of_no_header`, `Block.roundAt_of_header`: a round on the bytes of a text
- `Block.scan_places`: where the blocks of a text are
-/

namespace CiteIndex

namespace Bibliography

open InPlace

open Text (utf8)

namespace Block

/-! ## The scanner in place -/

/-- A block where it stands. Its stretch of the text begins at the at sign and ends with the
character at the end of the body, if the text goes on. -/
structure Place where
  start : Nat
  kind : List UInt8
  bodyStart : Nat
  bodyEnd : Nat
  body : List UInt8
  deriving DecidableEq, Repr

/-- Where a block stands that begins behind `before` and whose body begins behind `opening`. -/
def Place.behind (before opening : Text) (b : Block) : Place :=
  ⟨(utf8 before).length, utf8 b.kind, (utf8 (before ++ opening)).length,
    (utf8 (before ++ (opening ++ b.body))).length, utf8 b.body⟩

/-- The type behind an at sign and the position of the opening delimiter behind it. -/
def headerAt (bytes : List UInt8) (start : Nat) : Except Fault (Option (List UInt8 × Nat)) :=
  let kindStart := skip Text.isAsciiBlank bytes start
  let kindEnd := skip isKindChar bytes kindStart
  let opening := skip Text.isAsciiBlank bytes kindEnd
  if kindEnd = kindStart then .ok none
  else do
    let first ← charAt bytes kindStart
    match peek? bytes opening with
    | some delimiter =>
      if first.isAlpha && (closing? delimiter).isSome then
        let kind ← slice bytes kindStart kindEnd
        return some (kind, opening)
      else return none
    | none => return none

/-- The position of the first line feed that an at sign follows. -/
def findLine? : List UInt8 → Option Nat
  | [] => none
  | a :: bytes =>
    if Char.ofUInt8 a = '\n' ∧ peek? bytes 0 = some '@' then some 0
    else (findLine? bytes).map (· + 1)

def bodyEndAt (close : Char) (bytes : List UInt8) (bodyStart : Nat) : Except Fault Nat := do
  match ← search (topStep close) .outside bodyStart (bytes.drop bodyStart) with
  | some i => return i
  | none =>
    let rest ← slice bytes bodyStart bytes.length
    return ((findLine? rest).map (bodyStart + ·)).getD bytes.length

/-- One round from a position on: the next at sign with the block that begins at it, if one does, and
the position of the next round. There is none behind the last at sign. -/
def roundAt (bytes : List UInt8) (pos : Nat) : Except Fault (Option (Option Place × Nat)) := do
  let rest ← slice bytes pos bytes.length
  match rest.findIdx? fun b => Char.ofUInt8 b == '@' with
  | none => return none
  | some offset =>
    let start := pos + offset
    match ← headerAt bytes (start + 1) with
    | none => return some (none, start + 1)
    | some (kind, opening) =>
      let delimiter ← charAt bytes opening
      let bodyStart := opening + 1
      let bodyEnd ← bodyEndAt (if delimiter = '(' then ')' else '}') bytes bodyStart
      let body ← slice bytes bodyStart bodyEnd
      return some (some ⟨start, kind, bodyStart, bodyEnd, body⟩, min (bodyEnd + 1) bytes.length)

/-! ## Progress -/

/-- A body does not end before it begins. -/
theorem le_bodyEndAt {close : Char} {bytes : List UInt8} {bodyStart bodyEnd : Nat}
    (h : bodyEndAt close bytes bodyStart = .ok bodyEnd) : bodyStart ≤ bodyEnd := by
  obtain ⟨found, hfound, h⟩ := bind_eq_ok h
  cases found with
  | some i =>
      cases h
      exact (bounds_of_search hfound).1
  | none =>
      obtain ⟨rest, hrest, h⟩ := bind_eq_ok h
      cases h
      have hbounds := bounds_of_slice hrest
      cases findLine? rest with
      | none => exact hbounds.1
      | some i => exact Nat.le_add_right _ _

theorem le_of_headerAt {bytes kind : List UInt8} {start opening : Nat}
    (h : headerAt bytes start = .ok (some (kind, opening))) : start ≤ opening := by
  rw [headerAt] at h
  split at h
  · cases h
  · obtain ⟨first, -, h⟩ := bind_eq_ok h
    split at h
    · split at h
      · obtain ⟨part, -, h⟩ := bind_eq_ok h
        cases h
        exact Nat.le_trans (le_skip _ _ _) (Nat.le_trans (le_skip _ _ _) (le_skip _ _ _))
      · cases h
    · cases h

/-- A round goes on behind its start, and not behind the end of the text. -/
theorem roundAt_lt {bytes : List UInt8} {pos next : Nat} {found : Option Place}
    (h : roundAt bytes pos = .ok (some (found, next))) : pos < next ∧ next ≤ bytes.length := by
  obtain ⟨rest, hrest, h⟩ := bind_eq_ok h
  have hbounds := bounds_of_slice hrest
  split at h
  · cases h
  · rename_i offset hoffset
    have hlt := (List.findIdx?_eq_some_iff_findIdx_eq.1 hoffset).1
    obtain ⟨header, hheader, h⟩ := bind_eq_ok h
    cases header with
    | none =>
        cases h
        omega
    | some header =>
        obtain ⟨delimiter, -, h⟩ := bind_eq_ok h
        obtain ⟨bodyEnd, hend, h⟩ := bind_eq_ok h
        obtain ⟨body, hbody, h⟩ := bind_eq_ok h
        have hopening := le_of_headerAt hheader
        have hbody := le_bodyEndAt hend
        cases h
        omega

def scanner (bytes : List UInt8) : Rounds Place where
  round := roundAt bytes
  size := bytes.length
  progress _ _ _ h := roundAt_lt h

/-! ## The header in place -/

theorem isAsciiClass_isKindChar : IsAsciiClass isKindChar :=
  .of_lt fun _ hc => code_of_isKindChar hc

theorem code_of_closing? {c close : Char} (h : closing? c = some close) : c.toNat < 128 := by
  simp only [closing?] at h
  split at h
  · subst c
    decide
  · obtain ⟨rfl, -⟩ := Option.ite_none_right_eq_some.1 h
    decide

theorem close_of_closing? {c close : Char} (h : closing? c = some close) :
    (if c = '(' then ')' else '}') = close := by
  simp only [closing?] at h
  split at h
  · subst c
    exact Option.some.inj h
  · obtain ⟨rfl, h⟩ := Option.ite_none_right_eq_some.1 h
    exact Option.some.inj h

theorem code_of_close {c close : Char} (h : closing? c = some close) : close.toNat < 128 := by
  rw [← close_of_closing? h]
  split <;> decide

theorem isAsciiClass_closing? : IsAsciiClass fun c => (closing? c).isSome := by
  apply IsAsciiClass.of_lt
  intro c hc
  obtain ⟨close, hclose⟩ := Option.isSome_iff_exists.1 hc
  exact code_of_closing? hclose

/-- The scanner finds a header that is written out in its parts, and the position of its delimiter.
-/
theorem headerAt_utf8 (s : Text) {gap kind gap' rest : Text} (hgap : ∀ c ∈ gap, Text.isAsciiBlank c)
    (hkind : ∀ c ∈ kind, isKindChar c) (hgap' : ∀ c ∈ gap', Text.isAsciiBlank c)
    (hstart : ∀ c ∈ (kind ++ (gap' ++ rest)).head?, Text.isAsciiBlank c = false)
    (htail : ∀ c ∈ (gap' ++ rest).head?, isKindChar c = false)
    (hrest : ∀ c ∈ rest.head?, Text.isAsciiBlank c = false) :
    headerAt (utf8 (s ++ (gap ++ (kind ++ (gap' ++ rest))))) (utf8 s).length =
      .ok ((header? (gap ++ (kind ++ (gap' ++ rest)))).map fun header =>
        (utf8 header.1, (utf8 (s ++ (gap ++ (kind ++ gap')))).length)) := by
  have hskip := skip_utf8_stop isAsciiClass_isAsciiBlank hgap s hstart
  have hskipKind := skip_utf8_stop isAsciiClass_isKindChar hkind (s ++ gap) htail
  have hskip' := skip_utf8_stop isAsciiClass_isAsciiBlank hgap' (s ++ (gap ++ kind)) hrest
  have hslice := slice_utf8 (s ++ gap) kind (gap' ++ rest)
  simp only [List.append_assoc] at hskip hskipKind hskip' hslice
  rw [headerAt, hskip, hskipKind, hskip',
    header?_parts gap kind gap' rest hgap hkind hgap' hstart htail hrest]
  cases kind with
  | nil => simp
  | cons c cs =>
      -- A type is there; its first character and the delimiter decide.
      have hmore := length_utf8_lt (s ++ gap) c cs
      have hfirst := charAt_utf8 (code_of_isKindChar (hkind c List.mem_cons_self)) (s ++ gap)
        (cs ++ (gap' ++ rest))
      simp only [List.append_assoc] at hmore hfirst
      rw [if_neg (Nat.ne_of_gt hmore), List.cons_append, hfirst]
      cases rest with
      | nil =>
          have hend := peek?_utf8_end (s ++ (gap ++ (c :: cs ++ gap')))
          simp only [List.append_nil]
          simp only [List.cons_append] at hend
          simp only [List.cons_append, hend]
          rfl
      | cons d ds =>
          obtain ⟨x, hx, hd⟩ := peek?_utf8_cons (s ++ (gap ++ (c :: cs ++ gap'))) d ds
          simp only [List.append_assoc, List.cons_append] at hx hslice
          have hdelimiter : (closing? x).isSome = (closing? d).isSome := by
            rcases hd with rfl | ⟨hx, hd⟩
            · rfl
            · exact isAsciiClass_closing? x d hx hd
          simp only [List.cons_append, hx, ok_bind, hslice, hdelimiter]
          cases c.isAlpha <;> cases closing? d <;> rfl

/-! ## The end of a body in place -/

theorem findLine?_append {bs : List UInt8} (hbs : ∀ b ∈ bs, (Char.ofUInt8 b == '\n') = false)
    (bytes : List UInt8) :
    findLine? (bs ++ bytes) = (findLine? bytes).map (bs.length + ·) := by
  induction bs with
  | nil => simp
  | cons b bs ih =>
      obtain ⟨hb, hbs⟩ := List.forall_mem_cons.1 hbs
      have hne : Char.ofUInt8 b ≠ '\n' := ne_of_beq_false hb
      rw [List.cons_append, findLine?, if_neg fun h => hne h.1, ih hbs, Option.map_map]
      congr 1
      funext i
      simp only [Function.comp_apply, List.length_cons]
      omega

theorem utf8_line (t : Text) : utf8 ('\n' :: t) = 10 :: utf8 t := by
  rw [Text.utf8_cons]
  rfl

theorem findLine?_utf8_cons {c : Char} {t : Text} (h : c = '\n' → t.head? ≠ some '@') :
    findLine? (utf8 (c :: t)) = (findLine? (utf8 t)).map ((utf8 [c]).length + ·) := by
  by_cases hc : c = '\n'
  · subst hc
    have hat : peek? (utf8 t) 0 ≠ some '@' := peek?_utf8_ne (by decide) [] (h rfl)
    rw [utf8_line, findLine?, if_neg fun hline => hat hline.2]
    congr 1
    funext i
    exact Nat.add_comm i 1
  · have hone : ∀ d ∈ [c], (d == '\n') = false := by simpa using hc
    have hbytes := (isAsciiClass_eq (a := '\n') (by decide)).ofByte_of_mem hone
    rw [← List.singleton_append, Text.utf8_append, findLine?_append hbytes]

/-- The scanner looks for the line feed at which a text is cut. -/
theorem findLine?_utf8 (t : Text) :
    findLine? (utf8 t) =
      if (cutAtLine t).2 = [] then none else some (utf8 (cutAtLine t).1).length := by
  fun_induction cutAtLine t with
  | case1 => rfl
  | case2 cs =>
      have hat : peek? (utf8 ('@' :: cs)) 0 = some '@' := peek?_utf8_ascii (by decide) [] cs
      rw [utf8_line, findLine?, if_pos ⟨rfl, hat⟩]
      rfl
  | case3 c cs hline ih =>
      have hat : c = '\n' → cs.head? ≠ some '@' := by
        rintro hc hat
        obtain ⟨ds, rfl⟩ := List.head?_eq_some_iff.1 hat
        exact hline ds hc rfl
      have hbytes : utf8 (c :: (cutAtLine cs).1) = utf8 [c] ++ utf8 (cutAtLine cs).1 :=
        Text.utf8_append [c] (cutAtLine cs).1
      rw [findLine?_utf8_cons hat, ih]
      simp only [Text.consLeft, hbytes, List.length_append]
      split <;> rfl

/-- The scanner ends a body where the reader of texts ends it. -/
theorem bodyEndAt_utf8 {close : Char} (hclose : close.toNat < 128) (s t : Text) :
    bodyEndAt close (utf8 (s ++ t)) (utf8 s).length =
      .ok (utf8 (s ++ (cutBody close t).1)).length := by
  have hsearch := search_topStep hclose .outside (utf8 s).length t
  rw [bodyEndAt, drop_utf8, hsearch, ok_bind, cutBody]
  cases cutAtTop? close .outside t with
  | some cut =>
      rw [Text.utf8_append s cut.1, List.length_append]
      rfl
  | none =>
      have hslice := slice_utf8_end s t
      simp only [Option.map_none, hslice, ok_bind, findLine?_utf8]
      by_cases hend : (cutAtLine t).2 = []
      · rw [if_pos hend, cutAtLine_fst hend]
        rfl
      · rw [if_neg hend, Text.utf8_append s (cutAtLine t).1, List.length_append]
        rfl

/-! ## What stands behind a body -/

/-- No cut is made exactly if every `stop` stands inside braces or quotes. -/
theorem cutAtTop?_eq_none_iff {stop : Char} {s : Nesting} {t : Text} :
    cutAtTop? stop s t = none ↔ ∀ u v, t = u ++ stop :: v → ¬(s.after u).isTop := by
  constructor
  · rintro h u v rfl htop
    cases hcut : cutAtTop? stop s u with
    | none =>
        rw [Passes.cut_stop ⟨hcut, rfl⟩ htop v] at h
        cases h
    | some cut =>
        rw [cutAtTop?_append hcut] at h
        cases h
  · intro h
    cases hcut : cutAtTop? stop s t with
    | none => rfl
    | some cut =>
        obtain ⟨heq, -, htop⟩ := eq_append_of_cutAtTop? hcut
        exact absurd htop (h _ _ heq)

/-- What can stand behind a body: the delimiter that closes it, which is the first one outside
inner braces and quotes, or, where the text holds none, the next line that begins with an at sign or
nothing. -/
inductive Ends (close : Char) (body : Text) : Text → Prop where
  | closed (rest : Text) (hfirst : ∀ u v, body = u ++ close :: v → ¬(Nesting.outside.after u).isTop)
      (htop : (Nesting.outside.after body).isTop) : Ends close body (close :: rest)
  | unclosed (tail : Text)
      (hnone : ∀ u v, body ++ tail = u ++ close :: v → ¬(Nesting.outside.after u).isTop)
      (hline : ∀ u v, body ++ tail = u ++ '\n' :: '@' :: v → body.length ≤ u.length)
      (htail : tail = [] ∨ ∃ rest, tail = '\n' :: '@' :: rest) : Ends close body tail

/-- A text is cut at the first line feed in front of an at sign, and the line feed is dropped; or it
is cut at its end. -/
theorem cutAtLine_ends (t : Text) :
    ∃ tail, t = (cutAtLine t).1 ++ tail ∧ (cutAtLine t).2 = tail.tail ∧
      (tail = [] ∨ ∃ rest, tail = '\n' :: '@' :: rest) ∧
      ∀ u v, t = u ++ '\n' :: '@' :: v → (cutAtLine t).1.length ≤ u.length := by
  fun_induction cutAtLine t with
  | case1 => exact ⟨[], rfl, rfl, .inl rfl, by simp⟩
  | case2 cs => exact ⟨'\n' :: '@' :: cs, rfl, rfl, .inr ⟨cs, rfl⟩, by simp⟩
  | case3 c cs hline ih =>
      obtain ⟨tail, heq, hrest, htail, hfirst⟩ := ih
      refine ⟨tail, congrArg (c :: ·) heq, hrest, htail, ?_⟩
      intro u v huv
      cases u with
      | nil =>
          obtain ⟨rfl, rfl⟩ := List.cons.inj huv
          exact absurd rfl (hline v rfl)
      | cons d ds =>
          obtain ⟨-, huv⟩ := List.cons.inj huv
          exact Nat.succ_le_succ (hfirst ds v huv)

/-- What stands behind a body may end it, and reading goes on behind the character that does. -/
theorem cutBody_ends (close : Char) (t : Text) :
    ∃ tail, t = (cutBody close t).1 ++ tail ∧ (cutBody close t).2 = tail.tail ∧
      Ends close (cutBody close t).1 tail := by
  rw [cutBody]
  cases hcut : cutAtTop? close .outside t with
  | some cut =>
      obtain ⟨heq, hpass, htop⟩ := eq_append_of_cutAtTop? hcut
      exact ⟨close :: cut.2, heq, rfl, .closed cut.2 (cutAtTop?_eq_none_iff.1 hpass.1) htop⟩
  | none =>
      obtain ⟨tail, heq, hrest, htail, hfirst⟩ := cutAtLine_ends t
      refine ⟨tail, heq, hrest, .unclosed tail ?_ ?_ htail⟩
      · rw [← heq]
        exact cutAtTop?_eq_none_iff.1 hcut
      · rw [← heq]
        exact hfirst

/-! ## A round on the bytes of a text -/

/-- What a block begins with: an at sign, blanks, a type, blanks and an opening delimiter. -/
def Opens (kind : Text) (close : Char) (t : Text) : Prop :=
  ∃ gap gap' delimiter, t = '@' :: (gap ++ (kind ++ (gap' ++ [delimiter]))) ∧
    (∀ c ∈ gap, Text.isAsciiBlank c) ∧
    ((∃ c cs, kind = c :: cs ∧ c.isAlpha) ∧ ∀ c ∈ kind, isKindChar c) ∧
    (∀ c ∈ gap', Text.isAsciiBlank c) ∧ closing? delimiter = some close

theorem headerAt_of_none (s : Text) {t : Text} (h : header? t = none) :
    headerAt (utf8 (s ++ t)) (utf8 s).length = .ok none := by
  obtain ⟨gap, kind, gap', rest, rfl, hgap, hkind, hgap', hstart, htail, hrest⟩ := exists_header t
  rw [headerAt_utf8 s hgap hkind hgap' hstart htail hrest, h]
  rfl

/-- Wherever a text has a header, the scanner finds it, with the parts that a block begins with. -/
theorem headerAt_of_some (s : Text) {t kind more : Text} {close : Char}
    (h : header? t = some (kind, close, more)) :
    ∃ front delimiter, t = front ++ delimiter :: more ∧ closing? delimiter = some close ∧
      Opens kind close ('@' :: (front ++ [delimiter])) ∧
      headerAt (utf8 (s ++ t)) (utf8 s).length = .ok (some (utf8 kind, (utf8 (s ++ front)).length)) := by
  obtain ⟨gap, name, gap', rest, rfl, hgap, hname, hgap', hstart, htail, hrest⟩ := exists_header t
  have hheader := headerAt_utf8 s hgap hname hgap' hstart htail hrest
  rw [h] at hheader
  rw [header?_parts gap name gap' rest hgap hname hgap' hstart htail hrest] at h
  cases name with
  | nil => cases h
  | cons c cs =>
      cases rest with
      | nil => cases h
      | cons d ds =>
          obtain ⟨hletter, h⟩ := Option.ite_none_right_eq_some.1 h
          obtain ⟨close', hclose, heq⟩ := Option.map_eq_some_iff.1 h
          cases heq
          refine ⟨gap ++ (c :: cs ++ gap'), d, by simp, hclose, ?_, hheader⟩
          exact ⟨gap, gap', d, by simp, hgap, ⟨⟨c, cs, rfl, hletter⟩, hname⟩, hgap', hclose⟩

theorem ne_at_of_mem_utf8 {t : Text} (ht : '@' ∉ t) :
    ∀ b ∈ utf8 t, (Char.ofUInt8 b == '@') = false := by
  refine (isAsciiClass_eq (a := '@') (by decide)).ofByte_of_mem ?_
  intro c hc
  exact beq_false_of_ne fun h => ht (h ▸ hc)

/-- No byte of another character is taken for an at sign. -/
theorem findIdx?_at {w : Text} (hw : '@' ∉ w) (t : Text) :
    (utf8 (w ++ '@' :: t)).findIdx? (fun b => Char.ofUInt8 b == '@') = some (utf8 w).length := by
  have hat : utf8 ('@' :: t) = 64 :: utf8 t := by
    rw [Text.utf8_cons]
    rfl
  rw [Text.utf8_append, hat, List.findIdx?_append,
    List.findIdx?_eq_none_iff.2 (ne_at_of_mem_utf8 hw), List.findIdx?_cons]
  simp only [show (Char.ofUInt8 64 == '@') = true from rfl]
  simp

/-- Behind the last at sign there is no block. -/
theorem roundAt_of_not_mem (s : Text) {t : Text} (ht : '@' ∉ t) :
    roundAt (utf8 (s ++ t)) (utf8 s).length = .ok none := by
  rw [roundAt, slice_utf8_end s t, ok_bind, List.findIdx?_eq_none_iff.2 (ne_at_of_mem_utf8 ht)]
  rfl

/-- An at sign that no header follows is passed over. -/
theorem roundAt_of_no_header (s : Text) {w t : Text} (hw : '@' ∉ w) (h : header? t = none) :
    roundAt (utf8 (s ++ (w ++ '@' :: t))) (utf8 s).length =
      .ok (some (none, (utf8 (s ++ (w ++ ['@']))).length)) := by
  have hnext : (utf8 (s ++ (w ++ ['@']))).length = (utf8 s).length + (utf8 w).length + 1 := by
    rw [← List.append_assoc, length_utf8_ascii (by decide), Text.utf8_append, List.length_append]
  have hheader := headerAt_of_none (s ++ (w ++ ['@'])) h
  have hassoc : s ++ (w ++ ['@']) ++ t = s ++ (w ++ '@' :: t) := by simp
  rw [hassoc, hnext] at hheader
  rw [roundAt, slice_utf8_end s (w ++ '@' :: t), ok_bind, findIdx?_at hw, hnext]
  simp only [hheader, ok_bind]
  rfl

/-- The next round begins behind the character at the end of the body, if there is one. -/
theorem next_of_ends {close : Char} {body tail : Text} (h : Ends close body tail)
    (hclose : close.toNat < 128) (s : Text) :
    min ((utf8 s).length + 1) (utf8 (s ++ tail)).length = (utf8 (s ++ tail.take 1)).length := by
  have hone : ∀ c : Char, c.toNat < 128 → ∀ cs : Text,
      min ((utf8 s).length + 1) (utf8 (s ++ c :: cs)).length = (utf8 (s ++ [c])).length := by
    intro c hc cs
    have := length_utf8_lt s c cs
    rw [length_utf8_ascii hc]
    omega
  cases h with
  | closed rest => exact hone close hclose rest
  | unclosed _ _ _ htail =>
      rcases htail with rfl | ⟨rest, rfl⟩
      · simp
      · exact hone '\n' (by decide) ('@' :: rest)

/-- One round finds the block behind the next at sign, in its place and with what ends it. -/
theorem roundAt_of_header (s : Text) {w t kind more : Text} {close : Char} (hw : '@' ∉ w)
    (h : header? t = some (kind, close, more)) :
    ∃ opening tail, '@' :: t = opening ++ ((cutBody close more).1 ++ tail) ∧
      Opens kind close opening ∧ Ends close (cutBody close more).1 tail ∧
      (cutBody close more).2 = tail.tail ∧
      roundAt (utf8 (s ++ (w ++ '@' :: t))) (utf8 s).length =
        .ok (some (some (.behind (s ++ w) opening ⟨kind, (cutBody close more).1⟩),
          (utf8 (s ++ (w ++ (opening ++ ((cutBody close more).1 ++ tail.take 1))))).length)) := by
  obtain ⟨tail, hmore, hrest, hends⟩ := cutBody_ends close more
  obtain ⟨front, d, rfl, hclose, hopens, hheader⟩ := headerAt_of_some (s ++ (w ++ ['@'])) h
  have hbody := bodyEndAt_utf8 (code_of_close hclose) (s ++ (w ++ '@' :: (front ++ [d]))) more
  generalize (cutBody close more).1 = body at *
  subst hmore
  refine ⟨'@' :: (front ++ [d]), tail, by simp, hopens, hends, hrest, ?_⟩
  have hstart : (utf8 s).length + (utf8 w).length = (utf8 (s ++ w)).length := by
    rw [Text.utf8_append, List.length_append]
  have hsign := length_utf8_ascii (c := '@') (by decide) (s ++ w)
  have hchar := charAt_utf8 (code_of_closing? hclose) (s ++ (w ++ '@' :: front)) (body ++ tail)
  have hopening := length_utf8_ascii (code_of_closing? hclose) (s ++ (w ++ '@' :: front))
  have hslice := slice_utf8 (s ++ (w ++ '@' :: (front ++ [d]))) body tail
  have hnext := next_of_ends hends (code_of_close hclose) (s ++ (w ++ '@' :: (front ++ d :: body)))
  simp only [List.append_assoc, List.cons_append, List.nil_append] at hheader hsign hchar hopening
  simp only [List.append_assoc, List.cons_append, List.nil_append] at hbody hslice hnext
  rw [roundAt, slice_utf8_end s, ok_bind, findIdx?_at hw]
  simp only [hstart, ← hsign, hheader, ok_bind, hchar, close_of_closing? hclose, ← hopening, hbody,
    hslice, hnext, Place.behind, List.append_assoc, List.cons_append, List.nil_append]
  rfl

/-! ## All rounds -/

/-- A place is that of a block: at an at sign stand type, opening delimiter and body, and behind the
body stands what ends it. -/
def Stands (t : Text) (p : Place) (b : Block) : Prop :=
  ∃ before opening close tail, t = before ++ (opening ++ (b.body ++ tail)) ∧
    Opens b.kind close opening ∧ Ends close b.body tail ∧ p = .behind before opening b

/-- Behind any part of a text, a round of the scanner ends where the blocks are read on. -/
theorem scanner_reads (s t : Text) :
    (scanner (utf8 (s ++ t))).Reads scan (Stands (s ++ t)) Place.start (·.bodyEnd + 1) s t := by
  -- The text up to the next at sign holds no block.
  obtain ⟨w, rest, rfl, hw, hrest⟩ := Text.exists_stop (· != '@') t
  have hat : '@' ∉ w := fun h => absurd (hw '@' h) (by decide)
  cases rest with
  | nil =>
      rw [List.append_nil]
      exact .done (roundAt_of_not_mem s hat) (scan_of_not_mem hat)
  | cons c cs =>
      obtain rfl : c = '@' := by simpa using hrest c rfl
      cases hheader : header? cs with
      | none =>
          have hround := roundAt_of_no_header s hat hheader
          have hassoc : w ++ '@' :: cs = (w ++ ['@']) ++ cs := by simp
          have hitems : scan (w ++ '@' :: cs) = scan cs := by
            rw [scan_append_of_not_mem hat, scan_at_of_none hheader]
          rw [hassoc] at hround hitems ⊢
          exact .skipped (by simp) hround hitems
      | some header =>
          obtain ⟨kind, close, more⟩ := header
          obtain ⟨opening, tail, heq, hopens, hends, hbehind, hround⟩ :=
            roundAt_of_header s hat hheader
          have hitems : scan (w ++ '@' :: cs) = ⟨kind, (cutBody close more).1⟩ :: scan tail.tail := by
            rw [scan_append_of_not_mem hat, scan_at hheader, hbehind]
          -- The block ends with the first character of `tail`, if there is one.
          generalize (cutBody close more).1 = body at *
          have hassoc : w ++ '@' :: cs = (w ++ (opening ++ (body ++ tail.take 1))) ++ tail.tail := by
            rw [heq]
            cases tail <;> simp
          have hstands : Stands (s ++ (w ++ '@' :: cs)) (.behind (s ++ w) opening ⟨kind, body⟩)
              ⟨kind, body⟩ := by
            refine ⟨s ++ w, opening, close, tail, ?_, hopens, hends, rfl⟩
            rw [heq, List.append_assoc]
          rw [hassoc] at hround hitems hstands ⊢
          refine .found ?_ hround hitems hstands (length_utf8_le s w) ?_
          · obtain ⟨gap, gap', delimiter, rfl, -⟩ := hopens
            simp
          · -- At the end of the text nothing is left, else the next round begins further on.
            cases tail with
            | nil =>
                right
                rw [List.tail_nil, scan]
            | cons d ds =>
                left
                have hlt := length_utf8_lt (s ++ (w ++ (opening ++ body))) d []
                simp only [Place.behind, List.append_assoc, List.take_succ_cons,
                  List.take_zero] at hlt ⊢
                exact hlt

/-- The scanner in place reads every text to the end without a fault, going forward in each round.
It finds the blocks of the text, each where it stands and behind all of the one before. -/
theorem scan_places (t : Text) :
    ∃ places, (scanner (utf8 t)).run 0 = .ok places ∧ List.Forall₂ (Stands t) places (scan t) ∧
      (places.Pairwise fun p q => p.bodyEnd < q.start) ∧
      ∀ pos found next, roundAt (utf8 t) pos = .ok (some (found, next)) →
        pos < next ∧ next ≤ (utf8 t).length := by
  have hreads : ∀ s rest, t = s ++ rest →
      (scanner (utf8 t)).Reads scan (Stands t) Place.start (·.bodyEnd + 1) s rest := by
    rintro s rest rfl
    exact scanner_reads s rest
  obtain ⟨places, hplaces, hstands, -, hsorted⟩ := Rounds.run_reads hreads [] t rfl
  exact ⟨places, hplaces, hstands, hsorted, fun pos found next h => roundAt_lt h⟩

end Block

end Bibliography

end CiteIndex
