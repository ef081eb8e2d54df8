import CiteIndex.Proofs.Bibliography.FieldSpacing
import CiteIndex.Proofs.Text.Positions

/-!
# Cuts in place

The cuts of a text at the top level, behind a braced value and behind a quoted one, as searches for
a position in the bytes of the text. Only the search for the end of a braced value lowers a counter
that might be at zero, and it never is where the search begins at an opening brace.

- `topStep`, `groupStep`, `quoteStep`: what such a search does at a character
- `search_topStep`, `search_groupStep`, `search_quoteStep`: the position is that of the cut
-/

namespace CiteIndex

namespace Bibliography

open InPlace

open Text (utf8)

/-- Looks for `stop` outside all braces and quotes. -/
def topStep (stop : Char) (s : Nesting) (c : Char) : Except Fault (Option Nesting) :=
  if c = stop ∧ s.isTop then .ok none else .ok (some (s.step c))

/-- Looks for the brace that closes as many groups as are open, which counts braces only. -/
def groupStep (depth : Nat) (c : Char) : Except Fault (Option Nat) :=
  if c = '{' then .ok (some (depth + 1))
  else if c = '}' then
    if depth = 0 then .error .counter
    else if depth = 1 then .ok none
    else .ok (some (depth - 1))
  else .ok (some depth)

/-- Looks for a quote at brace depth zero. A brace that closes nothing is passed over. -/
def quoteStep (depth : Nat) (c : Char) : Except Fault (Option Nat) :=
  if c = '"' ∧ depth = 0 then .ok none
  else if c = '{' then .ok (some (depth + 1))
  else if c = '}' then .ok (some (depth - 1))
  else .ok (some depth)

theorem ne_of_beyond {c d : Char} (hc : 128 ≤ c.toNat) (hd : d.toNat < 128) : c ≠ d := by
  rintro rfl
  omega

theorem isAsciiClass_isAsciiBlank : IsAsciiClass Text.isAsciiBlank := by
  apply IsAsciiClass.of_lt
  intro c hc
  simp only [Text.isAsciiBlank, Bool.or_eq_true, beq_iff_eq] at hc
  rcases hc with (((rfl | rfl) | rfl) | rfl) | rfl <;> decide

theorem isAsciiSearch_topStep {stop : Char} (hstop : stop.toNat < 128) :
    IsAsciiSearch (topStep stop) := by
  intro s c hc
  have hplain : c ≠ '{' ∧ c ≠ '}' ∧ c ≠ '"' :=
    ⟨ne_of_beyond hc (by decide), ne_of_beyond hc (by decide), ne_of_beyond hc (by decide)⟩
  rw [topStep, if_neg fun h => ne_of_beyond hc hstop h.1, s.step_of_plain hplain]

theorem isAsciiSearch_groupStep : IsAsciiSearch groupStep := by
  intro d c hc
  rw [groupStep, if_neg (ne_of_beyond hc (by decide)), if_neg (ne_of_beyond hc (by decide))]

theorem isAsciiSearch_quoteStep : IsAsciiSearch quoteStep := by
  intro d c hc
  have hquote : c ≠ '"' := ne_of_beyond hc (by decide)
  rw [quoteStep, if_neg fun h => hquote h.1, if_neg (ne_of_beyond hc (by decide)),
    if_neg (ne_of_beyond hc (by decide))]

/-- A position that is counted from behind a character is counted from before it. -/
theorem map_consLeft_position (c : Char) (i : Nat) (cut? : Option (Text × Text)) :
    (cut?.map fun cut => i + (utf8 [c]).length + (utf8 cut.1).length) =
      (cut?.map (Text.consLeft c)).map fun cut => i + (utf8 cut.1).length := by
  rw [Option.map_map]
  congr 1
  funext cut
  have hbytes : utf8 (c :: cut.1) = utf8 [c] ++ utf8 cut.1 := Text.utf8_append [c] cut.1
  rw [Function.comp_apply, Text.consLeft, hbytes, List.length_append, Nat.add_assoc]

/-- The search ends where a text is cut at the top level. -/
theorem search_topStep {stop : Char} (hstop : stop.toNat < 128) (s : Nesting) (i : Nat) (t : Text) :
    search (topStep stop) s i (utf8 t) =
      .ok ((cutAtTop? stop s t).map fun cut => i + (utf8 cut.1).length) := by
  induction t generalizing s i with
  | nil => rfl
  | cons c cs ih =>
      rw [search_utf8_cons (isAsciiSearch_topStep hstop), topStep, cutAtTop?]
      by_cases hc : c = stop ∧ s.isTop
      · rw [if_pos hc, if_pos hc]
        rfl
      · rw [if_neg hc, if_neg hc]
        exact (ih _ _).trans (congrArg Except.ok (map_consLeft_position c i _))

/-- The counter is one above the number of inner groups, so it is not at zero at any brace that
closes a group. -/
theorem search_groupStep (depth i : Nat) (t : Text) :
    search groupStep (depth + 1) i (utf8 t) =
      .ok ((cutGroup? depth t).map fun cut => i + (utf8 cut.1).length) := by
  induction t generalizing depth i with
  | nil => rfl
  | cons c cs ih =>
      rw [search_utf8_cons isAsciiSearch_groupStep, groupStep, cutGroup?.eq_def]
      simp only
      by_cases hopen : c = '{'
      · rw [if_pos hopen, if_pos hopen]
        exact (ih _ _).trans (congrArg Except.ok (map_consLeft_position c i _))
      · rw [if_neg hopen, if_neg hopen]
        by_cases hclose : c = '}'
        · rw [if_pos hclose, if_pos hclose]
          cases depth with
          | zero => rfl
          | succ d => exact (ih _ _).trans (congrArg Except.ok (map_consLeft_position c i _))
        · rw [if_neg hclose, if_neg hclose]
          exact (ih _ _).trans (congrArg Except.ok (map_consLeft_position c i _))

/-- The search ends at the quote where a text is cut. -/
theorem search_quoteStep (depth i : Nat) (t : Text) :
    search quoteStep depth i (utf8 t) =
      .ok ((cutQuote? depth t).map fun cut => i + (utf8 cut.1).length) := by
  induction t generalizing depth i with
  | nil => rfl
  | cons c cs ih =>
      rw [search_utf8_cons isAsciiSearch_quoteStep, quoteStep, cutQuote?]
      by_cases hquote : c = '"' ∧ depth = 0
      · rw [if_pos hquote, if_pos hquote]
        rfl
      · rw [if_neg hquote, if_neg hquote]
        by_cases hopen : c = '{'
        · rw [if_pos hopen, if_pos hopen]
          exact (ih _ _).trans (congrArg Except.ok (map_consLeft_position c i _))
        · rw [if_neg hopen, if_neg hopen]
          by_cases hclose : c = '}'
          · rw [if_pos hclose, if_pos hclose]
            exact (ih _ _).trans (congrArg Except.ok (map_consLeft_position c i _))
          · rw [if_neg hclose, if_neg hclose]
            exact (ih _ _).trans (congrArg Except.ok (map_consLeft_position c i _))

end Bibliography

end CiteIndex
