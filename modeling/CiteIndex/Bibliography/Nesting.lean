import CiteIndex.Text.Blank

/-!
# Braces and quotes

What separates the parts of a bibliography block counts only outside braces and quotes. One
state, `Nesting`, follows both through a text, and everything that looks for a separating
character looks for its first occurrence at the top level of that state.

- `Nesting.step`: the state after one more character
- `cutAtTop?`: cut at the first top-level occurrence of a character
- `splitCommas`: the pieces between the top-level commas
- `cutGroup?`, `cutQuote?`: the inside of a braced and of a quoted value
-/

namespace CiteIndex

namespace Bibliography

/-! ## The state -/

structure Nesting where
  depth : Nat
  quoted : Bool
  deriving DecidableEq, Repr

namespace Nesting

def outside : Nesting := ⟨0, false⟩

def isTop (s : Nesting) : Bool :=
  s.depth == 0 && !s.quoted

/-- The state after a character. -/
def step (s : Nesting) (c : Char) : Nesting :=
  if c = '{' then { s with depth := s.depth + 1 }
  -- A brace that closes nothing leaves the depth at zero.
  else if c = '}' then { s with depth := s.depth - 1 }
  else if c = '"' then
    -- A quote inside braces is a character like any other.
    match s.depth with
    | 0 => { s with quoted := !s.quoted }
    | _ => s
  else s

def after (s : Nesting) (t : Text) : Nesting :=
  t.foldl step s

end Nesting

/-! ## Cuts at the top level -/

/-- What stands before and after the first top-level occurrence of `stop`. -/
def cutAtTop? (stop : Char) (s : Nesting) : Text → Option (Text × Text)
  | [] => none
  | c :: cs =>
    if c = stop ∧ s.isTop then some ([], cs)
    else (cutAtTop? stop (s.step c) cs).map (Text.consLeft c)

/-- The text after the first top-level comma, nothing if there is none. -/
def afterComma (t : Text) : Text :=
  match cutAtTop? ',' .outside t with
  | some (_, rest) => rest
  | none => []

/-- The pieces between the top-level commas of a text read in state `s`. -/
def splitCommasFrom (s : Nesting) : Text → List Text
  | [] => [[]]
  | c :: cs =>
    if c = ',' ∧ s.isTop then [] :: splitCommasFrom (s.step c) cs
    else Text.consHead c (splitCommasFrom (s.step c) cs)

/-- The pieces between the top-level commas. There is always at least one. -/
def splitCommas (t : Text) : List Text :=
  splitCommasFrom .outside t

/-! ## Inside a value -/

/-- What stands before and after the brace that closes a group, where `depth` further groups are
open at the start. -/
def cutGroup? : Nat → Text → Option (Text × Text)
  | _, [] => none
  -- Quotes have no meaning here.
  | depth, c :: cs =>
    if c = '{' then (cutGroup? (depth + 1) cs).map (Text.consLeft c)
    else if c = '}' then
      match depth with
      | 0 => some ([], cs)
      | d + 1 => (cutGroup? d cs).map (Text.consLeft c)
    else (cutGroup? depth cs).map (Text.consLeft c)

/-- What stands before and after the first quote at brace depth zero, where `depth` braces are
open at the start. -/
def cutQuote? : Nat → Text → Option (Text × Text)
  | _, [] => none
  | depth, c :: cs =>
    if c = '"' ∧ depth = 0 then some ([], cs)
    else if c = '{' then (cutQuote? (depth + 1) cs).map (Text.consLeft c)
    -- A brace that closes nothing is passed over.
    else if c = '}' then (cutQuote? (depth - 1) cs).map (Text.consLeft c)
    else (cutQuote? depth cs).map (Text.consLeft c)

/-! ## Lengths -/

/-- What stands behind a cut lacks at least the character at the cut. -/
theorem length_lt_of_cutAtTop? {stop : Char} {s : Nesting} {t before rest : Text}
    (h : cutAtTop? stop s t = some (before, rest)) : rest.length < t.length := by
  induction t generalizing s before with
  | nil => simp [cutAtTop?] at h
  | cons c cs ih =>
    rw [cutAtTop?] at h
    split at h
    · cases h
      simp
    · obtain ⟨_, hcut, _⟩ := Text.map_consLeft_eq_some h
      exact Nat.lt_succ_of_lt (ih hcut)

theorem length_afterComma_lt {t : Text} (h : t ≠ []) : (afterComma t).length < t.length := by
  unfold afterComma
  split
  · rename_i hcut
    exact length_lt_of_cutAtTop? hcut
  · exact List.length_pos_iff.2 h

theorem length_afterComma_le (t : Text) : (afterComma t).length ≤ t.length := by
  cases t with
  | nil => simp [afterComma, cutAtTop?]
  | cons c cs => exact Nat.le_of_lt (length_afterComma_lt (List.cons_ne_nil c cs))

theorem length_lt_of_cutGroup? {depth : Nat} {t inside rest : Text}
    (h : cutGroup? depth t = some (inside, rest)) : rest.length < t.length := by
  fun_induction cutGroup? depth t generalizing inside with
  | case1 => cases h
  | case2 _ _ ih | case4 _ _ _ ih | case5 _ _ _ _ _ ih =>
    obtain ⟨_, hcut, _⟩ := Text.map_consLeft_eq_some h
    exact Nat.lt_succ_of_lt (ih hcut)
  | case3 =>
    cases h
    simp

theorem length_lt_of_cutQuote? {depth : Nat} {t inside rest : Text}
    (h : cutQuote? depth t = some (inside, rest)) : rest.length < t.length := by
  fun_induction cutQuote? depth t generalizing inside with
  | case1 => cases h
  | case2 =>
    cases h
    simp
  | case3 _ _ _ ih | case4 _ _ _ _ ih | case5 _ _ _ _ _ _ ih =>
    obtain ⟨_, hcut, _⟩ := Text.map_consLeft_eq_some h
    exact Nat.lt_succ_of_lt (ih hcut)

end Bibliography

end CiteIndex
