import CiteIndex.Bibliography.Nesting
import CiteIndex.Proofs.Text.Squeezing

/-!
# Balance

How the state of braces and quotes moves through a text, and when a text cannot hold the end of
what surrounds it. A text whose braces are balanced never ends a group it stands in, whatever its
quotes are, and leaves the state as it found it.

- `Passes`: reading a text meets no stop at the top level and leads from one state to another
- `braceDepth?`: the depth behind a text in which no brace closes more than is open
- `Passes.group`, `Passes.quote`: a braced and a quoted value are passed over as a whole
-/

namespace CiteIndex

namespace Bibliography

/-! ## The state behind a text -/

namespace Nesting

@[simp] theorem after_nil (s : Nesting) : s.after [] = s := rfl

@[simp] theorem after_cons (s : Nesting) (c : Char) (t : Text) :
    s.after (c :: t) = (s.step c).after t := rfl

theorem after_append (s : Nesting) (t u : Text) : s.after (t ++ u) = (s.after t).after u :=
  List.foldl_append

/-- Only braces and quotes change the state. -/
theorem step_of_plain (s : Nesting) {c : Char} (h : c ≠ '{' ∧ c ≠ '}' ∧ c ≠ '"') :
    s.step c = s := by
  rw [step, if_neg h.1, if_neg h.2.1, if_neg h.2.2]

/-- Inside braces a quote counts for nothing. -/
theorem step_quote_inner {s : Nesting} (h : s.depth ≠ 0) : s.step '"' = s := by
  rcases s with ⟨depth, quoted⟩
  cases depth with
  | zero => exact absurd rfl h
  | succ d => rfl

end Nesting

/-! ## Texts without a stop -/

/-- Reading `t` in state `s` meets no `stop` at the top level and ends in state `s'`. -/
def Passes (stop : Char) (s : Nesting) (t : Text) (s' : Nesting) : Prop :=
  cutAtTop? stop s t = none ∧ s.after t = s'

namespace Passes

variable {stop : Char} {s s' s'' : Nesting} {t u : Text}

theorem nil (stop : Char) (s : Nesting) : Passes stop s [] s :=
  ⟨rfl, rfl⟩

theorem cons {c : Char} (hc : ¬(c = stop ∧ s.isTop)) (ht : Passes stop (s.step c) t s') :
    Passes stop s (c :: t) s' := by
  refine ⟨?_, ht.2⟩
  rw [cutAtTop?, if_neg hc, ht.1]
  rfl

/-- What is cut behind a passed text is what is cut from the rest. -/
theorem cut (ht : Passes stop s t s') (rest : Text) :
    cutAtTop? stop s (t ++ rest) =
      (cutAtTop? stop s' rest).map fun cut => (t ++ cut.1, cut.2) := by
  rcases ht with ⟨hcut, rfl⟩
  induction t generalizing s with
  | nil => cases h : cutAtTop? stop s rest <;> simp [h]
  | cons c cs ih =>
      rw [cutAtTop?] at hcut
      split at hcut
      · cases hcut
      · rename_i hc
        rw [Option.map_eq_none_iff] at hcut
        rw [List.cons_append, cutAtTop?, if_neg hc, ih hcut, Option.map_map]
        rfl

theorem append (ht : Passes stop s t s') (hu : Passes stop s' u s'') :
    Passes stop s (t ++ u) s'' := by
  refine ⟨?_, ?_⟩
  · rw [ht.cut, hu.1]
    rfl
  · rw [Nesting.after_append, ht.2, hu.2]

/-- The first stop behind a passed text is where the text is cut. -/
theorem cut_stop (ht : Passes stop s t s') (htop : s'.isTop) (rest : Text) :
    cutAtTop? stop s (t ++ stop :: rest) = some (t, rest) := by
  rw [ht.cut, cutAtTop?, if_pos ⟨rfl, htop⟩]
  simp

/-- A text without braces, quotes and `stop` passes in every state. -/
theorem of_plain (s : Nesting) (h : ∀ c ∈ t, c ≠ '{' ∧ c ≠ '}' ∧ c ≠ '"' ∧ c ≠ stop) :
    Passes stop s t s := by
  induction t with
  | nil => exact nil stop s
  | cons c cs ih =>
      rcases List.forall_mem_cons.1 h with ⟨hc, hcs⟩
      refine cons (fun hstop => hc.2.2.2 hstop.1) ?_
      rw [s.step_of_plain ⟨hc.1, hc.2.1, hc.2.2.1⟩]
      exact ih hcs

end Passes

/-- A cut is made at the first `stop` at the top level, and all that stands before it passes. -/
theorem eq_append_of_cutAtTop? {stop : Char} {s : Nesting} {t before rest : Text}
    (h : cutAtTop? stop s t = some (before, rest)) :
    t = before ++ stop :: rest ∧ Passes stop s before (s.after before) ∧
      (s.after before).isTop := by
  induction t generalizing s before with
  | nil => cases h
  | cons c cs ih =>
      rw [cutAtTop?] at h
      split at h
      · rename_i hc
        cases h
        exact ⟨by rw [hc.1]; rfl, Passes.nil stop s, hc.2⟩
      · rename_i hc
        rcases Text.map_consLeft_eq_some h with ⟨left, hcut, rfl⟩
        rcases ih hcut with ⟨heq, hpass, htop⟩
        exact ⟨by rw [heq]; rfl, hpass.cons hc, htop⟩

/-- A cut stays where it is when the text goes on. -/
theorem cutAtTop?_append {stop : Char} {s : Nesting} {t before rest : Text}
    (h : cutAtTop? stop s t = some (before, rest)) (more : Text) :
    cutAtTop? stop s (t ++ more) = some (before, rest ++ more) := by
  rcases eq_append_of_cutAtTop? h with ⟨rfl, hpass, htop⟩
  rw [List.append_assoc, List.cons_append]
  exact hpass.cut_stop htop (rest ++ more)

/-! ## Cuts of a text with some characters left out -/

/-- Characters that are neither braces nor quotes nor the stop do not matter to a cut. -/
theorem cutAtTop?_filter {stop : Char} {p : Char → Bool}
    (hp : ∀ c, p c = false → c ≠ '{' ∧ c ≠ '}' ∧ c ≠ '"' ∧ c ≠ stop) (s : Nesting) (t : Text) :
    cutAtTop? stop s (t.filter p) =
      (cutAtTop? stop s t).map fun cut => (cut.1.filter p, cut.2.filter p) := by
  induction t generalizing s with
  | nil => rfl
  | cons c cs ih =>
      cases hc : p c with
      | true =>
          rw [List.filter_cons_of_pos hc, cutAtTop?, cutAtTop?]
          split
          · rfl
          · rw [ih, Option.map_map, Option.map_map]
            simp only [Function.comp_def, Text.consLeft, List.filter_cons_of_pos hc]
      -- The character is left out. It is no stop, and it leaves the state as it is.
      | false =>
          rcases hp c hc with ⟨hopen, hclose, hquote, hstop⟩
          rw [List.filter_cons_of_neg (by simp [hc]), cutAtTop?, if_neg fun h => hstop h.1,
            s.step_of_plain ⟨hopen, hclose, hquote⟩, ih, Option.map_map]
          simp only [Function.comp_def, Text.consLeft, List.filter_cons_of_neg, hc,
            Bool.false_eq_true, not_false_eq_true]

/-- White space plays no part in where a text is cut at a character that is none. -/
theorem cutsAtInk_cutAtTop? {stop : Char} (hstop : Text.isBlank stop = false) :
    Text.CutsAtInk (cutAtTop? stop) := by
  refine ⟨fun _ => rfl, fun s c hc cs => ?_, fun s c _ => ?_⟩
  · have hgo : c ≠ stop := Text.ne_of_isBlank hc hstop
    have hplain : c ≠ '{' ∧ c ≠ '}' ∧ c ≠ '"' :=
      ⟨Text.ne_of_isBlank hc rfl, Text.ne_of_isBlank hc rfl, Text.ne_of_isBlank hc rfl⟩
    rw [cutAtTop?, if_neg fun h => hgo h.1, s.step_of_plain hplain]
  · by_cases hc : c = stop ∧ s.isTop
    · exact .inl fun cs => by rw [cutAtTop?, if_pos hc]
    · exact .inr ⟨s.step c, fun cs => by rw [cutAtTop?, if_neg hc]⟩

/-- Neither does the length of gaps. -/
theorem cutAtTop?_squeezeFrom {stop : Char} (hstop : Text.isBlank stop = false) (inGap : Bool)
    (s : Nesting) (t : Text) :
    cutAtTop? stop s (Text.squeezeFrom inGap t) =
      (cutAtTop? stop s t).map fun cut =>
        (Text.squeezeFrom inGap cut.1, Text.squeezeFrom false cut.2) :=
  (cutsAtInk_cutAtTop? hstop).cut_squeezeFrom inGap s t

/-! ## Balanced braces -/

/-- The brace depth behind a text that is read at some depth, nothing if a brace closes more than
is open. Quotes have no meaning here. -/
def braceDepth? : Nat → Text → Option Nat
  | depth, [] => some depth
  | depth, c :: cs =>
    if c = '{' then braceDepth? (depth + 1) cs
    else if c = '}' then
      match depth with
      | 0 => none
      | d + 1 => braceDepth? d cs
    else braceDepth? depth cs

/-- Are all braces of a text closed in the text, and none that is not open. -/
def IsBalanced (t : Text) : Prop :=
  braceDepth? 0 t = some 0

instance (t : Text) : Decidable (IsBalanced t) :=
  inferInstanceAs (Decidable (_ = _))

/-- Does a text that is read at some brace depth hold no quote at depth zero. -/
def quotesAreInner : Nat → Text → Bool
  | _, [] => true
  | depth, c :: cs =>
    if c = '{' then quotesAreInner (depth + 1) cs
    else if c = '}' then quotesAreInner (depth - 1) cs
    else (c != '"' || depth != 0) && quotesAreInner depth cs

theorem braceDepth?_append (d : Nat) (t u : Text) :
    braceDepth? d (t ++ u) = (braceDepth? d t).bind fun d' => braceDepth? d' u := by
  fun_induction braceDepth? d t with
  | case1 d => rfl
  | case2 d cs ih => simpa [braceDepth?] using ih
  | case3 cs => simp [braceDepth?]
  | case4 cs d _ ih => simpa [braceDepth?] using ih
  | case5 d c cs h1 h2 ih => simpa [braceDepth?, h1, h2] using ih

/-- Only braces change the depth. -/
theorem braceDepth?_of_plain (d : Nat) {t : Text} (h : ∀ c ∈ t, c ≠ '{' ∧ c ≠ '}') :
    braceDepth? d t = some d := by
  induction t with
  | nil => rfl
  | cons c cs ih =>
      rcases List.forall_mem_cons.1 h with ⟨hc, hcs⟩
      simp [braceDepth?, hc.1, hc.2, ih hcs]

namespace Passes

variable {stop : Char} {d d' : Nat} {t : Text}

/-- Inside a group nothing is at the top level, so a text that does not close the group is
passed. -/
theorem inside (k : Nat) (q : Bool) (h : braceDepth? d t = some d') :
    Passes stop ⟨k + 1 + d, q⟩ t ⟨k + 1 + d', q⟩ := by
  fun_induction braceDepth? d t with
  | case1 d =>
      cases h
      exact nil stop _
  | case2 d cs ih => exact cons (by simp [Nesting.isTop]) (ih h)
  | case3 => cases h
  | case4 cs d _ ih => exact cons (by simp [Nesting.isTop]) (ih h)
  -- Anything but a brace. A quote counts for nothing here, as the depth is not zero.
  | case5 d c cs h1 h2 ih =>
      refine cons (by simp [Nesting.isTop]) ?_
      by_cases hquote : c = '"'
      · subst hquote
        rw [Nesting.step_quote_inner (by simp)]
        exact ih h
      · rw [Nesting.step_of_plain _ ⟨h1, h2, hquote⟩]
        exact ih h

/-- A braced value is passed over as a whole. -/
theorem group (hstop : stop ≠ '{') (s : Nesting) (h : IsBalanced t) :
    Passes stop s ('{' :: t ++ ['}']) s := by
  -- One brace deeper, through the inside at that depth, and out again.
  refine cons (fun hc => hstop hc.1.symm) ?_
  have hinside : Passes stop ⟨s.depth + 1, s.quoted⟩ t ⟨s.depth + 1, s.quoted⟩ :=
    inside s.depth s.quoted h
  refine hinside.append (cons (by simp [Nesting.isTop]) ?_)
  exact nil stop s

/-- Between quotes nothing is at the top level before the closing quote. -/
theorem insideQuotes (h : braceDepth? d t = some d') (hquote : quotesAreInner d t) :
    Passes stop ⟨d, true⟩ t ⟨d', true⟩ := by
  fun_induction braceDepth? d t with
  | case1 d =>
      cases h
      exact nil stop _
  | case2 d cs ih => exact cons (by simp [Nesting.isTop]) (ih h (by simpa [quotesAreInner] using hquote))
  | case3 => cases h
  | case4 cs d _ ih =>
      exact cons (by simp [Nesting.isTop]) (ih h (by simpa [quotesAreInner] using hquote))
  | case5 d c cs h1 h2 ih =>
      rw [quotesAreInner, if_neg h1, if_neg h2, Bool.and_eq_true] at hquote
      refine cons (by simp [Nesting.isTop]) ?_
      by_cases hc : c = '"'
      · -- The quote is inside braces, where it counts for nothing.
        subst hc
        cases d with
        | zero => simp at hquote
        | succ d => exact ih h hquote.2
      · rw [Nesting.step_of_plain _ ⟨h1, h2, hc⟩]
        exact ih h hquote.2

/-- A quoted value is passed over as a whole. -/
theorem quote (hstop : stop ≠ '"') (h : IsBalanced t) (hquote : quotesAreInner 0 t) :
    Passes stop .outside ('"' :: t ++ ['"']) .outside := by
  -- The first quote opens, and the inside leaves it to the last one to close.
  refine cons (fun hc => hstop hc.1.symm) ?_
  have hinside : Passes stop ⟨0, true⟩ t ⟨0, true⟩ := insideQuotes h hquote
  exact hinside.append (cons (fun hc => hstop hc.1.symm) (nil stop .outside))

end Passes

/-- The brace that closes a group is the one behind its balanced inside. -/
theorem cutGroup?_of_balanced {d : Nat} {t : Text} (h : braceDepth? d t = some 0) (rest : Text) :
    cutGroup? d (t ++ '}' :: rest) = some (t, rest) := by
  fun_induction braceDepth? d t with
  | case1 d =>
      cases h
      rfl
  | case2 d cs ih => simp [cutGroup?, ih h, Text.consLeft]
  | case3 => cases h
  | case4 cs d _ ih => simp [cutGroup?, ih h, Text.consLeft]
  | case5 d c cs h1 h2 ih => simp [cutGroup?, h1, h2, ih h, Text.consLeft]

/-- The quote that closes a value is the one behind its balanced inside. -/
theorem cutQuote?_of_balanced {d : Nat} {t : Text} (h : braceDepth? d t = some 0)
    (hquote : quotesAreInner d t) (rest : Text) :
    cutQuote? d (t ++ '"' :: rest) = some (t, rest) := by
  fun_induction braceDepth? d t with
  | case1 d =>
      cases h
      rfl
  | case2 d cs ih =>
      have hcs : quotesAreInner (d + 1) cs := by simpa [quotesAreInner] using hquote
      simp [cutQuote?, ih h hcs, Text.consLeft]
  | case3 => cases h
  | case4 cs d _ ih =>
      have hcs : quotesAreInner d cs := by simpa [quotesAreInner] using hquote
      simp [cutQuote?, ih h hcs, Text.consLeft]
  | case5 d c cs h1 h2 ih =>
      rw [quotesAreInner, if_neg h1, if_neg h2, Bool.and_eq_true] at hquote
      -- A quote at depth zero would have closed the value, and the text has none there.
      have hc : ¬(c = '"' ∧ d = 0) := by
        rintro ⟨rfl, rfl⟩
        simp at hquote
      simp [cutQuote?, h1, h2, hc, ih h hquote.2, Text.consLeft]

/-! ## Balance of a closed body -/

/-- The depth that a reader follows, which never goes below zero, is at least the counted one, and
where both move by the same the counted one did not go below the reader's start either. -/
theorem depth_after_of_braceDepth? {c c' : Nat} {t : Text} (h : braceDepth? c t = some c') (e : Nat)
    (q : Bool) :
    c' + e ≤ (Nesting.after ⟨e, q⟩ t).depth + c ∧
      (c' + e = (Nesting.after ⟨e, q⟩ t).depth + c →
        braceDepth? e t = some (Nesting.after ⟨e, q⟩ t).depth) := by
  fun_induction braceDepth? c t generalizing e q with
  | case1 c =>
      cases h
      exact ⟨by simp [Nat.add_comm], fun _ => rfl⟩
  | case2 c cs ih =>
      have ih := ih h (e + 1) q
      refine ⟨?_, fun heq => ?_⟩
      · have := ih.1
        simp only [Nesting.after_cons, Nesting.step, if_true]
        omega
      · simp only [Nesting.after_cons, Nesting.step, if_true] at heq ⊢
        exact ih.2 (by omega)
  | case3 => cases h
  | case4 cs c _ ih =>
      -- The counted depth falls. The reader's does too, unless it is at zero and stays there.
      cases e with
      | zero =>
          have := (ih h 0 q).1
          refine ⟨?_, fun heq => ?_⟩
          · change c' + 0 ≤ (Nesting.after ⟨0, q⟩ cs).depth + (c + 1)
            omega
          · change c' + 0 = (Nesting.after ⟨0, q⟩ cs).depth + (c + 1) at heq
            omega
      | succ e =>
          have ih := ih h e q
          refine ⟨?_, fun heq => ?_⟩
          · change c' + (e + 1) ≤ (Nesting.after ⟨e, q⟩ cs).depth + (c + 1)
            have := ih.1
            omega
          · change c' + (e + 1) = (Nesting.after ⟨e, q⟩ cs).depth + (c + 1) at heq
            exact ih.2 (by omega)
  | case5 c x cs h1 h2 ih =>
      -- Neither depth moves, and the quotes do not matter.
      obtain ⟨q', hstep⟩ : ∃ q', Nesting.step ⟨e, q⟩ x = ⟨e, q'⟩ := by
        by_cases hquote : x = '"'
        · subst hquote
          cases e
          · exact ⟨!q, rfl⟩
          · exact ⟨q, rfl⟩
        · exact ⟨q, Nesting.step_of_plain _ ⟨h1, h2, hquote⟩⟩
      have hdepth : braceDepth? e (x :: cs) = braceDepth? e cs := by simp [braceDepth?, h1, h2]
      rw [Nesting.after_cons, hstep, hdepth]
      exact ih h e q'

/-- A body that the reader finds closed, in braces that are balanced whatever the quotes are, is
balanced itself. -/
theorem isBalanced_of_closed {body : Text} (hbraces : IsBalanced ('{' :: body ++ ['}']))
    (htop : (Nesting.outside.after body).isTop) : IsBalanced body := by
  have hsum : (braceDepth? 1 body).bind (fun d => braceDepth? d ['}']) = some 0 := by
    rw [← braceDepth?_append]
    exact hbraces
  rcases Option.bind_eq_some_iff.1 hsum with ⟨d, hd, hlast⟩
  -- Before the last brace just the first one is open.
  have hdone : d = 1 := by
    match d, hlast with
    | 1, _ => rfl
  subst hdone
  have hzero : (Nesting.outside.after body).depth = 0 := by
    simp only [Nesting.isTop, Bool.and_eq_true, beq_iff_eq] at htop
    exact htop.1
  -- The reader counts one brace less than the balance does, since it starts behind the first.
  have h := (depth_after_of_braceDepth? hd 0 false).2
  change 1 + 0 = (Nesting.outside.after body).depth + 1 →
    braceDepth? 0 body = some (Nesting.outside.after body).depth at h
  rw [hzero] at h
  exact h rfl

end Bibliography

end CiteIndex
