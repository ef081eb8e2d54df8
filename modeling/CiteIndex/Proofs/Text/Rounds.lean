import CiteIndex.Proofs.Text.Positions
import Mathlib.Data.List.Forall2

/-!
# Reading in rounds

A reader in place goes through a text in rounds, and each of them begins where the one before
ended. As no round ends at its start, the reader comes to an end whatever the bytes are. What it
finds in the bytes of a text follows from what one round does at the position behind any part of the
text.

- `InPlace.Rounds`, `InPlace.Rounds.run`: such a reader, and all that it finds
- `InPlace.Rounds.Reads`: one round beside a reader that takes the text apart
- `InPlace.Rounds.run_reads`: all rounds
-/

namespace CiteIndex

namespace InPlace

open Text (utf8)

/-- A reader of bytes in rounds. A round may find something, and then says where the next one
begins. The last one says that nothing is left. -/
structure Rounds (α : Type) where
  round : Nat → Except Fault (Option (Option α × Nat))
  size : Nat
  progress : ∀ pos found next, round pos = .ok (some (found, next)) → pos < next ∧ next ≤ size

namespace Rounds

variable {α β : Type}

def run (r : Rounds α) (pos : Nat) : Except Fault (List α) :=
  match _round : r.round pos with
  | .error e => .error e
  | .ok none => .ok []
  | .ok (some (found, next)) => (r.run next).map (found.toList ++ ·)
termination_by r.size - pos
decreasing_by
  have := r.progress pos found next _round
  omega

theorem run_of_none {r : Rounds α} {pos : Nat} (h : r.round pos = .ok none) :
    r.run pos = .ok [] := by
  rw [run]
  split <;> rename_i heq <;> rw [h] at heq <;> cases heq

/-- What a run finds begins with what its first round finds. -/
theorem run_of_some {r : Rounds α} {pos next : Nat} {found : Option α}
    (h : r.round pos = .ok (some (found, next))) :
    r.run pos = (r.run next).map (found.toList ++ ·) := by
  rw [run]
  split <;> rename_i heq <;> rw [h] at heq <;> cases heq
  rfl

/-- What a round does behind `s`, where a reader that takes texts apart reads `items` from the rest of
the text. It ends behind a part of the rest, and what it finds there stands for the first item. -/
inductive Reads (r : Rounds α) (items : Text → List β) (Stands : α → β → Prop)
    (start stop : α → Nat) (s : Text) : Text → Prop where
  | done {t : Text} (hround : r.round (utf8 s).length = .ok none) (hitems : items t = []) :
      Reads r items Stands start stop s t
  | skipped {front rest : Text} (hne : front ≠ [])
      (hround : r.round (utf8 s).length = .ok (some (none, (utf8 (s ++ front)).length)))
      (hitems : items (front ++ rest) = items rest) :
      Reads r items Stands start stop s (front ++ rest)
  | found {front rest : Text} {a : α} {b : β} (hne : front ≠ [])
      (hround : r.round (utf8 s).length = .ok (some (some a, (utf8 (s ++ front)).length)))
      (hitems : items (front ++ rest) = b :: items rest) (hstands : Stands a b)
      (hstart : (utf8 s).length ≤ start a)
      (hstop : stop a ≤ (utf8 (s ++ front)).length ∨ items rest = []) :
      Reads r items Stands start stop s (front ++ rest)

/-- The reader finds all items of a text, one behind the other. -/
theorem run_reads {r : Rounds α} {items : Text → List β} {Stands : α → β → Prop}
    {start stop : α → Nat} {text : Text}
    (hreads : ∀ s t, text = s ++ t → Reads r items Stands start stop s t) (s t : Text)
    (htext : text = s ++ t) :
    ∃ places, r.run (utf8 s).length = .ok places ∧ List.Forall₂ Stands places (items t) ∧
      (∀ p ∈ places, (utf8 s).length ≤ start p) ∧
      places.Pairwise fun p q => stop p ≤ start q := by
  have hshort : ∀ {front rest : Text}, front ≠ [] → rest.length < (front ++ rest).length := by
    intro front rest hne
    have := List.length_pos_iff.2 hne
    rw [List.length_append]
    omega
  induction hlen : t.length using Nat.strongRecOn generalizing s t with
  | ind n ih =>
      subst hlen
      cases hreads s t htext with
      | done hround hitems =>
          refine ⟨[], run_of_none hround, ?_, by simp, .nil⟩
          rw [hitems]
          exact .nil
      | @skipped front rest hne hround hitems =>
          obtain ⟨places, hplaces, hstands, hbounds, hsorted⟩ :=
            ih _ (hshort hne) (s ++ front) rest (by rw [htext, List.append_assoc]) rfl
          refine ⟨places, ?_, ?_, ?_, hsorted⟩
          · rw [run_of_some hround, hplaces]
            rfl
          · rwa [hitems]
          · exact fun p hp => Nat.le_trans (length_utf8_le s front) (hbounds p hp)
      | @found front rest a b hne hround hitems hstandsA hstart hstop =>
          obtain ⟨places, hplaces, hstands, hbounds, hsorted⟩ :=
            ih _ (hshort hne) (s ++ front) rest (by rw [htext, List.append_assoc]) rfl
          refine ⟨a :: places, ?_, ?_, ?_, .cons ?_ hsorted⟩
          · rw [run_of_some hround, hplaces]
            rfl
          · rw [hitems]
            exact .cons hstandsA hstands
          · refine List.forall_mem_cons.2 ⟨hstart, fun p hp => ?_⟩
            exact Nat.le_trans (length_utf8_le s front) (hbounds p hp)
          · intro p hp
            rcases hstop with hstop | hrest
            · exact Nat.le_trans hstop (hbounds p hp)
            -- Where nothing is left, nothing stands behind.
            · rw [hrest] at hstands
              cases hstands
              cases hp

end Rounds

end InPlace

end CiteIndex
