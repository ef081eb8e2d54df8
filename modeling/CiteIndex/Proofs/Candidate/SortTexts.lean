import CiteIndex.Proofs.Candidate.Ranking
import CiteIndex.Proofs.Text.ByteOrder

/-!
# Sorting by plain text

A list that knows nothing of sort keys can sort candidates by the written forms of their keys,
byte by byte. A written form is one text, in which names may hold the colons that separate its
parts. It is still compared part by part: the names of kinds are a closed set, and none of them
begins with another.

- `Text.compare_append`: texts that part before their ends, whatever follows
- `LabelKind.eq_of_name_prefix`: no name of a kind begins with another
- `CandidateSource.compare_sortText`: written keys are compared as keys are
- `IsStableTextSort`: a list in the order of its written keys, equal ones as they came
- `Candidate.sorts_agree`: sorting by key and sorting by text
-/

namespace CiteIndex

namespace Text

/-! ## Texts in parts -/

theorem compare_cons_self (c : Char) (s t : Text) : compare (c :: s) (c :: t) = compare s t := by
  rw [compare]
  simp

/-- Of two texts none of which begins with the other only the first parts matter, unless they are
the same. -/
theorem compare_append {s s' : Text} (hs : s <+: s' → s = s') (hs' : s' <+: s → s = s')
    (t t' : Text) : compare (s ++ t) (s' ++ t') = (compare s s').then (compare t t') := by
  fun_induction compare s s' with
  | case1 => rfl
  | case2 b bs => cases hs (List.nil_prefix)
  | case3 a as => cases hs' (List.nil_prefix)
  | case4 a as b bs hlt =>
      rw [List.cons_append, List.cons_append, compare, if_pos hlt]
      rfl
  | case5 a as b bs hnot hlt =>
      rw [List.cons_append, List.cons_append, compare, if_neg hnot, if_pos hlt]
      rfl
  | case6 a as b bs hnot hnot' ih =>
      have heq : a = b := Char.le_antisymm (UInt32.not_lt.1 hnot') (UInt32.not_lt.1 hnot)
      subst heq
      rw [List.cons_append, List.cons_append, compare_cons_self]
      apply ih
      · intro h
        exact (List.cons.inj (hs ((List.prefix_cons_inj a).2 h))).2
      · intro h
        exact (List.cons.inj (hs' ((List.prefix_cons_inj a).2 h))).2

end Text

namespace LabelKind

theorem mem_all (kind : LabelKind) : kind ∈ all := by
  cases kind <;> decide

/-- No name of a kind begins with another. -/
theorem eq_of_name_prefix {kind kind' : LabelKind} : kind.name <+: kind'.name → kind = kind' := by
  have hall : ∀ k ∈ all, ∀ k' ∈ all, k.name <+: k'.name → k = k' := by decide
  exact hall kind kind.mem_all kind' kind'.mem_all

end LabelKind

/-! ## Written keys -/

def CandidateSource.candidate : CandidateSource → Candidate
  | .label l => Candidate.ofLabel l
  | .entry e => Candidate.ofEntry e

namespace CandidateSource

/-- Written keys are in the order of the keys that they write. -/
theorem compare_sortText (a b : CandidateSource) :
    Text.compare a.candidate.sortText b.candidate.sortText =
      a.candidate.sortKey.compare b.candidate.sortKey := by
  cases a with
  | label l =>
      cases b with
      | label l' =>
          have hkinds : l.kind.name <+: l'.kind.name → l.kind.name = l'.kind.name := by
            intro h
            rw [LabelKind.eq_of_name_prefix h]
          have hkinds' : l'.kind.name <+: l.kind.name → l.kind.name = l'.kind.name := by
            intro h
            rw [LabelKind.eq_of_name_prefix h]
          calc
            Text.compare ('0' :: ':' :: (l.kind.name ++ ':' :: l.name))
                ('0' :: ':' :: (l'.kind.name ++ ':' :: l'.name))
                = Text.compare (l.kind.name ++ ':' :: l.name) (l'.kind.name ++ ':' :: l'.name) := by
                  rw [Text.compare_cons_self, Text.compare_cons_self]
            _ = (Text.compare l.kind.name l'.kind.name).then
                  (Text.compare (':' :: l.name) (':' :: l'.name)) :=
                  Text.compare_append hkinds hkinds' _ _
            _ = (Text.compare l.kind.name l'.kind.name).then (Text.compare l.name l'.name) := by
                  rw [Text.compare_cons_self]
      -- A label and an entry part at their first characters.
      | entry e => rfl
  | entry e =>
      cases b with
      | label l => rfl
      | entry e' =>
          calc
            Text.compare ('1' :: ':' :: e.key) ('1' :: ':' :: e'.key)
                = Text.compare e.key e'.key := by
                  rw [Text.compare_cons_self, Text.compare_cons_self]

/-- Bytes of written keys are compared as keys are. -/
theorem compare_utf8_sortText (a b : CandidateSource) :
    Ord.compare (Text.utf8 a.candidate.sortText) (Text.utf8 b.candidate.sortText) =
      a.candidate.sortKey.compare b.candidate.sortKey := by
  rw [Text.compare_utf8, compare_sortText]

/-- Different keys are written differently. -/
theorem sortText_eq_iff (a b : CandidateSource) :
    a.candidate.sortText = b.candidate.sortText ↔ a.candidate.sortKey = b.candidate.sortKey := by
  have hkeys : a.candidate.sortKey.compare b.candidate.sortKey = .eq ↔
      a.candidate.sortKey = b.candidate.sortKey := Std.LawfulEqCmp.compare_eq_iff_eq
  rw [← hkeys, ← compare_sortText, Text.compare_eq_compare]
  exact Std.LawfulEqOrd.compare_eq_iff_eq.symm

end CandidateSource

/-! ## Stable sorts by text -/

/-- Candidates in the byte order of their written keys that are exactly the given ones, those with
the same written key in the order in which they came. -/
structure IsStableTextSort (items sorted : List Candidate) : Prop where
  ordered : sorted.Pairwise fun a b =>
    (Ord.compare (Text.utf8 a.sortText) (Text.utf8 b.sortText)).isLE
  perm : sorted.Perm items
  stable : ∀ t, sorted.filter (fun c => c.sortText == t) = items.filter (fun c => c.sortText == t)

/-- Lists of the same items that agree on each class of one kind agree on each class of another, if
the classes are the same. -/
theorem filter_eq_of_same_classes {α β γ : Type} [BEq β] [LawfulBEq β] [BEq γ]
    [LawfulBEq γ] {f : α → β} {g : α → γ} {xs ys : List α} (hperm : xs.Perm ys)
    (hclass : ∀ a ∈ ys, ∀ b ∈ ys, f a = f b ↔ g a = g b)
    (h : ∀ t, xs.filter (fun a => f a == t) = ys.filter (fun a => f a == t)) (k : γ) :
    xs.filter (fun a => g a == k) = ys.filter (fun a => g a == k) := by
  by_cases hk : ∃ a ∈ ys, g a = k
  · obtain ⟨a, ha, rfl⟩ := hk
    have hsame : ∀ b ∈ ys, (g b == g a) = (f b == f a) := by
      intro b hb
      rw [Bool.eq_iff_iff, beq_iff_eq, beq_iff_eq]
      exact (hclass b hb a ha).symm
    calc
      xs.filter (fun b => g b == g a) = xs.filter (fun b => f b == f a) :=
        List.filter_congr fun b hb => hsame b (hperm.mem_iff.1 hb)
      _ = ys.filter (fun b => f b == f a) := h (f a)
      _ = ys.filter (fun b => g b == g a) := (List.filter_congr hsame).symm
  · -- No item has this class, so nothing is left on either side.
    have hnone : ∀ b ∈ ys, (g b == k) = false := by
      intro b hb
      rw [beq_eq_false_iff_ne]
      intro heq
      exact hk ⟨b, hb, heq⟩
    rw [List.filter_eq_nil_iff.2 fun b hb => by simp [hnone b (hperm.mem_iff.1 hb)],
      List.filter_eq_nil_iff.2 fun b hb => by simp [hnone b hb]]

namespace Candidate

variable {sources : List CandidateSource}

theorem sortText_eq_iff {a b : Candidate} (ha : a ∈ sources.map CandidateSource.candidate)
    (hb : b ∈ sources.map CandidateSource.candidate) :
    a.sortText = b.sortText ↔ a.sortKey = b.sortKey := by
  obtain ⟨s, -, rfl⟩ := List.mem_map.1 ha
  obtain ⟨s', -, rfl⟩ := List.mem_map.1 hb
  exact CandidateSource.sortText_eq_iff s s'

/-- The bytes of written keys are in the order of the keys. -/
theorem compare_utf8_sortText {a b : Candidate} (ha : a ∈ sources.map CandidateSource.candidate)
    (hb : b ∈ sources.map CandidateSource.candidate) :
    Ord.compare (Text.utf8 a.sortText) (Text.utf8 b.sortText) = a.sortKey.compare b.sortKey := by
  obtain ⟨s, -, rfl⟩ := List.mem_map.1 ha
  obtain ⟨s', -, rfl⟩ := List.mem_map.1 hb
  exact CandidateSource.compare_utf8_sortText s s'

/-- A stable sort by bytes is one by keys. -/
theorem isStableTextSort_iff (ranked : List Candidate) :
    IsStableTextSort (sources.map CandidateSource.candidate) ranked ↔
      IsStableSort sortKey (sources.map CandidateSource.candidate) ranked := by
  constructor
  · intro h
    refine ⟨?_, h.perm, ?_⟩
    · apply h.ordered.imp_of_mem
      intro a b ha hb hle
      rw [← compare_utf8_sortText (h.perm.mem_iff.1 ha) (h.perm.mem_iff.1 hb)]
      exact hle
    · exact filter_eq_of_same_classes h.perm (fun a ha b hb => sortText_eq_iff ha hb) h.stable
  · intro h
    refine ⟨?_, h.perm, ?_⟩
    · apply h.ordered.imp_of_mem
      intro a b ha hb hle
      rw [compare_utf8_sortText (h.perm.mem_iff.1 ha) (h.perm.mem_iff.1 hb)]
      exact hle
    · exact filter_eq_of_same_classes h.perm (fun a ha b hb => (sortText_eq_iff ha hb).symm)
        h.stable

/-- Sorting by written keys gives the same list as sorting by keys. -/
theorem sortByText_eq_sortByKey (sources : List CandidateSource) :
    sortByText (sources.map CandidateSource.candidate) =
      sortByKey (sources.map CandidateSource.candidate) := by
  -- Both sorts are one sort of what the candidates were made from.
  let le (a b : CandidateSource) : Bool := (a.candidate.sortKey.compare b.candidate.sortKey).isLE
  have htext : (sources.mergeSort le).map CandidateSource.candidate =
      sortByText (sources.map CandidateSource.candidate) := by
    apply List.map_mergeSort
    intro a _ b _
    rw [CandidateSource.compare_sortText]
  have hkey : (sources.mergeSort le).map CandidateSource.candidate =
      sortByKey (sources.map CandidateSource.candidate) := by
    apply List.map_mergeSort
    intro a _ b _
    rfl
  rw [← htext, hkey]

/-- In the order of the keys no entry stands before a label. -/
theorem labels_first {ranked : List Candidate}
    (h : IsStableSort sortKey (sources.map CandidateSource.candidate) ranked) :
    ranked.Pairwise fun a b => ∀ e l, a.source = .entry e → b.source ≠ .label l := by
  apply h.ordered.imp_of_mem
  intro a b ha hb hle e l hentry hlabel
  obtain ⟨s, -, rfl⟩ := List.mem_map.1 (h.perm.mem_iff.1 ha)
  obtain ⟨s', -, rfl⟩ := List.mem_map.1 (h.perm.mem_iff.1 hb)
  cases s with
  | label _ => cases hentry
  | entry _ =>
      cases s' with
      | label _ => cases hle
      | entry _ => cases hlabel

/-- Comparing the written keys of two candidates byte by byte is comparing their keys. So there is
one stable sort of a list of candidates, by key as well as by text, and all labels come first. -/
theorem sorts_agree :
    (∀ a b : CandidateSource,
      Ord.compare (Text.utf8 a.candidate.sortText) (Text.utf8 b.candidate.sortText) =
        a.candidate.sortKey.compare b.candidate.sortKey) ∧
      ∀ sources : List CandidateSource,
        let items := sources.map CandidateSource.candidate
        (∀ ranked, IsStableTextSort items ranked ↔ ranked = sortByKey items) ∧
          (∀ ranked, IsStableSort sortKey items ranked ↔ ranked = sortByKey items) ∧
          sortByText items = sortByKey items ∧
          (sortByKey items).Pairwise fun a b =>
            ∀ e l, a.source = .entry e → b.source ≠ .label l := by
  refine ⟨CandidateSource.compare_utf8_sortText, ?_⟩
  intro sources items
  have hsorted : IsStableSort sortKey items (sortByKey items) :=
    isStableSort_mergeSort sortKey items
  have hkey (ranked : List Candidate) :
      IsStableSort sortKey items ranked ↔ ranked = sortByKey items := by
    constructor
    · intro h
      exact h.unique hsorted
    · rintro rfl
      exact hsorted
  refine ⟨?_, hkey, sortByText_eq_sortByKey sources, labels_first hsorted⟩
  intro ranked
  rw [isStableTextSort_iff, hkey]

end Candidate

end CiteIndex
