import CiteIndex.Lookup.Catalogue
import Mathlib.Data.List.Forall2

/-!
# Works and the items that describe them

An item describes a work if it has a DOI. Whatever else a work has is what the item holds in the
right form; what is missing or of another sort is absent from the work, and nothing in an item keeps
it or the items beside it from being read.

- `Json.Gives`, `Json.Lists`: values that may be of the wrong sort
- `Work.Describes`: the work that an item describes
- `Work.ofJson_eq_ok_iff`: what is read is what the item describes
- `Catalogue.FindsIn`, `Catalogue.findsIn_worksIn`: the works in an answer
-/

namespace CiteIndex

/-! ## Values that may be of the wrong sort -/

namespace Json

/-- A text, if there is one, is the value; without one the value is no string. -/
def Gives (v : Json) (text : Option Text) : Prop :=
  ∀ t, text = some t ↔ v = .string t

/-- The items are those of the array that the value is; a value that is no array has none. -/
def Lists (v : Json) (items : List Json) : Prop :=
  v = .array items ∨ (∀ others, v ≠ .array others) ∧ items = []

/-- The texts are the strings in the array that the value is. -/
def ListsTexts (v : Json) (texts : List Text) : Prop :=
  ∃ items, v.Lists items ∧ items.filter (fun item => item.string?.isSome) = texts.map .string

variable {v : Json}

theorem string?_eq_some_iff {t : Text} : v.string? = some t ↔ v = .string t := by
  cases v <;> simp [string?]

theorem array?_eq_some_iff {items : List Json} : v.array? = some items ↔ v = .array items := by
  cases v <;> simp [array?]

theorem array?_eq_none_iff : v.array? = none ↔ ∀ items, v ≠ .array items := by
  cases v <;> simp [array?]

/-- A value gives the text that is read from it. -/
theorem gives_iff {text : Option Text} : v.Gives text ↔ v.string? = text := by
  constructor
  · intro h
    exact Option.ext fun t => string?_eq_some_iff.trans (h t).symm
  · rintro rfl t
    exact string?_eq_some_iff

theorem lists_iff {items : List Json} : v.Lists items ↔ v.array?.getD [] = items := by
  rw [Lists]
  cases harray : v.array? with
  | none =>
      have hnone := array?_eq_none_iff.1 harray
      simp [hnone, eq_comm]
  | some others =>
      obtain rfl := array?_eq_some_iff.1 harray
      simp

/-- The strings among some values, taken out. -/
theorem filter_string? (items : List Json) :
    items.filter (fun item => item.string?.isSome) = (items.filterMap string?).map .string := by
  induction items with
  | nil => rfl
  | cons item items ih =>
      cases hitem : item.string? with
      | none => simpa [hitem] using ih
      | some t =>
          obtain rfl := string?_eq_some_iff.1 hitem
          simpa [string?] using ih

theorem listsTexts_iff {texts : List Text} : v.ListsTexts texts ↔ Work.strings v = texts := by
  have hinj : Function.Injective Json.string := fun _ _ h => Json.string.inj h
  constructor
  · rintro ⟨items, hitems, htexts⟩
    rw [filter_string?] at htexts
    rw [Work.strings, lists_iff.1 hitems]
    exact List.map_injective_iff.2 hinj htexts
  · rintro rfl
    exact ⟨v.array?.getD [], lists_iff.2 rfl, filter_string? _⟩

end Json

/-! ## Items -/

namespace Work

def hasDoi (item : Json) : Bool :=
  (item.member "DOI").string?.isSome

structure DescribesAuthor (item : Json) (author : Author) : Prop where
  given : (item.member "given").Gives author.given
  family : (item.member "family").Gives author.family

/-- The year is that of the first date that has one, in 32 bits. -/
def DatedBy (item : Json) (year : Option Int) : Prop :=
  (year = none ∧ ∀ name ∈ dateMembers, yearIn? item name = none) ∨
    ∃ better name worse n, dateMembers = better ++ name :: worse ∧
      (∀ name ∈ better, yearIn? item name = none) ∧ yearIn? item name = some n ∧
      year = some (wrap32 n)

structure Describes (item : Json) (w : Work) : Prop where
  doi : item.member "DOI" = .string w.doi
  titles : (item.member "title").ListsTexts w.titles
  authors : ∃ items, (item.member "author").Lists items ∧
    List.Forall₂ DescribesAuthor items w.authors
  containerTitles : (item.member "container-title").ListsTexts w.containerTitles
  year : DatedBy item w.year
  kind : ∃ kind, (item.member "type").Gives kind ∧ w.kind = kind.getD "unknown".toList
  publisher : (item.member "publisher").Gives w.publisher

variable {item : Json} {w : Work}

theorem describesAuthor_iff {author : Author} :
    DescribesAuthor item author ↔ authorOf item = author := by
  constructor
  · rintro ⟨hgiven, hfamily⟩
    rw [authorOf, Json.gives_iff.1 hgiven, Json.gives_iff.1 hfamily]
  · rintro rfl
    exact ⟨Json.gives_iff.2 rfl, Json.gives_iff.2 rfl⟩

theorem describesAuthors_iff {items : List Json} {authors : List Author} :
    List.Forall₂ DescribesAuthor items authors ↔ items.map authorOf = authors := by
  have hsame : DescribesAuthor = fun item author => authorOf item = author :=
    funext₂ fun _ _ => propext describesAuthor_iff
  rw [hsame, ← List.forall₂_map_left_iff, List.forall₂_eq_eq_eq]

/-- An item is dated by the year that is read from it. -/
theorem datedBy_iff {year : Option Int} : DatedBy item year ↔ year? item = year := by
  rw [year?]
  cases hfirst : dateMembers.findSome? (yearIn? item) with
  | none =>
      have hnone := List.findSome?_eq_none_iff.1 hfirst
      constructor
      · rintro (⟨rfl, -⟩ | ⟨better, name, worse, n, hmembers, -, hn, -⟩)
        · rfl
        · have hname : name ∈ dateMembers := by simp [hmembers]
          rw [hnone name hname] at hn
          cases hn
      · rintro rfl
        exact .inl ⟨rfl, hnone⟩
  | some n =>
      constructor
      · rintro (⟨-, hnone⟩ | ⟨better, name, worse, n', hmembers, hbetter, hn, rfl⟩)
        · rw [List.findSome?_eq_none_iff.2 hnone] at hfirst
          cases hfirst
        · rw [List.findSome?_eq_some_iff.2 ⟨better, name, worse, hmembers, hn, hbetter⟩] at hfirst
          cases hfirst
          rfl
      · rintro rfl
        obtain ⟨better, name, worse, hmembers, hn, hbetter⟩ := List.findSome?_eq_some_iff.1 hfirst
        exact .inr ⟨better, name, worse, n, hmembers, hbetter, hn, rfl⟩

/-- What is read from an item is the work that it describes. -/
theorem ofJson_eq_ok_iff : ofJson item = .ok w ↔ Describes item w := by
  constructor
  · intro h
    rw [ofJson] at h
    split at h
    · cases h
    · rename_i doi hdoi
      obtain rfl := Except.ok.inj h
      exact {
        doi := Json.string?_eq_some_iff.1 hdoi
        titles := Json.listsTexts_iff.2 rfl
        authors := ⟨_, Json.lists_iff.2 rfl, describesAuthors_iff.2 rfl⟩
        containerTitles := Json.listsTexts_iff.2 rfl
        year := datedBy_iff.2 rfl
        kind := ⟨_, Json.gives_iff.2 rfl, rfl⟩
        publisher := Json.gives_iff.2 rfl }
  · intro h
    obtain ⟨items, hitems, hauthors⟩ := h.authors
    obtain ⟨kind, hgives, hkind⟩ := h.kind
    rw [ofJson, Json.string?_eq_some_iff.2 h.doi, Json.listsTexts_iff.1 h.titles,
      Json.lists_iff.1 hitems, describesAuthors_iff.1 hauthors,
      Json.listsTexts_iff.1 h.containerTitles, datedBy_iff.1 h.year, Json.gives_iff.1 hgives,
      ← hkind, Json.gives_iff.1 h.publisher]

/-- Just the items with a DOI describe a work. -/
theorem ofJson_of_not_hasDoi (h : hasDoi item = false) : ofJson item = .error .missingDoi := by
  rw [hasDoi, Option.isSome_eq_false_iff, Option.isNone_iff_eq_none] at h
  rw [ofJson, h]

/-- Every item with a DOI describes a work. -/
theorem exists_ofJson (h : hasDoi item) : ∃ w, ofJson item = .ok w := by
  obtain ⟨doi, hdoi⟩ := Option.isSome_iff_exists.1 h
  rw [ofJson, hdoi]
  exact ⟨_, rfl⟩

/-- The works of a list of items are those of its items with a DOI, in their order. -/
theorem describes_works (items : List Json) :
    List.Forall₂ Describes (items.filter hasDoi)
      (items.filterMap fun item => (ofJson item).toOption) := by
  induction items with
  | nil => exact .nil
  | cons item items ih =>
      cases hdoi : hasDoi item with
      | false =>
          have hread := ofJson_of_not_hasDoi hdoi
          simpa [hdoi, hread, Except.toOption] using ih
      | true =>
          obtain ⟨w, hread⟩ := exists_ofJson hdoi
          simpa [hdoi, hread, Except.toOption] using ⟨ofJson_eq_ok_iff.1 hread, ih⟩

/-- Works have the DOIs of the items that describe them. -/
theorem map_doi_of_describes {items : List Json} {works : List Work}
    (h : List.Forall₂ Describes items works) :
    works.map (fun w => some w.doi) = items.map fun item => (item.member "DOI").string? := by
  induction h with
  | nil => rfl
  | cons hitem _ ih =>
      rw [List.map_cons, List.map_cons, ih, Json.string?_eq_some_iff.2 hitem.doi]

end Work

/-! ## Answers -/

namespace Catalogue

/-- What is made of an answer: the works of its first items with a DOI, in their order, and never
more than were asked for. An answer without a list of items is rejected. -/
structure FindsIn (rows : Nat) (body : Text) (found : Except LookupError (List Work)) : Prop where
  unreadable : Json.read? body = none → found = .error .malformedJson
  unlisted : ∀ v, Json.read? body = some v →
    (∀ items, (v.member "message").member "items" ≠ .array items) → found = .error .missingItems
  listed : ∀ v items, Json.read? body = some v →
    (v.member "message").member "items" = .array items →
      ∃ works, found = .ok works ∧
        List.Forall₂ Work.Describes ((items.filter Work.hasDoi).take rows) works

/-- The works in an answer are those of its first items with a DOI. -/
theorem findsIn_worksIn (c : Catalogue) (body : Text) : FindsIn c.rows body (c.worksIn body) := by
  constructor
  · intro hread
    rw [worksIn, hread]
  · intro v hread hitems
    rw [worksIn, hread]
    dsimp only
    rw [Json.array?_eq_none_iff.2 hitems]
  · intro v items hread hitems
    rw [worksIn, hread]
    dsimp only
    rw [Json.array?_eq_some_iff.2 hitems]
    exact ⟨_, rfl, List.forall₂_take c.rows (Work.describes_works items)⟩

end Catalogue

end CiteIndex
