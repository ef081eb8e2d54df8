import CiteIndex.Proofs.Lookup.Addresses

/-!
# Reading a DOI back from its address

The address of a DOI holds the DOI itself. Behind the resolver and one slash stands a path of
characters that mean nothing else in a URL, and what its pieces between slashes write are the pieces
of the DOI. So no character of a DOI, and no empty piece of it, is lost or taken for a part of the
address.

- `Host.unescape?_encode`: an encoded text writes the text
- `Doi.isAddressChar_of_mem_segments`: what the segments of an address are made of
- `Doi.addressOn_read_back`: the two parts of an address, and what the second one writes
-/

namespace CiteIndex

/-- What the characters of a class were taken away from does not end in one of them. -/
theorem Text.getLast_dropEndWhile {p : Char → Bool} {t : Text} :
    ∀ c ∈ (dropEndWhile p t).getLast?, p c = false := by
  intro c hc
  induction t with
  | nil => cases hc
  | cons d ds ih =>
      rw [dropEndWhile] at hc
      cases hrest : dropEndWhile p ds with
      | nil =>
          rw [hrest] at hc
          cases hd : p d with
          | true => simp [hd] at hc
          | false =>
              obtain rfl : d = c := by simpa [hd] using hc
              exact hd
      | cons e es =>
          rw [hrest] at hc ih
          exact ih (by simpa using hc)

theorem Host.unescape?_encode (t : Text) : unescape? (Percent.encode t) = some t := by
  have hbytes : (⟨(Percent.decode (Percent.encode t)).toArray⟩ : ByteArray) =
      FileTree.bytesOf t := by
    rw [Percent.decode_encode]
    rfl
  rw [unescape?, hbytes]
  exact FileTree.textOf?_bytesOf t

namespace Doi

/-- Letters, digits and the marks that can stand in the path of an address. -/
def isAddressChar (c : Char) : Bool :=
  c.isAlphanum || ['-', '.', '_', '~', '%', '/'].contains c

theorem isAddressChar_of_isUnreserved {c : Char} (hc : Percent.isUnreserved c) :
    isAddressChar c := by
  simp only [Percent.isUnreserved, Bool.or_eq_true, beq_iff_eq] at hc
  rcases hc with (((hc | rfl) | rfl) | rfl) | rfl
  · simp [isAddressChar, hc]
  all_goals decide

/-- The segments of an address hold nothing but characters of addresses. -/
theorem isAddressChar_of_mem_segments {d : Doi} {s : Text} (hs : s ∈ d.segments) :
    ∀ c ∈ s, isAddressChar c := by
  intro c hc
  obtain ⟨part, -, rfl⟩ := List.mem_map.1 hs
  rcases Percent.mem_encode hc with rfl | hc
  · decide
  · exact isAddressChar_of_isUnreserved hc

/-- What the segments write are the pieces of the DOI. -/
theorem map_unescape?_segments (d : Doi) :
    d.segments.map Host.unescape? = (Text.splitWhere (· == '/') d.normalized).map some := by
  rw [segments, List.map_map]
  exact List.map_congr_left fun part _ => Host.unescape?_encode part

/-- An address is the resolver without the slashes at its end, a slash, and a path whose pieces
write those of the DOI. -/
theorem addressOn_read_back (d : Doi) (resolver : Text) :
    ∃ front slashes path,
      resolver = front ++ slashes ∧ (∀ c ∈ slashes, c = '/') ∧ front.getLast? ≠ some '/' ∧
      d.addressOn resolver = front ++ '/' :: path ∧
      (∀ c ∈ path, isAddressChar c) ∧
      (Text.splitWhere (· == '/') path).map Host.unescape? =
        (Text.splitWhere (· == '/') d.normalized).map some := by
  obtain ⟨slashes, hslashes, hsplit⟩ := Text.exists_dropEndWhile (· == '/') resolver
  have hslash : ∀ s ∈ d.segments, ∀ c ∈ s, (c == '/') = false := fun s hs =>
    Text.beq_mark_of_not_mem (slash_not_mem_segments s hs)
  have hread : Text.splitWhere (· == '/') (Text.join ['/'] d.segments) = d.segments :=
    Text.splitWhere_join (by decide) (by simp [segments, Text.splitWhere_ne_nil]) hslash
  refine ⟨Text.dropEndWhile (· == '/') resolver, slashes, Text.join ['/'] d.segments, hsplit,
    ?_, ?_, rfl, ?_, ?_⟩
  · exact fun c hc => beq_iff_eq.1 (hslashes c hc)
  · intro hlast
    exact absurd (Text.getLast_dropEndWhile '/' hlast) (by decide)
  · intro c hc
    rcases Text.mem_join hc with hc | ⟨s, hs, hc⟩
    · obtain rfl := List.mem_singleton.1 hc
      decide
    · exact isAddressChar_of_mem_segments hs c hc
  · rw [hread, map_unescape?_segments]

end Doi

end CiteIndex
