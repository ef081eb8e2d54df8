import CiteIndex.Proofs.Url.Segments

/-!
# Addresses below an address

What is read when a path is put behind an address, after the slashes at its end are taken away. All
that stands before the path is read as if the path was not there: whether the whole is a URL does not
depend on the path, and what the URL has beside its segments does not either. The segments of the
path are resolved behind those of the address.

- `Url.scheme?_eq_some_iff`: what a scheme is read of
- `Url.ofAuthority_eq_map`, `Url.ofAuthority_append`: an authority is read without what stands behind it
- `Url.Below`, `Url.exists_below`: the URLs below an address
-/

namespace CiteIndex

/-! ## Texts that end before a stop -/

namespace Text

variable {p : Char → Bool} {rest : Text}

theorem head_append {s : Text} (hs : ∀ c ∈ s.head?, p c = false)
    (hrest : ∀ c ∈ rest.head?, p c = false) : ∀ c ∈ (s ++ rest).head?, p c = false := by
  cases s with
  | nil => exact hrest
  | cons c cs => exact hs

theorem takeWhile_append_of_head (hrest : ∀ c ∈ rest.head?, p c = false) (s : Text) :
    (s ++ rest).takeWhile p = s.takeWhile p := by
  obtain ⟨w, s', rfl, hw, hs'⟩ := exists_stop p s
  rw [List.append_assoc, takeWhile_append_stop hw (head_append hs' hrest),
    takeWhile_append_stop hw hs']

theorem dropWhile_append_of_head (hrest : ∀ c ∈ rest.head?, p c = false) (s : Text) :
    (s ++ rest).dropWhile p = s.dropWhile p ++ rest := by
  obtain ⟨w, s', rfl, hw, hs'⟩ := exists_stop p s
  rw [List.append_assoc, dropWhile_append_stop hw (head_append hs' hrest),
    dropWhile_append_stop hw hs']

theorem not_mark_of_cutAt?_eq_none {isMark : Char → Bool} {t : Text} (h : cutAt? isMark t = none) :
    ∀ c ∈ t, isMark c = false := by
  obtain ⟨w, rest, rfl, hw, hrest⟩ := exists_stop (fun c => !isMark c) t
  have hw' : ∀ c ∈ w, isMark c = false := fun c hc => by simpa using hw c hc
  cases rest with
  | nil => simpa using hw'
  | cons c cs =>
      have hc : isMark c := by simpa using hrest c rfl
      rw [cutAt?_append_stop hw' hc] at h
      cases h

end Text

namespace Url

/-! ## Parts -/

theorem cutMark_of_not_mem {mark : Char} {t : Text} (ht : mark ∉ t) : cutMark mark t = (t, none) := by
  have hnone : Text.cutAt? (· == mark) t = none :=
    Text.cutAt?_eq_none (Text.beq_mark_of_not_mem ht)
  rw [cutMark, hnone]

theorem eq_of_cutMark {mark : Char} {t before : Text} (h : cutMark mark t = (before, none)) :
    mark ∉ t ∧ before = t := by
  rw [cutMark] at h
  split at h
  · cases h
  · rename_i hnone
    cases h
    refine ⟨fun hmem => ?_, rfl⟩
    have hmark := Text.not_mark_of_cutAt?_eq_none hnone mark hmem
    simp at hmark

/-- A text has no query and no fragment just if it has no mark of one. -/
theorem parts_eq_iff {t front : Text} :
    Parts.of t = ⟨front, none, none⟩ ↔ front = t ∧ '#' ∉ t ∧ '?' ∉ t := by
  constructor
  · intro h
    rcases hhash : cutMark '#' t with ⟨rest, fragment⟩
    rcases hquestion : cutMark '?' rest with ⟨before, query⟩
    rw [Parts.of, hhash] at h
    simp only [hquestion, Parts.mk.injEq] at h
    obtain ⟨rfl, rfl, rfl⟩ := h
    obtain ⟨hfragment, rfl⟩ := eq_of_cutMark hhash
    obtain ⟨hquery, rfl⟩ := eq_of_cutMark hquestion
    exact ⟨rfl, hfragment, hquery⟩
  · rintro ⟨rfl, hfragment, hquery⟩
    simp only [Parts.of, cutMark_of_not_mem hfragment, cutMark_of_not_mem hquery]

/-! ## What is read of a text -/

/-- Characters that are not read at either end of a text. -/
def isEdge (c : Char) : Bool :=
  c.toNat ≤ 0x20

def isInside (c : Char) : Bool :=
  !(c == '\t' || c == '\n' || c == '\r')

theorem isInside_of_not_edge {c : Char} (hc : isEdge c = false) : isInside c := by
  have hall : ∀ c, isInside c = false → isEdge c := by
    simp only [isInside, Bool.not_eq_false', Bool.or_eq_true, beq_iff_eq]
    rintro c ((rfl | rfl) | rfl) <;> decide
  by_contra h
  rw [hall c (Bool.eq_false_iff.2 h)] at hc
  cases hc

def tidyFront (t : Text) : Text :=
  (t.dropWhile isEdge).filter isInside

/-- The end of a text is read as it is if it holds no character that is skipped. -/
theorem tidy_append {rest : Text} (hne : rest ≠ []) (hrest : ∀ c ∈ rest, isEdge c = false)
    (t : Text) : tidy (t ++ rest) = tidyFront t ++ rest := by
  have hhead : ∀ c ∈ rest.head?, isEdge c = false := fun c hc => hrest c (List.mem_of_mem_head? hc)
  have hend : Text.dropEndWhile isEdge (t.dropWhile isEdge ++ rest) = t.dropWhile isEdge ++ rest := by
    obtain ⟨front, last, rfl⟩ := (List.eq_nil_or_concat rest).resolve_left hne
    have hlast := hrest last (by simp)
    rw [List.concat_eq_append, ← List.append_assoc]
    exact Text.dropEndWhile_append_cons hlast _ []
  calc
    tidy (t ++ rest) =
        (Text.dropEndWhile isEdge ((t ++ rest).dropWhile isEdge)).filter isInside := rfl
    _ = (t.dropWhile isEdge ++ rest).filter isInside := by
      rw [Text.dropWhile_append_of_head hhead, hend]
    _ = tidyFront t ++ rest := by
      rw [List.filter_append, tidyFront,
        List.filter_eq_self.2 fun c hc => isInside_of_not_edge (hrest c hc)]

/-- What is skipped at the end of a text is all that more behind it adds. -/
theorem exists_tidy_append {rest : Text} (hrest : ∀ c ∈ rest.head?, isEdge c = false) (t : Text) :
    ∃ w, (∀ c ∈ w, isEdge c) ∧ tidyFront t ++ rest.filter isInside = tidy (t ++ rest) ++ w := by
  obtain ⟨w, hw, hsplit⟩ := Text.exists_dropEndWhile isEdge ((t ++ rest).dropWhile isEdge)
  refine ⟨w.filter isInside, fun c hc => hw c (List.mem_filter.1 hc).1, ?_⟩
  calc
    tidyFront t ++ rest.filter isInside = ((t ++ rest).dropWhile isEdge).filter isInside := by
      rw [Text.dropWhile_append_of_head hrest, List.filter_append, tidyFront]
    _ = tidy (t ++ rest) ++ w.filter isInside := by
      rw [hsplit, List.filter_append]
      rfl

/-! ## Schemes -/

/-- A scheme is read of a name that begins with a letter and ends with a colon. -/
theorem scheme?_eq_some_iff {t scheme rest : Text} :
    scheme? t = some (scheme, rest) ↔
      ∃ c cs, t = c :: cs ++ ':' :: rest ∧ c.isAlpha ∧ (∀ d ∈ c :: cs, isSchemeChar d) ∧
        scheme = Text.lowerAscii (c :: cs) := by
  constructor
  · intro h
    obtain ⟨w, t', rfl, hw, ht'⟩ := Text.exists_stop isSchemeChar t
    rw [scheme?, Text.takeWhile_append_stop hw ht', Text.dropWhile_append_stop hw ht'] at h
    split at h
    · rename_i c cs rest'
      by_cases hc : c.isAlpha
      · rw [if_pos hc] at h
        cases h
        exact ⟨c, cs, rfl, hc, hw, rfl⟩
      · rw [if_neg hc] at h
        cases h
    · cases h
  · rintro ⟨c, cs, rfl, hc, hname, rfl⟩
    have hcolon : ∀ d ∈ (':' :: rest).head?, isSchemeChar d = false := by
      rintro d hd
      obtain rfl : ':' = d := Option.some.inj hd
      decide
    rw [scheme?, Text.takeWhile_append_stop hname hcolon, Text.dropWhile_append_stop hname hcolon]
    simp only [hc, if_true]

theorem ofScheme_domain {scheme : Text} (hdomain : hasDomain scheme) (t : Text) (parts : Parts) :
    ofScheme scheme t parts = ofAuthority scheme (t.dropWhile (isSlash true)) parts := by
  have hfile : (scheme == fileScheme) = false := by
    refine beq_eq_false_iff_ne.2 ?_
    rintro rfl
    exact absurd hdomain (by decide)
  rw [ofScheme, hfile, hdomain]
  rfl

/-! ## Authorities -/

/-- Host and port make up the text that they are cut from. -/
theorem cutHost_append (inBrackets : Bool) (t : Text) :
    (cutHost inBrackets t).1 ++ (cutHost inBrackets t).2 = t := by
  fun_induction cutHost inBrackets t <;> simp_all [Text.consLeft]

theorem mem_of_mem_cutLastAt {t : Text} {c : Char} : c ∈ (cutLastAt t).2 → c ∈ t := by
  intro hc
  rw [cutLastAt] at hc
  split at hc
  · rename_i after before hcut
    have hmem : c ∈ t.reverse := by
      obtain ⟨mark, -, hsplit⟩ := Text.eq_append_of_cutAt? hcut
      rw [hsplit]
      exact List.mem_append_left _ (List.mem_reverse.1 hc)
    exact List.mem_reverse.1 hmem
  · exact hc

/-- Where a backslash is a slash, none is left behind the host. -/
theorem cutPort_of_not_mem {afterHost : Text} (h : '\\' ∉ afterHost) (path : Text) :
    cutPort afterHost path = (afterHost, path) := by
  have hall : ∀ c ∈ afterHost, c != '\\' := by
    intro c hc
    refine bne_iff_ne.2 ?_
    rintro rfl
    exact h hc
  rw [cutPort, Text.dropWhile_eq_nil hall]

/-- An authority ends before the first backslash, so there is none in the port. -/
theorem backslash_not_mem_port (t : Text) :
    '\\' ∉ (cutHost false (cutLastAt (t.takeWhile fun c => !isSlash true c)).2).2 := by
  intro hmem
  have hhost := List.mem_append_right
    (cutHost false (cutLastAt (t.takeWhile fun c => !isSlash true c)).2).1 hmem
  rw [cutHost_append] at hhost
  have hpass := List.all_eq_true.1 List.all_takeWhile _ (mem_of_mem_cutLastAt hhost)
  exact absurd hpass (by decide)

theorem hostOf_nil {scheme : Text} (hdomain : hasDomain scheme) :
    hostOf scheme [] = .error .emptyHost := by
  rw [hostOf, hdomain]
  rfl

/-- An authority with a domain name is read alone, and path, query and fragment are put to what it
gives. -/
theorem ofAuthority_eq_map {scheme : Text} (hdomain : hasDomain scheme) (t : Text) (parts : Parts) :
    ofAuthority scheme t parts =
      (ofAuthority scheme (t.takeWhile fun c => !isSlash true c) ⟨[], none, none⟩).map fun u =>
        { u with
          path := pathAfterAuthority true (t.dropWhile fun c => !isSlash true c)
          query := queryOf true parts.query
          fragment := fragmentOf parts.fragment } := by
  have hspecial : isSpecial scheme := by simp [isSpecial, hdomain]
  have hall : ∀ c ∈ t.takeWhile (fun c => !isSlash true c), !isSlash true c :=
    fun c hc => List.all_eq_true.1 List.all_takeWhile c hc
  simp only [ofAuthority, hspecial, Text.takeWhile_eq_self hall, Text.dropWhile_eq_nil hall,
    cutPort_of_not_mem (backslash_not_mem_port t)]
  generalize cutLastAt _ = cut
  cases hport : cut.2 with
  -- Without a host it does not matter what stands behind it.
  | nil =>
      simp only [cutHost, hostOf_nil hdomain]
      split <;> split <;> rfl
  | cons c cs =>
      simp only [List.isEmpty_cons, Bool.and_false, Bool.false_and]
      cases hostOf scheme (cutHost false (c :: cs)).1 with
      | error reason => rfl
      | ok host =>
          dsimp only [bind, Except.bind]
          simp only [Bool.false_eq_true, if_false]
          split
          · rfl
          · cases portOf scheme (cutHost false (c :: cs)).2 with
            | error reason => rfl
            | ok port => rfl

theorem takeWhile_authority {rest : Text} (hrest : ∀ c ∈ rest.head?, isSlash true c) (t : Text) :
    (t ++ rest).takeWhile (fun c => !isSlash true c) = t.takeWhile fun c => !isSlash true c :=
  Text.takeWhile_append_of_head (fun c hc => by simp [hrest c hc]) t

theorem dropWhile_authority {rest : Text} (hrest : ∀ c ∈ rest.head?, isSlash true c) (t : Text) :
    (t ++ rest).dropWhile (fun c => !isSlash true c) =
      t.dropWhile (fun c => !isSlash true c) ++ rest :=
  Text.dropWhile_append_of_head (fun c hc => by simp [hrest c hc]) t

theorem head_slash (path : Text) : ∀ c ∈ ('/' :: path).head?, isSlash true c := by
  intro c hc
  obtain rfl : '/' = c := Option.some.inj hc
  decide

/-- An authority is read without the path behind it. -/
theorem ofAuthority_append {scheme : Text} (hdomain : hasDomain scheme) (t path : Text)
    (parts : Parts) :
    ofAuthority scheme (t ++ '/' :: path) parts =
      (ofAuthority scheme (t ++ ['/']) parts).map fun u =>
        let above := t.dropWhile fun c => !isSlash true c
        { u with path := pathAfterAuthority true (above ++ '/' :: path) } := by
  rw [ofAuthority_eq_map hdomain, ofAuthority_eq_map hdomain (t ++ ['/']),
    takeWhile_authority (head_slash path), takeWhile_authority (head_slash []),
    dropWhile_authority (head_slash path)]
  cases ofAuthority scheme (t.takeWhile fun c => !isSlash true c) ⟨[], none, none⟩ <;> rfl

theorem ofAuthority_nil {scheme : Text} (hdomain : hasDomain scheme) (parts : Parts) :
    ofAuthority scheme [] parts = .error .emptyHost := by
  have hcut : cutLastAt [] = (none, []) := rfl
  simp only [ofAuthority, List.takeWhile_nil, hcut, cutHost, hostOf_nil hdomain]
  rfl

/-! ## What a URL takes over from its text -/

structure Keeps (scheme : Text) (parts : Parts) (u : Url) : Prop where
  scheme_eq : u.scheme = scheme
  query_eq : u.query = queryOf (isSpecial scheme) parts.query
  fragment_eq : u.fragment = fragmentOf parts.fragment

variable {scheme t : Text} {parts : Parts} {u : Url}

theorem keeps_ofAuthority (h : ofAuthority scheme t parts = .ok u) :
    Keeps scheme parts u ∧ u.host.isSome := by
  simp only [ofAuthority] at h
  split at h
  · cases h
  · generalize hostOf scheme _ = host at h
    cases host with
    | error reason => cases h
    | ok host =>
        dsimp only [bind, Except.bind] at h
        split at h
        · cases h
        · generalize portOf scheme _ = port at h
          cases port with
          | error reason => cases h
          | ok port =>
              cases h
              exact ⟨⟨rfl, rfl, rfl⟩, rfl⟩

theorem keeps_ofFile (h : ofFile t parts = .ok u) : Keeps fileScheme parts u := by
  simp only [ofFile] at h
  generalize fileHostOf _ = host at h
  cases host with
  | error reason => cases h
  | ok host =>
      cases h
      exact ⟨rfl, rfl, rfl⟩

theorem keeps_ofPlain (hplain : isSpecial scheme = false) (h : ofPlain scheme t parts = .ok u) :
    Keeps scheme parts u := by
  unfold ofPlain at h
  split at h
  · exact (keeps_ofAuthority h).1
  · cases h
    refine ⟨rfl, ?_, rfl⟩
    rw [hplain]

/-- Under every scheme a URL keeps the parts of its text. -/
theorem keeps_ofScheme (h : ofScheme scheme t parts = .ok u) : Keeps scheme parts u := by
  rw [ofScheme] at h
  split at h
  · rename_i hfile
    obtain rfl := beq_iff_eq.1 hfile
    exact keeps_ofFile h
  · rename_i hfile
    split at h
    · exact (keeps_ofAuthority h).1
    · rename_i hdomain
      exact keeps_ofPlain (by simp [isSpecial, hdomain, hfile]) h

/-! ## Starts of addresses -/

/-- A text begins an address under a scheme with domain names: behind the scheme and slashes stands
an authority that is not empty, and there is no mark of a query or fragment. -/
structure IsStart (scheme t : Text) (first : Char) (rest : Text) : Prop where
  hash : '#' ∉ t
  question : '?' ∉ t
  not_slash : isSlash true first = false
  scheme_eq : ∃ slashes, scheme? t = some (scheme, slashes ++ first :: rest) ∧
    ∀ c ∈ slashes, isSlash true c

variable {first : Char} {rest : Text}

/-- The scheme of a text is known from its beginning. -/
theorem scheme?_append (h : scheme? t = some (scheme, rest)) (s : Text) :
    scheme? (t ++ s) = some (scheme, rest ++ s) := by
  obtain ⟨c, cs, rfl, hc, hname, rfl⟩ := scheme?_eq_some_iff.1 h
  exact scheme?_eq_some_iff.2 ⟨c, cs, by simp, hc, hname, rfl⟩

/-- An address without query and fragment begins with itself. -/
theorem exists_isStart (hparse : parse t = .ok u) (hdomain : hasDomain u.scheme)
    (hquery : u.query = none) (hfragment : u.fragment = none) :
    ∃ first rest, IsStart u.scheme (tidy t) first rest := by
  rw [parse] at hparse
  rcases hparts : Parts.of (tidy t) with ⟨front, query, fragment⟩
  simp only [hparts] at hparse
  split at hparse
  · rename_i scheme rest hscheme
    obtain ⟨rfl, hkeptQuery, hkeptFragment⟩ := keeps_ofScheme hparse
    obtain rfl : query = none := by simpa [hquery, queryOf] using hkeptQuery.symm
    obtain rfl : fragment = none := by simpa [hfragment, fragmentOf] using hkeptFragment.symm
    obtain ⟨rfl, hhash, hquestion⟩ := parts_eq_iff.1 hparts
    obtain ⟨slashes, authority, rfl, hslashes, hauthority⟩ := Text.exists_stop (isSlash true) rest
    rw [ofScheme_domain hdomain, Text.dropWhile_append_stop hslashes hauthority] at hparse
    cases authority with
    | nil =>
        rw [ofAuthority_nil hdomain] at hparse
        cases hparse
    | cons first rest =>
        exact ⟨first, rest, hhash, hquestion, hauthority first rfl, slashes, hscheme, hslashes⟩
  · cases hparse

/-- What stands before slashes at the end goes as far as any other character. -/
theorem exists_of_append_slashes {s slashes lead later : Text} {c : Char}
    (heq : s ++ slashes = lead ++ c :: later) (hslashes : ∀ d ∈ slashes, d = '/') (hc : c ≠ '/') :
    ∃ later', s = lead ++ c :: later' := by
  rcases List.append_eq_append_iff.1 heq with ⟨x, -, hx⟩ | ⟨x, rfl, hx⟩
  · exact absurd (hslashes c (by simp [hx])) hc
  · cases x with
    | nil =>
        obtain rfl : c :: later = slashes := hx
        exact absurd (hslashes c List.mem_cons_self) hc
    | cons d ds =>
        obtain ⟨rfl, -⟩ := List.cons.inj hx
        exact ⟨ds, rfl⟩

/-- What slashes are taken away from still begins the address. -/
theorem IsStart.of_append {s slashes w : Text} (h : IsStart scheme t first rest)
    (heq : s ++ slashes = t ++ w) (hslashes : ∀ c ∈ slashes, c = '/') (hw : ∀ c ∈ w, isEdge c) :
    ∃ rest', IsStart scheme s first rest' := by
  have hmem (c : Char) (hc : isEdge c = false) (ht : c ∉ t) : c ∉ s := by
    intro hs
    have hboth : c ∈ t ++ w := heq ▸ List.mem_append_left slashes hs
    rcases List.mem_append.1 hboth with hmem | hmem
    · exact ht hmem
    · rw [hw c hmem] at hc
      cases hc
  obtain ⟨between, hscheme, hbetween⟩ := h.scheme_eq
  obtain ⟨c, cs, rfl, hc, hname, rfl⟩ := scheme?_eq_some_iff.1 hscheme
  have hfirst : first ≠ '/' := by
    rintro rfl
    exact absurd h.not_slash (by decide)
  have hread : s ++ slashes = (c :: cs ++ ':' :: between) ++ first :: (rest ++ w) := by
    simpa using heq
  obtain ⟨rest', rfl⟩ := exists_of_append_slashes hread hslashes hfirst
  refine ⟨rest', hmem '#' (by decide) h.hash, hmem '?' (by decide) h.question, h.not_slash, between,
    ?_, hbetween⟩
  exact scheme?_eq_some_iff.2 ⟨c, cs, by simp, hc, hname, rfl⟩

/-- A text whose front begins the address is read from its authority on. -/
theorem IsStart.parse_of_parts (h : IsStart scheme t first rest) (hdomain : hasDomain scheme)
    {s more : Text} {query fragment : Option Text}
    (hparts : Parts.of (tidy s) = ⟨t ++ more, query, fragment⟩) :
    parse s = ofAuthority scheme (first :: rest ++ more) ⟨t ++ more, query, fragment⟩ := by
  obtain ⟨slashes, hscheme, hslashes⟩ := h.scheme_eq
  have hfirst : ∀ c ∈ (first :: (rest ++ more)).head?, isSlash true c = false := by
    rintro c hc
    obtain rfl : first = c := Option.some.inj hc
    exact h.not_slash
  rw [parse, hparts]
  dsimp only
  rw [scheme?_append hscheme]
  dsimp only
  rw [ofScheme_domain hdomain, List.append_assoc, List.cons_append,
    Text.dropWhile_append_stop hslashes hfirst]

/-- What begins an address is read the same way with every path behind it. -/
theorem IsStart.parse_append (h : IsStart scheme t first rest) (hdomain : hasDomain scheme)
    {path : Text} (hhash : '#' ∉ path) (hquestion : '?' ∉ path) {s : Text}
    (hs : tidy s = t ++ '/' :: path) :
    parse s = ofAuthority scheme (first :: rest ++ '/' :: path) ⟨t ++ '/' :: path, none, none⟩ :=
  h.parse_of_parts hdomain <|
    parts_eq_iff.2 ⟨hs.symm, by simp [hs, h.hash, hhash], by simp [hs, h.question, hquestion]⟩

/-! ## Paths behind an address -/

/-- What is read of an address with an escaped path behind it: all but the path, if the address
allows one, and the segments behind which those of the path are resolved. -/
structure Below (address scheme : Text) (front : Except UrlError Url) (above : List Text) : Prop where
  parse_eq : ∀ path, (∀ c ∈ path, isPathEscaped c = false) →
    parse (Text.dropEndWhile (· == '/') address ++ '/' :: path) =
      front.map fun u => { u with path := .segments (resolveSegments above (segmentsOf true path)) }
  keeps : ∀ u, front = .ok u → u.scheme = scheme ∧ u.host.isSome ∧ u.query = none
  slash_not_mem : ∀ s ∈ above, '/' ∉ s

/-- The segments of a path are resolved behind those in front of it. -/
theorem pathAfterAuthority_append {s : Text} (hs : ∀ c ∈ s.head?, isSlash true c) :
    ∃ above, (∀ p ∈ above, '/' ∉ p) ∧ ∀ path, pathAfterAuthority true (s ++ '/' :: path) =
      .segments (resolveSegments above (segmentsOf true path)) := by
  have hne (path : Text) : segmentsOf true path ≠ [] := by
    rw [segmentsOf]
    simpa using Text.splitWhere_ne_nil (isSlash true) path
  cases s with
  | nil => exact ⟨[], by simp, fun path => rfl⟩
  | cons c cs =>
      refine ⟨(segmentsOf true cs).foldl enter [], ?_, ?_⟩
      · intro p hp
        have hp := (mem_foldl_enter hp).resolve_left List.not_mem_nil
        exact slash_not_mem_segmentsOf hp
      · intro path
        rw [List.cons_append, pathAfterAuthority, segmentsOf_append_slash,
          resolveSegments_append (hne path)]

/-- An escaped path has no mark of a query or fragment, and all of it is read. -/
theorem plain_of_escaped {c : Char} (hc : isPathEscaped c = false) :
    c ≠ '#' ∧ c ≠ '?' ∧ isEdge c = false := by
  have hmark (d : Char) (hd : isPathEscaped d) : c ≠ d := by
    rintro rfl
    rw [hd] at hc
    cases hc
  refine ⟨hmark '#' (by decide), hmark '?' (by decide), ?_⟩
  have hspace : c.toNat ≠ 0x20 := fun h =>
    hmark ' ' (by decide) (Char.toNat_inj.1 h)
  simp only [isPathEscaped, isFragmentEscaped, Host.isControl, Bool.or_eq_false_iff,
    decide_eq_false_iff_not] at hc
  simp only [isEdge, decide_eq_false_iff_not]
  omega

/-- Every address without query and fragment under a scheme with domain names has URLs below it. -/
theorem exists_below (hparse : parse t = .ok u) (hdomain : hasDomain u.scheme)
    (hquery : u.query = none) (hfragment : u.fragment = none) :
    ∃ front above, Below t u.scheme front above := by
  obtain ⟨slashes, hslashes, hsplit⟩ := Text.exists_dropEndWhile (· == '/') t
  replace hslashes : ∀ c ∈ slashes, c = '/' := fun c hc => beq_iff_eq.1 (hslashes c hc)
  set s := Text.dropEndWhile (· == '/') t
  -- The address begins without its slashes as it does with them.
  obtain ⟨first, rest, hstart⟩ : ∃ first rest, IsStart u.scheme (tidyFront s) first rest := by
    obtain ⟨first, rest, hstart⟩ := exists_isStart hparse hdomain hquery hfragment
    have hedge : ∀ c ∈ slashes.head?, isEdge c = false := by
      intro c hc
      obtain rfl := hslashes c (List.mem_of_mem_head? hc)
      decide
    obtain ⟨w, hw, heq⟩ := exists_tidy_append hedge s
    rw [← hsplit] at heq
    obtain ⟨rest', h⟩ :=
      hstart.of_append heq (fun c hc => hslashes c (List.mem_filter.1 hc).1) hw
    exact ⟨first, rest', h⟩
  have hstop : ∀ c ∈ ((first :: rest).dropWhile fun c => !isSlash true c).head?, isSlash true c := by
    intro c hc
    have hstop := List.head?_dropWhile_not (fun c => !isSlash true c) (first :: rest)
    rw [Option.mem_def.1 hc] at hstop
    simpa using hstop
  obtain ⟨above, habove, hpath⟩ := pathAfterAuthority_append hstop
  refine ⟨ofAuthority u.scheme (first :: rest ++ ['/']) ⟨tidyFront s, none, none⟩, above, ?_, ?_,
    habove⟩
  · intro path hplain
    have hedge : ∀ c ∈ '/' :: path, isEdge c = false :=
      List.forall_mem_cons.2 ⟨by decide, fun c hc => (plain_of_escaped (hplain c hc)).2.2⟩
    have hread := hstart.parse_append hdomain (fun h => (plain_of_escaped (hplain _ h)).1 rfl)
      (fun h => (plain_of_escaped (hplain _ h)).2.1 rfl) (tidy_append (by simp) hedge s)
    rw [hread, ofAuthority_append hdomain]
    simp only [hpath]
    rfl
  · intro v hv
    obtain ⟨hkeeps, hhost⟩ := keeps_ofAuthority hv
    exact ⟨hkeeps.scheme_eq, hhost, hkeeps.query_eq⟩

end Url

end CiteIndex
