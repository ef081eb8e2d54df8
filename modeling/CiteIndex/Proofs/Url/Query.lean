import CiteIndex.Proofs.Url.Below

/-!
# Queries behind an address

A query is a list of parameters with ampersands between them, each a name, an equals sign and a
value. What is put behind the address of a server, a path first and then a question mark and a
query, is read as a URL of the same server with just that query, as long as path and query hold no
character that means something else.

- `Url.parameters`: the parameters of a query
- `Url.parameters_join`: written parameters are read back
- `Url.exists_parse_behind`: the URL of a query behind an address
-/

namespace CiteIndex

namespace Url

/-! ## Parameters -/

/-- The parameters of a query, in order: what stands before and after the first equals sign of each
piece between ampersands. -/
def parameters (query : Text) : List (Text × Option Text) :=
  (Text.splitWhere (· == '&') query).map (cutMark '=')

theorem cutMark_append {mark : Char} {before : Text} (h : mark ∉ before) (after : Text) :
    cutMark mark (before ++ mark :: after) = (before, some after) := by
  rw [cutMark, Text.cutAt?_append_stop (Text.beq_mark_of_not_mem h) (beq_self_eq_true mark)]

def parameterText (parameter : Text × Text) : Text :=
  parameter.1 ++ '=' :: parameter.2

/-- Parameters are read back, if no name has an equals sign in it and nothing an ampersand. -/
theorem parameters_join {list : List (Text × Text)} (hne : list ≠ [])
    (hnames : ∀ p ∈ list, '=' ∉ p.1) (htexts : ∀ p ∈ list, '&' ∉ parameterText p) :
    parameters (Text.join ['&'] (list.map parameterText)) = list.map fun p => (p.1, some p.2) := by
  have hpieces : ∀ piece ∈ list.map parameterText, ∀ c ∈ piece, (c == '&') = false := by
    intro piece hpiece
    obtain ⟨p, hp, rfl⟩ := List.mem_map.1 hpiece
    exact Text.beq_mark_of_not_mem (htexts p hp)
  rw [parameters, Text.splitWhere_join (by decide) (by simpa using hne) hpieces, List.map_map]
  exact List.map_congr_left fun p hp => cutMark_append (hnames p hp) p.2

/-! ## Characters of an address and of a query -/

/-- A character that can stand before the query of an address and is read as it is. -/
def IsFrontChar (c : Char) : Prop :=
  c ≠ '#' ∧ c ≠ '?' ∧ isEdge c = false

instance (c : Char) : Decidable (IsFrontChar c) :=
  inferInstanceAs (Decidable (_ ∧ _ ∧ _))

theorem isFrontChar_of_path {c : Char} (hc : isPathEscaped c = false) : IsFrontChar c :=
  plain_of_escaped hc

/-- An escaped query has no mark of a fragment, and all of it is read. -/
theorem plain_of_query {c : Char} (hc : isQueryEscaped true c = false) :
    c ≠ '#' ∧ isEdge c = false := by
  have hmark (d : Char) (hd : isQueryEscaped true d) : c ≠ d := by
    rintro rfl
    rw [hd] at hc
    cases hc
  refine ⟨hmark '#' (by decide), ?_⟩
  have hspace : c.toNat ≠ 0x20 := fun h => hmark ' ' (by decide) (Char.toNat_inj.1 h)
  simp only [isQueryEscaped, Host.isControl, Bool.or_eq_false_iff, decide_eq_false_iff_not] at hc
  simp only [isEdge, decide_eq_false_iff_not]
  omega

/-- What an encoded text is made of is not encoded in a query and separates no parameters. -/
theorem query_of_mem_encode {t : Text} {c : Char} :
    c ∈ Percent.encode t → isQueryEscaped true c = false ∧ c ≠ '&' ∧ c ≠ '+' := by
  intro hc
  have hall : ∀ c : Char, c = '%' ∨ Percent.isUnreserved c →
      isQueryEscaped true c = false ∧ c ≠ '&' ∧ c ≠ '+' := by
    refine Text.ascii_cases (by decide) fun c hbeyond hc => ?_
    rcases hc with rfl | hc
    · exact absurd hbeyond (by decide)
    · exact absurd (Percent.code_of_isUnreserved hc) (Nat.not_lt.2 hbeyond)
  exact hall c (Percent.mem_encode hc)

/-! ## The URL of a query -/

theorem tidy_eq_self {t : Text} (ht : ∀ c ∈ t, isEdge c = false) : tidy t = t := by
  cases t with
  | nil => rfl
  | cons c cs => exact tidy_append (List.cons_ne_nil c cs) ht []

/-- An address is taken apart at its question mark. -/
theorem parts_of_query {front query : Text} (hfront : ∀ c ∈ front, IsFrontChar c)
    (hquery : '#' ∉ query) : Parts.of (front ++ '?' :: query) = ⟨front, some query, none⟩ := by
  have hhash : '#' ∉ front ++ '?' :: query := by
    rw [List.mem_append, List.mem_cons, not_or, not_or]
    exact ⟨fun h => (hfront '#' h).1 rfl, by decide, hquery⟩
  have hquestion : '?' ∉ front := fun h => (hfront '?' h).2.1 rfl
  simp only [Parts.of, cutMark_of_not_mem hhash, cutMark_append hquestion]

variable {t : Text} {u : Url}

/-- A URL that is written without marks has no query and no fragment. -/
theorem query_eq_none (hparse : parse t = .ok u) (ht : ∀ c ∈ t, IsFrontChar c) :
    u.query = none ∧ u.fragment = none := by
  have hparts : Parts.of (tidy t) = ⟨t, none, none⟩ := by
    rw [tidy_eq_self fun c hc => (ht c hc).2.2]
    exact parts_eq_iff.2 ⟨rfl, fun h => (ht '#' h).1 rfl, fun h => (ht '?' h).2.1 rfl⟩
  rw [parse, hparts] at hparse
  dsimp only at hparse
  split at hparse
  · obtain ⟨-, hquery, hfragment⟩ := keeps_ofScheme hparse
    exact ⟨hquery, hfragment⟩
  · cases hparse

structure SameServer (u v : Url) : Prop where
  scheme : v.scheme = u.scheme
  userInfo : v.userInfo = u.userInfo
  host : v.host = u.host
  port : v.port = u.port

/-- Behind every address that is a URL under a scheme with domain names, has no mark of a query or
fragment and holds no white space stands the URL of a query. -/
theorem exists_parse_behind (hparse : parse t = .ok u) (hdomain : hasDomain u.scheme)
    (ht : ∀ c ∈ t, IsFrontChar c) {path query : Text}
    (hpath : ∀ c ∈ path, isPathEscaped c = false)
    (hquery : ∀ c ∈ query, isQueryEscaped true c = false) :
    ∃ v, parse (Text.dropEndWhile (· == '/') t ++ '/' :: path ++ '?' :: query) = .ok v ∧
      SameServer u v ∧ v.query = some query ∧ v.fragment = none := by
  obtain ⟨slashes, hslashes, hsplit⟩ := Text.exists_dropEndWhile (· == '/') t
  replace hslashes : ∀ c ∈ slashes, c = '/' := fun c hc => beq_iff_eq.1 (hslashes c hc)
  set s := Text.dropEndWhile (· == '/') t
  have hs : ∀ c ∈ s, IsFrontChar c := fun c hc => ht c (hsplit ▸ List.mem_append_left slashes hc)
  have htidy : tidy t = t := tidy_eq_self fun c hc => (ht c hc).2.2
  obtain ⟨hnoQuery, hnoFragment⟩ := query_eq_none hparse ht
  -- The address begins without its slashes as it does with them.
  obtain ⟨first, rest, hstart⟩ : ∃ first rest, IsStart u.scheme s first rest := by
    obtain ⟨first, rest, hstart⟩ := exists_isStart hparse hdomain hnoQuery hnoFragment
    rw [htidy] at hstart
    obtain ⟨rest', h⟩ :=
      hstart.of_append (w := []) (by rw [List.append_nil, ← hsplit]) hslashes (by simp)
    exact ⟨first, rest', h⟩
  have hslash : ∀ c ∈ slashes.head?, isSlash true c := by
    intro c hc
    obtain rfl := hslashes c (List.mem_of_mem_head? hc)
    decide
  -- Its authority is that of the URL, and is read with the path and query, too.
  have hread : parse t =
      ofAuthority u.scheme (first :: rest ++ slashes) ⟨s ++ slashes, none, none⟩ := by
    refine hstart.parse_of_parts hdomain ?_
    rw [htidy, ← hsplit]
    exact parts_eq_iff.2 ⟨rfl, fun h => (ht '#' h).1 rfl, fun h => (ht '?' h).2.1 rfl⟩
  rw [hread, ofAuthority_eq_map hdomain, takeWhile_authority hslash] at hparse
  have hfront : ∀ c ∈ s ++ '/' :: path, IsFrontChar c := by
    refine List.forall_mem_append.2 ⟨hs, List.forall_mem_cons.2 ⟨by decide, ?_⟩⟩
    exact fun c hc => isFrontChar_of_path (hpath c hc)
  have hparts : Parts.of (tidy (s ++ '/' :: path ++ '?' :: query)) =
      ⟨s ++ '/' :: path, some query, none⟩ := by
    rw [tidy_eq_self, parts_of_query hfront fun h => (plain_of_query (hquery '#' h)).1 rfl]
    refine List.forall_mem_append.2 ⟨fun c hc => (hfront c hc).2.2,
      List.forall_mem_cons.2 ⟨by decide, fun c hc => (plain_of_query (hquery c hc)).2⟩⟩
  rw [hstart.parse_of_parts hdomain hparts, ofAuthority_eq_map hdomain,
    takeWhile_authority (head_slash path)]
  have hkept : queryOf true (some query) = some query :=
    congrArg some (Percent.encodeWhere_eq_self hquery)
  cases hauthority : ofAuthority u.scheme ((first :: rest).takeWhile fun c => !isSlash true c)
      ⟨[], none, none⟩ with
  | error reason =>
      rw [hauthority] at hparse
      cases hparse
  | ok server =>
      rw [hauthority] at hparse
      cases hparse
      exact ⟨_, rfl, ⟨rfl, rfl, rfl, rfl⟩, hkept, rfl⟩

end Url

end CiteIndex
