import CiteIndex.Proofs.Doi.ReadBack
import CiteIndex.Proofs.Lookup.Works
import CiteIndex.Proofs.Url.Query
import Mathlib.Data.Bool.AllAny

/-!
# What a search asks for and what it finds

A search asks the server of the catalogue for the words as they were typed, whatever they hold: they
are one parameter of the query and the number of results is the other. Of the answer it keeps the
works of the first items with a DOI.

- `Catalogue.Asks`: the URL of a search
- `Catalogue.exists_asks`: the address of a search is such a URL
- `Catalogue.Finds`: what is made of what was fetched
- `Catalogue.search_exact`: all searches
-/

namespace CiteIndex

theorem one_le_clampRows (rows : Nat) : 1 ≤ clampRows rows := by
  rw [clampRows]
  omega

theorem clampRows_le (rows : Nat) : clampRows rows ≤ maxRows := by
  rw [clampRows, maxRows]
  omega

theorem clampRows_eq_self {rows : Nat} (hone : 1 ≤ rows) (hmax : rows ≤ maxRows) :
    clampRows rows = rows := by
  rw [clampRows]
  omega

namespace Catalogue

/-! ## The address of a search -/

def searchParameters (words : Text) (rows : Nat) : List (Text × Text) :=
  [("query".toList, Percent.encode words), ("rows".toList, Text.ofNat rows)]

def searchQuery (words : Text) (rows : Nat) : Text :=
  Text.join ['&'] ((searchParameters words rows).map Url.parameterText)

/-- The URL asks a server for some words and some number of results: they are the only parameters
of its query, and both ways in which servers read a plus sign give the same words. -/
structure Asks (server : Url) (words : Text) (rows : Nat) (url : Url) : Prop where
  server : Url.SameServer server url
  fragment : url.fragment = none
  query : ∃ query value, url.query = some query ∧
    Url.parameters query =
      [("query".toList, some value), ("rows".toList, some (Text.ofNat rows))] ∧
    Host.unescape? value = some words ∧ '+' ∉ value

/-- The address of a search, part by part. -/
theorem searchAddress_make (client : Client) (base : Text) (rows : Nat) (words : Text) :
    (make client base rows).searchAddress words =
      Text.dropEndWhile (· == '/') base ++ '/' :: "works".toList ++
        '?' :: searchQuery words (clampRows rows) := by
  simp [searchAddress, make, searchQuery, searchParameters, Url.parameterText, Text.join]

theorem plain_of_mem_ofNat {rows : Nat} (hrows : rows ≤ maxRows) :
    ∀ c ∈ Text.ofNat rows, Url.isQueryEscaped true c = false ∧ c ≠ '&' := by
  have hall : ∀ n < maxRows + 1,
      (Text.ofNat n).all fun c => Url.isQueryEscaped true c = false ∧ c ≠ '&' := by decide
  exact List.all_iff_forall_prop.1 (hall rows (Nat.lt_succ_of_le hrows))

/-- No parameter of a search holds a character that means something else in a query. -/
theorem plain_of_mem_parameterText (words : Text) {rows : Nat} (hrows : rows ≤ maxRows) :
    ∀ p ∈ searchParameters words rows,
      ∀ c ∈ Url.parameterText p, Url.isQueryEscaped true c = false ∧ c ≠ '&' := by
  have hnames : ∀ name ∈ ["query".toList, "rows".toList],
      (name ++ ['=']).all fun c => Url.isQueryEscaped true c = false ∧ c ≠ '&' := by decide
  have hvalues : ∀ p ∈ searchParameters words rows, ∀ c ∈ p.2,
      Url.isQueryEscaped true c = false ∧ c ≠ '&' := by
    refine List.forall_mem_cons.2 ⟨?_, List.forall_mem_singleton.2 (plain_of_mem_ofNat hrows)⟩
    intro c hc
    obtain ⟨hescaped, hmark, -⟩ := Url.query_of_mem_encode hc
    exact ⟨hescaped, hmark⟩
  intro p hp c hc
  rw [Url.parameterText, ← List.singleton_append, ← List.append_assoc, List.mem_append] at hc
  rcases hc with hc | hc
  · have hname := hnames p.1 (List.mem_map_of_mem (f := Prod.fst) hp)
    exact List.all_iff_forall_prop.1 hname c hc
  · exact hvalues p hp c hc

/-- The words and the number of results are read back from the query. -/
theorem parameters_searchQuery {words : Text} {rows : Nat} (hrows : rows ≤ maxRows) :
    Url.parameters (searchQuery words rows) =
      [("query".toList, some (Percent.encode words)), ("rows".toList, some (Text.ofNat rows))] := by
  have hnames : ∀ name ∈ ["query".toList, "rows".toList], '=' ∉ name := by decide
  have hne : searchParameters words rows ≠ [] := List.cons_ne_nil _ _
  rw [searchQuery, Url.parameters_join hne
    (fun p hp => hnames p.1 (List.mem_map_of_mem (f := Prod.fst) hp))
    (fun p hp hmark => (plain_of_mem_parameterText words hrows p hp '&' hmark).2 rfl)]
  rfl

variable {base : Text} {server : Url}

/-- The address of a search is a URL that asks the server of the catalogue for the words. -/
theorem exists_asks (hbase : Url.parse base = .ok server)
    (hscheme : server.scheme ∈ Transport.schemes) (hplain : ∀ c ∈ base, Url.IsFrontChar c)
    (client : Client) (rows : Nat) (words : Text) :
    ∃ url, Url.parse ((make client base rows).searchAddress words) = .ok url ∧
      Asks server words (clampRows rows) url := by
  have hdomain : ∀ scheme ∈ Transport.schemes, Url.hasDomain scheme := by decide
  have hparameters := plain_of_mem_parameterText words (clampRows_le rows)
  have hquery : ∀ c ∈ searchQuery words (clampRows rows), Url.isQueryEscaped true c = false := by
    intro c hc
    rcases Text.mem_join hc with hc | ⟨text, htext, hc⟩
    · obtain rfl := List.mem_singleton.1 hc
      decide
    · obtain ⟨p, hp, rfl⟩ := List.mem_map.1 htext
      exact (hparameters p hp c hc).1
  have hpath : ∀ c ∈ "works".toList, Url.isPathEscaped c = false :=
    List.all_iff_forall_prop.1 (by decide)
  obtain ⟨url, hurl, hserver, hasked, hfragment⟩ :=
    Url.exists_parse_behind hbase (hdomain _ hscheme) hplain hpath hquery
  refine ⟨url, by rw [searchAddress_make, hurl], hserver, hfragment, _, _, hasked,
    parameters_searchQuery (clampRows_le rows), Host.unescape?_encode words, ?_⟩
  exact fun hplus => (Url.query_of_mem_encode hplus).2.2 rfl

/-! ## Searches -/

structure Finds (rows : Nat) (answer : Except FetchError Text × List Request)
    (run : Except LookupError (List Work) × List Request) : Prop where
  sent : run.2 = answer.2
  unfetched : ∀ e, answer.1 = .error e → run.1 = .error (.fetch e)
  fetched : ∀ body, answer.1 = .ok body → FindsIn rows body run.1

/-- A search for white space sends nothing. -/
theorem search_of_blank {query : Text} (c : Catalogue) (net : Transport) (before : List Request)
    (hblank : ∀ ch ∈ query, Text.isBlank ch) :
    c.search net query before = (.error .emptyQuery, before) := by
  rw [search]
  exact if_pos (List.isEmpty_iff.2 (Text.trim_eq_nil_iff.2 hblank))

/-- A search for anything else asks once for its trimmed words. -/
theorem finds_search {query : Text} (c : Catalogue) (net : Transport) (before : List Request)
    (hink : ¬∀ ch ∈ query, Text.isBlank ch) :
    Finds c.rows (c.client.fetch net none (c.searchAddress (Text.trim query)) before)
      (c.search net query before) := by
  have hwords : (Text.trim query).isEmpty = false :=
    Bool.eq_false_iff.2 fun h => hink (Text.trim_eq_nil_iff.1 (List.isEmpty_iff.1 h))
  rw [search, hwords]
  simp only [Bool.false_eq_true, if_false]
  cases hfetch : c.client.fetch net none (c.searchAddress (Text.trim query)) before with
  | mk result sent =>
      cases result with
      | error e => exact ⟨rfl, fun e he => by cases he; rfl, fun body hbody => nomatch hbody⟩
      | ok body =>
          refine ⟨rfl, fun e he => (nomatch he), fun body' hbody => ?_⟩
          obtain rfl := Except.ok.inj hbody
          exact findsIn_worksIn c body

/-- An answer with items that have no DOI, and one whose title is no array. -/
def mixedAnswer : Text :=
  ("\x7b\"message\":\x7b\"items\":[7,\x7b\"DOI\":\"a\",\"title\":3\x7d,\x7b\"DOI\":4\x7d," ++
    "\x7b\"DOI\":\"b\"\x7d,\x7b\"DOI\":\"c\"\x7d]\x7d\x7d").toList

theorem exists_read_mixedAnswer :
    ∃ v items, Json.read? mixedAnswer = some v ∧
      (v.member "message").member "items" = .array items ∧
      (items.filter Work.hasDoi).map (fun item => (item.member "DOI").string?) =
        [some "a".toList, some "b".toList, some "c".toList] := by
  have hread : ((Json.read? mixedAnswer).bind fun v =>
      ((v.member "message").member "items").array?).map
        (fun items => (items.filter Work.hasDoi).map fun item => (item.member "DOI").string?) =
      some [some "a".toList, some "b".toList, some "c".toList] := by
    decide +kernel
  obtain ⟨items, hitems, hdois⟩ := Option.map_eq_some_iff.1 hread
  obtain ⟨v, hv, hitems⟩ := Option.bind_eq_some_iff.1 hitems
  exact ⟨v, items, hv, Json.array?_eq_some_iff.1 hitems, hdois⟩

end Catalogue

end CiteIndex
