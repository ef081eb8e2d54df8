import CiteIndex.Proofs.Lookup.Inserting
import CiteIndex.Proofs.Url.Below

/-!
# Addresses of DOIs

A resolver is asked for a DOI at the DOI's own segments, each with its own escapes, below the address
of the resolver. Different DOIs have different segments. They are asked for at different URLs as long
as none of the segments stands for a directory; such a segment is resolved when the address is read,
so that a DOI with one shares its URL, and with it the record, with another DOI.

- `Client.fetchWith_sent`: the first request of a run
- `Resolver.AsksFirst`, `Resolver.asksFirst_iff`: where a resolver is asked for a DOI
- `Doi.segments`, `Doi.segments_inj`: the segments of the address of a DOI
- `Resolver.asksFirst_same_iff`: which DOIs share a URL
- `Resolver.not_asksFirst_ne`: two that do
-/

namespace CiteIndex

/-! ## The first request -/

namespace Client

variable {client : Client} {net : Transport} {given : Headers} {address : Text}
  {before : List Request}

/-- A request that is not refused is sent before all others. -/
theorem follow_sent {current : Url}
    (hsend : net.send before (client.request given current) ≠ .refused) (first : Text) (left : Nat) :
    ∃ later, (client.follow net given first left current before).2 =
      before ++ client.request given current :: later := by
  obtain ⟨followed, last, htrail, -, hlast⟩ :=
    client.follow_trail net given first left current before
  cases htrail with
  | here =>
      rcases hlast.sent with hsent | ⟨hrefused, -⟩
      · exact ⟨[], by simpa using hsent⟩
      · exact absurd (by simpa using hrefused) hsend
  | step _ _ =>
      rename_i followed next _ _
      rcases hlast.sent with hsent | ⟨-, hsent⟩
      · exact ⟨followed ++ [last], by simpa using hsent⟩
      · exact ⟨followed, by simpa using hsent⟩

/-- What is sent first asks for the address itself, under a scheme for requests. -/
theorem fetchWith_sent {request : Request} {later : List Request}
    (h : (client.fetchWith net given address before).2 = before ++ request :: later) :
    ∃ url, Url.parse address = .ok url ∧ url.scheme ∈ Transport.schemes ∧
      request = client.request given url := by
  have hlonger : before ≠ before ++ request :: later := by simp
  rw [fetchWith] at h
  cases hurl : Url.parse address with
  | error reason =>
      rw [hurl] at h
      exact absurd h hlonger
  | ok url =>
      rw [hurl] at h
      dsimp only at h
      by_cases hscheme : Transport.schemes.contains url.scheme
      · refine ⟨url, rfl, List.contains_iff_mem.1 hscheme, ?_⟩
        by_cases hsend : net.send before (client.request given url) = .refused
        · rw [follow, hsend] at h
          exact absurd h hlonger
        · obtain ⟨later', hsent⟩ := follow_sent hsend address client.maxRedirects
          rw [h] at hsent
          exact (List.cons.inj (List.append_cancel_left hsent)).1
      · have hsend : net.send before (client.request given url) = .refused := by
          rw [Transport.send]
          exact if_neg hscheme
        rw [follow, hsend] at h
        exact absurd h hlonger

end Client

/-! ## Segments of DOIs -/

namespace Doi

/-- The segments under which a DOI stands at every resolver. -/
def segments (d : Doi) : List Text :=
  (Text.splitWhere (· == '/') d.normalized).map Percent.encode

/-- A part of the DOI between slashes is the name of a directory. -/
def HasDots (d : Doi) : Prop :=
  ∃ part ∈ Text.splitWhere (· == '/') d.normalized, part = ['.'] ∨ part = ['.', '.']

instance (d : Doi) : Decidable d.HasDots :=
  inferInstanceAs (Decidable (∃ part ∈ _, part = ['.'] ∨ part = ['.', '.']))

variable {d d' : Doi}

/-- Different DOIs have different segments. -/
theorem segments_inj : d.segments = d'.segments ↔ d.normalized = d'.normalized := by
  constructor
  · intro h
    have hparts : Text.splitWhere (· == '/') d.normalized =
        Text.splitWhere (· == '/') d'.normalized :=
      List.map_injective_iff.2 (fun _ _ => Percent.encode_inj.1) h
    rw [← Text.join_splitWhere '/' d.normalized, hparts, Text.join_splitWhere]
  · intro h
    rw [segments, h, segments]

theorem slash_not_mem_segments : ∀ s ∈ d.segments, '/' ∉ s := by
  intro s hs
  obtain ⟨part, -, rfl⟩ := List.mem_map.1 hs
  exact Url.slash_not_mem_encode part

/-- Without names of directories the segments are left as they are when they are read. -/
theorem resolveSegments_segments (hd : ¬d.HasDots) (above : List Text) :
    Url.resolveSegments above d.segments = above ++ d.segments := by
  refine Url.resolveSegments_of_plain ?_ above
  intro s hs
  obtain ⟨part, hpart, rfl⟩ := List.mem_map.1 hs
  constructor
  · refine Bool.eq_false_iff.2 fun h => hd ⟨part, hpart, .inl (Url.isHere_encode.1 h)⟩
  · refine Bool.eq_false_iff.2 fun h => hd ⟨part, hpart, .inr (Url.isAbove_encode.1 h)⟩

/-- The address of a DOI at a resolver is one below the address of the resolver. -/
theorem parse_addressOn {resolver scheme : Text} {front : Except UrlError Url} {above : List Text}
    (hbelow : Url.Below resolver scheme front above) (d : Doi) :
    Url.parse (d.addressOn resolver) = front.map fun u =>
      { u with path := .segments (Url.resolveSegments above d.segments) } := by
  have hread : Url.segmentsOf true (Text.join ['/'] d.segments) = d.segments :=
    Url.segmentsOf_join_encode (Text.splitWhere_ne_nil _ _)
  have hplain : ∀ c ∈ Text.join ['/'] d.segments, Url.isPathEscaped c = false := by
    intro c hc
    rcases Text.mem_join hc with hc | ⟨s, hs, hc⟩
    · obtain rfl := List.mem_singleton.1 hc
      decide
    · obtain ⟨part, -, rfl⟩ := List.mem_map.1 hs
      exact (Url.plain_of_mem_encode hc).2
  rw [← hread]
  exact hbelow.parse_eq _ hplain

end Doi

namespace Resolver

variable {r : Resolver} {d : Doi} {url : Url}

/-- In some run for a DOI, whatever was sent before it, the first request is for a URL. -/
def AsksFirst (r : Resolver) (d : Doi) (url : Url) : Prop :=
  ∃ net before request later, (r.fetchRecord net d before).2 = before ++ request :: later ∧
    request.url = url

/-- For a record the resolver sends what the client sends for its address. -/
theorem fetchRecord_sent (r : Resolver) (net : Transport) (d : Doi) (before : List Request) :
    (r.fetchRecord net d before).2 =
      (r.client.fetch net (some recordType) (d.addressOn r.url) before).2 := by
  rw [fetchRecord]
  split
  · rename_i hfetch
    rw [hfetch]
  · rename_i hfetch
    rw [hfetch]

/-- A resolver is asked for a DOI at its address, if that is a URL under a scheme for requests. -/
theorem asksFirst_iff :
    r.AsksFirst d url ↔
      Url.parse (d.addressOn r.url) = .ok url ∧ url.scheme ∈ Transport.schemes := by
  constructor
  · rintro ⟨net, before, request, later, hsent, rfl⟩
    rw [fetchRecord_sent] at hsent
    obtain ⟨url, hurl, hscheme, rfl⟩ := Client.fetchWith_sent hsent
    exact ⟨hurl, hscheme⟩
  · rintro ⟨hurl, hscheme⟩
    -- Over a transport that closes every connection one request is sent.
    let net : Transport := ⟨fun _ _ => .closed, fun _ _ => none⟩
    let request := r.client.request [("accept".toList, recordType)] url
    have hsend : net.send [] request = .closed :=
      if_pos (List.contains_iff_mem.2 hscheme)
    obtain ⟨later, hsent⟩ :=
      Client.follow_sent (hsend.trans_ne nofun) (d.addressOn r.url) r.client.maxRedirects
    refine ⟨net, [], request, later, ?_, rfl⟩
    rw [fetchRecord_sent, Client.fetch, Client.fetchWith, hurl]
    exact hsent

/-! ## Which DOIs share a URL -/

/-- URLs that differ in their segments alone are written differently. -/
theorem requestText_inj_of_segments {u : Url} {l l' : List Text} (hhost : u.host.isSome)
    (hl : ∀ s ∈ l, '/' ∉ s) (hl' : ∀ s ∈ l', '/' ∉ s) :
    ({ u with path := .segments l } : Url).requestText =
      ({ u with path := .segments l' } : Url).requestText ↔ l = l' := by
  obtain ⟨host, hhost⟩ := Option.isSome_iff_exists.1 hhost
  have hwritten (list : List Text) :
      ({ u with path := .segments list } : Url).requestText =
        (u.scheme ++ ':' :: u.authorityText) ++
          (list.flatMap ('/' :: ·) ++ Url.marked '?' u.query) := by
    simp [Url.requestText, Url.authorityText, Url.pathText, hhost]
  rw [hwritten, hwritten, List.append_cancel_left_eq, List.append_cancel_right_eq,
    Text.flatMap_mark_inj hl hl']

/-- At every resolver there are segments behind which those of all DOIs are resolved. Two DOIs are
asked for at the same URL just if that leaves the same segments. DOIs without names of directories
are asked for at the same URL only if they are the same. -/
theorem asksFirst_same_iff {r : Resolver} {base : Url} (hbase : Url.parse r.url = .ok base)
    (hscheme : base.scheme ∈ Transport.schemes) (hquery : base.query = none)
    (hfragment : base.fragment = none) :
    ∃ above, ∀ d d' url url', r.AsksFirst d url → r.AsksFirst d' url' →
      (url.requestText = url'.requestText ↔ url = url') ∧
      (url = url' ↔ Url.resolveSegments above d.segments = Url.resolveSegments above d'.segments) ∧
      (¬d.HasDots → ¬d'.HasDots → (url = url' ↔ d.normalized = d'.normalized)) := by
  have hdomain : ∀ scheme ∈ Transport.schemes, Url.hasDomain scheme := by decide
  obtain ⟨front, above, hbelow⟩ :=
    Url.exists_below hbase (hdomain _ hscheme) hquery hfragment
  refine ⟨above, ?_⟩
  intro d d' url url' hurl hurl'
  have hread (d : Doi) : ∀ s ∈ Url.resolveSegments above d.segments, '/' ∉ s := by
    intro s hs
    rcases Url.mem_resolveSegments hs with hs | hs | rfl
    · exact hbelow.slash_not_mem s hs
    · exact Doi.slash_not_mem_segments s hs
    · simp
  -- Both URLs are read from addresses below that of the resolver.
  obtain ⟨hurl, -⟩ := asksFirst_iff.1 hurl
  obtain ⟨hurl', -⟩ := asksFirst_iff.1 hurl'
  rw [Doi.parse_addressOn hbelow] at hurl hurl'
  cases hfront : front with
  | error reason =>
      rw [hfront] at hurl
      cases hurl
  | ok u =>
      rw [hfront] at hurl hurl'
      cases hurl
      cases hurl'
      have hhost := (hbelow.keeps u hfront).2.1
      have htext := requestText_inj_of_segments hhost (hread d) (hread d')
      have hsame : ({ u with path := .segments (Url.resolveSegments above d.segments) } : Url) =
          { u with path := .segments (Url.resolveSegments above d'.segments) } ↔
            Url.resolveSegments above d.segments = Url.resolveSegments above d'.segments := by
        simp
      refine ⟨htext.trans hsame.symm, hsame, ?_⟩
      intro hdots hdots'
      rw [hsame, Doi.resolveSegments_segments hdots, Doi.resolveSegments_segments hdots',
        List.append_cancel_left_eq, Doi.segments_inj]

def serverResolver : Resolver :=
  ⟨⟨"agent".toList, 5⟩, "http://a/".toList⟩

def serverUrl (segments : List Text) : Url :=
  ⟨"http".toList, [], some "a".toList, none, .segments segments, none, none⟩

def typedDoi (t : Text) : Doi :=
  ⟨t, t⟩

/-- An escape in a DOI is none in its address. -/
theorem asksFirst_same_iff_escape :
    Url.parse serverResolver.url = .ok (serverUrl [[]]) ∧ "http".toList ∈ Transport.schemes ∧
      serverResolver.AsksFirst (typedDoi "10.1/%2e".toList)
        (serverUrl ["10.1".toList, "%252e".toList]) ∧
      serverResolver.AsksFirst (typedDoi "10.1/%252e".toList)
        (serverUrl ["10.1".toList, "%25252e".toList]) ∧
      (serverUrl ["10.1".toList, "%252e".toList]).requestText ≠
        (serverUrl ["10.1".toList, "%25252e".toList]).requestText := by
  have hbase : Url.parse serverResolver.url = .ok (serverUrl [[]]) := rfl
  have hscheme : "http".toList ∈ Transport.schemes := by decide
  have hasks : serverResolver.AsksFirst (typedDoi "10.1/%2e".toList)
      (serverUrl ["10.1".toList, "%252e".toList]) := asksFirst_iff.2 ⟨rfl, hscheme⟩
  have hasks' : serverResolver.AsksFirst (typedDoi "10.1/%252e".toList)
      (serverUrl ["10.1".toList, "%25252e".toList]) := asksFirst_iff.2 ⟨rfl, hscheme⟩
  refine ⟨hbase, hscheme, hasks, hasks', ?_⟩
  obtain ⟨above, hsame⟩ := asksFirst_same_iff hbase hscheme rfl rfl
  obtain ⟨htext, -, hnormal⟩ := hsame _ _ _ _ hasks hasks'
  rw [Ne, htext, hnormal (by decide) (by decide)]
  decide

/-- A server that has one record, and nothing at any other address. -/
def oneRecord : Transport :=
  .ofTable [("http://a/10.1/x".toList,
      .answered ⟨200, [], some (FileTree.bytesOf "@misc{x}".toList)⟩)]
    (.answered ⟨404, [], some .empty⟩)

/-- Not all DOIs are asked for at URLs of their own. What there is under the name of one is handed
out as the record of another. -/
theorem not_asksFirst_ne :
    (¬∀ (r : Resolver) (base : Url) (typed typed' : Text) (d d' : Doi) (url url' : Url),
      Url.parse r.url = .ok base → base.scheme = "http".toList → base.query = none →
        base.fragment = none → Doi.parse typed = .ok d → Doi.parse typed' = .ok d' →
          d.normalized ≠ d'.normalized → r.AsksFirst d url → r.AsksFirst d' url' →
            url.requestText ≠ url'.requestText) ∧
      (serverResolver.fetchRecord oneRecord (typedDoi "10.1/./x".toList) []).1 =
        .ok "@misc{x}".toList := by
  have hscheme : "http".toList ∈ Transport.schemes := by decide
  have hplain : Doi.parse "10.1/x".toList = .ok (typedDoi "10.1/x".toList) := rfl
  have hdotted : Doi.parse "10.1/./x".toList = .ok (typedDoi "10.1/./x".toList) := rfl
  have hplainUrl : Url.parse ((typedDoi "10.1/x".toList).addressOn serverResolver.url) =
      .ok (serverUrl ["10.1".toList, "x".toList]) := rfl
  have hdottedUrl : Url.parse ((typedDoi "10.1/./x".toList).addressOn serverResolver.url) =
      .ok (serverUrl ["10.1".toList, "x".toList]) := rfl
  constructor
  · intro h
    exact h serverResolver (serverUrl [[]]) _ _ _ _ _ _ rfl rfl rfl rfl hplain hdotted (by decide)
      (asksFirst_iff.2 ⟨hplainUrl, hscheme⟩) (asksFirst_iff.2 ⟨hdottedUrl, hscheme⟩) rfl
  · have hdecode : Utf8.decodeLossy (FileTree.bytesOf "@misc{x}".toList) = "@misc{x}".toList := by
      decide +kernel
    have hbody : oneRecord.bodyText? ⟨200, [], some (FileTree.bytesOf "@misc{x}".toList)⟩ =
        some "@misc{x}".toList := congrArg some hdecode
    have hfetch : serverResolver.client.fetch oneRecord (some recordType)
        ((typedDoi "10.1/./x".toList).addressOn serverResolver.url) [] = (.ok "@misc{x}".toList, _) :=
      Client.fetchWith_of_success hdottedUrl rfl rfl hbody
    rw [fetchRecord_of_answered hfetch]
    rfl

end Resolver

end CiteIndex
