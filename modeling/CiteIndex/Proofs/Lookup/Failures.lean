import CiteIndex.Command.Run
import CiteIndex.Proofs.Http.Redirects
import CiteIndex.Proofs.Lookup.Inserting

/-!
# When lookups fail

A search or a fetch fails before it asks for anything, or because of the network. Input that is
rejected is never asked for, and what fails after a request is a failure of the network, with one
exception: a redirect to an address that cannot be read fails like an address of the user's own.

- `Transport.LeadsAstray`: the last request was answered with such a redirect
- `Client.fetch_invalidUrl`: where an address that cannot be read comes from
- `Lookup.IsClassified`: what the class of an error says about the requests
- `Lookup.search_fetchRecord_classified`: the errors of all lookups
-/

namespace CiteIndex

/-! ## Redirects to nowhere -/

/-- Of the requests `sent`, with those `before` among them, the last one was answered with a
redirect to an address that cannot be read. -/
def Transport.LeadsAstray (net : Transport) (before sent : List Request) (location : Text)
    (reason : UrlError) : Prop :=
  ∃ followed last response, sent = before ++ followed ++ [last] ∧
    net.send (before ++ followed) last = .answered response ∧ response.isRedirect ∧
    response.location? = some location ∧ last.url.join location = .error reason

namespace Client

variable {client : Client} {net : Transport} {accept : Option Text} {address : Text}
  {before sent : List Request}

/-- An address that cannot be read is the one that was asked for, of which nothing is sent, or the
one that the last request was redirected to. -/
theorem fetch_invalidUrl {url : Text} {reason : UrlError} :
    client.fetch net accept address before = (.error (.invalidUrl url reason), sent) →
      (url = address ∧ sent = before) ∨ net.LeadsAstray before sent url reason := by
  intro hrun
  rw [fetch, fetchWith] at hrun
  cases hparse : Url.parse address with
  | error failure =>
      rw [hparse] at hrun
      obtain ⟨herror, hsent⟩ := Prod.mk.inj hrun
      cases herror
      exact .inl ⟨rfl, hsent.symm⟩
  | ok start =>
      rw [hparse] at hrun
      dsimp only at hrun
      -- The reply to the last request of the trail decides.
      obtain ⟨followed, last, -, -, hlast⟩ := client.follow_trail net
        (accept.toList.map fun type => ("accept".toList, type)) address client.maxRedirects
        start before
      rw [hrun] at hlast
      obtain ⟨response, hsend, hredirect, -, hlocation, hjoin⟩ := (hlast.invalidUrl _ _).1 rfl
      -- The last request was answered, so it was sent.
      have hsent : sent = before ++ followed ++ [last] := by
        rcases hlast.sent with hsent | ⟨hrefused, -⟩
        · exact hsent
        · rw [hsend] at hrefused
          cases hrefused
      exact .inr ⟨followed, last, response, hsent, hsend, hredirect, hlocation, hjoin⟩

/-- A redirect to an address that cannot be read is the end, even where it could be followed. -/
theorem fetchWith_of_astray {given : Headers} {url : Url} {response : Response} {location : Text}
    {reason : UrlError} : Url.parse address = .ok url →
      net.send before (client.request given url) = .answered response → response.isRedirect →
        0 < client.maxRedirects → response.location? = some location →
          url.join location = .error reason →
            client.fetchWith net given address before =
              (.error (.invalidUrl location reason), before ++ [client.request given url]) := by
  intro hurl hsend hredirect hmore hlocation hjoin
  obtain ⟨left, hleft⟩ := Nat.exists_eq_add_one_of_ne_zero (Nat.ne_of_gt hmore)
  rw [fetchWith, hurl]
  dsimp only
  rw [hleft, follow]
  simp [hsend, hredirect, hlocation, hjoin]

end Client

/-! ## Classes of errors -/

namespace LookupError

/-- No error is a rejection of input and a failure of the network. -/
theorem isNetwork_of_isValidation {e : LookupError} : e.isValidation → e.isNetwork = false := by
  intro h
  cases e with
  | doi _ => rfl
  | emptyQuery => rfl
  | _ => cases h

theorem isValidation_of_isNetwork {e : LookupError} : e.isNetwork → e.isValidation = false := by
  intro h
  cases hvalidation : e.isValidation with
  | false => rfl
  | true =>
      rw [isNetwork_of_isValidation hvalidation] at h
      cases h

/-- An error of fetching is one of the network, unless a text is no URL. -/
theorem isNetwork_fetch {e : FetchError} :
    (∀ url reason, e ≠ .invalidUrl url reason) → (LookupError.fetch e).isNetwork := by
  intro h
  cases e with
  | invalidUrl url reason => exact absurd rfl (h url reason)
  | _ => rfl

end LookupError

/-- The exit code for failures of the network stands for them alone. -/
theorem Failure.ofLookup_network (e : LookupError) :
    ((Failure.ofLookup e).code = 6 ↔ e.isNetwork) ∧
      (e.isNetwork → (Failure.ofLookup e).report? = some ("network".toList, e.message)) := by
  cases hnetwork : e.isNetwork with
  | true =>
      have hvalidation := LookupError.isValidation_of_isNetwork hnetwork
      simp [ofLookup, hvalidation, hnetwork, code, report?]
  | false =>
      cases hvalidation : e.isValidation with
      | true => simp [ofLookup, hvalidation, code]
      | false => simp [ofLookup, hvalidation, hnetwork, code]

namespace Lookup

/-- What the class of the error of a run says about the requests that the run sent, if it began
behind those `before`. -/
structure IsClassified {α : Type} (net : Transport) (before : List Request)
    (run : Except LookupError α × List Request) : Prop where
  unsent : ∀ e, run.1 = .error e → e.isValidation → run.2 = before
  sent : ∀ e, run.1 = .error e → run.2 ≠ before →
    e.isNetwork ∨ ∃ location reason, e = .fetch (.invalidUrl location reason) ∧
      net.LeadsAstray before run.2 location reason

namespace IsClassified

variable {α : Type} {net : Transport} {before sent : List Request}

theorem of_unsent (e : LookupError) :
    IsClassified net before ((.error e, before) : Except LookupError α × List Request) := by
  constructor
  · intro _ _ _
    rfl
  · intro _ _ hsent
    exact absurd rfl hsent

/-- An error of fetching is classified by the requests that were sent. -/
theorem of_unfetched {client : Client} {accept : Option Text} {address : Text} {e : FetchError} :
    client.fetch net accept address before = (.error e, sent) →
      IsClassified net before
        ((.error (.fetch e), sent) : Except LookupError α × List Request) := by
  intro hrun
  constructor
  · intro failure herror hvalidation
    obtain rfl := Except.error.inj herror
    cases hvalidation
  · intro failure herror hsent
    obtain rfl := Except.error.inj herror
    -- All errors but unreadable addresses are those of the network by themselves.
    by_cases hurl : ∃ url reason, e = .invalidUrl url reason
    · obtain ⟨url, reason, rfl⟩ := hurl
      rcases Client.fetch_invalidUrl hrun with ⟨-, hunsent⟩ | hastray
      · exact absurd hunsent hsent
      · exact .inr ⟨url, reason, rfl, hastray⟩
    · left
      apply LookupError.isNetwork_fetch
      intro url reason he
      exact hurl ⟨url, reason, he⟩

/-- A result whose errors are all of the network is classified, whatever was sent. -/
theorem of_fetched {result : Except LookupError α} :
    (∀ e, result = .error e → e.isNetwork) → IsClassified net before (result, sent) := by
  intro hresult
  constructor
  · intro e herror hvalidation
    have hnetwork := LookupError.isNetwork_of_isValidation hvalidation
    rw [hresult e herror] at hnetwork
    cases hnetwork
  · intro e herror _
    exact .inl (hresult e herror)

/-- An error that is handed on has the class that it had. -/
theorem of_handedOn {β : Type} {e : LookupError} :
    IsClassified net before ((.error e, sent) : Except LookupError α × List Request) →
      IsClassified net before ((.error e, sent) : Except LookupError β × List Request) := by
  intro h
  constructor
  · intro failure herror hvalidation
    obtain rfl := Except.error.inj herror
    exact h.unsent e rfl hvalidation
  · intro failure herror hsent
    obtain rfl := Except.error.inj herror
    exact h.sent e rfl hsent

end IsClassified

/-! ## All lookups -/

/-- An answer that is no list of works counts as an error of the network. -/
theorem isNetwork_worksIn {c : Catalogue} {body : Text} :
    ∀ e, c.worksIn body = .error e → e.isNetwork := by
  intro e herror
  rw [Catalogue.worksIn] at herror
  split at herror
  · obtain rfl := Except.error.inj herror
    rfl
  · split at herror
    · obtain rfl := Except.error.inj herror
      rfl
    · cases herror

/-- An answer that is no record counts as an error of the network. -/
theorem isNetwork_recordIn {doi : Doi} {body : Text} :
    ∀ e, Resolver.recordIn doi body = .error e → e.isNetwork := by
  intro e herror
  rw [Resolver.recordIn] at herror
  split at herror
  · cases herror
  · obtain rfl := Except.error.inj herror
    rfl

/-- The error of a search tells what was sent. -/
theorem isClassified_search (l : Lookup) (net : Transport) (query : Text)
    (before : List Request) : IsClassified net before (l.search net query before) := by
  rw [search, Catalogue.search]
  cases hwords : (Text.trim query).isEmpty with
  | true =>
      simp only [if_true]
      exact .of_unsent .emptyQuery
  | false =>
      simp only [Bool.false_eq_true, if_false]
      cases hrun : l.catalogue.client.fetch net none
          (l.catalogue.searchAddress (Text.trim query)) before with
      | mk result sent =>
          cases result with
          | error e => exact .of_unfetched hrun
          | ok body => exact .of_fetched isNetwork_worksIn

theorem isClassified_resolver (r : Resolver) (net : Transport) (doi : Doi)
    (before : List Request) : IsClassified net before (r.fetchRecord net doi before) := by
  cases hrun : r.client.fetch net (some Resolver.recordType) (doi.addressOn r.url) before with
  | mk result sent =>
      cases result with
      | error e =>
          rw [Resolver.fetchRecord_of_unanswered hrun]
          exact .of_unfetched hrun
      | ok body =>
          rw [Resolver.fetchRecord_of_answered hrun]
          exact .of_fetched isNetwork_recordIn

/-- The error of fetching a record for a typed DOI tells what was sent. -/
theorem isClassified_fetchRecord (l : Lookup) (net : Transport) (typed : Text)
    (before : List Request) : IsClassified net before (l.fetchRecord net typed before) := by
  rw [fetchRecord]
  cases hdoi : Doi.parse typed with
  | error e => exact .of_unsent (.doi e)
  | ok doi =>
      have hresolver := isClassified_resolver l.resolver net doi before
      dsimp only
      cases hrun : l.resolver.fetchRecord net doi before with
      | mk result sent =>
          rw [hrun] at hresolver
          cases result with
          | error e => exact hresolver.of_handedOn
          | ok record => exact .of_fetched fun e herror => nomatch herror

/-- Errors of lookups by the time at which they happen: rejected input was not asked for, and what
fails after a request is a failure of the network or a redirect to an address that cannot be read.
No error is both, and the exit code of the command tells failures of the network from all
others. -/
theorem search_fetchRecord_classified (l : Lookup) (net : Transport) (before : List Request) :
    (∀ query, IsClassified net before (l.search net query before)) ∧
      (∀ typed, IsClassified net before (l.fetchRecord net typed before)) ∧
      ∀ e : LookupError, ¬(e.isValidation ∧ e.isNetwork) ∧
        ((Failure.ofLookup e).code = 6 ↔ e.isNetwork) ∧
        (e.isNetwork → (Failure.ofLookup e).report? = some ("network".toList, e.message)) := by
  refine ⟨?_, ?_, ?_⟩
  · intro query
    exact isClassified_search l net query before
  · intro typed
    exact isClassified_fetchRecord l net typed before
  · intro e
    refine ⟨?_, Failure.ofLookup_network e⟩
    rintro ⟨hvalidation, hnetwork⟩
    rw [LookupError.isNetwork_of_isValidation hvalidation] at hnetwork
    cases hnetwork

def serverSettings : Settings where
  catalogue := { baseUrl := "http://a".toList }
  resolver := { url := "http://a".toList, maxRedirects := 1 }
  requests := { userAgent := "agent".toList }

/-- A server that redirects every request to an address with an open bracket. -/
def astrayNet : Transport :=
  .ofTable [] (.answered ⟨302, [("Location".toList, "http://[".toList)], some .empty⟩)

/-- Not all that fails after a request is a failure of the network. -/
theorem not_classified_by_requests :
    ¬∀ (s : Settings) (l : Lookup) (net : Transport) (typed : Text) (e : LookupError),
      Lookup.ofSettings? s = some l → (l.fetchRecord net typed []).1 = .error e →
        (l.fetchRecord net typed []).2 ≠ [] → e.isNetwork := by
  intro h
  have hsettings : Lookup.ofSettings? serverSettings = some atServer := rfl
  have hdoi : Doi.parse "10.1/x".toList = .ok Bibliography.Store.bookDoi := rfl
  let url : Url := ⟨"http".toList, [], some "a".toList, none, .segments ["10.1".toList, "x".toList],
    none, none⟩
  have hurl : Url.parse (Bibliography.Store.bookDoi.addressOn atServer.resolver.url) = .ok url := rfl
  have hjoin : url.join "http://[".toList = .error .invalidIpv6 := rfl
  have hfetch : atServer.resolver.client.fetch astrayNet (some Resolver.recordType)
      (Bibliography.Store.bookDoi.addressOn atServer.resolver.url) [] =
        (.error (.invalidUrl "http://[".toList .invalidIpv6), [atServer.resolver.client.request
          [("accept".toList, Resolver.recordType)] url]) :=
    Client.fetchWith_of_astray hurl rfl rfl Nat.one_pos rfl hjoin
  have hrun : atServer.fetchRecord astrayNet "10.1/x".toList [] =
      (.error (.fetch (.invalidUrl "http://[".toList .invalidIpv6)),
        [atServer.resolver.client.request [("accept".toList, Resolver.recordType)] url]) := by
    rw [fetchRecord, hdoi]
    dsimp only
    rw [Resolver.fetchRecord_of_unanswered hfetch]
  have hnetwork := h serverSettings atServer astrayNet "10.1/x".toList _ hsettings
    (congrArg Prod.fst hrun) (by rw [hrun]; exact List.cons_ne_nil _ _)
  cases hnetwork

end Lookup

end CiteIndex
