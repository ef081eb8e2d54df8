import CiteIndex.Http.Client

/-!
# Chains of redirects

What a client does with the redirects of any servers. The requests that it makes are a trail: each
asks for the address that the response before it led to, with the headers of the first. The reply
to the last of them decides what the client returns.

- `Transport.LeadsTo`, `Transport.Trail`: one redirect, and redirects one after another
- `Transport.Trail.eq_of_length_eq`: there is one trail of each length at most
- `Client.Concludes`: what the reply to the last request comes to
- `Client.follow_cases`: all that one request can lead to
- `Client.fetchWith_redirects`: what fetching a document does
-/

namespace CiteIndex

namespace Response

/-- A redirect is no success. -/
theorem isSuccess_eq_false_of_isRedirect {r : Response} (h : r.isRedirect) :
    r.isSuccess = false := by
  have hstatus : r.status ∈ redirectStatuses := List.contains_iff_mem.mp h
  simp only [redirectStatuses, List.mem_cons, List.not_mem_nil, or_false] at hstatus
  simp only [isSuccess, Bool.and_eq_false_iff, decide_eq_false_iff_not]
  omega

end Response

namespace Transport

variable (net : Transport)

/-! ## Trails -/

/-- A request is answered with a redirect to an address that can be read, which the next request
asks for with the same headers. -/
structure LeadsTo (before : List Request) (request next : Request) : Prop where
  redirected : ∃ response location, net.send before request = .answered response ∧
    response.isRedirect ∧ response.location? = some location ∧
    request.url.join location = .ok next.url
  headers : next.headers = request.headers

/-- The requests `followed`, the first of which comes after those `before`, lead one to the next
and in the end to `last`. -/
inductive Trail : (before : List Request) → (first : Request) → (followed : List Request) →
    (last : Request) → Prop where
  | here {before : List Request} {request : Request} : Trail before request [] request
  | step {before followed : List Request} {request next last : Request} :
    net.LeadsTo before request next → Trail (before ++ [request]) next followed last →
      Trail before request (request :: followed) last

variable {net}

/-- A redirect leads to one request. -/
theorem LeadsTo.unique {before : List Request} {request next next' : Request}
    (h : net.LeadsTo before request next) (h' : net.LeadsTo before request next') :
    next = next' := by
  obtain ⟨response, location, hsend, _, hlocation, hjoin⟩ := h.redirected
  obtain ⟨response', location', hsend', _, hlocation', hjoin'⟩ := h'.redirected
  obtain rfl : response = response' := Reply.answered.inj (hsend.symm.trans hsend')
  obtain rfl : location = location' := Option.some.inj (hlocation.symm.trans hlocation')
  have hurl : next.url = next'.url := Except.ok.inj (hjoin.symm.trans hjoin')
  have hheaders : next.headers = next'.headers := h.headers.trans h'.headers.symm
  cases next
  cases next'
  cases hurl
  cases hheaders
  rfl

/-- Along a chain of redirects the headers stay the same. -/
theorem Trail.headers {before followed : List Request} {first last : Request}
    (h : net.Trail before first followed last) :
    ∀ r ∈ followed ++ [last], r.headers = first.headers := by
  induction h with
  | here => simp
  | step hleads _ ih =>
      intro r hr
      rcases List.mem_cons.mp hr with rfl | hr
      · rfl
      · exact (ih r hr).trans hleads.headers

/-- Chains of the same length that begin with one request are the same. -/
theorem Trail.eq_of_length_eq {before followed followed' : List Request}
    {first last last' : Request} (h : net.Trail before first followed last)
    (h' : net.Trail before first followed' last') (hlength : followed.length = followed'.length) :
    followed = followed' ∧ last = last' := by
  induction h generalizing followed' with
  | here =>
      cases h' with
      | here => exact ⟨rfl, rfl⟩
      | step _ _ => cases hlength
  | step hleads _ ih =>
      cases h' with
      | here => cases hlength
      | step hleads' htrail' =>
          obtain rfl := hleads.unique hleads'
          obtain ⟨rfl, rfl⟩ := ih htrail' (Nat.succ.inj hlength)
          exact ⟨rfl, rfl⟩

/-- A longer trail goes on where a shorter one ends. -/
theorem Trail.leadsTo_of_length_lt {before followed followed' : List Request}
    {first last last' : Request} (h : net.Trail before first followed last)
    (h' : net.Trail before first followed' last') (hlength : followed.length < followed'.length) :
    ∃ next, net.LeadsTo (before ++ followed) last next := by
  induction h generalizing followed' with
  | here =>
      cases h' with
      | here => cases hlength
      | step hleads' _ => exact ⟨_, by simpa using hleads'⟩
  | step hleads _ ih =>
      cases h' with
      | here => cases hlength
      | step hleads' htrail' =>
          obtain rfl := hleads.unique hleads'
          obtain ⟨next, hnext⟩ := ih htrail' (Nat.lt_of_succ_lt_succ hlength)
          exact ⟨next, by simpa using hnext⟩

end Transport

namespace Client

variable (client : Client) (net : Transport) (given : Headers) (first : Text)

/-- Given headers are sent as they are. -/
theorem mem_request_headers {h : Text × Text} (hh : h ∈ given) (url : Url) :
    h ∈ (client.request given url).headers :=
  List.mem_append_left _ hh

/-! ## The last request -/

/-- What the reply to the last request comes to. `more` says if one more redirect could have been
followed. -/
structure Concludes (more : Prop) (before : List Request) (last : Request)
    (run : Except FetchError Text × List Request) : Prop where
  sent : run.2 = before ++ [last] ∨ net.send before last = .refused ∧ run.2 = before
  ok : ∀ body, run.1 = .ok body ↔
    ∃ response, net.send before last = .answered response ∧
      response.isSuccess ∧ net.bodyText? response = some body
  noResponse : run.1 = .error .noResponse ↔
    ∀ response, net.send before last = .answered response →
      response.isSuccess ∧ net.bodyText? response = none
  badStatus : ∀ url status text, run.1 = .error (.badStatus url status text) ↔
    ∃ response, net.send before last = .answered response ∧
      response.isSuccess = false ∧ response.isRedirect = false ∧
      last.url.text = url ∧ response.status = status ∧
      Text.trim ((net.bodyText? response).getD []) = text
  missingLocation : ∀ url, run.1 = .error (.missingLocation url) ↔
    ∃ response, net.send before last = .answered response ∧ response.isRedirect ∧ more ∧
      response.location? = none ∧ last.url.text = url
  invalidUrl : ∀ location reason, run.1 = .error (.invalidUrl location reason) ↔
    ∃ response, net.send before last = .answered response ∧ response.isRedirect ∧ more ∧
      response.location? = some location ∧ last.url.join location = .error reason
  tooManyRedirects : ∀ url limit, run.1 = .error (.tooManyRedirects url limit) ↔
    ∃ response, net.send before last = .answered response ∧ response.isRedirect ∧ ¬more ∧
      first = url ∧ client.maxRedirects = limit

variable {client net given first}

/-- Without a whole response the document is not fetched. -/
theorem Concludes.of_unanswered {more : Prop} {before after : List Request} {last : Request}
    (hsend : ∀ response, net.send before last ≠ .answered response)
    (hafter : after = before ++ [last] ∨ net.send before last = .refused ∧ after = before) :
    client.Concludes net first more before last (.error .noResponse, after) := by
  constructor <;> simp [hsend, hafter]

/-- A response that leads nowhere further, by its status. -/
theorem Concludes.of_answered {more : Prop} {before : List Request} {last : Request}
    {response : Response} (hsend : net.send before last = .answered response)
    (hredirect : response.isRedirect = false) :
    client.Concludes net first more before last
      (if response.isSuccess then
        match net.bodyText? response with
        | none => (.error .noResponse, before ++ [last])
        | some body => (.ok body, before ++ [last])
      else
        (.error (.badStatus last.url.text response.status
          (Text.trim ((net.bodyText? response).getD []))), before ++ [last])) := by
  cases hsuccess : response.isSuccess with
  | true =>
      cases hbody : net.bodyText? response with
      | none => constructor <;> simp [hsend, hredirect, hsuccess, hbody]
      | some body => constructor <;> simp [hsend, hredirect, hsuccess, hbody]
  | false => constructor <;> simp [hsend, hredirect, hsuccess]

/-- A redirect behind as many as are allowed. -/
theorem Concludes.of_last_redirect {more : Prop} {before : List Request} {last : Request}
    {response : Response} (hsend : net.send before last = .answered response)
    (hredirect : response.isRedirect) (hmore : ¬more) :
    client.Concludes net first more before last
      (.error (.tooManyRedirects first client.maxRedirects), before ++ [last]) := by
  have hsuccess : response.isSuccess = false := Response.isSuccess_eq_false_of_isRedirect hredirect
  constructor <;> simp [hsend, hredirect, hsuccess, hmore]

/-- A redirect to nowhere. -/
theorem Concludes.of_no_location {more : Prop} {before : List Request} {last : Request}
    {response : Response} (hsend : net.send before last = .answered response)
    (hredirect : response.isRedirect) (hmore : more) (hlocation : response.location? = none) :
    client.Concludes net first more before last
      (.error (.missingLocation last.url.text), before ++ [last]) := by
  have hsuccess : response.isSuccess = false := Response.isSuccess_eq_false_of_isRedirect hredirect
  constructor <;> simp [hsend, hredirect, hsuccess, hmore, hlocation]

/-- A redirect to an address that cannot be read. -/
theorem Concludes.of_unreadable_location {more : Prop} {before : List Request} {last : Request}
    {response : Response} {location : Text} {reason : UrlError}
    (hsend : net.send before last = .answered response) (hredirect : response.isRedirect)
    (hmore : more) (hlocation : response.location? = some location)
    (hjoin : last.url.join location = .error reason) :
    client.Concludes net first more before last
      (.error (.invalidUrl location reason), before ++ [last]) := by
  have hsuccess : response.isSuccess = false := Response.isSuccess_eq_false_of_isRedirect hredirect
  have hreason (location' : Text) (reason' : UrlError) :
      (location = location' ∧ reason = reason') ↔
        location = location' ∧ last.url.join location' = .error reason' := by
    constructor
    · rintro ⟨rfl, rfl⟩
      exact ⟨rfl, hjoin⟩
    · rintro ⟨rfl, hjoin'⟩
      exact ⟨rfl, Except.error.inj (hjoin.symm.trans hjoin')⟩
  constructor <;> simp [hsend, hredirect, hsuccess, hmore, hlocation, hreason]

/-- A redirect that could be followed is not the end. -/
theorem Concludes.not_leadsTo {more : Prop} {before : List Request} {last next : Request}
    {run : Except FetchError Text × List Request}
    (h : client.Concludes net first more before last run) (hmore : more) :
    ¬net.LeadsTo before last next := by
  rintro ⟨⟨response, location, hsend, hredirect, hlocation, hjoin⟩, -⟩
  have hsuccess : response.isSuccess = false := Response.isSuccess_eq_false_of_isRedirect hredirect
  rcases hrun : run.1 with (⟨⟩ | ⟨⟩ | ⟨⟩ | ⟨⟩ | ⟨⟩) | body
  · obtain ⟨response', hsend', _, _, hlocation', hjoin'⟩ := (h.invalidUrl _ _).mp hrun
    obtain rfl : response = response' := Reply.answered.inj (hsend.symm.trans hsend')
    obtain rfl := Option.some.inj (hlocation.symm.trans hlocation')
    cases hjoin.symm.trans hjoin'
  · simpa [hsend, hsuccess] using h.noResponse.mp hrun
  · simpa [hsend, hredirect] using (h.badStatus _ _ _).mp hrun
  · simpa [hsend, hlocation] using (h.missingLocation _).mp hrun
  · simpa [hmore] using (h.tooManyRedirects _ _).mp hrun
  · simpa [hsend, hsuccess] using (h.ok _).mp hrun

/-- One request is the last one, or it leads to the next with one redirect less to follow. -/
theorem follow_cases (left : Nat) (current : Url) (before : List Request) :
    client.Concludes net first (0 < left) before (client.request given current)
        (client.follow net given first left current before) ∨
      ∃ left' next, left = left' + 1 ∧
        net.LeadsTo before (client.request given current) (client.request given next) ∧
        client.follow net given first left current before =
          client.follow net given first left' next
            (before ++ [client.request given current]) := by
  rw [follow]
  cases hsend : net.send before (client.request given current) with
  | refused => exact .inl (.of_unanswered (by simp [hsend]) (.inr ⟨hsend, rfl⟩))
  | closed => exact .inl (.of_unanswered (by simp [hsend]) (.inl rfl))
  | answered response =>
      cases hredirect : response.isRedirect with
      | false =>
          simp only [hredirect, Bool.false_eq_true, if_false]
          -- The answer is final.
          exact .inl (.of_answered hsend hredirect)
      | true =>
          simp only [hredirect, if_true]
          -- A redirect is followed if one more is allowed and its address can be read.
          cases left with
          | zero => exact .inl (.of_last_redirect hsend hredirect (Nat.lt_irrefl 0))
          | succ left =>
              cases hlocation : response.location? with
              | none => exact .inl (.of_no_location hsend hredirect left.succ_pos hlocation)
              | some location =>
                  cases hjoin : current.join location with
                  | error reason =>
                      simp only [hjoin]
                      exact .inl
                        (.of_unreadable_location hsend hredirect left.succ_pos hlocation hjoin)
                  | ok next =>
                      simp only [hjoin]
                      exact .inr ⟨left, next, rfl,
                        ⟨⟨response, location, hsend, hredirect, hlocation, hjoin⟩, rfl⟩, rfl⟩

/-! ## The whole chain -/

/-- The requests of a client are a trail no longer than its limit allows, and the reply to the last
of them decides. -/
theorem follow_trail (client : Client) (net : Transport) (given : Headers) (first : Text)
    (left : Nat) (current : Url) (before : List Request) :
    ∃ followed last, net.Trail before (client.request given current) followed last ∧
      followed.length ≤ left ∧
      client.Concludes net first (followed.length < left) (before ++ followed) last
        (client.follow net given first left current before) := by
  induction left generalizing current before with
  | zero =>
      rcases follow_cases 0 current before with hlast | ⟨left, next, hleft, _⟩
      · exact ⟨[], _, .here, Nat.le_refl 0, by simpa using hlast⟩
      · exact absurd hleft.symm left.succ_ne_zero
  | succ left ih =>
      rcases follow_cases (left + 1) current before with hlast | ⟨left', next, hleft, hleads, hrun⟩
      · exact ⟨[], _, .here, Nat.zero_le _, by simpa using hlast⟩
      · obtain rfl : left = left' := Nat.succ.inj hleft
        obtain ⟨followed, last, htrail, hlength, hlast⟩ :=
          ih next (before ++ [client.request given current])
        refine ⟨client.request given current :: followed, last, .step hleads htrail,
          Nat.succ_le_succ hlength, ?_⟩
        rw [hrun]
        simpa using hlast

/-- A page that is there is fetched with one request. -/
theorem fetchWith_of_success {address body : Text} {before : List Request} {url : Url}
    {response : Response} (hurl : Url.parse address = .ok url)
    (hsend : net.send before (client.request given url) = .answered response)
    (hsuccess : response.isSuccess) (hbody : net.bodyText? response = some body) :
    client.fetchWith net given address before =
      (.ok body, before ++ [client.request given url]) := by
  have hredirect : response.isRedirect = false := by
    cases hredirect : response.isRedirect with
    | false => rfl
    | true => simp [Response.isSuccess_eq_false_of_isRedirect hredirect] at hsuccess
  rw [fetchWith, hurl]
  simp only
  rw [follow]
  simp [hsend, hredirect, hsuccess, hbody]

def loopUrl : Url :=
  ⟨"http".toList, [], some "a".toList, none, .segments ["loop".toList], none, none⟩

def loopNet : Transport :=
  .ofTable [] (.answered ⟨301, [("Location".toList, "/loop".toList)], some .empty⟩)

/-- Redirects are followed faithfully and up to a limit. -/
theorem fetchWith_redirects (client : Client) (net : Transport) (given : Headers) (address : Text)
    (before : List Request) {url : Url} (hurl : Url.parse address = .ok url) :
    let limit := client.maxRedirects
    let first := client.request given url
    let run := client.fetchWith net given address before
    run.2.length ≤ before.length + (limit + 1) ∧
    (∃ followed last, net.Trail before first followed last ∧ followed.length ≤ limit ∧
      (∀ r ∈ followed ++ [last], r.headers = first.headers ∧ ∀ h ∈ given, h ∈ r.headers) ∧
      client.Concludes net address (followed.length < limit) (before ++ followed) last run) ∧
    ∀ name n, run.1 = .error (.tooManyRedirects name n) ↔
      name = address ∧ n = limit ∧
        ∃ followed last response, net.Trail before first followed last ∧
          followed.length = limit ∧ net.send (before ++ followed) last = .answered response ∧
          response.isRedirect := by
  intro limit first run
  have hrun : run = client.follow net given address limit url before := by
    simp only [run, fetchWith, hurl, limit]
  obtain ⟨followed, last, htrail, hlength, hlast⟩ :=
    follow_trail client net given address limit url before
  rw [← hrun] at hlast
  refine ⟨?_, ⟨followed, last, htrail, hlength, ?_, hlast⟩, ?_⟩
  · rcases hlast.sent with hsent | ⟨_, hsent⟩ <;>
      simp only [hsent, List.length_append, List.length_singleton] <;> omega
  · intro r hr
    have hheaders : r.headers = first.headers := htrail.headers r hr
    exact ⟨hheaders, fun h hh => hheaders ▸ client.mem_request_headers given hh url⟩
  · intro name n
    rw [hlast.tooManyRedirects]
    constructor
    · rintro ⟨response, hsend, hredirect, hmore, rfl, rfl⟩
      exact ⟨rfl, rfl, followed, last, response, htrail,
        Nat.le_antisymm hlength (Nat.le_of_not_lt hmore), hsend, hredirect⟩
    · rintro ⟨rfl, rfl, followed', last', response, htrail', hlength', hsend, hredirect⟩
      -- A shorter trail would not have ended, since the long one goes on behind it.
      have hfull : followed.length = followed'.length := by
        rcases Nat.lt_or_ge followed.length followed'.length with hshort | hlong
        · obtain ⟨next, hleads⟩ := htrail.leadsTo_of_length_lt htrail' hshort
          exact absurd hleads (hlast.not_leadsTo (hlength' ▸ hshort))
        · exact Nat.le_antisymm (hlength' ▸ hlength) hlong
      obtain ⟨rfl, rfl⟩ := htrail.eq_of_length_eq htrail' hfull
      exact ⟨response, hsend, hredirect, by omega, rfl, rfl⟩

theorem fetchWith_loop :
    Url.parse "http://a/loop".toList = .ok loopUrl ∧
      ((Client.mk "agent".toList 1).fetchWith loopNet [("accept".toList, "text/plain".toList)]
        "http://a/loop".toList []).1 = .error (.tooManyRedirects "http://a/loop".toList 1) := by
  have hurl : Url.parse "http://a/loop".toList = .ok loopUrl := rfl
  refine ⟨hurl, ?_⟩
  have hsend (before : List Request) (request : Request) (h : request.url = loopUrl) :
      loopNet.send before request =
        .answered ⟨301, [("Location".toList, "/loop".toList)], some .empty⟩ := by
    rw [Transport.send, h]
    rfl
  apply ((fetchWith_redirects _ loopNet _ _ [] hurl).2.2 _ _).mpr
  exact ⟨rfl, rfl, [_], _, _, .step ⟨⟨_, _, hsend _ _ rfl, rfl, rfl, rfl⟩, rfl⟩ .here, rfl,
    hsend _ ⟨loopUrl, _⟩ rfl, rfl⟩

end Client

end CiteIndex
