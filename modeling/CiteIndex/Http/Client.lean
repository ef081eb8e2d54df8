import CiteIndex.Http.Message

/-!
# Fetching documents

A client asks for a document and follows redirects itself, with the same headers on every hop and
up to a limit. Requests are made once. Every function here takes the requests that were sent
before and gives back those and the ones it sent itself.

- `Client.fetchWith`, `Client.fetch`: the text of a document
-/

namespace CiteIndex

inductive FetchError where
  | invalidUrl (url : Text) (reason : UrlError)
  /-- A request was not sent, or got no response, or none with a whole body. -/
  | noResponse
  | badStatus (url : Text) (status : Nat) (body : Text)
  | missingLocation (url : Text)
  | tooManyRedirects (url : Text) (limit : Nat)
  deriving DecidableEq, Repr

structure Client where
  userAgent : Text
  maxRedirects : Nat
  deriving DecidableEq, Repr

namespace Client

def isHeaderChar (c : Char) : Bool :=
  c == '\t' || (0x20 ≤ c.toNat && c.toNat != 0x7F)

/-- The client with a user agent and a limit of redirects, if the user agent can be sent. -/
def make? (userAgent : Text) (maxRedirects : Nat) : Option Client :=
  if userAgent.all isHeaderChar then some ⟨userAgent, maxRedirects⟩ else none

def defaultHeaders (client : Client) (given : Headers) : Headers :=
  let always : Headers :=
    [("accept".toList, "*/*".toList), ("user-agent".toList, client.userAgent)]
  if (given.value? "range".toList).isSome then always
  else always ++ [("accept-encoding".toList, "gzip".toList)]

/-- The request that the client makes for a URL. -/
def request (client : Client) (given : Headers) (url : Url) : Request :=
  -- Given headers win over those of the client.
  ⟨url, given.withDefaults (client.defaultHeaders given)⟩

/-- Asks for the document at `current`, `left` more redirects allowed. `first` is what the chain of
redirects began with. -/
def follow (client : Client) (net : Transport) (headers : Headers) (first : Text) (left : Nat)
    (current : Url) (sent : List Request) : Except FetchError Text × List Request :=
  let request := client.request headers current
  match net.send sent request with
  | .refused => (.error .noResponse, sent)
  | .closed => (.error .noResponse, sent ++ [request])
  | .answered response =>
    let sent := sent ++ [request]
    if response.isRedirect then
      match left with
      | 0 => (.error (.tooManyRedirects first client.maxRedirects), sent)
      | left + 1 =>
        match response.location? with
        | none => (.error (.missingLocation current.text), sent)
        | some location =>
          match current.join location with
          | .error reason => (.error (.invalidUrl location reason), sent)
          | .ok next => client.follow net headers first left next sent
    else if response.isSuccess then
      match net.bodyText? response with
      | none => (.error .noResponse, sent)
      | some body => (.ok body, sent)
    else
      let body := (net.bodyText? response).getD []
      (.error (.badStatus current.text response.status (Text.trim body)), sent)

def fetchWith (client : Client) (net : Transport) (headers : Headers) (address : Text)
    (sent : List Request) : Except FetchError Text × List Request :=
  match Url.parse address with
  | .error reason => (.error (.invalidUrl address reason), sent)
  | .ok url => client.follow net headers address client.maxRedirects url sent

def fetch (client : Client) (net : Transport) (accept : Option Text) (address : Text)
    (sent : List Request) : Except FetchError Text × List Request :=
  client.fetchWith net (accept.toList.map fun type => ("accept".toList, type)) address sent

end Client

end CiteIndex
