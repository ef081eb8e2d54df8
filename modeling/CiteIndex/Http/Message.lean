import CiteIndex.Text.Utf8
import CiteIndex.Url.Reader

/-!
# Requests and responses

What is sent, what comes back, and the transport between. A transport may answer by what it was
asked before, so that every behaviour of servers is one.

- `Headers`: named values that go with a message
- `Request`, `Response`, `Reply`: the messages
- `Transport`: what answers requests
-/

namespace CiteIndex

/-- The headers of a message in their order. A name may stand more than once, in any case. -/
abbrev Headers : Type := List (Text × Text)

namespace Headers

def value? (headers : Headers) (name : Text) : Option Text :=
  (headers.find? fun h => Text.sameIgnoringCase h.1 name).map (·.2)

/-- The headers with those of some others whose names they do not have. -/
def withDefaults (headers defaults : Headers) : Headers :=
  headers ++ defaults.filter fun d => (headers.value? d.1).isNone

end Headers

/-- A request for the document at a URL. Credentials in the URL go with it. -/
structure Request where
  url : Url
  headers : Headers
  deriving DecidableEq, Repr

namespace Request

def accept (r : Request) : Option Text :=
  r.headers.value? "accept".toList

def userAgent (r : Request) : Text :=
  (r.headers.value? "user-agent".toList).getD []

end Request

structure Response where
  status : Nat
  headers : Headers
  /-- Nothing if the connection ended before the body did. -/
  body : Option ByteArray

inductive Reply where
  /-- It was not sent. -/
  | refused
  /-- It was sent, and the connection ended without a response. -/
  | closed
  | answered (response : Response)

/-- What answers a request, given the requests before it. -/
structure Transport where
  reply : List Request → Request → Reply
  /-- The text of a body that is in another character set than UTF-8, as its headers or its first
  bytes tell. -/
  foreignText? : Headers → ByteArray → Option Text

namespace Transport

def unreachable : Transport :=
  ⟨fun _ _ => .refused, fun _ _ => none⟩

/-- The transport that knows the responses to some addresses and has another response for all
others. All bodies are in UTF-8. -/
def ofTable (known : List (Text × Reply)) (otherwise : Reply) : Transport :=
  ⟨fun _ request =>
    ((known.find? fun entry => entry.1 == request.url.requestText).map (·.2)).getD otherwise,
    fun _ _ => none⟩

def schemes : List Text := ["http".toList, "https".toList]

/-- What becomes of a request. -/
def send (net : Transport) (sent : List Request) (request : Request) : Reply :=
  -- Under schemes that are not for requests nothing is sent.
  if schemes.contains request.url.scheme then net.reply sent request else .refused

def bodyText? (net : Transport) (response : Response) : Option Text :=
  response.body.map fun bytes =>
    (net.foreignText? response.headers bytes).getD (Utf8.decodeLossy bytes)

end Transport

namespace Response

def isSuccess (r : Response) : Bool :=
  200 ≤ r.status && r.status < 300

def redirectStatuses : List Nat := [301, 302, 303, 307, 308]

def isRedirect (r : Response) : Bool :=
  redirectStatuses.contains r.status

/-- A character that a header value is made of when it is read as text. -/
def isHeaderChar (c : Char) : Bool :=
  c == '\t' || (0x20 ≤ c.toNat && c.toNat < 0x7F)

/-- The address that the response leads to, if its header is there and is plain text. -/
def location? (r : Response) : Option Text :=
  (r.headers.value? "location".toList).bind fun value =>
    if value.all isHeaderChar then some value else none

end Response

end CiteIndex
