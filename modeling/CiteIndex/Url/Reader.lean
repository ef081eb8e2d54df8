import CiteIndex.Text.Blank
import CiteIndex.Url.Basic

/-!
# Reading URLs

A text is first cut into what stands before the first number sign and question mark, the query and
the fragment; these cuts do not depend on anything else. What stands in front is a scheme with an
authority and a path, or, with a base to resolve it against, some part of that.

- `Url.parse`: a whole URL
- `Url.join`: a reference, relative to a base
-/

namespace CiteIndex

namespace Url

/-! ## Parts -/

structure Parts where
  front : Text
  query : Option Text
  fragment : Option Text

/-- A text up to the first occurrence of a mark, and what follows the mark. -/
def cutMark (mark : Char) (t : Text) : Text × Option Text :=
  match Text.cutAt? (· == mark) t with
  | some (before, after) => (before, some after)
  | none => (t, none)

def Parts.of (t : Text) : Parts :=
  let (rest, fragment) := cutMark '#' t
  let (front, query) := cutMark '?' rest
  ⟨front, query, fragment⟩

/-- The text that is read: without blanks and control characters around it, and without tabs and
line breaks anywhere. -/
def tidy (t : Text) : Text :=
  let isEdge := fun (c : Char) => c.toNat ≤ 0x20
  (Text.dropEndWhile isEdge (t.dropWhile isEdge)).filter fun c =>
    !(c == '\t' || c == '\n' || c == '\r')

/-! ## Percent escapes -/

def isFragmentEscaped (c : Char) : Bool :=
  Host.isControl c || c == ' ' || c == '"' || c == '<' || c == '>' || c == '\x60'

def isQueryEscaped (special : Bool) (c : Char) : Bool :=
  Host.isControl c || c == ' ' || c == '"' || c == '#' || c == '<' || c == '>'
    || (special && c == '\x27')

def isPathEscaped (c : Char) : Bool :=
  isFragmentEscaped c || c == '#' || c == '?' || c == '\x7b' || c == '\x7d'

def isUserEscaped (c : Char) : Bool :=
  isPathEscaped c || c == '/' || c == ':' || c == ';' || c == '=' || c == '@' || c == '['
    || c == '\\' || c == ']' || c == '^' || c == '|'

def queryOf (special : Bool) (query : Option Text) : Option Text :=
  query.map (Percent.encodeWhere (isQueryEscaped special))

def fragmentOf (fragment : Option Text) : Option Text :=
  fragment.map (Percent.encodeWhere isFragmentEscaped)

/-! ## Schemes -/

/-- A character that a scheme can hold after its first letter. -/
def isSchemeChar (c : Char) : Bool :=
  c.isAlphanum || c == '+' || c == '-' || c == '.'

def scheme? (t : Text) : Option (Text × Text) :=
  match t.takeWhile isSchemeChar, t.dropWhile isSchemeChar with
  | c :: cs, ':' :: rest => if c.isAlpha then some (Text.lowerAscii (c :: cs), rest) else none
  | _, _ => none

/-! ## Paths -/

def isSlash (special : Bool) (c : Char) : Bool :=
  c == '/' || (special && c == '\\')

/-- A segment that stands for its own directory. -/
def isHere (segment : Text) : Bool :=
  ["." , "%2e"].any fun s => Text.lowerAscii segment == s.toList

/-- A segment that stands for the directory above. -/
def isAbove (segment : Text) : Bool :=
  ["..", ".%2e", "%2e.", "%2e%2e"].any fun s => Text.lowerAscii segment == s.toList

/-- Puts segments behind others one by one, the ones that stand for a directory resolved. -/
def resolveSegments (done : List Text) : List Text → List Text
  | [] => done
  -- At the end a segment that stands for a directory leaves an empty one.
  | [last] =>
    if isAbove last then done.dropLast ++ [[]]
    else if isHere last then done ++ [[]]
    else done ++ [last]
  | segment :: rest =>
    if isAbove segment then resolveSegments done.dropLast rest
    else if isHere segment then resolveSegments done rest
    else resolveSegments (done ++ [segment]) rest

def segmentsOf (special : Bool) (t : Text) : List Text :=
  (Text.splitWhere (isSlash special) t).map (Percent.encodeWhere isPathEscaped)

def pathAfterAuthority (special : Bool) : Text → UrlPath
  | [] => .segments (if special then [[]] else [])
  | _ :: rest => .segments (resolveSegments [] (segmentsOf special rest))

/-! ## Authorities -/

def cutLastAt (t : Text) : Option Text × Text :=
  match Text.cutAt? (· == '@') t.reverse with
  | some (after, before) => (some before.reverse, after.reverse)
  | none => (none, t)

def userInfoOf (t : Text) : Text :=
  let (name, password) := cutMark ':' t
  let encode := Percent.encodeWhere isUserEscaped
  let password := encode (password.getD [])
  let written := encode name ++ (if password.isEmpty then [] else ':' :: password)
  if written.isEmpty then [] else written ++ ['@']

/-- The host, and what follows it from a colon outside brackets on. -/
def cutHost (inBrackets : Bool) : Text → Text × Text
  | [] => ([], [])
  | c :: cs =>
    if c = ':' ∧ !inBrackets then ([], c :: cs)
    else if c = '[' then Text.consLeft c (cutHost true cs)
    else if c = ']' then Text.consLeft c (cutHost false cs)
    else Text.consLeft c (cutHost inBrackets cs)

/-- The port with its colon, and the path behind it. -/
def cutPort (afterHost path : Text) : Text × Text :=
  -- Where a backslash is no slash, it still ends a port, and a slash goes in front of it.
  match afterHost.dropWhile (· != '\\') with
  | [] => (afterHost, path)
  | rest => (afterHost.takeWhile (· != '\\'), '/' :: rest ++ path)

/-- The port after a colon; none if it is left out or the default one. -/
def portOf (scheme : Text) : Text → Except UrlError (Option Nat)
  | [] => .ok none
  | _ :: digits =>
    if digits.isEmpty then .ok none
    else if digits.all Char.isDigit then
      match Address.digitsIn? 10 digits with
      | some n =>
        if 65535 < n then .error .invalidPort
        else .ok (if defaultPort? scheme == some n then none else some n)
      | none => .error .invalidPort
    else .error .invalidPort

def hostOf (scheme hostText : Text) : Except UrlError Text :=
  if hasDomain scheme then
    if hostText.isEmpty then .error .emptyHost else Host.ofDomainText hostText
  else Host.ofPlainText hostText

def ofAuthority (scheme t : Text) (parts : Parts) : Except UrlError Url := do
  let special := isSpecial scheme
  let isEnd := isSlash special
  let (user, hostPort) := cutLastAt (t.takeWhile (fun c => !isEnd c))
  let path := t.dropWhile (fun c => !isEnd c)
  let userInfo := userInfoOf (user.getD [])
  let (hostText, afterHost) := cutHost false hostPort
  let (portText, path) := cutPort afterHost path
  if user == some [] && hostPort.isEmpty &&
      (!path.isEmpty || parts.query.isSome || parts.fragment.isSome) then .error .emptyHost
  else
    let host ← hostOf scheme hostText
    if host.isEmpty && (!portText.isEmpty || !userInfo.isEmpty) then .error .emptyHost
    else
      let port ← portOf scheme portText
      return {
        scheme := scheme
        userInfo := userInfo
        host := some host
        port := port
        path := pathAfterAuthority special path
        query := queryOf special parts.query
        fragment := fragmentOf parts.fragment }

/-! ## Whole URLs -/

def fileHostOf (t : Text) : Except UrlError Text :=
  if t.isEmpty then .ok []
  else (Host.ofDomainText t).map fun host => if host == "localhost".toList then [] else host

/-- Is the text the name of a drive: a letter with a colon or a bar. -/
def isDrive : Text → Bool
  | [letter, mark] => letter.isAlpha && (mark == ':' || mark == '|')
  | _ => false

/-- The host of a file and the path behind it. -/
def cutFileHost (t : Text) : Text × Text :=
  let host := t.takeWhile fun c => !isSlash true c
  -- A drive in place of a host begins the path.
  if isDrive host then ([], '/' :: t) else (host, t.dropWhile fun c => !isSlash true c)

def ofFile (t : Text) (parts : Parts) : Except UrlError Url := do
  let (hostText, path) :=
    match t with
    | a :: b :: rest =>
      if isSlash true a && isSlash true b then cutFileHost rest
      else if isSlash true a then ([], t)
      else ([], '/' :: t)
    | [a] => if isSlash true a then ([], t) else ([], '/' :: t)
    | [] => ([], ['/'])
  let host ← fileHostOf hostText
  return {
    scheme := fileScheme
    userInfo := []
    host := some host
    port := none
    path := pathAfterAuthority true path
    query := queryOf true parts.query
    fragment := fragmentOf parts.fragment }

def ofPlain (scheme t : Text) (parts : Parts) : Except UrlError Url :=
  match t with
  | '/' :: '/' :: rest => ofAuthority scheme rest parts
  | _ =>
    let path :=
      match t with
      | '/' :: rest => UrlPath.segments (resolveSegments [] (segmentsOf false rest))
      | _ => UrlPath.rootless (Percent.encodeWhere Host.isControl t)
    .ok {
      scheme := scheme
      userInfo := []
      host := none
      port := none
      path := path
      query := queryOf false parts.query
      fragment := fragmentOf parts.fragment }

def ofScheme (scheme t : Text) (parts : Parts) : Except UrlError Url :=
  if scheme == fileScheme then ofFile t parts
  else if hasDomain scheme then ofAuthority scheme (t.dropWhile (isSlash true)) parts
  else ofPlain scheme t parts

def parse (t : Text) : Except UrlError Url :=
  let parts := Parts.of (tidy t)
  match scheme? parts.front with
  | some (scheme, rest) => ofScheme scheme rest parts
  | none => .error .relativeWithoutBase

/-! ## References -/

/-- The URL that a text without a scheme writes relative to a base with a hierarchical path. -/
def ofRelative (base : Url) (segments : List Text) (front : Text) (parts : Parts) :
    Except UrlError Url :=
  let special := isSpecial base.scheme
  let query := queryOf special parts.query
  let fragment := fragmentOf parts.fragment
  let withPath := fun (list : List Text) =>
    { base with path := .segments list, query := query, fragment := fragment }
  match front with
  | [] =>
    if query.isSome then .ok { base with query := query, fragment := fragment }
    else .ok { base with fragment := fragment }
  | c :: rest =>
    if isSlash true c then
      match rest with
      | d :: rest' =>
        if isSlash true d then
          if c == '/' && d == '/' then ofAuthority base.scheme rest' parts
          else ofAuthority base.scheme (rest'.dropWhile (isSlash true)) parts
        else .ok (withPath (resolveSegments [] (segmentsOf special rest)))
      | [] => .ok (withPath (resolveSegments [] (segmentsOf special rest)))
    else .ok (withPath (resolveSegments segments.dropLast (segmentsOf special front)))

def join (base : Url) (t : Text) : Except UrlError Url :=
  let parts := Parts.of (tidy t)
  match scheme? parts.front, base.path with
  | some (scheme, rest), .segments list =>
    let slashes := (rest.takeWhile (isSlash true)).length
    if hasDomain scheme && scheme == base.scheme && slashes < 2 then
      ofRelative base list rest parts
    else ofScheme scheme rest parts
  | some (scheme, rest), .rootless _ => ofScheme scheme rest parts
  | none, .segments list => ofRelative base list parts.front parts
  | none, .rootless _ =>
    if parts.front.isEmpty && parts.query.isNone && parts.fragment.isSome then
      .ok { base with fragment := fragmentOf parts.fragment }
    else .error .baseWithoutHierarchy

end Url

end CiteIndex
