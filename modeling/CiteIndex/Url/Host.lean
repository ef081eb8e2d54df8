import CiteIndex.Text.Percent
import CiteIndex.Url.Address
import CiteIndex.Url.DomainName

/-!
# Hosts

Under schemes that name registered domains, a host is an address or a domain name, in which
percent escapes are undone. Under other schemes a host is any text without the characters that
delimit parts of a URL.

- `Host.ofDomainText`: hosts under schemes with domain names
- `Host.ofPlainText`: hosts under other schemes
-/

namespace CiteIndex

namespace Host

/-! ## Hosts under schemes with domain names -/

/-- The text that percent escapes and characters write, if it is valid UTF-8. -/
def unescape? (t : Text) : Option Text :=
  (String.fromUTF8? ⟨(Percent.decode t).toArray⟩).map String.toList

/-- The normal form of an address after its opening bracket. -/
def ofBracketed (t : Text) : Except UrlError Text :=
  if t.getLast? == some ']' then
    (Address.ipv6 t.dropLast).map fun address => '[' :: address ++ [']']
  else .error .invalidIpv6

def ofDomainText (t : Text) : Except UrlError Text :=
  match t with
  | '[' :: rest => ofBracketed rest
  | _ =>
    match (unescape? t).bind DomainName.ascii? with
    | none => .error .invalidDomainName
    | some name =>
      if name.isEmpty then .error .emptyHost
      else if Address.endsInNumber name then Address.ipv4 name
      else .ok name

/-! ## Hosts under other schemes -/

def isDelimiter (c : Char) : Bool :=
  c.toNat == 0 || "\t\n\r #/:<>?@[\\]^|".toList.contains c

/-- A character that is written as a percent escape everywhere. -/
def isControl (c : Char) : Bool :=
  c.toNat < 0x20 || 0x7F ≤ c.toNat

def ofPlainText (t : Text) : Except UrlError Text :=
  match t with
  | '[' :: rest => ofBracketed rest
  | _ =>
    if t.any isDelimiter then .error .invalidHostCharacter
    else .ok (Percent.encodeWhere isControl t)

end Host

end CiteIndex
