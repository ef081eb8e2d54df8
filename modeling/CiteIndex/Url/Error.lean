import CiteIndex.Text.Basic

/-!
# URL errors

The causes for which a text is no URL.
-/

namespace CiteIndex

inductive UrlError where
  /-- There is no scheme, and nothing to resolve the text against. -/
  | relativeWithoutBase
  /-- The text needs a base with a hierarchical path, and the base has none. -/
  | baseWithoutHierarchy
  | emptyHost
  | invalidPort
  | invalidIpv4
  | invalidIpv6
  /-- A name that no registered domain can have. -/
  | invalidDomainName
  /-- A character that no host can hold, under a scheme without domain names. -/
  | invalidHostCharacter
  deriving DecidableEq, Repr

def UrlError.message : UrlError → Text
  | .relativeWithoutBase => "relative URL without a base".toList
  | .baseWithoutHierarchy => "relative URL with a cannot-be-a-base base".toList
  | .emptyHost => "empty host".toList
  | .invalidPort => "invalid port number".toList
  | .invalidIpv4 => "invalid IPv4 address".toList
  | .invalidIpv6 => "invalid IPv6 address".toList
  | .invalidDomainName => "invalid international domain name".toList
  | .invalidHostCharacter => "invalid domain character".toList

end CiteIndex
