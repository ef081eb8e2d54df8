import CiteIndex.Doi
import CiteIndex.File.Error
import CiteIndex.Http.Client

/-!
# Lookup errors

The causes for which a search, a fetch or an insert fails, their wording, and two classes of them:
input that was rejected, and failures of the network.
-/

namespace CiteIndex

inductive LookupError where
  | doi (e : DoiError)
  | emptyQuery
  | fetch (e : FetchError)
  /-- A catalogue answered with something that is not JSON. -/
  | malformedJson
  /-- A catalogue's answer has no list of works. -/
  | missingItems
  /-- A work has no DOI. -/
  | missingDoi
  /-- What a resolver answered for a DOI is no record. -/
  | notARecord (name : Text)
  | file (e : FileError)
  deriving DecidableEq, Repr

def FetchError.message : FetchError → Text
  | .invalidUrl url reason =>
    "invalid URL ".toList ++ url ++ ": ".toList ++ reason.message
  | .noResponse => "HTTP error".toList
  | .badStatus url status body =>
    "API error from ".toList ++ url ++ ": HTTP ".toList ++ Text.ofNat status ++ ": ".toList ++ body
  | .missingLocation url =>
    "redirect from ".toList ++ url ++ " has no Location header".toList
  | .tooManyRedirects url limit =>
    "too many redirects resolving ".toList ++ url ++ " (limit ".toList ++ Text.ofNat limit ++ [')']

namespace LookupError

def message : LookupError → Text
  | .doi .empty => "validation failed: DOI must not be empty".toList
  | .doi (.malformed input) => "invalid DOI: ".toList ++ input
  | .emptyQuery => "validation failed: search query must not be empty".toList
  | .fetch e => e.message
  | .malformedJson => "parse error".toList
  | .missingItems => "parse error: CrossRef response has no message.items".toList
  | .missingDoi => "parse error: Missing DOI in CrossRef response".toList
  | .notARecord name =>
    "parse error: response for ".toList ++ name ++ " is not a BibTeX record".toList
  | .file e => "I/O error: ".toList ++ e.message

/-- Was the input rejected before anything was asked for. -/
def isValidation : LookupError → Bool
  | .doi _ => true
  | .emptyQuery => true
  | _ => false

def isNetwork : LookupError → Bool
  | .fetch (.invalidUrl _ _) => false
  | .fetch _ => true
  | .malformedJson => true
  | .missingItems => true
  | .missingDoi => true
  | .notARecord _ => true
  | _ => false

end LookupError

end CiteIndex
