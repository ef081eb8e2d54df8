import CiteIndex.Text.Basic

/-!
# Sort keys

Candidates are ordered by structured keys: labels by the name of their kind and then by their own
name, bibliography entries by their citation key, and every label before every entry. For lists
that sort by plain text there is a written form of the same key.
-/

namespace CiteIndex

inductive SortKey where
  | label (kind name : Text)
  | bibliography (key : Text)
  deriving DecidableEq, Repr

namespace SortKey

def text : SortKey → Text
  | .label kind name => '0' :: ':' :: kind ++ ':' :: name
  | .bibliography key => '1' :: ':' :: key

/-- Labels by kind, then by name; labels before entries; entries by key. -/
def compare : SortKey → SortKey → Ordering
  | .label k n, .label k' n' => (Text.compare k k').then (Text.compare n n')
  | .label _ _, .bibliography _ => .lt
  | .bibliography _, .label _ _ => .gt
  | .bibliography k, .bibliography k' => Text.compare k k'

end SortKey

end CiteIndex
