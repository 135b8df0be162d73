import QueryFilter.Condition
import QueryFilter.Text.Case

/-!
# Keywords of requests

The keys that requests use as words of the grammar, in any ASCII case. There is no keyword for equality,
which is written by giving the property its value.
-/

namespace QueryFilter

/-- A word of the request grammar. -/
inductive Keyword
  | connective (connective : Connective)
  | comparison (op : ComparisonOp)
  | membership (op : MembershipOp)
  deriving DecidableEq, Repr

namespace Keyword

/-- The keyword that a key in lower case spells. -/
def ofLowerCase? (key : String) : Option Keyword :=
  if key = "and" then
    some (.connective .and)
  else if key = "or" then
    some (.connective .or)
  else if key = "neq" then
    some (.comparison .neq)
  else if key = "lt" then
    some (.comparison .lt)
  else if key = "lte" then
    some (.comparison .lte)
  else if key = "gt" then
    some (.comparison .gt)
  else if key = "gte" then
    some (.comparison .gte)
  else if key = "like" then
    some (.comparison .like)
  else if key = "nlike" then
    some (.comparison .notLike)
  else if key = "in" then
    some (.membership .within)
  else if key = "nin" then
    some (.membership .notWithin)
  else
    none

/-- The keyword that a key spells in any ASCII case; a character outside ASCII is never folded. -/
def ofKey? (key : String) : Option Keyword :=
  ofLowerCase? (Text.lower key)

/--
The keyword is an operator that may not be the name of a property. The pattern operators may be.
-/
def isReserved : Keyword → Bool
  | .connective _ =>
      false
  | .comparison op =>
      !op.isPattern
  | .membership _ =>
      true

end Keyword
end QueryFilter
