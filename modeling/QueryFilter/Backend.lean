import QueryFilter.Text.Case

/-!
# Backends

The two languages that filters are written in, and the names that choose between them.
-/

namespace QueryFilter

/-- The language that a filter is written in. -/
inductive Backend
  | mysql
  | mongo
  deriving DecidableEq, Repr

namespace Backend

/-- The name of a backend. -/
def name : Backend → String
  | .mysql =>
      "mysql"
  | .mongo =>
      "mongo"

/-- The backend with exactly this name. -/
def ofExactName? (name : String) : Option Backend :=
  if name = "mysql" then
    some .mysql
  else if name = "mongo" then
    some .mongo
  else
    none

/-- The backend that a name chooses, in any ASCII case; one of them has two names. -/
def ofName? (name : String) : Option Backend :=
  if Text.lower name = "mongodb" then some .mongo else ofExactName? (Text.lower name)

/-- The text about a name that chooses no backend. -/
def unknownMessage (name : String) : String :=
  "unknown backend '" ++ Text.lower name ++ "'"

end Backend
end QueryFilter
