/-!
# Sort directions
-/

namespace TableQuery

/-- The direction of a sort. -/
inductive Direction where
  | ascending
  | descending
deriving DecidableEq, Repr, Inhabited

namespace Direction

/-- The word of a direction in a statement. -/
def keyword : Direction → String
  | .ascending => "ASC"
  | .descending => "DESC"

/-- The full name of a direction. -/
def name : Direction → String
  | .ascending => "ASCENDING"
  | .descending => "DESCENDING"

end Direction

end TableQuery
