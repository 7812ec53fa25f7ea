/-!
# Life cycle

A revision is worked on, then released, and one day obsolete. Documents, rules and the database use
the same word for each of these.
-/

namespace PartQuery

/-- Where a revision stands in its life cycle. -/
inductive Status where
  | wip
  | released
  | obsolete
deriving DecidableEq, Repr, Inhabited

namespace Status

/-- The word for a status. -/
def name : Status → String
  | wip => "WIP"
  | released => "RELEASED"
  | obsolete => "OBSOLETE"

/-- All statuses. -/
def all : List Status :=
  [wip, released, obsolete]

/-- The status with this name. -/
def ofName? (s : String) : Option Status :=
  all.find? (·.name == s)

end Status

end PartQuery
