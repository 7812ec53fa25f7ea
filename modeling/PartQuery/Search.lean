import PartQuery.Config
import PartQuery.Order
import PartQuery.Predicate.Compile
import PartQuery.Rule.Query

/-!
# Searching

A search compiles the rule of a query, asks a source for the entities in question, and answers which
of them the rule holds of, in order and each once. A source may fail, and it may answer with more
than it was asked for; what was not asked for is left out here.
-/

namespace PartQuery

/-- Where entities come from. A failure comes with its message. -/
structure Source where
  /-- The revisions of a workspace. -/
  revisions : String → Except String (List Revision)
  /-- The path data with some of these ids. -/
  pathData : List Int → Except String (List PathData)

namespace Source

/-- The source that holds a dataset. -/
def ofDataset (d : Dataset) : Source where
  revisions workspace := .ok (d.revisions.filter (·.master.workspace == workspace))
  pathData ids := .ok (d.pathData.filter fun p => ids.contains p.id)

/-- The source that answers with the whole dataset, whatever it is asked for. -/
def unfiltered (d : Dataset) : Source where
  revisions _ := .ok d.revisions
  pathData _ := .ok d.pathData

/-- The source that fails. -/
def failing (message : String) : Source where
  revisions _ := .error message
  pathData _ := .error message

end Source

/-- What a search comes to. -/
structure Outcome (α : Type) where
  result : Except QueryError α
  /-- How often the source was asked. -/
  calls : Nat

namespace Outcome

/-- The outcome of a search that needs to ask nothing. -/
def unasked {α : Type} (result : Except QueryError α) : Outcome α :=
  ⟨result, 0⟩

/-- The outcome of a search that asks once. -/
def asking {α β : Type} (answer : Except String α) (select : α → β) : Outcome β :=
  match answer with
  | .ok a => ⟨.ok (select a), 1⟩
  | .error message => ⟨.error (.source message), 1⟩

end Outcome

namespace Config

/-- What the rules of a query are compiled for. -/
def context (c : Config) (family : Family) : CompileContext :=
  ⟨family, c.timezone⟩

end Config

namespace Query

/-- The predicate for revisions. -/
def revisionPredicate (q : Query) (config : Config) : Except QueryError Predicate := do
  (← q.revisionRule).compile (config.context .revision)

/-- The predicate for path data. -/
def pathPredicate (q : Query) (config : Config) : Except QueryError Predicate := do
  (← q.pathDataRule).compile (config.context .pathData)

end Query

/-- The keys of the revisions of a workspace that a predicate holds of. A revision that was never
checked in is left out. -/
def selectRevisions (p : Predicate) (workspace : String) (revisions : List Revision) :
    List RevisionKey :=
  sortDistinct ((revisions.filter fun r =>
    r.master.workspace == workspace && p.holdsOf r && r.lastCheckedIn?.isSome).map (·.key))

/-- The paths of the path data with these ids that a predicate holds of. -/
def selectPaths (p : Predicate) (ids : List Int) (pathData : List PathData) : List String :=
  sortDistinct ((pathData.filter fun d => ids.contains d.id && p.holdsOfPath d).map (·.path))

/-- Searches the revisions of a workspace. -/
def searchRevisions (source : Source) (config : Config) (q : Query) (workspace : String) :
    Outcome (List RevisionKey) :=
  match q.revisionPredicate config with
  | .error e => .unasked (.error e)
  | .ok p => .asking (source.revisions workspace) (selectRevisions p workspace)

/-- Searches the path data attached to a product instance. When there is none, there is nothing to
ask for. -/
def searchPaths (source : Source) (config : Config) (q : Query) (pathDataIds : List Int) :
    Outcome (List String) :=
  if pathDataIds.isEmpty then .unasked (.ok [])
  else
    match q.pathPredicate config with
    | .error e => .unasked (.error e)
    | .ok p => .asking (source.pathData pathDataIds) (selectPaths p pathDataIds)

end PartQuery
