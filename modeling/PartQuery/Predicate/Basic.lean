import PartQuery.Part.Dataset
import PartQuery.Predicate.Like

/-!
# Predicates

A predicate is a rule in which fields are found, operands read and operators resolved; asking
whether it holds cannot fail. It is asked of a row, which is an entity together with one of its
iterations.
-/

namespace PartQuery

/-- What a comparison asks of a value. -/
inductive ValueTest where
  /-- Nothing. -/
  | always
  | equal (v : Scalar)
  | notEqual (v : Scalar)
  /-- A date from `start` on and before `stop`. -/
  | dayWindow (start stop : Instant)
  /-- A value from `low` to `high`, both included. -/
  | range (low high : Scalar)
  | less (v : Scalar)
  | lessOrEqual (v : Scalar)
  | greater (v : Scalar)
  | greaterOrEqual (v : Scalar)
  /-- A text in which, in lower case, the needle stands; or, if negated, does not. -/
  | like (mode : LikeMode) (needle : String) (negated : Bool)
  /-- One of these labels. -/
  | tagsAny (labels : List String)
  /-- None of these labels. -/
  | tagsNone (labels : List String)
deriving DecidableEq

namespace ValueTest

/-- Whether a value passes. Labels are asked of a row and not of a value. -/
def passes (test : ValueTest) (v : Scalar) : Bool :=
  match test with
  | always => true
  | equal expected => v.same expected
  | notEqual expected => !v.same expected
  | dayWindow start stop =>
    match v with
    | .date t => start ≤ t && t < stop
    | _ => false
  | range low high =>
    (v.compare? low).any (·.isGE) && (v.compare? high).any (·.isLE)
  | less bound => (v.compare? bound).any (·.isLT)
  | lessOrEqual bound => (v.compare? bound).any (·.isLE)
  | greater bound => (v.compare? bound).any (·.isGT)
  | greaterOrEqual bound => (v.compare? bound).any (·.isGE)
  | like mode needle negated =>
    v.text?.any fun s => mode.holds needle.toList (Text.lowerChars s.toList) != negated
  | tagsAny _ | tagsNone _ => false

end ValueTest

/-- An entity together with one of its iterations, as predicates see it. -/
structure Row where
  /-- The value of a field that is no attribute; nothing when it is unset. -/
  value? : Field → Option Scalar
  hasTag : String → Bool
  /-- The attributes of the iteration, as those of an owner. -/
  attributes? : Family → Option (List Attribute)
  /-- Whether the iteration is the last one. -/
  isLast : Bool

namespace Iteration

/-- An iteration of a revision as a row. -/
def row (r : Revision) (i : Iteration) : Row where
  value?
    | .master .number => some (.text r.master.number)
    | .master .name => some (.text r.master.name)
    | .master .type => some (.text r.master.type)
    | .master .creationDate => r.master.creationDate.map .date
    | .revision .version => some (.text r.version)
    | .revision .description => some (.text r.description)
    | .revision .creationDate => r.creationDate.map .date
    | .revision .checkoutDate => r.checkoutDate.map .date
    | .revision .lifeCycleState => some (.text r.lifeCycleState)
    | .revision .checkInDate => i.checkInDate.map .date
    | .revision .modificationDate => i.modificationDate.map .date
    | .revision .status => some (.status r.status)
    | .revision .tags | .revision .linkedDocuments => none
    | .author .login => some (.text r.author.login)
    | .author .name => some (.text r.author.name)
    | .author .email => some (.text r.author.email)
    | .author .language => some (.text r.author.language)
    | .dynamic _ _ _ => none
  hasTag label := r.tags.contains label
  attributes?
    | .revision => some i.attributes
    | .pathData => none
  isLast := r.isLast i

end Iteration

namespace PathIteration

/-- An iteration of path data as a row, which has attributes only. -/
def row (p : PathData) (i : PathIteration) : Row where
  value? _ := none
  hasTag _ := false
  attributes?
    | .revision => none
    | .pathData => some i.attributes
  isLast := p.isLast i

end PathIteration

/-- A rule whose fields, operands and operators are resolved. -/
inductive Predicate where
  /-- Holds of every row. -/
  | always
  | all (children : List Predicate)
  | any (children : List Predicate)
  | compare (field : Field) (test : ValueTest)
deriving Inhabited

namespace Predicate

/-- Whether a comparison holds of a row. Labels and attributes are looked up, any of several
attributes of one name may pass; any other field has one value or none, and the fields of the last
iteration have none in the others. -/
def compares (row : Row) (field : Field) (test : ValueTest) : Bool :=
  match field, test with
  | _, .always => true
  | _, .tagsAny labels => labels.any row.hasTag
  | _, .tagsNone labels => !labels.any row.hasTag
  | .dynamic owner kind name, test =>
    (row.attributes? owner).any (hasAttribute · kind name test.passes)
  | field, test =>
    (!field.isLastIterationOnly || row.isLast) && (row.value? field).any test.passes

mutual

/-- Whether a predicate holds of a row. -/
def holds (row : Row) : Predicate → Bool
  | always => true
  | all children => allHold row children
  | any children => anyHolds row children
  | compare field test => compares row field test

/-- Whether all predicates hold of a row. -/
def allHold (row : Row) : List Predicate → Bool
  | [] => true
  | p :: rest => p.holds row && allHold row rest

/-- Whether one of the predicates holds of a row. -/
def anyHolds (row : Row) : List Predicate → Bool
  | [] => false
  | p :: rest => p.holds row || anyHolds row rest

end

@[simp] theorem holds_always (row : Row) : always.holds row = true := by
  rw [holds]

@[simp] theorem holds_compare (row : Row) (field : Field) (test : ValueTest) :
    (compare field test).holds row = compares row field test := by
  rw [holds]

theorem allHold_eq_all (row : Row) (l : List Predicate) :
    allHold row l = l.all (·.holds row) := by
  induction l with
  | nil => rw [allHold, List.all_nil]
  | cons p rest ih => rw [allHold, List.all_cons, ih]

theorem anyHolds_eq_any (row : Row) (l : List Predicate) :
    anyHolds row l = l.any (·.holds row) := by
  induction l with
  | nil => rw [anyHolds, List.any_nil]
  | cons p rest ih => rw [anyHolds, List.any_cons, ih]

@[simp] theorem holds_all (row : Row) (l : List Predicate) :
    (all l).holds row = l.all (·.holds row) := by
  rw [holds, allHold_eq_all]

@[simp] theorem holds_any (row : Row) (l : List Predicate) :
    (any l).holds row = l.any (·.holds row) := by
  rw [holds, anyHolds_eq_any]

/-- Whether a predicate holds of some iteration of a revision. -/
def holdsOf (p : Predicate) (r : Revision) : Bool :=
  r.iterations.any fun i => p.holds (i.row r)

/-- Whether a predicate holds of some iteration of path data. -/
def holdsOfPath (p : Predicate) (d : PathData) : Bool :=
  d.iterations.any fun i => p.holds (i.row d)

end Predicate

end PartQuery
