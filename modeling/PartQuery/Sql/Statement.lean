import PartQuery.Search
import PartQuery.Sql.Select
import PartQuery.Sql.Text

/-!
# Statements of queries

A query is also stated as a selection from the tables that hold the entities. Each comparison
becomes a condition on a column; labels and attributes are looked for in tables of their own by
sub-selections, whose tables are numbered through the statement. Alternatives that ask one column
for equality become a list of values when there are enough of them.
-/

namespace PartQuery.Sql

/-- A list of values that replaced alternatives: the column, and how many values. -/
structure Listing where
  column : Column
  count : Nat
deriving DecidableEq, Repr

/-- A selection, and the lists in it that replaced alternatives, in the order of the text. -/
structure Statement where
  select : Select
  listings : List Listing

/-- What is kept while a condition is drafted. -/
structure Draft where
  /-- How many tables of sub-selections are numbered. -/
  numbered : Nat := 0
  /-- The lists so far that replaced alternatives. -/
  listings : List Listing := []

/-- Drafting gives a condition and numbers tables on the way. -/
abbrev Drafting (α : Type) := StateM Draft α

namespace Drafting

/-- A name that no table of the statement has yet. -/
def freshAlias : Drafting Alias := do
  let draft ← get
  set { draft with numbered := draft.numbered + 1 }
  return .sub (draft.numbered + 1)

/-- Notes a list of values that replaces alternatives. -/
def note (listing : Listing) : Drafting Unit :=
  modify fun draft => { draft with listings := draft.listings ++ [listing] }

end Drafting

/-- The identity of the rows of a table. -/
def idOf (table : Alias) : Column :=
  ⟨table, "id"⟩

/-- The column that holds a field, if it is held in one. -/
def column? : Field → Option Column
  | .master .number => some ⟨.master, "number"⟩
  | .master .name => some ⟨.master, "name"⟩
  | .master .type => some ⟨.master, "type"⟩
  | .master .creationDate => some ⟨.master, "creation_date"⟩
  | .revision .version => some ⟨.revision, "version"⟩
  | .revision .description => some ⟨.revision, "description"⟩
  | .revision .creationDate => some ⟨.revision, "creation_date"⟩
  | .revision .checkoutDate => some ⟨.revision, "checkout_date"⟩
  | .revision .lifeCycleState => some ⟨.revision, "lifecycle_state"⟩
  | .revision .status => some ⟨.revision, "status"⟩
  | .revision .checkInDate => some ⟨.iteration, "check_in_date"⟩
  | .revision .modificationDate => some ⟨.iteration, "modification_date"⟩
  | .revision .tags | .revision .linkedDocuments => none
  | .author .login => some ⟨.author, "login"⟩
  | .author .name => some ⟨.author, "name"⟩
  | .author .email => some ⟨.author, "email"⟩
  | .author .language => some ⟨.author, "language"⟩
  | .dynamic _ _ _ => none

/-- The entity that holds the attributes of a kind, and the column with their values. -/
def attributeStorage : AttributeKind → String × String
  | .text => ("TextAttribute", "text_value")
  | .longText => ("LongTextAttribute", "long_text_value")
  | .date => ("DateAttribute", "date_value")
  | .boolean => ("BooleanAttribute", "boolean_value")
  | .url => ("UrlAttribute", "url_value")
  | .number => ("NumberAttribute", "number_value")
  | .lov => ("LovAttribute", "item_index")
  | .partNumber => ("PartNumberAttribute", "part_master_id")

/-- The column of an attribute that tells its owner, and the table of the owner. -/
def attributeOwner : Family → String × Alias
  | .revision => ("part_iteration_id", .iteration)
  | .pathData => ("path_data_iteration_id", .pathIteration)

/-- A value as it stands in a statement; a status is held as its name. -/
def literal : Scalar → Literal
  | .text s => .text s
  | .date t => .date t
  | .number x => .double x
  | .boolean b => .boolean b
  | .lov index => .integer index
  | .status s => .text s.name

/-- The test of a value as a condition on its column. -/
def testCondition (column : Column) : ValueTest → Condition
  | .always | .tagsAny _ | .tagsNone _ => .constant true
  | .equal v => .compare column .equal (literal v)
  | .notEqual v => .compare column .notEqual (literal v)
  | .dayWindow start stop =>
    .and (.compare column .greaterOrEqual (.date start)) (.compare column .less (.date stop))
  | .range low high => .between column (literal low) (literal high)
  | .less v => .compare column .less (literal v)
  | .lessOrEqual v => .compare column .lessOrEqual (literal v)
  | .greater v => .compare column .greater (literal v)
  | .greaterOrEqual v => .compare column .greaterOrEqual (literal v)
  | .like mode needle negated => .like column (mode.pattern needle) negated

/-- A selection that only asks whether there are rows. -/
def existing (table : TableRef) (joins : List Join) (conditions : List Condition) : Select :=
  .mk .one table joins (.conjunction conditions) []

/-- The labels of the revision that are among the given ones. -/
def tagSelect (config : Config) (labels : List String) : Drafting Select := do
  let tag ← Drafting.freshAlias
  return existing ⟨config.table "Tag", tag⟩ []
    [.sameColumn ⟨tag, "part_revision_id"⟩ (idOf .revision),
      .oneOf ⟨tag, "label"⟩ (labels.map .text)]

/-- The attributes of the iteration that have a kind and a name and pass a test. Of a reference the
number of its part is tested. -/
def attributeSelect (config : Config) (owner : Family) (kind : AttributeKind) (name : String)
    (test : ValueTest) : Drafting Select := do
  let (entity, valueColumn) := attributeStorage kind
  let (ownerColumn, ownerTable) := attributeOwner owner
  let held ← Drafting.freshAlias
  let named := [.compare ⟨held, "name"⟩ .equal (.text name),
    .sameColumn ⟨held, ownerColumn⟩ (idOf ownerTable)]
  if kind = .partNumber then
    let part ← Drafting.freshAlias
    return existing ⟨config.table entity, held⟩
      [⟨⟨config.table "PartMaster", part⟩, idOf part, ⟨held, valueColumn⟩⟩]
      (named ++ [testCondition ⟨part, "number"⟩ test])
  else
    return existing ⟨config.table entity, held⟩ []
      (named ++ [testCondition ⟨held, valueColumn⟩ test])

/-- That the iteration is the last one of its revision. -/
def lastIteration (config : Config) : Drafting Condition := do
  let sibling ← Drafting.freshAlias
  return .counted ⟨.iteration, "iteration"⟩
    (.mk .count ⟨config.table "PartIteration", sibling⟩ []
      (.sameColumn ⟨sibling, "part_revision_id"⟩ (idOf .revision)) [])

/-- A comparison as a condition. -/
def draftComparison (config : Config) (field : Field) (test : ValueTest) : Drafting Condition :=
  match field, test with
  | _, .always => return .constant true
  | _, .tagsAny labels => return .exist (← tagSelect config labels) false
  | _, .tagsNone labels => return .exist (← tagSelect config labels) true
  | .dynamic owner kind name, test =>
    return .exist (← attributeSelect config owner kind name test) false
  | field, test =>
    match column? field with
    | none => return .constant true
    | some column =>
      if field.isLastIterationOnly then
        return .and (← lastIteration config) (testCondition column test)
      else return testCondition column test

/-- The values that alternatives ask one field for, if that is all they do. -/
def equalities? (field : Field) : List Predicate → Option (List Scalar)
  | [] => some []
  | .compare f (.equal v) :: rest =>
    if f = field then (equalities? field rest).map (v :: ·) else none
  | _ :: _ => none

/-- The column and the list of values that may replace alternatives: there are enough of them, at
least two, and they all ask for equality of one field that is held in a column and not read from the
last iteration only. -/
def valueList? (config : Config) (children : List Predicate) : Option (Column × List Scalar) :=
  if children.length < max config.listThreshold 2 then none
  else
    match children with
    | .compare field (.equal _) :: _ =>
      if field.isLastIterationOnly then none
      else do
        let values ← equalities? field children
        let column ← column? field
        return (column, values)
    | _ => none

mutual

/-- A predicate as a condition. -/
def draft (config : Config) : Predicate → Drafting Condition
  | .always => return .constant true
  | .all children => return .conjunction (← draftAll config children)
  | .any children =>
    match valueList? config children with
    | some (column, values) => do
      Drafting.note ⟨column, values.length⟩
      return .oneOf column (values.map literal)
    | none => return .disjunction (← draftAll config children)
  | .compare field test => draftComparison config field test

/-- Predicates as conditions, from left to right. -/
def draftAll (config : Config) : List Predicate → Drafting (List Condition)
  | [] => return []
  | p :: rest => do
    let c ← draft config p
    let cs ← draftAll config rest
    return c :: cs

end

/-- The columns of the named fields, without those that are held in none. -/
def presentation (names : List String) : Except QueryError (List Column) := do
  let fields ← names.mapM fun name => (Comparison.mk name .equal [] .string).resolve
  return fields.filterMap column?

/-- That the revision has an iteration that is checked in. -/
def checkedIn (config : Config) : Condition :=
  .exist (existing ⟨config.table "PartIteration", .checkedIn⟩ []
    [.sameColumn ⟨.checkedIn, "part_revision_id"⟩ (idOf .revision),
      .notNull ⟨.checkedIn, "check_in_date"⟩]) false

/-- The tables that hold a revision beside its own: its part, its author and its iterations. -/
def revisionJoins (config : Config) : List Join :=
  [⟨⟨config.table "PartMaster", .master⟩, idOf .master, ⟨.revision, "part_master_id"⟩⟩,
    ⟨⟨config.table "Account", .author⟩, idOf .author, ⟨.revision, "author_id"⟩⟩,
    ⟨⟨config.table "PartIteration", .iteration⟩, ⟨.iteration, "part_revision_id"⟩,
      idOf .revision⟩]

/-- The columns of the key of a revision. -/
def keyColumns : List Column :=
  [⟨.revision, "workspace_id"⟩, ⟨.master, "number"⟩, ⟨.revision, "version"⟩]

/-- The statement for the revisions of a workspace that a predicate holds of. -/
def revisionStatement (config : Config) (p : Predicate) (workspace : String)
    (selects orderBy : List Column) : Statement :=
  let (condition, final) := (draft config p).run {}
  { select :=
      .mk (.distinct (keyColumns ++ selects ++ orderBy))
        ⟨config.table "PartRevision", .revision⟩ (revisionJoins config)
        (.conjunction [.compare ⟨.revision, "workspace_id"⟩ .equal (.text workspace), condition,
          checkedIn config])
        orderBy
    listings := final.listings }

/-- The statement for the path data with these ids that a predicate holds of. -/
def pathStatement (config : Config) (p : Predicate) (ids : List Int) : Statement :=
  let (condition, final) := (draft config p).run {}
  { select :=
      .mk (.distinct [⟨.pathData, "path"⟩]) ⟨config.table "PathDataMaster", .pathData⟩
        [⟨⟨config.table "PathDataIteration", .pathIteration⟩,
          ⟨.pathIteration, "path_data_master_id"⟩, idOf .pathData⟩]
        (.conjunction [.oneOf (idOf .pathData) (ids.map .integer), condition])
        [⟨.pathData, "path"⟩]
    listings := final.listings }

end PartQuery.Sql

namespace PartQuery.Query

/-- The statement for the revisions of a workspace. The rule is compiled first; then the fields that
are to be presented are found, the selected ones before those that order the answer. -/
def revisionStatement (q : Query) (config : Config) (workspace : String) :
    Except QueryError Sql.Statement := do
  let p ← q.revisionPredicate config
  let selects ← Sql.presentation q.selects
  let orderBy ← Sql.presentation q.orderBy
  return Sql.revisionStatement config p workspace selects orderBy

/-- The statement for the path data attached to a product instance; when there is none, there is
nothing to ask for. -/
def pathStatement (q : Query) (config : Config) (ids : List Int) :
    Except QueryError (Option Sql.Statement) :=
  if ids.isEmpty then .ok none
  else do
    let p ← q.pathPredicate config
    return some (Sql.pathStatement config p ids)

end PartQuery.Query
