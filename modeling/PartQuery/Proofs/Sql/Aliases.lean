import Mathlib.Algebra.GroupWithZero.Nat
import PartQuery.Proofs.Sql.Listings
import PartQuery.Proofs.Sql.Presentation
import PartQuery.Proofs.WellTyped

/-!
# Names of tables

The tables of sub-selections are named by numbers, and a draft hands the numbers out one by one:
those in its condition are consecutive from the first free number on, in the order in which the
tables stand in the text (`numbers_draft`). There is one for each comparison that asks for labels,
for an attribute or for the last iteration, and a second one where the number of a part is asked
for. A list of values needs none, and neither would the alternatives that it replaces.

The conditions of compiled predicates are well scoped (`wellScoped_draft`): outside of its
sub-selections, a condition speaks of the tables that the statement begins with, and a sub-selection
speaks of its own tables and of the row that it belongs to. As no name is given twice, no
sub-selection is spoken of from outside (`Select.noCapture_of_speaksOf`).

The main statement is `aliases_are_fresh`.
-/

namespace PartQuery

/-! ## Comparisons of a predicate -/

namespace Predicate

mutual

/-- The comparisons in a predicate, from left to right. -/
def comparisons : Predicate → List (Field × ValueTest)
  | always => []
  | all children => comparisonsOfAll children
  | any children => comparisonsOfAll children
  | compare field test => [(field, test)]

/-- The comparisons in predicates, one predicate after the other. -/
def comparisonsOfAll : List Predicate → List (Field × ValueTest)
  | [] => []
  | p :: rest => p.comparisons ++ comparisonsOfAll rest

end

/-- The comparisons in predicates are those in each of them. -/
lemma comparisonsOfAll_eq_flatMap (ps : List Predicate) :
    comparisonsOfAll ps = ps.flatMap comparisons := by
  induction ps with
  | nil => rw [comparisonsOfAll, List.flatMap_nil]
  | cons p rest ih => rw [comparisonsOfAll, List.flatMap_cons, ih]

end Predicate

namespace Sql

/-! ## Sub-selections and what they speak of -/

mutual

/-- The sub-selections in a condition, from left to right: each before those inside it. -/
def Condition.subselections : Condition → List Select
  | .counted _ select => select :: select.subselections
  | .exist select _ => select :: select.subselections
  | .and left right => left.subselections ++ right.subselections
  | .or left right => left.subselections ++ right.subselections
  | .constant _ | .sameColumn _ _ | .compare _ _ _ | .between _ _ _ | .notNull _ | .oneOf _ _
  | .like _ _ _ => []

/-- The sub-selections in a selection. -/
def Select.subselections : Select → List Select
  | .mk _ _ _ filter _ => filter.subselections

end

/-- The columns that a condition speaks of outside of its sub-selections. -/
def Condition.columns : Condition → List Column
  | .constant _ | .exist _ _ => []
  | .sameColumn left right => [left, right]
  | .compare column _ _ | .between column _ _ | .notNull column | .oneOf column _
  | .like column _ _ | .counted column _ => [column]
  | .and left right | .or left right => left.columns ++ right.columns

/-- The columns that a projection shows. -/
def Projection.columns : Projection → List Column
  | .distinct columns => columns
  | .one | .count => []

namespace Select

/-- The names of the tables that a selection brings in, in the order of the text. -/
def names : Select → List Alias
  | mk _ table joins _ _ => table.name :: joins.map (·.table.name)

/-- The columns that a selection speaks of outside of its sub-selections. -/
def columns : Select → List Column
  | mk projection _ joins filter orderBy =>
    projection.columns ++ joins.flatMap (fun join => [join.left, join.right]) ++ filter.columns ++
      orderBy

end Select

/-- The names of the tables that sub-selections bring in, in the order of the text. -/
def namesIn (selects : List Select) : List Alias :=
  selects.flatMap Select.names

/-- The sub-selections of conditions that are joined are those of each of them. -/
lemma subselections_foldl {join : Condition → Condition → Condition}
    (hjoin : ∀ left right, (join left right).subselections = left.subselections ++
      right.subselections) (first : Condition) (rest : List Condition) :
    (rest.foldl join first).subselections =
      first.subselections ++ rest.flatMap Condition.subselections := by
  induction rest generalizing first with
  | nil => simp
  | cons c rest ih => rw [List.foldl_cons, ih, hjoin, List.flatMap_cons, List.append_assoc]

/-- The columns of conditions that are joined are those of each of them. -/
lemma columns_foldl {join : Condition → Condition → Condition}
    (hjoin : ∀ left right, (join left right).columns = left.columns ++ right.columns)
    (first : Condition) (rest : List Condition) :
    (rest.foldl join first).columns = first.columns ++ rest.flatMap Condition.columns := by
  induction rest generalizing first with
  | nil => simp
  | cons c rest ih => rw [List.foldl_cons, ih, hjoin, List.flatMap_cons, List.append_assoc]

/-- The sub-selections of a conjunction or of a disjunction are those of the conditions in it. -/
lemma subselections_join (conditions : List Condition) :
    (Condition.conjunction conditions).subselections =
        conditions.flatMap Condition.subselections ∧
      (Condition.disjunction conditions).subselections =
        conditions.flatMap Condition.subselections := by
  cases conditions with
  | nil => exact ⟨by rw [Condition.conjunction, Condition.subselections]; rfl,
      by rw [Condition.disjunction, Condition.subselections]; rfl⟩
  | cons first rest =>
    exact ⟨subselections_foldl (fun _ _ => by rw [Condition.subselections]) ..,
      subselections_foldl (fun _ _ => by rw [Condition.subselections]) ..⟩

/-- The columns of a conjunction or of a disjunction are those of the conditions in it. -/
lemma columns_join (conditions : List Condition) :
    (Condition.conjunction conditions).columns = conditions.flatMap Condition.columns ∧
      (Condition.disjunction conditions).columns = conditions.flatMap Condition.columns := by
  cases conditions with
  | nil => exact ⟨rfl, rfl⟩
  | cons first rest => exact ⟨columns_foldl (fun _ _ => rfl) .., columns_foldl (fun _ _ => rfl) ..⟩

/-- A test speaks of its column, and of no sub-selection. -/
lemma subselections_testCondition (column : Column) (test : ValueTest) :
    (testCondition column test).subselections = [] := by
  cases test <;> simp [testCondition, Condition.subselections]

/-- A test speaks of no other column. -/
lemma eq_of_mem_columns_testCondition {column : Column} {test : ValueTest} :
    ∀ mentioned ∈ (testCondition column test).columns, mentioned = column := by
  cases test <;> simp [testCondition, Condition.columns]

/-! ## How many tables are named -/

/-- How many tables the sub-selection of a comparison brings in. -/
def tableCount : Field → ValueTest → Nat
  | _, .always => 0
  | _, .tagsAny _ | _, .tagsNone _ => 1
  | .dynamic _ .partNumber _, _ => 2
  | .dynamic _ _ _, _ => 1
  | .revision .checkInDate, _ | .revision .modificationDate, _ => 1
  | _, _ => 0

/-- How many tables the sub-selections of comparisons bring in. -/
def tableCountOf (comparisons : List (Field × ValueTest)) : Nat :=
  (comparisons.map fun c => tableCount c.1 c.2).sum

/-- The tables of two lists of comparisons are counted one after the other. -/
lemma tableCountOf_append (l m : List (Field × ValueTest)) :
    tableCountOf (l ++ m) = tableCountOf l + tableCountOf m := by
  rw [tableCountOf, List.map_append, List.sum_append]
  rfl

variable {config : Config} {children : List Predicate} {column : Column} {values : List Scalar}

/-- Alternatives that may be listed have no sub-selections. -/
lemma Listable.tableCountOf_eq_zero (h : Listable config children column values) :
    tableCountOf (children.flatMap Predicate.comparisons) = 0 := by
  obtain ⟨-, field, hcolumn, ⟨hcheckIn, hmodification⟩, rfl⟩ := h
  have hfield : ∀ v, tableCount field (.equal v) = 0 := by
    intro v
    cases field with
    | revision f =>
      cases f <;> first | rfl | exact absurd rfl hcheckIn | exact absurd rfl hmodification
    | dynamic owner kind name => cases hcolumn
    | _ => rfl
  induction values with
  | nil => rfl
  | cons v rest ih =>
    rw [List.map_cons, List.flatMap_cons, tableCountOf_append, ih, Predicate.comparisons]
    exact hfield v

/-- A draft names tables of sub-selections by the next free numbers, so many of them and in the
order of the text. -/
def Numbers {α : Type} (drafting : Drafting α) (subselections : α → List Select) (count : Nat) :
    Prop :=
  ∀ s : Draft, (drafting.run s).2.numbered = s.numbered + count ∧
    namesIn (subselections (drafting.run s).1) =
      (List.range' (s.numbered + 1) count).map Alias.sub

/-- A sub-selection that is drafted into a condition is numbered with what is inside it. -/
lemma numbers_exist {drafting : Drafting Select} {count : Nat}
    (h : Numbers drafting (fun select => select :: select.subselections) count) (negated : Bool) :
    Numbers (do return .exist (← drafting) negated) Condition.subselections count := by
  intro s
  refine ⟨(h s).1, ?_⟩
  change namesIn (Condition.exist (drafting.run s).1 negated).subselections = _
  rw [Condition.subselections]
  exact (h s).2

/-- What is asked only for its rows has the sub-selections of its conditions. -/
lemma subselections_existing (table : TableRef) (joins : List Join) (conditions : List Condition) :
    (existing table joins conditions).subselections =
      conditions.flatMap Condition.subselections := by
  rw [existing, Select.subselections, (subselections_join _).1]

/-- If its conditions have none, it brings in its own tables only. -/
lemma namesIn_existing {table : TableRef} {joins : List Join} {conditions : List Condition}
    (h : conditions.flatMap Condition.subselections = []) :
    namesIn (existing table joins conditions :: (existing table joins conditions).subselections) =
      table.name :: joins.map (·.table.name) := by
  rw [subselections_existing, h, namesIn, List.flatMap_singleton]
  rfl

/-- It brings in the table and the joined ones. -/
lemma names_existing (table : TableRef) (joins : List Join) (conditions : List Condition) :
    (existing table joins conditions).names = table.name :: joins.map (·.table.name) := rfl

/-- It speaks of the columns of its joins and of its conditions. -/
lemma columns_existing (table : TableRef) (joins : List Join) (conditions : List Condition) :
    (existing table joins conditions).columns =
      joins.flatMap (fun join => [join.left, join.right]) ++
        conditions.flatMap Condition.columns := by
  rw [existing, Select.columns, (columns_join _).1, Projection.columns, List.nil_append,
    List.append_nil]

/-- Labels are looked for in a table of their own. -/
lemma run_tagSelect (labels : List String) (s : Draft) :
    (tagSelect config labels).run s =
      (existing ⟨config.table "Tag", .sub (s.numbered + 1)⟩ []
        [.sameColumn ⟨.sub (s.numbered + 1), "part_revision_id"⟩ (idOf .revision),
          .oneOf ⟨.sub (s.numbered + 1), "label"⟩ (labels.map .text)],
        { s with numbered := s.numbered + 1 }) := rfl

/-- So are attributes, and beside it the parts are looked up that they refer to. -/
lemma run_attributeSelect (config : Config) (owner : Family) (kind : AttributeKind) (name : String)
    (test : ValueTest) (s : Draft) : ∃ joins tested,
      (attributeSelect config owner kind name test).run s =
        (existing ⟨config.table (attributeStorage kind).1, .sub (s.numbered + 1)⟩ joins
          [.compare ⟨.sub (s.numbered + 1), "name"⟩ .equal (.text name),
            .sameColumn ⟨.sub (s.numbered + 1), (attributeOwner owner).1⟩
              (idOf (attributeOwner owner).2), testCondition tested test],
          { s with numbered := s.numbered + (joins.length + 1) }) ∧
      joins.length = (if kind = .partNumber then 1 else 0) ∧
      (∀ join ∈ joins, join.table.name = .sub (s.numbered + 2) ∧
        join.left.table = .sub (s.numbered + 2) ∧ join.right.table = .sub (s.numbered + 1)) ∧
      tested.table ∈ .sub (s.numbered + 1) :: joins.map (·.table.name) := by
  unfold attributeSelect
  by_cases hkind : kind = .partNumber
  · simp only [if_pos hkind]
    exact ⟨[_], ⟨.sub (s.numbered + 2), "number"⟩, rfl, rfl, by simp [idOf], by simp⟩
  · simp only [if_neg hkind]
    exact ⟨[], ⟨.sub (s.numbered + 1), _⟩, rfl, rfl, by simp, by simp⟩

/-- The iterations beside one are counted in a table of their own. -/
lemma run_lastIteration (s : Draft) :
    (lastIteration config).run s =
      (.counted ⟨.iteration, "iteration"⟩
        (.mk .count ⟨config.table "PartIteration", .sub (s.numbered + 1)⟩ []
          (.sameColumn ⟨.sub (s.numbered + 1), "part_revision_id"⟩ (idOf .revision)) []),
        { s with numbered := s.numbered + 1 }) := rfl

/-- Labels take one number. -/
lemma numbers_tagSelect (labels : List String) :
    Numbers (tagSelect config labels) (fun select => select :: select.subselections) 1 := by
  intro s
  rw [run_tagSelect]
  refine ⟨rfl, (namesIn_existing ?_).trans rfl⟩
  simp [Condition.subselections]

/-- Attributes take one number, and a second one if they refer to parts. -/
lemma numbers_attributeSelect (owner : Family) (kind : AttributeKind) (name : String)
    (test : ValueTest) :
    Numbers (attributeSelect config owner kind name test)
      (fun select => select :: select.subselections)
      ((if kind = .partNumber then 1 else 0) + 1) := by
  intro s
  obtain ⟨joins, tested, hrun, hlength, hjoins, -⟩ :=
    run_attributeSelect config owner kind name test s
  have hnames : joins.map (·.table.name) =
      (List.range' (s.numbered + 2) joins.length).map Alias.sub := by
    match joins, hjoins with
    | [], _ => rfl
    | [join], hjoins => simp [(hjoins join (by simp)).1]
    | _ :: _ :: _, _ =>
      simp only [List.length_cons] at hlength
      split at hlength <;> omega
  rw [hrun, ← hlength, List.range'_succ, List.map_cons, ← hnames]
  refine ⟨rfl, namesIn_existing ?_⟩
  simp [Condition.subselections, subselections_testCondition]

/-- Counting iterations takes one number. -/
lemma numbers_lastIteration :
    Numbers (lastIteration config) Condition.subselections 1 := by
  intro s
  rw [run_lastIteration]
  refine ⟨rfl, ?_⟩
  simp [namesIn, Condition.subselections, Select.subselections, Select.names]

/-- A field that is held in a column takes a number only if it is read from the last iteration. -/
lemma tableCount_of_not_dynamic {field : Field} {test : ValueTest} (htest : test.IsOfValues)
    (hfield : ∀ owner kind name, field ≠ .dynamic owner kind name) :
    tableCount field test = if field.isLastIterationOnly = true then 1 else 0 := by
  cases field with
  | dynamic owner kind name => exact absurd rfl (hfield owner kind name)
  | revision f => cases f <;> cases test <;> first | exact htest.elim | rfl
  | _ => cases test <;> first | exact htest.elim | rfl

/-- An attribute takes a number, and a second one if it refers to a part. -/
lemma tableCount_dynamic {owner : Family} {kind : AttributeKind} {name : String} {test : ValueTest}
    (htest : test.IsOfValues) :
    tableCount (.dynamic owner kind name) test = (if kind = .partNumber then 1 else 0) + 1 := by
  cases kind <;> cases test <;> first | exact htest.elim | rfl

/-- A field that is neither an attribute nor held in a column cannot be tested. -/
lemma draftComparison_of_no_column {field : Field} {test : ValueTest} (htest : test.IsOfValues)
    (hfield : ∀ owner kind name, field ≠ .dynamic owner kind name)
    (hcolumn : column? field = none) :
    draftComparison config field test = return .constant true := by
  cases field with
  | dynamic owner kind name => exact absurd rfl (hfield owner kind name)
  | _ => cases test <;> first | exact htest.elim | simp only [draftComparison, hcolumn]

/-- What is read from the last iteration is held in a column. -/
lemma isLastIterationOnly_of_no_column {field : Field} (hcolumn : column? field = none) :
    field.isLastIterationOnly = false := by
  cases field with
  | revision f => cases f <;> first | rfl | cases hcolumn
  | _ => rfl

/-- A condition without sub-selections takes no number. -/
lemma numbers_return {c : Condition} (h : c.subselections = []) :
    Numbers (return c) Condition.subselections 0 := by
  intro s
  exact ⟨rfl, congrArg namesIn h⟩

/-- A comparison numbers the tables of its sub-selection. -/
lemma numbers_draftComparison (field : Field) (test : ValueTest) :
    Numbers (draftComparison config field test) Condition.subselections
      (tableCount field test) := by
  by_cases htest : test.IsOfValues
  · by_cases hdynamic : ∃ owner kind name, field = .dynamic owner kind name
    · obtain ⟨owner, kind, name, rfl⟩ := hdynamic
      rw [draftComparison_dynamic htest, tableCount_dynamic htest]
      exact numbers_exist (numbers_attributeSelect owner kind name test) false
    · have hfield : ∀ owner kind name, field ≠ .dynamic owner kind name :=
        fun owner kind name h => hdynamic ⟨owner, kind, name, h⟩
      rw [tableCount_of_not_dynamic htest hfield]
      cases hcolumn : column? field with
      | none =>
        rw [draftComparison_of_no_column htest hfield hcolumn,
          if_neg (by simp [isLastIterationOnly_of_no_column hcolumn])]
        exact numbers_return (by rw [Condition.subselections])
      | some column =>
        rw [draftComparison_of_column htest hcolumn]
        split
        · intro s
          refine ⟨rfl, ?_⟩
          change namesIn (Condition.and ((lastIteration config).run s).1
            (testCondition column test)).subselections = _
          rw [Condition.subselections, subselections_testCondition, List.append_nil]
          exact (numbers_lastIteration s).2
        · exact numbers_return (subselections_testCondition column test)
  · cases test with
    | always => exact numbers_return (by rw [Condition.subselections])
    | tagsAny labels => exact numbers_exist (numbers_tagSelect labels) false
    | tagsNone labels => exact numbers_exist (numbers_tagSelect labels) true
    | _ => exact absurd trivial htest

/-- Predicates that are drafted one by one number their tables one after the other. -/
lemma numbers_draftAll
    (h : ∀ child ∈ children, Numbers (draft config child) Condition.subselections
      (tableCountOf child.comparisons)) :
    Numbers (draftAll config children) (·.flatMap Condition.subselections)
      (tableCountOf (children.flatMap Predicate.comparisons)) := by
  induction children with
  | nil =>
    intro s
    rw [draftAll]
    exact ⟨rfl, rfl⟩
  | cons child rest ih =>
    rw [List.forall_mem_cons] at h
    intro s
    obtain ⟨hchild, hnames⟩ := h.1 s
    obtain ⟨hrest, hnames'⟩ := ih h.2 ((draft config child).run s).2
    rw [draftAll, List.flatMap_cons, tableCountOf_append]
    refine ⟨?_, ?_⟩
    · rw [← Nat.add_assoc, ← hchild]
      exact hrest
    · rw [List.range'_append_1.symm, List.map_append, ← hnames, Nat.add_right_comm, ← hchild,
        ← hnames', namesIn, namesIn, namesIn, ← List.flatMap_append]
      rfl

/-- Drafting a predicate numbers the tables of the sub-selections in its condition, from left to
right: so many as its comparisons take. -/
theorem numbers_draft (config : Config) (p : Predicate) :
    Numbers (draft config p) Condition.subselections (tableCountOf p.comparisons) := by
  induction p using Predicate.treeInduction with
  | always =>
    rw [draft, Predicate.comparisons]
    exact numbers_return (by rw [Condition.subselections])
  | all children ih =>
    rw [draft, Predicate.comparisons, Predicate.comparisonsOfAll_eq_flatMap]
    intro s
    obtain ⟨hnumbered, hnames⟩ := numbers_draftAll ih s
    exact ⟨hnumbered, (congrArg namesIn (subselections_join _).1).trans hnames⟩
  | any children ih =>
    rw [Predicate.comparisons, Predicate.comparisonsOfAll_eq_flatMap]
    intro s
    by_cases hlistable : ∃ column values, Listable config children column values
    · obtain ⟨column, values, hlistable⟩ := hlistable
      rw [draft_any_of_listable hlistable, hlistable.tableCountOf_eq_zero]
      refine ⟨rfl, ?_⟩
      rw [Condition.subselections]
      rfl
    · obtain ⟨hnumbered, hnames⟩ := numbers_draftAll ih s
      rw [draft_any_of_not_listable hlistable]
      exact ⟨hnumbered, (congrArg namesIn (subselections_join _).2).trans hnames⟩
  | compare field test =>
    rw [draft, Predicate.comparisons]
    exact numbers_draftComparison field test

/-! ## What conditions speak of -/

/-- The tables that a statement about entities of a family begins with. -/
def statementTables : Family → List Alias
  | .revision => [.revision, .master, .author, .iteration]
  | .pathData => [.pathData, .pathIteration]

/-- Those of them that sub-selections speak of. -/
def rowTables : Family → List Alias
  | .revision => [.revision, .iteration]
  | .pathData => [.pathIteration]

/-- A selection speaks of its own tables and of some that stand around it. -/
def Select.SpeaksOf (outer : List Alias) (select : Select) : Prop :=
  ∀ column ∈ select.columns, column.table ∈ select.names ∨ column.table ∈ outer

/-- A condition on entities of a family speaks of the tables that its statement begins with, and its
sub-selections speak of their own tables and of those of the row. -/
structure Condition.WellScoped (family : Family) (c : Condition) : Prop where
  outside : ∀ column ∈ c.columns, column.table ∈ statementTables family
  inside : ∀ select ∈ c.subselections, select.SpeaksOf (rowTables family)

variable {family : Family}

/-- Conditions that are joined are well scoped if each of them is. -/
lemma wellScoped_join {conditions : List Condition} (h : ∀ c ∈ conditions, c.WellScoped family) :
    (Condition.conjunction conditions).WellScoped family ∧
      (Condition.disjunction conditions).WellScoped family := by
  have hcolumns : ∀ column ∈ conditions.flatMap Condition.columns,
      column.table ∈ statementTables family := by
    intro column hcolumn
    obtain ⟨c, hc, hcolumn⟩ := List.mem_flatMap.1 hcolumn
    exact (h c hc).outside column hcolumn
  have hselects : ∀ select ∈ conditions.flatMap Condition.subselections,
      select.SpeaksOf (rowTables family) := by
    intro select hselect
    obtain ⟨c, hc, hselect⟩ := List.mem_flatMap.1 hselect
    exact (h c hc).inside select hselect
  exact ⟨⟨(columns_join _).1 ▸ hcolumns, (subselections_join _).1 ▸ hselects⟩,
    ⟨(columns_join _).2 ▸ hcolumns, (subselections_join _).2 ▸ hselects⟩⟩

/-- A condition without sub-selections is well scoped if its columns are those of the statement. -/
lemma wellScoped_of_subselections_eq_nil {c : Condition} (h : c.subselections = [])
    (hcolumns : ∀ column ∈ c.columns, column.table ∈ statementTables family) :
    c.WellScoped family := by
  refine ⟨hcolumns, ?_⟩
  rw [h]
  exact List.forall_mem_nil _

/-- A constant speaks of nothing. -/
lemma wellScoped_constant (b : Bool) : (Condition.constant b).WellScoped family :=
  wellScoped_of_subselections_eq_nil (by rw [Condition.subselections]) (by simp [Condition.columns])

/-- The existence of rows is well scoped if the selection is that asks for them. -/
lemma wellScoped_exist {table : TableRef} {joins : List Join} {conditions : List Condition}
    (hnone : conditions.flatMap Condition.subselections = [])
    (hspeaks : (existing table joins conditions).SpeaksOf (rowTables family)) (negated : Bool) :
    (Condition.exist (existing table joins conditions) negated).WellScoped family := by
  refine ⟨by simp [Condition.columns], ?_⟩
  rw [Condition.subselections, subselections_existing, hnone, List.forall_mem_singleton]
  exact hspeaks

/-- Labels are looked for beside a revision. -/
lemma wellScoped_tagSelect (labels : List String) (negated : Bool) (s : Draft) :
    (Condition.exist ((tagSelect config labels).run s).1 negated).WellScoped .revision := by
  rw [run_tagSelect]
  refine wellScoped_exist (by simp [Condition.subselections]) ?_ negated
  unfold Select.SpeaksOf
  rw [columns_existing, names_existing]
  simp [Condition.columns, idOf, rowTables]

/-- Attributes are looked for beside an iteration. -/
lemma wellScoped_attributeSelect (owner : Family) (kind : AttributeKind) (name : String)
    (test : ValueTest) (s : Draft) :
    (Condition.exist ((attributeSelect config owner kind name test).run s).1 false).WellScoped
      owner := by
  obtain ⟨joins, tested, hrun, -, hjoins, htested⟩ :=
    run_attributeSelect config owner kind name test s
  have howner : (attributeOwner owner).2 ∈ rowTables owner := by
    cases owner <;> decide
  rw [hrun]
  refine wellScoped_exist (by simp [Condition.subselections, subselections_testCondition]) ?_ false
  intro column hcolumn
  rw [names_existing]
  simp only [columns_existing, List.mem_append, List.mem_flatMap, List.mem_cons, List.not_mem_nil,
    or_false, exists_eq_or_imp, exists_eq_left, Condition.columns] at hcolumn
  rcases hcolumn with ⟨join, hjoin, rfl | rfl⟩ | rfl | (rfl | rfl) | hcolumn
  · refine Or.inl (List.mem_cons_of_mem _ ?_)
    rw [(hjoins join hjoin).2.1, ← (hjoins join hjoin).1]
    exact List.mem_map_of_mem hjoin
  · rw [(hjoins join hjoin).2.2]
    exact Or.inl List.mem_cons_self
  · exact Or.inl List.mem_cons_self
  · exact Or.inl List.mem_cons_self
  · exact Or.inr howner
  · obtain rfl := eq_of_mem_columns_testCondition column hcolumn
    exact Or.inl htested

/-- Iterations are counted beside a revision. -/
lemma wellScoped_lastIteration (s : Draft) :
    ((lastIteration config).run s).1.WellScoped .revision := by
  rw [run_lastIteration]
  refine ⟨by simp [Condition.columns, statementTables], ?_⟩
  rw [Condition.subselections, Select.subselections, Condition.subselections]
  unfold Select.SpeaksOf
  simp [Select.columns, Condition.columns, Projection.columns, Select.names, idOf, rowTables]

/-- The column of a field is one of a table that statements about revisions begin with. -/
lemma table_mem_of_column? {field : Field} (h : column? field = some column) :
    column.table ∈ statementTables .revision := by
  cases field with
  | master f => cases f <;> cases h <;> decide
  | revision f => cases f <;> cases h <;> decide
  | author f => cases f <;> cases h <;> decide
  | dynamic owner kind name => cases h

/-- A comparison of a field that is held in a column is one of revisions. -/
lemma eq_revision_of_column? {field : Field} {test : ValueTest}
    (h : WellTyped family field test) (hcolumn : column? field = some column) :
    family = .revision := by
  rw [← h.family_eq]
  cases field with
  | dynamic owner kind name => cases hcolumn
  | _ => rfl

/-- The condition of a comparison that is well typed is well scoped. -/
lemma wellScoped_draftComparison {field : Field} {test : ValueTest}
    (h : WellTyped family field test) (s : Draft) :
    ((draftComparison config field test).run s).1.WellScoped family := by
  by_cases htest : test.IsOfValues
  · rcases dynamic_or_exists_column (h.fits.isValue htest) with
      ⟨owner, kind, name, rfl⟩ | ⟨column, hcolumn⟩
    · obtain rfl : owner = family := by
        rw [← h.family_eq]
        cases owner <;> rfl
      rw [draftComparison_dynamic htest]
      exact wellScoped_attributeSelect owner kind name test s
    · obtain rfl := eq_revision_of_column? h hcolumn
      have htested : (testCondition column test).WellScoped .revision := by
        refine wellScoped_of_subselections_eq_nil (subselections_testCondition column test) ?_
        intro mentioned hmentioned
        rw [eq_of_mem_columns_testCondition mentioned hmentioned]
        exact table_mem_of_column? hcolumn
      rw [draftComparison_of_column htest hcolumn]
      split
      · have hboth : ∀ c ∈ [((lastIteration config).run s).1, testCondition column test],
            c.WellScoped .revision := by
          simpa using ⟨wellScoped_lastIteration s, htested⟩
        exact (wellScoped_join hboth).1
      · exact htested
  · cases test with
    | always => exact wellScoped_constant true
    | tagsAny labels =>
      obtain rfl := h.isOfLabels_iff.1 trivial
      obtain rfl := h.family_eq
      exact wellScoped_tagSelect labels false s
    | tagsNone labels =>
      obtain rfl := h.isOfLabels_iff.1 trivial
      obtain rfl := h.family_eq
      exact wellScoped_tagSelect labels true s
    | _ => exact absurd trivial htest

/-- The condition of a predicate is well scoped if its comparisons are well typed. -/
theorem wellScoped_draft (config : Config) {p : Predicate} (h : p.Everywhere (WellTyped family))
    (s : Draft) : ((draft config p).run s).1.WellScoped family := by
  induction h generalizing s with
  | always =>
    rw [draft]
    exact wellScoped_constant true
  | @all children _ ih =>
    rw [draft]
    refine (wellScoped_join ?_).1
    intro c hc
    obtain ⟨child, hchild, s', rfl⟩ := exists_left_of_mem_right (forall₂_draftAll children s) hc
    exact ih child hchild s'
  | @any children hchildren ih =>
    by_cases hlistable : ∃ column values, Listable config children column values
    · obtain ⟨column, values, hlistable⟩ := hlistable
      rw [draft_any_of_listable hlistable]
      refine wellScoped_of_subselections_eq_nil (by rw [Condition.subselections]) ?_
      obtain ⟨henough, field, hcolumn, -, rfl⟩ := hlistable
      -- There are at least two alternatives, and the first of them tells the family.
      obtain ⟨v, rest, rfl⟩ : ∃ v rest, values = v :: rest := by
        cases values with
        | nil => exact absurd (le_of_max_le_right henough) (Nat.not_succ_le_zero 1)
        | cons v rest => exact ⟨v, rest, rfl⟩
      cases hchildren (.compare field (.equal v)) List.mem_cons_self with
      | compare htyped =>
        obtain rfl := eq_revision_of_column? htyped hcolumn
        simpa [Condition.columns] using table_mem_of_column? hcolumn
    · rw [draft_any_of_not_listable hlistable]
      refine (wellScoped_join ?_).2
      intro c hc
      obtain ⟨child, hchild, s', rfl⟩ := exists_left_of_mem_right (forall₂_draftAll children s) hc
      exact ih child hchild s'
  | compare h =>
    rw [draft]
    exact wellScoped_draftComparison h s

/-! ## No capture -/

/-- Neither of two selections speaks of the tables that the other brings in. -/
def Select.Apart (a b : Select) : Prop :=
  (∀ column ∈ a.columns, column.table ∉ b.names) ∧ ∀ column ∈ b.columns, column.table ∉ a.names

/-- Where no name is given twice, selections that speak of their own tables and of those around them
are apart. -/
lemma pairwise_apart {selects : List Select} {outer : List Alias}
    (hfresh : (namesIn selects).Nodup) (houter : ∀ name ∈ outer, name ∉ namesIn selects)
    (hinside : ∀ select ∈ selects, select.SpeaksOf outer) : selects.Pairwise Select.Apart := by
  induction selects with
  | nil => exact .nil
  | cons first rest ih =>
    rw [namesIn, List.flatMap_cons, List.nodup_append] at hfresh
    obtain ⟨-, hrest, hdisjoint⟩ := hfresh
    have hnames : namesIn (first :: rest) = first.names ++ namesIn rest := List.flatMap_cons
    simp only [hnames, List.mem_append, not_or] at houter
    rw [List.forall_mem_cons] at hinside
    refine .cons ?_ (ih hrest (fun name hname => (houter name hname).2) hinside.2)
    intro other hother
    have hother' : ∀ name ∈ other.names, name ∈ namesIn rest :=
      fun name hname => List.mem_flatMap.2 ⟨other, hother, hname⟩
    constructor
    · intro column hcolumn hname
      rcases hinside.1 column hcolumn with hown | houtside
      · exact hdisjoint _ hown _ (hother' _ hname) rfl
      · exact (houter _ houtside).2 (hother' _ hname)
    · intro column hcolumn hname
      rcases hinside.2 other hother column hcolumn with hown | houtside
      · exact hdisjoint _ hname _ (hother' _ hown) rfl
      · exact (houter _ houtside).1 hname

/-- In a selection no name is given twice, and what is spoken of is what the name stands for.
Outside of sub-selections the selection speaks of its own tables only, a sub-selection speaks of its
own tables and of some of those, and none is spoken of from outside. -/
structure Select.NoCapture (select : Select) (outer : List Alias) : Prop where
  fresh : (select.names ++ namesIn select.subselections).Nodup
  own : ∀ column ∈ select.columns, column.table ∈ select.names
  inside : ∀ sub ∈ select.subselections, sub.SpeaksOf outer
  outside : ∀ sub ∈ select.subselections, ∀ column ∈ select.columns, column.table ∉ sub.names
  apart : select.subselections.Pairwise Select.Apart

/-- If no name is given twice, it is enough that everything spoken of is in sight. -/
lemma Select.noCapture_of_speaksOf {select : Select} {outer : List Alias}
    (hfresh : (select.names ++ namesIn select.subselections).Nodup)
    (houter : ∀ name ∈ outer, name ∈ select.names)
    (hown : ∀ column ∈ select.columns, column.table ∈ select.names)
    (hinside : ∀ sub ∈ select.subselections, sub.SpeaksOf outer) : select.NoCapture outer := by
  obtain ⟨-, hsubs, hdisjoint⟩ := List.nodup_append.1 hfresh
  refine ⟨hfresh, hown, hinside, ?_, pairwise_apart hsubs ?_ hinside⟩
  · intro sub hsub column hcolumn hname
    exact hdisjoint _ (hown column hcolumn) _ (List.mem_flatMap.2 ⟨sub, hsub, hname⟩) rfl
  · intro name hname hsub
    exact hdisjoint _ (houter name hname) _ hsub rfl

/-- The first names of sub-selections. -/
def subNames (count : Nat) : List Alias :=
  (List.range' 1 count).map Alias.sub

/-- They are distinct. -/
lemma nodup_subNames (count : Nat) : (subNames count).Nodup :=
  List.Nodup.map (fun _ _ h => Alias.sub.inj h) List.nodup_range'

/-- They differ from names that are no numbers. -/
lemma nodup_append_subNames {front back : List Alias} (h : (front ++ back).Nodup)
    (hsub : ∀ n, Alias.sub n ∉ front ++ back) (count : Nat) :
    (front ++ (subNames count ++ back)).Nodup := by
  have hperm : (front ++ (subNames count ++ back)).Perm (subNames count ++ (front ++ back)) := by
    simpa only [List.append_assoc] using (List.perm_append_comm).append_right back
  rw [hperm.nodup_iff, List.nodup_append]
  refine ⟨nodup_subNames count, h, ?_⟩
  rintro name hname other hother rfl
  obtain ⟨n, -, rfl⟩ := List.mem_map.1 hname
  exact hsub n hother

/-- The check-in is looked for beside a revision, in a table of its own. -/
lemma subselections_checkedIn (config : Config) :
    ∃ select, (checkedIn config).subselections = [select] ∧ select.names = [.checkedIn] ∧
      select.SpeaksOf (rowTables .revision) := by
  refine ⟨existing ⟨config.table "PartIteration", .checkedIn⟩ []
    [.sameColumn ⟨.checkedIn, "part_revision_id"⟩ (idOf .revision),
      .notNull ⟨.checkedIn, "check_in_date"⟩], ?_, rfl, ?_⟩
  · unfold checkedIn
    rw [Condition.subselections, subselections_existing]
    simp [Condition.subselections]
  · unfold Select.SpeaksOf
    rw [columns_existing, names_existing]
    simp [Condition.columns, idOf, rowTables]

/-- A statement about revisions asks for a workspace, for what the predicate asks and for a
check-in. -/
lemma select_revisionStatement (p : Predicate) (workspace : String)
    (selects orderBy : List Column) :
    (revisionStatement config p workspace selects orderBy).select =
      .mk (.distinct (keyColumns ++ selects ++ orderBy))
        ⟨config.table "PartRevision", .revision⟩ (revisionJoins config)
        (.conjunction [.compare ⟨.revision, "workspace_id"⟩ .equal (.text workspace),
          ((draft config p).run {}).1, checkedIn config]) orderBy := rfl

/-- Outside of its sub-selections a statement about revisions speaks of the tables that it begins
with. -/
lemma table_mem_of_revisionStatement {p : Predicate} {workspace : String}
    {selects orderBy : List Column}
    (hselects : ∀ column ∈ selects, column.table ∈ statementTables .revision)
    (horderBy : ∀ column ∈ orderBy, column.table ∈ statementTables .revision)
    (hcolumns : ∀ column ∈ ((draft config p).run {}).1.columns,
      column.table ∈ statementTables .revision) :
    ∀ column ∈ (revisionStatement config p workspace selects orderBy).select.columns,
      column.table ∈ statementTables .revision := by
  intro column hcolumn
  rw [select_revisionStatement, Select.columns, (columns_join _).1] at hcolumn
  simp only [Projection.columns, List.mem_append, List.flatMap_cons, List.flatMap_nil,
    List.not_mem_nil, or_false] at hcolumn
  rcases hcolumn with
    ((((hkey | hselected) | hordered) | hjoin) | (hworkspace | hcondition | hchecked)) | hordered
  · simp only [keyColumns, List.mem_cons, List.not_mem_nil, or_false] at hkey
    rcases hkey with rfl | rfl | rfl <;> decide
  · exact hselects column hselected
  · exact horderBy column hordered
  · simp only [revisionJoins, idOf, List.mem_flatMap, List.mem_cons, List.not_mem_nil, or_false,
      exists_eq_or_imp, exists_eq_left] at hjoin
    rcases hjoin with (rfl | rfl) | (rfl | rfl) | (rfl | rfl) <;> decide
  · rw [Condition.columns, List.mem_singleton] at hworkspace
    subst hworkspace
    decide
  · exact hcolumns column hcondition
  · cases hchecked
  · exact horderBy column hordered

/-- A statement about revisions captures nothing. -/
lemma noCapture_revisionStatement {p : Predicate} (h : p.Everywhere (WellTyped .revision))
    (workspace : String) {selects orderBy : List Column}
    (hselects : ∀ column ∈ selects, column.table ∈ statementTables .revision)
    (horderBy : ∀ column ∈ orderBy, column.table ∈ statementTables .revision) :
    (revisionStatement config p workspace selects orderBy).select.NoCapture
        (rowTables .revision) ∧
      namesIn (revisionStatement config p workspace selects orderBy).select.subselections =
        subNames (tableCountOf p.comparisons) ++ [.checkedIn] := by
  obtain ⟨hcolumns, hinside⟩ := wellScoped_draft config h {}
  obtain ⟨select, hchecked, hnames, hspeaks⟩ := subselections_checkedIn config
  have hsubselections :
      (revisionStatement config p workspace selects orderBy).select.subselections =
        ((draft config p).run {}).1.subselections ++ [select] := by
    rw [select_revisionStatement, Select.subselections, (subselections_join _).1, ← hchecked]
    simp [Condition.subselections]
  have hnumbered :
      namesIn (revisionStatement config p workspace selects orderBy).select.subselections =
        subNames (tableCountOf p.comparisons) ++ [.checkedIn] := by
    rw [hsubselections, namesIn, List.flatMap_append, List.flatMap_singleton, hnames, subNames,
      ← (numbers_draft config p {}).2]
    rfl
  have htables : (revisionStatement config p workspace selects orderBy).select.names =
      statementTables .revision := rfl
  refine ⟨Select.noCapture_of_speaksOf ?_ ?_ ?_ ?_, hnumbered⟩
  · rw [hnumbered, htables]
    exact nodup_append_subNames (by decide) (by simp [statementTables]) _
  · rw [htables]
    decide
  · exact table_mem_of_revisionStatement hselects horderBy hcolumns
  · rw [hsubselections, List.forall_mem_append]
    exact ⟨hinside, List.forall_mem_singleton.2 hspeaks⟩

/-- A statement about path data captures nothing. -/
lemma noCapture_pathStatement {p : Predicate} (h : p.Everywhere (WellTyped .pathData))
    (ids : List Int) :
    (pathStatement config p ids).select.NoCapture (rowTables .pathData) ∧
      namesIn (pathStatement config p ids).select.subselections =
        subNames (tableCountOf p.comparisons) := by
  obtain ⟨hcolumns, hinside⟩ := wellScoped_draft config h {}
  have hstatement : (pathStatement config p ids).select =
      .mk (.distinct [⟨.pathData, "path"⟩]) ⟨config.table "PathDataMaster", .pathData⟩
        [⟨⟨config.table "PathDataIteration", .pathIteration⟩,
          ⟨.pathIteration, "path_data_master_id"⟩, idOf .pathData⟩]
        (.conjunction [.oneOf (idOf .pathData) (ids.map .integer), ((draft config p).run {}).1])
        [⟨.pathData, "path"⟩] := rfl
  have hsubselections : (pathStatement config p ids).select.subselections =
      ((draft config p).run {}).1.subselections := by
    rw [hstatement, Select.subselections, (subselections_join _).1]
    simp [Condition.subselections]
  have hnumbered : namesIn (pathStatement config p ids).select.subselections =
      subNames (tableCountOf p.comparisons) := by
    rw [hsubselections, (numbers_draft config p {}).2]
    rfl
  have htables : (pathStatement config p ids).select.names = statementTables .pathData := rfl
  refine ⟨Select.noCapture_of_speaksOf ?_ ?_ ?_ ?_, hnumbered⟩
  · rw [hnumbered, htables, ← List.append_nil (subNames _)]
    exact nodup_append_subNames (by decide) (by simp [statementTables]) _
  · rw [htables]
    decide
  · intro column hcolumn
    rw [htables]
    rw [hstatement, Select.columns, (columns_join _).1] at hcolumn
    simp only [Projection.columns, List.mem_append, List.flatMap_cons, List.flatMap_nil,
      List.not_mem_nil, or_false, List.mem_cons, Condition.columns] at hcolumn
    rcases hcolumn with ((rfl | rfl | rfl) | (rfl | hcondition)) | rfl
    · decide
    · decide
    · decide
    · decide
    · exact hcolumns column hcondition
    · decide
  · rw [hsubselections]
    exact hinside

/-- The columns that are presented are those of tables that the statement begins with. -/
lemma table_mem_of_presentation {names : List String} {columns : List Column}
    (h : presentation names = .ok columns) :
    ∀ column ∈ columns, column.table ∈ statementTables .revision := by
  intro column hcolumn
  rw [eq_filterMap_of_presentation h] at hcolumn
  obtain ⟨name, -, hname⟩ := List.mem_filterMap.1 hcolumn
  obtain ⟨field, -, hfield⟩ := Option.bind_eq_some_iff.1 hname
  exact table_mem_of_column? hfield

/-! ## Fresh names -/

/-- Names are told apart by what stands in the text. -/
lemma injective_name : Function.Injective Alias.name := by
  intro a b h
  have hnumber : ∀ m n, (Alias.sub m).name = (Alias.sub n).name → m = n := by
    intro m n h
    have hdigits := congrArg String.toList h
    simp only [Alias.name, String.toList_append, String.toList_ofList,
      List.append_cancel_left_eq] at hdigits
    rw [← Nat.ofDigitChars_ten_toDigits (n := m), hdigits, Nat.ofDigitChars_ten_toDigits]
  have hhead : ∀ n, (Alias.sub n).name.toList.head? = some 's' := by
    intro n
    rw [Alias.name, String.toList_append]
    rfl
  cases a with
  | sub m =>
    cases b with
    | sub n => rw [hnumber m n h]
    | _ =>
      have hfirst := hhead m
      rw [h] at hfirst
      exact absurd hfirst (by decide)
  | _ =>
    cases b with
    | sub n =>
      have hfirst := hhead n
      rw [← h] at hfirst
      exact absurd hfirst (by decide)
    | _ => first | rfl | exact absurd h (by decide)

/-- The condition on entities of a family names so many tables of sub-selections, by the first
numbers and in the order of the text. Outside of its sub-selections it speaks of none of these, and
a sub-selection speaks of its own and of those of the row. -/
structure Condition.Fresh (family : Family) (count : Nat) (c : Condition) : Prop where
  numbered : namesIn c.subselections = subNames count
  wellScoped : c.WellScoped family
  outside : ∀ select ∈ c.subselections, ∀ column ∈ c.columns, column.table ∉ select.names
  apart : c.subselections.Pairwise Select.Apart

/-- The tables that statements begin with have no numbers. -/
lemma not_mem_subNames (family : Family) {name : Alias} (h : name ∈ statementTables family)
    (count : Nat) : name ∉ subNames count := by
  intro hname
  obtain ⟨n, -, rfl⟩ := List.mem_map.1 hname
  cases family <;> simp [statementTables] at h

/-- The condition of a predicate whose comparisons are well typed is fresh. -/
lemma fresh_draft {p : Predicate} (h : p.Everywhere (WellTyped family)) :
    ((draft config p).run {}).1.Fresh family (tableCountOf p.comparisons) := by
  have hscoped := wellScoped_draft config h {}
  have hnumbered : namesIn ((draft config p).run {}).1.subselections =
      subNames (tableCountOf p.comparisons) := (numbers_draft config p {}).2
  refine ⟨hnumbered, hscoped, ?_, pairwise_apart ?_ ?_ hscoped.inside⟩
  · intro select hselect column hcolumn hname
    refine not_mem_subNames _ (hscoped.outside column hcolumn) (tableCountOf p.comparisons) ?_
    rw [← hnumbered]
    exact List.mem_flatMap.2 ⟨select, hselect, hname⟩
  · rw [hnumbered]
    exact nodup_subNames _
  · intro name hname
    rw [hnumbered]
    refine not_mem_subNames family ?_ _
    revert name
    cases family <;> decide

/-- The predicate of a rule is well typed everywhere. -/
lemma everywhere_wellTyped {ctx : CompileContext} {rule : Rule} {p : Predicate}
    (h : rule.compile ctx = .ok p) : p.Everywhere (WellTyped ctx.family) :=
  (wellTyped_of_compile h).imp fun _ _ htyped => htyped.1

/-- Names differ in the text. In the condition of a compiled rule the tables of sub-selections are
named by the numbers from one on, each given once and in the order of the text, and there are as
many as the comparisons take: one for labels, for an attribute and for the last iteration, and a
second one for the attributes that refer to parts. Alternatives that one list of values replaces
take none, and neither does the list.

A sub-selection speaks of its own tables and of those of the row, which are the revision and its
iterations or the iteration of the path data; no one else speaks of its tables. So it is in the
statements, where beside these only the check-in is searched in a table with a name of its own. -/
theorem aliases_are_fresh (config : Config) :
    Function.Injective Alias.name ∧
    (∀ (ctx : CompileContext) (rule : Rule) (p : Predicate), rule.compile ctx = .ok p →
      ((draft config p).run {}).1.Fresh ctx.family (tableCountOf p.comparisons)) ∧
    (∀ children column values, Listable config children column values →
      tableCountOf (Predicate.any children).comparisons = 0 ∧
      ∀ s, ((draft config (.any children)).run s).1.subselections = [] ∧
        ((draft config (.any children)).run s).2.numbered = s.numbered) ∧
    (∀ (q : Query) workspace st, q.revisionStatement config workspace = .ok st →
      ∃ p, q.revisionPredicate config = .ok p ∧ st.select.NoCapture (rowTables .revision) ∧
        namesIn st.select.subselections =
          subNames (tableCountOf p.comparisons) ++ [.checkedIn]) ∧
    ∀ (q : Query) ids st, q.pathStatement config ids = .ok (some st) →
      ∃ p, q.pathPredicate config = .ok p ∧ st.select.NoCapture (rowTables .pathData) ∧
        namesIn st.select.subselections = subNames (tableCountOf p.comparisons) := by
  refine ⟨injective_name, ?_, ?_, ?_, ?_⟩
  · intro ctx rule p h
    exact fresh_draft (everywhere_wellTyped h)
  · intro children column values h
    rw [Predicate.comparisons, Predicate.comparisonsOfAll_eq_flatMap]
    refine ⟨h.tableCountOf_eq_zero, fun s => ?_⟩
    rw [draft_any_of_listable h, Condition.subselections]
    exact ⟨rfl, rfl⟩
  · intro q workspace st h
    obtain ⟨p, hp, h⟩ := bind_eq_ok_iff.1 h
    obtain ⟨selects, hselects, h⟩ := bind_eq_ok_iff.1 h
    obtain ⟨orderBy, horderBy, h⟩ := bind_eq_ok_iff.1 h
    obtain rfl := Except.ok.inj h
    obtain ⟨rule, -, hcompile⟩ := bind_eq_ok_iff.1 hp
    exact ⟨p, hp, noCapture_revisionStatement (everywhere_wellTyped hcompile) workspace
      (table_mem_of_presentation hselects) (table_mem_of_presentation horderBy)⟩
  · intro q ids st h
    unfold Query.pathStatement at h
    split at h
    · cases h
    · obtain ⟨p, hp, h⟩ := bind_eq_ok_iff.1 h
      obtain rfl := Option.some.inj (Except.ok.inj h)
      obtain ⟨rule, -, hcompile⟩ := bind_eq_ok_iff.1 hp
      exact ⟨p, hp, noCapture_pathStatement (everywhere_wellTyped hcompile) ids⟩

/-- A rule with labels, with an attribute that refers to a part, with a date of the last iteration
and with an attribute beside, in groups inside groups. -/
def nestedRule : Rule :=
  .group .and [
    .group .or [.leaf ⟨"pr.tags", .equal, ["urgent"], .string⟩,
      .leaf ⟨"attr-PART_NUMBER.screw", .equal, ["P-1"], .string⟩],
    .group .or [.leaf ⟨"pm.number", .equal, ["bell"], .string⟩,
      .group .and [.leaf ⟨"pr.checkInDate", .less, ["2024-01-01"], .date⟩,
        .leaf ⟨"attr-TEXT.colour", .equal, ["red"], .string⟩]]]

/-- It takes five tables, two of them for the attribute that refers to a part. -/
theorem nestedRule_fresh :
    ∃ p, nestedRule.compile ⟨.revision, Offset.zero⟩ = .ok p ∧
      namesIn ((draft {} p).run {}).1.subselections =
        [.sub 1, .sub 2, .sub 3, .sub 4, .sub 5] ∧
      ∀ select ∈ ((draft {} p).run {}).1.subselections,
        select.SpeaksOf [.revision, .iteration] := by
  obtain ⟨-, hfresh, -⟩ := aliases_are_fresh {}
  have hcompiles : (nestedRule.compile ⟨.revision, Offset.zero⟩).map
      (tableCountOf ·.comparisons) = .ok 5 := by
    decide +kernel
  cases hp : nestedRule.compile ⟨.revision, Offset.zero⟩ with
  | error e =>
    rw [hp] at hcompiles
    cases hcompiles
  | ok p =>
    rw [hp] at hcompiles
    have hcount : tableCountOf p.comparisons = 5 := Except.ok.inj hcompiles
    have hcondition := hfresh _ _ p hp
    rw [hcount] at hcondition
    exact ⟨p, rfl, hcondition.numbered, hcondition.wellScoped.inside⟩

end Sql
end PartQuery
