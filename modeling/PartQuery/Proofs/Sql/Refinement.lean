import PartQuery.Proofs.Search
import PartQuery.Proofs.Sql.Presentation
import PartQuery.Proofs.Sql.Subselections

/-!
# Statements and searches

The statement of a query answers what a search for it answers, over any database that stores the
dataset. The tables of a statement stand at the rows of one revision and one of its iterations, or
of path data and one of its iterations; there the condition drafted for a predicate is true exactly
when the predicate holds. What the search then asks besides, the workspace and a check-in or the
attached identities, is asked in the statement too.
-/

namespace PartQuery.Sql

variable {d : Dataset} {layout : Layout d} {config : Config} {db : Database} {b : Binding}

/-! ## Rows of revisions -/

/-- The tables of a statement stand at the rows of an iteration and its revision. -/
structure Binding.ShowsIteration (b : Binding) (layout : Layout d) (r : RevisionRecord)
    (i : Recorded Iteration) : Prop where
  mem : (r, i) ∈ layout.iterations
  revision : (b .revision).Has r.cells
  master : (b .master).Has (masterCells ⟨r.masterId, r.revision.master⟩)
  author : (b .author).Has (authorCells ⟨r.authorId, r.revision.author⟩)
  iteration : (b .iteration).Has (iterationCells (r, i))

/-- Dates are stored as they are. -/
lemma literal_comp_date : literal ∘ Scalar.date = Literal.date := rfl

/-- The column of a field holds the value that the field has in the row. -/
lemma Binding.ShowsIteration.value_column {r : RevisionRecord} {i : Recorded Iteration}
    (h : b.ShowsIteration layout r i) {field : Field} {column : Column}
    (hcolumn : column? field = some column) :
    b.value column = ((i.entity.row r.revision).value? field).map literal := by
  cases field with
  | master f =>
    cases f <;> cases hcolumn <;> refine h.master.cell ?_ <;>
      simp [masterCells, Iteration.row, literal, literal_comp_date]
  | revision f =>
    cases f <;> cases hcolumn
    case revision.checkInDate.refl | revision.modificationDate.refl =>
      refine h.iteration.cell ?_
      simp [iterationCells, Iteration.row, literal_comp_date]
    all_goals
      refine h.revision.cell ?_
      simp [RevisionRecord.cells, Iteration.row, literal, literal_comp_date]
  | author f =>
    cases f <;> cases hcolumn <;> refine h.author.cell ?_ <;>
      simp [authorCells, Iteration.row, literal]
  | dynamic owner kind name => cases hcolumn

/-- A date that is set is of the kind of dates. -/
lemma kind_of_mem_map_date {t : Option Instant} : ∀ v ∈ t.map Scalar.date, v.kind = .date := by
  intro v hv
  obtain ⟨t, -, rfl⟩ := Option.map_eq_some_iff.1 hv
  rfl

/-- The value of a field in a row is of the kind that the field holds. -/
lemma kind_of_value?_row {r : Revision} {i : Iteration} {field : Field} :
    ∀ v ∈ (i.row r).value? field, v.kind = field.valueKind := by
  intro v hv
  cases field with
  | master f => cases f <;> first | exact kind_of_mem_map_date v hv | cases hv; rfl
  | revision f => cases f <;> first | exact kind_of_mem_map_date v hv | cases hv; rfl | cases hv
  | author f => cases f <;> cases hv <;> rfl
  | dynamic owner kind name => cases hv

/-- A field that holds values and belongs to revisions is an attribute or held in a column. -/
lemma exists_column_or_dynamic {field : Field} (hfamily : field.family = .revision)
    (hvalue : field.valueKind ≠ .unchecked ∧ field.valueKind ≠ .tags) :
    (∃ kind name, field = .dynamic .revision kind name) ∨
      ∃ column, column? field = some column := by
  cases field with
  | master f => cases f <;> exact Or.inr ⟨_, rfl⟩
  | revision f =>
    cases f with
    | linkedDocuments => exact absurd rfl hvalue.1
    | tags => exact absurd rfl hvalue.2
    | _ => exact Or.inr ⟨_, rfl⟩
  | author f => cases f <;> exact Or.inr ⟨_, rfl⟩
  | dynamic owner kind name =>
    cases owner with
    | revision => exact Or.inl ⟨kind, name, rfl⟩
    | pathData => cases hfamily

/-- The condition of a column is true at the rows of an iteration and its revision exactly when the
field has a value that passes, in the last iteration if it is read from there. -/
lemma eval_draftComparison_column (hstored : layout.StoredIn config db) {r : RevisionRecord}
    {i : Recorded Iteration} (h : b.ShowsIteration layout r i) {field : Field} {column : Column}
    (hcolumn : column? field = some column) {operator : Operator} {operands : List Scalar}
    {test : ValueTest} (hmakes : operator.Makes operands test)
    (hkinds : ∀ w ∈ operands, w.kind = field.valueKind) (s : Draft) :
    ((draftComparison config field test).run s).1.eval db b = some true ↔
      Predicate.compares (i.entity.row r.revision) field test = true := by
  obtain ⟨hr, -⟩ := Layout.mem_iterations.1 h.mem
  have hrevision : b .revision "id" = some (.integer r.id) :=
    h.revision.cell (by simp [RevisionRecord.cells])
  have hnumber : b .iteration "iteration" = some (.integer i.entity.number) :=
    h.iteration.cell (by simp [iterationCells])
  have hlength : r.revision.iterations.length = r.iterations.length := by
    rw [← layout.iterations_eq r hr, List.length_map]
  have hfield : ∀ owner kind name, field ≠ .dynamic owner kind name := by
    rintro owner kind name rfl
    cases hcolumn
  have htest : (testCondition column test).eval db b = some true ↔
      ((i.entity.row r.revision).value? field).any test.passes = true :=
    eval_testCondition hmakes hkinds kind_of_value?_row (h.value_column hcolumn)
  rw [draftComparison_of_column hmakes.isOfValues hcolumn,
    Predicate.compares_of_not_dynamic hmakes.isOfValues hfield, Bool.and_eq_true]
  cases hlast : field.isLastIterationOnly with
  | false =>
    refine htest.trans ?_
    simp
  | true =>
    change (Condition.and ((lastIteration config).run s).1 (testCondition column test)).eval db b =
      some true ↔ _
    rw [Condition.eval, Truth.and_eq_true, eval_lastIteration hstored hr hrevision hnumber, htest,
      ← hlength]
    simp [Iteration.row, Revision.isLast]

/-- The condition of a comparison is true at the rows of an iteration and its revision exactly when
the comparison holds of them. -/
lemma eval_draftComparison_revision (hstored : layout.StoredIn config db) {r : RevisionRecord}
    {i : Recorded Iteration} (h : b.ShowsIteration layout r i) {c : Comparison}
    {timezone : Offset} {field : Field} {test : ValueTest} (hfamily : field.family = .revision)
    (htest : c.Tested timezone field.valueKind test) (s : Draft) :
    ((draftComparison config field test).run s).1.eval db b = some true ↔
      Predicate.compares (i.entity.row r.revision) field test = true := by
  obtain ⟨hr, -⟩ := Layout.mem_iterations.1 h.mem
  have hrevision : b .revision "id" = some (.integer r.id) :=
    h.revision.cell (by simp [RevisionRecord.cells])
  generalize hkind : field.valueKind = kind at htest
  cases htest with
  | unchecked =>
    change (Condition.constant true).eval db b = some true ↔ _
    simp [Condition.eval, Predicate.compares]
  | tagsAny =>
    refine (eval_tagSelect hstored hr hrevision s).trans ?_
    simp [Predicate.compares, Iteration.row]
  | tagsNone =>
    refine (eval_tagSelect hstored hr hrevision s).trans ?_
    simp [Predicate.compares, Iteration.row]
  | @value kind operands test hread hkinds hmakes =>
    subst hkind
    rcases exists_column_or_dynamic hfamily (hmakes.isValue hkinds) with
      ⟨kind, name, rfl⟩ | ⟨column, hcolumn⟩
    · have hid : b .iteration "id" = some (.integer i.id) :=
        h.iteration.cell (by simp [iterationCells])
      have howner : b.value (idOf (attributeOwner .revision).2) = some (.integer i.id) := hid
      rw [draftComparison_dynamic hmakes.isOfValues, Predicate.compares_dynamic hmakes.isOfValues]
      exact eval_attributeSelect hstored howner
        (fun a => Layout.mem_attributes_revision h.mem) hmakes hkinds s
    · exact eval_draftComparison_column hstored h hcolumn hmakes hkinds s

/-! ## Rows of path data -/

/-- The tables of a statement stand at the rows of an iteration and its path data. -/
structure Binding.ShowsPathIteration (b : Binding) (layout : Layout d) (p : PathRecord)
    (i : Recorded PathIteration) : Prop where
  mem : (p, i) ∈ layout.pathIterations
  pathData : (b .pathData).Has p.cells
  iteration : (b .pathIteration).Has (pathIterationCells (p, i))

/-- The condition of a comparison is true at the rows of an iteration and its path data exactly when
the comparison holds of them. -/
lemma eval_draftComparison_pathData (hstored : layout.StoredIn config db) {p : PathRecord}
    {i : Recorded PathIteration} (h : b.ShowsPathIteration layout p i) {c : Comparison}
    {timezone : Offset} {field : Field} {test : ValueTest} (hfamily : field.family = .pathData)
    (htest : c.Tested timezone field.valueKind test) (s : Draft) :
    ((draftComparison config field test).run s).1.eval db b = some true ↔
      Predicate.compares (i.entity.row p.pathData) field test = true := by
  obtain ⟨kind, name, rfl⟩ : ∃ kind name, field = .dynamic .pathData kind name := by
    cases field with
    | dynamic owner kind name =>
      cases owner with
      | revision => cases hfamily
      | pathData => exact ⟨kind, name, rfl⟩
    | _ => cases hfamily
  have hid : b .pathIteration "id" = some (.integer i.id) :=
    h.iteration.cell (by simp [pathIterationCells])
  have howner : b.value (idOf (attributeOwner .pathData).2) = some (.integer i.id) := hid
  generalize hkind : (Field.dynamic .pathData kind name).valueKind = held at htest
  cases htest with
  | @value _ operands test hread hkinds hmakes =>
    subst hkind
    rw [draftComparison_dynamic hmakes.isOfValues, Predicate.compares_dynamic hmakes.isOfValues]
    exact eval_attributeSelect hstored howner
      (fun a => Layout.mem_attributes_pathData h.mem) hmakes hkinds s
  | _ => cases kind <;> cases hkind

/-! ## Joined rows -/

/-- The tables of a statement about revisions at these rows. -/
def revisionBinding (revision master author iteration : Tuple) : Binding :=
  (((Binding.empty.bind .revision revision).bind .master master).bind .author author).bind
    .iteration iteration

/-- The joined rows of the tables of revisions are those that agree in the identities. -/
lemma mem_foldl_revisionJoins :
    b ∈ (revisionJoins config).foldl (Join.extend db)
        (Binding.empty.scan db ⟨config.table "PartRevision", .revision⟩) ↔
      ∃ t ∈ db (config.table "PartRevision"), ∃ m ∈ db (config.table "PartMaster"),
        ∃ a ∈ db (config.table "Account"), ∃ i ∈ db (config.table "PartIteration"),
        revisionBinding t m a i = b ∧
        related (m "id") .equal (t "part_master_id") = some true ∧
        related (a "id") .equal (t "author_id") = some true ∧
        related (i "part_revision_id") .equal (t "id") = some true := by
  simp only [revisionJoins, List.foldl_cons, List.foldl_nil, mem_extend, mem_scan]
  constructor
  · rintro ⟨_, ⟨_, ⟨_, ⟨t, ht, rfl⟩, m, hm, rfl, hmaster⟩, a, ha, rfl, hauthor⟩,
      i, hi, rfl, hrevision⟩
    exact ⟨t, ht, m, hm, a, ha, i, hi, rfl, hmaster, hauthor, hrevision⟩
  · rintro ⟨t, ht, m, hm, a, ha, i, hi, rfl, hmaster, hauthor, hrevision⟩
    exact ⟨_, ⟨_, ⟨_, ⟨t, ht, rfl⟩, m, hm, rfl, hmaster⟩, a, ha, rfl, hauthor⟩,
      i, hi, rfl, hrevision⟩

/-- Rows agree in the identities when their records do. -/
lemma agree_iff {t m a u : Tuple} {r r' : RevisionRecord} {master : Recorded Master}
    {author : Recorded Author} {i : Recorded Iteration} (ht : t.Has r.cells)
    (hm : m.Has (masterCells master)) (ha : a.Has (authorCells author))
    (hu : u.Has (iterationCells (r', i))) :
    (related (m "id") .equal (t "part_master_id") = some true ∧
        related (a "id") .equal (t "author_id") = some true ∧
        related (u "part_revision_id") .equal (t "id") = some true) ↔
      master.id = r.masterId ∧ author.id = r.authorId ∧ r'.id = r.id := by
  have hid : t "id" = some (.integer r.id) := ht.cell (by simp [RevisionRecord.cells])
  have hmasterId : t "part_master_id" = some (.integer r.masterId) :=
    ht.cell (by simp [RevisionRecord.cells])
  have hauthorId : t "author_id" = some (.integer r.authorId) :=
    ht.cell (by simp [RevisionRecord.cells])
  have hmaster : m "id" = some (.integer master.id) := hm.cell (by simp [masterCells])
  have hauthor : a "id" = some (.integer author.id) := ha.cell (by simp [authorCells])
  have hrevision : u "part_revision_id" = some (.integer r'.id) :=
    hu.cell (by simp [iterationCells])
  simp only [hid, hmasterId, hauthorId, hmaster, hauthor, hrevision, related_some_some,
    holds_equal_integer]

/-- The joined rows of the tables of revisions show an iteration each. -/
lemma exists_showsIteration (hstored : layout.StoredIn config db)
    (hb : b ∈ (revisionJoins config).foldl (Join.extend db)
      (Binding.empty.scan db ⟨config.table "PartRevision", .revision⟩)) :
    ∃ r i, b.ShowsIteration layout r i := by
  obtain ⟨t, ht, m, hm, a, ha, u, hu, rfl, hagree⟩ := mem_foldl_revisionJoins.1 hb
  obtain ⟨r, hr, hthas⟩ := (hstored .revision).exists_record ht
  obtain ⟨master, hmaster, hmhas⟩ := (hstored .master).exists_record hm
  obtain ⟨author, hauthor, hahas⟩ := (hstored .author).exists_record ha
  obtain ⟨⟨r', i⟩, hi, huhas⟩ := (hstored .iteration).exists_record hu
  obtain ⟨hmasterId, hauthorId, hid⟩ := (agree_iff hthas hmhas hahas huhas).1 hagree
  have hsameMaster : master = ⟨r.masterId, r.revision.master⟩ :=
    List.inj_on_of_nodup_map layout.masters_distinct hmaster (layout.master_mem r hr) hmasterId
  have hsameAuthor : author = ⟨r.authorId, r.revision.author⟩ :=
    List.inj_on_of_nodup_map layout.authors_distinct hauthor (layout.author_mem r hr) hauthorId
  have hsame : r' = r := List.inj_on_of_nodup_map layout.revisions_distinct
    (Layout.mem_iterations.1 hi).1 hr hid
  subst hsame
  exact ⟨r', i, hi, hthas, hsameMaster ▸ hmhas, hsameAuthor ▸ hahas, huhas⟩

/-- Every iteration is shown by joined rows of the tables of revisions. -/
lemma exists_mem_of_iteration (hstored : layout.StoredIn config db) {r : RevisionRecord}
    {i : Recorded Iteration} (hi : (r, i) ∈ layout.iterations) :
    ∃ b ∈ (revisionJoins config).foldl (Join.extend db)
      (Binding.empty.scan db ⟨config.table "PartRevision", .revision⟩),
      b.ShowsIteration layout r i := by
  obtain ⟨hr, -⟩ := Layout.mem_iterations.1 hi
  obtain ⟨t, ht, hthas⟩ := (hstored .revision).exists_row_of_record hr
  obtain ⟨m, hm, hmhas⟩ := (hstored .master).exists_row_of_record (layout.master_mem r hr)
  obtain ⟨a, ha, hahas⟩ := (hstored .author).exists_row_of_record (layout.author_mem r hr)
  obtain ⟨u, hu, huhas⟩ := (hstored .iteration).exists_row_of_record hi
  have hagree := (agree_iff hthas hmhas hahas huhas).2 ⟨rfl, rfl, rfl⟩
  refine ⟨revisionBinding t m a u, ?_, hi, hthas, hmhas, hahas, huhas⟩
  exact mem_foldl_revisionJoins.2 ⟨t, ht, m, hm, a, ha, u, hu, rfl, hagree⟩

/-- The joined rows of the tables of path data. -/
def pathJoin (config : Config) : Join :=
  ⟨⟨config.table "PathDataIteration", .pathIteration⟩, ⟨.pathIteration, "path_data_master_id"⟩,
    idOf .pathData⟩

/-- Rows of path data and of an iteration agree when the iteration belongs to the path data. -/
lemma related_path_iff {t u : Tuple} {p p' : PathRecord} {i : Recorded PathIteration}
    (ht : t.Has p.cells) (hu : u.Has (pathIterationCells (p', i))) :
    related (u "path_data_master_id") .equal (t "id") = some true ↔
      p'.pathData.id = p.pathData.id := by
  have hid : t "id" = some (.integer p.pathData.id) := ht.cell (by simp [PathRecord.cells])
  have hmaster : u "path_data_master_id" = some (.integer p'.pathData.id) :=
    hu.cell (by simp [pathIterationCells])
  rw [hid, hmaster, related_some_some, holds_equal_integer]

/-- The joined rows of the tables of path data show an iteration each. -/
lemma exists_showsPathIteration (hstored : layout.StoredIn config db)
    (hb : b ∈ (pathJoin config).extend db
      (Binding.empty.scan db ⟨config.table "PathDataMaster", .pathData⟩)) :
    ∃ p i, b.ShowsPathIteration layout p i := by
  obtain ⟨_, hscan, u, hu, rfl, hrelated⟩ := mem_extend.1 hb
  obtain ⟨t, ht, rfl⟩ := mem_scan.1 hscan
  obtain ⟨p, hp, hthas⟩ := (hstored .pathData).exists_record ht
  obtain ⟨⟨p', i⟩, hi, huhas⟩ := (hstored .pathIteration).exists_record hu
  have hsame : p' = p := List.inj_on_of_nodup_map layout.paths_distinct
    (Layout.mem_pathIterations.1 hi).1 hp ((related_path_iff hthas huhas).1 hrelated)
  subst hsame
  exact ⟨p', i, hi, hthas, huhas⟩

/-- Every iteration is shown by joined rows of the tables of path data. -/
lemma exists_mem_of_pathIteration (hstored : layout.StoredIn config db) {p : PathRecord}
    {i : Recorded PathIteration} (hi : (p, i) ∈ layout.pathIterations) :
    ∃ b ∈ (pathJoin config).extend db
        (Binding.empty.scan db ⟨config.table "PathDataMaster", .pathData⟩),
      b.ShowsPathIteration layout p i := by
  obtain ⟨hp, -⟩ := Layout.mem_pathIterations.1 hi
  obtain ⟨t, ht, hthas⟩ := (hstored .pathData).exists_row_of_record hp
  obtain ⟨u, hu, huhas⟩ := (hstored .pathIteration).exists_row_of_record hi
  have hrelated := (related_path_iff hthas huhas).2 rfl
  refine ⟨_, mem_extend.2 ⟨_, mem_scan.2 ⟨t, ht, rfl⟩, u, hu, rfl, hrelated⟩, hi, hthas, huhas⟩

/-! ## Revisions -/

/-- Some comparison of fields of a family makes this test. -/
def IsTest (config : Config) (family : Family) (field : Field) (test : ValueTest) : Prop :=
  field.family = family ∧ ∃ c : Comparison, c.Tested config.timezone field.valueKind test

/-- Everywhere in the predicate of a rule, tests are made by comparisons. -/
lemma everywhere_isTest {rule : Except QueryError Rule} {family : Family} {p : Predicate}
    (hp : (rule >>= fun rule => rule.compile (config.context family)) = .ok p) :
    p.Everywhere (IsTest config family) := by
  cases rule with
  | error e => cases hp
  | ok rule =>
    exact Rule.everywhere_of_compile (fun c _ _ hfamily htest => ⟨hfamily, c, htest⟩) hp

/-- The rows of a revision count as checked in exactly when one of its iterations is. -/
lemma eval_checkedIn (hstored : layout.StoredIn config db) {r : RevisionRecord}
    (hr : r ∈ layout.revisions) (hrevision : b .revision "id" = some (.integer r.id)) :
    (checkedIn config).eval db b = some true ↔
      ∃ i ∈ r.revision.iterations, i.checkInDate.isSome = true := by
  have hrows : Rows (db (config.table "PartIteration"))
      (layout.iterations.map iterationCells) := hstored .iteration
  let conditions : List Condition := [.sameColumn ⟨.checkedIn, "part_revision_id"⟩ (idOf .revision),
    .notNull ⟨.checkedIn, "check_in_date"⟩]
  have hrow : ∀ (t : Tuple) (i : RevisionRecord × Recorded Iteration), t.Has (iterationCells i) →
      ((∀ c ∈ conditions, c.eval db (b.bind .checkedIn t) = some true) ↔
        i.1.id = r.id ∧ i.2.entity.checkInDate.isSome = true) := by
    intro t i hhas
    have hid : t "part_revision_id" = some (.integer i.1.id) :=
      hhas.cell (by simp [iterationCells])
    have hdate : t "check_in_date" = i.2.entity.checkInDate.map .date :=
      hhas.cell (by simp [iterationCells])
    simp [conditions, Condition.eval, idOf, hid, hdate, hrevision]
  change (Condition.exist (existing ⟨config.table "PartIteration", .checkedIn⟩ [] conditions)
    false).eval db b = some true ↔ _
  rw [eval_exist_existing]
  refine (iff_true_right rfl).trans ⟨?_, ?_⟩
  · rintro ⟨t, ht, hall⟩
    obtain ⟨⟨r', i⟩, hi, hhas⟩ := hrows.exists_record ht
    obtain ⟨hid, hchecked⟩ := (hrow t (r', i) hhas).1 hall
    obtain ⟨hr', hi⟩ := Layout.mem_iterations.1 hi
    have hsame : r' = r := List.inj_on_of_nodup_map layout.revisions_distinct hr' hr hid
    subst hsame
    exact ⟨i.entity, (Layout.mem_revision_iterations_iff hr).2 ⟨i, hi, rfl⟩, hchecked⟩
  · rintro ⟨_, hi, hchecked⟩
    obtain ⟨i, hrecord, rfl⟩ := (Layout.mem_revision_iterations_iff hr).1 hi
    obtain ⟨t, ht, hhas⟩ := hrows.exists_row_of_record (Layout.mem_iterations.2 ⟨hr, hrecord⟩)
    exact ⟨t, ht, (hrow t (r, i) hhas).2 ⟨rfl, hchecked⟩⟩

/-- A key as a row of an answer. -/
def keyRow (k : RevisionKey) : List (Option Literal) :=
  [some (.text k.workspace), some (.text k.number), some (.text k.version)]

/-- The columns of the key hold the key of the revision. -/
lemma Binding.ShowsIteration.map_keyColumns {r : RevisionRecord} {i : Recorded Iteration}
    (h : b.ShowsIteration layout r i) : keyColumns.map b.value = keyRow r.revision.key := by
  have hworkspace : b .revision "workspace_id" = some (.text r.revision.master.workspace) :=
    h.revision.cell (by simp [RevisionRecord.cells])
  have hnumber : b .master "number" = some (.text r.revision.master.number) :=
    h.master.cell (by simp [masterCells])
  have hversion : b .revision "version" = some (.text r.revision.version) :=
    h.revision.cell (by simp [RevisionRecord.cells])
  simp [keyColumns, keyRow, Revision.key, hworkspace, hnumber, hversion]

/-- The rows of an iteration and its revision are kept exactly when the revision is in the
workspace, the predicate holds of them and the revision was checked in. -/
lemma eval_revisionFilter (hstored : layout.StoredIn config db) {p : Predicate}
    (hp : p.Everywhere (IsTest config .revision)) {r : RevisionRecord} {i : Recorded Iteration}
    (h : b.ShowsIteration layout r i) {workspace : String} :
    (Condition.conjunction [.compare ⟨.revision, "workspace_id"⟩ .equal (.text workspace),
        ((draft config p).run {}).1, checkedIn config]).eval db b = some true ↔
      r.revision.master.workspace = workspace ∧ p.holds (i.entity.row r.revision) = true ∧
        ∃ i ∈ r.revision.iterations, i.checkInDate.isSome = true := by
  obtain ⟨hr, -⟩ := Layout.mem_iterations.1 h.mem
  have hid : b .revision "id" = some (.integer r.id) :=
    h.revision.cell (by simp [RevisionRecord.cells])
  have hworkspace : b .revision "workspace_id" = some (.text r.revision.master.workspace) :=
    h.revision.cell (by simp [RevisionRecord.cells])
  have hdraft : ((draft config p).run {}).1.eval db b = some true ↔
      p.holds (i.entity.row r.revision) = true := by
    refine eval_draft ?_ hp {}
    rintro field test ⟨hfamily, c, htest⟩ s
    exact eval_draftComparison_revision hstored h hfamily htest s
  rw [eval_conjunction]
  simp only [List.forall_mem_cons, List.not_mem_nil, false_implies, implies_true, and_true, hdraft,
    eval_checkedIn hstored hr hid, Condition.eval, Binding.value_mk, hworkspace,
    related_some_some, holds_equal_text]

/-- The statement for revisions answers the keys that the search selects, beside the presented
columns. -/
lemma mem_answer_revisionStatement (hstored : layout.StoredIn config db) {p : Predicate}
    (hp : p.Everywhere (IsTest config .revision)) {workspace : String}
    {selects orderBy : List Column} {row : List (Option Literal)} :
    row ∈ ((revisionStatement config p workspace selects orderBy).select.answer db).map
        (List.take 3) ↔
      row ∈ (selectRevisions p workspace d.revisions).map keyRow := by
  have hselect : (revisionStatement config p workspace selects orderBy).select =
      .mk (.distinct (keyColumns ++ selects ++ orderBy)) ⟨config.table "PartRevision", .revision⟩
        (revisionJoins config)
        (.conjunction [.compare ⟨.revision, "workspace_id"⟩ .equal (.text workspace),
          ((draft config p).run {}).1, checkedIn config]) orderBy := rfl
  rw [hselect]
  simp only [List.mem_map, mem_answer_distinct]
  constructor
  · rintro ⟨_, ⟨b, hb, hfilter, rfl⟩, rfl⟩
    obtain ⟨r, i, hshows⟩ := exists_showsIteration hstored hb
    obtain ⟨hworkspace, hholds, hchecked⟩ := (eval_revisionFilter hstored hp hshows).1 hfilter
    obtain ⟨hr, hi⟩ := Layout.mem_iterations.1 hshows.mem
    have hrevision : r.revision ∈ d.revisions := layout.mem_revisions_iff.2 ⟨r, hr, rfl⟩
    have hiteration : i.entity ∈ r.revision.iterations :=
      (Layout.mem_revision_iterations_iff hr).2 ⟨i, hi, rfl⟩
    refine ⟨r.revision.key, mem_selectRevisions.2 ?_, hshows.map_keyColumns.symm⟩
    exact ⟨r.revision, hrevision, rfl, hworkspace, ⟨i.entity, hiteration, hholds⟩, hchecked⟩
  · rintro ⟨k, hk, rfl⟩
    obtain ⟨_, hrevision, rfl, hworkspace, ⟨_, hiteration, hholds⟩, hchecked⟩ :=
      mem_selectRevisions.1 hk
    obtain ⟨r, hr, rfl⟩ := layout.mem_revisions_iff.1 hrevision
    obtain ⟨i, hi, rfl⟩ := (Layout.mem_revision_iterations_iff hr).1 hiteration
    obtain ⟨b, hb, hshows⟩ := exists_mem_of_iteration hstored (Layout.mem_iterations.2 ⟨hr, hi⟩)
    have hfilter := (eval_revisionFilter hstored hp hshows).2 ⟨hworkspace, hholds, hchecked⟩
    exact ⟨_, ⟨b, hb, hfilter, rfl⟩, hshows.map_keyColumns⟩

/-! ## Path data -/

/-- The rows of an iteration and its path data are kept exactly when the path data is in question
and the predicate holds of them. -/
lemma eval_pathFilter (hstored : layout.StoredIn config db) {p : Predicate}
    (hp : p.Everywhere (IsTest config .pathData)) {record : PathRecord}
    {i : Recorded PathIteration} (h : b.ShowsPathIteration layout record i) {ids : List Int} :
    (Condition.conjunction [.oneOf (idOf .pathData) (ids.map .integer),
        ((draft config p).run {}).1]).eval db b = some true ↔
      record.pathData.id ∈ ids ∧ p.holds (i.entity.row record.pathData) = true := by
  have hid : b .pathData "id" = some (.integer record.pathData.id) :=
    h.pathData.cell (by simp [PathRecord.cells])
  have hdraft : ((draft config p).run {}).1.eval db b = some true ↔
      p.holds (i.entity.row record.pathData) = true := by
    refine eval_draft ?_ hp {}
    rintro field test ⟨hfamily, c, htest⟩ s
    exact eval_draftComparison_pathData hstored h hfamily htest s
  rw [eval_conjunction]
  simp [hdraft, eval_oneOf, idOf, hid]

/-- The path as it stands in an answer. -/
def pathRow (path : String) : List (Option Literal) :=
  [some (.text path)]

/-- The statement for path data answers the paths that the search selects. -/
lemma mem_answer_pathStatement (hstored : layout.StoredIn config db) {p : Predicate}
    (hp : p.Everywhere (IsTest config .pathData)) {ids : List Int}
    {row : List (Option Literal)} :
    row ∈ (pathStatement config p ids).select.answer db ↔
      row ∈ (selectPaths p ids d.pathData).map pathRow := by
  have hselect : (pathStatement config p ids).select =
      .mk (.distinct [⟨.pathData, "path"⟩]) ⟨config.table "PathDataMaster", .pathData⟩
        [pathJoin config]
        (.conjunction [.oneOf (idOf .pathData) (ids.map .integer), ((draft config p).run {}).1])
        [⟨.pathData, "path"⟩] := rfl
  have hpath : ∀ {b : Binding} {record : PathRecord} {i : Recorded PathIteration},
      b.ShowsPathIteration layout record i →
        [Column.mk .pathData "path"].map b.value = pathRow record.pathData.path := by
    intro b record i hshows
    have hcell : b .pathData "path" = some (.text record.pathData.path) :=
      hshows.pathData.cell (by simp [PathRecord.cells])
    simp [pathRow, hcell]
  rw [hselect, mem_answer_distinct, List.foldl_cons, List.foldl_nil, List.mem_map]
  constructor
  · rintro ⟨b, hb, hfilter, rfl⟩
    obtain ⟨record, i, hshows⟩ := exists_showsPathIteration hstored hb
    obtain ⟨hid, hholds⟩ := (eval_pathFilter hstored hp hshows).1 hfilter
    obtain ⟨hrecord, hi⟩ := Layout.mem_pathIterations.1 hshows.mem
    have hpathData : record.pathData ∈ d.pathData :=
      layout.mem_pathData_iff.2 ⟨record, hrecord, rfl⟩
    have hiteration : i.entity ∈ record.pathData.iterations :=
      (Layout.mem_pathData_iterations_iff hrecord).2 ⟨i, hi, rfl⟩
    refine ⟨record.pathData.path, mem_selectPaths.2 ?_, (hpath hshows).symm⟩
    exact ⟨record.pathData, hpathData, rfl, hid, i.entity, hiteration, hholds⟩
  · rintro ⟨path, hselected, rfl⟩
    obtain ⟨_, hpathData, rfl, hid, _, hiteration, hholds⟩ := mem_selectPaths.1 hselected
    obtain ⟨record, hrecord, rfl⟩ := layout.mem_pathData_iff.1 hpathData
    obtain ⟨i, hi, rfl⟩ := (Layout.mem_pathData_iterations_iff hrecord).1 hiteration
    obtain ⟨b, hb, hshows⟩ :=
      exists_mem_of_pathIteration hstored (Layout.mem_pathIterations.2 ⟨hrecord, hi⟩)
    exact ⟨b, hb, (eval_pathFilter hstored hp hshows).2 ⟨hid, hholds⟩, hpath hshows⟩

/-! ## Queries -/

/-- Fields that can be presented have their columns found. -/
lemma exists_presentation_eq_ok {names : List String}
    (h : ∀ name ∈ names, (Field.ofName? name).isSome = true) :
    ∃ columns, presentation names = .ok columns := by
  rw [← errorOf?_eq_none_iff, errorOf?_presentation, presentationFault?, Option.map_eq_none_iff,
    List.find?_eq_none]
  intro name hname
  rw [Option.isNone_iff_eq_none, ← ne_eq, ← Option.isSome_iff_ne_none]
  exact h name hname

/-- The statements of a query answer what its searches answer. For a workspace, either the search
and the statement fail alike, or the statement answers the keys that the search finds in the
dataset, beside the columns it presents. For attached path data, it answers the paths that the
search finds. -/
theorem statements_refine_searches {q : Query} {config : Config}
    (hstored : layout.StoredIn config db)
    (hpresented : ∀ name ∈ q.selects ++ q.orderBy, (Field.ofName? name).isSome = true) :
    (∀ workspace : String,
      (∃ e, q.revisionStatement config workspace = .error e ∧
        (searchRevisions (.ofDataset d) config q workspace).result = .error e) ∨
      ∃ st keys, q.revisionStatement config workspace = .ok st ∧
        (searchRevisions (.ofDataset d) config q workspace).result = .ok keys ∧
        ∀ row, row ∈ (st.select.answer db).map (List.take 3) ↔ row ∈ keys.map keyRow) ∧
    ∀ ids : List Int, ids ≠ [] →
      (∃ e, q.pathStatement config ids = .error e ∧
        (searchPaths (.ofDataset d) config q ids).result = .error e) ∨
      ∃ st paths, q.pathStatement config ids = .ok (some st) ∧
        (searchPaths (.ofDataset d) config q ids).result = .ok paths ∧
        ∀ row, row ∈ st.select.answer db ↔ row ∈ paths.map pathRow := by
  obtain ⟨selects, hselects⟩ := exists_presentation_eq_ok fun name hname =>
    hpresented name (List.mem_append_left _ hname)
  obtain ⟨orderBy, horderBy⟩ := exists_presentation_eq_ok fun name hname =>
    hpresented name (List.mem_append_right _ hname)
  refine ⟨fun workspace => ?_, fun ids hids => ?_⟩
  · cases hp : q.revisionPredicate config with
    | error e =>
      refine Or.inl ⟨e, ?_, ?_⟩
      · simp [Query.revisionStatement, hp, bind, Except.bind]
      · simp [searchRevisions, hp, Outcome.unasked]
    | ok p =>
      have hstatement : q.revisionStatement config workspace =
          .ok (revisionStatement config p workspace selects orderBy) := by
        simp [Query.revisionStatement, hp, hselects, horderBy, bind, Except.bind, pure,
          Except.pure]
      refine Or.inr ⟨_, selectRevisions p workspace d.revisions, hstatement, ?_, fun row => ?_⟩
      · rw [searchRevisions_ofDataset_eq hp]
      · exact mem_answer_revisionStatement hstored (everywhere_isTest hp)
  · cases hp : q.pathPredicate config with
    | error e =>
      refine Or.inl ⟨e, ?_, ?_⟩
      · simp [Query.pathStatement, hids, hp, bind, Except.bind]
      · simp [searchPaths, hids, hp, Outcome.unasked]
    | ok p =>
      have hstatement : q.pathStatement config ids = .ok (some (pathStatement config p ids)) := by
        simp [Query.pathStatement, hids, hp, bind, Except.bind, pure, Except.pure]
      refine Or.inr ⟨_, selectPaths p ids d.pathData, hstatement, ?_, fun row => ?_⟩
      · rw [searchPaths_ofDataset_eq hp hids]
      · exact mem_answer_pathStatement hstored (everywhere_isTest hp)

/-- A query for a part by its number and that of its spare part, and for what is red. -/
def spareQuery : Query where
  rule := some (.group "AND" [
    .group "OR" [.comparison "pm.number" "equal" ["wheel"] "string",
      .comparison "pm.number" "equal" ["bell"] "string"],
    .comparison "attr-PART_NUMBER.spare" "begins_with" ["BEL"] "string"])
  pathRule := some (.comparison "pd-attr-TEXT.colour" "equal" ["red"] "string")
  selects := ["pm.name", "pr.tags"]

/-- An iteration that refers to a spare part, and to none. -/
def spareIteration : Iteration :=
  ⟨1, some default, none,
    [⟨"spare", .partNumber (some ⟨"home", "bell-2"⟩)⟩, ⟨"spare", .partNumber none⟩]⟩

/-- A bell and the frame of a product. -/
def spareDataset : Dataset where
  revisions := [firstVersion "home" "bell" [spareIteration]]
  pathData := [⟨7, "frame", [⟨1, "", [⟨"colour", .text "red"⟩]⟩]⟩]

/-- The rows of the bell, of its spare part and of the frame. -/
def spareLayout : Layout spareDataset where
  masters := [⟨1, ⟨"home", "bell", "", "", none⟩⟩, ⟨2, ⟨"home", "bell-2", "", "", none⟩⟩]
  authors := [⟨1, default⟩]
  revisions := [⟨1, 1, 1, firstVersion "home" "bell" [spareIteration], [⟨1, spareIteration⟩]⟩]
  paths := [⟨⟨7, "frame", [⟨1, "", [⟨"colour", .text "red"⟩]⟩]⟩,
    [⟨1, ⟨1, "", [⟨"colour", .text "red"⟩]⟩⟩]⟩]
  partId _ := 2
  masters_distinct := by decide
  authors_distinct := by decide
  revisions_distinct := by decide
  iterations_distinct := by decide
  paths_distinct := by decide
  pathIterations_distinct := by decide
  revisions_eq := rfl
  iterations_eq := by simp [firstVersion]
  paths_eq := rfl
  pathIterations_eq := by simp
  master_mem := by simp [firstVersion]
  author_mem := by simp [firstVersion]; rfl
  part_mem := by simp [RevisionRecord.attributes, PathRecord.attributes, spareIteration]

/-- The configuration that lists alternatives from two on. -/
def listingConfig : Config where
  listThreshold := 2

/-- The statements of this query answer the bell and the frame. -/
theorem spareQuery_statements :
    (∃ st, spareQuery.revisionStatement listingConfig "home" = .ok st ∧
      keyRow ⟨"home", "bell", "1"⟩ ∈
        (st.select.answer (spareLayout.database listingConfig)).map (List.take 3)) ∧
    ∃ st, spareQuery.pathStatement listingConfig [7] = .ok (some st) ∧
      pathRow "frame" ∈ st.select.answer (spareLayout.database listingConfig) := by
  have hapart : ∀ e ∈ Entity.all, ∀ e' ∈ Entity.all,
      listingConfig.table e.name = listingConfig.table e'.name → e = e' := by
    decide +kernel
  have hstored : spareLayout.StoredIn listingConfig (spareLayout.database listingConfig) :=
    spareLayout.storedIn_database fun e e' => hapart e e.mem_all e' e'.mem_all
  have hpresented : ∀ name ∈ spareQuery.selects ++ spareQuery.orderBy,
      (Field.ofName? name).isSome = true := by
    decide +kernel
  obtain ⟨hrevisions, hpaths⟩ := statements_refine_searches hstored hpresented
  have hkeys : (searchRevisions (.ofDataset spareDataset) listingConfig spareQuery "home").result =
      .ok [⟨"home", "bell", "1"⟩] := by
    decide +kernel
  have hfound : (searchPaths (.ofDataset spareDataset) listingConfig spareQuery [7]).result =
      .ok ["frame"] := by
    decide +kernel
  refine ⟨?_, ?_⟩
  · rcases hrevisions "home" with ⟨e, -, hfails⟩ | ⟨st, keys, hst, hresult, hanswer⟩
    · rw [hkeys] at hfails
      cases hfails
    · rw [hkeys] at hresult
      cases hresult
      exact ⟨st, hst, (hanswer _).2 List.mem_cons_self⟩
  · rcases hpaths [7] (by decide) with ⟨e, -, hfails⟩ | ⟨st, paths, hst, hresult, hanswer⟩
    · rw [hfound] at hfails
      cases hfails
    · rw [hfound] at hresult
      cases hresult
      exact ⟨st, hst, (hanswer _).2 List.mem_cons_self⟩

end PartQuery.Sql
