import PartQuery.Proofs.Sql.Evaluation
import PartQuery.Proofs.Traversal
import PartQuery.Sql.Statement

/-!
# What statements present

A statement is refused for the reasons that a search is refused for, and besides for a field that is
to be presented and does not exist. Of the fields that exist, those that are held in a column are
presented: attributes, labels and linked documents are left out. The answer is put in order by
columns that are presented too, which a selection of distinct rows needs.

The main statement is `statements_fail_and_present`.
-/

namespace PartQuery

namespace Sql

variable {names : List String} {columns : List Column}

/-! ## Fields that are presented -/

/-- The column that a name is presented as, if it names a field that is held in one. -/
def presented? (name : String) : Option Column :=
  (Field.ofName? name).bind column?

/-- The fault of a list of names: the first that names no field. -/
def presentationFault? (names : List String) : Option QueryError :=
  (names.find? fun name => (Field.ofName? name).isNone).map (.unresolvedField · "equal" [])

/-- Labels, linked documents and attributes are held in no column. -/
lemma column?_eq_none_iff {field : Field} :
    column? field = none ↔ field = .revision .tags ∨ field = .revision .linkedDocuments ∨
      ∃ owner kind name, field = .dynamic owner kind name := by
  cases field with
  | master f => cases f <;> simp [column?]
  | revision f => cases f <;> simp [column?]
  | author f => cases f <;> simp [column?]
  | dynamic owner kind name => simp [column?]

/-- A name that names no field is what is wrong with it. -/
lemma errorOf?_resolve (name : String) :
    errorOf? (Comparison.resolve ⟨name, .equal, [], .string⟩) = presentationFault? [name] := by
  unfold Comparison.resolve presentationFault?
  cases hfield : Field.ofName? name with
  | none =>
    simp only [hfield, errorOf?_error, List.find?_singleton, Option.isNone_none, if_true,
      Option.map_some]
    rfl
  | some field =>
    simp only [hfield, errorOf?_ok, List.find?_singleton, Option.isNone_some, Bool.false_eq_true,
      if_false, Option.map_none]

/-- Faults are looked for in one list after the other. -/
lemma presentationFault?_append (names others : List String) :
    presentationFault? (names ++ others) =
      (presentationFault? names).or (presentationFault? others) := by
  unfold presentationFault?
  rw [List.find?_append, Option.map_or]

/-- The columns of names cannot be found if one of them names no field, and then because of the
first that does not. -/
lemma errorOf?_presentation (names : List String) :
    errorOf? (presentation names) = presentationFault? names := by
  unfold presentation
  rw [errorOf?_bind_return, errorOf?_mapM]
  simp only [errorOf?_resolve]
  induction names with
  | nil => rfl
  | cons name names ih =>
    have hsplit := presentationFault?_append [name] names
    rw [List.singleton_append] at hsplit
    rw [List.findSome?_cons, ih, hsplit]
    cases presentationFault? [name] <;> rfl

/-- The columns of names are those of the names one by one, without the names that have none. -/
lemma eq_filterMap_of_presentation (h : presentation names = .ok columns) :
    columns = names.filterMap presented? := by
  obtain ⟨fields, hfields, hcolumns⟩ := bind_eq_ok_iff.1 h
  obtain rfl : fields.filterMap column? = columns := Except.ok.inj hcolumns
  have hpairs := mapM_eq_ok_iff.1 hfields
  clear h hfields hcolumns
  induction hpairs with
  | nil => rfl
  | @cons name field names fields hname _ ih =>
    have hpresented : presented? name = column? field := by
      unfold Comparison.resolve at hname
      split at hname
      · next found hfound =>
        cases hname
        rw [presented?, hfound, Option.bind_some]
      · cases hname
    rw [List.filterMap_cons, List.filterMap_cons, hpresented, ih]

end Sql

open Sql

variable {q : Query} {config : Config}

/-! ## Statements that fail -/

/-- The fault of a rule comes first, then that of a selected field, then that of a field that orders
the answer. -/
lemma errorOf?_revisionStatement (q : Query) (config : Config) (workspace : String) :
    errorOf? (q.revisionStatement config workspace) =
      (errorOf? (q.revisionPredicate config)).or (presentationFault? (q.selects ++ q.orderBy)) := by
  rw [presentationFault?_append, ← errorOf?_presentation, ← errorOf?_presentation]
  unfold Query.revisionStatement
  cases q.revisionPredicate config with
  | error e => rfl
  | ok p =>
    cases presentation q.selects with
    | error e => rfl
    | ok selects => cases presentation q.orderBy <;> rfl

/-- For path data that there is, a statement fails as its rule does. -/
lemma errorOf?_pathStatement (q : Query) (config : Config) {ids : List Int} (hids : ids ≠ []) :
    errorOf? (q.pathStatement config ids) = errorOf? (q.pathPredicate config) := by
  have hempty : ids.isEmpty = false := by simpa using hids
  simp only [Query.pathStatement, hempty, Bool.false_eq_true, if_false]
  exact errorOf?_bind_return _ _

/-- Nothing is stated exactly when there is no path data to ask for. -/
lemma pathStatement_eq_ok_none_iff (q : Query) (config : Config) {ids : List Int} :
    q.pathStatement config ids = .ok none ↔ ids = [] := by
  constructor
  · intro h
    by_contra hids
    have hempty : ids.isEmpty = false := by simpa using hids
    simp only [Query.pathStatement, hempty, Bool.false_eq_true, if_false] at h
    obtain ⟨p, -, hp⟩ := bind_eq_ok_iff.1 h
    cases hp
  · rintro rfl
    rfl

/-! ## Statements that are made -/

/-- A cell equals a text exactly when it holds the text. -/
lemma Sql.related_equal_text_iff {cell : Option Literal} {s : String} :
    related cell .equal (some (.text s)) = some true ↔ cell = some (.text s) := by
  cases cell with
  | none => simp
  | some v =>
    rw [related_some_some, Option.some.injEq]
    cases v <;> simp [Relation.holds, Literal.equals]

/-- What a statement for the revisions of a workspace shows, in which order, and which rows it is
limited to whatever the rule asks for. -/
structure Sql.Statement.Presents (st : Statement) (q : Query) (config : Config)
    (workspace : String) : Prop where
  projection_eq : st.select.projection =
    .distinct ([⟨.revision, "workspace_id"⟩, ⟨.master, "number"⟩, ⟨.revision, "version"⟩] ++
      q.selects.filterMap presented? ++ q.orderBy.filterMap presented?)
  orderBy_eq : st.select.orderBy = q.orderBy.filterMap presented?
  /-- Rows that are distinct can only be put in order by what is shown of them. -/
  orderBy_shown : ∀ shown, st.select.projection = .distinct shown →
    ∀ column ∈ st.select.orderBy, column ∈ shown
  filter_eq : ∃ condition, st.select.filter =
    .conjunction [.compare ⟨.revision, "workspace_id"⟩ .equal (.text workspace), condition,
      checkedIn config]
  kept : ∀ db b, st.select.filter.eval db b = some true →
    b.value ⟨.revision, "workspace_id"⟩ = some (.text workspace) ∧
      (checkedIn config).eval db b = some true

/-- A statement that is made presents the columns of its query. -/
lemma presents_of_revisionStatement {workspace : String} {st : Statement}
    (h : q.revisionStatement config workspace = .ok st) : st.Presents q config workspace := by
  obtain ⟨p, -, hselects⟩ := bind_eq_ok_iff.1 h
  obtain ⟨selects, hfound, horderBy⟩ := bind_eq_ok_iff.1 hselects
  obtain ⟨orderBy, hfound', hst⟩ := bind_eq_ok_iff.1 horderBy
  obtain rfl := Except.ok.inj hst
  obtain rfl := eq_filterMap_of_presentation hfound
  obtain rfl := eq_filterMap_of_presentation hfound'
  refine ⟨rfl, rfl, ?_, ⟨_, rfl⟩, ?_⟩
  · rintro shown hshown column hcolumn
    obtain rfl := Projection.distinct.inj hshown
    exact List.mem_append_right _ hcolumn
  · intro db b hkept
    have hall : Condition.eval db b (.conjunction [.compare ⟨.revision, "workspace_id"⟩ .equal
        (.text workspace), ((draft config p).run {}).1, checkedIn config]) = some true := hkept
    rw [eval_conjunction] at hall
    simp only [List.forall_mem_cons, Condition.eval, related_equal_text_iff] at hall
    obtain ⟨hworkspace, -, hchecked, -⟩ := hall
    exact ⟨hworkspace, hchecked⟩

/-- The statement for the revisions of a workspace fails with the fault of the rule, if that cannot
be compiled, and else only if some name of the selected fields, followed by those that order the
answer, names no field: then with the first of these names. If it is made, it shows the key of a
revision and the columns of the fields, of which attributes, labels and linked documents have none;
it is put in order by columns that it shows; and it keeps to the workspace and to revisions with an
iteration that is checked in. For path data nothing is stated exactly when there is none, whatever
the rule; else the statement fails exactly when the rule cannot be compiled, with the same fault. -/
theorem statements_fail_and_present (q : Query) (config : Config) :
    (∀ (workspace : String) (e : QueryError), q.revisionStatement config workspace = .error e ↔
      q.revisionPredicate config = .error e ∨
        (∃ p, q.revisionPredicate config = .ok p) ∧ ∃ name,
          (q.selects ++ q.orderBy).find? (fun name => (Field.ofName? name).isNone) = some name ∧
          e = .unresolvedField name "equal" []) ∧
    (∀ (workspace : String) (st : Statement), q.revisionStatement config workspace = .ok st →
      st.Presents q config workspace) ∧
    (∀ field, column? field = none ↔ field = .revision .tags ∨ field = .revision .linkedDocuments ∨
      ∃ owner kind name, field = .dynamic owner kind name) ∧
    (∀ ids, q.pathStatement config ids = .ok none ↔ ids = []) ∧
    ∀ ids, ids ≠ [] → ∀ e,
      q.pathStatement config ids = .error e ↔ q.pathPredicate config = .error e := by
  refine ⟨?_, ?_, ?_, ?_, ?_⟩
  · intro workspace e
    rw [← errorOf?_eq_some_iff, errorOf?_revisionStatement, Option.or_eq_some_iff,
      errorOf?_eq_some_iff, errorOf?_eq_none_iff, presentationFault?, Option.map_eq_some_iff]
    simp only [eq_comm]
  · intro workspace st hst
    exact presents_of_revisionStatement hst
  · intro field
    exact column?_eq_none_iff
  · intro ids
    exact pathStatement_eq_ok_none_iff q config
  · intro ids hids e
    rw [← errorOf?_eq_some_iff, errorOf?_pathStatement q config hids, errorOf?_eq_some_iff]

/-- A query that shows a name and puts it in order by an author, among fields that have no column,
and whose rule for path data joins its parts by no connective. -/
def presentedQuery : Query where
  pathRule := some (.group "XOR" [.blank])
  selects := ["pm.name", "pr.tags", "attr-TEXT.colour"]
  orderBy := ["author.login", "pr.linkedDocuments"]

/-- The name and the author are shown behind the key. A further field that does not exist would be
the only fault. Nothing is stated for no path data, but for some the connective is at fault. -/
theorem presentedQuery_statements :
    (∃ st, presentedQuery.revisionStatement {} "home" = .ok st ∧
      st.select.projection = .distinct [⟨.revision, "workspace_id"⟩, ⟨.master, "number"⟩,
        ⟨.revision, "version"⟩, ⟨.master, "name"⟩, ⟨.author, "login"⟩]) ∧
    { presentedQuery with orderBy := ["pm.colour"] }.revisionStatement {} "home" =
      .error (.unresolvedField "pm.colour" "equal" []) ∧
    presentedQuery.pathStatement {} [] = .ok none ∧
    presentedQuery.pathStatement {} [7] = .error (.unparsableCondition "XOR") := by
  obtain ⟨-, hpresents, -, hnothing, hpath⟩ := statements_fail_and_present presentedQuery {}
  obtain ⟨hfails, -⟩ :=
    statements_fail_and_present { presentedQuery with orderBy := ["pm.colour"] } {}
  obtain ⟨st, hst⟩ : ∃ st, presentedQuery.revisionStatement {} "home" = .ok st := ⟨_, rfl⟩
  refine ⟨⟨st, hst, (hpresents "home" st hst).projection_eq⟩, ?_, ?_, ?_⟩
  · exact (hfails "home" _).2 (Or.inr ⟨⟨_, rfl⟩, "pm.colour", rfl, rfl⟩)
  · exact (hnothing []).2 rfl
  · exact (hpath [7] (by decide) _).2 rfl

end PartQuery
