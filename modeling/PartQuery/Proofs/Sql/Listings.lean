import PartQuery.Proofs.Leaves
import PartQuery.Proofs.Sql.Conditions

/-!
# Lists of values

Alternatives become one list of values exactly when they may (`Listable`): there are enough of them,
and they ask one field, held in a column and not read from the last iteration only, for equality
with the values. Otherwise they are drafted one by one from the same state, as if no list had been
considered. A draft notes the lists that it makes in the order in which they stand in its condition,
which is the order of the alternatives in the predicate (`notes_draft`).

Of a rule that compiles, only groups joined by `or` become lists, and only if they consist of
equalities of one text or of the status; equality with a date asks for a day and never for a value
(`listable_iff_of_compileAll`). The main statement is `lists_replace_alternatives`.
-/

namespace PartQuery

/-! ## Alternatives -/

namespace Predicate

mutual

/-- The alternatives in a predicate, from left to right: those of a group before those inside it. -/
def alternatives : Predicate → List (List Predicate)
  | always => []
  | all children => alternativesOfAll children
  | any children => children :: alternativesOfAll children
  | compare _ _ => []

/-- The alternatives in predicates, one predicate after the other. -/
def alternativesOfAll : List Predicate → List (List Predicate)
  | [] => []
  | p :: rest => p.alternatives ++ alternativesOfAll rest

end

/-- The alternatives in predicates are those in each of them. -/
lemma alternativesOfAll_eq_flatMap (ps : List Predicate) :
    alternativesOfAll ps = ps.flatMap alternatives := by
  induction ps with
  | nil => rw [alternativesOfAll, List.flatMap_nil]
  | cons p rest ih => rw [alternativesOfAll, List.flatMap_cons, ih]

/-- The alternatives in a group are the group, if it is joined by `or`, and those in what it joins.
-/
lemma alternatives_ofGroup (connective : Connective) (ps : List Predicate) :
    (ofGroup connective ps).alternatives =
      (if connective = .or then [ps] else []) ++ ps.flatMap alternatives := by
  unfold ofGroup
  cases connective with
  | or => rw [alternatives, alternativesOfAll_eq_flatMap]; rfl
  | and =>
    simp only
    split
    · next hempty =>
      rw [List.isEmpty_iff.1 hempty, alternatives]
      rfl
    · rw [alternatives, alternativesOfAll_eq_flatMap]
      rfl

/-- What holds of the predicates that are no groups, and of a group when it holds of the predicates
inside it, holds of every predicate. -/
@[elab_as_elim]
theorem treeInduction {P : Predicate → Prop} (always : P always)
    (all : ∀ children, (∀ child ∈ children, P child) → P (all children))
    (any : ∀ children, (∀ child ∈ children, P child) → P (any children))
    (compare : ∀ field test, P (compare field test)) :
    ∀ p, P p
  | .always => always
  | .all children => all children fun child _ => treeInduction always all any compare child
  | .any children => any children fun child _ => treeInduction always all any compare child
  | .compare field test => compare field test

end Predicate

namespace Sql

variable {config : Config} {children : List Predicate} {column : Column} {values : List Scalar}

/-! ## When alternatives become a list -/

/-- Alternatives that a list of values in a column may replace. There are enough of them, at least
two, and they ask one field for equality with the values, one after the other. The field is held in
the column and is none of the two that are read from the last iteration only. -/
structure Listable (config : Config) (children : List Predicate) (column : Column)
    (values : List Scalar) : Prop where
  enough : max config.listThreshold 2 ≤ children.length
  equalities : ∃ field, column? field = some column ∧
    (field ≠ .revision .checkInDate ∧ field ≠ .revision .modificationDate) ∧
    children = values.map fun v => .compare field (.equal v)

/-- Two fields are read from the last iteration only. -/
lemma isLastIterationOnly_eq_false_iff {field : Field} :
    field.isLastIterationOnly = false ↔
      field ≠ .revision .checkInDate ∧ field ≠ .revision .modificationDate := by
  cases field with
  | revision f => cases f <;> simp [Field.isLastIterationOnly]
  | _ => simp [Field.isLastIterationOnly]

/-- Equalities of one field are recognised. -/
lemma equalities?_map (field : Field) (values : List Scalar) :
    equalities? field (values.map fun v => .compare field (.equal v)) = some values := by
  induction values with
  | nil => rfl
  | cons v values ih =>
    rw [List.map_cons, equalities?, if_pos rfl, ih]
    rfl

/-- A list of values is found exactly where one may replace the alternatives. -/
theorem valueList?_eq_some_iff :
    valueList? config children = some (column, values) ↔
      Listable config children column values := by
  constructor
  · intro h
    obtain ⟨field, hcolumn, hlast, hequalities⟩ := exists_field_of_valueList? h
    refine ⟨?_, field, hcolumn, isLastIterationOnly_eq_false_iff.1 hlast, hequalities⟩
    unfold valueList? at h
    split at h
    · cases h
    · next henough => exact Nat.le_of_not_lt henough
  · rintro ⟨henough, field, hcolumn, hlast, rfl⟩
    cases values with
    | nil => exact absurd (le_of_max_le_right henough) (Nat.not_succ_le_zero 1)
    | cons v rest =>
      have hlist := equalities?_map field (v :: rest)
      rw [← isLastIterationOnly_eq_false_iff] at hlast
      rw [List.map_cons] at henough hlist ⊢
      unfold valueList?
      rw [if_neg (Nat.not_lt.2 henough)]
      simp [hlast, hlist, hcolumn]

/-- No list of values is found where none may replace the alternatives. -/
lemma valueList?_eq_none_iff :
    valueList? config children = none ↔
      ¬∃ column values, Listable config children column values := by
  simp only [← valueList?_eq_some_iff, Option.eq_none_iff_forall_ne_some, Prod.forall, not_exists,
    ne_eq]

/-- There is a value for each of the alternatives. -/
lemma Listable.length_eq (h : Listable config children column values) :
    children.length = values.length := by
  obtain ⟨-, field, -, -, rfl⟩ := h
  exact List.length_map ..

/-- There are no further alternatives inside of those that may be listed. -/
lemma Listable.flatMap_alternatives_eq_nil (h : Listable config children column values) :
    children.flatMap Predicate.alternatives = [] := by
  obtain ⟨-, field, -, -, rfl⟩ := h
  rw [List.flatMap_eq_nil_iff]
  intro p hp
  obtain ⟨v, -, rfl⟩ := List.mem_map.1 hp
  rw [Predicate.alternatives]

/-! ## One group -/

/-- Alternatives that may be listed are, and the list is noted; nothing else is done. -/
lemma draft_any_of_listable (h : Listable config children column values) (s : Draft) :
    (draft config (.any children)).run s = (.oneOf column (values.map literal),
      { s with listings := s.listings ++ [⟨column, children.length⟩] }) := by
  rw [draft, valueList?_eq_some_iff.2 h, h.length_eq]
  rfl

/-- Other alternatives are drafted one by one from the same state. -/
lemma draft_any_of_not_listable (h : ¬∃ column values, Listable config children column values)
    (s : Draft) :
    (draft config (.any children)).run s = (.disjunction ((draftAll config children).run s).1,
      ((draftAll config children).run s).2) := by
  rw [draft, valueList?_eq_none_iff.2 h]
  rfl

/-! ## What is noted -/

/-- What is noted of alternatives that become a list: its column, and how many they are. -/
def listing? (config : Config) (children : List Predicate) : Option Listing :=
  (valueList? config children).map fun (column, _) => ⟨column, children.length⟩

/-- Alternatives that may be listed are noted. -/
lemma listing?_of_listable (h : Listable config children column values) :
    listing? config children = some ⟨column, children.length⟩ := by
  rw [listing?, valueList?_eq_some_iff.2 h]
  rfl

/-- Other alternatives are not. -/
lemma listing?_of_not_listable (h : ¬∃ column values, Listable config children column values) :
    listing? config children = none := by
  rw [listing?, valueList?_eq_none_iff.2 h]
  rfl

/-- The lists of values that stand in a condition, from left to right, apart from its
sub-selections. -/
def Condition.lists : Condition → List Listing
  | .oneOf column values => [⟨column, values.length⟩]
  | .and left right | .or left right => left.lists ++ right.lists
  | _ => []

/-- A draft notes lists of values, which are those that stand in its condition. -/
def Notes {α : Type} (drafting : Drafting α) (lists : α → List Listing) (found : List Listing) :
    Prop :=
  ∀ s : Draft, (drafting.run s).2.listings = s.listings ++ found ∧ lists (drafting.run s).1 = found

/-- The lists of conditions that are joined are those of each of them. -/
lemma lists_foldl {join : Condition → Condition → Condition}
    (hjoin : ∀ left right, (join left right).lists = left.lists ++ right.lists)
    (first : Condition) (rest : List Condition) :
    (rest.foldl join first).lists = first.lists ++ rest.flatMap Condition.lists := by
  induction rest generalizing first with
  | nil => simp
  | cons c rest ih => rw [List.foldl_cons, ih, hjoin, List.flatMap_cons, List.append_assoc]

/-- The lists of a conjunction or of a disjunction are those of the conditions in it. -/
lemma lists_join (conditions : List Condition) :
    (Condition.conjunction conditions).lists = conditions.flatMap Condition.lists ∧
      (Condition.disjunction conditions).lists = conditions.flatMap Condition.lists := by
  cases conditions with
  | nil => exact ⟨rfl, rfl⟩
  | cons first rest => exact ⟨lists_foldl (fun _ _ => rfl) .., lists_foldl (fun _ _ => rfl) ..⟩

/-- The condition of a test has no list of values. -/
lemma lists_testCondition (column : Column) (test : ValueTest) :
    (testCondition column test).lists = [] := by
  cases test <;> rfl

/-- A comparison notes nothing. -/
lemma notes_draftComparison (field : Field) (test : ValueTest) :
    Notes (draftComparison config field test) Condition.lists [] := by
  intro s
  rw [List.append_nil]
  unfold draftComparison
  split
  · exact ⟨rfl, rfl⟩
  · exact ⟨rfl, rfl⟩
  · exact ⟨rfl, rfl⟩
  · next owner kind name _ _ _ =>
    refine ⟨?_, rfl⟩
    change ((attributeSelect config owner kind name _).run s).2.listings = _
    by_cases hkind : kind = .partNumber
    · simp only [attributeSelect, if_pos hkind]
      rfl
    · simp only [attributeSelect, if_neg hkind]
      rfl
  · split
    · exact ⟨rfl, rfl⟩
    · split
      · exact ⟨rfl, lists_testCondition _ _⟩
      · exact ⟨rfl, lists_testCondition _ _⟩

/-- Predicates that are drafted one by one note their lists one after the other. -/
lemma notes_draftAll
    (h : ∀ child ∈ children, Notes (draft config child) Condition.lists
      (child.alternatives.filterMap (listing? config))) :
    Notes (draftAll config children) (·.flatMap Condition.lists)
      ((children.flatMap Predicate.alternatives).filterMap (listing? config)) := by
  induction children with
  | nil =>
    intro s
    rw [draftAll]
    exact ⟨(List.append_nil _).symm, rfl⟩
  | cons child rest ih =>
    rw [List.forall_mem_cons] at h
    intro s
    have hchild := h.1 s
    have hrest := ih h.2 ((draft config child).run s).2
    rw [draftAll, List.flatMap_cons, List.filterMap_append, ← List.append_assoc, ← hchild.1]
    refine ⟨hrest.1, ?_⟩
    rw [← hrest.2, ← hchild.2]
    rfl

/-- Drafting a predicate notes what its alternatives become, in their order, and the lists that it
notes are those that stand in its condition. -/
theorem notes_draft (p : Predicate) :
    Notes (draft config p) Condition.lists (p.alternatives.filterMap (listing? config)) := by
  induction p using Predicate.treeInduction with
  | always =>
    rw [draft, Predicate.alternatives]
    exact fun s => ⟨(List.append_nil _).symm, rfl⟩
  | all children ih =>
    rw [draft, Predicate.alternatives, Predicate.alternativesOfAll_eq_flatMap]
    intro s
    obtain ⟨hlistings, hlists⟩ := notes_draftAll ih s
    exact ⟨hlistings, (lists_join _).1.trans hlists⟩
  | any children ih =>
    rw [Predicate.alternatives, Predicate.alternativesOfAll_eq_flatMap]
    by_cases hlistable : ∃ column values, Listable config children column values
    · obtain ⟨column, values, hlistable⟩ := hlistable
      rw [List.filterMap_cons_some (listing?_of_listable hlistable),
        hlistable.flatMap_alternatives_eq_nil, List.filterMap_nil]
      intro s
      rw [draft_any_of_listable hlistable]
      refine ⟨rfl, ?_⟩
      rw [Condition.lists, List.length_map, hlistable.length_eq]
    · intro s
      obtain ⟨hlistings, hlists⟩ := notes_draftAll ih s
      rw [draft_any_of_not_listable hlistable,
        List.filterMap_cons_none (listing?_of_not_listable hlistable)]
      exact ⟨hlistings, (lists_join _).2.trans hlists⟩
  | compare field test =>
    rw [draft, Predicate.alternatives]
    exact notes_draftComparison field test

/-! ## Lists as they are reported -/

/-- What is noted counts at least two values. -/
lemma two_le_of_listing? {listing : Listing} (h : listing? config children = some listing) :
    2 ≤ listing.count := by
  obtain ⟨⟨column, values⟩, hlist, rfl⟩ := Option.map_eq_some_iff.1 h
  exact le_of_max_le_right (valueList?_eq_some_iff.1 hlist).enough

/-- Two or more conditions that are joined are no list of values. -/
lemma foldl_or_ne_oneOf (left right : Condition) (rest : List Condition) (column : Column)
    (literals : List Literal) :
    rest.foldl Condition.or (Condition.or left right) ≠ Condition.oneOf column literals := by
  induction rest generalizing left right with
  | nil => exact nofun
  | cons c rest ih => exact ih (.or left right) c

/-- A group becomes one list of values that is reported with the number of its alternatives exactly
when it may, and then the values are those that the alternatives ask for, in their order. -/
theorem run_draft_any_eq_iff {literals : List Literal} {s : Draft} :
    (draft config (.any children)).run s = (.oneOf column literals,
        { s with listings := s.listings ++ [⟨column, children.length⟩] }) ↔
      ∃ values, literals = values.map literal ∧ Listable config children column values := by
  constructor
  · intro h
    by_cases hlistable : ∃ column values, Listable config children column values
    · obtain ⟨column', values, hlistable⟩ := hlistable
      rw [draft_any_of_listable hlistable, Prod.mk.injEq, Condition.oneOf.injEq] at h
      obtain ⟨⟨rfl, rfl⟩, -⟩ := h
      exact ⟨values, rfl, hlistable⟩
    · exfalso
      have hnoted := (@notes_draft config (.any children) s).1
      rw [h, Predicate.alternatives,
        List.filterMap_cons_none (listing?_of_not_listable hlistable)] at hnoted
      have hlength := (@forall₂_draftAll config children s).length_eq
      rw [draft_any_of_not_listable hlistable, Prod.mk.injEq] at h
      obtain ⟨hcondition, -⟩ := h
      generalize ((draftAll config children).run s).1 = conditions at hcondition hlength
      match conditions with
      | [] => cases hcondition
      | [c] =>
        -- The one alternative may have become a list, but that has at least two values.
        have hmem := List.append_cancel_left hnoted ▸ List.mem_singleton_self _
        obtain ⟨inside, -, hlisting⟩ := List.mem_filterMap.1 hmem
        have htwo := two_le_of_listing? hlisting
        rw [hlength] at htwo
        exact absurd htwo (Nat.not_succ_le_self 1)
      | left :: right :: rest => exact foldl_or_ne_oneOf left right rest _ _ hcondition
  · rintro ⟨values, rfl, hlistable⟩
    exact draft_any_of_listable hlistable s

end Sql

/-! ## Rules -/

namespace Rule

/-- The alternatives that a rule is, if it is a group joined by `or`. -/
def alternatives? : Rule → Option (List Rule)
  | group .or rules => some rules
  | _ => none

/-- The groups joined by `or` in a rule, in the order in which they are written. -/
def alternatives (rule : Rule) : List (List Rule) :=
  rule.parts.filterMap alternatives?

/-- The alternatives in a group are the group, if it is joined by `or`, and those in its rules. -/
lemma alternatives_group (connective : Connective) (rules : List Rule) :
    (group connective rules).alternatives =
      (alternatives? (group connective rules)).toList ++ rules.flatMap alternatives := by
  rw [alternatives, parts_group, List.filterMap_cons, List.filterMap_flatMap]
  cases connective <;> rfl

/-- The alternatives of a compiled rule are those of the rule, compiled. -/
theorem forall₂_alternatives {ctx : CompileContext} {rule : Rule} {p : Predicate}
    (h : rule.compile ctx = .ok p) :
    List.Forall₂ (fun rules children => compileAll ctx rules = .ok children) rule.alternatives
      p.alternatives := by
  induction rule using treeInduction generalizing p with
  | all =>
    rw [compile, Except.ok.injEq] at h
    rw [← h, Predicate.alternatives, alternatives, parts]
    exact .nil
  | leaf c =>
    rw [compile] at h
    obtain ⟨field, test, -, -, -, rfl⟩ := Comparison.compile_eq_ok_iff.1 h
    rw [Predicate.alternatives, alternatives, parts]
    exact .nil
  | group connective rules ih =>
    obtain ⟨ps, hps, rfl⟩ := compile_group_eq_ok_iff.1 h
    have hinside : List.Forall₂ (fun rules children => compileAll ctx rules = .ok children)
        (rules.flatMap alternatives) (ps.flatMap Predicate.alternatives) :=
      forall₂_flatMap hps fun rule hrule p hp => ih rule hrule hp
    rw [alternatives_group, Predicate.alternatives_ofGroup]
    cases connective with
    | and => exact hinside
    | or => exact .cons (compileAll_eq_ok_iff.2 hps) hinside

/-- Rules that ask one field for equality, each of them: a text that is no attribute, or the
status. -/
structure AskOneField (ctx : CompileContext) (rules : List Rule) (field : Field) : Prop where
  core : field.IsCore
  kind : field.valueKind = .text ∨ field = .revision .status
  equalities : ∀ rule ∈ rules, ∃ c, rule = .leaf c ∧ c.operator = .equal ∧
    c.Names ctx.family field

end Rule

namespace Sql

variable {ctx : CompileContext} {field : Field} {config : Config} {children : List Predicate}

/-- A test of equality with a value is made by the operator of equality, and not of a date. -/
lemma eq_equal_of_makes_equal {operator : Operator} {operands : List Scalar} {v : Scalar}
    (h : operator.Makes operands (.equal v)) :
    operator = .equal ∧ v.kind ≠ .date ∧ v ∈ operands := by
  generalize htest : ValueTest.equal v = test at h
  cases h with
  | equal hkind =>
    cases htest
    exact ⟨rfl, hkind, List.mem_cons_self⟩
  | ordering hkind hordering =>
    subst htest
    cases operator <;> cases hordering
  | _ => cases htest

/-- What is held in a column is a core field that holds a text, a date or the status. -/
lemma kind_of_column? {column : Column} (hcolumn : column? field = some column) :
    field.IsCore ∧
      (field.valueKind = .text ∨ field.valueKind = .date ∨ field = .revision .status) := by
  cases field with
  | dynamic owner kind name => cases hcolumn
  | revision f => exact ⟨nofun, by cases f <;> cases hcolumn <;> simp [Field.valueKind]⟩
  | master f => exact ⟨nofun, by cases f <;> simp [Field.valueKind]⟩
  | author f => exact ⟨nofun, Or.inl rfl⟩

/-- Only an equality of a text or of the status becomes a test of equality of a column. -/
lemma exists_leaf_of_compile_eq_equal {rule : Rule} {v : Scalar} {column : Column}
    (hcolumn : column? field = some column)
    (h : rule.compile ctx = .ok (.compare field (.equal v))) :
    (field.valueKind = .text ∨ field = .revision .status) ∧
      ∃ c, rule = .leaf c ∧ c.operator = .equal ∧ c.Names ctx.family field := by
  cases rule with
  | all =>
    rw [Rule.compile] at h
    cases h
  | group connective rules =>
    obtain ⟨ps, -, hgroup⟩ := Rule.compile_group_eq_ok_iff.1 h
    cases connective with
    | or => cases hgroup
    | and =>
      unfold Predicate.ofGroup at hgroup
      simp only at hgroup
      split at hgroup <;> cases hgroup
  | leaf c =>
    rw [Rule.compile] at h
    obtain ⟨found, test, hname, hfamily, htest, hcompare⟩ := Comparison.compile_eq_ok_iff.1 h
    obtain ⟨rfl, rfl⟩ := Predicate.compare.inj hcompare
    have htested : c.Tested ctx.timezone field.valueKind (.equal v) :=
      Comparison.tested_of_test htest
    generalize hkind : field.valueKind = kind at htested
    cases htested with
    | value hread hkinds hmakes =>
      obtain ⟨hoperator, hdate, hv⟩ := eq_equal_of_makes_equal hmakes
      refine ⟨?_, c, rfl, hoperator, hname, hfamily⟩
      have hnodate : field.valueKind ≠ .date := by
        rw [hkind, ← hkinds v hv]
        exact hdate
      rw [← hkind]
      exact (kind_of_column? hcolumn).2.imp_right fun hheld => hheld.resolve_left hnodate

/-- Texts and the status are no dates and no labels, and they are looked at. -/
lemma valueKind_ne_of_text_or_status (hkind : field.valueKind = .text ∨ field = .revision .status) :
    field.valueKind ≠ .date ∧ field.valueKind ≠ .unchecked ∧ field.valueKind ≠ .tags := by
  rcases hkind with hkind | rfl
  · rw [hkind]
    decide
  · decide

/-- An equality of a text or of the status becomes a test of equality. -/
lemma exists_equal_of_compile {c : Comparison} (hnames : c.Names ctx.family field)
    (hkind : field.valueKind = .text ∨ field = .revision .status) (hoperator : c.operator = .equal)
    {p : Predicate} (h : (Rule.leaf c).compile ctx = .ok p) :
    ∃ v, p = .compare field (.equal v) := by
  obtain ⟨hdate, hunchecked, htags⟩ := valueKind_ne_of_text_or_status hkind
  obtain ⟨test, rfl, htested⟩ := Comparison.exists_tested hnames h
  generalize field.valueKind = kind at hdate hunchecked htags htested
  cases htested with
  | unchecked => exact absurd rfl hunchecked
  | tagsAny => exact absurd rfl htags
  | tagsNone => exact absurd rfl htags
  | value hread hkinds hmakes =>
    rw [hoperator] at hmakes
    cases hmakes with
    | day hstop => exact absurd (hkinds _ List.mem_cons_self).symm hdate
    | equal hvalue => exact ⟨_, rfl⟩
    | ordering hordered hordering => cases hordering
    | like hmode => cases hmode

/-- A core text and the status are held in columns, and not read from the last iteration only. -/
lemma exists_column?_eq_some (hcore : field.IsCore)
    (hkind : field.valueKind = .text ∨ field = .revision .status) :
    (∃ column, column? field = some column) ∧
      field ≠ .revision .checkInDate ∧ field ≠ .revision .modificationDate := by
  obtain ⟨hdate, hvalue⟩ := valueKind_ne_of_text_or_status hkind
  refine ⟨?_, ?_, ?_⟩
  · rcases dynamic_or_exists_column hvalue with ⟨owner, kind, name, hdynamic⟩ | hcolumn
    · exact absurd hdynamic (hcore owner kind name)
    · exact hcolumn
  · rintro rfl
    exact hdate rfl
  · rintro rfl
    exact hdate rfl

/-- Comparisons that ask one field for equality with something ask it for a list of values. -/
lemma exists_eq_map (h : ∀ child ∈ children, ∃ v, child = .compare field (.equal v)) :
    ∃ values : List Scalar, children = values.map fun v => .compare field (.equal v) := by
  induction children with
  | nil => exact ⟨[], rfl⟩
  | cons child rest ih =>
    rw [List.forall_mem_cons] at h
    obtain ⟨⟨v, rfl⟩, hrest⟩ := h
    obtain ⟨values, rfl⟩ := ih hrest
    exact ⟨v :: values, rfl⟩

/-- The rules of a group become one list of values exactly when there are enough of them and they
all ask one core text or the status for equality. -/
theorem listable_iff_of_compileAll {rules : List Rule}
    (h : Rule.compileAll ctx rules = .ok children) :
    (∃ column values, Listable config children column values) ↔
      max config.listThreshold 2 ≤ rules.length ∧ ∃ field, Rule.AskOneField ctx rules field := by
  have hpairs := Rule.compileAll_eq_ok_iff.1 h
  rw [hpairs.length_eq]
  constructor
  · rintro ⟨column, values, henough, field, hcolumn, -, hchildren⟩
    have hleaf : ∀ rule ∈ rules, (field.valueKind = .text ∨ field = .revision .status) ∧
        ∃ c, rule = .leaf c ∧ c.operator = .equal ∧ c.Names ctx.family field := by
      intro rule hrule
      obtain ⟨child, hchild, hcompile⟩ := exists_right_of_mem_left hpairs hrule
      rw [hchildren] at hchild
      obtain ⟨v, -, rfl⟩ := List.mem_map.1 hchild
      exact exists_leaf_of_compile_eq_equal hcolumn hcompile
    have hsome : rules ≠ [] := by
      rintro rfl
      rw [← hpairs.length_eq] at henough
      exact absurd (le_of_max_le_right henough) (Nat.not_succ_le_zero 1)
    obtain ⟨rule, hrule⟩ := List.exists_mem_of_ne_nil rules hsome
    exact ⟨henough, field, (kind_of_column? hcolumn).1, (hleaf rule hrule).1,
      fun rule hrule => (hleaf rule hrule).2⟩
  · rintro ⟨henough, field, hcore, hkind, hequalities⟩
    obtain ⟨⟨column, hcolumn⟩, hlast⟩ := exists_column?_eq_some hcore hkind
    have hchildren : ∀ child ∈ children, ∃ v, child = .compare field (.equal v) := by
      intro child hchild
      obtain ⟨rule, hrule, hcompile⟩ := exists_left_of_mem_right hpairs hchild
      obtain ⟨c, rfl, hoperator, hnames⟩ := hequalities rule hrule
      exact exists_equal_of_compile hnames hkind hoperator hcompile
    obtain ⟨values, hvalues⟩ := exists_eq_map hchildren
    exact ⟨column, values, henough, field, hcolumn, hlast, hvalues⟩

/-! ## Statements -/

/-- The statements of a predicate report what drafting it notes, which are the lists of values in
their conditions; the condition for path data has one more before them, the identities. -/
lemma listings_statement (config : Config) (p : Predicate) :
    (∀ workspace selects orderBy,
      (revisionStatement config p workspace selects orderBy).listings =
          p.alternatives.filterMap (listing? config) ∧
        (revisionStatement config p workspace selects orderBy).select.filter.lists =
          p.alternatives.filterMap (listing? config)) ∧
    ∀ ids, (pathStatement config p ids).listings = p.alternatives.filterMap (listing? config) ∧
      (pathStatement config p ids).select.filter.lists =
        ⟨idOf .pathData, ids.length⟩ :: p.alternatives.filterMap (listing? config) := by
  obtain ⟨hlistings, hlists⟩ := @notes_draft config p {}
  rw [List.nil_append] at hlistings
  refine ⟨fun workspace selects orderBy => ⟨hlistings, ?_⟩, fun ids => ⟨hlistings, ?_⟩⟩
  · change (Condition.conjunction [_, ((draft config p).run {}).1, checkedIn config]).lists = _
    rw [(lists_join _).1, ← hlists]
    simp [Condition.lists, checkedIn]
  · change (Condition.conjunction [_, ((draft config p).run {}).1]).lists = _
    rw [(lists_join _).1, ← hlists]
    simp [Condition.lists]

/-- Alternatives become one list of values exactly when they may, in whatever state they are
drafted. Then the list has the values that they ask for, in their order, it is noted with its column
and their number, and no table is numbered. Otherwise they are drafted one by one from the state in
which they were found.

Drafting a predicate notes its alternatives that may be listed, in their order, and nothing else,
and these are the lists of values in its condition; and so do the statements. In a compiled rule the
alternatives are the groups joined by `or`, and of these only those may be listed that consist of
equalities of one core text or of the status, so that dates never are. -/
theorem lists_replace_alternatives (config : Config) :
    (∀ children column literals s,
      (draft config (.any children)).run s = (.oneOf column literals,
          { s with listings := s.listings ++ [⟨column, children.length⟩] }) ↔
        ∃ values, literals = values.map literal ∧ Listable config children column values) ∧
    (∀ children s, (¬∃ column values, Listable config children column values) →
      (draft config (.any children)).run s = (.disjunction ((draftAll config children).run s).1,
        ((draftAll config children).run s).2)) ∧
    (∀ children listing, listing? config children = some listing ↔
      listing.count = children.length ∧
        ∃ values, Listable config children listing.column values) ∧
    (∀ p, Notes (draft config p) Condition.lists (p.alternatives.filterMap (listing? config))) ∧
    (∀ p workspace selects orderBy,
      (revisionStatement config p workspace selects orderBy).listings =
          p.alternatives.filterMap (listing? config) ∧
        (revisionStatement config p workspace selects orderBy).select.filter.lists =
          p.alternatives.filterMap (listing? config)) ∧
    (∀ p ids, (pathStatement config p ids).listings = p.alternatives.filterMap (listing? config)) ∧
    ∀ (ctx : CompileContext) (rule : Rule) (p : Predicate), rule.compile ctx = .ok p →
      List.Forall₂ (fun rules children => Rule.compileAll ctx rules = .ok children ∧
        ((∃ column values, Listable config children column values) ↔
          max config.listThreshold 2 ≤ rules.length ∧ ∃ field, Rule.AskOneField ctx rules field))
        rule.alternatives p.alternatives := by
  refine ⟨?_, ?_, ?_, notes_draft, ?_, ?_, ?_⟩
  · intro children column literals s
    exact run_draft_any_eq_iff
  · intro children s h
    exact draft_any_of_not_listable h s
  · rintro children ⟨column, count⟩
    simp only [listing?, Option.map_eq_some_iff, Prod.exists, valueList?_eq_some_iff,
      Listing.mk.injEq]
    constructor
    · rintro ⟨column, values, hlistable, rfl, rfl⟩
      exact ⟨rfl, values, hlistable⟩
    · rintro ⟨rfl, values, hlistable⟩
      exact ⟨column, values, hlistable, rfl, rfl⟩
  · intro p workspace selects orderBy
    exact (listings_statement config p).1 workspace selects orderBy
  · intro p ids
    exact ((listings_statement config p).2 ids).1
  · intro ctx rule p h
    refine (Rule.forall₂_alternatives h).imp ?_
    intro rules children hcompile
    exact ⟨hcompile, listable_iff_of_compileAll hcompile⟩

/-- Alternatives that ask for two part numbers, one of them twice. -/
def numberAlternatives : List Rule :=
  [.leaf ⟨"pm.number", .equal, ["bell"], .string⟩, .leaf ⟨"pm.number", .equal, ["wheel"], .string⟩,
    .leaf ⟨"pm.number", .equal, ["bell"], .string⟩]

/-- They become one list of three values, even if the configuration asks for no alternatives, and
they ask one field for equality. -/
theorem numberAlternatives_listed :
    ∃ p, (Rule.group .or numberAlternatives).compile ⟨.revision, Offset.zero⟩ = .ok p ∧
      ((draft { (default : Config) with listThreshold := 0 } p).run {}).1.lists =
        [⟨⟨.master, "number"⟩, 3⟩] ∧
      ∃ field, Rule.AskOneField ⟨.revision, Offset.zero⟩ numberAlternatives field := by
  obtain ⟨-, -, hlisting, hnotes, -, -, hrules⟩ :=
    lists_replace_alternatives { (default : Config) with listThreshold := 0 }
  let values : List Scalar := [.text "bell", .text "wheel", .text "bell"]
  let children : List Predicate := values.map fun v => .compare (.master .number) (.equal v)
  have hlistable : Listable { (default : Config) with listThreshold := 0 } children
      ⟨.master, "number"⟩ values :=
    ⟨by decide, .master .number, rfl, ⟨nofun, nofun⟩, rfl⟩
  have hlisted := (hlisting children ⟨⟨.master, "number"⟩, 3⟩).2 ⟨rfl, values, hlistable⟩
  have hp : (Rule.group .or numberAlternatives).compile ⟨.revision, Offset.zero⟩ =
      .ok (.any children) := rfl
  refine ⟨_, hp, ?_, ?_⟩
  · rw [(hnotes _ {}).2, Predicate.alternatives, List.filterMap_cons_some hlisted]
    rfl
  · obtain ⟨-, hiff⟩ := (List.forall₂_cons.1 (hrules _ _ _ hp)).1
    exact (hiff.1 ⟨_, _, hlistable⟩).2

end Sql
end PartQuery
