import PartQuery.Proofs.Sql.Conditions
import PartQuery.Proofs.Sql.Storage

/-!
# Sub-selections

Labels and attributes are held in tables of their own, and whether an iteration is the last one is
found by counting rows. The sub-selections that do this look at the rows that belong to the row
around them, by its identity. Where a dataset is stored, they find what the dataset has: identities
differ, so no rows of other entities are found, and a reference leads to the row of its part only.
-/

namespace PartQuery.Sql

variable {d : Dataset} {layout : Layout d} {config : Config} {db : Database} {b : Binding}

/-! ## Existence -/

/-- A selection exists exactly when it yields a row. -/
lemma eval_exist {select : Select} {negated : Bool} :
    (Condition.exist select negated).eval db b = some true ↔
      ((∃ row, row ∈ select.projection.yield (select.bindings db b)) ↔ negated = false) := by
  rw [Condition.eval]
  cases select.projection.yield (select.bindings db b) <;> cases negated <;> simp

/-- A selection that only asks for existence yields a row exactly when all its conditions are true
of some joined row. -/
lemma exists_mem_yield_existing {table : TableRef} {joins : List Join}
    {conditions : List Condition} :
    (∃ row, row ∈ (existing table joins conditions).projection.yield
        ((existing table joins conditions).bindings db b)) ↔
      ∃ b' ∈ joins.foldl (Join.extend db) (b.scan db table),
        ∀ c ∈ conditions, c.eval db b' = some true := by
  simp only [existing, Select.projection, Projection.yield, List.mem_map, mem_bindings_mk,
    eval_conjunction]
  constructor
  · rintro ⟨-, b', ⟨hb', hall⟩, -⟩
    exact ⟨b', hb', hall⟩
  · rintro ⟨b', hb', hall⟩
    exact ⟨_, b', ⟨hb', hall⟩, rfl⟩

/-- Without joins, rows of the table are asked for, or their absence. -/
lemma eval_exist_existing {table : TableRef} {conditions : List Condition} {negated : Bool} :
    (Condition.exist (existing table [] conditions) negated).eval db b = some true ↔
      ((∃ t ∈ db table.table, ∀ c ∈ conditions, c.eval db (b.bind table.name t) = some true) ↔
        negated = false) := by
  rw [eval_exist, exists_mem_yield_existing, List.foldl_nil]
  refine iff_congr ⟨?_, ?_⟩ Iff.rfl
  · rintro ⟨b', hb', hall⟩
    obtain ⟨t, ht, rfl⟩ := mem_scan.1 hb'
    exact ⟨t, ht, hall⟩
  · rintro ⟨t, ht, hall⟩
    exact ⟨_, mem_scan.2 ⟨t, ht, rfl⟩, hall⟩

/-- With one join, a row of the further table that agrees is asked for as well. -/
lemma eval_exist_existing_join {table : TableRef} {join : Join} {conditions : List Condition} :
    (Condition.exist (existing table [join] conditions) false).eval db b = some true ↔
      ∃ t ∈ db table.table, ∃ u ∈ db join.table.table,
        related (((b.bind table.name t).bind join.table.name u).value join.left) .equal
            (((b.bind table.name t).bind join.table.name u).value join.right) = some true ∧
          ∀ c ∈ conditions,
            c.eval db ((b.bind table.name t).bind join.table.name u) = some true := by
  rw [eval_exist, exists_mem_yield_existing, List.foldl_cons, List.foldl_nil]
  refine (iff_true_right rfl).trans ⟨?_, ?_⟩
  · rintro ⟨b', hb', hall⟩
    obtain ⟨b₁, hb₁, u, hu, rfl, hrelated⟩ := mem_extend.1 hb'
    obtain ⟨t, ht, rfl⟩ := mem_scan.1 hb₁
    exact ⟨t, ht, u, hu, hrelated, hall⟩
  · rintro ⟨t, ht, u, hu, hrelated, hall⟩
    exact ⟨_, mem_extend.2 ⟨_, mem_scan.2 ⟨t, ht, rfl⟩, u, hu, rfl, hrelated⟩, hall⟩

/-! ## Labels -/

/-- Labels are found exactly when the revision has one of them. -/
lemma eval_tagSelect (hstored : layout.StoredIn config db) {r : RevisionRecord}
    (hr : r ∈ layout.revisions) (hrevision : b .revision "id" = some (.integer r.id))
    {labels : List String} {negated : Bool} (s : Draft) :
    (Condition.exist ((tagSelect config labels).run s).1 negated).eval db b = some true ↔
      (labels.any r.revision.tags.contains = true ↔ negated = false) := by
  have hrows : Rows (db (config.table "Tag")) (layout.cells .tag) := hstored .tag
  let tag : Alias := .sub (s.numbered + 1)
  let conditions : List Condition := [.sameColumn ⟨tag, "part_revision_id"⟩ (idOf .revision),
    .oneOf ⟨tag, "label"⟩ (labels.map .text)]
  have hrow : ∀ (t : Tuple) (r' : RevisionRecord) (label : String), t.Has (tagCells r' label) →
      ((∀ c ∈ conditions, c.eval db (b.bind tag t) = some true) ↔
        r'.id = r.id ∧ label ∈ labels) := by
    intro t r' label hhas
    have hid : t "part_revision_id" = some (.integer r'.id) := hhas.cell (by simp [tagCells])
    have hlabel : t "label" = some (.text label) := hhas.cell (by simp [tagCells])
    simp [conditions, tag, Condition.eval, idOf, hid, hlabel, hrevision]
  change (Condition.exist (existing ⟨config.table "Tag", tag⟩ [] conditions) negated).eval db b =
    some true ↔ _
  rw [eval_exist_existing, List.any_eq_true]
  refine iff_congr ⟨?_, ?_⟩ Iff.rfl
  · rintro ⟨t, ht, hall⟩
    obtain ⟨c, hc, hhas⟩ := hrows.exists_cells ht
    obtain ⟨r', hr', hc⟩ := List.mem_flatMap.1 hc
    obtain ⟨label, hlabel, rfl⟩ := List.mem_map.1 hc
    obtain ⟨hid, hmem⟩ := (hrow t r' label hhas).1 hall
    obtain rfl : r' = r := List.inj_on_of_nodup_map layout.revisions_distinct hr' hr hid
    exact ⟨label, hmem, List.contains_iff_mem.2 hlabel⟩
  · rintro ⟨label, hmem, hlabel⟩
    have hcells : tagCells r label ∈ layout.cells .tag :=
      List.mem_flatMap.2 ⟨r, hr, List.mem_map_of_mem (List.contains_iff_mem.1 hlabel)⟩
    obtain ⟨t, ht, hhas⟩ := hrows.exists_row hcells
    exact ⟨t, ht, (hrow t r label hhas).2 ⟨rfl, hmem⟩⟩

/-! ## The last iteration -/

/-- An iteration has the number of the last one exactly when it is the number of iterations. -/
lemma eval_lastIteration (hstored : layout.StoredIn config db) {r : RevisionRecord}
    (hr : r ∈ layout.revisions) (hrevision : b .revision "id" = some (.integer r.id)) {n : Nat}
    (hnumber : b .iteration "iteration" = some (.integer n)) (s : Draft) :
    ((lastIteration config).run s).1.eval db b = some true ↔ n = r.iterations.length := by
  have hrows : Rows (db (config.table "PartIteration"))
      (layout.iterations.map iterationCells) := hstored .iteration
  let sibling : Alias := .sub (s.numbered + 1)
  let same : Condition := .sameColumn ⟨sibling, "part_revision_id"⟩ (idOf .revision)
  let select : Select := .mk .count ⟨config.table "PartIteration", sibling⟩ [] same []
  have hsame : ∀ (i : RevisionRecord × Recorded Iteration) (t : Tuple), t.Has (iterationCells i) →
      (same.eval db (b.bind sibling t) == some true) = decide (i.1.id = r.id) := by
    intro i t hhas
    have hid : t "part_revision_id" = some (.integer i.1.id) :=
      hhas.cell (by simp [iterationCells])
    rw [Bool.eq_iff_iff]
    simp [same, sibling, Condition.eval, idOf, hid, hrevision]
  have hcount : (select.bindings db b).length = r.iterations.length := by
    calc (select.bindings db b).length
        = (db (config.table "PartIteration")).countP
            (fun t => same.eval db (b.bind sibling t) == some true) := by
          rw [Select.bindings, List.foldl_nil, Binding.scan, ← List.countP_eq_length_filter,
            List.countP_map]
          rfl
      _ = layout.iterations.countP (·.1.id = r.id) := hrows.countP_eq hsame
      _ = r.iterations.length := Layout.countP_iterations hr
  change (Condition.counted ⟨.iteration, "iteration"⟩ select).eval db b = some true ↔ _
  rw [Condition.eval]
  change Truth.any [related (b .iteration "iteration") .equal
    (some (.integer (select.bindings db b).length))] = some true ↔ _
  rw [hcount, hnumber, Truth.any_eq_true, List.mem_singleton, eq_comm, related_some_some,
    holds_equal_integer, Int.ofNat_inj]

/-! ## Attributes -/

/-- Values of attributes are of the kind that the attribute holds. -/
lemma kind_of_mem_scalar? {a : AttributeValue} : ∀ v ∈ a.scalar?, v.kind = a.kind.valueKind := by
  intro v hv
  cases a with
  | partNumber part =>
    obtain ⟨target, -, rfl⟩ := Option.map_eq_some_iff.1 hv
    rfl
  | _ =>
    cases hv
    rfl

/-- A value of some kind passes a test exactly when it has that kind and passes. -/
lemma any_scalarOf?_iff {a : AttributeValue} {kind : AttributeKind} {test : Scalar → Bool} :
    (a.scalarOf? kind).any test = true ↔ a.kind = kind ∧ a.scalar?.any test = true := by
  unfold AttributeValue.scalarOf?
  by_cases hkind : a.kind = kind <;> simp [hkind]

/-- The row of an attribute is found by its name and its owner. -/
lemma eval_named_iff {partId : PartReference → Int} {a : AttributeRecord} {t : Tuple}
    (hhas : t.Has (attributeCells partId a)) {owner : Family} {ownerId : Int} {held : Alias}
    {name : String} (hname : b held "name" = t "name")
    (hheld : b held (attributeOwner owner).1 = t (attributeOwner owner).1)
    (howner : b.value (idOf (attributeOwner owner).2) = some (.integer ownerId)) :
    (∀ c ∈ [Condition.compare ⟨held, "name"⟩ .equal (.text name),
        .sameColumn ⟨held, (attributeOwner owner).1⟩ (idOf (attributeOwner owner).2)],
      c.eval db b = some true) ↔
      a.entity.name = name ∧ a.owner = owner ∧ a.ownerId = ownerId := by
  have hname' : t "name" = some (.text a.entity.name) := hhas.cell (by simp [attributeCells])
  have howned : t (attributeOwner owner).1 =
      if a.owner = owner then some (.integer a.ownerId) else none := by
    cases owner with
    | revision => exact hhas.cell (by simp [attributeCells])
    | pathData => exact hhas.cell (by simp [attributeCells])
  simp only [List.forall_mem_cons, List.not_mem_nil, false_implies, implies_true, and_true,
    Condition.eval, Binding.value_mk, hname, hname', hheld, howned, howner, related_some_some,
    holds_equal_text]
  by_cases hsame : a.owner = owner <;> simp [hsame]

section Attributes

variable {owner : Family} {ownerId : Int} {kind : AttributeKind} {name : String}
  {operator : Operator} {operands : List Scalar} {test : ValueTest}

/-- The stored attributes of an owner that have a kind and a name and pass a test. -/
def Layout.Finds (layout : Layout d) (owner : Family) (ownerId : Int) (kind : AttributeKind)
    (name : String) (test : ValueTest) : Prop :=
  ∃ a ∈ layout.attributes, a.entity.value.kind = kind ∧
    (a.entity.name = name ∧ a.owner = owner ∧ a.ownerId = ownerId) ∧
    a.entity.value.scalar?.any test.passes = true

/-- The rows that ask for such an attribute are the rows of such attributes. -/
lemma exists_row_iff_finds (hstored : layout.StoredIn config db) {Q : Tuple → Prop}
    (hrow : ∀ (t : Tuple), ∀ a ∈ layout.attributes, t.Has (attributeCells layout.partId a) →
      a.entity.value.kind = kind →
      (Q t ↔ (a.entity.name = name ∧ a.owner = owner ∧ a.ownerId = ownerId) ∧
        a.entity.value.scalar?.any test.passes = true)) :
    (∃ t ∈ db (config.table (attributeStorage kind).1), Q t) ↔
      layout.Finds owner ownerId kind name test := by
  have hrows : Rows (db (config.table (attributeStorage kind).1))
      ((layout.attributes.filter (·.entity.value.kind = kind)).map
        (attributeCells layout.partId)) := hstored (.attributes kind)
  constructor
  · rintro ⟨t, ht, hQ⟩
    obtain ⟨a, ha, hhas⟩ := hrows.exists_record ht
    obtain ⟨ha, hkind⟩ := List.mem_filter.1 ha
    have hkind : a.entity.value.kind = kind := of_decide_eq_true hkind
    exact ⟨a, ha, hkind, (hrow t a ha hhas hkind).1 hQ⟩
  · rintro ⟨a, ha, hkind, hfound⟩
    obtain ⟨t, ht, hhas⟩ :=
      hrows.exists_row_of_record (List.mem_filter.2 ⟨ha, decide_eq_true hkind⟩)
    exact ⟨t, ht, (hrow t a ha hhas hkind).2 hfound⟩

/-- The tables of sub-selections hide none of the tables around them. -/
lemma value_owner_bind_sub {n : Nat} {t : Tuple} :
    (b.bind (.sub n) t).value (idOf (attributeOwner owner).2) =
      b.value (idOf (attributeOwner owner).2) := by
  cases owner <;> simp [attributeOwner, idOf]

/-- Only of a reference something else than its value is stored. -/
lemma storedValue_of_ne {partId : PartReference → Int} {v : AttributeValue}
    (h : v.kind ≠ .partNumber) : storedValue partId v = v.scalar?.map literal := by
  cases v <;> first | rfl | exact absurd rfl h

/-- An attribute that is no reference is tested by its own row. -/
lemma eval_attributeSelect_value (hstored : layout.StoredIn config db)
    (howner : b.value (idOf (attributeOwner owner).2) = some (.integer ownerId))
    (hkind : kind ≠ .partNumber) (hmakes : operator.Makes operands test)
    (hkinds : ∀ w ∈ operands, w.kind = kind.valueKind) (s : Draft) :
    (Condition.exist ((attributeSelect config owner kind name test).run s).1 false).eval db b =
      some true ↔ layout.Finds owner ownerId kind name test := by
  let held : Alias := .sub (s.numbered + 1)
  let named : List Condition := [.compare ⟨held, "name"⟩ .equal (.text name),
    .sameColumn ⟨held, (attributeOwner owner).1⟩ (idOf (attributeOwner owner).2)]
  have hselect : ((attributeSelect config owner kind name test).run s).1 =
      existing ⟨config.table (attributeStorage kind).1, held⟩ []
        (named ++ [testCondition ⟨held, (attributeStorage kind).2⟩ test]) := by
    unfold attributeSelect
    simp only [if_neg hkind]
    rfl
  rw [hselect, eval_exist_existing]
  refine (iff_true_right rfl).trans (exists_row_iff_finds hstored ?_)
  intro t a _ hhas ha
  have hvalue : t (attributeStorage kind).2 = a.entity.value.scalar?.map literal := by
    rw [← @storedValue_of_ne layout.partId _ (ha ▸ hkind), ← ha]
    exact hhas.cell (by simp [attributeCells])
  rw [List.forall_mem_append, List.forall_mem_singleton]
  refine and_congr (eval_named_iff hhas ?_ ?_ ?_) (eval_testCondition hmakes hkinds ?_ ?_)
  · exact congrFun (Binding.bind_self b held t) "name"
  · exact congrFun (Binding.bind_self b held t) _
  · rw [value_owner_bind_sub, howner]
  · exact fun v hv => ha ▸ kind_of_mem_scalar? v hv
  · rw [Binding.value_mk, Binding.bind_self, hvalue]

/-- The row of the part that a reference leads to is tested by its number. -/
lemma exists_part_iff (hstored : layout.StoredIn config db) {a : AttributeRecord}
    (ha : a ∈ layout.attributes) (hkind : a.entity.value.kind = .partNumber) {Q : Tuple → Prop}
    {passes : Scalar → Bool} (hQ : ∀ (u : Tuple) (number : String),
      u "number" = some (.text number) → (Q u ↔ passes (.text number) = true)) :
    (∃ u ∈ db (config.table "PartMaster"),
        related (u "id") .equal (storedValue layout.partId a.entity.value) = some true ∧ Q u) ↔
      a.entity.value.scalar?.any passes = true := by
  have hmasters : Rows (db (config.table "PartMaster")) (layout.masters.map masterCells) :=
    hstored .master
  obtain ⟨target, hvalue⟩ : ∃ target, a.entity.value = .partNumber target := by
    cases hcase : a.entity.value with
    | partNumber target => exact ⟨target, rfl⟩
    | _ => rw [hcase] at hkind; cases hkind
  rw [hvalue]
  cases target with
  | none => simp [storedValue, AttributeValue.scalar?]
  | some part =>
    obtain ⟨m, hm, hid, -, hnumber⟩ := layout.part_mem a ha part hvalue
    change (∃ u ∈ db (config.table "PartMaster"),
      related (u "id") .equal (some (.integer (layout.partId part))) = some true ∧ Q u) ↔
        passes (.text part.number) = true
    constructor
    · rintro ⟨u, hu, hrelated, hpasses⟩
      obtain ⟨m', hm', hmaster⟩ := hmasters.exists_record hu
      have hid' : u "id" = some (.integer m'.id) := hmaster.cell (by simp [masterCells])
      rw [hid', related_some_some, holds_equal_integer, ← hid] at hrelated
      obtain rfl : m' = m := List.inj_on_of_nodup_map layout.masters_distinct hm' hm hrelated
      exact (hQ u part.number (hnumber ▸ hmaster.cell (by simp [masterCells]))).1 hpasses
    · intro hpasses
      obtain ⟨u, hu, hmaster⟩ := hmasters.exists_row_of_record hm
      have hid' : u "id" = some (.integer m.id) := hmaster.cell (by simp [masterCells])
      refine ⟨u, hu, ?_, ?_⟩
      · rw [hid', related_some_some, holds_equal_integer, hid]
      · exact (hQ u part.number (hnumber ▸ hmaster.cell (by simp [masterCells]))).2 hpasses

/-- A reference is tested by the row of its part. -/
lemma eval_attributeSelect_reference (hstored : layout.StoredIn config db)
    (howner : b.value (idOf (attributeOwner owner).2) = some (.integer ownerId))
    (hmakes : operator.Makes operands test) (hkinds : ∀ w ∈ operands, w.kind = .text) (s : Draft) :
    (Condition.exist ((attributeSelect config owner .partNumber name test).run s).1 false).eval
      db b = some true ↔ layout.Finds owner ownerId .partNumber name test := by
  let held : Alias := .sub (s.numbered + 1)
  let part : Alias := .sub (s.numbered + 1 + 1)
  let named : List Condition := [.compare ⟨held, "name"⟩ .equal (.text name),
    .sameColumn ⟨held, (attributeOwner owner).1⟩ (idOf (attributeOwner owner).2)]
  have hselect : ((attributeSelect config owner .partNumber name test).run s).1 =
      existing ⟨config.table (attributeStorage .partNumber).1, held⟩
        [⟨⟨config.table "PartMaster", part⟩, idOf part, ⟨held, "part_master_id"⟩⟩]
        (named ++ [testCondition ⟨part, "number"⟩ test]) := rfl
  have hne : held ≠ part := by simp [held, part]
  rw [hselect, eval_exist_existing_join]
  refine exists_row_iff_finds hstored ?_
  intro t a ha hhas hkind
  have hreference : t "part_master_id" = storedValue layout.partId a.entity.value := by
    refine hhas.cell ?_
    simp [attributeCells, attributeStorage, hkind]
  have hjoin : ∀ u : Tuple,
      related (((b.bind held t).bind part u).value (idOf part)) .equal
          (((b.bind held t).bind part u).value ⟨held, "part_master_id"⟩) =
        related (u "id") .equal (storedValue layout.partId a.entity.value) := by
    intro u
    rw [idOf, Binding.value_mk, Binding.value_mk, Binding.bind_self, Binding.bind_of_ne hne,
      Binding.bind_self, hreference]
  have hnamed : ∀ u : Tuple,
      (∀ c ∈ named, c.eval db ((b.bind held t).bind part u) = some true) ↔
        a.entity.name = name ∧ a.owner = owner ∧ a.ownerId = ownerId := by
    intro u
    refine eval_named_iff hhas ?_ ?_ ?_
    · rw [Binding.bind_of_ne hne, Binding.bind_self]
    · rw [Binding.bind_of_ne hne, Binding.bind_self]
    · rw [value_owner_bind_sub, value_owner_bind_sub, howner]
  have htest : ∀ (u : Tuple) (number : String), u "number" = some (.text number) →
      ((testCondition ⟨part, "number"⟩ test).eval db ((b.bind held t).bind part u) = some true ↔
        test.passes (.text number) = true) := by
    intro u number hnumber
    refine eval_testCondition hmakes hkinds (x := some (.text number)) ?_ ?_
    · rintro v ⟨⟩
      rfl
    · rw [Binding.value_mk, Binding.bind_self, hnumber]
      rfl
  simp only [List.forall_mem_append, List.forall_mem_singleton, hjoin, hnamed]
  rw [← exists_part_iff hstored ha hkind htest]
  constructor
  · rintro ⟨u, hu, hrelated, hnames, hpasses⟩
    exact ⟨hnames, u, hu, hrelated, hpasses⟩
  · rintro ⟨hnames, u, hu, hrelated, hpasses⟩
    exact ⟨u, hu, hrelated, hnames, hpasses⟩

/-- The attributes that a sub-selection finds are those of its owner. -/
theorem eval_attributeSelect (hstored : layout.StoredIn config db) {attributes : List Attribute}
    (howner : b.value (idOf (attributeOwner owner).2) = some (.integer ownerId))
    (hattributes : ∀ a, ⟨owner, ownerId, a⟩ ∈ layout.attributes ↔ a ∈ attributes)
    (hmakes : operator.Makes operands test) (hkinds : ∀ w ∈ operands, w.kind = kind.valueKind)
    (s : Draft) :
    (Condition.exist ((attributeSelect config owner kind name test).run s).1 false).eval db b =
      some true ↔ hasAttribute attributes kind name test.passes = true := by
  have hfinds : layout.Finds owner ownerId kind name test ↔
      hasAttribute attributes kind name test.passes = true := by
    simp only [hasAttribute_iff, any_scalarOf?_iff]
    constructor
    · rintro ⟨⟨owner', ownerId', a⟩, ha, hkind, ⟨hname, rfl, rfl⟩, hpasses⟩
      exact ⟨a, (hattributes a).1 ha, hname, hkind, hpasses⟩
    · rintro ⟨a, ha, hname, hkind, hpasses⟩
      exact ⟨⟨owner, ownerId, a⟩, (hattributes a).2 ha, hkind, ⟨hname, rfl, rfl⟩, hpasses⟩
  rw [← hfinds]
  by_cases hkind : kind = .partNumber
  · subst hkind
    exact eval_attributeSelect_reference hstored howner hmakes hkinds s
  · exact eval_attributeSelect_value hstored howner hkind hmakes hkinds s

end Attributes

end PartQuery.Sql
