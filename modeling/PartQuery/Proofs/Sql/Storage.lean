import Mathlib.Data.List.Nodup
import PartQuery.Proofs.Compiled
import PartQuery.Proofs.Sql.Evaluation
import PartQuery.Sql.Statement

/-!
# How entities are stored

A dataset is stored faithfully when every table holds one row for each entity of its kind. Rows have
identities, chosen at will as long as those of one table differ, and rows that belong together name
each other by them. A `Layout` is such a choice for a dataset; `Layout.cells` lists what the rows of
each table must hold, in any order and beside whatever else. What a dataset leaves open, such as an
unset date or a reference to no part, is an empty cell.

Any layout can be stored, provided that the configuration gives every kind of entity a table of its
own (`storedIn_database`).
-/

namespace PartQuery.Sql

/-! ## Kinds of rows -/

/-- The kinds of entities that have a table. -/
inductive Entity where
  | revision
  | master
  | author
  | iteration
  | tag
  | attributes (kind : AttributeKind)
  | pathData
  | pathIteration
deriving DecidableEq, Repr

namespace Entity

/-- The name under which a configuration maps the table. -/
def name : Entity → String
  | revision => "PartRevision"
  | master => "PartMaster"
  | author => "Account"
  | iteration => "PartIteration"
  | tag => "Tag"
  | attributes kind => (attributeStorage kind).1
  | pathData => "PathDataMaster"
  | pathIteration => "PathDataIteration"

/-- All kinds. -/
def all : List Entity :=
  [revision, master, author, iteration, tag, pathData, pathIteration] ++
    AttributeKind.all.map attributes

lemma mem_all (e : Entity) : e ∈ all := by
  cases e with
  | attributes kind => cases kind <;> decide
  | _ => decide

end Entity

/-- What a row must hold in some of its columns. -/
abbrev Cells := List (String × Option Literal)

/-- A row holds what it must. -/
def Tuple.Has (t : Tuple) (cells : Cells) : Prop :=
  ∀ cell ∈ cells, t cell.1 = cell.2

/-- What a row holds in one of these columns. -/
lemma Tuple.Has.cell {t : Tuple} {cells : Cells} (h : t.Has cells) {column : String}
    {content : Option Literal} (hcell : (column, content) ∈ cells) : t column = content :=
  h (column, content) hcell

/-- The rows of a table are as they must be, in any order. -/
def Rows (rows : List Tuple) (cells : List Cells) : Prop :=
  ∃ ordered, rows.Perm ordered ∧ List.Forall₂ (fun c t => Tuple.Has t c) cells ordered

namespace Rows

variable {rows : List Tuple} {cells : List Cells}

/-- Every row is there for a reason. -/
lemma exists_cells (h : Rows rows cells) {t : Tuple} (ht : t ∈ rows) :
    ∃ c ∈ cells, t.Has c := by
  obtain ⟨ordered, hperm, hall⟩ := h
  exact exists_left_of_mem_right hall (hperm.mem_iff.1 ht)

/-- Every row that must be there is there. -/
lemma exists_row (h : Rows rows cells) {c : Cells} (hc : c ∈ cells) :
    ∃ t ∈ rows, t.Has c := by
  obtain ⟨ordered, hperm, hall⟩ := h
  obtain ⟨t, ht, hhas⟩ := exists_right_of_mem_left hall hc
  exact ⟨t, hperm.mem_iff.2 ht, hhas⟩

/-- Every row is the row of a record. -/
lemma exists_record {α : Type} {records : List α} {f : α → Cells} (h : Rows rows (records.map f))
    {t : Tuple} (ht : t ∈ rows) : ∃ x ∈ records, t.Has (f x) := by
  obtain ⟨c, hc, hhas⟩ := h.exists_cells ht
  obtain ⟨x, hx, rfl⟩ := List.mem_map.1 hc
  exact ⟨x, hx, hhas⟩

/-- Every record has a row. -/
lemma exists_row_of_record {α : Type} {records : List α} {f : α → Cells}
    (h : Rows rows (records.map f)) {x : α} (hx : x ∈ records) : ∃ t ∈ rows, t.Has (f x) :=
  h.exists_row (List.mem_map_of_mem hx)

/-- Rows are counted by what they were made for. -/
lemma countP_eq {α : Type} {records : List α} {f : α → Cells} (h : Rows rows (records.map f))
    {p : Tuple → Bool} {q : α → Bool} (hpq : ∀ (x : α) (t : Tuple), t.Has (f x) → p t = q x) :
    rows.countP p = records.countP q := by
  obtain ⟨ordered, hperm, hall⟩ := h
  rw [hperm.countP_eq]
  clear hperm
  rw [List.forall₂_map_left_iff] at hall
  induction hall with
  | nil => rfl
  | @cons x t records ordered hhas _ ih =>
    simp only [List.countP_cons, ih, hpq x t hhas]

end Rows

/-! ## Records -/

/-- An entity with the identity of its row. -/
structure Recorded (α : Type) where
  id : Int
  entity : α
deriving DecidableEq

/-- A revision with the identities of its row, of the rows of its part and of its author, and of the
rows of its iterations. -/
structure RevisionRecord where
  id : Int
  masterId : Int
  authorId : Int
  revision : Revision
  iterations : List (Recorded Iteration)
deriving DecidableEq

/-- Path data with the identities of the rows of its iterations; it has an identity of its own. -/
structure PathRecord where
  pathData : PathData
  iterations : List (Recorded PathIteration)
deriving DecidableEq

/-- An attribute with the iteration it belongs to. -/
structure AttributeRecord where
  owner : Family
  ownerId : Int
  entity : Attribute
deriving DecidableEq

namespace RevisionRecord

/-- The iterations of a revision, each with the revision. -/
def owned (r : RevisionRecord) : List (RevisionRecord × Recorded Iteration) :=
  r.iterations.map (r, ·)

/-- The attributes of the iterations of a revision. -/
def attributes (r : RevisionRecord) : List AttributeRecord :=
  r.iterations.flatMap fun i => i.entity.attributes.map (⟨.revision, i.id, ·⟩)

end RevisionRecord

namespace PathRecord

/-- The iterations of path data, each with the path data. -/
def owned (p : PathRecord) : List (PathRecord × Recorded PathIteration) :=
  p.iterations.map (p, ·)

/-- The attributes of the iterations of path data. -/
def attributes (p : PathRecord) : List AttributeRecord :=
  p.iterations.flatMap fun i => i.entity.attributes.map (⟨.pathData, i.id, ·⟩)

end PathRecord

/-- A choice of rows for the entities of a dataset. Identities of one table differ, rows that are
referred to are there, and a reference to a part leads to a row with its workspace and number. There
may be parts and authors beyond those of the revisions. -/
structure Layout (d : Dataset) where
  masters : List (Recorded Master)
  authors : List (Recorded Author)
  revisions : List RevisionRecord
  paths : List PathRecord
  /-- The identity of the row of a part that an attribute refers to. -/
  partId : PartReference → Int
  masters_distinct : (masters.map (·.id)).Nodup
  authors_distinct : (authors.map (·.id)).Nodup
  revisions_distinct : (revisions.map (·.id)).Nodup
  iterations_distinct : ((revisions.flatMap RevisionRecord.owned).map (·.2.id)).Nodup
  paths_distinct : (paths.map (·.pathData.id)).Nodup
  pathIterations_distinct : ((paths.flatMap PathRecord.owned).map (·.2.id)).Nodup
  revisions_eq : revisions.map (·.revision) = d.revisions
  iterations_eq : ∀ r ∈ revisions, r.iterations.map (·.entity) = r.revision.iterations
  paths_eq : paths.map (·.pathData) = d.pathData
  pathIterations_eq : ∀ p ∈ paths, p.iterations.map (·.entity) = p.pathData.iterations
  master_mem : ∀ r ∈ revisions, ⟨r.masterId, r.revision.master⟩ ∈ masters
  author_mem : ∀ r ∈ revisions, ⟨r.authorId, r.revision.author⟩ ∈ authors
  part_mem : ∀ a ∈
      revisions.flatMap RevisionRecord.attributes ++ paths.flatMap PathRecord.attributes,
    ∀ part, a.entity.value = .partNumber (some part) →
      ∃ m ∈ masters, m.id = partId part ∧ m.entity.workspace = part.workspace ∧
        m.entity.number = part.number

/-! ## What rows hold -/

/-- The row of a part. -/
def masterCells (m : Recorded Master) : Cells :=
  [("id", some (.integer m.id)),
    ("workspace_id", some (.text m.entity.workspace)),
    ("number", some (.text m.entity.number)),
    ("name", some (.text m.entity.name)),
    ("type", some (.text m.entity.type)),
    ("creation_date", m.entity.creationDate.map .date)]

/-- The row of an author. -/
def authorCells (a : Recorded Author) : Cells :=
  [("id", some (.integer a.id)),
    ("login", some (.text a.entity.login)),
    ("name", some (.text a.entity.name)),
    ("email", some (.text a.entity.email)),
    ("language", some (.text a.entity.language))]

/-- The row of a revision. -/
def RevisionRecord.cells (r : RevisionRecord) : Cells :=
  [("id", some (.integer r.id)),
    ("workspace_id", some (.text r.revision.master.workspace)),
    ("part_master_id", some (.integer r.masterId)),
    ("author_id", some (.integer r.authorId)),
    ("version", some (.text r.revision.version)),
    ("description", some (.text r.revision.description)),
    ("creation_date", r.revision.creationDate.map .date),
    ("checkout_date", r.revision.checkoutDate.map .date),
    ("lifecycle_state", some (.text r.revision.lifeCycleState)),
    ("status", some (.text r.revision.status.name))]

/-- The row of an iteration of a revision. -/
def iterationCells (i : RevisionRecord × Recorded Iteration) : Cells :=
  [("id", some (.integer i.2.id)),
    ("part_revision_id", some (.integer i.1.id)),
    ("iteration", some (.integer i.2.entity.number)),
    ("check_in_date", i.2.entity.checkInDate.map .date),
    ("modification_date", i.2.entity.modificationDate.map .date)]

/-- The row of a label of a revision. -/
def tagCells (r : RevisionRecord) (label : String) : Cells :=
  [("part_revision_id", some (.integer r.id)), ("label", some (.text label))]

/-- The row of path data. -/
def PathRecord.cells (p : PathRecord) : Cells :=
  [("id", some (.integer p.pathData.id)), ("path", some (.text p.pathData.path))]

/-- The row of an iteration of path data. -/
def pathIterationCells (i : PathRecord × Recorded PathIteration) : Cells :=
  [("id", some (.integer i.2.id)),
    ("path_data_master_id", some (.integer i.1.pathData.id)),
    ("iteration", some (.integer i.2.entity.number))]

/-- The value of an attribute as it is stored: of a reference the identity of the part's row. -/
def storedValue (partId : PartReference → Int) : AttributeValue → Option Literal
  | .partNumber part => part.map fun part => .integer (partId part)
  | v => v.scalar?.map literal

/-- The row of an attribute. It names its owner in the column for owners of that family and has
nothing in the other one. -/
def attributeCells (partId : PartReference → Int) (a : AttributeRecord) : Cells :=
  [("name", some (.text a.entity.name)),
    ((attributeOwner .revision).1, if a.owner = .revision then some (.integer a.ownerId) else none),
    ((attributeOwner .pathData).1, if a.owner = .pathData then some (.integer a.ownerId) else none),
    ((attributeStorage a.entity.value.kind).2, storedValue partId a.entity.value)]

namespace Layout

variable {d : Dataset}

/-- The iterations of all revisions. -/
def iterations (layout : Layout d) : List (RevisionRecord × Recorded Iteration) :=
  layout.revisions.flatMap RevisionRecord.owned

/-- The iterations of all path data. -/
def pathIterations (layout : Layout d) : List (PathRecord × Recorded PathIteration) :=
  layout.paths.flatMap PathRecord.owned

/-- The attributes of all iterations. -/
def attributes (layout : Layout d) : List AttributeRecord :=
  layout.revisions.flatMap RevisionRecord.attributes ++ layout.paths.flatMap PathRecord.attributes

/-- What the rows of each table must hold. -/
def cells (layout : Layout d) : Entity → List Cells
  | .revision => layout.revisions.map RevisionRecord.cells
  | .master => layout.masters.map masterCells
  | .author => layout.authors.map authorCells
  | .iteration => layout.iterations.map iterationCells
  | .tag => layout.revisions.flatMap fun r => r.revision.tags.map (tagCells r)
  | .attributes kind =>
    (layout.attributes.filter (·.entity.value.kind = kind)).map (attributeCells layout.partId)
  | .pathData => layout.paths.map PathRecord.cells
  | .pathIteration => layout.pathIterations.map pathIterationCells

/-- A database stores a dataset by this choice of rows, in the tables that a configuration maps. -/
def StoredIn (layout : Layout d) (config : Config) (db : Database) : Prop :=
  ∀ e : Entity, Rows (db (config.table e.name)) (layout.cells e)

/-! ## Belonging -/

/-- An iteration that is stored belongs to a revision that is. -/
lemma mem_iterations {layout : Layout d} {r : RevisionRecord} {i : Recorded Iteration} :
    (r, i) ∈ layout.iterations ↔ r ∈ layout.revisions ∧ i ∈ r.iterations := by
  simp [iterations, RevisionRecord.owned]

/-- An iteration that is stored belongs to path data that is. -/
lemma mem_pathIterations {layout : Layout d} {p : PathRecord} {i : Recorded PathIteration} :
    (p, i) ∈ layout.pathIterations ↔ p ∈ layout.paths ∧ i ∈ p.iterations := by
  simp [pathIterations, PathRecord.owned]

/-- The revisions of the dataset are those that are stored. -/
lemma mem_revisions_iff (layout : Layout d) {r : Revision} :
    r ∈ d.revisions ↔ ∃ record ∈ layout.revisions, record.revision = r := by
  rw [← layout.revisions_eq, List.mem_map]

/-- The iterations of a revision are those that are stored with it. -/
lemma mem_revision_iterations_iff {layout : Layout d} {r : RevisionRecord}
    (hr : r ∈ layout.revisions) {i : Iteration} :
    i ∈ r.revision.iterations ↔ ∃ record ∈ r.iterations, record.entity = i := by
  rw [← layout.iterations_eq r hr, List.mem_map]

/-- The path data of the dataset is what is stored. -/
lemma mem_pathData_iff (layout : Layout d) {p : PathData} :
    p ∈ d.pathData ↔ ∃ record ∈ layout.paths, record.pathData = p := by
  rw [← layout.paths_eq, List.mem_map]

/-- The iterations of path data are those that are stored with it. -/
lemma mem_pathData_iterations_iff {layout : Layout d} {p : PathRecord} (hp : p ∈ layout.paths)
    {i : PathIteration} :
    i ∈ p.pathData.iterations ↔ ∃ record ∈ p.iterations, record.entity = i := by
  rw [← layout.pathIterations_eq p hp, List.mem_map]

/-- An attribute that is stored belongs to an iteration of a revision or of path data. -/
lemma mem_attributes_iff {layout : Layout d} {a : AttributeRecord} :
    a ∈ layout.attributes ↔
      (∃ r i, (r, i) ∈ layout.iterations ∧ ∃ b ∈ i.entity.attributes, ⟨.revision, i.id, b⟩ = a) ∨
      ∃ p i, (p, i) ∈ layout.pathIterations ∧
        ∃ b ∈ i.entity.attributes, ⟨.pathData, i.id, b⟩ = a := by
  simp only [attributes, List.mem_append, List.mem_flatMap, RevisionRecord.attributes,
    PathRecord.attributes, List.mem_map, mem_iterations, mem_pathIterations, and_assoc,
    exists_and_left]

/-- The attributes stored for an iteration of a revision are the ones it has. -/
lemma mem_attributes_revision {layout : Layout d} {r : RevisionRecord} {i : Recorded Iteration}
    (hi : (r, i) ∈ layout.iterations) {a : Attribute} :
    ⟨.revision, i.id, a⟩ ∈ layout.attributes ↔ a ∈ i.entity.attributes := by
  rw [mem_attributes_iff]
  constructor
  · rintro (⟨r', i', hi', b, hb, hsame⟩ | ⟨p, i', -, b, -, hsame⟩)
    · obtain ⟨-, hid, rfl⟩ := AttributeRecord.mk.inj hsame
      cases List.inj_on_of_nodup_map layout.iterations_distinct hi' hi hid
      exact hb
    · cases hsame
  · intro ha
    exact Or.inl ⟨r, i, hi, a, ha, rfl⟩

/-- The attributes stored for an iteration of path data are the ones it has. -/
lemma mem_attributes_pathData {layout : Layout d} {p : PathRecord} {i : Recorded PathIteration}
    (hi : (p, i) ∈ layout.pathIterations) {a : Attribute} :
    ⟨.pathData, i.id, a⟩ ∈ layout.attributes ↔ a ∈ i.entity.attributes := by
  rw [mem_attributes_iff]
  constructor
  · rintro (⟨r, i', -, b, -, hsame⟩ | ⟨p', i', hi', b, hb, hsame⟩)
    · cases hsame
    · obtain ⟨-, hid, rfl⟩ := AttributeRecord.mk.inj hsame
      cases List.inj_on_of_nodup_map layout.pathIterations_distinct hi' hi hid
      exact hb
  · intro ha
    exact Or.inr ⟨p, i, hi, a, ha, rfl⟩

/-- The iterations of a revision count as stored under its identity only. -/
lemma countP_owned {r : RevisionRecord} {id : Int} :
    r.owned.countP (·.1.id = id) = if r.id = id then r.iterations.length else 0 := by
  unfold RevisionRecord.owned
  rw [List.countP_map]
  by_cases hid : r.id = id <;> simp [Function.comp_def, hid]

/-- Among revisions whose identities differ, an identity has the iterations of its revision. -/
lemma countP_flatMap_owned {records : List RevisionRecord}
    (hdistinct : (records.map (·.id)).Nodup) {r : RevisionRecord} (hr : r ∈ records) :
    (records.flatMap RevisionRecord.owned).countP (·.1.id = r.id) = r.iterations.length := by
  induction records with
  | nil => cases hr
  | cons first rest ih =>
    rw [List.map_cons, List.nodup_cons] at hdistinct
    obtain ⟨hfirst, hrest⟩ := hdistinct
    rw [List.flatMap_cons, List.countP_append, countP_owned]
    rcases List.mem_cons.1 hr with rfl | hr
    · have hothers : (rest.flatMap RevisionRecord.owned).countP (·.1.id = r.id) = 0 := by
        rw [List.countP_eq_zero]
        rintro ⟨other, i⟩ hi hid
        obtain ⟨r', hr', howned⟩ := List.mem_flatMap.1 hi
        obtain ⟨i', -, hpair⟩ := List.mem_map.1 howned
        cases hpair
        exact hfirst (List.mem_map.2 ⟨other, hr', of_decide_eq_true hid⟩)
      rw [if_pos rfl, hothers, Nat.add_zero]
    · have hne : first.id ≠ r.id := fun hid => hfirst (hid ▸ List.mem_map_of_mem hr)
      rw [if_neg hne, Nat.zero_add]
      exact ih hrest hr

/-- As many iterations are stored under the identity of a revision as it has. -/
lemma countP_iterations {layout : Layout d} {r : RevisionRecord} (hr : r ∈ layout.revisions) :
    layout.iterations.countP (·.1.id = r.id) = r.iterations.length :=
  countP_flatMap_owned layout.revisions_distinct hr

end Layout

/-! ## A database for a layout -/

/-- The row that holds given cells and nothing else. -/
def Cells.tuple (cells : Cells) : Tuple :=
  fun column => (cells.find? (·.1 == column)).bind (·.2)

/-- The row of some cells holds them, if no column is named twice. -/
lemma has_tuple {cells : Cells} (h : (cells.map (·.1)).Nodup) : cells.tuple.Has cells := by
  intro cell hcell
  unfold Cells.tuple
  cases hfind : cells.find? (·.1 == cell.1) with
  | none => simpa using List.find?_eq_none.1 hfind cell hcell
  | some found =>
    have hname : found.1 = cell.1 := by simpa using List.find?_some hfind
    have hsame : found = cell :=
      List.inj_on_of_nodup_map h (List.mem_of_find?_eq_some hfind) hcell hname
    rw [hsame]
    rfl

namespace Layout

variable {d : Dataset}

/-- No row names a column twice. -/
lemma nodup_of_mem_cells {layout : Layout d} {e : Entity} {c : Cells} (hc : c ∈ layout.cells e) :
    (c.map (·.1)).Nodup := by
  cases e with
  | tag =>
    obtain ⟨r, -, hc⟩ := List.mem_flatMap.1 hc
    obtain ⟨label, -, rfl⟩ := List.mem_map.1 hc
    simp [tagCells]
  | attributes kind =>
    obtain ⟨a, -, rfl⟩ := List.mem_map.1 hc
    cases hkind : a.entity.value.kind <;>
      simp [attributeCells, attributeOwner, attributeStorage, hkind]
  | _ =>
    obtain ⟨x, -, rfl⟩ := List.mem_map.1 hc
    simp [RevisionRecord.cells, masterCells, authorCells, iterationCells, PathRecord.cells,
      pathIterationCells]

/-- The database that holds the rows of a layout and nothing else. -/
def database (layout : Layout d) (config : Config) : Database := fun table =>
  match Entity.all.find? (config.table ·.name == table) with
  | some e => (layout.cells e).map Cells.tuple
  | none => []

/-- Any layout can be stored where every kind of entity has a table of its own. -/
theorem storedIn_database (layout : Layout d) {config : Config}
    (hapart : ∀ e e' : Entity, config.table e.name = config.table e'.name → e = e') :
    layout.StoredIn config (layout.database config) := by
  intro e
  have hrows : layout.database config (config.table e.name) =
      (layout.cells e).map Cells.tuple := by
    unfold database
    cases hfind : Entity.all.find? (config.table ·.name == config.table e.name) with
    | none => simpa using List.find?_eq_none.1 hfind e e.mem_all
    | some found =>
      have htable : config.table found.name = config.table e.name := by
        simpa using List.find?_some hfind
      rw [hapart found e htable]
  rw [hrows]
  refine ⟨_, List.Perm.refl _, ?_⟩
  rw [List.forall₂_map_right_iff]
  exact List.forall₂_same.2 fun c hc => has_tuple (nodup_of_mem_cells hc)

end Layout

end PartQuery.Sql
