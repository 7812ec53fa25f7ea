import PartQuery.Proofs.Pattern
import PartQuery.Sql.Select
import PartQuery.Text.Lowercase

/-!
# What statements answer

A statement is evaluated over tables whose cells may be empty. Comparing with an empty cell is
neither true nor false, connectives follow strong Kleene logic, and a selection keeps the rows on
which its condition is true. Sub-selections see the rows of the selections around them. Lower-casing
is the one of this library, literals are the values they stand for, and doubles are compared as IEEE
numbers. An answer is meant as a set of rows: what puts it in order is not looked at.

Since conditions negate comparisons and selections only, it is enough to know when they are true.
The lemmas say this for each form of condition and for the rows that selections keep.
-/

namespace PartQuery.Sql

/-! ## Truth -/

/-- A truth value; it may be unknown. -/
abbrev Truth := Option Bool

namespace Truth

/-- Both are true; one that is false decides. -/
def and : Truth → Truth → Truth
  | some false, _ => some false
  | _, some false => some false
  | some true, some true => some true
  | _, _ => none

/-- One of them is true; one that is true decides. -/
def or : Truth → Truth → Truth
  | some true, _ => some true
  | _, some true => some true
  | some false, some false => some false
  | _, _ => none

/-- One of several is true. -/
def any (l : List Truth) : Truth :=
  l.foldr or (some false)

@[simp] lemma and_eq_true {a b : Truth} : a.and b = some true ↔ a = some true ∧ b = some true := by
  rcases a with _ | _ | _ <;> rcases b with _ | _ | _ <;> simp [and]

@[simp] lemma or_eq_true {a b : Truth} : a.or b = some true ↔ a = some true ∨ b = some true := by
  rcases a with _ | _ | _ <;> rcases b with _ | _ | _ <;> simp [or]

@[simp] lemma any_eq_true {l : List Truth} : any l = some true ↔ some true ∈ l := by
  induction l with
  | nil => simp [any]
  | cons a l ih =>
    rw [any, List.foldr_cons, or_eq_true, List.mem_cons]
    exact or_congr eq_comm ih

end Truth

/-! ## Values -/

namespace Literal

/-- Whether two literals are equal. -/
def equals : Literal → Literal → Bool
  | double x, double y => x.same y
  | double _, _ => false
  | _, double _ => false
  | a, b => a == b

/-- How two literals compare, if they do. -/
def compare? : Literal → Literal → Option Ordering
  | double x, double y => x.compare? y
  | date s, date t => some (s.compare t)
  | text s, text t => some (compare s t)
  | integer m, integer n => some (compare m n)
  | _, _ => none

end Literal

/-- Whether two literals stand in a relation. -/
def Relation.holds (relation : Relation) (a b : Literal) : Bool :=
  match relation with
  | equal => a.equals b
  | notEqual => !a.equals b
  | less => (a.compare? b).any (·.isLT)
  | lessOrEqual => (a.compare? b).any (·.isLE)
  | greater => (a.compare? b).any (·.isGT)
  | greaterOrEqual => (a.compare? b).any (·.isGE)

/-- Whether the contents of two cells stand in a relation, which is unknown if one is empty. -/
def related (a : Option Literal) (relation : Relation) (b : Option Literal) : Truth :=
  match a, b with
  | some a, some b => some (relation.holds a b)
  | _, _ => none

@[simp] lemma related_some_some {a b : Literal} {relation : Relation} :
    related (some a) relation (some b) = some true ↔ relation.holds a b = true := by
  simp [related]

@[simp] lemma related_none_left {relation : Relation} {b : Option Literal} :
    related none relation b ≠ some true := by
  simp [related]

@[simp] lemma related_none_right {a : Option Literal} {relation : Relation} :
    related a relation none ≠ some true := by
  cases a <;> simp [related]

@[simp] lemma holds_equal_integer {m n : Int} :
    Relation.equal.holds (.integer m) (.integer n) = true ↔ m = n := by
  simp [Relation.holds, Literal.equals]

@[simp] lemma holds_equal_text {s t : String} :
    Relation.equal.holds (.text s) (.text t) = true ↔ s = t := by
  simp [Relation.holds, Literal.equals]

/-! ## Tables and rows -/

/-- A row of a table: the content of each cell, if there is one. -/
abbrev Tuple := String → Option Literal

/-- The rows of each table. -/
abbrev Database := String → List Tuple

/-- The rows that the tables of a statement stand at. -/
abbrev Binding := Alias → Tuple

namespace Binding

/-- No table stands at a row. -/
def empty : Binding :=
  fun _ _ => none

/-- The content of a column. -/
def value (b : Binding) (column : Column) : Option Literal :=
  b column.table column.name

/-- Puts a table at a row. -/
def bind (b : Binding) (name : Alias) (t : Tuple) : Binding :=
  fun other => if other = name then t else b other

@[simp] lemma value_mk (b : Binding) (name : Alias) (column : String) :
    b.value ⟨name, column⟩ = b name column := rfl

@[simp] lemma bind_self (b : Binding) (name : Alias) (t : Tuple) : b.bind name t name = t := by
  simp [bind]

@[simp] lemma bind_of_ne {name other : Alias} (h : other ≠ name) (b : Binding) (t : Tuple) :
    b.bind name t other = b other := by
  simp [bind, h]

/-- Puts a table at each of its rows. -/
def scan (db : Database) (b : Binding) (table : TableRef) : List Binding :=
  (db table.table).map (b.bind table.name)

end Binding

/-- Puts a further table at each of its rows that agree. -/
def Join.extend (db : Database) (bindings : List Binding) (join : Join) : List Binding :=
  bindings.flatMap fun b =>
    (b.scan db join.table).filter fun b =>
      related (b.value join.left) .equal (b.value join.right) == some true

/-- What is selected of the rows that are kept. -/
def Projection.yield (bindings : List Binding) : Projection → List (List (Option Literal))
  | distinct columns => (bindings.map fun b => columns.map b.value).eraseDups
  | one => bindings.map fun _ => [some (.integer 1)]
  | count => [[some (.integer bindings.length)]]

/-! ## Conditions and selections -/

mutual

/-- The truth of a condition at the rows that the tables around it stand at. -/
def Condition.eval (db : Database) (b : Binding) : Condition → Truth
  | .constant v => some v
  | .sameColumn left right => related (b.value left) .equal (b.value right)
  | .compare column relation v => related (b.value column) relation (some v)
  | .between column low high =>
    (related (b.value column) .greaterOrEqual (some low)).and
      (related (b.value column) .lessOrEqual (some high))
  | .notNull column => some (b.value column).isSome
  | .oneOf column values =>
    Truth.any (values.map fun v => related (b.value column) .equal (some v))
  | .like column pattern negated =>
    match b.value column with
    | some (.text s) => some (meetsPattern pattern (Text.lower s) != negated)
    | _ => none
  | .counted column select =>
    Truth.any ((select.projection.yield (select.bindings db b)).map fun row =>
      related (b.value column) .equal (row.headD none))
  | .exist select negated =>
    some ((select.projection.yield (select.bindings db b)).isEmpty == negated)
  | .and left right => (left.eval db b).and (right.eval db b)
  | .or left right => (left.eval db b).or (right.eval db b)

/-- The rows that a selection keeps. -/
def Select.bindings (db : Database) (b : Binding) : Select → List Binding
  | .mk _ table joins filter _ =>
    (joins.foldl (Join.extend db) (b.scan db table)).filter fun b => filter.eval db b == some true

end

/-- What a statement answers. -/
def Select.answer (db : Database) (select : Select) : List (List (Option Literal)) :=
  select.projection.yield (select.bindings db .empty)

variable {db : Database} {b : Binding}

/-! ## When conditions are true -/

/-- All of some conditions are true when each of them is. -/
lemma eval_conjunction {cs : List Condition} :
    (Condition.conjunction cs).eval db b = some true ↔ ∀ c ∈ cs, c.eval db b = some true := by
  have hfold : ∀ (cs : List Condition) (first : Condition),
      (cs.foldl .and first).eval db b = some true ↔
        first.eval db b = some true ∧ ∀ c ∈ cs, c.eval db b = some true := by
    intro cs
    induction cs with
    | nil => simp
    | cons c cs ih =>
      intro first
      rw [List.foldl_cons, ih, Condition.eval, Truth.and_eq_true, List.forall_mem_cons, and_assoc]
  cases cs with
  | nil => simp [Condition.conjunction, Condition.eval]
  | cons first rest => rw [Condition.conjunction, hfold, List.forall_mem_cons]

/-- One of some conditions is true when one of them is. -/
lemma eval_disjunction {cs : List Condition} :
    (Condition.disjunction cs).eval db b = some true ↔ ∃ c ∈ cs, c.eval db b = some true := by
  have hfold : ∀ (cs : List Condition) (first : Condition),
      (cs.foldl .or first).eval db b = some true ↔
        first.eval db b = some true ∨ ∃ c ∈ cs, c.eval db b = some true := by
    intro cs
    induction cs with
    | nil => simp
    | cons c cs ih =>
      intro first
      rw [List.foldl_cons, ih, Condition.eval, Truth.or_eq_true, List.exists_mem_cons_iff, or_assoc]
  cases cs with
  | nil => simp [Condition.disjunction, Condition.eval]
  | cons first rest => rw [Condition.disjunction, hfold, List.exists_mem_cons_iff]

/-- A column is one of some values when it equals one of them. -/
lemma eval_oneOf {column : Column} {values : List Literal} :
    (Condition.oneOf column values).eval db b = some true ↔
      ∃ v ∈ values, related (b.value column) .equal (some v) = some true := by
  rw [Condition.eval, Truth.any_eq_true, List.mem_map]

/-! ## Which rows are kept -/

/-- A table is put at one of its rows. -/
lemma mem_scan {b' : Binding} {table : TableRef} :
    b' ∈ b.scan db table ↔ ∃ t ∈ db table.table, b.bind table.name t = b' := by
  rw [Binding.scan, List.mem_map]

/-- A further table is put at one of its rows that agree. -/
lemma mem_extend {bindings : List Binding} {join : Join} {b' : Binding} :
    b' ∈ join.extend db bindings ↔
      ∃ b ∈ bindings, ∃ t ∈ db join.table.table, b.bind join.table.name t = b' ∧
        related (b'.value join.left) .equal (b'.value join.right) = some true := by
  simp only [Join.extend, List.mem_flatMap, List.mem_filter, mem_scan, beq_iff_eq]
  constructor
  · rintro ⟨b, hb, ⟨t, ht, hbind⟩, hrelated⟩
    exact ⟨b, hb, t, ht, hbind, hrelated⟩
  · rintro ⟨b, hb, t, ht, hbind, hrelated⟩
    exact ⟨b, hb, ⟨t, ht, hbind⟩, hrelated⟩

/-- A selection keeps the joined rows on which its condition is true. -/
lemma mem_bindings_mk {projection : Projection} {table : TableRef} {joins : List Join}
    {filter : Condition} {orderBy : List Column} {b' : Binding} :
    b' ∈ (Select.mk projection table joins filter orderBy).bindings db b ↔
      b' ∈ joins.foldl (Join.extend db) (b.scan db table) ∧ filter.eval db b' = some true := by
  rw [Select.bindings, List.mem_filter, beq_iff_eq]

/-- A row is in an answer of distinct rows when it is made of a joined row on which the condition is
true. -/
lemma mem_answer_distinct {columns : List Column} {table : TableRef} {joins : List Join}
    {filter : Condition} {orderBy : List Column} {row : List (Option Literal)} :
    row ∈ (Select.mk (.distinct columns) table joins filter orderBy).answer db ↔
      ∃ b ∈ joins.foldl (Join.extend db) (Binding.empty.scan db table),
        filter.eval db b = some true ∧ columns.map b.value = row := by
  unfold Select.answer
  rw [Select.projection, Projection.yield, List.mem_eraseDups, List.mem_map]
  simp only [mem_bindings_mk, and_assoc]

end PartQuery.Sql
