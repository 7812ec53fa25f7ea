import PartQuery.Proofs.Faults
import PartQuery.Proofs.Meaning

/-!
# Rules and rows

A rule that compiles can be asked of any row, be it that of a revision or of path data, without
looking at its predicate: a group asks one of its rules or all of them, as its connective says
(`Rule.holdsIn_group_iff`), and it compiles as soon as they do.

A predicate sees of a row only what its comparisons ask. So a row in which the comparisons of a
predicate hold that hold in another serves the predicate as well
(`Predicate.Everywhere.holds_mono`), for nothing in a predicate turns an answer into its opposite.
-/

namespace PartQuery

/-! ## Connectives -/

namespace Connective

variable {α : Type} {P : α → Prop} {l m : List α}

/-- A connective joins what is asked of the members of a list. -/
def Joins (connective : Connective) (P : α → Prop) (l : List α) : Prop :=
  match connective with
  | and => ∀ a ∈ l, P a
  | or => ∃ a ∈ l, P a

/-- Some member of one of two lists has a property exactly when one of either does. -/
lemma exists_mem_append_iff : (∃ a ∈ l ++ m, P a) ↔ (∃ a ∈ l, P a) ∨ ∃ a ∈ m, P a := by
  simp only [List.mem_append, or_and_right, exists_or]

/-- Neither the order of the members nor their number matters. -/
lemma joins_congr_mem {connective : Connective} (h : ∀ a, a ∈ l ↔ a ∈ m) :
    connective.Joins P l ↔ connective.Joins P m := by
  cases connective <;> simp only [Joins, h]

/-- A member can be exchanged for one of which the same is asked. -/
lemma joins_exchange {connective : Connective} {a b : α} (h : P a ↔ P b) :
    connective.Joins P (l ++ a :: m) ↔ connective.Joins P (l ++ b :: m) := by
  cases connective with
  | and => simp only [Joins, List.forall_mem_append, List.forall_mem_cons, h]
  | or => simp only [Joins, exists_mem_append_iff, List.exists_mem_cons_iff, h]

/-- A member that joins others by the same connective gives way to them. -/
lemma joins_flatten {connective : Connective} {a : α} {inner : List α}
    (h : P a ↔ connective.Joins P inner) :
    connective.Joins P (l ++ a :: m) ↔ connective.Joins P (l ++ inner ++ m) := by
  cases connective with
  | and => simp only [Joins, List.forall_mem_append, List.forall_mem_cons, h, and_assoc]
  | or => simp only [Joins, exists_mem_append_iff, List.exists_mem_cons_iff, h, or_assoc]

end Connective

/-- A group holds exactly when what it joins does, as its connective says. -/
lemma Predicate.holds_ofGroup_iff {row : Row} {connective : Connective} {ps : List Predicate} :
    (Predicate.ofGroup connective ps).holds row = true ↔
      connective.Joins (fun p => p.holds row = true) ps := by
  cases connective with
  | and => exact holds_ofGroup_and
  | or => exact holds_ofGroup_or

/-! ## Asking a row -/

namespace Rule

variable {ctx : CompileContext} {row : Row} {rule : Rule} {rules : List Rule}

/-- A rule compiles. -/
def Compiles (ctx : CompileContext) (rule : Rule) : Prop :=
  ∃ p, rule.compile ctx = .ok p

/-- A rule compiles, and holds of a row. -/
def HoldsIn (ctx : CompileContext) (row : Row) (rule : Rule) : Prop :=
  ∃ p, rule.compile ctx = .ok p ∧ p.holds row = true

/-- A rule that compiles holds of a row exactly when its predicate does. -/
lemma holdsIn_iff_holds {p : Predicate} (hp : rule.compile ctx = .ok p) :
    rule.HoldsIn ctx row ↔ p.holds row = true := by
  constructor
  · rintro ⟨q, hq, hholds⟩
    obtain rfl := Except.ok.inj (hp.symm.trans hq)
    exact hholds
  · intro hholds
    exact ⟨p, hp, hholds⟩

/-- A group compiles exactly when all rules inside it do. -/
lemma compiles_group_iff {connective : Connective} :
    (group connective rules).Compiles ctx ↔ ∀ rule ∈ rules, rule.Compiles ctx := by
  unfold Compiles
  simp only [exists_compile_eq_ok_iff, leaves_group, List.mem_flatMap]
  constructor
  · intro h rule hrule c hc
    exact h c ⟨rule, hrule, hc⟩
  · rintro h c ⟨rule, hrule, hc⟩
    exact h rule hrule c hc

/-- A group of rules that compile holds of a row exactly when they do, as its connective says. -/
lemma holdsIn_group_iff {connective : Connective} (hrules : ∀ rule ∈ rules, rule.Compiles ctx) :
    (group connective rules).HoldsIn ctx row ↔ connective.Joins (HoldsIn ctx row) rules := by
  obtain ⟨p, hp⟩ := compiles_group_iff.2 hrules
  obtain ⟨ps, hps, rfl⟩ := compile_group_eq_ok_iff.1 hp
  rw [holdsIn_iff_holds hp, Predicate.holds_ofGroup_iff]
  cases connective with
  | and =>
    constructor
    · intro hall rule hrule
      obtain ⟨p, hp, hcompile⟩ := exists_right_of_mem_left hps hrule
      exact ⟨p, hcompile, hall p hp⟩
    · intro hall p hp
      obtain ⟨rule, hrule, hcompile⟩ := exists_left_of_mem_right hps hp
      exact (holdsIn_iff_holds hcompile).1 (hall rule hrule)
  | or =>
    constructor
    · rintro ⟨p, hp, hholds⟩
      obtain ⟨rule, hrule, hcompile⟩ := exists_left_of_mem_right hps hp
      exact ⟨rule, hrule, p, hcompile, hholds⟩
    · rintro ⟨rule, hrule, hheld⟩
      obtain ⟨p, hp, hcompile⟩ := exists_right_of_mem_left hps hrule
      exact ⟨p, hp, (holdsIn_iff_holds hcompile).1 hheld⟩

end Rule

/-! ## What a predicate sees -/

namespace Predicate

/-- What holds of all comparisons holds everywhere in a predicate. -/
lemma everywhere_of_forall {P : Field → ValueTest → Prop} (h : ∀ field test, P field test) :
    ∀ p : Predicate, p.Everywhere P
  | always => .always
  | all children => .all fun p _ => everywhere_of_forall h p
  | any children => .any fun p _ => everywhere_of_forall h p
  | compare field test => .compare (h field test)

/-- What follows from a property of comparisons holds wherever the property does. -/
lemma Everywhere.imp {P Q : Field → ValueTest → Prop}
    (hPQ : ∀ field test, P field test → Q field test) {p : Predicate} (h : p.Everywhere P) :
    p.Everywhere Q := by
  induction h with
  | always => exact .always
  | all _ ih => exact .all ih
  | any _ ih => exact .any ih
  | compare hP => exact .compare (hPQ _ _ hP)

/-- A predicate that holds of a row holds of another in which its comparisons hold if they do in the
first. -/
lemma Everywhere.holds_mono {row other : Row} {p : Predicate}
    (h : p.Everywhere fun field test =>
      compares row field test = true → compares other field test = true)
    (hholds : p.holds row = true) : p.holds other = true := by
  induction h with
  | always => exact holds_always other
  | all _ ih =>
    rw [holds_all, List.all_eq_true] at hholds ⊢
    intro p hp
    exact ih p hp (hholds p hp)
  | any _ ih =>
    rw [holds_any, List.any_eq_true] at hholds ⊢
    obtain ⟨p, hp, hheld⟩ := hholds
    exact ⟨p, hp, ih p hp hheld⟩
  | compare hmono =>
    rw [holds_compare] at hholds ⊢
    exact hmono hholds

end Predicate

end PartQuery
