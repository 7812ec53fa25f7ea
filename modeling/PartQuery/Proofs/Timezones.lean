import PartQuery.Proofs.Calendar.Timestamps
import PartQuery.Proofs.Compiled
import PartQuery.Proofs.Forms

/-!
# Timezones

The offset of the configuration stands in for the offset that a date operand does not name. An
operand that writes a timestamp names one, so it is one instant under every offset. Any other
operand that can be read shows a date and a time of day on a clock, and two offsets put that clock
at instants as far apart as the offsets are. Nothing else that is compiled looks at the offset, so a
rule whose dates are all timestamps compiles alike everywhere (`timezone_shifts_local_dates`).
-/

namespace PartQuery

/-! ## Operands -/

namespace Calendar

variable {operand : String} {timezone : Offset}

/-- An operand that writes a timestamp is read as its instant, whatever the offset is. -/
lemma exists_instant_of_isTimestamp (h : IsTimestamp (Text.trimChars operand.toList)) :
    ∃ x, ∀ timezone, readOperand? timezone operand = some x := by
  obtain ⟨x, hx⟩ := exists_readPadded?_eq_some_iff.2 h
  refine ⟨x, fun timezone => ?_⟩
  unfold readOperand?
  simp only [hx]

/-- Any other operand is read as what a clock shows, and the offset says where the clock is. -/
lemma readOperand?_of_not_isTimestamp (h : ¬IsTimestamp (Text.trimChars operand.toList)) :
    readOperand? timezone operand =
      (readLocal? (Text.trimChars operand.toList)).bind (·.at? timezone) := by
  have hnone : readPadded? (Text.trimChars operand.toList) = none := by
    rw [← exists_readPadded?_eq_some_iff, ← Option.ne_none_iff_exists', not_not] at h
    exact h
  unfold readOperand?
  simp only [hnone]

/-- Such an operand, if it can be read under one offset, is a time that a clock shows, and under any
offset it is read as the instant at which a clock with that offset shows it. -/
lemma readOperand?_of_shift (h : ¬IsTimestamp (Text.trimChars operand.toList)) {a : Offset}
    {x : Instant} (hx : readOperand? a operand = some x) :
    ∃ l : LocalTime, (∀ b, readOperand? b operand = l.at? b) ∧
      l.seconds = x.seconds + a.seconds ∧ l.nano = x.nano := by
  rw [readOperand?_of_not_isTimestamp h, Option.bind_eq_some_iff] at hx
  obtain ⟨l, hl, hat⟩ := hx
  obtain ⟨hseconds, hnano⟩ := LocalTime.at?_eq_some_iff.1 hat
  refine ⟨l, fun b => ?_, by omega, hnano.symm⟩
  rw [readOperand?_of_not_isTimestamp h, hl, Option.bind_some]

end Calendar

/-! ## Rules -/

/-- All dates that a comparison is given are timestamps. -/
def Comparison.NamesOffsets (c : Comparison) : Prop :=
  c.type = .date → ∀ v ∈ c.values, Calendar.IsTimestamp (Text.trimChars v.toList)

section

variable {a b : Offset}

/-- Only a date depends on the offset, and only one that is no timestamp. -/
lemma Comparison.NamesOffsets.operands_eq {c : Comparison} (h : c.NamesOffsets) :
    c.operands a = c.operands b := by
  have hread : ∀ v ∈ c.values, c.type.read? a v = c.type.read? b v := by
    intro v hv
    by_cases hdate : c.type = .date
    · obtain ⟨x, hx⟩ := Calendar.exists_instant_of_isTimestamp (h hdate v hv)
      rw [hdate, OperandType.read?, OperandType.read?, hx a, hx b]
    · cases htype : c.type with
      | date => exact absurd htype hdate
      | _ => rfl
  unfold operands
  rw [mapM_congr hread]

/-- A field is tested alike, as the offset only serves to read operands. -/
lemma Comparison.NamesOffsets.test_eq {c : Comparison} (h : c.NamesOffsets) (field : Field) :
    c.test field a = c.test field b := by
  have hordered : ∀ kind, c.orderedTest kind a = c.orderedTest kind b := by
    intro kind
    unfold orderedTest
    rw [h.operands_eq]
  unfold test
  split
  all_goals first | rfl | exact hordered _

/-- A comparison compiles alike. -/
lemma Comparison.NamesOffsets.compile_eq {c : Comparison} (h : c.NamesOffsets) (family : Family) :
    c.compile ⟨family, a⟩ = c.compile ⟨family, b⟩ := by
  have htest : ∀ field, c.test field a = c.test field b := h.test_eq
  unfold compile
  simp only [htest]

/-- Comparisons that compile alike make up rules that do. -/
lemma Rule.compile_congr {ctx other : CompileContext} {rule : Rule}
    (h : ∀ c ∈ rule.leaves, c.compile ctx = c.compile other) :
    rule.compile ctx = rule.compile other := by
  induction rule using Rule.treeInduction with
  | all => rw [compile, compile]
  | leaf c =>
    rw [compile, compile]
    exact h c (by simp)
  | group connective rules ih =>
    have hrules : ∀ rule ∈ rules, rule.compile ctx = rule.compile other := by
      intro rule hrule
      refine ih rule hrule fun c hc => h c ?_
      rw [leaves_group]
      exact List.mem_flatMap.2 ⟨rule, hrule, hc⟩
    rw [compile, compile, compileAll_eq_mapM, compileAll_eq_mapM, mapM_congr hrules]

end

/-- Two offsets agree on every operand that writes a timestamp, up to blanks around it. Any other
operand they read at instants that differ by as many seconds as the offsets do, the clock further to
the east being the earlier one, and by no fraction of a second; where one of them reads an operand,
the other does too unless the instant so shifted is out of reach. So a rule in which every date is a
timestamp compiles to the same predicate, or fails with the same error, under both. -/
theorem timezone_shifts_local_dates (a b : Offset) :
    (∀ operand : String, Calendar.IsTimestamp (Text.trimChars operand.toList) →
      ∃ x, Calendar.readOperand? a operand = some x ∧ Calendar.readOperand? b operand = some x) ∧
    (∀ operand : String, ¬Calendar.IsTimestamp (Text.trimChars operand.toList) →
      ∀ x, Calendar.readOperand? a operand = some x →
        (∀ y, Calendar.readOperand? b operand = some y →
          x.seconds - y.seconds = b.seconds - a.seconds ∧ y.nano = x.nano) ∧
        (Calendar.readOperand? b operand = none ↔
          ¬Instant.IsReached (x.seconds - (b.seconds - a.seconds)))) ∧
    ∀ (family : Family) (rule : Rule), (∀ c ∈ rule.leaves, c.NamesOffsets) →
      rule.compile ⟨family, a⟩ = rule.compile ⟨family, b⟩ := by
  refine ⟨?_, ?_, ?_⟩
  · intro operand hstamp
    obtain ⟨x, hx⟩ := Calendar.exists_instant_of_isTimestamp hstamp
    exact ⟨x, hx a, hx b⟩
  · intro operand hlocal x hx
    obtain ⟨l, hreads, hseconds, hnano⟩ := Calendar.readOperand?_of_shift hlocal hx
    rw [hreads b]
    constructor
    · intro y hy
      obtain ⟨hseconds', hnano'⟩ := LocalTime.at?_eq_some_iff.1 hy
      exact ⟨by omega, hnano'.trans hnano⟩
    · have hbound : l.nano < 2000000000 := hnano ▸ x.nano_lt
      have hshift : l.seconds - b.seconds = x.seconds - (b.seconds - a.seconds) := by omega
      rw [LocalTime.at?_eq_none_iff hbound, hshift]
  · intro family rule hrule
    exact Rule.compile_congr fun c hc => (hrule c hc).compile_eq family

/-- A rule whose only date names its offset. -/
def datedRule : Rule :=
  .group .and [
    .leaf ⟨"pr.creationDate", .less, [" 2024-03-01t12:00:00.5+02:00"], .date⟩,
    .leaf ⟨"pm.name", .contains, ["2024-03-01"], .string⟩]

/-- An hour to the east and five hours to the west, a day begins six hours apart. -/
theorem datedRule_compile_west :
    (∃ x, Calendar.readOperand? ⟨3600, by decide⟩ " 2024-03-01t12:00:00.5+02:00" = some x ∧
      Calendar.readOperand? ⟨-18000, by decide⟩ " 2024-03-01t12:00:00.5+02:00" = some x) ∧
    (∃ x y, Calendar.readOperand? ⟨3600, by decide⟩ "2024-03-01" = some x ∧
      Calendar.readOperand? ⟨-18000, by decide⟩ "2024-03-01" = some y ∧
      x.seconds - y.seconds = -21600) ∧
    datedRule.compile ⟨.revision, ⟨3600, by decide⟩⟩ =
      datedRule.compile ⟨.revision, ⟨-18000, by decide⟩⟩ := by
  obtain ⟨hstamps, hdates, hrules⟩ :=
    timezone_shifts_local_dates ⟨3600, by decide⟩ ⟨-18000, by decide⟩
  have hstamp : Calendar.IsTimestamp (Text.trimChars " 2024-03-01t12:00:00.5+02:00".toList) :=
    Calendar.exists_readPadded?_eq_some_iff.1 (Option.isSome_iff_exists.1 (by decide))
  have hlocal : ¬Calendar.IsTimestamp (Text.trimChars "2024-03-01".toList) := by
    rw [← Calendar.exists_readPadded?_eq_some_iff, ← Option.isSome_iff_exists]
    decide
  refine ⟨hstamps _ hstamp, ?_, hrules .revision datedRule ?_⟩
  · have heast : (Calendar.readOperand? ⟨3600, by decide⟩ "2024-03-01").isSome := by decide
    have hwest : (Calendar.readOperand? ⟨-18000, by decide⟩ "2024-03-01").isSome := by decide
    obtain ⟨x, hx⟩ := Option.isSome_iff_exists.1 heast
    obtain ⟨y, hy⟩ := Option.isSome_iff_exists.1 hwest
    exact ⟨x, y, hx, hy, ((hdates _ hlocal x hx).1 y hy).1⟩
  · intro c hc hdate v hv
    simp only [datedRule, Rule.leaves_group, List.flatMap_cons, List.flatMap_nil,
      Rule.leaves_leaf, List.append_nil, List.cons_append, List.nil_append, List.mem_cons,
      List.not_mem_nil, or_false] at hc
    rcases hc with rfl | rfl
    · rw [List.mem_singleton.1 hv]
      exact hstamp
    · cases hdate

end PartQuery
