import PartQuery.Proofs.Rows

/-!
# Regrouping

How the comparisons of a rule are put into groups matters only where the connective changes. A group
inside a group of the same connective can give way to its own rules, anywhere in a rule and in
either direction, and nobody can tell: the comparisons stay in their order, so even the error of a
rule that does not compile stays the same. A group that joins nothing is such a group too.

The rules inside a group can also be put in another order, and written more than once. Then the rule
still compiles exactly when it did and holds of the same rows, but another of its comparisons may be
the first one at fault. The main statement is `regrouping_changes_nothing`.
-/

namespace PartQuery

namespace Rule

/-! ## Changes inside a rule -/

/-- One rule turns into another by a change of itself or of a rule inside it. -/
inductive Inside (R : Rule → Rule → Prop) : Rule → Rule → Prop
  | here {rule other : Rule} (h : R rule other) : Inside R rule other
  | group {rule other : Rule} (connective : Connective) (before after : List Rule)
      (h : Inside R rule other) : Inside R (.group connective (before ++ rule :: after))
        (.group connective (before ++ other :: after))

/-- A group inside a group of the same connective gives way to its own rules. -/
inductive Flattens : Rule → Rule → Prop
  | mk (connective : Connective) (before inner after : List Rule) :
      Flattens (.group connective (before ++ .group connective inner :: after))
        (.group connective (before ++ inner ++ after))

/-- The rules inside a group are put in another order, written more than once, or less often. -/
inductive Rearranges : Rule → Rule → Prop
  | mk (connective : Connective) {rules others : List Rule}
      (h : ∀ rule, rule ∈ rules ↔ rule ∈ others) :
      Rearranges (.group connective rules) (.group connective others)

/-- Two rules are the same but for groups inside groups of the same connective. -/
def RegroupsTo : Rule → Rule → Prop :=
  Relation.EqvGen (Inside Flattens)

/-- Two rules are the same but for groups inside groups of the same connective, the order in which
groups join their rules, and how often they do. -/
def RearrangesTo : Rule → Rule → Prop :=
  Relation.EqvGen (Inside fun rule other => Flattens rule other ∨ Rearranges rule other)

/-- What a change and its context leave as it is stays so however often and wherever it is made. -/
lemma eqvGen_inside {R S : Rule → Rule → Prop} (hS : Equivalence S)
    (hR : ∀ rule other, R rule other → S rule other)
    (hgroup : ∀ connective before after rule other, S rule other →
      S (.group connective (before ++ rule :: after))
        (.group connective (before ++ other :: after)))
    {rule other : Rule} (h : Relation.EqvGen (Inside R) rule other) : S rule other := by
  have hinside : ∀ rule other, Inside R rule other → S rule other := by
    intro rule other hchange
    induction hchange with
    | here h => exact hR _ _ h
    | group connective before after _ ih => exact hgroup connective before after _ _ ih
  exact hS.eqvGen_iff.1 (h.mono hinside)

/-! ## What changes leave as it is -/

/-- Regrouping leaves the comparisons of a rule in their order. -/
lemma RegroupsTo.leaves_eq {rule other : Rule} (h : rule.RegroupsTo other) :
    rule.leaves = other.leaves := by
  refine eqvGen_inside (S := fun rule other => rule.leaves = other.leaves)
    ⟨fun _ => rfl, Eq.symm, Eq.trans⟩ ?_ ?_ h
  · rintro _ _ ⟨connective, before, inner, after⟩
    simp [leaves_group]
  · intro connective before after rule other hsame
    simp [leaves_group, hsame]

/-- Two rules find the same: both compile or neither does, and they hold of the same rows. -/
structure FindsSame (ctx : CompileContext) (rule other : Rule) : Prop where
  compiles_iff : rule.Compiles ctx ↔ other.Compiles ctx
  holdsIn_iff : ∀ row, rule.HoldsIn ctx row ↔ other.HoldsIn ctx row

variable {ctx : CompileContext} {rule other : Rule}

/-- Finding the same is an equivalence of rules. -/
lemma equivalence_findsSame (ctx : CompileContext) : Equivalence (FindsSame ctx) where
  refl _ := ⟨Iff.rfl, fun _ => Iff.rfl⟩
  symm h := ⟨h.compiles_iff.symm, fun row => (h.holdsIn_iff row).symm⟩
  trans h h' := ⟨h.compiles_iff.trans h'.compiles_iff,
    fun row => (h.holdsIn_iff row).trans (h'.holdsIn_iff row)⟩

/-- A rule that does not compile holds of no row. -/
lemma HoldsIn.compiles {row : Row} (h : rule.HoldsIn ctx row) : rule.Compiles ctx := by
  obtain ⟨p, hp, -⟩ := h
  exact ⟨p, hp⟩

/-- Groups find the same if the rules inside them compile together or not, and join to the same if
they do. -/
lemma findsSame_group {connective : Connective} {rules others : List Rule}
    (hcompiles : (∀ rule ∈ rules, rule.Compiles ctx) ↔ ∀ rule ∈ others, rule.Compiles ctx)
    (hjoins : (∀ rule ∈ rules, rule.Compiles ctx) → ∀ row,
      connective.Joins (HoldsIn ctx row) rules ↔ connective.Joins (HoldsIn ctx row) others) :
    FindsSame ctx (.group connective rules) (.group connective others) := by
  refine ⟨by rw [compiles_group_iff, compiles_group_iff, hcompiles], fun row => ?_⟩
  by_cases hall : ∀ rule ∈ rules, rule.Compiles ctx
  · rw [holdsIn_group_iff hall, holdsIn_group_iff (hcompiles.1 hall)]
    exact hjoins hall row
  · refine iff_of_false (fun h => hall ?_) (fun h => hall ?_)
    · exact compiles_group_iff.1 h.compiles
    · exact hcompiles.2 (compiles_group_iff.1 h.compiles)

/-- Groups that differ in a rule find the same if these two rules do. -/
lemma FindsSame.group (h : rule.FindsSame ctx other) (connective : Connective)
    (before after : List Rule) :
    FindsSame ctx (.group connective (before ++ rule :: after))
      (.group connective (before ++ other :: after)) := by
  refine findsSame_group ?_ fun _ row => Connective.joins_exchange (h.holdsIn_iff row)
  simp only [List.forall_mem_append, List.forall_mem_cons, h.compiles_iff]

/-- A group inside a group of the same connective finds what its rules find in its place. -/
lemma Flattens.findsSame (h : rule.Flattens other) : rule.FindsSame ctx other := by
  obtain ⟨connective, before, inner, after⟩ := h
  refine findsSame_group ?_ fun hall row => ?_
  · simp only [List.forall_mem_append, List.forall_mem_cons, compiles_group_iff, and_assoc]
  · have hinner : ∀ rule ∈ inner, rule.Compiles ctx :=
      compiles_group_iff.1 (hall (.group connective inner) (by simp))
    exact Connective.joins_flatten (holdsIn_group_iff hinner)

/-- Neither the order of the rules inside a group nor their number changes what it finds. -/
lemma Rearranges.findsSame (h : rule.Rearranges other) : rule.FindsSame ctx other := by
  obtain ⟨connective, hmem⟩ := h
  refine findsSame_group ?_ fun _ row => Connective.joins_congr_mem hmem
  simp only [hmem]

/-- Rules that are rearranged, whatever the connectives, find the same. -/
lemma RearrangesTo.findsSame (h : rule.RearrangesTo other) : rule.FindsSame ctx other := by
  refine eqvGen_inside (equivalence_findsSame ctx) ?_ ?_ h
  · rintro _ _ (hflattens | hrearranges)
    · exact hflattens.findsSame
    · exact hrearranges.findsSame
  · intro connective before after rule other hsame
    exact hsame.group connective before after

/-- Regrouping is rearranging. -/
lemma RegroupsTo.rearrangesTo (h : rule.RegroupsTo other) : rule.RearrangesTo other := by
  refine h.mono ?_
  intro rule other hchange
  induction hchange with
  | here h => exact .here (Or.inl h)
  | group connective before after _ ih => exact .group connective before after ih

/-- Rules that find the same, one of which compiles, have predicates that hold of the same rows. -/
lemma FindsSame.exists_compile (h : rule.FindsSame ctx other) (hrule : rule.Compiles ctx) :
    ∃ p q, rule.compile ctx = .ok p ∧ other.compile ctx = .ok q ∧
      ∀ row : Row, p.holds row = q.holds row := by
  obtain ⟨q, hq⟩ := h.compiles_iff.1 hrule
  obtain ⟨p, hp⟩ := hrule
  refine ⟨p, q, hp, hq, fun row => ?_⟩
  rw [Bool.eq_iff_iff, ← holdsIn_iff_holds hp, ← holdsIn_iff_holds hq]
  exact h.holdsIn_iff row

/-- A rule that does not compile has an error. -/
lemma exists_error_of_not_compiles (h : ¬rule.Compiles ctx) :
    ∃ e, rule.compile ctx = .error e := by
  cases hcompile : rule.compile ctx with
  | ok p => exact absurd ⟨p, hcompile⟩ h
  | error e => exact ⟨e, rfl⟩

end Rule

/-- A comparison of a field that there is not. -/
def strangeComparison (name : String) : Comparison :=
  ⟨name, .equal, [], .string⟩

/-- Whatever the entities and the offset it is compiled for, a rule and what it is regrouped to, any
number of times, anywhere inside and in either direction, fail to compile with one error, or compile
to predicates that hold of the same rows. A rule and what it is rearranged to both fail to compile,
or they compile to such predicates; but where they fail, their errors may differ. -/
theorem regrouping_changes_nothing (ctx : CompileContext) :
    (∀ rule other : Rule, rule.RegroupsTo other →
      (∃ e, rule.compile ctx = .error e ∧ other.compile ctx = .error e) ∨
      ∃ p q, rule.compile ctx = .ok p ∧ other.compile ctx = .ok q ∧
        ∀ row : Row, p.holds row = q.holds row) ∧
    (∀ rule other : Rule, rule.RearrangesTo other →
      ((∃ e, rule.compile ctx = .error e) ∧ ∃ e, other.compile ctx = .error e) ∨
      ∃ p q, rule.compile ctx = .ok p ∧ other.compile ctx = .ok q ∧
        ∀ row : Row, p.holds row = q.holds row) ∧
    ∃ rule other e e', Rule.RearrangesTo rule other ∧ rule.compile ctx = .error e ∧
      other.compile ctx = .error e' ∧ e ≠ e' := by
  refine ⟨?_, ?_, ?_⟩
  · intro rule other hregroups
    have hsame : rule.FindsSame ctx other := hregroups.rearrangesTo.findsSame
    by_cases hrule : rule.Compiles ctx
    · exact Or.inr (hsame.exists_compile hrule)
    · obtain ⟨e, he⟩ := Rule.exists_error_of_not_compiles hrule
      refine Or.inl ⟨e, he, ?_⟩
      rw [← errorOf?_eq_some_iff, Rule.errorOf?_compile] at he ⊢
      rw [← hregroups.leaves_eq, he]
  · intro rule other hrearranges
    have hsame : rule.FindsSame ctx other := hrearranges.findsSame
    by_cases hrule : rule.Compiles ctx
    · exact Or.inr (hsame.exists_compile hrule)
    · have hother : ¬other.Compiles ctx := fun h => hrule (hsame.compiles_iff.2 h)
      exact Or.inl ⟨Rule.exists_error_of_not_compiles hrule,
        Rule.exists_error_of_not_compiles hother⟩
  · -- Of two comparisons of fields that there are not, the first one is at fault.
    let here := Rule.leaf (strangeComparison "here")
    let there := Rule.leaf (strangeComparison "there")
    refine ⟨.group .and [here, there], .group .and [there, here], _, _, ?_, rfl, rfl, by decide⟩
    refine .rel _ _ (.here (Or.inr (.mk .and fun rule => ?_)))
    simp only [List.mem_cons, or_left_comm]

/-- A rule with groups in groups, two of which join nothing. -/
def nestedRule : Rule :=
  .group .and [.leaf ⟨"pm.number", .equal, ["bell"], .string⟩, .group .and [],
    .group .and [.leaf ⟨"pr.version", .equal, ["1"], .string⟩,
      .group .or [.group .or [], .leaf ⟨"pr.tags", .equal, ["new"], .string⟩]]]

/-- The same comparisons in as few groups as possible. -/
def flatRule : Rule :=
  .group .and [.leaf ⟨"pm.number", .equal, ["bell"], .string⟩,
    .leaf ⟨"pr.version", .equal, ["1"], .string⟩,
    .group .or [.leaf ⟨"pr.tags", .equal, ["new"], .string⟩]]

/-- The nested rule is regrouped to the flat one, and their predicates hold of the same rows. -/
theorem nestedRule_regroupsTo_flatRule :
    nestedRule.RegroupsTo flatRule ∧
      ∃ p q, nestedRule.compile ⟨.revision, Offset.zero⟩ = .ok p ∧
        flatRule.compile ⟨.revision, Offset.zero⟩ = .ok q ∧
        ∀ row : Row, p.holds row = q.holds row := by
  have hregroups : nestedRule.RegroupsTo flatRule := by
    refine .trans _ _ _ (.rel _ _ (.here (.mk .and [_] [] [_]))) ?_
    refine .trans _ _ _ (.rel _ _ (.here (.mk .and [_] [_, _] []))) ?_
    exact .rel _ _ (.group .and [_, _] [] (.here (.mk .or [] [] [_])))
  refine ⟨hregroups, ?_⟩
  rcases (regrouping_changes_nothing ⟨.revision, Offset.zero⟩).1 _ _ hregroups with
    ⟨e, -, he⟩ | hsame
  · have hcompiles : (flatRule.compile ⟨.revision, Offset.zero⟩).isOk = true := by
      decide +kernel
    rw [he] at hcompiles
    cases hcompiles
  · exact hsame

end PartQuery
