import PartQuery.Proofs.Compiled
import PartQuery.Proofs.Forms
import PartQuery.Search

/-!
# Which fault a query is refused for

A query can be at fault in many places at once. Its rule is first checked, form by form in the order
in which the forms are written, and only then compiled, comparison by comparison from left to right;
the first fault met decides how a search fails. So a form that cannot be checked hides every
comparison that cannot be compiled, even one that stands before it, and a query that is at fault
asks nothing of its source. The main statement, `searches_fail_in_order`, says this of both
searches.

The two traversals have the same shape: `RuleForm.errorOf?_check` and `Rule.errorOf?_compile` give
the error of each as the first one in a list of places.
-/

namespace PartQuery

/-! ## Checking -/

namespace RuleForm

/-- What is wrong with a form itself, whatever is wrong with the forms inside it: a group must be
joined by one of the connectives, and a comparison must name one of the operators. -/
def fault? (form : RuleForm) : Option QueryError :=
  if form.isGroup then
    let word := form.condition.getD ""
    if word ∈ Connective.all.map Connective.name then none else some (.unparsableCondition word)
  else if form.field.isNone then none
  else
    let word := form.operator.getD ""
    if word ∈ Operator.all.map Operator.name then none
    else some (.unsupportedOperator (form.type.getD "string") word form.values)

/-- A connective that cannot be found is what is wrong with a group itself. -/
lemma errorOf?_checkCondition {form : RuleForm} (h : form.isGroup = true) :
    errorOf? (checkCondition form.condition) = form.fault? := by
  unfold checkCondition fault?
  rw [if_pos h]
  cases hfound : Connective.ofName? (form.condition.getD "") with
  | none =>
    have hnot := Connective.ofName?_eq_none_iff.1 hfound
    simp [hnot, hfound]
  | some connective =>
    have hmem : form.condition.getD "" ∈ Connective.all.map Connective.name := by
      by_contra hnot
      rw [Connective.ofName?_eq_none_iff.2 hnot] at hfound
      cases hfound
    simp [hmem, hfound]

/-- An operator that cannot be found is what is wrong with a comparison itself. -/
lemma errorOf?_checkLeaf {form : RuleForm} (h : form.isGroup = false) :
    errorOf? (checkLeaf form.field form.operator form.values form.type) = form.fault? := by
  unfold checkLeaf fault?
  rw [if_neg (by simp [h])]
  cases form.field with
  | none => rfl
  | some field =>
    cases hfound : Operator.ofName? (form.operator.getD "") with
    | none =>
      have hnot := Operator.ofName?_eq_none_iff.1 hfound
      simp [hnot, hfound]
    | some operator =>
      have hmem : form.operator.getD "" ∈ Operator.all.map Operator.name := by
        by_contra hnot
        rw [Operator.ofName?_eq_none_iff.2 hnot] at hfound
        cases hfound
      simp [hmem, hfound]

/-- Checking fails with what is wrong with the first form that is at fault. -/
lemma errorOf?_check (form : RuleForm) :
    errorOf? form.check = form.parts.findSome? fault? := by
  induction form using treeInduction with
  | plain form hplain =>
    rw [check_of_isGroup_eq_false hplain, errorOf?_checkLeaf hplain, parts_eq,
      getD_rules_of_isGroup_eq_false hplain, List.flatMap_nil, List.findSome?_singleton]
  | group form rules hrules hne ih =>
    have hgroup : form.isGroup = true := isGroup_eq_true_iff.2 ⟨rules, hrules, hne⟩
    rw [check_group hrules hne, errorOf?_bind_bind_return, errorOf?_checkCondition hgroup,
      errorOf?_mapM, findSome?_eq_findSome?_flatMap ih, parts_eq, hrules, List.findSome?_cons,
      Option.getD_some]
    cases form.fault? <;> rfl

end RuleForm

/-! ## Compiling -/

namespace Rule

/-- Compiling fails with the error of the leftmost comparison that fails by itself. -/
lemma errorOf?_compile (ctx : CompileContext) (rule : Rule) :
    errorOf? (rule.compile ctx) = rule.leaves.findSome? fun c => errorOf? (c.compile ctx) := by
  induction rule using treeInduction with
  | all =>
    rw [compile, leaves_all]
    rfl
  | leaf c => rw [compile, leaves_leaf, List.findSome?_singleton]
  | group connective rules ih =>
    rw [compile, errorOf?_bind_return, compileAll_eq_mapM, errorOf?_mapM,
      findSome?_eq_findSome?_flatMap ih, leaves_group]

/-- A rule compiles exactly when each of its comparisons does by itself. -/
lemma exists_compile_eq_ok_iff {ctx : CompileContext} {rule : Rule} :
    (∃ p, rule.compile ctx = .ok p) ↔ ∀ c ∈ rule.leaves, ∃ p, c.compile ctx = .ok p := by
  rw [← errorOf?_eq_none_iff, errorOf?_compile, List.findSome?_eq_none_iff]
  simp only [errorOf?_eq_none_iff]

end Rule

/-! ## Searching -/

/-- The outcome of a search keeps to the order of faults. Of the forms of its rule that are at fault
the first decides; if there is none, the leftmost comparison that cannot be compiled does. Both ways
the source is not asked. Otherwise it is asked once, and the search fails only if the source does,
in the same way. -/
structure Outcome.FailsInOrder {α β : Type} (form? : Option RuleForm) (ctx : CompileContext)
    (answer : Except String β) (outcome : Outcome α) : Prop where
  of_form : ∀ form ∈ form?, ∀ e, form.parts.findSome? RuleForm.fault? = some e →
    outcome = ⟨.error e, 0⟩
  checked : (∀ form ∈ form?, ∀ part ∈ form.parts, part.fault? = none) →
    ∃ rule, Query.checkRule form? = .ok rule
  of_leaf : ∀ rule, Query.checkRule form? = .ok rule →
    ∀ e, rule.leaves.findSome? (fun c => errorOf? (c.compile ctx)) = some e →
      outcome = ⟨.error e, 0⟩
  of_source : ∀ rule, Query.checkRule form? = .ok rule →
    (∀ c ∈ rule.leaves, ∃ p, c.compile ctx = .ok p) →
      outcome.calls = 1 ∧
        (∀ message, answer = .error message → outcome.result = .error (.source message)) ∧
        ∀ b, answer = .ok b → ∃ a, outcome.result = .ok a

/-- A search that checks a rule, compiles it and then asks keeps to the order of faults. -/
lemma Outcome.failsInOrder {α β : Type} {form? : Option RuleForm} {ctx : CompileContext}
    {answer : Except String β} {select : Predicate → β → α} {outcome : Outcome α}
    (houtcome : outcome =
      match (do (← Query.checkRule form?).compile ctx : Except QueryError Predicate) with
      | .error e => .unasked (.error e)
      | .ok p => .asking answer (select p)) :
    outcome.FailsInOrder form? ctx answer where
  of_form := by
    intro form hform e he
    obtain rfl : form? = some form := hform
    have hcheck : form.check = .error e := by
      rwa [← errorOf?_eq_some_iff, RuleForm.errorOf?_check]
    rw [houtcome, Query.checkRule, hcheck]
    rfl
  checked := by
    intro hnone
    cases form? with
    | none => exact ⟨.all, rfl⟩
    | some form =>
      rw [Query.checkRule, ← errorOf?_eq_none_iff, RuleForm.errorOf?_check,
        List.findSome?_eq_none_iff]
      exact hnone form rfl
  of_leaf := by
    intro rule hrule e he
    have hcompile : rule.compile ctx = .error e := by
      rwa [← errorOf?_eq_some_iff, Rule.errorOf?_compile]
    rw [houtcome, hrule]
    simp only [bind, Except.bind, hcompile]
    rfl
  of_source := by
    intro rule hrule hleaves
    obtain ⟨p, hp⟩ := Rule.exists_compile_eq_ok_iff.2 hleaves
    rw [houtcome, hrule]
    simp only [bind, Except.bind, hp]
    cases answer with
    | error message =>
      refine ⟨rfl, ?_, ?_⟩
      · rintro _ ⟨⟩
        rfl
      · rintro _ ⟨⟩
    | ok b =>
      refine ⟨rfl, ?_, ?_⟩
      · rintro _ ⟨⟩
      · rintro _ ⟨⟩
        exact ⟨_, rfl⟩

/-- Both searches keep to the order of faults, whatever the query, the source and what is searched.
Only a search among the path data of an instance that has none always answers, with nothing and
without asking. Whether a rule compiles depends on each of its comparisons by itself. -/
theorem searches_fail_in_order (source : Source) (config : Config) (q : Query) :
    (∀ workspace, (searchRevisions source config q workspace).FailsInOrder q.rule
      (config.context .revision) (source.revisions workspace)) ∧
    (∀ ids, ids ≠ [] → (searchPaths source config q ids).FailsInOrder q.pathRule
      (config.context .pathData) (source.pathData ids)) ∧
    searchPaths source config q [] = ⟨.ok [], 0⟩ ∧
    ∀ (ctx : CompileContext) (rule : Rule),
      (∃ p, rule.compile ctx = .ok p) ↔ ∀ c ∈ rule.leaves, ∃ p, c.compile ctx = .ok p := by
  refine ⟨?_, ?_, rfl, fun ctx rule => Rule.exists_compile_eq_ok_iff⟩
  · intro workspace
    exact Outcome.failsInOrder rfl
  · intro ids hids
    have houtcome : searchPaths source config q ids =
        match (do (← Query.checkRule q.pathRule).compile (config.context .pathData) :
          Except QueryError Predicate) with
        | .error e => .unasked (.error e)
        | .ok p => .asking (source.pathData ids) (selectPaths p ids) := by
      rw [searchPaths, if_neg (by simpa using hids)]
      rfl
    exact Outcome.failsInOrder houtcome

/-- A query at fault in many places. In its rule for revisions a field that does not exist comes
first, then a group joined by a word that is no connective, then an operator that does not exist. In
its rule for path data two comparisons cannot be compiled, and the first of them is in a group. -/
def twistedQuery : Query where
  rule := some (.group "OR" [
    .comparison "unknown.x" "equal" ["1"] "string",
    .group "XOR" [.blank],
    .comparison "pm.name" "like" ["bolt"] "string"])
  pathRule := some (.group "AND" [
    .group "OR" [.comparison "pd-attr-TEXT.note" "equal" ["red"] "string",
      .comparison "pm.name" "equal" ["bolt"] "string"],
    .comparison "pd-attr-TEXT.note" "less" ["red"] "string"])

/-- The word that is no connective hides the other faults of the rule for revisions, and the field
of a part that of the operator. A source that fails is asked only by a query that is at fault
nowhere. -/
theorem twistedQuery_search :
    searchRevisions (.failing "down") default twistedQuery "main" =
      ⟨.error (.unparsableCondition "XOR"), 0⟩ ∧
    searchPaths (.failing "down") default twistedQuery [7] =
      ⟨.error (.unresolvedField "pm.name" "equal" ["bolt"]), 0⟩ ∧
    searchPaths (.failing "down") default twistedQuery [] = ⟨.ok [], 0⟩ ∧
    (searchPaths (.failing "down") default {} [7]).calls = 1 ∧
    (searchPaths (.failing "down") default {} [7]).result = .error (.source "down") := by
  obtain ⟨hrevisions, hpaths, hnothing, -⟩ :=
    searches_fail_in_order (.failing "down") default twistedQuery
  have hblank := (searches_fail_in_order (.failing "down") default {}).2.1 [7] (by decide)
  obtain ⟨hcalls, hfailed, -⟩ := hblank.of_source .all rfl (by simp)
  refine ⟨?_, ?_, hnothing, hcalls, hfailed "down" rfl⟩
  · exact (hrevisions "main").of_form _ rfl _ rfl
  · exact (hpaths [7] (by decide)).of_leaf _ rfl _ rfl

end PartQuery
