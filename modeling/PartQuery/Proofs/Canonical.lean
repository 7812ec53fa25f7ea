import PartQuery.Proofs.Forms

/-!
# Rules and their forms

Every rule has a form, and the form can be checked again. What comes back is the rule with two
things settled: a group of nothing asks for nothing, whichever way it is joined, and a type that
bears the name of a known type is that type. So a rule comes back as it was exactly when it has no
such part. Checking never makes one, and the form of a checked rule is therefore final: it is
checked to the same rule, whose form it is.

The main statement is `check_form_iff_isSettled`.
-/

namespace PartQuery

/-! ## Settled rules -/

namespace Rule

/-- A rule that is settled as far as it goes itself: it is no group of nothing, and no comparison
whose type keeps the name of a known type. -/
def IsSettled : Rule → Prop
  | all => True
  | leaf c => ∀ s, c.type = .other s → s ∉ OperandType.knownNames
  | group _ rules => rules ≠ []

mutual

/-- A rule with all of its parts settled. -/
def settle : Rule → Rule
  | all => all
  | leaf c => leaf { c with type := .ofName c.type.name }
  | group connective rules =>
    match rules with
    | [] => all
    | first :: rest => group connective (first.settle :: settleAll rest)

/-- Rules with all of their parts settled. -/
def settleAll : List Rule → List Rule
  | [] => []
  | rule :: rest => rule.settle :: settleAll rest

end

/-- Settling rules is settling each of them. -/
lemma settleAll_eq_map (rules : List Rule) : settleAll rules = rules.map settle := by
  induction rules with
  | nil => rw [settleAll, List.map_nil]
  | cons rule rest ih => rw [settleAll, List.map_cons, ih]

/-- A group of something is settled by settling the rules inside it. -/
lemma settle_group {rules : List Rule} (hne : rules ≠ []) (connective : Connective) :
    (group connective rules).settle = group connective (rules.map settle) := by
  cases rules with
  | nil => exact absurd rfl hne
  | cons first rest => rw [settle, settleAll_eq_map, List.map_cons]

/-- A group of nothing asks for nothing. -/
lemma settle_group_nil (connective : Connective) : (group connective []).settle = all := by
  rw [settle]

/-- Every rule has a form that is checked to the settled rule. -/
lemma check_form (rule : Rule) : rule.form.check = .ok rule.settle := by
  induction rule using treeInduction with
  | all =>
    rw [form, settle, RuleForm.check_of_isGroup_eq_false rfl]
    rfl
  | leaf c =>
    rw [form, settle, RuleForm.check_of_isGroup_eq_false rfl]
    simp [RuleForm.comparison, RuleForm.field, RuleForm.operator, RuleForm.values, RuleForm.type,
      RuleForm.checkLeaf]
  | group connective rules ih =>
    by_cases hne : rules = []
    · subst hne
      rw [form, forms_eq_map, settle_group_nil, RuleForm.check_of_isGroup_eq_false rfl]
      rfl
    · have hrules : (form (group connective rules)).rules = some (rules.map form) := by
        rw [form, forms_eq_map]
        rfl
      have hcondition : RuleForm.checkCondition (form (group connective rules)).condition =
          .ok connective := by
        rw [form]
        simp [RuleForm.group, RuleForm.condition, RuleForm.checkCondition]
      have hchecked : (rules.map form).mapM RuleForm.check = .ok (rules.map settle) := by
        rw [mapM_eq_ok_iff, List.forall₂_map_left_iff, List.forall₂_map_right_iff,
          List.forall₂_same]
        exact ih
      rw [RuleForm.check_group hrules (by simpa using hne), hcondition, hchecked,
        settle_group hne]
      rfl

/-- A property holds of all parts of a group exactly when it holds of the group and of all parts of
the rules inside it. -/
lemma forall_parts_group {P : Rule → Prop} {connective : Connective} {rules : List Rule} :
    (∀ part ∈ (group connective rules).parts, P part) ↔
      P (group connective rules) ∧ ∀ rule ∈ rules, ∀ part ∈ rule.parts, P part := by
  simp only [parts_group, List.forall_mem_cons, List.forall_mem_flatMap]

/-- Settling changes nothing exactly when all parts are settled. -/
lemma settle_eq_self_iff {rule : Rule} :
    rule.settle = rule ↔ ∀ part ∈ rule.parts, part.IsSettled := by
  induction rule using treeInduction with
  | all => simp [settle, parts, IsSettled]
  | leaf c =>
    have hsame : (leaf { c with type := .ofName c.type.name } : Rule) = leaf c ↔
        OperandType.ofName c.type.name = c.type := by
      obtain ⟨field, operator, values, type⟩ := c
      simp
    rw [settle, parts, hsame, OperandType.ofName_name_eq_self_iff]
    simp [IsSettled]
  | group connective rules ih =>
    rw [forall_parts_group]
    by_cases hne : rules = []
    · subst hne
      simp [settle_group_nil, IsSettled]
    · have hmap : rules.map settle = rules ↔ ∀ rule ∈ rules, rule.settle = rule := calc
        rules.map settle = rules ↔ rules.map settle = rules.map id := by rw [List.map_id]
        _ ↔ ∀ rule ∈ rules, rule.settle = rule := List.map_inj_left
      rw [settle_group hne, Rule.group.injEq, hmap]
      simp only [true_and, IsSettled, ne_eq, hne, not_false_eq_true]
      exact forall₂_congr ih

end Rule

/-! ## Checked rules -/

namespace RuleForm

/-- All parts of a checked rule are settled. -/
lemma isSettled_of_check {form : RuleForm} {rule : Rule} (h : form.check = .ok rule) :
    ∀ part ∈ rule.parts, part.IsSettled := by
  induction form using treeInduction generalizing rule with
  | plain form hplain =>
    rw [check_of_isGroup_eq_false hplain] at h
    rcases eq_of_checkLeaf_eq_ok h with rfl | ⟨name, found, rfl⟩
    · simp [Rule.parts, Rule.IsSettled]
    · -- The type bears the word that declared it, so it is found again.
      have hself : OperandType.ofName (OperandType.ofName (form.type.getD "string")).name =
          OperandType.ofName (form.type.getD "string") := by
        rw [OperandType.name_ofName]
      intro part hpart
      obtain rfl : part = .leaf _ := by simpa [Rule.parts] using hpart
      exact OperandType.ofName_name_eq_self_iff.1 hself
  | group form rules hrules hne ih =>
    obtain ⟨connective, checked, -, hpairs, rfl⟩ := (check_group_eq_ok_iff hrules hne).1 h
    rw [Rule.forall_parts_group]
    constructor
    · -- There are as many checked rules as forms, so there is one.
      rintro rfl
      exact hne (List.forall₂_nil_right_iff.1 hpairs)
    · intro inner hinner
      obtain ⟨inside, hinside, hinner⟩ := exists_left_of_mem_right hpairs hinner
      exact ih inside hinside hinner

/-- The form of a checked rule is checked to that rule. -/
lemma check_form_of_check {form : RuleForm} {rule : Rule} (h : form.check = .ok rule) :
    rule.form.check = .ok rule := by
  have hself : rule.settle = rule := Rule.settle_eq_self_iff.2 (isSettled_of_check h)
  rw [Rule.check_form, hself]

end RuleForm

/-- Every rule has a form that can be checked, and it is checked to the same rule exactly when the
rule has no group of nothing in it, at any depth, and no comparison whose type keeps the name of a
known type. The rule that any form is checked to is the one that its own form is checked to, and so
that form is written again unchanged. -/
theorem check_form_iff_isSettled :
    (∀ rule : Rule, ∃ again, rule.form.check = .ok again ∧
      (again = rule ↔ ∀ part ∈ rule.parts, part.IsSettled)) ∧
    ∀ (form : RuleForm) (rule : Rule), form.check = .ok rule →
      rule.form.check = .ok rule ∧
        ∀ again, rule.form.check = .ok again → again.form = rule.form := by
  constructor
  · intro rule
    exact ⟨rule.settle, Rule.check_form rule, Rule.settle_eq_self_iff⟩
  · intro form rule h
    have hself : rule.form.check = .ok rule := RuleForm.check_form_of_check h
    refine ⟨hself, ?_⟩
    intro again hagain
    obtain rfl : again = rule := Except.ok.inj (hagain.symm.trans hself)
    rfl

/-- A group with words of its own that do not count, in which a comparison is joined by a word and
has an empty list of forms inside. -/
def clutteredForm : RuleForm :=
  .mk (some "AND") (some "pm.number") (some "like") ["7"] (some "date")
    (some [.mk (some "XOR") (some "pm.name") (some "equal") ["bolt"] none (some []),
      .mk none none (some "like") [] none none])

/-- The rule that it stands for. -/
def boltRule : Rule :=
  .group .and [.leaf ⟨"pm.name", .equal, ["bolt"], .string⟩, .all]

/-- The form of that rule is final; a group of nothing deep inside a rule does not come back. -/
theorem clutteredForm_check_form :
    clutteredForm.check = .ok boltRule ∧ boltRule.form.check = .ok boltRule ∧
      ∃ again, (Rule.group .and [boltRule, .group .or []]).form.check = .ok again ∧
        again ≠ .group .and [boltRule, .group .or []] := by
  have hcheck : clutteredForm.check = .ok boltRule := rfl
  obtain ⟨again, hagain, hsame⟩ :=
    check_form_iff_isSettled.1 (.group .and [boltRule, .group .or []])
  refine ⟨hcheck, (check_form_iff_isSettled.2 clutteredForm boltRule hcheck).1, again, hagain, ?_⟩
  intro heq
  have hempty : (Rule.group .or []).IsSettled :=
    hsame.1 heq _ (by simp [Rule.parts, Rule.partsOfAll])
  exact hempty rfl

end PartQuery
