import PartQuery.Proofs.Traversal
import PartQuery.Rule.Query

/-!
# The parts of forms and rules

The words of a form are found among the names of connectives and operators, or declare a type, whose
name is then that word.

Forms and rules are trees. The parts of a tree are the tree itself and all trees inside it, at any
depth, in the order in which they are written: a group comes before the rules inside it, and these
come from left to right. The comparisons of a rule are its leaves, in the same order.

Checking is then described without the recursion that runs over the lists inside: a group is checked
by its connective and by a traversal of the forms inside it (`RuleForm.check_group`), and what is
not a group by itself (`RuleForm.check_of_isGroup_eq_false`).
-/

namespace PartQuery

/-! ## Words -/

/-- No connective has a name exactly when it is none of their names. -/
lemma Connective.ofName?_eq_none_iff {s : String} :
    Connective.ofName? s = none ↔ s ∉ Connective.all.map Connective.name := by
  simp [Connective.ofName?]

/-- No operator has a name exactly when it is none of their names. -/
lemma Operator.ofName?_eq_none_iff {s : String} :
    Operator.ofName? s = none ↔ s ∉ Operator.all.map Operator.name := by
  simp [Operator.ofName?]

namespace OperandType

/-- The names of the types that are read in a way of their own. -/
def knownNames : List String :=
  ["string", "date", "double", "status"]

/-- No type is known by a word that is none of these names. -/
lemma find?_known_eq_none_iff {s : String} :
    known.find? (·.name == s) = none ↔ s ∉ knownNames := by
  simp [known, knownNames, OperandType.name, @eq_comm _ s]

/-- The type that a word declares bears that word as its name. -/
@[simp] lemma name_ofName (s : String) : (ofName s).name = s := by
  unfold ofName
  cases hfind : known.find? (·.name == s) with
  | none => rfl
  | some type =>
    have hname := List.find?_some hfind
    simpa using hname

/-- A type is found again by its name, unless it keeps the name of a known type. -/
lemma ofName_name_eq_self_iff {type : OperandType} :
    ofName type.name = type ↔ ∀ s, type = other s → s ∉ knownNames := by
  cases type with
  | other s =>
    constructor
    · intro hself s' hs' hmem
      obtain rfl : s = s' := OperandType.other.inj hs'
      have hfind : known.find? (·.name == s) ≠ none := fun h => find?_known_eq_none_iff.1 h hmem
      obtain ⟨found, hfound⟩ := Option.ne_none_iff_exists'.1 hfind
      have hother : found = other s := by
        rw [← hself, OperandType.name, ofName, hfound]
        rfl
      -- The types that are found by name are none of those that keep a name.
      have hknown := List.mem_of_find?_eq_some hfound
      rw [hother] at hknown
      simp [known] at hknown
    · intro h
      have hfind := find?_known_eq_none_iff.2 (h s rfl)
      rw [OperandType.name, ofName, hfind]
      rfl
  | _ =>
    refine iff_of_true ?_ ?_
    · rfl
    · intro s h
      cases h

end OperandType

/-! ## Forms -/

namespace RuleForm

/-- Whether there are forms inside a form, so that it is a group. -/
def isGroup (form : RuleForm) : Bool :=
  form.rules.any (!·.isEmpty)

mutual

/-- A form and all forms inside it, in the order in which they are written. -/
def parts : RuleForm → List RuleForm
  | mk condition field operator values type rules =>
    mk condition field operator values type rules ::
      match rules with
      | none => []
      | some rules => partsOfAll rules

/-- The parts of forms, one form after the other. -/
def partsOfAll : List RuleForm → List RuleForm
  | [] => []
  | form :: rest => form.parts ++ partsOfAll rest

end

/-- The parts of forms are those of each of them. -/
lemma partsOfAll_eq_flatMap (forms : List RuleForm) : partsOfAll forms = forms.flatMap parts := by
  induction forms with
  | nil => rw [partsOfAll, List.flatMap_nil]
  | cons form rest ih => rw [partsOfAll, List.flatMap_cons, ih]

/-- The parts of a form are the form and the parts of the forms inside it. -/
lemma parts_eq (form : RuleForm) :
    form.parts = form :: (form.rules.getD []).flatMap parts := by
  obtain ⟨condition, field, operator, values, type, rules⟩ := form
  cases rules with
  | none =>
    rw [parts]
    rfl
  | some rules =>
    rw [parts, partsOfAll_eq_flatMap]
    rfl

/-- Checking forms is a traversal. -/
lemma checkAll_eq_mapM (forms : List RuleForm) : checkAll forms = forms.mapM check := by
  induction forms with
  | nil => rw [checkAll, List.mapM_nil]; rfl
  | cons form rest ih => rw [checkAll, List.mapM_cons, ih]

/-- A group is checked by its connective and then by the forms inside it. -/
lemma check_group {form : RuleForm} {rules : List RuleForm} (hrules : form.rules = some rules)
    (hne : rules ≠ []) :
    form.check = do
      let connective ← checkCondition form.condition
      let checked ← rules.mapM check
      return .group connective checked := by
  obtain ⟨condition, field, operator, values, type, found⟩ := form
  obtain rfl : found = some rules := hrules
  cases rules with
  | nil => exact absurd rfl hne
  | cons first rest =>
    rw [check, List.mapM_cons, ← checkAll_eq_mapM]
    simp only [bind_assoc, pure_bind]
    rfl

/-- A form that is no group is checked by itself. -/
lemma check_of_isGroup_eq_false {form : RuleForm} (h : form.isGroup = false) :
    form.check = checkLeaf form.field form.operator form.values form.type := by
  obtain ⟨condition, field, operator, values, type, rules⟩ := form
  cases rules with
  | none => rw [check]; rfl
  | some rules =>
    cases rules with
    | nil => rw [check]; rfl
    | cons first rest => cases h

/-- A group is checked to a group exactly when its connective and the forms inside it are. -/
lemma check_group_eq_ok_iff {form : RuleForm} {rules : List RuleForm} {rule : Rule}
    (hrules : form.rules = some rules) (hne : rules ≠ []) :
    form.check = .ok rule ↔ ∃ connective checked, checkCondition form.condition = .ok connective ∧
      List.Forall₂ (fun inner rule => inner.check = .ok rule) rules checked ∧
        rule = .group connective checked := by
  rw [check_group hrules hne]
  simp only [bind_eq_ok_iff, mapM_eq_ok_iff, pure, Except.pure, Except.ok.injEq, @eq_comm _ rule]
  constructor
  · rintro ⟨connective, hconnective, checked, hchecked, rfl⟩
    exact ⟨connective, checked, hconnective, hchecked, rfl⟩
  · rintro ⟨connective, checked, hconnective, hchecked, rfl⟩
    exact ⟨connective, hconnective, checked, hchecked, rfl⟩

/-- A form that is no group is checked to nothing that it asks for, or to one comparison with its
operands, of the type that its word declares. -/
lemma eq_of_checkLeaf_eq_ok {field operator : Option String} {values : List String}
    {type : Option String} {rule : Rule} (h : checkLeaf field operator values type = .ok rule) :
    rule = .all ∨ ∃ name found,
      rule = .leaf ⟨name, found, values, OperandType.ofName (type.getD "string")⟩ := by
  cases field with
  | none =>
    cases h
    exact Or.inl rfl
  | some name =>
    simp only [checkLeaf] at h
    split at h
    · next found _ =>
      cases h
      exact Or.inr ⟨name, found, rfl⟩
    · cases h

/-- A form that is no group has no forms inside. -/
lemma getD_rules_of_isGroup_eq_false {form : RuleForm} (h : form.isGroup = false) :
    form.rules.getD [] = [] := by
  unfold isGroup at h
  cases hrules : form.rules with
  | none => rfl
  | some rules => simpa [hrules] using h

/-- A form is a group exactly when it has forms inside. -/
lemma isGroup_eq_true_iff {form : RuleForm} :
    form.isGroup = true ↔ ∃ rules, form.rules = some rules ∧ rules ≠ [] := by
  unfold isGroup
  rw [Option.any_eq_true]
  simp

/-- What holds of every form that is no group, and of a group when it holds of the forms inside it,
holds of every form. -/
@[elab_as_elim]
theorem treeInduction {P : RuleForm → Prop} (plain : ∀ form, form.isGroup = false → P form)
    (group : ∀ form rules, form.rules = some rules → rules ≠ [] → (∀ inner ∈ rules, P inner) →
      P form) :
    ∀ form, P form
  | mk condition field operator values type none => plain _ rfl
  | mk condition field operator values type (some []) => plain _ rfl
  | mk condition field operator values type (some (first :: rest)) =>
    group _ (first :: rest) rfl (List.cons_ne_nil first rest) fun inner _ =>
      treeInduction plain group inner

/-- What holds of a form when it holds of the forms inside it holds of every form. -/
@[elab_as_elim]
theorem insideInduction {P : RuleForm → Prop}
    (h : ∀ form, (∀ rules ∈ form.rules, ∀ inner ∈ rules, P inner) → P form) : ∀ form, P form := by
  intro form
  induction form using treeInduction with
  | plain form hplain =>
    refine h form ?_
    intro rules hrules inner hinner
    have hempty : rules = [] := by
      rw [← getD_rules_of_isGroup_eq_false hplain, hrules, Option.getD_some]
    rw [hempty] at hinner
    cases hinner
  | group form rules hrules hne ih =>
    refine h form ?_
    rw [hrules]
    rintro _ ⟨⟩
    exact ih

end RuleForm

/-! ## Rules -/

namespace Rule

mutual

/-- A rule and all rules inside it, in the order in which they are written. -/
def parts : Rule → List Rule
  | all => [all]
  | leaf c => [leaf c]
  | group connective rules => group connective rules :: partsOfAll rules

/-- The parts of rules, one rule after the other. -/
def partsOfAll : List Rule → List Rule
  | [] => []
  | rule :: rest => rule.parts ++ partsOfAll rest

end

/-- The parts of rules are those of each of them. -/
lemma partsOfAll_eq_flatMap (rules : List Rule) : partsOfAll rules = rules.flatMap parts := by
  induction rules with
  | nil => rw [partsOfAll, List.flatMap_nil]
  | cons rule rest ih => rw [partsOfAll, List.flatMap_cons, ih]

/-- The parts of a group are the group and the parts of the rules inside it. -/
lemma parts_group (connective : Connective) (rules : List Rule) :
    (group connective rules).parts = group connective rules :: rules.flatMap parts := by
  rw [parts, partsOfAll_eq_flatMap]

/-- The comparison that a rule is, if it is one. -/
def comparison? : Rule → Option Comparison
  | leaf c => some c
  | _ => none

/-- The comparisons of a rule, from left to right. -/
def leaves (rule : Rule) : List Comparison :=
  rule.parts.filterMap comparison?

@[simp] lemma leaves_all : all.leaves = [] := by
  rw [leaves, parts]
  rfl

@[simp] lemma leaves_leaf (c : Comparison) : (leaf c).leaves = [c] := by
  rw [leaves, parts]
  rfl

/-- The comparisons of a group are those of the rules inside it. -/
lemma leaves_group (connective : Connective) (rules : List Rule) :
    (group connective rules).leaves = rules.flatMap leaves := by
  have hgroup : comparison? (group connective rules) = none := rfl
  rw [leaves, parts_group, List.filterMap_cons_none hgroup, List.filterMap_flatMap]
  rfl

/-- What holds of every rule that is no group, and of a group when it holds of the rules inside it,
holds of every rule. -/
@[elab_as_elim]
theorem treeInduction {P : Rule → Prop} (all : P all) (leaf : ∀ c, P (leaf c))
    (group : ∀ connective rules, (∀ rule ∈ rules, P rule) → P (group connective rules)) :
    ∀ rule, P rule
  | .all => all
  | .leaf c => leaf c
  | .group connective rules =>
    group connective rules fun rule _ => treeInduction all leaf group rule

/-- Writing rules is writing each of them. -/
lemma forms_eq_map (rules : List Rule) : forms rules = rules.map form := by
  induction rules with
  | nil => rw [forms, List.map_nil]
  | cons rule rest ih => rw [forms, List.map_cons, ih]

end Rule

end PartQuery
