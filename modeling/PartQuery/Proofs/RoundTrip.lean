import PartQuery.Proofs.Canonical
import PartQuery.Proofs.Json.Records

/-!
# Rules and queries come back from their JSON

A form or a query that is written as JSON and read again is the same one, as long as its text opens
no more arrays and objects at once than a reader allows; and it is not read if its text opens more.
A text that was read and whose form was checked has a rule whose own form is written no deeper, so
the JSON of that form is always read again, and checked to the same rule.

The main statement is `json_round_trip`.
-/

namespace PartQuery

open Json (Reader Slot Value Outline depthLimit outlineParts)

/-! ## What is written -/

namespace RuleForm

/-- Writing forms is writing each of them. -/
lemma toValues_eq_map (forms : List RuleForm) : toValues forms = forms.map toValue := by
  induction forms with
  | nil => rw [toValues, List.map_nil]
  | cons form rest ih => rw [toValues, List.map_cons, ih]

/-- The parts of a form with what is written for them; those that say nothing are left out. -/
def given (nesting : Nat) (form : RuleForm) : List (Slot RuleForm × Option Value) := [
  (.of "condition" .defaulted (.optional .text) setCondition, form.condition.map .text),
  (.of "field" .defaulted (.optional .text) setField, form.field.map .text),
  (.of "operator" .defaulted (.optional .text) setOperator, form.operator.map .text),
  (.of "values" .defaulted (.list .text) setValues,
    if form.values.isEmpty then none else some (textArray form.values)),
  (.of "type" .defaulted (.optional .text) setType, form.type.map .text),
  (.of "subQueryRules" .defaulted (.optional (.list (reader nesting))) setRules,
    form.rules.map fun rules => .array (rules.map toValue))]

/-- A form is written part by part. -/
lemma toValue_eq_ofParts (nesting : Nat) (form : RuleForm) :
    form.toValue = .ofParts (form.given nesting) := by
  obtain ⟨condition, field, operator, values, type, rules⟩ := form
  have hmember : ∀ {α : Type} (name : String) (f : α → Value) (a? : Option α),
      writtenMember name f a? = ((a?.map f).map (name, ·)).toList := by
    intro α name f a?
    cases a? <;> rfl
  have hvalues : (if values.isEmpty then [] else [("values", textArray values)]) =
      ((if values.isEmpty then none else some (textArray values)).map ("values", ·)).toList := by
    cases values <;> rfl
  cases rules with
  | none =>
    rw [toValue, hvalues]
    simp only [hmember, Value.ofParts, given, List.flatMap_cons, List.append_assoc]
    rfl
  | some rules =>
    rw [toValue, hvalues, toValues_eq_map]
    simp only [hmember, Value.ofParts, given, List.flatMap_cons, List.append_assoc]
    rfl

/-- What holds of texts holds of all parts of a form when it holds of its operands and of the forms
inside it. -/
lemma forall_mem_given_iff {P : Value → Prop} (htext : ∀ s, P (.text s)) {nesting : Nat}
    {form : RuleForm} :
    (∀ g ∈ form.given nesting, ∀ v ∈ g.2, P v) ↔
      (form.values ≠ [] → P (textArray form.values)) ∧
        ∀ rules ∈ form.rules, P (.array (rules.map toValue)) := by
  simp [given, htext]

/-- What is written for texts is held in full. -/
lemma held_textArray (l : List String) : (textArray l).Held :=
  .array (List.forall_mem_map.2 fun s _ => .text s)

/-- What is written for texts opens one bracket. -/
lemma depth_textArray (l : List String) : (textArray l).depth = 1 := by
  have hle : (textArray l).depth ≤ 1 := Value.depth_array_le_iff.2 ⟨Nat.le_refl 1, by simp⟩
  have hopen : 1 ≤ (textArray l).depth := (Value.depth_array_le_iff.1 (Nat.le_refl _)).1
  omega

/-- The text of a form opens a brace, a bracket around its operands, and a bracket around the forms
inside it. -/
lemma depth_toValue_le_iff {form : RuleForm} {n : Nat} :
    form.toValue.depth ≤ n ↔ 1 ≤ n ∧ (form.values ≠ [] → 2 ≤ n) ∧
      ∀ rules ∈ form.rules, 2 ≤ n ∧ ∀ inner ∈ rules, inner.toValue.depth + 2 ≤ n := by
  rw [toValue_eq_ofParts 0, Value.depth_ofParts_le_iff]
  refine and_congr_right fun hopen => ?_
  obtain ⟨n, rfl⟩ : ∃ k, n = k + 1 := ⟨n - 1, by omega⟩
  have htext : ∀ s, (Value.text s).depth + 1 ≤ n + 1 := by simp
  have hrules : ∀ rules : List RuleForm, (Value.array (rules.map toValue)).depth + 1 ≤ n + 1 ↔
      2 ≤ n + 1 ∧ ∀ inner ∈ rules, inner.toValue.depth + 2 ≤ n + 1 := by
    intro rules
    rw [Nat.add_le_add_iff_right, Value.depth_array_le_iff, List.forall_mem_map]
    simp only [Nat.succ_le_succ_iff]
  rw [forall_mem_given_iff (P := fun v => v.depth + 1 ≤ n + 1) htext, depth_textArray]
  simp only [hrules]

/-- The text of the form in which nothing is given opens a brace. -/
lemma depth_blank_le_iff {n : Nat} : blank.toValue.depth ≤ n ↔ 1 ≤ n := by
  rw [depth_toValue_le_iff]
  refine and_iff_left ⟨?_, ?_⟩
  · intro hne
    exact absurd rfl hne
  · rintro rules ⟨⟩

/-- What is written for a form is held in full. -/
lemma held_toValue (form : RuleForm) : form.toValue.Held := by
  induction form using insideInduction with
  | h form ih =>
    rw [toValue_eq_ofParts 0]
    refine Value.held_ofParts ((forall_mem_given_iff Value.Held.text).2 ⟨?_, ?_⟩)
    · intro _
      exact held_textArray form.values
    · intro rules hrules
      exact .array (List.forall_mem_map.2 (ih rules hrules))

/-! ## What is read -/

/-- An optional text that is written is read, and one that is not written is not missed. -/
lemma readGiven_optionalText {σ : Type} {name : String} {put : Option String → σ → σ} {r : σ}
    (hnone : put none r = r) (s? : Option String) (level : Nat)
    (given : List (Slot σ × Option Outline)) :
    Reader.readGiven r ((.of name .defaulted (.optional .text) put,
      (s?.map Value.text).map (Value.outline level)) :: given) =
        Reader.readGiven (put s? r) given := by
  cases s? with
  | none =>
    rw [hnone]
    exact Reader.readGiven_none given
  | some s =>
    have htext : Reader.optional .text ((Value.text s).outline level) = .ok (some s) := rfl
    exact Reader.readGiven_some htext given

/-- Texts that are written are read. -/
lemma list_text_textArray {level : Nat} (hlevel : level + 1 ≤ depthLimit) (l : List String) :
    Reader.list .text ((textArray l).outline level) = .ok l :=
  Reader.list_outline hlevel fun _ _ => rfl

/-- Operands that are written are read, and none are read when none are written. -/
lemma readGiven_operands {r : RuleForm} (hnone : setValues [] r = r) {values : List String}
    {level : Nat} (hlevel : values ≠ [] → level + 1 ≤ depthLimit)
    (given : List (Slot RuleForm × Option Outline)) :
    Reader.readGiven r ((.of "values" .defaulted (.list .text) setValues,
      (if values.isEmpty then none else some (textArray values)).map (Value.outline level)) ::
        given) = Reader.readGiven (setValues values r) given := by
  cases values with
  | nil =>
    rw [hnone]
    exact Reader.readGiven_none given
  | cons first rest =>
    have hlist : Reader.list .text ((textArray (first :: rest)).outline level) =
        .ok (first :: rest) :=
      list_text_textArray (hlevel (List.cons_ne_nil first rest)) (first :: rest)
    exact Reader.readGiven_some hlist given

/-- Forms inside that are written are read when each of them is. -/
lemma readGiven_rules {r : RuleForm} (hnone : setRules none r = r) {item : Reader RuleForm}
    {rules : Option (List RuleForm)} {level : Nat}
    (hlevel : ∀ l ∈ rules, level + 1 ≤ depthLimit)
    (hitems : ∀ l ∈ rules, ∀ inner ∈ l, item (inner.toValue.outline (level + 1)) = .ok inner)
    (given : List (Slot RuleForm × Option Outline)) :
    Reader.readGiven r ((.of "subQueryRules" .defaulted (.optional (.list item)) setRules,
      (rules.map fun l => .array (l.map toValue)).map (Value.outline level)) :: given) =
        Reader.readGiven (setRules rules r) given := by
  cases rules with
  | none =>
    rw [hnone]
    exact Reader.readGiven_none given
  | some l =>
    have hlist : Reader.list item ((Value.array (l.map toValue)).outline level) = .ok l :=
      Reader.list_outline (hlevel l rfl) (hitems l rfl)
    have hoptional : Reader.optional (.list item) ((Value.array (l.map toValue)).outline level) =
        .ok (some l) := by
      rw [Reader.optional_of_ne_null (by rw [Value.outline]; simp), hlist]
      rfl
    exact Reader.readGiven_some hoptional given

/-- A form that opens no more than the limit is read as it was written, by a reader that allows for
so many forms inside each other. -/
lemma reader_toValue {nesting level : Nat} {form : RuleForm}
    (hdepth : level + form.toValue.depth ≤ depthLimit) (hnesting : form.toValue.depth ≤ nesting) :
    reader nesting (form.toValue.outline level) = .ok form := by
  -- A form inside opens two less than the one around it, so one step of the reader allows for it.
  induction nesting generalizing level form with
  | zero =>
    obtain ⟨hopen, -⟩ := depth_toValue_le_iff.1 hnesting
    omega
  | succ nesting ih =>
    obtain ⟨hopen, hoperands, hinside⟩ := depth_toValue_le_iff.1 (Nat.le_refl form.toValue.depth)
    have hrecord : Reader.record blank ((form.given nesting).map (·.1))
        ((Value.ofParts (form.given nesting)).outline level) =
          Reader.readGiven blank (outlineParts (level + 1) (form.given nesting)) :=
      Reader.record_ofParts (by omega) blank (by simp [given, Slot.of]) (by simp [given, Slot.of])
    have hread : reader (nesting + 1) (form.toValue.outline level) =
        Reader.readGiven blank (outlineParts (level + 1) (form.given nesting)) := by
      rw [toValue_eq_ofParts nesting]
      exact hrecord
    have hvalues : form.values ≠ [] → level + 1 + 1 ≤ depthLimit := by
      intro hne
      have htwo : 2 ≤ form.toValue.depth := hoperands hne
      omega
    have hrules : ∀ rules ∈ form.rules, level + 1 + 1 ≤ depthLimit := by
      intro rules hrules
      have htwo : 2 ≤ form.toValue.depth := (hinside rules hrules).1
      omega
    have hitems : ∀ rules ∈ form.rules, ∀ inner ∈ rules,
        reader nesting (inner.toValue.outline (level + 1 + 1)) = .ok inner := by
      intro rules hrules inner hinner
      have hinner : inner.toValue.depth + 2 ≤ form.toValue.depth :=
        (hinside rules hrules).2 inner hinner
      exact ih (by omega) (by omega)
    rw [hread]
    simp only [given, outlineParts, List.map_cons, List.map_nil]
    rw [readGiven_optionalText rfl, readGiven_optionalText rfl, readGiven_optionalText rfl,
      readGiven_operands rfl hvalues, readGiven_optionalText rfl,
      readGiven_rules rfl hrules hitems]
    cases form
    rfl

/-- A part of a form that is neither its operands nor the forms inside it does not make it deeper.
-/
lemma keeps_depth {α : Type} {name : String} {presence : Json.Presence} {item : Reader α}
    {put : α → RuleForm → RuleForm} (hvalues : ∀ a form, (put a form).values = form.values)
    (hrules : ∀ a form, (put a form).rules = form.rules) (n : Nat) (Q : Outline → Prop) :
    (Slot.of name presence item put).Keeps (fun form => form.toValue.depth ≤ n) Q := by
  intro o form form' _ hread hdepth
  obtain ⟨a, -, rfl⟩ := Slot.of_read_eq_ok_iff.1 hread
  rw [depth_toValue_le_iff] at hdepth ⊢
  rwa [hvalues, hrules]

/-- Operands that are read are written no deeper. -/
lemma keeps_depth_operands {level : Nat} {name : String} {presence : Json.Presence} :
    (Slot.of name presence (.list .text) setValues).Keeps
      (fun form => form.toValue.depth ≤ depthLimit - level) (Outline.Leveled (level + 1)) := by
  intro o form form' hleveled hread hdepth
  obtain ⟨values, hvalues, rfl⟩ := Slot.of_read_eq_ok_iff.1 hread
  obtain ⟨hlevel, -⟩ := Reader.exists_leveled_of_list hleveled hvalues
  obtain ⟨hopen, -, hinside⟩ := depth_toValue_le_iff.1 hdepth
  obtain ⟨condition, field, operator, _, type, rules⟩ := form
  exact depth_toValue_le_iff.2 ⟨hopen, fun _ => by omega, hinside⟩

/-- Forms inside that are read are written no deeper when each of them is. -/
lemma keeps_depth_rules {level : Nat} {name : String} {presence : Json.Presence}
    {item : Reader RuleForm} (hitem : ∀ {o : Outline} {form : RuleForm},
      o.Leveled (level + 2) → item o = .ok form → level + 2 + form.toValue.depth ≤ depthLimit) :
    (Slot.of name presence (.optional (.list item)) setRules).Keeps
      (fun form => form.toValue.depth ≤ depthLimit - level) (Outline.Leveled (level + 1)) := by
  intro o form form' hleveled hread hdepth
  obtain ⟨rules, hrules, rfl⟩ := Slot.of_read_eq_ok_iff.1 hread
  obtain ⟨hopen, hoperands, -⟩ := depth_toValue_le_iff.1 hdepth
  obtain ⟨condition, field, operator, values, type, _⟩ := form
  refine depth_toValue_le_iff.2 ⟨hopen, hoperands, ?_⟩
  rintro l ⟨rfl⟩
  obtain ⟨hlevel, hitems⟩ :=
    Reader.exists_leveled_of_list hleveled (Reader.eq_ok_of_optional hrules)
  refine ⟨by omega, ?_⟩
  intro inner hinner
  obtain ⟨o', hleveled', hread'⟩ := hitems inner hinner
  have hdepth' : level + 2 + inner.toValue.depth ≤ depthLimit := hitem hleveled' hread'
  omega

/-- A form that is read opens no more than the limit when it is written again. -/
lemma level_add_depth_le {nesting level : Nat} {o : Outline} {form : RuleForm}
    (hleveled : o.Leveled level) (h : reader nesting o = .ok form) :
    level + form.toValue.depth ≤ depthLimit := by
  induction nesting generalizing level o form with
  | zero => cases h
  | succ nesting ih =>
    have hstart : level + 1 ≤ depthLimit → blank.toValue.depth ≤ depthLimit - level := by
      intro hlevel
      exact depth_blank_le_iff.2 (by omega)
    -- The parts may come in any order, so the bound is kept from part to part.
    have hdepth : form.toValue.depth ≤ depthLimit - level := by
      refine Reader.record_preserves (P := fun form => form.toValue.depth ≤ depthLimit - level)
        hleveled ?_ hstart h
      simp only [List.forall_mem_cons]
      refine ⟨keeps_depth ?_ ?_ _ _, keeps_depth ?_ ?_ _ _, keeps_depth ?_ ?_ _ _,
        keeps_depth_operands, keeps_depth ?_ ?_ _ _, keeps_depth_rules ih, by simp⟩
      all_goals
        rintro a ⟨⟩
        rfl
    have hopen : 1 ≤ form.toValue.depth := (depth_toValue_le_iff.1 (Nat.le_refl _)).1
    omega

/-- The form of a checked rule is written no deeper than the form that was checked. -/
lemma depth_form_le_of_check {form : RuleForm} {rule : Rule} (h : form.check = .ok rule) :
    rule.form.toValue.depth ≤ form.toValue.depth := by
  induction form using treeInduction generalizing rule with
  | plain form hplain =>
    obtain ⟨hopen, hoperands, -⟩ := depth_toValue_le_iff.1 (Nat.le_refl form.toValue.depth)
    rw [check_of_isGroup_eq_false hplain] at h
    rcases eq_of_checkLeaf_eq_ok h with rfl | ⟨name, found, rfl⟩
    · rw [Rule.form]
      exact depth_blank_le_iff.2 hopen
    · rw [Rule.form]
      refine depth_toValue_le_iff.2 ⟨hopen, hoperands, ?_⟩
      rintro rules ⟨⟩
  | group form rules hrules hne ih =>
    obtain ⟨connective, checked, -, hpairs, rfl⟩ := (check_group_eq_ok_iff hrules hne).1 h
    obtain ⟨hopen, -, hinside⟩ := depth_toValue_le_iff.1 (Nat.le_refl form.toValue.depth)
    obtain ⟨htwo, hinner⟩ := hinside rules hrules
    rw [Rule.form, Rule.forms_eq_map]
    refine depth_toValue_le_iff.2 ⟨hopen, ?_, ?_⟩
    · intro hne
      exact absurd rfl hne
    · rintro _ ⟨rfl⟩
      refine ⟨htwo, ?_⟩
      rw [List.forall_mem_map]
      intro part hpart
      obtain ⟨inner, hmem, hcheck⟩ := exists_left_of_mem_right hpairs hpart
      have hle : part.form.toValue.depth ≤ inner.toValue.depth := ih inner hmem hcheck
      have hdepth : inner.toValue.depth + 2 ≤ form.toValue.depth := hinner inner hmem
      omega

/-- A form that is read opens no more than the limit in JSON of its own. -/
lemma depth_le_of_ofJson {text : String} {form : RuleForm} (h : ofJson text = .ok form) :
    form.toValue.depth ≤ depthLimit := by
  obtain ⟨o, hleveled, hread⟩ := Json.exists_leveled_of_readDocument h
  simpa using level_add_depth_le hleveled hread

/-- A form whose JSON opens no more than the limit is read from it. -/
lemma ofJson_toJson {form : RuleForm} (h : form.toValue.depth ≤ depthLimit) :
    ofJson form.toJson = .ok form := by
  rw [ofJson, toJson, Json.readDocument_render _ form.held_toValue]
  exact reader_toValue (by simpa using h) h

end RuleForm

/-! ## Queries -/

namespace QueryContext

/-- The parts of a context with what is written for them. -/
def given (c : QueryContext) : List (Slot QueryContext × Option Value) := [
  (.of "serialNumber" .required .text fun s c => { c with serialNumber := s },
    some (.text c.serialNumber)),
  (.of "configurationItem" .required .text fun s c => { c with configurationItem := s },
    some (.text c.configurationItem))]

/-- A context is written part by part. -/
lemma toValue_eq_ofParts (c : QueryContext) : c.toValue = .ofParts c.given := rfl

/-- A context is read as it was written, where one more bracket may be opened. -/
lemma read_toValue {level : Nat} (hlevel : level + 1 ≤ depthLimit) (c : QueryContext) :
    read (c.toValue.outline level) = .ok c := by
  have hrecord : Reader.record default (c.given.map (·.1)) ((Value.ofParts c.given).outline level) =
      Reader.readGiven default (outlineParts (level + 1) c.given) :=
    Reader.record_ofParts hlevel default (by simp [given, Slot.of]) (by simp [given])
  rw [toValue_eq_ofParts]
  exact hrecord

/-- What is written for a context is held in full. -/
lemma held_toValue (c : QueryContext) : c.toValue.Held := by
  rw [toValue_eq_ofParts]
  refine Value.held_ofParts ?_
  simp [given, Value.Held.text]

/-- A context opens one brace. -/
lemma depth_toValue_le (c : QueryContext) : c.toValue.depth ≤ 1 := by
  rw [toValue_eq_ofParts, Value.depth_ofParts_le_iff]
  simp [given]

end QueryContext

namespace Query

/-- The parts of a query with what is written for them. -/
def given (q : Query) : List (Slot Query × Option Value) := [
  (.of "name" .defaulted .text fun s q => { q with name := s }, some (.text q.name)),
  (.of "queryRule" .defaulted (.optional RuleForm.read) fun r q => { q with rule := r },
    some (.nullable RuleForm.toValue q.rule)),
  (.of "pathDataQueryRule" .defaulted (.optional RuleForm.read) fun r q => { q with pathRule := r },
    some (.nullable RuleForm.toValue q.pathRule)),
  (.of "selects" .defaulted (.list .text) fun l q => { q with selects := l },
    some (RuleForm.textArray q.selects)),
  (.of "orderByList" .defaulted (.list .text) fun l q => { q with orderBy := l },
    some (RuleForm.textArray q.orderBy)),
  (.of "groupedByList" .defaulted (.list .text) fun l q => { q with groupedBy := l },
    some (RuleForm.textArray q.groupedBy)),
  (.of "contexts" .defaulted (.list QueryContext.read) fun l q => { q with contexts := l },
    some (.array (q.contexts.map QueryContext.toValue)))]

/-- A query is written part by part. -/
lemma toValue_eq_ofParts (q : Query) : q.toValue = .ofParts q.given := rfl

/-- What is written for a rule that may be missing is held in full. -/
lemma held_nullable (r? : Option RuleForm) : (Value.nullable RuleForm.toValue r?).Held := by
  cases r? with
  | none => exact .null
  | some form => exact form.held_toValue

/-- What is written for a query is held in full. -/
lemma held_toValue (q : Query) : q.toValue.Held := by
  have hcontexts : (Value.array (q.contexts.map QueryContext.toValue)).Held :=
    .array (List.forall_mem_map.2 fun c _ => c.held_toValue)
  rw [toValue_eq_ofParts]
  refine Value.held_ofParts ?_
  simp [given, held_nullable, RuleForm.held_textArray, hcontexts, Value.Held.text]

/-- Apart from its rules, a query does not come near the limit. -/
lemma depth_toValue_le_iff {q : Query} :
    q.toValue.depth ≤ depthLimit ↔
      ∀ form, form ∈ q.rule ∨ form ∈ q.pathRule → 1 + form.toValue.depth ≤ depthLimit := by
  have hnullable : ∀ r? : Option RuleForm,
      (Value.nullable RuleForm.toValue r?).depth + 1 ≤ depthLimit ↔
        ∀ form ∈ r?, 1 + form.toValue.depth ≤ depthLimit := by
    intro r?
    cases r? with
    | none => simp [Value.nullable, depthLimit]
    | some form => simp [Value.nullable, Nat.add_comm]
  have htexts : ∀ l : List String, (RuleForm.textArray l).depth + 1 ≤ depthLimit := by
    intro l
    rw [RuleForm.depth_textArray]
    decide
  have hcontexts : (Value.array (q.contexts.map QueryContext.toValue)).depth + 1 ≤ depthLimit := by
    refine Nat.succ_le_succ (Value.depth_array_le_iff.2 ⟨by decide, ?_⟩)
    rw [List.forall_mem_map]
    intro c _
    exact Nat.le_trans (Nat.succ_le_succ c.depth_toValue_le) (by decide)
  have hname : (Value.text q.name).depth + 1 ≤ depthLimit := by
    rw [Value.depth_text]
    decide
  have hlimit : 1 ≤ depthLimit := by decide
  rw [toValue_eq_ofParts, Value.depth_ofParts_le_iff]
  simp only [given, List.forall_mem_cons, List.not_mem_nil, false_implies, implies_true,
    Option.mem_def, Option.some.injEq, forall_eq', hname, hnullable, htexts, hcontexts, hlimit,
    true_and, and_true, or_imp, forall_and]

/-- A rule that may be missing is read as it was written. -/
lemma optional_read_nullable {r? : Option RuleForm}
    (h : ∀ form ∈ r?, 1 + form.toValue.depth ≤ depthLimit) :
    Reader.optional RuleForm.read ((Value.nullable RuleForm.toValue r?).outline 1) = .ok r? := by
  cases r? with
  | none => rfl
  | some form =>
    have hdepth : 1 + form.toValue.depth ≤ depthLimit := h form rfl
    have hread : RuleForm.read (form.toValue.outline 1) = .ok form :=
      RuleForm.reader_toValue hdepth (by omega)
    have hne : form.toValue.outline 1 ≠ .null := by
      rw [RuleForm.toValue_eq_ofParts 0, Value.outline_ofParts]
      simp
    rw [Value.nullable, Reader.optional_of_ne_null hne, hread]
    rfl

/-- A query whose JSON opens no more than the limit is read from it. -/
lemma ofJson_toJson {q : Query} (h : q.toValue.depth ≤ depthLimit) :
    ofJson q.toJson = .ok q := by
  have hrules := depth_toValue_le_iff.1 h
  have hrule : Reader.optional RuleForm.read ((Value.nullable RuleForm.toValue q.rule).outline 1) =
      .ok q.rule :=
    optional_read_nullable fun form hform => hrules form (Or.inl hform)
  have hpathRule : Reader.optional RuleForm.read
      ((Value.nullable RuleForm.toValue q.pathRule).outline 1) = .ok q.pathRule :=
    optional_read_nullable fun form hform => hrules form (Or.inr hform)
  have hname : Reader.text ((Value.text q.name).outline 1) = .ok q.name := rfl
  have htexts : ∀ l : List String,
      Reader.list .text ((RuleForm.textArray l).outline 1) = .ok l :=
    RuleForm.list_text_textArray (by decide)
  have hcontexts : Reader.list QueryContext.read
      ((Value.array (q.contexts.map QueryContext.toValue)).outline 1) = .ok q.contexts :=
    Reader.list_outline (by decide) fun c _ => QueryContext.read_toValue (by decide) c
  have hnodup : (q.given.map (·.1.name)).Nodup := by
    simp [given, Slot.of]
  have hpresent : ∀ g ∈ q.given, g.1.presence = .required → g.2.isSome = true := by
    simp [given]
  have hlevel : 0 + 1 ≤ depthLimit := by decide
  have hrecord : Reader.record {} (q.given.map (·.1)) ((Value.ofParts q.given).outline 0) =
      Reader.readGiven {} (outlineParts 1 q.given) :=
    Reader.record_ofParts hlevel {} hnodup hpresent
  have hread : Reader.readGiven {} (outlineParts 1 q.given) = .ok q := by
    simp only [given, outlineParts, List.map_cons, List.map_nil, Option.map_some]
    rw [Reader.readGiven_some hname, Reader.readGiven_some hrule, Reader.readGiven_some hpathRule,
      Reader.readGiven_some (htexts _), Reader.readGiven_some (htexts _),
      Reader.readGiven_some (htexts _), Reader.readGiven_some hcontexts]
    rfl
  rw [ofJson, toJson, Json.readDocument_render _ q.held_toValue, toValue_eq_ofParts]
  exact hrecord.trans hread

/-- A query that is read opens no more than the limit in JSON of its own. -/
lemma depth_le_of_ofJson {text : String} {q : Query} (h : ofJson text = .ok q) :
    q.toValue.depth ≤ depthLimit := by
  obtain ⟨o, hleveled, hread⟩ := Json.exists_leveled_of_readDocument h
  have hrule : ∀ {o : Outline} {r? : Option RuleForm}, o.Leveled 1 →
      Reader.optional RuleForm.read o = .ok r? →
        ∀ form ∈ r?, 1 + form.toValue.depth ≤ depthLimit := by
    rintro o _ hleveled hread form ⟨rfl⟩
    exact RuleForm.level_add_depth_le hleveled (Reader.eq_ok_of_optional hread)
  have hrules : ∀ form, form ∈ q.rule ∨ form ∈ q.pathRule →
      1 + form.toValue.depth ≤ depthLimit := by
    refine Reader.record_preserves
      (P := fun q : Query => ∀ form, form ∈ q.rule ∨ form ∈ q.pathRule →
        1 + form.toValue.depth ≤ depthLimit) hleveled ?_ ?_ hread
    · simp only [List.forall_mem_cons]
      refine ⟨?_, ?_, ?_, ?_, ?_, ?_, ?_, by simp⟩
      all_goals
        intro o q q' hleveled hread hq
        obtain ⟨a, ha, rfl⟩ := Slot.of_read_eq_ok_iff.1 hread
      case refine_2 =>
        rintro form (hform | hform)
        · exact hrule hleveled ha form hform
        · exact hq form (Or.inr hform)
      case refine_3 =>
        rintro form (hform | hform)
        · exact hq form (Or.inl hform)
        · exact hrule hleveled ha form hform
      all_goals exact hq
    · rintro - form (⟨⟨⟩⟩ | ⟨⟨⟩⟩)
  exact depth_toValue_le_iff.2 hrules

end Query

/-! ## Round trips -/

/-- A form, and a query, is read from its own JSON exactly when that opens no more arrays and
objects at once than a reader allows. Whenever a text is read as a form that can be checked, the
form of its rule is read from its own JSON and checked to the same rule. -/
theorem json_round_trip :
    (∀ form : RuleForm, RuleForm.ofJson form.toJson = .ok form ↔
      form.toValue.depth ≤ depthLimit) ∧
    (∀ q : Query, Query.ofJson q.toJson = .ok q ↔ q.toValue.depth ≤ depthLimit) ∧
    ∀ (text : String) (form : RuleForm) (rule : Rule), RuleForm.ofJson text = .ok form →
      form.check = .ok rule →
        RuleForm.ofJson rule.form.toJson = .ok rule.form ∧ rule.form.check = .ok rule := by
  refine ⟨fun form => ⟨RuleForm.depth_le_of_ofJson, RuleForm.ofJson_toJson⟩,
    fun q => ⟨Query.depth_le_of_ofJson, Query.ofJson_toJson⟩, ?_⟩
  intro text form rule hread hcheck
  have hdepth : rule.form.toValue.depth ≤ depthLimit :=
    Nat.le_trans (RuleForm.depth_form_le_of_check hcheck) (RuleForm.depth_le_of_ofJson hread)
  exact ⟨RuleForm.ofJson_toJson hdepth, RuleForm.check_form_of_check hcheck⟩

/-- A text in which a group is an array of its parts, and a comparison an object with a part that is
not known and an escaped letter. -/
def looseText : String :=
  "[\"OR\", \"pm.type\", null, [], null,\n [\x7b\"operator\": \"equal\", \"note\": [1.5], " ++
    "\"field\": \"pm.name\", \"values\": [\"caf\\u00e9\"]\x7d, \x7b\x7d]]"

/-- The text of the form of its rule. -/
def strictText : String :=
  "\x7b\"condition\":\"OR\",\"subQueryRules\":[\x7b\"field\":\"pm.name\",\"operator\":\"equal\"," ++
    "\"values\":[\"café\"],\"type\":\"string\"\x7d,\x7b\x7d]\x7d"

/-- The loose text is read and checked, and its rule comes back from the strict one. A query that
says nothing comes back from its JSON. -/
theorem looseText_round_trip :
    (∃ form rule, RuleForm.ofJson looseText = .ok form ∧ form.check = .ok rule ∧
      rule.form.toJson = strictText ∧ RuleForm.ofJson strictText = .ok rule.form ∧
        rule.form.check = .ok rule) ∧
      Query.ofJson (Query.toJson {}) = .ok {} := by
  have hstrict : ((RuleForm.ofJson looseText).toOption.bind fun form => form.check.toOption).map
      (fun rule => rule.form.toJson) = some strictText := by
    decide +kernel
  obtain ⟨-, hquery, hrule⟩ := json_round_trip
  refine ⟨?_, (hquery {}).2 (by decide)⟩
  cases hread : RuleForm.ofJson looseText with
  | error e =>
    rw [hread] at hstrict
    cases hstrict
  | ok form =>
    cases hcheck : form.check with
    | error e =>
      rw [hread] at hstrict
      simp [Except.toOption, hcheck] at hstrict
    | ok rule =>
      have htext : rule.form.toJson = strictText := by
        simpa [hread, hcheck, Except.toOption] using hstrict
      obtain ⟨hagain, hsame⟩ := hrule looseText form rule hread hcheck
      exact ⟨form, rule, rfl, hcheck, htext, htext ▸ hagain, hsame⟩

end PartQuery
