import PartQuery.Field
import PartQuery.Proofs.Traversal

/-!
# Names of fields

A name has one way to begin, one known word behind it and, for an attribute, a point and whatever
the attribute is called (`Field.IsName`). Since no beginning continues another, at most one of them
fits a text, and it does not matter in which order they are tried (`Field.ofNameBy?_perm`). The kind
of an attribute ends with the first point, because no kind has a point in it; what follows the point
is called as it stands. So a text names at most one field, and a field has exactly one name, except
for an attribute that is called nothing, which has none (`Field.ofName?_eq_some_iff`).

The main statement is `names_and_fields_correspond`.
-/

namespace PartQuery

namespace Field

/-! ## What names look like -/

/-- The texts that are names of fields. -/
inductive IsName : String → Prop
  | master {key : String} (h : key ∈ ["number", "name", "type", "creationDate"]) :
      IsName ("pm." ++ key)
  | revision {key : String} (h : key ∈ ["version", "description", "creationDate", "checkoutDate",
      "lifeCycleState", "checkInDate", "modificationDate", "status", "tags", "linkedDocuments"]) :
      IsName ("pr." ++ key)
  | author {key : String} (h : key ∈ ["login", "name", "email", "language"]) :
      IsName ("author." ++ key)
  | dynamic {word kind called : String} (hword : word ∈ ["attr-", "pd-attr-"])
      (hkind : kind ∈
        ["TEXT", "LONG_TEXT", "DATE", "BOOLEAN", "URL", "NUMBER", "LOV", "PART_NUMBER"])
      (hcalled : called ≠ "") : IsName (word ++ kind ++ "." ++ called)

/-- A field that can be named: an attribute must be called something. -/
def IsCalled : Field → Prop
  | .dynamic _ _ called => called ≠ ""
  | _ => True

/-! ## Beginnings of names -/

/-- A text that begins with a word is the word and what follows it. -/
lemma after?_eq_some_iff {word s rest : String} : after? word s = some rest ↔ s = word ++ rest := by
  unfold after?
  rw [← String.toList_inj, String.toList_append]
  constructor
  · intro h
    split at h
    · next hprefix =>
      obtain ⟨tail, htail⟩ := List.isPrefixOf_iff_prefix.1 hprefix
      obtain rfl := Option.some.inj h
      rw [← htail, ← String.length_toList, List.drop_left, String.toList_ofList]
    · cases h
  · intro h
    rw [if_pos (List.isPrefixOf_iff_prefix.2 ⟨rest.toList, h.symm⟩), h, ← String.length_toList,
      List.drop_left, String.ofList_toList]

/-- The ways in which names begin, and how what follows is read, as they are tried. -/
def beginnings : List (String × (String → Option Field)) := [
  ("pm.", fun key => (MasterField.ofKey? key).map .master),
  ("pr.", fun key => (RevisionField.ofKey? key).map .revision),
  ("author.", fun key => (AuthorField.ofKey? key).map .author),
  ("attr-", dynamic? .revision),
  ("pd-attr-", dynamic? .pathData)]

/-- The field with a name, if beginnings are tried in this order: the first one that fits decides.
-/
def ofNameBy? : List (String × (String → Option Field)) → String → Option Field
  | [], _ => none
  | (word, read?) :: rest, s =>
    match after? word s with
    | some key => read? key
    | none => ofNameBy? rest s

/-- This is the order in which names are read. -/
lemma ofName?_eq (s : String) : ofName? s = ofNameBy? beginnings s := by
  unfold ofName? beginnings
  simp only [ofNameBy?, attributePrefix]
  cases after? "pm." s with
  | some key => rfl
  | none =>
  cases after? "pr." s with
  | some key => rfl
  | none =>
  cases after? "author." s with
  | some key => rfl
  | none =>
  cases after? "attr-" s with
  | some key => rfl
  | none => cases after? "pd-attr-" s <;> rfl

/-- Words of which none continues another. -/
def Distinguishes (order : List (String × (String → Option Field))) : Prop :=
  order.Pairwise fun a b => ¬a.1.toList <+: b.1.toList ∧ ¬b.1.toList <+: a.1.toList

/-- No beginning of a name continues another. -/
lemma distinguishes_beginnings : Distinguishes beginnings := by
  unfold Distinguishes beginnings
  simp only [List.pairwise_cons, List.forall_mem_cons, List.not_mem_nil, false_implies,
    implies_true, List.Pairwise.nil, and_true]
  decide

/-- Of words of which none continues another, the one that fits is the one that decides. -/
lemma ofNameBy?_eq_some_iff {order : List (String × (String → Option Field))}
    (h : Distinguishes order) {s : String} {f : Field} :
    ofNameBy? order s = some f ↔ ∃ b ∈ order, ∃ key, s = b.1 ++ key ∧ b.2 key = some f := by
  induction order with
  | nil => simp [ofNameBy?]
  | cons first rest ih =>
    obtain ⟨word, read?⟩ := first
    obtain ⟨hfirst, hrest⟩ := List.pairwise_cons.1 h
    rw [ofNameBy?, List.exists_mem_cons_iff]
    split
    · next key hkey =>
      obtain rfl := after?_eq_some_iff.1 hkey
      constructor
      · intro hread
        exact Or.inl ⟨key, rfl, hread⟩
      · rintro (⟨key', heq, hread⟩ | ⟨b, hb, key', heq, -⟩)
        · have hkey' : key = key' := by simpa using heq
          rwa [hkey']
        · -- Two words that begin the same text would continue each other.
          exfalso
          have hword : word.toList <+: (word ++ key).toList := ⟨key.toList, by simp⟩
          have hother : b.1.toList <+: (word ++ key).toList := ⟨key'.toList, by simp [heq]⟩
          rcases List.prefix_or_prefix_of_prefix hword hother with hle | hle
          · exact (hfirst b hb).1 hle
          · exact (hfirst b hb).2 hle
    · next hnone =>
      rw [ih hrest, or_iff_right]
      rintro ⟨key, heq, -⟩
      rw [after?_eq_some_iff.2 heq] at hnone
      cases hnone

/-- It does not matter in which order the beginnings are tried. -/
lemma ofNameBy?_perm {order : List (String × (String → Option Field))} (h : order.Perm beginnings)
    (s : String) : ofNameBy? order s = ofName? s := by
  have horder : Distinguishes order :=
    distinguishes_beginnings.perm h.symm fun hab => hab.symm
  rw [ofName?_eq]
  ext f
  rw [ofNameBy?_eq_some_iff horder, ofNameBy?_eq_some_iff distinguishes_beginnings]
  simp only [h.mem_iff]

/-! ## What follows the beginning -/

end Field

/-- The field of a part with a key. -/
lemma MasterField.ofKey?_eq_some_iff {key : String} {f : MasterField} :
    ofKey? key = some f ↔ f.key = key := by
  constructor
  · intro h
    simpa using List.find?_some h
  · rintro rfl
    cases f <;> rfl

/-- The field of a revision with a key. -/
lemma RevisionField.ofKey?_eq_some_iff {key : String} {f : RevisionField} :
    ofKey? key = some f ↔ f.key = key := by
  constructor
  · intro h
    simpa using List.find?_some h
  · rintro rfl
    cases f <;> rfl

/-- The field of an account with a key. -/
lemma AuthorField.ofKey?_eq_some_iff {key : String} {f : AuthorField} :
    ofKey? key = some f ↔ f.key = key := by
  constructor
  · intro h
    simpa using List.find?_some h
  · rintro rfl
    cases f <;> rfl

/-- The kind with a name. -/
lemma AttributeKind.ofName?_eq_some_iff {s : String} {kind : AttributeKind} :
    ofName? s = some kind ↔ kind.name = s := by
  constructor
  · intro h
    simpa using List.find?_some h
  · rintro rfl
    exact ofName?_name kind

/-- No kind has a point in its name. -/
lemma AttributeKind.ne_point_of_mem_name {kind : AttributeKind} :
    ∀ c ∈ kind.name.toList, (c != '.') = true := by
  have hall : kind.name.toList.all (· != '.') = true := by
    cases kind <;> decide
  exact List.all_eq_true.1 hall

namespace Field

/-- An attribute is named by its kind, up to the first point, and by what it is called. -/
lemma dynamic?_eq_some_iff {owner : Family} {s : String} {f : Field} :
    dynamic? owner s = some f ↔ ∃ kind called, called ≠ "" ∧ s = kind.name ++ "." ++ called ∧
      f = .dynamic owner kind called := by
  constructor
  · intro h
    have hsplit : s.toList.takeWhile (· != '.') ++ s.toList.dropWhile (· != '.') = s.toList :=
      List.takeWhile_append_dropWhile
    unfold dynamic? at h
    simp only at h
    split at h
    · next point c rest hdrop =>
      obtain ⟨kind, hkind, rfl⟩ := Option.map_eq_some_iff.1 h
      have hpoint : point = '.' := by
        have hhead := List.head?_dropWhile_not (· != '.') s.toList
        simpa [hdrop] using hhead
      have hname : s.toList.takeWhile (· != '.') = kind.name.toList := by
        rw [AttributeKind.ofName?_eq_some_iff.1 hkind, String.toList_ofList]
      refine ⟨kind, _, ?_, ?_, rfl⟩
      · rw [ne_eq, ← String.toList_inj, String.toList_ofList]
        exact nofun
      · rw [← String.toList_inj, ← hsplit, hdrop, hname, hpoint]
        simp
    · cases h
  · rintro ⟨kind, called, hcalled, rfl, rfl⟩
    have htext : (kind.name ++ "." ++ called).toList =
        kind.name.toList ++ '.' :: called.toList := by
      simp
    have htake : (kind.name ++ "." ++ called).toList.takeWhile (· != '.') = kind.name.toList := by
      rw [htext, List.takeWhile_append_of_pos AttributeKind.ne_point_of_mem_name]
      simp
    have hdrop : (kind.name ++ "." ++ called).toList.dropWhile (· != '.') =
        '.' :: called.toList := by
      rw [htext, List.dropWhile_append_of_pos AttributeKind.ne_point_of_mem_name]
      simp
    cases hchars : called.toList with
    | nil => exact absurd (String.toList_inj.1 hchars) hcalled
    | cons c rest =>
      unfold dynamic?
      simp only [htake, hdrop, hchars, String.ofList_toList, AttributeKind.ofName?_name,
        Option.map_some]
      rw [← hchars, String.ofList_toList]

/-! ## Names and fields -/

/-- A text names a field exactly when it is the name of the field, which must be called something.
-/
theorem ofName?_eq_some_iff {s : String} {f : Field} :
    ofName? s = some f ↔ f.IsCalled ∧ f.name = s := by
  rw [ofName?_eq, ofNameBy?_eq_some_iff distinguishes_beginnings]
  simp only [beginnings, List.exists_mem_cons_iff, List.not_mem_nil, false_and, exists_false,
    or_false, Option.map_eq_some_iff, MasterField.ofKey?_eq_some_iff,
    RevisionField.ofKey?_eq_some_iff, AuthorField.ofKey?_eq_some_iff, dynamic?_eq_some_iff]
  constructor
  · rintro (⟨_, rfl, f, rfl, rfl⟩ | ⟨_, rfl, f, rfl, rfl⟩ | ⟨_, rfl, f, rfl, rfl⟩ |
      ⟨_, rfl, kind, called, hcalled, rfl, rfl⟩ | ⟨_, rfl, kind, called, hcalled, rfl, rfl⟩)
    · exact ⟨trivial, rfl⟩
    · exact ⟨trivial, rfl⟩
    · exact ⟨trivial, rfl⟩
    · exact ⟨hcalled, by simp [name, attributePrefix, String.append_assoc]⟩
    · exact ⟨hcalled, by simp [name, attributePrefix, String.append_assoc]⟩
  · rintro ⟨hcalled, rfl⟩
    cases f with
    | master f => exact Or.inl ⟨f.key, rfl, f, rfl, rfl⟩
    | revision f => exact Or.inr (Or.inl ⟨f.key, rfl, f, rfl, rfl⟩)
    | author f => exact Or.inr (Or.inr (Or.inl ⟨f.key, rfl, f, rfl, rfl⟩))
    | dynamic owner kind called =>
      refine Or.inr (Or.inr (Or.inr ?_))
      cases owner with
      | revision =>
        exact Or.inl ⟨kind.name ++ "." ++ called, by simp [name, attributePrefix,
          String.append_assoc], kind, called, hcalled, rfl, rfl⟩
      | pathData =>
        exact Or.inr ⟨kind.name ++ "." ++ called, by simp [name, attributePrefix,
          String.append_assoc], kind, called, hcalled, rfl, rfl⟩

/-- The texts that name fields are those that look like names. -/
lemma exists_ofName?_eq_some_iff {s : String} : (∃ f, ofName? s = some f) ↔ IsName s := by
  simp only [ofName?_eq_some_iff]
  constructor
  · rintro ⟨f, hcalled, rfl⟩
    cases f with
    | master f => exact .master (by cases f <;> decide)
    | revision f => exact .revision (by cases f <;> decide)
    | author f => exact .author (by cases f <;> decide)
    | dynamic owner kind called =>
      exact .dynamic (by cases owner <;> decide) (by cases kind <;> decide) hcalled
  · rintro (hkey | hkey | hkey | ⟨hword, hkind, hcalled⟩)
    · obtain ⟨f, -, rfl⟩ := List.mem_map.1 (show _ ∈ MasterField.all.map MasterField.key from hkey)
      exact ⟨.master f, trivial, rfl⟩
    · obtain ⟨f, -, rfl⟩ :=
        List.mem_map.1 (show _ ∈ RevisionField.all.map RevisionField.key from hkey)
      exact ⟨.revision f, trivial, rfl⟩
    · obtain ⟨f, -, rfl⟩ := List.mem_map.1 (show _ ∈ AuthorField.all.map AuthorField.key from hkey)
      exact ⟨.author f, trivial, rfl⟩
    · obtain ⟨owner, -, rfl⟩ :=
        List.mem_map.1 (show _ ∈ [Family.revision, .pathData].map attributePrefix from hword)
      obtain ⟨kind, -, rfl⟩ :=
        List.mem_map.1 (show _ ∈ AttributeKind.all.map AttributeKind.name from hkind)
      exact ⟨.dynamic owner kind _, hcalled, rfl⟩

/-- A field belongs to path data when its name begins as those of attributes of path data. -/
lemma family_eq_pathData_iff {s : String} {f : Field} (h : ofName? s = some f) :
    f.family = .pathData ↔ "pd-attr-".toList <+: s.toList := by
  obtain ⟨-, rfl⟩ := ofName?_eq_some_iff.1 h
  have hother : ∀ word rest : String, ¬"pd-attr-".toList <+: word.toList →
      ¬word.toList <+: "pd-attr-".toList → ¬"pd-attr-".toList <+: (word ++ rest).toList := by
    intro word rest hword hcontinued hprefix
    rcases List.prefix_or_prefix_of_prefix hprefix ⟨rest.toList, String.toList_append.symm⟩ with
      hle | hle
    · exact hword hle
    · exact hcontinued hle
  cases f with
  | master f => exact iff_of_false nofun (hother "pm." f.key (by decide) (by decide))
  | revision f => exact iff_of_false nofun (hother "pr." f.key (by decide) (by decide))
  | author f => exact iff_of_false nofun (hother "author." f.key (by decide) (by decide))
  | dynamic owner kind called =>
    have hname : (dynamic owner kind called).name =
        attributePrefix owner ++ (kind.name ++ "." ++ called) := by
      simp only [name, String.append_assoc]
    rw [hname]
    cases owner with
    | revision => exact iff_of_false nofun (hother "attr-" _ (by decide) (by decide))
    | pathData => exact iff_of_true rfl ⟨_, String.toList_append.symm⟩

end Field

/-! ## Fields of comparisons -/

namespace Comparison

/-- The field of a comparison is the one that is named. -/
lemma resolve_eq_ok_iff {c : Comparison} {f : Field} :
    c.resolve = .ok f ↔ Field.ofName? c.field = some f := by
  unfold resolve
  cases Field.ofName? c.field <;> simp

/-- If none is named, the comparison is refused as it stands. -/
lemma resolve_eq_error_iff {c : Comparison} {e : QueryError} :
    c.resolve = .error e ↔ Field.ofName? c.field = none ∧ e = c.unresolved := by
  unfold resolve
  cases Field.ofName? c.field <;> simp [eq_comm]

/-- Entities of a family take the fields that are theirs. -/
lemma resolveFor_eq_ok_iff {c : Comparison} {family : Family} {f : Field} :
    c.resolveFor family = .ok f ↔ Field.ofName? c.field = some f ∧ f.family = family := by
  unfold resolveFor
  rw [bind_eq_ok_iff]
  simp only [resolve_eq_ok_iff]
  constructor
  · rintro ⟨found, hfound, h⟩
    split at h
    · next hfamily =>
      obtain rfl := Except.ok.inj h
      exact ⟨hfound, hfamily⟩
    · cases h
  · rintro ⟨hf, hfamily⟩
    exact ⟨f, hf, if_pos hfamily⟩

/-- They refuse any other comparison as it stands. -/
lemma eq_unresolved_of_resolveFor {c : Comparison} {family : Family} {e : QueryError}
    (h : c.resolveFor family = .error e) : e = c.unresolved := by
  unfold resolveFor at h
  cases hfield : c.resolve with
  | error e' =>
    rw [hfield] at h
    obtain rfl := Except.error.inj h
    exact (resolve_eq_error_iff.1 hfield).2
  | ok f =>
    rw [hfield] at h
    simp only [bind, Except.bind] at h
    split at h
    · cases h
    · exact (Except.error.inj h).symm

end Comparison

/-- A text names a field exactly when it looks like a name, and then one field only. Each field that
is called something has exactly one name, and an attribute that is called nothing has none. The
order in which the beginnings of names are tried does not matter. A comparison whose field has a
name is taken by one of the two families, by that of path data exactly when the name begins as the
attributes of path data do; otherwise it is refused with its field, operator and operands as they
were given. -/
theorem names_and_fields_correspond :
    (∀ s, (∃ f, Field.ofName? s = some f) ↔ Field.IsName s) ∧
    (∀ s t f, Field.ofName? s = some f → Field.ofName? t = some f → s = t) ∧
    (∀ f : Field, (∃ s, Field.ofName? s = some f) ↔
      ∀ owner kind called, f = .dynamic owner kind called → called ≠ "") ∧
    (∀ order : List (String × (String → Option Field)), order.Perm Field.beginnings →
      ∀ s, Field.ofNameBy? order s = Field.ofName? s) ∧
    ∀ c : Comparison,
      (∀ f, c.resolve = .ok f ↔ Field.ofName? c.field = some f) ∧
      (∀ f, c.resolve = .ok f → ∃! family, c.resolveFor family = .ok f) ∧
      (∀ f, c.resolve = .ok f →
        (c.resolveFor .pathData = .ok f ↔ "pd-attr-".toList <+: c.field.toList)) ∧
      (∀ e, c.resolve = .error e ↔ Field.ofName? c.field = none ∧
        e = .unresolvedField c.field c.operator.name c.values) ∧
      ∀ family e, c.resolveFor family = .error e ↔
        (¬∃ f, Field.ofName? c.field = some f ∧ f.family = family) ∧
        e = .unresolvedField c.field c.operator.name c.values := by
  refine ⟨fun s => Field.exists_ofName?_eq_some_iff, ?_, ?_, ?_, ?_⟩
  · intro s t f hs ht
    obtain ⟨-, rfl⟩ := Field.ofName?_eq_some_iff.1 hs
    exact (Field.ofName?_eq_some_iff.1 ht).2
  · intro f
    simp only [Field.ofName?_eq_some_iff, exists_and_left, exists_eq', and_true]
    cases f <;> simp [Field.IsCalled]
  · intro order horder s
    exact Field.ofNameBy?_perm horder s
  · intro c
    refine ⟨fun f => Comparison.resolve_eq_ok_iff, ?_, ?_, fun e => Comparison.resolve_eq_error_iff,
      ?_⟩
    · intro f hf
      simp only [Comparison.resolveFor_eq_ok_iff, Comparison.resolve_eq_ok_iff.1 hf, true_and]
      exact ⟨f.family, rfl, fun family hfamily => hfamily.symm⟩
    · intro f hf
      have hname := Comparison.resolve_eq_ok_iff.1 hf
      rw [Comparison.resolveFor_eq_ok_iff, ← Field.family_eq_pathData_iff hname]
      exact and_iff_right hname
    · intro family e
      simp only [← Comparison.resolveFor_eq_ok_iff]
      constructor
      · intro herror
        refine ⟨?_, Comparison.eq_unresolved_of_resolveFor herror⟩
        rintro ⟨f, hf⟩
        cases hf.symm.trans herror
      · rintro ⟨hnone, rfl⟩
        cases hresolve : c.resolveFor family with
        | ok f => exact absurd ⟨f, hresolve⟩ hnone
        | error e => rw [Comparison.eq_unresolved_of_resolveFor hresolve]; rfl

/-- An attribute of path data that is called `.a.TEXT`. The first point ends its kind, only path
data take it, and trying the beginnings backwards finds the same field. -/
theorem dottedName_resolves :
    Field.ofNameBy? Field.beginnings.reverse "pd-attr-LONG_TEXT..a.TEXT" =
      some (.dynamic .pathData .longText ".a.TEXT") ∧
    (∀ s, Field.ofName? s = some (.dynamic .pathData .longText ".a.TEXT") →
      s = "pd-attr-LONG_TEXT..a.TEXT") ∧
    (∃! family, Comparison.resolveFor family
        ⟨"pd-attr-LONG_TEXT..a.TEXT", .equal, ["x"], .string⟩ =
      .ok (.dynamic .pathData .longText ".a.TEXT")) ∧
    Comparison.resolveFor .revision ⟨"pd-attr-LONG_TEXT..a.TEXT", .equal, ["x"], .string⟩ =
      .error (.unresolvedField "pd-attr-LONG_TEXT..a.TEXT" "equal" ["x"]) := by
  obtain ⟨-, hunique, -, horder, hcomparison⟩ := names_and_fields_correspond
  have hname : Field.ofName? "pd-attr-LONG_TEXT..a.TEXT" =
      some (.dynamic .pathData .longText ".a.TEXT") := by
    decide +kernel
  obtain ⟨hresolve, hfamily, -, -, herror⟩ :=
    hcomparison ⟨"pd-attr-LONG_TEXT..a.TEXT", .equal, ["x"], .string⟩
  refine ⟨(horder _ (List.reverse_perm _) _).trans hname, fun s hs => hunique _ _ _ hs hname,
    hfamily _ ((hresolve _).2 hname), (herror _ _).2 ⟨?_, rfl⟩⟩
  rintro ⟨f, hf, hrevision⟩
  obtain rfl := Option.some.inj (hname.symm.trans hf)
  cases hrevision

end PartQuery
