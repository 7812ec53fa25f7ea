import PartQuery.Config
import PartQuery.Proofs.Calendar.Timestamps
import PartQuery.Proofs.Json.Records

/-!
# Loaded configurations

A configuration that is loaded names a table for every entity: the one that its text names last, or
else the one of the default configuration, or else the name of the entity in lower case. How much of
a mapping the text has, and whether it is an object or an array, makes no difference
(`get?_tables_of_ofJson`).

It is loaded again from its own JSON as the same configuration, in whatever order the tables are
written. For this, four things are known of whatever is loaded: the offset is of whole minutes, the
threshold has 64 bits, no entity is named twice, and the standard ones are all named
(`Config.Loaded`).

The main statement is `loaded_configurations_are_stable`.
-/

namespace PartQuery

open Json (Reader Slot Value Outline depthLimit outlineParts outlineOf)

/-! ## Tables of entities -/

namespace TableMap

variable {tables : TableMap} {entity table : String}

/-- The entities that have a table. -/
def entities (tables : TableMap) : List String :=
  tables.map (·.1)

/-- An entity has a table exactly when it is one of them. -/
lemma any_eq_true_iff : tables.any (·.1 == entity) = true ↔ entity ∈ tables.entities := by
  simp [entities]

/-- The first entry counts. -/
lemma get?_cons (entry : String × String) (rest : TableMap) (e : String) :
    get? (entry :: rest) e = if entry.1 = e then some entry.2 else get? rest e := by
  by_cases h : entry.1 = e
  · rw [get?, List.find?_cons_of_pos (by simpa using h), if_pos h, Option.map_some]
  · rw [get?, List.find?_cons_of_neg (by simpa using h), if_neg h, get?]

/-- Entries in front count first. -/
lemma get?_append (front back : TableMap) (e : String) :
    get? (front ++ back) e = (get? front e).or (get? back e) := by
  rw [get?, List.find?_append, Option.map_or]
  rfl

/-- An entity without an entry has no table. -/
lemma get?_eq_none_iff : tables.get? entity = none ↔ entity ∉ tables.entities := by
  induction tables with
  | nil => simp [get?, entities]
  | cons entry rest ih =>
    rw [get?_cons, entities, List.map_cons, List.mem_cons, not_or, ← entities, ← ih]
    by_cases h : entry.1 = entity
    · simp [h]
    · simp [h, Ne.symm h]

/-- Where no entity is named twice, its entry is its table. -/
lemma get?_eq_some_iff (hdistinct : tables.entities.Nodup) :
    tables.get? entity = some table ↔ (entity, table) ∈ tables := by
  induction tables with
  | nil => simp [get?]
  | cons entry rest ih =>
    obtain ⟨name, named⟩ := entry
    obtain ⟨hnew, hrest⟩ := List.nodup_cons.1 hdistinct
    rw [get?_cons, List.mem_cons, Prod.mk.injEq]
    by_cases h : name = entity
    · subst h
      have habsent : (name, table) ∉ rest := fun hmem => hnew (List.mem_map.2 ⟨_, hmem, rfl⟩)
      simp [habsent, eq_comm]
    · simp [h, Ne.symm h, ih hrest]

/-- A new name in place of an old one is found where the old one was. -/
lemma get?_replace (e : String) :
    get? (tables.map fun entry => if entry.1 == entity then (entity, table) else entry) e =
      if entity = e then (tables.get? e).map fun _ => table else tables.get? e := by
  induction tables with
  | nil => simp [get?]
  | cons entry rest ih =>
    rw [List.map_cons, get?_cons, get?_cons, ih]
    by_cases hentry : entry.1 = entity
    · by_cases he : entity = e <;> simp [hentry, he]
    · by_cases he : entity = e
      · subst he
        simp [hentry]
      · simp [hentry, he]

/-- An entity that is named has the new table, and the others keep theirs. -/
lemma get?_put (e : String) :
    (tables.put entity table).get? e = if entity = e then some table else tables.get? e := by
  unfold put
  split
  · next hany =>
    rw [get?_replace]
    split
    · next he =>
      subst he
      rw [any_eq_true_iff, ← not_not (a := entity ∈ _), ← get?_eq_none_iff] at hany
      obtain ⟨old, hold⟩ := Option.ne_none_iff_exists'.1 hany
      rw [hold, Option.map_some]
    · rfl
  · next hany =>
    rw [any_eq_true_iff] at hany
    rw [get?_append, get?_cons]
    by_cases he : entity = e
    · subst he
      rw [get?_eq_none_iff.2 hany, if_pos rfl, if_pos rfl, Option.none_or]
    · rw [if_neg he, if_neg he]
      exact Option.or_none

/-- An entity without a table gets one, and all others keep theirs. -/
lemma get?_complete (e : String) :
    (tables.complete entity table).get? e =
      (tables.get? e).or (if entity = e then some table else none) := by
  unfold complete
  split
  · next hany =>
    rw [any_eq_true_iff, ← not_not (a := entity ∈ _), ← get?_eq_none_iff] at hany
    obtain ⟨old, hold⟩ := Option.ne_none_iff_exists'.1 hany
    by_cases he : entity = e
    · subst he
      rw [hold, Option.some_or]
    · rw [if_neg he, Option.or_none]
  · rw [get?_append, get?_cons]
    rfl

/-- Pairs are stored one after the other. -/
lemma ofPairs_eq (pairs : List (String × String)) :
    ofPairs pairs = pairs.foldl (fun tables pair => put tables pair.1 pair.2) [] := rfl

/-- Of pairs that name tables, the last one of an entity counts. -/
lemma get?_ofPairs (pairs : List (String × String)) (e : String) :
    (ofPairs pairs).get? e = get? pairs.reverse e := by
  have hfold : ∀ start : TableMap,
      (pairs.foldl (fun tables pair => put tables pair.1 pair.2) start).get? e =
        (get? pairs.reverse e).or (start.get? e) := by
    induction pairs with
    | nil => exact fun start => rfl
    | cons pair rest ih =>
      intro start
      rw [List.foldl_cons, ih, get?_put, List.reverse_cons, get?_append, Option.or_assoc, get?_cons]
      by_cases he : pair.1 = e <;> simp [he, get?]
  rw [ofPairs_eq, hfold]
  exact Option.or_none

/-- The tables with those of another map for the entities that have none. -/
def completeAll (tables others : TableMap) : TableMap :=
  others.foldl (fun tables other => tables.complete other.1 other.2) tables

/-- Completing with the tables of another map fills the gaps from it. -/
lemma get?_completeAll (others : TableMap) (e : String) :
    (tables.completeAll others).get? e = (tables.get? e).or (others.get? e) := by
  unfold completeAll
  induction others generalizing tables with
  | nil => exact Option.or_none.symm
  | cons other rest ih =>
    rw [List.foldl_cons, ih, get?_complete, Option.or_assoc, get?_cons]
    by_cases he : other.1 = e <;> simp [he]

/-- Naming an entity adds it, if it is new. -/
lemma entities_put : (tables.put entity table).entities =
    if entity ∈ tables.entities then tables.entities else tables.entities ++ [entity] := by
  unfold put
  simp only [any_eq_true_iff]
  split
  · rw [entities, List.map_map]
    refine List.map_congr_left fun entry _ => ?_
    by_cases h : entry.1 = entity <;> simp [h]
  · rw [entities, List.map_append]
    rfl

/-- So does completing it. -/
lemma entities_complete : (tables.complete entity table).entities =
    if entity ∈ tables.entities then tables.entities else tables.entities ++ [entity] := by
  unfold complete
  simp only [any_eq_true_iff]
  split
  · rfl
  · rw [entities, List.map_append]
    rfl

/-- A list to which something is added where it is new has nothing twice. -/
lemma nodup_add {names : List String} (h : names.Nodup) (name : String) :
    (if name ∈ names then names else names ++ [name]).Nodup := by
  split
  · exact h
  · next hnew =>
    rw [List.nodup_append]
    refine ⟨h, List.pairwise_singleton _ name, ?_⟩
    rintro a ha _ hname rfl
    exact hnew (List.mem_singleton.1 hname ▸ ha)

/-- Pairs name no entity twice. -/
lemma nodup_entities_ofPairs (pairs : List (String × String)) : (ofPairs pairs).entities.Nodup := by
  have hfold : ∀ start : TableMap, start.entities.Nodup →
      (pairs.foldl (fun tables pair => put tables pair.1 pair.2) start).entities.Nodup := by
    induction pairs with
    | nil => exact fun start h => h
    | cons pair rest ih =>
      intro start h
      refine ih _ ?_
      rw [entities_put]
      exact nodup_add h pair.1
  exact hfold [] .nil

/-- Completing names no entity twice, and it names those of the other map. -/
lemma entities_completeAll {tables : TableMap} (h : tables.entities.Nodup) (others : TableMap) :
    (tables.completeAll others).entities.Nodup ∧
      ∀ e, e ∈ tables.entities ∨ e ∈ others.entities →
        e ∈ (tables.completeAll others).entities := by
  unfold completeAll
  induction others generalizing tables with
  | nil => exact ⟨h, fun e he => he.resolve_right List.not_mem_nil⟩
  | cons other rest ih =>
    have hnext : (tables.complete other.1 other.2).entities.Nodup := by
      rw [entities_complete]
      exact nodup_add h other.1
    obtain ⟨hnodup, hmem⟩ := ih hnext
    refine ⟨hnodup, fun e he => hmem e ?_⟩
    rw [entities_complete]
    rcases he with he | he
    · left
      split
      · exact he
      · exact List.mem_append_left _ he
    · rw [entities, List.map_cons, List.mem_cons] at he
      rcases he with rfl | he
      · left
        split
        · next hold => exact hold
        · exact List.mem_append_right _ (List.mem_singleton.2 rfl)
      · exact Or.inr he

/-- Pairs that name no entity twice stay as they are. -/
lemma ofPairs_eq_self (h : tables.entities.Nodup) : ofPairs tables = tables := by
  have hfold : ∀ start : TableMap, (start ++ tables).entities.Nodup →
      tables.foldl (fun tables pair => put tables pair.1 pair.2) start =
        start ++ tables := by
    induction tables with
    | nil => exact fun start _ => (List.append_nil start).symm
    | cons entry rest ih =>
      obtain ⟨entity, table⟩ := entry
      intro start hnodup
      have hnew : entity ∉ start.entities := by
        rw [entities, List.map_append, List.nodup_append] at hnodup
        exact fun hmem => hnodup.2.2 _ hmem _ List.mem_cons_self rfl
      have hput : start.put entity table = start ++ [(entity, table)] := by
        rw [put, if_neg (by rwa [any_eq_true_iff])]
      have hrest : rest.foldl (fun tables pair => put tables pair.1 pair.2)
          (start ++ [(entity, table)]) = start ++ [(entity, table)] ++ rest :=
        ih h.of_cons _ (by rwa [List.append_assoc])
      rw [List.foldl_cons]
      exact (congrArg (rest.foldl _) hput).trans (hrest.trans (List.append_assoc ..))
  exact hfold [] h

/-- A map that names the entities of another is complete already. -/
lemma completeAll_eq_self {others : TableMap} (h : ∀ e ∈ others.entities, e ∈ tables.entities) :
    tables.completeAll others = tables := by
  unfold completeAll
  induction others with
  | nil => rfl
  | cons other rest ih =>
    rw [entities, List.map_cons, List.forall_mem_cons] at h
    have hsame : tables.complete other.1 other.2 = tables := by
      rw [complete, if_pos (any_eq_true_iff.2 h.1)]
    rw [List.foldl_cons]
    exact (congrArg (rest.foldl _) hsame).trans (ih h.2)

/-- The order of the entries makes no difference where no entity is named twice. -/
lemma get?_eq_of_perm {others : TableMap} (hperm : others.Perm tables)
    (h : tables.entities.Nodup) (e : String) : others.get? e = tables.get? e := by
  have hothers : others.entities.Nodup := (hperm.map Prod.fst).nodup_iff.2 h
  ext table
  rw [get?_eq_some_iff hothers, get?_eq_some_iff h, hperm.mem_iff]

end TableMap

/-! ## Offsets -/

namespace Calendar

/-- An offset that a configuration may name is of whole minutes. -/
lemma dvd_of_readOffset? {text : String} {offset : Offset} (h : readOffset? text = some offset) :
    60 ∣ offset.seconds := by
  obtain ⟨⟨_, rest⟩, hscan, rfl⟩ := Option.map_eq_some_iff.1 h
  cases htext : text.toList with
  | nil =>
    rw [htext] at hscan
    cases hscan
  | cons sign tail =>
    rw [htext] at hscan
    obtain ⟨factor, hsign⟩ := exists_offsetSign hscan
    rw [scanOffset?_cons hsign] at hscan
    simp only [Option.bind_eq_some_iff, Option.some.injEq, Prod.mk.injEq, Prod.exists,
      ofSeconds?_eq_some_iff] at hscan
    obtain ⟨hours, _, -, _, -, minutes, _, -, _, hseconds, rfl, -⟩ := hscan
    rw [hseconds]
    exact Dvd.dvd.mul_left (by omega) factor

/-- A colon in front of a padded number is skipped, and nothing else. -/
lemma scanLooseSeparator_padded {n : Nat} (hn : n < 100) :
    scanLooseSeparator (':' :: padded 2 n) = some (padded 2 n) := by
  obtain ⟨c, digits, hpadded, hc⟩ := exists_padded_eq_cons 2 Nat.two_pos hn
  have hcolon : c ≠ ':' := by
    rintro rfl
    exact absurd hc (by decide)
  rw [hpadded, scanLooseSeparator, List.dropWhile_cons_of_pos rfl, List.dropWhile_cons_of_neg]
  simp [hcolon, isBlank_of_isDigit hc]

/-- An offset of whole minutes is read as it is written. -/
lemma readOffset?_writeOffset {offset : Offset} (h : 60 ∣ offset.seconds) :
    readOffset? (writeOffset offset) = some offset := by
  obtain ⟨hwest, heast⟩ := offset.bounded
  have hsize : offset.seconds.natAbs % 60 = 0 := by omega
  have hhours : offset.seconds.natAbs / 3600 < tenPow 2 := by
    change _ < 100
    omega
  have hminutes : offset.seconds.natAbs / 60 % 60 ≤ 59 := by omega
  obtain ⟨sign, factor, hsign, hchar, hseconds⟩ : ∃ sign factor, OffsetSign sign factor ∧
      (if offset.seconds < 0 then '-' else '+') = sign ∧
      offset.seconds = factor * offset.seconds.natAbs := by
    by_cases hneg : offset.seconds < 0
    · exact ⟨_, _, .hyphen, if_pos hneg, by omega⟩
    · exact ⟨_, _, .plus, if_neg hneg, by omega⟩
  have htext : (writeOffset offset).toList = sign :: (padded 2 (offset.seconds.natAbs / 3600) ++
      ':' :: padded 2 (offset.seconds.natAbs / 60 % 60)) := by
    simp only [writeOffset, hsize, hchar, if_true, List.append_nil, String.toList_ofList]
  have hscan : scanMinutes? (padded 2 (offset.seconds.natAbs / 60 % 60)) =
      some (offset.seconds.natAbs / 60 % 60, []) :=
    scanMinutes?_eq_some_iff.2 ⟨hminutes, (List.append_nil _).symm⟩
  have hoffset : Offset.ofSeconds? (factor * (3600 * (offset.seconds.natAbs / 3600) +
      60 * (offset.seconds.natAbs / 60 % 60) : Nat)) = some offset := by
    rw [ofSeconds?_eq_some_iff, hseconds]
    congr 2
    omega
  rw [readOffset?, htext, scanOffset?_cons hsign, scanPadded?_padded 2 Nat.two_pos hhours,
    Option.bind_some, scanLooseSeparator_padded (by omega), Option.bind_some, hscan,
    Option.bind_some, hoffset]
  rfl

end Calendar

/-! ## What a text names -/

namespace Json

/-- A natural number that is read has no more than the bits that it may have. -/
lemma lt_of_natural {bits n : Nat} {o : Outline} (h : Reader.natural bits o = .ok n) :
    n < twoPow bits := by
  obtain ⟨k, hk, ⟨rfl⟩⟩ := bind_eq_ok_iff.1 h
  have hpos := twoPow_pos bits
  cases o with
  | number found =>
    obtain ⟨number, -, hk⟩ := bind_eq_ok_iff.1 hk
    cases number with
    | whole k' =>
      simp only at hk
      split at hk
      · cases hk
        omega
      · cases hk
    | real x => cases hk
  | _ => cases hk

/-- A natural number that has no more bits is read. -/
lemma natural_outline {bits n : Nat} (h : n < twoPow bits) (level : Nat) :
    Reader.natural bits ((Value.natural n).outline level) = .ok n := by
  have hbound : (0 : Int) ≤ n ∧ (n : Int) ≤ (twoPow bits - 1 : Nat) := by omega
  rw [Value.outline, Reader.natural, Reader.whole]
  simp only [readPart, bind, Except.bind, if_pos hbound]
  rfl

end Json

/-- The texts in an object with their keys, in order. -/
def textMembers : Outline → List (String × String)
  | .object _ members _ => members.filterMap fun
    | (.ok key, .text (.ok s)) => some (key, s)
    | _ => none
  | _ => []

/-- A text that is read stands there. -/
lemma eq_text_of_read {o : Outline} {s : String} (h : Reader.text o = .ok s) :
    o = .text (.ok s) := by
  cases o with
  | text found =>
    cases found with
    | ok found => rw [Except.ok.inj h]
    | error flaw => cases h
  | _ => cases h

/-- Members that are read as texts are texts under the keys. -/
lemma eq_of_members {members : List (Except Json.Flaw String × Outline)}
    {pairs : List (String × String)} (h : Reader.members .text members = .ok pairs) :
    members = pairs.map fun pair => (.ok pair.1, .text (.ok pair.2)) := by
  induction members generalizing pairs with
  | nil =>
    cases h
    rfl
  | cons m rest ih =>
    obtain ⟨key, o⟩ := m
    rw [Reader.members] at h
    obtain ⟨name, hkey, h⟩ := bind_eq_ok_iff.1 h
    obtain ⟨s, htext, h⟩ := bind_eq_ok_iff.1 h
    obtain ⟨others, hothers, ⟨rfl⟩⟩ := bind_eq_ok_iff.1 h
    have hname : key = .ok name := by
      cases key with
      | ok key => rw [Except.ok.inj hkey]
      | error flaw => cases hkey
    rw [List.map_cons, ← ih hothers, hname, eq_text_of_read htext]

/-- Texts under keys are read as such. -/
lemma members_map (pairs : List (String × String)) :
    Reader.members .text (pairs.map fun pair => (.ok pair.1, .text (.ok pair.2))) = .ok pairs := by
  induction pairs with
  | nil => rfl
  | cons pair rest ih =>
    rw [List.map_cons, Reader.members, ih]
    rfl

/-- A mapping to texts that is read has these members. -/
lemma textMembers_of_mapping {o : Outline} {pairs : List (String × String)}
    (h : Reader.mapping .text o = .ok pairs) : textMembers o = pairs := by
  cases o with
  | object level members ending =>
    obtain ⟨-, -, h⟩ := bind_eq_ok_iff.1 h
    obtain ⟨pairs, hmembers, h⟩ := bind_eq_ok_iff.1 h
    obtain ⟨-, -, ⟨rfl⟩⟩ := bind_eq_ok_iff.1 h
    rw [textMembers, eq_of_members hmembers, List.filterMap_map]
    exact List.filterMap_some
  | _ => cases h

namespace Config

/-- The table that the text of a configuration names for an entity: the last one in its mapping,
which is a member of its object or the second element of its array. -/
def namedTable? (text entity : String) : Option String :=
  ((outlineOf text).part? "tableMapping" 1).bind fun mapping =>
    TableMap.get? (textMembers mapping).reverse entity

/-! ## Invariants -/

/-- What is known of a configuration whose parts were read. -/
structure WasRead (c : Config) : Prop where
  /-- The offset is of whole minutes. -/
  minutes : 60 ∣ c.timezone.seconds
  threshold : c.listThreshold < twoPow 64
  /-- No entity is named twice. -/
  distinct : c.tables.entities.Nodup

/-- What is known of a configuration that is loaded. -/
structure Loaded (c : Config) : Prop extends c.WasRead where
  standard : ∀ e ∈ TableMap.standard.entities, e ∈ c.tables.entities

/-- A configuration is complete with the standard tables. -/
lemma complete_eq (c : Config) :
    c.complete = { c with tables := c.tables.completeAll .standard } := rfl

/-- The parts of a configuration with what is written for them. -/
def given (c : Config) : List (Slot Config × Option Value) := [
  (.of "timezone" .defaulted (.meaning Calendar.readOffset?) fun t c => { c with timezone := t },
    some (.text (Calendar.writeOffset c.timezone))),
  (.of "tableMapping" .defaulted (.mapping .text) fun pairs c =>
      { c with tables := TableMap.ofPairs pairs },
    some (.object (c.tables.map fun (entity, table) => (entity, .text table)))),
  (.of "maxOrConditionsForIn" .defaulted (.natural 64) fun n c => { c with listThreshold := n },
    some (.natural c.listThreshold))]

/-- A configuration is written part by part. -/
lemma toValue_eq_ofParts (c : Config) : c.toValue = .ofParts c.given := rfl

/-- What is written for a configuration is held in full. -/
lemma held_toValue {c : Config} (h : c.listThreshold < twoPow 64) : c.toValue.Held := by
  rw [toValue_eq_ofParts]
  refine Value.held_ofParts ?_
  have htables : (Value.object (c.tables.map fun (entity, table) => (entity, .text table))).Held :=
    .object (List.forall_mem_map.2 fun entry _ => .text entry.2)
  simp [given, htables, Value.Held.text, Value.Held.natural h]

/-- Tables are read as they are written. -/
lemma mapping_tables (tables : TableMap) :
    Reader.mapping .text ((Value.object
      (tables.map fun (entity, table) => (entity, .text table))).outline 1) = .ok tables := by
  have hmembers : Value.memberOutlines 2 (tables.map fun (entity, table) => (entity, .text table)) =
      tables.map fun pair => (.ok pair.1, .text (.ok pair.2)) := by
    rw [Value.memberOutlines_eq_map, List.map_map]
    rfl
  rw [Value.outline, Reader.mapping, hmembers, members_map]
  rfl

/-- A configuration that is loaded is read from its own JSON. -/
lemma ofJson_toJson {c : Config} (h : c.Loaded) : ofJson c.toJson = .ok c := by
  have hoffset : Reader.meaning Calendar.readOffset?
      ((Value.text (Calendar.writeOffset c.timezone)).outline 1) = .ok c.timezone := by
    have htext : Reader.text ((Value.text (Calendar.writeOffset c.timezone)).outline 1) =
        .ok (Calendar.writeOffset c.timezone) := rfl
    simp only [Reader.meaning, htext, bind, Except.bind, Calendar.readOffset?_writeOffset h.minutes]
  have hthreshold : Reader.natural 64 ((Value.natural c.listThreshold).outline 1) =
      .ok c.listThreshold := by
    exact Json.natural_outline h.threshold 1
  have hnodup : (c.given.map (·.1.name)).Nodup := by
    simp [given, Slot.of]
  have hpresent : ∀ g ∈ c.given, g.1.presence = .required → g.2.isSome = true := by
    simp [given]
  have hrecord : Reader.record {} (c.given.map (·.1)) ((Value.ofParts c.given).outline 0) =
      Reader.readGiven {} (outlineParts 1 c.given) :=
    Reader.record_ofParts (by decide) {} hnodup hpresent
  have hread : Reader.readGiven {} (outlineParts 1 c.given) = .ok c := by
    simp only [given, outlineParts, List.map_cons, List.map_nil, Option.map_some]
    rw [Reader.readGiven_some hoffset, Reader.readGiven_some (mapping_tables c.tables),
      Reader.readGiven_some hthreshold, TableMap.ofPairs_eq_self h.distinct]
    rfl
  have hdocument : Json.readDocument read c.toJson = .ok c := by
    rw [toJson, Json.readDocument_render _ (held_toValue h.threshold), toValue_eq_ofParts]
    exact hrecord.trans hread
  have hcomplete : c.complete = c := by
    rw [complete_eq, TableMap.completeAll_eq_self h.standard]
  rw [ofJson, hdocument]
  exact congrArg Except.ok hcomplete

/-! ## Loading -/

/-- An offset that is read is of whole minutes. -/
lemma minutes_of_read {o : Outline} {offset : Offset}
    (h : Reader.meaning Calendar.readOffset? o = .ok offset) : 60 ∣ offset.seconds := by
  obtain ⟨text, -, h⟩ := bind_eq_ok_iff.1 h
  split at h
  · next found hfound =>
    obtain rfl := Except.ok.inj h
    exact Calendar.dvd_of_readOffset? hfound
  · cases h

/-- So it is of the configuration in which nothing is given. -/
lemma wasRead_start : ({} : Config).WasRead where
  minutes := ⟨0, rfl⟩
  threshold := by
    change 5 < twoPow 64
    norm_num [twoPow]
  distinct := by decide

/-- It is known of every configuration that is read. -/
lemma wasRead_of_read {o : Outline} {c : Config} (h : read o = .ok c) : c.WasRead := by
  refine Reader.record_preserves_of_inside (Q := fun _ => True) (fun _ _ => trivial) ?_
    wasRead_start h
  simp only [List.forall_mem_cons]
  refine ⟨?_, ?_, ?_, by simp⟩
  · intro o c c' _ hread hc
    obtain ⟨offset, hoffset, rfl⟩ := Slot.of_read_eq_ok_iff.1 hread
    exact ⟨minutes_of_read hoffset, hc.threshold, hc.distinct⟩
  · intro o c c' _ hread hc
    obtain ⟨pairs, -, rfl⟩ := Slot.of_read_eq_ok_iff.1 hread
    exact ⟨hc.minutes, hc.threshold, TableMap.nodup_entities_ofPairs pairs⟩
  · intro o c c' _ hread hc
    obtain ⟨n, hn, rfl⟩ := Slot.of_read_eq_ok_iff.1 hread
    exact ⟨hc.minutes, Json.lt_of_natural hn, hc.distinct⟩

/-- Completing what was read keeps what is known of it and leaves no standard entity without a
table. -/
lemma WasRead.loaded_complete {c : Config} (h : c.WasRead) : c.complete.Loaded := by
  obtain ⟨hnodup, hmem⟩ := TableMap.entities_completeAll h.distinct TableMap.standard
  rw [complete_eq]
  constructor
  · constructor
    · exact h.minutes
    · exact h.threshold
    · dsimp only
      exact hnodup
  · dsimp only
    exact fun e he => hmem e (Or.inr he)

/-- What a JSON text gives was read and then completed. -/
lemma loaded_of_ofJson {text : String} {c : Config} (h : ofJson text = .ok c) : c.Loaded := by
  obtain ⟨c, hread, h⟩ := bind_eq_ok_iff.1 h
  rw [← Except.ok.inj h]
  exact (wasRead_of_read (Json.reader_outlineOf hread)).loaded_complete

/-- The tables that are read are those of the mapping, or the standard ones if there is none. -/
lemma tables_of_read {o : Outline} {c : Config} (h : read o = .ok c) :
    c.tables = ((o.part? "tableMapping" 1).map fun mapping =>
      TableMap.ofPairs (textMembers mapping)).getD TableMap.standard := by
  have hmapping : ∀ (o : Outline) (c c' : Config),
      (Slot.of "tableMapping" .defaulted (.mapping .text) fun pairs (c : Config) =>
        { c with tables := TableMap.ofPairs pairs }).read o c = .ok c' →
      c'.tables = TableMap.ofPairs (textMembers o) := by
    intro o c c' hread
    obtain ⟨pairs, hpairs, rfl⟩ := Slot.of_read_eq_ok_iff.1 hread
    rw [textMembers_of_mapping hpairs]
  have hothers : ∀ other ∈ [Slot.of "timezone" .defaulted (.meaning Calendar.readOffset?)
        fun t (c : Config) => { c with timezone := t }] ++
      [Slot.of "maxOrConditionsForIn" .defaulted (.natural 64)
        fun n (c : Config) => { c with listThreshold := n }],
      ∀ (o : Outline) (c c' : Config), other.read o c = .ok c' → c'.tables = c.tables := by
    intro other hother o c c' hread
    rcases List.mem_cons.1 hother with rfl | hother
    · obtain ⟨offset, -, rfl⟩ := Slot.of_read_eq_ok_iff.1 hread
      rfl
    · obtain rfl := List.mem_singleton.1 hother
      obtain ⟨n, -, rfl⟩ := Slot.of_read_eq_ok_iff.1 hread
      rfl
  exact Reader.get_record hmapping hothers (by simp [Slot.of]) h

/-- The tables of a loaded configuration are those that its text names, and the standard ones
beside. -/
lemma get?_tables_of_ofJson {text : String} {c : Config} (h : ofJson text = .ok c)
    (entity : String) :
    c.tables.get? entity = (namedTable? text entity).or (TableMap.standard.get? entity) := by
  obtain ⟨c, hread, h⟩ := bind_eq_ok_iff.1 h
  have htables := tables_of_read (Json.reader_outlineOf hread)
  rw [← Except.ok.inj h, complete_eq, TableMap.get?_completeAll, htables, namedTable?]
  cases (outlineOf text).part? "tableMapping" 1 with
  | none => exact Option.or_self
  | some mapping => rw [Option.map_some, Option.getD_some, TableMap.get?_ofPairs, Option.bind_some]

/-- The tables of a configuration that was loaded may stand in any order. -/
lemma Loaded.reorder {c : Config} (h : c.Loaded) {tables : TableMap}
    (hperm : tables.Perm c.tables) : Loaded { c with tables := tables } where
  minutes := h.minutes
  threshold := h.threshold
  distinct := (hperm.map Prod.fst).nodup_iff.2 h.distinct
  standard := fun e he => (hperm.map Prod.fst).mem_iff.2 (h.standard e he)

/-- What a file holds is read as JSON. -/
lemma ofFile_text_eq_ok_iff {path content : String} {c : Config} :
    ofFile path (.text content) = .ok c ↔ ofJson content = .ok c := by
  rw [ofFile]
  cases ofJson content <;> simp

end Config

/-! ## Main statement -/

/-- A configuration that is loaded from a file names for every entity the table that the mapping in
the file names last; for an entity that it does not name, the table of the default configuration,
and for one that is not named there either, the entity in lower case.

The configuration is loaded again from its own JSON. Its tables may be written in any order: the
configuration that is loaded is the same up to that order, and names the same tables. -/
theorem loaded_configurations_are_stable {path content : String} {c : Config}
    (h : Config.ofFile path (.text content) = .ok c) :
    (∀ entity, c.table entity = ((Config.namedTable? content entity).or
      (TableMap.standard.get? entity)).getD (Text.lower entity)) ∧
    (∀ path', Config.ofFile path' (.text c.toJson) = .ok c) ∧
    ∀ tables : TableMap, tables.Perm c.tables →
      (∀ path', Config.ofFile path' (.text (Config.toJson { c with tables := tables })) =
        .ok { c with tables := tables }) ∧
      ∀ entity, ({ c with tables := tables } : Config).table entity = c.table entity := by
  have hread := Config.ofFile_text_eq_ok_iff.1 h
  have hloaded := Config.loaded_of_ofJson hread
  refine ⟨?_, ?_, ?_⟩
  · intro entity
    rw [Config.table, Config.get?_tables_of_ofJson hread]
  · intro path'
    exact Config.ofFile_text_eq_ok_iff.2 (Config.ofJson_toJson hloaded)
  · intro tables hperm
    refine ⟨fun path' => ?_, fun entity => ?_⟩
    · exact Config.ofFile_text_eq_ok_iff.2 (Config.ofJson_toJson (hloaded.reorder hperm))
    · rw [Config.table, TableMap.get?_eq_of_perm hperm hloaded.distinct]
      rfl

/-- A configuration as an array, with an offset that something follows, a table that is named twice,
once with an escaped letter in its key, and a table of an entity that is not known. -/
def arrayConfiguration : String :=
  "[\"−05:30 or so\", \x7b\"Tag\": \"label\", \"T\\u0061g\": \"mark\", \"Öl\": \"oil\"\x7d]"

/-- It is loaded and comes back from its own JSON. The second table counts, and what it does not
name has the standard table or the name in lower case. -/
theorem arrayConfiguration_stable :
    ∃ c, Config.ofFile "settings.json" (.text arrayConfiguration) = .ok c ∧
      Config.ofFile "settings.json" (.text c.toJson) = .ok c ∧
      c.table "Tag" = "mark" ∧ c.table "Öl" = "oil" ∧ c.table "Account" = "account" ∧
      c.table "ÖLE" = "öle" := by
  have hloads : (Config.ofFile "settings.json" (.text arrayConfiguration)).isOk = true := by
    decide +kernel
  cases hc : Config.ofFile "settings.json" (.text arrayConfiguration) with
  | error e =>
    rw [hc] at hloads
    cases hloads
  | ok c =>
    obtain ⟨htable, hagain, -⟩ := loaded_configurations_are_stable hc
    refine ⟨c, rfl, hagain _, ?_, ?_, ?_, ?_⟩
    all_goals
      rw [htable]
      decide +kernel

end PartQuery
