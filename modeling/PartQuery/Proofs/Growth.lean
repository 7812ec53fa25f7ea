import PartQuery.Proofs.Negations

/-!
# Entities that grow

Nothing in a compiled rule turns an answer into its opposite: an operator that negates another still
looks for a value, of which it asks the opposite. So a rule that matches an entity goes on matching
it while values are added, whichever operators it uses.

Attributes can be added freely. Iterations cannot, because the last iteration is found by counting
them, and two dates are read from that one only; but a rule without a comparison of these dates does
not notice (`Comparison.IgnoresLast`), and neither does any rule for path data.

The main statement is `growing_loses_nothing`.
-/

namespace PartQuery

/-! ## What is added -/

/-- An iteration of a revision gains attributes. -/
def Iteration.Gains (i j : Iteration) : Prop :=
  ∃ attributes, j = { i with attributes := attributes } ∧ i.attributes ⊆ attributes

/-- An iteration of path data gains attributes. -/
def PathIteration.Gains (i j : PathIteration) : Prop :=
  ∃ attributes, j = { i with attributes := attributes } ∧ i.attributes ⊆ attributes

namespace Revision

/-- The iterations of a revision gain attributes. -/
def GainsAttributes (r s : Revision) : Prop :=
  ∃ iterations, s = { r with iterations := iterations } ∧
    List.Forall₂ Iteration.Gains r.iterations iterations

/-- A revision gains iterations, and those it has gain attributes. -/
def Gains (r s : Revision) : Prop :=
  ∃ iterations, s = { r with iterations := iterations } ∧
    ∀ i ∈ r.iterations, ∃ j ∈ iterations, i.Gains j

end Revision

/-- Path data gains iterations, and those it has gain attributes. -/
def PathData.Gains (d e : PathData) : Prop :=
  ∃ iterations, e = { d with iterations := iterations } ∧
    ∀ i ∈ d.iterations, ∃ j ∈ iterations, i.Gains j

/-- To gain attributes is to gain something. -/
lemma Revision.GainsAttributes.gains {r s : Revision} (h : r.GainsAttributes s) : r.Gains s := by
  obtain ⟨iterations, rfl, hpairs⟩ := h
  exact ⟨iterations, rfl, fun i hi => exists_right_of_mem_left hpairs hi⟩

/-- An outcome finds all that another does, with as many calls. -/
def Outcome.Within {α : Type} (outcome other : Outcome (List α)) : Prop :=
  ∀ found calls, outcome = ⟨.ok found, calls⟩ →
    ∃ found', other = ⟨.ok found', calls⟩ ∧ found ⊆ found'

/-! ## Rows -/

/-- What a field of a revision holds in an iteration it goes on holding when the iteration gains
attributes, and when the revision gains iterations unless it is a date of the last one. -/
lemma Field.holds_of_gains {r : Revision} {i j : Iteration} (h : i.Gains j)
    {iterations : List Iteration} {field : Field} {v : Scalar}
    (hlast : field.isLastIterationOnly = true → r.iterations.length = iterations.length)
    (hv : field.Holds r i v) : field.Holds { r with iterations := iterations } j v := by
  obtain ⟨attributes, rfl, hsub⟩ := h
  refine Field.holds_of_iteration (fun _ _ _ => hsub) ?_ hv
  intro hfield hnumber
  exact ⟨hnumber.trans (hlast hfield), rfl, rfl⟩

namespace Row

/-- The row of an iteration that has gained attributes offers what the row of the iteration did, and
of the dates of the last iteration if no iterations have been added. -/
lemma within_of_gains {r : Revision} {i j : Iteration} (h : i.Gains j) {iterations : List Iteration}
    {field : Field}
    (hlast : field.isLastIterationOnly = true → r.iterations.length = iterations.length) :
    (i.row r).Within (j.row { r with iterations := iterations }) field where
  hasTag_eq := rfl
  offers _ hv := offers_row_iff.2 (Field.holds_of_gains h hlast (offers_row_iff.1 hv))

/-- The row of an iteration of path data that has gained attributes offers what the row of the
iteration did. -/
lemma within_of_pathGains (d e : PathData) {i j : PathIteration} (h : i.Gains j) (field : Field) :
    (i.row d).Within (j.row e) field where
  hasTag_eq := rfl
  offers v hv := by
    obtain ⟨attributes, rfl, hsub⟩ := h
    cases field with
    | dynamic owner kind name =>
      obtain ⟨held, hheld, a, ha, hname, hvalue⟩ := offers_dynamic_iff.1 hv
      refine offers_dynamic_iff.2 ?_
      cases owner with
      | revision => cases hheld
      | pathData =>
        cases hheld
        exact ⟨_, rfl, a, hsub ha, hname, hvalue⟩
    | _ => cases hv.2

end Row

namespace Predicate

variable {p : Predicate}

/-- A predicate that holds of a revision holds of it when it has gained attributes, and when it has
gained iterations unless a date of the last iteration is asked for. -/
lemma holdsOf_of_gains {r : Revision} {iterations : List Iteration}
    (hgains : ∀ i ∈ r.iterations, ∃ j ∈ iterations, i.Gains j)
    (hlast : p.Everywhere fun field _ =>
      field.isLastIterationOnly = true → r.iterations.length = iterations.length)
    (hholds : p.holdsOf r = true) :
    p.holdsOf { r with iterations := iterations } = true := by
  rw [holdsOf_iff] at hholds ⊢
  obtain ⟨i, hi, hheld⟩ := hholds
  obtain ⟨j, hj, hgain⟩ := hgains i hi
  have hwithin := hlast.imp fun field _ => Row.within_of_gains hgain
  exact ⟨j, hj, hwithin.holds_of_within hheld⟩

/-- A predicate that holds of path data holds of it when it has gained something. -/
lemma holdsOfPath_of_gains {d e : PathData} (hgains : d.Gains e) (hholds : p.holdsOfPath d = true) :
    p.holdsOfPath e = true := by
  obtain ⟨iterations, rfl, hgains⟩ := hgains
  rw [holdsOfPath_iff] at hholds ⊢
  obtain ⟨i, hi, hheld⟩ := hholds
  obtain ⟨j, hj, hgain⟩ := hgains i hi
  have hwithin : p.Everywhere fun field _ =>
      (i.row d).Within (j.row { d with iterations := iterations }) field :=
    everywhere_of_forall (fun field _ => Row.within_of_pathGains d _ hgain field) p
  exact ⟨j, hj, hwithin.holds_of_within hheld⟩

end Predicate

/-! ## Rules -/

/-- A comparison is of neither the check-in date nor the modification date. -/
def Comparison.IgnoresLast (c : Comparison) : Prop :=
  Field.ofName? c.field ≠ some (.revision .checkInDate) ∧
    Field.ofName? c.field ≠ some (.revision .modificationDate)

/-- A predicate that holds of a revision holds of it when it has gained attributes. -/
lemma Predicate.holdsOf_of_gainsAttributes {p : Predicate} {r s : Revision}
    (h : r.GainsAttributes s) (hholds : p.holdsOf r = true) : p.holdsOf s = true := by
  obtain ⟨iterations, rfl, hpairs⟩ := h
  refine holdsOf_of_gains (fun i hi => exists_right_of_mem_left hpairs hi) ?_ hholds
  exact everywhere_of_forall (fun _ _ _ => hpairs.length_eq) p

/-- A rule without a comparison of a date of the last iteration that matches a revision matches it
when it has gained iterations. -/
lemma Rule.holdsOf_of_gains {ctx : CompileContext} {rule : Rule} {p : Predicate}
    (hp : rule.compile ctx = .ok p) (hleaves : ∀ c ∈ rule.leaves, c.IgnoresLast) {r s : Revision}
    (h : r.Gains s) (hholds : p.holdsOf r = true) : p.holdsOf s = true := by
  obtain ⟨iterations, rfl, hgains⟩ := h
  refine Predicate.holdsOf_of_gains hgains (everywhere_of_leaves ?_ hp) hholds
  intro c hc field test hname _ _ hlast
  obtain ⟨hcheckIn, hmodification⟩ := hleaves c hc
  rcases Field.eq_of_isLastIterationOnly hlast with rfl | rfl
  · exact absurd hname hcheckIn
  · exact absurd hname hmodification

/-! ## Searches -/

/-- No key is lost when each revision has one that has gained something and matches if it does. -/
lemma selectRevisions_subset {p : Predicate} {workspace : String} {l m : List Revision}
    (h : ∀ r ∈ l, ∃ s ∈ m, r.Gains s ∧ (p.holdsOf r = true → p.holdsOf s = true)) :
    selectRevisions p workspace l ⊆ selectRevisions p workspace m := by
  intro k hk
  obtain ⟨r, hr, hkey, hworkspace, hmatch, i, hi, hchecked⟩ := mem_selectRevisions.1 hk
  obtain ⟨s, hs, ⟨iterations, rfl, hgains⟩, hmono⟩ := h r hr
  obtain ⟨j, hj, attributes, rfl, -⟩ := hgains i hi
  have hmatch' := Predicate.holdsOf_iff.1 (hmono (Predicate.holdsOf_iff.2 hmatch))
  exact mem_selectRevisions.2 ⟨_, hs, hkey, hworkspace, hmatch', _, hj, hchecked⟩

/-- No path is lost when all path data has gained something. -/
lemma selectPaths_subset {p : Predicate} {ids : List Int} {l m : List PathData}
    (h : ∀ d ∈ l, ∃ e ∈ m, d.Gains e) : selectPaths p ids l ⊆ selectPaths p ids m := by
  intro path hpath
  obtain ⟨d, hd, hdpath, hid, hmatch⟩ := mem_selectPaths.1 hpath
  obtain ⟨e, he, hgains⟩ := h d hd
  have hmatch' :=
    Predicate.holdsOfPath_iff.1 (Predicate.holdsOfPath_of_gains hgains
      (Predicate.holdsOfPath_iff.2 hmatch))
  obtain ⟨iterations, rfl, -⟩ := hgains
  exact mem_selectPaths.2 ⟨_, he, hdpath, hid, hmatch'⟩

/-- A search finds all that it found before when what it selects loses nothing. -/
lemma searchRevisions_within {config : Config} {q : Query} {source source' : Source}
    {workspace : String} {l m : List Revision} (hl : source.revisions workspace = .ok l)
    (hm : source'.revisions workspace = .ok m)
    (h : ∀ rule p, q.revisionRule = .ok rule → rule.compile (config.context .revision) = .ok p →
      selectRevisions p workspace l ⊆ selectRevisions p workspace m) :
    (searchRevisions source config q workspace).Within
      (searchRevisions source' config q workspace) := by
  intro found calls hfound
  cases hp : q.revisionPredicate config with
  | error e =>
    simp only [searchRevisions, hp] at hfound
    cases hfound
  | ok p =>
    rw [searchRevisions_eq hp hl] at hfound
    cases hfound
    obtain ⟨rule, hrule, hcompile⟩ := bind_eq_ok_iff.1 hp
    exact ⟨_, searchRevisions_eq hp hm, h rule p hrule hcompile⟩

/-- A search among path data finds all that it found before when the path data has gained
something. -/
lemma searchPaths_within {config : Config} {q : Query} {source source' : Source} {ids : List Int}
    {l m : List PathData} (hl : source.pathData ids = .ok l) (hm : source'.pathData ids = .ok m)
    (h : ∀ d ∈ l, ∃ e ∈ m, d.Gains e) :
    (searchPaths source config q ids).Within (searchPaths source' config q ids) := by
  intro found calls hfound
  by_cases hids : ids = []
  · subst hids
    exact ⟨found, hfound, List.Subset.refl found⟩
  cases hp : q.pathPredicate config with
  | error e =>
    rw [searchPaths, if_neg (by simpa using hids), hp] at hfound
    cases hfound
  | ok p =>
    rw [searchPaths_eq hp hids hl] at hfound
    cases hfound
    exact ⟨_, searchPaths_eq hp hids hm, selectPaths_subset h⟩

/-- Whatever rule compiles, a revision that it matches goes on matching when its iterations gain
attributes; and when it gains iterations, if no comparison of the rule is of the check-in date or of
the modification date. Path data that it matches goes on matching when it gains either. So no search
loses a key or a path. -/
theorem growing_loses_nothing (config : Config) :
    (∀ (rule : Rule) (p : Predicate), rule.compile (config.context .revision) = .ok p →
      (∀ r s : Revision, r.GainsAttributes s → p.holdsOf r = true → p.holdsOf s = true) ∧
      ((∀ c ∈ rule.leaves, c.IgnoresLast) →
        ∀ r s : Revision, r.Gains s → p.holdsOf r = true → p.holdsOf s = true)) ∧
    (∀ (rule : Rule) (p : Predicate), rule.compile (config.context .pathData) = .ok p →
      ∀ d e : PathData, d.Gains e → p.holdsOfPath d = true → p.holdsOfPath e = true) ∧
    (∀ (q : Query) (source source' : Source) (workspace : String) (l m : List Revision),
      source.revisions workspace = .ok l → source'.revisions workspace = .ok m →
        ((∀ r ∈ l, ∃ s ∈ m, r.GainsAttributes s) ∨
          (∀ rule, q.revisionRule = .ok rule → ∀ c ∈ rule.leaves, c.IgnoresLast) ∧
            ∀ r ∈ l, ∃ s ∈ m, r.Gains s) →
          (searchRevisions source config q workspace).Within
            (searchRevisions source' config q workspace)) ∧
    ∀ (q : Query) (source source' : Source) (ids : List Int) (l m : List PathData),
      source.pathData ids = .ok l → source'.pathData ids = .ok m →
        (∀ d ∈ l, ∃ e ∈ m, d.Gains e) →
          (searchPaths source config q ids).Within (searchPaths source' config q ids) := by
  refine ⟨?_, ?_, ?_, ?_⟩
  · intro rule p hp
    refine ⟨fun r s h => Predicate.holdsOf_of_gainsAttributes h, fun hleaves r s h => ?_⟩
    exact Rule.holdsOf_of_gains hp hleaves h
  · intro rule p _ d e h
    exact Predicate.holdsOfPath_of_gains h
  · intro q source source' workspace l m hl hm hgrown
    refine searchRevisions_within hl hm fun rule p hrule hp => selectRevisions_subset ?_
    intro r hr
    rcases hgrown with hattributes | ⟨hleaves, hgains⟩
    · obtain ⟨s, hs, h⟩ := hattributes r hr
      exact ⟨s, hs, h.gains, Predicate.holdsOf_of_gainsAttributes h⟩
    · obtain ⟨s, hs, h⟩ := hgains r hr
      exact ⟨s, hs, h, Rule.holdsOf_of_gains hp (hleaves rule hrule) h⟩
  · intro q source source' ids l m hl hm h
    exact searchPaths_within hl hm h

/-- A revision of something blue. -/
def blueBell : Revision :=
  firstVersion "home" "bell" [⟨1, none, none, [⟨"colour", .text "Blue"⟩]⟩]

/-- What does not contain the red goes on matching when it turns infrared as well and is drafted
again. -/
theorem blueBell_goes_on_matching :
    ∃ p, (Rule.leaf (colourComparison .notContains "RED")).compile ⟨.revision, Offset.zero⟩ =
        .ok p ∧
      p.holdsOf blueBell = true ∧
      p.holdsOf { blueBell with iterations := [twoColours] } = true ∧
      p.holdsOf { blueBell with iterations := [⟨2, none, none, []⟩, twoColours] } = true := by
  have hp : (Rule.leaf (colourComparison .notContains "RED")).compile ⟨.revision, Offset.zero⟩ =
      .ok (.compare (.dynamic .revision .text "colour") (.like .contains "red" true)) := rfl
  have hmatch : (Predicate.compare (.dynamic .revision .text "colour")
      (.like .contains "red" true)).holdsOf blueBell = true := by
    decide +kernel
  obtain ⟨hrules, -⟩ := growing_loses_nothing {}
  obtain ⟨hattributes, hiterations⟩ := hrules _ _ hp
  have htwo : Iteration.Gains ⟨1, none, none, [⟨"colour", .text "Blue"⟩]⟩ twoColours :=
    ⟨_, rfl, by simp⟩
  refine ⟨_, hp, hmatch, hattributes blueBell _ ⟨_, rfl, ?_⟩ hmatch,
    hiterations ?_ blueBell _ ⟨_, rfl, ?_⟩ hmatch⟩
  · exact .cons htwo .nil
  · intro c hc
    obtain rfl : c = colourComparison .notContains "RED" := by simpa using hc
    exact ⟨by decide +kernel, by decide +kernel⟩
  · intro i hi
    obtain rfl := List.mem_singleton.1 hi
    exact ⟨twoColours, by simp, htwo⟩

/-- A new draft takes the check-in date away from comparisons. -/
example : ((Rule.leaf (checkInComparison .equal)).compile ⟨.revision, Offset.zero⟩).map
    (fun p => (p.holdsOf (firstVersion "home" "bell" [⟨1, some noon, none, []⟩]),
      p.holdsOf draftedAgain)) = .ok (true, false) := by
  decide +kernel

end PartQuery
