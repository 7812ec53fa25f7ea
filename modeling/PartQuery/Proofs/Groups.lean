import PartQuery.Proofs.Leaves
import PartQuery.Proofs.Search

/-!
# Groups and whole revisions

A rule holds of a revision when it holds of one of its iterations. Asking for one of several rules
is then the same as asking whether one of them holds, but asking for all of them is more than asking
each of them: a single iteration has to satisfy them together.

The difference lies in the comparisons that look at the iteration, which are those of attributes and
of the dates of the last iteration. A rule without such a comparison holds of all iterations or of
none (`Rule.holdsAt_congr`), and so the rules of a group can be asked one by one as soon as all but
one of them are of this kind. The main statement, `groups_of_revisions`, draws from this what the
search for a group answers.
-/

namespace PartQuery

/-! ## What depends on the iteration -/

/-- Whether the iterations of one revision can differ in a field: its attributes are theirs, and
some dates are those of the last iteration. -/
def Field.isOfIteration : Field → Bool
  | .dynamic .revision _ _ => true
  | field => field.isLastIterationOnly

/-- Whether a comparison names a field in which the iterations of a revision can differ. -/
def Comparison.dependsOnIteration (c : Comparison) : Bool :=
  (Field.ofName? c.field).any Field.isOfIteration

/-- Whether some comparison of a rule depends on the iteration. -/
def Rule.dependsOnIteration (rule : Rule) : Bool :=
  rule.leaves.any Comparison.dependsOnIteration

/-- What any other field holds in one iteration it holds in all. -/
lemma Field.holds_of_holds {field : Field} (hfield : field.isOfIteration = false) {r : Revision}
    {i j : Iteration} {v : Scalar} (hv : field.Holds r i v) : field.Holds r j v := by
  have hholds : field.Holds { r with iterations := r.iterations } j v := by
    refine Field.holds_of_iteration ?_ ?_ hv
    · rintro kind name rfl
      cases hfield
    · intro hlast
      rcases Field.eq_of_isLastIterationOnly hlast with rfl | rfl
      all_goals cases hfield
  exact hholds

/-- The rows of all iterations offer the same of any other field. -/
lemma Row.within_of_isOfIteration {field : Field} (hfield : field.isOfIteration = false)
    (r : Revision) (i j : Iteration) : (i.row r).Within (j.row r) field where
  hasTag_eq := rfl
  offers _ hv := offers_row_iff.2 (Field.holds_of_holds hfield (offers_row_iff.1 hv))

/-! ## Rules and revisions -/

namespace Rule

variable {timezone : Offset} {rule : Rule} {rules : List Rule} {r : Revision} {i j : Iteration}

/-- A rule compiles, and holds of a revision in one of its iterations. -/
def HoldsAt (timezone : Offset) (rule : Rule) (r : Revision) (i : Iteration) : Prop :=
  ∃ p, rule.compile ⟨.revision, timezone⟩ = .ok p ∧ p.holds (i.row r) = true

/-- A rule compiles, and holds of a revision. -/
def HoldsOf (timezone : Offset) (rule : Rule) (r : Revision) : Prop :=
  ∃ p, rule.compile ⟨.revision, timezone⟩ = .ok p ∧ p.holdsOf r = true

/-- A rule that compiles holds in an iteration exactly when its predicate does. -/
lemma holdsAt_iff_holds {p : Predicate} (hp : rule.compile ⟨.revision, timezone⟩ = .ok p) :
    rule.HoldsAt timezone r i ↔ p.holds (i.row r) = true :=
  holdsIn_iff_holds hp

/-- A rule holds of a revision exactly when it does in one of its iterations. -/
lemma holdsOf_iff :
    rule.HoldsOf timezone r ↔ ∃ i ∈ r.iterations, rule.HoldsAt timezone r i := by
  constructor
  · rintro ⟨p, hp, hholds⟩
    obtain ⟨i, hi, hat⟩ := Predicate.holdsOf_iff.1 hholds
    exact ⟨i, hi, p, hp, hat⟩
  · rintro ⟨i, hi, p, hp, hat⟩
    exact ⟨p, hp, Predicate.holdsOf_iff.2 ⟨i, hi, hat⟩⟩

/-- A rule that does not depend on the iteration and holds in one holds in all. -/
lemma holdsAt_of_holdsAt (hrule : rule.dependsOnIteration = false) (h : rule.HoldsAt timezone r i) :
    rule.HoldsAt timezone r j := by
  have hleaves : ∀ c ∈ rule.leaves, c.dependsOnIteration = false := by
    simpa [dependsOnIteration] using hrule
  obtain ⟨p, hp, hholds⟩ := h
  have hwithin : p.Everywhere fun field _ => (i.row r).Within (j.row r) field := by
    refine everywhere_of_leaves ?_ hp
    intro c hc field test hname _ _
    refine Row.within_of_isOfIteration ?_ r i j
    simpa [Comparison.dependsOnIteration, hname] using hleaves c hc
  exact ⟨p, hp, hwithin.holds_of_within hholds⟩

/-- A rule that does not depend on the iteration holds in all iterations or in none. -/
lemma holdsAt_congr (hrule : rule.dependsOnIteration = false) :
    rule.HoldsAt timezone r i ↔ rule.HoldsAt timezone r j :=
  ⟨holdsAt_of_holdsAt hrule, holdsAt_of_holdsAt hrule⟩

/-- A group of rules that compile does so itself. -/
lemma exists_compile_group {ctx : CompileContext} (connective : Connective)
    (hrules : ∀ rule ∈ rules, ∃ p, rule.compile ctx = .ok p) :
    ∃ p, (group connective rules).compile ctx = .ok p :=
  compiles_group_iff.2 hrules

/-- In one iteration a group joined by `or` holds exactly when one of its rules does. -/
lemma holdsAt_group_or_iff
    (hrules : ∀ rule ∈ rules, ∃ p, rule.compile ⟨.revision, timezone⟩ = .ok p) :
    (group .or rules).HoldsAt timezone r i ↔ ∃ rule ∈ rules, rule.HoldsAt timezone r i :=
  holdsIn_group_iff hrules

/-- In one iteration a group joined by `and` holds exactly when all of its rules do. -/
lemma holdsAt_group_and_iff
    (hrules : ∀ rule ∈ rules, ∃ p, rule.compile ⟨.revision, timezone⟩ = .ok p) :
    (group .and rules).HoldsAt timezone r i ↔ ∀ rule ∈ rules, rule.HoldsAt timezone r i :=
  holdsIn_group_iff hrules

/-- A group joined by `or` holds of a revision exactly when one of its rules does. -/
lemma holdsOf_group_or_iff
    (hrules : ∀ rule ∈ rules, ∃ p, rule.compile ⟨.revision, timezone⟩ = .ok p) :
    (group .or rules).HoldsOf timezone r ↔ ∃ rule ∈ rules, rule.HoldsOf timezone r := by
  simp only [holdsOf_iff, holdsAt_group_or_iff hrules]
  constructor
  · rintro ⟨i, hi, rule, hrule, hat⟩
    exact ⟨rule, hrule, i, hi, hat⟩
  · rintro ⟨rule, hrule, i, hi, hat⟩
    exact ⟨i, hi, rule, hrule, hat⟩

/-- A group joined by `and` holds of a revision exactly when, in a single iteration, all of its
rules that depend on the iteration hold, while the others may hold in any. -/
lemma holdsOf_group_and_iff
    (hrules : ∀ rule ∈ rules, ∃ p, rule.compile ⟨.revision, timezone⟩ = .ok p) :
    (group .and rules).HoldsOf timezone r ↔ ∃ i ∈ r.iterations, ∀ rule ∈ rules,
      if rule.dependsOnIteration then rule.HoldsAt timezone r i else rule.HoldsOf timezone r := by
  rw [holdsOf_iff]
  simp only [holdsAt_group_and_iff hrules]
  constructor
  · rintro ⟨i, hi, hall⟩
    refine ⟨i, hi, fun rule hrule => ?_⟩
    split
    · exact hall rule hrule
    · exact holdsOf_iff.2 ⟨i, hi, hall rule hrule⟩
  · rintro ⟨i, hi, hall⟩
    refine ⟨i, hi, fun rule hrule => ?_⟩
    have hheld := hall rule hrule
    split at hheld
    · exact hheld
    · next hrule =>
      obtain ⟨j, -, hat⟩ := holdsOf_iff.1 hheld
      exact (holdsAt_congr (by simpa using hrule)).1 hat

/-- A group joined by `and` holds of a revision only if all of its rules do. -/
lemma holdsOf_of_holdsOf_group_and
    (hrules : ∀ rule ∈ rules, ∃ p, rule.compile ⟨.revision, timezone⟩ = .ok p)
    (hgroup : (group .and rules).HoldsOf timezone r) :
    ∀ rule ∈ rules, rule.HoldsOf timezone r := by
  intro rule hrule
  obtain ⟨i, hi, hall⟩ := holdsOf_iff.1 hgroup
  exact holdsOf_iff.2 ⟨i, hi, (holdsAt_group_and_iff hrules).1 hall rule hrule⟩

/-- All rules of a group hold of a revision, at most one of them depends on the iteration, and there
is an iteration: then the group joined by `and` holds. -/
lemma holdsOf_group_and
    (hrules : ∀ rule ∈ rules, ∃ p, rule.compile ⟨.revision, timezone⟩ = .ok p)
    (hiterations : r.iterations ≠ []) (hone : (rules.filter dependsOnIteration).length ≤ 1)
    (hall : ∀ rule ∈ rules, rule.HoldsOf timezone r) : (group .and rules).HoldsOf timezone r := by
  rw [holdsOf_group_and_iff hrules]
  cases hdepending : rules.filter dependsOnIteration with
  | nil =>
    obtain ⟨i, hi⟩ := List.exists_mem_of_ne_nil _ hiterations
    refine ⟨i, hi, fun rule hrule => ?_⟩
    rw [if_neg (List.filter_eq_nil_iff.1 hdepending rule hrule)]
    exact hall rule hrule
  | cons only rest =>
    rw [hdepending] at hone
    obtain rfl : rest = [] := by simpa using hone
    have honly : only ∈ rules.filter dependsOnIteration := by simp [hdepending]
    -- The iteration in which the only rule that depends on it holds serves all.
    obtain ⟨i, hi, hat⟩ := holdsOf_iff.1 (hall only (List.mem_of_mem_filter honly))
    refine ⟨i, hi, fun rule hrule => ?_⟩
    split
    · next hdepends =>
      have hmem : rule ∈ rules.filter dependsOnIteration := List.mem_filter.2 ⟨hrule, hdepends⟩
      rw [hdepending, List.mem_singleton] at hmem
      exact hmem ▸ hat
    · exact hall rule hrule

end Rule

/-! ## Searching for a rule -/

/-- Searches the revisions of a workspace for those that a rule holds of. -/
def searchRule (source : Source) (config : Config) (rule : Rule) (workspace : String) :
    Outcome (List RevisionKey) :=
  match rule.compile (config.context .revision) with
  | .error e => .unasked (.error e)
  | .ok p => .asking (source.revisions workspace) (selectRevisions p workspace)

section

variable {source : Source} {config : Config} {rule : Rule} {workspace : String}

/-- The search of a query is the search for its rule. -/
lemma searchRevisions_eq_searchRule {q : Query} (hrule : q.revisionRule = .ok rule) :
    searchRevisions source config q workspace = searchRule source config rule workspace := by
  unfold searchRevisions Query.revisionPredicate searchRule
  rw [hrule]
  rfl

/-- A source that fails fails the search for every rule that compiles. -/
lemma searchRule_of_error {message : String}
    (hrule : ∃ p, rule.compile (config.context .revision) = .ok p)
    (hanswer : source.revisions workspace = .error message) :
    searchRule source config rule workspace = ⟨.error (.source message), 1⟩ := by
  obtain ⟨p, hp⟩ := hrule
  unfold searchRule
  rw [hp]
  simp only [hanswer, Outcome.asking]

/-- A source that answers answers the search for every rule that compiles, with the keys in order of
those revisions of the workspace that the rule holds of and that were ever checked in. -/
lemma searchRule_of_ok {revisions : List Revision}
    (hrule : ∃ p, rule.compile (config.context .revision) = .ok p)
    (hanswer : source.revisions workspace = .ok revisions) :
    ∃ keys, searchRule source config rule workspace = ⟨.ok keys, 1⟩ ∧
      keys.Pairwise RevisionKey.Precedes ∧
      ∀ k, k ∈ keys ↔ ∃ r ∈ revisions, r.key = k ∧ r.master.workspace = workspace ∧
        rule.HoldsOf config.timezone r ∧ ∃ i ∈ r.iterations, i.checkInDate.isSome = true := by
  obtain ⟨p, hp⟩ := hrule
  refine ⟨selectRevisions p workspace revisions, ?_, ?_, ?_⟩
  · unfold searchRule
    rw [hp]
    simp only [hanswer, Outcome.asking]
  · exact (ascending_sortDistinct _).imp RevisionKey.compare_eq_lt_iff_precedes.1
  · intro k
    have hholds : ∀ r, rule.HoldsOf config.timezone r ↔
        ∃ i ∈ r.iterations, p.holds (i.row r) = true := by
      intro r
      rw [Rule.holdsOf_iff]
      exact exists_congr fun i => and_congr_right fun _ => Rule.holdsAt_iff_holds hp
    simp only [mem_selectRevisions, hholds]

/-- The search for a group joined by `or` answers the union of what the searches for its rules
answer. -/
lemma exists_searchRule_group_or {rules : List Rule} {revisions : List Revision}
    (hrules : ∀ rule ∈ rules, ∃ p, rule.compile (config.context .revision) = .ok p)
    (hanswer : source.revisions workspace = .ok revisions) :
    ∃ keys, searchRule source config (.group .or rules) workspace = ⟨.ok keys, 1⟩ ∧
      keys.Pairwise RevisionKey.Precedes ∧
      ∀ k, k ∈ keys ↔ ∃ rule ∈ rules, ∃ found,
        searchRule source config rule workspace = ⟨.ok found, 1⟩ ∧ k ∈ found := by
  have hgroup := Rule.exists_compile_group .or hrules
  obtain ⟨keys, hkeys, hsorted, hmem⟩ := searchRule_of_ok hgroup hanswer
  refine ⟨keys, hkeys, hsorted, fun k => ?_⟩
  rw [hmem]
  constructor
  · rintro ⟨r, hr, hkey, hworkspace, hholds, hchecked⟩
    obtain ⟨rule, hrule, hheld⟩ := (Rule.holdsOf_group_or_iff hrules).1 hholds
    obtain ⟨found, hfound, -, hmem'⟩ := searchRule_of_ok (hrules rule hrule) hanswer
    have hk : k ∈ found := (hmem' k).2 ⟨r, hr, hkey, hworkspace, hheld, hchecked⟩
    exact ⟨rule, hrule, found, hfound, hk⟩
  · rintro ⟨rule, hrule, found, hfound, hk⟩
    obtain ⟨found', hfound', -, hmem'⟩ := searchRule_of_ok (hrules rule hrule) hanswer
    obtain rfl : found = found' := by
      rw [hfound] at hfound'
      cases hfound'
      rfl
    obtain ⟨r, hr, hkey, hworkspace, hheld, hchecked⟩ := (hmem' k).1 hk
    have hholds := (Rule.holdsOf_group_or_iff hrules).2 ⟨rule, hrule, hheld⟩
    exact ⟨r, hr, hkey, hworkspace, hholds, hchecked⟩

/-- The search for a group joined by `and` answers only what the searches for its rules all
answer. -/
lemma exists_searchRule_group_and {rules : List Rule} {revisions : List Revision}
    (hrules : ∀ rule ∈ rules, ∃ p, rule.compile (config.context .revision) = .ok p)
    (hanswer : source.revisions workspace = .ok revisions) :
    ∃ keys, searchRule source config (.group .and rules) workspace = ⟨.ok keys, 1⟩ ∧
      keys.Pairwise RevisionKey.Precedes ∧
      ∀ rule ∈ rules, ∃ found,
        searchRule source config rule workspace = ⟨.ok found, 1⟩ ∧ keys ⊆ found := by
  have hgroup := Rule.exists_compile_group .and hrules
  obtain ⟨keys, hkeys, hsorted, hmem⟩ := searchRule_of_ok hgroup hanswer
  refine ⟨keys, hkeys, hsorted, fun rule hrule => ?_⟩
  obtain ⟨found, hfound, -, hmem'⟩ := searchRule_of_ok (hrules rule hrule) hanswer
  refine ⟨found, hfound, ?_⟩
  intro k hk
  obtain ⟨r, hr, hkey, hworkspace, hholds, hchecked⟩ := (hmem k).1 hk
  have hheld := Rule.holdsOf_of_holdsOf_group_and hrules hholds rule hrule
  exact (hmem' k).2 ⟨r, hr, hkey, hworkspace, hheld, hchecked⟩

end

/-- Groups of rules that compile act on whole revisions as follows. A group joined by `or` holds of
a revision exactly when one of its rules does. A group joined by `and` holds only if all of its
rules do, and if all do it holds provided that there is an iteration and that at most one of the
rules depends on the iteration; in general, a single iteration has to satisfy all rules that depend
on it together.

So the search for a group joined by `or` answers the union of what the searches for its rules
answer, in order and without repetition, and the search for a group joined by `and` answers nothing
that one of these does not. Where the source fails, all of these searches fail with its message. The
search of a query is the search for its rule. -/
theorem groups_of_revisions {config : Config} {rules : List Rule}
    (hrules : ∀ rule ∈ rules, ∃ p, rule.compile (config.context .revision) = .ok p) :
    (∀ connective, ∃ p, (Rule.group connective rules).compile (config.context .revision) = .ok p) ∧
    (∀ r : Revision,
      ((Rule.group .or rules).HoldsOf config.timezone r ↔
        ∃ rule ∈ rules, rule.HoldsOf config.timezone r) ∧
      ((Rule.group .and rules).HoldsOf config.timezone r →
        ∀ rule ∈ rules, rule.HoldsOf config.timezone r) ∧
      (r.iterations ≠ [] → (rules.filter Rule.dependsOnIteration).length ≤ 1 →
        (∀ rule ∈ rules, rule.HoldsOf config.timezone r) →
          (Rule.group .and rules).HoldsOf config.timezone r) ∧
      ((Rule.group .and rules).HoldsOf config.timezone r ↔ ∃ i ∈ r.iterations, ∀ rule ∈ rules,
        if rule.dependsOnIteration then rule.HoldsAt config.timezone r i
        else rule.HoldsOf config.timezone r)) ∧
    ∀ (source : Source) (workspace : String),
      (∀ revisions, source.revisions workspace = .ok revisions →
        (∃ keys, searchRule source config (.group .or rules) workspace = ⟨.ok keys, 1⟩ ∧
          keys.Pairwise RevisionKey.Precedes ∧
          ∀ k, k ∈ keys ↔ ∃ rule ∈ rules, ∃ found,
            searchRule source config rule workspace = ⟨.ok found, 1⟩ ∧ k ∈ found) ∧
        ∃ keys, searchRule source config (.group .and rules) workspace = ⟨.ok keys, 1⟩ ∧
          keys.Pairwise RevisionKey.Precedes ∧
          ∀ rule ∈ rules, ∃ found,
            searchRule source config rule workspace = ⟨.ok found, 1⟩ ∧ keys ⊆ found) ∧
      (∀ message, source.revisions workspace = .error message →
        ∀ connective, ∀ rule ∈ Rule.group connective rules :: rules,
          searchRule source config rule workspace = ⟨.error (.source message), 1⟩) ∧
      ∀ (q : Query) (rule : Rule), q.revisionRule = .ok rule →
        searchRevisions source config q workspace = searchRule source config rule workspace := by
  have hgroups : ∀ connective, ∃ p,
      (Rule.group connective rules).compile (config.context .revision) = .ok p :=
    fun connective => Rule.exists_compile_group connective hrules
  refine ⟨hgroups, fun r => ⟨?_, ?_, ?_, ?_⟩, fun source workspace => ⟨?_, ?_, ?_⟩⟩
  · exact Rule.holdsOf_group_or_iff hrules
  · exact Rule.holdsOf_of_holdsOf_group_and hrules
  · exact Rule.holdsOf_group_and hrules
  · exact Rule.holdsOf_group_and_iff hrules
  · intro revisions hanswer
    exact ⟨exists_searchRule_group_or hrules hanswer, exists_searchRule_group_and hrules hanswer⟩
  · intro message hanswer connective rule hrule
    refine searchRule_of_error ?_ hanswer
    rcases List.mem_cons.1 hrule with rfl | hinside
    · exact hgroups connective
    · exact hrules rule hinside
  · intro q rule hrule
    exact searchRevisions_eq_searchRule hrule

/-- The rule that some iteration has a colour. -/
def colourRule (colour : String) : Rule :=
  .leaf ⟨"attr-TEXT.colour", .equal, [colour], .string⟩

/-- The rule that the part has a number. -/
def numberRule (number : String) : Rule :=
  .leaf ⟨"pm.number", .equal, [number], .string⟩

/-- A bell that was drafted in red and checked in in blue. -/
def repaintedBell : Revision :=
  firstVersion "home" "bell" [colouredIteration "red" false, colouredIteration "blue" true]

/-- The bell is red and it is blue, but no iteration is both, and so it is not both at once; it is a
red bell, which only one comparison asks of the iteration. A search for what is red or blue finds
it. -/
theorem groups_of_repaintedBell :
    (colourRule "red").HoldsOf Offset.zero repaintedBell ∧
    (colourRule "blue").HoldsOf Offset.zero repaintedBell ∧
    ¬(Rule.group .and [colourRule "red", colourRule "blue"]).HoldsOf Offset.zero repaintedBell ∧
    (Rule.group .and [colourRule "red", numberRule "bell"]).HoldsOf Offset.zero repaintedBell ∧
    ∃ keys, searchRule (.unfiltered colouredDataset) {} (.group .or
        [colourRule "red", colourRule "blue"]) "home" = ⟨.ok keys, 1⟩ ∧
      ⟨"home", "bell", "1"⟩ ∈ keys := by
  have hred : (colourRule "red").compile ⟨.revision, Offset.zero⟩ = .ok
      (.compare (.dynamic .revision .text "colour") (.equal (.text "red"))) := rfl
  have hblue : (colourRule "blue").compile ⟨.revision, Offset.zero⟩ = .ok
      (.compare (.dynamic .revision .text "colour") (.equal (.text "blue"))) := rfl
  have hbell : (numberRule "bell").compile ⟨.revision, Offset.zero⟩ = .ok
      (.compare (.master .number) (.equal (.text "bell"))) := rfl
  have hisRed : (colourRule "red").HoldsOf Offset.zero repaintedBell :=
    ⟨_, hred, by decide +kernel⟩
  have hisBlue : (colourRule "blue").HoldsOf Offset.zero repaintedBell :=
    ⟨_, hblue, by decide +kernel⟩
  have hisBell : (numberRule "bell").HoldsOf Offset.zero repaintedBell :=
    ⟨_, hbell, by decide +kernel⟩
  have hcolours : ∀ rule ∈ [colourRule "red", colourRule "blue"],
      ∃ p, rule.compile (Config.context {} .revision) = .ok p :=
    List.forall_mem_cons.2 ⟨⟨_, hred⟩, List.forall_mem_singleton.2 ⟨_, hblue⟩⟩
  have hredBell : ∀ rule ∈ [colourRule "red", numberRule "bell"],
      ∃ p, rule.compile (Config.context {} .revision) = .ok p :=
    List.forall_mem_cons.2 ⟨⟨_, hred⟩, List.forall_mem_singleton.2 ⟨_, hbell⟩⟩
  obtain ⟨-, hof, hsearch⟩ := groups_of_revisions hcolours
  refine ⟨hisRed, hisBlue, ?_, ?_, ?_⟩
  · rw [(hof repaintedBell).2.2.2]
    rintro ⟨i, hi, hall⟩
    obtain ⟨p, hp, hredAt⟩ : (colourRule "red").HoldsAt Offset.zero repaintedBell i :=
      hall (colourRule "red") (by simp)
    obtain ⟨q, hq, hblueAt⟩ : (colourRule "blue").HoldsAt Offset.zero repaintedBell i :=
      hall (colourRule "blue") (by simp)
    cases hred.symm.trans hp
    cases hblue.symm.trans hq
    rcases List.mem_pair.1 hi with rfl | rfl
    · exact absurd hblueAt (by decide +kernel)
    · exact absurd hredAt (by decide +kernel)
  · refine ((groups_of_revisions hredBell).2.1 repaintedBell).2.2.1 (by decide) (by decide) ?_
    exact List.forall_mem_cons.2 ⟨hisRed, List.forall_mem_singleton.2 hisBell⟩
  · obtain ⟨hanswered, -, -⟩ := hsearch (.unfiltered colouredDataset) "home"
    obtain ⟨⟨keys, hkeys, -, hmem⟩, -⟩ := hanswered _ rfl
    refine ⟨keys, hkeys, (hmem _).2 ⟨colourRule "red", by simp, _, rfl, ?_⟩⟩
    decide +kernel

end PartQuery
