import PartQuery.Proofs.Growth

/-!
# The order in which entities are stored

A source may give the same entities in another order or repeat some of them; it may hold iterations
in another order, and attributes in another order or several times. No search notices. Each entity
of the one answer has a counterpart in the other that offers no less, and the other way round, so
whatever matches goes on matching in either direction. The last iteration is the one whose number is
the number of iterations, wherever it stands (`Revision.Alike.isLast_eq`).

The main statement is `storage_order_does_not_matter`.
-/

namespace PartQuery

/-! ## What may differ -/

/-- Two iterations of revisions have the same attributes, in any order and any number of times, and
agree on everything else. -/
def Iteration.Alike (i j : Iteration) : Prop :=
  ∃ attributes, j = { i with attributes := attributes } ∧ ∀ a, a ∈ i.attributes ↔ a ∈ attributes

/-- Two iterations of path data have the same attributes, in any order and any number of times, and
agree on everything else. -/
def PathIteration.Alike (i j : PathIteration) : Prop :=
  ∃ attributes, j = { i with attributes := attributes } ∧ ∀ a, a ∈ i.attributes ↔ a ∈ attributes

/-- Two revisions have alike iterations in any order, and agree on everything else. -/
def Revision.Alike (r s : Revision) : Prop :=
  ∃ permuted iterations, s = { r with iterations := iterations } ∧
    r.iterations.Perm permuted ∧ List.Forall₂ Iteration.Alike permuted iterations

/-- Path data of one place has alike iterations in any order, and agrees on everything else. -/
def PathData.Alike (d e : PathData) : Prop :=
  ∃ permuted iterations, e = { d with iterations := iterations } ∧
    d.iterations.Perm permuted ∧ List.Forall₂ PathIteration.Alike permuted iterations

/-- Two lists have alike members, in any order and any number of times. -/
def SameUpTo {α : Type} (R : α → α → Prop) (l m : List α) : Prop :=
  (∀ a ∈ l, ∃ b ∈ m, R a b) ∧ ∀ b ∈ m, ∃ a ∈ l, R a b

/-! ## Growing to and fro -/

/-- Alike iterations have gained nothing but what they had. -/
lemma Iteration.Alike.gains {i j : Iteration} (h : i.Alike j) : i.Gains j ∧ j.Gains i := by
  obtain ⟨attributes, rfl, hsame⟩ := h
  exact ⟨⟨_, rfl, fun a => (hsame a).1⟩, _, rfl, fun a => (hsame a).2⟩

/-- Alike iterations of path data have gained nothing but what they had. -/
lemma PathIteration.Alike.gains {i j : PathIteration} (h : i.Alike j) : i.Gains j ∧ j.Gains i := by
  obtain ⟨attributes, rfl, hsame⟩ := h
  exact ⟨⟨_, rfl, fun a => (hsame a).1⟩, _, rfl, fun a => (hsame a).2⟩

/-- Each member of a list has a counterpart in another to which it is permuted and then exchanged
member by member, and the other way round. -/
lemma exists_counterparts {α : Type} {R : α → α → Prop} {l permuted m : List α}
    (hperm : l.Perm permuted) (hpairs : List.Forall₂ R permuted m) : SameUpTo R l m := by
  constructor
  · intro a ha
    exact exists_right_of_mem_left hpairs (hperm.mem_iff.1 ha)
  · intro b hb
    obtain ⟨a, ha, hab⟩ := exists_left_of_mem_right hpairs hb
    exact ⟨a, hperm.mem_iff.2 ha, hab⟩

namespace Revision

variable {r s : Revision}

/-- Alike revisions have gained nothing but what they had. -/
lemma Alike.gains (h : r.Alike s) : r.Gains s ∧ s.Gains r := by
  obtain ⟨permuted, iterations, rfl, hperm, hpairs⟩ := h
  obtain ⟨hthere, hback⟩ := exists_counterparts hperm hpairs
  refine ⟨⟨iterations, rfl, fun i hi => ?_⟩, r.iterations, rfl, fun j hj => ?_⟩
  · obtain ⟨j, hj, halike⟩ := hthere i hi
    exact ⟨j, hj, halike.gains.1⟩
  · obtain ⟨i, hi, halike⟩ := hback j hj
    exact ⟨i, hi, halike.gains.2⟩

/-- Alike revisions have as many iterations. -/
lemma Alike.length_eq (h : r.Alike s) : r.iterations.length = s.iterations.length := by
  obtain ⟨permuted, iterations, rfl, hperm, hpairs⟩ := h
  exact hperm.length_eq.trans hpairs.length_eq

/-- Which iteration is the last does not depend on where it stands. -/
lemma Alike.isLast_eq (h : r.Alike s) {i j : Iteration} (hij : i.Alike j) :
    s.isLast j = r.isLast i := by
  obtain ⟨attributes, rfl, -⟩ := hij
  rw [isLast, isLast, h.length_eq]

/-- Alike revisions match alike. -/
lemma Alike.holdsOf_iff (h : r.Alike s) (p : Predicate) :
    p.holdsOf r = true ↔ p.holdsOf s = true := by
  obtain ⟨⟨iterations, rfl, hthere⟩, iterations', hr, hback⟩ := h.gains
  have hlength : r.iterations.length = iterations.length := h.length_eq
  constructor
  · exact Predicate.holdsOf_of_gains hthere
      (Predicate.everywhere_of_forall (fun _ _ _ => hlength) p)
  · intro hholds
    rw [hr]
    refine Predicate.holdsOf_of_gains hback
      (Predicate.everywhere_of_forall (fun _ _ _ => ?_) p) hholds
    rw [hr] at hlength
    exact hlength.symm

end Revision

/-- Alike path data has gained nothing but what it had. -/
lemma PathData.Alike.gains {d e : PathData} (h : d.Alike e) : d.Gains e ∧ e.Gains d := by
  obtain ⟨permuted, iterations, rfl, hperm, hpairs⟩ := h
  obtain ⟨hthere, hback⟩ := exists_counterparts hperm hpairs
  refine ⟨⟨iterations, rfl, fun i hi => ?_⟩, d.iterations, rfl, fun j hj => ?_⟩
  · obtain ⟨j, hj, halike⟩ := hthere i hi
    exact ⟨j, hj, halike.gains.1⟩
  · obtain ⟨i, hi, halike⟩ := hback j hj
    exact ⟨i, hi, halike.gains.2⟩

/-! ## Searches -/

/-- Of alike revisions the same keys are selected. -/
lemma selectRevisions_eq_of_alike {p : Predicate} {workspace : String} {l m : List Revision}
    (h : SameUpTo Revision.Alike l m) :
    selectRevisions p workspace l = selectRevisions p workspace m := by
  refine (ascending_sortDistinct _).eq_of_mem_iff (ascending_sortDistinct _) fun k => ⟨?_, ?_⟩
  · refine fun hk => selectRevisions_subset (fun r hr => ?_) hk
    obtain ⟨s, hs, halike⟩ := h.1 r hr
    exact ⟨s, hs, halike.gains.1, (halike.holdsOf_iff p).1⟩
  · refine fun hk => selectRevisions_subset (fun s hs => ?_) hk
    obtain ⟨r, hr, halike⟩ := h.2 s hs
    exact ⟨r, hr, halike.gains.2, (halike.holdsOf_iff p).2⟩

/-- Of alike path data the same paths are selected. -/
lemma selectPaths_eq_of_alike {p : Predicate} {ids : List Int} {l m : List PathData}
    (h : SameUpTo PathData.Alike l m) : selectPaths p ids l = selectPaths p ids m := by
  refine (ascending_sortDistinct _).eq_of_mem_iff (ascending_sortDistinct _) fun k => ⟨?_, ?_⟩
  · refine fun hk => selectPaths_subset (fun d hd => ?_) hk
    obtain ⟨e, he, halike⟩ := h.1 d hd
    exact ⟨e, he, halike.gains.1⟩
  · refine fun hk => selectPaths_subset (fun e he => ?_) hk
    obtain ⟨d, hd, halike⟩ := h.2 e he
    exact ⟨d, hd, halike.gains.2⟩

/-- Whatever the query and the workspace, a search comes to the same with every source that answers
with alike revisions, in any order and any number of times: their iterations may stand in any order,
and the attributes of these in any order and any number of times. The same is true of path data. And
which iteration of a revision is the last one does not depend on where it stands. -/
theorem storage_order_does_not_matter (config : Config) (q : Query) :
    (∀ (source source' : Source) (workspace : String) (l m : List Revision),
      source.revisions workspace = .ok l → source'.revisions workspace = .ok m →
        SameUpTo Revision.Alike l m →
          searchRevisions source config q workspace = searchRevisions source' config q workspace) ∧
    (∀ (source source' : Source) (ids : List Int) (l m : List PathData),
      source.pathData ids = .ok l → source'.pathData ids = .ok m →
        SameUpTo PathData.Alike l m →
          searchPaths source config q ids = searchPaths source' config q ids) ∧
    ∀ r s : Revision, r.Alike s → ∀ i j : Iteration, i.Alike j → s.isLast j = r.isLast i := by
  refine ⟨?_, ?_, fun r s h i j => h.isLast_eq⟩
  · intro source source' workspace l m hl hm h
    cases hp : q.revisionPredicate config with
    | error e => simp only [searchRevisions, hp]
    | ok p => rw [searchRevisions_eq hp hl, searchRevisions_eq hp hm, selectRevisions_eq_of_alike h]
  · intro source source' ids l m hl hm h
    by_cases hids : ids = []
    · subst hids
      rfl
    cases hp : q.pathPredicate config with
    | error e => simp only [searchPaths, hp]
    | ok p => rw [searchPaths_eq hp hids hl, searchPaths_eq hp hids hm, selectPaths_eq_of_alike h]

/-- A bell that was checked in red and blue and has been drafted again. -/
def storedBell : Revision :=
  firstVersion "home" "bell"
    [⟨1, some noon, none, [⟨"colour", .text "red"⟩, ⟨"colour", .text "blue"⟩]⟩, ⟨2, none, none, []⟩]

/-- The same bell with its draft first, and blue twice. -/
def shuffledBell : Revision :=
  firstVersion "home" "bell"
    [⟨2, none, none, []⟩, ⟨1, some noon, none,
      [⟨"colour", .text "blue"⟩, ⟨"colour", .text "red"⟩, ⟨"colour", .text "blue"⟩]⟩]

/-- A red wheel. -/
def redWheel : Revision :=
  firstVersion "home" "wheel" [colouredIteration "red" true]

/-- A source that repeats the wheel and answers with the other bell makes no difference: both are
found. -/
theorem shuffledBell_found :
    searchRevisions (.unfiltered { revisions := [storedBell, redWheel] }) {} redQuery "home" =
      searchRevisions (.unfiltered { revisions := [redWheel, shuffledBell, redWheel] }) {} redQuery
        "home" ∧
    (searchRevisions (.unfiltered { revisions := [storedBell, redWheel] }) {} redQuery
        "home").result =
      .ok [⟨"home", "bell", "1"⟩, ⟨"home", "wheel", "1"⟩] := by
  have hbell : storedBell.Alike shuffledBell := by
    refine ⟨_, _, rfl, .swap _ _ [], .cons ⟨_, rfl, ?_⟩ (.cons ⟨_, rfl, ?_⟩ .nil)⟩
    · intro a
      exact Iff.rfl
    · intro a
      simp only [List.mem_cons, List.not_mem_nil, or_false]
      tauto
  have hwheel : redWheel.Alike redWheel := by
    refine ⟨_, _, rfl, .refl _, .cons ⟨_, rfl, fun a => Iff.rfl⟩ .nil⟩
  obtain ⟨hrevisions, -⟩ := storage_order_does_not_matter {} redQuery
  refine ⟨hrevisions _ _ "home" _ _ rfl rfl ⟨?_, ?_⟩, by decide +kernel⟩
  · simp [hbell, hwheel]
  · simp [hbell, hwheel]

end PartQuery
