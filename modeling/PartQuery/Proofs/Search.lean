import PartQuery.Proofs.Sorting
import PartQuery.Search

/-!
# What searches answer

A search filters what its source answers and puts the rest in order. The source is not trusted: it
may answer in any order, repeat itself and answer with more than it was asked for. So both searches
are described by the elements of their answers: a key or a path is in the answer exactly when one of
the entities that the source gave is in question, is not empty and matches. Everything else, such as
that a source which ignores the question makes no difference, follows from that description.
-/

namespace PartQuery

/-! ## Selecting -/

/-- A predicate holds of a revision exactly when it holds of one of its iterations. -/
lemma Predicate.holdsOf_iff {p : Predicate} {r : Revision} :
    p.holdsOf r = true ↔ ∃ i ∈ r.iterations, p.holds (i.row r) = true := by
  unfold Predicate.holdsOf
  exact List.any_eq_true

/-- A predicate holds of path data exactly when it holds of one of its iterations. -/
lemma Predicate.holdsOfPath_iff {p : Predicate} {d : PathData} :
    p.holdsOfPath d = true ↔ ∃ i ∈ d.iterations, p.holds (i.row d) = true := by
  unfold Predicate.holdsOfPath
  exact List.any_eq_true

/-- A revision has a last iteration that is checked in exactly when one is checked in at all. -/
lemma Revision.isSome_lastCheckedIn?_iff {r : Revision} :
    r.lastCheckedIn?.isSome = true ↔ ∃ i ∈ r.iterations, i.checkInDate.isSome = true := by
  unfold Revision.lastCheckedIn?
  rw [List.find?_isSome]
  simp only [List.mem_reverse]

/-- A key is selected exactly when a revision of the workspace has it, one of whose iterations
matches and one of whose iterations is checked in. -/
lemma mem_selectRevisions {p : Predicate} {workspace : String} {revisions : List Revision}
    {k : RevisionKey} :
    k ∈ selectRevisions p workspace revisions ↔
      ∃ r ∈ revisions, r.key = k ∧ r.master.workspace = workspace ∧
        (∃ i ∈ r.iterations, p.holds (i.row r) = true) ∧
        ∃ i ∈ r.iterations, i.checkInDate.isSome = true := by
  unfold selectRevisions
  rw [mem_sortDistinct]
  simp only [List.mem_map, List.mem_filter, Bool.and_eq_true, beq_iff_eq, Predicate.holdsOf_iff,
    Revision.isSome_lastCheckedIn?_iff]
  constructor
  · rintro ⟨r, ⟨hr, ⟨hworkspace, hmatch⟩, hchecked⟩, hkey⟩
    exact ⟨r, hr, hkey, hworkspace, hmatch, hchecked⟩
  · rintro ⟨r, hr, hkey, hworkspace, hmatch, hchecked⟩
    exact ⟨r, ⟨hr, ⟨hworkspace, hmatch⟩, hchecked⟩, hkey⟩

/-- A path is selected exactly when path data in question has it, one of whose iterations
matches. -/
lemma mem_selectPaths {p : Predicate} {ids : List Int} {pathData : List PathData} {path : String} :
    path ∈ selectPaths p ids pathData ↔
      ∃ d ∈ pathData, d.path = path ∧ d.id ∈ ids ∧
        ∃ i ∈ d.iterations, p.holds (i.row d) = true := by
  unfold selectPaths
  rw [mem_sortDistinct]
  simp only [List.mem_map, List.mem_filter, Bool.and_eq_true, List.contains_iff_mem,
    Predicate.holdsOfPath_iff]
  constructor
  · rintro ⟨d, ⟨hd, hid, hmatch⟩, hpath⟩
    exact ⟨d, hd, hpath, hid, hmatch⟩
  · rintro ⟨d, hd, hpath, hid, hmatch⟩
    exact ⟨d, ⟨hd, hid, hmatch⟩, hpath⟩

/-- The keys selected depend only on which revisions of the workspace there are. -/
lemma selectRevisions_congr {p : Predicate} {workspace : String} {l m : List Revision}
    (h : ∀ r, r.master.workspace = workspace → (r ∈ l ↔ r ∈ m)) :
    selectRevisions p workspace l = selectRevisions p workspace m := by
  refine (ascending_sortDistinct _).eq_of_mem_iff (ascending_sortDistinct _) ?_
  intro k
  change k ∈ selectRevisions p workspace l ↔ k ∈ selectRevisions p workspace m
  rw [mem_selectRevisions, mem_selectRevisions]
  constructor
  · rintro ⟨r, hr, hkey, hworkspace, hrest⟩
    exact ⟨r, (h r hworkspace).1 hr, hkey, hworkspace, hrest⟩
  · rintro ⟨r, hr, hkey, hworkspace, hrest⟩
    exact ⟨r, (h r hworkspace).2 hr, hkey, hworkspace, hrest⟩

/-- The paths selected depend only on the set of identities in question and on which path data with
such an identity there is. -/
lemma selectPaths_congr {p : Predicate} {ids ids' : List Int} {l m : List PathData}
    (hids : ∀ id, id ∈ ids' ↔ id ∈ ids) (h : ∀ d, d.id ∈ ids → (d ∈ m ↔ d ∈ l)) :
    selectPaths p ids' m = selectPaths p ids l := by
  refine (ascending_sortDistinct _).eq_of_mem_iff (ascending_sortDistinct _) ?_
  intro path
  change path ∈ selectPaths p ids' m ↔ path ∈ selectPaths p ids l
  rw [mem_selectPaths, mem_selectPaths]
  constructor
  · rintro ⟨d, hd, hpath, hid, hmatch⟩
    have hid' : d.id ∈ ids := (hids d.id).1 hid
    exact ⟨d, (h d hid').1 hd, hpath, hid', hmatch⟩
  · rintro ⟨d, hd, hpath, hid, hmatch⟩
    exact ⟨d, (h d hid).2 hd, hpath, (hids d.id).2 hid, hmatch⟩

/-! ## Revisions -/

/-- A search whose rule compiles and whose source answers gives the selected keys. -/
lemma searchRevisions_eq {q : Query} {config : Config} {p : Predicate} {source : Source}
    {workspace : String} {revisions : List Revision} (hp : q.revisionPredicate config = .ok p)
    (hanswer : source.revisions workspace = .ok revisions) :
    searchRevisions source config q workspace =
      ⟨.ok (selectRevisions p workspace revisions), 1⟩ := by
  unfold searchRevisions
  rw [hp]
  simp only [hanswer, Outcome.asking]

/-- A source that holds a dataset leaves out only revisions of other workspaces, and these are not
selected. -/
lemma searchRevisions_ofDataset_eq {q : Query} {config : Config} {p : Predicate} {d : Dataset}
    {workspace : String} (hp : q.revisionPredicate config = .ok p) :
    searchRevisions (.ofDataset d) config q workspace =
      ⟨.ok (selectRevisions p workspace d.revisions), 1⟩ := by
  have hanswer : (Source.ofDataset d).revisions workspace =
      .ok (d.revisions.filter (·.master.workspace == workspace)) := rfl
  have hsame : selectRevisions p workspace
      (d.revisions.filter (·.master.workspace == workspace)) =
        selectRevisions p workspace d.revisions := by
    refine selectRevisions_congr fun r hworkspace => ?_
    simp [hworkspace]
  rw [searchRevisions_eq hp hanswer, hsame]

/-- A search whose rule compiles answers, for whatever revisions the source gives, a strictly
increasing list of keys. A key is in it exactly when a single one of these revisions has the key,
belongs to the workspace, has an iteration that matches and has an iteration, maybe another one,
that is checked in. So a key that only drafts have is never in it, and a source that holds a dataset
gives the same outcome as one that answers with the whole of it. -/
theorem searchRevisions_spec {q : Query} {config : Config} {p : Predicate}
    (hp : q.revisionPredicate config = .ok p) {source : Source} {workspace : String}
    {revisions : List Revision} (hanswer : source.revisions workspace = .ok revisions) :
    ∃ keys, (searchRevisions source config q workspace).result = .ok keys ∧
      keys.Pairwise RevisionKey.Precedes ∧
      (∀ k, k ∈ keys ↔ ∃ r ∈ revisions, r.key = k ∧ r.master.workspace = workspace ∧
        (∃ i ∈ r.iterations, p.holds (i.row r) = true) ∧
        ∃ i ∈ r.iterations, i.checkInDate.isSome = true) ∧
      (∀ k, (∀ r ∈ revisions, r.key = k → ∀ i ∈ r.iterations, i.checkInDate = none) →
        k ∉ keys) ∧
      ∀ d : Dataset, d.revisions = revisions →
        searchRevisions (.ofDataset d) config q workspace =
          searchRevisions source config q workspace := by
  refine ⟨selectRevisions p workspace revisions, ?_, ?_, fun k => mem_selectRevisions, ?_, ?_⟩
  · rw [searchRevisions_eq hp hanswer]
  · exact (ascending_sortDistinct _).imp RevisionKey.compare_eq_lt_iff_precedes.1
  · intro k hdrafts hk
    obtain ⟨r, hr, hkey, -, -, i, hi, hchecked⟩ := mem_selectRevisions.1 hk
    rw [hdrafts r hr hkey i hi] at hchecked
    cases hchecked
  · rintro d rfl
    rw [searchRevisions_ofDataset_eq hp, searchRevisions_eq hp hanswer]

/-- A query for what is red. -/
def redQuery : Query where
  rule := some (.group "AND" [.comparison "attr-TEXT.colour" "equal" ["red"] "string", .blank])
  pathRule := some (.comparison "pd-attr-TEXT.colour" "equal" ["red"] "string")

/-- An iteration of some colour, checked in or not. -/
def colouredIteration (colour : String) (isChecked : Bool) : Iteration :=
  ⟨1, if isChecked then some default else none, none, [⟨"colour", .text colour⟩]⟩

/-- The first version of a part. -/
def firstVersion (workspace number : String) (iterations : List Iteration) : Revision :=
  { (default : Revision) with
    master := ⟨workspace, number, "", "", none⟩
    version := "1"
    iterations := iterations }

/-- Revisions of two workspaces. Two of them share a key: one is red, the other is checked in. -/
def colouredDataset : Dataset where
  revisions := [firstVersion "home" "wheel" [colouredIteration "red" false],
    firstVersion "home" "wheel" [colouredIteration "blue" true],
    firstVersion "away" "bell" [colouredIteration "red" true],
    firstVersion "home" "bell" [colouredIteration "red" false, colouredIteration "blue" true]]

/-- Of these, only the bell is answered: its iterations supply the two conditions. -/
theorem searchRevisions_coloured :
    ∃ keys, (searchRevisions (.unfiltered colouredDataset) {} redQuery "home").result = .ok keys ∧
      ⟨"home", "bell", "1"⟩ ∈ keys ∧ ⟨"home", "wheel", "1"⟩ ∉ keys ∧
      ⟨"away", "bell", "1"⟩ ∉ keys := by
  have hp : redQuery.revisionPredicate {} = .ok (.all
      [.compare (.dynamic .revision .text "colour") (.equal (.text "red")), .always]) := by
    rfl
  have hanswer : (Source.unfiltered colouredDataset).revisions "home" =
      .ok colouredDataset.revisions := rfl
  obtain ⟨keys, hresult, -, hkeys, -⟩ := searchRevisions_spec hp hanswer
  refine ⟨keys, hresult, ?_, ?_, ?_⟩
  · rw [hkeys]
    decide +kernel
  · rw [hkeys]
    decide +kernel
  · rw [hkeys]
    decide +kernel

/-! ## Path data -/

/-- A search among attached path data whose rule compiles and whose source answers gives the
selected paths. -/
lemma searchPaths_eq {q : Query} {config : Config} {p : Predicate} {source : Source}
    {ids : List Int} {pathData : List PathData} (hp : q.pathPredicate config = .ok p)
    (hids : ids ≠ []) (hanswer : source.pathData ids = .ok pathData) :
    searchPaths source config q ids = ⟨.ok (selectPaths p ids pathData), 1⟩ := by
  unfold searchPaths
  rw [if_neg (by simpa using hids), hp]
  simp only [hanswer, Outcome.asking]

/-- A source that holds a dataset leaves out only path data with other ids, and these are not
selected. -/
lemma searchPaths_ofDataset_eq {q : Query} {config : Config} {p : Predicate} {d : Dataset}
    {ids : List Int} (hp : q.pathPredicate config = .ok p) (hids : ids ≠ []) :
    searchPaths (.ofDataset d) config q ids = ⟨.ok (selectPaths p ids d.pathData), 1⟩ := by
  have hanswer : (Source.ofDataset d).pathData ids =
      .ok (d.pathData.filter fun p => ids.contains p.id) := rfl
  have hsame : selectPaths p ids (d.pathData.filter fun p => ids.contains p.id) =
      selectPaths p ids d.pathData := by
    refine selectPaths_congr (fun _ => Iff.rfl) fun d' hid => ?_
    simp [hid]
  rw [searchPaths_eq hp hids hanswer, hsame]

/-- A search among attached path data whose rule compiles answers, for whatever path data the source
gives, a strictly increasing list of paths. A path is in it exactly when some path data that the
source gave has the path and an identity in question and has an iteration that matches. So a path
that only unattached or empty path data has is never in it, each path is in it once, the list
depends on the set of identities only, and a source that holds a dataset gives the same outcome as
one that answers with the whole of it. -/
theorem searchPaths_spec {q : Query} {config : Config} {p : Predicate}
    (hp : q.pathPredicate config = .ok p) {source : Source} {ids : List Int} (hids : ids ≠ [])
    {pathData : List PathData} (hanswer : source.pathData ids = .ok pathData) :
    ∃ paths, (searchPaths source config q ids).result = .ok paths ∧
      paths.Pairwise (fun s t => codePoints s < codePoints t) ∧
      (∀ path, path ∈ paths ↔ ∃ d ∈ pathData, d.path = path ∧ d.id ∈ ids ∧
        ∃ i ∈ d.iterations, p.holds (i.row d) = true) ∧
      (∀ path, (∀ d ∈ pathData, d.path = path → d.id ∉ ids ∨ d.iterations = []) →
        path ∉ paths) ∧
      paths.Nodup ∧
      (∀ (source' : Source) (ids' : List Int) (pathData' : List PathData),
        (∀ id, id ∈ ids' ↔ id ∈ ids) → source'.pathData ids' = .ok pathData' →
        (∀ d, d.id ∈ ids → (d ∈ pathData' ↔ d ∈ pathData)) →
        (searchPaths source' config q ids').result = .ok paths) ∧
      ∀ d : Dataset, d.pathData = pathData → ∀ ids' : List Int, (∀ id, id ∈ ids' ↔ id ∈ ids) →
        searchPaths (.ofDataset d) config q ids' = searchPaths source config q ids := by
  have hnonempty : ∀ ids' : List Int, (∀ id, id ∈ ids' ↔ id ∈ ids) → ids' ≠ [] := by
    rintro ids' hsame rfl
    obtain ⟨id, hid⟩ := List.exists_mem_of_ne_nil ids hids
    exact List.not_mem_nil ((hsame id).2 hid)
  refine ⟨selectPaths p ids pathData, ?_, ?_, fun path => mem_selectPaths, ?_,
    (ascending_sortDistinct _).nodup, ?_, ?_⟩
  · rw [searchPaths_eq hp hids hanswer]
  · exact (ascending_sortDistinct _).imp compare_eq_lt_iff_codePoints.1
  · intro path hnone hpath
    obtain ⟨d, hd, hdpath, hid, i, hi, -⟩ := mem_selectPaths.1 hpath
    rcases hnone d hd hdpath with hunattached | hempty
    · exact hunattached hid
    · rw [hempty] at hi
      cases hi
  · intro source' ids' pathData' hsame hanswer' hmem
    rw [searchPaths_eq hp (hnonempty ids' hsame) hanswer', selectPaths_congr hsame hmem]
  · rintro d rfl ids' hsame
    rw [searchPaths_ofDataset_eq hp (hnonempty ids' hsame), searchPaths_eq hp hids hanswer,
      selectPaths_congr hsame fun _ _ => Iff.rfl]

/-- Path data of some colours, one of them without iterations. -/
def colouredPaths : Dataset where
  pathData := [⟨7, "frame", [⟨1, "", [⟨"colour", .text "red"⟩]⟩]⟩,
    ⟨8, "frame", [⟨1, "", [⟨"colour", .text "red"⟩]⟩]⟩, ⟨9, "seat", []⟩,
    ⟨10, "axle", [⟨1, "", [⟨"colour", .text "red"⟩]⟩]⟩]

/-- Of these, the frame is answered; the seat is empty and the axle is not attached. -/
theorem searchPaths_coloured :
    ∃ paths, (searchPaths (.unfiltered colouredPaths) {} redQuery [9, 8, 7, 8]).result =
        .ok paths ∧
      "frame" ∈ paths ∧ "seat" ∉ paths ∧ "axle" ∉ paths ∧ paths.Nodup := by
  have hp : redQuery.pathPredicate {} = .ok
      (.compare (.dynamic .pathData .text "colour") (.equal (.text "red"))) := by
    rfl
  have hids : ([9, 8, 7, 8] : List Int) ≠ [] := by decide
  have hanswer : (Source.unfiltered colouredPaths).pathData [9, 8, 7, 8] =
      .ok colouredPaths.pathData := rfl
  obtain ⟨paths, hresult, -, hpaths, -, hnodup, -⟩ := searchPaths_spec hp hids hanswer
  refine ⟨paths, hresult, ?_, ?_, ?_, hnodup⟩
  · rw [hpaths]
    decide +kernel
  · rw [hpaths]
    decide +kernel
  · rw [hpaths]
    decide +kernel

end PartQuery
