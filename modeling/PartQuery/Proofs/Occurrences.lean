import PartQuery.Proofs.Acceptance
import PartQuery.Proofs.Leaves
import PartQuery.Proofs.Search

/-!
# Occurrences in any case

A search for a text puts the needle and the text into lower case, each as a whole, before it looks
for the one in the other. What a character becomes does not depend on the characters around it, with
one exception: a capital sigma becomes the final sigma where it ends a word. So a needle that occurs
in a text is found again in lower case if each of its sigmas ends a word in the needle exactly when
it ends one in the text (`SigmasAgree`), in particular if it has no capital sigma at all.

At the beginning and at the end of a text this is also necessary (`occurrence_found`), and so a
needle may be missed that stands in the text as it is (`finalSigma_missed`).
-/

namespace PartQuery

/-- Where a search looks for the part `n` of a text `a ++ n ++ b`. -/
def LikeMode.Places (mode : LikeMode) (a b : List Char) : Prop :=
  match mode with
  | contains => True
  | beginsWith => a = []
  | endsWith => b = []

namespace Text

/-! ## Lower case between other texts -/

/-- A sigma between the text before it (nearest first) and the text after it ends a word. -/
def endsWord (before after : List Char) : Bool :=
  meetsLetter before && !meetsLetter after

/-- What a text becomes in lower case, given what stands before it (nearest first) and after it. -/
def lowerBetween (before : List Char) : List Char → List Char → List Char
  | [], _ => []
  | c :: s, after => lowerChar before c (s ++ after) ++ lowerBetween (c :: before) s after

/-- A part of a text is put into lower case between what stands before it and after it. -/
lemma lowerAfter_append (before s t : List Char) :
    lowerAfter before (s ++ t) =
      lowerBetween before s t ++ lowerAfter (s.reverse ++ before) t := by
  induction s generalizing before with
  | nil => rfl
  | cons c s ih =>
    rw [List.cons_append, lowerAfter, lowerBetween, ih, List.reverse_cons, List.append_assoc,
      List.append_assoc]
    rfl

/-- A text by itself stands between nothing. -/
lemma lowerChars_eq_lowerBetween (s : List Char) : lowerChars s = lowerBetween [] s [] := by
  have h := lowerAfter_append [] s []
  rwa [List.append_nil, lowerAfter, List.append_nil] at h

/-- A character becomes as many characters wherever it stands. -/
lemma length_lowerChar (before before' after after' : List Char) (c : Char) :
    (lowerChar before c after).length = (lowerChar before' c after').length := by
  unfold lowerChar
  split
  · split <;> split <;> rfl
  · rfl

/-- A text becomes as many characters wherever it stands. -/
lemma length_lowerBetween (before before' after after' s : List Char) :
    (lowerBetween before s after).length = (lowerBetween before' s after').length := by
  induction s generalizing before before' with
  | nil => rfl
  | cons c s ih =>
    rw [lowerBetween, lowerBetween, List.length_append, List.length_append, ih (c :: before),
      length_lowerChar]

/-- A character becomes the same in two places unless it is a sigma that ends a word in one of
them. -/
lemma lowerChar_eq_iff {before before' after after' : List Char} {c : Char} :
    lowerChar before c after = lowerChar before' c after' ↔
      (c = 'Σ' → endsWord before after = endsWord before' after') := by
  by_cases hsigma : c = 'Σ'
  · subst hsigma
    simp only [lowerChar, if_true, forall_const]
    change (if endsWord before after = true then ['ς'] else ['σ']) =
      (if endsWord before' after' = true then ['ς'] else ['σ']) ↔ _
    cases endsWord before after <;> cases endsWord before' after' <;> decide
  · simp only [lowerChar, if_neg hsigma, true_iff]
    exact fun h => absurd h hsigma

/-- A text becomes the same in two places exactly when its sigmas end words alike. -/
lemma lowerBetween_eq_iff {before before' s after after' : List Char} :
    lowerBetween before s after = lowerBetween before' s after' ↔
      ∀ u v, s = u ++ 'Σ' :: v →
        endsWord (u.reverse ++ before) (v ++ after) =
          endsWord (u.reverse ++ before') (v ++ after') := by
  induction s generalizing before before' with
  | nil =>
    refine iff_of_true rfl ?_
    intro u v h
    simp at h
  | cons c s ih =>
    have hparts : lowerBetween before (c :: s) after = lowerBetween before' (c :: s) after' ↔
        lowerChar before c (s ++ after) = lowerChar before' c (s ++ after') ∧
          lowerBetween (c :: before) s after = lowerBetween (c :: before') s after' := by
      rw [lowerBetween, lowerBetween]
      constructor
      · intro h
        exact List.append_inj h (length_lowerChar ..)
      · rintro ⟨hchar, hrest⟩
        rw [hchar, hrest]
    rw [hparts, lowerChar_eq_iff, ih]
    constructor
    · rintro ⟨hchar, hrest⟩ u v h
      rcases List.cons_eq_append_iff.1 h with ⟨rfl, hv⟩ | ⟨u, rfl, hs⟩
      · obtain ⟨rfl, rfl⟩ := List.cons.inj hv
        exact hchar rfl
      · simpa using hrest u v hs
    · intro hall
      constructor
      · rintro rfl
        exact hall [] s rfl
      · rintro u v rfl
        simpa using hall (c :: u) v rfl

/-! ## Occurrences -/

/-- Each sigma of `n` ends a word in `n` by itself exactly when it does so between `a` and `b`. -/
def SigmasAgree (a n b : List Char) : Prop :=
  ∀ u v, n = u ++ 'Σ' :: v →
    endsWord u.reverse v = endsWord (u.reverse ++ a.reverse) (v ++ b)

variable {a n b : List Char}

/-- A needle without a capital sigma agrees with every text. -/
theorem sigmasAgree_of_notMem (h : 'Σ' ∉ n) : SigmasAgree a n b := by
  rintro u v rfl
  simp at h

/-- The sigmas agree exactly when the needle becomes the same by itself and in the text. -/
lemma sigmasAgree_iff : SigmasAgree a n b ↔ lowerChars n = lowerBetween a.reverse n b := by
  rw [lowerChars_eq_lowerBetween, lowerBetween_eq_iff]
  simp only [List.append_nil, SigmasAgree]

/-- A text around a needle is put into lower case part by part. -/
lemma lowerChars_around (a n b : List Char) :
    lowerChars (a ++ n ++ b) = lowerBetween [] a (n ++ b) ++ lowerBetween a.reverse n b ++
      lowerAfter (n.reverse ++ a.reverse) b := by
  rw [lowerChars, List.append_assoc, lowerAfter_append, List.append_nil, lowerAfter_append,
    List.append_assoc]

/-- Agreeing sigmas are enough for the needle to be found where it stands, and at the beginning and
at the end of a text they are needed. -/
theorem finds_lowerChars {mode : LikeMode} (hplace : mode.Places a b) :
    (SigmasAgree a n b → mode.Finds (lowerChars n) (lowerChars (a ++ n ++ b))) ∧
      (mode ≠ .contains → mode.Finds (lowerChars n) (lowerChars (a ++ n ++ b)) →
        SigmasAgree a n b) := by
  rw [sigmasAgree_iff, lowerChars_around]
  have hlength : (lowerChars n).length = (lowerBetween a.reverse n b).length := by
    rw [lowerChars_eq_lowerBetween]
    exact length_lowerBetween ..
  cases mode with
  | contains =>
    refine ⟨?_, fun h => absurd rfl h⟩
    intro hsame
    rw [hsame]
    exact ⟨_, _, rfl⟩
  | beginsWith =>
    obtain rfl : a = [] := hplace
    refine ⟨?_, fun _ => ?_⟩
    · intro hsame
      rw [hsame]
      exact ⟨_, rfl⟩
    · rintro ⟨t, ht⟩
      exact List.append_inj_left ht hlength
  | endsWith =>
    obtain rfl : b = [] := hplace
    refine ⟨?_, fun _ => ?_⟩
    · intro hsame
      rw [hsame, lowerAfter, List.append_nil]
      exact ⟨_, rfl⟩
    · rintro ⟨t, ht⟩
      rw [lowerAfter, List.append_nil] at ht
      exact List.append_inj_right' ht hlength

end Text

/-! ## Searches -/

/-- A search for a text compiles to the search for the needle in lower case. -/
lemma compile_search {ctx : CompileContext} {name : String} {field : Field}
    (hnames : Field.ofName? name = some field ∧ field.family = ctx.family)
    (htext : field.valueKind = .text) {operator : Operator} {mode : LikeMode} {negated : Bool}
    (hmode : ValueTest.likeMode? operator = some (mode, negated)) (needle : String)
    (rest : List String) :
    (Rule.leaf ⟨name, operator, needle :: rest, .string⟩).compile ctx =
      .ok (.compare field (.like mode (Text.lower needle) negated)) := by
  have hread : (needle :: rest).mapM (fun v => OperandType.string.read? ctx.timezone v) =
      some ((needle :: rest).map .text) := List.mapM_pure
  have hfound : (Comparison.mk name operator (needle :: rest) .string).Names ctx.family field :=
    hnames
  rw [Rule.compile, Comparison.compile_of_names hfound,
    Comparison.test_of_isMeasure (htext ▸ Or.inl rfl), htext, Comparison.orderedTest,
    Comparison.operands, hread]
  simp only [bind, Except.bind]
  cases operator <;> cases hmode <;> rfl

/-- What a search for a text asks of a row. -/
lemma holds_search_iff {row : Row} {field : Field} {mode : LikeMode} {needle : String}
    {negated : Bool} :
    (Predicate.compare field (.like mode (Text.lower needle) negated)).holds row = true ↔
      ∃ s, row.Offers field (.text s) ∧
        (mode.Finds (Text.lowerChars needle.toList) (Text.lowerChars s.toList) ↔
          negated = false) := by
  have hvalues : (ValueTest.like mode (Text.lower needle) negated).IsOfValues := trivial
  rw [Predicate.holds_compare, Row.compares_iff_offers hvalues]
  constructor
  · rintro ⟨v, hv, hpasses⟩
    obtain ⟨n, s, hn, rfl, hfinds⟩ := passes_like_iff.1 hpasses
    cases hn
    refine ⟨s, hv, ?_⟩
    cases negated <;> simpa using hfinds
  · rintro ⟨s, hv, hfinds⟩
    refine ⟨_, hv, passes_like_iff.2 ⟨needle, s, rfl, rfl, ?_⟩⟩
    cases negated <;> simpa using hfinds

/-- A part of a text is searched for in any text field, where the search looks for it: anywhere, at
the beginning or at the end. If the sigmas of the part agree, the plain search holds of every row
that offers the text, and the negated one of no row that offers nothing else. At the beginning and
at the end the searches answer so only if they agree. -/
theorem occurrence_found (ctx : CompileContext) {name : String} {field : Field}
    (hnames : Field.ofName? name = some field ∧ field.family = ctx.family)
    (htext : field.valueKind = .text) {operator : Operator} {mode : LikeMode} {negated : Bool}
    (hmode : ValueTest.likeMode? operator = some (mode, negated)) {a n b : List Char}
    (hplace : mode.Places a b) (rest : List String) :
    ∃ p, (Rule.leaf ⟨name, operator, String.ofList n :: rest, .string⟩).compile ctx = .ok p ∧
      (Text.SigmasAgree a n b → negated = false → ∀ row : Row,
        row.Offers field (.text (String.ofList (a ++ n ++ b))) → p.holds row = true) ∧
      ∀ row : Row, row.OffersOnly field (.text (String.ofList (a ++ n ++ b))) →
        (Text.SigmasAgree a n b → p.holds row = !negated) ∧
        (mode ≠ .contains → p.holds row = (!negated) → Text.SigmasAgree a n b) := by
  obtain ⟨hsuffices, hneeded⟩ := Text.finds_lowerChars (n := n) hplace
  refine ⟨_, compile_search hnames htext hmode _ rest, ?_, ?_⟩
  · rintro hagree rfl row hrow
    refine holds_search_iff.2 ⟨_, hrow, ?_⟩
    simp only [String.toList_ofList]
    exact iff_of_true (hsuffices hagree) trivial
  · intro row hrow
    have hfinds :
        (Predicate.compare field (.like mode (Text.lower (String.ofList n)) negated)).holds row =
          (!negated) ↔ mode.Finds (Text.lowerChars n) (Text.lowerChars (a ++ n ++ b)) := by
      rw [Bool.eq_iff_iff, holds_search_iff]
      simp only [hrow _, Scalar.text.injEq, exists_eq_left, String.toList_ofList]
      cases negated <;> simp
    rw [hfinds]
    exact ⟨hsuffices, hneeded⟩

/-- A needle without a capital sigma is found in any case. -/
theorem redPart_found :
    (Field.ofName? "pm.number" = some (.master .number) ∧
        Field.family (.master .number) = .revision) ∧
      Field.valueKind (.master .number) = .text ∧
      ValueTest.likeMode? .notContains = some (.contains, true) ∧
      LikeMode.contains.Places "A-".toList "-7".toList ∧
      ∃ p, (Rule.leaf ⟨"pm.number", .notContains, ["ReD"], .string⟩).compile
          ⟨.revision, Offset.zero⟩ = .ok p ∧
        p.holds ((default : Iteration).row (firstVersion "home" "A-ReD-7" [])) = false := by
  have hname : Field.ofName? "pm.number" = some (.master .number) := rfl
  refine ⟨⟨hname, rfl⟩, rfl, rfl, trivial, ?_⟩
  obtain ⟨p, hp, -, honly⟩ := occurrence_found ⟨.revision, Offset.zero⟩ ⟨hname, rfl⟩ rfl
    (rfl : ValueTest.likeMode? .notContains = some (.contains, true)) (a := "A-".toList)
    (n := "ReD".toList) (b := "-7".toList) trivial []
  refine ⟨p, hp, (honly _ ?_).1 (Text.sigmasAgree_of_notMem (by decide))⟩
  have hoffers : ((default : Iteration).row (firstVersion "home" "A-ReD-7" [])).Offers
      (.master .number) (.text "A-ReD-7") := ⟨nofun, rfl⟩
  have hcore : (Field.master .number).IsCore := by
    intro owner kind name h
    cases h
  exact hoffers.offersOnly hcore

/-- The first version of a part with a name. -/
def namedVersion (name : String) : Revision :=
  { firstVersion "home" "bell" [] with master := ⟨"home", "bell", name, "", none⟩ }

/-- The needle stands at the beginning of the part's name, but it is not found there or anywhere
else, and the negated search holds instead: its sigma ends a word, and that of the name does not. -/
theorem finalSigma_missed :
    "ΑΣΑ".toList = [] ++ "ΑΣ".toList ++ ['Α'] ∧
    ∃ p q, (Rule.leaf ⟨"pm.name", .contains, ["ΑΣ"], .string⟩).compile
        ⟨.revision, Offset.zero⟩ = .ok p ∧
      (Rule.leaf ⟨"pm.name", .notContains, ["ΑΣ"], .string⟩).compile
        ⟨.revision, Offset.zero⟩ = .ok q ∧
      p.holds ((default : Iteration).row (namedVersion "ΑΣΑ")) = false ∧
      q.holds ((default : Iteration).row (namedVersion "ΑΣΑ")) = true := by
  have hname : Field.ofName? "pm.name" = some (.master .name) := rfl
  refine ⟨rfl, _, _, compile_search ⟨hname, rfl⟩ rfl rfl "ΑΣ" [],
    compile_search ⟨hname, rfl⟩ rfl rfl "ΑΣ" [], ?_, ?_⟩
  · decide +kernel
  · decide +kernel

end PartQuery
