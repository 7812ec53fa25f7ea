import Mathlib.Data.List.Infix
import Mathlib.Tactic.Lemma
import PartQuery.Predicate.Like

/-!
# Texts and patterns

Where a needle stands in a text is asked in two ways: by the search of `LikeMode.holds`, and by
matching the text with a pattern. Both are compared here with the relations on lists that they stand
for. Matching reads a pattern symbol by symbol; a backslash takes the meaning from the character
after it. A pattern made from a needle is met by the texts in which the needle is found, whatever
characters it has (`meets_pattern_iff`).

The relation that a database evaluates is `Sql.Like`, which reads a pattern character by character
and leaves open how many of them a percent sign stands for. Matching decides it for every pattern
that does not end in the middle of an escape (`meets_ofChars_iff_like`), and no pattern made from a
needle does (`like_pattern_iff`).
-/

namespace PartQuery

namespace LikeMode

/-- The needle stands in the text where the mode says. -/
def Finds (mode : LikeMode) (needle s : List Char) : Prop :=
  match mode with
  | contains => needle <:+: s
  | beginsWith => needle <+: s
  | endsWith => needle <:+ s

/-- A needle occurs in a text exactly when it is a part of it. -/
lemma occurs_iff {needle s : List Char} : occurs needle s = true ↔ needle <:+: s := by
  induction s with
  | nil => simp [occurs]
  | cons c rest ih =>
    unfold occurs
    rw [Bool.or_eq_true, List.isPrefixOf_iff_prefix, ih]
    exact List.infix_cons_iff.symm

/-- The search finds a needle exactly where it stands. -/
lemma holds_iff_finds {mode : LikeMode} {needle s : List Char} :
    mode.holds needle s = true ↔ mode.Finds needle s := by
  cases mode with
  | contains => exact occurs_iff
  | beginsWith => exact List.isPrefixOf_iff_prefix
  | endsWith => exact List.isSuffixOf_iff_suffix

end LikeMode

/-! ## Matching -/

namespace Sql

/-- A symbol of a pattern. -/
inductive PatternSymbol where
  /-- A character that stands for itself. -/
  | char (c : Char)
  /-- Any one character. -/
  | one
  /-- Any characters, or none. -/
  | many
deriving DecidableEq, Repr

namespace PatternSymbol

/-- The symbol that a character is when nothing escapes it. -/
def ofChar (c : Char) : PatternSymbol :=
  if c = '%' then many else if c = '_' then one else char c

/-- The symbols of a pattern that is written with a backslash as the escape character. -/
def ofChars : List Char → List PatternSymbol
  | [] => []
  | [c] => [ofChar c]
  | c :: d :: rest => if c = '\\' then char d :: ofChars rest else ofChar c :: ofChars (d :: rest)

/-- Whether a text meets a pattern as a whole. -/
def meets : List PatternSymbol → List Char → Bool
  | [], s => s.isEmpty
  | char _ :: _, [] => false
  | char c :: rest, d :: s => c == d && meets rest s
  | one :: _, [] => false
  | one :: rest, _ :: s => meets rest s
  | many :: rest, s => s.tails.any (meets rest)

/-- A character that is no escape character is read by itself. -/
lemma ofChars_cons {c : Char} (hc : c ≠ '\\') (rest : List Char) :
    ofChars (c :: rest) = ofChar c :: ofChars rest := by
  cases rest with
  | nil => simp only [ofChars]
  | cons d rest => rw [ofChars, if_neg hc]

/-- What is escaped where it must be is read as the character itself. -/
lemma ofChars_literalChar_append (c : Char) (rest : List Char) :
    ofChars (LikeMode.literalChar c ++ rest) = char c :: ofChars rest := by
  unfold LikeMode.literalChar
  by_cases hspecial : c = '\\' ∨ c = '%' ∨ c = '_'
  · rw [if_pos hspecial]
    simp [ofChars]
  · rw [if_neg hspecial]
    obtain ⟨hbackslash, hpercent, hunderscore⟩ : c ≠ '\\' ∧ c ≠ '%' ∧ c ≠ '_' := by
      simpa only [not_or] using hspecial
    rw [List.singleton_append, ofChars_cons hbackslash, ofChar, if_neg hpercent, if_neg hunderscore]

/-- A needle with its characters escaped is read as its characters. -/
lemma ofChars_flatMap_append (needle rest : List Char) :
    ofChars (needle.flatMap LikeMode.literalChar ++ rest) = needle.map char ++ ofChars rest := by
  induction needle with
  | nil => rfl
  | cons c needle ih =>
    rw [List.flatMap_cons, List.append_assoc, ofChars_literalChar_append, ih]
    rfl

/-- A text meets characters and then more exactly when it begins with them and its rest meets the
rest. -/
lemma meets_map_char_append {needle s : List Char} {rest : List PatternSymbol} :
    meets (needle.map char ++ rest) s = true ↔ ∃ t, s = needle ++ t ∧ meets rest t = true := by
  induction needle generalizing s with
  | nil => simp
  | cons c needle ih =>
    cases s with
    | nil => simp [meets]
    | cons d s =>
      simp only [List.map_cons, List.cons_append, meets, Bool.and_eq_true, beq_iff_eq, ih,
        List.cons.injEq]
      constructor
      · rintro ⟨rfl, t, rfl, ht⟩
        exact ⟨t, ⟨rfl, rfl⟩, ht⟩
      · rintro ⟨t, ⟨rfl, rfl⟩, ht⟩
        exact ⟨rfl, t, rfl, ht⟩

/-- Any characters may stand before what meets the rest of a pattern. -/
lemma meets_many_cons {rest : List PatternSymbol} {s : List Char} :
    meets (many :: rest) s = true ↔ ∃ t, t <:+ s ∧ meets rest t = true := by
  simp [meets, List.any_eq_true, List.mem_tails]

/-- Any text meets the pattern of any characters. -/
lemma meets_many (s : List Char) : meets [many] s = true := by
  rw [meets_many_cons]
  exact ⟨[], List.nil_suffix, rfl⟩

/-- A text meets characters and then any others exactly when it begins with them. -/
lemma meets_map_char_append_many {needle s : List Char} :
    meets (needle.map char ++ [many]) s = true ↔ needle <+: s := by
  rw [meets_map_char_append]
  constructor
  · rintro ⟨t, rfl, -⟩
    exact List.prefix_append needle t
  · rintro ⟨t, rfl⟩
    exact ⟨t, rfl, meets_many t⟩

/-- A text meets characters exactly when it consists of them. -/
lemma meets_map_char {needle s : List Char} : meets (needle.map char) s = true ↔ s = needle := by
  rw [← List.append_nil (needle.map char), meets_map_char_append]
  simp [meets]

end PatternSymbol

/-- Whether a text meets a pattern that is written with a backslash as the escape character. -/
def meetsPattern (pattern s : String) : Bool :=
  PatternSymbol.meets (PatternSymbol.ofChars pattern.toList) s.toList

open PatternSymbol in
/-- The pattern of a needle is met by the texts in which the needle is found. -/
theorem meets_pattern_iff {mode : LikeMode} {needle s : String} :
    meetsPattern (mode.pattern needle) s = true ↔ mode.Finds needle.toList s.toList := by
  have hmany : ∀ rest, ofChars ('%' :: rest) = many :: ofChars rest :=
    fun rest => ofChars_cons (by decide) rest
  unfold meetsPattern LikeMode.pattern
  rw [String.toList_ofList]
  cases mode with
  | contains =>
    simp only [List.cons_append, hmany, ofChars_flatMap_append, meets_many_cons,
      LikeMode.Finds]
    constructor
    · rintro ⟨t, hsuffix, ht⟩
      exact (meets_map_char_append_many.1 ht).isInfix.trans hsuffix.isInfix
    · intro hinfix
      obtain ⟨t, hprefix, hsuffix⟩ := List.infix_iff_prefix_suffix.1 hinfix
      exact ⟨t, hsuffix, meets_map_char_append_many.2 hprefix⟩
  | beginsWith =>
    simp only [ofChars_flatMap_append, hmany, LikeMode.Finds]
    exact meets_map_char_append_many
  | endsWith =>
    have hneedle :
        ofChars (needle.toList.flatMap LikeMode.literalChar) = needle.toList.map char := by
      simpa [ofChars] using ofChars_flatMap_append needle.toList []
    simp only [hmany, hneedle, meets_many_cons, LikeMode.Finds]
    constructor
    · rintro ⟨t, hsuffix, ht⟩
      exact meets_map_char.1 ht ▸ hsuffix
    · intro hsuffix
      exact ⟨needle.toList, hsuffix, meets_map_char.2 rfl⟩

/-! ## The relation of patterns and texts -/

/-- A text is like a pattern. A percent sign stands for any characters and an underscore for any
one; a backslash and the character after it stand for just that character, and any other character
stands for itself. -/
inductive Like : List Char → List Char → Prop
  | nil : Like [] []
  | many {pattern s : List Char} (any : List Char) (h : Like pattern s) :
      Like ('%' :: pattern) (any ++ s)
  | one {pattern s : List Char} (c : Char) (h : Like pattern s) : Like ('_' :: pattern) (c :: s)
  | escaped {pattern s : List Char} (c : Char) (h : Like pattern s) :
      Like ('\\' :: c :: pattern) (c :: s)
  | char {pattern s : List Char} {c : Char} (hpercent : c ≠ '%') (hunderscore : c ≠ '_')
      (hbackslash : c ≠ '\\') (h : Like pattern s) : Like (c :: pattern) (c :: s)

/-- Whether a pattern ends in a backslash with no character left for it to escape. -/
def endsInEscape : List Char → Bool
  | [] => false
  | [c] => c == '\\'
  | c :: d :: rest => if c = '\\' then endsInEscape rest else endsInEscape (d :: rest)

/-- A character that is no escape character leaves the question to the rest of the pattern. -/
lemma endsInEscape_cons {c : Char} (hc : c ≠ '\\') (rest : List Char) :
    endsInEscape (c :: rest) = endsInEscape rest := by
  cases rest with
  | nil => simpa only [endsInEscape, beq_eq_false_iff_ne] using hc
  | cons d rest => rw [endsInEscape, if_neg hc]

/-- An escaped character leaves the question to the rest of the pattern. -/
lemma endsInEscape_escaped (c : Char) (rest : List Char) :
    endsInEscape ('\\' :: c :: rest) = endsInEscape rest := by
  rw [endsInEscape, if_pos rfl]

/-- A needle with its characters escaped leaves the question to what follows it. -/
lemma endsInEscape_flatMap_append (needle rest : List Char) :
    endsInEscape (needle.flatMap LikeMode.literalChar ++ rest) = endsInEscape rest := by
  induction needle with
  | nil => rfl
  | cons c needle ih =>
    rw [List.flatMap_cons, List.append_assoc]
    unfold LikeMode.literalChar
    by_cases hspecial : c = '\\' ∨ c = '%' ∨ c = '_'
    · rw [if_pos hspecial]
      exact (endsInEscape_escaped c _).trans ih
    · rw [if_neg hspecial]
      have hbackslash : c ≠ '\\' := fun h => hspecial (Or.inl h)
      exact (endsInEscape_cons hbackslash _).trans ih

/-- No pattern made from a needle ends in the middle of an escape, also when the needle ends in a
backslash. -/
lemma endsInEscape_pattern (mode : LikeMode) (needle : String) :
    endsInEscape (mode.pattern needle).toList = false := by
  have hpercent : ∀ rest, endsInEscape ('%' :: rest) = endsInEscape rest :=
    endsInEscape_cons (by decide)
  have hneedle : endsInEscape (needle.toList.flatMap LikeMode.literalChar) = false := by
    simpa [endsInEscape] using endsInEscape_flatMap_append needle.toList []
  unfold LikeMode.pattern
  rw [String.toList_ofList]
  cases mode with
  | contains =>
    rw [List.cons_append, hpercent, endsInEscape_flatMap_append, hpercent]
    rfl
  | beginsWith =>
    rw [endsInEscape_flatMap_append, hpercent]
    rfl
  | endsWith => rw [hpercent, hneedle]

namespace PatternSymbol

/-- Matching accepts every text that is like the pattern. -/
lemma meets_of_like {pattern s : List Char} (h : Like pattern s) :
    meets (ofChars pattern) s = true := by
  induction h with
  | nil => rfl
  | @many pattern s any h ih =>
    rw [ofChars_cons (by decide)]
    exact meets_many_cons.2 ⟨s, List.suffix_append any s, ih⟩
  | one c h ih =>
    rw [ofChars_cons (by decide)]
    exact ih
  | escaped c h ih => simpa [ofChars, meets] using ih
  | char hpercent hunderscore hbackslash h ih =>
    rw [ofChars_cons hbackslash, ofChar, if_neg hpercent, if_neg hunderscore]
    simpa [meets] using ih

/-- A text that meets a character of a pattern and then the rest is like the pattern, if what meets
the rest is like it. -/
lemma like_of_meets_ofChar_cons {c : Char} {pattern : List Char} {rest : List PatternSymbol}
    (hbackslash : c ≠ '\\') (hrest : ∀ t, meets rest t = true → Like pattern t) {s : List Char}
    (h : meets (ofChar c :: rest) s = true) : Like (c :: pattern) s := by
  by_cases hpercent : c = '%'
  · subst hpercent
    obtain ⟨t, ⟨any, rfl⟩, ht⟩ := meets_many_cons.1 h
    exact .many any (hrest t ht)
  by_cases hunderscore : c = '_'
  · subst hunderscore
    cases s with
    | nil => cases h
    | cons d s => exact .one d (hrest s h)
  rw [ofChar, if_neg hpercent, if_neg hunderscore] at h
  cases s with
  | nil => cases h
  | cons d s =>
    simp only [meets, Bool.and_eq_true, beq_iff_eq] at h
    obtain ⟨rfl, h⟩ := h
    exact .char hpercent hunderscore hbackslash (hrest s h)

/-- Matching accepts nothing else, if the pattern does not end in the middle of an escape. There
matching takes the backslash for itself, which the relation does not. -/
lemma like_of_meets {pattern : List Char} (hends : endsInEscape pattern = false) :
    ∀ {s : List Char}, meets (ofChars pattern) s = true → Like pattern s := by
  induction pattern using ofChars.induct with
  | case1 =>
    intro s h
    obtain rfl : s = [] := by simpa [ofChars, meets] using h
    exact .nil
  | case2 c =>
    intro s h
    have hbackslash : c ≠ '\\' := by simpa [endsInEscape] using hends
    refine like_of_meets_ofChar_cons hbackslash ?_ h
    intro t ht
    obtain rfl : t = [] := by simpa [meets] using ht
    exact .nil
  | case3 d rest ih =>
    intro s h
    rw [endsInEscape_escaped] at hends
    simp only [ofChars, if_true] at h
    cases s with
    | nil => cases h
    | cons e s =>
      simp only [meets, Bool.and_eq_true, beq_iff_eq] at h
      obtain ⟨rfl, h⟩ := h
      exact .escaped d (ih hends h)
  | case4 c d rest hbackslash ih =>
    intro s h
    rw [endsInEscape_cons hbackslash] at hends
    rw [ofChars_cons hbackslash] at h
    exact like_of_meets_ofChar_cons hbackslash (fun t ht => ih hends ht) h

/-- Matching decides the relation for patterns that do not end in the middle of an escape. -/
lemma meets_ofChars_iff_like {pattern s : List Char} (hends : endsInEscape pattern = false) :
    meets (ofChars pattern) s = true ↔ Like pattern s :=
  ⟨like_of_meets hends, meets_of_like⟩

end PatternSymbol

/-! ## Escaping one character after the other -/

/-- A text with a backslash put before each occurrence of a character. -/
def escapeEach (c : Char) (s : List Char) : List Char :=
  s.flatMap fun d => if d = c then ['\\', d] else [d]

/-- A text with its backslashes escaped first and its wildcards afterwards, so that the backslashes
put before the wildcards are not escaped again. -/
def escapeInTurn (s : List Char) : List Char :=
  escapeEach '_' (escapeEach '%' (escapeEach '\\' s))

/-- Escaping each character of a needle once is escaping one character after the other. -/
lemma flatMap_literalChar_eq (needle : List Char) :
    needle.flatMap LikeMode.literalChar = escapeInTurn needle := by
  unfold escapeInTurn escapeEach
  rw [List.flatMap_assoc, List.flatMap_assoc]
  refine List.flatMap_congr fun c _ => ?_
  unfold LikeMode.literalChar
  by_cases hbackslash : c = '\\'
  · subst hbackslash
    rfl
  by_cases hpercent : c = '%'
  · subst hpercent
    rfl
  by_cases hunderscore : c = '_'
  · subst hunderscore
    rfl
  simp [hbackslash, hpercent, hunderscore]

/-- A text is like the pattern of a needle exactly when the search for the needle finds it, that is
when the needle is a part of the text, or its beginning, or its end, as the mode says. The pattern
is the needle, escaped one character after the other, with a percent sign wherever more may stand,
and it never ends in the middle of an escape. -/
theorem like_pattern_iff (mode : LikeMode) (needle s : String) :
    (Like (mode.pattern needle).toList s.toList ↔ mode.holds needle.toList s.toList = true) ∧
    (mode.holds needle.toList s.toList = true ↔
      match mode with
      | .contains => needle.toList <:+: s.toList
      | .beginsWith => needle.toList <+: s.toList
      | .endsWith => needle.toList <:+ s.toList) ∧
    (mode.pattern needle).toList =
      (match mode with
      | .contains => '%' :: escapeInTurn needle.toList ++ ['%']
      | .beginsWith => escapeInTurn needle.toList ++ ['%']
      | .endsWith => '%' :: escapeInTurn needle.toList) ∧
    endsInEscape (mode.pattern needle).toList = false := by
  have hends : endsInEscape (mode.pattern needle).toList = false := endsInEscape_pattern mode needle
  refine ⟨?_, ?_, ?_, hends⟩
  · calc Like (mode.pattern needle).toList s.toList
        ↔ meetsPattern (mode.pattern needle) s = true :=
          (PatternSymbol.meets_ofChars_iff_like hends).symm
      _ ↔ mode.Finds needle.toList s.toList := meets_pattern_iff
      _ ↔ mode.holds needle.toList s.toList = true := LikeMode.holds_iff_finds.symm
  · rw [LikeMode.holds_iff_finds]
    cases mode <;> exact Iff.rfl
  · cases mode <;>
      simp only [LikeMode.pattern, String.toList_ofList, flatMap_literalChar_eq]

end Sql

end PartQuery
