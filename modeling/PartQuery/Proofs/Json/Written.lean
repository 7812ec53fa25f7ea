import PartQuery.Json.Scan
import PartQuery.Json.Value
import PartQuery.Proofs.Traversal

/-!
# Written values are scanned

Scanning undoes writing: wherever a written value stands in a text, the scanner takes exactly its
characters off and gives its outline. Texts come back whatever characters they hold, and natural
numbers as long as they have 64 bits. So a reader of a document that was written sees the outline of
what was written and nothing else (`readDocument_render`).
-/

namespace PartQuery.Json

/-! ## Texts -/

/-- The two hexadecimal digits of a control character stand for it. -/
lemma hexUnit?_digitChar {n : Nat} (h : n < 0x20) :
    hexUnit? '0' '0' (Nat.digitChar (n / 16)) (Nat.digitChar (n % 16)) = some n := by
  have hall : ∀ n < 0x20,
      hexUnit? '0' '0' (Nat.digitChar (n / 16)) (Nat.digitChar (n % 16)) = some n := by
    decide
  exact hall n h

/-- A character as it is written is skipped as a whole. -/
lemma skipText_escapedChar (c : Char) (rest : List Char) :
    skipText (escapedChar c ++ rest) = skipText rest := by
  unfold escapedChar
  split
  · next h => rcases h with rfl | rfl <;> rfl
  iterate 5
    split
    · rfl
  split
  · next h =>
    simp only [List.cons_append, List.nil_append, skipText, hexUnit?_digitChar h]
    rfl
  · next hplain _ _ _ _ _ h =>
    rw [not_or] at hplain
    rw [List.cons_append, List.nil_append, skipText, if_neg h]
    all_goals simp [hplain]

/-- A character as it is written is read. -/
lemma readText_escapedChar (c : Char) (rest : List Char) :
    readText none (escapedChar c ++ rest) = (readText none rest).map (c :: ·) := by
  unfold escapedChar
  split
  · next h => rcases h with rfl | rfl <;> rfl
  iterate 5
    split
    · next h => subst h; rfl
  split
  · next h =>
    have htrailing : isTrailingUnit c.toNat = false := by simp [isTrailingUnit]; omega
    have hleading : isLeadingUnit c.toNat = false := by simp [isLeadingUnit]; omega
    simp only [List.cons_append, List.nil_append]
    rw [readText.eq_def]
    simp only [hexUnit?_digitChar h, htrailing, hleading, Char.ofNat_toNat]
    rfl
  · next hplain _ _ _ _ _ h =>
    rw [not_or] at hplain
    rw [List.cons_append, List.nil_append, readText.eq_def]
    split
    · next heq => cases heq
    · next heq => exact absurd (List.cons.inj heq).1 hplain.2
    · next heq => exact absurd (List.cons.inj heq).1 hplain.2
    · next heq => exact absurd (List.cons.inj heq).1 hplain.2
    · next heq =>
      obtain ⟨rfl, rfl⟩ := List.cons.inj heq
      simp [hplain, h]

/-- What is written between quotes is the text, up to the closing quote. -/
lemma scanText_writeText (s : String) (rest : List Char) :
    scanText (s.toList.flatMap escapedChar ++ '"' :: rest) = (.ok s, some rest) := by
  have hskip : ∀ chars : List Char,
      skipText (chars.flatMap escapedChar ++ '"' :: rest) = .ok rest := by
    intro chars
    induction chars with
    | nil => rfl
    | cons c chars ih => rw [List.flatMap_cons, List.append_assoc, skipText_escapedChar, ih]
  have hread : ∀ chars : List Char,
      readText none (chars.flatMap escapedChar ++ '"' :: rest) = .ok chars := by
    intro chars
    induction chars with
    | nil =>
      rw [List.flatMap_nil, List.nil_append, readText.eq_def]
      rfl
    | cons c chars ih =>
      rw [List.flatMap_cons, List.append_assoc, readText_escapedChar, ih]
      rfl
  unfold scanText
  rw [hskip, hread]
  simp

/-! ## Numbers -/

/-- What follows a number does not continue it. -/
def EndsNumber (rest : List Char) : Prop :=
  ∀ c ∈ rest.head?, c.isDigit = false ∧ c ≠ '.' ∧ c ≠ 'e' ∧ c ≠ 'E'

/-- A number above zero is not written with a zero in front. -/
lemma head?_toDigits_ne {n : Nat} (h : 0 < n) : (Nat.toDigits 10 n).head? ≠ some '0' := by
  induction n using Nat.strongRecOn with
  | ind n ih =>
    by_cases hsmall : n < 10
    · rw [Nat.toDigits_of_lt_base hsmall]
      simp
      omega
    · rw [Nat.toDigits_of_base_le (by omega) (by omega),
        List.head?_append_of_ne_nil _ Nat.toDigits_ne_nil]
      exact ih (n / 10) (by omega) (by omega)

/-- The number that digits continue is no less than the one so far. -/
lemma le_continueDigits (start : Nat) (digits : List Char) :
    start ≤ Decimal.continueDigits start digits := by
  induction digits generalizing start with
  | nil => exact Nat.le_refl _
  | cons c digits ih =>
    have hnext := ih (10 * start + Decimal.digitValue c)
    simp only [Decimal.continueDigits, List.foldl_cons] at hnext ⊢
    omega

/-- Digits whose number fits are all taken. -/
lemma takeDigits_eq {significand taken : Nat} {digits : List Char}
    (h : Decimal.continueDigits significand digits ≤ Numeral.maxSignificand) :
    Numeral.takeDigits significand taken digits =
      (Decimal.continueDigits significand digits, taken + digits.length) := by
  induction digits generalizing significand taken with
  | nil => rfl
  | cons c digits ih =>
    have hnext := le_continueDigits (10 * significand + Decimal.digitValue c) digits
    change Decimal.continueDigits (10 * significand + Decimal.digitValue c) digits ≤ _ at h
    rw [Numeral.takeDigits]
    simp only [if_pos (Nat.le_trans hnext h), ih h, List.length_cons]
    rw [Nat.add_assoc, Nat.add_comm 1]
    rfl

/-- Digits that nothing continues are taken off as they are. -/
lemma scanDigits_append {digits rest : List Char} (hdigits : ∀ c ∈ digits, c.isDigit = true)
    (hne : digits ≠ []) (hrest : EndsNumber rest) :
    Numeral.scanDigits (digits ++ rest) = .ok (digits, rest) := by
  have hnone : rest.takeWhile Char.isDigit = [] := by
    cases rest with
    | nil => rfl
    | cons c rest => simp [(hrest c rfl).1]
  have htake : (digits ++ rest).takeWhile Char.isDigit = digits := by
    rw [List.takeWhile_append_of_pos hdigits, hnone, List.append_nil]
  unfold Numeral.scanDigits
  rw [htake]
  cases digits with
  | nil => exact absurd rfl hne
  | cons c digits => simp

/-- The digits of a number are digits. -/
lemma isDigit_toDigits {n : Nat} : ∀ c ∈ Nat.toDigits 10 n, c.isDigit = true :=
  fun _ hc => Nat.isDigit_of_mem_toDigits (by decide) (by decide) hc

/-- The digits of a number have no zero in front, unless they are one digit. -/
lemma scanWhole_toDigits {n : Nat} {rest : List Char} (hrest : EndsNumber rest) :
    Numeral.scanWhole (Nat.toDigits 10 n ++ rest) = .ok (Nat.toDigits 10 n, rest) := by
  have hproper : ¬(1 < (Nat.toDigits 10 n).length ∧ (Nat.toDigits 10 n).head? = some '0') := by
    rintro ⟨hlength, hzero⟩
    refine head?_toDigits_ne ?_ hzero
    by_contra hn
    obtain rfl : n = 0 := by omega
    rw [Nat.toDigits_zero] at hlength
    exact absurd hlength (by decide)
  unfold Numeral.scanWhole
  rw [scanDigits_append isDigit_toDigits Nat.toDigits_ne_nil hrest]
  simp only [bind, Except.bind, if_neg hproper]

/-- The digits of a number of 64 bits have it as their value. -/
lemma value?_toDigits {n : Nat} (h : n < twoPow 64) :
    (Numeral.mk false (Nat.toDigits 10 n) [] none).value? = some (.whole n) := by
  have hvalue : Decimal.continueDigits 0 (Nat.toDigits 10 n) = n := by
    have hdigits := Nat.ofDigitChars_ten_toDigits (n := n)
    rwa [Nat.ofDigitChars_eq_foldl] at hdigits
  have hfits : Decimal.continueDigits 0 (Nat.toDigits 10 n) ≤ Numeral.maxSignificand := by
    rw [hvalue]
    exact Nat.le_sub_one_of_lt h
  unfold Numeral.value?
  simp only [takeDigits_eq hfits, hvalue]
  simp [Numeral.wholeValue?]

/-- A number of 64 bits is read as it is written. -/
lemma scanNumber_toDigits {n : Nat} (h : n < twoPow 64) {rest : List Char}
    (hrest : EndsNumber rest) :
    scanNumber (Nat.toDigits 10 n ++ rest) = (.ok (.whole n), some rest) := by
  have hfraction : Numeral.scanFraction rest = .ok ([], rest) := by
    cases rest with
    | nil => rfl
    | cons c rest =>
      have hc := (hrest c rfl).2.1
      unfold Numeral.scanFraction
      split <;> simp_all
  have hexponent : Numeral.scanExponent rest = .ok (none, rest) := by
    cases rest with
    | nil => rfl
    | cons c rest => simp [Numeral.scanExponent, (hrest c rfl).2.2]
  have hminus : ∀ tail, Nat.toDigits 10 n ++ rest ≠ '-' :: tail := by
    intro tail htail
    cases hdigits : Nat.toDigits 10 n with
    | nil => exact Nat.toDigits_ne_nil hdigits
    | cons c digits =>
      have hc : c.isDigit = true := isDigit_toDigits c (hdigits ▸ List.mem_cons_self)
      rw [hdigits, List.cons_append, List.cons.injEq] at htail
      rw [htail.1] at hc
      exact absurd hc (by decide)
  have hscan : Numeral.scan (Nat.toDigits 10 n ++ rest) =
      .ok (⟨false, Nat.toDigits 10 n, [], none⟩, rest) := by
    unfold Numeral.scan
    split
    next negative s hsign =>
      split at hsign
      · next tail htail => exact absurd htail (hminus tail)
      · cases hsign
        simp only [scanWhole_toDigits hrest, hfraction, hexponent, bind, Except.bind]
        rfl
  unfold scanNumber
  simp only [hscan, value?_toDigits h]

/-- A digit is no space. -/
lemma isSpace_of_isDigit {c : Char} (h : c.isDigit = true) : isSpace c = false := by
  by_contra hspace
  have hc : c = ' ' ∨ c = '\t' ∨ c = '\n' ∨ c = '\r' := by
    simpa [isSpace, or_iff_not_imp_left] using hspace
  rcases hc with rfl | rfl | rfl | rfl <;> exact absurd h (by decide)

/-! ## Values -/

/-- A value that is held in full: its natural numbers have 64 bits. -/
inductive Value.Held : Value → Prop
  | null : Held .null
  | natural {n : Nat} (h : n < twoPow 64) : Held (.natural n)
  | text (s : String) : Held (.text s)
  | array {elements : List Value} (h : ∀ v ∈ elements, Held v) : Held (.array elements)
  | object {members : List (String × Value)} (h : ∀ m ∈ members, Held m.2) :
      Held (.object members)

namespace Value

mutual

/-- The outline of a written value inside of `level` open arrays and objects. -/
def outline (level : Nat) : Value → Outline
  | null => .null
  | natural n => .number (.ok (.whole n))
  | text s => .text (.ok s)
  | array elements => .array (level + 1) (outlines (level + 1) elements) .closed
  | object members => .object (level + 1) (memberOutlines (level + 1) members) .closed

/-- The outlines of the elements of an array. -/
def outlines (level : Nat) : List Value → List Outline
  | [] => []
  | v :: rest => v.outline level :: outlines level rest

/-- The outlines of the members of an object. -/
def memberOutlines (level : Nat) : List (String × Value) → List (Except Flaw String × Outline)
  | [] => []
  | (key, v) :: rest => (.ok key, v.outline level) :: memberOutlines level rest

end

/-- Elements are outlined one by one. -/
lemma outlines_eq_map (level : Nat) (l : List Value) :
    outlines level l = l.map (outline level) := by
  induction l with
  | nil => rw [outlines, List.map_nil]
  | cons v rest ih => rw [outlines, ih, List.map_cons]

/-- Members are outlined one by one. -/
lemma memberOutlines_eq_map (level : Nat) (l : List (String × Value)) :
    memberOutlines level l = l.map fun m => (.ok m.1, m.2.outline level) := by
  induction l with
  | nil => rw [memberOutlines, List.map_nil]
  | cons m rest ih => rw [memberOutlines, ih, List.map_cons]

/-- Two elements are separated by a comma. -/
lemma writeElements_cons_cons (v w : Value) (rest : List Value) :
    writeElements (v :: w :: rest) = v.write ++ ',' :: writeElements (w :: rest) := by
  rw [writeElements]
  nofun

/-- Two members are separated by a comma. -/
lemma writeMembers_cons_cons (key : String) (v : Value) (m : String × Value)
    (rest : List (String × Value)) :
    writeMembers ((key, v) :: m :: rest) =
      writeText key ++ ':' :: v.write ++ ',' :: writeMembers (m :: rest) := by
  rw [writeMembers]
  nofun

/-- A written value begins with a character that is no space and does not close an array. -/
lemma exists_write_eq_cons (v : Value) :
    ∃ c rest, v.write = c :: rest ∧ isSpace c = false ∧ c ≠ ']' := by
  cases v with
  | null => exact ⟨'n', ['u', 'l', 'l'], by rw [write]; rfl, rfl, by decide⟩
  | natural n =>
    rw [write]
    cases hdigits : Nat.toDigits 10 n with
    | nil => exact absurd hdigits Nat.toDigits_ne_nil
    | cons c digits =>
      have hc : c.isDigit = true := isDigit_toDigits c (hdigits ▸ List.mem_cons_self)
      refine ⟨c, digits, rfl, isSpace_of_isDigit hc, ?_⟩
      rintro rfl
      exact absurd hc (by decide)
  | text s => exact ⟨'"', _, by rw [write, writeText, List.cons_append], rfl, by decide⟩
  | array elements => exact ⟨'[', _, by rw [write, List.cons_append], rfl, by decide⟩
  | object members => exact ⟨'\x7b', _, by rw [write, List.cons_append], rfl, by decide⟩

/-- A value is scanned as it is written, wherever it stands, when the bound allows for it. -/
def Scans (v : Value) : Prop :=
  ∀ (level bound : Nat) (rest : List Char), 3 * v.write.length ≤ bound → EndsNumber rest →
    scanValue level bound (v.write ++ rest) = (v.outline level, some rest)

/-- The bracket or comma after a value ends a number too. -/
lemma endsNumber_cons {c : Char} {rest : List Char} (hc : c = ',' ∨ c = ']' ∨ c = '\x7d') :
    EndsNumber (c :: rest) := by
  rintro c' hc'
  obtain rfl : c = c' := Option.some.inj hc'
  rcases hc with rfl | rfl | rfl <;> decide

/-- A text without spaces in front stays as it is. -/
lemma dropSpace_cons {c : Char} {rest : List Char} (h : isSpace c = false) :
    dropSpace (c :: rest) = c :: rest := by
  simp [dropSpace, h]

/-- Elements are scanned as they are written, up to the closing bracket. -/
lemma scanElements_write {elements : List Value} (hne : elements ≠ [])
    (helements : ∀ v ∈ elements, v.Scans) {level bound : Nat} {rest : List Char}
    (hbound : 3 * (writeElements elements).length + 1 ≤ bound) :
    scanElements level bound (writeElements elements ++ ']' :: rest) =
      (outlines level elements, .closed, some rest) := by
  induction elements generalizing bound with
  | nil => exact absurd rfl hne
  | cons v others ih =>
    obtain ⟨bound, rfl⟩ : ∃ b, bound = b + 1 := ⟨bound - 1, by omega⟩
    have hv : v.Scans := helements v List.mem_cons_self
    cases others with
    | nil =>
      rw [writeElements] at hbound ⊢
      rw [scanElements, hv level bound _ (by omega) (endsNumber_cons (by simp))]
      rfl
    | cons w others =>
      rw [writeElements_cons_cons] at hbound ⊢
      simp only [List.length_append, List.length_cons] at hbound
      have hothers : scanElements level bound (writeElements (w :: others) ++ ']' :: rest) =
          (outlines level (w :: others), .closed, some rest) := by
        refine ih (List.cons_ne_nil w others) ?_ (by omega)
        exact fun v' hv' => helements v' (List.mem_cons_of_mem v hv')
      rw [List.append_assoc, List.cons_append, scanElements,
        hv level bound _ (by omega) (endsNumber_cons (by simp))]
      simp only [dropSpace_cons (show isSpace ',' = false from rfl), hothers]
      rfl

/-- Members are scanned as they are written, up to the closing brace. -/
lemma scanMembers_write {members : List (String × Value)} (hne : members ≠ [])
    (hmembers : ∀ m ∈ members, m.2.Scans) {level bound : Nat} {rest : List Char}
    (hbound : 3 * (writeMembers members).length + 1 ≤ bound) :
    scanMembers level bound (writeMembers members ++ '\x7d' :: rest) =
      (memberOutlines level members, .closed, some rest) := by
  induction members generalizing bound with
  | nil => exact absurd rfl hne
  | cons m others ih =>
    obtain ⟨key, v⟩ := m
    obtain ⟨bound, rfl⟩ : ∃ b, bound = b + 1 := ⟨bound - 1, by omega⟩
    have hv : v.Scans := hmembers (key, v) List.mem_cons_self
    cases others with
    | nil =>
      rw [writeMembers] at hbound ⊢
      simp only [writeText, List.length_append, List.length_cons] at hbound
      simp only [writeText, List.cons_append, List.append_assoc, List.nil_append]
      rw [scanMembers]
      simp only [dropSpace_cons (show isSpace '"' = false from rfl), scanText_writeText,
        dropSpace_cons (show isSpace ':' = false from rfl),
        hv level bound _ (by omega) (endsNumber_cons (Or.inr (Or.inr rfl))),
        dropSpace_cons (show isSpace '\x7d' = false from rfl)]
      rfl
    | cons m' others =>
      rw [writeMembers_cons_cons] at hbound ⊢
      simp only [writeText, List.length_append, List.length_cons] at hbound
      have hothers : scanMembers level bound (writeMembers (m' :: others) ++ '\x7d' :: rest) =
          (memberOutlines level (m' :: others), .closed, some rest) := by
        refine ih (List.cons_ne_nil m' others) ?_ (by omega)
        exact fun m hm => hmembers m (List.mem_cons_of_mem _ hm)
      simp only [writeText, List.cons_append, List.append_assoc, List.nil_append]
      rw [scanMembers]
      simp only [dropSpace_cons (show isSpace '"' = false from rfl), scanText_writeText,
        dropSpace_cons (show isSpace ':' = false from rfl),
        hv level bound _ (by omega) (endsNumber_cons (Or.inl rfl)),
        dropSpace_cons (show isSpace ',' = false from rfl), hothers]
      rfl

/-- Elements that are written begin as the first of them does. -/
lemma exists_writeElements_eq_cons {elements : List Value} (hne : elements ≠ []) :
    ∃ c rest, writeElements elements = c :: rest ∧ isSpace c = false ∧ c ≠ ']' := by
  cases elements with
  | nil => exact absurd rfl hne
  | cons v others =>
    obtain ⟨c, tail, hwrite, hc⟩ := v.exists_write_eq_cons
    cases others with
    | nil => exact ⟨c, tail, by rw [writeElements, hwrite], hc⟩
    | cons w others =>
      exact ⟨c, _, by rw [writeElements_cons_cons, hwrite, List.cons_append], hc⟩

/-- Members that are written begin with a quote. -/
lemma exists_writeMembers_eq_cons {members : List (String × Value)} (hne : members ≠ []) :
    ∃ rest, writeMembers members = '"' :: rest := by
  cases members with
  | nil => exact absurd rfl hne
  | cons m others =>
    cases others with
    | nil => exact ⟨_, by rw [writeMembers, writeText, List.cons_append, List.cons_append]⟩
    | cons m' others =>
      exact ⟨_, by
        rw [writeMembers_cons_cons, writeText, List.cons_append, List.cons_append,
          List.cons_append]⟩

/-- An array is scanned as it is written, once its bracket is gone. -/
lemma scanArray_write {elements : List Value} (helements : ∀ v ∈ elements, v.Scans)
    {level bound : Nat} {rest : List Char}
    (hbound : 3 * (writeElements elements).length + 2 ≤ bound) :
    scanArray level bound (writeElements elements ++ ']' :: rest) =
      (outlines level elements, .closed, some rest) := by
  obtain ⟨bound, rfl⟩ : ∃ b, bound = b + 1 := ⟨bound - 1, by omega⟩
  by_cases hne : elements = []
  · subst hne
    rw [writeElements, List.nil_append, scanArray, dropSpace_cons rfl]
    rfl
  · obtain ⟨c, tail, hwrite, hspace, hbracket⟩ := exists_writeElements_eq_cons hne
    have hscan : scanElements level bound (writeElements elements ++ ']' :: rest) =
        (outlines level elements, .closed, some rest) :=
      scanElements_write hne helements (by omega)
    rw [hwrite, List.cons_append] at hscan ⊢
    rw [scanArray, dropSpace_cons hspace, ← hscan]
    split
    · next heq => cases heq
    · next heq => exact absurd (List.cons.inj heq).1 hbracket
    · rfl

/-- An object is scanned as it is written, once its brace is gone. -/
lemma scanObject_write {members : List (String × Value)} (hmembers : ∀ m ∈ members, m.2.Scans)
    {level bound : Nat} {rest : List Char}
    (hbound : 3 * (writeMembers members).length + 2 ≤ bound) :
    scanObject level bound (writeMembers members ++ '\x7d' :: rest) =
      (memberOutlines level members, .closed, some rest) := by
  obtain ⟨bound, rfl⟩ : ∃ b, bound = b + 1 := ⟨bound - 1, by omega⟩
  by_cases hne : members = []
  · subst hne
    rw [writeMembers, List.nil_append, scanObject, dropSpace_cons rfl]
    rfl
  · obtain ⟨tail, hwrite⟩ := exists_writeMembers_eq_cons hne
    have hscan : scanMembers level bound (writeMembers members ++ '\x7d' :: rest) =
        (memberOutlines level members, .closed, some rest) :=
      scanMembers_write hne hmembers (by omega)
    rw [hwrite, List.cons_append] at hscan ⊢
    rw [scanObject, dropSpace_cons rfl]
    exact hscan

/-- A bound that allows for a value is not zero. -/
lemma exists_eq_succ_of_write_le {v : Value} {bound : Nat} (h : 3 * v.write.length ≤ bound) :
    ∃ b, bound = b + 1 := by
  obtain ⟨c, tail, hwrite, -⟩ := v.exists_write_eq_cons
  rw [hwrite, List.length_cons] at h
  exact ⟨bound - 1, by omega⟩

/-- Where a digit stands, a number is scanned. -/
lemma scanValue_digit {level bound : Nat} {c : Char} {rest : List Char} (hc : c.isDigit = true) :
    scanValue level (bound + 1) (c :: rest) =
      (.number (scanNumber (c :: rest)).1, (scanNumber (c :: rest)).2) := by
  have hquote : c ≠ '"' := by
    rintro rfl
    exact absurd hc (by decide)
  have hbracket : c ≠ '[' := by
    rintro rfl
    exact absurd hc (by decide)
  have hbrace : c ≠ '\x7b' := by
    rintro rfl
    exact absurd hc (by decide)
  rw [scanValue, dropSpace_cons (isSpace_of_isDigit hc)]
  simp only [hquote, hbracket, hbrace, beginsNumber, hc, Bool.or_true, if_true, if_false]

/-- A value that is held in full is scanned as it is written. -/
lemma Held.scans {v : Value} (h : v.Held) : v.Scans := by
  induction h with
  | null =>
    intro level bound rest hbound hrest
    obtain ⟨bound, rfl⟩ := exists_eq_succ_of_write_le hbound
    have hword : "null".toList = 'n' :: "ull".toList := rfl
    have hscan : scanWord .null "ull".toList ("ull".toList ++ rest) = (.null, some rest) := rfl
    rw [write, hword, List.cons_append, scanValue, dropSpace_cons rfl]
    exact hscan
  | @natural n hn =>
    intro level bound rest hbound hrest
    obtain ⟨bound, rfl⟩ := exists_eq_succ_of_write_le hbound
    have hnumber := scanNumber_toDigits hn hrest
    rw [write]
    cases hdigits : Nat.toDigits 10 n with
    | nil => exact absurd hdigits Nat.toDigits_ne_nil
    | cons c digits =>
      have hc : c.isDigit = true := isDigit_toDigits c (hdigits ▸ List.mem_cons_self)
      rw [hdigits, List.cons_append] at hnumber
      rw [List.cons_append, scanValue_digit hc, hnumber]
      rfl
  | text s =>
    intro level bound rest hbound hrest
    obtain ⟨bound, rfl⟩ := exists_eq_succ_of_write_le hbound
    rw [write, writeText, List.append_assoc, List.cons_append, scanValue, dropSpace_cons rfl]
    simp only [List.nil_append, List.cons_append, scanText_writeText]
    rfl
  | @array elements h ih =>
    intro level bound rest hbound hrest
    obtain ⟨bound, rfl⟩ := exists_eq_succ_of_write_le hbound
    rw [write] at hbound ⊢
    simp only [List.length_append, List.length_cons] at hbound
    rw [List.append_assoc, List.cons_append, scanValue, dropSpace_cons rfl]
    simp only [List.nil_append, List.cons_append]
    rw [scanArray_write ih (by omega)]
    rfl
  | @object members h ih =>
    intro level bound rest hbound hrest
    obtain ⟨bound, rfl⟩ := exists_eq_succ_of_write_le hbound
    rw [write] at hbound ⊢
    simp only [List.length_append, List.length_cons] at hbound
    rw [List.append_assoc, List.cons_append, scanValue, dropSpace_cons rfl]
    simp only [List.nil_append, List.cons_append]
    rw [scanObject_write ih (by omega)]
    rfl

end Value

/-- A reader of a document sees the outline of the value that was written. -/
lemma readDocument_render {α : Type} (reader : Outline → Except Fault α) {v : Value}
    (h : v.Held) : readDocument reader v.render = reader (v.outline 0) := by
  have hscan := h.scans 0 (scanBound v.write) [] (by unfold scanBound; omega) (by simp [EndsNumber])
  rw [List.append_nil] at hscan
  unfold readDocument Value.render
  rw [String.toList_ofList, hscan]
  cases hread : reader (v.outline 0) <;> simp [hread, bind, Except.bind, dropSpace]

/-! ## Depth -/

namespace Value

mutual

/-- How many arrays and objects the text of a value opens at once. -/
def depth : Value → Nat
  | null => 0
  | natural _ => 0
  | text _ => 0
  | array elements => depthOfAll elements + 1
  | object members => depthOfMembers members + 1

/-- How many arrays and objects the texts of elements open at once. -/
def depthOfAll : List Value → Nat
  | [] => 0
  | v :: rest => max v.depth (depthOfAll rest)

/-- How many arrays and objects the texts of members open at once. -/
def depthOfMembers : List (String × Value) → Nat
  | [] => 0
  | (_, v) :: rest => max v.depth (depthOfMembers rest)

end

@[simp] lemma depth_null : null.depth = 0 := by
  rw [depth]

@[simp] lemma depth_text (s : String) : (text s).depth = 0 := by
  rw [depth]

/-- An array opens a bracket around its elements. -/
lemma depth_array_le_iff {elements : List Value} {n : Nat} :
    (array elements).depth ≤ n ↔ 1 ≤ n ∧ ∀ v ∈ elements, v.depth + 1 ≤ n := by
  have hall : ∀ k, depthOfAll elements ≤ k ↔ ∀ v ∈ elements, v.depth ≤ k := by
    intro k
    induction elements with
    | nil => simp [depthOfAll]
    | cons v rest ih => rw [depthOfAll, Nat.max_le, ih, List.forall_mem_cons]
  rw [depth]
  cases n with
  | zero => omega
  | succ k =>
    have hopen : 1 ≤ k + 1 := by omega
    simp only [Nat.add_le_add_iff_right, hall, hopen, true_and]

/-- An object opens a brace around its members. -/
lemma depth_object_le_iff {members : List (String × Value)} {n : Nat} :
    (object members).depth ≤ n ↔ 1 ≤ n ∧ ∀ m ∈ members, m.2.depth + 1 ≤ n := by
  have hall : ∀ k, depthOfMembers members ≤ k ↔ ∀ m ∈ members, m.2.depth ≤ k := by
    intro k
    induction members with
    | nil => simp [depthOfMembers]
    | cons m rest ih => rw [depthOfMembers, Nat.max_le, ih, List.forall_mem_cons]
  rw [depth]
  cases n with
  | zero => omega
  | succ k =>
    have hopen : 1 ≤ k + 1 := by omega
    simp only [Nat.add_le_add_iff_right, hall, hopen, true_and]

end Value

end PartQuery.Json
