import PartQuery.Json.Reader
import PartQuery.Proofs.Json.Written

/-!
# Reading records

What a record reader gives is settled by the reads of its parts. A record that was written in the
order of its parts, some of them left out, is read part by part in that order
(`Reader.record_ofParts`). And however a record was written, what is true of the start and kept by
every read of a part is true of the result (`Reader.record_preserves`), and what one part alone
settles is settled by what is written for that part (`Reader.get_record`).

What an outline is known to have, it has because the scanner made it (`Outline.Invariant`). Its
levels are counted as they should be (`invariant_leveled`): at a level, an array or object is at the
next one, and so are the values inside it. So a reader that succeeds has not opened more than the
limit.
-/

namespace PartQuery.Json

/-! ## What scanning brings about -/

/-- The levels in an outline are counted from a level on. -/
inductive Outline.Leveled : Nat → Outline → Prop
  | null {level : Nat} : Leveled level .null
  | boolean {level : Nat} (b : Bool) : Leveled level (.boolean b)
  | number {level : Nat} (n : Except Flaw Number) : Leveled level (.number n)
  | text {level : Nat} (s : Except Flaw String) : Leveled level (.text s)
  | array {level : Nat} {elements : List Outline} {ending : Ending}
      (h : ∀ o ∈ elements, Leveled (level + 1) o) :
      Leveled level (.array (level + 1) elements ending)
  | object {level : Nat} {members : List (Except Flaw String × Outline)} {ending : Ending}
      (h : ∀ m ∈ members, Leveled (level + 1) m.2) :
      Leveled level (.object (level + 1) members ending)
  | broken {level : Nat} (fault : Fault) : Leveled level (.broken fault)
  | absent {level : Nat} : Leveled level .absent

/-- A property of outlines at levels that scanning brings about: whatever opens nothing has it, and
so does an array or an object if all that is inside has it at the next level. -/
structure Outline.Invariant (Q : Nat → Outline → Prop) : Prop where
  null : ∀ {level}, Q level .null
  boolean : ∀ {level} b, Q level (.boolean b)
  number : ∀ {level} s, Q level (.number (scanNumber s).1)
  text : ∀ {level} s, Q level (.text s)
  array : ∀ {level elements ending}, (∀ o ∈ elements, Q (level + 1) o) →
    Q level (.array (level + 1) elements ending)
  object : ∀ {level members ending}, (∀ m ∈ members, Q (level + 1) m.2) →
    Q level (.object (level + 1) members ending)
  broken : ∀ {level} fault, Q level (.broken fault)
  absent : ∀ {level}, Q level .absent

/-- Within a bound, the scanner brings a property about. -/
structure Scans (Q : Nat → Outline → Prop) (bound : Nat) : Prop where
  value : ∀ level s, Q level (scanValue level bound s).1
  array : ∀ level s, ∀ o ∈ (scanArray level bound s).1, Q level o
  elements : ∀ level s, ∀ o ∈ (scanElements level bound s).1, Q level o
  object : ∀ level s, ∀ m ∈ (scanObject level bound s).1, Q level m.2
  members : ∀ level s, ∀ m ∈ (scanMembers level bound s).1, Q level m.2

section

variable {Q : Nat → Outline → Prop}

/-- The outline of what a text begins with. -/
def outlineOf (text : String) : Outline :=
  (scanValue 0 (scanBound text.toList) text.toList).1

/-- A document that is read has an outline that the reader understands. -/
lemma reader_outlineOf {α : Type} {reader : Reader α} {text : String} {a : α}
    (h : readDocument reader text = .ok a) : reader (outlineOf text) = .ok a := by
  obtain ⟨b, hread, h⟩ := bind_eq_ok_iff.1 h
  have hsame : b = a := by
    split at h
    · split at h
      · exact Except.ok.inj h
      · cases h
    · cases h
  exact hsame ▸ hread

/-- A word that is scanned has a property that the value it stands for has. -/
lemma Outline.Invariant.scanWord (hQ : Invariant Q) {level : Nat} {value : Outline}
    (h : Q level value) (word s : List Char) : Q level (scanWord value word s).1 := by
  induction word generalizing s with
  | nil => exact h
  | cons c word ih =>
    cases s with
    | nil => exact hQ.broken _
    | cons x rest =>
      rw [Json.scanWord]
      split
      · exact ih rest
      · exact hQ.broken _

/-- A value has the property when the bound below serves its parts. -/
lemma Scans.value_succ (hQ : Outline.Invariant Q) {bound : Nat} (h : Scans Q bound) (level : Nat)
    (s : List Char) : Q level (scanValue level (bound + 1) s).1 := by
  rw [scanValue]
  split
  · exact hQ.absent
  split
  · exact hQ.text _
  split
  · exact hQ.array (h.array (level + 1) _)
  split
  · exact hQ.object (h.object (level + 1) _)
  split
  · exact hQ.number _
  split
  · exact hQ.scanWord hQ.null _ _
  split
  · exact hQ.scanWord (hQ.boolean _) _ _
  split
  · exact hQ.scanWord (hQ.boolean _) _ _
  · exact hQ.broken _

/-- The elements of an array have the property when the bound below serves them. -/
lemma Scans.elements_succ {bound : Nat} (h : Scans Q bound) (level : Nat) (s : List Char) :
    ∀ o ∈ (scanElements level (bound + 1) s).1, Q level o := by
  have hvalue := h.value level s
  rw [scanElements]
  generalize scanValue level bound s = scanned at hvalue
  obtain ⟨value, after⟩ := scanned
  cases after with
  | none => simpa using hvalue
  | some rest =>
    simp only
    split
    · simpa using hvalue
    · simpa using hvalue
    · next rest' _ => exact List.forall_mem_cons.2 ⟨hvalue, h.elements level rest'⟩
    · simpa using hvalue

/-- The members of an object have the property when the bound below serves them. -/
lemma Scans.members_succ (hQ : Outline.Invariant Q) {bound : Nat} (h : Scans Q bound) (level : Nat)
    (s : List Char) : ∀ m ∈ (scanMembers level (bound + 1) s).1, Q level m.2 := by
  rw [scanMembers]
  split
  · simpa using hQ.absent
  · next rest _ =>
    generalize scanText rest = scanned
    obtain ⟨key, after⟩ := scanned
    cases after with
    | none => simpa using hQ.absent
    | some rest =>
      simp only
      split
      · simpa using hQ.absent
      · next rest _ =>
        have hvalue := h.value level rest
        generalize scanValue level bound rest = scanned at hvalue
        obtain ⟨value, after⟩ := scanned
        cases after with
        | none => simpa using hvalue
        | some rest =>
          simp only
          split
          · simpa using hvalue
          · simpa using hvalue
          · next rest' _ => exact List.forall_mem_cons.2 ⟨hvalue, h.members level rest'⟩
          · simpa using hvalue
      · simpa using hQ.broken _
  · simpa using hQ.absent

/-- Within any bound, the scanner brings the property about. -/
lemma Outline.Invariant.scans (hQ : Invariant Q) (bound : Nat) : Scans Q bound := by
  induction bound with
  | zero =>
    constructor <;> intro level s
    · rw [scanValue]
      exact hQ.absent
    · rw [scanArray]
      simp
    · rw [scanElements]
      simp
    · rw [scanObject]
      simp
    · rw [scanMembers]
      simp
  | succ bound ih =>
    refine ⟨ih.value_succ hQ, ?_, ih.elements_succ, ?_, ih.members_succ hQ⟩
    · intro level s
      rw [scanArray]
      split
      · simp
      · simp
      · exact ih.elements level _
    · intro level s
      rw [scanObject]
      split
      · simp
      · simp
      · exact ih.members level _
      · simp

/-- A document that is read has an outline that has the property and that the reader understands. -/
lemma Outline.Invariant.exists_of_readDocument (hQ : Invariant Q) {α : Type} {reader : Reader α}
    {text : String} {a : α} (h : readDocument reader text = .ok a) :
    ∃ o, Q 0 o ∧ reader o = .ok a :=
  ⟨outlineOf text, (hQ.scans (scanBound text.toList)).value 0 text.toList, reader_outlineOf h⟩

end

/-- Scanning counts levels as it should. -/
lemma invariant_leveled : Outline.Invariant Outline.Leveled where
  null := .null
  boolean := .boolean
  number _ := .number _
  text := .text
  array := .array
  object := .object
  broken := .broken
  absent := .absent

/-- A document that is read has an outline that is leveled from zero and that the reader
understands. -/
lemma exists_leveled_of_readDocument {α : Type} {reader : Reader α} {text : String} {a : α}
    (h : readDocument reader text = .ok a) : ∃ o, o.Leveled 0 ∧ reader o = .ok a :=
  invariant_leveled.exists_of_readDocument h

/-- A level that passes is within the limit. -/
lemma checkLevel_eq_ok_iff {level : Nat} : checkLevel level = .ok () ↔ level ≤ depthLimit := by
  unfold checkLevel
  split <;> simp_all

/-! ## Records that were written -/

variable {σ α : Type}

/-- A part is the only one of its name. -/
lemma find?_name_eq_some {parts : List (Slot σ)} (hnodup : (parts.map (·.name)).Nodup)
    {part : Slot σ} (h : part ∈ parts) : parts.find? (·.name == part.name) = some part := by
  induction parts with
  | nil => cases h
  | cons first rest ih =>
    rw [List.map_cons, List.nodup_cons] at hnodup
    rcases List.mem_cons.1 h with rfl | hrest
    · rw [List.find?_cons_of_pos (by simp)]
    · have hne : first.name ≠ part.name := by
        intro heq
        exact hnodup.1 (heq ▸ List.mem_map_of_mem hrest)
      rw [List.find?_cons_of_neg (by simpa using hne)]
      exact ih hnodup.2 hrest

namespace Reader

/-- The members of an object that gives parts of a record and leaves others out. -/
def givenMembers (given : List (Slot σ × Option Outline)) :
    List (Except Flaw String × Outline) :=
  given.flatMap fun g => (g.2.map fun o => (.ok g.1.name, o)).toList

/-- Reads the parts that are given, one after the other. -/
def readGiven (r : σ) (given : List (Slot σ × Option Outline)) : Except Fault σ :=
  given.foldlM (fun r g => g.2.elim (.ok r) (g.1.read · r)) r

/-- An object that gives each part at most once, and all that are required, is read part by part. -/
lemma recordMembers_givenMembers {parts : List (Slot σ)} (hnodup : (parts.map (·.name)).Nodup)
    {given : List (Slot σ × Option Outline)} (hparts : ∀ g ∈ given, g.1 ∈ parts)
    (hgiven : (given.map (·.1.name)).Nodup) {seen : List String}
    (hseen : ∀ g ∈ given, g.1.name ∉ seen)
    (hrequired : ∀ part ∈ parts, part.presence = .required →
      part.name ∈ seen ∨ ∃ g ∈ given, g.1.name = part.name ∧ g.2.isSome = true) (r : σ) :
    recordMembers parts seen r (givenMembers given) .closed = readGiven r given := by
  induction given generalizing seen r with
  | nil =>
    have hall : parts.all (fun part => part.presence ≠ .required || seen.contains part.name) =
        true := by
      rw [List.all_eq_true]
      intro part hpart
      by_cases hpresence : part.presence = .required
      · simpa [hpresence] using hrequired part hpart hpresence
      · simp [hpresence]
    change (do Ending.closed.check; if _ then _ else _) = _
    rw [hall]
    rfl
  | cons g rest ih =>
    obtain ⟨part, o?⟩ := g
    rw [List.map_cons, List.nodup_cons] at hgiven
    have hrest : ∀ g ∈ rest, g.1 ∈ parts := fun g hg => hparts g (List.mem_cons_of_mem _ hg)
    cases o? with
    | none =>
      refine (ih hrest hgiven.2 (fun g hg => hseen g (List.mem_cons_of_mem _ hg)) ?_ r).trans rfl
      intro required hmem hpresence
      refine (hrequired required hmem hpresence).imp_right ?_
      rintro ⟨g, hg, hname, hsome⟩
      rcases List.mem_cons.1 hg with rfl | hg
      · cases hsome
      · exact ⟨g, hg, hname, hsome⟩
    | some o =>
      have hfind := find?_name_eq_some hnodup (hparts _ List.mem_cons_self)
      have hnew : seen.contains part.name = false := by
        simpa using hseen _ List.mem_cons_self
      have hunfold : recordMembers parts seen r (givenMembers ((part, some o) :: rest)) .closed =
          (part.read o r >>= fun r' =>
            recordMembers parts (part.name :: seen) r' (givenMembers rest) .closed) := by
        change recordMembers parts seen r ((.ok part.name, o) :: givenMembers rest) .closed = _
        rw [recordMembers]
        simp only [readPart, bind, Except.bind, hfind, hnew]
        rfl
      have hread : readGiven r ((part, some o) :: rest) =
          (part.read o r >>= fun r' => readGiven r' rest) := rfl
      rw [hunfold, hread]
      cases part.read o r with
      | error e => rfl
      | ok r' =>
        refine ih hrest hgiven.2 ?_ ?_ r'
        · intro g hg hmem
          rcases List.mem_cons.1 hmem with heq | hmem
          · exact hgiven.1 (heq ▸ List.mem_map_of_mem hg)
          · exact hseen g (List.mem_cons_of_mem _ hg) hmem
        · intro required hmem hpresence
          rcases hrequired required hmem hpresence with hin | ⟨g, hg, hname, hsome⟩
          · exact Or.inl (List.mem_cons_of_mem _ hin)
          · rcases List.mem_cons.1 hg with rfl | hg
            · exact Or.inl (hname ▸ List.mem_cons_self)
            · exact Or.inr ⟨g, hg, hname, hsome⟩

end Reader

/-- The object that gives parts of a record and leaves others out. -/
def Value.ofParts (given : List (Slot σ × Option Value)) : Value :=
  .object (given.flatMap fun g => (g.2.map fun v => (g.1.name, v)).toList)

/-- The outlines of the parts that are given. -/
def outlineParts (level : Nat) (given : List (Slot σ × Option Value)) :
    List (Slot σ × Option Outline) :=
  given.map fun g => (g.1, g.2.map (Value.outline level))

namespace Value

/-- The object is outlined part by part. -/
lemma outline_ofParts (level : Nat) (given : List (Slot σ × Option Value)) :
    (ofParts given).outline level =
      .object (level + 1) (Reader.givenMembers (outlineParts (level + 1) given)) .closed := by
  rw [ofParts, outline, memberOutlines_eq_map, Reader.givenMembers, outlineParts,
    List.map_flatMap, List.flatMap_map]
  congr 2
  funext g
  cases g.2 <;> rfl

/-- What holds of every part holds of every member. -/
lemma forall_mem_ofParts {P : Value → Prop} {given : List (Slot σ × Option Value)} :
    (∀ m ∈ given.flatMap fun g => (g.2.map fun v => (g.1.name, v)).toList, P m.2) ↔
      ∀ g ∈ given, ∀ v ∈ g.2, P v := by
  simp only [List.mem_flatMap, Option.mem_toList, Option.map_eq_some_iff]
  constructor
  · intro h g hg v hv
    exact h (g.1.name, v) ⟨g, hg, v, hv, rfl⟩
  · rintro h m ⟨g, hg, v, hv, rfl⟩
    exact h g hg v hv

/-- A record is held in full when its parts are. -/
lemma held_ofParts {given : List (Slot σ × Option Value)} (h : ∀ g ∈ given, ∀ v ∈ g.2, v.Held) :
    (ofParts given).Held :=
  .object (forall_mem_ofParts.2 h)

/-- A record opens a brace around its parts. -/
lemma depth_ofParts_le_iff {given : List (Slot σ × Option Value)} {n : Nat} :
    (ofParts given).depth ≤ n ↔ 1 ≤ n ∧ ∀ g ∈ given, ∀ v ∈ g.2, v.depth + 1 ≤ n := by
  rw [ofParts, depth_object_le_iff, forall_mem_ofParts (P := fun v => v.depth + 1 ≤ n)]

end Value

namespace Reader

/-- A record that was written as an object is read part by part. -/
lemma record_ofParts {level : Nat} (hlevel : level + 1 ≤ depthLimit) (start : σ)
    {given : List (Slot σ × Option Value)} (hnodup : (given.map (·.1.name)).Nodup)
    (hrequired : ∀ g ∈ given, g.1.presence = .required → g.2.isSome = true) :
    record start (given.map (·.1)) ((Value.ofParts given).outline level) =
      readGiven start (outlineParts (level + 1) given) := by
  have hparts : given.map (·.1) = (outlineParts (level + 1) given).map (·.1) := by
    rw [outlineParts, List.map_map]
    rfl
  have hnames : (given.map (·.1)).map (·.name) = given.map (·.1.name) := List.map_map
  have hmembers : recordMembers (given.map (·.1)) [] start
      (givenMembers (outlineParts (level + 1) given)) .closed =
        readGiven start (outlineParts (level + 1) given) := by
    refine recordMembers_givenMembers (hnames ▸ hnodup) ?_ ?_ (by simp) ?_ start
    · intro g hg
      rw [hparts]
      exact List.mem_map_of_mem hg
    · rw [outlineParts, List.map_map]
      exact hnodup
    · intro part hpart hpresence
      obtain ⟨g, hg, rfl⟩ := List.mem_map.1 hpart
      refine Or.inr ⟨_, List.mem_map_of_mem hg, rfl, ?_⟩
      rw [Option.isSome_map]
      exact hrequired g hg hpresence
  rw [Value.outline_ofParts]
  change (do checkLevel (level + 1); _) = _
  rw [checkLevel_eq_ok_iff.2 hlevel]
  exact hmembers

/-- An array of items is read when each of them is. -/
lemma list_outline {level : Nat} (hlevel : level + 1 ≤ depthLimit) {item : Reader α} {l : List α}
    {f : α → Value} (h : ∀ a ∈ l, item ((f a).outline (level + 1)) = .ok a) :
    list item ((Value.array (l.map f)).outline level) = .ok l := by
  have hitems : ((l.map f).map (Value.outline (level + 1))).mapM item = .ok l := by
    rw [List.map_map, mapM_eq_ok_iff, List.forall₂_map_left_iff, List.forall₂_same]
    exact h
  rw [Value.outline, Value.outlines_eq_map, list, checkLevel_eq_ok_iff.2 hlevel]
  simp only [bind, Except.bind, hitems]
  rfl

/-- What is no null is read by the reader itself. -/
lemma optional_of_ne_null {reader : Reader α} {o : Outline} (h : o ≠ .null) :
    optional reader o = (reader o).map some := by
  cases o <;> first | rfl | exact absurd rfl h

/-- A part that is given is read by its reader and stored. -/
lemma readGiven_some {name : String} {presence : Presence} {reader : Reader α} {put : α → σ → σ}
    {r : σ} {o : Outline} {a : α} (h : reader o = .ok a)
    (given : List (Slot σ × Option Outline)) :
    readGiven r ((.of name presence reader put, some o) :: given) = readGiven (put a r) given := by
  change ((do return put (← reader o) r) >>= fun r => readGiven r given) = _
  rw [h]
  rfl

/-- A part that is left out is passed over. -/
lemma readGiven_none {part : Slot σ} {r : σ} (given : List (Slot σ × Option Outline)) :
    readGiven r ((part, none) :: given) = readGiven r given := rfl

end Reader

/-! ## Records however written -/

/-- An outline stands directly inside the brackets of another. -/
inductive Outline.IsInside : Outline → Outline → Prop
  | element {level : Nat} {o : Outline} {elements : List Outline} {ending : Ending}
      (h : o ∈ elements) : IsInside o (.array level elements ending)
  | member {level : Nat} {m : Except Flaw String × Outline}
      {members : List (Except Flaw String × Outline)} {ending : Ending} (h : m ∈ members) :
      IsInside m.2 (.object level members ending)

/-- One level further inside, levels are counted from the next one. -/
lemma Outline.Leveled.of_isInside {level : Nat} {inner o : Outline} (h : o.Leveled level)
    (hinner : inner.IsInside o) : inner.Leveled (level + 1) := by
  cases hinner with
  | element hmem =>
    cases h with
    | array helements => exact helements _ hmem
  | member hmem =>
    cases h with
    | object hmembers => exact hmembers _ hmem

/-- What is written for a part of a record: a member of an object, or an element of an array. -/
def Outline.part? (name : String) (place : Nat) : Outline → Option Outline
  | .object _ members _ => (members.find? (·.1.toOption == some name)).map (·.2)
  | .array _ elements _ => elements[place]?
  | _ => none

/-- Reading a part keeps a property of the record, if what is read has a property. -/
def Slot.Keeps (part : Slot σ) (P : σ → Prop) (Q : Outline → Prop) : Prop :=
  ∀ o r r', Q o → part.read o r = .ok r' → P r → P r'

/-- A part is read when its reader takes something, which is then stored. -/
lemma Slot.of_read_eq_ok_iff {name : String} {presence : Presence} {reader : Reader α}
    {put : α → σ → σ} {o : Outline} {r r' : σ} :
    (Slot.of name presence reader put).read o r = .ok r' ↔
      ∃ a, reader o = .ok a ∧ put a r = r' := by
  simp [Slot.of, bind_eq_ok_iff, pure, Except.pure]

namespace Reader

variable {P : σ → Prop} {Q : Outline → Prop} {parts : List (Slot σ)}

/-- What every part keeps is kept by reading them from an array. -/
lemma recordElements_preserves (hparts : ∀ part ∈ parts, part.Keeps P Q) {r r' : σ}
    {elements : List Outline} {ending : Ending} (hQ : ∀ o ∈ elements, Q o)
    (h : recordElements r parts elements ending = .ok r') (hr : P r) : P r' := by
  induction parts generalizing r elements with
  | nil =>
    cases elements with
    | nil =>
      rw [recordElements] at h
      obtain ⟨-, -, h⟩ := bind_eq_ok_iff.1 h
      cases h
      exact hr
    | cons o rest => cases h
  | cons part parts ih =>
    have hrest : ∀ part ∈ parts, part.Keeps P Q :=
      fun part' hpart' => hparts part' (List.mem_cons_of_mem part hpart')
    cases elements with
    | nil =>
      rw [recordElements] at h
      obtain ⟨-, -, h⟩ := bind_eq_ok_iff.1 h
      split at h
      · exact ih hrest hQ h hr
      · cases h
    | cons o rest =>
      rw [recordElements] at h
      obtain ⟨r₁, hread, h⟩ := bind_eq_ok_iff.1 h
      have hr₁ : P r₁ :=
        hparts part List.mem_cons_self o r r₁ (hQ o List.mem_cons_self) hread hr
      exact ih hrest (fun o' ho' => hQ o' (List.mem_cons_of_mem o ho')) h hr₁

/-- What every part keeps is kept by reading them from an object. -/
lemma recordMembers_preserves (hparts : ∀ part ∈ parts, part.Keeps P Q) {seen : List String}
    {r r' : σ} {members : List (Except Flaw String × Outline)} {ending : Ending}
    (hQ : ∀ m ∈ members, Q m.2) (h : recordMembers parts seen r members ending = .ok r')
    (hr : P r) : P r' := by
  induction members generalizing seen r with
  | nil =>
    rw [recordMembers] at h
    obtain ⟨-, -, h⟩ := bind_eq_ok_iff.1 h
    split at h
    · cases h
      exact hr
    · cases h
  | cons m rest ih =>
    obtain ⟨key, o⟩ := m
    have hrest : ∀ m ∈ rest, Q m.2 := fun m hm => hQ m (List.mem_cons_of_mem _ hm)
    rw [recordMembers] at h
    obtain ⟨name, -, h⟩ := bind_eq_ok_iff.1 h
    split at h
    · next part hfind =>
      split at h
      · cases h
      · obtain ⟨r₁, hread, h⟩ := bind_eq_ok_iff.1 h
        have hr₁ : P r₁ := hparts part (List.mem_of_find?_eq_some hfind) o r r₁
          (hQ _ List.mem_cons_self) hread hr
        exact ih hrest h hr₁
    · obtain ⟨-, -, h⟩ := bind_eq_ok_iff.1 h
      exact ih hrest h hr

/-- What is true of the start of a record and kept by every part, read from what stands inside the
brackets, is true of the record. -/
lemma record_preserves_of_inside {start r : σ} {o : Outline}
    (hQ : ∀ inner : Outline, inner.IsInside o → Q inner) (hparts : ∀ part ∈ parts, part.Keeps P Q)
    (hstart : P start) (h : record start parts o = .ok r) : P r := by
  cases o with
  | array level elements ending =>
    obtain ⟨-, -, h⟩ := bind_eq_ok_iff.1 h
    exact recordElements_preserves hparts (fun inner hinner => hQ inner (.element hinner)) h hstart
  | object level members ending =>
    obtain ⟨-, -, h⟩ := bind_eq_ok_iff.1 h
    exact recordMembers_preserves hparts (fun m hm => hQ m.2 (.member hm)) h hstart
  | _ => cases h

/-! ### One part of a record -/

variable {β : Type} {get : σ → β} {value : Outline → β} {part : Slot σ}

/-- What one part settles and the others leave alone is settled by the member of its name. -/
lemma get_recordMembers (hmem : part ∈ parts)
    (hpart : ∀ o r r', part.read o r = .ok r' → get r' = value o)
    (hothers : ∀ other ∈ parts, other.name ≠ part.name → ∀ o r r', other.read o r = .ok r' →
      get r' = get r) (hnodup : (parts.map (·.name)).Nodup) {seen : List String} {r r' : σ}
    {members : List (Except Flaw String × Outline)} {ending : Ending}
    (h : recordMembers parts seen r members ending = .ok r') :
    (part.name ∈ seen → get r' = get r) ∧
      (part.name ∉ seen → get r' =
        ((members.find? (·.1.toOption == some part.name)).map (value ·.2)).getD (get r)) := by
  induction members generalizing seen r with
  | nil =>
    rw [recordMembers] at h
    obtain ⟨-, -, h⟩ := bind_eq_ok_iff.1 h
    split at h
    · cases h
      exact ⟨fun _ => rfl, fun _ => rfl⟩
    · cases h
  | cons m rest ih =>
    obtain ⟨key, o⟩ := m
    obtain ⟨name, rfl⟩ : ∃ name, key = .ok name := by
      cases key with
      | error flaw => cases h
      | ok name => exact ⟨name, rfl⟩
    rw [recordMembers] at h
    obtain ⟨_, ⟨rfl⟩, h⟩ := bind_eq_ok_iff.1 h
    by_cases hname : name = part.name
    · subst hname
      rw [find?_name_eq_some hnodup hmem] at h
      simp only at h
      split at h
      · cases h
      · next hnew =>
        obtain ⟨r₁, hread, h⟩ := bind_eq_ok_iff.1 h
        refine ⟨fun hseen => absurd (List.contains_iff_mem.2 hseen) hnew, fun _ => ?_⟩
        rw [(ih h).1 List.mem_cons_self, List.find?_cons_of_pos (by simp [Except.toOption]),
          hpart o r r₁ hread]
        rfl
    · have hskip : ((Except.ok name, o) :: rest : List (Except Flaw String × Outline)).find?
          (·.1.toOption == some part.name) = rest.find? (·.1.toOption == some part.name) :=
        List.find?_cons_of_neg (by simpa [Except.toOption] using hname)
      rw [hskip]
      split at h
      · next other hfind =>
        obtain rfl : other.name = name := by simpa using List.find?_some hfind
        split at h
        · cases h
        · obtain ⟨r₁, hread, h⟩ := bind_eq_ok_iff.1 h
          rw [← hothers other (List.mem_of_find?_eq_some hfind) hname o r r₁ hread]
          simpa [Ne.symm hname] using ih h
      · obtain ⟨-, -, h⟩ := bind_eq_ok_iff.1 h
        exact ih h

/-- In an array it is settled by the element at the place of the part. -/
lemma get_recordElements {before after : List (Slot σ)}
    (hpart : ∀ o r r', part.read o r = .ok r' → get r' = value o)
    (hothers : ∀ other ∈ before ++ after, ∀ o r r', other.read o r = .ok r' → get r' = get r)
    {r r' : σ} {elements : List Outline} {ending : Ending}
    (h : recordElements r (before ++ part :: after) elements ending = .ok r') :
    get r' = (elements[before.length]?.map value).getD (get r) := by
  have hafter : ∀ (r₀ : σ) (other : Slot σ), other ∈ after →
      other.Keeps (fun r => get r = get r₀) fun _ => True := by
    intro r₀ other hother o r r' _ hread hr
    rw [hothers other (List.mem_append_right before hother) o r r' hread, hr]
  induction before generalizing r elements with
  | nil =>
    cases elements with
    | nil =>
      rw [List.nil_append, recordElements] at h
      obtain ⟨-, -, h⟩ := bind_eq_ok_iff.1 h
      split at h
      · exact recordElements_preserves (hafter r) (fun _ _ => trivial) h rfl
      · cases h
    | cons o rest =>
      rw [List.nil_append, recordElements] at h
      obtain ⟨r₁, hread, h⟩ := bind_eq_ok_iff.1 h
      rw [recordElements_preserves (hafter r₁) (fun _ _ => trivial) h rfl, hpart o r r₁ hread]
      rfl
  | cons first before ih =>
    rw [List.cons_append, List.forall_mem_cons] at hothers
    cases elements with
    | nil =>
      rw [List.cons_append, recordElements] at h
      obtain ⟨-, -, h⟩ := bind_eq_ok_iff.1 h
      split at h
      · exact ih hothers.2 h
      · cases h
    | cons o rest =>
      rw [List.cons_append, recordElements] at h
      obtain ⟨r₁, hread, h⟩ := bind_eq_ok_iff.1 h
      rw [← hothers.1 o r r₁ hread]
      exact ih hothers.2 h

/-- However a record was written, what one part settles and the others leave alone is settled by
what is written for the part, and is as at the start if nothing is. -/
lemma get_record {before after : List (Slot σ)}
    (hpart : ∀ o r r', part.read o r = .ok r' → get r' = value o)
    (hothers : ∀ other ∈ before ++ after, ∀ o r r', other.read o r = .ok r' → get r' = get r)
    (hnodup : ((before ++ part :: after).map (·.name)).Nodup) {start r : σ} {o : Outline}
    (h : record start (before ++ part :: after) o = .ok r) :
    get r = ((o.part? part.name before.length).map value).getD (get start) := by
  cases o with
  | array level elements ending =>
    obtain ⟨-, -, h⟩ := bind_eq_ok_iff.1 h
    exact get_recordElements hpart hothers h
  | object level members ending =>
    obtain ⟨-, -, h⟩ := bind_eq_ok_iff.1 h
    have hmem : part ∈ before ++ part :: after := by simp
    have hothers' : ∀ other ∈ before ++ part :: after, other.name ≠ part.name →
        ∀ o r r', other.read o r = .ok r' → get r' = get r := by
      intro other hother hname
      refine hothers other ?_
      simp only [List.mem_append, List.mem_cons] at hother ⊢
      rcases hother with hbefore | rfl | hafter
      · exact Or.inl hbefore
      · exact absurd rfl hname
      · exact Or.inr hafter
    rw [(get_recordMembers hmem hpart hothers' hnodup h).2 List.not_mem_nil, Outline.part?,
      Option.map_map]
    rfl
  | _ => cases h

/-- A record is read from brackets within the limit, and what is true of the start and kept by every
part, read from one level further inside, is true of it. -/
lemma record_preserves {level : Nat} {start r : σ} {o : Outline} (hleveled : o.Leveled level)
    (hparts : ∀ part ∈ parts, part.Keeps P (Outline.Leveled (level + 1)))
    (hstart : level + 1 ≤ depthLimit → P start) (h : record start parts o = .ok r) : P r := by
  have hlevel : level + 1 ≤ depthLimit := by
    cases hleveled with
    | array helements =>
      obtain ⟨_, hlevel, -⟩ := bind_eq_ok_iff.1 h
      exact checkLevel_eq_ok_iff.1 hlevel
    | object hmembers =>
      obtain ⟨_, hlevel, -⟩ := bind_eq_ok_iff.1 h
      exact checkLevel_eq_ok_iff.1 hlevel
    | _ => cases h
  exact record_preserves_of_inside (fun _ => hleveled.of_isInside) hparts (hstart hlevel) h

/-- The items of a list are read from what stands inside its brackets. -/
lemma exists_isInside_of_list {item : Reader α} {o : Outline} {l : List α}
    (h : list item o = .ok l) :
    ∀ a ∈ l, ∃ inner : Outline, inner.IsInside o ∧ item inner = .ok a := by
  cases o with
  | array level elements ending =>
    obtain ⟨-, -, h⟩ := bind_eq_ok_iff.1 h
    obtain ⟨items, hitems, h⟩ := bind_eq_ok_iff.1 h
    obtain ⟨-, -, h⟩ := bind_eq_ok_iff.1 h
    cases h
    intro a ha
    obtain ⟨inner, hinner, hread⟩ := exists_left_of_mem_right (mapM_eq_ok_iff.1 hitems) ha
    exact ⟨inner, .element hinner, hread⟩
  | _ => cases h

/-- A list is read from brackets within the limit, and its items from one level further inside. -/
lemma exists_leveled_of_list {level : Nat} {item : Reader α} {o : Outline} {l : List α}
    (hleveled : o.Leveled level) (h : list item o = .ok l) :
    level + 1 ≤ depthLimit ∧ ∀ a ∈ l, ∃ inner, inner.Leveled (level + 1) ∧ item inner = .ok a := by
  constructor
  · cases hleveled with
    | array helements =>
      obtain ⟨_, hlevel, -⟩ := bind_eq_ok_iff.1 h
      exact checkLevel_eq_ok_iff.1 hlevel
    | _ => cases h
  · intro a ha
    obtain ⟨inner, hinner, hread⟩ := exists_isInside_of_list h a ha
    exact ⟨inner, hleveled.of_isInside hinner, hread⟩

/-- What an optional reader takes, its reader takes. -/
lemma eq_ok_of_optional {reader : Reader α} {o : Outline} {a : α}
    (h : optional reader o = .ok (some a)) : reader o = .ok a := by
  unfold optional at h
  split at h
  · cases h
  · cases hread : reader o with
    | error e =>
      rw [hread] at h
      cases h
    | ok b =>
      rw [hread] at h
      cases h
      rfl

end Reader

end PartQuery.Json
