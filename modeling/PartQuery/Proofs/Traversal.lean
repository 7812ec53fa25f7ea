import Mathlib.Data.List.Forall2
import Mathlib.Tactic.Lemma

/-!
# Computations that may fail

A computation that runs over a list from left to right and may fail at each element fails exactly
when it fails at some element, and then with the error of the first of these. If it does not fail,
its results come one by one from the elements.
-/

namespace PartQuery

variable {ε α β γ : Type}

/-! ## Errors -/

/-- The error that a computation fails with, if it fails. -/
def errorOf? : Except ε α → Option ε
  | .ok _ => none
  | .error e => some e

@[simp] lemma errorOf?_ok (a : α) : errorOf? (.ok a : Except ε α) = none := rfl

@[simp] lemma errorOf?_error (e : ε) : errorOf? (.error e : Except ε α) = some e := rfl

/-- The computation has an error exactly when it is that error. -/
lemma errorOf?_eq_some_iff {x : Except ε α} {e : ε} : errorOf? x = some e ↔ x = .error e := by
  cases x <;> simp

/-- The computation has no error exactly when it has a result. -/
lemma errorOf?_eq_none_iff {x : Except ε α} : errorOf? x = none ↔ ∃ a, x = .ok a := by
  cases x <;> simp

/-- What is made of a result does not change the error. -/
lemma errorOf?_bind_return (x : Except ε α) (f : α → β) :
    errorOf? (do let a ← x; return f a) = errorOf? x := by
  cases x <;> rfl

/-- Of two computations in a row the first that fails decides the error. -/
lemma errorOf?_bind_bind_return (x : Except ε α) (y : Except ε β) (f : α → β → γ) :
    errorOf? (do let a ← x; let b ← y; return f a b) = (errorOf? x).or (errorOf? y) := by
  cases x with
  | error e => rfl
  | ok a => cases y <;> rfl

/-- Two computations in a row have a result exactly when the first has one from which the second
makes it. -/
lemma bind_eq_ok_iff {x : Except ε α} {f : α → Except ε β} {b : β} :
    x >>= f = .ok b ↔ ∃ a, x = .ok a ∧ f a = .ok b := by
  cases x <;> simp [bind, Except.bind]

/-- Something is made of a result exactly when there is one. -/
lemma map_eq_ok_iff {x : Except ε α} {f : α → β} {b : β} :
    x.map f = .ok b ↔ ∃ a, x = .ok a ∧ f a = b := by
  cases x <;> simp [Except.map]

/-! ## Lists -/

/-- The error of a traversal is the first error of an element. -/
lemma errorOf?_mapM (f : α → Except ε β) (l : List α) :
    errorOf? (l.mapM f) = l.findSome? fun a => errorOf? (f a) := by
  induction l with
  | nil => rfl
  | cons a l ih =>
    rw [List.mapM_cons, errorOf?_bind_bind_return, ih, List.findSome?_cons]
    cases errorOf? (f a) <;> rfl

/-- The first answer in lists that are strung together is the answer of the first list that has
one. -/
lemma findSome?_eq_findSome?_flatMap {f : β → Option γ} {g : α → List β} {k : α → Option γ}
    {l : List α} (h : ∀ a ∈ l, k a = (g a).findSome? f) :
    l.findSome? k = (l.flatMap g).findSome? f := by
  induction l with
  | nil => rfl
  | cons a l ih =>
    have hrest : l.findSome? k = (l.flatMap g).findSome? f :=
      ih fun b hb => h b (List.mem_cons_of_mem a hb)
    rw [List.findSome?_cons, List.flatMap_cons, List.findSome?_append, h a List.mem_cons_self,
      hrest]
    cases (g a).findSome? f <;> rfl

/-- A traversal has results exactly when each element has one, to which its own belongs. -/
lemma mapM_eq_ok_iff {f : α → Except ε β} {l : List α} {m : List β} :
    l.mapM f = .ok m ↔ List.Forall₂ (fun a b => f a = .ok b) l m := by
  induction l generalizing m with
  | nil => cases m <;> simp [pure, Except.pure]
  | cons a l ih =>
    rw [List.mapM_cons]
    cases ha : f a with
    | error e => cases m <;> simp [bind, Except.bind, ha]
    | ok b =>
      cases hl : l.mapM f with
      | error e => cases m <;> simp [bind, Except.bind, ← ih, hl]
      | ok bs => cases m <;> simp [bind, Except.bind, pure, Except.pure, ← ih, ha, hl]

/-! ## Pairings -/

/-- What stands on the right of a pairing stands opposite to something on the left. -/
lemma exists_left_of_mem_right {R : α → β → Prop} {l : List α} {m : List β} {b : β}
    (h : List.Forall₂ R l m) (hb : b ∈ m) : ∃ a ∈ l, R a b := by
  induction h with
  | nil => cases hb
  | cons hab _ ih =>
    rcases List.mem_cons.1 hb with rfl | hb
    · exact ⟨_, List.mem_cons_self, hab⟩
    · obtain ⟨a, ha, hR⟩ := ih hb
      exact ⟨a, List.mem_cons_of_mem _ ha, hR⟩

/-- What stands on the left of a pairing stands opposite to something on the right. -/
lemma exists_right_of_mem_left {R : α → β → Prop} {l : List α} {m : List β} {a : α}
    (h : List.Forall₂ R l m) (ha : a ∈ l) : ∃ b ∈ m, R a b := by
  obtain ⟨b, hb, hR⟩ := exists_left_of_mem_right h.flip ha
  exact ⟨b, hb, hR⟩

/-- Lists that are strung together are paired if they are paired one by one. -/
lemma forall₂_flatMap {δ : Type} {R : α → β → Prop} {S : γ → δ → Prop} {l : List α} {m : List β}
    {f : α → List γ} {g : β → List δ} (h : List.Forall₂ R l m)
    (hfg : ∀ a ∈ l, ∀ b, R a b → List.Forall₂ S (f a) (g b)) :
    List.Forall₂ S (l.flatMap f) (m.flatMap g) := by
  induction h with
  | nil => exact .nil
  | cons hab _ ih =>
    rw [List.flatMap_cons, List.flatMap_cons]
    refine List.rel_append (hfg _ List.mem_cons_self _ hab) (ih ?_)
    intro a ha
    exact hfg a (List.mem_cons_of_mem _ ha)

/-- Operands that are all read come one by one from the values. -/
lemma forall₂_of_mapM_eq_some {f : α → Option β} {l : List α} {m : List β}
    (h : l.mapM f = some m) : List.Forall₂ (fun a b => f a = some b) l m := by
  induction l generalizing m with
  | nil => simp_all
  | cons a l ih =>
    simp only [List.mapM_cons, Option.pure_def, Option.bind_eq_bind, Option.bind_eq_some_iff,
      Option.some.injEq] at h
    obtain ⟨b, hb, m', hm', rfl⟩ := h
    exact .cons hb (ih hm')

/-- Operands are not all read exactly when one of them is not. -/
lemma mapM_eq_none_iff {f : α → Option β} {l : List α} :
    l.mapM f = none ↔ ∃ a ∈ l, f a = none := by
  induction l with
  | nil => simp
  | cons a l ih =>
    rw [List.mapM_cons]
    cases ha : f a with
    | none => simp [ha]
    | some b => cases hl : l.mapM f <;> simp_all

/-- A traversal asks only for what is made of the elements of the list. -/
lemma mapM_congr {m : Type → Type} [Monad m] [LawfulMonad m] {f g : α → m β} {l : List α}
    (h : ∀ a ∈ l, f a = g a) : l.mapM f = l.mapM g := by
  induction l with
  | nil => rfl
  | cons a l ih =>
    obtain ⟨hfirst, hrest⟩ := List.forall_mem_cons.1 h
    rw [List.mapM_cons, List.mapM_cons, hfirst, ih hrest]

/-- A property of all images holds of every operand that is read. -/
lemma forall_mem_of_mapM_eq_some {f : α → Option β} {l : List α} {m : List β}
    {P : β → Prop} (h : l.mapM f = some m) (hP : ∀ a b, f a = some b → P b) :
    ∀ b ∈ m, P b := by
  intro b hb
  obtain ⟨a, -, ha⟩ := exists_left_of_mem_right (forall₂_of_mapM_eq_some h) hb
  exact hP a b ha

end PartQuery
