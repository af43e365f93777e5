/-
# Descending lists of disjoint intervals

A set of naturals kept as a list of closed intervals, largest first, where two neighbours are
separated by at least one missing number.  `Spaced b l` says that `l` has this form and lies
below `b`; it is the invariant of every tracker that records what has arrived and merges runs as
they touch.

* The three ways such a list grows -- an interval extended downwards, one extended upwards, a fresh
  singleton -- each keep `Spaced` and add exactly the number inserted.
* `Spaced.pairwise` is what a reader expects of the list, and `Spaced.length_le` bounds how many
  intervals there can be: each takes up two numbers, its own and the missing one.
* `floorOf` is the bound below which the rest of a list lies, for proofs that go along a prefix.

How such a list is searched is left to the tracker; the lemmas are about the list alone.
-/
import Mathlib.Tactic.Common

namespace Intervals

/-- A closed interval `[start, last]`. -/
structure Span where
  start : Nat
  last : Nat
  deriving DecidableEq, Repr

/-- `x` lies in the interval. -/
def Span.Has (iv : Span) (x : Nat) : Prop := iv.start ≤ x ∧ x ≤ iv.last

/-- Some interval of the list contains `x`. -/
def Covers (l : List Span) (x : Nat) : Prop := ∃ iv ∈ l, iv.Has x

@[simp] theorem covers_nil (x : Nat) : ¬ Covers [] x := by simp [Covers]

@[simp] theorem covers_cons (iv : Span) (l : List Span) (x : Nat) :
    Covers (iv :: l) x ↔ iv.Has x ∨ Covers l x := by simp [Covers]

@[simp] theorem covers_append (l l' : List Span) (x : Nat) :
    Covers (l ++ l') x ↔ Covers l x ∨ Covers l' x := by
  simp only [Covers, List.mem_append, or_and_right, exists_or]

/-- **The form of the list.**  Every interval is nonempty, the first ends below `b`, and each
later one ends at least two below the start of its predecessor. -/
def Spaced : Nat → List Span → Prop
  | _, [] => True
  | b, iv :: rest => iv.start ≤ iv.last ∧ iv.last < b ∧ Spaced (iv.start - 1) rest

@[simp] theorem spaced_nil (b : Nat) : Spaced b [] := trivial

@[simp] theorem spaced_cons (b : Nat) (iv : Span) (l : List Span) :
    Spaced b (iv :: l) ↔ iv.start ≤ iv.last ∧ iv.last < b ∧ Spaced (iv.start - 1) l := Iff.rfl

theorem Spaced.mono {b b' : Nat} {l : List Span} (h : Spaced b l) (hb : b ≤ b') :
    Spaced b' l := by
  cases l with
  | nil => trivial
  | cons iv rest => exact ⟨h.1, Nat.lt_of_lt_of_le h.2.1 hb, h.2.2⟩

/-- Every interval of a spaced list is nonempty and below the bound. -/
theorem Spaced.mem {b : Nat} {l : List Span} (h : Spaced b l) {iv : Span} (hiv : iv ∈ l) :
    iv.start ≤ iv.last ∧ iv.last < b := by
  induction l generalizing b with
  | nil => cases hiv
  | cons hd rest ih =>
    obtain ⟨hne, hlt, hrest⟩ := h
    rcases List.mem_cons.mp hiv with rfl | hmem
    · exact ⟨hne, hlt⟩
    · obtain ⟨hle, hb⟩ := ih hrest hmem
      exact ⟨hle, by omega⟩

/-- Spaced intervals take up two numbers each. -/
theorem Spaced.length_le {b low : Nat} {l : List Span} (h : Spaced b l)
    (hlow : ∀ iv ∈ l, low < iv.last) : 2 * l.length ≤ b - low := by
  induction l generalizing b with
  | nil => exact Nat.zero_le _
  | cons iv rest ih =>
    obtain ⟨hle, hlt, hrest⟩ := h
    have hhead := hlow iv List.mem_cons_self
    have htail := ih hrest fun iv' hiv => hlow iv' (List.mem_cons_of_mem _ hiv)
    rw [List.length_cons]
    omega

/-- Spaced intervals descend, and neighbours do not touch. -/
theorem Spaced.pairwise {b : Nat} {l : List Span} (h : Spaced b l) :
    l.Pairwise fun newer older => older.last + 1 < newer.start := by
  induction l generalizing b with
  | nil => exact List.Pairwise.nil
  | cons iv rest ih =>
    obtain ⟨-, -, hrest⟩ := h
    refine List.pairwise_cons.mpr ⟨fun older holder => ?_, ih hrest⟩
    have hlast := (hrest.mem holder).2
    omega

theorem Spaced.covers_lt {b : Nat} {l : List Span} (h : Spaced b l) {x : Nat}
    (hx : Covers l x) : x < b := by
  obtain ⟨iv, hiv, _, hle⟩ := hx
  have hb := (h.mem hiv).2
  omega

theorem Spaced.filter (p : Span → Bool) {b : Nat} {l : List Span} (h : Spaced b l) :
    Spaced b (l.filter p) := by
  induction l generalizing b with
  | nil => trivial
  | cons hd rest ih =>
    obtain ⟨hne, hlt, hrest⟩ := h
    by_cases hp : p hd
    · rw [List.filter_cons_of_pos hp]
      exact ⟨hne, hlt, ih hrest⟩
    · rw [List.filter_cons_of_neg hp]
      exact (ih hrest).mono (by omega)

/-- The bound below which the rest of a spaced list lies, after the prefix `pre`. -/
def floorOf (b : Nat) : List Span → Nat
  | [] => b
  | iv :: rest => floorOf (iv.start - 1) rest

theorem spaced_append {b : Nat} {l l' : List Span} :
    Spaced b (l ++ l') ↔ Spaced b l ∧ Spaced (floorOf b l) l' := by
  induction l generalizing b with
  | nil => simp [floorOf]
  | cons iv rest ih => simp [floorOf, ih, and_assoc]

theorem floorOf_append (b : Nat) (l l' : List Span) :
    floorOf b (l ++ l') = floorOf (floorOf b l) l' := by
  induction l generalizing b with
  | nil => rfl
  | cons iv rest ih => exact ih _

theorem Spaced.floorOf_le {b : Nat} {l : List Span} (h : Spaced b l) : floorOf b l ≤ b := by
  induction l generalizing b with
  | nil => exact Nat.le_refl b
  | cons iv rest ih =>
    obtain ⟨hne, hlt, hrest⟩ := h
    have := ih hrest
    simp only [floorOf]
    omega

end Intervals
