/-
# A family of queues as one multiset

Items wait in several queues, and `f` is what an item is worth, if anything.  `gathered` is what all
of them hold together, in whatever queue and whatever order.  An item that is put in adds what it is
worth (`gathered_put`), and items that are dropped only take away (`gathered_le`).

So a conservation law about the items of a scheduler needs no word about its tiers: it is an
equation or an inequality of multisets, and the order in which items are served does not come into
it.
-/
import Mathlib.Algebra.BigOperators.Group.Finset.Piecewise
import Mathlib.Algebra.Order.BigOperators.Group.Finset
import Mathlib.Algebra.Order.Group.Multiset
import Mathlib.Tactic.Abel

namespace Buckets

variable {ι α β : Type*} (f : α → Option β)

def worth (items : List α) : Multiset β := (items.filterMap f : List β)

@[simp] theorem worth_nil : worth f [] = 0 := rfl

theorem worth_cons (x : α) (items : List α) : worth f (x :: items) = worth f [x] + worth f items := by
  rw [worth, worth, worth, Multiset.coe_add, ← List.filterMap_append]
  rfl

theorem worth_perm {xs ys : List α} (h : xs.Perm ys) : worth f xs = worth f ys :=
  Multiset.coe_eq_coe.mpr (h.filterMap f)

theorem worth_le {xs ys : List α} (h : xs.Sublist ys) : worth f xs ≤ worth f ys :=
  Multiset.coe_le.mpr (h.filterMap f).subperm

theorem worth_eq_zero {items : List α} (h : ∀ x ∈ items, f x = none) : worth f items = 0 :=
  congrArg _ (List.filterMap_eq_nil_iff.mpr h)

variable [Fintype ι]

/-- What all queues hold. -/
def gathered (queues : ι → List α) : Multiset β := ∑ i, worth f (queues i)

theorem gathered_le {queues queues' : ι → List α} (h : ∀ i, (queues' i).Sublist (queues i)) :
    gathered f queues' ≤ gathered f queues :=
  Finset.sum_le_sum fun i _ => worth_le f (h i)

variable [DecidableEq ι]

theorem gathered_update (queues : ι → List α) (i : ι) (q : List α) :
    gathered f (Function.update queues i q) + worth f (queues i) =
      gathered f queues + worth f q := by
  have happly : ∀ j, worth f (Function.update queues i q j) =
      Function.update (fun j => worth f (queues j)) i (worth f q) j :=
    fun j => Function.apply_update (fun _ => worth f) queues i q j
  have hsplit := Finset.sum_update_of_mem (Finset.mem_univ i) (fun j => worth f (queues j))
    (worth f q)
  have hself := Finset.add_sum_erase Finset.univ (fun j => worth f (queues j)) (Finset.mem_univ i)
  rw [Finset.sdiff_singleton_eq_erase] at hsplit
  simp only [gathered, happly]
  rw [hsplit, ← hself]
  abel

theorem gathered_put {queues : ι → List α} {i : ι} {q : List α} {x : α}
    (h : q.Perm (x :: queues i)) :
    gathered f (Function.update queues i q) = gathered f queues + worth f [x] := by
  have hsum := gathered_update f queues i q
  rw [worth_perm f h, worth_cons, ← add_assoc] at hsum
  exact add_right_cancel hsum

end Buckets
