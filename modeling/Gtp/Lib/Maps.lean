/-
# Ordered maps under equality of keys

The lemmas of `Std.ExtTreeMap` speak of keys that compare equal.  For a lawful order these are the
keys that are equal, and in that form the lemmas can be used with `split` and `if_pos`.

* Membership, look-up and size after an insertion and an erasure, one lemma each.
* The entries of a map are a list without repetition, to which an insertion adds one
  (`toList_insert_perm`) and an erasure takes one off (`toList_perm_erase`).  So what a map holds
  can be accounted for as a multiset.
* `total` is the sum of a quantity over the values, and follows the same two operations.

The order of the keys plays no role in any of these lemmas.
-/
import Mathlib.Data.List.Nodup
import Mathlib.Algebra.GroupWithZero.Nat
import Mathlib.Algebra.Order.Group.Nat
import Mathlib.Algebra.Order.BigOperators.Group.List
import Std.Data.ExtTreeMap.Lemmas

namespace Maps

section Membership

variable {α β : Type*} [Ord α] [Std.TransOrd α]

theorem mem_iff {m : Std.ExtTreeMap α β compare} {a : α} : a ∈ m ↔ ∃ v, m[a]? = some v := by
  rw [Std.ExtTreeMap.mem_iff_isSome_getElem?, Option.isSome_iff_exists]

theorem not_mem_iff {m : Std.ExtTreeMap α β compare} {a : α} : a ∉ m ↔ m[a]? = none := by
  rw [mem_iff, Option.eq_none_iff_forall_ne_some, not_exists]

theorem size_insert_of_mem {m : Std.ExtTreeMap α β compare} {k : α} (h : k ∈ m) (v : β) :
    (m.insert k v).size = m.size := by
  rw [Std.ExtTreeMap.size_insert, if_pos (Std.ExtTreeMap.mem_iff_contains.mp h)]

theorem size_erase_of_mem {m : Std.ExtTreeMap α β compare} {k : α} (h : k ∈ m) :
    (m.erase k).size = m.size - 1 := by
  rw [Std.ExtTreeMap.size_erase, if_pos (Std.ExtTreeMap.mem_iff_contains.mp h)]

end Membership

section Updates

variable {α β : Type*} [DecidableEq α] [Ord α] [Std.TransOrd α] [Std.LawfulEqOrd α]

theorem getElem?_insert (m : Std.ExtTreeMap α β compare) (k a : α) (v : β) :
    (m.insert k v)[a]? = if k = a then some v else m[a]? := by
  simp only [Std.ExtTreeMap.getElem?_insert, Std.LawfulEqOrd.compare_eq_iff_eq]

theorem getElem?_erase (m : Std.ExtTreeMap α β compare) (k a : α) :
    (m.erase k)[a]? = if k = a then none else m[a]? := by
  simp only [Std.ExtTreeMap.getElem?_erase, Std.LawfulEqOrd.compare_eq_iff_eq]

theorem getElem?_foldl_erase (ks : List α) (m : Std.ExtTreeMap α β compare) (a : α) :
    (ks.foldl (fun m k => m.erase k) m)[a]? = if a ∈ ks then none else m[a]? := by
  induction ks generalizing m with
  | nil => rfl
  | cons k ks ih =>
    rw [List.foldl_cons, ih, getElem?_erase]
    by_cases ha : a ∈ ks
    · rw [if_pos ha, if_pos (List.mem_cons_of_mem k ha)]
    · rw [if_neg ha]
      by_cases hk : k = a
      · rw [if_pos hk, if_pos (hk ▸ List.mem_cons_self)]
      · rw [if_neg hk, if_neg (List.not_mem_cons_of_ne_of_not_mem (Ne.symm hk) ha)]

omit [DecidableEq α] in
theorem mem_insert (m : Std.ExtTreeMap α β compare) (k a : α) (v : β) :
    a ∈ m.insert k v ↔ k = a ∨ a ∈ m := by
  rw [Std.ExtTreeMap.mem_insert, Std.LawfulEqOrd.compare_eq_iff_eq]

omit [DecidableEq α] in
theorem mem_erase (m : Std.ExtTreeMap α β compare) (k a : α) :
    a ∈ m.erase k ↔ k ≠ a ∧ a ∈ m := by
  rw [Std.ExtTreeMap.mem_erase, ne_eq, ne_eq, Std.LawfulEqOrd.compare_eq_iff_eq]

theorem erase_eq_self_iff (m : Std.ExtTreeMap α β compare) (k : α) : m.erase k = m ↔ k ∉ m := by
  constructor
  · intro h hk
    rw [← h, mem_erase] at hk
    exact hk.1 rfl
  · intro hk
    apply Std.ExtTreeMap.ext_getElem?
    intro a
    rw [getElem?_erase]
    split
    · rename_i ha
      rw [← ha, not_mem_iff.mp hk]
    · rfl

omit [DecidableEq α] in
theorem filter_eq_self_iff (m : Std.ExtTreeMap α β compare) (f : α → β → Bool) :
    m.filter f = m ↔ ∀ a v, m[a]? = some v → f a v = true := by
  constructor
  · intro h a v hv
    rw [← h, Std.ExtTreeMap.getElem?_filter'] at hv
    exact (Option.filter_eq_some_iff.mp hv).2
  · intro h
    apply Std.ExtTreeMap.ext_getElem?
    intro a
    rw [Std.ExtTreeMap.getElem?_filter']
    cases hv : m[a]? with
    | none => rfl
    | some v => exact Option.filter_eq_some_iff.mpr ⟨rfl, h a v hv⟩

theorem insert_insert (m : Std.ExtTreeMap α β compare) (k : α) (v v' : β) :
    (m.insert k v).insert k v' = m.insert k v' := by
  apply Std.ExtTreeMap.ext_getElem?
  intro a
  simp only [getElem?_insert]
  split <;> rfl

end Updates

section Entries

variable {α β : Type*} [DecidableEq α] [Ord α] [Std.TransOrd α] [Std.LawfulEqOrd α]

omit [DecidableEq α] [Std.LawfulEqOrd α] in
theorem nodup_toList (m : Std.ExtTreeMap α β compare) : m.toList.Nodup := by
  refine m.distinct_keys_toList.imp ?_
  rintro a b hne rfl
  exact hne Std.compare_self

theorem toList_insert_perm {m : Std.ExtTreeMap α β compare} {k : α} (h : k ∉ m) (v : β) :
    (m.insert k v).toList.Perm ((k, v) :: m.toList) := by
  have hnone := not_mem_iff.mp h
  have hfresh : (k, v) ∉ m.toList := by
    rw [Std.ExtTreeMap.mem_toList_iff_getElem?_eq_some, hnone]
    exact fun h => by cases h
  rw [List.perm_ext_iff_of_nodup (nodup_toList _) (List.nodup_cons.mpr ⟨hfresh, nodup_toList _⟩)]
  rintro ⟨a, w⟩
  rw [List.mem_cons, Std.ExtTreeMap.mem_toList_iff_getElem?_eq_some,
    Std.ExtTreeMap.mem_toList_iff_getElem?_eq_some, getElem?_insert, Prod.mk.injEq]
  split
  · rename_i hk
    subst hk
    simp [hnone, eq_comm]
  · rename_i hk
    simp [Ne.symm hk]

theorem toList_perm_erase {m : Std.ExtTreeMap α β compare} {k : α} {v : β} (h : m[k]? = some v) :
    m.toList.Perm ((k, v) :: (m.erase k).toList) := by
  have hgone : k ∉ m.erase k := by
    rw [mem_erase]
    exact fun hk => hk.1 rfl
  have hback : (m.erase k).insert k v = m := by
    apply Std.ExtTreeMap.ext_getElem?
    intro a
    rw [getElem?_insert, getElem?_erase]
    split
    · rename_i hk
      rw [← hk, h]
    · rfl
  have hperm := toList_insert_perm hgone v
  rw [hback] at hperm
  exact hperm

/-- The sum of `f` over the values of a map. -/
def total (f : β → Nat) (m : Std.ExtTreeMap α β compare) : Nat :=
  (m.toList.map fun e => f e.2).sum

omit [DecidableEq α] [Std.LawfulEqOrd α] in
@[simp]
theorem total_empty (f : β → Nat) : total f (∅ : Std.ExtTreeMap α β compare) = 0 := by
  rw [total, Std.ExtTreeMap.toList_eq_nil_iff.mpr rfl]
  rfl

theorem total_insert {m : Std.ExtTreeMap α β compare} {k : α} (h : k ∉ m) (f : β → Nat) (v : β) :
    total f (m.insert k v) = f v + total f m := by
  have hperm := (toList_insert_perm h v).map fun e => f e.2
  rw [total, hperm.sum_eq, List.map_cons, List.sum_cons]
  rfl

theorem total_erase {m : Std.ExtTreeMap α β compare} {k : α} {v : β} (h : m[k]? = some v)
    (f : β → Nat) : total f m = f v + total f (m.erase k) := by
  have hperm := (toList_perm_erase h).map fun e => f e.2
  rw [total, hperm.sum_eq, List.map_cons, List.sum_cons]
  rfl

theorem le_total {m : Std.ExtTreeMap α β compare} {k : α} {v : β} (h : m[k]? = some v)
    (f : β → Nat) : f v ≤ total f m := by
  rw [total_erase h f]
  exact Nat.le_add_right _ _

theorem total_replace {m : Std.ExtTreeMap α β compare} {k : α} {v : β} (h : m[k]? = some v)
    (f : β → Nat) (v' : β) : total f (m.insert k v') + f v = total f m + f v' := by
  have hgone : k ∉ m.erase k := by
    rw [mem_erase]
    exact fun hk => hk.1 rfl
  have hsame : (m.erase k).insert k v' = m.insert k v' := by
    apply Std.ExtTreeMap.ext_getElem?
    intro a
    rw [getElem?_insert, getElem?_insert, getElem?_erase]
    split <;> rfl
  rw [← hsame, total_insert hgone, total_erase h f]
  omega

omit [DecidableEq α] in
/-- Two quantities that agree on the values have the same sum. -/
theorem total_congr {f g : β → Nat} {m : Std.ExtTreeMap α β compare}
    (h : ∀ (k : α) (v : β), m[k]? = some v → f v = g v) : total f m = total g m := by
  refine congrArg List.sum (List.map_congr_left fun e he => ?_)
  obtain ⟨k, v⟩ := e
  exact h k v (Std.ExtTreeMap.mem_toList_iff_getElem?_eq_some.mp he)

omit [DecidableEq α] in
/-- A bound on the values is a bound on their sum. -/
theorem total_le_mul {f : β → Nat} {m : Std.ExtTreeMap α β compare} {bound : Nat}
    (h : ∀ (k : α) (v : β), m[k]? = some v → f v ≤ bound) : total f m ≤ m.size * bound := by
  have hall : ∀ n ∈ m.toList.map fun e => f e.2, n ≤ bound := by
    intro n hn
    obtain ⟨⟨k, v⟩, he, rfl⟩ := List.mem_map.mp hn
    exact h k v (Std.ExtTreeMap.mem_toList_iff_getElem?_eq_some.mp he)
  have hsum := List.sum_le_card_nsmul _ bound hall
  rw [List.length_map, Std.ExtTreeMap.length_toList] at hsum
  exact hsum

end Entries

end Maps
