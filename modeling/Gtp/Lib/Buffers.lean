/-
# Buffers that shed their oldest entry

A buffer holds at most `capacity` entries; one that is full sheds the oldest entry for the newest
and counts it.  A DIRECT entry is appended past the bound.

* Every entry is held or was shed (`pushAll_account`).  The counter is a number that does not wrap.
* The bound holds after a sequence of entries exactly when its direct entries come while there is
  room (`pushAll_le_iff`): a buffer past its bound never returns below it.

Entries are of any type, and which of them are direct is a parameter.  Taking entries out is left to
the user of the buffer, who takes all of them.
-/
import Mathlib.Data.List.Basic

/-- A buffer, its bound, and how many entries it has shed. -/
structure Buffer (α : Type*) where
  capacity : Nat
  held : List α
  shed : Nat

namespace Buffer

variable {α : Type*} (direct : α → Bool)

/-- One entry. -/
def push (b : Buffer α) (a : α) : Buffer α :=
  if direct a then { b with held := b.held ++ [a] }
  else if b.capacity = 0 then { b with shed := b.shed + 1 }
  else if b.capacity ≤ b.held.length then
    { b with held := b.held.drop 1 ++ [a], shed := b.shed + 1 }
  else { b with held := b.held ++ [a] }

/-- A sequence of entries. -/
def pushAll (b : Buffer α) (as : List α) : Buffer α := as.foldl (push direct) b

@[simp] theorem pushAll_nil (b : Buffer α) : b.pushAll direct [] = b := rfl

@[simp] theorem pushAll_cons (b : Buffer α) (a : α) (as : List α) :
    b.pushAll direct (a :: as) = (b.push direct a).pushAll direct as := rfl

theorem pushAll_append (b : Buffer α) (as as' : List α) :
    b.pushAll direct (as ++ as') = (b.pushAll direct as).pushAll direct as' :=
  List.foldl_append ..

variable {direct}

theorem push_of_direct (b : Buffer α) {a : α} (h : direct a = true) :
    b.push direct a = { b with held := b.held ++ [a] } := if_pos h

theorem capacity_push (b : Buffer α) (a : α) : (b.push direct a).capacity = b.capacity := by
  unfold push
  split
  · rfl
  · split
    · rfl
    · split <;> rfl

theorem push_account (b : Buffer α) (a : α) :
    (b.push direct a).shed + (b.push direct a).held.length = b.shed + b.held.length + 1 := by
  unfold push
  split
  · simp only [List.length_append, List.length_singleton]
    omega
  · split
    · simp only
      omega
    · split
      · simp only [List.length_append, List.length_drop, List.length_singleton]
        omega
      · simp only [List.length_append, List.length_singleton]
        omega

/-- **Accounting.**  Every entry is held or was shed. -/
theorem pushAll_account (b : Buffer α) (as : List α) :
    (b.pushAll direct as).shed + (b.pushAll direct as).held.length =
      b.shed + b.held.length + as.length := by
  induction as generalizing b with
  | nil => rfl
  | cons a as ih =>
    rw [pushAll_cons, ih, push_account, List.length_cons]
    omega

/-- A full buffer trades its oldest entry for an entry that is not direct. -/
theorem length_push_of_not_direct (b : Buffer α) {a : α} (h : direct a = false)
    (hle : b.held.length ≤ b.capacity) :
    (b.push direct a).held.length = min b.capacity (b.held.length + 1) := by
  unfold push
  rw [if_neg (by simp [h])]
  split
  · simp only
    omega
  · split
    · simp only [List.length_append, List.length_drop, List.length_singleton]
      omega
    · simp only [List.length_append, List.length_singleton]
      omega

/-- Past the bound there is no way back. -/
theorem lt_length_push (b : Buffer α) (a : α) (h : b.capacity < b.held.length) :
    b.capacity < (b.push direct a).held.length := by
  unfold push
  split
  · simp only [List.length_append, List.length_singleton]
    omega
  · split
    · exact h
    · split
      · simp only [List.length_append, List.length_drop, List.length_singleton]
        omega
      · simp only [List.length_append, List.length_singleton]
        omega

theorem lt_length_pushAll (b : Buffer α) (as : List α) (h : b.capacity < b.held.length) :
    b.capacity < (b.pushAll direct as).held.length := by
  induction as generalizing b with
  | nil => exact h
  | cons a as ih =>
    have hstep := ih (b.push direct a) (by
      rw [capacity_push]
      exact b.lt_length_push a h)
    rw [capacity_push] at hstep
    exact hstep

/-- **The bound** holds after a sequence of entries exactly when its direct entries come while there
is room. -/
theorem pushAll_le_iff (b : Buffer α) (as : List α) (hle : b.held.length ≤ b.capacity) :
    (b.pushAll direct as).held.length ≤ b.capacity ↔
      ∀ i a, as[i]? = some a → direct a = true → b.held.length + i < b.capacity := by
  induction as generalizing b with
  | nil => simp [hle]
  | cons a as ih =>
    rw [pushAll_cons]
    cases hdirect : direct a with
    | true =>
      rcases Nat.lt_or_ge b.held.length b.capacity with hroom | hfull
      · have hlen : (b.push direct a).held.length = b.held.length + 1 := by
          rw [push_of_direct b hdirect, List.length_append, List.length_singleton]
        have hrest := ih (b.push direct a) (by rw [capacity_push, hlen]; exact hroom)
        rw [capacity_push, hlen] at hrest
        rw [hrest]
        constructor
        · rintro h (_ | i) x hx hd
          · exact hroom
          · have := h i x hx hd
            omega
        · intro h i x hx hd
          have := h (i + 1) x hx hd
          omega
      · refine iff_of_false (Nat.not_le.mpr ?_) ?_
        · have hover : (b.push direct a).capacity < (b.push direct a).held.length := by
            rw [push_of_direct b hdirect, List.length_append, List.length_singleton]
            exact Nat.lt_succ_of_le hfull
          have hall := @lt_length_pushAll α direct (b.push direct a) as hover
          rwa [capacity_push] at hall
        · intro h
          exact absurd (h 0 a rfl hdirect) (Nat.not_lt.mpr hfull)
    | false =>
      have hlen := b.length_push_of_not_direct hdirect hle
      have hrest := ih (b.push direct a) (by rw [capacity_push, hlen]; exact Nat.min_le_left _ _)
      rw [capacity_push, hlen] at hrest
      rw [hrest]
      constructor
      · rintro h (_ | i) x hx hd
        · obtain rfl := Option.some.inj hx
          rw [hdirect] at hd
          cases hd
        · have := h i x hx hd
          omega
      · intro h i x hx hd
        have := h (i + 1) x hx hd
        omega

end Buffer
