/-
# Runs of the state table

Any updates, one after the other, on a table of any capacity.

* The order and the entries stay in step, and the table stays within its capacity, where a capacity
  of 0 counts as 1 (`Bounded`).
* What it has of a key is the last update that it took in since the key was last inserted
  (`acceptedSince`, `Recorded.after`).
* `should_admit` and `update` compare generation and sequence each on its own, and agree
  (`Ordered.update_returns`, `Ordered.after_admitted`).

`state_table_runs` puts these together.  "Newer" is the serial comparison, which is not transitive:
what a table has of a key is newer than what it had just before, and need not be newer than what it
had earlier.  And a key that was forgotten starts over, so an older state of it may be taken in.
-/
import Gtp.StateTable

namespace Gtp

/-! ## 1. Serial numbers -/

/-- `a` comes after `b`, by less than half of the range. -/
def SerialAfter (a b : UInt32) : Prop := ∃ d : Nat, 0 < d ∧ d < 2 ^ 31 ∧ a = b + UInt32.ofNat d

theorem isNewerThan_iff (a b : UInt32) : isNewerThan a b = true ↔ SerialAfter a b := by
  unfold isNewerThan
  dsimp only
  rw [Bool.and_eq_true, decide_eq_true_iff, decide_eq_true_iff, UInt32.lt_iff_toNat_lt,
    UInt32.lt_iff_toNat_lt]
  constructor
  · rintro ⟨hpos, hhalf⟩
    refine ⟨(a - b).toNat, hpos, hhalf, ?_⟩
    rw [UInt32.ofNat_toNat, UInt32.add_comm, UInt32.sub_add_cancel]
  · rintro ⟨d, hpos, hhalf, rfl⟩
    have hdiff : b + UInt32.ofNat d - b = UInt32.ofNat d := by
      rw [UInt32.add_comm, UInt32.add_sub_cancel]
    rw [hdiff, UInt32.toNat_ofNat_of_lt' (Nat.lt_trans hhalf (by decide))]
    exact ⟨hpos, hhalf⟩

theorem not_serialAfter_self (a : UInt32) : ¬ SerialAfter a a := by
  rw [← isNewerThan_iff, isNewerThan, UInt32.sub_self]
  decide

namespace StateTable

/-- The arguments of a call of `update`. -/
structure Update where
  key : StateKey
  gen : GenerationId
  seq : StateSequence
  msgId : MessageId

/-- What the table has of the key of an update that it takes in. -/
def Update.value (u : Update) : GenerationId × StateSequence × MessageId := (u.gen, u.seq, u.msgId)

/-- The generation comes after, or is the same and the sequence comes after. -/
def Update.NewerThan (u : Update) (curr : GenerationId × StateSequence × MessageId) : Prop :=
  SerialAfter u.gen curr.1 ∨ u.gen = curr.1 ∧ SerialAfter u.seq curr.2.1

theorem Update.isNewer_iff (u : Update) (curr : GenerationId × StateSequence × MessageId) :
    isNewer u.gen u.seq curr = true ↔ u.NewerThan curr := by
  rw [isNewer, Bool.or_eq_true, Bool.and_eq_true, decide_eq_true_iff, isNewerThan_iff,
    isNewerThan_iff]
  rfl

/-- An update that is newer differs from what the table has. -/
theorem Update.NewerThan.value_ne {u : Update} {curr : GenerationId × StateSequence × MessageId}
    (h : u.NewerThan curr) : u.value ≠ curr := by
  rintro rfl
  rcases h with hgen | ⟨-, hseq⟩
  · exact not_serialAfter_self _ hgen
  · exact not_serialAfter_self _ hseq

/-! ## 2. One update -/

/-- `StateTable::with_capacity`. -/
def withCapacity (capacity : Nat) : StateTable := ⟨∅, [], max capacity 1⟩

example : new = withCapacity 4096 := rfl

def after (t : StateTable) (u : Update) : StateTable := (t.update u.key u.gen u.seq u.msgId).1

/-- The table takes the update in. -/
def Admits (t : StateTable) (u : Update) : Prop := t.shouldAdmit u.key u.gen u.seq = true

instance (t : StateTable) (u : Update) : Decidable (t.Admits u) :=
  inferInstanceAs (Decidable (_ = true))

section Step

variable {t : StateTable} {u : Update} {curr : GenerationId × StateSequence × MessageId}

theorem admits_unknown (hnone : t.entries[u.key.toU48]? = none) : t.Admits u :=
  shouldAdmit_unknown hnone u.gen u.seq

theorem admits_known (hcurr : t.entries[u.key.toU48]? = some curr) :
    t.Admits u ↔ u.NewerThan curr := by
  rw [Admits, shouldAdmit, hcurr]
  exact u.isNewer_iff curr

theorem update_refused (h : ¬ t.Admits u) : t.update u.key u.gen u.seq u.msgId = (t, none) := by
  cases hcurr : t.entries[u.key.toU48]? with
  | none => exact absurd (admits_unknown hcurr) h
  | some curr =>
    have hnewer : ¬ isNewer u.gen u.seq curr = true := by
      rw [u.isNewer_iff, ← admits_known hcurr]
      exact h
    unfold update
    rw [hcurr]
    dsimp only
    rw [if_neg hnewer]

theorem after_refused (h : ¬ t.Admits u) : t.after u = t := by
  rw [after, update_refused h]

/-- The table is in order, and within its capacity. -/
structure Bounded (t : StateTable) : Prop where
  ordered : t.Ordered
  length : t.order.length ≤ t.capacity

theorem bounded_withCapacity (capacity : Nat) : (withCapacity capacity).Bounded :=
  ⟨⟨List.nodup_nil, fun k => (by simp [withCapacity]), Nat.le_max_right _ _⟩, Nat.zero_le _⟩

theorem Bounded.after (h : t.Bounded) (u : Update) : (t.after u).Bounded := by
  by_cases hadmits : t.Admits u
  · refine ⟨(h.ordered.update_admitted hadmits u.msgId).1, ?_⟩
    unfold StateTable.after
    rw [update_capacity]
    cases hcurr : t.entries[u.key.toU48]? with
    | none =>
      obtain ⟨-, -, hlen, -⟩ := evict_spec t.capacity (t.order ++ [u.key.toU48])
        (t.entries.insert u.key.toU48 (u.gen, u.seq, u.msgId))
      unfold update
      rw [hcurr]
      exact hlen
    | some curr =>
      rw [update_known hcurr ((u.isNewer_iff curr).mpr ((admits_known hcurr).mp hadmits))]
      exact h.length
  · rw [after_refused hadmits]
    exact h

/-- The keys of the table are as many as its order lists. -/
theorem Ordered.size (h : t.Ordered) : t.entries.size = t.order.length := by
  have hperm : t.entries.keys.Perm t.order := by
    rw [List.perm_ext_iff_of_nodup t.entries.nodup_keys h.nodup]
    intro k
    rw [Std.ExtTreeMap.mem_keys, h.keys, ne_eq, ← Maps.not_mem_iff, not_not]
  rw [← Std.ExtTreeMap.length_keys, hperm.length_eq]

/-- **What `update` returns**: the superseded message, when there is one. -/
theorem Ordered.update_returns (h : t.Ordered) (u : Update) (old : MessageId) :
    (t.update u.key u.gen u.seq u.msgId).2 = some old ↔
      ∃ curr, t.entries[u.key.toU48]? = some curr ∧ u.NewerThan curr ∧ curr.2.2 = old := by
  cases hcurr : t.entries[u.key.toU48]? with
  | none =>
    rw [(h.update_fresh hcurr u.gen u.seq u.msgId).1]
    simp
  | some curr =>
    by_cases hnewer : u.NewerThan curr
    · rw [update_known hcurr ((u.isNewer_iff curr).mpr hnewer)]
      simp [hnewer]
    · rw [update_refused (mt (admits_known hcurr).mp hnewer)]
      simp [hnewer]

/-- **An update that is admitted is stored**, and changes the table. -/
theorem Ordered.after_admitted (h : t.Ordered) (hadmits : t.Admits u) :
    (t.after u).entries[u.key.toU48]? = some u.value ∧ t.after u ≠ t := by
  have hstored := (h.update_admitted hadmits u.msgId).2.1
  refine ⟨hstored, fun hsame => ?_⟩
  have hcurr : t.entries[u.key.toU48]? = some u.value := by
    rw [← hsame]
    exact hstored
  exact ((admits_known hcurr).mp hadmits).value_ne rfl

end Step

/-! ## 3. Any updates -/

/-- What is noted about the key `k` at an update: nothing unless it is of this key and taken in; one
that inserts the key starts over. -/
def noted (t : StateTable) (k : Nat) (log : List Update) (u : Update) : List Update :=
  if u.key.toU48 = k ∧ t.Admits u then
    if k ∈ t.entries then log ++ [u] else [u]
  else log

/-- The updates of the key `k` that were taken in since it was last inserted. -/
def acceptedSince (k : Nat) : StateTable → List Update → List Update → List Update
  | _, log, [] => log
  | t, log, u :: us => acceptedSince k (t.after u) (t.noted k log u) us

/-- What the table has of the key is the last update of the log. -/
def Recorded (t : StateTable) (k : Nat) (log : List Update) : Prop :=
  ∀ v, t.entries[k]? = some v → log.getLast?.map Update.value = some v

/-- **One update** keeps the log and the table together. -/
theorem Recorded.after {t : StateTable} {k : Nat} {log : List Update} (h : t.Recorded k log)
    (ht : t.Ordered) (u : Update) : (t.after u).Recorded k (t.noted k log u) := by
  intro v hv
  by_cases hadmits : t.Admits u
  · obtain ⟨-, hstored, hothers⟩ := ht.update_admitted hadmits u.msgId
    by_cases hk : u.key.toU48 = k
    · subst hk
      have hlast : (t.noted u.key.toU48 log u).getLast? = some u := by
        rw [noted, if_pos ⟨rfl, hadmits⟩]
        split
        · exact List.getLast?_concat ..
        · rfl
      rw [hlast]
      exact hstored.symm.trans hv
    · rw [noted, if_neg fun hc => hk hc.1]
      rcases hothers k (Ne.symm hk) with hsame | hgone
      · exact h v (hsame.symm.trans hv)
      · cases hgone.symm.trans hv
  · rw [noted, if_neg fun hc => hadmits hc.2]
    rw [after_refused hadmits] at hv
    exact h v hv

/-- **A run of updates** keeps the table in order and the log with it. -/
theorem Bounded.run {t : StateTable} {k : Nat} {log : List Update} (ht : t.Bounded)
    (h : t.Recorded k log) (us : List Update) : (us.foldl StateTable.after t).Bounded ∧
      (us.foldl StateTable.after t).Recorded k (acceptedSince k t log us) := by
  induction us generalizing t log with
  | nil => exact ⟨ht, h⟩
  | cons u us ih => exact ih (ht.after u) (h.after ht.ordered u)

theorem capacity_run (t : StateTable) (us : List Update) :
    (us.foldl StateTable.after t).capacity = t.capacity := by
  induction us generalizing t with
  | nil => rfl
  | cons u us ih => exact (ih _).trans (update_capacity t u.key u.gen u.seq u.msgId)

/-- **The state table** after any updates: its order lists its keys, each once; there are at most as
many as its capacity, and one when that is 0; each has the last update that was taken in since the
key was last inserted.  The next update returns the message it supersedes exactly when the key is
there and the update is newer, and `should_admit` says whether it will be stored.  Which key is
forgotten is the oldest insertion, not the oldest update. -/
theorem state_table_runs (capacity : Nat) (us : List Update) (u : Update) :
    let t := us.foldl after (withCapacity capacity)
    t.order.Nodup ∧ (∀ k, k ∈ t.order ↔ k ∈ t.entries) ∧ t.entries.size ≤ max capacity 1 ∧
      (∀ k v, t.entries[k]? = some v →
        (acceptedSince k (withCapacity capacity) [] us).getLast?.map Update.value = some v) ∧
      (∀ old, (t.update u.key u.gen u.seq u.msgId).2 = some old ↔
        ∃ curr, t.entries[u.key.toU48]? = some curr ∧ u.NewerThan curr ∧ curr.2.2 = old) ∧
      (t.shouldAdmit u.key u.gen u.seq = true → (t.after u).entries[u.key.toU48]? = some u.value) ∧
      (t.shouldAdmit u.key u.gen u.seq = true ↔ t.after u ≠ t) := by
  intro t
  have hempty : ∀ k, (withCapacity capacity).Recorded k [] := by
    intro k v hv
    rw [withCapacity, Std.ExtTreeMap.getElem?_empty] at hv
    cases hv
  have ht : t.Bounded := ((bounded_withCapacity capacity).run (hempty 0) us).1
  refine ⟨ht.ordered.nodup, fun k => ?_, ?_, fun k => ?_, ht.ordered.update_returns u,
    fun hadmits => (ht.ordered.after_admitted hadmits).1, fun hadmits => ?_, fun hchanged => ?_⟩
  · rw [ht.ordered.keys, ne_eq, ← Maps.not_mem_iff, not_not]
  · have hlen := ht.length
    rw [capacity_run] at hlen
    rw [ht.ordered.size]
    exact hlen
  · exact ((bounded_withCapacity capacity).run (hempty k) us).2
  · exact (ht.ordered.after_admitted hadmits).2
  · by_contra hrefused
    exact hchanged (after_refused hrefused)

/-- A table of capacity 0 holds one key. -/
theorem one_key_at_capacity_zero :
    ¬ ((withCapacity 0).after ⟨⟨10, 1⟩, 1, 1, 100⟩).entries.size ≤ 0 := by
  have hstored := ((bounded_withCapacity 0).ordered.after_admitted (u := ⟨⟨10, 1⟩, 1, 1, 100⟩)
    (admits_unknown Std.ExtTreeMap.getElem?_empty)).1
  intro hnone
  rw [Nat.le_zero, ← Std.ExtTreeMap.eq_empty_iff_size_eq_zero] at hnone
  rw [hnone] at hstored
  cases Std.ExtTreeMap.getElem?_empty.symm.trans hstored

end StateTable

end Gtp
