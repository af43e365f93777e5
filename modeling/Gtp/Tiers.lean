/-
# The tiers of the scheduler, counted

The counters of a tier are exact: bytes and items are those of its queue, within the caps, and every
item is in the tier of its own priority (`Counted`).  Each operation keeps that, and there is one
lemma for each.

`pop_next` drops expired items on the way, and its round robin moves marks that the queues do not
show.  Both get in the way when a caller puts back what it took.  So the second half is about a
scheduler without expired items (`Fresh`), which is what `prune_stale` leaves:

* `popNext_pops`: a call takes the front of one tier and nothing else, apart from the bookkeeping of
  the round robin (`SameQueues`).
* `requeue_pull`: `requeue` undoes it, and cannot fail, since the counters leave the room that the
  item had.

With expired items in the queues neither holds.  Which tier a call takes from is not said here; that
needs the marks, and is in `Gtp.Rounds`.
-/
import Gtp.Scheduler
import Mathlib.Algebra.Order.Group.Nat
import Mathlib.Algebra.Order.BigOperators.Group.List

namespace Gtp

namespace GameScheduler

/-! ## 1. Counters -/

/-- The bytes of a list of items. -/
def bytesOf (items : List SchedulableItem) : Nat := (items.map SchedulableItem.sizeBytes).sum

theorem bytesOf_cons (item : SchedulableItem) (rest : List SchedulableItem) :
    bytesOf (item :: rest) = item.sizeBytes + bytesOf rest := rfl

theorem bytesOf_filter_add (p : SchedulableItem → Bool) (items : List SchedulableItem) :
    bytesOf (items.filter p) + bytesOf (items.filter fun i => !p i) = bytesOf items := by
  induction items with
  | nil => rfl
  | cons item rest ih =>
    cases hp : p item with
    | true => simp [hp, bytesOf_cons, ← ih, Nat.add_assoc]
    | false => simp [hp, bytesOf_cons, ← ih, Nat.add_left_comm]

theorem length_filter_add (p : SchedulableItem → Bool) (items : List SchedulableItem) :
    (items.filter p).length + (items.filter fun i => !p i).length = items.length := by
  induction items with
  | nil => rfl
  | cons item rest ih =>
    cases hp : p item with
    | true => simp [hp, ← ih, Nat.add_right_comm]
    | false => simp [hp, ← ih, Nat.add_assoc]

/-- The counters are exact and within the caps, and items are in the tier of their priority. -/
structure Counted (s : GameScheduler) : Prop where
  tiers : ∀ t, ∀ x ∈ s.queues t, x.priority.idx = t
  bytes : ∀ t, s.queueBytes t = bytesOf (s.queues t)
  items : ∀ t, s.queueItems t = (s.queues t).length
  byteCap : ∀ t, s.queueBytes t ≤ s.maxQueueBytesPerTier t
  itemCap : ∀ t, s.queueItems t ≤ s.maxQueueItemsPerTier

theorem counted_new (caps : Fin 5 → Nat) : (withPerTierByteCaps caps).Counted :=
  ⟨fun _ _ h => (by cases h), fun _ => rfl, fun _ => rfl, fun _ => Nat.zero_le _,
    fun _ => Nat.zero_le _⟩

/-- One tier is given a new queue with its counters; the others stay. -/
theorem Counted.set {s : GameScheduler} (h : s.Counted) (tier : Fin 5) (q : List SchedulableItem)
    (htiers : ∀ x ∈ q, x.priority.idx = tier) (hbytes : bytesOf q ≤ s.maxQueueBytesPerTier tier)
    (hitems : q.length ≤ s.maxQueueItemsPerTier) :
    ({ s with
      queues := Function.update s.queues tier q
      queueBytes := Function.update s.queueBytes tier (bytesOf q)
      queueItems := Function.update s.queueItems tier q.length } : GameScheduler).Counted := by
  have htier : ∀ t, (∀ x ∈ Function.update s.queues tier q t, x.priority.idx = t) ∧
      Function.update s.queueBytes tier (bytesOf q) t = bytesOf (Function.update s.queues tier q t) ∧
      Function.update s.queueItems tier q.length t = (Function.update s.queues tier q t).length ∧
      Function.update s.queueBytes tier (bytesOf q) t ≤ s.maxQueueBytesPerTier t ∧
      Function.update s.queueItems tier q.length t ≤ s.maxQueueItemsPerTier := by
    intro t
    by_cases ht : t = tier
    · subst ht
      rw [Function.update_self, Function.update_self, Function.update_self]
      exact ⟨htiers, rfl, rfl, hbytes, hitems⟩
    · rw [Function.update_of_ne ht, Function.update_of_ne ht, Function.update_of_ne ht]
      exact ⟨h.tiers t, h.bytes t, h.items t, h.byteCap t, h.itemCap t⟩
  exact ⟨fun t => (htier t).1, fun t => (htier t).2.1, fun t => (htier t).2.2.1,
    fun t => (htier t).2.2.2.1, fun t => (htier t).2.2.2.2⟩

theorem Counted.place {s : GameScheduler} (h : s.Counted) {item : SchedulableItem}
    {q : List SchedulableItem} {now : MonotonicTime} (hadm : s.checkAdmission item now = .ok ())
    (hperm : q.Perm (item :: s.queues item.priority.idx)) : (s.place item q).Counted := by
  obtain ⟨hbytes, hitems⟩ : s.queueBytes item.priority.idx + item.sizeBytes ≤
        s.maxQueueBytesPerTier item.priority.idx ∧
      s.queueItems item.priority.idx + 1 ≤ s.maxQueueItemsPerTier := by
    unfold checkAdmission at hadm
    dsimp only at hadm
    split at hadm
    · cases hadm
    · split at hadm
      · cases hadm
      · rename_i hb
        split at hadm
        · cases hadm
        · rename_i hi
          exact ⟨Nat.not_lt.mp hb, Nat.not_lt.mp hi⟩
  have hsum : bytesOf q = s.queueBytes item.priority.idx + item.sizeBytes := by
    rw [bytesOf, (hperm.map SchedulableItem.sizeBytes).sum_eq, h.bytes, Nat.add_comm]
    rfl
  have hlen : q.length = s.queueItems item.priority.idx + 1 := by
    rw [hperm.length_eq, h.items]
    rfl
  have hset := h.set item.priority.idx q (fun x hx => ?_) (hsum ▸ hbytes)
    (hlen ▸ hitems)
  · rw [hsum, hlen] at hset
    exact hset
  · rcases List.mem_cons.mp (hperm.subset hx) with rfl | hx
    · rfl
    · exact h.tiers _ x hx

theorem Counted.requeue {s : GameScheduler} (h : s.Counted) (item : SchedulableItem)
    (now : MonotonicTime) : (s.requeue item now).2.Counted := by
  unfold GameScheduler.requeue
  cases hadm : s.checkAdmission item now with
  | error e => exact h
  | ok u => exact h.place hadm (List.Perm.refl _)

theorem Counted.evictSuperseded {s : GameScheduler} (h : s.Counted) (tier : Fin 5)
    (id : MessageId) : (s.evictSuperseded tier id).Counted := by
  have hbytes := bytesOf_filter_add (fun i => decide (i.messageId = id)) (s.queues tier)
  have hitems := length_filter_add (fun i => decide (i.messageId = id)) (s.queues tier)
  have hkeep : ∀ i : SchedulableItem, (!decide (i.messageId = id)) = decide (i.messageId ≠ id) :=
    fun i => (decide_not ..).symm
  simp only [hkeep] at hbytes hitems
  rw [← h.bytes] at hbytes
  rw [← h.items] at hitems
  have hset := h.set tier ((s.queues tier).filter fun i => i.messageId ≠ id)
    (fun x hx => h.tiers tier x (List.mem_filter.mp hx).1)
    ((Nat.le_add_left _ _).trans (hbytes.trans_le (h.byteCap tier)))
    ((Nat.le_add_left _ _).trans (hitems.trans_le (h.itemCap tier)))
  rw [Nat.eq_sub_of_add_eq' hbytes, Nat.eq_sub_of_add_eq' hitems] at hset
  exact hset

theorem Counted.withTable {s : GameScheduler} (h : s.Counted) (table : StateTable) :
    ({ s with stateTable := table } : GameScheduler).Counted :=
  ⟨h.tiers, h.bytes, h.items, h.byteCap, h.itemCap⟩

theorem checkAdmission_mono {s s' : GameScheduler} {item : SchedulableItem} {now : MonotonicTime}
    (hadm : s.checkAdmission item now = .ok ())
    (hbytes : s'.queueBytes item.priority.idx ≤ s.queueBytes item.priority.idx)
    (hitems : s'.queueItems item.priority.idx ≤ s.queueItems item.priority.idx)
    (hbyteCap : s'.maxQueueBytesPerTier = s.maxQueueBytesPerTier)
    (hitemCap : s'.maxQueueItemsPerTier = s.maxQueueItemsPerTier) :
    s'.checkAdmission item now = .ok () := by
  unfold checkAdmission at hadm ⊢
  dsimp only at hadm ⊢
  rw [hbyteCap, hitemCap]
  split at hadm
  · cases hadm
  · rename_i hexp
    split at hadm
    · cases hadm
    · rename_i hb
      split at hadm
      · cases hadm
      · rename_i hi
        rw [if_neg hexp, if_neg, if_neg]
        · exact fun hlt => hi (hlt.trans_le (Nat.add_le_add_right hitems _))
        · exact fun hlt => hb (hlt.trans_le (Nat.add_le_add_right hbytes _))

theorem Counted.enqueue {s : GameScheduler} (h : s.Counted) (item : SchedulableItem)
    (now : MonotonicTime) : (s.enqueue item now).2.Counted := by
  unfold GameScheduler.enqueue
  dsimp only
  cases hadm : s.checkAdmission item now with
  | error e => exact h
  | ok u =>
    dsimp only
    split
    · split
      · exact h
      · generalize s.stateTable.update _ _ _ item.messageId = updated
        obtain ⟨table, superseded⟩ := updated
        cases superseded with
        | none => exact (h.withTable table).place hadm (List.perm_append_singleton _ _)
        | some id =>
          -- the eviction only makes room, so the admission test still holds
          have hroom : (({ s with stateTable := table } : GameScheduler).evictSuperseded
              item.priority.idx id).checkAdmission item now = .ok () :=
            checkAdmission_mono hadm (by simp [GameScheduler.evictSuperseded])
              (by simp [GameScheduler.evictSuperseded]) rfl rfl
          exact ((h.withTable table).evictSuperseded item.priority.idx id).place hroom
            (List.perm_append_singleton _ _)
    · exact h.place hadm (List.perm_append_singleton _ _)

theorem Counted.pruneStale {s : GameScheduler} (h : s.Counted) (now : MonotonicTime) :
    (s.pruneStale now).1.Counted := by
  have hbytes : ∀ t, s.queueBytes t - bytesOf ((s.queues t).filter fun i => i.isExpired now) =
      bytesOf ((s.queues t).filter fun i => !i.isExpired now) := fun t => by
    rw [h.bytes, ← bytesOf_filter_add (fun i => i.isExpired now) (s.queues t),
      Nat.add_sub_cancel_left]
  have hitems : ∀ t, s.queueItems t - ((s.queues t).filter fun i => i.isExpired now).length =
      ((s.queues t).filter fun i => !i.isExpired now).length := fun t => by
    rw [h.items, ← length_filter_add (fun i => i.isExpired now) (s.queues t),
      Nat.add_sub_cancel_left]
  exact ⟨fun t x hx => h.tiers t x (List.mem_filter.mp hx).1, hbytes, hitems,
    fun t => (Nat.sub_le _ _).trans (h.byteCap t), fun t => (Nat.sub_le _ _).trans (h.itemCap t)⟩

/-! ## 2. Taking items off -/

/-- The two schedulers differ in the bookkeeping of the round robin only. -/
def SameQueues (s s' : GameScheduler) : Prop :=
  ∃ deficits accrued pointer, s' = { s with deficits, accrued, drrPointer := pointer }

theorem SameQueues.refl (s : GameScheduler) : SameQueues s s := ⟨_, _, _, rfl⟩

theorem SameQueues.trans {s s' s'' : GameScheduler} (h : SameQueues s s')
    (h' : SameQueues s' s'') : SameQueues s s'' := by
  obtain ⟨d, a, p, rfl⟩ := h
  obtain ⟨d', a', p', rfl⟩ := h'
  exact ⟨d', a', p', rfl⟩

theorem SameQueues.queues {s s' : GameScheduler} (h : SameQueues s s') : s'.queues = s.queues := by
  obtain ⟨d, a, p, rfl⟩ := h
  rfl

theorem Counted.same {s s' : GameScheduler} (h : s.Counted) (hs : SameQueues s s') :
    s'.Counted := by
  obtain ⟨d, a, p, rfl⟩ := hs
  exact ⟨h.tiers, h.bytes, h.items, h.byteCap, h.itemCap⟩

/-- The tier's queue is put to `q`, without a change of the counters. -/
def withQueue (s : GameScheduler) (tier : Fin 5) (q : List SchedulableItem) : GameScheduler :=
  { s with queues := Function.update s.queues tier q }

theorem withQueue_self (s : GameScheduler) (tier : Fin 5) :
    s.withQueue tier (s.queues tier) = s := by
  rw [withQueue, Function.update_eq_self]

/-- The front item leaves: off the queue, and out of the counters. -/
theorem Counted.discard {s : GameScheduler} {tier : Fin 5} {item : SchedulableItem}
    {rest : List SchedulableItem} (h : (s.withQueue tier (item :: rest)).Counted) :
    ((s.discard tier item).withQueue tier rest).Counted := by
  have hbytes := h.bytes tier
  have hitems := h.items tier
  simp only [withQueue, Function.update_self, bytesOf_cons, List.length_cons] at hbytes hitems
  have hbytes' : s.queueBytes tier - item.sizeBytes = bytesOf rest := by
    rw [hbytes, Nat.add_sub_cancel_left]
  have hitems' : s.queueItems tier - 1 = rest.length := by
    rw [hitems, Nat.add_sub_cancel]
  have hset := h.set tier rest (fun x hx => h.tiers tier x ?_)
    ((Nat.le_add_left _ item.sizeBytes).trans ?_) ((Nat.le_add_right _ 1).trans ?_)
  · simp only [withQueue, GameScheduler.discard, hbytes', hitems', Function.update_idem] at hset ⊢
    exact hset
  · simp only [withQueue, Function.update_self]
    exact List.mem_cons_of_mem _ hx
  · rw [← hbytes]
    exact h.byteCap tier
  · rw [← hitems]
    exact h.itemCap tier

theorem Counted.serveTier {s : GameScheduler} {tier : Fin 5} {now : MonotonicTime}
    {ok : SchedulableItem → Bool} {q : List SchedulableItem} (h : (s.withQueue tier q).Counted) :
    (s.serveTier tier now ok q).2.Counted := by
  induction q generalizing s with
  | nil => exact h
  | cons item rest ih =>
    rw [GameScheduler.serveTier]
    split
    · exact ih h.discard
    · split
      · exact h.discard
      · exact h

theorem scanTiers_same (s : GameScheduler) (steps : List Nat) :
    SameQueues s (s.scanTiers steps).1 := by
  induction steps generalizing s with
  | nil => exact .refl s
  | cons step rest ih =>
    rw [scanTiers]
    split
    · exact SameQueues.trans ⟨_, _, _, rfl⟩ (ih _)
    · exact .refl s

theorem accrue_same (s : GameScheduler) (idx : Fin 5) : SameQueues s (s.accrue idx) := by
  unfold accrue
  split
  · exact .refl s
  · exact ⟨_, _, _, rfl⟩

theorem Counted.drrRounds {s : GameScheduler} (h : s.Counted) (sendBudget : Nat)
    (now : MonotonicTime) (rounds : Nat) :
    (GameScheduler.drrRounds sendBudget now rounds s).2.Counted := by
  induction rounds generalizing s with
  | zero => exact h
  | succ rounds ih =>
    have hscan := scanTiers_same s [0, 1, 2, 3]
    rw [GameScheduler.drrRounds]
    rcases hs1 : s.scanTiers [0, 1, 2, 3] with ⟨s1, idx⟩
    rw [hs1] at hscan
    cases idx with
    | none => exact h.same hscan
    | some idx =>
      have hacc : (s1.accrue idx).Counted := h.same (hscan.trans (accrue_same s1 idx))
      dsimp only
      generalize s1.accrue idx = s2 at hacc ⊢
      generalize (fun item : SchedulableItem => decide (item.sizeBytes ≤ sendBudget) &&
        decide (item.sizeBytes ≤ s2.deficits idx)) = ok
      have hserve : (s2.serveTier idx now ok (s2.queues idx)).2.Counted :=
        Counted.serveTier (by rw [withQueue_self]; exact hacc)
      rcases hs3 : s2.serveTier idx now ok (s2.queues idx) with ⟨front, s3⟩
      rw [hs3] at hserve
      cases front with
      | some front => exact hserve.same ⟨_, _, _, rfl⟩
      | none => exact ih (hserve.same ⟨_, _, _, rfl⟩)

theorem Counted.popNext {s : GameScheduler} (h : s.Counted) (sendBudget : Nat)
    (now : MonotonicTime) : (s.popNext sendBudget now).2.Counted := by
  unfold GameScheduler.popNext
  split
  · exact h
  · dsimp only
    generalize PriorityTier.p0Control.idx = strict
    generalize (fun item : SchedulableItem => decide (item.sizeBytes ≤ sendBudget)) = ok
    have hserve : (s.serveTier strict now ok (s.queues strict)).2.Counted :=
      Counted.serveTier (by rw [withQueue_self]; exact h)
    rcases hs2 : s.serveTier strict now ok (s.queues strict) with ⟨front, s2⟩
    rw [hs2] at hserve
    cases front with
    | some front => exact hserve
    | none => exact hserve.drrRounds sendBudget now 4

/-! ## 3. Without expired items -/

/-- No item is past its deadline: what `prune_stale` leaves. -/
def Fresh (s : GameScheduler) (now : MonotonicTime) : Prop :=
  ∀ t, ∀ x ∈ s.queues t, x.isExpired now = false

theorem fresh_pruneStale (s : GameScheduler) (now : MonotonicTime) :
    (s.pruneStale now).1.Fresh now := by
  intro t x hx
  have hlive := (List.mem_filter.mp hx).2
  simpa using hlive

theorem Fresh.same {s s' : GameScheduler} {now : MonotonicTime} (h : s.Fresh now)
    (hs : SameQueues s s') : s'.Fresh now := by
  intro t
  rw [hs.queues]
  exact h t

/-- The tier without its front item. -/
def pull (s : GameScheduler) (tier : Fin 5) (item : SchedulableItem)
    (rest : List SchedulableItem) : GameScheduler :=
  (s.discard tier item).withQueue tier rest

theorem Fresh.pull {s : GameScheduler} {now : MonotonicTime} (h : s.Fresh now) {tier : Fin 5}
    {item : SchedulableItem} {rest : List SchedulableItem} (hq : s.queues tier = item :: rest) :
    (s.pull tier item rest).Fresh now := by
  intro t x hx
  rcases mem_update hx with hx | hx
  · refine h tier x ?_
    rw [hq]
    exact List.mem_cons_of_mem _ hx
  · exact h t x hx

/-- The service loop looks at the front item only. -/
theorem serveTier_fresh {s : GameScheduler} {now : MonotonicTime} (h : s.Fresh now) (tier : Fin 5)
    (ok : SchedulableItem → Bool) :
    s.serveTier tier now ok (s.queues tier) = match s.queues tier with
      | [] => (none, s)
      | item :: rest => if ok item then (some item, s.pull tier item rest) else (none, s) := by
  have hself := s.withQueue_self tier
  have hlive := h tier
  cases hq : s.queues tier with
  | nil =>
    rw [hq] at hself
    exact congrArg _ hself
  | cons item rest =>
    rw [hq] at hself hlive
    rw [serveTier, if_neg (by rw [hlive item List.mem_cons_self]; exact Bool.false_ne_true)]
    dsimp only
    split
    · rfl
    · exact congrArg _ hself

/-- What taking an item off can do: nothing, or the front of a tier leaves. -/
inductive Pops (s : GameScheduler) : Option SchedulableItem × GameScheduler → Prop
  | nothing {s' : GameScheduler} (hsame : SameQueues s s') : Pops s (none, s')
  | front {tier : Fin 5} {item : SchedulableItem} {rest : List SchedulableItem}
      {s' : GameScheduler} (hq : s.queues tier = item :: rest)
      (hsame : SameQueues (s.pull tier item rest) s') : Pops s (some item, s')

theorem Pops.after {s s' : GameScheduler} (h : SameQueues s s')
    {r : Option SchedulableItem × GameScheduler} (hr : Pops s' r) : Pops s r := by
  obtain ⟨d, a, p, rfl⟩ := h
  cases hr with
  | nothing hsame => exact .nothing (SameQueues.trans ⟨d, a, p, rfl⟩ hsame)
  | front hq hsame => exact .front hq (SameQueues.trans ⟨d, a, p, rfl⟩ hsame)

theorem drrRounds_pops {s : GameScheduler} {now : MonotonicTime} (h : s.Fresh now)
    (sendBudget rounds : Nat) : Pops s (drrRounds sendBudget now rounds s) := by
  induction rounds generalizing s with
  | zero => exact .nothing (.refl s)
  | succ rounds ih =>
    have hscan := scanTiers_same s [0, 1, 2, 3]
    rw [drrRounds]
    rcases hs1 : s.scanTiers [0, 1, 2, 3] with ⟨s1, idx⟩
    rw [hs1] at hscan
    cases idx with
    | none => exact .nothing hscan
    | some idx =>
      have hacc := hscan.trans (accrue_same s1 idx)
      dsimp only
      generalize s1.accrue idx = s2 at hacc ⊢
      rw [serveTier_fresh (h.same hacc) idx]
      refine Pops.after hacc ?_
      have hpass : ∀ accrued pointer, Pops s2 (drrRounds sendBudget now rounds
          { s2 with accrued, drrPointer := pointer }) := fun accrued pointer =>
        Pops.after ⟨_, _, _, rfl⟩ (ih ((h.same hacc).same ⟨_, _, _, rfl⟩))
      cases hq : s2.queues idx with
      | nil => exact hpass _ _
      | cons item rest =>
        dsimp only
        cases hok : (decide (item.sizeBytes ≤ sendBudget) &&
            decide (item.sizeBytes ≤ s2.deficits idx)) with
        | true => exact .front hq ⟨_, _, _, rfl⟩
        | false => exact hpass _ _

/-- **The specification of `pop_next`, after `prune_stale`.** -/
theorem popNext_pops {s : GameScheduler} {now : MonotonicTime} (h : s.Fresh now)
    (sendBudget : Nat) : Pops s (s.popNext sendBudget now) := by
  unfold popNext
  split
  · exact .nothing (.refl s)
  · dsimp only
    rw [serveTier_fresh h]
    cases hq : s.queues PriorityTier.p0Control.idx with
    | nil => exact drrRounds_pops h sendBudget 4
    | cons item rest =>
      dsimp only
      cases hok : decide (item.sizeBytes ≤ sendBudget) with
      | true => exact .front hq (.refl _)
      | false => exact drrRounds_pops h sendBudget 4

/-- **`requeue` undoes it.**  The item goes back to where it was, with all counters. -/
theorem requeue_pull {s : GameScheduler} (h : s.Counted) {now : MonotonicTime} {tier : Fin 5}
    {item : SchedulableItem} {rest : List SchedulableItem} (hq : s.queues tier = item :: rest)
    (hlive : item.isExpired now = false) :
    (s.pull tier item rest).requeue item now = (.ok (), s) := by
  have htier : item.priority.idx = tier := h.tiers tier item (by rw [hq]; exact List.mem_cons_self)
  subst htier
  have hbytes : s.queueBytes item.priority.idx - item.sizeBytes + item.sizeBytes =
      s.queueBytes item.priority.idx := by
    refine Nat.sub_add_cancel ?_
    rw [h.bytes, hq, bytesOf_cons]
    exact Nat.le_add_right _ _
  have hitems : s.queueItems item.priority.idx - 1 + 1 = s.queueItems item.priority.idx := by
    refine Nat.sub_add_cancel ?_
    rw [h.items, hq]
    exact Nat.succ_le_succ (Nat.zero_le _)
  have hadm : (s.pull item.priority.idx item rest).checkAdmission item now = .ok () := by
    unfold checkAdmission
    simp only [pull, withQueue, discard, Function.update_self, hbytes, hitems]
    rw [hlive, if_neg Bool.false_ne_true, if_neg (Nat.not_lt.mpr (h.byteCap _)),
      if_neg (Nat.not_lt.mpr (h.itemCap _))]
  have hplace : (s.pull item.priority.idx item rest).place item (item :: rest) = s := by
    unfold place
    simp only [pull, withQueue, discard, Function.update_self, Function.update_idem, hbytes, hitems,
      ← hq, Function.update_eq_self]
  unfold requeue
  rw [hadm]
  simp only [pull, withQueue, Function.update_self] at hplace ⊢
  rw [hplace]

/-- The bookkeeping of the round robin makes no difference to `requeue`. -/
theorem requeue_same {s s' : GameScheduler} (h : SameQueues s s') (item : SchedulableItem)
    (now : MonotonicTime) : (s'.requeue item now).1 = (s.requeue item now).1 ∧
      SameQueues (s.requeue item now).2 (s'.requeue item now).2 := by
  obtain ⟨d, a, p, rfl⟩ := h
  unfold requeue
  have hadm : ({ s with deficits := d, accrued := a, drrPointer := p } :
      GameScheduler).checkAdmission item now = s.checkAdmission item now := rfl
  rw [hadm]
  cases s.checkAdmission item now with
  | error e => exact ⟨rfl, d, a, p, rfl⟩
  | ok u => exact ⟨rfl, d, a, p, rfl⟩

/-- Puts items back, the last one first; counts those that are refused. -/
def giveBack (now : MonotonicTime) : List SchedulableItem → GameScheduler → GameScheduler × Nat
  | [], s => (s, 0)
  | item :: rest, s =>
    let (s, refused) := giveBack now rest s
    match s.requeue item now with
    | (.ok (), s) => (s, refused)
    | (.error _, s) => (s, refused + 1)

end GameScheduler

end Gtp
