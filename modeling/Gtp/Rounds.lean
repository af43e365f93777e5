/-
# The calls of the scheduler

A scheduler is used by `enqueue`, `requeue`, `pop_next` and `prune_stale`, in any order.  Whatever
the order, the counters of a tier are those of its queue and within its caps (`counters_exact`).

`pop_next` is the call with an inside.  It serves tier 0 first and then makes up to four turns of a
deficit round robin over the tiers 1 to 4; expired items leave on the way.

* `nextTurn` is the specification of one turn: it passes a tier, finds nothing, or serves one.
* `popNext_takes` says this once: every visit is a `RoundRobin.Turn` between the marks of the
  scheduler, and what it does to the queues is that the visited tier loses its expired front and, if
  it is served, one item.
* `popNext_took` is what follows for the items: at most one is handed out, the first live one of its
  tier, and nothing but expired items is gone besides.

So the results about drains and shares are proved from `RoundRobin.Turn` and `Took`, and the loops
of the source are looked into nowhere else.  A budget of zero makes a call return nothing, however
much is queued; that case is in `Takes`.
-/
import Gtp.Tiers
import Gtp.Lib.RoundRobin

namespace Gtp

namespace GameScheduler

/-! ## 1. Sequences of calls -/

/-- `GameScheduler::with_per_tier_caps_and_item_limit`. -/
def withPerTierCapsAndItemLimit (caps : Fin 5 → Nat) (limit : Nat) : GameScheduler :=
  { withPerTierByteCaps caps with maxQueueItemsPerTier := limit }

/-- A call of the scheduler. -/
inductive Op where
  | enqueue (item : SchedulableItem) (now : MonotonicTime)
  | requeue (item : SchedulableItem) (now : MonotonicTime)
  | popNext (sendBudget : Nat) (now : MonotonicTime)
  | pruneStale (now : MonotonicTime)
  deriving DecidableEq, Repr

def step (s : GameScheduler) : Op → GameScheduler
  | .enqueue item now => (s.enqueue item now).2
  | .requeue item now => (s.requeue item now).2
  | .popNext sendBudget now => (s.popNext sendBudget now).2
  | .pruneStale now => (s.pruneStale now).1

def popped (s : GameScheduler) : Op → Option SchedulableItem
  | .popNext sendBudget now => (s.popNext sendBudget now).1
  | _ => none

/-- A new scheduler, after some calls. -/
def run (caps : Fin 5 → Nat) (limit : Nat) (ops : List Op) : GameScheduler :=
  ops.foldl step (withPerTierCapsAndItemLimit caps limit)

theorem Counted.step {s : GameScheduler} (h : s.Counted) (op : Op) : (s.step op).Counted := by
  cases op with
  | enqueue item now => exact h.enqueue item now
  | requeue item now => exact h.requeue item now
  | popNext sendBudget now => exact h.popNext sendBudget now
  | pruneStale now => exact h.pruneStale now

/-- The two schedulers have the same caps. -/
def SameCaps (s s' : GameScheduler) : Prop :=
  s'.maxQueueBytesPerTier = s.maxQueueBytesPerTier ∧
    s'.maxQueueItemsPerTier = s.maxQueueItemsPerTier

theorem SameCaps.refl (s : GameScheduler) : SameCaps s s := ⟨rfl, rfl⟩

theorem SameCaps.trans {s s' s'' : GameScheduler} (h : SameCaps s s') (h' : SameCaps s' s'') :
    SameCaps s s'' :=
  ⟨h'.1.trans h.1, h'.2.trans h.2⟩

/-- The two schedulers have the same caps and the same state table. -/
def SameTable (s s' : GameScheduler) : Prop := SameCaps s s' ∧ s'.stateTable = s.stateTable

theorem SameTable.refl (s : GameScheduler) : SameTable s s := ⟨.refl s, rfl⟩

theorem SameTable.trans {s s' s'' : GameScheduler} (h : SameTable s s') (h' : SameTable s' s'') :
    SameTable s s'' :=
  ⟨h.1.trans h'.1, h'.2.trans h.2⟩

theorem SameQueues.table {s s' : GameScheduler} (h : SameQueues s s') : SameTable s s' := by
  obtain ⟨d, a, p, rfl⟩ := h
  exact .refl s

theorem enqueue_caps (s : GameScheduler) (item : SchedulableItem) (now : MonotonicTime) :
    SameCaps s (s.enqueue item now).2 := by
  unfold enqueue
  dsimp only
  split
  · exact .refl s
  · split
    · split
      · exact .refl s
      · split <;> exact ⟨rfl, rfl⟩
    · exact ⟨rfl, rfl⟩

theorem requeue_table (s : GameScheduler) (item : SchedulableItem) (now : MonotonicTime) :
    SameTable s (s.requeue item now).2 := by
  unfold requeue
  split
  · exact .refl s
  · exact ⟨⟨rfl, rfl⟩, rfl⟩

theorem serveTier_table (s : GameScheduler) (tier : Fin 5) (now : MonotonicTime)
    (ok : SchedulableItem → Bool) (q : List SchedulableItem) :
    SameTable s (s.serveTier tier now ok q).2 := by
  induction q generalizing s with
  | nil => exact ⟨⟨rfl, rfl⟩, rfl⟩
  | cons item rest ih =>
    rw [serveTier]
    split
    · exact SameTable.trans ⟨⟨rfl, rfl⟩, rfl⟩ (ih (s.discard tier item))
    · split <;> exact ⟨⟨rfl, rfl⟩, rfl⟩

theorem drrRounds_table (sendBudget : Nat) (now : MonotonicTime) (rounds : Nat)
    (s : GameScheduler) : SameTable s (drrRounds sendBudget now rounds s).2 := by
  induction rounds generalizing s with
  | zero => exact .refl s
  | succ rounds ih =>
    have hscan := (scanTiers_same s [0, 1, 2, 3]).table
    rw [drrRounds]
    rcases hs1 : s.scanTiers [0, 1, 2, 3] with ⟨s1, idx⟩
    rw [hs1] at hscan
    cases idx with
    | none => exact hscan
    | some idx =>
      have hacc := hscan.trans (accrue_same s1 idx).table
      dsimp only
      generalize s1.accrue idx = s2 at hacc ⊢
      have hserve := hacc.trans (serveTier_table s2 idx now (fun item =>
        decide (item.sizeBytes ≤ sendBudget) && decide (item.sizeBytes ≤ s2.deficits idx))
        (s2.queues idx))
      rcases hs3 : s2.serveTier idx now _ (s2.queues idx) with ⟨front, s3⟩
      rw [hs3] at hserve
      cases front with
      | some front => exact hserve
      | none => exact hserve.trans (SameTable.trans ⟨⟨rfl, rfl⟩, rfl⟩ (ih _))

theorem popNext_table (s : GameScheduler) (sendBudget : Nat) (now : MonotonicTime) :
    SameTable s (s.popNext sendBudget now).2 := by
  unfold popNext
  split
  · exact .refl s
  · dsimp only
    generalize PriorityTier.p0Control.idx = strict
    have hserve := serveTier_table s strict now (fun item => decide (item.sizeBytes ≤ sendBudget))
      (s.queues strict)
    rcases hs2 : s.serveTier strict now _ (s.queues strict) with ⟨front, s2⟩
    rw [hs2] at hserve
    cases front with
    | some front => exact hserve
    | none => exact hserve.trans (drrRounds_table sendBudget now 4 s2)

theorem step_caps (s : GameScheduler) (op : Op) : SameCaps s (s.step op) := by
  cases op with
  | enqueue item now => exact enqueue_caps s item now
  | requeue item now => exact (requeue_table s item now).1
  | popNext sendBudget now => exact (popNext_table s sendBudget now).1
  | pruneStale now => exact ⟨rfl, rfl⟩

theorem run_counted (caps : Fin 5 → Nat) (limit : Nat) (ops : List Op) :
    (run caps limit ops).Counted ∧
      SameCaps (withPerTierCapsAndItemLimit caps limit) (run caps limit ops) := by
  refine List.foldlRecOn ops step (motive := fun s => s.Counted ∧
    SameCaps (withPerTierCapsAndItemLimit caps limit) s) ⟨?_, .refl _⟩ fun s hs op _ => ?_
  · exact ⟨fun _ _ h => (by cases h), fun _ => rfl, fun _ => rfl, fun _ => Nat.zero_le _,
      fun _ => Nat.zero_le _⟩
  · exact ⟨hs.1.step op, hs.2.trans (step_caps s op)⟩

/-- **The counters.**  After every sequence of calls, whatever was refused, superseded, put back or
pruned, the bytes and the items counted for a tier are those in its queue, and within the tier's
caps.  The caps are any numbers; the items are any items.  What is popped is not counted any more,
whether it is sent or not, until it is put back. -/
theorem counters_exact (caps : Fin 5 → Nat) (limit : Nat) (ops : List Op) (t : Fin 5) :
    (run caps limit ops).queueBytes t =
        (((run caps limit ops).queues t).map SchedulableItem.sizeBytes).sum ∧
      (run caps limit ops).queueItems t = ((run caps limit ops).queues t).length ∧
      (run caps limit ops).queueBytes t ≤ caps t ∧ (run caps limit ops).queueItems t ≤ limit := by
  obtain ⟨hcounted, hbytes, hitems⟩ := run_counted caps limit ops
  refine ⟨hcounted.bytes t, hcounted.items t, ?_, ?_⟩
  · have hcap := hcounted.byteCap t
    rw [hbytes] at hcap
    exact hcap
  · have hcap := hcounted.itemCap t
    rw [hitems] at hcap
    exact hcap

/-! ## 2. The marks of the round robin

The tiers of the cycle are 1 to 4; in the cycle they are numbered from 0. -/

/-- The tier of the cycle the pointer is at. -/
def cursorOf (pointer : Fin 5) : Fin 4 := ⟨pointer.val - 1, by omega⟩

/-- The quanta of the cycle. -/
def quanta (t : Fin 4) : Nat := tierQuantum t.succ

/-- What the round robin remembers of the tiers 1 to 4. -/
def marks (s : GameScheduler) : RoundRobin.Marks 4 where
  deficit t := s.deficits t.succ
  opened t := s.accrued t.succ
  cursor := cursorOf s.drrPointer

/-- The tier has something queued, expired or not. -/
def Busy (s : GameScheduler) (t : Fin 4) : Prop := s.queues t.succ ≠ []

instance (s : GameScheduler) : DecidablePred s.Busy := fun _ => inferInstanceAs (Decidable (¬ _))

theorem quanta_pos : ∀ t, 0 < quanta t := by
  decide

theorem drrTier_distance : ∀ (pointer : Fin 5) (t : Fin 4),
    drrTier pointer (RoundRobin.distance (cursorOf pointer) t) = t.succ := by
  decide

theorem distance_drrTier : ∀ pointer : Fin 5, ∀ k < 4, ∃ t : Fin 4,
    drrTier pointer k = t.succ ∧ RoundRobin.distance (cursorOf pointer) t = k := by
  decide

theorem cursorOf_succ : ∀ t : Fin 4, cursorOf t.succ = t := by
  decide

theorem cursorOf_next : ∀ t : Fin 4, cursorOf (drrTier t.succ 1) = RoundRobin.next t := by
  decide

/-- The scan, from step `m` on: what is not empty keeps its marks. -/
theorem scanTiers_range (n m : Nat) (s : GameScheduler) :
    (s.scanTiers (List.range' m n)).1.drrPointer = s.drrPointer ∧
      (∀ t, s.queues t ≠ [] → (s.scanTiers (List.range' m n)).1.deficits t = s.deficits t ∧
        (s.scanTiers (List.range' m n)).1.accrued t = s.accrued t) ∧
      match (s.scanTiers (List.range' m n)).2 with
      | some idx => ∃ k, m ≤ k ∧ k < m + n ∧ idx = drrTier s.drrPointer k ∧ s.queues idx ≠ [] ∧
          ∀ j, m ≤ j → j < k → s.queues (drrTier s.drrPointer j) = []
      | none => ∀ j, m ≤ j → j < m + n → s.queues (drrTier s.drrPointer j) = [] := by
  induction n generalizing m s with
  | zero => exact ⟨rfl, fun _ _ => ⟨rfl, rfl⟩, fun j hj hjm => by omega⟩
  | succ n ih =>
    rw [List.range'_succ, scanTiers]
    split
    · rename_i hempty
      rw [List.isEmpty_iff] at hempty
      obtain ⟨hptr, hsame, hfound⟩ := ih (m + 1) { s with
        deficits := Function.update s.deficits (drrTier s.drrPointer m) 0
        accrued := Function.update s.accrued (drrTier s.drrPointer m) false }
      refine ⟨hptr, fun t ht => ?_, ?_⟩
      · have hne : t ≠ drrTier s.drrPointer m := fun heq => ht (heq ▸ hempty)
        obtain ⟨hd, ha⟩ := hsame t ht
        exact ⟨hd.trans (Function.update_of_ne hne _ _), ha.trans (Function.update_of_ne hne _ _)⟩
      · split at hfound
        · obtain ⟨k, hle, hlt, heq, hne, hbefore⟩ := hfound
          refine ⟨k, by omega, by omega, heq, hne, fun j hj hjk => ?_⟩
          rcases Nat.eq_or_lt_of_le hj with rfl | hj
          · exact hempty
          · exact hbefore j hj hjk
        · intro j hj hjm
          rcases Nat.eq_or_lt_of_le hj with rfl | hj
          · exact hempty
          · exact hfound j hj (by omega)
    · rename_i hne
      rw [List.isEmpty_iff] at hne
      refine ⟨rfl, fun _ _ => ⟨rfl, rfl⟩, ?_⟩
      exact ⟨m, Nat.le_refl m, by omega, rfl, hne, fun j hj hjm => by omega⟩

/-- The tier that is visited: the first one that is not empty. -/
theorem scanTiers_some {s s' : GameScheduler} {tier : Fin 5}
    (h : s.scanTiers [0, 1, 2, 3] = (s', some tier)) :
    ∃ idx : Fin 4, tier = idx.succ ∧ s.Busy idx ∧
      (∀ t, s.Busy t → RoundRobin.distance s.marks.cursor idx ≤
        RoundRobin.distance s.marks.cursor t) ∧
      ∀ t, s.Busy t → s'.deficits t.succ = s.deficits t.succ ∧
        s'.accrued t.succ = s.accrued t.succ := by
  obtain ⟨-, hsame, hfound⟩ := scanTiers_range 4 0 s
  rw [show List.range' 0 4 = [0, 1, 2, 3] from rfl, h] at hsame hfound
  obtain ⟨k, -, hk, htier, hne, hbefore⟩ := hfound
  obtain ⟨idx, hidx, hdist⟩ := distance_drrTier s.drrPointer k (by omega)
  refine ⟨idx, htier.trans hidx, ?_, fun t ht => ?_, fun t ht => hsame _ ht⟩
  · rw [htier, hidx] at hne
    exact hne
  · change RoundRobin.distance (cursorOf s.drrPointer) idx ≤ _
    rw [hdist]
    refine Nat.not_lt.mp fun hlt => ht ?_
    have hempty := hbefore _ (Nat.zero_le _) hlt
    rw [← drrTier_distance s.drrPointer t]
    exact hempty

theorem scanTiers_none {s s' : GameScheduler} (h : s.scanTiers [0, 1, 2, 3] = (s', none))
    (t : Fin 4) : ¬ s.Busy t := by
  obtain ⟨-, -, hfound⟩ := scanTiers_range 4 0 s
  rw [show List.range' 0 4 = [0, 1, 2, 3] from rfl, h] at hfound
  refine not_not.mpr ?_
  rw [← drrTier_distance s.drrPointer t]
  exact hfound _ (Nat.zero_le _) (by rw [Nat.zero_add]; exact RoundRobin.distance_lt)

/-! ## 3. What a call of `pop_next` does -/

/-- The queue without its expired front. -/
def live (now : MonotonicTime) (q : List SchedulableItem) : List SchedulableItem :=
  q.dropWhile fun item => item.isExpired now

/-- The outcome of the service loop on `q`: the first live item leaves if it is admitted. -/
inductive Serves (s : GameScheduler) (tier : Fin 5) (now : MonotonicTime)
    (ok : SchedulableItem → Bool) (q : List SchedulableItem) :
    Option SchedulableItem × GameScheduler → Prop
  | front {item : SchedulableItem} {rest : List SchedulableItem} {s' : GameScheduler}
      (hlive : live now q = item :: rest) (hok : ok item = true)
      (hq : s'.queues = Function.update s.queues tier rest) (hdeficits : s'.deficits = s.deficits)
      (haccrued : s'.accrued = s.accrued) (hpointer : s'.drrPointer = s.drrPointer) :
      Serves s tier now ok q (some item, s')
  | nothing {s' : GameScheduler}
      (hno : ∀ item rest, live now q = item :: rest → ok item = false)
      (hq : s'.queues = Function.update s.queues tier (live now q))
      (hdeficits : s'.deficits = s.deficits) (haccrued : s'.accrued = s.accrued)
      (hpointer : s'.drrPointer = s.drrPointer) : Serves s tier now ok q (none, s')

theorem serveTier_serves (s : GameScheduler) (tier : Fin 5) (now : MonotonicTime)
    (ok : SchedulableItem → Bool) (q : List SchedulableItem) :
    Serves s tier now ok q (s.serveTier tier now ok q) := by
  induction q generalizing s with
  | nil => exact .nothing (fun item rest h => by cases h) rfl rfl rfl rfl
  | cons item rest ih =>
    rw [serveTier]
    split
    · rename_i hexp
      have hlive : live now (item :: rest) = live now rest := List.dropWhile_cons_of_pos hexp
      have hrest := ih (s.discard tier item)
      generalize (s.discard tier item).serveTier tier now ok rest = out at hrest ⊢
      cases hrest with
      | front hl hok hq hd ha hp => exact .front (hlive.trans hl) hok hq hd ha hp
      | nothing hno hq hd ha hp =>
        exact .nothing (fun x xs h => hno x xs (hlive.symm.trans h)) (hlive ▸ hq) hd ha hp
    · rename_i hexp
      have hlive : live now (item :: rest) = item :: rest := List.dropWhile_cons_of_neg hexp
      split
      · rename_i hok
        exact .front hlive hok rfl rfl rfl rfl
      · rename_i hok
        refine .nothing (fun x xs h => ?_) (congrArg (Function.update s.queues tier) hlive.symm)
          rfl rfl rfl
        obtain ⟨rfl, -⟩ := List.cons.inj (hlive.symm.trans h)
        exact Bool.eq_false_iff.mpr hok

/-- One turn of the round robin.  A tier is passed when its first live item is too dear: for the
budget or for the tier. -/
inductive Visit (sendBudget : Nat) (now : MonotonicTime) (s : GameScheduler) :
    Option SchedulableItem → GameScheduler → Prop
  | served {idx : Fin 4} {item : SchedulableItem} {rest : List SchedulableItem}
      {s' : GameScheduler} (hlive : live now (s.queues idx.succ) = item :: rest)
      (hfits : item.sizeBytes ≤ sendBudget)
      (hturn : RoundRobin.Turn quanta 4 s.Busy s.marks idx (some item.sizeBytes) s'.marks)
      (hq : s'.queues = Function.update s.queues idx.succ rest) :
      Visit sendBudget now s (some item) s'
  | passed {idx : Fin 4} {s' : GameScheduler}
      (hdear : ∀ item rest, live now (s.queues idx.succ) = item :: rest →
        item.sizeBytes ≤ sendBudget → s.marks.purse quanta 4 idx < item.sizeBytes)
      (hturn : RoundRobin.Turn quanta 4 s.Busy s.marks idx none s'.marks)
      (hq : s'.queues = Function.update s.queues idx.succ (live now (s.queues idx.succ))) :
      Visit sendBudget now s none s'

/-- At most `rounds` turns. -/
inductive Rounds (sendBudget : Nat) (now : MonotonicTime) :
    Nat → GameScheduler → Option SchedulableItem × GameScheduler → Prop
  | ended (s : GameScheduler) : Rounds sendBudget now 0 s (none, s)
  | idle {rounds : Nat} {s s' : GameScheduler} (hidle : ∀ t, ¬ s.Busy t)
      (hq : s'.queues = s.queues) : Rounds sendBudget now (rounds + 1) s (none, s')
  | served {rounds : Nat} {s s' : GameScheduler} {item : SchedulableItem}
      (hvisit : Visit sendBudget now s (some item) s') :
      Rounds sendBudget now (rounds + 1) s (some item, s')
  | passed {rounds : Nat} {s s1 : GameScheduler} {out : Option SchedulableItem × GameScheduler}
      (hvisit : Visit sendBudget now s none s1) (hrest : Rounds sendBudget now rounds s1 out) :
      Rounds sendBudget now (rounds + 1) s out

/-- The visited tier has its purse, and the others are as they were. -/
theorem accrue_spec (s : GameScheduler) (idx : Fin 4) :
    (s.accrue idx.succ).accrued idx.succ = true ∧
      (s.accrue idx.succ).deficits idx.succ = s.marks.purse quanta 4 idx ∧
      ∀ t : Fin 4, t ≠ idx → (s.accrue idx.succ).deficits t.succ = s.deficits t.succ ∧
        (s.accrue idx.succ).accrued t.succ = s.accrued t.succ := by
  unfold accrue
  by_cases h : s.accrued idx.succ = true
  · have hpurse : s.marks.purse quanta 4 idx = s.deficits idx.succ := if_pos h
    rw [if_pos h, hpurse]
    exact ⟨h, rfl, fun _ _ => ⟨rfl, rfl⟩⟩
  · have hpurse : s.marks.purse quanta 4 idx =
        min (s.deficits idx.succ + tierQuantum idx.succ) (tierQuantum idx.succ * 4) := if_neg h
    rw [if_neg h, hpurse]
    refine ⟨Function.update_self .., Function.update_self .., fun t ht => ?_⟩
    have hne : t.succ ≠ idx.succ := fun heq => ht (Fin.succ_inj.mp heq)
    exact ⟨Function.update_of_ne hne _ _, Function.update_of_ne hne _ _⟩

/-- A turn of the round robin that serves nothing: the tier it passes, and the scheduler behind
it. -/
def passTurn (sendBudget : Nat) (now : MonotonicTime) (s : GameScheduler) :
    Option (Fin 5 × GameScheduler) :=
  match s.scanTiers [0, 1, 2, 3] with
  | (_, none) => none
  | (s, some idx) =>
    let s := s.accrue idx
    let deficit := s.deficits idx
    let ok := fun item : SchedulableItem =>
      decide (item.sizeBytes ≤ sendBudget) && decide (item.sizeBytes ≤ deficit)
    match s.serveTier idx now ok (s.queues idx) with
    | (some _, _) => none
    | (none, s) =>
      some (idx, { s with
        accrued := Function.update s.accrued idx false, drrPointer := drrTier idx 1 })

/-- What the next turn does: it passes a tier, finds none that holds anything, or serves one. -/
inductive NextTurn (sendBudget : Nat) (now : MonotonicTime) (rounds : Nat) (s : GameScheduler) :
    Prop
  | passed {idx : Fin 4} {s' : GameScheduler}
      (hpass : s.passTurn sendBudget now = some (idx.succ, s'))
      (hgo : drrRounds sendBudget now (rounds + 1) s = drrRounds sendBudget now rounds s')
      (hdear : ∀ item rest, live now (s.queues idx.succ) = item :: rest →
        item.sizeBytes ≤ sendBudget → s.marks.purse quanta 4 idx < item.sizeBytes)
      (hturn : RoundRobin.Turn quanta 4 s.Busy s.marks idx none s'.marks)
      (hq : s'.queues = Function.update s.queues idx.succ (live now (s.queues idx.succ))) :
      NextTurn sendBudget now rounds s
  | idle {s' : GameScheduler} (hpass : s.passTurn sendBudget now = none)
      (hgo : drrRounds sendBudget now (rounds + 1) s = (none, s'))
      (hidle : ∀ t, ¬ s.Busy t) (hq : s'.queues = s.queues) : NextTurn sendBudget now rounds s
  | served {item : SchedulableItem} {s' : GameScheduler}
      (hpass : s.passTurn sendBudget now = none)
      (hgo : drrRounds sendBudget now (rounds + 1) s = (some item, s'))
      (hvisit : Visit sendBudget now s (some item) s') : NextTurn sendBudget now rounds s

/-- **The specification of a turn.** -/
theorem nextTurn (sendBudget : Nat) (now : MonotonicTime) (rounds : Nat) (s : GameScheduler) :
    NextTurn sendBudget now rounds s := by
  have hqueues := scanTiers_queues s [0, 1, 2, 3]
  have hpass := passTurn.eq_def sendBudget now s
  have hgo := drrRounds.eq_2 sendBudget now s rounds
  rcases hs1 : s.scanTiers [0, 1, 2, 3] with ⟨s1, found⟩
  rw [hs1] at hqueues hpass hgo
  cases found with
  | none => exact .idle hpass hgo (scanTiers_none hs1) hqueues
  | some tier =>
    obtain ⟨idx, rfl, hbusy, hfirst, hsame⟩ := scanTiers_some hs1
    obtain ⟨hopened, hdeficit, hothers⟩ := accrue_spec s1 idx
    have hq : (s1.accrue idx.succ).queues = s.queues := (accrue_queues s1 idx.succ).trans hqueues
    have hpurse : s1.marks.purse quanta 4 idx = s.marks.purse quanta 4 idx :=
      RoundRobin.Marks.purse_congr (hsame idx hbusy).1 (hsame idx hbusy).2
    rw [hpurse] at hdeficit
    have hothers' : ∀ t, t ≠ idx → s.Busy t →
        (s1.accrue idx.succ).deficits t.succ = s.deficits t.succ ∧
          (s1.accrue idx.succ).accrued t.succ = s.accrued t.succ := fun t ht hb =>
      ⟨(hothers t ht).1.trans (hsame t hb).1, (hothers t ht).2.trans (hsame t hb).2⟩
    dsimp only at hpass hgo
    generalize s1.accrue idx.succ = s2 at hopened hdeficit hothers' hq hpass hgo
    have hserves := serveTier_serves s2 idx.succ now (fun item =>
      decide (item.sizeBytes ≤ sendBudget) && decide (item.sizeBytes ≤ s2.deficits idx.succ))
      (s2.queues idx.succ)
    have hne : ∀ t : Fin 4, t ≠ idx → t.succ ≠ idx.succ := fun t ht heq =>
      ht (Fin.succ_inj.mp heq)
    generalize s2.serveTier idx.succ now _ (s2.queues idx.succ) = out at hserves hpass hgo
    rw [hq] at hserves
    cases hserves with
    | @front item rest s3 hlive hok hq' hd ha hp =>
      simp only [Bool.and_eq_true, decide_eq_true_eq] at hok
      refine .served hpass hgo (.served hlive hok.1 ⟨hbusy, hfirst, fun t ht hb => ?_, fun bytes hb => ?_,
        fun h => by cases h⟩ (hq'.trans (by rw [hq])))
      · rw [← hd, ← ha] at hothers'
        exact ⟨(Function.update_of_ne (hne t ht) _ _).trans (hothers' t ht hb).1,
          (hothers' t ht hb).2⟩
      · obtain rfl := Option.some.inj hb
        refine ⟨hdeficit ▸ hok.2, ?_, ?_, cursorOf_succ idx⟩
        · change Function.update s3.deficits idx.succ _ idx.succ = _
          rw [Function.update_self, hd, hdeficit]
        · change s3.accrued idx.succ = true
          rw [ha]
          exact hopened
    | @nothing s3 hno hq' hd ha hp =>
      refine .passed hpass hgo (fun item rest hlive hfits => ?_) ⟨hbusy, hfirst, fun t ht hb => ?_,
        fun bytes hb => (by cases hb), fun _ => ⟨?_, Function.update_self .., cursorOf_next idx⟩⟩
        (hq'.trans (by rw [hq]))
      · have hfalse := hno item rest hlive
        rw [decide_eq_true hfits, Bool.true_and, decide_eq_false_iff_not, hdeficit] at hfalse
        exact Nat.not_le.mp hfalse
      · rw [← hd, ← ha] at hothers'
        exact ⟨(hothers' t ht hb).1,
          (Function.update_of_ne (hne t ht) _ _).trans (hothers' t ht hb).2⟩
      · change s3.deficits idx.succ = _
        rw [hd]
        exact hdeficit

theorem drrRounds_rounds (sendBudget : Nat) (now : MonotonicTime) (rounds : Nat)
    (s : GameScheduler) : Rounds sendBudget now rounds s (drrRounds sendBudget now rounds s) := by
  induction rounds generalizing s with
  | zero => exact .ended s
  | succ rounds ih =>
    cases nextTurn sendBudget now rounds s with
    | passed hpass hgo hdear hturn hq =>
      rw [hgo]
      exact .passed (.passed hdear hturn hq) (ih _)
    | idle hpass hgo hidle hq =>
      rw [hgo]
      exact .idle hidle hq
    | served hpass hgo hvisit =>
      rw [hgo]
      exact .served hvisit

/-- What a call of `pop_next` can do: nothing without a budget, tier 0 first, then turns of the
round robin. -/
inductive Takes (sendBudget : Nat) (now : MonotonicTime) (s : GameScheduler) :
    Option SchedulableItem × GameScheduler → Prop
  | broke (hzero : sendBudget = 0) : Takes sendBudget now s (none, s)
  | strict {item : SchedulableItem} {rest : List SchedulableItem} {s' : GameScheduler}
      (hlive : live now (s.queues 0) = item :: rest) (hfits : item.sizeBytes ≤ sendBudget)
      (hmarks : s'.marks = s.marks) (hq : s'.queues = Function.update s.queues 0 rest) :
      Takes sendBudget now s (some item, s')
  | rounds {s1 : GameScheduler} {out : Option SchedulableItem × GameScheduler}
      (hbig : ∀ item rest, live now (s.queues 0) = item :: rest → sendBudget < item.sizeBytes)
      (hmarks : s1.marks = s.marks)
      (hq : s1.queues = Function.update s.queues 0 (live now (s.queues 0)))
      (hrounds : Rounds sendBudget now 4 s1 out) : Takes sendBudget now s out

/-- **The specification of `pop_next`.** -/
theorem popNext_takes (s : GameScheduler) (sendBudget : Nat) (now : MonotonicTime) :
    Takes sendBudget now s (s.popNext sendBudget now) := by
  unfold popNext
  split
  · rename_i hzero
    exact .broke hzero
  · dsimp only [PriorityTier.idx]
    have hserves := serveTier_serves s 0 now (fun item => decide (item.sizeBytes ≤ sendBudget))
      (s.queues 0)
    have hmarks : ∀ s' : GameScheduler, s'.deficits = s.deficits → s'.accrued = s.accrued →
        s'.drrPointer = s.drrPointer → s'.marks = s.marks := by
      intro s' hd ha hp
      unfold marks
      rw [hd, ha, hp]
    generalize s.serveTier 0 now _ (s.queues 0) = out at hserves ⊢
    cases hserves with
    | front hlive hok hq hd ha hp =>
      exact .strict hlive (of_decide_eq_true hok) (hmarks _ hd ha hp) hq
    | nothing hno hq hd ha hp =>
      refine .rounds (fun item rest hlive => ?_) (hmarks _ hd ha hp) hq
        (drrRounds_rounds sendBudget now 4 _)
      exact Nat.not_le.mp (of_decide_eq_false (hno item rest hlive))

/-! ## 4. What a call takes -/

def unexpired (now : MonotonicTime) (q : List SchedulableItem) : List SchedulableItem :=
  q.filter fun item => !item.isExpired now

theorem unexpired_live (now : MonotonicTime) (q : List SchedulableItem) :
    unexpired now (live now q) = unexpired now q := by
  induction q with
  | nil => rfl
  | cons item rest ih =>
    by_cases hexp : item.isExpired now = true
    · have hlive : live now (item :: rest) = live now rest := List.dropWhile_cons_of_pos hexp
      have hdrop : unexpired now (item :: rest) = unexpired now rest := by
        simp [unexpired, hexp]
      rw [hlive, hdrop, ih]
    · have hlive : live now (item :: rest) = item :: rest := List.dropWhile_cons_of_neg hexp
      rw [hlive]

theorem unexpired_front {now : MonotonicTime} {q rest : List SchedulableItem}
    {item : SchedulableItem} (h : live now q = item :: rest) :
    unexpired now q = item :: unexpired now rest := by
  have hexp : item.isExpired now = false := by
    have hhead := List.head?_dropWhile_not (fun i : SchedulableItem => i.isExpired now) q
    unfold live at h
    rw [h] at hhead
    exact hhead
  rw [← unexpired_live, h]
  simp [unexpired, hexp]

theorem live_suffix (now : MonotonicTime) (q : List SchedulableItem) : live now q <:+ q :=
  List.dropWhile_suffix _

theorem rest_suffix {now : MonotonicTime} {q rest : List SchedulableItem} {item : SchedulableItem}
    (h : live now q = item :: rest) : rest <:+ q :=
  (List.suffix_cons item rest).trans (h ▸ live_suffix now q)

/-- The part of what was handed out that is of tier `t`. -/
def ofTier (t : Fin 5) (items : List SchedulableItem) : List SchedulableItem :=
  items.filter fun item => item.priority.idx = t

theorem mem_of_live {now : MonotonicTime} {q rest : List SchedulableItem} {item : SchedulableItem}
    (h : live now q = item :: rest) : item ∈ q :=
  (live_suffix now q).subset (h ▸ List.mem_cons_self)

/-- What is handed out is the front of its tier; otherwise only expired items are gone. -/
structure Took (now : MonotonicTime) (s : GameScheduler) (out : Option SchedulableItem)
    (s' : GameScheduler) : Prop where
  items : ∀ t, unexpired now (s.queues t) = ofTier t out.toList ++ unexpired now (s'.queues t)
  suffix : ∀ t, s'.queues t <:+ s.queues t
  front : ∀ item, out = some item →
    item :: s'.queues item.priority.idx <:+ s.queues item.priority.idx

theorem Took.refl (now : MonotonicTime) {s s' : GameScheduler} (h : s'.queues = s.queues) :
    Took now s none s' := by
  refine ⟨fun t => ?_, fun t => ?_, fun item hitem => (by cases hitem)⟩
  · rw [h]
    rfl
  · rw [h]

theorem Took.trans {now : MonotonicTime} {s s1 s' : GameScheduler} {out : Option SchedulableItem}
    (h : Took now s none s1) (h' : Took now s1 out s') : Took now s out s' :=
  ⟨fun t => (h.items t).trans (h'.items t), fun t => (h'.suffix t).trans (h.suffix t),
    fun item hitem => (h'.front item hitem).trans (h.suffix _)⟩

theorem took_front {now : MonotonicTime} {s s' : GameScheduler} {tier : Fin 5}
    {item : SchedulableItem} {rest : List SchedulableItem} (htier : item.priority.idx = tier)
    (hlive : live now (s.queues tier) = item :: rest)
    (hq : s'.queues = Function.update s.queues tier rest) : Took now s (some item) s' := by
  refine ⟨fun t => ?_, fun t => ?_, fun x hx => ?_⟩
  · rw [hq]
    by_cases ht : t = tier
    · subst ht
      rw [Function.update_self, unexpired_front hlive]
      simp [ofTier, htier]
    · have hne : item.priority.idx ≠ t := fun heq => ht (heq.symm.trans htier)
      rw [Function.update_of_ne ht]
      simp [ofTier, hne]
  · rw [hq]
    by_cases ht : t = tier
    · subst ht
      rw [Function.update_self]
      exact rest_suffix hlive
    · rw [Function.update_of_ne ht]
  · obtain rfl := Option.some.inj hx
    rw [hq, htier, Function.update_self, ← hlive]
    exact live_suffix now _

theorem took_expired {now : MonotonicTime} {s s' : GameScheduler} {tier : Fin 5}
    (hq : s'.queues = Function.update s.queues tier (live now (s.queues tier))) :
    Took now s none s' := by
  refine ⟨fun t => ?_, fun t => ?_, fun item hitem => (by cases hitem)⟩
  · rw [hq]
    by_cases ht : t = tier
    · subst ht
      rw [Function.update_self, unexpired_live]
      rfl
    · rw [Function.update_of_ne ht]
      rfl
  · rw [hq]
    by_cases ht : t = tier
    · subst ht
      rw [Function.update_self]
      exact live_suffix now _
    · rw [Function.update_of_ne ht]

section Took

variable {sendBudget : Nat} {now : MonotonicTime} {s s' : GameScheduler}

theorem Took.tiers {out : Option SchedulableItem} (h : Took now s out s')
    (hs : ∀ t, ∀ x ∈ s.queues t, x.priority.idx = t) :
    ∀ t, ∀ x ∈ s'.queues t, x.priority.idx = t :=
  fun t x hx => hs t x ((h.suffix t).subset hx)

theorem Visit.took {out : Option SchedulableItem} (h : Visit sendBudget now s out s')
    (hs : ∀ t, ∀ x ∈ s.queues t, x.priority.idx = t) : Took now s out s' := by
  cases h with
  | served hlive hfits hturn hq => exact took_front (hs _ _ (mem_of_live hlive)) hlive hq
  | passed hdear hturn hq => exact took_expired hq

theorem Rounds.took {rounds : Nat} {out : Option SchedulableItem × GameScheduler}
    (h : Rounds sendBudget now rounds s out) (hs : ∀ t, ∀ x ∈ s.queues t, x.priority.idx = t) :
    Took now s out.1 out.2 := by
  induction h with
  | ended s => exact .refl now rfl
  | idle hidle hq => exact .refl now hq
  | served hvisit => exact hvisit.took hs
  | passed hvisit hrest ih =>
    have htook := hvisit.took hs
    exact htook.trans (ih (htook.tiers hs))

/-- **What a call takes**: at most one item, the first live one of its tier. -/
theorem popNext_took (s : GameScheduler) (sendBudget : Nat) (now : MonotonicTime)
    (hs : ∀ t, ∀ x ∈ s.queues t, x.priority.idx = t) :
    Took now s (s.popNext sendBudget now).1 (s.popNext sendBudget now).2 := by
  have htakes := popNext_takes s sendBudget now
  generalize s.popNext sendBudget now = out at htakes ⊢
  cases htakes with
  | broke hzero => exact .refl now rfl
  | strict hlive hfits hmarks hq => exact took_front (hs _ _ (mem_of_live hlive)) hlive hq
  | rounds hbig hmarks hq hrounds =>
    have hexpired := took_expired hq
    exact hexpired.trans (hrounds.took (hexpired.tiers hs))

end Took

end GameScheduler

end Gtp
