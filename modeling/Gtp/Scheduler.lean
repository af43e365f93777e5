/-
# The scheduler (`gtp-scheduler`)

Three parts: the freshness table of sequenced state (`state_table.rs`), the five-tier queue with
strict priority for tier 0 and deficit round robin below it (`scheduler.rs`), and the receive-side
reorder buffer of one ordered group (`ordered_group.rs`).

Per-tier arrays are functions on `Fin 5`.  The two loops that take items off a queue -- the strict
loop of tier 0 and the service loop of a round-robin tier -- are one function, `serveTier`, that
differs only in its admission test.  A loop that the source bounds by the number of tiers or of
entries is a recursion on that number.

What the queues hold is described by `Has`: items come in through `enqueue` and `requeue` only, and
`popNext_spec` says that what `pop_next` hands out was queued, is not expired and fits the budget.
That is enough for most of what is said about a connection.  The counters and the turns of the round
robin are in `Gtp.Tiers` and `Gtp.Rounds`.

A capacity is a number of bytes and of items per tier, and `requeue` may fail as `enqueue` may; what
becomes of an item that is refused is for the caller to say.
-/
import Gtp.Types
import Mathlib.Logic.Function.Basic

namespace Gtp

/-! ## 1. Items -/

/-- `SchedulableItem`: one message, or one fragment of a message, waiting to be sent. -/
structure SchedulableItem where
  messageId : MessageId
  class' : MessageClass
  priority : PriorityTier
  createdAt : MonotonicTime
  deadline : Option MonotonicTime
  supersedable : Bool
  payload : List UInt8
  fragmentId : FragmentId
  totalFragments : UInt16
  deriving DecidableEq, Repr

namespace SchedulableItem

/-- `SchedulableItem::is_expired`. -/
def isExpired (item : SchedulableItem) (now : MonotonicTime) : Bool :=
  match item.deadline with
  | some dl => decide (dl ≤ now)
  | none => false

/-- `SchedulableItem::size_bytes`. -/
def sizeBytes (item : SchedulableItem) : Nat := item.payload.length

end SchedulableItem

/-! ## 2. State table -/

/-- `StateTable`: per state key the newest generation and sequence, bounded first-in first-out. -/
structure StateTable where
  entries : Std.ExtTreeMap Nat (GenerationId × StateSequence × MessageId) compare
  order : List Nat
  capacity : Nat

namespace StateTable

/-- `StateTable::new`, with `DEFAULT_STATE_TABLE_CAPACITY`. -/
def new : StateTable := ⟨∅, [], 4096⟩

/-- Newer generation, or the same generation and a newer sequence. -/
def isNewer (gen : GenerationId) (seq : StateSequence)
    (curr : GenerationId × StateSequence × MessageId) : Bool :=
  isNewerThan gen curr.1 || (gen = curr.1 && isNewerThan seq curr.2.1)

/-- `StateTable::should_admit`. -/
def shouldAdmit (t : StateTable) (key : StateKey) (gen : GenerationId) (seq : StateSequence) :
    Bool :=
  match t.entries[key.toU48]? with
  | some curr => isNewer gen seq curr
  | none => true

/-- The eviction loop of `insert_new`: the oldest keys leave until the bound holds. -/
def evict (capacity : Nat) (entries : Std.ExtTreeMap Nat (GenerationId × StateSequence × MessageId)
    compare) : List Nat → Std.ExtTreeMap Nat (GenerationId × StateSequence × MessageId) compare ×
    List Nat
  | [] => (entries, [])
  | oldest :: rest =>
    if capacity < (oldest :: rest).length then evict capacity (entries.erase oldest) rest
    else (entries, oldest :: rest)

/-- `StateTable::update`: the table and the message id it superseded. -/
def update (t : StateTable) (key : StateKey) (gen : GenerationId) (seq : StateSequence)
    (msgId : MessageId) : StateTable × Option MessageId :=
  match t.entries[key.toU48]? with
  | some curr =>
    if isNewer gen seq curr then
      ({ t with entries := t.entries.insert key.toU48 (gen, seq, msgId) }, some curr.2.2)
    else (t, none)
  | none =>
    let entries := t.entries.insert key.toU48 (gen, seq, msgId)
    let (entries, order) := evict t.capacity entries (t.order ++ [key.toU48])
    ({ t with entries, order }, none)

end StateTable

/-! ## 3. The game scheduler -/

/-- `tier_quantum`. -/
def tierQuantum (idx : Fin 5) : Nat := PriorityTier.defaultWeight idx * 100

/-- `GameScheduler`. -/
structure GameScheduler where
  queues : Fin 5 → List SchedulableItem
  deficits : Fin 5 → Nat
  accrued : Fin 5 → Bool
  drrPointer : Fin 5
  stateTable : StateTable
  maxQueueBytesPerTier : Fin 5 → Nat
  maxQueueItemsPerTier : Nat
  queueBytes : Fin 5 → Nat
  queueItems : Fin 5 → Nat

namespace GameScheduler

/-- `GameScheduler::with_per_tier_byte_caps`. -/
def withPerTierByteCaps (caps : Fin 5 → Nat) : GameScheduler where
  queues _ := []
  deficits _ := 0
  accrued _ := false
  drrPointer := PriorityTier.p1Input.idx
  stateTable := .new
  maxQueueBytesPerTier := caps
  maxQueueItemsPerTier := 4096
  queueBytes _ := 0
  queueItems _ := 0

/-- The admission tests shared by `enqueue` and `requeue`: deadline, bytes, items. -/
def checkAdmission (s : GameScheduler) (item : SchedulableItem) (now : MonotonicTime) : Result Unit :=
  let tier := item.priority.idx
  if item.isExpired now then .error .messageExpired
  else if s.maxQueueBytesPerTier tier < s.queueBytes tier + item.sizeBytes then
    .error (.resourceLimitExceeded "Scheduler queue tier capacity reached")
  else if s.maxQueueItemsPerTier < s.queueItems tier + 1 then
    .error (.resourceLimitExceeded "Scheduler queue tier item capacity reached")
  else .ok ()

/-- Counts `item` in and puts its tier's queue to `q`. -/
def place (s : GameScheduler) (item : SchedulableItem) (q : List SchedulableItem) : GameScheduler :=
  let tier := item.priority.idx
  { s with
    queueBytes := Function.update s.queueBytes tier (s.queueBytes tier + item.sizeBytes)
    queueItems := Function.update s.queueItems tier (s.queueItems tier + 1)
    queues := Function.update s.queues tier q }

/-- Removes the message that a newer state superseded. -/
def evictSuperseded (s : GameScheduler) (tier : Fin 5) (id : MessageId) : GameScheduler :=
  let removed := (s.queues tier).filter fun i => i.messageId = id
  { s with
    queues := Function.update s.queues tier ((s.queues tier).filter fun i => i.messageId ≠ id)
    queueBytes := Function.update s.queueBytes tier
      (s.queueBytes tier - (removed.map SchedulableItem.sizeBytes).sum)
    queueItems := Function.update s.queueItems tier (s.queueItems tier - removed.length) }

/-- `GameScheduler::enqueue`.  A superseded state is dropped with `Ok`. -/
def enqueue (s : GameScheduler) (item : SchedulableItem) (now : MonotonicTime) :
    Result Unit × GameScheduler :=
  let tier := item.priority.idx
  match s.checkAdmission item now with
  | .error e => (.error e, s)
  | .ok () =>
    match item.class' with
    | .unreliableSequenced stateKey sequence generation =>
      if !s.stateTable.shouldAdmit stateKey generation sequence then (.ok (), s)
      else
        let (stateTable, superseded) :=
          s.stateTable.update stateKey generation sequence item.messageId
        let s := { s with stateTable }
        let s := match superseded with
          | some id => s.evictSuperseded tier id
          | none => s
        (.ok (), s.place item (s.queues tier ++ [item]))
    | _ => (.ok (), s.place item (s.queues tier ++ [item]))

/-- `GameScheduler::requeue`: back to the head of the tier, past the supersession gate. -/
def requeue (s : GameScheduler) (item : SchedulableItem) (now : MonotonicTime) :
    Result Unit × GameScheduler :=
  match s.checkAdmission item now with
  | .error e => (.error e, s)
  | .ok () => (.ok (), s.place item (item :: s.queues item.priority.idx))

/-- `GameScheduler::discard`: the counters when an item leaves for good. -/
def discard (s : GameScheduler) (tier : Fin 5) (item : SchedulableItem) : GameScheduler :=
  { s with
    queueBytes := Function.update s.queueBytes tier (s.queueBytes tier - item.sizeBytes)
    queueItems := Function.update s.queueItems tier (s.queueItems tier - 1) }

/-- The loop that takes the front item of a tier off its queue: expired items are discarded, the
first live one is served when `ok` admits it and put back otherwise. -/
def serveTier (s : GameScheduler) (tier : Fin 5) (now : MonotonicTime)
    (ok : SchedulableItem → Bool) : List SchedulableItem → Option SchedulableItem × GameScheduler
  | [] => (none, { s with queues := Function.update s.queues tier [] })
  | item :: rest =>
    if item.isExpired now then serveTier (s.discard tier item) tier now ok rest
    else if ok item then
      (some item,
        { s.discard tier item with queues := Function.update s.queues tier rest })
    else (none, { s with queues := Function.update s.queues tier (item :: rest) })

/-- The tier `step` places after `pointer` in the cycle 1, 2, 3, 4. -/
def drrTier (pointer : Fin 5) (step : Nat) : Fin 5 :=
  ⟨1 + (pointer.val - 1 + step) % 4, by omega⟩

/-- The scan for the next non-empty tier; an empty one loses its deficit. -/
def scanTiers (s : GameScheduler) : List Nat → GameScheduler × Option (Fin 5)
  | [] => (s, none)
  | step :: rest =>
    let t := drrTier s.drrPointer step
    if (s.queues t).isEmpty then
      scanTiers { s with
        deficits := Function.update s.deficits t 0
        accrued := Function.update s.accrued t false } rest
    else (s, some t)

/-- A tier accrues its quantum once per round. -/
def accrue (s : GameScheduler) (idx : Fin 5) : GameScheduler :=
  if s.accrued idx then s
  else
    let quantum := tierQuantum idx
    { s with
      deficits := Function.update s.deficits idx (min (s.deficits idx + quantum) (quantum * 4))
      accrued := Function.update s.accrued idx true }

/-- The deficit round robin of `pop_next`, for at most `rounds` tiers. -/
def drrRounds (sendBudget : Nat) (now : MonotonicTime) :
    Nat → GameScheduler → Option SchedulableItem × GameScheduler
  | 0, s => (none, s)
  | rounds + 1, s =>
    match s.scanTiers [0, 1, 2, 3] with
    | (s, none) => (none, s)
    | (s, some idx) =>
      let s := s.accrue idx
      let deficit := s.deficits idx
      let ok := fun item : SchedulableItem =>
        decide (item.sizeBytes ≤ sendBudget) && decide (item.sizeBytes ≤ deficit)
      match s.serveTier idx now ok (s.queues idx) with
      | (some front, s) =>
        (some front,
          { s with
            deficits := Function.update s.deficits idx (s.deficits idx - front.sizeBytes)
            drrPointer := idx })
      | (none, s) =>
        drrRounds sendBudget now rounds
          { s with accrued := Function.update s.accrued idx false, drrPointer := drrTier idx 1 }

/-- `GameScheduler::pop_next`. -/
def popNext (s : GameScheduler) (sendBudget : Nat) (now : MonotonicTime) :
    Option SchedulableItem × GameScheduler :=
  if sendBudget = 0 then (none, s)
  else
    let strict := PriorityTier.p0Control.idx
    let fits := fun item : SchedulableItem => decide (item.sizeBytes ≤ sendBudget)
    match s.serveTier strict now fits (s.queues strict) with
    | (some item, s) => (some item, s)
    | (none, s) => drrRounds sendBudget now 4 s

/-- `GameScheduler::prune_stale`: the scheduler and the number of items dropped. -/
def pruneStale (s : GameScheduler) (now : MonotonicTime) : GameScheduler × Nat :=
  let expired := fun t => (s.queues t).filter fun i => i.isExpired now
  ({ s with
      queues := fun t => (s.queues t).filter fun i => !i.isExpired now
      queueItems := fun t => s.queueItems t - (expired t).length
      queueBytes := fun t => s.queueBytes t - ((expired t).map SchedulableItem.sizeBytes).sum },
    ((List.finRange 5).map fun t => (expired t).length).sum)

/-- `GameScheduler::effective_queue_bytes`. -/
def effectiveQueueBytes (s : GameScheduler) (now : MonotonicTime) : Nat :=
  ((List.finRange 5).map fun t =>
    (((s.queues t).filter fun i => !i.isExpired now).map SchedulableItem.sizeBytes).sum).sum

/-- `GameScheduler::is_empty`. -/
def isEmpty (s : GameScheduler) : Bool := (List.finRange 5).all fun t => (s.queues t).isEmpty

end GameScheduler

/-! ## 4. What the queues hold

Items come in through `enqueue` and `requeue` only; `pop_next` hands out one of them. -/

namespace GameScheduler

/-- Some tier holds the item. -/
def Has (s : GameScheduler) (x : SchedulableItem) : Prop := ∃ t, x ∈ s.queues t

/-- Replacing one tier's queue: what is held afterwards was held before or is in the new queue. -/
theorem mem_update {queues : Fin 5 → List SchedulableItem} {tier t : Fin 5}
    {q : List SchedulableItem} {x : SchedulableItem} (h : x ∈ Function.update queues tier q t) :
    x ∈ q ∨ x ∈ queues t := by
  by_cases ht : t = tier
  · subst ht
    rw [Function.update_self] at h
    exact Or.inl h
  · rw [Function.update_of_ne ht] at h
    exact Or.inr h

theorem place_has {s : GameScheduler} {item x : SchedulableItem} {q : List SchedulableItem}
    (h : (s.place item q).Has x) : x ∈ q ∨ s.Has x := by
  obtain ⟨t, ht⟩ := h
  rcases mem_update ht with hq | hs
  · exact Or.inl hq
  · exact Or.inr ⟨t, hs⟩

theorem evictSuperseded_has {s : GameScheduler} {tier : Fin 5} {id : MessageId}
    {x : SchedulableItem} (h : (s.evictSuperseded tier id).Has x) : s.Has x := by
  obtain ⟨t, ht⟩ := h
  rcases mem_update ht with hq | hs
  · exact ⟨tier, (List.mem_filter.mp hq).1⟩
  · exact ⟨t, hs⟩

/-- Placing the item at the end of its tier adds nothing but the item. -/
theorem place_append_has {s : GameScheduler} {item x : SchedulableItem}
    (h : (s.place item (s.queues item.priority.idx ++ [item])).Has x) : s.Has x ∨ x = item := by
  rcases place_has h with hq | hs
  · rcases List.mem_append.mp hq with hq | hq
    · exact Or.inl ⟨_, hq⟩
    · exact Or.inr (List.mem_singleton.mp hq)
  · exact Or.inl hs

theorem enqueue_has {s : GameScheduler} {item x : SchedulableItem} {now : MonotonicTime}
    (h : (s.enqueue item now).2.Has x) : s.Has x ∨ x = item := by
  unfold enqueue at h
  dsimp only at h
  split at h
  · exact Or.inl h
  · split at h
    · split at h
      · exact Or.inl h
      · split at h
        · rcases place_append_has h with hs | rfl
          · exact Or.inl (evictSuperseded_has hs)
          · exact Or.inr rfl
        · exact place_append_has h
    · exact place_append_has h

theorem requeue_has {s : GameScheduler} {item x : SchedulableItem} {now : MonotonicTime}
    (h : (s.requeue item now).2.Has x) : s.Has x ∨ x = item := by
  unfold requeue at h
  split at h
  · exact Or.inl h
  · rcases place_has h with hq | hs
    · rcases List.mem_cons.mp hq with rfl | hq
      · exact Or.inr rfl
      · exact Or.inl ⟨_, hq⟩
    · exact Or.inl hs

theorem serveTier_spec {s : GameScheduler} {tier : Fin 5} {now : MonotonicTime}
    {ok : SchedulableItem → Bool} (q : List SchedulableItem) :
    (∀ x, (s.serveTier tier now ok q).2.Has x → s.Has x ∨ x ∈ q) ∧
      ∀ x, (s.serveTier tier now ok q).1 = some x → x ∈ q ∧ ok x ∧ x.isExpired now = false := by
  induction q generalizing s with
  | nil =>
    refine ⟨fun x h => ?_, fun x h => by cases h⟩
    obtain ⟨t, ht⟩ := h
    rcases mem_update ht with hq | hs
    · exact Or.inr hq
    · exact Or.inl ⟨t, hs⟩
  | cons item rest ih =>
    rw [serveTier]
    split
    · -- expired: only the counters change before the loop goes on
      obtain ⟨hhas, hserved⟩ := @ih (s.discard tier item)
      refine ⟨fun x h => ?_, fun x h => ?_⟩
      · rcases hhas x h with hs | hr
        · exact Or.inl hs
        · exact Or.inr (List.mem_cons_of_mem _ hr)
      · obtain ⟨hmem, hok⟩ := hserved x h
        exact ⟨List.mem_cons_of_mem _ hmem, hok⟩
    · rename_i hexp
      split
      · rename_i hok
        refine ⟨fun x h => ?_, fun x h => ?_⟩
        · obtain ⟨t, ht⟩ := h
          rcases mem_update ht with hq | hs
          · exact Or.inr (List.mem_cons_of_mem _ hq)
          · exact Or.inl ⟨t, hs⟩
        · obtain rfl := Option.some.inj h
          exact ⟨List.mem_cons_self, hok, Bool.eq_false_iff.mpr hexp⟩
      · refine ⟨fun x h => ?_, fun x h => by cases h⟩
        obtain ⟨t, ht⟩ := h
        rcases mem_update ht with hq | hs
        · exact Or.inr hq
        · exact Or.inl ⟨t, hs⟩

theorem scanTiers_queues (s : GameScheduler) (steps : List Nat) :
    (s.scanTiers steps).1.queues = s.queues := by
  induction steps generalizing s with
  | nil => rfl
  | cons step rest ih =>
    rw [scanTiers]
    split
    · exact ih _
    · rfl

theorem accrue_queues (s : GameScheduler) (idx : Fin 5) : (s.accrue idx).queues = s.queues := by
  unfold accrue
  split <;> rfl

theorem drrRounds_spec (sendBudget : Nat) (now : MonotonicTime) (rounds : Nat)
    (s : GameScheduler) :
    (∀ x, (drrRounds sendBudget now rounds s).2.Has x → s.Has x) ∧
      ∀ x, (drrRounds sendBudget now rounds s).1 = some x →
        s.Has x ∧ x.sizeBytes ≤ sendBudget ∧ x.isExpired now = false := by
  induction rounds generalizing s with
  | zero => exact ⟨fun x h => h, fun x h => by cases h⟩
  | succ rounds ih =>
    have hscan := scanTiers_queues s [0, 1, 2, 3]
    rw [drrRounds]
    rcases hs1 : s.scanTiers [0, 1, 2, 3] with ⟨s1, idx⟩
    rw [hs1] at hscan
    cases idx with
    | none =>
      refine ⟨fun x h => ?_, fun x h => by cases h⟩
      obtain ⟨t, ht⟩ := h
      rw [hscan] at ht
      exact ⟨t, ht⟩
    | some idx =>
      have hq : (s1.accrue idx).queues = s.queues := (accrue_queues s1 idx).trans hscan
      dsimp only
      generalize hok : (fun item : SchedulableItem => decide (item.sizeBytes ≤ sendBudget) &&
        decide (item.sizeBytes ≤ (s1.accrue idx).deficits idx)) = ok
      obtain ⟨hhas, hserved⟩ :=
        @serveTier_spec (s1.accrue idx) idx now ok ((s1.accrue idx).queues idx)
      have hback : ∀ x, ((s1.accrue idx).serveTier idx now ok
          ((s1.accrue idx).queues idx)).2.Has x → s.Has x := by
        intro x hx
        rcases hhas x hx with ⟨t, ht⟩ | ht
        · rw [hq] at ht
          exact ⟨t, ht⟩
        · rw [hq] at ht
          exact ⟨idx, ht⟩
      rcases hserve : (s1.accrue idx).serveTier idx now ok ((s1.accrue idx).queues idx) with
        ⟨front, s2⟩
      rw [hserve] at hback hserved
      cases front with
      | some front =>
        refine ⟨fun x hx => hback x hx, fun x hx => ?_⟩
        obtain rfl := Option.some.inj hx
        obtain ⟨hmem, hadm, hlive⟩ := hserved front rfl
        rw [← hok] at hadm
        simp only [Bool.and_eq_true, decide_eq_true_eq] at hadm
        rw [hq] at hmem
        exact ⟨⟨idx, hmem⟩, hadm.1, hlive⟩
      | none =>
        obtain ⟨ihhas, ihserved⟩ := ih { s2 with
          accrued := Function.update s2.accrued idx false
          drrPointer := drrTier idx 1 }
        refine ⟨fun x hx => hback x (ihhas x hx), fun x hx => ?_⟩
        obtain ⟨hs, hrest⟩ := ihserved x hx
        exact ⟨hback x hs, hrest⟩

/-- **The specification of `pop_next`.**  It hands out a live item that was queued and fits the
budget, and adds nothing to the queues. -/
theorem popNext_spec (s : GameScheduler) (sendBudget : Nat) (now : MonotonicTime) :
    (∀ x, (s.popNext sendBudget now).2.Has x → s.Has x) ∧
      ∀ x, (s.popNext sendBudget now).1 = some x →
        s.Has x ∧ x.sizeBytes ≤ sendBudget ∧ x.isExpired now = false := by
  unfold popNext
  split
  · exact ⟨fun x h => h, fun x h => by cases h⟩
  · generalize hstrict : PriorityTier.p0Control.idx = strict
    obtain ⟨hhas, hserved⟩ := @serveTier_spec s strict now
      (fun item => decide (item.sizeBytes ≤ sendBudget)) (s.queues strict)
    have hback : ∀ x, (s.serveTier strict now (fun item => decide (item.sizeBytes ≤ sendBudget))
        (s.queues strict)).2.Has x → s.Has x := by
      intro x hx
      rcases hhas x hx with hs | h0
      · exact hs
      · exact ⟨strict, h0⟩
    dsimp only
    rcases hserve : s.serveTier strict now (fun item => decide (item.sizeBytes ≤ sendBudget))
      (s.queues strict) with ⟨front, s2⟩
    rw [hserve] at hback hserved
    cases front with
    | some front =>
      refine ⟨fun x hx => hback x hx, fun x hx => ?_⟩
      obtain rfl := Option.some.inj hx
      obtain ⟨hmem, hadm, hlive⟩ := hserved front rfl
      exact ⟨⟨strict, hmem⟩, of_decide_eq_true hadm, hlive⟩
    | none =>
      obtain ⟨ihhas, ihserved⟩ := drrRounds_spec sendBudget now 4 s2
      refine ⟨fun x hx => hback x (ihhas x hx), fun x hx => ?_⟩
      obtain ⟨hs, hrest⟩ := ihserved x hx
      exact ⟨hback x hs, hrest⟩

theorem pruneStale_has {s : GameScheduler} {now : MonotonicTime} {x : SchedulableItem}
    (h : (s.pruneStale now).1.Has x) : s.Has x := by
  obtain ⟨t, ht⟩ := h
  exact ⟨t, (List.mem_filter.mp ht).1⟩

end GameScheduler

/-! ## 5. Ordered groups -/

/-- The reorder buffer of one group, `BTreeMap<u32, Vec<u8>>`. -/
abbrev ReorderBuffer := Std.ExtTreeMap UInt32 (List UInt8) compare

/-- `OrderedGroupReceiver`. -/
structure OrderedGroupReceiver where
  groupId : OrderedGroupId
  nextExpected : UInt32
  reorderBuffer : ReorderBuffer
  maxBufferBytes : Nat
  currentBufferBytes : Nat
  maxBufferItems : Nat

namespace OrderedGroupReceiver

/-- `OrderedGroupReceiver::new`. -/
def new (groupId : OrderedGroupId) : OrderedGroupReceiver where
  groupId
  nextExpected := 0
  reorderBuffer := ∅
  maxBufferBytes := 256 * 1024
  currentBufferBytes := 0
  maxBufferItems := 1024

/-- `seq_is_stale`: in the upper half of the space behind `next_expected`. -/
def seqIsStale (seq nextExpected : UInt32) : Bool :=
  let diff := seq - nextExpected
  decide (0x80000000 ≤ diff) && decide (diff ≠ 0)

/-- The drain loop: what is buffered at `next_expected` follows the payload just delivered.  Every
turn removes an entry, so the buffer's size bounds the turns. -/
def drain (g : OrderedGroupReceiver) : Nat → OrderedGroupReceiver × List (UInt32 × List UInt8)
  | 0 => (g, [])
  | fuel + 1 =>
    match g.reorderBuffer[g.nextExpected]? with
    | none => (g, [])
    | some buffered =>
      let g' := { g with
        reorderBuffer := g.reorderBuffer.erase g.nextExpected
        currentBufferBytes := g.currentBufferBytes - buffered.length
        nextExpected := g.nextExpected + 1 }
      let (g'', ready) := drain g' fuel
      (g'', (g.nextExpected, buffered) :: ready)

/-- `OrderedGroupReceiver::on_incoming`. -/
def onIncoming (g : OrderedGroupReceiver) (orderSeq : UInt32) (payload : List UInt8) :
    Result (List (UInt32 × List UInt8)) × OrderedGroupReceiver :=
  if seqIsStale orderSeq g.nextExpected then (.ok [], g)
  else if orderSeq = g.nextExpected then
    let (g', ready) := drain { g with nextExpected := g.nextExpected + 1 } g.reorderBuffer.size
    (.ok ((orderSeq, payload) :: ready), g')
  else if g.maxBufferItems < g.reorderBuffer.size + 1 then
    (.error (.resourceLimitExceeded "Ordered group buffer item capacity exceeded"), g)
  else if g.maxBufferBytes < g.currentBufferBytes + payload.length then
    (.error (.resourceLimitExceeded "Ordered group buffer capacity exceeded"), g)
  else if orderSeq ∈ g.reorderBuffer then (.ok [], g)
  else
    (.ok [],
      { g with
        currentBufferBytes := g.currentBufferBytes + payload.length
        reorderBuffer := g.reorderBuffer.insert orderSeq payload })

end OrderedGroupReceiver

end Gtp
