/-
# One update per state key

`send_sequenced` replaces: a newer update of a state key takes the place of the one that is queued.
The queue does not know keys.  The state table remembers, per key, the newest generation and
sequence and the id of the message that carried it, and `enqueue` removes the items with that id.
So the two must agree: the item of a key that is queued, or popped and not yet put back, is the one
the table names (`Tracked`).

They agree as long as the table remembers.  It is bounded to 4096 keys, and the key that was
inserted first is forgotten first, also when it has been updated since.  If an update of that key is
still queued then, the next one does not replace it (`forgotten_key`).  Where this does not happen
there is one item per key, and it is the last update that was admitted (`one_per_key`).

"Newer" is the order of serial numbers, which is not transitive: each update is newer than the one
before it, and need not be newer than those before that.
-/
import Gtp.Rounds
import Gtp.StateTable
import Gtp.Core.Connection
import Gtp.Lib.Runs
import Mathlib.Data.List.Chain

namespace Gtp

/-! ## 1. Sending an update -/

namespace GameScheduler

/-- The tests that an update has to pass. -/
def AdmitsUpdate (s : GameScheduler) (item : SchedulableItem) (key : StateKey)
    (seq : StateSequence) (gen : GenerationId) (now : MonotonicTime) : Bool :=
  (s.checkAdmission item now).isOk && s.stateTable.shouldAdmit key gen seq

/-- An update that is not admitted leaves no trace. -/
theorem enqueue_refused {s : GameScheduler} {item : SchedulableItem} {key : StateKey}
    {seq : StateSequence} {gen : GenerationId} {now : MonotonicTime}
    (hclass : item.class' = .unreliableSequenced key seq gen)
    (h : s.AdmitsUpdate item key seq gen now = false) : (s.enqueue item now).2 = s := by
  unfold AdmitsUpdate at h
  unfold enqueue
  rw [hclass]
  dsimp only
  cases hadm : s.checkAdmission item now with
  | error e => rfl
  | ok u =>
    rw [hadm, Except.isOk, Except.toBool, Bool.true_and] at h
    dsimp only
    rw [h]
    rfl

/-- What is left of a queue when a message was superseded. -/
def withoutSuperseded (superseded : Option MessageId) (q : List SchedulableItem) :
    List SchedulableItem :=
  match superseded with
  | some id => q.filter fun i => i.messageId ≠ id
  | none => q

/-- An update that is admitted: the table is updated, what it superseded leaves, and the item goes
to the end of its tier. -/
theorem enqueue_admitted {s : GameScheduler} {item : SchedulableItem} {key : StateKey}
    {seq : StateSequence} {gen : GenerationId} {now : MonotonicTime}
    (hclass : item.class' = .unreliableSequenced key seq gen)
    (h : s.AdmitsUpdate item key seq gen now = true) :
    (s.enqueue item now).2.stateTable = (s.stateTable.update key gen seq item.messageId).1 ∧
      (s.enqueue item now).2.queues = Function.update s.queues item.priority.idx
        (withoutSuperseded (s.stateTable.update key gen seq item.messageId).2
          (s.queues item.priority.idx) ++ [item]) := by
  unfold AdmitsUpdate at h
  obtain ⟨hadm, hshould⟩ := Bool.and_eq_true_iff.mp h
  unfold enqueue
  rw [hclass]
  dsimp only
  cases hcheck : s.checkAdmission item now with
  | error e =>
    rw [hcheck] at hadm
    cases hadm
  | ok u =>
    dsimp only
    rw [hshould]
    rcases s.stateTable.update key gen seq item.messageId with ⟨table, superseded⟩
    cases superseded with
    | none => exact ⟨rfl, rfl⟩
    | some id =>
      refine ⟨rfl, ?_⟩
      change Function.update (Function.update s.queues _ _) _ _ = _
      rw [Function.update_idem]
      simp [evictSuperseded, withoutSuperseded]

end GameScheduler

/-! ## 2. A feed of updates -/

open GtpConnection

/-- A connection, and the items that were popped since the last send. -/
structure Feed where
  conn : GtpConnection
  hand : List SchedulableItem

namespace Feed

/-- What is done with the feed.  An item is put back before the next send. -/
inductive Move where
  | send (stateKey : StateKey) (sequence : StateSequence) (generation : GenerationId)
      (deadline : Option MonotonicTime) (payload : List UInt8) (now : MonotonicTime)
  | pop (sendBudget : Nat) (now : MonotonicTime)
  | requeue (item : SchedulableItem) (now : MonotonicTime)
  | prune (now : MonotonicTime)

/-- The scheduler of the connection. -/
def scheduler (w : Feed) : GameScheduler := w.conn.hot.scheduler

/-- The feed with another scheduler. -/
def withScheduler (w : Feed) (s : GameScheduler) (hand : List SchedulableItem) : Feed :=
  ⟨{ w.conn with hot.scheduler := s }, hand⟩

/-- The feed after a move. -/
def step (w : Feed) : Move → Feed
  | .send stateKey sequence generation deadline payload now =>
    ⟨(w.conn.sendSequenced stateKey sequence generation deadline payload now).2, []⟩
  | .pop sendBudget now =>
    w.withScheduler (w.scheduler.popNext sendBudget now).2
      (w.hand ++ (w.scheduler.popNext sendBudget now).1.toList)
  | .requeue item now =>
    if item ∈ w.hand then w.withScheduler (w.scheduler.requeue item now).2 (w.hand.erase item)
    else w
  | .prune now => w.withScheduler (w.scheduler.pruneStale now).1 w.hand

/-- A fresh connection. -/
def start (s : Setup) : Feed := ⟨s.start, []⟩

/-- A generation and a sequence. -/
abbrev Stamp := GenerationId × StateSequence

/-- One update is newer than another: `should_admit`. -/
def Newer (old new : Stamp) : Prop := StateTable.isNewer new.1 new.2 (old.1, old.2, 0) = true

instance (old new : Stamp) : Decidable (Newer old new) := inferInstanceAs (Decidable (_ = true))

/-- The item that `send_sequenced` makes. -/
def itemOf (w : Feed) (stateKey : StateKey) (sequence : StateSequence) (generation : GenerationId)
    (deadline : Option MonotonicTime) (payload : List UInt8) (now : MonotonicTime) :
    SchedulableItem where
  messageId := w.conn.hot.nextMessageId
  class' := .unreliableSequenced stateKey sequence generation
  priority := .p2WorldState
  createdAt := now
  deadline
  supersedable := true
  payload
  fragmentId := 0
  totalFragments := 1

/-- The move admits an update of the key. -/
def admitted (key : StateKey) (w : Feed) : Move → Option Stamp
  | .send stateKey sequence generation deadline payload now =>
    if stateKey = key ∧ payload.length ≤ w.conn.maxMessagePayload ∧
        w.scheduler.AdmitsUpdate
          (w.itemOf stateKey sequence generation deadline payload now) stateKey sequence generation
          now = true then some (generation, sequence)
    else none
  | _ => none

/-- The table has an entry for the key. -/
def Remembers (w : Feed) (key : StateKey) : Prop :=
  w.scheduler.stateTable.entries[key.toU48]? ≠ none

instance (w : Feed) (key : StateKey) : Decidable (w.Remembers key) :=
  inferInstanceAs (Decidable (¬ _))

/-- The updates of the key that were admitted, since the table last took the key in. -/
def record (key : StateKey) (w : Feed) (tenure : List Stamp) (m : Move) : List Stamp :=
  match admitted key w m with
  | some update => if w.Remembers key then tenure ++ [update] else [update]
  | none => tenure

/-- The updates of the key that were admitted in a run, since the table last took the key in. -/
def tenure (key : StateKey) : Feed → List Stamp → List Move → List Stamp
  | _, past, [] => past
  | w, past, m :: ms => tenure key (w.step m) (record key w past m) ms

/-- The item is an update of the key. -/
def isOf (key : StateKey) (item : SchedulableItem) : Bool :=
  match item.class' with
  | .unreliableSequenced stateKey _ _ => decide (stateKey = key)
  | _ => false

/-- The updates of the key that are queued, in any tier. -/
def queuedOf (key : StateKey) (w : Feed) : List SchedulableItem :=
  (List.finRange 5).flatMap fun t => (w.scheduler.queues t).filter (isOf key)

/-- The move does not make the table forget the key while an update of it is queued. -/
def Spared (key : StateKey) (w : Feed) (m : Move) : Prop :=
  w.Remembers key → ¬ (w.step m).Remembers key → queuedOf key (w.step m) = []

instance (key : StateKey) (w : Feed) (m : Move) : Decidable (Spared key w m) :=
  inferInstanceAs (Decidable (_ → _ → _))

theorem isOf_iff {key : StateKey} {item : SchedulableItem} :
    isOf key item = true ↔ ∃ seq gen, item.class' = .unreliableSequenced key seq gen := by
  unfold isOf
  split
  · rename_i stateKey seq gen hclass
    rw [decide_eq_true_eq, hclass]
    constructor
    · rintro rfl
      exact ⟨seq, gen, rfl⟩
    · rintro ⟨seq', gen', heq⟩
      cases heq
      rfl
  · rename_i hother
    constructor
    · intro h
      cases h
    · rintro ⟨seq, gen, heq⟩
      exact absurd heq (hother key seq gen)

theorem step_send_scheduler (w : Feed) (stateKey : StateKey) (sequence : StateSequence)
    (generation : GenerationId) (deadline : Option MonotonicTime) (payload : List UInt8)
    (now : MonotonicTime) :
    (w.step (.send stateKey sequence generation deadline payload now)).scheduler =
      if w.conn.maxMessagePayload < payload.length then w.scheduler
      else (w.scheduler.enqueue (w.itemOf stateKey sequence generation deadline payload now)
        now).2 := by
  unfold step scheduler sendSequenced sendSingle
  dsimp only
  split <;> rfl

/-! ## 3. Table and queue agree -/

/-- What is queued or in hand. -/
def items (w : Feed) : List SchedulableItem :=
  w.scheduler.queues PriorityTier.p2WorldState.idx ++ w.hand

theorem items_eq (w : Feed) : w.items = w.scheduler.queues 2 ++ w.hand := rfl

/-- **Table and queue agree about the key.**  All updates are in one tier; of the key there is at
most one, and the table names it. -/
structure Tracked (key : StateKey) (w : Feed) (past : List Stamp) : Prop where
  counted : w.scheduler.Counted
  ordered : w.scheduler.stateTable.Ordered
  tier : ∀ t ≠ 2, w.scheduler.queues t = []
  hand : ∀ x ∈ w.hand, x.priority.idx = 2
  single : (w.items.filter (isOf key)).length ≤ 1
  named : ∀ x ∈ w.items, isOf key x = true → ∃ gen seq,
    x.class' = .unreliableSequenced key seq gen ∧
      w.scheduler.stateTable.entries[key.toU48]? = some (gen, seq, x.messageId)
  last : ∀ e, w.scheduler.stateTable.entries[key.toU48]? = some e →
    past.getLast? = some (e.1, e.2.1)
  chain : past.IsChain Newer

section Moves

variable {key : StateKey} {w w' : Feed} {past : List Stamp}

/-- Items may move between queue and hand, and leave. -/
theorem Tracked.shrink (h : Tracked key w past) (hcounted : w'.scheduler.Counted)
    (htable : w'.scheduler.stateTable = w.scheduler.stateTable)
    (htier : ∀ t ≠ 2, w'.scheduler.queues t = []) (hhand : ∀ x ∈ w'.hand, x.priority.idx = 2)
    (hitems : List.Subperm w'.items w.items) : Tracked key w' past := by
  refine ⟨hcounted, htable ▸ h.ordered, htier, hhand, ?_, fun x hx hof => ?_, ?_, h.chain⟩
  · exact (hitems.filter (isOf key)).length_le.trans h.single
  · rw [htable]
    exact h.named x (hitems.subset hx) hof
  · rw [htable]
    exact h.last

/-- Without an entry, nothing of the key is queued. -/
theorem Tracked.forgotten (h : Tracked key w past) (hnone : ¬ w.Remembers key) :
    w.items.filter (isOf key) = [] := by
  rw [List.filter_eq_nil_iff]
  intro x hx hof
  obtain ⟨gen, seq, -, hentry⟩ := h.named x hx hof
  exact hnone (by rw [Remembers, hentry]; exact Option.some_ne_none _)

theorem Tracked.pop (h : Tracked key w past) (sendBudget : Nat) (now : MonotonicTime) :
    Tracked key (w.step (.pop sendBudget now)) past := by
  have htook := GameScheduler.popNext_took w.scheduler sendBudget now h.counted.tiers
  have htable := (GameScheduler.popNext_table w.scheduler sendBudget now).2
  have hcounted := h.counted.popNext sendBudget now
  have hfront : ∀ x, (w.scheduler.popNext sendBudget now).1 = some x → x.priority.idx = 2 := by
    intro x hx
    by_contra hne
    have hmem := (htook.front x hx).subset List.mem_cons_self
    rw [h.tier _ hne] at hmem
    cases hmem
  change Tracked key (w.withScheduler (w.scheduler.popNext sendBudget now).2
    (w.hand ++ (w.scheduler.popNext sendBudget now).1.toList)) past
  generalize w.scheduler.popNext sendBudget now = out at htook htable hcounted hfront ⊢
  refine h.shrink hcounted htable (fun t ht => ?_) (fun x hx => ?_) ?_
  · exact List.suffix_nil.mp (h.tier t ht ▸ htook.suffix t)
  · rcases List.mem_append.mp hx with hx | hx
    · exact h.hand x hx
    · exact hfront x (Option.mem_toList.mp hx)
  · change List.Subperm (out.2.queues 2 ++ (w.hand ++ out.1.toList))
      (w.scheduler.queues 2 ++ w.hand)
    cases hout : out.1 with
    | none =>
      rw [Option.toList_none, List.append_nil]
      exact ((htook.suffix 2).sublist.append_right _).subperm
    | some x =>
      have hx := htook.front x hout
      rw [hfront x hout] at hx
      have hperm : (out.2.queues 2 ++ (w.hand ++ [x])).Perm (x :: out.2.queues 2 ++ w.hand) := by
        rw [← List.append_assoc]
        exact List.perm_append_singleton x _
      exact hperm.subperm.trans (hx.sublist.append_right _).subperm

theorem Tracked.requeue (h : Tracked key w past) (item : SchedulableItem) (now : MonotonicTime) :
    Tracked key (w.step (.requeue item now)) past := by
  simp only [step]
  split
  · rename_i hmem
    have hidx := h.hand item hmem
    have htable := (GameScheduler.requeue_table w.scheduler item now).2
    have hcounted := h.counted.requeue item now
    have hhand : ∀ x ∈ w.hand.erase item, x.priority.idx = 2 := fun x hx =>
      h.hand x (List.mem_of_mem_erase hx)
    have herase : (item :: w.hand.erase item).Perm w.hand := (List.perm_cons_erase hmem).symm
    unfold GameScheduler.requeue at htable hcounted ⊢
    cases hadm : w.scheduler.checkAdmission item now with
    | error e =>
      refine h.shrink h.counted rfl h.tier hhand ?_
      exact (List.Sublist.append_left List.erase_sublist _).subperm
    | ok u =>
      rw [hadm] at htable hcounted
      refine h.shrink hcounted htable (fun t ht => ?_) hhand ?_
      · change Function.update w.scheduler.queues item.priority.idx _ t = []
        rw [hidx, Function.update_of_ne ht]
        exact h.tier t ht
      · change List.Subperm (Function.update w.scheduler.queues item.priority.idx _ 2 ++ _) _
        rw [hidx, Function.update_self]
        have hperm : (item :: w.scheduler.queues 2 ++ w.hand.erase item).Perm
            (w.scheduler.queues 2 ++ (item :: w.hand.erase item)) := List.perm_middle.symm
        exact (hperm.trans (herase.append_left _)).subperm
  · exact h

theorem Tracked.prune (h : Tracked key w past) (now : MonotonicTime) :
    Tracked key (w.step (.prune now)) past := by
  refine h.shrink (h.counted.pruneStale now) rfl (fun t ht => ?_) h.hand ?_
  · change (w.scheduler.queues t).filter _ = []
    rw [h.tier t ht]
    rfl
  · exact (List.Sublist.append_right List.filter_sublist _).subperm

/-- A send clears the hand; an update that is not admitted does nothing else. -/
theorem Tracked.send_refused (h : Tracked key w past)
    (hsame : w'.scheduler = w.scheduler) (hhand : w'.hand = []) : Tracked key w' past := by
  refine h.shrink (hsame ▸ h.counted) (by rw [hsame]) (by rw [hsame]; exact h.tier)
    (by rw [hhand]; exact fun x hx => by cases hx) ?_
  rw [items_eq, items_eq, hsame, hhand, List.append_nil]
  exact (List.sublist_append_left _ _).subperm

theorem withoutSuperseded_sublist (superseded : Option MessageId) (q : List SchedulableItem) :
    List.Sublist (GameScheduler.withoutSuperseded superseded q) q := by
  cases superseded with
  | none => exact List.Sublist.refl q
  | some id => exact List.filter_sublist

/-- An update of the key that is admitted takes the place of the one before it. -/
theorem Tracked.replace (h : Tracked key w past) {item : SchedulableItem}
    {superseded : Option MessageId} {gen : GenerationId} {seq : StateSequence}
    (hclass : item.class' = .unreliableSequenced key seq gen) (hcounted : w'.scheduler.Counted)
    (hq : w'.scheduler.queues = Function.update w.scheduler.queues 2
      (GameScheduler.withoutSuperseded superseded (w.scheduler.queues 2) ++ [item]))
    (hhand : w'.hand = []) (hordered : w'.scheduler.stateTable.Ordered)
    (hentry : w'.scheduler.stateTable.entries[key.toU48]? = some (gen, seq, item.messageId))
    (hclean : (GameScheduler.withoutSuperseded superseded
      (w.scheduler.queues 2)).filter (isOf key) = [])
    {past' : List Stamp} (hlast : past'.getLast? = some (gen, seq))
    (hchain : past'.IsChain Newer) : Tracked key w' past' := by
  have hitems : w'.items =
      GameScheduler.withoutSuperseded superseded (w.scheduler.queues 2) ++ [item] := by
    rw [items_eq, hq, Function.update_self, hhand, List.append_nil]
  have hof : isOf key item = true := isOf_iff.mpr ⟨seq, gen, hclass⟩
  have hfilter : w'.items.filter (isOf key) = [item] := by
    rw [hitems, List.filter_append, hclean]
    simp [hof]
  refine ⟨hcounted, hordered, fun t ht => ?_, ?_, ?_, fun x hx hx' => ?_, fun e he => ?_, hchain⟩
  · rw [hq, Function.update_of_ne ht]
    exact h.tier t ht
  · rw [hhand]
    exact fun x hx => by cases hx
  · rw [hfilter]
    exact Nat.le_refl 1
  · have hmem : x ∈ w'.items.filter (isOf key) := List.mem_filter.mpr ⟨hx, hx'⟩
    rw [hfilter] at hmem
    obtain rfl := List.mem_singleton.mp hmem
    exact ⟨gen, seq, hclass, hentry⟩
  · obtain rfl := Option.some.inj (hentry.symm.trans he)
    exact hlast

/-- An update of another key that is admitted: the table may forget the key for it. -/
theorem Tracked.other (h : Tracked key w past) {item : SchedulableItem}
    {superseded : Option MessageId} (hof : isOf key item = false)
    (hcounted : w'.scheduler.Counted)
    (hq : w'.scheduler.queues = Function.update w.scheduler.queues 2
      (GameScheduler.withoutSuperseded superseded (w.scheduler.queues 2) ++ [item]))
    (hhand : w'.hand = []) (hordered : w'.scheduler.stateTable.Ordered)
    (hentry : w'.scheduler.stateTable.entries[key.toU48]? =
        w.scheduler.stateTable.entries[key.toU48]? ∨
      w'.scheduler.stateTable.entries[key.toU48]? = none)
    (hspared : w.Remembers key → ¬ w'.Remembers key → queuedOf key w' = []) :
    Tracked key w' past := by
  have hitems : w'.items =
      GameScheduler.withoutSuperseded superseded (w.scheduler.queues 2) ++ [item] := by
    rw [items_eq, hq, Function.update_self, hhand, List.append_nil]
  have hsub : List.Sublist (w'.items.filter (isOf key)) (w.items.filter (isOf key)) := by
    have hnone : [item].filter (isOf key) = [] := by
      simp [hof]
    rw [hitems, List.filter_append, hnone, List.append_nil]
    exact ((withoutSuperseded_sublist _ _).trans (List.sublist_append_left _ _)).filter _
  refine ⟨hcounted, hordered, fun t ht => ?_, ?_, hsub.length_le.trans h.single, fun x hx hx' => ?_,
    fun e he => ?_, h.chain⟩
  · rw [hq, Function.update_of_ne ht]
    exact h.tier t ht
  · rw [hhand]
    exact fun x hx => by cases hx
  · have hmem : x ∈ w'.items.filter (isOf key) := List.mem_filter.mpr ⟨hx, hx'⟩
    obtain ⟨gen, seq, hclass, hold⟩ := h.named x (List.mem_filter.mp (hsub.subset hmem)).1 hx'
    refine ⟨gen, seq, hclass, ?_⟩
    rcases hentry with hsame | hgone
    · rw [hsame]
      exact hold
    · -- the key is forgotten, so nothing of it was queued
      have hempty := hspared (by rw [Remembers, hold]; exact Option.some_ne_none _)
        (not_not.mpr hgone)
      have hqueued : x ∈ queuedOf key w' := by
        refine List.mem_flatMap.mpr ⟨2, List.mem_finRange 2, List.mem_filter.mpr ⟨?_, hx'⟩⟩
        rw [items_eq, hhand, List.append_nil] at hx
        exact hx
      rw [hempty] at hqueued
      cases hqueued
  · rcases hentry with hsame | hgone
    · exact h.last e (hsame ▸ he)
    · rw [hgone] at he
      cases he

/-- **A send.** -/
theorem Tracked.send (h : Tracked key w past) (stateKey : StateKey) (sequence : StateSequence)
    (generation : GenerationId) (deadline : Option MonotonicTime) (payload : List UInt8)
    (now : MonotonicTime)
    (hspared : Spared key w (.send stateKey sequence generation deadline payload now)) :
    Tracked key (w.step (.send stateKey sequence generation deadline payload now))
      (record key w past (.send stateKey sequence generation deadline payload now)) := by
  have hscheduler := w.step_send_scheduler stateKey sequence generation deadline payload now
  have hhand : (w.step (.send stateKey sequence generation deadline payload now)).hand = [] := rfl
  have hclass : (w.itemOf stateKey sequence generation deadline payload now).class' =
    .unreliableSequenced stateKey sequence generation := rfl
  have hidx : (w.itemOf stateKey sequence generation deadline payload now).priority.idx = 2 := rfl
  simp only [record, admitted]
  unfold Spared at hspared
  generalize w.step (.send stateKey sequence generation deadline payload now) = w' at *
  generalize w.itemOf stateKey sequence generation deadline payload now = item at *
  by_cases hlarge : w.conn.maxMessagePayload < payload.length
  · rw [if_pos hlarge] at hscheduler
    rw [if_neg fun hadm => Nat.not_lt.mpr hadm.2.1 hlarge]
    exact h.send_refused hscheduler hhand
  rw [if_neg hlarge] at hscheduler
  cases hadm : w.scheduler.AdmitsUpdate item stateKey sequence generation now with
  | false =>
    rw [if_neg fun hadm => Bool.false_ne_true hadm.2.2]
    exact h.send_refused (hscheduler.trans (GameScheduler.enqueue_refused hclass hadm)) hhand
  | true =>
    obtain ⟨htable, hq⟩ := GameScheduler.enqueue_admitted hclass hadm
    have hcounted := h.counted.enqueue item now
    rw [← hscheduler] at htable hq hcounted
    rw [hidx] at hq
    have hshould := (Bool.and_eq_true_iff.mp hadm).2
    cases hcurr : w.scheduler.stateTable.entries[stateKey.toU48]? with
    | none =>
      obtain ⟨-, hordered, hentry, hothers⟩ := h.ordered.update_fresh hcurr generation
        sequence item.messageId
      rw [← htable] at hordered hentry hothers
      by_cases hkey : stateKey = key
      · subst hkey
        have hgone : ¬ w.Remembers stateKey := not_not.mpr hcurr
        rw [if_pos ⟨rfl, Nat.not_lt.mp hlarge, rfl⟩]
        dsimp only
        rw [if_neg hgone]
        refine h.replace hclass hcounted hq hhand hordered hentry ?_ rfl (List.isChain_singleton _)
        refine List.eq_nil_of_sublist_nil ?_
        rw [← h.forgotten hgone]
        exact ((withoutSuperseded_sublist _ _).trans (List.sublist_append_left _ _)).filter _
      · rw [if_neg fun hadm => hkey hadm.1]
        refine h.other (Bool.eq_false_iff.mpr fun hof => ?_) hcounted hq hhand hordered ?_ hspared
        · obtain ⟨seq, gen, heq⟩ := isOf_iff.mp hof
          rw [hclass] at heq
          cases heq
          exact hkey rfl
        · exact hothers _ fun heq => hkey (StateKey.toU48_inj heq.symm)
    | some curr =>
      have hnewer : StateTable.isNewer generation sequence curr = true := by
        unfold StateTable.shouldAdmit at hshould
        rw [hcurr] at hshould
        exact hshould
      obtain ⟨hsuperseded, hordered, hentry, hothers⟩ := h.ordered.update_newer hcurr hnewer
        item.messageId
      rw [← htable] at hordered hentry hothers
      rw [hsuperseded] at hq
      by_cases hkey : stateKey = key
      · subst hkey
        have hknown : w.Remembers stateKey := by
          rw [Remembers, hcurr]
          exact Option.some_ne_none _
        rw [if_pos ⟨rfl, Nat.not_lt.mp hlarge, rfl⟩]
        dsimp only
        rw [if_pos hknown]
        refine h.replace hclass hcounted hq hhand hordered hentry ?_ List.getLast?_concat ?_
        · -- what is queued of the key is what the table names, and that leaves
          rw [List.filter_eq_nil_iff]
          intro x hx hof
          obtain ⟨hx, hid⟩ := List.mem_filter.mp hx
          obtain ⟨gen, seq, -, hold⟩ := h.named x (List.mem_append_left _ hx) hof
          rw [hcurr] at hold
          obtain rfl := Option.some.inj hold
          exact of_decide_eq_true hid rfl
        · refine List.IsChain.append h.chain (List.isChain_singleton _) fun u hu v hv => ?_
          rw [h.last curr hcurr] at hu
          obtain rfl := Option.some.inj hu
          obtain rfl := Option.some.inj hv
          exact hnewer
      · rw [if_neg fun hadm => hkey hadm.1]
        refine h.other (Bool.eq_false_iff.mpr fun hof => ?_) hcounted hq hhand hordered
          (Or.inl (hothers _ fun heq => hkey (StateKey.toU48_inj heq.symm))) hspared
        obtain ⟨seq, gen, heq⟩ := isOf_iff.mp hof
        rw [hclass] at heq
        cases heq
        exact hkey rfl

/-- **The step.** -/
theorem Tracked.step (h : Tracked key w past) {m : Move} (hspared : Spared key w m) :
    Tracked key (w.step m) (record key w past m) := by
  cases m with
  | send stateKey sequence generation deadline payload now =>
    exact h.send stateKey sequence generation deadline payload now hspared
  | pop sendBudget now => exact h.pop sendBudget now
  | requeue item now => exact h.requeue item now
  | prune now => exact h.prune now

end Moves

theorem tracked_start (s : Setup) (key : StateKey) : Tracked key (start s) [] := by
  refine ⟨GameScheduler.counted_new _, StateTable.ordered_new, fun t _ => rfl, ?_, Nat.zero_le 1,
    ?_, fun e he => ?_, List.isChain_nil⟩
  · exact fun x hx => by cases hx
  · exact fun x hx => by cases hx
  · have hnone : (start s).scheduler.stateTable.entries[key.toU48]? = none :=
      Std.ExtTreeMap.getElem?_empty
    rw [hnone] at he
    cases he

/-- Table and queue agree along a run, by induction on the moves. -/
theorem tracked_run {key : StateKey} {ms : List Move} {w : Feed} {past : List Stamp}
    (h : Tracked key w past) (hspared : Runs.Along step (Spared key) w ms) :
    Tracked key (ms.foldl step w) (tenure key w past ms) := by
  induction ms generalizing w past with
  | nil => exact h
  | cons m ms ih => exact ih (h.step hspared.1) hspared.2

theorem Tracked.queuedOf_eq {key : StateKey} {w : Feed} {past : List Stamp}
    (h : Tracked key w past) : queuedOf key w = (w.scheduler.queues 2).filter (isOf key) := by
  have hrange : List.finRange 5 = [0, 1, 2, 3, 4] := rfl
  unfold queuedOf
  rw [hrange]
  simp [h.tier 0 (by decide), h.tier 1 (by decide), h.tier 3 (by decide), h.tier 4 (by decide)]

/-- **One update per key.**  A fresh connection, and any sends of updates, pops, prunes and items
put back before the next send.  For every key that the table does not forget while an update of it
is queued: at most one update of it is queued, and that is the one admitted last; each update that
was admitted, since the table took the key in, is newer than the one before it. -/
theorem one_per_key (s : Setup) (ms : List Move) (key : StateKey)
    (h : Runs.Along step (Spared key) (start s) ms) :
    (queuedOf key (ms.foldl step (start s))).length ≤ 1 ∧
      (∀ x ∈ queuedOf key (ms.foldl step (start s)), ∃ gen seq,
        x.class' = .unreliableSequenced key seq gen ∧
          (tenure key (start s) [] ms).getLast? = some (gen, seq)) ∧
      (tenure key (start s) [] ms).IsChain Newer := by
  have hend := tracked_run (tracked_start s key) h
  have hsub : List.Sublist (queuedOf key (ms.foldl step (start s)))
      ((ms.foldl step (start s)).items.filter (isOf key)) := by
    rw [hend.queuedOf_eq]
    exact (List.sublist_append_left _ _).filter _
  refine ⟨hsub.length_le.trans hend.single, fun x hx => ?_, hend.chain⟩
  obtain ⟨hmem, hof⟩ := List.mem_filter.mp (hsub.subset hx)
  obtain ⟨gen, seq, hclass, hentry⟩ := hend.named x hmem hof
  exact ⟨gen, seq, hclass, hend.last _ hentry⟩

/-- Updates of two keys; the first one is popped and put back before it is superseded. -/
def twoKeys : List Move :=
  [.send ⟨1, 0⟩ 1 0 none [1] 0, .send ⟨2, 0⟩ 1 0 (some 9) [2] 1, .pop 1200 2,
    .requeue ⟨1, .unreliableSequenced ⟨1, 0⟩ 1 0, .p2WorldState, 0, none, true, [1], 0, 1⟩ 3,
    .send ⟨1, 0⟩ 2 0 none [3] 4, .prune 10]

/-- The theorem at `twoKeys`. -/
theorem one_per_key_twoKeys :
    (queuedOf ⟨1, 0⟩ (twoKeys.foldl step (start (sampleSetup true)))).length ≤ 1 ∧
      ∀ x ∈ queuedOf ⟨1, 0⟩ (twoKeys.foldl step (start (sampleSetup true))), ∃ gen seq,
        x.class' = .unreliableSequenced ⟨1, 0⟩ seq gen ∧ some (0, 2) = some (gen, seq) := by
  have hspared : Runs.Along step (Spared ⟨1, 0⟩) (start (sampleSetup true)) twoKeys := by
    decide +kernel
  obtain ⟨hone, hlast, -⟩ := one_per_key (sampleSetup true) twoKeys ⟨1, 0⟩ hspared
  have htenure : (tenure ⟨1, 0⟩ (start (sampleSetup true)) [] twoKeys).getLast? = some (0, 2) := by
    decide +kernel
  rw [htenure] at hlast
  exact ⟨hone, hlast⟩

/-! ## 4. A key that is forgotten -/

/-- The keys of one entity, by their type. -/
def keyAt (i : Nat) : StateKey := ⟨0, UInt16.ofNat i⟩

/-- An update of a new key, which expires at once. -/
def shortLived (i : Nat) : List Move := [.send (keyAt i) 0 0 (some (i + 1)) [] i, .prune (i + 1)]

/-- 4096 keys are used.  Then the first one is updated, one more key is used, and the first one is
updated again. -/
def forgetting : List Move :=
  (List.range 4096).flatMap shortLived ++ [.send (keyAt 0) 1 0 none [] 4097,
    .send (keyAt 4096) 0 0 none [] 4098, .send (keyAt 0) 2 0 none [] 4099]

theorem toU48_keyAt {i : Nat} (h : i < 65536) : (keyAt i).toU48 = i := by
  simp [keyAt, StateKey.toU48, UInt16.toNat_ofNat', Nat.mod_eq_of_lt h]

theorem step_send_counted {w : Feed} (h : w.scheduler.Counted) (key : StateKey)
    (sequence : StateSequence) (generation : GenerationId) (deadline : Option MonotonicTime)
    (payload : List UInt8) (now : MonotonicTime) :
    (w.step (.send key sequence generation deadline payload now)).scheduler.Counted ∧
      (w.step (.send key sequence generation deadline payload now)).scheduler.maxQueueItemsPerTier =
        w.scheduler.maxQueueItemsPerTier := by
  rw [step_send_scheduler]
  split
  · exact ⟨h, rfl⟩
  · exact ⟨h.enqueue _ now, (GameScheduler.enqueue_caps _ _ now).2⟩

/-- An update without payload is admitted when there is room for an item and it is newer. -/
theorem send_empty {w : Feed} (hcounted : w.scheduler.Counted)
    (hroom : (w.scheduler.queues 2).length < w.scheduler.maxQueueItemsPerTier) {key : StateKey}
    {sequence : StateSequence} {generation : GenerationId} {deadline : Option MonotonicTime}
    {now : MonotonicTime} (hlive : ∀ dl ∈ deadline, now < dl)
    (hshould : w.scheduler.stateTable.shouldAdmit key generation sequence = true) :
    (w.step (.send key sequence generation deadline [] now)).scheduler.stateTable =
        (w.scheduler.stateTable.update key generation sequence w.conn.hot.nextMessageId).1 ∧
      (w.step (.send key sequence generation deadline [] now)).scheduler.queues =
        Function.update w.scheduler.queues 2 (GameScheduler.withoutSuperseded
          (w.scheduler.stateTable.update key generation sequence w.conn.hot.nextMessageId).2
          (w.scheduler.queues 2) ++ [w.itemOf key sequence generation deadline [] now]) := by
  have hcheck : w.scheduler.checkAdmission (w.itemOf key sequence generation deadline [] now) now =
      .ok () := by
    have hbytes := hcounted.byteCap 2
    have hitems := hcounted.items 2
    have hidx : (w.itemOf key sequence generation deadline [] now).priority.idx = 2 := rfl
    have hsize : (w.itemOf key sequence generation deadline [] now).sizeBytes = 0 := rfl
    have hexp : (w.itemOf key sequence generation deadline [] now).isExpired now = false := by
      unfold SchedulableItem.isExpired itemOf
      cases deadline with
      | none => rfl
      | some dl => simpa using hlive dl rfl
    unfold GameScheduler.checkAdmission
    dsimp only
    rw [hidx, hsize, hexp, if_neg Bool.false_ne_true, if_neg (by omega), if_neg (by omega)]
  rw [step_send_scheduler, if_neg (by simp)]
  refine GameScheduler.enqueue_admitted rfl ?_
  rw [GameScheduler.AdmitsUpdate, hcheck, hshould]
  rfl

/-- After `n` short-lived updates: nothing is queued, and the table has the keys in order. -/
structure Primed (n : Nat) (w : Feed) : Prop where
  counted : w.scheduler.Counted
  ordered : w.scheduler.stateTable.Ordered
  empty : ∀ t, w.scheduler.queues t = []
  itemCap : w.scheduler.maxQueueItemsPerTier = 4096
  capacity : w.scheduler.stateTable.capacity = 4096
  order : w.scheduler.stateTable.order = List.range n
  first : 0 < n → ∃ id, w.scheduler.stateTable.entries[0]? = some (0, 0, id)

theorem Primed.unknown {n : Nat} {w : Feed} (h : Primed n w) {k : Nat} (hk : n ≤ k) :
    w.scheduler.stateTable.entries[k]? = none := by
  by_contra hsome
  have hmem := (h.ordered.keys k).mpr hsome
  rw [h.order, List.mem_range] at hmem
  omega

theorem Primed.next {n : Nat} {w : Feed} (h : Primed n w) (hn : n < 4096) :
    Primed (n + 1) ((shortLived n).foldl step w) := by
  have hkey : (keyAt n).toU48 = n := toU48_keyAt (by omega)
  have hnone : w.scheduler.stateTable.entries[(keyAt n).toU48]? = none := by
    rw [hkey]
    exact h.unknown (Nat.le_refl n)
  have hlen : w.scheduler.stateTable.order.length < w.scheduler.stateTable.capacity := by
    rw [h.order, List.length_range, h.capacity]
    exact hn
  have hupdate := StateTable.update_room hnone hlen 0 0 w.conn.hot.nextMessageId
  obtain ⟨-, hordered, hentry, -⟩ := h.ordered.update_fresh hnone 0 0 w.conn.hot.nextMessageId
  have hlive : ∀ dl ∈ some (n + 1), n < dl := by simp
  obtain ⟨htable, hq⟩ := send_empty h.counted (by rw [h.empty, h.itemCap]; decide) hlive
    (StateTable.shouldAdmit_unknown hnone 0 0)
  obtain ⟨hcounted, hitemCap⟩ := step_send_counted h.counted (keyAt n) 0 0 (some (n + 1)) [] n
  rw [h.itemCap] at hitemCap
  change Primed (n + 1) ((w.step (.send (keyAt n) 0 0 (some (n + 1)) [] n)).step (.prune (n + 1)))
  generalize w.step (.send (keyAt n) 0 0 (some (n + 1)) [] n) = w1 at htable hq hcounted hitemCap ⊢
  have hpruned : (w1.step (.prune (n + 1))).scheduler = (w1.scheduler.pruneStale (n + 1)).1 := rfl
  have htable' : (w1.step (.prune (n + 1))).scheduler.stateTable =
      (w.scheduler.stateTable.update (keyAt n) 0 0 w.conn.hot.nextMessageId).1 := htable
  refine ⟨?_, htable' ▸ hordered, fun t => ?_, hitemCap, ?_, ?_, fun _ => ?_⟩
  · rw [hpruned]
    exact hcounted.pruneStale (n + 1)
  · -- the one item that is queued expires
    rw [hpruned]
    change (w1.scheduler.queues t).filter _ = []
    rw [hq, hupdate]
    by_cases ht : t = 2
    · subst ht
      rw [Function.update_self, h.empty]
      simp [GameScheduler.withoutSuperseded, itemOf, SchedulableItem.isExpired]
    · rw [Function.update_of_ne ht, h.empty]
      rfl
  · rw [htable', hupdate]
    exact h.capacity
  · rw [htable', hupdate]
    change w.scheduler.stateTable.order ++ [(keyAt n).toU48] = _
    rw [h.order, hkey, List.range_succ]
  · rw [htable', hupdate]
    change ∃ id, (w.scheduler.stateTable.entries.insert (keyAt n).toU48 _)[0]? = some (0, 0, id)
    rw [Maps.getElem?_insert, hkey]
    split
    · exact ⟨_, rfl⟩
    · exact h.first (by omega)

theorem primed_start (s : Setup) : Primed 0 (start s) :=
  ⟨GameScheduler.counted_new _, StateTable.ordered_new, fun _ => rfl, rfl, rfl, rfl,
    fun h => absurd h (Nat.lt_irrefl 0)⟩

theorem primed_run (s : Setup) {n : Nat} (hn : n ≤ 4096) :
    Primed n (((List.range n).flatMap shortLived).foldl step (start s)) := by
  induction n with
  | zero => exact primed_start s
  | succ n ih =>
    rw [List.range_succ, List.flatMap_append, List.foldl_append, List.flatMap_singleton]
    exact (ih (by omega)).next (by omega)

/-- **The three updates after that.**  The second one makes the table forget the key of the first,
which is still queued, so that the third does not replace it. -/
theorem Primed.forgets {w : Feed} (h : Primed 4096 w) :
    (queuedOf (keyAt 0) ([.send (keyAt 0) 1 0 none [] 4097, .send (keyAt 4096) 0 0 none [] 4098,
      .send (keyAt 0) 2 0 none [] 4099].foldl step w)).length = 2 := by
  have hlive : ∀ (now : MonotonicTime), ∀ dl ∈ (none : Option MonotonicTime), now < dl := by simp
  have hzero : (keyAt 0).toU48 = 0 := toU48_keyAt (by decide)
  have hkey : (keyAt 4096).toU48 = 4096 := toU48_keyAt (by decide)
  obtain ⟨id, hfirst⟩ := h.first (by decide)
  rw [← hzero] at hfirst
  -- the first update: the key keeps its place
  have hnewer : StateTable.isNewer 0 1 (0, 0, id) = true := by
    have hone : isNewerThan 1 0 = true := by decide
    simp [StateTable.isNewer, hone]
  have hknown := StateTable.update_known hfirst hnewer w.conn.hot.nextMessageId
  obtain ⟨-, hordered1, -, hothers1⟩ := h.ordered.update_newer hfirst hnewer
    w.conn.hot.nextMessageId
  obtain ⟨htable1, hq1⟩ := send_empty h.counted (by rw [h.empty, h.itemCap]; decide) (hlive 4097)
    (show w.scheduler.stateTable.shouldAdmit (keyAt 0) 0 1 = true by
      unfold StateTable.shouldAdmit
      rw [hfirst]
      exact hnewer)
  obtain ⟨hcounted1, hitemCap1⟩ := step_send_counted h.counted (keyAt 0) 1 0 none [] 4097
  rw [← htable1] at hordered1 hothers1
  rw [hknown] at htable1 hq1
  rw [h.empty] at hq1
  have hq1 : (w.step (.send (keyAt 0) 1 0 none [] 4097)).scheduler.queues =
      Function.update w.scheduler.queues 2 [w.itemOf (keyAt 0) 1 0 none [] 4097] := hq1
  change (queuedOf (keyAt 0) (((w.step (.send (keyAt 0) 1 0 none [] 4097)).step
    (.send (keyAt 4096) 0 0 none [] 4098)).step (.send (keyAt 0) 2 0 none [] 4099))).length = 2
  have hof1 : isOf (keyAt 0) (w.itemOf (keyAt 0) 1 0 none [] 4097) = true := rfl
  generalize w.step (.send (keyAt 0) 1 0 none [] 4097) = w1 at *
  generalize w.itemOf (keyAt 0) 1 0 none [] 4097 = item1 at *
  -- the second: the table is full, and the key is the oldest
  have hnone1 : w1.scheduler.stateTable.entries[(keyAt 4096).toU48]? = none := by
    rw [hothers1 _ (by rw [hkey, hzero]; decide), hkey]
    exact h.unknown (Nat.le_refl _)
  have horder1 : w1.scheduler.stateTable.order = 0 :: (List.range 4095).map Nat.succ := by
    rw [htable1]
    exact h.order.trans (@List.range_succ_eq_map 4095)
  have hfull1 : w1.scheduler.stateTable.order.length = w1.scheduler.stateTable.capacity := by
    rw [htable1]
    change w.scheduler.stateTable.order.length = w.scheduler.stateTable.capacity
    rw [h.order, h.capacity, List.length_range]
  have hfull := StateTable.update_full hnone1 horder1 hfull1 0 0 w1.conn.hot.nextMessageId
  obtain ⟨-, hordered2, -, -⟩ := hordered1.update_fresh hnone1 0 0 w1.conn.hot.nextMessageId
  obtain ⟨htable2, hq2⟩ := send_empty hcounted1
    (by rw [hq1, Function.update_self, hitemCap1, h.itemCap]; simp) (hlive 4098)
    (StateTable.shouldAdmit_unknown hnone1 0 0)
  obtain ⟨hcounted2, hitemCap2⟩ := step_send_counted hcounted1 (keyAt 4096) 0 0 none [] 4098
  rw [← htable2] at hordered2
  rw [hfull] at htable2 hq2
  rw [hq1, Function.update_self, Function.update_idem] at hq2
  have hq2 : (w1.step (.send (keyAt 4096) 0 0 none [] 4098)).scheduler.queues =
      Function.update w.scheduler.queues 2 [item1, w1.itemOf (keyAt 4096) 0 0 none [] 4098] := hq2
  have hof2 : isOf (keyAt 0) (w1.itemOf (keyAt 4096) 0 0 none [] 4098) = false := by
    change decide (keyAt 4096 = keyAt 0) = false
    decide
  generalize w1.step (.send (keyAt 4096) 0 0 none [] 4098) = w2 at *
  generalize w1.itemOf (keyAt 4096) 0 0 none [] 4098 = item2 at *
  -- the third: the key is new to the table
  have hnone2 : w2.scheduler.stateTable.entries[(keyAt 0).toU48]? = none := by
    rw [htable2, hzero, Maps.getElem?_erase, if_pos rfl]
  obtain ⟨hsuperseded, -, -, -⟩ := hordered2.update_fresh hnone2 0 2 w2.conn.hot.nextMessageId
  obtain ⟨-, hq3⟩ := send_empty hcounted2
    (by rw [hq2, Function.update_self, hitemCap2, hitemCap1, h.itemCap]; simp) (hlive 4099)
    (StateTable.shouldAdmit_unknown hnone2 0 2)
  rw [hsuperseded, hq2, Function.update_self, Function.update_idem] at hq3
  have hof3 : isOf (keyAt 0) (w2.itemOf (keyAt 0) 2 0 none [] 4099) = true := rfl
  have hrange : List.finRange 5 = [0, 1, 2, 3, 4] := rfl
  unfold queuedOf
  rw [hq3, hrange]
  simp [h.empty, GameScheduler.withoutSuperseded, hof1, hof2, hof3]

/-- Three updates of one key, each newer than the one before it. -/
def aroundTheCircle : List Move :=
  [.send (keyAt 0) 0 0 none [] 0, .send (keyAt 0) 0x7fffffff 0 none [] 1,
    .send (keyAt 0) 0xfffffffe 0 none [] 2]

/-- **A key that is forgotten, and an order that is not one.**  After `forgetting` two updates of
one key are queued.  After `aroundTheCircle` the last update is queued, and it is not newer than the
first. -/
theorem forgotten_key :
    (queuedOf (keyAt 0) (forgetting.foldl step (start (sampleSetup true)))).length = 2 ∧
      tenure (keyAt 0) (start (sampleSetup true)) [] aroundTheCircle =
        [(0, 0), (0, 0x7fffffff), (0, 0xfffffffe)] ∧
      (queuedOf (keyAt 0) (aroundTheCircle.foldl step (start (sampleSetup true)))).map
        SchedulableItem.class' = [.unreliableSequenced (keyAt 0) 0xfffffffe 0] ∧
      ¬ Newer (0, 0) (0, 0xfffffffe) := by
  refine ⟨?_, by decide +kernel, by decide +kernel, by decide⟩
  unfold forgetting
  rw [List.foldl_append]
  exact (primed_run (sampleSetup true) (Nat.le_refl 4096)).forgets

end Feed

end Gtp
