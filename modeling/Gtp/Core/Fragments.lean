/-
# The places of a reliable fragment

A fragment that the scheduler accepted from a reliable send moves between the queues and the records
of sent packets until it is acknowledged or dropped.  The two places are multisets of fragments,
`queued` and `outstanding`, and every operation of the scheduler and of the loss detector has one
equation about them.

* In the queues: an item that is placed (`queued_place`), one that a newer state takes out
  (`queued_evictSuperseded`), and what pruning drops (`queued_pruneStale`).
* In the records: `outstanding_erase` is a record that is taken out, and the three operations of the
  loss detector are built from it (`ackOne_outstanding`, `detectLost_outstanding`,
  `onTimeout_outstanding`).
* A record keeps the fragments of its datagram, and what is sent again is the same fragment.

A newer state evicts the message it supersedes by its id, whatever the class of that message; so the
equations for `enqueue` ask that no fragment has an id of the state table.  Message ids are handed
out once, so this holds as long as the counter does not wrap, which is what `Gtp.Core.Ledger` adds.
-/
import Gtp.Lib.Maps
import Gtp.StateTable
import Gtp.Tiers
import Gtp.Core.Transmit
import Mathlib.Algebra.BigOperators.Fin
import Mathlib.Algebra.Order.BigOperators.Group.Finset
import Mathlib.Algebra.Order.Group.Multiset
import Mathlib.Tactic.Abel

namespace Gtp

/-! ## 1. Fragments -/

/-- A reliable fragment: its message, and its place in it. -/
abbrev Fragment := MessageId × FragmentId

/-- Kept until it is acknowledged. -/
def MessageClass.isReliable : MessageClass → Bool
  | .reliableUnordered => true
  | .reliableOrdered _ _ => true
  | _ => false

/-- The fragment that an item is, when it is reliable. -/
def SchedulableItem.fragment? (item : SchedulableItem) : Option Fragment :=
  if item.class'.isReliable then some (item.messageId, item.fragmentId) else none

/-- The fragment that a record is for. -/
def RetransmissionRecord.fragment (r : RetransmissionRecord) : Fragment :=
  (r.messageId, r.fragmentId)

/-- The fragments among items. -/
def fragmentsOf (items : List SchedulableItem) : Multiset Fragment :=
  (items.filterMap SchedulableItem.fragment? : List Fragment)

/-- The fragments of records. -/
def recordsOf (rs : List RetransmissionRecord) : Multiset Fragment :=
  (rs.map RetransmissionRecord.fragment : List Fragment)

theorem fragmentsOf_cons (item : SchedulableItem) (rest : List SchedulableItem) :
    fragmentsOf (item :: rest) = fragmentsOf [item] + fragmentsOf rest := by
  rw [fragmentsOf, fragmentsOf, fragmentsOf, Multiset.coe_add, ← List.filterMap_append]
  rfl

theorem fragmentsOf_perm {xs ys : List SchedulableItem} (h : xs.Perm ys) :
    fragmentsOf xs = fragmentsOf ys :=
  Multiset.coe_eq_coe.mpr (h.filterMap _)

theorem recordsOf_append (xs ys : List RetransmissionRecord) :
    recordsOf (xs ++ ys) = recordsOf xs + recordsOf ys := by
  rw [recordsOf, List.map_append, ← Multiset.coe_add]
  rfl

theorem recordsOf_cons (r : RetransmissionRecord) (rs : List RetransmissionRecord) :
    recordsOf (r :: rs) = {r.fragment} + recordsOf rs := rfl

theorem mem_fragmentsOf {items : List SchedulableItem} {f : Fragment} :
    f ∈ fragmentsOf items ↔ ∃ item ∈ items, item.fragment? = some f :=
  List.mem_filterMap

theorem fragment?_some {item : SchedulableItem} {f : Fragment} (h : item.fragment? = some f) :
    f = (item.messageId, item.fragmentId) := by
  unfold SchedulableItem.fragment? at h
  split at h
  · exact (Option.some.inj h).symm
  · cases h

theorem retransmissionItem_fragment? (r : RetransmissionRecord) (now : MonotonicTime) :
    (GtpConnection.retransmissionItem r now).fragment? = some r.fragment := by
  unfold SchedulableItem.fragment? GtpConnection.retransmissionItem
  dsimp only
  by_cases hg : r.groupId = 0
  · rw [if_pos hg]
    rfl
  · rw [if_neg hg]
    rfl

/-- The records that are kept for items are those of the fragments among them. -/
theorem recordsOf_filterMap (items : List SchedulableItem) :
    recordsOf (items.filterMap GtpConnection.retransmissionRecord) = fragmentsOf items := by
  have hrecord : ∀ item, (GtpConnection.retransmissionRecord item).map
      RetransmissionRecord.fragment = item.fragment? := by
    intro item
    unfold GtpConnection.retransmissionRecord SchedulableItem.fragment?
    dsimp only
    cases item.class' <;> rfl
  rw [recordsOf, List.map_filterMap]
  simp only [hrecord]
  rfl

/-! ## 2. In the queues -/

namespace GameScheduler

/-- The fragments that wait in some tier. -/
def queued (s : GameScheduler) : Multiset Fragment := ∑ t, fragmentsOf (s.queues t)

theorem sum_update (queues : Fin 5 → List SchedulableItem) (tier : Fin 5)
    (q : List SchedulableItem) :
    ∑ t, fragmentsOf (Function.update queues tier q t) + fragmentsOf (queues tier) =
      ∑ t, fragmentsOf (queues t) + fragmentsOf q := by
  have happly : ∀ t, fragmentsOf (Function.update queues tier q t) =
      Function.update (fun t => fragmentsOf (queues t)) tier (fragmentsOf q) t :=
    fun t => Function.apply_update (fun _ => fragmentsOf) queues tier q t
  have hsplit := Finset.sum_update_of_mem (Finset.mem_univ tier)
    (fun t => fragmentsOf (queues t)) (fragmentsOf q)
  have hself := Finset.add_sum_erase Finset.univ (fun t => fragmentsOf (queues t))
    (Finset.mem_univ tier)
  rw [Finset.sdiff_singleton_eq_erase] at hsplit
  simp only [happly]
  rw [hsplit, ← hself]
  abel

theorem mem_queued {s : GameScheduler} {f : Fragment} :
    f ∈ s.queued ↔ ∃ t, ∃ item ∈ s.queues t, item.fragment? = some f := by
  simp only [queued, Multiset.mem_sum, Finset.mem_univ, true_and, mem_fragmentsOf]

theorem SameQueues.queued {s s' : GameScheduler} (h : SameQueues s s') : s'.queued = s.queued := by
  rw [GameScheduler.queued, GameScheduler.queued, h.queues]

theorem queued_place {s : GameScheduler} {item : SchedulableItem} {q : List SchedulableItem}
    (h : q.Perm (item :: s.queues item.priority.idx)) :
    (s.place item q).queued = s.queued + fragmentsOf [item] := by
  have hsum := sum_update s.queues item.priority.idx q
  rw [fragmentsOf_perm h, fragmentsOf_cons, ← add_assoc] at hsum
  exact add_right_cancel hsum

/-- An eviction that names no fragment takes none. -/
theorem queued_evictSuperseded {s : GameScheduler} {id : MessageId}
    (h : ∀ f ∈ s.queued, f.1 ≠ id) (tier : Fin 5) : (s.evictSuperseded tier id).queued = s.queued := by
  have hfilter : fragmentsOf ((s.queues tier).filter fun i => i.messageId ≠ id) =
      fragmentsOf (s.queues tier) := by
    have hkeep : ∀ i ∈ s.queues tier, i.fragment? = none ∨ i.messageId ≠ id := by
      intro i hi
      cases hf : i.fragment? with
      | none => exact Or.inl rfl
      | some f =>
        refine Or.inr ?_
        have hne := h f (mem_queued.mpr ⟨tier, i, hi, hf⟩)
        rw [fragment?_some hf] at hne
        exact hne
    generalize s.queues tier = q at hkeep ⊢
    induction q with
    | nil => rfl
    | cons i rest ih =>
      have hrest := ih fun x hx => hkeep x (List.mem_cons_of_mem _ hx)
      by_cases hid : i.messageId ≠ id
      · rw [List.filter_cons, if_pos (decide_eq_true hid), fragmentsOf_cons, hrest,
          ← fragmentsOf_cons]
      · have hnone := (hkeep i List.mem_cons_self).resolve_right hid
        rw [List.filter_cons, if_neg (fun h => hid (of_decide_eq_true h)), hrest,
          fragmentsOf, fragmentsOf, List.filterMap_cons_none hnone]
  have hsum := sum_update s.queues tier ((s.queues tier).filter fun i => i.messageId ≠ id)
  rw [hfilter] at hsum
  exact add_right_cancel hsum

/-- The fragments that are past their deadline. -/
def expired (s : GameScheduler) (now : MonotonicTime) : Multiset Fragment :=
  ∑ t, fragmentsOf ((s.queues t).filter fun i => i.isExpired now)

theorem queued_pruneStale (s : GameScheduler) (now : MonotonicTime) :
    (s.pruneStale now).1.queued + s.expired now = s.queued := by
  have htier : ∀ t, fragmentsOf ((s.queues t).filter fun i => !i.isExpired now) +
      fragmentsOf ((s.queues t).filter fun i => i.isExpired now) = fragmentsOf (s.queues t) := by
    intro t
    have hperm := List.filter_append_perm (fun i => SchedulableItem.isExpired i now) (s.queues t)
    rw [add_comm, fragmentsOf, fragmentsOf, Multiset.coe_add, ← List.filterMap_append]
    exact fragmentsOf_perm hperm
  rw [queued, expired, queued, ← Finset.sum_add_distrib]
  exact Finset.sum_congr rfl fun t _ => htier t

theorem card_expired_le (s : GameScheduler) (now : MonotonicTime) :
    (s.expired now).card ≤ (s.pruneStale now).2 := by
  have hsum : (s.pruneStale now).2 =
      ∑ t, ((s.queues t).filter fun i => i.isExpired now).length :=
    (Fin.sum_univ_def _).symm
  rw [hsum, expired, Multiset.card_sum]
  exact Finset.sum_le_sum fun t _ => List.length_filterMap_le _ _

theorem enqueue_error {s : GameScheduler} {item : SchedulableItem} {now : MonotonicTime}
    {e : TransportError} (h : (s.enqueue item now).1 = .error e) : (s.enqueue item now).2 = s := by
  unfold enqueue at h ⊢
  dsimp only at h ⊢
  cases hadm : s.checkAdmission item now with
  | error e' => rfl
  | ok u =>
    rw [hadm] at h
    dsimp only at h
    split at h
    · split at h
      · cases h
      · cases h
    · cases h

/-- A reliable item is queued, past the state table. -/
theorem enqueue_reliable {s : GameScheduler} {item : SchedulableItem} {f : Fragment}
    (hf : item.fragment? = some f) {now : MonotonicTime} (h : (s.enqueue item now).1 = .ok ()) :
    (s.enqueue item now).2.queued = s.queued + {f} ∧
      (s.enqueue item now).2.stateTable = s.stateTable := by
  have hplaced : (s.enqueue item now).2 =
      s.place item (s.queues item.priority.idx ++ [item]) := by
    unfold enqueue at h ⊢
    dsimp only at h ⊢
    cases hadm : s.checkAdmission item now with
    | error e =>
      rw [hadm] at h
      cases h
    | ok u =>
      dsimp only
      unfold SchedulableItem.fragment? at hf
      split
      · rename_i hclass
        rw [hclass] at hf
        cases hf
      · rfl
  have hone : fragmentsOf [item] = {f} := by
    rw [fragmentsOf, List.filterMap_cons_some hf]
    rfl
  rw [hplaced, queued_place (List.perm_append_singleton _ _), hone]
  exact ⟨rfl, rfl⟩

/-- The ids that the state table remembers. -/
def tableIds (s : GameScheduler) : Set MessageId :=
  { id | ∃ (k : Nat) (e : GenerationId × StateSequence × MessageId),
    s.stateTable.entries[k]? = some e ∧ e.2.2 = id }

/-- What an update of the state table supersedes was in it; all it adds is the new id. -/
theorem update_ids (t : StateTable) (key : StateKey) (gen : GenerationId) (seq : StateSequence)
    (id : MessageId) :
    (∀ old, (t.update key gen seq id).2 = some old →
      ∃ (k : Nat) (e : GenerationId × StateSequence × MessageId),
        t.entries[k]? = some e ∧ e.2.2 = old) ∧
    ∀ (k : Nat) (e : GenerationId × StateSequence × MessageId),
      (t.update key gen seq id).1.entries[k]? = some e → t.entries[k]? = some e ∨ e.2.2 = id := by
  have hinsert : ∀ (k : Nat) (e : GenerationId × StateSequence × MessageId),
      (t.entries.insert key.toU48 (gen, seq, id))[k]? = some e →
        t.entries[k]? = some e ∨ e.2.2 = id := by
    intro k e h
    rw [Maps.getElem?_insert] at h
    split at h
    · obtain rfl := Option.some.inj h
      exact Or.inr rfl
    · exact Or.inl h
  unfold StateTable.update
  cases hcurr : t.entries[key.toU48]? with
  | some curr =>
    dsimp only
    split
    · refine ⟨fun old h => ?_, hinsert⟩
      obtain rfl := Option.some.inj h
      exact ⟨_, curr, hcurr, rfl⟩
    · exact ⟨fun old h => (by cases h), fun k e h => Or.inl h⟩
  | none =>
    refine ⟨fun old h => (by cases h), fun k e h => hinsert k e ?_⟩
    obtain ⟨dropped, -, -, -, hentries⟩ := StateTable.evict_spec t.capacity
      (t.order ++ [key.toU48]) (t.entries.insert key.toU48 (gen, seq, id))
    dsimp only at h
    rw [hentries, Maps.getElem?_foldl_erase] at h
    split at h
    · cases h
    · exact h

/-- Any other item leaves the fragments where they are, when none has an id of the state table. -/
theorem enqueue_other {s : GameScheduler} {item : SchedulableItem} (hf : item.fragment? = none)
    (hids : ∀ f ∈ s.queued, f.1 ∉ s.tableIds) (now : MonotonicTime) :
    (s.enqueue item now).2.queued = s.queued ∧
      (s.enqueue item now).2.tableIds ⊆ insert item.messageId s.tableIds := by
  have hnone : fragmentsOf [item] = 0 := by
    rw [fragmentsOf, List.filterMap_cons_none hf]
    rfl
  have hplace : ∀ s' : GameScheduler,
      (s'.place item (s'.queues item.priority.idx ++ [item])).queued = s'.queued := by
    intro s'
    rw [queued_place (List.perm_append_singleton _ _), hnone, add_zero]
  unfold enqueue
  dsimp only
  cases hadm : s.checkAdmission item now with
  | error e => exact ⟨rfl, Set.subset_insert _ _⟩
  | ok u =>
    dsimp only
    split
    · rename_i key seq gen hclass
      split
      · exact ⟨rfl, Set.subset_insert _ _⟩
      · obtain ⟨hold, hnew⟩ := update_ids s.stateTable key gen seq item.messageId
        rcases hupdate : s.stateTable.update key gen seq item.messageId with ⟨table, superseded⟩
        rw [hupdate] at hold hnew
        dsimp only at hold hnew ⊢
        have htable : ∀ s' : GameScheduler, s'.stateTable = table →
            s'.tableIds ⊆ insert item.messageId s.tableIds := by
          rintro s' hs' id ⟨k, e, he, rfl⟩
          rw [hs'] at he
          rcases hnew k e he with he | he
          · exact Or.inr ⟨k, e, he, rfl⟩
          · exact Or.inl he
        cases superseded with
        | none => exact ⟨hplace _, htable _ rfl⟩
        | some old =>
          refine ⟨?_, htable _ rfl⟩
          rw [hplace]
          refine queued_evictSuperseded (s := { s with stateTable := table }) ?_ _
          rintro f hf rfl
          exact hids f hf (hold _ rfl)
    · exact ⟨hplace s, Set.subset_insert _ _⟩

end GameScheduler

/-! ## 3. In the records -/

namespace LossDetector

/-- The fragments of the sent packets that are neither acknowledged nor given up. -/
def outstanding (d : LossDetector) : Multiset Fragment :=
  recordsOf (d.sentPackets.toList.flatMap fun e => e.2.retransmittableFrames)

theorem recordsOf_flatMap_perm {xs ys : List (Nat × SentPacketRecord)} (h : xs.Perm ys) :
    recordsOf (xs.flatMap fun e => e.2.retransmittableFrames) =
      recordsOf (ys.flatMap fun e => e.2.retransmittableFrames) :=
  Multiset.coe_eq_coe.mpr ((h.flatMap_right _).map _)

theorem outstanding_onPacketSent {d : LossDetector} {record : SentPacketRecord}
    (h : record.packetNumber.toNat ∉ d.sentPackets) :
    (d.onPacketSent record).outstanding =
      d.outstanding + recordsOf record.retransmittableFrames := by
  rw [outstanding, onPacketSent, recordsOf_flatMap_perm (Maps.toList_insert_perm h record),
    List.flatMap_cons, recordsOf_append, add_comm]
  rfl

/-- A record that is taken out leaves with its fragments. -/
theorem outstanding_erase {d d' : LossDetector} {pn : Nat} {record : SentPacketRecord}
    (hget : d.sentPackets[pn]? = some record) (herase : d'.sentPackets = d.sentPackets.erase pn) :
    d.outstanding = d'.outstanding + recordsOf record.retransmittableFrames := by
  rw [outstanding, outstanding, herase, recordsOf_flatMap_perm (Maps.toList_perm_erase hget),
    List.flatMap_cons, recordsOf_append, add_comm]

/-- The fragments of packet records. -/
def carried (records : List SentPacketRecord) : Multiset Fragment :=
  recordsOf (records.flatMap SentPacketRecord.retransmittableFrames)

theorem ackOne_outstanding (largestPn : Nat) (delay : Duration) (now : MonotonicTime)
    (acc : AckAcc) (pn : Nat) :
    (ackOne largestPn delay now acc pn).det.outstanding +
        carried (ackOne largestPn delay now acc pn).newlyAcked =
      acc.det.outstanding + carried acc.newlyAcked := by
  have herase := ackOne_sentPackets largestPn delay now acc pn
  rw [ackOne_newlyAcked]
  cases hget : acc.det.sentPackets[pn]? with
  | none =>
    have hsame : ackOne largestPn delay now acc pn = acc := by
      unfold ackOne
      rw [hget]
    rw [hsame, Option.toList_none, List.append_nil]
  | some record =>
    rw [outstanding_erase hget herase, carried, carried, List.flatMap_append, recordsOf_append,
      Option.toList_some, List.flatMap_singleton]
    abel

theorem ackFold_outstanding (largestPn : Nat) (delay : Duration) (now : MonotonicTime)
    (ns : List Nat) (acc : AckAcc) :
    (ns.foldl (ackOne largestPn delay now) acc).det.outstanding +
        carried (ns.foldl (ackOne largestPn delay now) acc).newlyAcked =
      acc.det.outstanding + carried acc.newlyAcked := by
  induction ns generalizing acc with
  | nil => rfl
  | cons n ns ih => exact (ih _).trans (ackOne_outstanding largestPn delay now acc n)

theorem dropFold_outstanding (pns : List Nat) (acc : LossDetector × LossEvent) :
    (pns.foldl dropLost acc).1.outstanding + recordsOf (pns.foldl dropLost acc).2.retransmittable =
      acc.1.outstanding + recordsOf acc.2.retransmittable := by
  induction pns generalizing acc with
  | nil => rfl
  | cons pn pns ih =>
    refine (ih _).trans ?_
    cases hget : acc.1.sentPackets[pn]? with
    | none => rw [dropLost, hget]
    | some record =>
      have herase : (dropLost acc pn).1.sentPackets = acc.1.sentPackets.erase pn := by
        simp only [dropLost, hget]
        split <;> rfl
      have hframes : (dropLost acc pn).2.retransmittable =
          acc.2.retransmittable ++ record.retransmittableFrames := by
        simp only [dropLost, hget]
      rw [outstanding_erase hget herase, hframes, recordsOf_append]
      abel

theorem detectLost_outstanding (d : LossDetector) (largestPn : Nat) (now : MonotonicTime) :
    (d.detectLost largestPn now).1.outstanding +
      recordsOf (d.detectLost largestPn now).2.retransmittable = d.outstanding := by
  rw [detectLost, dropFold_outstanding]
  exact add_zero d.outstanding

/-- **`on_ack_received`** hands every fragment it takes out over: as acknowledged, or for
retransmission. -/
theorem onAckReceived_outstanding (d : LossDetector) (largestAcked : PacketNumber)
    (ackDelayUs : UInt32) (ranges : List AckRange) (rangeCount : Nat) (now : MonotonicTime) :
    let r := d.onAckReceived largestAcked ackDelayUs ranges rangeCount now
    d.outstanding =
      r.1.outstanding + carried r.2.1.ackedPackets + recordsOf r.2.2.1.retransmittable := by
  dsimp only
  unfold onAckReceived
  dsimp only
  split
  · change d.outstanding = d.outstanding + 0 + 0
    rw [add_zero, add_zero]
  · have hack := ackFold_outstanding largestAcked.toNat ackDelayUs.toNat now
      (parseAckRanges largestAcked.toNat ranges rangeCount) ⟨d, [], 0, none⟩
    generalize (parseAckRanges largestAcked.toNat ranges rangeCount).foldl
      (ackOne largestAcked.toNat ackDelayUs.toNat now) ⟨d, [], 0, none⟩ = acc at hack ⊢
    have hrate : ((acc.settle largestAcked).deliveryRate now).1.outstanding =
        acc.det.outstanding := by
      rw [outstanding, (deliveryRate_sentPackets (acc.settle largestAcked) now).1]
      rfl
    generalize (acc.settle largestAcked).deliveryRate now = rated at hrate ⊢
    obtain ⟨d1, sample⟩ := rated
    dsimp only at hrate ⊢
    have hlost := d1.detectLost_outstanding largestAcked.toNat now
    generalize d1.detectLost largestAcked.toNat now = swept at hlost ⊢
    obtain ⟨d2, loss⟩ := swept
    dsimp only at hlost ⊢
    calc d.outstanding = acc.det.outstanding + carried acc.newlyAcked := by
          rw [hack]
          exact (add_zero d.outstanding).symm
      _ = d2.outstanding + recordsOf loss.retransmittable + carried acc.newlyAcked := by
          rw [hlost, hrate]
      _ = d2.outstanding + carried acc.newlyAcked + recordsOf loss.retransmittable :=
          add_right_comm _ _ _

/-- Records that are taken out one after another leave with their fragments. -/
theorem eraseFold_records (es : List (Nat × SentPacketRecord)) {m : SentPackets}
    (hpair : es.Pairwise fun a b => a.1 ≠ b.1) (hmem : ∀ e ∈ es, m[e.1]? = some e.2) :
    recordsOf (m.toList.flatMap fun e => e.2.retransmittableFrames) =
      recordsOf ((es.foldl (fun m e => m.erase e.1) m).toList.flatMap
        fun e => e.2.retransmittableFrames) +
      recordsOf (es.flatMap fun e => e.2.retransmittableFrames) := by
  induction es generalizing m with
  | nil => exact (add_zero (recordsOf _)).symm
  | cons e es ih =>
    obtain ⟨hne, hpair⟩ := List.pairwise_cons.mp hpair
    have hrest : ∀ e' ∈ es, (m.erase e.1)[e'.1]? = some e'.2 := by
      intro e' he'
      rw [getElem?_erase_ne (Ne.symm (hne e' he'))]
      exact hmem e' (List.mem_cons_of_mem _ he')
    rw [recordsOf_flatMap_perm (Maps.toList_perm_erase (hmem e List.mem_cons_self)),
      List.flatMap_cons, recordsOf_append, ih hpair hrest, List.foldl_cons, List.flatMap_cons,
      recordsOf_append, add_left_comm]

/-- **`on_timeout`** hands over the fragments of the records it drains. -/
theorem onTimeout_outstanding (d : LossDetector) :
    d.outstanding = d.onTimeout.1.outstanding + recordsOf d.onTimeout.2.retransmittable := by
  unfold outstanding onTimeout
  dsimp only
  refine eraseFold_records _ ?_ ?_
  · refine List.Pairwise.sublist ((List.take_sublist _ _).trans List.filter_sublist) ?_
    refine d.sentPackets.distinct_keys_toList.imp ?_
    intro a b hne heq
    exact hne (by rw [heq]; exact Std.compare_self)
  · intro e he
    have hlist := (List.mem_filter.mp (List.mem_of_mem_take he)).1
    exact Std.ExtTreeMap.mem_toList_iff_getElem?_eq_some.mp hlist

end LossDetector

end Gtp
