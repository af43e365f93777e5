/-
# What a peer can make a connection hold

Whatever arrives over a run, and whatever the application does between, the receive side stays
within fixed bounds (`memory_bounded`): at most 4 MiB in at most 64 incomplete messages, at most
256 ordered groups with 256 KiB and 1024 messages each, 4096 entries in the freshness table and as
many remembered ids, two path responses, and 512 intervals of packet numbers.

The caps are those of the code, but it checks each against a counter of its own.  So what is carried
along a run (`Contained`) says that the counters are exact, for every message and every group that
is there, also after groups were evicted and opened again.

* `Contained.after` is one frame, whatever it is; no datagram needs to be authentic for it.
* `heldBytes` is the sum over what is really held, and not over the counters.
* The intervals of packet numbers are bounded because the tracker forgets what is 1024 behind, and
  two intervals are at least two numbers apart (`Inv.length_le`).

What the send side holds is left out: the application decides what it sends, and the scheduler has
caps of its own.  So is what the runtime keeps for a connection, which is the channel of
`Gtp.Runtime.Delivery`.
-/
import Gtp.Core.Cursor
import Gtp.Core.Freshness
import Gtp.Core.Dedup
import Gtp.Core.Reassembler
import Gtp.Core.Accesses
import Gtp.Core.Echoes
import Gtp.Core.AckDuty
import Gtp.StateRuns

namespace Gtp

/-! ## 1. One group, and one frame -/

namespace OrderedGroupReceiver

/-- The caps of a group are those of `new`, as every call leaves them. -/
structure Capped (g : OrderedGroupReceiver) : Prop where
  ordered : g.Ordered
  bytes : g.maxBufferBytes = 256 * 1024
  items : g.maxBufferItems = 1024

theorem capped_new (g : OrderedGroupId) : (new g).Capped := by
  refine ⟨⟨fun k m hm => ?_, (Maps.total_empty _).symm, Nat.zero_le _, Nat.zero_le _⟩, rfl, rfl⟩
  simp [new] at hm

theorem Capped.arrives {g g' : OrderedGroupReceiver} {q : UInt32} {m : List UInt8}
    {res : Result (List (UInt32 × List UInt8))} (h : g.Capped) (hin : Arrives g q m res g') :
    g'.Capped := by
  have hordered := h.ordered.arrives hin
  cases hin with
  | next hnext hdrain hkeeps =>
    exact ⟨hordered, hdrain.maxBytes.trans h.bytes, hdrain.maxItems.trans h.items⟩
  | _ => exact ⟨hordered, h.bytes, h.items⟩

end OrderedGroupReceiver

namespace DeliveryState

/-- **Everything on the receive side is within its caps**, and the counters that the caps are
checked against are exact. -/
structure Contained (d : DeliveryState) : Prop where
  reassembler : d.reassembler.Sound
  groups : d.GroupsConsistent
  capped : ∀ (g : OrderedGroupId) grp, d.orderedGroups[g]? = some grp → grp.Capped
  table : d.rxStateTable.Bounded
  tableCap : d.rxStateTable.capacity = 4096
  index : ∃ history, d.deliveredIndex.Remembers history
  indexCap : d.deliveredIndex.capacity = 4096

theorem contained_initial : initial.Contained where
  reassembler := MessageReassembler.sound_new
  groups := recent_initial.consistent
  capped g grp hgrp := by simp [initial] at hgrp
  table := StateTable.bounded_withCapacity 4096
  tableCap := rfl
  index := ⟨[], DeliveredIndex.remembers_new _⟩
  indexCap := rfl

section Frame

variable {d : DeliveryState}

theorem Contained.consistent (h : d.Contained) : d.Consistent :=
  ⟨h.reassembler.consistent, h.groups⟩

/-- A group that is opened is fresh, also when another one left for it. -/
theorem Touched.capped {d d' : DeliveryState} {g : OrderedGroupId} (htouch : Touched d g d')
    (h : ∀ (g' : OrderedGroupId) grp, d.orderedGroups[g']? = some grp → grp.Capped)
    {g' : OrderedGroupId} {grp : OrderedGroupReceiver} (hgrp : d'.orderedGroups[g']? = some grp) :
    grp.Capped := by
  cases htouch with
  | tracked hin => exact h g' grp hgrp
  | opened hout hroom =>
    rw [Maps.getElem?_insert] at hgrp
    split at hgrp
    · exact Option.some.inj hgrp ▸ OrderedGroupReceiver.capped_new g
    · exact h g' grp hgrp
  | evicting hout hfull hlru =>
    rw [Maps.getElem?_insert, Maps.getElem?_erase] at hgrp
    split at hgrp
    · exact Option.some.inj hgrp ▸ OrderedGroupReceiver.capped_new g
    · split at hgrp
      · cases hgrp
      · exact h g' grp hgrp

theorem Contained.deliverWhole_capped (h : d.Contained) (a : Arrival) (w : Whole)
    {g : OrderedGroupId} {grp : OrderedGroupReceiver}
    (hgrp : ((d.collected a).deliverWhole w).2.orderedGroups[g]? = some grp) : grp.Capped := by
  have hcol : (d.collected a).GroupsConsistent := ⟨h.groups.gens, h.groups.bound⟩
  rcases deliverWhole_cases hcol w with ⟨-, -, heq⟩ | ⟨-, -, heq⟩ | ⟨-, heq, -⟩
  · rw [heq] at hgrp
    exact h.capped g grp hgrp
  · rw [heq] at hgrp
    exact h.capped g grp hgrp
  · have htouch := orderedGroupMut_touched hcol w.groupId
    rw [heq, deliverOrdered] at hgrp
    dsimp only at hgrp
    rw [htouch.group] at hgrp
    dsimp only at hgrp
    have hnew := (htouch.capped h.capped htouch.group).arrives
      (((d.collected a).groupAt w.groupId).onIncoming_arrives w.orderSeq w.payload)
    generalize ((d.collected a).groupAt w.groupId).onIncoming w.orderSeq w.payload = r at hgrp hnew
    obtain ⟨res, grp'⟩ := r
    cases res <;> dsimp only at hgrp <;> rw [Maps.getElem?_insert] at hgrp <;> split at hgrp
    · exact Option.some.inj hgrp ▸ hnew
    · exact htouch.capped h.capped hgrp
    · exact Option.some.inj hgrp ▸ hnew
    · exact htouch.capped h.capped hgrp

/-- **One frame**, whatever it is. -/
theorem Contained.after (h : d.Contained) (a : Arrival) : (d.after a).Contained := by
  have hcons := h.consistent.after a
  refine ⟨?_, hcons.groups, fun g grp hgrp => ?_, ?_, ?_, ?_, ?_⟩
  · rw [after_reassembler h.groups]
    unfold DeliveryState.reassembled
    split
    · split
      · exact h.reassembler.push _ _ _ _ _
      · exact h.reassembler
    · exact h.reassembler
  · cases hw : d.completes a with
    | none =>
      obtain ⟨⟨table, hafter⟩, -⟩ := onFrame_of_not_completes hw
      rw [hafter] at hgrp
      exact h.capped g grp hgrp
    | some w =>
      rw [DeliveryState.after, onFrame_of_completes hw] at hgrp
      exact h.deliverWhole_capped a w hgrp
  · rcases d.updatesOf_cases a with ⟨-, hsame⟩ | ⟨id, key, gen, seq, -, -, hnext⟩
    · rw [hsame]
      exact h.table
    · rw [hnext]
      exact h.table.after ⟨key, gen, seq, id⟩
  · rcases d.updatesOf_cases a with ⟨-, hsame⟩ | ⟨id, key, gen, seq, -, -, hnext⟩
    · rw [hsame]
      exact h.tableCap
    · rw [hnext, StateTable.update_capacity]
      exact h.tableCap
  · obtain ⟨history, hremembers⟩ := h.index
    rcases unorderedOf_cases h.consistent a with ⟨-, -, hsame⟩ | ⟨id, p, -, -, hnew, hnext⟩
    · exact ⟨history, hsame ▸ hremembers⟩
    · exact ⟨history ++ [id], hnext ▸ (hremembers.inserted hnew).1⟩
  · obtain ⟨history, hremembers⟩ := h.index
    rcases unorderedOf_cases h.consistent a with ⟨-, -, hsame⟩ | ⟨id, p, -, -, hnew, hnext⟩
    · rw [hsame]
      exact h.indexCap
    · rw [hnext]
      exact (hremembers.inserted hnew).2.trans h.indexCap

theorem Contained.foldl (h : d.Contained) (as : List Arrival) :
    (as.foldl DeliveryState.after d).Contained := by
  induction as generalizing d with
  | nil => exact h
  | cons a as ih => exact ih (h.after a)

end Frame

/-! ## 2. What is held -/

/-- The bytes that wait at the receiver: in the slots of the incomplete messages, and ahead of the
cursors of the groups. -/
def heldBytes (d : DeliveryState) : Nat :=
  Maps.total (fun e => Partial.slotBytes e.parts) d.reassembler.entries +
    Maps.total (fun grp => Maps.total List.length grp.reorderBuffer) d.orderedGroups

/-- 4 MiB of pieces, and 256 KiB for each of 256 groups. -/
def maxHeldBytes : Nat := maxReassemblyBytes + maxOrderedGroups * (256 * 1024)

variable {d : DeliveryState}

theorem Contained.heldBytes_le (h : d.Contained) : d.heldBytes ≤ maxHeldBytes := by
  have hpieces : Maps.total (fun e => Partial.slotBytes e.parts) d.reassembler.entries =
      d.reassembler.totalBytes := by
    rw [h.reassembler.total]
    exact Maps.total_congr fun id e he => (h.reassembler.entry id e he).bytes.symm
  have hgroups : Maps.total (fun grp => Maps.total List.length grp.reorderBuffer)
      d.orderedGroups ≤ d.orderedGroups.size * (256 * 1024) := by
    refine Maps.total_le_mul fun g grp hgrp => ?_
    have hcapped := h.capped g grp hgrp
    rw [← hcapped.ordered.bytes, ← hcapped.bytes]
    exact hcapped.ordered.byteCap
  have hcount : d.orderedGroups.size * (256 * 1024) ≤ maxOrderedGroups * (256 * 1024) :=
    Nat.mul_le_mul_right _ h.groups.bound
  unfold heldBytes maxHeldBytes
  rw [hpieces]
  exact Nat.add_le_add h.reassembler.cap (hgroups.trans hcount)

theorem Contained.remembered_le (h : d.Contained) : d.deliveredIndex.seen.card ≤ 4096 := by
  obtain ⟨history, hremembers⟩ := h.index
  rw [hremembers.seen, List.toFinset_card_of_nodup hremembers.nodup, hremembers.order,
    List.rtake, List.length_drop, h.indexCap]
  omega

theorem Contained.table_le (h : d.Contained) : d.rxStateTable.entries.size ≤ 4096 := by
  rw [h.table.ordered.size, ← h.tableCap]
  exact h.table.length

end DeliveryState

/-! ## 3. The connection -/

namespace AckTracker

/-- Two intervals are at least two numbers apart, and those that are 1024 behind are forgotten. -/
theorem Inv.length_le {t : AckTracker} {received : List PacketNumber} (h : t.Inv received) :
    t.intervals.length ≤ 512 := by
  cases hlargest : t.largestReceived with
  | none =>
    rw [(h.fresh hlargest).1]
    exact Nat.zero_le _
  | some largest =>
    have hlength := (h.spaced largest hlargest).length_le (h.retained largest hlargest)
    unfold ackRetentionWindow at hlength
    omega

end AckTracker

namespace GtpConnection

variable [CryptoSuite]

/-- **Every run** keeps the receive side within its caps. -/
theorem Setup.start_contained (s : Setup) (ops : List Op) :
    (s.start.run ops).hot.toDeliveryState.Contained := by
  rw [run_delivery]
  exact DeliveryState.contained_initial.foldl _

/-- **What a peer can make a connection hold.**  After every run, whatever arrived and whatever the
application did: at most 68 MiB of messages that wait, in at most 64 incomplete ones and at most 256
groups of at most 1024 messages; at most 4096 entries in the freshness table and in the index of
what was delivered; at most two path responses; and, unless a packet had the last number there is,
at most 512 intervals of packet numbers. -/
theorem memory_bounded (s : Setup) (ops : List Op) :
    let c := s.start.run ops
    c.hot.toDeliveryState.heldBytes ≤ 68 * 1024 * 1024 ∧
    c.hot.reassembler.entries.size ≤ 64 ∧
    c.hot.orderedGroups.size ≤ 256 ∧
    (∀ (g : OrderedGroupId) grp, c.hot.orderedGroups[g]? = some grp →
      grp.reorderBuffer.size ≤ 1024) ∧
    c.hot.rxStateTable.entries.size ≤ 4096 ∧
    c.hot.deliveredIndex.seen.card ≤ 4096 ∧
    c.pendingResponses.length ≤ 2 ∧
    ((∀ sheet ∈ s.start.openedSheets ops, sheet.packetNumber.toNat < u64Max) →
      c.hot.ackTracker.intervals.length ≤ 512) := by
  have hcontained := s.start_contained ops
  refine ⟨hcontained.heldBytes_le, hcontained.reassembler.bound, hcontained.groups.bound,
    fun g grp hgrp => ?_, hcontained.table_le, hcontained.remembered_le,
    (s.start_responseInv ops).bounded, fun hnumbers => (s.ackTracker_inv ops hnumbers).length_le⟩
  have hcapped := hcontained.capped g grp hgrp
  have hcap := hcapped.ordered.itemCap
  rwa [hcapped.items] at hcap

end GtpConnection

namespace GtpConnection

attribute [local instance] keyTagSuite

/-- The theorem at a connection that opens two datagrams, in the other order: it keeps one interval,
and what it has opened has numbers that the bound is about. -/
theorem memory_bounded_swapped :
    ((Net.sampleSession.setup false).start.openedSheets swapped).map Sheet.packetNumber = [2, 1] ∧
      ((Net.sampleSession.setup false).start.run swapped).hot.ackTracker.intervals = [⟨1, 2⟩] ∧
      ((Net.sampleSession.setup false).start.run swapped).hot.ackTracker.intervals.length ≤ 512 := by
  have hopened : ((Net.sampleSession.setup false).start.openedSheets swapped).map
      Sheet.packetNumber = [2, 1] := by decide +kernel
  obtain ⟨-, -, -, -, -, -, -, hintervals⟩ := memory_bounded (Net.sampleSession.setup false) swapped
  refine ⟨hopened, by decide +kernel, hintervals fun sheet hsheet => ?_⟩
  have hmem : sheet.packetNumber ∈ [(2 : PacketNumber), 1] := by
    rw [← hopened]
    exact List.mem_map_of_mem hsheet
  rcases List.mem_cons.mp hmem with heq | hmem
  · rw [heq]
    decide
  · rw [List.mem_singleton.mp hmem]
    decide

end GtpConnection

end Gtp
