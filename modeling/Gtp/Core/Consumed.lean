/-
# Bookkeeping and delivery

A received message is recorded as delivered in the frame loop: its id goes into the duplicate index,
the cursor of its group moves past it, or the freshness table takes its key.  Whatever comes later
with the same id, number or state is a repetition then.  But the messages are handed to the caller
at the end of the call, and a datagram with a `Close` frame ends in an error, with everything that
the frame loop has recorded.

* `Records` compares the bookkeeping before and after the dispatch of a frame; `Takes` reads the
  same off the frame and the state before it, and `takes_iff` says that they agree.
* `Records.mem_messages`: the dispatch of a frame hands over what it records.  So nothing is lost
  within the frame loop.
* `delivers_recorded_iff` is the whole call: the list that the frame loop has collected is returned,
  unless one of the frames is a close.

The condition names the frames that the dispatch gets to.  A frame behind an `MtuProbe` is not among
them, and neither records nor delivers anything.
-/
import Gtp.Core.Arrivals
import Gtp.Core.Cursor

namespace Gtp

open Frame

namespace DeliveryState

/-! ## 1. What a frame records -/

/-- The group as a frame of it finds it. -/
def groupFor (d : DeliveryState) (g : OrderedGroupId) : Option OrderedGroupReceiver :=
  (d.orderedGroupMut g).orderedGroups[g]?

/-- **The bookkeeping takes `m` for delivered** when the frame is dispatched: the id of an unordered
message is inserted into the index, the group's cursor moves past an ordered one -- the one that
arrives, or one that is buffered behind it -- or the freshness table is updated. -/
inductive Records (d : DeliveryState) (a : Arrival) : ReceivedMessage → Prop
  | indexed {w : Whole} (hwhole : d.completes a = some w) (hgroup : w.groupId = 0)
      (hnew : w.messageId ∉ d.deliveredIndex.seen) : Records d a ⟨.reliableUnordered, w.payload⟩
  | next {w : Whole} {grp : OrderedGroupReceiver} (hwhole : d.completes a = some w)
      (hgroup : w.groupId ≠ 0) (hgrp : (d.collected a).groupFor w.groupId = some grp)
      (hnext : w.orderSeq = grp.nextExpected) :
      Records d a ⟨.reliableOrdered w.groupId w.orderSeq, w.payload⟩
  | behind {w : Whole} {grp : OrderedGroupReceiver} {q : UInt32} {m : List UInt8}
      (hwhole : d.completes a = some w) (hgroup : w.groupId ≠ 0)
      (hgrp : (d.collected a).groupFor w.groupId = some grp) (hheld : grp.Holds q m)
      (hother : q ≠ w.orderSeq)
      (hpast : (q - grp.nextExpected).toNat <
        ((grp.onIncoming w.orderSeq w.payload).2.nextExpected - grp.nextExpected).toNat) :
      Records d a ⟨.reliableOrdered w.groupId q, m⟩
  | refreshed {id : MessageId} {key : StateKey} {seq : StateSequence} {gen : GenerationId}
      {deadline : UInt16} {payload : List UInt8}
      (hframe : a.frame = .data id key seq gen deadline payload)
      (hsequenced : ¬ (key = StateKey.default ∧ seq = 0 ∧ gen = 0))
      (hnewer : d.rxStateTable.shouldAdmit key gen seq = true) :
      Records d a ⟨.unreliableSequenced key seq gen, payload⟩

/-- The frame has a message that the bookkeeping takes: sequenced state that is newer than the
table's, a complete unordered message with an id that is not in the index, or a complete ordered one
with the number that its group expects. -/
def Takes (d : DeliveryState) (a : Arrival) : Prop :=
  match a.frame with
  | .data _ key seq gen _ _ =>
    ¬ (key = StateKey.default ∧ seq = 0 ∧ gen = 0) ∧ d.rxStateTable.shouldAdmit key gen seq = true
  | _ => ∃ w, d.completes a = some w ∧
    ((w.groupId = 0 ∧ w.messageId ∉ d.deliveredIndex.seen) ∨
      (w.groupId ≠ 0 ∧ ∃ grp, (d.collected a).groupFor w.groupId = some grp ∧
        w.orderSeq = grp.nextExpected))

/-- A frame with a complete message is not one of sequenced state. -/
theorem takes_of_completes {d : DeliveryState} {a : Arrival} {w : Whole}
    (hwhole : d.completes a = some w)
    (h : (w.groupId = 0 ∧ w.messageId ∉ d.deliveredIndex.seen) ∨
      (w.groupId ≠ 0 ∧ ∃ grp, (d.collected a).groupFor w.groupId = some grp ∧
        w.orderSeq = grp.nextExpected)) : d.Takes a := by
  unfold Takes
  split
  · rename_i hframe
    rw [completes, hframe] at hwhole
    cases hwhole
  · exact ⟨w, hwhole, h⟩

/-- The cursor moves for the number that it expects only. -/
theorem eq_nextExpected_of_moved {grp : OrderedGroupReceiver} {q : UInt32} {m : List UInt8}
    (h : (grp.onIncoming q m).2.nextExpected ≠ grp.nextExpected) : q = grp.nextExpected := by
  have hin := grp.onIncoming_arrives q m
  generalize grp.onIncoming q m = out at h hin
  obtain ⟨res, grp'⟩ := out
  cases hin with
  | next hnext hdrain hkeeps => exact hnext
  | _ => exact absurd rfl h

/-- **A frame records something** exactly when it has a message that the bookkeeping takes. -/
theorem takes_iff {d : DeliveryState} {a : Arrival} : d.Takes a ↔ ∃ m, d.Records a m := by
  constructor
  · intro h
    unfold Takes at h
    split at h
    · rename_i hframe
      exact ⟨_, .refreshed hframe h.1 h.2⟩
    · obtain ⟨w, hwhole, ⟨hgroup, hnew⟩ | ⟨hgroup, grp, hgrp, hnext⟩⟩ := h
      · exact ⟨_, .indexed hwhole hgroup hnew⟩
      · exact ⟨_, .next hwhole hgroup hgrp hnext⟩
  · rintro ⟨m, hrec⟩
    cases hrec with
    | indexed hwhole hgroup hnew => exact takes_of_completes hwhole (Or.inl ⟨hgroup, hnew⟩)
    | next hwhole hgroup hgrp hnext =>
      exact takes_of_completes hwhole (Or.inr ⟨hgroup, _, hgrp, hnext⟩)
    | @behind w grp q p hwhole hgroup hgrp hheld hother hpast =>
      refine takes_of_completes hwhole
        (Or.inr ⟨hgroup, _, hgrp, eq_nextExpected_of_moved (m := w.payload) ?_⟩)
      intro hsame
      rw [hsame, UInt32.sub_self] at hpast
      exact Nat.not_lt_zero _ hpast
    | refreshed hframe hsequenced hnewer =>
      unfold Takes
      rw [hframe]
      exact ⟨hsequenced, hnewer⟩

/-! ## 2. The reach of ordered delivery -/

theorem evictGroups_frame (fuel : Nat) (d : DeliveryState) :
    ∃ groups gens, d.evictGroups fuel = { d with orderedGroups := groups, groupGens := gens } := by
  induction fuel generalizing d with
  | zero => exact ⟨d.orderedGroups, d.groupGens, rfl⟩
  | succ fuel ih =>
    rw [evictGroups]
    split
    · split
      · exact ⟨d.orderedGroups, d.groupGens, rfl⟩
      · obtain ⟨groups, gens, hrest⟩ := ih _
        exact ⟨groups, gens, hrest⟩
    · exact ⟨d.orderedGroups, d.groupGens, rfl⟩

theorem deliverOrdered_frame (d : DeliveryState) (g : OrderedGroupId) (q : UInt32)
    (m : List UInt8) :
    ∃ groups gens n, (d.deliverOrdered g q m).2 =
      { d with orderedGroups := groups, groupGens := gens, genCounter := n } := by
  obtain ⟨groups, gens, n, htouch⟩ : ∃ groups gens n, d.orderedGroupMut g =
      { d with orderedGroups := groups, groupGens := gens, genCounter := n } := by
    obtain ⟨groups, gens, hevict⟩ := evictGroups_frame d.orderedGroups.size d
    unfold orderedGroupMut
    rw [hevict]
    split
    · exact ⟨d.orderedGroups, _, _, rfl⟩
    · exact ⟨_, _, _, rfl⟩
  unfold deliverOrdered
  rw [htouch]
  dsimp only
  split
  · exact ⟨_, _, _, rfl⟩
  · split <;> exact ⟨_, _, _, rfl⟩

/-! ## 3. What is recorded is handed over -/

/-- The release of an ordered message. -/
theorem deliverOrdered_ready {d : DeliveryState} {g : OrderedGroupId} {q : UInt32}
    {m : List UInt8} {grp : OrderedGroupReceiver} (hgrp : d.groupFor g = some grp)
    {ready : List (UInt32 × List UInt8)} (hok : (grp.onIncoming q m).1 = .ok ready) :
    (d.deliverOrdered g q m).1.messages = labelled g ready := by
  unfold deliverOrdered
  dsimp only
  rw [show (d.orderedGroupMut g).orderedGroups[g]? = some grp from hgrp]
  dsimp only
  rw [hok]
  rfl

/-- The number that the cursor stands at is released. -/
theorem onIncoming_next {grp : OrderedGroupReceiver} (m : List UInt8) :
    ∃ ready, (grp.onIncoming grp.nextExpected m).1 = .ok ((grp.nextExpected, m) :: ready) := by
  have hahead : ¬ OrderedGroupReceiver.seqIsStale grp.nextExpected grp.nextExpected = true := by
    rw [OrderedGroupReceiver.seqIsStale_iff, UInt32.sub_self]
    decide
  unfold OrderedGroupReceiver.onIncoming
  rw [if_neg hahead, if_pos rfl]
  exact ⟨_, rfl⟩

/-- So is every number that the cursor moves past. -/
theorem onIncoming_past {grp : OrderedGroupReceiver} {q k : UInt32} {m p : List UInt8}
    (hheld : grp.Holds k p) (hother : k ≠ q)
    (hpast : (k - grp.nextExpected).toNat <
      ((grp.onIncoming q m).2.nextExpected - grp.nextExpected).toNat) :
    ∃ ready, (grp.onIncoming q m).1 = .ok ready ∧ (k, p) ∈ ready := by
  have hin := grp.onIncoming_arrives q m
  generalize grp.onIncoming q m = out at hin hpast
  obtain ⟨res, grp'⟩ := out
  have hstay : ∀ n : UInt32, ¬ (k - grp.nextExpected).toNat < (n - n).toNat := by
    intro n hlt
    rw [UInt32.sub_self] at hlt
    exact Nat.not_lt_zero _ hlt
  cases hin with
  | @next grp' ready hnext hdrain hkeeps =>
    refine ⟨_, rfl, List.mem_cons_of_mem _ ?_⟩
    subst hnext
    -- `k` is at a distance from the cursor, at most the length of the drained run
    have hpos := toNat_sub_pos hother
    have hplace := add_toNat_sub k grp.nextExpected
    have hlen : (grp'.nextExpected - grp.nextExpected).toNat ≤ ready.length + 1 := by
      rw [hdrain.next, UInt32.toNat_sub, UInt32.toNat_add, UInt32.toNat_add, UInt32.toNat_ofNat',
        UInt32.toNat_one]
      have hlt := grp.nextExpected.toNat_lt
      omega
    dsimp only at hpast
    obtain ⟨i, hi⟩ : ∃ i, (k - grp.nextExpected).toNat = i + 1 :=
      ⟨(k - grp.nextExpected).toNat - 1, by omega⟩
    rw [hi] at hplace hpast
    have hlt : i < ready.length := by omega
    obtain ⟨k', p', hget⟩ : ∃ k' p', ready[i]? = some (k', p') :=
      ⟨_, _, List.getElem?_eq_getElem hlt⟩
    obtain ⟨hk, hp⟩ := hdrain.handed i k' p' hget
    have hsame : k' = k := by
      rw [hk, ← hplace, add_ofNat_succ]
    subst hsame
    obtain rfl : p' = p := Option.some.inj (hp.symm.trans hheld)
    exact List.mem_of_getElem? hget
  | behind h => exact absurd hpast (hstay _)
  | refused => exact absurd hpast (hstay _)
  | repeated h => exact absurd hpast (hstay _)
  | buffered hne hlt hitems hbytes hout => exact absurd hpast (hstay _)

/-- **The dispatch of a frame hands over what it records.** -/
theorem Records.mem_messages {d : DeliveryState} {a : Arrival} {m : ReceivedMessage}
    (h : d.Records a m) : m ∈ (d.fate a).messages := by
  have hordered : ∀ {w : Whole} {grp : OrderedGroupReceiver} {ready : List (UInt32 × List UInt8)},
      d.completes a = some w → w.groupId ≠ 0 → (d.collected a).groupFor w.groupId = some grp →
      (grp.onIncoming w.orderSeq w.payload).1 = .ok ready →
      (d.fate a).messages = labelled w.groupId ready := by
    intro w grp ready hwhole hgroup hgrp hok
    rw [fate, onFrame_of_completes hwhole, deliverWhole, deliverReliable, if_neg hgroup]
    exact deliverOrdered_ready hgrp hok
  cases h with
  | @indexed w hwhole hgroup hnew =>
    have hindex : (d.collected a).deliveredIndex.insertIfNew w.messageId =
        (true, (d.deliveredIndex.insertIfNew w.messageId).2) := by
      unfold DeliveredIndex.insertIfNew
      rw [if_neg (show w.messageId ∉ (d.collected a).deliveredIndex.seen from hnew), if_neg hnew]
      rfl
    rw [fate, onFrame_of_completes hwhole, deliverWhole, deliverReliable, if_pos hgroup,
      deliverUnordered, hindex]
    exact List.mem_singleton_self _
  | @next w grp hwhole hgroup hgrp hnext =>
    obtain ⟨ready, hok⟩ := @onIncoming_next grp w.payload
    rw [← hnext] at hok
    rw [hordered hwhole hgroup hgrp hok]
    exact List.mem_cons_self
  | @behind w grp q p hwhole hgroup hgrp hheld hother hpast =>
    obtain ⟨ready, hok, hmem⟩ := onIncoming_past hheld hother hpast
    rw [hordered hwhole hgroup hgrp hok]
    exact List.mem_map_of_mem hmem
  | refreshed hframe hsequenced hnewer =>
    rw [fate, hframe, onFrame, onData]
    simp only [if_neg hsequenced, hnewer]
    exact List.mem_singleton_self _

end DeliveryState

/-! ## 4. The call -/

namespace GtpConnection

variable [CryptoSuite]

/-- The delivery state in which the frame behind `before` is dispatched. -/
def deliveryAt (c : GtpConnection) (now : MonotonicTime) (before : List Frame) : DeliveryState :=
  (arriving now before).foldl DeliveryState.after c.hot.toDeliveryState

/-- **Bookkeeping implies delivery**: whatever a frame of the datagram records is in the list that
the call returns. -/
def DeliversRecorded (c : GtpConnection) (src : SocketAddr) (datagram : List UInt8)
    (now : MonotonicTime) (ecn : UInt8) : Prop :=
  ∀ before frame after m, c.openedFrames datagram = before ++ frame :: after →
    (c.deliveryAt now before).Records ⟨frame, now⟩ m →
    ∃ messages, (c.handleIncomingDatagramWithEcn src datagram now ecn).1 = .ok messages ∧
      m ∈ messages

theorem mem_messagesOf {c : GtpConnection} {src : SocketAddr} {dg : List UInt8}
    {now : MonotonicTime} {ecn : UInt8} {m : ReceivedMessage} :
    m ∈ c.messagesOf (.handleIncoming src dg now ecn) ↔
      ∃ messages, (c.handleIncomingDatagramWithEcn src dg now ecn).1 = .ok messages ∧
        m ∈ messages := by
  unfold messagesOf
  dsimp only
  cases (c.handleIncomingDatagramWithEcn src dg now ecn).1 with
  | ok messages => simp
  | error e => simp

omit [CryptoSuite] in
theorem arriving_split {now : MonotonicTime} {frames : List Frame} {as bs : List Arrival}
    {a : Arrival} (h : arriving now frames = as ++ a :: bs) :
    ∃ before frame after, frames = before ++ frame :: after ∧ as = arriving now before ∧
      a = ⟨frame, now⟩ := by
  obtain ⟨before, rest, rfl, hbefore, hrest⟩ := List.map_eq_append_iff.mp h
  obtain ⟨frame, after, rfl, hframe, -⟩ := List.map_eq_cons_iff.mp hrest
  exact ⟨before, frame, after, rfl, hbefore.symm, hframe.symm⟩

/-- **When bookkeeping implies delivery**: no frame that the dispatch gets to is a close, or none of
them has a message that the bookkeeping takes when its turn comes.  The state is any, and so are the
datagram and its source; a datagram that does not open has no frames.  Whether what was recorded and
not returned is sent again is not asked: the packet number is recorded, so that it will not be. -/
theorem delivers_recorded_iff (c : GtpConnection) (src : SocketAddr) (datagram : List UInt8)
    (now : MonotonicTime) (ecn : UInt8) :
    c.DeliversRecorded src datagram now ecn ↔
      (∀ frame ∈ c.openedFrames datagram, isClose frame = false) ∨
        Runs.Along DeliveryState.after (fun d a => ¬ d.Takes a) c.hot.toDeliveryState
          (arriving now (c.openedFrames datagram)) := by
  have hreturned := c.messagesOf_handleIncoming src datagram now ecn
  constructor
  · intro h
    by_cases hclose : (c.openedFrames datagram).any isClose = true
    · -- nothing is returned, so nothing may have been recorded
      refine Or.inr (Runs.along_iff.mpr fun as a bs hsplit htakes => ?_)
      obtain ⟨before, frame, after, hframes, rfl, rfl⟩ := arriving_split hsplit
      obtain ⟨m, hrec⟩ := DeliveryState.takes_iff.mp htakes
      have hmem := mem_messagesOf.mpr (h before frame after m hframes hrec)
      rw [hreturned, if_pos hclose] at hmem
      cases hmem
    · left
      intro frame hframe
      exact Bool.eq_false_iff.mpr fun hf => hclose (List.any_eq_true.mpr ⟨frame, hframe, hf⟩)
  · rintro (hopen | hnone) before frame after m hframes hrec
    · rw [← mem_messagesOf, hreturned, if_neg, hframes, arriving, List.map_append, List.map_cons,
        DeliveryState.handedOver_append, DeliveryState.handedOver]
      · exact List.mem_append_right _ (List.mem_append_left _ hrec.mem_messages)
      · intro hclose
        obtain ⟨f, hf, hcl⟩ := List.any_eq_true.mp hclose
        rw [hopen f hf] at hcl
        cases hcl
    · refine absurd (DeliveryState.takes_iff.mpr ⟨m, hrec⟩) ?_
      refine Runs.along_iff.mp hnone (arriving now before) ⟨frame, now⟩ (arriving now after) ?_
      rw [hframes, arriving, List.map_append, List.map_cons]
      rfl

end GtpConnection

/-! ## 5. A message and a close in one datagram -/

namespace GtpConnection

attribute [local instance] keyTagSuite

/-- A peer with the client's keys puts its last message and a close into one datagram. -/
def partingDatagram : List UInt8 :=
  let peer := (sampleSetup true).start.hot
  match PacketBuilder.new (List.replicate 200 0) (nextHeader peer 10) with
  | .error _ => []
  | .ok builder =>
    let builder := (builder.appendFrame (.reliableData 1 0 1 0 0 [5])).2
    let builder := (builder.appendFrame (.close 7 "bye")).2
    match sealDraft peer peer.nextPacketNumber builder with
    | (.error _, _) => []
    | (.ok len, buf) => buf.take len

/-- **The message is lost**: the server puts its id into the index, and returns the close. -/
theorem parting_message_lost :
    ¬ (sampleSetup false).start.DeliversRecorded ⟨1, 4433⟩ partingDatagram 11 0 := by
  intro h
  have hframes : (sampleSetup false).start.openedFrames partingDatagram =
      [] ++ .reliableData 1 0 1 0 0 [5] :: [.close 7 "bye"] := by decide +kernel
  obtain ⟨messages, hok, -⟩ := h _ _ _ _ hframes
    (.indexed (w := ⟨1, 0, 0, [5]⟩) rfl rfl (by decide +kernel))
  have herr : (((sampleSetup false).start.handleIncomingDatagramWithEcn ⟨1, 4433⟩ partingDatagram 11
      0).1.toOption).isNone = true := by decide +kernel
  rw [hok] at herr
  cases herr

end GtpConnection

end Gtp
