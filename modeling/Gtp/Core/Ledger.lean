/-
# The ledger of reliable fragments

The history of a connection is read off its calls: the fragments that the scheduler accepted from a
reliable send, those whose record was acknowledged, those that expired in a queue and those that
were refused when they came back.  The books balance over every run that does not use a message id
or a packet number twice: every fragment that was accepted is queued, outstanding, acknowledged or
dropped, in one place and once.

* `Moved` is what a part of a call does to the fragments: they leave as acknowledged, stale or
  refused, and the drop counters say so.  It composes, so a call is proved from its parts: one frame
  (`dispatch_moved`), the loop, what comes before the draft, the draft, the commit.
* `Issues` is what a send does with message ids.
* `Booked` are the books of a call, `Books` those of a run; `Books.step` needs that ids and numbers
  are fresh, which short runs give.

`fragments_conserved` is the whole.  `fragment_lost_after_wrap` is a run of `2^64` sends in which
the id of a reliable fragment comes back, and a newer state evicts it: that is what the bound is
for.  An acknowledgement is what the peer says; whether the peer has the fragment is in
`Gtp.Core.Custody`.
-/
import Gtp.Core.Fragments
import Gtp.Core.Restore
import Gtp.Core.Migration
import Gtp.Core.Sends

namespace Gtp

/-! ## 1. History -/

/-- The fragments that are queued before the first refusal. -/
def admitted (now : MonotonicTime) : GameScheduler → List SchedulableItem → Multiset Fragment
  | _, [] => 0
  | s, item :: rest =>
    match s.enqueue item now with
    | (.ok (), s) => fragmentsOf [item] + admitted now s rest
    | (.error _, _) => 0

/-- The fragments that the scheduler refuses when they are to be sent again. -/
def refusals (now : MonotonicTime) : GameScheduler → List RetransmissionRecord → Multiset Fragment
  | _, [] => 0
  | s, r :: rs =>
    match s.enqueue (GtpConnection.retransmissionItem r now) now with
    | (.ok (), s) => refusals now s rs
    | (.error _, s) => {r.fragment} + refusals now s rs

namespace GtpConnection

/-- The items of a reliable message, as the fragment loop hands them to the scheduler. -/
def offered (c : GtpConnection) (class' : MessageClass) (payload : List UInt8)
    (priority : PriorityTier) (deadline : Option MonotonicTime) (now : MonotonicTime) :
    List SchedulableItem :=
  match messageFragmentCount payload.length c.maxMessagePayload,
      chunks c.maxMessagePayload payload with
  | .ok total, some pieces =>
    fragmentItems c.hot.nextMessageId class' priority deadline total now pieces
  | _, _ => []

/-- What a call has accepted. -/
def acceptedBy (c : GtpConnection) : Op → Multiset Fragment
  | .sendReliableUnordered payload priority deadline now =>
    admitted now c.hot.scheduler (c.offered .reliableUnordered payload priority deadline now)
  | .sendReliableOrdered groupId payload priority deadline now =>
    admitted now c.hot.scheduler (c.offered
      (.reliableOrdered groupId ((c.hot.nextOrderSeqs[groupId]?).getD 0)) payload priority deadline
      now)
  | _ => 0

/-- What a frame acknowledges. -/
def acknowledgedIn (now : MonotonicTime) (c : GtpConnection) : Frame → Multiset Fragment
  | .ack largestAcked ackDelayUs ranges rangeCount _ _ _ =>
    LossDetector.carried (c.hot.lossDetector.onAckReceived largestAcked ackDelayUs ranges.toList
      rangeCount.toNat now).2.1.ackedPackets
  | _ => 0

/-- What a frame gives up: declared lost, and refused by the scheduler. -/
def refusedIn (now : MonotonicTime) (c : GtpConnection) : Frame → Multiset Fragment
  | .ack largestAcked ackDelayUs ranges rangeCount _ _ _ =>
    refusals now c.hot.scheduler (c.hot.lossDetector.onAckReceived largestAcked ackDelayUs
      ranges.toList rangeCount.toNat now).2.2.1.retransmittable
  | _ => 0

/-- The probe timeout has come. -/
def timesOut (c : GtpConnection) (now : MonotonicTime) : Prop :=
  0 < c.hot.lossDetector.inflightBytes ∧
    c.hot.lossDetector.ptoDurationWithBackoff c.config.ptoMaxDuration ≤
      now - c.hot.lossDetector.timeOfLastAckElicitingPacket

instance (c : GtpConnection) (now : MonotonicTime) : Decidable (c.timesOut now) :=
  inferInstanceAs (Decidable (_ ∧ _))

/-- What the probe timeout gives up. -/
def refusedAtTimeout (c : GtpConnection) (now : MonotonicTime) : Multiset Fragment :=
  if c.timesOut now then
    refusals now c.hot.scheduler c.hot.lossDetector.onTimeout.2.retransmittable
  else 0

/-- `produce_outgoing_datagram` has nothing to do: closed, or drained. -/
def atRest (c : GtpConnection) : Prop :=
  c.hot.state = .closed ∨ (c.hot.state = .draining ∧ c.hot.controlQueue.isEmpty = true)

instance (c : GtpConnection) : Decidable c.atRest := inferInstanceAs (Decidable (_ ∨ _))

/-- What expired in a queue. -/
def staleBy (c : GtpConnection) : Op → Multiset Fragment
  | .produce now _ => if c.atRest then 0 else (c.checkPto now).hot.scheduler.expired now
  | _ => 0

variable [CryptoSuite]

/-- The sum of `g` over the frames of a datagram, each in the state it is dispatched in. -/
def gather (g : GtpConnection → Frame → Multiset Fragment) (srcAddr : SocketAddr)
    (now : MonotonicTime) : Dispatch → List Frame → Multiset Fragment
  | _, [] => 0
  | s, f :: fs => g s.conn f + gather g srcAddr now (dispatch srcAddr now s f) fs

/-- The sum of `g` over the frames that a call receives. -/
def received (g : MonotonicTime → GtpConnection → Frame → Multiset Fragment) (c : GtpConnection) :
    Op → Multiset Fragment
  | .handleIncoming srcAddr datagram now _ =>
    match c.hot.admitHeader datagram with
    | .ok (header, _) =>
      let c' := onAuthenticated { c with
        cold.totalRxPackets := c.cold.totalRxPackets + 1
        cold.totalRxBytes := c.cold.totalRxBytes + datagram.length } header srcAddr datagram.length
        now
      gather (g now) srcAddr now ⟨c', [], false, none, 0⟩ (c.openedFrames datagram)
    | .error _ => 0
  | _ => 0

/-- What a call has seen acknowledged. -/
def acknowledgedBy (c : GtpConnection) (op : Op) : Multiset Fragment := c.received acknowledgedIn op

/-- What a call has refused. -/
def refusedBy (c : GtpConnection) : Op → Multiset Fragment
  | .produce now _ => if c.atRest then 0 else c.refusedAtTimeout now
  | op => c.received refusedIn op

def sumOver (g : GtpConnection → Op → Multiset Fragment) (c : GtpConnection) (ops : List Op) :
    Multiset Fragment :=
  (Runs.outputs step g c ops).sum

/-! ## 2. What a call moves -/

omit [CryptoSuite] in
/-- The fragments that are queued or outstanding. -/
def held (c : GtpConnection) : Multiset Fragment :=
  c.hot.scheduler.queued + c.hot.lossDetector.outstanding

omit [CryptoSuite] in
/-- Fragments leave as acknowledged, stale or refused, and the drop counters say so; message ids are
not touched. -/
structure Moved (c c' : GtpConnection) (acknowledged stale refused : Multiset Fragment) : Prop where
  balance : c.held = c'.held + (acknowledged + stale + refused)
  staleDrops : c.cold.totalStaleDrops + stale.card ≤ c'.cold.totalStaleDrops
  droppedFrames : c.cold.totalDroppedFrames + refused.card ≤ c'.cold.totalDroppedFrames
  stateTable : c'.hot.scheduler.stateTable = c.hot.scheduler.stateTable
  nextMessageId : c'.hot.nextMessageId = c.hot.nextMessageId

omit [CryptoSuite] in
theorem Moved.refl (c : GtpConnection) : Moved c c 0 0 0 :=
  ⟨(add_zero c.held).symm, Nat.le_refl _, Nat.le_refl _, rfl, rfl⟩

omit [CryptoSuite] in
theorem Moved.trans {c c' c'' : GtpConnection} {a a' s s' r r' : Multiset Fragment}
    (h : Moved c c' a s r) (h' : Moved c' c'' a' s' r') :
    Moved c c'' (a + a') (s + s') (r + r') := by
  refine ⟨?_, ?_, ?_, h'.stateTable.trans h.stateTable, h'.nextMessageId.trans h.nextMessageId⟩
  · rw [h.balance, h'.balance]
    abel
  · rw [Multiset.card_add, ← Nat.add_assoc]
    exact (Nat.add_le_add_right h.staleDrops _).trans h'.staleDrops
  · rw [Multiset.card_add, ← Nat.add_assoc]
    exact (Nat.add_le_add_right h.droppedFrames _).trans h'.droppedFrames

omit [CryptoSuite] in
/-- What is not about scheduler, records and drop counters makes no difference. -/
theorem Moved.congr {c c' c'' : GtpConnection} {a s r : Multiset Fragment} (h : Moved c c' a s r)
    (hsched : c''.hot.scheduler = c'.hot.scheduler)
    (hsent : c''.hot.lossDetector.sentPackets = c'.hot.lossDetector.sentPackets)
    (hstale : c'.cold.totalStaleDrops ≤ c''.cold.totalStaleDrops)
    (hdrop : c'.cold.totalDroppedFrames ≤ c''.cold.totalDroppedFrames)
    (hid : c''.hot.nextMessageId = c'.hot.nextMessageId) : Moved c c'' a s r := by
  refine ⟨?_, h.staleDrops.trans hstale, h.droppedFrames.trans hdrop, ?_, hid.trans h.nextMessageId⟩
  · rw [h.balance, held, held, hsched, LossDetector.outstanding, LossDetector.outstanding, hsent]
  · rw [hsched]
    exact h.stateTable

omit [CryptoSuite] in
/-- Frames that are sent again are queued or refused. -/
theorem retransmitAll_moved (now : MonotonicTime) (rs : List RetransmissionRecord)
    (c : GtpConnection) :
    let c' := rs.foldl (retransmit now) c
    c'.hot.scheduler.queued + refusals now c.hot.scheduler rs =
        c.hot.scheduler.queued + recordsOf rs ∧
      c'.hot.lossDetector = c.hot.lossDetector ∧
      c'.cold.totalStaleDrops = c.cold.totalStaleDrops ∧
      c'.cold.totalDroppedFrames =
        c.cold.totalDroppedFrames + (refusals now c.hot.scheduler rs).card ∧
      c'.hot.scheduler.stateTable = c.hot.scheduler.stateTable ∧
      c'.hot.nextMessageId = c.hot.nextMessageId := by
  dsimp only
  induction rs generalizing c with
  | nil => exact ⟨rfl, rfl, rfl, rfl, rfl, rfl⟩
  | cons r rs ih =>
    obtain ⟨hq, hd, hs, hdrop, htable, hid⟩ := ih (retransmit now c r)
    rw [List.foldl_cons, refusals]
    rcases henq : c.hot.scheduler.enqueue (retransmissionItem r now) now with ⟨res, s⟩
    have hsched : (retransmit now c r).hot.scheduler = s := by
      simp only [retransmit, pushEventUnbounded, henq]
    rw [hsched] at hq hdrop htable
    cases res with
    | ok u =>
      have hcold : (retransmit now c r).cold.totalDroppedFrames = c.cold.totalDroppedFrames := by
        simp only [retransmit, pushEventUnbounded, henq]
      obtain ⟨hqueue, hst⟩ :=
        GameScheduler.enqueue_reliable (retransmissionItem_fragment? r now) (by rw [henq])
      rw [henq] at hqueue hst
      dsimp only at hqueue hst ⊢
      refine ⟨?_, hd, hs, hdrop.trans (by rw [hcold]), htable.trans hst, hid⟩
      rw [hq, hqueue, recordsOf_cons, add_assoc]
    | error e =>
      have hcold : (retransmit now c r).cold.totalDroppedFrames =
          c.cold.totalDroppedFrames + 1 := by
        simp only [retransmit, pushEventUnbounded, henq]
      have hsame : s = c.hot.scheduler := by
        have herr := @GameScheduler.enqueue_error c.hot.scheduler (retransmissionItem r now) now e
        rw [henq] at herr
        exact herr rfl
      dsimp only
      refine ⟨?_, hd, hs, ?_, htable.trans (by rw [hsame]), hid⟩
      · rw [add_left_comm, hq, hsame, recordsOf_cons, add_left_comm]
      · rw [hdrop, hcold, Multiset.card_add, Multiset.card_singleton, Nat.add_assoc]

omit [CryptoSuite] in
/-- Records that were taken out of the detector are acknowledged, or sent again. -/
theorem resent_moved {c c1 : GtpConnection} {acked : Multiset Fragment}
    {lost : List RetransmissionRecord} (hsched : c1.hot.scheduler = c.hot.scheduler)
    (hout : c.hot.lossDetector.outstanding =
      c1.hot.lossDetector.outstanding + acked + recordsOf lost)
    (hstale : c.cold.totalStaleDrops ≤ c1.cold.totalStaleDrops)
    (hdropped : c.cold.totalDroppedFrames ≤ c1.cold.totalDroppedFrames)
    (hid : c1.hot.nextMessageId = c.hot.nextMessageId) (now : MonotonicTime) :
    Moved c (lost.foldl (retransmit now) c1) acked 0 (refusals now c.hot.scheduler lost) := by
  obtain ⟨hq, hd, hs, hdrop, htable, hid'⟩ := retransmitAll_moved now lost c1
  rw [hsched] at hq hdrop htable
  refine ⟨?_, hstale.trans hs.ge, ?_, htable, hid'.trans hid⟩
  · calc c.held = c.hot.scheduler.queued + recordsOf lost +
            (c1.hot.lossDetector.outstanding + acked) := by
          rw [held, hout]
          abel
      _ = _ := by
          rw [← hq, held, hd]
          abel
  · rw [hdrop]
    exact Nat.add_le_add_right hdropped _

omit [CryptoSuite] in
theorem pushEvent_drops (c : GtpConnection) (e : ControlEvent) :
    (c.pushEvent e).cold.totalStaleDrops = c.cold.totalStaleDrops ∧
      (c.pushEvent e).cold.totalDroppedFrames = c.cold.totalDroppedFrames := by
  unfold pushEvent
  dsimp only
  split <;> exact ⟨rfl, rfl⟩

omit [CryptoSuite] in
/-- An event is telemetry only. -/
theorem Moved.pushEvent {c c' : GtpConnection} {a s r : Multiset Fragment} (h : Moved c c' a s r)
    (e : ControlEvent) : Moved c (c'.pushEvent e) a s r :=
  h.congr rfl rfl (c'.pushEvent_drops e).1.ge (c'.pushEvent_drops e).2.ge rfl

omit [CryptoSuite] in
theorem onAckFrame_moved (c : GtpConnection) (l : PacketNumber) (d : UInt32) (r : AckRanges)
    (n : UInt8) (now : MonotonicTime) {e0 e1 ce : UInt32} :
    Moved c (c.onAckFrame l d r n now) (acknowledgedIn now c (.ack l d r n e0 e1 ce)) 0
      (refusedIn now c (.ack l d r n e0 e1 ce)) := by
  have hout := c.hot.lossDetector.onAckReceived_outstanding l d r.toList n.toNat now
  unfold onAckFrame acknowledgedIn refusedIn
  dsimp only
  generalize c.hot.lossDetector.onAckReceived l d r.toList n.toNat now = ev at hout ⊢
  obtain ⟨ld, ackEv, lossEv, x⟩ := ev
  dsimp only at hout ⊢
  split
  · refine resent_moved ?_ ?_ ?_ ?_ ?_ now
    · rfl
    · exact hout
    · exact le_rfl
    · exact le_rfl
    · rfl
  · refine resent_moved ?_ ?_ ?_ ?_ ?_ now
    · rfl
    · exact hout
    · rw [(pushEvent_drops _ _).1]
    · rw [(pushEvent_drops _ _).2]
    · rfl

/-- **One frame** moves what it acknowledges and what it gives up. -/
theorem dispatch_moved (src : SocketAddr) (now : MonotonicTime) (s : Dispatch) (f : Frame) :
    Moved s.conn (dispatch src now s f).conn (acknowledgedIn now s.conn f) 0
      (refusedIn now s.conn f) := by
  have hcount : ∀ (c : GtpConnection) (d : Disposition), Moved s.conn c 0 0 0 →
      Moved s.conn (c.countDrop d) 0 0 0 := by
    intro c d h
    refine h.congr ?_ ?_ ?_ ?_ ?_
    · rw [countDrop_hot]
    · rw [countDrop_hot]
    · cases d <;> first | exact Nat.le_refl _ | exact Nat.le_succ _
    · cases d <;> first | exact Nat.le_refl _ | exact Nat.le_succ _
    · rw [countDrop_hot]
  cases f with
  | ack l d r n e0 e1 ce => exact s.conn.onAckFrame_moved l d r n now
  | data id key seq gen dl p => exact hcount _ _ ((Moved.refl s.conn).congr rfl rfl le_rfl le_rfl rfl)
  | reliableData id fid n g q p =>
    exact hcount _ _ ((Moved.refl s.conn).congr rfl rfl le_rfl le_rfl rfl)
  | retx id fid t p => exact hcount _ _ ((Moved.refl s.conn).congr rfl rfl le_rfl le_rfl rfl)
  | pathChallenge token =>
    unfold dispatch
    dsimp only
    split
    · exact (Moved.refl s.conn).congr rfl rfl le_rfl le_rfl rfl
    · exact .refl s.conn
  | pathResponse token =>
    unfold dispatch onPathResponse
    rcases s.conn.hot.pathValidator.validateResponse src token now with ⟨valid, pv⟩
    dsimp only
    split
    · refine Moved.pushEvent ?_ _
      exact (Moved.refl s.conn).congr rfl rfl le_rfl le_rfl rfl
    · exact (Moved.refl s.conn).congr rfl rfl le_rfl le_rfl rfl
  | keyUpdate p proof =>
    obtain ⟨keys, n, hframe⟩ := s.conn.hot.onKeyUpdate_frame p
    refine (Moved.refl s.conn).congr ?_ ?_ le_rfl le_rfl ?_
    · simp only [dispatch, hframe]
    · simp only [dispatch, hframe]
    · simp only [dispatch, hframe]
  | _ => exact (Moved.refl s.conn).congr rfl rfl le_rfl le_rfl rfl

/-- **The dispatch loop.** -/
theorem dispatchAll_moved (src : SocketAddr) (now : MonotonicTime) (items : List (Result Frame))
    (s : Dispatch) :
    Moved s.conn (dispatchAll src now s items).conn
      (gather (acknowledgedIn now) src now s (readable items)) 0
      (gather (refusedIn now) src now s (readable items)) := by
  induction items generalizing s with
  | nil => exact .refl s.conn
  | cons item rest ih =>
    cases item with
    | error e => exact (Moved.refl s.conn).congr rfl rfl le_rfl le_rfl rfl
    | ok f => exact (dispatch_moved src now s f).trans (ih (dispatch src now s f))

omit [CryptoSuite] in
theorem onAuthenticated_moved {c c' : GtpConnection} {a s r : Multiset Fragment}
    (h : Moved c c' a s r) (hd : PacketHeader) (src : SocketAddr) (len : Nat) (now : MonotonicTime) :
    Moved c (c'.onAuthenticated hd src len now) a s r := by
  obtain ⟨amp, probe, hcredit⟩ := creditPath_spec
    { c'.hot with replayWindow := c'.hot.replayWindow.commit hd.packetNumber } src len
  unfold onAuthenticated emitOwd
  dsimp only
  rw [hcredit]
  split
  · refine Moved.pushEvent ?_ _
    exact h.congr rfl rfl le_rfl le_rfl rfl
  · exact h.congr rfl rfl le_rfl le_rfl rfl

omit [CryptoSuite] in
theorem Moved.checkBackpressure {c c' : GtpConnection} {a s r : Multiset Fragment}
    (h : Moved c c' a s r) (now : MonotonicTime) : Moved c (c'.checkBackpressure now) a s r := by
  have hpushed := h.pushEvent (.backpressureChanged c'.lastBackpressure (c'.feedback now).backpressure
    (c'.feedback now).effectiveQueueBytes)
  by_cases hchanged : (c'.feedback now).backpressure ≠ c'.lastBackpressure
  · refine hpushed.congr rfl rfl ?_ ?_ rfl <;> unfold GtpConnection.checkBackpressure <;> dsimp only <;>
      rw [if_pos hchanged]
  · refine h.congr rfl rfl ?_ ?_ rfl <;> unfold GtpConnection.checkBackpressure <;> dsimp only <;>
      rw [if_neg hchanged]

theorem receiveFrames_moved (c : GtpConnection) (src : SocketAddr) (pn : PacketNumber)
    (pt : List UInt8) (now : MonotonicTime) (ecn : UInt8) :
    Moved c (c.receiveFrames src pn pt now ecn).2
      (gather (acknowledgedIn now) src now ⟨c, [], false, none, 0⟩
        (readable (FrameIterator.collect pt))) 0
      (gather (refusedIn now) src now ⟨c, [], false, none, 0⟩
        (readable (FrameIterator.collect pt))) := by
  have hall := dispatchAll_moved src now (FrameIterator.collect pt) ⟨c, [], false, none, 0⟩
  unfold receiveFrames
  generalize dispatchAll src now ⟨c, [], false, none, 0⟩ (FrameIterator.collect pt) = s at hall ⊢
  dsimp only at hall ⊢
  have hacked : Moved c { s.conn with
      hot.ackTracker := (s.conn.hot.ackTracker.onPacketReceived pn s.isAckEliciting ecn.toNat now) }
      (gather (acknowledgedIn now) src now ⟨c, [], false, none, 0⟩
        (readable (FrameIterator.collect pt))) 0
      (gather (refusedIn now) src now ⟨c, [], false, none, 0⟩
        (readable (FrameIterator.collect pt))) :=
    hall.congr rfl rfl le_rfl le_rfl rfl
  have hpressed := hacked.checkBackpressure now
  split
  · refine Moved.pushEvent ?_ _
    exact hpressed.congr rfl rfl le_rfl le_rfl rfl
  · exact hpressed

/-- **An incoming datagram.** -/
theorem handle_moved (c : GtpConnection) (src : SocketAddr) (dg : List UInt8) (now : MonotonicTime)
    (ecn : UInt8) :
    Moved c (c.handleIncomingDatagramWithEcn src dg now ecn).2
      (c.acknowledgedBy (.handleIncoming src dg now ecn)) 0
      (c.refusedBy (.handleIncoming src dg now ecn)) := by
  by_cases hopen : ∃ hd pt, c.Opens dg hd pt
  · obtain ⟨hd, pt, hopen⟩ := hopen
    have hframes := hopen.openedFrames
    rw [hopen.handle src now ecn]
    obtain ⟨-, n, hadm, -⟩ := hopen
    have hgather : ∀ g : MonotonicTime → GtpConnection → Frame → Multiset Fragment,
        c.received g (.handleIncoming src dg now ecn) = gather (g now) src now
          ⟨onAuthenticated { c with
            cold.totalRxPackets := c.cold.totalRxPackets + 1
            cold.totalRxBytes := c.cold.totalRxBytes + dg.length } hd src dg.length now,
            [], false, none, 0⟩ (readable (FrameIterator.collect pt)) := by
      intro g
      simp only [received, hadm, hframes]
    have hauth : Moved c (onAuthenticated { c with
        cold.totalRxPackets := c.cold.totalRxPackets + 1
        cold.totalRxBytes := c.cold.totalRxBytes + dg.length } hd src dg.length now) 0 0 0 := by
      refine onAuthenticated_moved ?_ hd src dg.length now
      exact (Moved.refl c).congr rfl rfl le_rfl le_rfl rfl
    have hrecv := hauth.trans (receiveFrames_moved _ src hd.packetNumber pt now ecn)
    rw [zero_add, zero_add, zero_add, ← hgather, ← hgather] at hrecv
    exact hrecv
  · have hnone : ∀ hd pt, ¬ c.Opens dg hd pt := fun hd pt h => hopen ⟨hd, pt, h⟩
    have hframes := openedFrames_of_not_opens hnone
    have hzero : ∀ g : MonotonicTime → GtpConnection → Frame → Multiset Fragment,
        c.received g (.handleIncoming src dg now ecn) = 0 := by
      intro g
      simp only [received, hframes]
      split <;> rfl
    have hrefused : c.refusedBy (.handleIncoming src dg now ecn) = 0 := hzero refusedIn
    rw [acknowledgedBy, hzero, hrefused]
    unfold handleIncomingDatagramWithEcn
    split
    · exact .refl c
    · rename_i hstate
      dsimp only
      split
      · exact (Moved.refl c).congr rfl rfl le_rfl le_rfl rfl
      · rename_i hd n hadm
        split
        · exact (Moved.refl c).congr rfl rfl le_rfl le_rfl rfl
        · rename_i pt hpt
          exact absurd ⟨hstate, n, hadm, hpt⟩ (hnone hd pt)

/-! ## 3. Transmission -/

omit [CryptoSuite] in
theorem checkPto_moved (c : GtpConnection) (now : MonotonicTime) :
    Moved c (c.checkPto now) 0 0 (c.refusedAtTimeout now) := by
  have hout := c.hot.lossDetector.onTimeout_outstanding
  by_cases hpto : c.timesOut now
  · rw [refusedAtTimeout, if_pos hpto, checkPto]
    unfold timesOut at hpto
    dsimp only
    rw [if_pos hpto]
    generalize c.hot.lossDetector.onTimeout = ev at hout ⊢
    obtain ⟨ld, lossEv⟩ := ev
    dsimp only at hout ⊢
    obtain ⟨c0, hc0⟩ : ∃ c0 : GtpConnection, c0 = { c with
      hot.lossDetector := ld
      hot.cc := if persistentCongestionPtoCount ≤ ld.ptoCount then c.hot.cc.onTimeout now
        else c.hot.cc } := ⟨_, rfl⟩
    rw [← hc0]
    obtain ⟨hstale, hdropped⟩ := c0.pushEvent_drops (.ptoTriggered ld.ptoCount ld.inflightBytes)
    have hresent : Moved c (lossEv.retransmittable.foldl (retransmit now)
        (c0.pushEvent (.ptoTriggered ld.ptoCount ld.inflightBytes))) 0 0
        (refusals now c.hot.scheduler lossEv.retransmittable) := by
      refine resent_moved ?_ ?_ ?_ ?_ ?_ now
      · rw [pushEvent_hot, hc0]
      · rw [pushEvent_hot, hc0, add_zero]
        exact hout
      · rw [hstale, hc0]
      · rw [hdropped, hc0]
      · rw [pushEvent_hot, hc0]
    generalize lossEv.retransmittable.foldl (retransmit now)
      (c0.pushEvent (.ptoTriggered ld.ptoCount ld.inflightBytes)) = c1 at hresent ⊢
    refine hresent.congr ?_ ?_ ?_ ?_ ?_
    · rfl
    · rfl
    · exact le_rfl
    · exact le_rfl
    · rfl
  · rw [refusedAtTimeout, if_neg hpto, checkPto]
    unfold timesOut at hpto
    dsimp only
    rw [if_neg hpto]
    exact .refl c

omit [CryptoSuite] in
/-- **Before the draft** fragments leave by the probe timeout and by their deadline. -/
theorem prepare_moved (c : GtpConnection) (now : MonotonicTime) :
    Moved c (c.prepare now) 0 ((c.checkPto now).hot.scheduler.expired now)
      (c.refusedAtTimeout now) := by
  have hprune := (c.checkPto now).hot.scheduler.queued_pruneStale now
  have hcard := (c.checkPto now).hot.scheduler.card_expired_le now
  have hhouse : Moved (c.checkPto now) ((c.checkPto now).housekeeping now) 0
      ((c.checkPto now).hot.scheduler.expired now) 0 := by
    refine ⟨?_, Nat.add_le_add_left hcard _, le_rfl, rfl, rfl⟩
    rw [held, held, ← hprune, zero_add, add_zero, add_right_comm]
    rfl
  have hall := (c.checkPto_moved now).trans hhouse
  rw [zero_add, zero_add, add_zero] at hall
  exact hall

omit [CryptoSuite] in
/-- What is given back without a refusal is queued again. -/
theorem giveBack_queued (now : MonotonicTime) (items : List SchedulableItem) {s s' : GameScheduler}
    (h : GameScheduler.giveBack now items s = (s', 0)) :
    s'.queued = s.queued + fragmentsOf items ∧ s'.stateTable = s.stateTable := by
  induction items generalizing s' with
  | nil =>
    obtain ⟨rfl, -⟩ := Prod.mk.inj h
    exact ⟨(add_zero s.queued).symm, rfl⟩
  | cons item rest ih =>
    rw [GameScheduler.giveBack] at h
    rcases hrest : GameScheduler.giveBack now rest s with ⟨s1, refused⟩
    rw [hrest] at h
    dsimp only at h
    unfold GameScheduler.requeue at h
    cases hadm : s1.checkAdmission item now with
    | error e =>
      rw [hadm] at h
      cases (Prod.mk.inj h).2
    | ok u =>
      rw [hadm] at h
      obtain ⟨rfl, rfl⟩ := Prod.mk.inj h
      obtain ⟨hqueued, htable⟩ := ih hrest
      refine ⟨?_, htable⟩
      rw [GameScheduler.queued_place (List.Perm.refl _), hqueued, fragmentsOf_cons item rest]
      abel

omit [CryptoSuite] in
/-- **The draft** takes out of the queues what it carries. -/
theorem assemble_queued {c : GtpConnection} (h : c.hot.scheduler.Counted) {now : MonotonicTime}
    (hlive : c.hot.scheduler.Fresh now) {b : PacketBuilder} {header : PacketHeader}
    (hb : b.Carries header []) :
    c.hot.scheduler.queued = (c.assemble b now).2.hot.scheduler.queued +
        fragmentsOf (c.assemble b now).1.popped ∧
      (c.assemble b now).2.hot.scheduler.stateTable = c.hot.scheduler.stateTable ∧
      (c.assemble b now).2.cold.totalDroppedFrames = c.cold.totalDroppedFrames := by
  obtain ⟨-, hpopped, hsched, hdrop, -⟩ := c.assemble_planned hb now
  obtain ⟨items, s', s'', hplan, hgive, hsame⟩ := planned_restores h hlive b.remainingCapacity
  rw [hplan] at hpopped hsched hdrop
  dsimp only at hpopped hsched hdrop
  obtain ⟨hqueued, htable⟩ := giveBack_queued now items hgive
  rw [hpopped, hsched]
  refine ⟨?_, ?_, hdrop⟩
  · rw [← hqueued, hsame.queued]
  · rw [← htable]
    obtain ⟨deficits, accrued, pointer, rfl⟩ := hsame
    rfl

omit [CryptoSuite] in
theorem tickRouteEvaluation_cold (c : GtpConnection) (now : MonotonicTime) :
    (c.tickRouteEvaluation now).cold = c.cold := by
  unfold tickRouteEvaluation
  split <;> rfl

/-- A datagram that leaves takes its fragments from the queues to the records. -/
theorem commit_moved {c : GtpConnection} (hcount : c.hot.scheduler.Counted) {now : MonotonicTime}
    (hlive : c.hot.scheduler.Fresh now) (hnum : c.Numbered) {b : PacketBuilder}
    {header : PacketHeader} (hb : b.Carries header []) (len : Nat) :
    Moved c ((c.assemble b now).2.commit (c.assemble b now).1 len now) 0 0 0 := by
  have hass := (c.assemble_spec hb now).conn
  obtain ⟨hqueued, htable, hdrop⟩ := assemble_queued hcount hlive hb
  generalize c.assemble b now = draft at hass hqueued htable hdrop ⊢
  obtain ⟨d, c2⟩ := draft
  dsimp only at hass hqueued htable hdrop ⊢
  obtain ⟨keys, n, pending, controller, path, closed, hcommit⟩ := c2.commit_frame d len now
  have hcold : (c2.commit d len now).cold = { c2.cold with
      totalTxPackets := c2.cold.totalTxPackets + 1
      totalTxBytes := c2.cold.totalTxBytes + len } := by
    unfold commit
    dsimp only
    rw [tickRouteEvaluation_cold]
  have hdet : c2.hot.lossDetector = c.hot.lossDetector := by rw [hass]
  have hpn : c2.hot.nextPacketNumber = c.hot.nextPacketNumber := by rw [hass]
  have hfresh : c.hot.nextPacketNumber.toNat ∉ c.hot.lossDetector.sentPackets := by
    rw [Maps.mem_iff]
    rintro ⟨r, hr⟩
    exact Nat.lt_irrefl _ (hnum _ r hr)
  refine ⟨?_, ?_, ?_, ?_, ?_⟩
  · rw [held, held, hcommit, hdet, hpn, LossDetector.outstanding_onPacketSent hfresh, hqueued]
    dsimp only
    rw [Draft.retransmittables, recordsOf_filterMap]
    abel
  · rw [hcold, hass]
    exact le_rfl
  · rw [hcold, ← hdrop]
    exact le_rfl
  · rw [hcommit]
    exact htable
  · rw [hcommit, hass]

omit [CryptoSuite] in
theorem moved_of_same {c : GtpConnection} {s : GameScheduler}
    (h : GameScheduler.SameQueues c.hot.scheduler s) :
    Moved c { c with hot.scheduler := s } 0 0 0 := by
  obtain ⟨deficits, accrued, pointer, rfl⟩ := h
  exact ⟨(add_zero c.held).symm, le_rfl, le_rfl, rfl, rfl⟩

/-- **`produce_outgoing_datagram`.** -/
theorem produce_moved {c : GtpConnection} (hcount : c.hot.scheduler.Counted) (hnum : c.Numbered)
    (now : MonotonicTime) (outBuf : List UInt8) :
    Moved c (c.produceOutgoingDatagram now outBuf).conn 0 (c.staleBy (.produce now outBuf))
      (c.refusedBy (.produce now outBuf)) := by
  unfold staleBy refusedBy
  dsimp only
  by_cases hrest : c.atRest
  · rw [if_pos hrest, if_pos hrest]
    unfold produceOutgoingDatagram
    split
    · exact .refl c
    · rename_i hclosed
      rw [if_pos (hrest.resolve_left hclosed)]
      refine Moved.pushEvent ?_ _
      exact (Moved.refl c).congr rfl rfl le_rfl le_rfl rfl
  · rw [if_neg hrest, if_neg hrest]
    have hprep := c.prepare_moved now
    have hcount' : (c.prepare now).hot.scheduler.Counted :=
      prepare_scheduler GameScheduler.closed_counted.toStable hcount now
    have hlive : (c.prepare now).hot.scheduler.Fresh now := GameScheduler.fresh_pruneStale _ now
    have hnum' : (c.prepare now).Numbered := by
      obtain ⟨ld, cc, s, pv, pac, cold, ev, heq, hshrink, -⟩ := c.prepare_spec now
      rw [heq]
      exact fun pn r hr => hnum pn r (hshrink.sub pn r hr)
    have hback : ∀ b, PacketBuilder.new outBuf (nextHeader (c.prepare now).hot now) = .ok b →
        Moved c (((c.prepare now).assemble b now).2.putBack ((c.prepare now).assemble b now).1 now)
          0 ((c.checkPto now).hot.scheduler.expired now) (c.refusedAtTimeout now) := by
      intro b hb
      obtain ⟨s, hput, hsame⟩ := assemble_putBack hcount' hlive (new_nextHeader hb).1
      rw [hput]
      have hall := hprep.trans (moved_of_same hsame)
      rw [add_zero, add_zero, add_zero] at hall
      exact hall
    have hexit := c.produce_exit now outBuf
    generalize c.produceOutgoingDatagram now outBuf = r at hexit ⊢
    cases hexit with
    | closed h => exact absurd (Or.inl h) hrest
    | drained h => exact absurd (Or.inr h) hrest
    | idle => exact hprep
    | short => exact hprep
    | refused hb => exact hback _ hb
    | limited hb => exact hback _ hb
    | @sent b len buf hb =>
      have hsent := hprep.trans (commit_moved hcount' hlive hnum' (new_nextHeader hb).1 len)
      rw [add_zero, add_zero, add_zero] at hsent
      exact hsent

/-! ## 4. Sends -/

omit [CryptoSuite] in
theorem enqueueAll_admitted (now : MonotonicTime) (items : List SchedulableItem)
    (hitems : ∀ item ∈ items, ∃ f, item.fragment? = some f) (c : GtpConnection) :
    (enqueueAll now c items).2.hot.scheduler.queued =
        c.hot.scheduler.queued + admitted now c.hot.scheduler items ∧
      (enqueueAll now c items).2.hot.scheduler.stateTable = c.hot.scheduler.stateTable := by
  induction items generalizing c with
  | nil => exact ⟨(add_zero _).symm, rfl⟩
  | cons item rest ih =>
    obtain ⟨f, hf⟩ := hitems item List.mem_cons_self
    rw [enqueueAll, enqueueItem, admitted]
    rcases henq : c.hot.scheduler.enqueue item now with ⟨res, s⟩
    cases res with
    | error e =>
      have hsame : s = c.hot.scheduler := by
        have herr := @GameScheduler.enqueue_error c.hot.scheduler item now e
        rw [henq] at herr
        exact herr rfl
      rw [hsame]
      exact ⟨(add_zero _).symm, rfl⟩
    | ok u =>
      obtain ⟨hqueued, htable⟩ := GameScheduler.enqueue_reliable hf (by rw [henq])
      rw [henq] at hqueued htable
      dsimp only at hqueued htable ⊢
      obtain ⟨hrest, htable'⟩ := ih (fun x hx => hitems x (List.mem_cons_of_mem _ hx))
        { c with hot.scheduler := s }
      have hone : fragmentsOf [item] = {f} := by
        rw [fragmentsOf, List.filterMap_cons_some hf]
        rfl
      dsimp only at hrest htable'
      rw [hrest, hqueued, hone, add_assoc]
      exact ⟨rfl, htable'.trans htable⟩

omit [CryptoSuite] in
theorem admitted_le (now : MonotonicTime) (s : GameScheduler) (items : List SchedulableItem) :
    admitted now s items ≤ fragmentsOf items := by
  induction items generalizing s with
  | nil => exact le_rfl
  | cons item rest ih =>
    rw [admitted, fragmentsOf_cons item rest]
    split
    · exact add_le_add le_rfl (ih _)
    · exact Multiset.zero_le _

omit [CryptoSuite] in
/-- The fragments of a message are those of one id; there are at most 65535 of them, so that their
indices differ. -/
theorem offered_fragments (c : GtpConnection) {class' : MessageClass}
    (hclass : class'.isReliable = true) (payload : List UInt8) (priority : PriorityTier)
    (deadline : Option MonotonicTime) (now : MonotonicTime) :
    (∀ item ∈ c.offered class' payload priority deadline now,
      item.fragment? = some (c.hot.nextMessageId, item.fragmentId)) ∧
    (fragmentsOf (c.offered class' payload priority deadline now)).Nodup := by
  unfold offered
  split
  · rename_i total pieces htotal hpieces
    have hitem : ∀ item ∈ fragmentItems c.hot.nextMessageId class' priority deadline total now pieces,
        item.fragment? = some (c.hot.nextMessageId, item.fragmentId) := by
      intro item hitem
      obtain ⟨⟨chunk, idx⟩, -, rfl⟩ := List.mem_map.mp hitem
      exact if_pos hclass
    have hlen : pieces.length ≤ 65535 := by
      unfold chunks at hpieces
      split at hpieces
      · cases hpieces
      · rename_i hsize
        obtain rfl := Option.some.inj hpieces
        have hpos := Nat.pos_of_ne_zero hsize
        refine (length_chunksFrom hpos (Nat.le_refl _)).le.trans ?_
        unfold messageFragmentCount at htotal
        dsimp only at htotal
        rw [Nat.max_eq_left hpos] at htotal
        split at htotal
        · cases htotal
        · rename_i hsmall
          omega
    refine ⟨hitem, ?_⟩
    have hlist : fragmentsOf (fragmentItems c.hot.nextMessageId class' priority deadline total now
        pieces) = ((List.range pieces.length).map fun i =>
          ((c.hot.nextMessageId, UInt16.ofNat i) : Fragment) : List Fragment) := by
      have hmap : (SchedulableItem.fragment? ∘ fun p : List UInt8 × Nat =>
          ({ messageId := c.hot.nextMessageId, class', priority, createdAt := now, deadline
             supersedable := false, payload := p.1, fragmentId := UInt16.ofNat p.2
             totalFragments := UInt16.ofNat total } : SchedulableItem)) =
          some ∘ fun p => (c.hot.nextMessageId, UInt16.ofNat p.2) :=
        funext fun p => if_pos hclass
      rw [fragmentsOf, fragmentItems, List.filterMap_map, List.range_eq_range',
        ← List.zipIdx_map_snd 0 pieces, List.map_map, ← List.filterMap_eq_map]
      exact congrArg (fun g => ((pieces.zipIdx.filterMap g : List Fragment) : Multiset Fragment)) hmap
    rw [hlist, Multiset.coe_nodup]
    refine List.Nodup.map_on ?_ List.nodup_range
    intro i hi j hj hij
    have hfid : (UInt16.ofNat i).toNat = (UInt16.ofNat j).toNat :=
      congrArg UInt16.toNat (Prod.mk.inj hij).2
    rw [List.mem_range] at hi hj
    rw [UInt16.toNat_ofNat', UInt16.toNat_ofNat', Nat.mod_eq_of_lt (by omega),
      Nat.mod_eq_of_lt (by omega)] at hfid
    exact hfid
  · exact ⟨fun item h => (by cases h), Multiset.nodup_zero⟩

omit [CryptoSuite] in
/-- What a call does with message ids: nothing, or the next one goes to the fragments it accepted,
or to a state that may enter the state table. -/
inductive Issues (c c' : GtpConnection) : Multiset Fragment → Prop
  | nothing (hid : c'.hot.nextMessageId = c.hot.nextMessageId)
      (htable : c'.hot.scheduler.tableIds = c.hot.scheduler.tableIds) : Issues c c' 0
  | message {new : Multiset Fragment} (hid : c'.hot.nextMessageId = c.hot.nextMessageId + 1)
      (htable : c'.hot.scheduler.tableIds = c.hot.scheduler.tableIds)
      (hnew : ∀ f ∈ new, f.1 = c.hot.nextMessageId) (hnodup : new.Nodup) : Issues c c' new
  | state (hid : c'.hot.nextMessageId = c.hot.nextMessageId + 1)
      (htable : c'.hot.scheduler.tableIds ⊆ insert c.hot.nextMessageId c.hot.scheduler.tableIds) :
      Issues c c' 0

omit [CryptoSuite] in
/-- **The fragment loop of a reliable send.** -/
theorem enqueueFragments_issues (c : GtpConnection) {class' : MessageClass}
    (hclass : class'.isReliable = true) (payload : List UInt8) (priority : PriorityTier)
    (deadline : Option MonotonicTime) (now : MonotonicTime) {total : Nat}
    (htotal : messageFragmentCount payload.length c.maxMessagePayload = .ok total)
    (c1 : GtpConnection) (hsched : c1.hot.scheduler = c.hot.scheduler)
    (hconfig : c1.config = c.config) (hid : c1.hot.nextMessageId = c.hot.nextMessageId + 1) :
    let new := admitted now c.hot.scheduler (c.offered class' payload priority deadline now)
    let c' := (c1.enqueueFragments c.hot.nextMessageId class' payload priority deadline total now).2
    c'.hot.scheduler.queued = c.hot.scheduler.queued + new ∧ Issues c c' new := by
  dsimp only
  obtain ⟨hitems, hnodup⟩ := c.offered_fragments hclass payload priority deadline now
  have hle := admitted_le now c.hot.scheduler (c.offered class' payload priority deadline now)
  have hmax : c1.maxMessagePayload = c.maxMessagePayload := by
    rw [maxMessagePayload, maxMessagePayload, hconfig]
  have hall := enqueueAll_admitted now (c.offered class' payload priority deadline now)
    (fun item hitem => ⟨_, hitems item hitem⟩) c1
  have hframe := enqueueAll_frame now (c.offered class' payload priority deadline now) c1
  have hloop : (c1.enqueueFragments c.hot.nextMessageId class' payload priority deadline total
      now).2 = (enqueueAll now c1 (c.offered class' payload priority deadline now)).2 := by
    unfold enqueueFragments offered
    rw [hmax, htotal]
    cases chunks c.maxMessagePayload payload with
    | none => rfl
    | some pieces => rfl
  obtain ⟨s, hs⟩ := hframe
  rw [hsched] at hall
  rw [hloop]
  refine ⟨hall.1, .message ?_ ?_ ?_ (Multiset.nodup_of_le hle hnodup)⟩
  · rw [hs]
    exact hid
  · rw [GameScheduler.tableIds, hall.2]
    rfl
  · intro f hf
    obtain ⟨item, hitem, hfrag⟩ := mem_fragmentsOf.mp (Multiset.mem_of_le hle hf)
    rw [hitems item hitem] at hfrag
    exact (congrArg Prod.fst (Option.some.inj hfrag)).symm

omit [CryptoSuite] in
/-- **A single send**: its item is no fragment, and the eviction it may cause takes none. -/
theorem sendSingle_issues {c : GtpConnection} {class' : MessageClass}
    (hclass : class'.isReliable = false)
    (hids : ∀ f ∈ c.hot.scheduler.queued, f.1 ∉ c.hot.scheduler.tableIds) (payload : List UInt8)
    (priority : PriorityTier) (deadline : Option MonotonicTime) (now : MonotonicTime) :
    (c.sendSingle class' payload priority deadline now).2.hot.scheduler.queued =
        c.hot.scheduler.queued ∧
      Issues c (c.sendSingle class' payload priority deadline now).2 0 := by
  unfold sendSingle
  split
  · exact ⟨rfl, .nothing rfl rfl⟩
  · have hnone : ({
        messageId := c.hot.nextMessageId, class', priority, createdAt := now, deadline
        supersedable := true, payload, fragmentId := 0, totalFragments := 1 } :
          SchedulableItem).fragment? = none :=
      if_neg (by rw [hclass]; exact Bool.false_ne_true)
    obtain ⟨hqueued, htable⟩ := GameScheduler.enqueue_other hnone hids now
    exact ⟨hqueued, .state rfl htable⟩

/-! ## 5. Runs -/

omit [CryptoSuite] in
/-- The books of a call. -/
structure Booked (c c' : GtpConnection) (accepted acknowledged stale refused : Multiset Fragment) :
    Prop where
  balance : c.held + accepted = c'.held + (acknowledged + stale + refused)
  staleDrops : c.cold.totalStaleDrops + stale.card ≤ c'.cold.totalStaleDrops
  droppedFrames : c.cold.totalDroppedFrames + refused.card ≤ c'.cold.totalDroppedFrames
  issues : Issues c c' accepted

omit [CryptoSuite] in
theorem Moved.booked {c c' : GtpConnection} {a s r : Multiset Fragment} (h : Moved c c' a s r) :
    Booked c c' 0 a s r := by
  refine ⟨?_, h.staleDrops, h.droppedFrames, .nothing h.nextMessageId ?_⟩
  · rw [add_zero]
    exact h.balance
  · rw [GameScheduler.tableIds, h.stateTable]
    rfl

omit [CryptoSuite] in
/-- A send touches the scheduler and the message ids. -/
theorem Booked.of_send {c c' : GtpConnection} {new : Multiset Fragment}
    (hqueued : c'.hot.scheduler.queued = c.hot.scheduler.queued + new) (hissues : Issues c c' new)
    (hdet : c'.hot.lossDetector = c.hot.lossDetector) (hcold : c'.cold = c.cold) :
    Booked c c' new 0 0 0 := by
  refine ⟨?_, ?_, ?_, hissues⟩
  · rw [held, held, hqueued, hdet]
    abel
  · rw [hcold]
    exact le_rfl
  · rw [hcold]
    exact le_rfl

omit [CryptoSuite] in
theorem Moved.changeState {c c' : GtpConnection} {a s r : Multiset Fragment} (h : Moved c c' a s r)
    (next : ConnectionState) : Moved c (c'.changeState next).2 a s r := by
  unfold GtpConnection.changeState
  split
  · exact h
  · refine Moved.pushEvent ?_ _
    exact h.congr rfl rfl le_rfl le_rfl rfl

omit [CryptoSuite] in
/-- A send that is not split is no fragment. -/
theorem sendSingle_booked {c : GtpConnection} {class' : MessageClass}
    (hclass : class'.isReliable = false)
    (hids : ∀ f ∈ c.hot.scheduler.queued, f.1 ∉ c.hot.scheduler.tableIds) (payload : List UInt8)
    (priority : PriorityTier) (deadline : Option MonotonicTime) (now : MonotonicTime) :
    Booked c (c.sendSingle class' payload priority deadline now).2 0 0 0 0 := by
  obtain ⟨hqueued, hissues⟩ := sendSingle_issues hclass hids payload priority deadline now
  obtain ⟨s, id, hframe⟩ := c.sendSingle_frame class' payload priority deadline now
  refine Booked.of_send (hqueued.trans (add_zero _).symm) hissues ?_ ?_
  · rw [hframe]
  · rw [hframe]

omit [CryptoSuite] in
/-- The fragment loop of a reliable send, on the connection `c1` that has counted the message, adds
the fragments that are admitted. -/
theorem enqueueFragments_booked {c c1 : GtpConnection} {class' : MessageClass}
    (hclass : class'.isReliable = true) (payload : List UInt8) (priority : PriorityTier)
    (deadline : Option MonotonicTime) (now : MonotonicTime) {total : Nat}
    (htotal : messageFragmentCount payload.length c.maxMessagePayload = .ok total)
    (hsched : c1.hot.scheduler = c.hot.scheduler) (hconfig : c1.config = c.config)
    (hid : c1.hot.nextMessageId = c.hot.nextMessageId + 1)
    (hdet : c1.hot.lossDetector = c.hot.lossDetector) (hcold : c1.cold = c.cold) :
    Booked c
      (c1.enqueueFragments c.hot.nextMessageId class' payload priority deadline total now).2
      (admitted now c.hot.scheduler (c.offered class' payload priority deadline now)) 0 0 0 := by
  obtain ⟨hqueued, hissues⟩ := c.enqueueFragments_issues hclass payload priority deadline now
    htotal c1 hsched hconfig hid
  obtain ⟨s, hframe⟩ := enqueueFragments_frame c1 c.hot.nextMessageId class' payload priority
    deadline total now
  refine Booked.of_send hqueued hissues ?_ ?_
  · rw [hframe]
    exact hdet
  · rw [hframe]
    exact hcold

/-- **Every call.** -/
theorem step_booked {c : GtpConnection} (hcount : c.hot.scheduler.Counted) (hnum : c.Numbered)
    (hids : ∀ f ∈ c.held, f.1 ∉ c.hot.scheduler.tableIds) (op : Op) :
    Booked c (c.step op) (c.acceptedBy op) (c.acknowledgedBy op) (c.staleBy op) (c.refusedBy op) := by
  have hids' : ∀ f ∈ c.hot.scheduler.queued, f.1 ∉ c.hot.scheduler.tableIds :=
    fun f hf => hids f (Multiset.mem_add.mpr (Or.inl hf))
  have hquiet : ∀ c' : GtpConnection, c'.hot.scheduler = c.hot.scheduler →
      c'.hot.lossDetector = c.hot.lossDetector → c'.cold.totalStaleDrops = c.cold.totalStaleDrops →
      c'.cold.totalDroppedFrames = c.cold.totalDroppedFrames →
      c'.hot.nextMessageId = c.hot.nextMessageId → Booked c c' 0 0 0 0 := by
    intro c' hsched hdet hstale hdrop hid
    refine ((Moved.refl c).congr hsched ?_ hstale.ge hdrop.ge hid).booked
    rw [hdet]
  cases op with
  | sendUnreliable payload priority deadline now =>
    exact sendSingle_booked rfl hids' payload priority deadline now
  | sendSequenced key seq gen deadline payload now =>
    exact sendSingle_booked rfl hids' payload .p2WorldState deadline now
  | sendReliableUnordered payload priority deadline now =>
    unfold step sendReliableUnordered
    dsimp only
    split
    · rename_i e herr
      have hnone : c.acceptedBy (.sendReliableUnordered payload priority deadline now) = 0 := by
        have herr' : messageFragmentCount payload.length c.maxMessagePayload = .error e := herr
        simp only [acceptedBy, offered, herr', admitted]
      rw [hnone]
      refine Booked.of_send (add_zero _).symm (.message rfl rfl ?_ Multiset.nodup_zero) rfl rfl
      exact fun f hf => absurd hf (Multiset.notMem_zero f)
    · rename_i total htotal
      exact enqueueFragments_booked rfl payload priority deadline now htotal rfl rfl rfl rfl rfl
  | sendReliableOrdered g payload priority deadline now =>
    unfold step sendReliableOrdered
    dsimp only
    split
    · rename_i e herr
      have hnone : c.acceptedBy (.sendReliableOrdered g payload priority deadline now) = 0 := by
        simp only [acceptedBy, offered, herr, admitted]
      rw [hnone]
      exact hquiet c rfl rfl rfl rfl rfl
    · rename_i total htotal
      exact enqueueFragments_booked rfl payload priority deadline now htotal rfl rfl rfl rfl rfl
  | handleIncoming src dg now ecn => exact (c.handle_moved src dg now ecn).booked
  | produce now outBuf => exact (produce_moved hcount hnum now outBuf).booked
  | gracefulClose code reason =>
    have hqueued : Moved c (c.queueControl (.close code reason)) 0 0 0 :=
      (Moved.refl c).congr rfl rfl le_rfl le_rfl rfl
    exact (hqueued.changeState .draining).booked
  | forceClose => exact ((Moved.refl c).changeState .closed).booked
  | ratchetKey =>
    obtain ⟨keys, n, hframe⟩ := c.hot.ratchetSessionKey_frame
    refine hquiet _ ?_ ?_ rfl rfl ?_
    · simp only [step, hframe]
    · simp only [step, hframe]
    · simp only [step, hframe]
  | initiateKeyUpdate =>
    obtain ⟨queue, pending, hframe⟩ := c.hot.ratchetAndAnnounce_frame
    refine hquiet _ ?_ ?_ rfl rfl ?_
    · simp only [step, initiateKeyUpdate, hframe]
    · simp only [step, initiateKeyUpdate, hframe]
    · simp only [step, initiateKeyUpdate, hframe]
  | feedRouteStats id stats =>
    rw [step, feedRouteStats]
    split
    · exact hquiet _ rfl rfl rfl rfl rfl
    · exact hquiet _ rfl rfl rfl rfl rfl
  | _ => exact hquiet _ rfl rfl rfl rfl rfl

theorem step_nextPacketNumber_le (c : GtpConnection) (op : Op) :
    (c.step op).hot.nextPacketNumber.toNat ≤ c.hot.nextPacketNumber.toNat + 1 := by
  have hnext : (PacketNumber.next c.hot.nextPacketNumber).toNat ≤
      c.hot.nextPacketNumber.toNat + 1 := by
    simp only [PacketNumber.next, UInt64.toNat_add, UInt64.toNat_one]
    exact Nat.mod_le _ _
  obtain ⟨hstep, -⟩ := c.step_packetNumber op
  rw [hstep]
  split
  · exact hnext
  · exact Nat.le_succ _

/-- Outstanding packets keep numbers below the next one. -/
theorem Numbered.step {c : GtpConnection} (h : c.Numbered)
    (hbound : c.hot.nextPacketNumber.toNat + 1 < 2 ^ 64) (op : Op) : (c.step op).Numbered := by
  by_cases hin : ∃ src dg now ecn, op = .handleIncoming src dg now ecn
  · obtain ⟨src, dg, now, ecn, rfl⟩ := hin
    obtain ⟨hstep, -⟩ := handle_path h src dg now ecn
    intro pn r hr
    rw [GtpConnection.step, hstep.number]
    exact h pn r (hstep.records.sub pn r hr)
  · have hout : ∀ src dg now ecn, op ≠ .handleIncoming src dg now ecn :=
      fun src dg now ecn heq => hin ⟨src, dg, now, ecn, heq⟩
    exact (c.step_path hout).numbered h fun _ _ _ => hbound

/-- The invariant of the books: after `t` calls that accepted `accepted`, of which `gone` is
settled. -/
structure Books (t : Nat) (accepted gone : Multiset Fragment) (c : GtpConnection) : Prop where
  counted : c.hot.scheduler.Counted
  numbered : c.Numbered
  packetNumber : c.hot.nextPacketNumber.toNat ≤ t + 1
  messageId : c.hot.nextMessageId.toNat ≤ t + 1
  balance : accepted = c.held + gone
  nodup : accepted.Nodup
  acceptedIds : ∀ f ∈ accepted, f.1.toNat < c.hot.nextMessageId.toNat
  tableIds : ∀ id ∈ c.hot.scheduler.tableIds, id.toNat < c.hot.nextMessageId.toNat
  apart : ∀ f ∈ c.held, f.1 ∉ c.hot.scheduler.tableIds

omit [CryptoSuite] in
theorem Setup.start_books (s : Setup) : Books 0 0 0 s.start := by
  have hheld : s.start.held = 0 := rfl
  have htable : s.start.hot.scheduler.tableIds = ∅ := by
    refine Set.eq_empty_of_forall_notMem ?_
    rintro id ⟨k, e, he, -⟩
    have hempty : (∅ : Std.ExtTreeMap Nat (GenerationId × StateSequence × MessageId) compare)[k]? =
      some e := he
    simp at hempty
  refine ⟨GameScheduler.counted_new _, s.start_pathInv.numbered, le_rfl, le_rfl, ?_,
    Multiset.nodup_zero, ?_, ?_, ?_⟩
  · rw [hheld]
    rfl
  · exact fun f hf => absurd hf (Multiset.notMem_zero f)
  · rw [htable]
    exact fun id hid => hid.elim
  · rw [hheld]
    exact fun f hf => absurd hf (Multiset.notMem_zero f)

/-- **One call** keeps the books. -/
theorem Books.step {t : Nat} {accepted gone : Multiset Fragment} {c : GtpConnection}
    (h : Books t accepted gone c) (ht : t + 2 < 2 ^ 64) (op : Op) :
    Books (t + 1) (accepted + c.acceptedBy op)
      (gone + (c.acknowledgedBy op + c.staleBy op + c.refusedBy op)) (c.step op) := by
  have hpn := h.packetNumber
  have hbook := step_booked h.counted h.numbered h.apart op
  have hnext := c.step_nextPacketNumber_le op
  have hheld : ∀ f ∈ (c.step op).held, f ∈ c.held ∨ f ∈ c.acceptedBy op := by
    intro f hf
    rw [← Multiset.mem_add, hbook.balance]
    exact Multiset.mem_add.mpr (Or.inl hf)
  have hold : ∀ f ∈ c.held, f ∈ accepted := by
    intro f hf
    rw [h.balance]
    exact Multiset.mem_add.mpr (Or.inl hf)
  have hcounted : (c.step op).hot.scheduler.Counted :=
    step_scheduler GameScheduler.closed_counted h.counted op
  have hnumbered : (c.step op).Numbered := h.numbered.step (by omega) op
  have hbalance : accepted + c.acceptedBy op = (c.step op).held +
      (gone + (c.acknowledgedBy op + c.staleBy op + c.refusedBy op)) := by
    rw [h.balance, add_right_comm, hbook.balance]
    abel
  have hid : c.hot.nextMessageId.toNat + 1 < 2 ^ 64 := by
    have := h.messageId
    omega
  have hsucc : (c.hot.nextMessageId + 1).toNat = c.hot.nextMessageId.toNat + 1 := by
    rw [UInt64.toNat_add, UInt64.toNat_one, Nat.mod_eq_of_lt hid]
  have hissues := hbook.issues
  generalize c.acceptedBy op = new at hissues hheld hbalance ⊢
  cases hissues with
  | nothing hsame htable =>
    refine ⟨hcounted, hnumbered, by omega, ?_, hbalance, ?_, ?_, ?_, ?_⟩
    · rw [hsame]
      exact h.messageId.trans (Nat.le_succ _)
    · rw [add_zero]
      exact h.nodup
    · rw [add_zero, hsame]
      exact h.acceptedIds
    · rw [htable, hsame]
      exact h.tableIds
    · intro f hf
      rw [htable]
      exact h.apart f ((hheld f hf).resolve_right (Multiset.notMem_zero f))
  | message hnew htable hids hnodup =>
    refine ⟨hcounted, hnumbered, by omega, ?_, hbalance, ?_, ?_, ?_, ?_⟩
    · rw [hnew, hsucc]
      exact Nat.succ_le_succ h.messageId
    · refine Multiset.nodup_add.mpr ⟨h.nodup, hnodup, Multiset.disjoint_left.mpr ?_⟩
      intro f hf hf'
      have hlt := h.acceptedIds f hf
      rw [hids f hf'] at hlt
      exact Nat.lt_irrefl _ hlt
    · intro f hf
      rw [hnew, hsucc]
      rcases Multiset.mem_add.mp hf with hf | hf
      · exact (h.acceptedIds f hf).trans (Nat.lt_succ_self _)
      · rw [hids f hf]
        exact Nat.lt_succ_self _
    · intro id hid'
      rw [htable] at hid'
      rw [hnew, hsucc]
      exact (h.tableIds id hid').trans (Nat.lt_succ_self _)
    · intro f hf
      rw [htable]
      rcases hheld f hf with hf | hf
      · exact h.apart f hf
      · intro hmem
        have hlt := h.tableIds _ hmem
        rw [hids f hf] at hlt
        exact Nat.lt_irrefl _ hlt
  | state hnew htable =>
    refine ⟨hcounted, hnumbered, by omega, ?_, hbalance, ?_, ?_, ?_, ?_⟩
    · rw [hnew, hsucc]
      exact Nat.succ_le_succ h.messageId
    · rw [add_zero]
      exact h.nodup
    · intro f hf
      rw [add_zero] at hf
      rw [hnew, hsucc]
      exact (h.acceptedIds f hf).trans (Nat.lt_succ_self _)
    · intro id hid'
      rw [hnew, hsucc]
      rcases htable hid' with rfl | hid'
      · exact Nat.lt_succ_self _
      · exact (h.tableIds id hid').trans (Nat.lt_succ_self _)
    · intro f hf
      have hf := (hheld f hf).resolve_right (Multiset.notMem_zero f)
      intro hmem
      rcases htable hmem with heq | hmem
      · have hlt := h.acceptedIds f (hold f hf)
        rw [heq] at hlt
        exact Nat.lt_irrefl _ hlt
      · exact h.apart f hf hmem

/-- **A run** keeps the books. -/
theorem Books.run {t : Nat} {accepted gone : Multiset Fragment} {c : GtpConnection}
    (h : Books t accepted gone c) (ops : List Op) (ht : t + ops.length + 1 < 2 ^ 64) :
    Books (t + ops.length) (accepted + sumOver acceptedBy c ops)
      (gone + (sumOver acknowledgedBy c ops + sumOver staleBy c ops + sumOver refusedBy c ops))
      (c.run ops) := by
  induction ops generalizing t accepted gone c with
  | nil =>
    change Books t (accepted + 0) (gone + (0 + 0 + 0)) c
    rw [add_zero, add_zero, add_zero, add_zero]
    exact h
  | cons op ops ih =>
    rw [List.length_cons] at ht ⊢
    have hsum : ∀ g : GtpConnection → Op → Multiset Fragment,
        sumOver g c (op :: ops) = g c op + sumOver g (c.step op) ops := fun g => List.sum_cons
    have hrest := ih (h.step (by omega) op) (by omega)
    rw [hsum, hsum, hsum, hsum]
    have htime : t + (ops.length + 1) = t + 1 + ops.length := by omega
    have hacc : accepted + (c.acceptedBy op + sumOver acceptedBy (c.step op) ops) =
        accepted + c.acceptedBy op + sumOver acceptedBy (c.step op) ops := (add_assoc _ _ _).symm
    have hgone : gone + (c.acknowledgedBy op + sumOver acknowledgedBy (c.step op) ops +
          (c.staleBy op + sumOver staleBy (c.step op) ops) +
          (c.refusedBy op + sumOver refusedBy (c.step op) ops)) =
        gone + (c.acknowledgedBy op + c.staleBy op + c.refusedBy op) +
          (sumOver acknowledgedBy (c.step op) ops + sumOver staleBy (c.step op) ops +
            sumOver refusedBy (c.step op) ops) := by abel
    rw [htime, hacc, hgone]
    exact hrest

/-- **Conservation.**  In every run with fewer than 2^64 - 1 calls: every reliable fragment that the
scheduler accepted is one item of one tier, or one frame of one record, or was acknowledged, or
expired, or was refused -- one of these, and once; and every call that drops fragments raises the
counter by at least their number.

Acknowledged is what the peer says: see `reliable_custody` for what it had then.  The counters also
count other frames, which is why they are bounded from below only. -/
theorem fragments_conserved (s : Setup) (ops : List Op) (hcalls : ops.length < 2 ^ 64 - 1) :
    (∀ f ∈ sumOver acceptedBy s.start ops,
      (s.start.run ops).hot.scheduler.queued.count f +
        (s.start.run ops).hot.lossDetector.outstanding.count f +
        (sumOver acknowledgedBy s.start ops).count f + (sumOver staleBy s.start ops).count f +
        (sumOver refusedBy s.start ops).count f = 1) ∧
    ∀ before op after, ops = before ++ op :: after →
      let c := s.start.run before
      c.cold.totalStaleDrops + (c.staleBy op).card ≤ (c.step op).cold.totalStaleDrops ∧
        c.cold.totalDroppedFrames + (c.refusedBy op).card ≤
          (c.step op).cold.totalDroppedFrames := by
  refine ⟨fun f hf => ?_, fun before op after hops => ?_⟩
  · have hbooks := s.start_books.run ops (by omega)
    have hcount := congrArg (Multiset.count f) hbooks.balance
    have hnodup := hbooks.nodup
    rw [zero_add] at hcount hnodup
    rw [Multiset.count_eq_one_of_mem hnodup hf, zero_add, held, Multiset.count_add,
      Multiset.count_add, Multiset.count_add, Multiset.count_add] at hcount
    omega
  · have hlen : before.length < ops.length := by
      rw [hops, List.length_append, List.length_cons]
      omega
    have hbooks := s.start_books.run before (by omega)
    have hbook := step_booked hbooks.counted hbooks.numbered hbooks.apart op
    exact ⟨hbook.staleDrops, hbook.droppedFrames⟩

theorem run_append (c : GtpConnection) (ops ops' : List Op) :
    c.run (ops ++ ops') = (c.run ops).run ops' :=
  List.foldl_append

theorem sumOver_append (g : GtpConnection → Op → Multiset Fragment) (c : GtpConnection)
    (ops ops' : List Op) : sumOver g c (ops ++ ops') = sumOver g c ops + sumOver g (c.run ops) ops' := by
  induction ops generalizing c with
  | nil => exact (zero_add _).symm
  | cons op ops ih =>
    have hsum : ∀ rest, sumOver g c (op :: rest) = g c op + sumOver g (c.step op) rest :=
      fun rest => List.sum_cons
    rw [List.cons_append, hsum, hsum, ih, add_assoc]
    rfl

omit [CryptoSuite] in
/-- A send without a byte: it is refused, and its message id is gone. -/
def emptySend : Op := .sendReliableUnordered [] .p1Input none 0

omit [CryptoSuite] in
theorem messageFragmentCount_zero (budget : Nat) : ∃ e, messageFragmentCount 0 budget = .error e := by
  have hzero : (0 + max budget 1 - 1) / max budget 1 = 0 := Nat.div_eq_of_lt (by omega)
  refine ⟨.payloadTooLarge (max budget 1 * 65535), ?_⟩
  unfold messageFragmentCount
  dsimp only
  rw [hzero, if_pos (Or.inl rfl)]

theorem step_emptySend (c : GtpConnection) :
    c.step emptySend = { c with hot.nextMessageId := c.hot.nextMessageId + 1 } := by
  obtain ⟨e, he⟩ := messageFragmentCount_zero c.maxMessagePayload
  unfold emptySend step sendReliableUnordered
  dsimp only
  split
  · rfl
  · rename_i total htotal
    have hok : messageFragmentCount 0 c.maxMessagePayload = .ok total := htotal
    rw [he] at hok
    cases hok

omit [CryptoSuite] in
theorem acceptedBy_emptySend (c : GtpConnection) : c.acceptedBy emptySend = 0 := by
  obtain ⟨e, he⟩ := messageFragmentCount_zero c.maxMessagePayload
  simp only [emptySend, acceptedBy, offered, List.length_nil, he, admitted]

theorem sumOver_replicate {g : GtpConnection → Op → Multiset Fragment} {op : Op}
    (hg : ∀ c : GtpConnection, g c op = 0) (n : Nat) (c : GtpConnection) :
    sumOver g c (List.replicate n op) = 0 := by
  induction n generalizing c with
  | zero => rfl
  | succ n ih =>
    rw [List.replicate_succ]
    change g c op + sumOver g (c.step op) (List.replicate n op) = 0
    rw [hg, ih, add_zero]

/-- Empty sends use message ids up, and do nothing else. -/
theorem run_emptySends (n : Nat) (c : GtpConnection) :
    c.run (List.replicate n emptySend) =
      { c with hot.nextMessageId := c.hot.nextMessageId + UInt64.ofNat n } := by
  induction n generalizing c with
  | zero =>
    have hzero : c.hot.nextMessageId + UInt64.ofNat 0 = c.hot.nextMessageId := UInt64.add_zero _
    rw [hzero]
    rfl
  | succ n ih =>
    have hadd : c.hot.nextMessageId + 1 + UInt64.ofNat n =
        c.hot.nextMessageId + UInt64.ofNat (n + 1) := by
      rw [UInt64.ofNat_add, UInt64.add_assoc, UInt64.add_comm 1]
      rfl
    rw [List.replicate_succ]
    change (c.step emptySend).run (List.replicate n emptySend) = _
    rw [ih, step_emptySend]
    dsimp only
    rw [hadd]

end GtpConnection

/-! ## 6. On concrete connections -/

namespace GtpConnection

attribute [local instance] keyTagSuite

/-- A message is sent off, and another one queued. -/
def twoMessages : List Op :=
  [.sendReliableUnordered [1] .p1Input none 10, .produce 10 (List.replicate 200 0),
    .sendReliableUnordered [2] .p1Input none 10]

/-- The theorem at a run that leaves one fragment outstanding and one queued. -/
theorem fragments_conserved_twoMessages :
    ((sampleSetup true).start.run twoMessages).hot.lossDetector.outstanding = {(1, 0)} ∧
      ((sampleSetup true).start.run twoMessages).hot.scheduler.queued = {(2, 0)} ∧
      ∀ f ∈ sumOver acceptedBy (sampleSetup true).start twoMessages,
        ((sampleSetup true).start.run twoMessages).hot.scheduler.queued.count f +
          ((sampleSetup true).start.run twoMessages).hot.lossDetector.outstanding.count f +
          (sumOver acknowledgedBy (sampleSetup true).start twoMessages).count f +
          (sumOver staleBy (sampleSetup true).start twoMessages).count f +
          (sumOver refusedBy (sampleSetup true).start twoMessages).count f = 1 := by
  refine ⟨by decide +kernel, by decide +kernel, ?_⟩
  exact (fragments_conserved (sampleSetup true) twoMessages (by decide)).1

/-- A state of an entity, as many sends as there are message ids less one, and then a reliable
message whose id is that of the first send and a newer state of the entity. -/
def wrappingCalls : List Op :=
  [.sendSequenced ⟨1, 0⟩ 0 0 none [0] 10] ++ (List.replicate (2 ^ 64 - 1) emptySend ++
    [.sendReliableUnordered [1] .p2WorldState none 10, .sendSequenced ⟨1, 0⟩ 1 0 none [0] 10])

/-- The first state is queued, and the next id is the first one again. -/
def wrapped : GtpConnection :=
  let c := (sampleSetup true).start.run [.sendSequenced ⟨1, 0⟩ 0 0 none [0] 10]
  { c with hot.nextMessageId := 1 }

theorem run_to_wrapped :
    ((sampleSetup true).start.run [.sendSequenced ⟨1, 0⟩ 0 0 none [0] 10]).run
      (List.replicate (2 ^ 64 - 1) emptySend) = wrapped := by
  obtain ⟨c, hc⟩ : ∃ c, c = (sampleSetup true).start.run [.sendSequenced ⟨1, 0⟩ 0 0 none [0] 10] :=
    ⟨_, rfl⟩
  have hid : c.hot.nextMessageId + UInt64.ofNat (2 ^ 64 - 1) = 1 := by
    rw [hc]
    decide +kernel
  have hwrapped : wrapped = { c with hot.nextMessageId := 1 } := by
    rw [hc]
    rfl
  rw [← hc, run_emptySends, hid, hwrapped]

theorem run_wrappingCalls : (sampleSetup true).start.run wrappingCalls =
    wrapped.run [.sendReliableUnordered [1] .p2WorldState none 10,
      .sendSequenced ⟨1, 0⟩ 1 0 none [0] 10] := by
  unfold wrappingCalls
  rw [run_append, run_append, run_to_wrapped]

theorem sumOver_wrappingCalls (g : GtpConnection → Op → Multiset Fragment)
    (hg : ∀ c : GtpConnection, g c emptySend = 0) :
    sumOver g (sampleSetup true).start wrappingCalls =
      sumOver g (sampleSetup true).start [.sendSequenced ⟨1, 0⟩ 0 0 none [0] 10] +
        sumOver g wrapped [.sendReliableUnordered [1] .p2WorldState none 10,
          .sendSequenced ⟨1, 0⟩ 1 0 none [0] 10] := by
  unfold wrappingCalls
  rw [sumOver_append, sumOver_append, sumOver_replicate hg, zero_add, run_to_wrapped]

/-- **The counter wraps.**  The newer state evicts the item with the id of the older one, and this
is now the reliable fragment: it was accepted, it is nowhere, and no counter moved. -/
theorem fragment_lost_after_wrap :
    (1, 0) ∈ sumOver acceptedBy (sampleSetup true).start wrappingCalls ∧
      ((sampleSetup true).start.run wrappingCalls).hot.scheduler.queued.count (1, 0) = 0 ∧
      ((sampleSetup true).start.run wrappingCalls).hot.lossDetector.outstanding.count (1, 0) = 0 ∧
      (sumOver acknowledgedBy (sampleSetup true).start wrappingCalls).count (1, 0) = 0 ∧
      ((sampleSetup true).start.run wrappingCalls).cold.totalStaleDrops = 0 ∧
      ((sampleSetup true).start.run wrappingCalls).cold.totalDroppedFrames = 0 := by
  rw [run_wrappingCalls, sumOver_wrappingCalls acceptedBy acceptedBy_emptySend,
    sumOver_wrappingCalls acknowledgedBy (fun _ => rfl)]
  decide +kernel

end GtpConnection

end Gtp
