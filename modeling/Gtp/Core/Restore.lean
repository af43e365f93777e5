/-
# A datagram that is not sent

Control frames and items leave their queues while a datagram is drafted, and four exits -- length,
tag, seal, amplification -- give it up afterwards.  They put everything back: the counters of the
scheduler are exact in every reachable state, and right after `prune_stale` nothing is expired, so
`requeue` finds the room that `pop_next` left and cannot fail.

* `takeItems_restores` undoes the data loop, by induction on its turns; `assemble_putBack` undoes
  the draft.
* `unsent_restores` compares with two states.  What only sending may change -- the control queue,
  the packet number, the ACK tracker, the close flag and the pending ratchet -- is as it was when
  the call came in.  The tiers, the records and the drop counter are as they were right behind
  `prune_stale`: the probe timeout and the pruning come first in a call and are not undone, whether
  a datagram leaves or not.
* `overdue_call_fails` is a call that takes a record out, has no room for the copy of its frame, and
  then returns an error.

Deficits and the pointer of the round robin are not restored, and nothing reads them but the next
`pop_next`: the order in which tiers are served may differ from what it had been.
-/
import Gtp.Tiers
import Gtp.Core.Contents

namespace Gtp

/-! ## 1. The scheduler over runs -/

/-- What the operations of the scheduler keep that fill its tiers. -/
structure GameScheduler.Stable (P : GameScheduler → Prop) : Prop where
  enqueue : ∀ s item now, P s → P (s.enqueue item now).2
  requeue : ∀ s item now, P s → P (s.requeue item now).2
  pruneStale : ∀ s now, P s → P (s.pruneStale now).1

/-- What all four operations keep. -/
structure GameScheduler.Closed (P : GameScheduler → Prop) : Prop extends Stable P where
  popNext : ∀ s budget now, P s → P (s.popNext budget now).2

theorem GameScheduler.closed_counted : Closed Counted :=
  ⟨⟨fun _ item now h => h.enqueue item now, fun _ item now h => h.requeue item now,
    fun _ now h => h.pruneStale now⟩, fun _ budget now h => h.popNext budget now⟩

namespace GtpConnection

section Stable

variable {P : GameScheduler → Prop} (hP : GameScheduler.Stable P)

include hP

theorem retransmitAll_scheduler (now : MonotonicTime) (rs : List RetransmissionRecord)
    {c : GtpConnection} (h : P c.hot.scheduler) :
    P (rs.foldl (retransmit now) c).hot.scheduler := by
  induction rs generalizing c with
  | nil => exact h
  | cons r rs ih => exact ih (hP.enqueue _ _ _ h)

theorem onAckFrame_scheduler {c : GtpConnection} (h : P c.hot.scheduler) (l : PacketNumber)
    (d : UInt32) (r : AckRanges) (n : UInt8) (now : MonotonicTime) :
    P (c.onAckFrame l d r n now).hot.scheduler := by
  unfold onAckFrame
  rcases c.hot.lossDetector.onAckReceived l d r.toList n.toNat now with ⟨ld, ackEv, lossEv, x⟩
  dsimp only
  refine retransmitAll_scheduler hP now _ ?_
  split
  · exact h
  · exact h

theorem checkPto_scheduler {c : GtpConnection} (h : P c.hot.scheduler) (now : MonotonicTime) :
    P (c.checkPto now).hot.scheduler := by
  unfold checkPto
  dsimp only
  split
  · exact retransmitAll_scheduler hP now _ h
  · exact h

theorem prepare_scheduler {c : GtpConnection} (h : P c.hot.scheduler) (now : MonotonicTime) :
    P (c.prepare now).hot.scheduler :=
  hP.pruneStale _ now (checkPto_scheduler hP h now)

theorem putBack_scheduler {c : GtpConnection} (h : P c.hot.scheduler) (d : Draft)
    (now : MonotonicTime) : P (c.putBack d now).hot.scheduler := by
  unfold putBack
  dsimp only
  induction d.popped with
  | nil => exact h
  | cons item rest ih => exact hP.requeue _ item now ih

theorem enqueueAll_scheduler (now : MonotonicTime) (items : List SchedulableItem) {c : GtpConnection}
    (h : P c.hot.scheduler) : P (enqueueAll now c items).2.hot.scheduler := by
  induction items generalizing c with
  | nil => exact h
  | cons item rest ih =>
    have henq := hP.enqueue c.hot.scheduler item now h
    rw [enqueueAll, enqueueItem]
    generalize c.hot.scheduler.enqueue item now = r at henq ⊢
    obtain ⟨res, s⟩ := r
    cases res with
    | error e => exact henq
    | ok u => exact ih henq

theorem enqueueFragments_scheduler {c : GtpConnection} (h : P c.hot.scheduler) (msgId : MessageId)
    (class' : MessageClass) (payload : List UInt8) (priority : PriorityTier)
    (deadline : Option MonotonicTime) (total : Nat) (now : MonotonicTime) :
    P (c.enqueueFragments msgId class' payload priority deadline total now).2.hot.scheduler := by
  unfold enqueueFragments
  split
  · exact h
  · exact enqueueAll_scheduler hP now _ h

theorem sendSingle_scheduler {c : GtpConnection} (h : P c.hot.scheduler) (class' : MessageClass)
    (payload : List UInt8) (priority : PriorityTier) (deadline : Option MonotonicTime)
    (now : MonotonicTime) : P (c.sendSingle class' payload priority deadline now).2.hot.scheduler := by
  unfold sendSingle
  split
  · exact h
  · exact hP.enqueue _ _ now h

variable [CryptoSuite]

theorem dispatch_scheduler (src : SocketAddr) (now : MonotonicTime) {s : Dispatch}
    (h : P s.conn.hot.scheduler) (f : Frame) : P (dispatch src now s f).conn.hot.scheduler := by
  cases f with
  | ack l d r n e0 e1 ce => exact onAckFrame_scheduler hP h l d r n now
  | data id key seq gen dl p =>
    simp only [dispatch, countDrop_hot]
    exact h
  | reliableData id fid n g q p =>
    simp only [dispatch, countDrop_hot]
    exact h
  | retx id fid t p =>
    simp only [dispatch, countDrop_hot]
    exact h
  | pathChallenge token =>
    unfold dispatch
    dsimp only
    split
    · exact h
    · exact h
  | pathResponse token =>
    obtain ⟨path, amp, probe, pv, ld, owd, hresp⟩ := s.conn.onPathResponse_spec src token now
    simp only [dispatch, hresp]
    exact h
  | keyUpdate p proof =>
    obtain ⟨keys, n, hframe⟩ := s.conn.hot.onKeyUpdate_frame p
    simp only [dispatch, hframe]
    exact h
  | _ => exact h

theorem dispatchAll_scheduler (src : SocketAddr) (now : MonotonicTime) (items : List (Result Frame))
    {s : Dispatch} (h : P s.conn.hot.scheduler) :
    P (dispatchAll src now s items).conn.hot.scheduler := by
  induction items generalizing s with
  | nil => exact h
  | cons item rest ih =>
    cases item with
    | error e => exact h
    | ok f => exact ih (dispatch_scheduler hP src now h f)

theorem handle_scheduler {c : GtpConnection} (h : P c.hot.scheduler) (src : SocketAddr)
    (dg : List UInt8) (now : MonotonicTime) (ecn : UInt8) :
    P (c.handleIncomingDatagramWithEcn src dg now ecn).2.hot.scheduler := by
  by_cases hopen : ∃ hd pt, c.Opens dg hd pt
  · obtain ⟨hd, pt, hopen⟩ := hopen
    rw [hopen.handle src now ecn]
    obtain ⟨amp, probe, rx, owd, emit, hauth⟩ := onAuthenticated_spec { c with
      cold.totalRxPackets := c.cold.totalRxPackets + 1
      cold.totalRxBytes := c.cold.totalRxBytes + dg.length } hd src dg.length now
    generalize onAuthenticated { c with
      cold.totalRxPackets := c.cold.totalRxPackets + 1
      cold.totalRxBytes := c.cold.totalRxBytes + dg.length } hd src dg.length now = c1 at hauth ⊢
    have h1 : P c1.hot.scheduler := by
      rw [hauth]
      exact h
    have hall : P (dispatchAll src now ⟨c1, [], false, none, 0⟩
        (FrameIterator.collect pt)).conn.hot.scheduler := dispatchAll_scheduler hP src now _ h1
    unfold receiveFrames
    dsimp only
    split
    · exact hall
    · exact hall
  · have hnone : ∀ hd pt, ¬ c.Opens dg hd pt := fun hd pt h => hopen ⟨hd, pt, h⟩
    rw [(handle_unopened hnone src now ecn).1]
    exact h

/-- Only `produce_outgoing_datagram` takes anything out of the tiers. -/
theorem step_stable {c : GtpConnection} (h : P c.hot.scheduler) {op : Op}
    (hop : ∀ now outBuf, op ≠ .produce now outBuf) : P (c.step op).hot.scheduler := by
  cases op with
  | sendUnreliable payload priority deadline now => exact sendSingle_scheduler hP h _ _ _ _ now
  | sendSequenced key seq gen deadline payload now => exact sendSingle_scheduler hP h _ _ _ _ now
  | sendReliableUnordered payload priority deadline now =>
    unfold step sendReliableUnordered
    dsimp only
    split
    · exact h
    · refine enqueueFragments_scheduler hP ?_ _ _ _ _ _ _ now
      exact h
  | sendReliableOrdered g payload priority deadline now =>
    unfold step sendReliableOrdered
    dsimp only
    split
    · exact h
    · refine enqueueFragments_scheduler hP ?_ _ _ _ _ _ _ now
      exact h
  | handleIncoming src dg now ecn => exact handle_scheduler hP h src dg now ecn
  | produce now outBuf => exact absurd rfl (hop now outBuf)
  | gracefulClose code reason =>
    obtain ⟨state, hstate⟩ := (c.queueControl (.close code reason)).changeState_frame .draining
    rw [step, gracefulClose, hstate]
    exact h
  | forceClose =>
    obtain ⟨state, hstate⟩ := c.changeState_frame .closed
    rw [step, forceClose, hstate]
    exact h
  | ratchetKey =>
    obtain ⟨keys, n, hframe⟩ := c.hot.ratchetSessionKey_frame
    simp only [step, hframe]
    exact h
  | initiateKeyUpdate =>
    obtain ⟨queue, pending, hframe⟩ := c.hot.ratchetAndAnnounce_frame
    simp only [step, initiateKeyUpdate, hframe]
    exact h
  | feedRouteStats id stats =>
    rw [step, feedRouteStats]
    split
    · exact h
    · exact h
  | _ => exact h

end Stable

section Closed

variable {P : GameScheduler → Prop} (hP : GameScheduler.Closed P)

include hP

theorem fillData_scheduler (budget : Nat) (now : MonotonicTime) (fuel : Nat) (d : Draft)
    {c : GtpConnection} (h : P c.hot.scheduler) :
    P (fillData budget now fuel d c).2.hot.scheduler := by
  induction fuel generalizing d c with
  | zero => exact h
  | succ fuel ih =>
    rw [fillData]
    split
    · have hpop := hP.popNext c.hot.scheduler (min budget d.builder.remainingCapacity) now h
      generalize c.hot.scheduler.popNext (min budget d.builder.remainingCapacity) now = r at hpop ⊢
      obtain ⟨front, s⟩ := r
      cases front with
      | none => exact hpop
      | some item =>
        dsimp only
        split
        · exact ih _ hpop
        · exact hP.requeue s item now hpop
    · exact h

theorem assemble_scheduler {c : GtpConnection} (h : P c.hot.scheduler) (b : PacketBuilder)
    (now : MonotonicTime) : P (c.assemble b now).2.hot.scheduler := by
  unfold assemble
  rcases c.appendAck b now with ⟨ack, b1⟩
  dsimp only
  rcases drainControls c.hot.activePath ⟨b1, ack, [], none, []⟩ c.hot.controlQueue with ⟨d, rest⟩
  dsimp only
  split
  · exact fillData_scheduler hP _ now _ d h
  · exact h

variable [CryptoSuite]

theorem produce_scheduler {c : GtpConnection} (h : P c.hot.scheduler) (now : MonotonicTime)
    (outBuf : List UInt8) : P (c.produceOutgoingDatagram now outBuf).conn.hot.scheduler := by
  have hprep := prepare_scheduler hP.toStable h now
  have hexit := c.produce_exit now outBuf
  generalize c.produceOutgoingDatagram now outBuf = r at hexit ⊢
  cases hexit with
  | closed => exact h
  | drained => exact h
  | idle => exact hprep
  | short => exact hprep
  | refused hb => exact putBack_scheduler hP.toStable (assemble_scheduler hP hprep _ now) _ now
  | limited hb => exact putBack_scheduler hP.toStable (assemble_scheduler hP hprep _ now) _ now
  | @sent b len buf hb =>
    obtain ⟨keys, n, pending, controller, path, closed, hcommit⟩ :=
      ((c.prepare now).assemble b now).2.commit_frame ((c.prepare now).assemble b now).1 len now
    dsimp only
    rw [hcommit]
    exact assemble_scheduler hP hprep b now

theorem step_scheduler {c : GtpConnection} (h : P c.hot.scheduler) (op : Op) :
    P (c.step op).hot.scheduler := by
  by_cases hop : ∃ now outBuf, op = .produce now outBuf
  · obtain ⟨now, outBuf, rfl⟩ := hop
    exact produce_scheduler hP h now outBuf
  · exact step_stable hP.toStable h fun now outBuf heq => hop ⟨now, outBuf, heq⟩

/-- What holds of a new scheduler and survives its operations holds in every reachable state. -/
theorem Reachable.scheduler (hnew : ∀ caps, P (.withPerTierByteCaps caps)) {c : GtpConnection}
    (h : Reachable c) : P c.hot.scheduler := by
  refine h.induct (P := fun c => P c.hot.scheduler) ?_ ?_
  · intro s
    exact hnew s.hotConfig.maxQueueBytesPerTier
  · intro c op hc
    exact step_scheduler hP hc op

end Closed

/-- The counters of the scheduler are exact in every reachable state. -/
theorem Reachable.counted [CryptoSuite] {c : GtpConnection} (h : Reachable c) :
    c.hot.scheduler.Counted :=
  h.scheduler GameScheduler.closed_counted GameScheduler.counted_new

/-! ## 2. What was taken is given back -/

open GameScheduler

/-- An item that was taken off goes back, whatever became of the round robin in between. -/
theorem requeue_taken {s s' : GameScheduler} (h : s.Counted) {now : MonotonicTime}
    (hlive : s.Fresh now) {tier : Fin 5} {item : SchedulableItem} {rest : List SchedulableItem}
    (hq : s.queues tier = item :: rest) (hsame : SameQueues (s.pull tier item rest) s') :
    ∃ s'', s'.requeue item now = (.ok (), s'') ∧ SameQueues s s'' := by
  have hback : (s.pull tier item rest).requeue item now = (.ok (), s) := by
    refine requeue_pull h hq (hlive tier item ?_)
    rw [hq]
    exact List.mem_cons_self
  obtain ⟨hres, hsched⟩ := requeue_same hsame item now
  rw [hback] at hres hsched
  rcases hreq : s'.requeue item now with ⟨res, s''⟩
  rw [hreq] at hres hsched
  dsimp only at hres
  subst hres
  exact ⟨s'', rfl, hsched⟩

/-- **The data loop is undone.**  By induction on the turns: what the later turns took is given back
first, which leads to the queues right behind the first turn. -/
theorem takeItems_restores (budget : Nat) (now : MonotonicTime) (fuel room : Nat)
    {s : GameScheduler} (h : s.Counted) (hlive : s.Fresh now) :
    ∃ items s' s'', takeItems budget now fuel room s = (items, s', 0) ∧
      giveBack now items s' = (s'', 0) ∧ SameQueues s s'' := by
  induction fuel generalizing room s with
  | zero => exact ⟨[], s, s, rfl, rfl, .refl s⟩
  | succ fuel ih =>
    rw [takeItems]
    split
    · have hpops := popNext_pops hlive (min budget room)
      have hcount := h.popNext (min budget room) now
      generalize s.popNext (min budget room) now = r at hpops hcount ⊢
      cases hpops with
      | @nothing s1 hsame => exact ⟨[], s1, s1, rfl, rfl, hsame⟩
      | @front tier item rest s1 hq hsame =>
        dsimp only at hcount ⊢
        split
        · obtain ⟨items, s', s'', htake, hgive, hsame'⟩ :=
            ih (room - (itemFrame item).needed) hcount ((hlive.pull hq).same hsame)
          obtain ⟨s3, hreq, hs3⟩ := requeue_taken h hlive hq (hsame.trans hsame')
          refine ⟨item :: items, s', s3, ?_, ?_, hs3⟩
          · rw [htake]
          · simp only [giveBack, hgive, hreq]
        · obtain ⟨s3, hreq, hs3⟩ := requeue_taken h hlive hq hsame
          refine ⟨[], s3, s3, ?_, rfl, hs3⟩
          rw [hreq]
    · exact ⟨[], s, s, rfl, rfl, .refl s⟩

theorem planned_restores {c : GtpConnection} (h : c.hot.scheduler.Counted) {now : MonotonicTime}
    (hlive : c.hot.scheduler.Fresh now) (room : Nat) :
    ∃ items s' s'', c.plannedItems room now = (items, s', 0) ∧
      giveBack now items s' = (s'', 0) ∧ SameQueues c.hot.scheduler s'' := by
  rw [plannedItems]
  split
  · exact takeItems_restores _ now _ _ h hlive
  · exact ⟨[], c.hot.scheduler, c.hot.scheduler, rfl, rfl, .refl _⟩

/-- Putting a draft back is giving its items back. -/
theorem putBack_giveBack (c : GtpConnection) (d : Draft) (now : MonotonicTime) :
    c.putBack d now = { c with
      hot.controlQueue := d.drained ++ c.hot.controlQueue
      hot.scheduler := (giveBack now d.popped c.hot.scheduler).1
      cold.totalDroppedFrames := c.cold.totalDroppedFrames +
        (giveBack now d.popped c.hot.scheduler).2 } := by
  unfold putBack
  dsimp only
  induction d.popped with
  | nil => rfl
  | cons item rest ih =>
    rw [List.foldr_cons, ih, requeueItem, giveBack]
    dsimp only
    rcases giveBack now rest c.hot.scheduler with ⟨s, refused⟩
    dsimp only
    rcases s.requeue item now with ⟨res, s'⟩
    cases res with
    | ok u => rfl
    | error e => rfl

/-- Whatever a draft took, putting it back restores the state before the draft, up to the
bookkeeping of the round robin. -/
theorem assemble_putBack {c : GtpConnection} (h : c.hot.scheduler.Counted) {now : MonotonicTime}
    (hlive : c.hot.scheduler.Fresh now) {b : PacketBuilder} {header : PacketHeader}
    (hb : b.Carries header []) :
    ∃ s, (c.assemble b now).2.putBack (c.assemble b now).1 now = { c with hot.scheduler := s } ∧
      SameQueues c.hot.scheduler s := by
  have hass := c.assemble_spec hb now
  obtain ⟨-, hpopped, hsched, hdrop, -⟩ := c.assemble_planned hb now
  obtain ⟨items, s', s'', hplan, hgive, hsame⟩ := planned_restores h hlive b.remainingCapacity
  rw [hplan] at hpopped hsched hdrop
  dsimp only at hpopped hsched hdrop
  refine ⟨s'', ?_, hsame⟩
  rw [putBack_giveBack, hpopped, hsched, hgive, ← hass.queue, hdrop, hass.conn]
  rfl

/-! ## 3. The call -/

/-- The state of a call that gave its datagram up: the queues, their counters, the records and the
drop counter are those of `before`, the state right behind `prune_stale`; the rest that a datagram
would have written is as it was when the call came in. -/
structure Restored (c before after : GtpConnection) : Prop where
  controlQueue : after.hot.controlQueue = c.hot.controlQueue
  queues : after.hot.scheduler.queues = before.hot.scheduler.queues
  queueBytes : after.hot.scheduler.queueBytes = before.hot.scheduler.queueBytes
  queueItems : after.hot.scheduler.queueItems = before.hot.scheduler.queueItems
  sentPackets : after.hot.lossDetector.sentPackets = before.hot.lossDetector.sentPackets
  totalDroppedFrames : after.cold.totalDroppedFrames = before.cold.totalDroppedFrames
  nextPacketNumber : after.hot.nextPacketNumber = c.hot.nextPacketNumber
  ackTracker : after.hot.ackTracker = c.hot.ackTracker
  closeFrameSent : after.hot.closeFrameSent = c.hot.closeFrameSent
  pendingRatchet : after.hot.pendingRatchet = c.hot.pendingRatchet

theorem restored_of_same (c : GtpConnection) (now : MonotonicTime) {s : GameScheduler}
    (h : SameQueues (c.prepare now).hot.scheduler s) :
    Restored c (c.prepare now) { c.prepare now with hot.scheduler := s } := by
  obtain ⟨ld, cc, s0, pv, pac, cold, ev, hprep, -⟩ := c.prepare_spec now
  obtain ⟨deficits, accrued, pointer, rfl⟩ := h
  refine ⟨?_, rfl, rfl, rfl, rfl, rfl, ?_, ?_, ?_, ?_⟩ <;> rw [hprep]

/-- **A datagram that is not sent leaves no trace.** In every reachable state: a call that gets as
far as drafting a datagram and then returns an error or nothing has restored the control queue, the
tiers with their counters, the records, and everything else that sending would have changed.

What the probe timeout of the same call did stays, and so do deficits and the round-robin pointer.
-/
theorem unsent_restores [CryptoSuite] {c : GtpConnection} (hc : Reachable c) (now : MonotonicTime)
    (outBuf : List UInt8) (hbuilds : c.builds now)
    (hunsent : ∀ dest len,
      (c.produceOutgoingDatagram now outBuf).result ≠ .ok (some (dest, len))) :
    Restored c (c.prepare now) (c.produceOutgoingDatagram now outBuf).conn := by
  have hcount : (c.prepare now).hot.scheduler.Counted :=
    prepare_scheduler closed_counted.toStable hc.counted now
  have hlive : (c.prepare now).hot.scheduler.Fresh now := fresh_pruneStale _ now
  have hsame : Restored c (c.prepare now) (c.prepare now) := c.restored_of_same now (.refl _)
  have hback : ∀ b, PacketBuilder.new outBuf (nextHeader (c.prepare now).hot now) = .ok b →
      Restored c (c.prepare now) (((c.prepare now).assemble b now).2.putBack
        ((c.prepare now).assemble b now).1 now) := by
    intro b hb
    obtain ⟨s, hput, hs⟩ := assemble_putBack hcount hlive (new_nextHeader hb).1
    rw [hput]
    exact c.restored_of_same now hs
  have hexit := c.produce_exit now outBuf
  generalize c.produceOutgoingDatagram now outBuf = r at hexit hunsent ⊢
  cases hexit with
  | closed h => exact absurd h hbuilds.1
  | drained h => exact absurd h hbuilds.2.1
  | idle => exact hsame
  | short => exact hsame
  | refused hb => exact hback _ hb
  | limited hb => exact hback _ hb
  | sent => exact absurd rfl (hunsent _ _)

end GtpConnection

/-! ## 4. On a concrete connection -/

namespace GtpConnection

attribute [local instance] keyTagSuite

/-- A ping and a message, on a path that is not validated and has brought nothing in yet. -/
def unvalidatedConnection : GtpConnection :=
  ({ sampleSetup false with preValidated := false } : Setup).start.run
    [.sendPing 5, .sendReliableUnordered [1, 2, 3] .p1Input none 10]

/-- The theorem at a datagram with both, which the amplification limit refuses. -/
theorem unsent_restores_limited :
    (unvalidatedConnection.draft? 10 (List.replicate 100 0)).map Draft.frames =
        some [.ping 5, .reliableData 1 0 1 0 0 [1, 2, 3]] ∧
      Restored unvalidatedConnection (unvalidatedConnection.prepare 10)
        (unvalidatedConnection.produceOutgoingDatagram 10 (List.replicate 100 0)).conn := by
  have hnone : (unvalidatedConnection.produceOutgoingDatagram 10 (List.replicate 100 0)).result =
      .ok none := by decide +kernel
  have hreach : Reachable unvalidatedConnection := ⟨_, _, rfl⟩
  refine ⟨by decide +kernel, unsent_restores hreach 10 _ ?_ ?_⟩
  · exact ⟨by decide +kernel, by decide +kernel, by decide +kernel⟩
  · rw [hnone]
    intro dest len h
    cases h

/-- A packet is unacknowledged when its timeout comes, and its tier is full by then: 1133 of 1200
bytes. -/
def overdueConnection : GtpConnection :=
  ({ sampleSetup true with hotConfig :=
      { GtpConfig.default with maxQueueBytesPerTier := fun _ => 1200 } } : Setup).start.run
    [.sendReliableUnordered (List.replicate 100 0) .p3ReliableGameplay none 0,
      .produce 0 (List.replicate 1500 0),
      .sendReliableUnordered (List.replicate 1133 0) .p3ReliableGameplay none 500000,
      .sendReliableUnordered (List.replicate 295 0) .p0Control none 500000]

/-- **The timeout is not undone.**  Both messages are popped and do not leave the tag its room, so
the call fails; the record is gone all the same, and the copy of its frame has been dropped. -/
theorem overdue_call_fails :
    Reachable overdueConnection ∧
      (overdueConnection.draft? 500000 (List.replicate 1500 0)).map (·.popped.length) = some 2 ∧
      (overdueConnection.produceOutgoingDatagram 500000 (List.replicate 1500 0)).result =
        .error .bufferTooShort ∧
      overdueConnection.hot.lossDetector.sentPackets.size = 1 ∧
      (overdueConnection.produceOutgoingDatagram 500000
        (List.replicate 1500 0)).conn.hot.lossDetector.sentPackets.size = 0 ∧
      overdueConnection.cold.totalDroppedFrames = 0 ∧
      (overdueConnection.produceOutgoingDatagram 500000
        (List.replicate 1500 0)).conn.cold.totalDroppedFrames = 1 :=
  ⟨⟨_, _, rfl⟩, by decide +kernel⟩

end GtpConnection

end Gtp
