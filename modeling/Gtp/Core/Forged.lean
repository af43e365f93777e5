/-
# Datagrams that do not authenticate

A datagram that fails the header, the connection id, the replay check or every retained key moves
three counters and nothing else.  Nothing in the engine reads these counters: raising them commutes
with every call (`step_charged`), and every call returns the same (`outcome_charged`).  So a run
with such datagrams inserted anywhere is the run without them, with the three counters raised.

* `Forged` is decided in the state that the datagram arrives in; a copy of an authentic datagram is
  forged once the replay window has its number.
* `step_charged` goes call by call: the receive path and the transmit path each have a section, and
  the other calls do not look at the cold half at all.
* `junk_no_influence` is `Runs.Along.unwind` of the library, with "the counters raised" as the
  relation.

The counters do influence what the metrics show, and the time that a call takes is not modelled.
What an attacker can do who seals under the right key is not the subject.
-/
import Gtp.Core.Steps

namespace Gtp

namespace GtpConnection

/-! ## 1. Raised counters -/

/-- What junk adds to the counters. -/
structure Charge where
  packets : Nat
  bytes : Nat
  corrupted : Nat

/-- The connection with the three receive counters raised. -/
def charged (c : GtpConnection) (k : Charge) : GtpConnection :=
  { c with
    cold.totalRxPackets := c.cold.totalRxPackets + k.packets
    cold.totalRxBytes := c.cold.totalRxBytes + k.bytes
    cold.totalCorruptedPackets := c.cold.totalCorruptedPackets + k.corrupted }

variable (c : GtpConnection) (k : Charge)

@[simp] theorem charged_hot : (c.charged k).hot = c.hot := rfl
@[simp] theorem charged_config : (c.charged k).config = c.config := rfl
@[simp] theorem charged_eventQueue : (c.charged k).eventQueue = c.eventQueue := rfl
@[simp] theorem charged_lastBackpressure :
    (c.charged k).lastBackpressure = c.lastBackpressure := rfl

theorem charged_charged (k' : Charge) : (c.charged k).charged k' =
    c.charged ⟨k.packets + k'.packets, k.bytes + k'.bytes, k.corrupted + k'.corrupted⟩ := by
  simp only [charged, Nat.add_assoc]

theorem ite_charged (p : Prop) [Decidable p] (c' : GtpConnection) :
    (if p then c else c').charged k = if p then c.charged k else c'.charged k :=
  apply_ite (charged · k) p c c'

/-! ## 2. The receive path -/

theorem pushEvent_charged (event : ControlEvent) :
    (c.charged k).pushEvent event = (c.pushEvent event).charged k := by
  unfold pushEvent charged
  dsimp only
  by_cases hfull : c.config.eventQueueCapacity = 0 ∨
      decide (c.config.eventQueueCapacity ≤ c.eventQueue.length) = true
  · simp only [if_pos hfull]
  · simp only [if_neg hfull]

theorem emitOwd_charged (now : MonotonicTime) :
    (c.charged k).emitOwd now = (c.emitOwd now).charged k := by
  unfold emitOwd
  rw [ite_charged]
  exact if_congr Iff.rfl (pushEvent_charged { c with hot.lastOwdEmit := now } k _) rfl

theorem onAuthenticated_charged (header : PacketHeader) (srcAddr : SocketAddr)
    (datagramLen : Nat) (now : MonotonicTime) :
    (c.charged k).onAuthenticated header srcAddr datagramLen now =
      (c.onAuthenticated header srcAddr datagramLen now).charged k :=
  emitOwd_charged { c with hot := _ } k now

theorem retransmit_charged (now : MonotonicTime) (retrans : RetransmissionRecord) :
    (c.charged k).retransmit now retrans = (c.retransmit now retrans).charged k := rfl

theorem foldl_retransmit_charged (now : MonotonicTime) (frames : List RetransmissionRecord) :
    frames.foldl (retransmit now) (c.charged k) = (frames.foldl (retransmit now) c).charged k := by
  induction frames generalizing c with
  | nil => rfl
  | cons retrans rest ih =>
    rw [List.foldl_cons, List.foldl_cons, retransmit_charged, ih]

theorem onAckFrame_charged (largestAcked : PacketNumber) (ackDelayUs : UInt32)
    (ranges : AckRanges) (rangeCount : UInt8) (now : MonotonicTime) :
    (c.charged k).onAckFrame largestAcked ackDelayUs ranges rangeCount now =
      (c.onAckFrame largestAcked ackDelayUs ranges rangeCount now).charged k := by
  unfold onAckFrame
  dsimp only [charged_hot]
  rw [← foldl_retransmit_charged, ite_charged]
  congr 1
  exact if_congr Iff.rfl rfl
    (pushEvent_charged { c with hot.lossDetector := _, hot.cc := _ } k _)

theorem countDrop_charged (disposition : Disposition) :
    (c.charged k).countDrop disposition = (c.countDrop disposition).charged k := by
  cases disposition <;> rfl

theorem onPathResponse_charged (srcAddr : SocketAddr) (data : Bytes 8) (now : MonotonicTime) :
    (c.charged k).onPathResponse srcAddr data now =
      (c.onPathResponse srcAddr data now).charged k := by
  unfold onPathResponse
  dsimp only
  rw [ite_charged]
  exact if_congr Iff.rfl (pushEvent_charged { c with
    hot.pathValidator := _, hot.activePath := _, hot.antiAmplificationProbe := _
    hot.antiAmplification := _, hot.lossDetector := _, hot.owd := _ } k _) rfl

/-- The loop's variables, with the connection's counters raised. -/
def Dispatch.charged (s : Dispatch) : Dispatch := { s with conn := s.conn.charged k }

variable [CryptoSuite]

theorem dispatch_charged (srcAddr : SocketAddr) (now : MonotonicTime) (s : Dispatch)
    (frame : Frame) :
    dispatch srcAddr now (s.charged k) frame = (dispatch srcAddr now s frame).charged k := by
  cases frame with
  | ack largestAcked ackDelayUs ranges rangeCount =>
    unfold dispatch
    dsimp only [Dispatch.charged]
    rw [onAckFrame_charged]
  | pathChallenge data =>
    unfold dispatch
    dsimp only
    rw [apply_ite (Dispatch.charged k)]
    rfl
  | pathResponse data =>
    unfold dispatch
    dsimp only [Dispatch.charged]
    rw [onPathResponse_charged]
  | data | reliableData | retx =>
    unfold dispatch
    dsimp only [Dispatch.charged, charged_hot]
    rw [← countDrop_charged]
    rfl
  | _ => rfl

theorem dispatchAll_charged (srcAddr : SocketAddr) (now : MonotonicTime) (s : Dispatch)
    (frames : List (Result Frame)) :
    dispatchAll srcAddr now (s.charged k) frames = (dispatchAll srcAddr now s frames).charged k := by
  induction frames generalizing s with
  | nil => rfl
  | cons frame rest ih =>
    cases frame with
    | ok frame => rw [dispatchAll, dispatchAll, dispatch_charged, ih]
    | error e =>
      rw [dispatchAll, dispatchAll]
      simp only [Dispatch.charged, charged, Nat.add_right_comm]

omit [CryptoSuite] in
theorem checkBackpressure_charged (now : MonotonicTime) :
    (c.charged k).checkBackpressure now = (c.checkBackpressure now).charged k := by
  have hchange : ∀ c : GtpConnection, (c.feedback now).backpressure ≠ c.lastBackpressure →
      c.checkBackpressure now = { c.pushEvent (.backpressureChanged c.lastBackpressure
        (c.feedback now).backpressure (c.feedback now).effectiveQueueBytes) with
          lastBackpressure := (c.feedback now).backpressure } := by
    intro c h
    unfold checkBackpressure
    simp only [if_pos h]
    rfl
  have hsame : ∀ c : GtpConnection, ¬ (c.feedback now).backpressure ≠ c.lastBackpressure →
      c.checkBackpressure now = { c with lastBackpressure := (c.feedback now).backpressure } := by
    intro c h
    unfold checkBackpressure
    simp only [if_neg h]
  by_cases h : (c.feedback now).backpressure ≠ c.lastBackpressure
  · rw [hchange c h, hchange (c.charged k) h, pushEvent_charged]
    rfl
  · rw [hsame c h, hsame (c.charged k) h]
    rfl

omit [CryptoSuite] in
theorem onClose_charged : (c.charged k).onClose = c.onClose.charged k :=
  pushEvent_charged { c with hot.state := _ } k _

theorem receiveFrames_charged (srcAddr : SocketAddr) (packetNumber : PacketNumber)
    (payload : List UInt8) (now : MonotonicTime) (ipEcn : UInt8) :
    (c.charged k).receiveFrames srcAddr packetNumber payload now ipEcn =
      ((c.receiveFrames srcAddr packetNumber payload now ipEcn).1,
        (c.receiveFrames srcAddr packetNumber payload now ipEcn).2.charged k) := by
  have hloop := dispatchAll_charged k srcAddr now ⟨c, [], false, none, 0⟩
    (FrameIterator.collect payload)
  unfold receiveFrames
  change dispatchAll srcAddr now ⟨c.charged k, [], false, none, 0⟩ _ = _ at hloop
  rw [hloop]
  generalize dispatchAll srcAddr now ⟨c, [], false, none, 0⟩ (FrameIterator.collect payload) = s
  have hback := checkBackpressure_charged { s.conn with
    hot.ackTracker := s.conn.hot.ackTracker.onPacketReceived packetNumber s.isAckEliciting
      ipEcn.toNat now } k now
  dsimp only [Dispatch.charged]
  cases s.closeReceived with
  | none => exact congrArg _ hback
  | some errorCode =>
    refine congrArg (Prod.mk _) ?_
    rw [← onClose_charged]
    exact congrArg onClose hback

/-- The call, in charges: every datagram is counted, one that does not open is counted as corrupted
too. -/
theorem handleIncoming_of_open {c : GtpConnection} (h : c.hot.state ≠ .closed)
    (srcAddr : SocketAddr) (datagram : List UInt8) (now : MonotonicTime) (ipEcn : UInt8) :
    c.handleIncomingDatagramWithEcn srcAddr datagram now ipEcn =
      match c.hot.admitHeader datagram with
      | .error e => (.error e, c.charged ⟨1, datagram.length, 0⟩)
      | .ok (header, consumed) =>
        match c.hot.openDatagram header (datagram.take consumed) (datagram.drop consumed) with
        | .error e => (.error e, c.charged ⟨1, datagram.length, 1⟩)
        | .ok payload =>
          ((c.charged ⟨1, datagram.length, 0⟩).onAuthenticated header srcAddr datagram.length
            now).receiveFrames srcAddr header.packetNumber payload now ipEcn := by
  rw [handleIncomingDatagramWithEcn, if_neg h]
  rfl

omit [CryptoSuite] in
theorem charged_comm (k' : Charge) : (c.charged k).charged k' = (c.charged k').charged k := by
  rw [charged_charged, charged_charged, Nat.add_comm k.packets, Nat.add_comm k.bytes,
    Nat.add_comm k.corrupted]

theorem handleIncoming_charged (srcAddr : SocketAddr) (datagram : List UInt8)
    (now : MonotonicTime) (ipEcn : UInt8) :
    (c.charged k).handleIncomingDatagramWithEcn srcAddr datagram now ipEcn =
      ((c.handleIncomingDatagramWithEcn srcAddr datagram now ipEcn).1,
        (c.handleIncomingDatagramWithEcn srcAddr datagram now ipEcn).2.charged k) := by
  by_cases hclosed : c.hot.state = .closed
  · unfold handleIncomingDatagramWithEcn
    rw [if_pos hclosed, charged_hot, if_pos hclosed]
  · rw [handleIncoming_of_open hclosed, handleIncoming_of_open (c := c.charged k) hclosed,
      charged_hot]
    cases c.hot.admitHeader datagram with
    | error e => exact congrArg _ (charged_comm c k _)
    | ok admitted =>
      dsimp only
      cases c.hot.openDatagram admitted.1 (datagram.take admitted.2)
          (datagram.drop admitted.2) with
      | error e => exact congrArg _ (charged_comm c k _)
      | ok payload =>
        dsimp only
        rw [charged_comm, onAuthenticated_charged, receiveFrames_charged]

/-! ## 3. The transmit path -/

section Transmit

omit [CryptoSuite]

theorem checkPto_charged (now : MonotonicTime) :
    (c.charged k).checkPto now = (c.checkPto now).charged k := by
  unfold checkPto
  dsimp only
  rw [ite_charged]
  refine if_congr Iff.rfl ?_ rfl
  have hpush := pushEvent_charged { c with
    hot.lossDetector := c.hot.lossDetector.onTimeout.1
    hot.cc := if persistentCongestionPtoCount ≤ c.hot.lossDetector.onTimeout.1.ptoCount then
      c.hot.cc.onTimeout now else c.hot.cc } k (.ptoTriggered
        c.hot.lossDetector.onTimeout.1.ptoCount c.hot.lossDetector.onTimeout.1.inflightBytes)
  have hfold := (congrArg (c.hot.lossDetector.onTimeout.2.retransmittable.foldl (retransmit now))
    hpush).trans (foldl_retransmit_charged _ k now _)
  exact congrArg (fun c : GtpConnection =>
    { c with hot.lossDetector.timeOfLastAckElicitingPacket := now }) hfold

theorem fillData_charged (budget : Nat) (now : MonotonicTime) (fuel : Nat) (d : Draft) :
    fillData budget now fuel d (c.charged k) =
      ((fillData budget now fuel d c).1, (fillData budget now fuel d c).2.charged k) := by
  induction fuel generalizing d c with
  | zero => rfl
  | succ fuel ih =>
    rw [fillData, fillData, charged_hot]
    split
    · rcases c.hot.scheduler.popNext (min budget d.builder.remainingCapacity) now with ⟨front, s⟩
      cases front with
      | none => rfl
      | some item =>
        dsimp only
        rcases d.builder.appendFrame (itemFrame item) with ⟨res, builder⟩
        cases res with
        | ok => exact ih { c with hot.scheduler := s } _
        | error e => rfl
    · rfl

theorem assemble_charged (builder : PacketBuilder) (now : MonotonicTime) :
    (c.charged k).assemble builder now =
      ((c.assemble builder now).1, (c.assemble builder now).2.charged k) := by
  have hack : (c.charged k).appendAck builder now = c.appendAck builder now := rfl
  unfold assemble
  rw [hack, charged_hot]
  rcases c.appendAck builder now with ⟨ack, builder⟩
  dsimp only
  rcases drainControls c.hot.activePath ⟨builder, ack, [], none, []⟩ c.hot.controlQueue with
    ⟨d, rest⟩
  dsimp only
  by_cases hest : c.hot.state = .established
  · refine (if_pos hest).trans ?_
    rw [if_pos hest]
    exact fillData_charged { c with hot.controlQueue := rest } k _ _ _ _
  · refine (if_neg hest).trans ?_
    rw [if_neg hest]
    rfl

theorem putBack_charged (d : Draft) (now : MonotonicTime) :
    (c.charged k).putBack d now = (c.putBack d now).charged k := by
  have hfold : ∀ (items : List SchedulableItem) (c : GtpConnection),
      items.foldr (requeueItem now) (c.charged k) =
        (items.foldr (requeueItem now) c).charged k := by
    intro items c
    induction items with
    | nil => rfl
    | cons item rest ih =>
      rw [List.foldr_cons, List.foldr_cons, ih]
      rfl
  exact hfold d.popped { c with hot.controlQueue := d.drained ++ c.hot.controlQueue }

theorem tickRouteEvaluation_charged (now : MonotonicTime) :
    (c.charged k).tickRouteEvaluation now = (c.tickRouteEvaluation now).charged k := by
  unfold tickRouteEvaluation
  rw [charged_hot]
  cases c.hot.routeController <;> rfl

end Transmit

theorem commit_charged (d : Draft) (len : Nat) (now : MonotonicTime) :
    (c.charged k).commit d len now = (c.commit d len now).charged k :=
  tickRouteEvaluation_charged { c with hot := _, cold := { c.cold with
    totalTxPackets := c.cold.totalTxPackets + 1, totalTxBytes := c.cold.totalTxBytes + len } } k now

/-- What a call returns, with the connection's counters raised. -/
def Produced.charged (p : Produced) : Produced := { p with conn := p.conn.charged k }

theorem launch_charged (d : Draft) (now : MonotonicTime) :
    (c.charged k).launch d now = (c.launch d now).charged k := by
  unfold launch
  rw [charged_hot]
  rcases sealDraft c.hot c.hot.nextPacketNumber d.builder with ⟨res, buf⟩
  cases res with
  | error e =>
    dsimp only
    rw [putBack_charged]
    rfl
  | ok len =>
    dsimp only
    split
    · rw [putBack_charged]
      rfl
    · rw [commit_charged]
      rfl

theorem produce_charged (now : MonotonicTime) (outBuf : List UInt8) :
    (c.charged k).produceOutgoingDatagram now outBuf =
      (c.produceOutgoingDatagram now outBuf).charged k := by
  unfold produceOutgoingDatagram
  rw [charged_hot, checkPto_charged]
  split
  · rfl
  · split
    · exact congrArg (fun c' => (⟨.ok none, c', outBuf⟩ : Produced))
        (pushEvent_charged { c with hot.state := _ } k _)
    · have hkeep : ((c.checkPto now).charged k).housekeeping now =
          ((c.checkPto now).housekeeping now).charged k := rfl
      rw [hkeep]
      generalize (c.checkPto now).housekeeping now = c1
      have hidle : (c1.charged k).idle now = c1.idle now := rfl
      dsimp only
      rw [hidle, charged_hot]
      split
      · rfl
      · cases PacketBuilder.new outBuf (nextHeader c1.hot now) with
        | error e => rfl
        | ok builder =>
          dsimp only
          rw [assemble_charged]
          exact launch_charged _ k _ now

/-! ## 4. The other calls -/

section Send

omit [CryptoSuite]

theorem enqueueAll_charged (now : MonotonicTime) (items : List SchedulableItem) :
    enqueueAll now (c.charged k) items =
      ((enqueueAll now c items).1, (enqueueAll now c items).2.charged k) := by
  induction items generalizing c with
  | nil => rfl
  | cons item rest ih =>
    rw [enqueueAll, enqueueAll]
    unfold enqueueItem
    rw [charged_hot]
    rcases c.hot.scheduler.enqueue item now with ⟨res, s⟩
    cases res with
    | ok => exact ih { c with hot.scheduler := s }
    | error e => rfl

theorem enqueueFragments_charged (msgId : MessageId) (class' : MessageClass)
    (payload : List UInt8) (priority : PriorityTier) (deadline : Option MonotonicTime)
    (total : Nat) (now : MonotonicTime) :
    (c.charged k).enqueueFragments msgId class' payload priority deadline total now =
      ((c.enqueueFragments msgId class' payload priority deadline total now).1,
        (c.enqueueFragments msgId class' payload priority deadline total now).2.charged k) := by
  have hmax : (c.charged k).maxMessagePayload = c.maxMessagePayload := rfl
  unfold enqueueFragments
  rw [hmax]
  cases chunks c.maxMessagePayload payload with
  | none => rfl
  | some pieces =>
    dsimp only
    rw [enqueueAll_charged]

theorem sendSingle_charged (class' : MessageClass) (payload : List UInt8)
    (priority : PriorityTier) (deadline : Option MonotonicTime) (now : MonotonicTime) :
    (c.charged k).sendSingle class' payload priority deadline now =
      ((c.sendSingle class' payload priority deadline now).1,
        (c.sendSingle class' payload priority deadline now).2.charged k) := by
  have hmax : (c.charged k).maxMessagePayload = c.maxMessagePayload := rfl
  unfold sendSingle
  rw [hmax]
  split <;> rfl

theorem sendReliableUnordered_charged (payload : List UInt8) (priority : PriorityTier)
    (deadline : Option MonotonicTime) (now : MonotonicTime) :
    (c.charged k).sendReliableUnordered payload priority deadline now =
      ((c.sendReliableUnordered payload priority deadline now).1,
        (c.sendReliableUnordered payload priority deadline now).2.charged k) := by
  unfold sendReliableUnordered
  dsimp only [maxMessagePayload, charged_config]
  cases messageFragmentCount payload.length
      (c.config.minMtu - (minCommonHeaderLen + aeadTagLen + maxMessageFrameOverhead)) with
  | error e => rfl
  | ok total =>
    exact enqueueFragments_charged { c with hot.nextMessageId := _ } k _ _ _ _ _ _ _

theorem sendReliableOrdered_charged (groupId : OrderedGroupId) (payload : List UInt8)
    (priority : PriorityTier) (deadline : Option MonotonicTime) (now : MonotonicTime) :
    (c.charged k).sendReliableOrdered groupId payload priority deadline now =
      ((c.sendReliableOrdered groupId payload priority deadline now).1,
        (c.sendReliableOrdered groupId payload priority deadline now).2.charged k) := by
  have hmax : (c.charged k).maxMessagePayload = c.maxMessagePayload := rfl
  unfold sendReliableOrdered
  rw [hmax]
  cases messageFragmentCount payload.length c.maxMessagePayload with
  | error e => rfl
  | ok total =>
    exact enqueueFragments_charged { c with hot.nextOrderSeqs := _, hot.nextMessageId := _ } k
      _ _ _ _ _ _ _

theorem changeState_charged (next : ConnectionState) :
    (c.charged k).changeState next =
      ((c.changeState next).1, (c.changeState next).2.charged k) := by
  unfold changeState
  rw [charged_hot]
  cases c.hot.state.transitionTo next with
  | error e => rfl
  | ok state => exact congrArg _ (pushEvent_charged { c with hot.state := state } k _)

theorem feedRouteStats_charged (pathId : UInt32) (stats : PathStats) :
    (c.charged k).feedRouteStats pathId stats = (c.feedRouteStats pathId stats).charged k := by
  unfold feedRouteStats
  rw [charged_hot]
  cases c.hot.routePaths.findIdx? fun p => p.1 = pathId <;> rfl

end Send

/-! ## 5. Results of calls -/

/-- What a call returns to its caller. -/
inductive Outcome where
  | sent (result : Result MessageId)
  | fragmented (result : Option (Result MessageId))
  | received (result : Result (List ReceivedMessage))
  | produced (result : Result (Option (SocketAddr × Nat))) (buf : List UInt8)
  | changed (result : Result Unit)
  | announced (phase : Nat)
  | drained (events : List ControlEvent)
  | nothing

/-- The result of a call, and the event queue that it leaves. -/
def outcome (c : GtpConnection) (op : Op) : Outcome × List ControlEvent :=
  (match op with
    | .sendUnreliable payload priority deadline now =>
      .sent (c.sendUnreliable payload priority deadline now).1
    | .sendSequenced stateKey sequence generation deadline payload now =>
      .sent (c.sendSequenced stateKey sequence generation deadline payload now).1
    | .sendReliableUnordered payload priority deadline now =>
      .fragmented (c.sendReliableUnordered payload priority deadline now).1
    | .sendReliableOrdered groupId payload priority deadline now =>
      .fragmented (c.sendReliableOrdered groupId payload priority deadline now).1
    | .handleIncoming srcAddr datagram now ipEcn =>
      .received (c.handleIncomingDatagramWithEcn srcAddr datagram now ipEcn).1
    | .produce now outBuf =>
      .produced (c.produceOutgoingDatagram now outBuf).result
        (c.produceOutgoingDatagram now outBuf).buf
    | .gracefulClose errorCode reason => .changed (c.gracefulClose errorCode reason).1
    | .forceClose => .changed c.forceClose.1
    | .initiateKeyUpdate => .announced c.initiateKeyUpdate.1
    | .drainEvents => .drained c.drainEvents.1
    | _ => .nothing,
    (c.step op).eventQueue)

/-- **Nothing reads the counters.**  A call on the connection with raised counters leaves the
connection with raised counters. -/
theorem step_charged (op : Op) : (c.charged k).step op = (c.step op).charged k := by
  cases op with
  | sendUnreliable payload priority deadline now =>
    exact congrArg Prod.snd (sendSingle_charged c k _ _ _ _ _)
  | sendSequenced stateKey sequence generation deadline payload now =>
    exact congrArg Prod.snd (sendSingle_charged c k _ _ _ _ _)
  | sendReliableUnordered payload priority deadline now =>
    exact congrArg Prod.snd (sendReliableUnordered_charged c k _ _ _ _)
  | sendReliableOrdered groupId payload priority deadline now =>
    exact congrArg Prod.snd (sendReliableOrdered_charged c k _ _ _ _ _)
  | handleIncoming srcAddr datagram now ipEcn =>
    exact congrArg Prod.snd (handleIncoming_charged c k _ _ _ _)
  | produce now outBuf => exact congrArg Produced.conn (produce_charged c k _ _)
  | gracefulClose errorCode reason =>
    exact congrArg Prod.snd (changeState_charged (c.queueControl _) k _)
  | forceClose => exact congrArg Prod.snd (changeState_charged c k _)
  | feedRouteStats pathId stats => exact feedRouteStats_charged c k _ _
  | _ => rfl

theorem outcome_charged (op : Op) : (c.charged k).outcome op = c.outcome op := by
  have hqueue : ((c.charged k).step op).eventQueue = (c.step op).eventQueue := by
    rw [step_charged]
    rfl
  unfold outcome
  rw [hqueue]
  refine congrArg (·, _) ?_
  cases op with
  | sendUnreliable payload priority deadline now =>
    exact congrArg (fun r => Outcome.sent r.1) (sendSingle_charged c k _ _ _ _ _)
  | sendSequenced stateKey sequence generation deadline payload now =>
    exact congrArg (fun r => Outcome.sent r.1) (sendSingle_charged c k _ _ _ _ _)
  | sendReliableUnordered payload priority deadline now =>
    exact congrArg (fun r => Outcome.fragmented r.1) (sendReliableUnordered_charged c k _ _ _ _)
  | sendReliableOrdered groupId payload priority deadline now =>
    exact congrArg (fun r => Outcome.fragmented r.1) (sendReliableOrdered_charged c k _ _ _ _ _)
  | handleIncoming srcAddr datagram now ipEcn =>
    exact congrArg (fun r => Outcome.received r.1) (handleIncoming_charged c k _ _ _ _)
  | produce now outBuf =>
    exact congrArg (fun p => Outcome.produced p.result p.buf) (produce_charged c k _ _)
  | gracefulClose errorCode reason =>
    exact congrArg (fun r => Outcome.changed r.1) (changeState_charged (c.queueControl _) k _)
  | forceClose => exact congrArg (fun r => Outcome.changed r.1) (changeState_charged c k _)
  | _ => rfl

/-! ## 6. Junk -/

omit [CryptoSuite] in
/-- A datagram, as the network delivers it. -/
structure Datagram where
  srcAddr : SocketAddr
  bytes : List UInt8
  now : MonotonicTime
  ipEcn : UInt8

omit [CryptoSuite] in
/-- The call that the datagram makes. -/
def Datagram.op (dg : Datagram) : Op := .handleIncoming dg.srcAddr dg.bytes dg.now dg.ipEcn

/-- The datagram fails header decoding, the connection id, the replay check, or opening under every
retained key. -/
def Forged (c : GtpConnection) (dg : Datagram) : Prop :=
  match PacketHeader.decode dg.bytes with
  | .error _ => True
  | .ok (header, consumed) =>
    header.connectionId ≠ c.hot.connectionId ∨
      c.hot.replayWindow.check header.packetNumber ≠ .ok () ∨
      ∀ p ∈ c.hot.rxProtector :: c.hot.rxProtectorPrev.toList, ∀ payload,
        p.openPayload header.packetNumber header.connectionId (dg.bytes.take consumed)
          (dg.bytes.drop consumed) (dg.bytes.drop consumed).length ≠ .ok payload

theorem step_forged {c : GtpConnection} {dg : Datagram} (h : c.Forged dg) :
    ∃ k, c.step dg.op = c.charged k := by
  have hop : c.step dg.op =
      (c.handleIncomingDatagramWithEcn dg.srcAddr dg.bytes dg.now dg.ipEcn).2 := rfl
  by_cases hclosed : c.hot.state = .closed
  · refine ⟨⟨0, 0, 0⟩, ?_⟩
    rw [hop, handleIncomingDatagramWithEcn, if_pos hclosed]
    rfl
  · rw [hop, handleIncoming_of_open hclosed]
    cases hadm : c.hot.admitHeader dg.bytes with
    | error e => exact ⟨_, rfl⟩
    | ok admitted =>
      obtain ⟨header, consumed⟩ := admitted
      obtain ⟨hdec, hcid, hcheck⟩ := ConnectionHot.admitHeader_ok hadm
      dsimp only
      cases hopen : c.hot.openDatagram header (dg.bytes.take consumed)
          (dg.bytes.drop consumed) with
      | error e => exact ⟨_, rfl⟩
      | ok payload =>
        obtain ⟨p, hp, hpay⟩ := ConnectionHot.openDatagram_ok hopen
        rw [Forged, hdec] at h
        rcases h with hne | hreplay | hkeys
        · exact absurd hcid hne
        · exact absurd hcheck hreplay
        · refine absurd hpay (hkeys p ?_ payload)
          rcases hp with rfl | hprev
          · exact List.mem_cons_self
          · rw [hprev]
            exact List.mem_cons_of_mem _ List.mem_cons_self

/-- A run with datagrams inserted, all of them junk in the state that they arrive in. -/
def JunkInserted (c : GtpConnection) (ops : List (Op ⊕ Datagram)) : Prop :=
  Runs.Along (Runs.insertedStep step Datagram.op)
    (fun c op => ∀ dg, op = .inr dg → c.Forged dg) c ops

/-- **Junk has no influence.** With junk inserted anywhere, the other calls return the same and
leave the same event queue, and the connection differs in the three receive counters only.  The junk
may be any bytes from any address at any time, as long as it does not open where it arrives. -/
theorem junk_no_influence (c : GtpConnection) (ops : List (Op ⊕ Datagram))
    (h : c.JunkInserted ops) :
    Runs.observed step Datagram.op outcome c ops = Runs.outputs step outcome c (Runs.genuine ops) ∧
      ∃ k, ops.foldl (Runs.insertedStep step Datagram.op) c =
        (c.run (Runs.genuine ops)).charged k := by
  refine Runs.Along.unwind (R := fun s s' => ∃ k, s = s'.charged k) ?_ ?_ ?_ h ⟨⟨0, 0, 0⟩, rfl⟩
  · rintro s s' op ⟨k, rfl⟩
    exact outcome_charged s' k op
  · rintro s s' op ⟨k, rfl⟩
    exact ⟨k, step_charged s' k op⟩
  · rintro s s' dg hforged ⟨k, rfl⟩
    obtain ⟨k', hk'⟩ := step_forged (hforged dg rfl)
    rw [charged_charged] at hk'
    exact ⟨_, hk'⟩

end GtpConnection

namespace GtpConnection

attribute [local instance] keyTagSuite

/-- A ping and the datagram that carries it, with junk before, between and after: three bytes, a
packet that nobody sealed, and a packet for another connection. -/
def junkRun : List (Op ⊕ Datagram) :=
  let packet := fun cid => (PacketHeader.newShort cid 3 0 16).bytes ++ List.replicate 16 255
  [.inr ⟨⟨9, 9⟩, [1, 2, 3], 1, 0⟩, .inl (.sendPing 5),
    .inr ⟨⟨1, 4433⟩, packet 7, 2, 0⟩,
    .inl (.produce 10 (List.replicate 100 0)), .inr ⟨⟨1, 4433⟩, packet 8, 11, 0⟩]

/-- The theorem at this run. -/
theorem junk_no_influence_junkRun :
    Runs.observed step Datagram.op outcome (sampleSetup false).start junkRun =
      Runs.outputs step outcome (sampleSetup false).start
        [.sendPing 5, .produce 10 (List.replicate 100 0)] := by
  refine (junk_no_influence (sampleSetup false).start junkRun ⟨?_, ?_, ?_, ?_, ?_, trivial⟩).1
  · rintro dg ⟨rfl⟩
    exact trivial
  · rintro dg ⟨⟩
  · rintro dg ⟨rfl⟩
    refine Or.inr (Or.inr fun p hp payload => ?_)
    obtain rfl := List.mem_singleton.mp hp
    have hfail : ∀ r : Result (List UInt8), r = .error .cryptoFailure → r ≠ .ok payload := by
      rintro r rfl
      exact fun heq => by cases heq
    exact hfail _ (by decide +kernel)
  · rintro dg ⟨⟩
  · rintro dg ⟨rfl⟩
    refine Or.inl ?_
    decide +kernel

end GtpConnection

end Gtp
