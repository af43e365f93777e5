/-
# The event queue

`push_event` keeps the queue within its capacity and counts what it sheds.  Two emitters go past it:
the retransmission of a lost fragment, and the evaluation of the route, append to the queue
directly.  So the bound holds along a run exactly when every event of these two kinds is among the
first `event_queue_capacity` events of the run (`event_queue_bounded_iff`); the accounting holds in
any case.

* The queue, its capacity and the counter form a `Buffer`, whose theory is a library of its own.
* `emittedBy` reads off the state before a call which events the call emits, in their order.  It is
  put together from one definition for each part of a call that emits.
* `step_events` says that the buffer after a call is the buffer before it with these events pushed;
  only `drain_events` takes some out.

The condition speaks of a run without `drain_events`.  With a call of it in between, each stretch is
a run of its own, and what is left out is how long the application may wait.
-/
import Gtp.Lib.Buffers
import Gtp.Core.Arrivals

namespace Gtp

/-! ## 1. What a call emits -/

/-- Appended to the queue past the bound. -/
def ControlEvent.direct : ControlEvent → Bool
  | .retransmissionTriggered .. | .routeHeld .. | .routeSwitched .. | .routeReverted .. => true
  | _ => false

namespace GtpConnection

/-- The event queue with its bound and its counter. -/
def events (c : GtpConnection) : Buffer ControlEvent :=
  ⟨c.config.eventQueueCapacity, c.eventQueue, c.cold.totalDroppedEvents⟩

def resendEvents (frames : List RetransmissionRecord) : List ControlEvent :=
  frames.map fun retrans => .retransmissionTriggered retrans.messageId retrans.fragmentId

/-- The events of the one-way-delay sample. -/
def owdEvents (c : GtpConnection) (header : PacketHeader) (now : MonotonicTime) :
    List ControlEvent :=
  if c.config.owdSampleInterval ≤ now - c.hot.lastOwdEmit then
    let sample := (c.hot.owd.onPacket header.timestampMicros now).sample
    [.owdSample sample.owdVarUs sample.jitterUs sample.epoch]
  else []

/-- The events of the `Ack` arm. -/
def ackEvents (c : GtpConnection) (largestAcked : PacketNumber) (ackDelayUs : UInt32)
    (ranges : AckRanges) (rangeCount : UInt8) (now : MonotonicTime) : List ControlEvent :=
  let lossEv := (c.hot.lossDetector.onAckReceived largestAcked ackDelayUs ranges.toList
    rangeCount.toNat now).2.2.1
  (if lossEv.lostPackets.isEmpty then []
    else [.packetLossDetected lossEv.lostPackets.length lossEv.bytesLost]) ++
    resendEvents lossEv.retransmittable

def frameEvents (srcAddr : SocketAddr) (now : MonotonicTime) (c : GtpConnection) :
    Frame → List ControlEvent
  | .ack largestAcked ackDelayUs ranges rangeCount _ _ _ =>
    c.ackEvents largestAcked ackDelayUs ranges rangeCount now
  | .pathResponse data =>
    if (c.hot.pathValidator.validateResponse srcAddr data now).1 ∧ srcAddr ≠ c.hot.activePath then
      [.pathMigrated c.hot.activePath srcAddr]
    else []
  | _ => []

def backpressureEvents (c : GtpConnection) (now : MonotonicTime) : List ControlEvent :=
  let feedback := c.feedback now
  if feedback.backpressure ≠ c.lastBackpressure then
    [.backpressureChanged c.lastBackpressure feedback.backpressure feedback.effectiveQueueBytes]
  else []

/-- The events of the probe timeout. -/
def ptoEvents (c : GtpConnection) (now : MonotonicTime) : List ControlEvent :=
  let d := c.hot.lossDetector
  if 0 < d.inflightBytes ∧
      d.ptoDurationWithBackoff c.config.ptoMaxDuration ≤ now - d.timeOfLastAckElicitingPacket then
    let (d, lossEv) := d.onTimeout
    .ptoTriggered d.ptoCount d.inflightBytes :: resendEvents lossEv.retransmittable
  else []

/-- The event of the route evaluation. -/
def routeEvents (c : GtpConnection) (now : MonotonicTime) : List ControlEvent :=
  match c.hot.routeController with
  | none => []
  | some controller =>
    [match (controller.evaluate c.hot.routeStats now).1 with
      | .hold current reason => .routeHeld current reason.code
      | .switch fromPath toPath _ => .routeSwitched fromPath toPath "clear_winner"
      | .revert fromPath toPath => .routeReverted fromPath toPath]

def changeEvents (c : GtpConnection) (next : ConnectionState) : List ControlEvent :=
  match c.hot.state.transitionTo next with
  | .error _ => []
  | .ok _ => [.stateChanged c.hot.state next]

variable [CryptoSuite]

/-- The events of the dispatch loop. -/
def dispatchEvents (srcAddr : SocketAddr) (now : MonotonicTime) :
    Dispatch → List (Result Frame) → List ControlEvent
  | _, [] => []
  | s, .ok frame :: rest =>
    frameEvents srcAddr now s.conn frame ++
      dispatchEvents srcAddr now (dispatch srcAddr now s frame) rest
  | _, .error _ :: _ => []

/-- The events of the decrypted payload. -/
def receiveEvents (c : GtpConnection) (srcAddr : SocketAddr) (packetNumber : PacketNumber)
    (payload : List UInt8) (now : MonotonicTime) (ipEcn : UInt8) : List ControlEvent :=
  let frames := FrameIterator.collect payload
  let s := dispatchAll srcAddr now ⟨c, [], false, none, 0⟩ frames
  let c' := { s.conn with
    hot.ackTracker := s.conn.hot.ackTracker.onPacketReceived packetNumber s.isAckEliciting
      ipEcn.toNat now }
  dispatchEvents srcAddr now ⟨c, [], false, none, 0⟩ frames ++ c'.backpressureEvents now ++
    match s.closeReceived with
    | some _ => [.stateChanged c'.hot.state .closed]
    | none => []

/-- The events of an incoming datagram. -/
def handleEvents (c : GtpConnection) (srcAddr : SocketAddr) (datagram : List UInt8)
    (now : MonotonicTime) (ipEcn : UInt8) : List ControlEvent :=
  if c.hot.state = .closed then []
  else
    let c := { c with
      cold.totalRxPackets := c.cold.totalRxPackets + 1
      cold.totalRxBytes := c.cold.totalRxBytes + datagram.length }
    match c.hot.admitHeader datagram with
    | .error _ => []
    | .ok (header, headerConsumed) =>
      match c.hot.openDatagram header (datagram.take headerConsumed)
          (datagram.drop headerConsumed) with
      | .error _ => []
      | .ok payload =>
        c.owdEvents header now ++
          (c.onAuthenticated header srcAddr datagram.length now).receiveEvents srcAddr
            header.packetNumber payload now ipEcn

/-- The events of `produce_outgoing_datagram`: the route is evaluated when a datagram goes out. -/
def produceEvents (c : GtpConnection) (now : MonotonicTime) (outBuf : List UInt8) :
    List ControlEvent :=
  if c.hot.state = .closed then []
  else if c.hot.state = .draining ∧ c.hot.controlQueue.isEmpty then
    [.stateChanged c.hot.state .closed]
  else
    c.ptoEvents now ++
      match (c.produceOutgoingDatagram now outBuf).result with
      | .ok (some _) => c.routeEvents now
      | _ => []

/-- The events that a call emits, in their order. -/
def emittedBy (c : GtpConnection) : Op → List ControlEvent
  | .handleIncoming srcAddr datagram now ipEcn => c.handleEvents srcAddr datagram now ipEcn
  | .produce now outBuf => c.produceEvents now outBuf
  | .gracefulClose .. => c.changeEvents .draining
  | .forceClose => c.changeEvents .closed
  | _ => []

/-- The events that a run emits. -/
def emitted (c : GtpConnection) : List Op → List ControlEvent
  | [] => []
  | op :: ops => c.emittedBy op ++ (c.step op).emitted ops

/-! ## 2. The receive path -/

section Receive

omit [CryptoSuite]

/-- The events pushed into the buffer, in their order. -/
abbrev Emits (c : GtpConnection) (log : List ControlEvent) (c' : GtpConnection) : Prop :=
  c'.events = c.events.pushAll ControlEvent.direct log

theorem Emits.trans {c c' c'' : GtpConnection} {log log' : List ControlEvent} (h : Emits c log c')
    (h' : Emits c' log' c'') : Emits c (log ++ log') c'' := by
  rw [Emits, Buffer.pushAll_append, ← h]
  exact h'

/-- A bounded event, behind updates that leave the queue alone. -/
theorem pushEvent_emits {c c' : GtpConnection} (hsame : c'.events = c.events)
    {event : ControlEvent} (h : event.direct = false) : Emits c [event] (c'.pushEvent event) := by
  rw [Emits, ← hsame]
  clear hsame
  generalize c' = c
  unfold events pushEvent
  dsimp only [Buffer.pushAll_cons, Buffer.pushAll_nil, Buffer.push]
  rw [h, if_neg Bool.false_ne_true]
  by_cases hzero : c.config.eventQueueCapacity = 0
  · rw [if_pos hzero, if_pos hzero, if_pos (Or.inl hzero)]
  · rw [if_neg hzero, if_neg hzero]
    by_cases hfull : c.config.eventQueueCapacity ≤ c.eventQueue.length
    · rw [if_pos hfull, if_pos (decide_eq_true hfull), if_pos (Or.inr (decide_eq_true hfull))]
    · rw [if_neg hfull, if_neg (by simpa using hfull), if_neg (by simpa [hzero] using hfull)]

theorem retransmitAll_emits (now : MonotonicTime) (frames : List RetransmissionRecord)
    (c : GtpConnection) : Emits c (resendEvents frames) (frames.foldl (retransmit now) c) := by
  induction frames generalizing c with
  | nil => rfl
  | cons retrans rest ih => exact ih (c.retransmit now retrans)

theorem onAckFrame_emits (c : GtpConnection) (largestAcked : PacketNumber) (ackDelayUs : UInt32)
    (ranges : AckRanges) (rangeCount : UInt8) (now : MonotonicTime) :
    Emits c (c.ackEvents largestAcked ackDelayUs ranges rangeCount now)
      (c.onAckFrame largestAcked ackDelayUs ranges rangeCount now) := by
  unfold ackEvents onAckFrame
  dsimp only
  generalize c.hot.lossDetector.onAckReceived largestAcked ackDelayUs ranges.toList
    rangeCount.toNat now = ev
  obtain ⟨ld, ackEv, lossEv, _⟩ := ev
  dsimp only
  split
  · exact retransmitAll_emits now lossEv.retransmittable { c with
      hot.lossDetector := ld
      hot.cc := ((c.hot.cc.onRtt ld.rttStats.smoothedRtt).onAck ackEv now).onLoss lossEv now }
  · refine Emits.trans ?_ (retransmitAll_emits now lossEv.retransmittable _)
    exact pushEvent_emits rfl rfl

theorem onPathResponse_emits (c : GtpConnection) (srcAddr : SocketAddr) (data : Bytes 8)
    (now : MonotonicTime) :
    Emits c (frameEvents srcAddr now c (.pathResponse data)) (c.onPathResponse srcAddr data now) := by
  unfold frameEvents onPathResponse
  dsimp only
  by_cases hmigrates : (c.hot.pathValidator.validateResponse srcAddr data now).1 = true ∧
      srcAddr ≠ c.hot.activePath
  · rw [if_pos hmigrates, if_pos hmigrates]
    exact pushEvent_emits rfl rfl
  · rw [if_neg hmigrates, if_neg hmigrates]
    rfl

theorem countDrop_events (c : GtpConnection) (disposition : Disposition) :
    (c.countDrop disposition).events = c.events := by
  cases disposition <;> rfl

theorem onAuthenticated_emits (c : GtpConnection) (header : PacketHeader) (srcAddr : SocketAddr)
    (datagramLen : Nat) (now : MonotonicTime) :
    Emits c (c.owdEvents header now) (c.onAuthenticated header srcAddr datagramLen now) := by
  obtain ⟨amp, probe, hcredit⟩ := creditPath_spec
    { c.hot with replayWindow := c.hot.replayWindow.commit header.packetNumber } srcAddr datagramLen
  unfold owdEvents onAuthenticated emitOwd
  dsimp only
  rw [hcredit]
  dsimp only
  by_cases hdue : c.config.owdSampleInterval ≤ now - c.hot.lastOwdEmit
  · rw [if_pos hdue, if_pos hdue]
    exact pushEvent_emits rfl rfl
  · rw [if_neg hdue, if_neg hdue]
    rfl

theorem checkBackpressure_emits (c : GtpConnection) (now : MonotonicTime) :
    Emits c (c.backpressureEvents now) (c.checkBackpressure now) := by
  have hpush : Emits c _ (c.pushEvent (.backpressureChanged c.lastBackpressure
    (c.feedback now).backpressure (c.feedback now).effectiveQueueBytes)) := pushEvent_emits rfl rfl
  unfold backpressureEvents checkBackpressure
  dsimp only
  by_cases hchanged : (c.feedback now).backpressure ≠ c.lastBackpressure
  · rw [if_pos hchanged, if_pos hchanged, if_pos hchanged]
    exact hpush
  · rw [if_neg hchanged, if_neg hchanged, if_neg hchanged]
    rfl

end Receive

/-- **One frame.** -/
theorem dispatch_emits (srcAddr : SocketAddr) (now : MonotonicTime) (s : Dispatch) (frame : Frame) :
    Emits s.conn (frameEvents srcAddr now s.conn frame) (dispatch srcAddr now s frame).conn := by
  cases frame with
  | ack largestAcked ackDelayUs ranges rangeCount =>
    exact s.conn.onAckFrame_emits largestAcked ackDelayUs ranges rangeCount now
  | pathResponse data => exact s.conn.onPathResponse_emits srcAddr data now
  | data | reliableData | retx => exact countDrop_events _ _
  | pathChallenge data =>
    unfold dispatch
    dsimp only
    split <;> rfl
  | _ => rfl

/-- **The dispatch loop.** -/
theorem dispatchAll_emits (srcAddr : SocketAddr) (now : MonotonicTime)
    (items : List (Result Frame)) (s : Dispatch) :
    Emits s.conn (dispatchEvents srcAddr now s items) (dispatchAll srcAddr now s items).conn := by
  induction items generalizing s with
  | nil => rfl
  | cons item rest ih =>
    cases item with
    | error e => rfl
    | ok frame => exact (dispatch_emits srcAddr now s frame).trans (ih _)

theorem receiveFrames_emits (c : GtpConnection) (srcAddr : SocketAddr)
    (packetNumber : PacketNumber) (payload : List UInt8) (now : MonotonicTime) (ipEcn : UInt8) :
    Emits c (c.receiveEvents srcAddr packetNumber payload now ipEcn)
      (c.receiveFrames srcAddr packetNumber payload now ipEcn).2 := by
  have hloop := dispatchAll_emits srcAddr now (FrameIterator.collect payload)
    ⟨c, [], false, none, 0⟩
  unfold receiveEvents receiveFrames
  dsimp only at hloop ⊢
  generalize dispatchAll srcAddr now ⟨c, [], false, none, 0⟩ (FrameIterator.collect payload) = s
    at hloop ⊢
  have hpressed := hloop.trans (checkBackpressure_emits { s.conn with
    hot.ackTracker := s.conn.hot.ackTracker.onPacketReceived packetNumber s.isAckEliciting
      ipEcn.toNat now } now)
  cases s.closeReceived with
  | none =>
    rw [List.append_nil]
    exact hpressed
  | some errorCode => exact hpressed.trans (pushEvent_emits rfl rfl)

/-- **An incoming datagram.** -/
theorem handle_emits (c : GtpConnection) (srcAddr : SocketAddr) (datagram : List UInt8)
    (now : MonotonicTime) (ipEcn : UInt8) :
    Emits c (c.handleEvents srcAddr datagram now ipEcn)
      (c.handleIncomingDatagramWithEcn srcAddr datagram now ipEcn).2 := by
  unfold handleEvents handleIncomingDatagramWithEcn
  by_cases hclosed : c.hot.state = .closed
  · rw [if_pos hclosed, if_pos hclosed]
    rfl
  · rw [if_neg hclosed, if_neg hclosed]
    dsimp only
    cases c.hot.admitHeader datagram with
    | error e => rfl
    | ok admitted =>
      obtain ⟨header, consumed⟩ := admitted
      dsimp only
      cases c.hot.openDatagram header (datagram.take consumed) (datagram.drop consumed) with
      | error e => rfl
      | ok payload =>
        exact (onAuthenticated_emits { c with
          cold.totalRxPackets := c.cold.totalRxPackets + 1
          cold.totalRxBytes := c.cold.totalRxBytes + datagram.length } header srcAddr
          datagram.length now).trans (receiveFrames_emits _ srcAddr header.packetNumber payload now
            ipEcn)

/-! ## 3. The transmit path -/

section Transmit

omit [CryptoSuite]

theorem checkPto_emits (c : GtpConnection) (now : MonotonicTime) :
    Emits c (c.ptoEvents now) (c.checkPto now) := by
  unfold ptoEvents checkPto
  dsimp only
  by_cases hdue : 0 < c.hot.lossDetector.inflightBytes ∧
      c.hot.lossDetector.ptoDurationWithBackoff c.config.ptoMaxDuration ≤
        now - c.hot.lossDetector.timeOfLastAckElicitingPacket
  · rw [if_pos hdue, if_pos hdue]
    rw [← List.singleton_append]
    refine Emits.trans ?_ (retransmitAll_emits now _ _)
    exact pushEvent_emits rfl rfl
  · rw [if_neg hdue, if_neg hdue]
    rfl

theorem tickRouteEvaluation_emits (c : GtpConnection) (now : MonotonicTime) :
    Emits c (c.routeEvents now) (c.tickRouteEvaluation now) := by
  unfold routeEvents tickRouteEvaluation
  cases c.hot.routeController with
  | none => rfl
  | some controller =>
    dsimp only
    rcases controller.evaluate c.hot.routeStats now with ⟨decision, controller'⟩
    cases decision <;> rfl

end Transmit

/-- The route controller, and what it evaluates. -/
def routing (c : GtpConnection) : Option SwitchController × List PathStats :=
  (c.hot.routeController, c.hot.routeStats)

omit [CryptoSuite] in
theorem routeEvents_congr {c c' : GtpConnection} (h : c'.routing = c.routing)
    (now : MonotonicTime) : c'.routeEvents now = c.routeEvents now := by
  obtain ⟨hcontroller, hstats⟩ := Prod.mk.inj h
  rw [routeEvents, routeEvents, hcontroller, hstats]

omit [CryptoSuite] in
theorem prepare_emits (c : GtpConnection) (now : MonotonicTime) :
    Emits c (c.ptoEvents now) (c.prepare now) ∧ (c.prepare now).routing = c.routing := by
  refine ⟨c.checkPto_emits now, ?_⟩
  obtain ⟨ld, cc, s, pv, pac, cold, ev, heq, -⟩ := c.prepare_spec now
  rw [heq]
  rfl

theorem commit_emits (c : GtpConnection) (d : Draft) (len : Nat) (now : MonotonicTime) :
    Emits c (c.routeEvents now) (c.commit d len now) := by
  unfold commit
  dsimp only
  obtain ⟨keys, n, pending, hflush⟩ := ConnectionHot.flushPendingRatchet_frame
    { c.hot with
      antiAmplification := c.hot.antiAmplification.onBytesSent len
      closeFrameSent := c.hot.closeFrameSent || d.drained.any (·.isClose)
      lossDetector := c.hot.lossDetector.onPacketSent
        ⟨c.hot.nextPacketNumber, now, len, d.ackEliciting, d.ackEliciting, d.retransmittables⟩
      pacing := c.hot.pacing.consume len
      nextPacketNumber := PacketNumber.next c.hot.nextPacketNumber
      packetsSinceRatchet := c.hot.packetsSinceRatchet + 1
      ackTracker := if d.ack.isSome then c.hot.ackTracker.commitAckSent now else c.hot.ackTracker }
  rw [hflush]
  exact tickRouteEvaluation_emits { c with
    hot := _
    cold.totalTxPackets := c.cold.totalTxPackets + 1
    cold.totalTxBytes := c.cold.totalTxBytes + len } now

/-- **`produce_outgoing_datagram`.** -/
theorem produce_emits (c : GtpConnection) (now : MonotonicTime) (outBuf : List UInt8) :
    Emits c (c.produceEvents now outBuf) (c.produceOutgoingDatagram now outBuf).conn := by
  obtain ⟨hprepare, hrouting⟩ := c.prepare_emits now
  -- what the draft took and what is put back touches neither the events nor the routes
  have hassemble : ∀ b, PacketBuilder.new outBuf (nextHeader (c.prepare now).hot now) = .ok b →
      ((c.prepare now).assemble b now).2.events = (c.prepare now).events ∧
        ((c.prepare now).assemble b now).2.routing = (c.prepare now).routing := by
    intro b hb
    have hconn := ((c.prepare now).assemble_spec (new_nextHeader hb).1 now).conn
    generalize ((c.prepare now).assemble b now).2 = c2 at hconn ⊢
    rw [hconn]
    exact ⟨rfl, rfl⟩
  have hback : ∀ b, PacketBuilder.new outBuf (nextHeader (c.prepare now).hot now) = .ok b →
      Emits c (c.ptoEvents now) (((c.prepare now).assemble b now).2.putBack
        ((c.prepare now).assemble b now).1 now) := by
    intro b hb
    obtain ⟨s, n, hput, -⟩ := ((c.prepare now).assemble b now).2.putBack_spec
      ((c.prepare now).assemble b now).1 now
    rw [hput]
    exact (hassemble b hb).1.trans hprepare
  unfold produceEvents
  by_cases hclosed : c.hot.state = .closed
  · unfold produceOutgoingDatagram
    rw [if_pos hclosed, if_pos hclosed]
    rfl
  · by_cases hdrained : c.hot.state = .draining ∧ c.hot.controlQueue.isEmpty = true
    · unfold produceOutgoingDatagram
      rw [if_neg hclosed, if_neg hclosed, if_pos hdrained, if_pos hdrained]
      exact pushEvent_emits rfl rfl
    · rw [if_neg hclosed, if_neg hdrained]
      have hexit := c.produce_exit now outBuf
      generalize c.produceOutgoingDatagram now outBuf = p at hexit ⊢
      cases hexit with
      | closed h => exact absurd h hclosed
      | drained h => exact absurd h hdrained
      | idle => exact (List.append_nil (c.ptoEvents now)).symm ▸ hprepare
      | short => exact (List.append_nil (c.ptoEvents now)).symm ▸ hprepare
      | refused hb => exact (List.append_nil (c.ptoEvents now)).symm ▸ hback _ hb
      | limited hb => exact (List.append_nil (c.ptoEvents now)).symm ▸ hback _ hb
      | @sent b len buf hb =>
        obtain ⟨hevents, hroutes⟩ := hassemble b hb
        have hsent := commit_emits ((c.prepare now).assemble b now).2
          ((c.prepare now).assemble b now).1 len now
        rw [Emits, hevents, routeEvents_congr (hroutes.trans hrouting)] at hsent
        exact hprepare.trans hsent

omit [CryptoSuite] in
theorem changeState_emits (c : GtpConnection) (next : ConnectionState) :
    Emits c (c.changeEvents next) (c.changeState next).2 := by
  unfold changeEvents changeState
  cases c.hot.state.transitionTo next with
  | error e => rfl
  | ok state => exact pushEvent_emits rfl rfl

/-! ## 4. Runs -/

/-- **Every call** pushes the events it emits; only `drain_events` takes some out. -/
theorem step_emits (c : GtpConnection) {op : Op} (h : op ≠ .drainEvents) :
    Emits c (c.emittedBy op) (c.step op) := by
  cases op with
  | sendUnreliable payload priority deadline now =>
    obtain ⟨s, id, hs⟩ := c.sendSingle_frame .unreliable payload priority deadline now
    rw [step, sendUnreliable, hs]
    rfl
  | sendSequenced key seq gen deadline payload now =>
    obtain ⟨s, id, hs⟩ := c.sendSingle_frame (.unreliableSequenced key seq gen) payload
      .p2WorldState deadline now
    rw [step, sendSequenced, hs]
    rfl
  | sendReliableUnordered payload priority deadline now =>
    obtain ⟨s, id, hs⟩ := c.sendReliableUnordered_frame payload priority deadline now
    rw [step, hs]
    rfl
  | sendReliableOrdered g payload priority deadline now =>
    obtain ⟨s, id, seqs, hs⟩ := c.sendReliableOrdered_frame g payload priority deadline now
    rw [step, hs]
    rfl
  | handleIncoming srcAddr datagram now ipEcn => exact c.handle_emits srcAddr datagram now ipEcn
  | produce now outBuf => exact c.produce_emits now outBuf
  | gracefulClose code reason => exact (c.queueControl (.close code reason)).changeState_emits _
  | forceClose => exact c.changeState_emits _
  | feedRouteStats id stats =>
    rw [step, feedRouteStats]
    split <;> rfl
  | drainEvents => exact absurd rfl h
  | _ => rfl

theorem run_emits (c : GtpConnection) {ops : List Op} (h : ∀ op ∈ ops, op ≠ .drainEvents) :
    Emits c (c.emitted ops) (c.run ops) := by
  induction ops generalizing c with
  | nil => rfl
  | cons op ops ih =>
    exact (c.step_emits (h op List.mem_cons_self)).trans
      (ih (c.step op) fun x hx => h x (List.mem_cons_of_mem _ hx))

theorem emitted_append (c : GtpConnection) (ops ops' : List Op) :
    c.emitted (ops ++ ops') = c.emitted ops ++ (c.run ops).emitted ops' := by
  induction ops generalizing c with
  | nil => rfl
  | cons op ops ih => rw [List.cons_append, emitted, emitted, ih, List.append_assoc]; rfl

/-- **When the event queue is bounded.**  Along a run without `drain_events`, every event emitted is
in the queue or was counted as dropped; and the queue stays within its capacity exactly when every
event that is appended directly is among the first `event_queue_capacity` events of the run. -/
theorem event_queue_bounded_iff (s : Setup) (ops : List Op) (h : ∀ op ∈ ops, op ≠ .drainEvents) :
    (∀ before, before <+: ops →
      (s.start.run before).eventQueue.length ≤ s.config.eventQueueCapacity ∧
      (s.start.run before).cold.totalDroppedEvents + (s.start.run before).eventQueue.length =
        (s.start.emitted before).length) ↔
    ∀ i event, (s.start.emitted ops)[i]? = some event → event.direct = true →
      i < s.config.eventQueueCapacity := by
  have hbuffer : ∀ before, before <+: ops → (s.start.run before).events =
      (Buffer.mk s.config.eventQueueCapacity [] 0).pushAll ControlEvent.direct
        (s.start.emitted before) := by
    intro before hbefore
    exact s.start.run_emits fun op hop => h op (hbefore.subset hop)
  have hbound : ∀ before, before <+: ops →
      ((s.start.run before).eventQueue.length ≤ s.config.eventQueueCapacity ↔
        ∀ i event, (s.start.emitted before)[i]? = some event → event.direct = true →
          i < s.config.eventQueueCapacity) := by
    intro before hbefore
    have hiff := @Buffer.pushAll_le_iff ControlEvent ControlEvent.direct
      ⟨s.config.eventQueueCapacity, [], 0⟩ (s.start.emitted before) (Nat.zero_le _)
    rw [← hbuffer before hbefore] at hiff
    simp only [List.length_nil, Nat.zero_add] at hiff
    exact hiff
  constructor
  · intro hall
    exact (hbound ops (List.prefix_refl ops)).mp (hall ops (List.prefix_refl ops)).1
  · intro hdirect before hbefore
    refine ⟨(hbound before hbefore).mpr ?_, ?_⟩
    · intro i event hi
      obtain ⟨rest, rfl⟩ := hbefore
      refine hdirect i event ?_
      rw [emitted_append, List.getElem?_append_left (List.getElem?_eq_some_iff.mp hi).1]
      exact hi
    · have haccount := @Buffer.pushAll_account ControlEvent ControlEvent.direct
        ⟨s.config.eventQueueCapacity, [], 0⟩ (s.start.emitted before)
      rw [← hbuffer before hbefore] at haccount
      simp only [List.length_nil, Nat.zero_add] at haccount
      exact haccount

end GtpConnection

/-! ## 5. On concrete connections -/

namespace GtpConnection

attribute [local instance] keyTagSuite

/-- A connection with room for a number of events. -/
def roomFor (capacity : Nat) : Setup :=
  { sampleSetup true with config := { GtpConfig.default with eventQueueCapacity := capacity } }

/-- The connection is closed by its application. -/
def closing : List Op := [.gracefulClose 0 "", .forceClose]

/-- The theorem at two transitions of the state, with room for one event. -/
theorem closing_bounded : (∀ op ∈ closing, op ≠ .drainEvents) ∧
    ((roomFor 1).start.emitted closing).length = 2 ∧
    ((roomFor 1).start.run closing).eventQueue.length ≤ 1 := by
  have hquiet : ∀ op ∈ closing, op ≠ .drainEvents := by simp [closing]
  have hbound := (event_queue_bounded_iff (roomFor 1) closing hquiet).mpr (by
    intro i event hi hdirect
    have hall : ∀ event ∈ (roomFor 1).start.emitted closing, event.direct = false := by
      decide +kernel
    rw [hall event (List.mem_of_getElem? hi)] at hdirect
    cases hdirect)
  exact ⟨hquiet, by decide +kernel, (hbound closing (List.prefix_refl closing)).1⟩

/-- Routes are evaluated, and a datagram goes out. -/
def routed : List Op :=
  [.enableRouteSwitching .shadow [], .sendPing 1, .produce 1000 (List.replicate 100 0)]

/-- **Past the bound.**  A connection whose capacity is zero holds the event of its first route
evaluation. -/
theorem routed_unbounded : (∀ op ∈ routed, op ≠ .drainEvents) ∧
    ((roomFor 0).start.run routed).config.eventQueueCapacity = 0 ∧
    ((roomFor 0).start.run routed).eventQueue.length = 1 := by
  refine ⟨by simp [routed], by decide +kernel, by decide +kernel⟩

end GtpConnection

end Gtp
