/-
# The receive path (`handle_incoming_datagram_with_ecn`)

In the source's order: the closed gate, header, connection id, replay check, the choice of key, the
bookkeeping that only an authenticated datagram earns, the frame dispatch loop, the ACK tracker,
backpressure, and last the close.  Each arm of the dispatch is a function of its own; the loop stops
at the first frame that does not decode.

Four things are easily overlooked.

* An authenticated datagram that carries a `Close` frame returns an error: whatever the same
  datagram delivered before is not returned.
* A frame that does not decode is counted, and the frames in front of it stand: the packet is
  acknowledged.
* The previous receive key is tried when the current one does not open, within its grace window.
* A `PathResponse` that answers a challenge from a new address migrates the connection in the middle
  of the loop; the frames behind it find the new path.

`ip_ecn` is an argument.  The bookkeeping that precedes authentication is three counters
(`totalRxPackets` and the like), and they are all that an unauthenticated datagram changes.
-/
import Gtp.Core.State
import Gtp.Wire.Codec

namespace Gtp

/-! ## 1. Authentication -/

namespace ConnectionHot

variable [CryptoSuite]

/-- Steps 1 to 3: header, connection id, replay window. -/
def admitHeader (h : ConnectionHot) (datagram : List UInt8) : Result (PacketHeader × Nat) := do
  let (header, headerConsumed) ← PacketHeader.decode datagram
  if header.connectionId ≠ h.connectionId then
    throw (.invalidPacket "Mismatched Connection ID")
  h.replayWindow.check header.packetNumber
  return (header, headerConsumed)

/-- Step 4: the key the wire bit points at, then the current key, then the previous one. -/
def openDatagram (h : ConnectionHot) (header : PacketHeader) (aad encrypted : List UInt8) :
    Result (List UInt8) :=
  let tryOpen := fun p : Protector =>
    p.openPayload header.packetNumber header.connectionId aad encrypted encrypted.length
  let preferPrev : Bool := header.flags.keyPhase != h.keyPhase
  let first : Result (List UInt8) := match preferPrev, h.rxProtectorPrev with
    | true, some prev => tryOpen prev
    | _, _ => .error .cryptoFailure
  let second : Result (List UInt8) := match first with
    | .ok pt => .ok pt
    | .error _ => tryOpen h.rxProtector
  match second, preferPrev, h.rxProtectorPrev with
  | .error _, false, some prev => tryOpen prev
  | r, _, _ => r

omit [CryptoSuite] in
/-- The credit of an authenticated datagram follows its source address: the active path is
validated by it, the address under challenge earns budget only, any other nothing. -/
def creditPath (h : ConnectionHot) (srcAddr : SocketAddr) (datagramLen : Nat) : ConnectionHot :=
  if srcAddr = h.activePath then
    { h with
      antiAmplification := (h.antiAmplification.onBytesReceived datagramLen).markValidated }
  else
    match h.antiAmplificationProbe with
    | some (probeAddr, probe) =>
      if probeAddr = srcAddr ∧ h.pathValidator.pendingAddr = some srcAddr then
        { h with antiAmplificationProbe := some (probeAddr, probe.onBytesReceived datagramLen) }
      else h
    | none => h

end ConnectionHot

/-! ## 2. Bookkeeping of an authenticated datagram -/

namespace GtpConnection

/-- The one-way-delay sample, emitted at a bounded rate. -/
def emitOwd (c : GtpConnection) (now : MonotonicTime) : GtpConnection :=
  if c.config.owdSampleInterval ≤ now - c.hot.lastOwdEmit then
    let sample := c.hot.owd.sample
    { c with hot.lastOwdEmit := now }.pushEvent
      (.owdSample sample.owdVarUs sample.jitterUs sample.epoch)
  else c

/-- Replay commit, path credit, grace tick, receive time and one-way delay. -/
def onAuthenticated (c : GtpConnection) (header : PacketHeader) (srcAddr : SocketAddr)
    (datagramLen : Nat) (now : MonotonicTime) : GtpConnection :=
  let hot := { c.hot with replayWindow := c.hot.replayWindow.commit header.packetNumber }
  let hot := hot.creditPath srcAddr datagramLen
  let hot := { hot with
    toSessionKeys := hot.tickRxKeyGrace
    lastRxTime := some now
    owd := hot.owd.onPacket header.timestampMicros now }
  { c with hot }.emitOwd now

/-! ## 3. The dispatch arms -/

/-- `retransmission_item`. -/
def retransmissionItem (retrans : RetransmissionRecord) (now : MonotonicTime) :
    SchedulableItem where
  messageId := retrans.messageId
  class' := if retrans.groupId = 0 then .reliableUnordered
    else .reliableOrdered retrans.groupId retrans.orderSeq
  priority := .p3ReliableGameplay
  createdAt := now
  deadline := none
  supersedable := false
  fragmentId := retrans.fragmentId
  totalFragments := retrans.totalFragments
  payload := retrans.payload

/-- One lost frame back into the scheduler; a refusal is counted (ORD-3). -/
def retransmit (now : MonotonicTime) (c : GtpConnection) (retrans : RetransmissionRecord) :
    GtpConnection :=
  let c := { c with cold.totalRetransmissions := c.cold.totalRetransmissions + 1 }
  let c := c.pushEventUnbounded (.retransmissionTriggered retrans.messageId retrans.fragmentId)
  let (res, scheduler) := c.hot.scheduler.enqueue (retransmissionItem retrans now) now
  { c with
    hot.scheduler := scheduler
    cold.totalDroppedFrames := match res with
      | .ok () => c.cold.totalDroppedFrames
      | .error _ => c.cold.totalDroppedFrames + 1 }

/-- The `Ack` arm. -/
def onAckFrame (c : GtpConnection) (largestAcked : PacketNumber) (ackDelayUs : UInt32)
    (ranges : AckRanges) (rangeCount : UInt8) (now : MonotonicTime) : GtpConnection :=
  let (lossDetector, ackEv, lossEv, _) := c.hot.lossDetector.onAckReceived largestAcked ackDelayUs
    ranges.toList rangeCount.toNat now
  let cc := c.hot.cc.onRtt lossDetector.rttStats.smoothedRtt
  let cc := (cc.onAck ackEv now).onLoss lossEv now
  let c := { c with hot.lossDetector := lossDetector, hot.cc := cc }
  let c := if lossEv.lostPackets.isEmpty then c
    else c.pushEvent (.packetLossDetected lossEv.lostPackets.length lossEv.bytesLost)
  lossEv.retransmittable.foldl (retransmit now) c

def countDrop (c : GtpConnection) : Disposition → GtpConnection
  | .delivered _ => c
  | .stored => c
  | .staleDrop => { c with cold.totalStaleDrops := c.cold.totalStaleDrops + 1 }
  | .duplicateDrop => { c with cold.totalDuplicateDrops := c.cold.totalDuplicateDrops + 1 }
  | .fragmentDrop => { c with cold.totalFragmentDrops := c.cold.totalFragmentDrops + 1 }
  | .frameDrop => { c with cold.totalDroppedFrames := c.cold.totalDroppedFrames + 1 }

/-- `MAX_PATH_RESPONSES_PER_DATAGRAM`. -/
def maxPathResponsesPerDatagram : Nat := 1

/-- `MAX_PENDING_PATH_RESPONSES`. -/
def maxPendingPathResponses : Nat := 2

/-- Whether a `PathChallenge` is answered: from the active path only, at most one per datagram,
at most two queued (New-12). -/
def answers (c : GtpConnection) (srcAddr : SocketAddr) (fromThisDatagram : Nat) : Bool :=
  decide (srcAddr = c.hot.activePath) &&
    decide (fromThisDatagram < maxPathResponsesPerDatagram) &&
    decide ((c.hot.controlQueue.filter (·.isPathResponse)).length < maxPendingPathResponses)

/-- The `PathResponse` arm: an answered challenge from a new address migrates the path. -/
def onPathResponse (c : GtpConnection) (srcAddr : SocketAddr) (data : Bytes 8)
    (now : MonotonicTime) : GtpConnection :=
  let (valid, pathValidator) := c.hot.pathValidator.validateResponse srcAddr data now
  let c := { c with hot.pathValidator := pathValidator }
  if valid ∧ srcAddr ≠ c.hot.activePath then
    let oldAddr := c.hot.activePath
    let promoted := match c.hot.antiAmplificationProbe with
      | some (probeAddr, probe) =>
        if probeAddr = srcAddr then probe
        else .withFactor c.config.antiAmplificationFactor
      | none => .withFactor c.config.antiAmplificationFactor
    { c with
      hot.activePath := srcAddr
      hot.antiAmplificationProbe := none
      hot.antiAmplification := promoted.markValidated
      hot.lossDetector := c.hot.lossDetector.onPathMigration c.hot.nextPacketNumber
      hot.owd := .default }.pushEvent (.pathMigrated oldAddr srcAddr)
  else c

/-- The `AckFrequency` arm (REC-7). -/
def onAckFrequency (c : GtpConnection) (ackFrequencyPackets : UInt8) (maxAckDelayMs : UInt16)
    (reorderThreshold : UInt8) : GtpConnection :=
  let maxAckDelay := Duration.fromMillis maxAckDelayMs.toNat
  { c with
    config.ackFrequencyPackets := ackFrequencyPackets
    config.maxAckDelay := maxAckDelay
    config.ackReorderThreshold := reorderThreshold
    hot.ackTracker := c.hot.ackTracker.setPolicy ackFrequencyPackets maxAckDelay }

/-! ## 4. The dispatch loop -/

/-- The loop's local variables, with the connection it works on. -/
structure Dispatch where
  conn : GtpConnection
  deliveredMessages : List ReceivedMessage
  isAckEliciting : Bool
  closeReceived : Option UInt16
  pathResponses : Nat

variable [CryptoSuite]

/-- The dispatch of one frame. -/
def dispatch (srcAddr : SocketAddr) (now : MonotonicTime) (s : Dispatch) (frame : Frame) :
    Dispatch :=
  let s := { s with isAckEliciting := s.isAckEliciting || frame.isAckEliciting }
  match frame with
  | .ack largestAcked ackDelayUs ranges rangeCount _ _ _ =>
    { s with conn := s.conn.onAckFrame largestAcked ackDelayUs ranges rangeCount now }
  | .data .. | .reliableData .. | .retx .. =>
    let (disposition, delivery) := s.conn.hot.toDeliveryState.onFrame frame now
    { s with
      conn := { s.conn with hot.toDeliveryState := delivery }.countDrop disposition
      deliveredMessages := s.deliveredMessages ++ disposition.messages }
  | .pathChallenge data =>
    if s.conn.answers srcAddr s.pathResponses then
      { s with
        conn := { s.conn with
          hot.controlQueue := s.conn.hot.controlQueue ++ [.pathResponse data srcAddr] }
        pathResponses := s.pathResponses + 1 }
    else s
  | .pathResponse data => { s with conn := s.conn.onPathResponse srcAddr data now }
  | .keyUpdate nextPhase _ =>
    { s with conn := { s.conn with hot := s.conn.hot.onKeyUpdate nextPhase } }
  | .ackFrequency ackFrequencyPackets maxAckDelayMs reorderThreshold =>
    { s with conn := s.conn.onAckFrequency ackFrequencyPackets maxAckDelayMs reorderThreshold }
  | .close errorCode _ => { s with closeReceived := some errorCode }
  | _ => s

/-- The loop over the frame iterator: the first error is counted and ends it. -/
def dispatchAll (srcAddr : SocketAddr) (now : MonotonicTime) :
    Dispatch → List (Result Frame) → Dispatch
  | s, [] => s
  | s, .ok frame :: rest => dispatchAll srcAddr now (dispatch srcAddr now s frame) rest
  | s, .error _ :: _ =>
    { s with conn := { s.conn with
        cold.totalCorruptedPackets := s.conn.cold.totalCorruptedPackets + 1 } }

/-! ## 5. The call -/

omit [CryptoSuite] in
/-- Step 7: a backpressure change is an event. -/
def checkBackpressure (c : GtpConnection) (now : MonotonicTime) : GtpConnection :=
  let feedback := c.feedback now
  let pushed := c.pushEvent (.backpressureChanged c.lastBackpressure feedback.backpressure
    feedback.effectiveQueueBytes)
  let changed := feedback.backpressure ≠ c.lastBackpressure
  { c with
    eventQueue := if changed then pushed.eventQueue else c.eventQueue
    cold := if changed then pushed.cold else c.cold
    lastBackpressure := feedback.backpressure }

omit [CryptoSuite] in
/-- Step 8: the peer closed. -/
def onClose (c : GtpConnection) : GtpConnection :=
  { c with hot.state := c.hot.state.moveTo .closed }.pushEvent
    (.stateChanged c.hot.state .closed)

/-- Steps 5 to 8, on the decrypted payload. -/
def receiveFrames (c : GtpConnection) (srcAddr : SocketAddr) (packetNumber : PacketNumber)
    (payload : List UInt8) (now : MonotonicTime) (ipEcn : UInt8) :
    Result (List ReceivedMessage) × GtpConnection :=
  let s := dispatchAll srcAddr now ⟨c, [], false, none, 0⟩ (FrameIterator.collect payload)
  let c := { s.conn with
    hot.ackTracker := s.conn.hot.ackTracker.onPacketReceived packetNumber s.isAckEliciting
      ipEcn.toNat now }
  let c := c.checkBackpressure now
  match s.closeReceived with
  | some errorCode => (.error (.connectionClosed errorCode), c.onClose)
  | none => (.ok s.deliveredMessages, c)

/-- `handle_incoming_datagram_with_ecn`. -/
def handleIncomingDatagramWithEcn (c : GtpConnection) (srcAddr : SocketAddr)
    (datagram : List UInt8) (now : MonotonicTime) (ipEcn : UInt8) :
    Result (List ReceivedMessage) × GtpConnection :=
  if c.hot.state = .closed then (.ok [], c)
  else
    let c := { c with
      cold.totalRxPackets := c.cold.totalRxPackets + 1
      cold.totalRxBytes := c.cold.totalRxBytes + datagram.length }
    match c.hot.admitHeader datagram with
    | .error e => (.error e, c)
    | .ok (header, headerConsumed) =>
      match c.hot.openDatagram header (datagram.take headerConsumed)
          (datagram.drop headerConsumed) with
      | .error e =>
        (.error e,
          { c with cold.totalCorruptedPackets := c.cold.totalCorruptedPackets + 1 })
      | .ok payload =>
        (c.onAuthenticated header srcAddr datagram.length now).receiveFrames srcAddr
          header.packetNumber payload now ipEcn

end GtpConnection

end Gtp
