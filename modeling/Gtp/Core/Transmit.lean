/-
# The send interface and the transmit path (`produce_outgoing_datagram`)

The send interface hands items to the scheduler.  A reliable message that is too long for a datagram
is cut into fragments that share its id, and the loop over them stops at the first refusal, with the
earlier ones queued.

A call of `produce_outgoing_datagram` runs in phases, each a function here: the state gate, the
probe timeout, the housekeeping, the test whether there is anything to send, the assembly of a
draft (ACK, control frames, data), sealing, and the commit.

* The draft keeps what was taken out of the queues, because every exit before the commit has to put
  it back (`putBack`).
* The probe timeout and the housekeeping come first and are not undone.
* The send budget is compared with one item at a time; `fillData` does not take what it has popped
  off it.
* The ratchet that an announcement deferred fires in the commit, whatever the datagram carried.

The buffer is an argument and part of the result, since a failed call has written to it.  A failure
of the cipher is an error of `sealDraft`; `chunks(0)` would panic, which the reliable sends model as
`none`.
-/
import Gtp.Core.Receive

namespace Gtp

open BigEndian

/-! ## 1. The send interface -/

/-- `slice::chunks`, by recursion on the number of bytes left. -/
def chunksFrom (size : Nat) : Nat → List UInt8 → List (List UInt8)
  | 0, _ => []
  | fuel + 1, bytes =>
    if bytes.isEmpty then []
    else bytes.take size :: chunksFrom size fuel (bytes.drop size)

/-- `payload.chunks(size)`; a size of zero panics, which is `none`. -/
def chunks (size : Nat) (payload : List UInt8) : Option (List (List UInt8)) :=
  if size = 0 then none else some (chunksFrom size payload.length payload)

namespace GtpConnection

/-- `MAX_MESSAGE_FRAME_OVERHEAD`. -/
def maxMessageFrameOverhead : Nat := 27

/-- `max_message_payload`. -/
def maxMessagePayload (c : GtpConnection) : Nat :=
  c.config.minMtu - (minCommonHeaderLen + aeadTagLen + maxMessageFrameOverhead)

/-- Hands one item to the scheduler. -/
def enqueueItem (c : GtpConnection) (item : SchedulableItem) (now : MonotonicTime) :
    Result Unit × GtpConnection :=
  let (res, scheduler) := c.hot.scheduler.enqueue item now
  (res, { c with hot.scheduler := scheduler })

/-- The loop over the fragments: the first refusal ends it, with the earlier ones queued. -/
def enqueueAll (now : MonotonicTime) (c : GtpConnection) :
    List SchedulableItem → Result Unit × GtpConnection
  | [] => (.ok (), c)
  | item :: rest =>
    match c.enqueueItem item now with
    | (.ok (), c) => enqueueAll now c rest
    | (.error e, c) => (.error e, c)

/-- `send_unreliable` and `send_sequenced` differ in the class and the tier only. -/
def sendSingle (c : GtpConnection) (class' : MessageClass) (payload : List UInt8)
    (priority : PriorityTier) (deadline : Option MonotonicTime) (now : MonotonicTime) :
    Result MessageId × GtpConnection :=
  if c.maxMessagePayload < payload.length then
    (.error (.payloadTooLarge c.maxMessagePayload), c)
  else
    let msgId := c.hot.nextMessageId
    let c := { c with hot.nextMessageId := msgId + 1 }
    let item : SchedulableItem :=
      { messageId := msgId
        class'
        priority
        createdAt := now
        deadline
        supersedable := true
        payload
        fragmentId := 0
        totalFragments := 1 }
    let (res, c) := c.enqueueItem item now
    (res.map fun _ => msgId, c)

/-- `send_unreliable`. -/
def sendUnreliable (c : GtpConnection) (payload : List UInt8) (priority : PriorityTier)
    (deadline : Option MonotonicTime) (now : MonotonicTime) : Result MessageId × GtpConnection :=
  c.sendSingle .unreliable payload priority deadline now

/-- `send_sequenced`. -/
def sendSequenced (c : GtpConnection) (stateKey : StateKey) (sequence : StateSequence)
    (generation : GenerationId) (deadline : Option MonotonicTime) (payload : List UInt8)
    (now : MonotonicTime) : Result MessageId × GtpConnection :=
  c.sendSingle (.unreliableSequenced stateKey sequence generation) payload .p2WorldState deadline
    now

/-- The items of a fragmented reliable message. -/
def fragmentItems (msgId : MessageId) (class' : MessageClass) (priority : PriorityTier)
    (deadline : Option MonotonicTime) (total : Nat) (now : MonotonicTime)
    (pieces : List (List UInt8)) : List SchedulableItem :=
  pieces.zipIdx.map fun (chunk, idx) =>
    { messageId := msgId
      class'
      priority
      createdAt := now
      deadline
      supersedable := false
      payload := chunk
      fragmentId := UInt16.ofNat idx
      totalFragments := UInt16.ofNat total }

/-- The fragment loop of both reliable sends; `none` is the panic of `chunks(0)`. -/
def enqueueFragments (c : GtpConnection) (msgId : MessageId) (class' : MessageClass)
    (payload : List UInt8) (priority : PriorityTier) (deadline : Option MonotonicTime)
    (total : Nat) (now : MonotonicTime) : Option (Result MessageId) × GtpConnection :=
  match chunks c.maxMessagePayload payload with
  | none => (none, c)
  | some pieces =>
    let (res, c) := enqueueAll now c
      (fragmentItems msgId class' priority deadline total now pieces)
    (some (res.map fun _ => msgId), c)

/-- `send_reliable_unordered`: the message id is consumed before the length is checked. -/
def sendReliableUnordered (c : GtpConnection) (payload : List UInt8) (priority : PriorityTier)
    (deadline : Option MonotonicTime) (now : MonotonicTime) :
    Option (Result MessageId) × GtpConnection :=
  let msgId := c.hot.nextMessageId
  let c := { c with hot.nextMessageId := msgId + 1 }
  match messageFragmentCount payload.length c.maxMessagePayload with
  | .error e => (some (.error e), c)
  | .ok total => c.enqueueFragments msgId .reliableUnordered payload priority deadline total now

/-- `send_reliable_ordered`: one order sequence number for the whole message. -/
def sendReliableOrdered (c : GtpConnection) (groupId : OrderedGroupId) (payload : List UInt8)
    (priority : PriorityTier) (deadline : Option MonotonicTime) (now : MonotonicTime) :
    Option (Result MessageId) × GtpConnection :=
  match messageFragmentCount payload.length c.maxMessagePayload with
  | .error e => (some (.error e), c)
  | .ok total =>
    let orderSeq := (c.hot.nextOrderSeqs[groupId]?).getD 0
    let msgId := c.hot.nextMessageId
    let c := { c with
      hot.nextOrderSeqs := c.hot.nextOrderSeqs.insert groupId (orderSeq + 1)
      hot.nextMessageId := msgId + 1 }
    c.enqueueFragments msgId (.reliableOrdered groupId orderSeq) payload priority deadline total now

/-! ## 2. Before the draft -/

/-- `PERSISTENT_CONGESTION_PTO_COUNT`. -/
def persistentCongestionPtoCount : Nat := 3

/-- Step 0: the probe timeout. -/
def checkPto (c : GtpConnection) (now : MonotonicTime) : GtpConnection :=
  let d := c.hot.lossDetector
  if 0 < d.inflightBytes ∧
      d.ptoDurationWithBackoff c.config.ptoMaxDuration ≤ now - d.timeOfLastAckElicitingPacket then
    let (d, lossEv) := d.onTimeout
    let c := { c with
      hot.lossDetector := d
      hot.cc := if persistentCongestionPtoCount ≤ d.ptoCount then c.hot.cc.onTimeout now
        else c.hot.cc }
    let c := c.pushEvent (.ptoTriggered d.ptoCount d.inflightBytes)
    let c := lossEv.retransmittable.foldl (retransmit now) c
    { c with hot.lossDetector.timeOfLastAckElicitingPacket := now }
  else c

/-- Steps 1 and 2: expired messages, a timed-out challenge, the token bucket. -/
def housekeeping (c : GtpConnection) (now : MonotonicTime) : GtpConnection :=
  let (scheduler, pruned) := c.hot.scheduler.pruneStale now
  { c with
    cold.totalStaleDrops := c.cold.totalStaleDrops + pruned
    hot.scheduler := scheduler
    hot.pathValidator := c.hot.pathValidator.expire now
    hot.pacing := c.hot.pacing.updateTokens c.hot.cc.pacingRate now }

/-- The send budget of this call. -/
def sendBudget (c : GtpConnection) : Nat :=
  c.hot.pacing.sendBudget c.hot.cc.cwnd c.hot.lossDetector.inflightBytes

/-- Nothing is due, or only data and the budget does not allow it. -/
def idle (c : GtpConnection) (now : MonotonicTime) : Bool :=
  let shouldAck := c.hot.ackTracker.shouldSendAck now
  let hasQueuedData := !c.hot.scheduler.isEmpty && decide (c.hot.state = .established)
  let hasControl := !c.hot.controlQueue.isEmpty
  (!shouldAck && !hasQueuedData && !hasControl) ||
    (!shouldAck && !hasControl && decide (c.sendBudget < 64))

/-! ## 3. The draft -/

/-- The frame that carries an item. -/
def itemFrame (item : SchedulableItem) : Frame :=
  match item.class' with
  | .unreliable => .data item.messageId StateKey.default 0 0 0 item.payload
  | .unreliableSequenced stateKey sequence generation =>
    .data item.messageId stateKey sequence generation 0 item.payload
  | .reliableUnordered =>
    .reliableData item.messageId item.fragmentId item.totalFragments 0 0 item.payload
  | .reliableOrdered groupId orderSeq =>
    .reliableData item.messageId item.fragmentId item.totalFragments groupId orderSeq item.payload

/-- The record of a reliable item, kept for retransmission. -/
def retransmissionRecord (item : SchedulableItem) : Option RetransmissionRecord :=
  let record := fun (groupId : OrderedGroupId) (orderSeq : UInt32) =>
    some (⟨item.messageId, item.fragmentId, 1, groupId, orderSeq, item.totalFragments,
      item.payload⟩ : RetransmissionRecord)
  match item.class' with
  | .reliableUnordered => record 0 0
  | .reliableOrdered groupId orderSeq => record groupId orderSeq
  | _ => none

/-- A datagram under construction, with what it took out of the queues. -/
structure Draft where
  builder : PacketBuilder
  ack : Option Frame
  drained : List OutgoingControlFrame
  overrideDest : Option SocketAddr
  popped : List SchedulableItem

namespace Draft

/-- The frames that were appended, in order. -/
def frames (d : Draft) : List Frame :=
  d.ack.toList ++ d.drained.map (·.buildControlFrame) ++ d.popped.map itemFrame

/-- `ack_eliciting`: set by every control frame and every item. -/
def ackEliciting (d : Draft) : Bool := !d.drained.isEmpty || !d.popped.isEmpty

/-- `retransmittables`. -/
def retransmittables (d : Draft) : List RetransmissionRecord :=
  d.popped.filterMap retransmissionRecord

end Draft

/-- Step 3: the ACK, unless a directed frame is queued anywhere (R-7). -/
def appendAck (c : GtpConnection) (builder : PacketBuilder) (now : MonotonicTime) :
    Option Frame × PacketBuilder :=
  let directedAhead := c.hot.controlQueue.any (·.directed c.hot.activePath)
  if c.hot.ackTracker.shouldSendAck now && !directedAhead then
    match c.hot.ackTracker.peekAckFrame now with
    | some ack =>
      match builder.appendFrame ack with
      | (.ok (), builder) => (some ack, builder)
      | (.error _, builder) => (none, builder)
    | none => (none, builder)
  else (none, builder)

/-- Step 3b: the control queue, front to back.  A directed frame claims the datagram (even when it
then does not fit) and ends the drain; so does the first frame that does not fit. -/
def drainControls (activePath : SocketAddr) (d : Draft) :
    List OutgoingControlFrame → Draft × List OutgoingControlFrame
  | [] => (d, [])
  | ctrl :: rest =>
    if d.overrideDest.isSome then (d, ctrl :: rest)
    else
      let d := { d with overrideDest := if ctrl.directed activePath then ctrl.dest? else none }
      match d.builder.appendFrame ctrl.buildControlFrame with
      | (.ok (), builder) =>
        drainControls activePath { d with builder, drained := d.drained ++ [ctrl] } rest
      | (.error _, builder) => ({ d with builder }, ctrl :: rest)

/-- Step 4: data within the budget.  Every turn appends at least one byte, so the capacity left
bounds the turns. -/
def fillData (sendBudget : Nat) (now : MonotonicTime) :
    Nat → Draft → GtpConnection → Draft × GtpConnection
  | 0, d, c => (d, c)
  | fuel + 1, d, c =>
    if 64 < d.builder.remainingCapacity ∧ d.overrideDest.isNone then
      match c.hot.scheduler.popNext (min sendBudget d.builder.remainingCapacity) now with
      | (none, scheduler) => (d, { c with hot.scheduler := scheduler })
      | (some item, scheduler) =>
        match d.builder.appendFrame (itemFrame item) with
        | (.ok (), builder) =>
          fillData sendBudget now fuel { d with builder, popped := d.popped ++ [item] }
            { c with hot.scheduler := scheduler }
        | (.error _, builder) =>
          -- an item that was popped is never dropped silently (D-2)
          let (res, scheduler) := scheduler.requeue item now
          ({ d with builder },
            { c with
              hot.scheduler := scheduler
              cold.totalDroppedFrames := match res with
                | .ok () => c.cold.totalDroppedFrames
                | .error _ => c.cold.totalDroppedFrames + 1 })
    else (d, c)

/-- Steps 3 to 4: the draft, and the connection without what it took. -/
def assemble (c : GtpConnection) (builder : PacketBuilder) (now : MonotonicTime) :
    Draft × GtpConnection :=
  let (ack, builder) := c.appendAck builder now
  let (d, controlQueue) :=
    drainControls c.hot.activePath ⟨builder, ack, [], none, []⟩ c.hot.controlQueue
  let budget := c.sendBudget
  let c := { c with hot.controlQueue := controlQueue }
  if c.hot.state = .established then fillData budget now d.builder.remainingCapacity d c
  else (d, c)

/-! ## 4. Sealing and the commit -/

/-- `requeue_popped` for one item. -/
def requeueItem (now : MonotonicTime) (item : SchedulableItem) (c : GtpConnection) :
    GtpConnection :=
  let (res, scheduler) := c.hot.scheduler.requeue item now
  { c with
    hot.scheduler := scheduler
    cold.totalDroppedFrames := match res with
      | .ok () => c.cold.totalDroppedFrames
      | .error _ => c.cold.totalDroppedFrames + 1 }

/-- `requeue_controls` and `requeue_popped`: the queues get back what the draft took. -/
def putBack (c : GtpConnection) (d : Draft) (now : MonotonicTime) : GtpConnection :=
  let c := { c with hot.controlQueue := d.drained ++ c.hot.controlQueue }
  d.popped.foldr (requeueItem now) c

variable [CryptoSuite]

/-- Steps 5 and 6: header, length check, payload length, seal.  The datagram length and the
buffer. -/
def sealDraft (h : ConnectionHot) (pn : PacketNumber) (builder : PacketBuilder) :
    Result Nat × List UInt8 :=
  match builder.finish with
  | (.error e, buf) => (.error e, buf)
  | (.ok unencryptedLen, buf) =>
    let headerLen := minCommonHeaderLen
    let unsealedPayloadLen := unencryptedLen - headerLen
    let finalPayloadLen := unsealedPayloadLen + aeadTagLen
    if 65535 < finalPayloadLen then (.error .bufferOverflow, buf)
    else
      let aad := buf.take (headerLen - 2) ++ toBe 2 finalPayloadLen
      let (res, payload) :=
        h.txProtector.sealPayload pn h.connectionId aad (buf.drop headerLen) unsealedPayloadLen
      (res.map fun sealedLen => headerLen + sealedLen, aad ++ payload)

omit [CryptoSuite] in
/-- `tick_route_evaluation`. -/
def tickRouteEvaluation (c : GtpConnection) (now : MonotonicTime) : GtpConnection :=
  match c.hot.routeController with
  | none => c
  | some controller =>
    let (decision, controller) := controller.evaluate c.hot.routeStats now
    let addrOf := fun id : UInt32 => (c.hot.routePaths.find? fun p => p.1 = id).map Prod.snd
    let event : ControlEvent := match decision with
      | .hold current reason => .routeHeld current reason.code
      | .switch fromPath toPath _ => .routeSwitched fromPath toPath "clear_winner"
      | .revert fromPath toPath => .routeReverted fromPath toPath
    let moved := match decision with
      | .switch _ toPath _ => (addrOf toPath).getD c.hot.activePath
      | .revert _ toPath => (addrOf toPath).getD c.hot.activePath
      | .hold .. => c.hot.activePath
    let synced := match controller.policy, controller.selected with
      | .enforce, some id => (addrOf id).getD moved
      | _, _ => moved
    { c with
      hot.routeController := some controller
      hot.activePath := synced }.pushEventUnbounded event

/-- Steps 7 and 8: the datagram of `len` bytes is on its way. -/
def commit (c : GtpConnection) (d : Draft) (len : Nat) (now : MonotonicTime) : GtpConnection :=
  let pn := c.hot.nextPacketNumber
  let record : SentPacketRecord :=
    { packetNumber := pn
      sendTime := now
      bytes := len
      ackEliciting := d.ackEliciting
      inFlight := d.ackEliciting
      retransmittableFrames := d.retransmittables }
  let hot := { c.hot with
    antiAmplification := c.hot.antiAmplification.onBytesSent len
    closeFrameSent := c.hot.closeFrameSent || d.drained.any (·.isClose)
    lossDetector := c.hot.lossDetector.onPacketSent record
    pacing := c.hot.pacing.consume len
    nextPacketNumber := PacketNumber.next pn
    packetsSinceRatchet := c.hot.packetsSinceRatchet + 1
    ackTracker := if d.ack.isSome then c.hot.ackTracker.commitAckSent now else c.hot.ackTracker }
  let c := { c with
    hot := hot.flushPendingRatchet
    cold.totalTxPackets := c.cold.totalTxPackets + 1
    cold.totalTxBytes := c.cold.totalTxBytes + len }
  c.tickRouteEvaluation now

/-! ## 5. The call -/

/-- What one call returns: the result, the connection and the buffer. -/
structure Produced where
  result : Result (Option (SocketAddr × Nat))
  conn : GtpConnection
  buf : List UInt8

/-- The header of the next datagram. -/
def nextHeader (h : ConnectionHot) (now : MonotonicTime) : PacketHeader :=
  let header := PacketHeader.newShort h.connectionId h.nextPacketNumber (UInt32.ofNat now) 0
  { header with flags := header.flags.setKeyPhase h.keyPhase }

/-- From the draft on: seal, the amplification gate, commit.  Every earlier exit puts the draft
back. -/
def launch (c : GtpConnection) (d : Draft) (now : MonotonicTime) : Produced :=
  match sealDraft c.hot c.hot.nextPacketNumber d.builder with
  | (.error e, buf) => ⟨.error e, c.putBack d now, buf⟩
  | (.ok len, buf) =>
    if !c.hot.antiAmplification.canSend len then ⟨.ok none, c.putBack d now, buf⟩
    else ⟨.ok (some (d.overrideDest.getD c.hot.activePath, len)), c.commit d len now, buf⟩

omit [CryptoSuite] in
/-- A draining connection whose control queue has run empty is closed. -/
def finishDraining (c : GtpConnection) : GtpConnection :=
  { c with hot.state := c.hot.state.moveTo .closed }.pushEvent
    (.stateChanged c.hot.state .closed)

/-- `produce_outgoing_datagram`. -/
def produceOutgoingDatagram (c : GtpConnection) (now : MonotonicTime) (outBuf : List UInt8) :
    Produced :=
  if c.hot.state = .closed then ⟨.ok none, c, outBuf⟩
  else if c.hot.state = .draining ∧ c.hot.controlQueue.isEmpty then
    ⟨.ok none, c.finishDraining, outBuf⟩
  else
    let c := (c.checkPto now).housekeeping now
    if c.idle now then ⟨.ok none, c, outBuf⟩
    else
      match PacketBuilder.new outBuf (nextHeader c.hot now) with
      | .error e => ⟨.error e, c, outBuf⟩
      | .ok builder =>
        let (d, c) := c.assemble builder now
        c.launch d now

end GtpConnection

end Gtp
