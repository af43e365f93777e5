/-
# Counters are for reading

The engine counts packets, bytes, drops and retransmissions, and nothing in it reads what it has
counted.  So a connection may be `Recounted`: with other counters every call returns the same, and
the counters are again all that differs (`Recounted.step`, `Recounted.datagramOf`,
`Recounted.messagesOf`).  The runtime counts what it could not deliver into the same state, and this
is why the engine does not notice.

* Each function of the receive path and of the transmit path has one lemma, in the order in which
  the path calls them; `RecountedIn` is the relation on what they return.
* The proofs do not unfold a callee: a function that counts in several places is followed through
  its branches once, here.

A function that began to read a counter would break its lemma and no other.  What is left out is
that the counters count what they say: for junk that is the subject of `Gtp.Core.Forged`, and for
the bytes in flight of `Gtp.Recovery.Accounting`.
-/
import Gtp.Core.Unreliable

namespace Gtp

namespace GtpConnection

/-! ## 1. Connections with other counters -/

/-- The second connection is the first with other counters. -/
def Recounted (c c' : GtpConnection) : Prop := ∃ cold, c' = { c with cold }

/-- The calls return the same, and their connections differ in the counters only. -/
def RecountedIn {α : Type} (r r' : α × GtpConnection) : Prop := r'.1 = r.1 ∧ Recounted r.2 r'.2

theorem Recounted.refl (c : GtpConnection) : Recounted c c := ⟨c.cold, rfl⟩

theorem Recounted.trans {c c' c'' : GtpConnection} (h : Recounted c c') (h' : Recounted c' c'') :
    Recounted c c'' := by
  obtain ⟨cold, rfl⟩ := h
  obtain ⟨cold', rfl⟩ := h'
  exact ⟨cold', rfl⟩

theorem Recounted.hot {c c' : GtpConnection} (h : Recounted c c') : c'.hot = c.hot := by
  obtain ⟨cold, rfl⟩ := h
  rfl

section

variable {c c' : GtpConnection}

/-! ## 2. The receive path -/

theorem pushEvent_recounted (h : Recounted c c') (event : ControlEvent) :
    Recounted (c.pushEvent event) (c'.pushEvent event) := by
  obtain ⟨cold, rfl⟩ := h
  unfold pushEvent
  dsimp only
  split
  · exact ⟨_, rfl⟩
  · exact ⟨_, rfl⟩

theorem onAuthenticated_recounted (h : Recounted c c') (header : PacketHeader)
    (srcAddr : SocketAddr) (datagramLen : Nat) (now : MonotonicTime) :
    Recounted (c.onAuthenticated header srcAddr datagramLen now)
      (c'.onAuthenticated header srcAddr datagramLen now) := by
  obtain ⟨cold, rfl⟩ := h
  unfold onAuthenticated emitOwd
  dsimp only
  split
  · exact pushEvent_recounted ⟨_, rfl⟩ _
  · exact ⟨_, rfl⟩

theorem retransmitAll_recounted (now : MonotonicTime) (rs : List RetransmissionRecord)
    (h : Recounted c c') :
    Recounted (rs.foldl (retransmit now) c) (rs.foldl (retransmit now) c') := by
  induction rs generalizing c c' with
  | nil => exact h
  | cons r rs ih =>
    refine ih ?_
    obtain ⟨cold, rfl⟩ := h
    exact ⟨_, rfl⟩

theorem onAckFrame_recounted (h : Recounted c c') (l : PacketNumber) (d : UInt32) (r : AckRanges)
    (n : UInt8) (now : MonotonicTime) :
    Recounted (c.onAckFrame l d r n now) (c'.onAckFrame l d r n now) := by
  obtain ⟨cold, rfl⟩ := h
  unfold onAckFrame
  dsimp only
  refine retransmitAll_recounted now _ ?_
  split
  · exact ⟨_, rfl⟩
  · exact pushEvent_recounted ⟨_, rfl⟩ _

theorem countDrop_recounted (h : Recounted c c') (disposition : Disposition) :
    Recounted (c.countDrop disposition) (c'.countDrop disposition) := by
  obtain ⟨cold, rfl⟩ := h
  cases disposition <;> exact ⟨_, rfl⟩

theorem onPathResponse_recounted (h : Recounted c c') (srcAddr : SocketAddr) (data : Bytes 8)
    (now : MonotonicTime) :
    Recounted (c.onPathResponse srcAddr data now) (c'.onPathResponse srcAddr data now) := by
  obtain ⟨cold, rfl⟩ := h
  unfold onPathResponse
  dsimp only
  split
  · exact pushEvent_recounted ⟨_, rfl⟩ _
  · exact ⟨_, rfl⟩

theorem checkBackpressure_recounted (h : Recounted c c') (now : MonotonicTime) :
    Recounted (c.checkBackpressure now) (c'.checkBackpressure now) := by
  obtain ⟨cold, rfl⟩ := h
  obtain ⟨cold', heq⟩ := pushEvent_recounted (⟨cold, rfl⟩ : Recounted c { c with cold })
    (.backpressureChanged c.lastBackpressure (c.feedback now).backpressure
      (c.feedback now).effectiveQueueBytes)
  have hfeedback : feedback { c with cold } now = c.feedback now := rfl
  unfold checkBackpressure
  rw [hfeedback]
  dsimp only at heq ⊢
  rw [heq]
  exact ⟨_, rfl⟩

theorem onClose_recounted (h : Recounted c c') : Recounted c.onClose c'.onClose := by
  obtain ⟨cold, rfl⟩ := h
  exact pushEvent_recounted ⟨_, rfl⟩ _

variable [CryptoSuite]

/-- The loop's variables, the connection recounted. -/
def Dispatch.RecountedIn (s s' : Dispatch) : Prop :=
  ∃ c, Recounted s.conn c ∧ s' = { s with conn := c }

theorem dispatch_recounted {s s' : Dispatch} (h : s.RecountedIn s') (srcAddr : SocketAddr)
    (now : MonotonicTime) (frame : Frame) :
    (dispatch srcAddr now s frame).RecountedIn (dispatch srcAddr now s' frame) := by
  obtain ⟨c, ⟨cold, rfl⟩, rfl⟩ := h
  cases frame with
  | ack largestAcked ackDelayUs ranges rangeCount =>
    exact ⟨_, onAckFrame_recounted ⟨_, rfl⟩ _ _ _ _ _, rfl⟩
  | data | reliableData | retx => exact ⟨_, countDrop_recounted ⟨_, rfl⟩ _, rfl⟩
  | pathChallenge data =>
    have hanswers : answers { s.conn with cold } srcAddr s.pathResponses =
        s.conn.answers srcAddr s.pathResponses := rfl
    unfold dispatch
    dsimp only
    rw [hanswers]
    split
    · exact ⟨_, ⟨_, rfl⟩, rfl⟩
    · exact ⟨_, ⟨_, rfl⟩, rfl⟩
  | pathResponse data => exact ⟨_, onPathResponse_recounted ⟨_, rfl⟩ _ _ _, rfl⟩
  | _ => exact ⟨_, ⟨_, rfl⟩, rfl⟩

theorem dispatchAll_recounted (srcAddr : SocketAddr) (now : MonotonicTime)
    (frames : List (Result Frame)) {s s' : Dispatch} (h : s.RecountedIn s') :
    (dispatchAll srcAddr now s frames).RecountedIn (dispatchAll srcAddr now s' frames) := by
  induction frames generalizing s s' with
  | nil => exact h
  | cons frame rest ih =>
    cases frame with
    | ok frame => exact ih (dispatch_recounted h srcAddr now frame)
    | error e =>
      obtain ⟨c, ⟨cold, rfl⟩, rfl⟩ := h
      exact ⟨_, ⟨_, rfl⟩, rfl⟩

theorem receiveFrames_recounted (h : Recounted c c') (srcAddr : SocketAddr)
    (packetNumber : PacketNumber) (payload : List UInt8) (now : MonotonicTime) (ipEcn : UInt8) :
    RecountedIn (c.receiveFrames srcAddr packetNumber payload now ipEcn)
      (c'.receiveFrames srcAddr packetNumber payload now ipEcn) := by
  obtain ⟨c1, ⟨cold, rfl⟩, heq⟩ := dispatchAll_recounted srcAddr now (FrameIterator.collect payload)
    (⟨c', h, rfl⟩ : Dispatch.RecountedIn ⟨c, [], false, none, 0⟩ ⟨c', [], false, none, 0⟩)
  unfold receiveFrames
  rw [heq]
  generalize dispatchAll srcAddr now ⟨c, [], false, none, 0⟩ (FrameIterator.collect payload) = s
  have hback := checkBackpressure_recounted (⟨cold, rfl⟩ : Recounted { s.conn with
    hot.ackTracker := s.conn.hot.ackTracker.onPacketReceived packetNumber s.isAckEliciting
      ipEcn.toNat now } _) now
  dsimp only
  split
  · exact ⟨rfl, onClose_recounted hback⟩
  · exact ⟨rfl, hback⟩

/-- **The receive path.** -/
theorem handleIncoming_recounted (h : Recounted c c') (srcAddr : SocketAddr) (datagram : List UInt8)
    (now : MonotonicTime) (ipEcn : UInt8) :
    RecountedIn (c.handleIncomingDatagramWithEcn srcAddr datagram now ipEcn)
      (c'.handleIncomingDatagramWithEcn srcAddr datagram now ipEcn) := by
  obtain ⟨cold, rfl⟩ := h
  unfold handleIncomingDatagramWithEcn
  dsimp only
  split
  · exact ⟨rfl, _, rfl⟩
  · split
    · exact ⟨rfl, _, rfl⟩
    · split
      · exact ⟨rfl, _, rfl⟩
      · exact receiveFrames_recounted (onAuthenticated_recounted ⟨_, rfl⟩ _ _ _ _) _ _ _ _ _

/-! ## 3. The transmit path -/

section

omit [CryptoSuite]

theorem checkPto_recounted (h : Recounted c c') (now : MonotonicTime) :
    Recounted (c.checkPto now) (c'.checkPto now) := by
  obtain ⟨cold, rfl⟩ := h
  unfold checkPto
  dsimp only
  split
  · have htimedOut : Recounted { c with
        hot.lossDetector := c.hot.lossDetector.onTimeout.1
        hot.cc := if persistentCongestionPtoCount ≤ c.hot.lossDetector.onTimeout.1.ptoCount then
          c.hot.cc.onTimeout now else c.hot.cc } _ := ⟨cold, rfl⟩
    obtain ⟨cold', heq⟩ := retransmitAll_recounted now
      c.hot.lossDetector.onTimeout.2.retransmittable (pushEvent_recounted htimedOut (.ptoTriggered
        c.hot.lossDetector.onTimeout.1.ptoCount c.hot.lossDetector.onTimeout.1.inflightBytes))
    rw [heq]
    exact ⟨_, rfl⟩
  · exact ⟨_, rfl⟩

theorem fillData_recounted (budget : Nat) (now : MonotonicTime) (fuel : Nat) (d : Draft)
    (h : Recounted c c') :
    RecountedIn (fillData budget now fuel d c) (fillData budget now fuel d c') := by
  induction fuel generalizing d c c' with
  | zero => exact ⟨rfl, h⟩
  | succ fuel ih =>
    obtain ⟨cold, rfl⟩ := h
    rw [fillData, fillData]
    split
    · dsimp only
      split
      · exact ⟨rfl, _, rfl⟩
      · split
        · exact ih _ ⟨_, rfl⟩
        · exact ⟨rfl, _, rfl⟩
    · exact ⟨rfl, _, rfl⟩

theorem assemble_recounted (h : Recounted c c') (builder : PacketBuilder) (now : MonotonicTime) :
    RecountedIn (c.assemble builder now) (c'.assemble builder now) := by
  obtain ⟨cold, rfl⟩ := h
  have hack : appendAck { c with cold } builder now = c.appendAck builder now := rfl
  unfold assemble
  rw [hack]
  dsimp only
  split
  · exact fillData_recounted _ _ _ _ ⟨_, rfl⟩
  · exact ⟨rfl, _, rfl⟩

theorem putBack_recounted (h : Recounted c c') (d : Draft) (now : MonotonicTime) :
    Recounted (c.putBack d now) (c'.putBack d now) := by
  have hfold : ∀ (items : List SchedulableItem) (c c' : GtpConnection), Recounted c c' →
      Recounted (items.foldr (requeueItem now) c) (items.foldr (requeueItem now) c') := by
    intro items
    induction items with
    | nil => exact fun _ _ h => h
    | cons item rest ih =>
      intro c c' h
      obtain ⟨cold, heq⟩ := ih c c' h
      rw [List.foldr_cons, List.foldr_cons, heq]
      exact ⟨_, rfl⟩
  obtain ⟨cold, rfl⟩ := h
  exact hfold d.popped _ _ ⟨_, rfl⟩

theorem tickRouteEvaluation_recounted (h : Recounted c c') (now : MonotonicTime) :
    Recounted (c.tickRouteEvaluation now) (c'.tickRouteEvaluation now) := by
  obtain ⟨cold, rfl⟩ := h
  unfold tickRouteEvaluation
  dsimp only
  split
  · exact ⟨_, rfl⟩
  · exact ⟨_, rfl⟩

end

/-- The calls return the same, in the same buffer. -/
def Produced.RecountedIn (p p' : Produced) : Prop :=
  p'.result = p.result ∧ p'.buf = p.buf ∧ Recounted p.conn p'.conn

theorem launch_recounted (h : Recounted c c') (d : Draft) (now : MonotonicTime) :
    (c.launch d now).RecountedIn (c'.launch d now) := by
  have hput := putBack_recounted h d now
  obtain ⟨cold, rfl⟩ := h
  unfold launch
  dsimp only
  split
  · exact ⟨rfl, rfl, hput⟩
  · split
    · exact ⟨rfl, rfl, hput⟩
    · exact ⟨rfl, rfl, tickRouteEvaluation_recounted ⟨_, rfl⟩ now⟩

/-- **The transmit path.** -/
theorem produce_recounted (h : Recounted c c') (now : MonotonicTime) (outBuf : List UInt8) :
    (c.produceOutgoingDatagram now outBuf).RecountedIn (c'.produceOutgoingDatagram now outBuf) := by
  have hpto := checkPto_recounted h now
  obtain ⟨cold, rfl⟩ := h
  unfold produceOutgoingDatagram
  dsimp only
  split
  · exact ⟨rfl, rfl, _, rfl⟩
  · split
    · exact ⟨rfl, rfl, pushEvent_recounted ⟨_, rfl⟩ _⟩
    · have hkeep : Recounted ((c.checkPto now).housekeeping now)
          ((checkPto { c with cold } now).housekeeping now) := by
        obtain ⟨cold', heq⟩ := hpto
        rw [heq]
        exact ⟨_, rfl⟩
      generalize (checkPto { c with cold } now).housekeeping now = c2 at hkeep ⊢
      generalize (c.checkPto now).housekeeping now = c1 at hkeep ⊢
      obtain ⟨cold', rfl⟩ := hkeep
      have hidle : idle { c1 with cold := cold' } now = c1.idle now := rfl
      rw [hidle]
      split
      · exact ⟨rfl, rfl, _, rfl⟩
      · dsimp only
        split
        · exact ⟨rfl, rfl, _, rfl⟩
        · rename_i builder hb
          obtain ⟨hd, hc⟩ := assemble_recounted (⟨cold', rfl⟩ : Recounted c1 _) builder now
          rw [hd]
          exact launch_recounted hc _ now

/-! ## 4. The other calls -/

section

omit [CryptoSuite]

theorem enqueueAll_recounted (now : MonotonicTime) (items : List SchedulableItem)
    (h : Recounted c c') :
    RecountedIn (enqueueAll now c items) (enqueueAll now c' items) := by
  induction items generalizing c c' with
  | nil => exact ⟨rfl, h⟩
  | cons item rest ih =>
    obtain ⟨cold, rfl⟩ := h
    rw [enqueueAll, enqueueAll]
    unfold enqueueItem
    dsimp only
    rcases c.hot.scheduler.enqueue item now with ⟨res, s⟩
    cases res with
    | ok => exact ih ⟨_, rfl⟩
    | error e => exact ⟨rfl, _, rfl⟩

theorem enqueueFragments_recounted (h : Recounted c c') (msgId : MessageId) (class' : MessageClass)
    (payload : List UInt8) (priority : PriorityTier) (deadline : Option MonotonicTime)
    (total : Nat) (now : MonotonicTime) :
    RecountedIn (c.enqueueFragments msgId class' payload priority deadline total now)
      (c'.enqueueFragments msgId class' payload priority deadline total now) := by
  have hmax : c'.maxMessagePayload = c.maxMessagePayload := by
    obtain ⟨cold, rfl⟩ := h
    rfl
  unfold enqueueFragments
  rw [hmax]
  split
  · exact ⟨rfl, h⟩
  · obtain ⟨hres, hconn⟩ := enqueueAll_recounted now
      (fragmentItems msgId class' priority deadline total now _) h
    dsimp only
    rw [hres]
    exact ⟨rfl, hconn⟩

theorem sendSingle_recounted (h : Recounted c c') (class' : MessageClass) (payload : List UInt8)
    (priority : PriorityTier) (deadline : Option MonotonicTime) (now : MonotonicTime) :
    RecountedIn (c.sendSingle class' payload priority deadline now)
      (c'.sendSingle class' payload priority deadline now) := by
  obtain ⟨cold, rfl⟩ := h
  have hmax : maxMessagePayload { c with cold } = c.maxMessagePayload := rfl
  unfold sendSingle
  rw [hmax]
  split
  · exact ⟨rfl, _, rfl⟩
  · exact ⟨rfl, _, rfl⟩

theorem sendReliableUnordered_recounted (h : Recounted c c') (payload : List UInt8)
    (priority : PriorityTier) (deadline : Option MonotonicTime) (now : MonotonicTime) :
    RecountedIn (c.sendReliableUnordered payload priority deadline now)
      (c'.sendReliableUnordered payload priority deadline now) := by
  obtain ⟨cold, rfl⟩ := h
  unfold sendReliableUnordered
  dsimp only [maxMessagePayload]
  split
  · exact ⟨rfl, _, rfl⟩
  · exact enqueueFragments_recounted ⟨_, rfl⟩ _ _ _ _ _ _ _

theorem sendReliableOrdered_recounted (h : Recounted c c') (groupId : OrderedGroupId)
    (payload : List UInt8) (priority : PriorityTier) (deadline : Option MonotonicTime)
    (now : MonotonicTime) :
    RecountedIn (c.sendReliableOrdered groupId payload priority deadline now)
      (c'.sendReliableOrdered groupId payload priority deadline now) := by
  obtain ⟨cold, rfl⟩ := h
  have hmax : maxMessagePayload { c with cold } = c.maxMessagePayload := rfl
  unfold sendReliableOrdered
  rw [hmax]
  split
  · exact ⟨rfl, _, rfl⟩
  · exact enqueueFragments_recounted ⟨_, rfl⟩ _ _ _ _ _ _ _

theorem changeState_recounted (h : Recounted c c') (next : ConnectionState) :
    RecountedIn (c.changeState next) (c'.changeState next) := by
  obtain ⟨cold, rfl⟩ := h
  unfold changeState
  dsimp only
  split
  · exact ⟨rfl, _, rfl⟩
  · exact ⟨rfl, pushEvent_recounted ⟨_, rfl⟩ _⟩

end

/-! ## 5. Any call -/

/-- **Nothing reads the counters.** -/
theorem Recounted.step (h : Recounted c c') (op : Op) : Recounted (c.step op) (c'.step op) := by
  cases op with
  | sendUnreliable payload priority deadline now => exact (sendSingle_recounted h _ _ _ _ _).2
  | sendSequenced stateKey sequence generation deadline payload now =>
    exact (sendSingle_recounted h _ _ _ _ _).2
  | sendReliableUnordered payload priority deadline now =>
    exact (sendReliableUnordered_recounted h _ _ _ _).2
  | sendReliableOrdered groupId payload priority deadline now =>
    exact (sendReliableOrdered_recounted h _ _ _ _ _).2
  | handleIncoming srcAddr datagram now ipEcn => exact (handleIncoming_recounted h _ _ _ _).2
  | produce now outBuf => exact (produce_recounted h _ _).2.2
  | gracefulClose errorCode reason =>
    obtain ⟨cold, rfl⟩ := h
    have hclose : Recounted (c.queueControl (.close errorCode reason)) _ := ⟨cold, rfl⟩
    exact (changeState_recounted hclose _).2
  | forceClose => exact (changeState_recounted h _).2
  | feedRouteStats pathId stats =>
    obtain ⟨cold, rfl⟩ := h
    simp only [GtpConnection.step, feedRouteStats]
    split
    · exact ⟨_, rfl⟩
    · exact ⟨_, rfl⟩
  | _ =>
    obtain ⟨cold, rfl⟩ := h
    exact ⟨_, rfl⟩

theorem Recounted.datagramOf (h : Recounted c c') (op : Op) :
    c'.datagramOf op = c.datagramOf op := by
  cases op with
  | produce now outBuf =>
    obtain ⟨hres, hbuf, -⟩ := produce_recounted h now outBuf
    simp only [GtpConnection.datagramOf, hres, hbuf]
  | _ => rfl

theorem Recounted.messagesOf (h : Recounted c c') (op : Op) :
    c'.messagesOf op = c.messagesOf op := by
  cases op with
  | handleIncoming srcAddr datagram now ipEcn =>
    simp only [GtpConnection.messagesOf, (handleIncoming_recounted h srcAddr datagram now ipEcn).1]
  | _ => rfl

omit [CryptoSuite] in
theorem Recounted.acceptedMessage (h : Recounted c c') (op : Op) :
    c'.acceptedMessage op = c.acceptedMessage op := by
  cases op with
  | sendUnreliable payload priority deadline now =>
    simp only [GtpConnection.acceptedMessage, sendUnreliable, (sendSingle_recounted h _ _ _ _ _).1]
  | sendSequenced stateKey sequence generation deadline payload now =>
    simp only [GtpConnection.acceptedMessage, sendSequenced, (sendSingle_recounted h _ _ _ _ _).1]
  | sendReliableUnordered payload priority deadline now =>
    simp only [GtpConnection.acceptedMessage, (sendReliableUnordered_recounted h _ _ _ _).1]
  | sendReliableOrdered groupId payload priority deadline now =>
    simp only [GtpConnection.acceptedMessage, (sendReliableOrdered_recounted h _ _ _ _ _).1, h.hot]
  | _ => rfl

end

end GtpConnection

end Gtp
