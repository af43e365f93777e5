/-
# The life of a connection

The state of a connection moves only along `ConnectionState::transition_to`, and every move is
logged: the `StateChanged` events of a run are the walk that its state took.  A connection of the
handshake is established from the start, so that it never is again once it has left.

Application data leaves only while it is established.  Hence what goes out after the first
`StateChanged` carries no message, and after the last one nothing goes out and nothing comes in.

* `Next` is one move that `transition_to` allows; a log of such moves is a `Walk`, from
  `Gtp.Lib.Walks`.
* `step_walk` is one call, `run_walk` a run.  Each emitter of events but `changeState` has a lemma
  that it logs no change.
* `sealedSheets_plain` is what leaves in another state than established: control frames and ACKs.

Messages that wait when the connection starts to close are not given back to the application; they
stay in the queues, and no event tells of them.  That the peer learns of the close is left out,
since the close frame is sent once and may be lost.
-/
import Gtp.Core.Events
import Gtp.Core.Unreliable
import Gtp.Lib.Walks

namespace Gtp

open Frame PacketBuilder Runs

/-! ## 1. The state machine -/

namespace ConnectionState

/-- A move that `transition_to` allows. -/
def Next (s t : ConnectionState) : Prop := s.transitionTo t = .ok t

/-- `transition_to` enters the state it is asked for. -/
theorem transitionTo_ok {s t u : ConnectionState} (h : s.transitionTo t = .ok u) : u = t := by
  cases s <;> cases t <;> simp_all [transitionTo]

theorem moveTo_closed (s : ConnectionState) : s.moveTo .closed = .closed := by
  cases s <;> rfl

theorem next_closed {s : ConnectionState} (h : s ≠ .closed) : s.Next .closed := by
  cases s with
  | closed => exact absurd rfl h
  | _ => rfl

theorem not_next_of_closed (t : ConnectionState) : ¬ ConnectionState.closed.Next t := by
  cases t <;> exact fun h => nomatch h

theorem Next.of_established {t : ConnectionState} (h : ConnectionState.established.Next t) :
    t = .draining ∨ t = .closed := by
  cases t with
  | draining => exact .inl rfl
  | closed => exact .inr rfl
  | _ => cases h

/-- One that drains or is closed has nowhere to go but closed. -/
theorem Next.of_left {s t : ConnectionState} (h : s.Next t) (hs : s = .draining ∨ s = .closed) :
    t = .draining ∨ t = .closed := by
  rcases hs with rfl | rfl
  · cases t with
    | closed => exact .inr rfl
    | _ => cases h
  · exact absurd h (not_next_of_closed t)

end ConnectionState

/-! ## 2. The log -/

/-- The state change that an event reports. -/
def ControlEvent.change : ControlEvent → Option (ConnectionState × ConnectionState)
  | .stateChanged oldState newState => some (oldState, newState)
  | _ => none

/-- The state changes of a log. -/
def stateChanges (log : List ControlEvent) : List (ConnectionState × ConnectionState) :=
  log.filterMap ControlEvent.change

@[simp]
theorem stateChanges_append (log log' : List ControlEvent) :
    stateChanges (log ++ log') = stateChanges log ++ stateChanges log' :=
  List.filterMap_append

theorem stateChanges_eq_nil {log : List ControlEvent} (h : ∀ e ∈ log, e.change = none) :
    stateChanges log = [] :=
  List.filterMap_eq_nil_iff.mpr h

namespace GtpConnection

theorem stateChanges_resendEvents (frames : List RetransmissionRecord) :
    stateChanges (resendEvents frames) = [] := by
  refine stateChanges_eq_nil fun e he => ?_
  obtain ⟨retrans, -, rfl⟩ := List.mem_map.mp he
  rfl

theorem stateChanges_owdEvents (c : GtpConnection) (header : PacketHeader) (now : MonotonicTime) :
    stateChanges (c.owdEvents header now) = [] := by
  unfold owdEvents
  split <;> rfl

theorem stateChanges_frameEvents (srcAddr : SocketAddr) (now : MonotonicTime) (c : GtpConnection)
    (frame : Frame) : stateChanges (frameEvents srcAddr now c frame) = [] := by
  cases frame with
  | ack largestAcked ackDelayUs ranges rangeCount e0 e1 ce =>
    rw [frameEvents, ackEvents, stateChanges_append, stateChanges_resendEvents, List.append_nil]
    split <;> rfl
  | pathResponse data =>
    rw [frameEvents]
    split <;> rfl
  | _ => rfl

theorem stateChanges_backpressureEvents (c : GtpConnection) (now : MonotonicTime) :
    stateChanges (c.backpressureEvents now) = [] := by
  unfold backpressureEvents
  dsimp only
  split <;> rfl

theorem stateChanges_ptoEvents (c : GtpConnection) (now : MonotonicTime) :
    stateChanges (c.ptoEvents now) = [] := by
  unfold ptoEvents
  dsimp only
  split
  · exact stateChanges_resendEvents _
  · rfl

theorem stateChanges_routeEvents (c : GtpConnection) (now : MonotonicTime) :
    stateChanges (c.routeEvents now) = [] := by
  unfold routeEvents
  split
  · rfl
  · split <;> rfl

variable [CryptoSuite]

theorem stateChanges_dispatchEvents (srcAddr : SocketAddr) (now : MonotonicTime)
    (items : List (Result Frame)) (s : Dispatch) :
    stateChanges (dispatchEvents srcAddr now s items) = [] := by
  induction items generalizing s with
  | nil => rfl
  | cons item rest ih =>
    cases item with
    | error e => rfl
    | ok frame =>
      rw [dispatchEvents, stateChanges_append, stateChanges_frameEvents, ih]
      rfl

/-! ## 3. One call -/

omit [CryptoSuite] in
/-- A refused change logs nothing and changes nothing. -/
theorem changeState_walk (c : GtpConnection) (next : ConnectionState) :
    Walk ConnectionState.Next c.hot.state (stateChanges (c.changeEvents next))
      (c.changeState next).2.hot.state := by
  unfold changeEvents changeState
  cases hmove : c.hot.state.transitionTo next with
  | error e => exact .stay _
  | ok state =>
    obtain rfl := ConnectionState.transitionTo_ok hmove
    exact .single hmove

/-- The frames of a datagram do not touch the state; a close frame among them does, at the end. -/
theorem receiveFrames_walk {c : GtpConnection} (hopen : c.hot.state ≠ .closed)
    (srcAddr : SocketAddr) (packetNumber : PacketNumber) (payload : List UInt8)
    (now : MonotonicTime) (ipEcn : UInt8) :
    Walk ConnectionState.Next c.hot.state
      (stateChanges (c.receiveEvents srcAddr packetNumber payload now ipEcn))
      (c.receiveFrames srcAddr packetNumber payload now ipEcn).2.hot.state := by
  obtain ⟨hdisp, -, -⟩ :=
    dispatchAll_spec srcAddr now (FrameIterator.collect payload) ⟨c, [], false, none, 0⟩
  have hstate := hdisp.state
  unfold receiveEvents receiveFrames
  rw [stateChanges_append, stateChanges_append, stateChanges_dispatchEvents]
  generalize dispatchAll srcAddr now ⟨c, [], false, none, 0⟩ (FrameIterator.collect payload) = s
    at hstate ⊢
  dsimp only at hstate ⊢
  rw [stateChanges_backpressureEvents]
  have hpressed : (checkBackpressure { s.conn with
      hot.ackTracker := s.conn.hot.ackTracker.onPacketReceived packetNumber s.isAckEliciting
        ipEcn.toNat now } now).hot.state = c.hot.state := hstate
  cases s.closeReceived with
  | none =>
    rw [← hpressed]
    exact .stay _
  | some errorCode =>
    have hclosed : c.hot.state.Next .closed := ConnectionState.next_closed hopen
    dsimp only [onClose, pushEvent_hot]
    rw [hpressed, ConnectionState.moveTo_closed, hstate]
    exact .single hclosed

theorem handle_walk (c : GtpConnection) (srcAddr : SocketAddr) (datagram : List UInt8)
    (now : MonotonicTime) (ipEcn : UInt8) :
    Walk ConnectionState.Next c.hot.state
      (stateChanges (c.handleEvents srcAddr datagram now ipEcn))
      (c.handleIncomingDatagramWithEcn srcAddr datagram now ipEcn).2.hot.state := by
  unfold handleEvents handleIncomingDatagramWithEcn
  by_cases hclosed : c.hot.state = .closed
  · rw [if_pos hclosed, if_pos hclosed]
    exact .stay _
  · rw [if_neg hclosed, if_neg hclosed]
    dsimp only
    cases c.hot.admitHeader datagram with
    | error e => exact .stay _
    | ok admitted =>
      obtain ⟨header, consumed⟩ := admitted
      dsimp only
      cases c.hot.openDatagram header (datagram.take consumed) (datagram.drop consumed) with
      | error e => exact .stay _
      | ok payload =>
        obtain ⟨amp, probe, rx, owd, emit, hauth⟩ := onAuthenticated_spec { c with
          cold.totalRxPackets := c.cold.totalRxPackets + 1
          cold.totalRxBytes := c.cold.totalRxBytes + datagram.length } header srcAddr
          datagram.length now
        dsimp only
        generalize onAuthenticated { c with
          cold.totalRxPackets := c.cold.totalRxPackets + 1
          cold.totalRxBytes := c.cold.totalRxBytes + datagram.length } header srcAddr
          datagram.length now = c1 at hauth ⊢
        have hstate : c1.hot.state = c.hot.state := by rw [hauth]
        rw [stateChanges_append, stateChanges_owdEvents, List.nil_append, ← hstate]
        exact receiveFrames_walk (by rw [hstate]; exact hclosed) srcAddr header.packetNumber payload
          now ipEcn

/-- Producing changes the state at one place: where a drained connection has nothing left. -/
theorem produce_walk (c : GtpConnection) (now : MonotonicTime) (outBuf : List UInt8) :
    Walk ConnectionState.Next c.hot.state (stateChanges (c.produceEvents now outBuf))
      (c.produceOutgoingDatagram now outBuf).conn.hot.state := by
  unfold produceEvents
  by_cases hclosed : c.hot.state = .closed
  · rw [if_pos hclosed, produceOutgoingDatagram, if_pos hclosed]
    exact .stay _
  rw [if_neg hclosed]
  by_cases hdrained : c.hot.state = .draining ∧ c.hot.controlQueue.isEmpty
  · rw [if_pos hdrained, produceOutgoingDatagram, if_neg hclosed, if_pos hdrained]
    dsimp only [finishDraining, pushEvent_hot]
    rw [ConnectionState.moveTo_closed]
    exact .single (ConnectionState.next_closed hclosed)
  rw [if_neg hdrained, stateChanges_append, stateChanges_ptoEvents, List.nil_append]
  have hprep : (c.prepare now).hot.state = c.hot.state := by
    obtain ⟨ld, cc, s, pv, pac, cold, ev, hprep, -⟩ := c.prepare_spec now
    rw [hprep]
  have hass : ∀ b, PacketBuilder.new outBuf (nextHeader (c.prepare now).hot now) = .ok b →
      ((c.prepare now).assemble b now).2.hot.state = c.hot.state := by
    intro b hb
    obtain ⟨hcar, -, -⟩ := new_nextHeader hb
    rw [((c.prepare now).assemble_spec hcar now).conn]
    exact hprep
  have hback : ∀ b, PacketBuilder.new outBuf (nextHeader (c.prepare now).hot now) = .ok b →
      (((c.prepare now).assemble b now).2.putBack ((c.prepare now).assemble b now).1
        now).hot.state = c.hot.state := by
    intro b hb
    obtain ⟨s, n, hput, -⟩ := putBack_spec ((c.prepare now).assemble b now).2
      ((c.prepare now).assemble b now).1 now
    rw [hput]
    exact hass b hb
  have hstate : (c.produceOutgoingDatagram now outBuf).conn.hot.state = c.hot.state := by
    have hexit := c.produce_exit now outBuf
    generalize c.produceOutgoingDatagram now outBuf = p at hexit ⊢
    cases hexit with
    | closed => rfl
    | drained h => exact absurd h hdrained
    | idle => exact hprep
    | short => exact hprep
    | refused hb => exact hback _ hb
    | limited hb => exact hback _ hb
    | sent hb =>
      obtain ⟨keys, n, pending, controller, path, sent, hcommit⟩ := commit_frame _ _ _ now
      dsimp only
      rw [hcommit]
      exact hass _ hb
  rw [hstate]
  split
  · rw [stateChanges_routeEvents]
    exact .stay _
  · exact .stay _

/-- **Every call** walks the state machine, and logs the walk. -/
theorem step_walk (c : GtpConnection) (op : Op) :
    Walk ConnectionState.Next c.hot.state (stateChanges (c.emittedBy op))
      (c.step op).hot.state := by
  cases op with
  | sendUnreliable payload priority deadline now =>
    obtain ⟨s, id, hs⟩ := c.sendSingle_frame .unreliable payload priority deadline now
    rw [step, sendUnreliable, hs]
    exact .stay _
  | sendSequenced key seq gen deadline payload now =>
    obtain ⟨s, id, hs⟩ := c.sendSingle_frame (.unreliableSequenced key seq gen) payload
      .p2WorldState deadline now
    rw [step, sendSequenced, hs]
    exact .stay _
  | sendReliableUnordered payload priority deadline now =>
    obtain ⟨s, id, hs⟩ := c.sendReliableUnordered_frame payload priority deadline now
    rw [step, hs]
    exact .stay _
  | sendReliableOrdered g payload priority deadline now =>
    obtain ⟨s, id, seqs, hs⟩ := c.sendReliableOrdered_frame g payload priority deadline now
    rw [step, hs]
    exact .stay _
  | handleIncoming src dg now ecn => exact c.handle_walk src dg now ecn
  | produce now outBuf => exact c.produce_walk now outBuf
  | gracefulClose code reason =>
    exact (c.queueControl (.close code reason)).changeState_walk .draining
  | forceClose => exact c.changeState_walk .closed
  | ratchetKey =>
    obtain ⟨keys, n, hframe⟩ := c.hot.ratchetSessionKey_frame
    rw [step, hframe]
    exact .stay _
  | initiateKeyUpdate =>
    obtain ⟨queue, pending, hframe⟩ := c.hot.ratchetAndAnnounce_frame
    simp only [step, initiateKeyUpdate, hframe]
    exact .stay _
  | feedRouteStats id stats =>
    rw [step, feedRouteStats]
    split <;> exact .stay _
  | _ => exact .stay _

/-- **Every run.** -/
theorem run_walk (c : GtpConnection) (ops : List Op) :
    Walk ConnectionState.Next c.hot.state (stateChanges (c.emitted ops))
      (c.run ops).hot.state := by
  induction ops generalizing c with
  | nil => exact .stay _
  | cons op ops ih =>
    rw [emitted, stateChanges_append]
    exact (c.step_walk op).append (ih (c.step op))

/-! ## 4. What leaves, and when -/

/-- A connection that has left the established state does not come back. -/
theorem run_left {c : GtpConnection} (h : c.hot.state = .draining ∨ c.hot.state = .closed)
    (ops : List Op) : (c.run ops).hot.state = .draining ∨ (c.run ops).hot.state = .closed := by
  have hwalk := c.run_walk ops
  by_cases hlog : stateChanges (c.emitted ops) = []
  · rw [hlog] at hwalk
    generalize (c.run ops).hot.state = t at hwalk ⊢
    cases hwalk
    exact h
  · exact hwalk.entered (P := fun s => s = .draining ∨ s = .closed)
      (fun s t hnext hs => hnext.of_left hs) (fun u hu => hu.of_left h) hlog

omit [CryptoSuite] in
theorem isMessage_buildControlFrame (ctrl : OutgoingControlFrame) :
    isMessage ctrl.buildControlFrame = false := by
  cases ctrl <;> rfl

omit [CryptoSuite] in
/-- A message in a draft is an item that was popped: an ACK and control frames are none. -/
theorem item_of_message {c c2 : GtpConnection} {b : PacketBuilder} {header : PacketHeader}
    {now : MonotonicTime} {d : Draft} (hass : Assembled c b header now d c2) {f : Frame}
    (hf : f ∈ d.frames) (hmessage : isMessage f = true) : ∃ x ∈ d.popped, itemFrame x = f := by
  rcases List.mem_append.mp hf with hf | hf
  · exfalso
    rcases List.mem_append.mp hf with hf | hf
    · have hack := Option.mem_toList.mp hf
      rw [hass.ack] at hack
      obtain ⟨l, dl, r, n, e0, e1, ce, rfl⟩ := appendAck_isAck hack
      cases hmessage
    · obtain ⟨ctrl, -, rfl⟩ := List.mem_map.mp hf
      rw [isMessage_buildControlFrame] at hmessage
      cases hmessage
  · exact List.mem_map.mp hf

/-- Only an established connection takes items from its queues. -/
theorem sealedIn_plain {c : GtpConnection} (h : c.hot.state ≠ .established) {op : Op} {s : Sheet}
    (hs : c.sealedIn op = some s) : ∀ f ∈ s.frames, isMessage f = false := by
  cases op with
  | produce now outBuf =>
    obtain ⟨b, len, hcar, hframes, -⟩ := sealedIn_produce hs
    have hass := (c.prepare now).assemble_spec hcar now
    have hpopped : ((c.prepare now).assemble b now).1.popped = [] := by
      by_contra hne
      obtain ⟨ld, cc, s, pv, pac, cold, ev, hprep, -⟩ := c.prepare_spec now
      have hstate := (hass.data.mp hne).1
      rw [hprep] at hstate
      exact h hstate
    intro f hf
    rw [hframes] at hf
    by_contra hmessage
    obtain ⟨x, hx, -⟩ := item_of_message hass hf (Bool.of_not_eq_false hmessage)
    rw [hpopped] at hx
    cases hx
  | _ => cases hs

theorem sealedSheets_plain {c : GtpConnection}
    (h : c.hot.state = .draining ∨ c.hot.state = .closed) (ops : List Op) :
    ∀ s ∈ c.sealedSheets ops, ∀ f ∈ s.frames, isMessage f = false := by
  induction ops generalizing c with
  | nil => simp [sealedSheets]
  | cons op ops ih =>
    intro s hs
    rw [sealedSheets] at hs
    rcases List.mem_append.mp hs with hs | hs
    · refine sealedIn_plain ?_ (Option.mem_toList.mp hs)
      rcases h with h | h <;> simp [h]
    · exact ih (c.run_left h [op]) s hs

theorem handedOut_closed {c : GtpConnection} (h : c.hot.state = .closed) (ops : List Op) :
    c.handedOut ops = [] := by
  induction ops generalizing c with
  | nil => rfl
  | cons op ops ih =>
    have hnone : c.datagramOf op = none := by
      cases op with
      | produce now outBuf => rw [datagramOf, produceOutgoingDatagram, if_pos h]
      | _ => rfl
    rw [handedOut, hnone, ih (step_closed h op)]
    rfl

/-- **The life of a connection.**  Its state changes, as it logs them, are a walk from established
along the transitions that the state machine allows, which ends in the state it is in.  Once there
has been one, no datagram carries a message any more, and once it is closed it hands out and returns
nothing and logs no further change. -/
theorem lifecycle (s : Setup) (ops later : List Op) :
    Walk ConnectionState.Next .established (stateChanges (s.start.emitted ops))
        (s.start.run ops).hot.state ∧
      (stateChanges (s.start.emitted ops) ≠ [] →
        ∀ sheet ∈ (s.start.run ops).sealedSheets later, ∀ f ∈ sheet.frames, isMessage f = false) ∧
      ((s.start.run ops).hot.state = .closed → (s.start.run ops).handedOut later = [] ∧
        (s.start.run ops).returned later = [] ∧
        stateChanges ((s.start.run ops).emitted later) = []) := by
  have hwalk : Walk ConnectionState.Next .established (stateChanges (s.start.emitted ops))
      (s.start.run ops).hot.state := s.start.run_walk ops
  refine ⟨hwalk, fun hlog => ?_, fun hclosed => ?_⟩
  · refine sealedSheets_plain ?_ later
    exact hwalk.entered (P := fun s => s = .draining ∨ s = .closed)
      (fun s t hnext hs => hnext.of_left hs) (fun u hu => hu.of_established) hlog
  · refine ⟨handedOut_closed hclosed later, returned_closed hclosed later, ?_⟩
    refine ((s.start.run ops).run_walk later).of_final ?_ |>.1
    rw [hclosed]
    exact ConnectionState.not_next_of_closed

end GtpConnection

/-! ## 5. On a concrete connection -/

namespace GtpConnection

attribute [local instance] keyTagSuite

/-- A message waits when the connection starts to close. -/
def closingEarly : List Op :=
  [.sendUnreliable [7] .p2WorldState none 10, .gracefulClose 0 ""]

/-- The close frame goes out, the message does not. -/
theorem lifecycle_closing :
    stateChanges ((Net.sampleSession.setup true).start.emitted closingEarly) =
        [(.established, .draining)] ∧
      ((Net.sampleSession.setup true).start.run closingEarly).hot.scheduler.isEmpty = false ∧
      (((Net.sampleSession.setup true).start.run closingEarly).sealedSheets
        [.produce 20 (List.replicate 200 0)]).length = 1 ∧
      ∀ sheet ∈ ((Net.sampleSession.setup true).start.run closingEarly).sealedSheets
        [.produce 20 (List.replicate 200 0)], ∀ f ∈ sheet.frames, isMessage f = false := by
  refine ⟨by decide +kernel, by decide +kernel, by decide +kernel, ?_⟩
  exact (lifecycle (Net.sampleSession.setup true) closingEarly
    [.produce 20 (List.replicate 200 0)]).2.1 (by decide +kernel)

end GtpConnection

end Gtp
