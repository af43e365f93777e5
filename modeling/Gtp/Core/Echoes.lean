/-
# Path responses

A `PathChallenge` is remotely triggered and remotely addressed, so answering every one would make
the connection a reflector (New-12).  The `PathChallenge` arm answers from the active path only,
once per datagram, and while fewer than two responses wait in the control queue; a transmission
takes responses from the front of that queue, and a refused one puts them back where they were.
What follows says that this bounds the queue over all runs, and traces every response that waits in
it to the challenge that caused it.

* `Echoes` is what the frames of a datagram add to the queue, and `Causes` what caused a response.
* `handle_echoes` is an incoming datagram, `step_drains` any other call: responses leave at the
  front, and none comes.
* `ResponseInv` is the invariant of a run.

The source of a challenge is the active path at the moment its frame is read, which a `PathResponse`
earlier in the same datagram may just have moved.  How often a peer gets an answer is bounded by how
often the queue is emptied; nothing here bounds that.
-/
import Gtp.Core.Arrivals

namespace Gtp

open Frame

namespace GtpConnection

/-- The path responses that wait in the control queue. -/
def pendingResponses (c : GtpConnection) : List OutgoingControlFrame :=
  c.hot.controlQueue.filter (·.isPathResponse)

theorem mem_pendingResponses {c : GtpConnection} {ctrl : OutgoingControlFrame} :
    ctrl ∈ c.pendingResponses ↔ ctrl ∈ c.hot.controlQueue ∧ ctrl.isPathResponse = true :=
  List.mem_filter

theorem pendingResponses_append {c c' : GtpConnection} {ctrls : List OutgoingControlFrame}
    (h : c'.hot.controlQueue = c.hot.controlQueue ++ ctrls) :
    c'.pendingResponses = c.pendingResponses ++ ctrls.filter (·.isPathResponse) := by
  rw [pendingResponses, h, List.filter_append]
  rfl

variable [CryptoSuite]

/-! ## 1. One frame -/

/-- The challenge with `data` is among the frames, and comes from the active path when its turn
comes. -/
def Challenged (src : SocketAddr) (now : MonotonicTime) (s : Dispatch) (frames : List Frame)
    (data : Bytes 8) : Prop :=
  ∃ before after, frames = before ++ .pathChallenge data :: after ∧
    (before.foldl (dispatch src now) s).conn.hot.activePath = src

/-- A frame leaves the queue and the count of the datagram's responses, or it is a challenge that is
answered. -/
theorem dispatch_queue (src : SocketAddr) (now : MonotonicTime) (s : Dispatch) (f : Frame) :
    let s' := dispatch src now s f
    (s'.conn.hot.controlQueue = s.conn.hot.controlQueue ∧ s'.pathResponses = s.pathResponses) ∨
      ∃ data, f = .pathChallenge data ∧ s.conn.answers src s.pathResponses = true ∧
        s'.conn.hot.controlQueue = s.conn.hot.controlQueue ++ [.pathResponse data src] ∧
        s'.pathResponses = s.pathResponses + 1 := by
  dsimp only
  cases f with
  | ack l d r n e0 e1 ce =>
    obtain ⟨cc, sch, cold, ev, hack⟩ := s.conn.onAckFrame_spec l d r n now
    left
    simp only [dispatch, hack, and_self]
  | data id key seq gen dl p =>
    left
    simp only [dispatch, countDrop_hot, and_self]
  | reliableData id fid n g q p =>
    left
    simp only [dispatch, countDrop_hot, and_self]
  | retx id fid t p =>
    left
    simp only [dispatch, countDrop_hot, and_self]
  | pathChallenge data =>
    simp only [dispatch]
    split
    · rename_i hans
      exact Or.inr ⟨data, rfl, hans, rfl, rfl⟩
    · exact Or.inl ⟨rfl, rfl⟩
  | pathResponse data =>
    obtain ⟨path, amp, probe, pv, ld, owd, hresp⟩ := s.conn.onPathResponse_spec src data now
    left
    simp only [dispatch, hresp, and_self]
  | keyUpdate p proof =>
    obtain ⟨keys, n, hframe⟩ := s.conn.hot.onKeyUpdate_frame p
    left
    simp only [dispatch, hframe, and_self]
  | _ => exact Or.inl ⟨rfl, rfl⟩

/-- What the frames of a datagram from `src` add to the queue: responses to challenges that came
from the active path, no more than one, and none when two are waiting. -/
structure Echoes (src : SocketAddr) (now : MonotonicTime) (s : Dispatch) (frames : List Frame)
    (s' : Dispatch) (echo : List OutgoingControlFrame) : Prop where
  queue : s'.conn.hot.controlQueue = s.conn.hot.controlQueue ++ echo
  count : s'.pathResponses = s.pathResponses + echo.length
  once : s.pathResponses ≤ maxPathResponsesPerDatagram →
    s'.pathResponses ≤ maxPathResponsesPerDatagram
  bounded : s.conn.pendingResponses.length ≤ maxPendingPathResponses →
    s'.conn.pendingResponses.length ≤ maxPendingPathResponses
  caused : ∀ ctrl ∈ echo, ∃ data, ctrl = .pathResponse data src ∧ Challenged src now s frames data

theorem dispatch_echoes (src : SocketAddr) (now : MonotonicTime) (s : Dispatch) (f : Frame) :
    ∃ echo, Echoes src now s [f] (dispatch src now s f) echo := by
  have hone := dispatch_queue src now s f
  generalize dispatch src now s f = s' at hone ⊢
  rcases hone with ⟨hqueue, hcount⟩ | ⟨data, rfl, hans, hqueue, hcount⟩
  · refine ⟨[], by rw [hqueue, List.append_nil], hcount, ?_, ?_, fun ctrl hctrl => by cases hctrl⟩
    · rw [hcount]
      exact id
    · rw [pendingResponses, pendingResponses, hqueue]
      exact id
  · simp only [answers, Bool.and_eq_true, decide_eq_true_eq] at hans
    obtain ⟨⟨hsrc, hfirst⟩, hroom⟩ := hans
    refine ⟨[.pathResponse data src], hqueue, hcount, fun _ => ?_, fun _ => ?_, ?_⟩
    · rw [hcount]
      exact hfirst
    · rw [pendingResponses_append hqueue, List.length_append]
      exact hroom
    · intro ctrl hctrl
      exact ⟨data, List.mem_singleton.mp hctrl, [], [], rfl, hsrc.symm⟩

/-! ## 2. A datagram -/

theorem Challenged.cons {src : SocketAddr} {now : MonotonicTime} {s : Dispatch} {f : Frame}
    {frames : List Frame} {data : Bytes 8}
    (h : Challenged src now (dispatch src now s f) frames data) :
    Challenged src now s (f :: frames) data := by
  obtain ⟨before, after, rfl, hsrc⟩ := h
  exact ⟨f :: before, after, rfl, hsrc⟩

theorem Challenged.append {src : SocketAddr} {now : MonotonicTime} {s : Dispatch}
    {frames : List Frame} {data : Bytes 8} (h : Challenged src now s frames data)
    (rest : List Frame) : Challenged src now s (frames ++ rest) data := by
  obtain ⟨before, after, rfl, hsrc⟩ := h
  exact ⟨before, after ++ rest, by rw [List.append_assoc, List.cons_append], hsrc⟩

/-- **The dispatch loop.** -/
theorem dispatchAll_echoes (src : SocketAddr) (now : MonotonicTime) (items : List (Result Frame))
    (s : Dispatch) :
    ∃ echo, Echoes src now s (readable items) (dispatchAll src now s items) echo := by
  induction items generalizing s with
  | nil => exact ⟨[], (List.append_nil _).symm, rfl, id, id, fun ctrl hctrl => by cases hctrl⟩
  | cons item rest ih =>
    cases item with
    | error e => exact ⟨[], (List.append_nil _).symm, rfl, id, id, fun ctrl hctrl => by cases hctrl⟩
    | ok f =>
      rw [dispatchAll, readable]
      obtain ⟨echo, hone⟩ := dispatch_echoes src now s f
      obtain ⟨echo', hrest⟩ := ih (dispatch src now s f)
      refine ⟨echo ++ echo', ?_, ?_, fun h => hrest.once (hone.once h),
        fun h => hrest.bounded (hone.bounded h), ?_⟩
      · rw [hrest.queue, hone.queue, List.append_assoc]
      · rw [hrest.count, hone.count, List.length_append, Nat.add_assoc]
      · intro ctrl hctrl
        rcases List.mem_append.mp hctrl with hctrl | hctrl
        · obtain ⟨data, rfl, hch⟩ := hone.caused ctrl hctrl
          exact ⟨data, rfl, hch.append (readable rest)⟩
        · obtain ⟨data, rfl, hch⟩ := hrest.caused ctrl hctrl
          exact ⟨data, rfl, hch.cons⟩

/-- The dispatch loop of an authenticated datagram starts here. -/
def atDispatch (c : GtpConnection) (header : PacketHeader) (src : SocketAddr) (len : Nat)
    (now : MonotonicTime) : Dispatch :=
  ⟨onAuthenticated { c with
    cold.totalRxPackets := c.cold.totalRxPackets + 1
    cold.totalRxBytes := c.cold.totalRxBytes + len } header src len now, [], false, none, 0⟩

/-- **The cause of a response**: the call received an authentic datagram from `src` with the
challenge, `src` was the active path when the challenge had its turn, and the call queued the
response. -/
def Causes (c : GtpConnection) (op : Op) (data : Bytes 8) (src : SocketAddr) : Prop :=
  ∃ datagram now ecn header payload, op = .handleIncoming src datagram now ecn ∧
    c.Opens datagram header payload ∧
    Challenged src now (c.atDispatch header src datagram.length now)
      (readable (FrameIterator.collect payload)) data ∧
    (c.step op).hot.controlQueue = c.hot.controlQueue ++ [.pathResponse data src]

/-- **An incoming datagram** adds at most one response, with its cause. -/
theorem handle_echoes (c : GtpConnection) (src : SocketAddr) (dg : List UInt8)
    (now : MonotonicTime) (ecn : UInt8) :
    let c' := c.step (.handleIncoming src dg now ecn)
    (c'.hot.controlQueue = c.hot.controlQueue ∨ ∃ data,
      c.Causes (.handleIncoming src dg now ecn) data src ∧
      c'.hot.controlQueue = c.hot.controlQueue ++ [.pathResponse data src]) ∧
    (c.pendingResponses.length ≤ maxPendingPathResponses →
      c'.pendingResponses.length ≤ maxPendingPathResponses) := by
  dsimp only
  by_cases hopen : ∃ hd pt, c.Opens dg hd pt
  · obtain ⟨hd, pt, hop⟩ := hopen
    obtain ⟨echo, hechoes⟩ := dispatchAll_echoes src now (FrameIterator.collect pt)
      (c.atDispatch hd src dg.length now)
    obtain ⟨amp, probe, rx, owd, emit, hauth⟩ := onAuthenticated_spec { c with
      cold.totalRxPackets := c.cold.totalRxPackets + 1
      cold.totalRxBytes := c.cold.totalRxBytes + dg.length } hd src dg.length now
    have hstart : (c.atDispatch hd src dg.length now).conn.hot.controlQueue =
        c.hot.controlQueue := by
      rw [atDispatch, hauth]
    -- acknowledgement, backpressure and close leave the queue
    have hend : (c.step (.handleIncoming src dg now ecn)).hot.controlQueue =
        (dispatchAll src now (c.atDispatch hd src dg.length now)
          (FrameIterator.collect pt)).conn.hot.controlQueue := by
      rw [step, hop.handle src now ecn, receiveFrames]
      dsimp only [atDispatch]
      split <;> rfl
    generalize hs' : dispatchAll src now (c.atDispatch hd src dg.length now)
      (FrameIterator.collect pt) = s' at hechoes hend
    have hqueue : (c.step (.handleIncoming src dg now ecn)).hot.controlQueue =
        c.hot.controlQueue ++ echo := by
      rw [hend, hechoes.queue, hstart]
    have honce : echo.length ≤ 1 := by
      have hcount := hechoes.once (Nat.zero_le _)
      rw [hechoes.count] at hcount
      exact (Nat.zero_add _).symm.le.trans hcount
    refine ⟨?_, ?_⟩
    · cases echo with
      | nil =>
        rw [List.append_nil] at hqueue
        exact Or.inl hqueue
      | cons ctrl rest =>
        obtain rfl := List.eq_nil_of_length_eq_zero (Nat.le_zero.mp (Nat.le_of_succ_le_succ honce))
        obtain ⟨data, rfl, hch⟩ := hechoes.caused ctrl List.mem_cons_self
        exact Or.inr ⟨data, ⟨dg, now, ecn, hd, pt, rfl, hop, hch, hqueue⟩, hqueue⟩
    · intro hle
      have hbound := hechoes.bounded (by rwa [pendingResponses, hstart])
      rwa [pendingResponses, hend]
  · have hhot := (handle_unopened (fun hd pt h => hopen ⟨hd, pt, h⟩) src now ecn).1
    refine ⟨Or.inl (by rw [step, hhot]), ?_⟩
    rw [pendingResponses, pendingResponses, step, hhot]
    exact id

/-! ## 3. The other calls -/

/-- A call that transmits or announces: some responses may leave at the front, none comes. -/
def Drains (c c' : GtpConnection) : Prop :=
  ∃ gone, c.pendingResponses = gone ++ c'.pendingResponses

omit [CryptoSuite] in
theorem Drains.of_queue {c c' : GtpConnection} {gone rest added : List OutgoingControlFrame}
    (hqueue : c.hot.controlQueue = gone ++ rest) (hqueue' : c'.hot.controlQueue = rest ++ added)
    (hadded : ∀ ctrl ∈ added, ctrl.isPathResponse = false) : Drains c c' := by
  have hnone : added.filter (·.isPathResponse) = [] := by
    rw [List.filter_eq_nil_iff]
    intro ctrl hctrl hresp
    rw [hadded ctrl hctrl] at hresp
    cases hresp
  refine ⟨gone.filter (·.isPathResponse), ?_⟩
  rw [pendingResponses, pendingResponses, hqueue, hqueue', List.filter_append, List.filter_append,
    hnone, List.append_nil]

omit [CryptoSuite] in
theorem Drains.of_eq {c c' : GtpConnection} (h : c'.hot.controlQueue = c.hot.controlQueue) :
    Drains c c' :=
  .of_queue (List.nil_append _).symm (h.trans (List.append_nil _).symm)
    fun ctrl hctrl => by cases hctrl

omit [CryptoSuite] in
theorem Drains.of_queued {c c' : GtpConnection} (ctrl : OutgoingControlFrame)
    (h : c'.hot.controlQueue = c.hot.controlQueue ++ [ctrl])
    (hresp : ctrl.isPathResponse = false) : Drains c c' :=
  .of_queue (List.nil_append _).symm h fun ctrl' hctrl => by
    rw [List.mem_singleton.mp hctrl]
    exact hresp

/-- **Every call that is not an incoming datagram.** -/
theorem step_drains (c : GtpConnection) {op : Op}
    (h : ∀ src dg now ecn, op ≠ .handleIncoming src dg now ecn) : Drains c (c.step op) := by
  cases op with
  | handleIncoming src dg now ecn => exact absurd rfl (h src dg now ecn)
  | sendUnreliable payload priority deadline now =>
    obtain ⟨s, id, hs⟩ := c.sendSingle_frame .unreliable payload priority deadline now
    exact .of_eq (by rw [step, sendUnreliable, hs])
  | sendSequenced key seq gen deadline payload now =>
    obtain ⟨s, id, hs⟩ := c.sendSingle_frame (.unreliableSequenced key seq gen) payload
      .p2WorldState deadline now
    exact .of_eq (by rw [step, sendSequenced, hs])
  | sendReliableUnordered payload priority deadline now =>
    obtain ⟨s, id, hs⟩ := c.sendReliableUnordered_frame payload priority deadline now
    exact .of_eq (by rw [step, hs])
  | sendReliableOrdered g payload priority deadline now =>
    obtain ⟨s, id, seqs, hs⟩ := c.sendReliableOrdered_frame g payload priority deadline now
    exact .of_eq (by rw [step, hs])
  | produce now outBuf =>
    have hmoves := c.step_moves (.produce now outBuf)
    generalize c.step (.produce now outBuf) = c' at hmoves ⊢
    cases hmoves with
    | quiet ctrls hquiet => cases hquiet
    | silent hnone hlink => exact .of_eq (congrArg Link.controlQueue hlink)
    | transmitted hsome htrans =>
      obtain ⟨queue, hqueue, hlink⟩ := htrans.rest
      exact .of_queue hqueue ((congrArg Link.controlQueue hlink).trans (List.append_nil _).symm)
        fun ctrl hctrl => by cases hctrl
  | setAckFrequency n ms r => exact .of_queued (.ackFrequency n ms r) rfl rfl
  | triggerPathChallenge addr nonce now => exact .of_queued (.pathChallenge nonce addr) rfl rfl
  | triggerMtuProbe id size => exact .of_queued (.mtuProbe id (size - 32)) rfl rfl
  | sendPing nonce => exact .of_queued (.ping nonce) rfl rfl
  | gracefulClose code reason =>
    obtain ⟨state, hstate⟩ := (c.queueControl (.close code reason)).changeState_frame .draining
    refine .of_queued (.close code reason) ?_ rfl
    rw [step, gracefulClose, hstate]
    rfl
  | forceClose =>
    obtain ⟨state, hstate⟩ := c.changeState_frame .closed
    exact .of_eq (by rw [step, forceClose, hstate])
  | ratchetKey => exact .of_eq (congrArg Link.controlQueue c.hot.link_ratchetSessionKey)
  | initiateKeyUpdate =>
    have hlink : (c.step .initiateKeyUpdate).hot.link = _ := c.hot.link_ratchetAndAnnounce
    split at hlink
    · exact .of_eq (congrArg Link.controlQueue hlink)
    · exact .of_queued (.keyUpdate (c.hot.keyPhaseCounter + 1))
        (congrArg Link.controlQueue hlink) rfl
  | drainEvents => exact .of_eq rfl
  | enableRouteSwitching policy paths => exact .of_eq rfl
  | feedRouteStats id stats =>
    refine .of_eq ?_
    rw [step, feedRouteStats]
    split <;> rfl

/-! ## 4. Runs -/

/-- The invariant of a run from `c`: few responses wait, and each was caused by a call of the run.
-/
structure ResponseInv (c : GtpConnection) (ops : List Op) : Prop where
  bounded : (c.run ops).pendingResponses.length ≤ maxPendingPathResponses
  caused : ∀ ctrl ∈ (c.run ops).pendingResponses, ∃ before op after data src,
    ops = before ++ op :: after ∧ ctrl = .pathResponse data src ∧
      (c.run before).Causes op data src

theorem run_snoc (c : GtpConnection) (ops : List Op) (op : Op) :
    c.run (ops ++ [op]) = (c.run ops).step op :=
  List.foldl_append

/-- **One more call.** -/
theorem ResponseInv.step {c : GtpConnection} {ops : List Op} (h : ResponseInv c ops) (op : Op) :
    ResponseInv c (ops ++ [op]) := by
  have hkeep : ∀ ctrl ∈ (c.run ops).pendingResponses, ∃ before op' after data src,
      ops ++ [op] = before ++ op' :: after ∧ ctrl = .pathResponse data src ∧
        (c.run before).Causes op' data src := by
    intro ctrl hctrl
    obtain ⟨before, op', after, data, src, heq, hresp, hcause⟩ := h.caused ctrl hctrl
    refine ⟨before, op', after ++ [op], data, src, ?_, hresp, hcause⟩
    rw [heq, List.append_assoc, List.cons_append]
  by_cases hin : ∃ src dg now ecn, op = .handleIncoming src dg now ecn
  · obtain ⟨src, dg, now, ecn, rfl⟩ := hin
    obtain ⟨hadded, hbound⟩ := (c.run ops).handle_echoes src dg now ecn
    refine ⟨?_, ?_⟩
    · rw [run_snoc]
      exact hbound h.bounded
    · rw [run_snoc]
      intro ctrl hctrl
      rcases hadded with hsame | ⟨data, hcause, hqueue⟩
      · rw [pendingResponses, hsame] at hctrl
        exact hkeep ctrl hctrl
      · rw [pendingResponses_append hqueue] at hctrl
        rcases List.mem_append.mp hctrl with hctrl | hctrl
        · exact hkeep ctrl hctrl
        · exact ⟨ops, _, [], data, src, rfl, List.mem_singleton.mp hctrl, hcause⟩
  · obtain ⟨gone, hgone⟩ := (c.run ops).step_drains fun src dg now ecn heq =>
      hin ⟨src, dg, now, ecn, heq⟩
    refine ⟨?_, ?_⟩
    · have hle := h.bounded
      rw [hgone, List.length_append] at hle
      rw [run_snoc]
      exact (Nat.le_add_left _ _).trans hle
    · rw [run_snoc]
      intro ctrl hctrl
      refine hkeep ctrl ?_
      rw [hgone]
      exact List.mem_append_right gone hctrl

/-- **Every run** of a fresh connection. -/
theorem Setup.start_responseInv (s : Setup) (ops : List Op) : ResponseInv s.start ops := by
  induction ops using List.reverseRecOn with
  | nil => exact ⟨Nat.zero_le _, fun ctrl hctrl => by cases hctrl⟩
  | append_singleton ops op ih => exact ih.step op

/-- **The bound on path responses.** After every run of a fresh connection at most two responses
wait in the control queue; a further incoming datagram, whatever it holds and wherever it comes
from, adds at most one; and each that waits was queued by a call of the run, for a challenge whose
source was the active path when it was read, and goes to that source.  That a challenge is answered
is not said: the response may be the third one. -/
theorem path_responses_bounded (s : Setup) (ops : List Op) :
    let c := s.start.run ops
    c.pendingResponses.length ≤ 2 ∧
    (∀ src datagram now ecn, ∃ echo, echo.length ≤ 1 ∧
      (c.step (.handleIncoming src datagram now ecn)).hot.controlQueue =
        c.hot.controlQueue ++ echo) ∧
    ∀ ctrl ∈ c.hot.controlQueue, ctrl.isPathResponse = true →
      ∃ before op after data src, ops = before ++ op :: after ∧
        ctrl = .pathResponse data src ∧ (s.start.run before).Causes op data src := by
  dsimp only
  have hinv := s.start_responseInv ops
  refine ⟨hinv.bounded, fun src dg now ecn => ?_, fun ctrl hctrl hresp =>
    hinv.caused ctrl (mem_pendingResponses.mpr ⟨hctrl, hresp⟩)⟩
  rcases ((s.start.run ops).handle_echoes src dg now ecn).1 with hsame | ⟨data, -, hqueue⟩
  · exact ⟨[], Nat.zero_le _, hsame.trans (List.append_nil _).symm⟩
  · exact ⟨[.pathResponse data src], Nat.le_refl 1, hqueue⟩

end GtpConnection

end Gtp
