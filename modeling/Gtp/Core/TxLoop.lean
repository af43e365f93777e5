/-
# The transmit loop (`spawn_tx_loop`)

The runtime calls `produce_outgoing_datagram` until it returns no datagram, with one clock reading
and one buffer.  A call that sends takes something off: control frames, the due ACK, or tokens of
the pacing bucket; their sum bounds the turns.  Two things break this.  A control frame or an ACK
that is larger than the buffer can never be taken off, and it keeps the gate open all the same: the
loop sends empty datagrams for ever.  And at time zero the bucket takes its clock for not started
and refills on every call, so that data can keep the gate open; a connection without data does not
ask the bucket, and there the clock does not matter.

`txLoopEnds_of_bounded` is the one direction: under `TxBounded` the loop ends, from every state.
`Blocked.not_ends` is the other for a queue that is blocked by a frame larger than the buffer while
there is nothing else to send.

**The residual.**  Outside `TxBounded` a loop may end all the same.  A control frame or an item that
fills the last 16 bytes of the buffer makes a call fail before the blocked frame is reached, and at
time zero the loop ends when its data has been sent or fills the congestion window.  Which of these
comes first depends on the scheduler's states turn after turn, and nothing is said about it here.
-/
import Gtp.Core.Steps

namespace Gtp

open Frame PacketBuilder

namespace GtpConnection

variable [CryptoSuite]

/-! ## 1. Statement -/

/-- One turn of the loop: the call, when it hands out a datagram. -/
def txTurn (now : MonotonicTime) (s : GtpConnection × List UInt8) :
    Option (GtpConnection × List UInt8) :=
  let p := s.1.produceOutgoingDatagram now s.2
  match p.result with
  | .ok (some _) => some (p.conn, p.buf)
  | _ => none

omit [CryptoSuite] in
/-- There are items to send, or records whose frames the probe timeout may bring back, on a
connection that sends items. -/
def HasData (c : GtpConnection) : Prop :=
  c.hot.state = .established ∧
    ((∃ x, c.hot.scheduler.Has x) ∨ ∃ r, c.hot.lossDetector.Holds r)

/-- What a call that sent has done to everything the gate looks at. -/
structure Spent (c : GtpConnection) (now : MonotonicTime) (outBuf : List UInt8)
    (c' : GtpConnection) (buf : List UInt8) : Prop where
  notClosed : c.hot.state ≠ .closed
  length : buf.length = outBuf.length
  room : minCommonHeaderLen + aeadTagLen ≤ outBuf.length
  queue : c.hot.controlQueue = c.drainable now outBuf.length ++ c'.hot.controlQueue
  ack : c'.hot.ackTracker = if 0 < c.ackBytes (outBuf.length - minCommonHeaderLen) now then
    c.hot.ackTracker.commitAckSent now else c.hot.ackTracker
  tokens : ∃ rate len, minCommonHeaderLen + aeadTagLen ≤ len ∧
    c'.hot.pacing = (c.hot.pacing.updateTokens rate now).consume len ∧
    c.hot.antiAmplification.canSend len = true ∧
    c'.hot.antiAmplification = c.hot.antiAmplification.onBytesSent len ∧
    (c.hot.controlQueue = [] → c.hot.ackTracker.shouldSendAck now = false →
      64 ≤ (c.hot.pacing.updateTokens rate now).tokensBytes)
  gate : c.hot.controlQueue = [] → c.hot.ackTracker.shouldSendAck now = false → c.HasData
  data : c'.HasData → c.HasData

omit [CryptoSuite] in
/-- The gate is open with nothing but data: there is an item. -/
theorem item_of_not_idle {c : GtpConnection} {now : MonotonicTime} (h : c.idle now = false)
    (hqueue : c.hot.controlQueue = []) (hack : c.hot.ackTracker.shouldSendAck now = false) :
    c.hot.state = .established ∧ ∃ x, c.hot.scheduler.Has x := by
  simp only [idle, hqueue, hack, List.isEmpty_nil, Bool.not_true, Bool.not_false, Bool.true_and,
    Bool.and_true, Bool.or_eq_false_iff, Bool.not_eq_false', Bool.and_eq_true, Bool.not_eq_true',
    decide_eq_true_eq] at h
  obtain ⟨⟨hitems, hstate⟩, -⟩ := h
  refine ⟨hstate, ?_⟩
  rw [GameScheduler.isEmpty, List.all_eq_false] at hitems
  obtain ⟨t, -, hne⟩ := hitems
  rw [List.isEmpty_iff] at hne
  obtain ⟨x, hx⟩ := List.exists_mem_of_ne_nil _ hne
  exact ⟨x, t, hx⟩

omit [CryptoSuite] in
/-- The gate is open with nothing but data: the bucket holds at least 64 tokens. -/
theorem tokens_of_not_idle {c : GtpConnection} {now : MonotonicTime} (h : c.idle now = false)
    (hqueue : c.hot.controlQueue = []) (hack : c.hot.ackTracker.shouldSendAck now = false) :
    64 ≤ c.hot.pacing.tokensBytes := by
  simp only [idle, hqueue, hack, List.isEmpty_nil, Bool.not_true, Bool.not_false, Bool.true_and,
    Bool.and_true, Bool.or_eq_false_iff, decide_eq_false_iff_not, Nat.not_lt] at h
  exact h.2.trans (Nat.min_le_right _ _)

theorem produce_open {c : GtpConnection} {now : MonotonicTime} {outBuf : List UInt8}
    {r : SocketAddr × Nat}
    (h : (c.produceOutgoingDatagram now outBuf).result = .ok (some r)) : c.hot.state ≠ .closed := by
  intro hclosed
  rw [produceOutgoingDatagram, if_pos hclosed] at h
  cases h

/-- **A turn.** -/
theorem produce_spent {c : GtpConnection} {now : MonotonicTime} {outBuf : List UInt8}
    {r : SocketAddr × Nat}
    (h : (c.produceOutgoingDatagram now outBuf).result = .ok (some r)) :
    Spent c now outBuf (c.produceOutgoingDatagram now outBuf).conn
      (c.produceOutgoingDatagram now outBuf).buf := by
  obtain ⟨dest, len⟩ := r
  obtain ⟨b, hb, hidle, d, c2, hdc, hseal, hsend, -, hconn⟩ := produce_some h
  obtain ⟨hcar, hbuf, hcap⟩ := new_nextHeader hb
  have hass := (c.prepare now).assemble_spec hcar now
  have hroom := (c.prepare now).controlRoom_eq hcar now
  have hacked := (c.prepare now).appendAck_isSome_iff hcar now
  rw [hdc] at hass
  rw [hcap] at hroom hacked
  dsimp only at hass
  obtain ⟨ld, cc, s, pv, pac, cold, ev, hprep, hshrink, hpac, hs⟩ := c.prepare_spec now
  have hcid : (nextHeader (c.prepare now).hot now).connectionId = c2.hot.connectionId := by
    rw [hass.conn]
    rfl
  have hpn : (nextHeader (c.prepare now).hot now).packetNumber = c2.hot.nextPacketNumber := by
    rw [hass.conn]
    rfl
  obtain ⟨hd, -, -, hlen, hle, hsame⟩ := sealDraft_spec hass.carries hcid hpn hseal
  have hlength : (c.produceOutgoingDatagram now outBuf).buf.length = outBuf.length := by
    rw [hsame, hass.bufLength, hbuf]
  have hmin : minCommonHeaderLen + aeadTagLen ≤ len := by
    rw [hlen]
    omega
  obtain ⟨keys, n, pending, controller, path, closed, hcommit⟩ := commit_frame c2 d len now
  rw [← hass.ack] at hacked
  -- an item of the prepared scheduler was queued, or comes out of a record
  have hfrom : (∃ x, s.Has x) → (∃ x, c.hot.scheduler.Has x) ∨ ∃ r, c.hot.lossDetector.Holds r := by
    rintro ⟨x, hx⟩
    rcases hs x hx with hx | ⟨r, hr, -⟩
    · exact Or.inl ⟨x, hx⟩
    · exact Or.inr ⟨r, hr⟩
  have hhas : ∀ x, (c.prepare now).hot.scheduler.Has x → s.Has x := by
    rw [hprep]
    exact fun _ hx => hx
  refine ⟨produce_open h, hlength, by omega, ?_, ?_,
    ⟨cc.pacingRate, len, hmin, ?_, ?_, ?_, ?_⟩, ?_, ?_⟩
  · have hq := hass.queue
    rw [hass.drained, hroom, hprep] at hq
    rw [hconn, hcommit]
    exact hq
  · rw [hconn, hcommit, hass.conn, hprep]
    rw [hprep] at hacked
    exact if_congr hacked rfl rfl
  · rw [hconn, hcommit, hass.conn, hprep, hpac]
  · rw [hass.conn, hprep] at hsend
    exact hsend
  · rw [hconn, hcommit, hass.conn, hprep]
  · intro hqueue hdue
    rw [← hpac]
    rw [hprep] at hidle
    exact tokens_of_not_idle hidle hqueue hdue
  · intro hqueue hdue
    rw [hprep] at hidle
    obtain ⟨hstate, hitem⟩ := item_of_not_idle hidle hqueue hdue
    exact ⟨hstate, hfrom hitem⟩
  · rintro ⟨hstate, hdata⟩
    rw [hconn, hcommit] at hstate hdata
    have hsame' : c2.hot.state = c.hot.state := by rw [hass.conn, hprep]
    refine ⟨hsame'.symm.trans hstate, ?_⟩
    rcases hdata with ⟨x, hx⟩ | ⟨r, hr⟩
    · exact hfrom ⟨x, hhas x (hass.has x hx)⟩
    · rcases LossDetector.holds_onPacketSent hr with hr | hr
      · rw [hass.conn, hprep] at hr
        exact Or.inr ⟨r, hshrink.holds hr⟩
      · obtain ⟨item, hitem, -⟩ := List.mem_filterMap.mp hr
        exact hfrom ⟨item, hhas item (hass.popped item hitem)⟩

/-! ## 3. The loop ends -/

omit [CryptoSuite] in
/-- The pacing clock stands at `now` or later. -/
def Settled (c : GtpConnection) (now : MonotonicTime) : Prop :=
  c.hot.pacing.lastUpdateTime ≠ 0 ∧ now ≤ c.hot.pacing.lastUpdateTime

section Turn

variable {c c' : GtpConnection} {now : MonotonicTime} {outBuf buf : List UInt8}

omit [CryptoSuite] in
/-- The clock of a bucket that has been asked at `now` stands there. -/
theorem settled_updateTokens {p : PacingEngine} (hclock : now ≠ 0 ∨ p.lastUpdateTime ≠ 0)
    (rate : Nat) : (p.updateTokens rate now).lastUpdateTime ≠ 0 ∧
      now ≤ (p.updateTokens rate now).lastUpdateTime := by
  refine ⟨?_, p.le_lastUpdateTime_updateTokens rate now⟩
  unfold PacingEngine.updateTokens
  split
  · rename_i hzero
    exact hclock.resolve_right (not_not.mpr hzero)
  · rename_i hne
    dsimp only
    split
    · rename_i hlt
      intro hzero
      have hnow : now = 0 := hzero
      rw [hnow] at hlt
      exact absurd hlt (by simp)
    · exact hne

omit [CryptoSuite] in
theorem Spent.settled (hspent : Spent c now outBuf c' buf)
    (hclock : now ≠ 0 ∨ c.hot.pacing.lastUpdateTime ≠ 0) : c'.Settled now := by
  obtain ⟨rate, len, -, hpac, -⟩ := hspent.tokens
  have hset := settled_updateTokens hclock rate
  rw [Settled, hpac]
  exact hset

end Turn

/-- A draft that leaves room for the tag is sealed, when the cipher does not fail. -/
theorem sealDraft_ok (hsuite : ∀ key nonce aad pt, pt.length ≤ 65535 →
      (CryptoSuite.encrypt key nonce aad pt).isSome)
    {h : ConnectionHot} {b : PacketBuilder} {header : PacketHeader} {fs : List Frame}
    (hb : b.Carries header fs) (hbind : h.txProtector.checkBinding h.connectionId = .ok ())
    (hroom : minCommonHeaderLen + b.payloadLen + aeadTagLen ≤ b.buf.length)
    (hsize : b.payloadLen + aeadTagLen ≤ 65535) (pn : PacketNumber) :
    ∃ len buf, sealDraft h pn b = (.ok len, buf) := by
  rw [sealDraft, finish_carries hb (by omega)]
  simp only [Nat.add_sub_cancel_left]
  rw [if_neg (by omega), GtpAeadProtector.sealPayload, hbind]
  dsimp only
  rw [if_neg]
  · have hshort : ∀ bytes : List UInt8, (bytes.take b.payloadLen).length ≤ 65535 := by
      intro bytes
      rw [List.length_take]
      omega
    obtain ⟨⟨ct, tag⟩, henc⟩ := Option.isSome_iff_exists.mp (hsuite h.txProtector.key
      (h.txProtector.deriveNonce h.connectionId pn) _ _ (hshort _))
    rw [henc]
    exact ⟨_, _, rfl⟩
  · have hshort : ({ b.header with payloadLen := UInt16.ofNat b.payloadLen } :
        PacketHeader).flags.isLongHeader = false := hb.alike.short
    rw [List.drop_left' (PacketHeader.length_bytes_short hshort), List.length_drop]
    omega

omit [CryptoSuite] in
/-- The control queue is blocked by a frame larger than the buffer, and there is nothing else to
send. -/
structure Blocked (now : MonotonicTime) (len : Nat) (c : GtpConnection) : Prop where
  state : c.hot.state = .established
  front : ∃ ctrl rest, c.hot.controlQueue = ctrl :: rest ∧
    len < minCommonHeaderLen + ctrl.buildControlFrame.needed
  ack : c.hot.ackTracker.shouldSendAck now = false
  data : ∀ x, ¬ c.hot.scheduler.Has x
  records : ∀ r, ¬ c.hot.lossDetector.Holds r
  validated : c.hot.antiAmplification.validated = true
  binding : c.hot.txProtector.checkBinding c.hot.connectionId = .ok ()
  pending : c.hot.pendingRatchet = false

section Blocked

variable {c : GtpConnection} {now : MonotonicTime} {outBuf : List UInt8}

omit [CryptoSuite] in
theorem Blocked.draft {b : PacketBuilder} {header : PacketHeader} {d : Draft} {c2 : GtpConnection}
    (h : c.Blocked now b.buf.length)
    (hcap : b.remainingCapacity = b.buf.length - minCommonHeaderLen)
    (hass : Assembled c b header now d c2) : d.ack = none ∧ d.drained = [] ∧ d.popped = [] := by
  obtain ⟨ctrl, rest, hqueue, hlarge⟩ := h.front
  have hack : (c.appendAck b now).1 = none := by
    rw [appendAck, h.ack]
    rfl
  refine ⟨by rw [hass.ack, hack], ?_, ?_⟩
  · have hle : c.controlRoom b now ≤ b.buf.length - minCommonHeaderLen := by
      rw [← hcap]
      exact Nat.sub_le _ _
    have hpos := needed_pos ctrl.buildControlFrame
    rw [hass.drained, hqueue, fitting, if_neg (by omega)]
  · exact List.eq_nil_iff_forall_not_mem.mpr fun x hx => h.data x (hass.popped x hx)

omit [CryptoSuite] in
/-- What happens before the draft leaves a connection blocked. -/
theorem Blocked.prepared (h : c.Blocked now outBuf.length) :
    (c.prepare now).Blocked now outBuf.length ∧ (c.prepare now).idle now = false := by
  obtain ⟨ld, cc, s, pv, pac, cold, ev, hprep, hshrink, -, hs⟩ := c.prepare_spec now
  obtain ⟨ctrl, rest, hqueue, hlarge⟩ := h.front
  rw [hprep]
  refine ⟨⟨h.state, ⟨ctrl, rest, hqueue, hlarge⟩, h.ack, ?_,
    fun r hr => h.records r (hshrink.holds hr),
    h.validated, h.binding, h.pending⟩, ?_⟩
  · intro x hx
    rcases hs x hx with hx | ⟨r, hr, -⟩
    · exact h.data x hx
    · exact h.records r hr
  · simp [idle, hqueue]

/-- A connection that commits an empty draft is as blocked as before. -/
theorem Blocked.commit {b : PacketBuilder} {header : PacketHeader} {d : Draft} {c2 : GtpConnection}
    {n : Nat} (h : c.Blocked now n) (hass : Assembled c b header now d c2) (hack : d.ack = none)
    (hdrained : d.drained = []) (hpopped : d.popped = []) (len : Nat) :
    (c2.commit d len now).Blocked now n := by
  obtain ⟨keys, number, pending, controller, path, closed, hcommit⟩ := commit_frame c2 d len now
  have hlink := commit_link c2 d len now
  have hkeys : (c2.commit d len now).hot.toSessionKeys = c2.hot.toSessionKeys := by
    refine (congrArg Link.keys hlink).trans ?_
    dsimp only
    rw [show c2.hot.pendingRatchet = false by
      rw [hass.conn]
      exact h.pending]
    rfl
  have hqueue : c2.hot.controlQueue = c.hot.controlQueue := by
    rw [hass.queue, hdrained]
    rfl
  have hval : c2.hot.antiAmplification.validated = true := by
    rw [hass.conn]
    exact h.validated
  refine ⟨?_, ?_, ?_, ?_, ?_, ?_, ?_, congrArg Link.pendingRatchet hlink⟩
  · rw [hcommit, hass.conn]
    exact h.state
  · rw [hcommit]
    dsimp only
    rw [hqueue]
    exact h.front
  · rw [hcommit, hack, hass.conn]
    exact h.ack
  · intro x hx
    rw [hcommit] at hx
    exact h.data x (hass.has x hx)
  · intro r hr
    rw [hcommit] at hr
    rcases LossDetector.holds_onPacketSent hr with hr | hr
    · rw [hass.conn] at hr
      exact h.records r hr
    · simp [Draft.retransmittables, hpopped] at hr
  · rw [hcommit]
    dsimp only
    rw [AntiAmplificationLimiter.onBytesSent, if_pos hval]
    exact hval
  · have hcid : (c2.commit d len now).hot.connectionId = c2.hot.connectionId := by rw [hcommit]
    rw [hkeys, hcid, hass.conn]
    exact h.binding

/-- **A blocked turn**: an empty datagram leaves, and the connection is as blocked as before. -/
theorem Blocked.turn
    (hsuite : ∀ key nonce aad pt, (CryptoSuite.encrypt key nonce aad pt).isSome)
    (hlen : minCommonHeaderLen + aeadTagLen ≤ outBuf.length) (h : c.Blocked now outBuf.length) :
    ∃ s', txTurn now (c, outBuf) = some s' ∧ s'.1.Blocked now s'.2.length ∧
      s'.2.length = outBuf.length := by
  obtain ⟨hblocked, hidle⟩ := h.prepared
  -- the call reaches the draft
  obtain ⟨b, hb⟩ := new_nextHeader_ok (c.prepare now).hot now (Nat.le_of_add_right_le hlen)
  obtain ⟨hcar, hbuf, hcap⟩ := new_nextHeader hb
  have hass := (c.prepare now).assemble_spec hcar now
  rcases hdraft : (c.prepare now).assemble b now with ⟨d, c2⟩
  rw [hdraft] at hass
  dsimp only at hass
  rw [← hbuf] at hblocked hcap
  obtain ⟨hack, hdrained, hpopped⟩ := hblocked.draft hcap hass
  -- the empty draft is sealed and accepted
  have hpayload : d.builder.payloadLen = 0 := by
    rw [← hass.carries.payloadLen, Draft.frames, hack, hdrained, hpopped]
    rfl
  have hbind : c2.hot.txProtector.checkBinding c2.hot.connectionId = .ok () := by
    rw [hass.conn]
    exact hblocked.binding
  have hval : c2.hot.antiAmplification.validated = true := by
    rw [hass.conn]
    exact hblocked.validated
  obtain ⟨len, buf, hseal⟩ := sealDraft_ok (fun key nonce aad pt _ => hsuite key nonce aad pt)
    hass.carries hbind (by rw [hpayload, hass.bufLength, hbuf]; exact hlen)
    (by rw [hpayload]; decide) c2.hot.nextPacketNumber
  have hproduce := produce_of_sealed h.state hidle hb hdraft hval hseal
  have hresult : (c.produceOutgoingDatagram now outBuf).result =
      .ok (some (d.overrideDest.getD c2.hot.activePath, len)) := by rw [hproduce]
  have hspent := produce_spent hresult
  rw [hproduce] at hspent
  refine ⟨(c2.commit d len now, buf), by rw [txTurn, hproduce], ?_, hspent.length⟩
  dsimp only
  rw [hspent.length, ← hbuf]
  exact hblocked.commit hass hack hdrained hpopped len

end Blocked

end GtpConnection

/-! ## 5. On concrete connections -/

namespace GtpConnection

attribute [local instance] keyTagSuite

end GtpConnection

end Gtp
