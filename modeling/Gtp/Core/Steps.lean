/-
# What one call changes

Every result about runs needs the same two questions answered for each entry point: what happens to
the link -- keys, packet number, control queue, the deferred ratchet -- and what happens to the
delivery state.  They are answered here once, and `step_moves` is the answer for every call.

* `Opens` is what it takes for a datagram to be authenticated.  One that does not open leaves the
  hot state alone (`handle_unopened`); one that opens acts frame by frame (`handle_opened`).
* A call that hands out a datagram drains the front of the control queue and may ratchet
  (`produce_transmitted`); one that does not leaves the link and the delivery state alone
  (`produce_silent`).
* Every other call at most queues a control frame (`step_quiet`).

`Link` collects the fields that key management and transmission read and write, so that "the rest is
as it was" is one equation.  What is not in the link and not in the delivery state is left to the
modules that need it: the congestion window, the estimators, the scheduler, the counters.
-/
import Gtp.Core.Connection
import Gtp.Core.Produce

namespace Gtp

open Frame

/-! ## 1. Keys -/

namespace SessionKeys

variable [CryptoSuite]

/-- A ratchet, which the grace window of the last one may refuse. -/
def ratchet (k : SessionKeys) (cid : ConnectionId) : SessionKeys :=
  if k.graceOpen then k else k.advance cid

/-- The answer to an announced phase. -/
def follow (k : SessionKeys) (cid : ConnectionId) (announcedPhase : UInt64) : SessionKeys :=
  if k.keyPhaseCounter < announcedPhase.toNat then k.ratchet cid else k

/-- What a received frame does to the keys. -/
def onFrame (cid : ConnectionId) (k : SessionKeys) : Frame → SessionKeys
  | .keyUpdate nextPhase _ => k.follow cid nextPhase
  | _ => k

end SessionKeys

def OutgoingControlFrame.isKeyUpdate : OutgoingControlFrame → Bool
  | .keyUpdate _ => true
  | _ => false

/-- What key management and transmission read and write. -/
structure Link where
  keys : SessionKeys
  connectionId : ConnectionId
  nextPacketNumber : PacketNumber
  controlQueue : List OutgoingControlFrame
  pendingRatchet : Bool

namespace ConnectionHot

/-- The link of a connection. -/
def link (h : ConnectionHot) : Link :=
  ⟨h.toSessionKeys, h.connectionId, h.nextPacketNumber, h.controlQueue, h.pendingRatchet⟩

variable [CryptoSuite]

theorem link_ratchetSessionKey (h : ConnectionHot) :
    h.ratchetSessionKey.link = { h.link with keys := h.toSessionKeys.ratchet h.connectionId } := by
  unfold ratchetSessionKey SessionKeys.ratchet
  split <;> rfl

theorem link_onKeyUpdate (h : ConnectionHot) (announcedPhase : UInt64) :
    (h.onKeyUpdate announcedPhase).link =
      { h.link with keys := h.toSessionKeys.follow h.connectionId announcedPhase } := by
  unfold onKeyUpdate SessionKeys.follow
  split
  · exact h.link_ratchetSessionKey
  · rfl

omit [CryptoSuite] in
/-- An announcement queues its frame and defers the ratchet. -/
theorem link_ratchetAndAnnounce (h : ConnectionHot) :
    h.ratchetAndAnnounce.2.link = if h.graceOpen then h.link else { h.link with
      controlQueue := h.controlQueue ++ [.keyUpdate (h.keyPhaseCounter + 1)]
      pendingRatchet := true } := by
  unfold ratchetAndAnnounce
  split <;> rfl

theorem link_flushPendingRatchet (h : ConnectionHot) :
    h.flushPendingRatchet.link = { h.link with
      keys := if h.pendingRatchet then h.toSessionKeys.ratchet h.connectionId else h.toSessionKeys
      pendingRatchet := false } := by
  unfold flushPendingRatchet
  cases hp : h.pendingRatchet with
  | true => exact link_ratchetSessionKey { h with pendingRatchet := false }
  | false => simp [link, hp]

/-- A ratchet touches the keys and their packet count only. -/
theorem ratchetSessionKey_frame (h : ConnectionHot) :
    ∃ keys n, h.ratchetSessionKey =
      { h with toSessionKeys := keys, packetsSinceRatchet := n } := by
  unfold ratchetSessionKey
  split
  · exact ⟨h.toSessionKeys, h.packetsSinceRatchet, rfl⟩
  · exact ⟨_, _, rfl⟩

theorem onKeyUpdate_frame (h : ConnectionHot) (announcedPhase : UInt64) :
    ∃ keys n, h.onKeyUpdate announcedPhase =
      { h with toSessionKeys := keys, packetsSinceRatchet := n } := by
  unfold onKeyUpdate
  split
  · exact h.ratchetSessionKey_frame
  · exact ⟨h.toSessionKeys, h.packetsSinceRatchet, rfl⟩

omit [CryptoSuite] in
theorem ratchetAndAnnounce_frame (h : ConnectionHot) :
    ∃ queue pending, h.ratchetAndAnnounce.2 =
      { h with controlQueue := queue, pendingRatchet := pending } := by
  unfold ratchetAndAnnounce
  split
  · exact ⟨h.controlQueue, h.pendingRatchet, rfl⟩
  · exact ⟨_, _, rfl⟩

theorem flushPendingRatchet_frame (h : ConnectionHot) :
    ∃ keys n pending, h.flushPendingRatchet =
      { h with toSessionKeys := keys, packetsSinceRatchet := n, pendingRatchet := pending } := by
  unfold flushPendingRatchet
  split
  · obtain ⟨keys, n, hr⟩ := ratchetSessionKey_frame { h with pendingRatchet := false }
    exact ⟨keys, n, false, hr⟩
  · exact ⟨h.toSessionKeys, h.packetsSinceRatchet, h.pendingRatchet, rfl⟩

omit [CryptoSuite] in
/-- The header decodes, names the connection and is not a replay. -/
theorem admitHeader_ok {h : ConnectionHot} {dg : List UInt8} {hd : PacketHeader} {k : Nat}
    (hadm : h.admitHeader dg = .ok (hd, k)) :
    PacketHeader.decode dg = .ok (hd, k) ∧ hd.connectionId = h.connectionId ∧
      h.replayWindow.check hd.packetNumber = .ok () := by
  unfold admitHeader at hadm
  cases hdec : PacketHeader.decode dg with
  | error e =>
    rw [hdec] at hadm
    cases hadm
  | ok res =>
    obtain ⟨hd', k'⟩ := res
    rw [hdec] at hadm
    simp only [bind, Except.bind] at hadm
    split at hadm
    · cases hadm
    · rename_i hcid
      cases hcheck : h.replayWindow.check hd'.packetNumber with
      | error e =>
        simp only [hcheck] at hadm
        cases hadm
      | ok u =>
        simp only [hcheck] at hadm
        obtain ⟨rfl, rfl⟩ := Prod.mk.inj (Except.ok.inj hadm)
        exact ⟨rfl, not_not.mp hcid, hcheck⟩

/-- Whatever opens, opens with the current receive key or the retained one. -/
theorem openDatagram_ok {h : ConnectionHot} {hd : PacketHeader} {aad enc pt : List UInt8}
    (hopen : h.openDatagram hd aad enc = .ok pt) :
    ∃ p, (p = h.rxProtector ∨ h.rxProtectorPrev = some p) ∧
      p.openPayload hd.packetNumber hd.connectionId aad enc enc.length = .ok pt := by
  unfold openDatagram at hopen
  dsimp only at hopen
  cases hprev : h.rxProtectorPrev with
  | none =>
    simp only [hprev] at hopen
    refine ⟨h.rxProtector, Or.inl rfl, ?_⟩
    split at hopen <;> simp_all
  | some prev =>
    simp only [hprev] at hopen
    cases hprefer : (hd.flags.keyPhase != h.keyPhase) with
    | true =>
      simp only [hprefer] at hopen
      cases hfirst : prev.openPayload hd.packetNumber hd.connectionId aad enc enc.length with
      | ok pt' =>
        simp only [hfirst] at hopen
        exact ⟨prev, Or.inr rfl, hfirst.trans hopen⟩
      | error e =>
        simp only [hfirst] at hopen
        refine ⟨h.rxProtector, Or.inl rfl, ?_⟩
        split at hopen
        · rename_i heq _
          cases heq
        · exact hopen
    | false =>
      simp only [hprefer] at hopen
      cases hsecond : h.rxProtector.openPayload hd.packetNumber hd.connectionId aad enc
          enc.length with
      | ok pt' =>
        simp only [hsecond] at hopen
        exact ⟨h.rxProtector, Or.inl rfl, hsecond.trans hopen⟩
      | error e =>
        simp only [hsecond] at hopen
        exact ⟨prev, Or.inr rfl, hopen⟩

end ConnectionHot

/-! ## 2. Delivery -/

/-- The dispatch of a list of frames, with what became of each. -/
def DeliveryState.onFrames (now : MonotonicTime) :
    DeliveryState → List Frame → List (Frame × Disposition) × DeliveryState
  | d, [] => ([], d)
  | d, frame :: rest =>
    let (disposition, d) := d.onFrame frame now
    let (fates, d) := d.onFrames now rest
    ((frame, disposition) :: fates, d)

/-- The frames that the dispatch loop gets to: all before the first that does not decode. -/
def readable : List (Result Frame) → List Frame
  | .ok frame :: rest => frame :: readable rest
  | _ => []

theorem readable_map_ok (fs : List Frame) : readable (fs.map .ok) = fs := by
  induction fs with
  | nil => rfl
  | cons f fs ih => exact congrArg (f :: ·) ih

/-- The messages that dispositions hand to the application. -/
def deliveredBy (fates : List (Frame × Disposition)) : List ReceivedMessage :=
  fates.flatMap fun e => e.2.messages

def isClose : Frame → Bool
  | .close .. => true
  | _ => false

namespace GtpConnection

/-! ## 3. The dispatch of one frame -/

variable [CryptoSuite]

/-- Where the frames of an authenticated datagram may lead: keys and delivery state frame by frame,
path responses at the end of the control queue, and nothing else of the link. -/
structure Dispatched (c : GtpConnection) (frames : List Frame) (now : MonotonicTime)
    (c' : GtpConnection) : Prop where
  link : ∃ answers, (∀ ctrl ∈ answers, ctrl.isPathResponse = true) ∧
    c'.hot.link = { c.hot.link with
      keys := frames.foldl (SessionKeys.onFrame c.hot.connectionId) c.hot.toSessionKeys
      controlQueue := c.hot.controlQueue ++ answers }
  delivery : c'.hot.toDeliveryState = (c.hot.toDeliveryState.onFrames now frames).2
  replayWindow : c'.hot.replayWindow = c.hot.replayWindow
  state : c'.hot.state = c.hot.state

theorem Dispatched.refl (c : GtpConnection) (now : MonotonicTime) : Dispatched c [] now c :=
  ⟨⟨[], by simp, by simp [ConnectionHot.link]⟩, rfl, rfl, rfl⟩

theorem Dispatched.trans {c c' c'' : GtpConnection} {fs fs' : List Frame} {now : MonotonicTime}
    (h : Dispatched c fs now c') (h' : Dispatched c' fs' now c'') :
    Dispatched c (fs ++ fs') now c'' := by
  obtain ⟨as, has, hl⟩ := h.link
  obtain ⟨as', has', hl'⟩ := h'.link
  have hkeys : c'.hot.toSessionKeys = _ := congrArg Link.keys hl
  have hcid : c'.hot.connectionId = _ := congrArg Link.connectionId hl
  have hpn : c'.hot.nextPacketNumber = _ := congrArg Link.nextPacketNumber hl
  have hq : c'.hot.controlQueue = _ := congrArg Link.controlQueue hl
  have hpend : c'.hot.pendingRatchet = _ := congrArg Link.pendingRatchet hl
  have hon : ∀ (d : DeliveryState) (l : List Frame),
      (d.onFrames now (l ++ fs')).2 = ((d.onFrames now l).2.onFrames now fs').2 := by
    intro d l
    induction l generalizing d with
    | nil => rfl
    | cons f l ih => exact ih _
  refine ⟨⟨as ++ as', ?_, ?_⟩, ?_, h'.replayWindow.trans h.replayWindow, h'.state.trans h.state⟩
  · intro ctrl hmem
    rcases List.mem_append.mp hmem with hmem | hmem
    · exact has ctrl hmem
    · exact has' ctrl hmem
  · rw [hl', hkeys, hcid, hq, List.append_assoc, List.foldl_append]
    simp only [ConnectionHot.link, hcid, hpn, hpend]
  · rw [h'.delivery, h.delivery, hon]

theorem Dispatched.of_untouched {c c' : GtpConnection} {f : Frame} {now : MonotonicTime}
    (hlink : c'.hot.link = c.hot.link) (hdel : c'.hot.toDeliveryState = c.hot.toDeliveryState)
    (hwin : c'.hot.replayWindow = c.hot.replayWindow) (hstate : c'.hot.state = c.hot.state)
    (hkey : ∀ k, SessionKeys.onFrame c.hot.connectionId k f = k)
    (hon : (c.hot.toDeliveryState.onFrame f now).2 = c.hot.toDeliveryState) :
    Dispatched c [f] now c' := by
  refine ⟨⟨[], by simp, ?_⟩, ?_, hwin, hstate⟩
  · rw [hlink, List.append_nil, List.foldl_cons, List.foldl_nil, hkey]
    rfl
  · rw [hdel]
    exact hon.symm

omit [CryptoSuite] in
theorem pushEvent_hot (c : GtpConnection) (e : ControlEvent) : (c.pushEvent e).hot = c.hot := rfl

omit [CryptoSuite] in
/-- **An ACK frame** is for the loss detector; it touches the window, the scheduler and the
telemetry besides. -/
theorem onAckFrame_spec (c : GtpConnection) (l : PacketNumber) (d : UInt32) (r : AckRanges)
    (n : UInt8) (now : MonotonicTime) :
    ∃ cc s cold ev, c.onAckFrame l d r n now =
      { c with
        hot.lossDetector := (c.hot.lossDetector.onAckReceived l d r.toList n.toNat now).1
        hot.cc := cc, hot.scheduler := s, cold := cold, eventQueue := ev } := by
  unfold onAckFrame
  rcases c.hot.lossDetector.onAckReceived l d r.toList n.toNat now with ⟨ld, ackEv, lossEv, x⟩
  dsimp only
  generalize hc1 : (if lossEv.lostPackets.isEmpty = true then _ else _ : GtpConnection) = c1
  have hhot : ∃ cc cold ev, c1 = { c with
      hot.lossDetector := ld, hot.cc := cc, cold := cold, eventQueue := ev } := by
    rw [← hc1]
    split
    · exact ⟨_, c.cold, c.eventQueue, rfl⟩
    · exact ⟨_, _, _, rfl⟩
  obtain ⟨cc, cold, ev, rfl⟩ := hhot
  obtain ⟨s, cold', ev', hall, -⟩ := retransmitAll_spec now lossEv.retransmittable { c with
    hot.lossDetector := ld, hot.cc := cc, cold := cold, eventQueue := ev }
  exact ⟨cc, s, cold', ev', hall⟩

omit [CryptoSuite] in
theorem countDrop_hot (c : GtpConnection) (d : Disposition) : (c.countDrop d).hot = c.hot := by
  cases d <;> rfl

omit [CryptoSuite] in
theorem onPathResponse_spec (c : GtpConnection) (src : SocketAddr) (data : Bytes 8)
    (now : MonotonicTime) :
    ∃ path amp probe pv ld owd, (c.onPathResponse src data now).hot =
      { c.hot with
        activePath := path, antiAmplification := amp, antiAmplificationProbe := probe
        pathValidator := pv, lossDetector := ld, owd := owd } := by
  unfold onPathResponse
  rcases c.hot.pathValidator.validateResponse src data now with ⟨valid, pv⟩
  dsimp only
  split
  · exact ⟨_, _, _, _, _, _, rfl⟩
  · exact ⟨c.hot.activePath, c.hot.antiAmplification, c.hot.antiAmplificationProbe, pv,
      c.hot.lossDetector, c.hot.owd, rfl⟩

/-- **One frame.** -/
theorem dispatch_spec (src : SocketAddr) (now : MonotonicTime) (s : Dispatch) (f : Frame) :
    Dispatched s.conn [f] now (dispatch src now s f).conn ∧
      (dispatch src now s f).deliveredMessages =
        s.deliveredMessages ++ (s.conn.hot.toDeliveryState.onFrame f now).1.messages ∧
      (dispatch src now s f).closeReceived.isSome = (s.closeReceived.isSome || isClose f) := by
  cases f with
  | ack l d r n e0 e1 ce =>
    obtain ⟨cc, sch, cold, ev, hack⟩ := s.conn.onAckFrame_spec l d r n now
    refine ⟨?_, (List.append_nil _).symm, (Bool.or_false _).symm⟩
    refine Dispatched.of_untouched ?_ ?_ ?_ ?_ (fun _ => rfl) rfl <;>
      simp only [dispatch, hack, ConnectionHot.link]
  | data id key seq gen dl p =>
    refine ⟨⟨⟨[], by simp, ?_⟩, ?_, ?_, ?_⟩, rfl, (Bool.or_false _).symm⟩ <;>
      simp only [dispatch, countDrop_hot, List.append_nil] <;> rfl
  | reliableData id fid n g q p =>
    refine ⟨⟨⟨[], by simp, ?_⟩, ?_, ?_, ?_⟩, rfl, (Bool.or_false _).symm⟩ <;>
      simp only [dispatch, countDrop_hot, List.append_nil] <;> rfl
  | retx id fid t p =>
    refine ⟨⟨⟨[], by simp, ?_⟩, ?_, ?_, ?_⟩, rfl, (Bool.or_false _).symm⟩ <;>
      simp only [dispatch, countDrop_hot, List.append_nil] <;> rfl
  | pathChallenge token =>
    refine ⟨?_, ?_, ?_⟩
    · unfold dispatch
      dsimp only
      split
      · exact ⟨⟨[.pathResponse token src], by simp [OutgoingControlFrame.isPathResponse], rfl⟩,
          rfl, rfl, rfl⟩
      · exact .of_untouched rfl rfl rfl rfl (fun _ => rfl) rfl
    · unfold dispatch
      dsimp only
      split <;> exact (List.append_nil _).symm
    · unfold dispatch
      dsimp only
      split <;> exact (Bool.or_false _).symm
  | pathResponse token =>
    obtain ⟨path, amp, probe, pv, ld, owd, hresp⟩ := s.conn.onPathResponse_spec src token now
    refine ⟨?_, (List.append_nil _).symm, (Bool.or_false _).symm⟩
    refine Dispatched.of_untouched ?_ ?_ ?_ ?_ (fun _ => rfl) rfl <;>
      simp only [dispatch, hresp, ConnectionHot.link]
  | keyUpdate p proof =>
    obtain ⟨keys, n, hframe⟩ := s.conn.hot.onKeyUpdate_frame p
    refine ⟨⟨⟨[], by simp, ?_⟩, ?_, ?_, ?_⟩, (List.append_nil _).symm, (Bool.or_false _).symm⟩
    · rw [List.append_nil]
      exact s.conn.hot.link_onKeyUpdate p
    · simp only [dispatch, hframe]
      rfl
    · simp only [dispatch, hframe]
    · simp only [dispatch, hframe]
  | close code reason =>
    exact ⟨.of_untouched rfl rfl rfl rfl (fun _ => rfl) rfl, (List.append_nil _).symm,
      (Bool.or_true _).symm⟩
  | _ =>
    exact ⟨.of_untouched rfl rfl rfl rfl (fun _ => rfl) rfl, (List.append_nil _).symm,
      (Bool.or_false _).symm⟩

/-- **The dispatch loop.** -/
theorem dispatchAll_spec (src : SocketAddr) (now : MonotonicTime) (items : List (Result Frame))
    (s : Dispatch) :
    Dispatched s.conn (readable items) now (dispatchAll src now s items).conn ∧
      (dispatchAll src now s items).deliveredMessages = s.deliveredMessages ++
        deliveredBy (s.conn.hot.toDeliveryState.onFrames now (readable items)).1 ∧
      (dispatchAll src now s items).closeReceived.isSome =
        (s.closeReceived.isSome || (readable items).any isClose) := by
  induction items generalizing s with
  | nil => exact ⟨.refl _ now, (List.append_nil _).symm, (Bool.or_false _).symm⟩
  | cons item rest ih =>
    cases item with
    | error e =>
      exact ⟨⟨⟨[], by simp, by simp [ConnectionHot.link, readable, dispatchAll]⟩, rfl, rfl, rfl⟩,
        (List.append_nil _).symm, (Bool.or_false _).symm⟩
    | ok f =>
      obtain ⟨hd, hm, hc⟩ := dispatch_spec src now s f
      obtain ⟨hd', hm', hc'⟩ := ih (dispatch src now s f)
      refine ⟨hd.trans hd', ?_, ?_⟩
      · rw [dispatchAll, hm', hm, List.append_assoc, hd.delivery]
        rfl
      · rw [dispatchAll, hc', hc, Bool.or_assoc]
        rfl

/-! ## 4. An incoming datagram -/

/-- The datagram passes every gate: not closed, header and connection id, replay window, AEAD. -/
def Opens (c : GtpConnection) (datagram : List UInt8) (header : PacketHeader)
    (payload : List UInt8) : Prop :=
  c.hot.state ≠ .closed ∧ ∃ n, c.hot.admitHeader datagram = .ok (header, n) ∧
    c.hot.openDatagram header (datagram.take n) (datagram.drop n) = .ok payload

theorem Opens.inj {c : GtpConnection} {dg : List UInt8} {hd hd' : PacketHeader}
    {pt pt' : List UInt8} (h : c.Opens dg hd pt) (h' : c.Opens dg hd' pt') :
    hd = hd' ∧ pt = pt' := by
  obtain ⟨-, n, hadm, hopen⟩ := h
  obtain ⟨-, n', hadm', hopen'⟩ := h'
  rw [hadm] at hadm'
  obtain ⟨rfl, rfl⟩ := Prod.mk.inj (Except.ok.inj hadm')
  rw [hopen] at hopen'
  exact ⟨rfl, Except.ok.inj hopen'⟩

/-- What an authenticated datagram did. -/
structure Received (c : GtpConnection) (header : PacketHeader) (frames : List Frame)
    (now : MonotonicTime) (c' : GtpConnection) : Prop where
  link : ∃ answers, (∀ ctrl ∈ answers, ctrl.isPathResponse = true) ∧
    c'.hot.link = { c.hot.link with
      keys := frames.foldl (SessionKeys.onFrame c.hot.connectionId) c.hot.tickRxKeyGrace
      controlQueue := c.hot.controlQueue ++ answers }
  delivery : c'.hot.toDeliveryState = (c.hot.toDeliveryState.onFrames now frames).2
  replayWindow : c'.hot.replayWindow = c.hot.replayWindow.commit header.packetNumber
  closes : frames.any isClose = true → c'.hot.state = .closed

theorem handle_unopened {c : GtpConnection} {dg : List UInt8}
    (h : ∀ hd pt, ¬ c.Opens dg hd pt) (src : SocketAddr) (now : MonotonicTime) (ecn : UInt8) :
    (c.handleIncomingDatagramWithEcn src dg now ecn).2.hot = c.hot ∧
      c.messagesOf (.handleIncoming src dg now ecn) = [] := by
  have hmsgs : ∀ r : Result (List ReceivedMessage),
      (c.handleIncomingDatagramWithEcn src dg now ecn).1 = r → (r = .ok [] ∨ ∃ e, r = .error e) →
      c.messagesOf (.handleIncoming src dg now ecn) = [] := by
    intro r hr hcase
    rw [messagesOf, hr]
    rcases hcase with rfl | ⟨e, rfl⟩ <;> rfl
  unfold handleIncomingDatagramWithEcn at hmsgs ⊢
  by_cases hclosed : c.hot.state = .closed
  · rw [if_pos hclosed] at hmsgs ⊢
    exact ⟨rfl, hmsgs _ rfl (Or.inl rfl)⟩
  · rw [if_neg hclosed] at hmsgs ⊢
    dsimp only at hmsgs ⊢
    cases hadm : c.hot.admitHeader dg with
    | error e =>
      rw [hadm] at hmsgs
      exact ⟨rfl, hmsgs _ rfl (Or.inr ⟨e, rfl⟩)⟩
    | ok res =>
      obtain ⟨hd, n⟩ := res
      rw [hadm] at hmsgs
      dsimp only at hmsgs ⊢
      cases hopen : c.hot.openDatagram hd (dg.take n) (dg.drop n) with
      | error e =>
        rw [hopen] at hmsgs
        exact ⟨rfl, hmsgs _ rfl (Or.inr ⟨e, rfl⟩)⟩
      | ok pt => exact absurd ⟨hclosed, n, hadm, hopen⟩ (h hd pt)

omit [CryptoSuite] in
theorem creditPath_spec (h : ConnectionHot) (src : SocketAddr) (len : Nat) :
    ∃ amp probe, h.creditPath src len =
      { h with antiAmplification := amp, antiAmplificationProbe := probe } := by
  unfold ConnectionHot.creditPath
  split
  · exact ⟨_, h.antiAmplificationProbe, rfl⟩
  · split
    · rename_i hprobe
      split
      · exact ⟨h.antiAmplification, _, rfl⟩
      · exact ⟨h.antiAmplification, h.antiAmplificationProbe, rfl⟩
    · exact ⟨h.antiAmplification, h.antiAmplificationProbe, rfl⟩

omit [CryptoSuite] in
theorem onAuthenticated_spec (c : GtpConnection) (hd : PacketHeader) (src : SocketAddr) (len : Nat)
    (now : MonotonicTime) :
    ∃ amp probe rx owd emit, (c.onAuthenticated hd src len now).hot =
      { c.hot with
        replayWindow := c.hot.replayWindow.commit hd.packetNumber, antiAmplification := amp
        antiAmplificationProbe := probe, toSessionKeys := c.hot.tickRxKeyGrace, lastRxTime := rx
        owd := owd, lastOwdEmit := emit } := by
  obtain ⟨amp, probe, hcredit⟩ := creditPath_spec
    { c.hot with replayWindow := c.hot.replayWindow.commit hd.packetNumber } src len
  unfold onAuthenticated emitOwd
  dsimp only
  rw [hcredit]
  split
  · exact ⟨_, _, _, _, _, rfl⟩
  · exact ⟨_, _, _, _, c.hot.lastOwdEmit, rfl⟩

/-- A datagram that opens is counted and handed on. -/
theorem Opens.handle {c : GtpConnection} {dg : List UInt8} {hd : PacketHeader} {pt : List UInt8}
    (h : c.Opens dg hd pt) (src : SocketAddr) (now : MonotonicTime) (ecn : UInt8) :
    c.handleIncomingDatagramWithEcn src dg now ecn =
      (onAuthenticated { c with
        cold.totalRxPackets := c.cold.totalRxPackets + 1
        cold.totalRxBytes := c.cold.totalRxBytes + dg.length } hd src dg.length now).receiveFrames
        src hd.packetNumber pt now ecn := by
  obtain ⟨hopen, n, hadm, hpt⟩ := h
  unfold handleIncomingDatagramWithEcn
  rw [if_neg hopen]
  dsimp only
  rw [hadm]
  dsimp only
  rw [hpt]

/-- **An authenticated datagram** acts frame by frame; it returns what it delivered unless a close
frame is among them. -/
theorem handle_opened {c : GtpConnection} {dg : List UInt8} {hd : PacketHeader} {pt : List UInt8}
    (h : c.Opens dg hd pt) (src : SocketAddr) (now : MonotonicTime) (ecn : UInt8) :
    let frames := readable (FrameIterator.collect pt)
    Received c hd frames now (c.handleIncomingDatagramWithEcn src dg now ecn).2 ∧
      c.messagesOf (.handleIncoming src dg now ecn) = if frames.any isClose then []
        else deliveredBy (c.hot.toDeliveryState.onFrames now frames).1 := by
  dsimp only
  rw [messagesOf, h.handle src now ecn]
  obtain ⟨amp, probe, rx, owd, emit, hauth⟩ := onAuthenticated_spec { c with
    cold.totalRxPackets := c.cold.totalRxPackets + 1
    cold.totalRxBytes := c.cold.totalRxBytes + dg.length } hd src dg.length now
  generalize onAuthenticated { c with
    cold.totalRxPackets := c.cold.totalRxPackets + 1
    cold.totalRxBytes := c.cold.totalRxBytes + dg.length } hd src dg.length now = c1 at hauth ⊢
  obtain ⟨⟨hl, hdel, hwin, -⟩, hmsgs, hclose⟩ :=
    dispatchAll_spec src now (FrameIterator.collect pt) ⟨c1, [], false, none, 0⟩
  unfold receiveFrames
  generalize dispatchAll src now ⟨c1, [], false, none, 0⟩ (FrameIterator.collect pt) = s
    at hl hdel hwin hmsgs hclose ⊢
  dsimp only at hl hdel hwin hmsgs hclose ⊢
  rw [hauth] at hl hdel hwin hmsgs
  rw [Option.isSome_none, Bool.false_or] at hclose
  have hrec : ∀ c' : GtpConnection, c'.hot.link = s.conn.hot.link →
      c'.hot.toDeliveryState = s.conn.hot.toDeliveryState →
      c'.hot.replayWindow = s.conn.hot.replayWindow →
      ((readable (FrameIterator.collect pt)).any isClose = true → c'.hot.state = .closed) →
      Received c hd (readable (FrameIterator.collect pt)) now c' := by
    intro c' h1 h2 h3 h4
    obtain ⟨as, has, hlink⟩ := hl
    exact ⟨⟨as, has, h1.trans hlink⟩, h2.trans hdel, h3.trans hwin, h4⟩
  cases hcr : s.closeReceived with
  | some code =>
    rw [hcr] at hclose
    have hclosed : ∀ state : ConnectionState, state.moveTo .closed = .closed := by
      intro state
      cases state <;> rfl
    refine ⟨hrec _ rfl rfl rfl fun _ => hclosed _, ?_⟩
    rw [← hclose]
    rfl
  | none =>
    rw [hcr] at hclose
    have hopen' : (readable (FrameIterator.collect pt)).any isClose = false := hclose.symm
    refine ⟨hrec _ rfl rfl rfl fun h => absurd h (by rw [hopen']; exact Bool.false_ne_true), ?_⟩
    rw [hopen']
    exact hmsgs

/-! ## 5. An outgoing datagram -/

omit [CryptoSuite] in
theorem tickRouteEvaluation_spec (c : GtpConnection) (now : MonotonicTime) :
    ∃ controller path, (c.tickRouteEvaluation now).hot =
      { c.hot with routeController := controller, activePath := path } := by
  unfold tickRouteEvaluation
  split
  · exact ⟨c.hot.routeController, c.hot.activePath, rfl⟩
  · exact ⟨_, _, rfl⟩

theorem commit_link (c : GtpConnection) (d : Draft) (len : Nat) (now : MonotonicTime) :
    (c.commit d len now).hot.link = { c.hot.link with
      keys := if c.hot.pendingRatchet then c.hot.toSessionKeys.ratchet c.hot.connectionId
        else c.hot.toSessionKeys
      nextPacketNumber := PacketNumber.next c.hot.nextPacketNumber
      pendingRatchet := false } := by
  unfold commit
  dsimp only
  obtain ⟨controller, path, htick⟩ := tickRouteEvaluation_spec _ now
  rw [htick]
  exact ConnectionHot.link_flushPendingRatchet _

theorem commit_frame (c : GtpConnection) (d : Draft) (len : Nat) (now : MonotonicTime) :
    ∃ keys n pending controller path closed, (c.commit d len now).hot =
      { c.hot with
        toSessionKeys := keys, packetsSinceRatchet := n, pendingRatchet := pending
        routeController := controller, activePath := path, closeFrameSent := closed
        antiAmplification := c.hot.antiAmplification.onBytesSent len
        lossDetector := c.hot.lossDetector.onPacketSent
          ⟨c.hot.nextPacketNumber, now, len, d.ackEliciting, d.ackEliciting, d.retransmittables⟩
        pacing := c.hot.pacing.consume len
        nextPacketNumber := PacketNumber.next c.hot.nextPacketNumber
        ackTracker := if d.ack.isSome then c.hot.ackTracker.commitAckSent now
          else c.hot.ackTracker } := by
  unfold commit
  dsimp only
  obtain ⟨controller, path, htick⟩ := tickRouteEvaluation_spec _ now
  obtain ⟨keys, n, pending, hflush⟩ := ConnectionHot.flushPendingRatchet_frame _
  rw [htick]
  dsimp only
  rw [hflush]
  exact ⟨keys, n, pending, controller, path, _, rfl⟩

/-- What a call that handed out the datagram `dg` did: the draft `d` left under the header `hd`,
sealed with the key that was current when the call began. -/
structure Transmitted (c : GtpConnection) (now : MonotonicTime) (len : Nat) (d : Draft)
    (hd : PacketHeader) (dg : List UInt8) (c' : GtpConnection) : Prop where
  sealing : Sealed c.hot.txProtector hd (payloadOf d.frames) dg
  sendable : ∀ f ∈ d.frames, Sendable f
  connectionId : hd.connectionId = c.hot.connectionId
  packetNumber : hd.packetNumber = c.hot.nextPacketNumber
  drained : d.drained = c.drainable now len
  ack : ∀ f, d.ack = some f → ∃ l dl r n e0 e1 ce, f = .ack l dl r n e0 e1 ce
  rest : ∃ queue, c.hot.controlQueue = d.drained ++ queue ∧
    c'.hot.link = { c.hot.link with
      keys := if c.hot.pendingRatchet then c.hot.toSessionKeys.ratchet c.hot.connectionId
        else c.hot.toSessionKeys
      nextPacketNumber := PacketNumber.next c.hot.nextPacketNumber
      controlQueue := queue
      pendingRatchet := false }
  delivery : c'.hot.toDeliveryState = c.hot.toDeliveryState
  replayWindow : c'.hot.replayWindow = c.hot.replayWindow

/-- **A call that hands out a datagram.** -/
theorem produce_transmitted {c : GtpConnection} {now : MonotonicTime} {outBuf : List UInt8}
    {dest : SocketAddr} {len : Nat}
    (h : (c.produceOutgoingDatagram now outBuf).result = .ok (some (dest, len))) :
    ∃ d hd, Transmitted c now outBuf.length d hd
      ((c.produceOutgoingDatagram now outBuf).buf.take len)
      (c.produceOutgoingDatagram now outBuf).conn := by
  obtain ⟨b, hb, -, d, c2, hdc, hseal, -, -, hconn⟩ := produce_some h
  obtain ⟨hcar, -, hcap⟩ := new_nextHeader hb
  have hass := (c.prepare now).assemble_spec hcar now
  have hroom := (c.prepare now).controlRoom_eq hcar now
  rw [hdc] at hass
  rw [hcap] at hroom
  dsimp only at hass
  obtain ⟨ld, cc, s, pv, pac, cold, ev, hprep, -⟩ := c.prepare_spec now
  have hcid : (nextHeader (c.prepare now).hot now).connectionId = c2.hot.connectionId := by
    rw [hass.conn]
    rfl
  have hpn : (nextHeader (c.prepare now).hot now).packetNumber = c2.hot.nextPacketNumber := by
    rw [hass.conn]
    rfl
  obtain ⟨hd, halike, hsealed, -⟩ := sealDraft_spec hass.carries hcid hpn hseal
  have hlink2 : c2.hot.link = { c.hot.link with controlQueue := c2.hot.controlQueue } := by
    rw [hass.conn, hprep]
    rfl
  have hkeys2 : c2.hot.toSessionKeys = c.hot.toSessionKeys := congrArg Link.keys hlink2
  have hcid2 : c2.hot.connectionId = c.hot.connectionId := congrArg Link.connectionId hlink2
  have hpn2 : c2.hot.nextPacketNumber = c.hot.nextPacketNumber :=
    congrArg Link.nextPacketNumber hlink2
  have hpend2 : c2.hot.pendingRatchet = c.hot.pendingRatchet := congrArg Link.pendingRatchet hlink2
  refine ⟨d, hd, ⟨?_, hass.carries.sendable, ?_, ?_, ?_, ?_, ⟨c2.hot.controlQueue, ?_, ?_⟩,
    ?_, ?_⟩⟩
  · rw [← hkeys2]
    exact hsealed
  · rw [halike.connectionId, hcid, hcid2]
  · rw [halike.packetNumber, hpn, hpn2]
  · rw [hass.drained, hroom, hprep]
    rfl
  · intro f hf
    rw [hass.ack] at hf
    exact appendAck_isAck hf
  · rw [← hass.queue, hprep]
  · rw [hconn, commit_link, hkeys2, hcid2, hpn2, hpend2, hlink2]
  all_goals
    obtain ⟨keys, n, pending, controller, path, closed, hcommit⟩ := commit_frame c2 d len now
    rw [hconn, hcommit, hass.conn, hprep]

/-- **A call that does not** leaves the link and the delivery state alone. -/
theorem produce_silent {c : GtpConnection} {now : MonotonicTime} {outBuf : List UInt8}
    (h : ∀ dest len, (c.produceOutgoingDatagram now outBuf).result ≠ .ok (some (dest, len))) :
    (c.produceOutgoingDatagram now outBuf).conn.hot.link = c.hot.link ∧
      (c.produceOutgoingDatagram now outBuf).conn.hot.toDeliveryState = c.hot.toDeliveryState ∧
      (c.produceOutgoingDatagram now outBuf).conn.hot.replayWindow = c.hot.replayWindow := by
  obtain ⟨st, ld, cc, s, pv, pac, cold, ev, hconn, -⟩ := produce_none h
  rw [hconn]
  exact ⟨rfl, rfl, rfl⟩

/-! ## 6. Every other call -/

/-- A call that neither receives, transmits, ratchets nor announces. -/
def Op.quiet : Op → Bool
  | .handleIncoming .. => false
  | .produce .. => false
  | .ratchetKey => false
  | .initiateKeyUpdate => false
  | _ => true

omit [CryptoSuite] in
theorem enqueueAll_frame (now : MonotonicTime) (items : List SchedulableItem) (c : GtpConnection) :
    ∃ s, (enqueueAll now c items).2 = { c with hot.scheduler := s } := by
  induction items generalizing c with
  | nil => exact ⟨c.hot.scheduler, rfl⟩
  | cons item rest ih =>
    rw [enqueueAll, enqueueItem]
    rcases c.hot.scheduler.enqueue item now with ⟨res, s⟩
    cases res with
    | error e => exact ⟨s, rfl⟩
    | ok u =>
      obtain ⟨s', hs'⟩ := ih { c with hot.scheduler := s }
      exact ⟨s', hs'⟩

omit [CryptoSuite] in
theorem enqueueFragments_frame (c : GtpConnection) (msgId : MessageId) (class' : MessageClass)
    (payload : List UInt8) (priority : PriorityTier) (deadline : Option MonotonicTime)
    (total : Nat) (now : MonotonicTime) :
    ∃ s, (c.enqueueFragments msgId class' payload priority deadline total now).2 =
      { c with hot.scheduler := s } := by
  unfold enqueueFragments
  split
  · exact ⟨c.hot.scheduler, rfl⟩
  · exact enqueueAll_frame now _ c

omit [CryptoSuite] in
theorem sendSingle_frame (c : GtpConnection) (class' : MessageClass) (payload : List UInt8)
    (priority : PriorityTier) (deadline : Option MonotonicTime) (now : MonotonicTime) :
    ∃ s id, (c.sendSingle class' payload priority deadline now).2 =
      { c with hot.scheduler := s, hot.nextMessageId := id } := by
  unfold sendSingle
  split
  · exact ⟨c.hot.scheduler, c.hot.nextMessageId, rfl⟩
  · exact ⟨_, _, rfl⟩

omit [CryptoSuite] in
theorem sendReliableUnordered_frame (c : GtpConnection) (payload : List UInt8)
    (priority : PriorityTier) (deadline : Option MonotonicTime) (now : MonotonicTime) :
    ∃ s id, (c.sendReliableUnordered payload priority deadline now).2 =
      { c with hot.scheduler := s, hot.nextMessageId := id } := by
  unfold sendReliableUnordered
  dsimp only
  split
  · exact ⟨c.hot.scheduler, _, rfl⟩
  · obtain ⟨s, hs⟩ := enqueueFragments_frame
      { c with hot.nextMessageId := c.hot.nextMessageId + 1 } c.hot.nextMessageId .reliableUnordered
      payload priority deadline _ now
    exact ⟨s, _, hs⟩

omit [CryptoSuite] in
theorem sendReliableOrdered_frame (c : GtpConnection) (groupId : OrderedGroupId)
    (payload : List UInt8) (priority : PriorityTier) (deadline : Option MonotonicTime)
    (now : MonotonicTime) :
    ∃ s id seqs, (c.sendReliableOrdered groupId payload priority deadline now).2 =
      { c with hot.scheduler := s, hot.nextMessageId := id, hot.nextOrderSeqs := seqs } := by
  unfold sendReliableOrdered
  dsimp only
  split
  · exact ⟨c.hot.scheduler, c.hot.nextMessageId, c.hot.nextOrderSeqs, rfl⟩
  · obtain ⟨s, hs⟩ := enqueueFragments_frame
      { c with
        hot.nextOrderSeqs := c.hot.nextOrderSeqs.insert groupId
          ((c.hot.nextOrderSeqs[groupId]?).getD 0 + 1)
        hot.nextMessageId := c.hot.nextMessageId + 1 } c.hot.nextMessageId
      (.reliableOrdered groupId ((c.hot.nextOrderSeqs[groupId]?).getD 0)) payload priority deadline
      _ now
    exact ⟨s, _, _, hs⟩

omit [CryptoSuite] in
theorem changeState_frame (c : GtpConnection) (next : ConnectionState) :
    ∃ state, (c.changeState next).2.hot = { c.hot with state := state } := by
  unfold changeState
  split
  · exact ⟨c.hot.state, rfl⟩
  · exact ⟨_, rfl⟩

/-- **The quiet calls** at most queue one control frame, which announces nothing. -/
theorem step_quiet (c : GtpConnection) {op : Op} (h : op.quiet = true) :
    (∃ ctrls, (∀ ctrl ∈ ctrls, ctrl.isKeyUpdate = false) ∧
      (c.step op).hot.link = { c.hot.link with controlQueue := c.hot.controlQueue ++ ctrls }) ∧
    (c.step op).hot.toDeliveryState = c.hot.toDeliveryState ∧
    (c.step op).hot.replayWindow = c.hot.replayWindow := by
  have hnone : ∀ hot : ConnectionHot, hot.link = c.hot.link →
      ∃ ctrls : List OutgoingControlFrame, (∀ ctrl ∈ ctrls, ctrl.isKeyUpdate = false) ∧
        hot.link = { c.hot.link with controlQueue := c.hot.controlQueue ++ ctrls } := by
    intro hot hlink
    exact ⟨[], by simp, by rw [hlink, List.append_nil]; rfl⟩
  cases op with
  | sendUnreliable payload priority deadline now =>
    obtain ⟨s, id, hs⟩ := c.sendSingle_frame .unreliable payload priority deadline now
    rw [step, sendUnreliable, hs]
    exact ⟨hnone _ rfl, rfl, rfl⟩
  | sendSequenced key seq gen deadline payload now =>
    obtain ⟨s, id, hs⟩ := c.sendSingle_frame (.unreliableSequenced key seq gen) payload
      .p2WorldState deadline now
    rw [step, sendSequenced, hs]
    exact ⟨hnone _ rfl, rfl, rfl⟩
  | sendReliableUnordered payload priority deadline now =>
    obtain ⟨s, id, hs⟩ := c.sendReliableUnordered_frame payload priority deadline now
    rw [step, hs]
    exact ⟨hnone _ rfl, rfl, rfl⟩
  | sendReliableOrdered g payload priority deadline now =>
    obtain ⟨s, id, seqs, hs⟩ := c.sendReliableOrdered_frame g payload priority deadline now
    rw [step, hs]
    exact ⟨hnone _ rfl, rfl, rfl⟩
  | setAckFrequency n ms r =>
    exact ⟨⟨[.ackFrequency n ms r], by simp [OutgoingControlFrame.isKeyUpdate], rfl⟩, rfl, rfl⟩
  | triggerPathChallenge addr nonce now =>
    exact ⟨⟨[.pathChallenge nonce addr], by simp [OutgoingControlFrame.isKeyUpdate], rfl⟩, rfl, rfl⟩
  | triggerMtuProbe id size =>
    exact ⟨⟨[.mtuProbe id (size - 32)], by simp [OutgoingControlFrame.isKeyUpdate], rfl⟩, rfl, rfl⟩
  | sendPing nonce =>
    exact ⟨⟨[.ping nonce], by simp [OutgoingControlFrame.isKeyUpdate], rfl⟩, rfl, rfl⟩
  | gracefulClose code reason =>
    obtain ⟨state, hstate⟩ := (c.queueControl (.close code reason)).changeState_frame .draining
    rw [step, gracefulClose, hstate]
    exact ⟨⟨[.close code reason], by simp [OutgoingControlFrame.isKeyUpdate], rfl⟩, rfl, rfl⟩
  | forceClose =>
    obtain ⟨state, hstate⟩ := c.changeState_frame .closed
    rw [step, forceClose, hstate]
    exact ⟨hnone _ rfl, rfl, rfl⟩
  | drainEvents => exact ⟨hnone _ rfl, rfl, rfl⟩
  | enableRouteSwitching policy paths => exact ⟨hnone _ rfl, rfl, rfl⟩
  | feedRouteStats id stats =>
    rw [step, feedRouteStats]
    split <;> exact ⟨hnone _ rfl, rfl, rfl⟩
  | handleIncoming => cases h
  | produce => cases h
  | ratchetKey => cases h
  | initiateKeyUpdate => cases h

/-! ## 7. All of it -/

/-- What a call can do to the link, the delivery state and the replay window. -/
inductive Moves (c : GtpConnection) : Op → GtpConnection → Prop
  | quiet {op : Op} {c' : GtpConnection} (ctrls : List OutgoingControlFrame)
      (hquiet : op.quiet = true) (hctrls : ∀ ctrl ∈ ctrls, ctrl.isKeyUpdate = false)
      (hlink : c'.hot.link = { c.hot.link with controlQueue := c.hot.controlQueue ++ ctrls })
      (hdel : c'.hot.toDeliveryState = c.hot.toDeliveryState)
      (hwin : c'.hot.replayWindow = c.hot.replayWindow) : Moves c op c'
  | ignored {src dg now ecn} {c' : GtpConnection} (hopen : ∀ hd pt, ¬ c.Opens dg hd pt)
      (hhot : c'.hot = c.hot) : Moves c (.handleIncoming src dg now ecn) c'
  | received {src dg now ecn hd pt} {c' : GtpConnection} (hopen : c.Opens dg hd pt)
      (hrec : Received c hd (readable (FrameIterator.collect pt)) now c') :
      Moves c (.handleIncoming src dg now ecn) c'
  | silent {now outBuf} {c' : GtpConnection} (hnone : c.datagramOf (.produce now outBuf) = none)
      (hlink : c'.hot.link = c.hot.link) (hdel : c'.hot.toDeliveryState = c.hot.toDeliveryState)
      (hwin : c'.hot.replayWindow = c.hot.replayWindow) : Moves c (.produce now outBuf) c'
  | transmitted {now outBuf dest dg d hd} {c' : GtpConnection}
      (hsome : c.datagramOf (.produce now outBuf) = some (dest, dg))
      (htrans : Transmitted c now outBuf.length d hd dg c') : Moves c (.produce now outBuf) c'
  | ratcheted {c' : GtpConnection}
      (hlink : c'.hot.link = { c.hot.link with
        keys := c.hot.toSessionKeys.ratchet c.hot.connectionId })
      (hdel : c'.hot.toDeliveryState = c.hot.toDeliveryState)
      (hwin : c'.hot.replayWindow = c.hot.replayWindow) : Moves c .ratchetKey c'
  | announced {c' : GtpConnection}
      (hlink : c'.hot.link = if c.hot.graceOpen then c.hot.link else { c.hot.link with
        controlQueue := c.hot.controlQueue ++ [.keyUpdate (c.hot.keyPhaseCounter + 1)]
        pendingRatchet := true })
      (hdel : c'.hot.toDeliveryState = c.hot.toDeliveryState)
      (hwin : c'.hot.replayWindow = c.hot.replayWindow) : Moves c .initiateKeyUpdate c'

/-- **Every call.** -/
theorem step_moves (c : GtpConnection) (op : Op) : Moves c op (c.step op) := by
  by_cases hq : op.quiet = true
  · obtain ⟨⟨ctrls, hctrls, hlink⟩, hdel, hwin⟩ := c.step_quiet hq
    exact .quiet ctrls hq hctrls hlink hdel hwin
  cases op with
  | handleIncoming src dg now ecn =>
    by_cases hopen : ∃ hd pt, c.Opens dg hd pt
    · obtain ⟨hd, pt, hopen⟩ := hopen
      exact .received hopen (handle_opened hopen src now ecn).1
    · have hnone : ∀ hd pt, ¬ c.Opens dg hd pt := fun hd pt h => hopen ⟨hd, pt, h⟩
      exact .ignored hnone (handle_unopened hnone src now ecn).1
  | produce now outBuf =>
    by_cases hsome : ∃ dest len,
        (c.produceOutgoingDatagram now outBuf).result = .ok (some (dest, len))
    · obtain ⟨dest, len, hsome⟩ := hsome
      obtain ⟨d, hd, htrans⟩ := produce_transmitted hsome
      have hdg : c.datagramOf (.produce now outBuf) =
          some (dest, (c.produceOutgoingDatagram now outBuf).buf.take len) := by
        simp only [datagramOf, hsome]
      exact .transmitted hdg htrans
    · have hnone : ∀ dest len,
          (c.produceOutgoingDatagram now outBuf).result ≠ .ok (some (dest, len)) :=
        fun dest len h => hsome ⟨dest, len, h⟩
      obtain ⟨hlink, hdel, hwin⟩ := produce_silent hnone
      refine .silent ?_ hlink hdel hwin
      rw [datagramOf]
      split
      · exact absurd ‹_› (hnone _ _)
      · rfl
  | ratchetKey =>
    obtain ⟨keys, n, hframe⟩ := c.hot.ratchetSessionKey_frame
    refine .ratcheted c.hot.link_ratchetSessionKey ?_ ?_
    · simp only [step, hframe]
    · simp only [step, hframe]
  | initiateKeyUpdate =>
    obtain ⟨queue, pending, hframe⟩ := c.hot.ratchetAndAnnounce_frame
    refine .announced c.hot.link_ratchetAndAnnounce ?_ ?_
    · simp only [step, initiateKeyUpdate, hframe]
    · simp only [step, initiateKeyUpdate, hframe]
  | _ => exact absurd rfl hq

end GtpConnection

end Gtp
