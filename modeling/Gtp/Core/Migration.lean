/-
# Changes of the active path

The active path is written in two places.  A `PathResponse` that answers the pending challenge
migrates the connection: the estimators of the old path are reset with it, and the limiter of the
new address takes over.  The route controller, where it is enabled, writes the active path after a
datagram and resets nothing.  What follows is the discipline of the first, over all runs in which
the second stays put.

* One frame keeps the path (`PathKept`) or migrates it (`Migrated`); a datagram migrates at most
  once, since the answer consumes the challenge (`dispatchAll_path`).
* `handle_path` is an incoming datagram, from its parts `SamePath.kept`, `SamePath.pathStep` and
  `SamePath.pathReset`; `produce_path` is a transmission, `step_path` any other call.
* `PathInv` is the invariant of a run, with the addresses that may be sent to, and `path_discipline`
  what follows from it.

Whether the route controller stays put is a condition on `(select ..).chosen`, the path that an
evaluation chooses.  How the paths are scored does not enter: the model has exact rationals there,
the code `f64`.

What is left out: which of several challenges the application issues, and when; a challenge that is
answered too late, or from elsewhere, is merely no reason to move.
-/
import Gtp.Core.Contents
import Gtp.Core.Arrivals

namespace Gtp

open Frame

namespace GtpConnection

/-! ## 1. One frame -/

/-- Nothing of the path has changed; the pending challenge may be gone, and challenges that came in
over the active path may have been answered. -/
structure PathKept (c c' : GtpConnection) : Prop where
  activePath : c'.hot.activePath = c.hot.activePath
  pending : ∀ p, c'.hot.pathValidator.pendingChallenge = some p →
    c.hot.pathValidator.pendingChallenge = some p
  probe : c'.hot.antiAmplificationProbe = c.hot.antiAmplificationProbe
  limiter : c'.hot.antiAmplification = c.hot.antiAmplification
  owd : c'.hot.owd = c.hot.owd
  number : c'.hot.nextPacketNumber = c.hot.nextPacketNumber
  factor : c'.config.antiAmplificationFactor = c.config.antiAmplificationFactor
  estimate : LossDetector.Unsampled c.hot.lossDetector c'.hot.lossDetector
  records : LossDetector.Shrinks c.hot.lossDetector c'.hot.lossDetector
  queue : ∀ ctrl ∈ c'.hot.controlQueue,
    ctrl ∈ c.hot.controlQueue ∨ ctrl.dest? = some c.hot.activePath

theorem PathKept.of_hot {c c' : GtpConnection} {ld : LossDetector} {h : ConnectionHot}
    (hhot : c'.hot = { h with
      activePath := c.hot.activePath, pathValidator := c.hot.pathValidator
      antiAmplificationProbe := c.hot.antiAmplificationProbe
      antiAmplification := c.hot.antiAmplification, owd := c.hot.owd
      nextPacketNumber := c.hot.nextPacketNumber, controlQueue := c.hot.controlQueue
      lossDetector := ld })
    (hest : LossDetector.Unsampled c.hot.lossDetector ld)
    (hshr : LossDetector.Shrinks c.hot.lossDetector ld)
    (hfactor : c'.config.antiAmplificationFactor = c.config.antiAmplificationFactor) :
    PathKept c c' := by
  refine ⟨?_, ?_, ?_, ?_, ?_, ?_, hfactor, ?_, ?_, ?_⟩ <;> rw [hhot]
  · exact fun p hp => hp
  · exact hest
  · exact hshr
  · exact fun ctrl hctrl => Or.inl hctrl

theorem PathKept.refl (c : GtpConnection) : PathKept c c :=
  .of_hot (h := c.hot) rfl (.refl _) (.refl _) rfl

theorem PathKept.trans {c c' c'' : GtpConnection} (h : PathKept c c') (h' : PathKept c' c'') :
    PathKept c c'' where
  activePath := h'.activePath.trans h.activePath
  pending p hp := h.pending p (h'.pending p hp)
  probe := h'.probe.trans h.probe
  limiter := h'.limiter.trans h.limiter
  owd := h'.owd.trans h.owd
  number := h'.number.trans h.number
  factor := h'.factor.trans h.factor
  estimate := h.estimate.trans h'.estimate
  records := h.records.trans h'.records
  queue ctrl hctrl := by
    rcases h'.queue ctrl hctrl with hctrl | hdest
    · exact h.queue ctrl hctrl
    · rw [h.activePath] at hdest
      exact Or.inr hdest

/-- The limiter that `addr` brings along: the one it earned under its challenge, or a fresh one. -/
def limiterFor (c : GtpConnection) (addr : SocketAddr) : AntiAmplificationLimiter :=
  match c.hot.antiAmplificationProbe with
  | some (probeAddr, probe) =>
    if probeAddr = addr then probe else .withFactor c.config.antiAmplificationFactor
  | none => .withFactor c.config.antiAmplificationFactor

/-- The pending challenge to `addr` is answered in time. -/
def AnsweredBy (c : GtpConnection) (addr : SocketAddr) (nonce : Bytes 8) (now : MonotonicTime) :
    Prop :=
  ∃ sentAt, c.hot.pathValidator.pendingChallenge = some (addr, nonce, sentAt) ∧
    now - sentAt ≤ pathChallengeTimeout

/-- The connection has moved to `addr`. -/
structure Migrated (c : GtpConnection) (addr : SocketAddr) (c' : GtpConnection) : Prop where
  moved : addr ≠ c.hot.activePath
  activePath : c'.hot.activePath = addr
  pending : c'.hot.pathValidator.pendingChallenge = none
  limiter : c'.hot.antiAmplification = (c.limiterFor addr).markValidated
  lossDetector : c'.hot.lossDetector =
    c.hot.lossDetector.onPathMigration c.hot.nextPacketNumber
  owd : c'.hot.owd = .default
  number : c'.hot.nextPacketNumber = c.hot.nextPacketNumber
  queue : c'.hot.controlQueue = c.hot.controlQueue

/-- **A `PathResponse`** migrates the connection when it answers a challenge to a new address. -/
theorem onPathResponse_path (c : GtpConnection) (src : SocketAddr) (data : Bytes 8)
    (now : MonotonicTime) :
    PathKept c (c.onPathResponse src data now) ∨
      c.AnsweredBy src data now ∧ Migrated c src (c.onPathResponse src data now) := by
  unfold onPathResponse
  rcases hval : c.hot.pathValidator.validateResponse src data now with ⟨valid, pv⟩
  dsimp only
  unfold PathValidator.validateResponse at hval
  cases hpend : c.hot.pathValidator.pendingChallenge with
  | none =>
    rw [hpend] at hval
    obtain ⟨rfl, rfl⟩ := Prod.mk.inj hval
    rw [if_neg fun hand => Bool.false_ne_true hand.1]
    exact Or.inl (.refl c)
  | some challenge =>
    obtain ⟨addr, nonce, sentAt⟩ := challenge
    rw [hpend] at hval
    dsimp only at hval
    split at hval
    · rename_i hans
      obtain ⟨rfl, rfl, hintime⟩ := hans
      obtain ⟨rfl, rfl⟩ := Prod.mk.inj hval
      by_cases hmove : src ≠ c.hot.activePath
      · rw [if_pos ⟨rfl, hmove⟩]
        exact Or.inr ⟨⟨sentAt, hpend, hintime⟩, hmove, rfl, rfl, rfl, rfl, rfl, rfl, rfl⟩
      · rw [if_neg fun hand => hmove hand.2]
        refine Or.inl { PathKept.refl c with pending := ?_ }
        intro p hp
        cases hp
    · obtain ⟨rfl, rfl⟩ := Prod.mk.inj hval
      rw [if_neg fun hand => Bool.false_ne_true hand.1]
      exact Or.inl (.refl c)

theorem delivered_path (c : GtpConnection) (delivery : DeliveryState)
    (disposition : Disposition) :
    PathKept c ({ c with hot.toDeliveryState := delivery }.countDrop disposition) := by
  cases disposition <;>
    exact .of_hot (h := { c.hot with toDeliveryState := delivery }) rfl (.refl _) (.refl _) rfl

variable [CryptoSuite]

theorem dispatch_path (src : SocketAddr) (now : MonotonicTime) (s : Dispatch) (f : Frame) :
    PathKept s.conn (dispatch src now s f).conn ∨
      ∃ nonce, f = .pathResponse nonce ∧ s.conn.AnsweredBy src nonce now ∧
        Migrated s.conn src (dispatch src now s f).conn := by
  have hsame : ∀ (h : ConnectionHot) (c' : GtpConnection), c'.hot = { h with
      activePath := s.conn.hot.activePath, pathValidator := s.conn.hot.pathValidator
      antiAmplificationProbe := s.conn.hot.antiAmplificationProbe
      antiAmplification := s.conn.hot.antiAmplification, owd := s.conn.hot.owd
      nextPacketNumber := s.conn.hot.nextPacketNumber, controlQueue := s.conn.hot.controlQueue
      lossDetector := s.conn.hot.lossDetector } →
      c'.config.antiAmplificationFactor = s.conn.config.antiAmplificationFactor →
      PathKept s.conn c' :=
    fun h c' hhot hfactor => .of_hot hhot (.refl _) (.refl _) hfactor
  cases f with
  | ack l d r n e0 e1 ce =>
    obtain ⟨cc, sch, cold, ev, hack⟩ := s.conn.onAckFrame_spec l d r n now
    refine Or.inl (.of_hot (h := { s.conn.hot with cc := cc, scheduler := sch }) ?_
      (LossDetector.onAckReceived_unsampled s.conn.hot.lossDetector l d r.toList n.toNat now)
      (LossDetector.onAckReceived_spec s.conn.hot.lossDetector l d r.toList n.toNat now).1 ?_) <;>
      simp only [dispatch, hack]
  | data id key seq gen dl p => exact Or.inl (delivered_path s.conn _ _)
  | reliableData id fid n g q p => exact Or.inl (delivered_path s.conn _ _)
  | retx id fid t p => exact Or.inl (delivered_path s.conn _ _)
  | pathChallenge data =>
    simp only [dispatch]
    split
    · rename_i hans
      refine Or.inl { PathKept.refl s.conn with queue := ?_ }
      intro ctrl hctrl
      rcases List.mem_append.mp hctrl with hctrl | hctrl
      · exact Or.inl hctrl
      · rw [List.mem_singleton.mp hctrl]
        simp only [answers, Bool.and_eq_true, decide_eq_true_eq] at hans
        exact Or.inr (congrArg some hans.1.1)
    · exact Or.inl (.refl _)
  | pathResponse data =>
    rcases s.conn.onPathResponse_path src data now with hkept | ⟨hans, hmig⟩
    · exact Or.inl hkept
    · exact Or.inr ⟨data, rfl, hans, hmig⟩
  | keyUpdate phase x =>
    obtain ⟨keys, n, hframe⟩ := s.conn.hot.onKeyUpdate_frame phase
    exact Or.inl (hsame { s.conn.hot with toSessionKeys := keys, packetsSinceRatchet := n } _
      hframe rfl)
  | ackFrequency n ms r =>
    exact Or.inl (hsame (s.conn.onAckFrequency n ms r).hot _ rfl rfl)
  | _ => exact Or.inl (.refl _)

/-! ## 2. A datagram -/

/-- The frames up to the answer, the answer, and the frames behind it. -/
def MigratedBy (c : GtpConnection) (src : SocketAddr) (nonce : Bytes 8) (now : MonotonicTime)
    (c' : GtpConnection) : Prop :=
  ∃ c1 c2, PathKept c c1 ∧ c1.AnsweredBy src nonce now ∧ Migrated c1 src c2 ∧ PathKept c2 c'

/-- **A datagram migrates at most once**: the answer consumes the challenge. -/
theorem dispatchAll_path (src : SocketAddr) (now : MonotonicTime) (items : List (Result Frame))
    (s : Dispatch) :
    PathKept s.conn (dispatchAll src now s items).conn ∨
      ∃ nonce, .pathResponse nonce ∈ readable items ∧
        MigratedBy s.conn src nonce now (dispatchAll src now s items).conn := by
  induction items generalizing s with
  | nil => exact Or.inl (.refl _)
  | cons item rest ih =>
    cases item with
    | error e => exact Or.inl (.of_hot (h := s.conn.hot) rfl (.refl _) (.refl _) rfl)
    | ok f =>
      rw [dispatchAll, readable]
      rcases ih (dispatch src now s f) with hrest | ⟨nonce, hmem, c1, c2, hkept, hans, hmig, hrest⟩
      · rcases dispatch_path src now s f with hone | ⟨nonce, rfl, hans, hmig⟩
        · exact Or.inl (hone.trans hrest)
        · exact Or.inr ⟨nonce, List.mem_cons_self, _, _, .refl _, hans, hmig, hrest⟩
      · rcases dispatch_path src now s f with hone | ⟨nonce', rfl, -, hmig'⟩
        · exact Or.inr ⟨nonce, List.mem_cons_of_mem _ hmem, c1, c2, hone.trans hkept, hans, hmig,
            hrest⟩
        · -- after a migration no challenge is pending that the next answer could meet
          obtain ⟨sentAt, hpend, -⟩ := hans
          have hnone := hkept.pending _ hpend
          rw [hmig'.pending] at hnone
          cases hnone

omit [CryptoSuite] in
/-- The bookkeeping of an authenticated datagram credits the address under challenge. -/
theorem onAuthenticated_limiter {c : GtpConnection} {src : SocketAddr}
    (hmove : src ≠ c.hot.activePath) (hpend : c.hot.pathValidator.pendingAddr = some src)
    (hd : PacketHeader) (len : Nat) (now : MonotonicTime) :
    (c.onAuthenticated hd src len now).limiterFor src =
        .withFactor c.config.antiAmplificationFactor ∨
      ∃ probe, c.hot.antiAmplificationProbe = some (src, probe) ∧
        (c.onAuthenticated hd src len now).limiterFor src = probe.onBytesReceived len := by
  have hprobe : (c.onAuthenticated hd src len now).hot.antiAmplificationProbe =
      match c.hot.antiAmplificationProbe with
      | some (addr, probe) =>
        if addr = src then some (addr, probe.onBytesReceived len) else some (addr, probe)
      | none => none := by
    have hcredit : (c.onAuthenticated hd src len now).hot.antiAmplificationProbe =
        (ConnectionHot.creditPath { c.hot with
          replayWindow := c.hot.replayWindow.commit hd.packetNumber } src
          len).antiAmplificationProbe := by
      unfold onAuthenticated emitOwd
      dsimp only
      split <;> rfl
    rw [hcredit, ConnectionHot.creditPath, if_neg hmove]
    cases hp : c.hot.antiAmplificationProbe with
    | none =>
      dsimp only
      rw [hp]
    | some slot =>
      obtain ⟨addr, probe⟩ := slot
      dsimp only
      by_cases haddr : addr = src
      · rw [if_pos ⟨haddr, hpend⟩, if_pos haddr]
      · rw [if_neg fun hand => haddr hand.1, if_neg haddr]
        exact hp
  have hconfig : (c.onAuthenticated hd src len now).config = c.config := by
    unfold onAuthenticated emitOwd
    dsimp only
    split <;> rfl
  rw [limiterFor, hprobe, hconfig]
  cases hp : c.hot.antiAmplificationProbe with
  | none => exact Or.inl rfl
  | some slot =>
    obtain ⟨addr, probe⟩ := slot
    dsimp only
    by_cases haddr : addr = src
    · subst haddr
      rw [if_pos rfl]
      exact Or.inr ⟨probe, rfl, if_pos rfl⟩
    · rw [if_neg haddr]
      exact Or.inl (if_neg haddr)

/-- **A reset path.**  The connection is at `addr`, the estimators have no sample of the old path,
and the limiter is one that `addr` earned, or a fresh one. -/
structure PathReset (c : GtpConnection) (addr : SocketAddr) (len : Nat) (c' : GtpConnection) :
    Prop where
  activePath : c'.hot.activePath = addr
  rtt : ∃ maxAckDelay, c'.hot.lossDetector.rttStats = { RttStats.default with maxAckDelay }
  floor : c'.hot.lossDetector.rttSampleFloor = c'.hot.nextPacketNumber.toNat
  owd : c'.hot.owd = .default
  limiter : ∃ limiter, c'.hot.antiAmplification = limiter.markValidated ∧
    (limiter = .withFactor c.config.antiAmplificationFactor ∨
      ∃ probe, c.hot.antiAmplificationProbe = some (addr, probe) ∧
        limiter = probe.onBytesReceived len)

/-- Every outstanding packet has a number below the next one. -/
def Numbered (c : GtpConnection) : Prop :=
  ∀ (pn : Nat) r, c.hot.lossDetector.sentPackets[pn]? = some r →
    pn < c.hot.nextPacketNumber.toNat

/-- What an incoming datagram does to the path. -/
structure PathStep (c : GtpConnection) (c' : GtpConnection) (src : SocketAddr) : Prop where
  pending : ∀ p, c'.hot.pathValidator.pendingChallenge = some p →
    c.hot.pathValidator.pendingChallenge = some p
  number : c'.hot.nextPacketNumber = c.hot.nextPacketNumber
  records : LossDetector.Shrinks c.hot.lossDetector c'.hot.lossDetector
  queue : ∀ ctrl ∈ c'.hot.controlQueue, ctrl ∈ c.hot.controlQueue ∨
    ctrl.dest? = some c.hot.activePath ∨ ctrl.dest? = some c'.hot.activePath

theorem receiveFrames_path (c : GtpConnection) (src : SocketAddr) (pn : PacketNumber)
    (payload : List UInt8) (now : MonotonicTime) (ecn : UInt8) :
    PathKept (dispatchAll src now ⟨c, [], false, none, 0⟩ (FrameIterator.collect payload)).conn
      (c.receiveFrames src pn payload now ecn).2 := by
  unfold receiveFrames
  generalize dispatchAll src now ⟨c, [], false, none, 0⟩ (FrameIterator.collect payload) = s
  dsimp only
  have hkept : ∀ (tracker : AckTracker) (state : ConnectionState) (c' : GtpConnection),
      c'.hot = { s.conn.hot with ackTracker := tracker, state := state } →
      c'.config = s.conn.config → PathKept s.conn c' := by
    intro tracker state c' hhot hconfig
    exact .of_hot (h := { s.conn.hot with ackTracker := tracker, state := state }) hhot (.refl _)
      (.refl _) (by rw [hconfig])
  cases s.closeReceived with
  | none => exact hkept _ s.conn.hot.state _ rfl rfl
  | some code => exact hkept _ (s.conn.hot.state.moveTo .closed) _ rfl rfl

/-- The bookkeeping of an authenticated datagram leaves these as they are. -/
structure SamePath (c c1 : GtpConnection) : Prop where
  activePath : c1.hot.activePath = c.hot.activePath
  validator : c1.hot.pathValidator = c.hot.pathValidator
  number : c1.hot.nextPacketNumber = c.hot.nextPacketNumber
  detector : c1.hot.lossDetector = c.hot.lossDetector
  queue : c1.hot.controlQueue = c.hot.controlQueue

omit [CryptoSuite] in
theorem SamePath.kept {c c1 c' : GtpConnection} (h : SamePath c c1) (hkept : PathKept c1 c')
    (src : SocketAddr) : PathStep c c' src ∧ c'.hot.activePath = c.hot.activePath := by
  refine ⟨⟨fun p hp => ?_, ?_, ?_, fun ctrl hctrl => ?_⟩, ?_⟩
  · rw [← h.validator]
    exact hkept.pending p hp
  · rw [hkept.number, h.number]
  · rw [← h.detector]
    exact hkept.records
  · rw [← h.queue, ← h.activePath]
    exact (hkept.queue ctrl hctrl).imp_right Or.inl
  · rw [hkept.activePath, h.activePath]

section Moving

variable {c c1 c2 c3 c' : GtpConnection} {src : SocketAddr} (h : SamePath c c1)
  (hbefore : PathKept c1 c2) (hmig : Migrated c2 src c3) (hafter : PathKept c3 c')
include h hbefore hmig hafter

omit [CryptoSuite] in
theorem SamePath.pathStep : PathStep c c' src := by
  have hrecords : LossDetector.Shrinks c.hot.lossDetector c2.hot.lossDetector := by
    rw [← h.detector]
    exact hbefore.records
  have hmoved : LossDetector.Shrinks c.hot.lossDetector c3.hot.lossDetector := by
    rw [hmig.lossDetector]
    exact ⟨hrecords.largestSent, hrecords.sub⟩
  refine ⟨fun p hp => ?_, ?_, hmoved.trans hafter.records, fun ctrl hctrl => ?_⟩
  · have hnone := hafter.pending p hp
    rw [hmig.pending] at hnone
    cases hnone
  · rw [hafter.number, hmig.number, hbefore.number, h.number]
  · rcases hafter.queue ctrl hctrl with hctrl | hdest
    · rw [hmig.queue] at hctrl
      rw [← h.queue, ← h.activePath]
      exact (hbefore.queue ctrl hctrl).imp_right Or.inl
    · rw [← hafter.activePath] at hdest
      exact Or.inr (Or.inr hdest)

omit [CryptoSuite] in
/-- The new path begins without samples: whatever is still outstanding was sent on the old one, so
nothing seeds the estimator. -/
theorem SamePath.pathReset (hnum : c.Numbered) {len : Nat}
    (hlimit : c1.limiterFor src = .withFactor c.config.antiAmplificationFactor ∨
      ∃ probe, c.hot.antiAmplificationProbe = some (src, probe) ∧
        c1.limiterFor src = probe.onBytesReceived len) : PathReset c src len c' := by
  have hnumber : c2.hot.nextPacketNumber = c.hot.nextPacketNumber := by
    rw [hbefore.number, h.number]
  have hold : c3.hot.lossDetector.OldPath := by
    intro pn r hr
    have hr2 : c2.hot.lossDetector.sentPackets[pn]? = some r := by
      rw [hmig.lossDetector] at hr
      exact hr
    have hrc : c.hot.lossDetector.sentPackets[pn]? = some r := by
      rw [← h.detector]
      exact hbefore.records.sub pn r hr2
    have hlt := hnum pn r hrc
    rw [← hnumber] at hlt
    rw [hmig.lossDetector]
    exact hlt
  refine ⟨?_, ⟨c2.hot.lossDetector.rttStats.maxAckDelay, ?_⟩, ?_, ?_, c2.limiterFor src, ?_, ?_⟩
  · rw [hafter.activePath, hmig.activePath]
  · rw [(hafter.estimate.rtt hold).1, hmig.lossDetector]
    rfl
  · rw [hafter.estimate.floor, hmig.lossDetector, hafter.number, hmig.number]
    rfl
  · rw [hafter.owd, hmig.owd]
  · rw [hafter.limiter, hmig.limiter]
  · have heq : c2.limiterFor src = c1.limiterFor src := by
      rw [limiterFor, limiterFor, hbefore.probe, hbefore.factor]
    rw [heq]
    exact hlimit

end Moving

/-- **An incoming datagram** keeps the active path, or carries the answer that moves it. -/
theorem handle_path {c : GtpConnection} (hnum : c.Numbered) (src : SocketAddr) (dg : List UInt8)
    (now : MonotonicTime) (ecn : UInt8) :
    let c' := (c.handleIncomingDatagramWithEcn src dg now ecn).2
    PathStep c c' src ∧ (c'.hot.activePath = c.hot.activePath ∨
      ∃ nonce, .pathResponse nonce ∈ c.openedFrames dg ∧ c.AnsweredBy src nonce now ∧
        PathReset c src dg.length c') := by
  dsimp only
  by_cases hopen : ∃ hd pt, c.Opens dg hd pt
  · obtain ⟨hd, pt, hop⟩ := hopen
    rw [hop.openedFrames, hop.handle src now ecn]
    obtain ⟨c0, hc0⟩ : ∃ c0 : GtpConnection, c0 = { c with
        cold.totalRxPackets := c.cold.totalRxPackets + 1
        cold.totalRxBytes := c.cold.totalRxBytes + dg.length } := ⟨_, rfl⟩
    rw [← hc0]
    have hhot0 : c0.hot = c.hot := by rw [hc0]
    have hconfig0 : c0.config = c.config := by rw [hc0]
    obtain ⟨amp, probe, rx, owd, emit, hauth⟩ := c0.onAuthenticated_spec hd src dg.length now
    have hlimit := fun (hmove : src ≠ c0.hot.activePath)
        (hpend : c0.hot.pathValidator.pendingAddr = some src) =>
      onAuthenticated_limiter hmove hpend hd dg.length now
    rw [hhot0] at hauth hlimit
    rw [hconfig0] at hlimit
    generalize c0.onAuthenticated hd src dg.length now = c1 at hauth hlimit ⊢
    have hend := c1.receiveFrames_path src hd.packetNumber pt now ecn
    generalize (c1.receiveFrames src hd.packetNumber pt now ecn).2 = c' at hend ⊢
    have hsame : SamePath c c1 := by constructor <;> rw [hauth]
    rcases dispatchAll_path src now (FrameIterator.collect pt) ⟨c1, [], false, none, 0⟩ with
      hall | ⟨nonce, hmem, c2, c3, hbefore, hans, hmig, hafter⟩
    · obtain ⟨hstep, hstay⟩ := hsame.kept (hall.trans hend) src
      exact ⟨hstep, Or.inl hstay⟩
    · have hafter := hafter.trans hend
      dsimp only at hbefore
      have hmove : src ≠ c.hot.activePath := by
        rw [← hsame.activePath, ← hbefore.activePath]
        exact hmig.moved
      obtain ⟨sentAt, hpend, hintime⟩ := hans
      have hpend := hbefore.pending _ hpend
      rw [hsame.validator] at hpend
      refine ⟨hsame.pathStep hbefore hmig hafter, Or.inr ⟨nonce, hmem, ⟨sentAt, hpend, hintime⟩,
        hsame.pathReset hbefore hmig hafter hnum (hlimit hmove ?_)⟩⟩
      rw [PathValidator.pendingAddr, hpend]
      rfl
  · have hnone : ∀ hd pt, ¬ c.Opens dg hd pt := fun hd pt h => hopen ⟨hd, pt, h⟩
    have hhot := (handle_unopened hnone src now ecn).1
    refine ⟨⟨?_, ?_, ?_, ?_⟩, Or.inl ?_⟩ <;> rw [hhot]
    · exact fun p hp => hp
    · exact .refl _
    · exact fun ctrl hctrl => Or.inl hctrl

/-! ## 3. The other calls -/

omit [CryptoSuite] in
/-- The route evaluation looks at the controller, its statistics, the registered paths and the
active path. -/
theorem tickRouteEvaluation_activePath {c c' : GtpConnection}
    (hcontroller : c'.hot.routeController = c.hot.routeController)
    (hstats : c'.hot.routeStats = c.hot.routeStats) (hpaths : c'.hot.routePaths = c.hot.routePaths)
    (hactive : c'.hot.activePath = c.hot.activePath) (now : MonotonicTime) :
    (c'.tickRouteEvaluation now).hot.activePath = (c.tickRouteEvaluation now).hot.activePath := by
  unfold tickRouteEvaluation
  rw [hcontroller]
  cases c.hot.routeController with
  | none => exact hactive
  | some controller =>
    dsimp only [pushEventUnbounded]
    rw [hstats, hpaths, hactive]

theorem commit_activePath (c : GtpConnection) (d : Draft) (len : Nat) (now : MonotonicTime) :
    (c.commit d len now).hot.activePath = (c.tickRouteEvaluation now).hot.activePath := by
  unfold commit
  dsimp only
  obtain ⟨keys, n, pending, hflush⟩ := ConnectionHot.flushPendingRatchet_frame { c.hot with
    antiAmplification := c.hot.antiAmplification.onBytesSent len
    closeFrameSent := c.hot.closeFrameSent || d.drained.any (·.isClose)
    lossDetector := c.hot.lossDetector.onPacketSent
      ⟨c.hot.nextPacketNumber, now, len, d.ackEliciting, d.ackEliciting, d.retransmittables⟩
    pacing := c.hot.pacing.consume len
    nextPacketNumber := PacketNumber.next c.hot.nextPacketNumber
    packetsSinceRatchet := c.hot.packetsSinceRatchet + 1
    ackTracker := if d.ack.isSome then c.hot.ackTracker.commitAckSent now else c.hot.ackTracker }
  apply tickRouteEvaluation_activePath <;> dsimp only <;> rw [hflush]

/-- What a call may do to the path when it is not an incoming datagram. -/
structure PathCall (c : GtpConnection) (op : Op) (c' : GtpConnection) : Prop where
  activePath : c'.hot.activePath = c.hot.activePath ∨
    ∃ now outBuf, op = .produce now outBuf ∧
      c'.hot.activePath = (c.tickRouteEvaluation now).hot.activePath
  pending : ∀ addr nonce sentAt,
    c'.hot.pathValidator.pendingChallenge = some (addr, nonce, sentAt) →
    c.hot.pathValidator.pendingChallenge = some (addr, nonce, sentAt) ∨
      op = .triggerPathChallenge addr nonce sentAt
  numbered : c.Numbered →
    (∀ now outBuf, op = .produce now outBuf → c.hot.nextPacketNumber.toNat + 1 < 2 ^ 64) →
    c'.Numbered
  queue : ∀ ctrl ∈ c'.hot.controlQueue, ctrl ∈ c.hot.controlQueue ∨ ctrl.isPathResponse = false

omit [CryptoSuite] in
theorem PathCall.congr {c c' c'' : GtpConnection} {op : Op} (h : PathCall c op c')
    (hactive : c''.hot.activePath = c'.hot.activePath)
    (hpending : c''.hot.pathValidator = c'.hot.pathValidator)
    (hdetector : c''.hot.lossDetector = c'.hot.lossDetector)
    (hnumber : c''.hot.nextPacketNumber = c'.hot.nextPacketNumber)
    (hqueue : c''.hot.controlQueue = c'.hot.controlQueue) : PathCall c op c'' := by
  refine ⟨?_, ?_, ?_, ?_⟩
  · rw [hactive]
    exact h.activePath
  · rw [hpending]
    exact h.pending
  · rw [Numbered, Numbered, hdetector, hnumber]
    exact h.numbered
  · rw [hqueue]
    exact h.queue

omit [CryptoSuite] in
theorem PathCall.refl (c : GtpConnection) (op : Op) : PathCall c op c :=
  ⟨Or.inl rfl, fun _ _ _ hp => Or.inl hp, fun hnum _ => hnum, fun _ hctrl => Or.inl hctrl⟩

omit [CryptoSuite] in
theorem prepare_pending (c : GtpConnection) (now : MonotonicTime) :
    ∀ p, (c.prepare now).hot.pathValidator.pendingChallenge = some p →
      c.hot.pathValidator.pendingChallenge = some p := by
  intro p hp
  obtain ⟨ld, cc, s, cold, ev, hpto, -⟩ := c.checkPto_spec now
  have hpv : (c.prepare now).hot.pathValidator = c.hot.pathValidator.expire now := by
    rw [prepare, hpto]
    rfl
  rw [hpv, PathValidator.expire] at hp
  cases hpend : c.hot.pathValidator.pendingChallenge with
  | none =>
    rw [hpend] at hp
    rw [← hpend]
    exact hp
  | some challenge =>
    rw [hpend] at hp
    dsimp only at hp
    split at hp
    · cases hp
    · rw [← hpend]
      exact hp

/-- **A call of `produce_outgoing_datagram`.** -/
theorem produce_path (c : GtpConnection) (now : MonotonicTime) (outBuf : List UInt8) :
    PathCall c (.produce now outBuf) (c.produceOutgoingDatagram now outBuf).conn := by
  have hexit := c.produce_exit now outBuf
  obtain ⟨ld, cc, s, pv, pac, cold, ev, hprep, hshrink, -⟩ := c.prepare_spec now
  have hpend := c.prepare_pending now
  have hprepared : PathCall c (.produce now outBuf) (c.prepare now) := by
    refine ⟨Or.inl ?_, fun _ _ _ hp => Or.inl (hpend _ hp), fun hnum _ pn r hr => ?_, ?_⟩
    · rw [hprep]
    · rw [hprep] at hr ⊢
      exact hnum pn r (hshrink.sub pn r hr)
    · rw [hprep]
      exact fun ctrl hctrl => Or.inl hctrl
  generalize c.produceOutgoingDatagram now outBuf = p at hexit ⊢
  have hback : ∀ b, PacketBuilder.new outBuf (nextHeader (c.prepare now).hot now) = .ok b →
      PathCall c (.produce now outBuf) (((c.prepare now).assemble b now).2.putBack
        ((c.prepare now).assemble b now).1 now) := by
    intro b hb
    have hass := (c.prepare now).assemble_spec (new_nextHeader hb).1 now
    obtain ⟨s3, n3, hput, -⟩ := putBack_spec ((c.prepare now).assemble b now).2
      ((c.prepare now).assemble b now).1 now
    have hqueue := hass.queue
    rw [hput, ← hqueue]
    exact hprepared.congr (by rw [hass.conn]) (by rw [hass.conn]) (by rw [hass.conn])
      (by rw [hass.conn]) rfl
  cases hexit with
  | closed h => exact .refl c _
  | drained h => exact (PathCall.refl c _).congr rfl rfl rfl rfl rfl
  | idle h => exact hprepared
  | short h => exact hprepared
  | refused hb hseal => exact hback _ hb
  | limited hb hsend => exact hback _ hb
  | @sent b len buf hb hseal =>
    have hass := (c.prepare now).assemble_spec (new_nextHeader hb).1 now
    generalize hd : ((c.prepare now).assemble b now).1 = d at hass ⊢
    generalize hc2 : ((c.prepare now).assemble b now).2 = c2 at hass ⊢
    have hpath := c2.commit_activePath d len now
    obtain ⟨keys, n, pend, controller, path, closed, hcommit⟩ := commit_frame c2 d len now
    have htick : (c2.tickRouteEvaluation now).hot.activePath =
        (c.tickRouteEvaluation now).hot.activePath := by
      apply tickRouteEvaluation_activePath <;> rw [hass.conn, hprep]
    refine ⟨Or.inr ⟨now, outBuf, rfl, hpath.trans htick⟩, ?_, ?_, ?_⟩
    · intro addr nonce sentAt hp
      rw [hcommit, hass.conn] at hp
      exact Or.inl (hpend _ hp)
    · intro hnum hwrap pn r hr
      have hpn : c2.hot.nextPacketNumber = c.hot.nextPacketNumber := by rw [hass.conn, hprep]
      have hnext : (c2.commit d len now).hot.nextPacketNumber.toNat =
          c.hot.nextPacketNumber.toNat + 1 := by
        rw [hcommit, hpn]
        exact PacketNumber.toNat_next (hwrap now outBuf rfl)
      rw [hnext]
      rw [hcommit] at hr
      simp only [LossDetector.onPacketSent, Std.ExtTreeMap.getElem?_insert] at hr
      split at hr
      · rename_i heq
        rw [← Std.LawfulEqOrd.eq_of_compare heq, hpn]
        exact Nat.lt_succ_self _
      · rw [hass.conn, hprep] at hr
        exact Nat.lt_succ_of_lt (hnum pn r (hshrink.sub pn r hr))
    · intro ctrl hctrl
      rw [hcommit] at hctrl
      refine Or.inl ?_
      have hqueue := hass.queue
      rw [hprep] at hqueue
      dsimp only at hqueue
      rw [hqueue]
      exact List.mem_append_right _ hctrl

omit [CryptoSuite] in
/-- A call that queues a control frame which is no path response. -/
theorem PathCall.queued {c c' : GtpConnection} {op : Op} (ctrl : OutgoingControlFrame)
    (hresponse : ctrl.isPathResponse = false) (hactive : c'.hot.activePath = c.hot.activePath)
    (hpending : c'.hot.pathValidator = c.hot.pathValidator)
    (hdetector : c'.hot.lossDetector = c.hot.lossDetector)
    (hnumber : c'.hot.nextPacketNumber = c.hot.nextPacketNumber)
    (hqueue : c'.hot.controlQueue = c.hot.controlQueue ++ [ctrl]) : PathCall c op c' := by
  have hcall : PathCall c op { c' with hot.controlQueue := c.hot.controlQueue } :=
    (PathCall.refl c op).congr hactive hpending hdetector hnumber rfl
  refine ⟨hcall.activePath, hcall.pending, hcall.numbered, ?_⟩
  rw [hqueue]
  intro ctrl' hctrl
  rcases List.mem_append.mp hctrl with hctrl | hctrl
  · exact Or.inl hctrl
  · rw [List.mem_singleton.mp hctrl]
    exact Or.inr hresponse

/-- **Every call that is not an incoming datagram.** -/
theorem step_path (c : GtpConnection) {op : Op}
    (h : ∀ src dg now ecn, op ≠ .handleIncoming src dg now ecn) :
    PathCall c op (c.step op) := by
  have hself := PathCall.refl c op
  cases op with
  | handleIncoming src dg now ecn => exact absurd rfl (h src dg now ecn)
  | produce now outBuf => exact c.produce_path now outBuf
  | sendUnreliable payload priority deadline now =>
    obtain ⟨s, id, hs⟩ := c.sendSingle_frame .unreliable payload priority deadline now
    rw [step, sendUnreliable, hs]
    exact hself.congr rfl rfl rfl rfl rfl
  | sendSequenced key seq gen deadline payload now =>
    obtain ⟨s, id, hs⟩ := c.sendSingle_frame (.unreliableSequenced key seq gen) payload
      .p2WorldState deadline now
    rw [step, sendSequenced, hs]
    exact hself.congr rfl rfl rfl rfl rfl
  | sendReliableUnordered payload priority deadline now =>
    obtain ⟨s, id, hs⟩ := c.sendReliableUnordered_frame payload priority deadline now
    rw [step, hs]
    exact hself.congr rfl rfl rfl rfl rfl
  | sendReliableOrdered g payload priority deadline now =>
    obtain ⟨s, id, seqs, hs⟩ := c.sendReliableOrdered_frame g payload priority deadline now
    rw [step, hs]
    exact hself.congr rfl rfl rfl rfl rfl
  | setAckFrequency n ms r => exact .queued (.ackFrequency n ms r) rfl rfl rfl rfl rfl rfl
  | triggerPathChallenge addr nonce now =>
    have hqueued : PathCall c (.triggerPathChallenge addr nonce now)
        (c.queueControl (.pathChallenge nonce addr)) := .queued _ rfl rfl rfl rfl rfl rfl
    refine { hqueued with pending := ?_ }
    intro addr' nonce' sentAt hp
    obtain ⟨rfl, hrest⟩ := Prod.mk.inj (Option.some.inj hp)
    obtain ⟨rfl, rfl⟩ := Prod.mk.inj hrest
    exact Or.inr rfl
  | triggerMtuProbe id size => exact .queued (.mtuProbe id (size - 32)) rfl rfl rfl rfl rfl rfl
  | sendPing nonce => exact .queued (.ping nonce) rfl rfl rfl rfl rfl rfl
  | gracefulClose code reason =>
    obtain ⟨state, hstate⟩ := (c.queueControl (.close code reason)).changeState_frame .draining
    apply PathCall.queued (.close code reason) rfl <;> rw [step, gracefulClose, hstate] <;> rfl
  | forceClose =>
    obtain ⟨state, hstate⟩ := c.changeState_frame .closed
    apply hself.congr <;> rw [step, forceClose, hstate]
  | ratchetKey =>
    obtain ⟨keys, n, hframe⟩ := c.hot.ratchetSessionKey_frame
    rw [step, hframe]
    exact hself.congr rfl rfl rfl rfl rfl
  | initiateKeyUpdate =>
    cases hgrace : c.hot.graceOpen with
    | true =>
      have hstay : c.step .initiateKeyUpdate = c := by
        simp [step, initiateKeyUpdate, ConnectionHot.ratchetAndAnnounce, hgrace]
      rw [hstay]
      exact hself
    | false =>
      apply PathCall.queued (.keyUpdate (c.hot.keyPhaseCounter + 1)) rfl <;>
        simp [step, initiateKeyUpdate, ConnectionHot.ratchetAndAnnounce, hgrace]
  | drainEvents => exact hself.congr rfl rfl rfl rfl rfl
  | enableRouteSwitching policy paths => exact hself.congr rfl rfl rfl rfl rfl
  | feedRouteStats id stats =>
    rw [step, feedRouteStats]
    split
    · exact hself.congr rfl rfl rfl rfl rfl
    · exact hself

/-! ## 4. Runs -/

/-- The pending challenge to `addr` is answered by this call. -/
def Answers (c : GtpConnection) (op : Op) (addr : SocketAddr) : Prop :=
  ∃ dg now ecn nonce, op = .handleIncoming addr dg now ecn ∧
    .pathResponse nonce ∈ c.openedFrames dg ∧ c.AnsweredBy addr nonce now

/-- Some call of the run answers a challenge to `addr`. -/
def Answered (c : GtpConnection) : List Op → SocketAddr → Prop
  | [], _ => False
  | op :: ops, addr => c.Answers op addr ∨ Answered (c.step op) ops addr

/-- A transmission keeps to the discipline: the route evaluation leaves the active path, a directed
frame that claims the datagram is the first of the queue and fits, and there is a packet number
left. -/
def Disciplined (c : GtpConnection) (op : Op) : Prop :=
  ∀ now outBuf, op = .produce now outBuf →
    (c.tickRouteEvaluation now).hot.activePath = c.hot.activePath ∧
      (∀ dest, claim c.hot.activePath (outBuf.length - minCommonHeaderLen) c.hot.controlQueue =
        some dest → c.DirectedFirst (outBuf.length - minCommonHeaderLen)) ∧
      c.hot.nextPacketNumber.toNat + 1 < 2 ^ 64

/-- The invariant of disciplined runs: `known` are the addresses that may be sent to. -/
structure PathInv (known : SocketAddr → Prop) (ops : List Op) (c : GtpConnection) : Prop where
  active : known c.hot.activePath
  responses : ∀ ctrl ∈ c.hot.controlQueue, ctrl.isPathResponse = true →
    ∀ dest, ctrl.dest? = some dest → known dest
  numbered : c.Numbered
  issued : ∀ addr nonce sentAt,
    c.hot.pathValidator.pendingChallenge = some (addr, nonce, sentAt) →
      .triggerPathChallenge addr nonce sentAt ∈ ops

omit [CryptoSuite] in
theorem Setup.start_pathInv (s : Setup) : PathInv (· = s.peerAddr) [] s.start := by
  refine ⟨rfl, fun ctrl hctrl => (by cases hctrl), fun pn r hr => ?_, fun _ _ _ hp => (by cases hp)⟩
  have hempty : (∅ : SentPackets)[pn]? = some r := hr
  simp at hempty

variable {known : SocketAddr → Prop} {c : GtpConnection} {ops : List Op} {op : Op}

/-- **One call** keeps the invariant; whoever answers a challenge becomes known. -/
theorem PathInv.step (h : PathInv known ops c) (hdisc : c.Disciplined op) :
    PathInv (fun a => known a ∨ c.Answers op a) (ops ++ [op]) (c.step op) := by
  have hkeep : ∀ addr nonce sentAt,
      c.hot.pathValidator.pendingChallenge = some (addr, nonce, sentAt) →
        .triggerPathChallenge addr nonce sentAt ∈ ops ++ [op] :=
    fun addr nonce sentAt hp => List.mem_append_left _ (h.issued addr nonce sentAt hp)
  by_cases hin : ∃ src dg now ecn, op = .handleIncoming src dg now ecn
  · obtain ⟨src, dg, now, ecn, rfl⟩ := hin
    obtain ⟨hstep, hmove⟩ := handle_path h.numbered src dg now ecn
    have hactive : known (c.step (.handleIncoming src dg now ecn)).hot.activePath ∨
        c.Answers (.handleIncoming src dg now ecn)
          (c.step (.handleIncoming src dg now ecn)).hot.activePath := by
      rcases hmove with hsame | ⟨nonce, hmem, hans, hreset⟩
      · refine Or.inl ?_
        rw [GtpConnection.step, hsame]
        exact h.active
      · refine Or.inr ?_
        rw [GtpConnection.step, hreset.activePath]
        exact ⟨dg, now, ecn, nonce, rfl, hmem, hans⟩
    refine ⟨hactive, fun ctrl hctrl hresp dest hdest => ?_, fun pn r hr => ?_, ?_⟩
    · rcases hstep.queue ctrl hctrl with hold | hdest' | hdest'
      · exact Or.inl (h.responses ctrl hold hresp dest hdest)
      · rw [hdest] at hdest'
        rw [Option.some.inj hdest']
        exact Or.inl h.active
      · rw [hdest] at hdest'
        rw [Option.some.inj hdest']
        exact hactive
    · rw [GtpConnection.step, hstep.number]
      exact h.numbered pn r (hstep.records.sub pn r hr)
    · intro addr nonce sentAt hp
      exact hkeep _ _ _ (hstep.pending _ hp)
  · have hout : ∀ src dg now ecn, op ≠ .handleIncoming src dg now ecn :=
      fun src dg now ecn heq => hin ⟨src, dg, now, ecn, heq⟩
    obtain ⟨hactive, hpending, hnumbered, hqueue⟩ := c.step_path hout
    refine ⟨Or.inl ?_, fun ctrl hctrl hresp dest hdest => ?_, ?_, ?_⟩
    · rcases hactive with hsame | ⟨now, outBuf, rfl, hroute⟩
      · rw [hsame]
        exact h.active
      · rw [hroute, (hdisc now outBuf rfl).1]
        exact h.active
    · rcases hqueue ctrl hctrl with hold | hnot
      · exact Or.inl (h.responses ctrl hold hresp dest hdest)
      · rw [hresp] at hnot
        cases hnot
    · exact hnumbered h.numbered fun now outBuf heq => (hdisc now outBuf heq).2.2
    · intro addr nonce sentAt hp
      rcases hpending addr nonce sentAt hp with hp | rfl
      · exact hkeep _ _ _ hp
      · exact List.mem_append_right _ List.mem_cons_self

/-- **A disciplined run** keeps the invariant. -/
theorem PathInv.run (h : PathInv known ops c) {rest : List Op}
    (hdisc : Runs.Along GtpConnection.step Disciplined c rest) :
    PathInv (fun a => known a ∨ c.Answered rest a) (ops ++ rest) (c.run rest) := by
  induction rest generalizing c ops known with
  | nil =>
    rw [List.append_nil]
    exact ⟨Or.inl h.active, fun ctrl hctrl hresp dest hdest =>
      Or.inl (h.responses ctrl hctrl hresp dest hdest), h.numbered, h.issued⟩
  | cons op rest ih =>
    have hrun := ih (h.step hdisc.1) hdisc.2
    rw [List.append_assoc, List.singleton_append] at hrun
    have hknown : ∀ a, (known a ∨ c.Answers op a) ∨ (c.step op).Answered rest a →
        known a ∨ c.Answered (op :: rest) a := fun a => or_assoc.mp
    exact ⟨hknown _ hrun.active, fun ctrl hctrl hresp dest hdest =>
      hknown _ (hrun.responses ctrl hctrl hresp dest hdest), hrun.numbered, hrun.issued⟩

/-- **What is sent** goes to a known address, or is a challenge and nothing else. -/
theorem PathInv.sends (h : PathInv known ops c) (hdisc : c.Disciplined op) {dest : SocketAddr}
    {dg : List UInt8} (hsend : c.datagramOf op = some (dest, dg)) :
    known dest ∨ ∃ hd nonce, Sealed c.hot.txProtector hd (payloadOf [.pathChallenge nonce]) dg := by
  cases op with
  | produce now outBuf =>
    have hres : ∃ len, (c.produceOutgoingDatagram now outBuf).result = .ok (some (dest, len)) ∧
        dg = (c.produceOutgoingDatagram now outBuf).buf.take len := by
      rw [datagramOf] at hsend
      split at hsend
      · rename_i dest' len hres
        obtain ⟨rfl, rfl⟩ := Prod.mk.inj (Option.some.inj hsend)
        exact ⟨len, hres, rfl⟩
      · cases hsend
    obtain ⟨len, hres, rfl⟩ := hres
    obtain ⟨b, hd, hcar, hcap, -, hto, hsealed⟩ := produce_draft hres
    obtain ⟨ld, cc, s, pv, pac, cold, ev, hprep, -⟩ := c.prepare_spec now
    have hpath : (c.prepare now).hot.activePath = c.hot.activePath := by rw [hprep]
    have hqueue : (c.prepare now).hot.controlQueue = c.hot.controlQueue := by rw [hprep]
    cases hov : ((c.prepare now).assemble b now).1.overrideDest with
    | none =>
      rw [hov] at hto
      exact Or.inl (hto ▸ h.active)
    | some dest' =>
      rw [hov] at hto
      obtain rfl : dest = dest' := hto
      obtain ⟨hdrained, -, hclaim⟩ := (c.prepare now).frames_of_claimed hcar now hov
      rw [hcap, hpath, hqueue] at hclaim
      obtain ⟨ctrl, rest, hfront, hdir, hfits⟩ := (hdisc now outBuf rfl).2.1 dest hclaim
      have hfirst : (c.prepare now).DirectedFirst b.remainingCapacity := by
        rw [DirectedFirst, hcap, hpath, hqueue]
        exact ⟨ctrl, rest, hfront, hdir, hfits⟩
      obtain ⟨ctrl', hone, hdest, hframes⟩ := ((c.prepare now).alone_iff hcar now hov).mpr hfirst
      have hmem : ctrl' ∈ c.hot.controlQueue := by
        have hass := (c.prepare now).assemble_spec hcar now
        rw [← hqueue, hass.queue, hone]
        exact List.mem_cons_self
      rw [hframes] at hsealed
      cases ctrl' with
      | pathChallenge nonce addr => exact Or.inr ⟨hd, nonce, hsealed⟩
      | pathResponse nonce addr => exact Or.inl (h.responses _ hmem rfl dest hdest)
      | _ => cases hdest
  | _ => cases hsend

/-- **The discipline of the active path.** In a disciplined run, a call that changes the active path
received, from the new address and in time, the answer to a challenge that was issued to it, and
leaves the path reset; and whatever is sent goes to the first address of the connection, or to one
that has answered, or is a challenge and nothing else.  A run is disciplined when no route
evaluation moves the path, a directed frame that claims a datagram is the first of the queue and
fits, and the packet numbers are not used up. -/
theorem path_discipline (s : Setup) (ops : List Op) (op : Op)
    (h : Runs.Along step Disciplined s.start (ops ++ [op])) :
    let c := s.start.run ops
    let c' := c.step op
    (c'.hot.activePath ≠ c.hot.activePath → ∃ dg now ecn nonce sentAt,
      op = .handleIncoming c'.hot.activePath dg now ecn ∧
        .triggerPathChallenge c'.hot.activePath nonce sentAt ∈ ops ∧
        c.hot.pathValidator.pendingChallenge = some (c'.hot.activePath, nonce, sentAt) ∧
        now - sentAt ≤ pathChallengeTimeout ∧ .pathResponse nonce ∈ c.openedFrames dg ∧
        PathReset c c'.hot.activePath dg.length c') ∧
    ∀ dest dg, c.datagramOf op = some (dest, dg) →
      (dest = s.peerAddr ∨ s.start.Answered ops dest) ∨
        ∃ hd nonce, Sealed c.hot.txProtector hd (payloadOf [.pathChallenge nonce]) dg := by
  obtain ⟨hrun, hop⟩ := Runs.along_append.mp h
  have hinv := s.start_pathInv.run hrun
  rw [List.nil_append] at hinv
  change Disciplined (s.start.run ops) op ∧ True at hop
  generalize s.start.run ops = c at hinv hop ⊢
  refine ⟨fun hne => ?_, fun dest dg hsend => hinv.sends hop.1 hsend⟩
  by_cases hin : ∃ src dg now ecn, op = .handleIncoming src dg now ecn
  · obtain ⟨src, dg, now, ecn, rfl⟩ := hin
    obtain ⟨-, hsame | ⟨nonce, hmem, ⟨sentAt, hpend, hintime⟩, hreset⟩⟩ :=
      handle_path hinv.numbered src dg now ecn
    · exact absurd hsame hne
    · have hsrc : (c.step (.handleIncoming src dg now ecn)).hot.activePath = src :=
        hreset.activePath
      rw [hsrc]
      exact ⟨dg, now, ecn, nonce, sentAt, rfl, hinv.issued _ _ _ hpend, hpend, hintime, hmem, hreset⟩
  · obtain ⟨hactive, -⟩ := c.step_path fun src dg now ecn heq => hin ⟨src, dg, now, ecn, heq⟩
    rcases hactive with hsame | ⟨now, outBuf, rfl, hroute⟩
    · exact absurd hsame hne
    · rw [(hop.1 now outBuf rfl).1] at hroute
      exact absurd hroute hne

end GtpConnection

/-! ## 5. On concrete connections -/

namespace GtpConnection

attribute [local instance] keyTagSuite

/-- A challenge to a new address is issued and sent. -/
def challengeRun : List Op :=
  [.triggerPathChallenge ⟨2, 4433⟩ (List.Vector.replicate 8 0) 0, .produce 10 (List.replicate 100 0)]

/-- What the server answers. -/
def challengeAnswer : List UInt8 :=
  let client := (sampleSetup true).start.run [.triggerPathChallenge ⟨2, 4433⟩
    (List.Vector.replicate 8 0) 0]
  let sent := fun (c : GtpConnection) now =>
    ((c.datagramOf (.produce now (List.replicate 200 0))).map Prod.snd).getD []
  let server := (sampleSetup false).start.run [.handleIncoming ⟨1, 4433⟩ (sent client 10) 11 0]
  sent server 12

/-- The theorem at the run in which the answer comes in from the new address. -/
theorem path_discipline_challengeAnswer :
    let c := (sampleSetup true).start.run challengeRun
    let c' := c.step (.handleIncoming ⟨2, 4433⟩ challengeAnswer 13 0)
    c'.hot.activePath = ⟨2, 4433⟩ ∧ PathReset c ⟨2, 4433⟩ challengeAnswer.length c' := by
  have hactive : let c := (sampleSetup true).start.run challengeRun
      (c.step (.handleIncoming ⟨2, 4433⟩ challengeAnswer 13 0)).hot.activePath = ⟨2, 4433⟩ ∧
        c.hot.activePath = ⟨1, 4433⟩ := by decide +kernel
  have hdisc : Runs.Along step Disciplined (sampleSetup true).start
      (challengeRun ++ [.handleIncoming ⟨2, 4433⟩ challengeAnswer 13 0]) := by
    refine ⟨fun now outBuf heq => (by cases heq), fun now outBuf heq => ?_,
      fun now outBuf heq => (by cases heq), trivial⟩
    cases heq
    rw [List.length_replicate]
    exact ⟨rfl, fun dest _ => ⟨_, [], rfl, by decide +kernel, by decide⟩, by decide⟩
  obtain ⟨hmove, -⟩ := path_discipline _ _ _ hdisc
  obtain ⟨dg, now, ecn, nonce, sentAt, hop, -, -, -, -, hreset⟩ := hmove (by
    rw [hactive.1, hactive.2]
    decide)
  obtain ⟨-, rfl, -, -⟩ := Op.handleIncoming.inj hop
  rw [hactive.1] at hreset
  exact ⟨hactive.1, hreset⟩

/-- Statistics of one good path are fed to an enforcing route controller. -/
def routedRun : List Op :=
  [.enableRouteSwitching .enforce [(1, ⟨5, 5000⟩)],
    .feedRouteStats 1 ⟨1, some 1000, some 300, some 1000, some 300, some 30000, 60, some 0, some 0,
      none⟩, .sendPing 5]

/-- **Routed away.**  The next transmission makes that path the active one, without a challenge and
without a reset. -/
theorem route_switch_unvalidated :
    let c := (sampleSetup true).start.run routedRun
    let c' := c.step (.produce 10 (List.replicate 100 0))
    Reachable c ∧ c.hot.activePath = ⟨1, 4433⟩ ∧ c'.hot.activePath = ⟨5, 5000⟩ ∧
      c.hot.pathValidator.pendingChallenge = none ∧
      c'.hot.lossDetector.rttSampleFloor = 0 ∧ c'.hot.nextPacketNumber = 2 :=
  ⟨⟨_, _, rfl⟩, by decide +kernel⟩

end GtpConnection

end Gtp
