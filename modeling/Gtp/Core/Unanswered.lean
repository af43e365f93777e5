/-
# A sender that nobody answers

A sender whose datagrams are never acknowledged fills its window and stops.  It goes on when the
probe timeout takes the outstanding records out, so that with one datagram for each timeout it can
send for as long as the bucket has bytes.

* `LossDetector.Sparse` is a detector with at most one record, of a packet that has nothing to
  retransmit; the timeout empties it (`LossDetector.onTimeout_single`).
* `Unanswered` is the sender, and after the timeout it is steady again (`Unanswered.prepare`).
* `Unanswered.sends` is a datagram: what the data loop takes leaves, and the sender is as before,
  with fewer bytes in the bucket.

The bucket is paid from what it held at first.  How fast it is filled again is a computation with
floating-point numbers, about which nothing is said here; it is never emptied by it.
-/
import Gtp.Core.Budget
import Gtp.Core.Burst

namespace Gtp

/-! ## 1. One record at most -/

namespace LossDetector

/-- At most one packet is outstanding, and it has nothing to retransmit. -/
inductive Sparse (d : LossDetector) : Prop
  | empty (hpackets : d.sentPackets = ∅) (hflight : d.inflightBytes = 0)
  | single (pn : Nat) (r : SentPacketRecord)
      (hpackets : d.sentPackets = (∅ : SentPackets).insert pn r)
      (hflight : d.inflightBytes = r.bytes) (hin : r.inFlight = true) (hpos : 0 < r.bytes)
      (hframes : r.retransmittableFrames = [])

theorem ptoDurationWithBackoff_le (d : LossDetector) (maxPto : Duration) :
    d.ptoDurationWithBackoff maxPto ≤ maxPto := Nat.min_le_right _ _

theorem toList_single (pn : Nat) (r : SentPacketRecord) :
    ((∅ : SentPackets).insert pn r).toList = [(pn, r)] := by
  have hnew : pn ∉ (∅ : SentPackets) := Std.ExtTreeMap.not_mem_empty
  have hperm := Maps.toList_insert_perm hnew r
  rw [Std.ExtTreeMap.toList_eq_nil_iff.mpr rfl] at hperm
  exact List.perm_singleton.mp hperm

/-- **The timeout** takes it out. -/
theorem onTimeout_single {d : LossDetector} {pn : Nat} {r : SentPacketRecord}
    (hpackets : d.sentPackets = (∅ : SentPackets).insert pn r) (hflight : d.inflightBytes = r.bytes)
    (hin : r.inFlight = true) (hframes : r.retransmittableFrames = []) :
    d.onTimeout.1.sentPackets = ∅ ∧ d.onTimeout.1.inflightBytes = 0 ∧
      d.onTimeout.2.retransmittable = [] := by
  have hdrained : (d.sentPackets.toList.filter fun e => e.2.inFlight).take maxPtoRetransmitBurst =
      [(pn, r)] := by
    rw [hpackets, toList_single, List.filter_cons, hin]
    rfl
  unfold onTimeout
  dsimp only
  rw [hdrained]
  refine ⟨?_, ?_, ?_⟩
  · rw [List.foldl_cons, List.foldl_nil, hpackets]
    apply Std.ExtTreeMap.ext_getElem?
    intro k
    by_cases hk : k = pn
    · rw [hk, getElem?_erase_same]
      exact Std.ExtTreeMap.getElem?_empty.symm
    · rw [getElem?_erase_ne hk, Std.ExtTreeMap.getElem?_insert, if_neg fun heq =>
        hk (Std.LawfulEqOrd.eq_of_compare heq).symm]
  · rw [List.map_singleton, List.sum_singleton, hflight, Nat.sub_self]
  · rw [List.flatMap_singleton]
    exact hframes

end LossDetector

namespace PathValidator

theorem expire_expire (v : PathValidator) (now : MonotonicTime) :
    (v.expire now).expire now = v.expire now := by
  cases hpending : v.pendingChallenge with
  | none => simp [expire, hpending]
  | some pending =>
    obtain ⟨addr, nonce, startTime⟩ := pending
    by_cases hlate : pathChallengeTimeout < now - startTime
    · simp [expire, hpending, hlate]
    · simp [expire, hpending, hlate]

end PathValidator

/-! ## 2. The sender -/

namespace GtpConnection

/-- Nothing has arrived: the window is open for `room` bytes as long as nothing is outstanding, the
bucket holds `k` bytes, and what was sent last has nothing to retransmit. -/
structure Unanswered (room k : Nat) (c : GtpConnection) : Prop where
  state : c.hot.state = .established
  controls : c.hot.controlQueue = []
  unacked : c.hot.ackTracker.unackedPacketCount = 0
  window : room ≤ c.hot.cc.cwnd
  floor : room ≤ c.hot.cc.minCwndBytes
  tokens : k ≤ c.hot.pacing.tokensBytes
  burst : c.hot.pacing.tokensBytes ≤ c.hot.pacing.maxBurstBytes
  timeout : 0 < c.config.ptoMaxDuration
  validated : c.hot.antiAmplification.validated = true
  binding : c.hot.txProtector.checkBinding c.hot.connectionId = .ok ()
  pending : c.hot.pendingRatchet = false
  records : c.hot.lossDetector.Sparse

section Unanswered

variable {room k : Nat} {now : MonotonicTime} {c : GtpConnection}

/-- The timeout has passed since the last packet. -/
def Late (c : GtpConnection) (now : MonotonicTime) : Prop :=
  c.hot.lossDetector.timeOfLastAckElicitingPacket + c.config.ptoMaxDuration ≤ now

/-- **The probe timeout** clears the window, and queues nothing. -/
theorem Unanswered.checkPto (h : Unanswered room k c) (hlate : c.Late now) :
    ∃ ld cc cold ev, c.checkPto now =
        { c with hot.lossDetector := ld, hot.cc := cc, cold := cold, eventQueue := ev } ∧
      ld.sentPackets = ∅ ∧ ld.inflightBytes = 0 ∧ room ≤ cc.cwnd ∧ room ≤ cc.minCwndBytes := by
  cases h.records with
  | empty hpackets hflight =>
    refine ⟨c.hot.lossDetector, c.hot.cc, c.cold, c.eventQueue, ?_, hpackets, hflight, h.window,
      h.floor⟩
    unfold GtpConnection.checkPto
    dsimp only
    rw [if_neg fun hdue => absurd hflight (Nat.ne_of_gt hdue.1)]
  | single pn r hpackets hflight hin hpos hframes =>
    obtain ⟨hempty, hzero, hnone⟩ := LossDetector.onTimeout_single hpackets hflight hin hframes
    have hdue : 0 < c.hot.lossDetector.inflightBytes ∧
        c.hot.lossDetector.ptoDurationWithBackoff c.config.ptoMaxDuration ≤
          now - c.hot.lossDetector.timeOfLastAckElicitingPacket := by
      refine ⟨hflight ▸ hpos, ?_⟩
      exact (c.hot.lossDetector.ptoDurationWithBackoff_le _).trans (Nat.le_sub_of_add_le' hlate)
    unfold GtpConnection.checkPto
    dsimp only
    rw [if_pos hdue]
    rcases hto : c.hot.lossDetector.onTimeout with ⟨ld, lossEv⟩
    rw [hto] at hempty hzero hnone
    dsimp only at hempty hzero hnone ⊢
    rw [hnone, List.foldl_nil]
    refine ⟨_, _, _, _, rfl, hempty, hzero, ?_, ?_⟩
    · split
      · exact h.floor
      · exact h.window
    · split
      · exact h.floor
      · exact h.floor

/-- Before the draft: the sender is steady again. -/
theorem Unanswered.prepare (h : Unanswered room k c) (hnow : now ≠ 0) (hlate : c.Late now)
    (hfresh : c.hot.scheduler.Fresh now) (hroom : room ≤ k) :
    Unanswered room k (c.prepare now) ∧ Steady now room (c.prepare now) ∧
      (c.prepare now).prepare now = c.prepare now ∧
      (c.prepare now).hot.lossDetector.sentPackets = ∅ ∧
      (c.prepare now).hot.lossDetector.inflightBytes = 0 ∧
      (c.prepare now).hot.scheduler = c.hot.scheduler ∧ (c.prepare now).config = c.config := by
  obtain ⟨ld, cc, cold, ev, hpto, hempty, hzero, hwindow, hfloor⟩ := h.checkPto hlate
  have hprep : c.prepare now =
      { c with
        hot.lossDetector := ld
        hot.cc := cc
        hot.pathValidator := c.hot.pathValidator.expire now
        hot.pacing := c.hot.pacing.updateTokens cc.pacingRate now
        cold := cold
        eventQueue := ev } := by
    unfold GtpConnection.prepare housekeeping
    rw [hpto, GameScheduler.pruneStale_fresh hfresh]
    rfl
  obtain ⟨hstarted, hsettled⟩ :=
    settled_updateTokens (p := c.hot.pacing) (Or.inl hnow) cc.pacingRate
  have htokens := PacingEngine.tokens_le_updateTokens h.burst cc.pacingRate now
  have hmax : (c.hot.pacing.updateTokens cc.pacingRate now).tokensBytes ≤
      (c.hot.pacing.updateTokens cc.pacingRate now).maxBurstBytes := by
    unfold PacingEngine.updateTokens
    split
    · exact Nat.le_refl _
    · dsimp only
      split
      · exact Nat.min_le_right _ _
      · exact h.burst
  have hsteady : Steady now room (c.prepare now) := by
    rw [hprep]
    refine ⟨h.state, h.controls, ?_, ?_, fun rate => ?_, fun hflight => ?_, h.timeout, h.validated,
      h.binding, h.pending⟩
    · exact if_pos h.unacked
    · dsimp only
      rw [hzero, Nat.zero_add]
      exact hwindow
    · dsimp only
      rw [PacingEngine.updateTokens_same hstarted hsettled]
      exact hroom.trans (h.tokens.trans htokens)
    · exact absurd hzero (Nat.ne_of_gt hflight)
  have hidem : (c.prepare now).prepare now = c.prepare now := by
    rw [hsteady.prepare (by rw [hprep]; exact hfresh), hprep]
    dsimp only
    rw [PathValidator.expire_expire, PacingEngine.updateTokens_same hstarted hsettled]
  refine ⟨?_, hsteady, hidem, ?_, ?_, ?_, ?_⟩
  · rw [hprep]
    exact ⟨h.state, h.controls, h.unacked, hwindow, hfloor, h.tokens.trans htokens, hmax, h.timeout,
      h.validated, h.binding, h.pending, .empty hempty hzero⟩
  · rw [hprep]
    exact hempty
  · rw [hprep]
    exact hzero
  · rw [hprep]
  · rw [hprep]

end Unanswered

variable [CryptoSuite]

/-- A call does what it would do if its housekeeping had been done before. -/
theorem produce_prepared {c : GtpConnection} {now : MonotonicTime} (h : c.hot.state = .established)
    (hopen : (c.prepare now).hot.state = .established)
    (hidem : (c.prepare now).prepare now = c.prepare now) (outBuf : List UInt8) :
    c.produceOutgoingDatagram now outBuf = (c.prepare now).produceOutgoingDatagram now outBuf ∧
      c.transmittedItems now outBuf = (c.prepare now).transmittedItems now outBuf := by
  have hprepare : ∀ c : GtpConnection, (c.checkPto now).housekeeping now = c.prepare now :=
    fun _ => rfl
  have hgoes : ∀ {c : GtpConnection}, c.hot.state = .established → ¬ c.hot.state = .closed ∧
      ¬ (c.hot.state = .draining ∧ c.hot.controlQueue.isEmpty = true) := by
    intro c hc
    rw [hc]
    refine ⟨fun heq => ?_, fun hdraining => ?_⟩
    · cases heq
    · cases hdraining.1
  have hproduce : c.produceOutgoingDatagram now outBuf =
      (c.prepare now).produceOutgoingDatagram now outBuf := by
    rw [produceOutgoingDatagram, if_neg (hgoes h).1, if_neg (hgoes h).2, hprepare,
      produceOutgoingDatagram, if_neg (hgoes hopen).1, if_neg (hgoes hopen).2, hprepare, hidem]
  refine ⟨hproduce, ?_⟩
  rw [transmittedItems, transmittedItems, hproduce, hidem]

section Sends

variable {room k : Nat} {now : MonotonicTime} {c : GtpConnection} {outBuf : List UInt8}
  {items : List SchedulableItem} {s : GameScheduler}

/-- **A datagram leaves** once the timeout of the last one has passed: the sender has heard nothing
after it either, and has its bytes less in the bucket. -/
theorem Unanswered.sends
    (hsuite : ∀ key nonce aad pt, (CryptoSuite.encrypt key nonce aad pt).isSome)
    (h : Unanswered room (k + outBuf.length) c) (hnow : now ≠ 0) (hlate : c.Late now)
    (hfresh : c.hot.scheduler.Fresh now) (hqueued : c.hot.scheduler.isEmpty = false)
    (hroom : outBuf.length ≤ room) (hbucket : room ≤ k + outBuf.length)
    (htake : ∀ budget, outBuf.length - 24 ≤ budget → takeItems budget now (outBuf.length - 24)
      (outBuf.length - 24) c.hot.scheduler = (items, s, 0))
    (hitems : items ≠ []) (hunreliable : ∀ x ∈ items, retransmissionRecord x = none)
    (hlong : 64 ≤ outBuf.length) (hshort : outBuf.length ≤ 65535)
    (htag : (items.map fun item => (itemFrame item).needed).sum + 40 ≤ outBuf.length) :
    Unanswered room k (c.step (.produce now outBuf)) ∧
      (c.step (.produce now outBuf)).hot.lossDetector.timeOfLastAckElicitingPacket = now ∧
      (c.step (.produce now outBuf)).hot.scheduler = s ∧
      (c.step (.produce now outBuf)).config = c.config ∧
      c.transmittedItems now outBuf = items := by
  obtain ⟨hclear, hsteady, hidem, hempty, hzero, hsched, hconfig⟩ :=
    h.prepare hnow hlate hfresh hbucket
  obtain ⟨hsame, hsent⟩ := produce_prepared h.state hclear.state hidem outBuf
  have hstep : c.step (.produce now outBuf) = (c.prepare now).step (.produce now outBuf) := by
    rw [step, step, hsame]
  rw [hstep, hsent]
  generalize c.prepare now = p at *
  rw [← hsched] at hfresh hqueued htake
  have hsmall : Steady now (0 + outBuf.length) p := hsteady.mono (by omega)
  obtain ⟨d, dest, len, buf, hproduce, -, hack, hpopped, heliciting, hpos, hlen⟩ :=
    hsmall.commits hsuite hfresh hqueued htake hitems hlong hshort htag
  obtain ⟨hafter, halike⟩ := Steady.commit hnow hsmall hfresh hack heliciting hlen s
  obtain ⟨keys, n, pending, controller, path, closed, hcommit⟩ :=
    commit_frame ({ p.prepare now with hot.scheduler := s } : GtpConnection) d len now
  have hframes : d.retransmittables = [] := by
    rw [Draft.retransmittables, hpopped, List.filterMap_eq_nil_iff]
    exact hunreliable
  have hdone : p.step (.produce now outBuf) =
      ({ p.prepare now with hot.scheduler := s } : GtpConnection).commit d len now := by
    rw [step, hproduce]
  rw [hidem] at hafter halike hcommit hdone
  rw [hack, heliciting, hframes] at hcommit
  refine ⟨?_, ?_, ?_, ?_, ?_⟩
  · rw [hdone]
    refine ⟨hafter.state, hafter.controls, ?_, ?_, ?_, ?_, ?_, hafter.timeout, hafter.validated,
      hafter.binding, hafter.pending, ?_⟩
    · rw [hcommit]
      exact hclear.unacked
    · rw [hcommit]
      exact hclear.window
    · rw [hcommit]
      exact hclear.floor
    · rw [hcommit]
      have htokens := hclear.tokens
      dsimp only [PacingEngine.consume]
      omega
    · rw [hcommit]
      exact (Nat.sub_le _ _).trans hclear.burst
    · rw [hcommit]
      refine .single p.hot.nextPacketNumber.toNat
        ⟨p.hot.nextPacketNumber, now, len, true, true, []⟩ ?_ ?_ rfl hpos rfl
      · dsimp only [LossDetector.onPacketSent]
        rw [hempty]
      · dsimp only [LossDetector.onPacketSent]
        rw [if_pos rfl, hzero, satAdd, Nat.zero_add]
        exact Nat.min_eq_left (by have : u64Max = 2 ^ 64 - 1 := rfl; omega)
  · rw [hdone, hcommit]
    rfl
  · rw [hdone, hcommit]
  · rw [hdone, halike.config, hconfig]
  · obtain ⟨-, hplan⟩ := hsteady.plan hfresh (show outBuf.length - 24 ≤ room by omega) htake
    have hres : (p.produceOutgoingDatagram now outBuf).result = .ok (some (dest, len)) := by
      rw [hproduce]
    rw [(p.transmittedItems_eq hres).2]
    exact congrArg Prod.fst hplan

end Sends

end GtpConnection

end Gtp
