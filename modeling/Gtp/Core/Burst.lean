/-
# One message after another

A sender that is asked for a datagram after each message, at one time and into a buffer with room
for one message, hands out one datagram per message, for as long as its budget lasts.  Such a burst
is of any length, so that what takes thousands of messages to show need not be evaluated.

* `Steady` is what the sender looks at: nothing but data waits, and so many bytes may still leave.
  `Steady.sends` is one turn of it, from what the data loop takes to the commit, and
  `Steady.sendsOne` is the turn with one message.
* `burst_packets` is the burst: each message leaves in a datagram of its own, under consecutive
  numbers (`Packets`), and the sender is steady after it.
* At the other end the datagrams open one after the other, and what arrives is the list of their
  frames (`Packets.heard`).

It is used where the bounded memories of an engine are shown to be bounded: `Gtp.Core.Repeats`,
`Gtp.Core.Turns` and `Gtp.Core.Forgetting`.

Nothing is said about a sender that has an ACK, a probe or a control frame to send.  In a burst the
buffer is chosen so that a second message does not fit; the turns of `Gtp.Core.Starving` have two.
-/
import Gtp.Core.Contents
import Gtp.Core.Arrivals
import Gtp.Core.Sends

namespace Gtp

open Frame PacketBuilder

/-! ## 1. The scheduler -/

namespace GameScheduler

theorem pruneStale_fresh {s : GameScheduler} {now : MonotonicTime} (h : s.Fresh now) :
    s.pruneStale now = (s, 0) := by
  have hnone : ∀ t, ((s.queues t).filter fun i => i.isExpired now) = [] := by
    intro t
    rw [List.filter_eq_nil_iff]
    intro x hx
    simp [h t x hx]
  have hall : ∀ t, ((s.queues t).filter fun i => !i.isExpired now) = s.queues t := by
    intro t
    rw [List.filter_eq_self]
    intro x hx
    simp [h t x hx]
  unfold pruneStale
  simp only [hnone, hall, List.length_nil, List.map_nil, List.sum_nil, Nat.sub_zero]
  refine Prod.ext rfl ?_
  simp

/-- An item alone in tier 0 is handed out, and the scheduler is as it was without it. -/
theorem popNext_place {s : GameScheduler} {item : SchedulableItem} {now : MonotonicTime}
    (hempty : s.queues 0 = []) (htier : item.priority.idx = 0) (hlive : item.isExpired now = false)
    {budget : Nat} (hbudget : item.sizeBytes ≤ budget) (hpos : budget ≠ 0) :
    (s.place item [item]).popNext budget now = (some item, s) := by
  have hqueue : (s.place item [item]).queues 0 = [item] := by
    simp [place, htier]
  unfold popNext
  rw [if_neg hpos]
  dsimp only
  rw [show PriorityTier.p0Control.idx = 0 from rfl, hqueue, serveTier, if_neg (by simp [hlive]),
    if_pos (by simpa using hbudget)]
  dsimp only
  refine congrArg (Prod.mk (some item)) ?_
  unfold discard place
  rw [htier]
  dsimp only
  have hq : Function.update (Function.update s.queues 0 [item]) 0 [] = s.queues := by
    rw [Function.update_idem, ← hempty, Function.update_eq_self]
  have hb : Function.update (Function.update s.queueBytes 0 (s.queueBytes 0 + item.sizeBytes)) 0
      (Function.update s.queueBytes 0 (s.queueBytes 0 + item.sizeBytes) 0 - item.sizeBytes) =
      s.queueBytes := by
    rw [Function.update_self, Nat.add_sub_cancel, Function.update_idem, Function.update_eq_self]
  have hi : Function.update (Function.update s.queueItems 0 (s.queueItems 0 + 1)) 0
      (Function.update s.queueItems 0 (s.queueItems 0 + 1) 0 - 1) = s.queueItems := by
    rw [Function.update_self, Nat.add_sub_cancel, Function.update_idem, Function.update_eq_self]
  rw [hq, hb, hi]

theorem Fresh.place {s : GameScheduler} {now : MonotonicTime} (h : s.Fresh now)
    {item : SchedulableItem} (hlive : item.isExpired now = false) :
    (s.place item [item]).Fresh now := by
  intro t x hx
  rcases mem_update hx with hx | hx
  · rw [List.mem_singleton.mp hx]
    exact hlive
  · exact h t x hx

end GameScheduler

/-! ## 2. The sender -/

namespace PacingEngine

theorem tokens_le_updateTokens {p : PacingEngine} (h : p.tokensBytes ≤ p.maxBurstBytes) (rate : Nat)
    (now : MonotonicTime) : p.tokensBytes ≤ (p.updateTokens rate now).tokensBytes := by
  unfold updateTokens
  split
  · exact h
  · dsimp only
    split
    · exact Nat.le_min.mpr ⟨Nat.le_add_right _ _, h⟩
    · exact Nat.le_refl _

end PacingEngine

namespace LossDetector

theorem ptoDurationWithBackoff_pos (d : LossDetector) {maxPto : Duration} (h : 0 < maxPto) :
    0 < d.ptoDurationWithBackoff maxPto := by
  have hone : 0 < d.rttStats.ptoDuration := Nat.lt_of_lt_of_le (by decide) (Nat.le_max_right _ _)
  refine Nat.lt_min.mpr ⟨Nat.lt_min.mpr ⟨Nat.mul_pos hone (Nat.two_pow_pos _), by decide⟩, h⟩

end LossDetector

namespace GtpConnection

variable [CryptoSuite]

omit [CryptoSuite] in
/-- The sender has nothing but data to send, and may still send `k` bytes at `now`. -/
structure Steady (now : MonotonicTime) (k : Nat) (c : GtpConnection) : Prop where
  state : c.hot.state = .established
  controls : c.hot.controlQueue = []
  ack : c.hot.ackTracker.shouldSendAck now = false
  window : c.hot.lossDetector.inflightBytes + k ≤ c.hot.cc.cwnd
  tokens : ∀ rate, k ≤ (c.hot.pacing.updateTokens rate now).tokensBytes
  timer : 0 < c.hot.lossDetector.inflightBytes →
    now - c.hot.lossDetector.timeOfLastAckElicitingPacket <
      c.hot.lossDetector.ptoDurationWithBackoff c.config.ptoMaxDuration
  timeout : 0 < c.config.ptoMaxDuration
  validated : c.hot.antiAmplification.validated = true
  binding : c.hot.txProtector.checkBinding c.hot.connectionId = .ok ()
  pending : c.hot.pendingRatchet = false

omit [CryptoSuite] in
theorem Steady.mono {now : MonotonicTime} {k k' : Nat} {c : GtpConnection} (h : Steady now k c)
    (hle : k' ≤ k) : Steady now k' c where
  state := h.state
  controls := h.controls
  ack := h.ack
  window := Nat.le_trans (Nat.add_le_add_left hle _) h.window
  tokens rate := Nat.le_trans hle (h.tokens rate)
  timer := h.timer
  timeout := h.timeout
  validated := h.validated
  binding := h.binding
  pending := h.pending

omit [CryptoSuite] in
theorem Steady.prepare {now : MonotonicTime} {k : Nat} {c : GtpConnection} (h : Steady now k c)
    (hfresh : c.hot.scheduler.Fresh now) :
    c.prepare now = { c with
      hot.pathValidator := c.hot.pathValidator.expire now
      hot.pacing := c.hot.pacing.updateTokens c.hot.cc.pacingRate now } := by
  have hpto : c.checkPto now = c := by
    unfold checkPto
    dsimp only
    rw [if_neg]
    rintro ⟨hflight, hdue⟩
    exact absurd (h.timer hflight) (Nat.not_lt.mpr hdue)
  unfold GtpConnection.prepare housekeeping
  rw [hpto, GameScheduler.pruneStale_fresh hfresh]
  rfl

omit [CryptoSuite] in
theorem tokens_prepare {c : GtpConnection} {now : MonotonicTime} (hnow : now ≠ 0)
    (h : c.hot.pacing.tokensBytes ≤ c.hot.pacing.maxBurstBytes) (rate : Nat) :
    c.hot.pacing.tokensBytes ≤ ((c.prepare now).hot.pacing.updateTokens rate now).tokensBytes := by
  obtain ⟨ld, cc, s, cold, ev, hpto, -⟩ := checkPto_spec c now
  have hpacing : (c.prepare now).hot.pacing = c.hot.pacing.updateTokens cc.pacingRate now := by
    unfold GtpConnection.prepare housekeeping
    rw [hpto]
  obtain ⟨hstarted, hsettled⟩ :=
    settled_updateTokens (p := c.hot.pacing) (Or.inl hnow) cc.pacingRate
  rw [hpacing, PacingEngine.updateTokens_same hstarted hsettled]
  exact PacingEngine.tokens_le_updateTokens h _ _

/-- A call with an empty buffer gets no further than the housekeeping. -/
theorem produce_nil {c : GtpConnection} (h : c.hot.state = .established) (now : MonotonicTime) :
    c.step (.produce now []) = c.prepare now ∧ c.datagramOf (.produce now []) = none := by
  have hprepare : (c.checkPto now).housekeeping now = c.prepare now := rfl
  have hnew : ∀ hd, ∃ e, PacketBuilder.new [] hd = .error e := by
    intro hd
    unfold PacketBuilder.new
    dsimp only
    have hpos : ([] : List UInt8).length < PacketHeader.minLen hd.flags := by
      unfold PacketHeader.minLen
      split <;> decide
    rw [if_pos hpos]
    exact ⟨_, rfl⟩
  rw [step, datagramOf, produceOutgoingDatagram, if_neg (by rw [h]; decide), if_neg (by
    rw [h]
    rintro ⟨hstate, -⟩
    cases hstate), hprepare]
  dsimp only
  split
  · exact ⟨rfl, rfl⟩
  · obtain ⟨e, he⟩ := hnew (nextHeader (c.prepare now).hot now)
    rw [he]
    exact ⟨rfl, rfl⟩

section DataLoop

variable {budget room fuel n : Nat} {now : MonotonicTime} {s s' s'' : GameScheduler}
  {item : SchedulableItem} {items : List SchedulableItem}

omit [CryptoSuite] in
theorem takeItems_full (h : room ≤ 64) : takeItems budget now fuel room s = ([], s, 0) := by
  cases fuel with
  | zero => rfl
  | succ fuel => rw [takeItems, if_neg (Nat.not_lt.mpr h)]

omit [CryptoSuite] in
theorem takeItems_none (hroom : 64 < room) (hbudget : room ≤ budget) (hfuel : room ≤ fuel)
    (hpop : s.popNext room now = (none, s')) : takeItems budget now fuel room s = ([], s', 0) := by
  obtain ⟨fuel, rfl⟩ : ∃ m, fuel = m + 1 := ⟨fuel - 1, by omega⟩
  rw [takeItems, if_pos hroom, Nat.min_eq_right hbudget, hpop]

omit [CryptoSuite] in
/-- An item that is handed out and fits is taken, and then whatever the rest of the room allows. -/
theorem takeItems_more (hroom : 64 < room) (hbudget : room ≤ budget) (hfuel : room ≤ fuel)
    (hpop : s.popNext room now = (some item, s')) (hfits : itemFits item room = true)
    (hrest : ∀ fuel, room - (itemFrame item).needed ≤ fuel →
      takeItems budget now fuel (room - (itemFrame item).needed) s' = (items, s'', n)) :
    takeItems budget now fuel room s = (item :: items, s'', n) := by
  have hpos := PacketBuilder.needed_pos (itemFrame item)
  obtain ⟨fuel, rfl⟩ : ∃ m, fuel = m + 1 := ⟨fuel - 1, by omega⟩
  rw [takeItems, if_pos hroom, Nat.min_eq_right hbudget, hpop]
  dsimp only
  rw [if_pos hfits, hrest fuel (by omega)]

end DataLoop

omit [CryptoSuite] in
/-- What a turn of the sender leaves alone. -/
structure Alike (c c' : GtpConnection) : Prop where
  config : c'.config = c.config
  keys : c'.hot.toSessionKeys = c.hot.toSessionKeys
  connectionId : c'.hot.connectionId = c.hot.connectionId
  nextMessageId : c'.hot.nextMessageId = c.hot.nextMessageId
  nextOrderSeqs : c'.hot.nextOrderSeqs = c.hot.nextOrderSeqs

theorem commit_config (c : GtpConnection) (d : Draft) (len : Nat) (now : MonotonicTime) :
    (c.commit d len now).config = c.config := by
  unfold commit tickRouteEvaluation
  dsimp only
  split <;> rfl

/-- The datagram carries these frames under the next number of the sender. -/
def Carried (c : GtpConnection) (fs : List Frame) (dg : List UInt8) : Prop :=
  ∃ hd, Sealed c.hot.txProtector hd (payloadOf fs) dg ∧ (∀ f ∈ fs, Sendable f) ∧
    hd.connectionId = c.hot.connectionId ∧ hd.packetNumber = c.hot.nextPacketNumber

section Turn

variable {now : MonotonicTime} {k : Nat} {c : GtpConnection} {items : List SchedulableItem}
  {s : GameScheduler} {outBuf : List UInt8}

omit [CryptoSuite] in
theorem Steady.budget (h : Steady now k c) (rate : Nat) :
    k ≤ (c.hot.pacing.updateTokens rate now).sendBudget c.hot.cc.cwnd
      c.hot.lossDetector.inflightBytes := by
  have hwindow := h.window
  exact Nat.le_min.mpr ⟨by omega, h.tokens rate⟩

omit [CryptoSuite] in
/-- A steady sender plans for nothing but data, which has all the room. -/
theorem Steady.plan (h : Steady now k c) (hfresh : c.hot.scheduler.Fresh now) {room : Nat}
    (hbudget : room ≤ k) (htake : ∀ budget, room ≤ budget →
      takeItems budget now room room c.hot.scheduler = (items, s, 0)) :
    (c.prepare now).plannedControls room now = [] ∧
      (c.prepare now).plannedItems room now = (items, s, 0) := by
  have hprep := h.prepare hfresh
  have hctrl : (c.prepare now).hot.controlQueue = [] := by rw [hprep, h.controls]
  have hack : (c.prepare now).ackBytes room now = 0 := by
    rw [ackBytes, hprep, h.ack]
    rfl
  have hctrls : (c.prepare now).plannedControls room now = [] := by
    rw [plannedControls, hctrl]
    rfl
  have hdata : (c.prepare now).takesData room now = true := by
    have hestablished : (c.prepare now).hot.state = .established := by rw [hprep, h.state]
    rw [takesData, hctrl, decide_eq_true hestablished]
    rfl
  have hleft : (c.prepare now).dataRoom room now = room := by
    rw [dataRoom, hack, hctrls]
    rfl
  have hsched : (c.prepare now).hot.scheduler = c.hot.scheduler := by rw [hprep]
  have hsend : room ≤ (c.prepare now).sendBudget := by
    rw [sendBudget, hprep]
    exact hbudget.trans (h.budget _)
  rw [plannedItems, if_pos hdata, hleft, hsched]
  exact ⟨hctrls, htake _ hsend⟩

omit [CryptoSuite] in
/-- **The draft of a turn** is what the data loop takes. -/
theorem Steady.draft (h : Steady now k c) (hfresh : c.hot.scheduler.Fresh now)
    (hbudget : outBuf.length ≤ k) (hroom : 24 ≤ outBuf.length)
    (htake : ∀ budget, outBuf.length - 24 ≤ budget → takeItems budget now (outBuf.length - 24)
      (outBuf.length - 24) c.hot.scheduler = (items, s, 0)) :
    ∃ b d, PacketBuilder.new outBuf (nextHeader (c.prepare now).hot now) = .ok b ∧
      (c.prepare now).assemble b now = (d, { c.prepare now with hot.scheduler := s }) ∧
      d.frames = items.map itemFrame ∧
      d.builder.Carries (nextHeader (c.prepare now).hot now) d.frames ∧
      d.builder.buf.length = outBuf.length ∧ d.ack = none ∧ d.popped = items := by
  obtain ⟨b, hb⟩ := new_nextHeader_ok (c.prepare now).hot now hroom
  obtain ⟨hcar, hbuf, hcap⟩ := new_nextHeader hb
  obtain ⟨hctrls, hplan⟩ := h.plan hfresh (show outBuf.length - 24 ≤ k by omega) htake
  rw [← hcap] at hctrls hplan
  have hass := (c.prepare now).assemble_spec hcar now
  obtain ⟨hdrained, hpopped, hsched, hdrop, -⟩ := (c.prepare now).assemble_planned hcar now
  rw [hplan] at hpopped hsched hdrop
  rw [hctrls] at hdrained
  have hnone : ((c.prepare now).assemble b now).1.ack = none := by
    rw [hass.ack, appendAck, h.prepare hfresh, h.ack]
    rfl
  have hqueue : ((c.prepare now).assemble b now).2.hot.controlQueue =
      (c.prepare now).hot.controlQueue := by
    rw [hass.queue, hdrained]
    rfl
  refine ⟨b, ((c.prepare now).assemble b now).1, hb, Prod.ext rfl ?_, ?_, hass.carries,
    hass.bufLength.trans (congrArg _ hbuf), hnone, hpopped⟩
  · rw [hass.conn, hsched, hdrop, hqueue]
    rfl
  · rw [Draft.frames, hnone, hdrained, hpopped]
    rfl

omit [CryptoSuite] in
theorem Steady.due (h : Steady now k c) (hfresh : c.hot.scheduler.Fresh now) (hbudget : 64 ≤ k)
    (hqueued : c.hot.scheduler.isEmpty = false) : (c.prepare now).idle now = false := by
  have hprep := h.prepare hfresh
  have hsend : 64 ≤ (c.prepare now).sendBudget := by
    rw [sendBudget, hprep]
    exact Nat.le_trans hbudget (h.budget c.hot.cc.pacingRate)
  have hstate : (c.prepare now).hot.state = .established := by rw [hprep, h.state]
  have hsched : (c.prepare now).hot.scheduler = c.hot.scheduler := by rw [hprep]
  simp [idle, hstate, hsched, hqueued, hsend]

/-- **The call goes through** once the draft is sealed: nothing else holds it back. -/
theorem Steady.handsOut (h : Steady now k c) (hfresh : c.hot.scheduler.Fresh now) {b : PacketBuilder}
    {d : Draft} {c2 : GtpConnection} {len : Nat} {buf : List UInt8}
    (hidle : (c.prepare now).idle now = false)
    (hb : PacketBuilder.new outBuf (nextHeader (c.prepare now).hot now) = .ok b)
    (hdraft : (c.prepare now).assemble b now = (d, c2))
    (hlimiter : c2.hot.antiAmplification = (c.prepare now).hot.antiAmplification)
    (hseal : sealDraft c2.hot c2.hot.nextPacketNumber d.builder = (.ok len, buf)) :
    c.produceOutgoingDatagram now outBuf =
      ⟨.ok (some (d.overrideDest.getD c2.hot.activePath, len)), c2.commit d len now, buf⟩ := by
  have hval : c2.hot.antiAmplification.validated = true := by
    rw [hlimiter, h.prepare hfresh]
    exact h.validated
  exact produce_of_sealed h.state hidle hb hdraft hval hseal

/-- What leaves takes its bytes out of the window and out of the bucket; the timer starts again. -/
theorem Steady.commit {m : Nat} (hnow : now ≠ 0) (h : Steady now (k + m) c)
    (hfresh : c.hot.scheduler.Fresh now) {d : Draft} (hack : d.ack = none)
    (heliciting : d.ackEliciting = true) {len : Nat} (hlen : len ≤ m) (s : GameScheduler) :
    Steady now k (({ c.prepare now with hot.scheduler := s } : GtpConnection).commit d len now) ∧
      c.Alike (({ c.prepare now with hot.scheduler := s } : GtpConnection).commit d len now) := by
  have hprep := h.prepare hfresh
  set c2 : GtpConnection := { c.prepare now with hot.scheduler := s } with hc2
  obtain ⟨keys, n, pending, controller, path, closed, hcommit⟩ := commit_frame c2 d len now
  have hlink := commit_link c2 d len now
  have hpend : c2.hot.pendingRatchet = false := by
    rw [hc2, hprep]
    exact h.pending
  have hkeys : (c2.commit d len now).hot.toSessionKeys = c.hot.toSessionKeys := by
    refine (congrArg Link.keys hlink).trans ?_
    dsimp only
    rw [hpend, hc2, hprep]
    rfl
  refine ⟨⟨?_, ?_, ?_, ?_, ?_, ?_, ?_, ?_, ?_, ?_⟩, ⟨?_, hkeys, ?_, ?_, ?_⟩⟩
  · rw [hcommit, hc2, hprep]
    exact h.state
  · rw [hcommit, hc2, hprep]
    exact h.controls
  · rw [hcommit, hack, hc2, hprep]
    exact h.ack
  · rw [hcommit, hc2, hprep]
    dsimp only [LossDetector.onPacketSent]
    rw [heliciting, if_pos rfl, satAdd]
    exact Nat.le_trans (by omega) h.window
  · intro rate
    rw [hcommit, hc2, hprep]
    dsimp only
    obtain ⟨hstarted, hsettled⟩ := settled_updateTokens (p := c.hot.pacing) (Or.inl hnow)
      c.hot.cc.pacingRate
    have hsame : ((c.hot.pacing.updateTokens c.hot.cc.pacingRate now).consume len).updateTokens rate
        now = (c.hot.pacing.updateTokens c.hot.cc.pacingRate now).consume len :=
      PacingEngine.updateTokens_same
        (p := (c.hot.pacing.updateTokens c.hot.cc.pacingRate now).consume len) hstarted hsettled rate
    rw [hsame]
    have htokens := h.tokens c.hot.cc.pacingRate
    dsimp only [PacingEngine.consume]
    omega
  · intro _
    rw [hcommit, commit_config, hc2, hprep]
    dsimp only [LossDetector.onPacketSent]
    rw [heliciting, if_pos rfl, Nat.sub_self]
    exact LossDetector.ptoDurationWithBackoff_pos _ h.timeout
  · rw [commit_config, hc2, hprep]
    exact h.timeout
  · rw [hcommit, hc2, hprep]
    dsimp only
    rw [AntiAmplificationLimiter.onBytesSent, if_pos h.validated]
    exact h.validated
  · rw [hkeys, hcommit, hc2, hprep]
    exact h.binding
  · exact congrArg Link.pendingRatchet hlink
  · rw [commit_config, hc2, hprep]
  · rw [hcommit, hc2, hprep]
  · rw [hcommit, hc2, hprep]
  · rw [hcommit, hc2, hprep]

/-- **The call seals what the data loop took**, and commits it. -/
theorem Steady.commits (hsuite : ∀ key nonce aad pt, (CryptoSuite.encrypt key nonce aad pt).isSome)
    (h : Steady now (k + outBuf.length) c) (hfresh : c.hot.scheduler.Fresh now)
    (hqueued : c.hot.scheduler.isEmpty = false)
    (htake : ∀ budget, outBuf.length - 24 ≤ budget → takeItems budget now (outBuf.length - 24)
      (outBuf.length - 24) c.hot.scheduler = (items, s, 0))
    (hitems : items ≠ []) (hroom : 64 ≤ outBuf.length) (hshort : outBuf.length ≤ 65535)
    (htag : (items.map fun item => (itemFrame item).needed).sum + 40 ≤ outBuf.length) :
    ∃ (d : Draft) (dest : SocketAddr) (len : Nat) (buf : List UInt8),
      c.produceOutgoingDatagram now outBuf = ⟨.ok (some (dest, len)),
        ({ c.prepare now with hot.scheduler := s } : GtpConnection).commit d len now, buf⟩ ∧
      c.Carried (items.map itemFrame) (buf.take len) ∧ d.ack = none ∧ d.popped = items ∧
      d.ackEliciting = true ∧ 0 < len ∧ len ≤ outBuf.length := by
  obtain ⟨b, d, hb, hdraft, hframes, hcar, hbuf, hack, hpopped⟩ :=
    h.draft hfresh (Nat.le_add_left _ _) (by omega) htake
  have hprep := h.prepare hfresh
  set c2 : GtpConnection := { c.prepare now with hot.scheduler := s } with hc2
  have hbind : c2.hot.txProtector.checkBinding c2.hot.connectionId = .ok () := by
    rw [hc2, hprep]
    exact h.binding
  have hpay : d.builder.payloadLen = (items.map fun item => (itemFrame item).needed).sum := by
    rw [← hcar.payloadLen, length_payloadOf, hframes, List.map_map]
    rfl
  -- the datagram is sealed
  obtain ⟨len, buf, hseal⟩ := sealDraft_ok (fun key nonce aad pt _ => hsuite key nonce aad pt)
    hcar hbind (by
      rw [hpay, hbuf, show minCommonHeaderLen = 24 from rfl, show aeadTagLen = 16 from rfl]
      omega) (by
      rw [hpay, show aeadTagLen = 16 from rfl]
      omega) c2.hot.nextPacketNumber
  obtain ⟨hd, halike, hsealed, hlen, -, -⟩ := sealDraft_spec hcar
    (show (nextHeader (c.prepare now).hot now).connectionId = c2.hot.connectionId from rfl)
    (show (nextHeader (c.prepare now).hot now).packetNumber = c2.hot.nextPacketNumber from rfl)
    hseal
  rw [hcar.payloadLen, hpay, show minCommonHeaderLen = 24 from rfl,
    show aeadTagLen = 16 from rfl] at hlen
  have hcarried : c.Carried (items.map itemFrame) (buf.take len) := by
    rw [hframes] at hsealed
    rw [hc2, hprep] at hsealed
    refine ⟨hd, hsealed, ?_, ?_, ?_⟩
    · rw [← hframes]
      exact hcar.sendable
    · rw [halike.connectionId, hprep]
      rfl
    · rw [halike.packetNumber, hprep]
      rfl
  -- and handed out
  have hproduce := h.handsOut hfresh (h.due hfresh (by omega) hqueued) hb hdraft rfl hseal
  have heliciting : d.ackEliciting = true := by
    rw [Draft.ackEliciting, hpopped]
    simp [hitems]
  exact ⟨d, _, len, buf, hproduce, hcarried, hack, hpopped, heliciting, by omega, by omega⟩

/-- **A turn of the sender**: the items leave in one datagram, and the sender is as steady as
before, with the room of one buffer less. -/
theorem Steady.sends (hsuite : ∀ key nonce aad pt, (CryptoSuite.encrypt key nonce aad pt).isSome)
    (hnow : now ≠ 0) (h : Steady now (k + outBuf.length) c) (hfresh : c.hot.scheduler.Fresh now)
    (hqueued : c.hot.scheduler.isEmpty = false)
    (htake : ∀ budget, outBuf.length - 24 ≤ budget → takeItems budget now (outBuf.length - 24)
      (outBuf.length - 24) c.hot.scheduler = (items, s, 0))
    (hitems : items ≠ []) (hroom : 64 ≤ outBuf.length) (hshort : outBuf.length ≤ 65535)
    (htag : (items.map fun item => (itemFrame item).needed).sum + 40 ≤ outBuf.length) :
    ∃ dest dg, c.datagramOf (.produce now outBuf) = some (dest, dg) ∧
      c.Carried (items.map itemFrame) dg ∧ Steady now k (c.step (.produce now outBuf)) ∧
      c.Alike (c.step (.produce now outBuf)) ∧
      (c.step (.produce now outBuf)).hot.scheduler = s ∧
      (c.step (.produce now outBuf)).hot.nextPacketNumber =
        PacketNumber.next c.hot.nextPacketNumber := by
  obtain ⟨d, dest, len, buf, hproduce, hcarried, hack, -, heliciting, -, hlen⟩ :=
    h.commits hsuite hfresh hqueued htake hitems hroom hshort htag
  have hprep := h.prepare hfresh
  obtain ⟨hsteady, halike⟩ := Steady.commit hnow h hfresh hack heliciting hlen s
  obtain ⟨keys, n, pending, controller, path, closed, hcommit⟩ :=
    commit_frame ({ c.prepare now with hot.scheduler := s } : GtpConnection) d len now
  have hstep : c.step (.produce now outBuf) =
      ({ c.prepare now with hot.scheduler := s } : GtpConnection).commit d len now := by
    rw [step, hproduce]
  rw [hstep]
  refine ⟨_, _, by rw [datagramOf, hproduce], hcarried, hsteady, halike, ?_, ?_⟩
  · rw [hcommit]
  · rw [hcommit, hprep]

/-- A turn with one item, in a buffer that has no room for a second. -/
theorem Steady.sendsOne {item : SchedulableItem}
    (hsuite : ∀ key nonce aad pt, (CryptoSuite.encrypt key nonce aad pt).isSome)
    (hnow : now ≠ 0) (h : Steady now (k + outBuf.length) c) (hfresh : c.hot.scheduler.Fresh now)
    (hpop : c.hot.scheduler.popNext (outBuf.length - 24) now = (some item, s))
    (hfull : outBuf.length ≤ (itemFrame item).needed + 88) (hroom : 88 < outBuf.length)
    (hfit : (itemFrame item).needed + 40 ≤ outBuf.length) (hshort : outBuf.length ≤ 65535)
    (hsize : (itemFrame item).oversize = false) :
    ∃ dest dg, c.datagramOf (.produce now outBuf) = some (dest, dg) ∧
      c.Carried [itemFrame item] dg ∧ Steady now k (c.step (.produce now outBuf)) ∧
      c.Alike (c.step (.produce now outBuf)) ∧
      (c.step (.produce now outBuf)).hot.scheduler = s ∧
      (c.step (.produce now outBuf)).hot.nextPacketNumber =
        PacketNumber.next c.hot.nextPacketNumber := by
  have hqueued : c.hot.scheduler.isEmpty = false := by
    obtain ⟨⟨t, ht⟩, -⟩ := (GameScheduler.popNext_spec c.hot.scheduler _ now).2 item (by rw [hpop])
    rw [GameScheduler.isEmpty, List.all_eq_false]
    exact ⟨t, List.mem_finRange t, by simpa using List.ne_nil_of_mem ht⟩
  have hfits : itemFits item (outBuf.length - 24) = true := by
    rw [itemFits, hsize, decide_eq_true (by omega)]
    rfl
  refine h.sends hsuite hnow hfresh hqueued (fun budget hbudget => ?_)
    (List.cons_ne_nil item []) (by omega) hshort ?_
  · exact takeItems_more (by omega) hbudget (Nat.le_refl _) hpop hfits fun fuel _ =>
      takeItems_full (by omega)
  · rw [List.map_singleton, List.sum_singleton]
    exact hfit

end Turn

/-! ## 3. A burst -/

/-- The datagrams that a run hands out, oldest first. -/
def handedOut (c : GtpConnection) : List Op → List (List UInt8)
  | [] => []
  | op :: ops => ((c.datagramOf op).toList.map Prod.snd) ++ (c.step op).handedOut ops

theorem handedOut_append (c : GtpConnection) (ops ops' : List Op) :
    c.handedOut (ops ++ ops') = c.handedOut ops ++ (c.run ops).handedOut ops' := by
  induction ops generalizing c with
  | nil => rfl
  | cons op ops ih =>
    rw [List.cons_append, handedOut, handedOut, ih, List.append_assoc]
    rfl

/-- The datagrams carry these frames, one after the other, under consecutive numbers. -/
inductive Packets (p : Protector) (cid : ConnectionId) :
    Nat → List (List Frame) → List (List UInt8) → Prop
  | nil {pn : Nat} : Packets p cid pn [] []
  | cons {pn : Nat} {fs : List Frame} {rest : List (List Frame)} {dg : List UInt8}
      {dgs : List (List UInt8)} {hd : PacketHeader} (hseal : Sealed p hd (payloadOf fs) dg)
      (hsendable : ∀ f ∈ fs, Sendable f) (hcid : hd.connectionId = cid)
      (hpn : hd.packetNumber.toNat = pn) (hrest : Packets p cid (pn + 1) rest dgs) :
      Packets p cid pn (fs :: rest) (dg :: dgs)

theorem Packets.append {p : Protector} {cid : ConnectionId} {pn : Nat}
    {fss fss' : List (List Frame)} {dgs dgs' : List (List UInt8)} (h : Packets p cid pn fss dgs)
    (h' : Packets p cid (pn + fss.length) fss' dgs') :
    Packets p cid pn (fss ++ fss') (dgs ++ dgs') := by
  induction h with
  | nil => exact h'
  | @cons pn fs rest dg dgs hd hseal hsendable hcid hpn hrest ih =>
    refine .cons hseal hsendable hcid hpn (ih ?_)
    rw [List.length_cons, Nat.add_comm rest.length, ← Nat.add_assoc] at h'
    exact h'

/-- **A call that queues one item, and a datagram after it**: the item leaves in the datagram `dg`,
and the sender `c2` goes on with the room of one buffer less. -/
structure Turned (now : MonotonicTime) (k : Nat) (outBuf : List UInt8) (call : Op)
    (item : SchedulableItem) (s : GameScheduler) (c : GtpConnection) (dg : List UInt8)
    (c2 : GtpConnection) : Prop where
  handedOut : ∀ ops, c.handedOut (call :: .produce now outBuf :: ops) = dg :: c2.handedOut ops
  run : ∀ ops, c.run (call :: .produce now outBuf :: ops) = c2.run ops
  packets : ∀ {fss dgs}, Packets c.hot.txProtector c.hot.connectionId
    (c.hot.nextPacketNumber.toNat + 1) fss dgs →
    Packets c.hot.txProtector c.hot.connectionId c.hot.nextPacketNumber.toNat
      ([itemFrame item] :: fss) (dg :: dgs)
  steady : Steady now k c2
  scheduler : c2.hot.scheduler = s
  config : c2.config = c.config
  keys : c2.hot.toSessionKeys = c.hot.toSessionKeys
  connectionId : c2.hot.connectionId = c.hot.connectionId
  nextPacketNumber : c2.hot.nextPacketNumber.toNat = c.hot.nextPacketNumber.toNat + 1
  nextMessageId : c2.hot.nextMessageId = (c.step call).hot.nextMessageId
  nextOrderSeqs : c2.hot.nextOrderSeqs = (c.step call).hot.nextOrderSeqs

/-- Such a turn takes place when the buffer of 100 bytes has room for the item and no other. -/
theorem Steady.turned (hsuite : ∀ key nonce aad pt, (CryptoSuite.encrypt key nonce aad pt).isSome)
    {now : MonotonicTime} (hnow : now ≠ 0) {outBuf : List UInt8} (hbuf : outBuf.length = 100)
    {k : Nat} {c : GtpConnection} (h : Steady now (k + 100) c)
    (hpn : c.hot.nextPacketNumber.toNat + 1 < 2 ^ 64) {call : Op}
    (hquiet : c.datagramOf call = none) {id : MessageId}
    {seqs : Std.ExtTreeMap OrderedGroupId UInt32 compare} {s s' : GameScheduler}
    (hcall : c.step call = { c with
      hot.nextMessageId := id
      hot.nextOrderSeqs := seqs
      hot.scheduler := s })
    {item : SchedulableItem} (hfresh : s.Fresh now) (hpop : s.popNext 76 now = (some item, s'))
    (hfull : 12 ≤ (itemFrame item).needed) (hfit : (itemFrame item).needed ≤ 60)
    (hsize : (itemFrame item).oversize = false) :
    ∃ dg c2, Turned now k outBuf call item s' c dg c2 := by
  generalize hc1 : c.step call = c1 at hcall
  have hsteady : Steady now (k + outBuf.length) c1 := by
    rw [hcall, hbuf]
    exact ⟨h.state, h.controls, h.ack, h.window, h.tokens, h.timer, h.timeout, h.validated,
      h.binding, h.pending⟩
  obtain ⟨dest, dg, hout, ⟨hd, hseal, hsendable, hcid, hnum⟩, hsteady2, halike, hsched2, hnext⟩ :=
    hsteady.sendsOne hsuite hnow (by rw [hcall]; exact hfresh) (by rw [hcall, hbuf]; exact hpop)
      (by omega) (by omega) (by omega) (by omega) hsize
  generalize hc2 : c1.step (.produce now outBuf) = c2 at hsteady2 halike hsched2 hnext
  refine ⟨dg, c2, fun ops => ?_, fun ops => ?_, fun hrest => ?_, hsteady2, hsched2, ?_, ?_, ?_, ?_,
    ?_, ?_⟩
  · rw [GtpConnection.handedOut, GtpConnection.handedOut, hquiet, hc1, hout, hc2]
    rfl
  · rw [GtpConnection.run, List.foldl_cons, List.foldl_cons, hc1, hc2]
    rfl
  · rw [hcall] at hseal hcid hnum
    exact .cons hseal hsendable hcid (congrArg UInt64.toNat hnum) hrest
  · rw [halike.config, hcall]
  · rw [halike.keys, hcall]
  · rw [halike.connectionId, hcall]
  · rw [hnext, hcall]
    exact PacketNumber.toNat_next hpn
  · rw [halike.nextMessageId, hc1]
  · rw [halike.nextOrderSeqs, hc1]

/-- A message of one byte, in tier 0: on a group, or unordered. -/
abbrev Letter := Option OrderedGroupId × UInt8

omit [CryptoSuite] in
/-- The call that sends it. -/
def sendLetter (now : MonotonicTime) : Letter → Op
  | (none, b) => .sendReliableUnordered [b] .p0Control none now
  | (some g, b) => .sendReliableOrdered g [b] .p0Control none now

omit [CryptoSuite] in
/-- Each message, and a datagram after it. -/
def burst (now : MonotonicTime) (outBuf : List UInt8) (letters : List Letter) : List Op :=
  letters.flatMap fun letter => [sendLetter now letter, .produce now outBuf]

omit [CryptoSuite] in
/-- The frames of the messages, from an id and the order sequence numbers on. -/
def letterFrames :
    MessageId → Std.ExtTreeMap OrderedGroupId UInt32 compare → List Letter → List Frame
  | _, _, [] => []
  | id, seqs, (none, b) :: rest =>
    .reliableData id 0 1 0 0 [b] :: letterFrames (id + 1) seqs rest
  | id, seqs, (some g, b) :: rest =>
    .reliableData id 0 1 g ((seqs[g]?).getD 0) [b] ::
      letterFrames (id + 1) (seqs.insert g ((seqs[g]?).getD 0 + 1)) rest

omit [CryptoSuite] in
theorem length_letterFrames (id : MessageId) (seqs : Std.ExtTreeMap OrderedGroupId UInt32 compare)
    (letters : List Letter) : (letterFrames id seqs letters).length = letters.length := by
  induction letters generalizing id seqs with
  | nil => rfl
  | cons letter rest ih =>
    obtain ⟨_ | g, b⟩ := letter <;> rw [letterFrames, List.length_cons, List.length_cons, ih]

omit [CryptoSuite] in
/-- The item of a message. -/
def letterItem (now : MonotonicTime) (id : MessageId) (class' : MessageClass) (b : UInt8) :
    SchedulableItem where
  messageId := id
  class'
  priority := .p0Control
  createdAt := now
  deadline := none
  supersedable := false
  payload := [b]
  fragmentId := 0
  totalFragments := 1

omit [CryptoSuite] in
/-- The one fragment of a message goes to the empty tier. -/
theorem enqueueFragments_letter {c : GtpConnection} {now : MonotonicTime}
    (hempty : c.hot.scheduler.queues 0 = []) (hroom : c.hot.scheduler.Admits 0 none now 1 1)
    (hmax : 0 < c.maxMessagePayload) {class' : MessageClass}
    (hclass : ∀ key sequence generation, class' ≠ .unreliableSequenced key sequence generation)
    (id : MessageId) (b : UInt8) :
    (c.enqueueFragments id class' [b] .p0Control none 1 now).2 = { c with
      hot.scheduler := c.hot.scheduler.place (letterItem now id class' b)
        [letterItem now id class' b] } := by
  have hchunks : chunks c.maxMessagePayload [b] = some [[b]] := by
    rw [chunks, if_neg (Nat.pos_iff_ne_zero.mp hmax)]
    simp [chunksFrom, List.take_of_length_le (show [b].length ≤ c.maxMessagePayload from hmax)]
  unfold enqueueFragments
  rw [hchunks]
  have henq := (@GameScheduler.enqueue_fragment c.hot.scheduler (letterItem now id class' b) now
    hclass).resolve_right (fun h => h.1 hroom)
  have hitems : fragmentItems id class' .p0Control none 1 now [[b]] =
      [letterItem now id class' b] := rfl
  dsimp only
  rw [hitems, enqueueAll, enqueueItem, henq.2]
  dsimp only [enqueueAll]
  rw [show (letterItem now id class' b).priority.idx = 0 from rfl, hempty]
  rfl

omit [CryptoSuite] in
theorem messageFragmentCount_one {budget : Nat} (h : 0 < budget) :
    messageFragmentCount 1 budget = .ok 1 := by
  have hdiv : (1 + budget - 1) / budget = 1 := by
    rw [Nat.add_sub_cancel_left]
    exact Nat.div_self h
  unfold messageFragmentCount
  dsimp only
  rw [Nat.max_eq_left h, hdiv]
  rfl

/-- The order sequence numbers after a message. -/
def seqsAfter (seqs : Std.ExtTreeMap OrderedGroupId UInt32 compare) (letter : Letter) :
    Std.ExtTreeMap OrderedGroupId UInt32 compare :=
  match letter.1 with
  | none => seqs
  | some g => seqs.insert g ((seqs[g]?).getD 0 + 1)

/-- **The call that sends a message** puts one item into tier 0. -/
theorem step_sendLetter {c : GtpConnection} {now : MonotonicTime}
    (hempty : c.hot.scheduler.queues 0 = []) (hroom : c.hot.scheduler.Admits 0 none now 1 1)
    (hmax : 0 < c.maxMessagePayload) (letter : Letter) :
    ∃ item, c.step (sendLetter now letter) = { c with
        hot.nextMessageId := c.hot.nextMessageId + 1
        hot.nextOrderSeqs := seqsAfter c.hot.nextOrderSeqs letter
        hot.scheduler := c.hot.scheduler.place item [item] } ∧
      item.priority.idx = 0 ∧ item.deadline = none ∧ item.sizeBytes = 1 ∧
      (itemFrame item).needed = 22 ∧ (itemFrame item).oversize = false ∧
      ∀ rest, letterFrames c.hot.nextMessageId c.hot.nextOrderSeqs (letter :: rest) =
        itemFrame item :: letterFrames (c.hot.nextMessageId + 1)
          (seqsAfter c.hot.nextOrderSeqs letter) rest := by
  obtain ⟨group, b⟩ := letter
  cases group with
  | none =>
    refine ⟨letterItem now c.hot.nextMessageId .reliableUnordered b, ?_, rfl, rfl, rfl, rfl, rfl,
      fun rest => rfl⟩
    rw [sendLetter, step, sendReliableUnordered]
    dsimp only [List.length_singleton]
    split
    · rename_i e herr
      exact absurd (herr.symm.trans (messageFragmentCount_one hmax)) (by simp)
    · rename_i total htotal
      obtain rfl := Except.ok.inj (htotal.symm.trans (messageFragmentCount_one hmax))
      exact enqueueFragments_letter (c := { c with hot.nextMessageId := c.hot.nextMessageId + 1 })
        hempty hroom hmax (by simp) c.hot.nextMessageId b
  | some g =>
    refine ⟨letterItem now c.hot.nextMessageId (.reliableOrdered g
      ((c.hot.nextOrderSeqs[g]?).getD 0)) b, ?_, rfl, rfl, rfl, rfl, rfl, fun rest => rfl⟩
    rw [sendLetter, step, sendReliableOrdered, List.length_singleton, messageFragmentCount_one hmax]
    exact enqueueFragments_letter (c := { c with
      hot.nextOrderSeqs := c.hot.nextOrderSeqs.insert g ((c.hot.nextOrderSeqs[g]?).getD 0 + 1)
      hot.nextMessageId := c.hot.nextMessageId + 1 }) hempty hroom hmax (by simp)
      c.hot.nextMessageId b

/-- The scheduler is ready for one more message. -/
structure Idle (s : GameScheduler) (now : MonotonicTime) : Prop where
  empty : s.queues 0 = []
  fresh : s.Fresh now
  room : s.Admits 0 none now 1 1

/-- **A burst**: the messages leave one by one, and the sender is steady after it. -/
theorem burst_packets (hsuite : ∀ key nonce aad pt, (CryptoSuite.encrypt key nonce aad pt).isSome)
    {now : MonotonicTime} (hnow : now ≠ 0) {s : GameScheduler} (hidle : Idle s now)
    {outBuf : List UInt8} (hbuf : outBuf.length = 100) (letters : List Letter) {k : Nat}
    {c : GtpConnection} (hs : c.hot.scheduler = s) (hmax : 0 < c.maxMessagePayload)
    (h : Steady now (k + 100 * letters.length) c)
    (hpn : c.hot.nextPacketNumber.toNat + letters.length < 2 ^ 64) :
    Packets c.hot.txProtector c.hot.connectionId c.hot.nextPacketNumber.toNat
        ((letterFrames c.hot.nextMessageId c.hot.nextOrderSeqs letters).map ([·]))
        (c.handedOut (burst now outBuf letters)) ∧
      Steady now k (c.run (burst now outBuf letters)) ∧
      (c.run (burst now outBuf letters)).hot.scheduler = s ∧
      (c.run (burst now outBuf letters)).hot.toSessionKeys = c.hot.toSessionKeys ∧
      (c.run (burst now outBuf letters)).hot.connectionId = c.hot.connectionId ∧
      (c.run (burst now outBuf letters)).hot.nextPacketNumber.toNat =
        c.hot.nextPacketNumber.toNat + letters.length := by
  induction letters generalizing c with
  | nil => exact ⟨.nil, h, hs, rfl, rfl, rfl⟩
  | cons letter rest ih =>
    subst hs
    obtain ⟨item, hstep, htier, hdeadline, hsize, hneeded, hsmall, hframes⟩ :=
      step_sendLetter hidle.empty hidle.room hmax letter
    have hlive : item.isExpired now = false := by rw [SchedulableItem.isExpired, hdeadline]
    rw [List.length_cons] at h hpn ⊢
    obtain ⟨dg, c2, hturn⟩ := Steady.turned hsuite hnow hbuf (k := k + 100 * rest.length)
      (by rw [Nat.add_assoc, ← Nat.mul_succ]; exact h) (by omega)
      (by rcases letter with ⟨_ | g, b⟩ <;> rfl) hstep (hidle.fresh.place hlive)
      (GameScheduler.popNext_place hidle.empty htier hlive (by omega) (by decide))
      (by omega) (by omega) hsmall
    obtain ⟨hpackets, hsteady', hsched', hkeys', hcid', hnum'⟩ := ih hturn.scheduler
      (by rw [maxMessagePayload, hturn.config]; exact hmax) hturn.steady
      (by rw [hturn.nextPacketNumber]; omega)
    have hops : burst now outBuf (letter :: rest) =
        sendLetter now letter :: .produce now outBuf :: burst now outBuf rest := rfl
    rw [hops, hturn.run, hturn.handedOut, hframes, List.map_cons]
    refine ⟨hturn.packets ?_, hsteady', hsched', hkeys'.trans hturn.keys,
      hcid'.trans hturn.connectionId, ?_⟩
    · rw [hturn.keys, hturn.connectionId, hturn.nextPacketNumber, hturn.nextMessageId,
        hturn.nextOrderSeqs, hstep] at hpackets
      exact hpackets
    · rw [hnum', hturn.nextPacketNumber]
      omega

/-! ## 4. The receiver -/

/-- The receiver takes what is sealed with `p`, from number `pn` on. -/
structure Listening (p : Protector) (cid : ConnectionId) (pn : Nat) (c : GtpConnection) : Prop where
  state : c.hot.state ≠ .closed
  connectionId : c.hot.connectionId = cid
  protector : c.hot.rxProtector = p
  noPrev : c.hot.rxProtectorPrev = none
  largest : c.hot.replayWindow.largestSeen < pn

omit [CryptoSuite] in
/-- A frame of a reliable message, as a sender writes it. -/
def isReliable : Frame → Bool
  | .reliableData .. => true
  | _ => false

omit [CryptoSuite] in
/-- A frame of a message, reliable or not, as a sender writes it. -/
def isMessage : Frame → Bool
  | .data .. => true
  | f => isReliable f

omit [CryptoSuite] in
theorem isMessage_of_isReliable {f : Frame} (h : isReliable f = true) : isMessage f = true := by
  cases f with
  | reliableData => rfl
  | _ => cases h

theorem Listening.opens (hround : CryptoSuite.RoundTrips) {p : Protector} {cid : ConnectionId}
    {pn : Nat} {c : GtpConnection} (h : Listening p cid pn c) {hd : PacketHeader}
    {pt dg : List UInt8} (hseal : Sealed p hd pt dg) (hcid : hd.connectionId = cid)
    (hpn : hd.packetNumber.toNat = pn) : c.Opens dg hd pt := by
  have hcheck : c.hot.replayWindow.check hd.packetNumber = .ok () := by
    have hlt := h.largest
    rw [← hpn] at hlt
    unfold ReplayWindow.check
    dsimp only
    rw [if_pos hlt, ite_self]
  refine ⟨h.state, minCommonHeaderLen, ?_, ?_⟩
  · unfold ConnectionHot.admitHeader
    rw [hseal.decode]
    simp [bind, Except.bind, hcid, h.connectionId, hcheck, pure, Except.pure]
  · unfold ConnectionHot.openDatagram
    simp only [h.noPrev, h.protector, hseal.openPayload hround]
    cases hd.flags.keyPhase != c.hot.keyPhase <;> rfl

/-- Without a close frame the state of the connection stays. -/
theorem Opens.state_handle {c : GtpConnection} {dg : List UInt8} {hd : PacketHeader}
    {pt : List UInt8} (h : c.Opens dg hd pt)
    (hclose : (readable (FrameIterator.collect pt)).any isClose = false) (src : SocketAddr)
    (now : MonotonicTime) (ecn : UInt8) :
    (c.handleIncomingDatagramWithEcn src dg now ecn).2.hot.state = c.hot.state := by
  rw [h.handle src now ecn]
  obtain ⟨amp, probe, rx, owd, emit, hauth⟩ := onAuthenticated_spec { c with
    cold.totalRxPackets := c.cold.totalRxPackets + 1
    cold.totalRxBytes := c.cold.totalRxBytes + dg.length } hd src dg.length now
  generalize onAuthenticated { c with
    cold.totalRxPackets := c.cold.totalRxPackets + 1
    cold.totalRxBytes := c.cold.totalRxBytes + dg.length } hd src dg.length now = c1 at hauth ⊢
  obtain ⟨hdisp, -, hreceived⟩ :=
    dispatchAll_spec src now (FrameIterator.collect pt) ⟨c1, [], false, none, 0⟩
  have hstate := hdisp.state
  unfold receiveFrames
  generalize dispatchAll src now ⟨c1, [], false, none, 0⟩ (FrameIterator.collect pt) = s
    at hstate hreceived ⊢
  dsimp only at hstate hreceived ⊢
  rw [hclose, Bool.or_false, Option.isSome_none] at hreceived
  rw [hauth] at hstate
  rw [Option.isSome_eq_false_iff.mp hreceived |> Option.isNone_iff_eq_none.mp]
  exact hstate

omit [CryptoSuite] in
/-- Frames of messages are read as they were written. -/
theorem received_messages {fs : List Frame} (h : ∀ f ∈ fs, isMessage f = true) :
    received fs = fs := by
  induction fs with
  | nil => rfl
  | cons f fs ih =>
    have hf := h f List.mem_cons_self
    have hrest := ih fun f hf => h f (List.mem_cons_of_mem _ hf)
    cases f with
    | data => exact congrArg (_ :: ·) hrest
    | reliableData => exact congrArg (_ :: ·) hrest
    | _ => cases hf

theorem onFrames_keys {fs : List Frame} (h : ∀ f ∈ fs, isMessage f = true) (cid : ConnectionId)
    (k : SessionKeys) : fs.foldl (SessionKeys.onFrame cid) k = k := by
  induction fs with
  | nil => rfl
  | cons f fs ih =>
    have hf := h f List.mem_cons_self
    have hrest := ih fun f hf => h f (List.mem_cons_of_mem _ hf)
    cases f with
    | data => exact hrest
    | reliableData => exact hrest
    | _ => cases hf

omit [CryptoSuite] in
theorem isReliable_letterFrames (id : MessageId)
    (seqs : Std.ExtTreeMap OrderedGroupId UInt32 compare) (letters : List Letter) :
    ∀ f ∈ letterFrames id seqs letters, isReliable f = true := by
  induction letters generalizing id seqs with
  | nil => simp [letterFrames]
  | cons letter rest ih =>
    obtain ⟨_ | g, b⟩ := letter <;>
      exact List.forall_mem_cons.mpr ⟨rfl, ih _ _⟩

/-- **A datagram of messages** is heard. -/
theorem Listening.hears (hround : CryptoSuite.RoundTrips) {p : Protector} {cid : ConnectionId}
    {pn : Nat} {c : GtpConnection} (h : Listening p cid pn c) {hd : PacketHeader} {fs : List Frame}
    {dg : List UInt8} (hseal : Sealed p hd (payloadOf fs) dg) (hsendable : ∀ f ∈ fs, Sendable f)
    (hcid : hd.connectionId = cid) (hpn : hd.packetNumber.toNat = pn)
    (hmessages : ∀ f ∈ fs, isMessage f = true) (src : SocketAddr) (now : MonotonicTime)
    (ecn : UInt8) :
    c.arrivalsOf (.handleIncoming src dg now ecn) = arriving now fs ∧
      c.messagesOf (.handleIncoming src dg now ecn) =
        c.hot.toDeliveryState.handedOver (arriving now fs) ∧
      Listening p cid (pn + 1) (c.step (.handleIncoming src dg now ecn)) := by
  have hopen := h.opens hround hseal hcid hpn
  have hframes : readable (FrameIterator.collect (payloadOf fs)) = fs := by
    rw [collect_payloadOf hsendable, readable_map_ok, received_messages hmessages]
  have hclose : (readable (FrameIterator.collect (payloadOf fs))).any isClose = false := by
    rw [hframes, List.any_eq_false]
    intro f hf
    have hmessage := hmessages f hf
    cases f with
    | close => cases hmessage
    | _ => simp [isClose]
  have hstate := hopen.state_handle hclose src now ecn
  obtain ⟨hrec, hmsgs⟩ := handle_opened hopen src now ecn
  rw [hframes] at hrec
  obtain ⟨answers, -, hlink⟩ := hrec.link
  have hkeys : (c.step (.handleIncoming src dg now ecn)).hot.toSessionKeys =
      c.hot.toSessionKeys := by
    refine (congrArg Link.keys hlink).trans ((onFrames_keys hmessages _ _).trans ?_)
    rw [SessionKeys.tickRxKeyGrace, if_pos (by rw [h.noPrev]; rfl)]
  refine ⟨?_, ?_, ⟨?_, ?_, ?_, ?_, ?_⟩⟩
  · rw [arrivalsOf, hopen.openedFrames, hframes]
  · rw [hmsgs, hclose, hframes]
    exact (DeliveryState.onFrames_eq _ _ _).2
  · exact hstate.trans_ne h.state
  · exact (congrArg Link.connectionId hlink).trans h.connectionId
  · rw [hkeys]
    exact h.protector
  · rw [hkeys]
    exact h.noPrev
  · have hwin : (c.step (.handleIncoming src dg now ecn)).hot.replayWindow = _ := hrec.replayWindow
    have hold := h.largest
    rw [hwin]
    rcases c.hot.replayWindow.largestSeen_commit hd.packetNumber with heq | heq <;>
      rw [heq] <;> omega

/-- **What the datagrams carry arrives**, and the calls return what it hands over. -/
theorem Packets.heard (hround : CryptoSuite.RoundTrips) {p : Protector} {cid : ConnectionId}
    {pn : Nat} {fss : List (List Frame)} {dgs : List (List UInt8)} (h : Packets p cid pn fss dgs)
    (hmessages : ∀ fs ∈ fss, ∀ f ∈ fs, isMessage f = true) {c : GtpConnection}
    (hc : Listening p cid pn c) (src : SocketAddr) (now : MonotonicTime) :
    c.arrivals (dgs.map (.handleIncoming src · now 0)) = arriving now fss.flatten ∧
      c.returned (dgs.map (.handleIncoming src · now 0)) =
        c.hot.toDeliveryState.handedOver (arriving now fss.flatten) := by
  induction h generalizing c with
  | nil => exact ⟨rfl, rfl⟩
  | @cons pn fs rest dg dgs hd hseal hsendable hcid hpn hrest ih =>
    obtain ⟨harr, hmsgs, hnext⟩ := hc.hears hround hseal hsendable hcid hpn
      (hmessages fs List.mem_cons_self) src now 0
    obtain ⟨harr', hmsgs'⟩ := ih (fun fs hfs => hmessages fs (List.mem_cons_of_mem _ hfs)) hnext
    have hsplit : arriving now (fs :: rest).flatten =
        arriving now fs ++ arriving now rest.flatten := by
      rw [List.flatten_cons, arriving, List.map_append]
      rfl
    rw [List.map_cons, arrivals, returned, harr, harr', hmsgs, hmsgs', hsplit,
      DeliveryState.handedOver_append, step_delivery, harr]
    exact ⟨rfl, rfl⟩

theorem Packets.heard_each (hround : CryptoSuite.RoundTrips) {p : Protector} {cid : ConnectionId}
    {pn : Nat} {fs : List Frame} {dgs : List (List UInt8)}
    (h : Packets p cid pn (fs.map ([·])) dgs) (hmessages : ∀ f ∈ fs, isMessage f = true)
    {c : GtpConnection} (hc : Listening p cid pn c) (src : SocketAddr) (now : MonotonicTime) :
    c.arrivals (dgs.map (.handleIncoming src · now 0)) = arriving now fs ∧
      c.returned (dgs.map (.handleIncoming src · now 0)) =
        c.hot.toDeliveryState.handedOver (arriving now fs) := by
  have hflat : (fs.map ([·])).flatten = fs := by
    rw [← List.flatMap_def]
    exact List.flatMap_singleton' fs
  rw [← hflat]
  refine h.heard hround (fun gs hgs f hf => ?_) hc src now
  obtain ⟨g, hg, rfl⟩ := List.mem_map.mp hgs
  rw [List.mem_singleton.mp hf]
  exact hmessages g hg

end GtpConnection

end Gtp
