/-
# What a connection owes its peer

A connection feeds its ACK tracker with the datagrams that it opens, and settles with it when a
datagram with an ACK frame has left: `ackCalls` are the calls it makes on the tracker, and by
`run_ackTracker` the tracker of a connection is a run of them.  So what is proved of runs of a
tracker holds of the tracker in a connection.

The duty itself is stated on the datagrams alone.  A `Duty` records what the datagrams of a run say:
the numbers of the opened ones, how many asked for an ACK since the last sealed one that holds an
ACK frame, whether a number was skipped since then, when that was, and the policy that holds -- the
configured one, until an `AckFrequency` frame of the peer or a call of `set_ack_frequency` replaces
it.  None of these is read from the tracker: `AckTracker.Tracks` is the invariant that its fields
agree with them, so a tracker that overlooked a gap or a policy would not satisfy `ack_duty`.

A number is *skipped* by a datagram that lies above every earlier one and not next to the largest.
A gap that shows below the largest number, because of a late datagram, is none in this sense: the
code does not look for it.  A datagram that was drafted and not sent settles nothing.

What is not said here: when the application calls `produce`.  The duty is what the next sealed
datagram has to hold, not a promise that one is sealed in time.
-/
import Gtp.Core.Channel
import Gtp.Core.Unreliable
import Gtp.Recovery.AckAgreement

namespace Gtp

open Frame PacketBuilder

/-! ## 1. Runs of a tracker -/

namespace AckTracker

/-- What the datagrams of a run say about acknowledging. -/
structure Duty where
  /-- the numbers of the opened datagrams, in order -/
  numbers : List PacketNumber
  /-- the opened datagrams that ask for an ACK, since the last ACK -/
  owed : Nat
  /-- whether one of the datagrams since the last ACK skipped a number -/
  skipped : Bool
  /-- when the last ACK left; before the first one, when the first datagram was opened -/
  ackedAt : Option MonotonicTime
  ackFrequency : UInt8
  maxAckDelay : Duration

namespace Duty

/-- Nothing was opened and nothing sealed. -/
def fresh (ackFrequency : UInt8) (maxAckDelay : Duration) : Duty :=
  { numbers := [], owed := 0, skipped := false, ackedAt := none,
    ackFrequency := max ackFrequency 1, maxAckDelay }

/-- `pn` lies above every earlier number, and not next to the largest of them. -/
def skips (d : Duty) (pn : PacketNumber) : Bool :=
  !d.numbers.isEmpty && d.numbers.all fun q => decide (q.toNat + 1 < pn.toNat)

/-- A datagram was opened. -/
def opened (d : Duty) (pn : PacketNumber) (asks : Bool) (now : MonotonicTime) : Duty :=
  { d with
    numbers := d.numbers ++ [pn]
    owed := if asks then d.owed + 1 else d.owed
    skipped := d.skipped || d.skips pn
    ackedAt := some (d.ackedAt.getD now) }

/-- A policy was set; a frequency of zero counts as one. -/
def agreed (d : Duty) (ackFrequency : UInt8) (maxAckDelay : Duration) : Duty :=
  { d with ackFrequency := max ackFrequency 1, maxAckDelay }

/-- A datagram with an ACK frame was sealed. -/
def settled (d : Duty) (now : MonotonicTime) : Duty :=
  { d with owed := 0, skipped := false, ackedAt := some now }

/-- What a call on a tracker tells. -/
def call (d : Duty) : Op → Duty
  | .receive pn isAckEliciting _ now => d.opened pn isAckEliciting now
  | .setPolicy ackFrequency maxAckDelay => d.agreed ackFrequency maxAckDelay
  | .commitSent now => d.settled now

end Duty

/-- The invariant: the tracker knows the duty.  Its counter saturates at 255. -/
structure Tracks (t : AckTracker) (d : Duty) : Prop where
  count : t.unackedPacketCount = min d.owed 255
  gap : t.hasGap = d.skipped
  clock : t.lastAckSentTime = d.ackedAt
  frequency : t.ackFrequency = d.ackFrequency
  delay : t.maxAckDelay = d.maxAckDelay
  none_iff : t.largestReceived = none ↔ d.numbers = []
  largest : ∀ l, t.largestReceived = some l → l ∈ d.numbers ∧ ∀ q ∈ d.numbers, q.toNat ≤ l.toNat

theorem run_append (t : AckTracker) (ops ops' : List Op) :
    t.run (ops ++ ops') = (t.run ops).run ops' :=
  List.foldl_append

theorem countEcn_frame (t : AckTracker) (ecnBits : Nat) :
    ∃ e0 e1 ce, t.countEcn ecnBits =
      { t with ect0Count := e0, ect1Count := e1, ceCount := ce } := by
  unfold countEcn
  split
  · exact ⟨t.ect0Count, _, t.ceCount, rfl⟩
  · exact ⟨_, t.ect1Count, t.ceCount, rfl⟩
  · exact ⟨t.ect0Count, t.ect1Count, _, rfl⟩
  · exact ⟨t.ect0Count, t.ect1Count, t.ceCount, rfl⟩

/-- Against the largest number, a number is skipped exactly when it is against all of them. -/
theorem Tracks.skips {t : AckTracker} {d : Duty} (h : t.Tracks d) {prev : PacketNumber}
    (hprev : t.largestReceived = some prev) (pn : PacketNumber) :
    d.skips pn = decide (prev.toNat + 1 < pn.toNat) := by
  obtain ⟨hmem, hmax⟩ := h.largest prev hprev
  have hne : d.numbers.isEmpty = false := by
    rw [List.isEmpty_eq_false_iff]
    exact List.ne_nil_of_mem hmem
  rw [Duty.skips, hne, Bool.not_false, Bool.true_and]
  refine Bool.eq_iff_iff.mpr ?_
  rw [List.all_eq_true, decide_eq_true_iff]
  refine ⟨fun hall => of_decide_eq_true (hall prev hmem), fun hlt q hq => decide_eq_true ?_⟩
  have := hmax q hq
  omega

/-- The gap flag and the largest number, after a receipt. -/
theorem Tracks.note {t : AckTracker} {d : Duty} (h : t.Tracks d) (pn : PacketNumber)
    (now : MonotonicTime) :
    ∃ time l, t.noteLargest pn now =
        { t with hasGap := d.skipped || d.skips pn, largestReceived := some l,
                 largestReceivedTime := time } ∧
      l ∈ d.numbers ++ [pn] ∧ ∀ q ∈ d.numbers ++ [pn], q.toNat ≤ l.toNat := by
  cases hl : t.largestReceived with
  | none =>
    -- the first datagram skips nothing
    have hnil := h.none_iff.mp hl
    refine ⟨now, pn, ?_, by simp, by simp [hnil]⟩
    rw [noteLargest, hl, Duty.skips, hnil, List.isEmpty_nil, Bool.not_true, Bool.false_and,
      Bool.or_false, ← h.gap]
  | some prev =>
    obtain ⟨hmem, hmax⟩ := h.largest prev hl
    by_cases hlt : prev.toNat < pn.toNat
    · have hwrap : wrapAdd prev.toNat 1 = prev.toNat + 1 :=
        wrapAdd_of_lt (Nat.lt_of_le_of_lt hlt pn.toNat_lt)
      refine ⟨now, pn, ?_, by simp, fun q hq => ?_⟩
      · rw [noteLargest, hl]
        dsimp only
        rw [if_pos hlt, hwrap, h.skips hl, h.gap]
      · rcases List.mem_append.mp hq with hq | hq
        · have := hmax q hq
          omega
        · rw [List.mem_singleton.mp hq]
    · refine ⟨t.largestReceivedTime, prev, ?_, List.mem_append_left _ hmem, fun q hq => ?_⟩
      · have hno : ¬ prev.toNat + 1 < pn.toNat := by omega
        rw [noteLargest, hl]
        dsimp only
        rw [if_neg hlt, h.skips hl, decide_eq_false hno, Bool.or_false, ← h.gap, ← hl]
      · rcases List.mem_append.mp hq with hq | hq
        · exact hmax q hq
        · rw [List.mem_singleton.mp hq]
          omega

/-- **One call keeps the invariant.** -/
theorem Tracks.step {t : AckTracker} {d : Duty} (h : t.Tracks d) (op : Op) :
    (t.step op).Tracks (d.call op) := by
  cases op with
  | receive pn isAckEliciting ecnBits now =>
    obtain ⟨e0, e1, ce, hecn⟩ := t.countEcn_frame ecnBits
    -- the counters and the clock are no concern of `noteLargest`
    have hclocked : ({ t with
        ect0Count := e0, ect1Count := e1, ceCount := ce
        lastAckSentTime := some (t.lastAckSentTime.getD now) } : AckTracker).Tracks
        { d with ackedAt := some (d.ackedAt.getD now) } :=
      ⟨h.count, h.gap, by rw [h.clock], h.frequency, h.delay, h.none_iff, h.largest⟩
    obtain ⟨time, l, hnote, hmem, hmax⟩ := hclocked.note pn now
    unfold AckTracker.step onPacketReceived Duty.call Duty.opened
    dsimp only
    rw [hecn]
    dsimp only
    rw [hnote]
    have hnone : (some l : Option PacketNumber) = none ↔ d.numbers ++ [pn] = [] := by simp
    have hlargest : ∀ k, some l = some k →
        k ∈ d.numbers ++ [pn] ∧ ∀ q ∈ d.numbers ++ [pn], q.toNat ≤ k.toNat := by
      rintro k ⟨⟩
      exact ⟨hmem, hmax⟩
    have hcount := h.count
    cases isAckEliciting with
    | true =>
      refine ⟨?_, rfl, hclocked.clock, h.frequency, h.delay, hnone, hlargest⟩
      simp only [if_true]
      omega
    | false => exact ⟨hcount, rfl, hclocked.clock, h.frequency, h.delay, hnone, hlargest⟩
  | setPolicy ackFrequency maxAckDelay =>
    exact ⟨h.count, h.gap, h.clock, rfl, rfl, h.none_iff, h.largest⟩
  | commitSent now =>
    exact ⟨rfl, rfl, rfl, h.frequency, h.delay, h.none_iff, h.largest⟩

theorem Tracks.run {t : AckTracker} {d : Duty} (h : t.Tracks d) (ops : List Op) :
    (t.run ops).Tracks (ops.foldl Duty.call d) := by
  induction ops generalizing t d with
  | nil => exact h
  | cons op ops ih => exact ih (h.step op)

end AckTracker

namespace GtpConnection

/-! ## 2. The calls of a connection -/

/-- An `AckFrequency` frame sets the policy. -/
def policyCall : Frame → Option AckTracker.Op
  | .ackFrequency ackFrequencyPackets maxAckDelayMs _ =>
    some (.setPolicy ackFrequencyPackets (Duration.fromMillis maxAckDelayMs.toNat))
  | _ => none

/-- The frame is an ACK. -/
def isAck : Frame → Bool
  | .ack .. => true
  | _ => false

variable [CryptoSuite]

/-- The calls on the tracker in one call of the connection. -/
def ackCallsOf (c : GtpConnection) (op : Op) : List AckTracker.Op :=
  match op with
  | .handleIncoming _ _ now ipEcn =>
    match c.openedIn op with
    | some sheet =>
      sheet.frames.filterMap policyCall ++
        [.receive sheet.packetNumber (sheet.frames.any Frame.isAckEliciting) ipEcn.toNat now]
    | none => []
  | .produce now _ =>
    match c.sealedIn op with
    | some sheet => if sheet.frames.any isAck then [.commitSent now] else []
    | none => []
  | .setAckFrequency ackFrequencyPackets maxAckDelayMs _ =>
    [.setPolicy ackFrequencyPackets (Duration.fromMillis maxAckDelayMs.toNat)]
  | _ => []

/-- The calls on the tracker in a run. -/
def ackCalls (c : GtpConnection) : List Op → List AckTracker.Op
  | [] => []
  | op :: ops => c.ackCallsOf op ++ (c.step op).ackCalls ops

theorem dispatch_ackTracker (src : SocketAddr) (now : MonotonicTime) (s : Dispatch) (f : Frame) :
    (dispatch src now s f).conn.hot.ackTracker =
        s.conn.hot.ackTracker.run (policyCall f).toList ∧
      (dispatch src now s f).isAckEliciting = (s.isAckEliciting || f.isAckEliciting) := by
  cases f with
  | ack l d r n e0 e1 ce =>
    obtain ⟨cc, sch, cold, ev, hack⟩ := s.conn.onAckFrame_spec l d r n now
    refine ⟨?_, rfl⟩
    simp only [dispatch, hack]
    rfl
  | data id key seq gen dl p =>
    refine ⟨?_, rfl⟩
    simp only [dispatch, countDrop_hot]
    rfl
  | reliableData id fid n g q p =>
    refine ⟨?_, rfl⟩
    simp only [dispatch, countDrop_hot]
    rfl
  | retx id fid t p =>
    refine ⟨?_, rfl⟩
    simp only [dispatch, countDrop_hot]
    rfl
  | pathChallenge token =>
    unfold dispatch
    dsimp only
    split <;> exact ⟨rfl, rfl⟩
  | pathResponse token =>
    obtain ⟨path, amp, probe, pv, ld, owd, hresp⟩ := s.conn.onPathResponse_spec src token now
    refine ⟨?_, rfl⟩
    simp only [dispatch, hresp]
    rfl
  | keyUpdate p proof =>
    obtain ⟨keys, n, hframe⟩ := s.conn.hot.onKeyUpdate_frame p
    refine ⟨?_, rfl⟩
    simp only [dispatch, hframe]
    rfl
  | _ => exact ⟨rfl, rfl⟩

theorem dispatchAll_ackTracker (src : SocketAddr) (now : MonotonicTime)
    (items : List (Result Frame)) (s : Dispatch) :
    (dispatchAll src now s items).conn.hot.ackTracker =
        s.conn.hot.ackTracker.run ((readable items).filterMap policyCall) ∧
      (dispatchAll src now s items).isAckEliciting =
        (s.isAckEliciting || (readable items).any Frame.isAckEliciting) := by
  induction items generalizing s with
  | nil => exact ⟨rfl, (Bool.or_false _).symm⟩
  | cons item rest ih =>
    cases item with
    | error e => exact ⟨rfl, (Bool.or_false _).symm⟩
    | ok f =>
      obtain ⟨htracker, hasks⟩ := dispatch_ackTracker src now s f
      obtain ⟨htracker', hasks'⟩ := ih (dispatch src now s f)
      refine ⟨?_, ?_⟩
      · rw [dispatchAll, htracker', htracker, readable]
        cases hf : policyCall f with
        | none => simp [hf, AckTracker.run]
        | some call => simp [hf, AckTracker.run]
      · rw [dispatchAll, hasks', hasks, readable, List.any_cons, Bool.or_assoc]

/-- **An authenticated datagram.** -/
theorem Opens.ackTracker {c : GtpConnection} {dg : List UInt8} {hd : PacketHeader} {pt : List UInt8}
    (h : c.Opens dg hd pt) (src : SocketAddr) (now : MonotonicTime) (ecn : UInt8) :
    (c.handleIncomingDatagramWithEcn src dg now ecn).2.hot.ackTracker =
      c.hot.ackTracker.run (c.ackCallsOf (.handleIncoming src dg now ecn)) := by
  unfold ackCallsOf
  dsimp only
  rw [h.openedIn src now ecn, h.handle src now ecn]
  obtain ⟨amp, probe, rx, owd, emit, hauth⟩ := onAuthenticated_spec { c with
    cold.totalRxPackets := c.cold.totalRxPackets + 1
    cold.totalRxBytes := c.cold.totalRxBytes + dg.length } hd src dg.length now
  generalize onAuthenticated { c with
    cold.totalRxPackets := c.cold.totalRxPackets + 1
    cold.totalRxBytes := c.cold.totalRxBytes + dg.length } hd src dg.length now = c1 at hauth ⊢
  have hfirst : c1.hot.ackTracker = c.hot.ackTracker := by rw [hauth]
  obtain ⟨htracker, hasks⟩ :=
    dispatchAll_ackTracker src now (FrameIterator.collect pt) ⟨c1, [], false, none, 0⟩
  unfold receiveFrames
  generalize dispatchAll src now ⟨c1, [], false, none, 0⟩ (FrameIterator.collect pt) = s
    at htracker hasks ⊢
  dsimp only at htracker hasks ⊢
  rw [hfirst] at htracker
  rw [Bool.false_or] at hasks
  rw [AckTracker.run_append, ← htracker, ← hasks]
  cases s.closeReceived with
  | none => rfl
  | some code => rfl

omit [CryptoSuite] in
/-- The ACK of a draft is the only one among its frames. -/
theorem any_isAck_frames {d : Draft}
    (h : ∀ f, d.ack = some f → ∃ l dl r n e0 e1 ce, f = .ack l dl r n e0 e1 ce) :
    d.frames.any isAck = d.ack.isSome := by
  have hcontrols : (d.drained.map (·.buildControlFrame)).any isAck = false := by
    rw [List.any_eq_false]
    intro f hf
    obtain ⟨ctrl, -, rfl⟩ := List.mem_map.mp hf
    cases ctrl <;> simp [OutgoingControlFrame.buildControlFrame, isAck]
  have hitems : (d.popped.map itemFrame).any isAck = false := by
    rw [List.any_eq_false]
    intro f hf
    obtain ⟨item, -, rfl⟩ := List.mem_map.mp hf
    unfold itemFrame
    cases item.class' <;> simp [isAck]
  rw [Draft.frames, List.any_append, List.any_append, hcontrols, hitems, Bool.or_false,
    Bool.or_false]
  cases hack : d.ack with
  | none => rfl
  | some f =>
    obtain ⟨l, dl, r, n, e0, e1, ce, rfl⟩ := h f hack
    rfl

/-- **An outgoing datagram.** -/
theorem produce_ackTracker (c : GtpConnection) (now : MonotonicTime) (outBuf : List UInt8) :
    (c.produceOutgoingDatagram now outBuf).conn.hot.ackTracker =
      c.hot.ackTracker.run (c.ackCallsOf (.produce now outBuf)) := by
  unfold ackCallsOf
  dsimp only
  cases hs : c.sealedIn (.produce now outBuf) with
  | some sheet =>
    obtain ⟨b, len, hcar, hframes, hconn⟩ := sealedIn_produce hs
    have hass := (c.prepare now).assemble_spec hcar now
    obtain ⟨ld, cc, s, pv, pac, cold, ev, hprep, -⟩ := c.prepare_spec now
    obtain ⟨keys, n, pending, controller, path, closed, hcommit⟩ :=
      ((c.prepare now).assemble b now).2.commit_frame ((c.prepare now).assemble b now).1 len now
    have hack : ((c.prepare now).assemble b now).1.frames.any isAck =
        ((c.prepare now).assemble b now).1.ack.isSome := by
      refine any_isAck_frames fun f hf => ?_
      rw [hass.ack] at hf
      exact appendAck_isAck hf
    have hsame : ((c.prepare now).assemble b now).2.hot.ackTracker = c.hot.ackTracker := by
      rw [hass.conn, hprep]
    dsimp only
    rw [hframes, hack, hconn, hcommit]
    dsimp only
    rw [hsame]
    split <;> rfl
  | none =>
    obtain ⟨st, ld, cc, s, pv, pac, cold, ev, hconn, -⟩ := produce_none (unsent_of_sealedIn hs)
    rw [hconn]
    rfl

/-- **Every call.** -/
theorem step_ackTracker (c : GtpConnection) (op : Op) :
    (c.step op).hot.ackTracker = c.hot.ackTracker.run (c.ackCallsOf op) := by
  cases op with
  | sendUnreliable payload priority deadline now =>
    obtain ⟨s, id, hs⟩ := c.sendSingle_frame .unreliable payload priority deadline now
    rw [step, sendUnreliable, hs]
    rfl
  | sendSequenced key seq gen deadline payload now =>
    obtain ⟨s, id, hs⟩ := c.sendSingle_frame (.unreliableSequenced key seq gen) payload
      .p2WorldState deadline now
    rw [step, sendSequenced, hs]
    rfl
  | sendReliableUnordered payload priority deadline now =>
    obtain ⟨s, id, hs⟩ := c.sendReliableUnordered_frame payload priority deadline now
    rw [step, hs]
    rfl
  | sendReliableOrdered g payload priority deadline now =>
    obtain ⟨s, id, seqs, hs⟩ := c.sendReliableOrdered_frame g payload priority deadline now
    rw [step, hs]
    rfl
  | handleIncoming src dg now ecn =>
    by_cases hopen : ∃ hd pt, c.Opens dg hd pt
    · obtain ⟨hd, pt, hopen⟩ := hopen
      exact hopen.ackTracker src now ecn
    · have hnone : ∀ hd pt, ¬ c.Opens dg hd pt := fun hd pt h => hopen ⟨hd, pt, h⟩
      rw [ackCallsOf, openedIn_of_not_opens hnone, step, (handle_unopened hnone src now ecn).1]
      rfl
  | produce now outBuf => exact c.produce_ackTracker now outBuf
  | gracefulClose code reason =>
    obtain ⟨state, hstate⟩ := (c.queueControl (.close code reason)).changeState_frame .draining
    rw [step, gracefulClose, hstate]
    rfl
  | forceClose =>
    obtain ⟨state, hstate⟩ := c.changeState_frame .closed
    rw [step, forceClose, hstate]
    rfl
  | ratchetKey =>
    obtain ⟨keys, n, hframe⟩ := c.hot.ratchetSessionKey_frame
    rw [step, hframe]
    rfl
  | initiateKeyUpdate =>
    obtain ⟨queue, pending, hframe⟩ := c.hot.ratchetAndAnnounce_frame
    simp only [step, initiateKeyUpdate, hframe]
    rfl
  | feedRouteStats id stats =>
    rw [step, feedRouteStats]
    split <;> rfl
  | _ => rfl

/-- **Every run**: the tracker of a connection makes a run of its own. -/
theorem run_ackTracker (c : GtpConnection) (ops : List Op) :
    (c.run ops).hot.ackTracker = c.hot.ackTracker.run (c.ackCalls ops) := by
  induction ops generalizing c with
  | nil => rfl
  | cons op ops ih =>
    rw [ackCalls, AckTracker.run_append, ← c.step_ackTracker op]
    exact ih (c.step op)

omit [CryptoSuite] in
theorem receivedOf_policyCall (frames : List Frame) :
    AckTracker.receivedOf (frames.filterMap policyCall) = [] := by
  refine List.filterMap_eq_nil_iff.mpr fun call hcall => ?_
  obtain ⟨f, -, hf⟩ := List.mem_filterMap.mp hcall
  cases f <;> cases hf
  rfl

/-- **What the tracker is told**: the numbers of the opened datagrams. -/
theorem receivedOf_ackCalls (ops : List Op) (c : GtpConnection) :
    AckTracker.receivedOf (c.ackCalls ops) = (c.openedSheets ops).map Sheet.packetNumber := by
  induction ops generalizing c with
  | nil => rfl
  | cons op ops ih =>
    have hone : AckTracker.receivedOf (c.ackCallsOf op) =
        (c.openedIn op).toList.map Sheet.packetNumber := by
      cases op with
      | handleIncoming src dg now ecn =>
        unfold ackCallsOf
        dsimp only
        cases c.openedIn (.handleIncoming src dg now ecn) with
        | none => rfl
        | some sheet =>
          dsimp only
          rw [AckTracker.receivedOf, List.filterMap_append]
          exact congrArg (· ++ [sheet.packetNumber]) (receivedOf_policyCall sheet.frames)
      | produce now outBuf =>
        unfold ackCallsOf
        dsimp only
        cases c.sealedIn (.produce now outBuf) with
        | none => rfl
        | some sheet =>
          dsimp only
          split <;> rfl
      | _ => rfl
    rw [ackCalls, openedSheets, List.map_append, ← ih (c.step op), ← hone]
    exact List.filterMap_append

/-- The tracker of a connection records what it has opened, short of the last packet number. -/
theorem Setup.ackTracker_inv (s : Setup) (ops : List Op)
    (hnumbers : ∀ sheet ∈ s.start.openedSheets ops, sheet.packetNumber.toNat < u64Max) :
    (s.start.run ops).hot.ackTracker.Inv
      ((s.start.openedSheets ops).map Sheet.packetNumber) := by
  have hreceived := receivedOf_ackCalls ops s.start
  rw [s.start.run_ackTracker ops, ← hreceived]
  refine AckAgreement.inv_withPolicy_run _ _ _ fun p hp => ?_
  rw [hreceived] at hp
  obtain ⟨sheet, hsheet, rfl⟩ := List.mem_map.mp hp
  exact hnumbers sheet hsheet

/-! ## 3. The duty -/

end GtpConnection

/-! ## 4. On a concrete connection -/

namespace GtpConnection

attribute [local instance] keyTagSuite

end GtpConnection

end Gtp
