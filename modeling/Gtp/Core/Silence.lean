/-
# A connection that has not heard from its peer is silent

The limiter gives an unvalidated path three times the bytes that were authenticated from it.  But a
datagram that is authenticated from the active path also validates it, in the same call, and so does
the answer to a challenge from a new one; any other address is credited in a slot of its own that
gates nothing.  The budget is therefore never in use: it is zero, and then there is none.

`silent_until_heard` says what this comes to over whole runs.  Before the first such datagram
nothing is handed to the network, whatever the application sends and whatever arrives, and the
connection stays at the address it was made for.

* `Hears` is the call that ends the silence, read off the state before it and its datagram.
* `LimiterStep` is what a call may do to the limiter: leave it, or validate the path.  Every call
  has a lemma of this form (`handle_limiter`, `produce_limiter`), and `step_limiter` collects them.
* `Silent.step` is one call of a silent connection.

The connections of a client and of a server after the handshake are made with a validated path.  So
the theorem is about a connection that is not, and its condition says so.
-/
import Gtp.Core.Migration
import Gtp.Core.Burst
import Gtp.Core.Peers

namespace Gtp

open Frame

namespace AntiAmplificationLimiter

/-- Nothing was credited, and nothing validated. -/
structure Empty (a : AntiAmplificationLimiter) : Prop where
  validated : a.validated = false
  received : a.bytesReceived = 0

theorem Empty.canSend {a : AntiAmplificationLimiter} (h : a.Empty) {n : Nat} (hn : 0 < n) :
    a.canSend n = false := by
  have hsum : 0 < satAdd a.bytesSent n := by
    unfold satAdd
    have hmax : 0 < u64Max := by decide
    omega
  unfold AntiAmplificationLimiter.canSend
  rw [h.validated, h.received, Bool.false_or, decide_eq_false_iff_not]
  unfold satMul
  rw [Nat.zero_mul]
  omega

@[simp] theorem validated_onBytesSent (a : AntiAmplificationLimiter) (n : Nat) :
    (a.onBytesSent n).validated = a.validated := by
  unfold onBytesSent
  split <;> rfl

end AntiAmplificationLimiter

namespace GtpConnection

variable [CryptoSuite]

/-! ## 1. One call -/

/-- The call authenticates a datagram that validates the path: it came from the active path, or it
answers the challenge to another one. -/
inductive Hears (c : GtpConnection) : Op → Prop
  | active {dg : List UInt8} {now : MonotonicTime} {ecn : UInt8} {hd : PacketHeader}
      {pt : List UInt8} (h : c.Opens dg hd pt) :
    Hears c (.handleIncoming c.hot.activePath dg now ecn)
  | answer {src : SocketAddr} {dg : List UInt8} {now : MonotonicTime} {ecn : UInt8} {nonce : Bytes 8}
      (hmem : .pathResponse nonce ∈ c.openedFrames dg) (hans : c.AnsweredBy src nonce now) :
    Hears c (.handleIncoming src dg now ecn)

/-- What a call does to the limiter. -/
inductive LimiterStep (c : GtpConnection) (op : Op) (c' : GtpConnection) : Prop
  | kept (hlimiter : c'.hot.antiAmplification = c.hot.antiAmplification)
      (hpath : c'.hot.activePath = c.hot.activePath) (hout : c.datagramOf op = none)
  | sent (len : Nat) (hpos : 0 < len) (hsend : c.hot.antiAmplification.canSend len = true)
      (hlimiter : c'.hot.antiAmplification = c.hot.antiAmplification.onBytesSent len)
  | heard (h : c.Hears op) (hvalid : c'.hot.antiAmplification.validated = true)

omit [CryptoSuite] in
/-- An address that is not the active path is credited elsewhere. -/
theorem onAuthenticated_elsewhere {c : GtpConnection} {src : SocketAddr}
    (h : src ≠ c.hot.activePath) (hd : PacketHeader) (len : Nat) (now : MonotonicTime) :
    (c.onAuthenticated hd src len now).hot.antiAmplification = c.hot.antiAmplification := by
  have hcredit : ∀ hot : ConnectionHot, src ≠ hot.activePath →
      (hot.creditPath src len).antiAmplification = hot.antiAmplification := by
    intro hot hne
    unfold ConnectionHot.creditPath
    rw [if_neg hne]
    split
    · split <;> rfl
    · rfl
  have hmain : (c.onAuthenticated hd src len now).hot.antiAmplification =
      (ConnectionHot.creditPath { c.hot with
        replayWindow := c.hot.replayWindow.commit hd.packetNumber } src len).antiAmplification := by
    unfold onAuthenticated emitOwd
    dsimp only
    split <;> rfl
  rw [hmain]
  exact hcredit _ h

omit [CryptoSuite] in
theorem onAuthenticated_active (c : GtpConnection) (hd : PacketHeader) (len : Nat)
    (now : MonotonicTime) :
    (c.onAuthenticated hd c.hot.activePath len now).hot.antiAmplification.validated = true := by
  have hcredit : ∀ hot : ConnectionHot,
      (hot.creditPath hot.activePath len).antiAmplification.validated = true := by
    intro hot
    unfold ConnectionHot.creditPath
    rw [if_pos rfl]
    rfl
  have hmain :
      (c.onAuthenticated hd c.hot.activePath len now).hot.antiAmplification =
      (ConnectionHot.creditPath { c.hot with
        replayWindow := c.hot.replayWindow.commit hd.packetNumber } c.hot.activePath
        len).antiAmplification := by
    unfold onAuthenticated emitOwd
    dsimp only
    split <;> rfl
  rw [hmain]
  exact hcredit _

/-- The frames of a datagram leave the limiter alone, or one of them answers the challenge and the
limiter is a validated one. -/
theorem receiveFrames_limiter (c : GtpConnection) (src : SocketAddr) (pn : PacketNumber)
    (payload : List UInt8) (now : MonotonicTime) (ecn : UInt8) :
    let c' := (c.receiveFrames src pn payload now ecn).2
    c'.hot.antiAmplification = c.hot.antiAmplification ∧ c'.hot.activePath = c.hot.activePath ∨
      c'.hot.antiAmplification.validated = true ∧
        ∃ nonce, .pathResponse nonce ∈ readable (FrameIterator.collect payload) ∧
          c.AnsweredBy src nonce now := by
  dsimp only
  have hend := c.receiveFrames_path src pn payload now ecn
  rcases dispatchAll_path src now (FrameIterator.collect payload) ⟨c, [], false, none, 0⟩ with
    hall | ⟨nonce, hmem, c2, c3, hbefore, hans, hmig, hafter⟩
  · have hkept := hall.trans hend
    exact Or.inl ⟨hkept.limiter, hkept.activePath⟩
  · obtain ⟨sentAt, hpend, hintime⟩ := hans
    have hlast := hafter.trans hend
    refine Or.inr ⟨?_, nonce, hmem, sentAt, hbefore.pending _ hpend, hintime⟩
    rw [hlast.limiter, hmig.limiter]
    rfl

/-- **An incoming datagram.** -/
theorem handle_limiter (c : GtpConnection) (src : SocketAddr) (dg : List UInt8)
    (now : MonotonicTime) (ecn : UInt8) :
    LimiterStep c (.handleIncoming src dg now ecn)
      (c.handleIncomingDatagramWithEcn src dg now ecn).2 := by
  by_cases hopen : ∃ hd pt, c.Opens dg hd pt
  · obtain ⟨hd, pt, hop⟩ := hopen
    rw [hop.handle src now ecn]
    obtain ⟨c0, hc0⟩ : ∃ c0 : GtpConnection, c0 = { c with
        cold.totalRxPackets := c.cold.totalRxPackets + 1
        cold.totalRxBytes := c.cold.totalRxBytes + dg.length } := ⟨_, rfl⟩
    rw [← hc0]
    have hhot0 : c0.hot = c.hot := by rw [hc0]
    have hactive := c0.onAuthenticated_active hd dg.length now
    have hother := fun h : src ≠ c0.hot.activePath =>
      onAuthenticated_elsewhere h hd dg.length now
    obtain ⟨amp, probe, rx, owd, emit, hauth⟩ := c0.onAuthenticated_spec hd src dg.length now
    rw [hhot0] at hauth hactive hother
    by_cases hsrc : src = c.hot.activePath
    · subst hsrc
      refine .heard (.active hop) ?_
      generalize c0.onAuthenticated hd c.hot.activePath dg.length now = c1 at hactive ⊢
      rcases c1.receiveFrames_limiter c.hot.activePath hd.packetNumber pt now ecn with
        ⟨hsame, -⟩ | ⟨hvalid, -⟩
      · rw [hsame]
        exact hactive
      · exact hvalid
    · have hlimiter := hother hsrc
      generalize c0.onAuthenticated hd src dg.length now = c1 at hauth hlimiter ⊢
      have hpath1 : c1.hot.activePath = c.hot.activePath := by rw [hauth]
      have hpend1 : c1.hot.pathValidator = c.hot.pathValidator := by rw [hauth]
      rcases c1.receiveFrames_limiter src hd.packetNumber pt now ecn with
        ⟨hsame, hpath⟩ | ⟨hvalid, nonce, hmem, sentAt, hpend, hintime⟩
      · exact .kept (hsame.trans hlimiter) (hpath.trans hpath1) rfl
      · have hopened : .pathResponse nonce ∈ c.openedFrames dg := by
          rw [hop.openedFrames]
          exact hmem
        refine .heard (.answer hopened ⟨sentAt, ?_, hintime⟩) hvalid
        rw [← hpend1]
        exact hpend
  · have hnone : ∀ hd pt, ¬ c.Opens dg hd pt := fun hd pt h => hopen ⟨hd, pt, h⟩
    have hhot := (handle_unopened hnone src now ecn).1
    exact .kept (by rw [hhot]) (by rw [hhot]) rfl

/-- **A call of `produce_outgoing_datagram`.** -/
theorem produce_limiter (c : GtpConnection) (now : MonotonicTime) (outBuf : List UInt8) :
    LimiterStep c (.produce now outBuf) (c.produceOutgoingDatagram now outBuf).conn := by
  obtain ⟨ld, cc, s, pv, pac, cold, ev, hprep, -⟩ := c.prepare_spec now
  have hexit := c.produce_exit now outBuf
  have hnone : ∀ r, (c.produceOutgoingDatagram now outBuf).result = r →
      (∀ dest len, r ≠ .ok (some (dest, len))) → c.datagramOf (.produce now outBuf) = none := by
    intro r hr hnot
    unfold datagramOf
    dsimp only
    rw [hr]
    match r, hnot with
    | .error _, _ => rfl
    | .ok none, _ => rfl
    | .ok (some (dest, len)), hnot => exact absurd rfl (hnot dest len)
  have hback : ∀ b, PacketBuilder.new outBuf (nextHeader (c.prepare now).hot now) = .ok b →
      (((c.prepare now).assemble b now).2.putBack
        ((c.prepare now).assemble b now).1 now).hot.antiAmplification = c.hot.antiAmplification ∧
      (((c.prepare now).assemble b now).2.putBack
        ((c.prepare now).assemble b now).1 now).hot.activePath = c.hot.activePath := by
    intro b hb
    have hass := (c.prepare now).assemble_spec (new_nextHeader hb).1 now
    obtain ⟨s3, n3, hput, -⟩ := putBack_spec ((c.prepare now).assemble b now).2
      ((c.prepare now).assemble b now).1 now
    rw [hput, hass.conn, hprep]
    exact ⟨rfl, rfl⟩
  generalize hp : c.produceOutgoingDatagram now outBuf = p at hexit hnone ⊢
  cases hexit with
  | closed h => exact .kept rfl rfl (hnone _ rfl nofun)
  | drained h => exact .kept rfl rfl (hnone _ rfl nofun)
  | idle h => exact .kept (by rw [hprep]) (by rw [hprep]) (hnone _ rfl nofun)
  | short h => exact .kept (by rw [hprep]) (by rw [hprep]) (hnone _ rfl nofun)
  | refused hb hseal => exact .kept (hback _ hb).1 (hback _ hb).2 (hnone _ rfl nofun)
  | limited hb hsend => exact .kept (hback _ hb).1 (hback _ hb).2 (hnone _ rfl nofun)
  | @sent b len buf hb hseal =>
    have hresult : (c.produceOutgoingDatagram now outBuf).result =
        .ok (some (((c.prepare now).assemble b now).1.overrideDest.getD
          ((c.prepare now).assemble b now).2.hot.activePath, len)) := by rw [hp]
    obtain ⟨b', hb', -, d, c2, hdc, -, hsend, -⟩ := produce_some hresult
    rw [hb] at hb'
    obtain rfl := Except.ok.inj hb'
    have hass := (c.prepare now).assemble_spec (new_nextHeader hb).1 now
    rw [hdc] at hass hseal ⊢
    dsimp only at hass hseal ⊢
    have hlimiter : c2.hot.antiAmplification = c.hot.antiAmplification := by
      rw [hass.conn, hprep]
    obtain ⟨hd, -, -, hlen, -⟩ := sealDraft_spec hass.carries (by rw [hass.conn]; rfl)
      (by rw [hass.conn]; rfl) hseal
    obtain ⟨keys, n, pend, controller, path, closed, hcommit⟩ := commit_frame c2 d len now
    refine .sent len ?_ (hlimiter ▸ hsend) ?_
    · rw [hlen, minCommonHeaderLen]
      omega
    · rw [hcommit, hlimiter]

/-- **Every call.** -/
theorem step_limiter (c : GtpConnection) (op : Op) : LimiterStep c op (c.step op) := by
  cases op with
  | handleIncoming src dg now ecn => exact c.handle_limiter src dg now ecn
  | produce now outBuf => exact c.produce_limiter now outBuf
  | sendUnreliable payload priority deadline now =>
    obtain ⟨s, id, hs⟩ := c.sendSingle_frame .unreliable payload priority deadline now
    rw [step, sendUnreliable, hs]
    exact .kept rfl rfl rfl
  | sendSequenced key seq gen deadline payload now =>
    obtain ⟨s, id, hs⟩ := c.sendSingle_frame (.unreliableSequenced key seq gen) payload
      .p2WorldState deadline now
    rw [step, sendSequenced, hs]
    exact .kept rfl rfl rfl
  | sendReliableUnordered payload priority deadline now =>
    obtain ⟨s, id, hs⟩ := c.sendReliableUnordered_frame payload priority deadline now
    rw [step, hs]
    exact .kept rfl rfl rfl
  | sendReliableOrdered g payload priority deadline now =>
    obtain ⟨s, id, seqs, hs⟩ := c.sendReliableOrdered_frame g payload priority deadline now
    rw [step, hs]
    exact .kept rfl rfl rfl
  | gracefulClose code reason =>
    obtain ⟨state, hstate⟩ := (c.queueControl (.close code reason)).changeState_frame .draining
    refine .kept ?_ ?_ rfl <;> rw [step, gracefulClose, hstate] <;> rfl
  | forceClose =>
    obtain ⟨state, hstate⟩ := c.changeState_frame .closed
    refine .kept ?_ ?_ rfl <;> rw [step, forceClose, hstate]
  | ratchetKey =>
    obtain ⟨keys, n, hframe⟩ := c.hot.ratchetSessionKey_frame
    rw [step, hframe]
    exact .kept rfl rfl rfl
  | initiateKeyUpdate =>
    cases hgrace : c.hot.graceOpen with
    | true => refine .kept ?_ ?_ rfl <;>
        simp [step, initiateKeyUpdate, ConnectionHot.ratchetAndAnnounce, hgrace]
    | false => refine .kept ?_ ?_ rfl <;>
        simp [step, initiateKeyUpdate, ConnectionHot.ratchetAndAnnounce, hgrace]
  | feedRouteStats id stats =>
    rw [step, feedRouteStats]
    split <;> exact .kept rfl rfl rfl
  | _ => exact .kept rfl rfl rfl

/-! ## 2. Runs -/

/-- The path is validated. -/
def Validated (c : GtpConnection) : Prop := c.hot.antiAmplification.validated = true

/-- What is validated stays so. -/
theorem Validated.step {c : GtpConnection} (h : c.Validated) (op : Op) : (c.step op).Validated := by
  unfold Validated at *
  cases c.step_limiter op with
  | kept hlimiter => rw [hlimiter, h]
  | sent len hpos hsend hlimiter =>
    rw [hlimiter, AntiAmplificationLimiter.validated_onBytesSent, h]
  | heard hhears hvalid => exact hvalid

theorem Validated.run {c : GtpConnection} (h : c.Validated) (ops : List Op) :
    (c.run ops).Validated :=
  List.foldlRecOn ops GtpConnection.step h fun _ h op _ => h.step op

omit [CryptoSuite] in
/-- Nothing was credited, and the connection is where it was made for. -/
structure Silent (c : GtpConnection) (addr : SocketAddr) : Prop where
  limiter : c.hot.antiAmplification.Empty
  path : c.hot.activePath = addr

/-- **One call** leaves the connection silent, unless the peer is heard. -/
theorem Silent.step {c : GtpConnection} {addr : SocketAddr} (h : c.Silent addr) (op : Op) :
    (c.step op).Silent addr ∧ c.datagramOf op = none ∨ c.Hears op ∧ (c.step op).Validated := by
  cases c.step_limiter op with
  | kept hlimiter hpath hout =>
    exact Or.inl ⟨⟨hlimiter ▸ h.limiter, hpath.trans h.path⟩, hout⟩
  | sent len hpos hsend hlimiter =>
    rw [h.limiter.canSend hpos] at hsend
    cases hsend
  | heard hhears hvalid => exact Or.inr ⟨hhears, hvalid⟩

/-- A run is silent, or it is up to a call that hears the peer. -/
theorem Silent.run {c : GtpConnection} {addr : SocketAddr} (h : c.Silent addr) (ops : List Op) :
    ((c.run ops).Silent addr ∧ c.handedOut ops = []) ∨
      ∃ before op after, ops = before ++ op :: after ∧ (c.run before).Silent addr ∧
        c.handedOut before = [] ∧ (c.run before).Hears op ∧
        ((c.run before).step op).Validated := by
  induction ops generalizing c with
  | nil => exact Or.inl ⟨h, rfl⟩
  | cons op ops ih =>
    rcases h.step op with ⟨hstep, hout⟩ | ⟨hhears, hvalid⟩
    · have hquiet : ∀ before, (c.step op).handedOut before = [] →
          c.handedOut (op :: before) = [] := by
        intro before hbefore
        rw [handedOut, hout, hbefore]
        rfl
      rcases ih hstep with ⟨hsilent, hrest⟩ | ⟨before, op', after, rfl, hsilent, hrest, hhears⟩
      · exact Or.inl ⟨hsilent, hquiet ops hrest⟩
      · exact Or.inr ⟨op :: before, op', after, rfl, hsilent, hquiet before hrest, hhears⟩
    · exact Or.inr ⟨[], op, ops, rfl, h, rfl, hhears, hvalid⟩

omit [CryptoSuite] in
theorem Setup.start_silent (s : Setup) (h : s.preValidated = false) : s.start.Silent s.peerAddr := by
  obtain ⟨cid, peerAddr, keys, asClient, preValidated, hotConfig, config⟩ := s
  cases h
  exact ⟨⟨rfl, rfl⟩, rfl⟩

/-- **A connection is silent until it hears from its peer.** Take any run of a connection whose path
is not validated in advance.  Either nothing was handed to the network in the whole run, no byte was
credited and the connection is at the address it was made for; or this holds up to a call that
authenticates a datagram from that address, or the answer to a challenge that cannot have been seen,
and from that call on the path is validated. -/
theorem silent_until_heard (s : Setup) (hfresh : s.preValidated = false) (ops : List Op) :
    ((s.start.run ops).Silent s.peerAddr ∧ s.start.handedOut ops = []) ∨
      ∃ before op after, ops = before ++ op :: after ∧
        (s.start.run before).Silent s.peerAddr ∧ s.start.handedOut before = [] ∧
        (s.start.run before).Hears op ∧
        ∀ mid rest, after = mid ++ rest → (s.start.run (before ++ op :: mid)).Validated := by
  rcases (s.start_silent hfresh).run ops with
    hsilent | ⟨before, op, after, rfl, hsilent, hquiet, hhears, hvalid⟩
  · exact Or.inl hsilent
  · refine Or.inr ⟨before, op, after, rfl, hsilent, hquiet, hhears, ?_⟩
    intro mid rest hmid
    have hrun : s.start.run (before ++ op :: mid) = ((s.start.run before).step op).run mid := by
      rw [GtpConnection.run, List.foldl_append]
      rfl
    rw [hrun]
    exact hvalid.run mid

end GtpConnection

/-! ## 3. On a concrete connection -/

namespace GtpConnection

attribute [local instance] keyTagSuite

/-- A server that has not validated the address of its client. -/
def unvalidated : Setup := { Net.sampleSession.setup false with preValidated := false }

/-- It is to send a ping; then a ping of the client arrives. -/
def pinged : List Op :=
  [.sendPing 1, .produce 10 (List.replicate 100 0)] ++
    ((Net.sampleSession.setup true).start.handedOut
      [.sendPing 2, .produce 10 (List.replicate 100 0)]).map
        (.handleIncoming unvalidated.peerAddr · 10 0) ++
    [.produce 10 (List.replicate 100 0)]

/-- The ping of the server leaves after the client has been heard. -/
theorem silent_until_heard_pinged : unvalidated.start.handedOut (pinged.take 2) = [] ∧
    (unvalidated.start.handedOut pinged).length = 1 ∧
    ∃ before op after, pinged = before ++ op :: after ∧
      (unvalidated.start.run before).Silent unvalidated.peerAddr ∧
      unvalidated.start.handedOut before = [] ∧ (unvalidated.start.run before).Hears op ∧
      ∀ mid rest, after = mid ++ rest → (unvalidated.start.run (before ++ op :: mid)).Validated := by
  have hlen : (unvalidated.start.handedOut pinged).length = 1 := by decide +kernel
  refine ⟨by decide +kernel, hlen, ?_⟩
  rcases silent_until_heard unvalidated rfl pinged with ⟨-, hnone⟩ | hheard
  · rw [hnone] at hlen
    cases hlen
  · exact hheard

end GtpConnection

end Gtp
