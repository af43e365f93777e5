/-
# Two peers and the network between them

The two ends of a session, each an engine of its own, and the datagrams on their way to each.  The
network delivers in any order, duplicates and loses; the ends make any calls but the unannounced
ratchet.  `Agreement` is what keeps the session alive: whatever one end seals now, the other holds
the key for, or an announcement that brings it there is on its way.

The announcement is a control frame, sent once.  So agreement is a matter of what happens to that
one datagram, and `Meets` lists what may not: it is lost, or arrives where it has no effect (a
closed end, a number the replay window no longer admits, a grace window still open), or the ratchet
fires without it; and the end that is ahead may not retire the old receive key while the other
still seals with it.  In every run that avoids these, agreement holds in every state.

* The invariant is `Sound`: an `Endpoint` for each end, and a `Direction` for each way, which says
  that a sender that is a phase ahead has its announcement under way.
* The three kinds of events have a lemma each (`Sound.call`, `Sound.deliver`, `Sound.lose`), and
  receiving and transmitting are seen from both directions.
* Phases must not mix: `PhasesSeparate` is what the cipher has to give, and `sealed_opens` what is
  made of it.

Packet numbers and phases stay small because runs are shorter than 2^64.  What the messages in the
datagrams are plays no role here; that they arrive is not promised, only that they could be opened.
-/
import Gtp.Core.KeyUpdate

namespace Gtp

open Frame

/-! ## 1. The system -/

/-- The two ends, the client at `true`, and the datagrams on their way to each. -/
structure Net where
  peer : Bool → GtpConnection
  inFlight : Bool → List (List UInt8)

namespace GtpConnection

/-- A call of the application or the runtime that is neither a delivery nor an unannounced
ratchet. -/
def Op.isLocal : Op → Bool
  | .handleIncoming .. => false
  | .ratchetKey => false
  | _ => true

end GtpConnection

namespace Net

/-- What can happen.  `deliver x i` hands the `i`-th datagram under way to `x`; with `again` a copy
stays on the wire. -/
inductive Event where
  | call (x : Bool) (op : GtpConnection.Op) (hop : op.isLocal = true)
  | deliver (x : Bool) (i : Nat) (again : Bool) (src : SocketAddr) (now : MonotonicTime)
      (ecn : UInt8)
  | lose (x : Bool) (i : Nat)

/-- The wire to `x` once the `i`-th datagram is off it. -/
def wireAfter (n : Net) (x : Bool) (i : Nat) (again : Bool) : List (List UInt8) :=
  if again then n.inFlight x else (n.inFlight x).eraseIdx i

variable [CryptoSuite]

/-- One event.  A datagram that an end hands out is under way to the other. -/
def step (n : Net) : Event → Net
  | .call x op _ =>
    { peer := Function.update n.peer x ((n.peer x).step op)
      inFlight := Function.update n.inFlight (!x)
        (n.inFlight (!x) ++ ((n.peer x).datagramOf op).toList.map Prod.snd) }
  | .deliver x i again src now ecn =>
    match (n.inFlight x)[i]? with
    | none => n
    | some dg =>
      { peer := Function.update n.peer x ((n.peer x).step (.handleIncoming src dg now ecn))
        inFlight := Function.update n.inFlight x (n.wireAfter x i again) }
  | .lose x i =>
    { n with inFlight := Function.update n.inFlight x (n.wireAfter x i false) }

omit [CryptoSuite] in
/-- What a session starts from: one connection id and one set of directional keys. -/
structure Session where
  cid : ConnectionId
  keys : DirectionalKeys
  peerAddr : Bool → SocketAddr
  preValidated : Bool → Bool
  hotConfig : Bool → GtpConfig
  config : Bool → GtpConfig

namespace Session

omit [CryptoSuite] in
/-- The setup of one end. -/
def setup (s : Session) (x : Bool) : GtpConnection.Setup :=
  ⟨s.cid, s.peerAddr x, s.keys, x, s.preValidated x, s.hotConfig x, s.config x⟩

omit [CryptoSuite] in
/-- The key and IV that the end `x` seals with at first. -/
def base (s : Session) (x : Bool) : Bytes 32 × Bytes 12 := (s.keys.forRole x).1

omit [CryptoSuite] in
/-- The fresh session. -/
def start (s : Session) : Net := ⟨fun x => (s.setup x).start, fun _ => []⟩

end Session

/-! ## 2. Statement -/

/-- The datagram brings the receiver `r`, whose replay window is `w`, to the key `target`: it is
sealed with the key `r` receives with, its number has not been seen, and it announces a newer
phase, of which `target` is the key. -/
def Brings (r : Link) (w : ReplayWindow) (target : Protector) (dg : List UInt8) :
    Prop :=
  ∃ hd pt q proof, Sealed r.keys.rxProtector hd pt dg ∧ hd.connectionId = r.connectionId ∧
    w.check hd.packetNumber = .ok () ∧
    .keyUpdate q proof ∈ readable (FrameIterator.collect pt) ∧ r.keys.keyPhaseCounter < q.toNat ∧
    (r.keys.advance r.connectionId).rxProtector = target

/-- A datagram among these brings the end `x` to the key that the other seals with. -/
def Awaited (n : Net) (x : Bool) (w : ReplayWindow) (wire : List (List UInt8)) : Prop :=
  ∃ dg ∈ wire, Brings (n.peer x).hot.link w (n.peer (!x)).hot.txProtector dg

/-- What either end seals now, the other has the key for: its receive key, the one it still
retains, or the one that an announcement on its way brings it to. -/
def Agreement (n : Net) : Prop :=
  ∀ x, (n.peer x).hot.rxProtector = (n.peer (!x)).hot.txProtector ∨
    (n.peer x).hot.rxProtectorPrev = some (n.peer (!x)).hot.txProtector ∨
    n.Awaited x (n.peer x).hot.replayWindow (n.inFlight x)

omit [CryptoSuite] in
/-- The end `x` has ratcheted less often than the other. -/
def Behind (n : Net) (x : Bool) : Prop :=
  (n.peer x).hot.keyPhaseCounter < (n.peer (!x)).hot.keyPhaseCounter

/-- The replay window once the datagram has been processed. -/
def WindowAfter (c : GtpConnection) (dg : List UInt8) (w : ReplayWindow) : Prop :=
  (w = c.hot.replayWindow ∧ ∀ hd pt, ¬ c.Opens dg hd pt) ∨
    ∃ hd pt, c.Opens dg hd pt ∧ w = c.hot.replayWindow.commit hd.packetNumber

/-- What the events of a run have to respect. -/
def Meets (n : Net) : Event → Prop
  | .call x (.produce now outBuf) _ =>
    -- the deferred ratchet fires: the datagram carries its announcement where it can be read
    (n.peer x).hot.pendingRatchet = true → (n.peer x).hot.graceOpen = false →
      ∃ pre post, (n.peer x).drainable now outBuf.length =
          pre ++ .keyUpdate ((n.peer x).hot.keyPhaseCounter + 1) :: post ∧
        ∀ id pad, OutgoingControlFrame.mtuProbe id pad ∉ pre
  | .call .. => True
  | .deliver x i again _ _ _ => ∀ dg, (n.inFlight x)[i]? = some dg →
    -- an end that is behind follows the announcement, or one it can still follow stays on the wire
    (n.Behind x → ¬ (n.peer x).Ratchets dg → ∀ w, WindowAfter (n.peer x) dg w →
      n.Awaited x w (n.wireAfter x i again)) ∧
    -- an end that is ahead keeps the old receive key
    (n.Behind (!x) → ∀ hd pt, (n.peer x).Opens dg hd pt → 1 < (n.peer x).hot.rxPrevGracePackets)
  | .lose x i => n.Behind x →
    n.Awaited x (n.peer x).hot.replayWindow (n.wireAfter x i false)

/-- What is sealed in one phase of a chain does not open in another.  Phases are 64-bit numbers. -/
def PhasesSeparate (base : Bytes 32 × Bytes 12) (cid : ConnectionId) : Prop :=
  ∀ i j, i < 2 ^ 64 → j < 2 ^ 64 → i ≠ j → ∀ pn aad pt ct tag,
    CryptoSuite.encrypt (keyChain base cid i).1 ((protectorAt base cid i).deriveNonce cid pn) aad pt
      = some (ct, tag) →
    CryptoSuite.decrypt (keyChain base cid j).1 ((protectorAt base cid j).deriveNonce cid pn) aad ct
      tag.toList = none

/-! ## 3. What opens -/

/-- **Phases do not mix**: what was sealed in phase `i` opens in phase `i` only, to what was
sealed. -/
theorem sealed_opens {base : Bytes 32 × Bytes 12} {cid : ConnectionId}
    (hround : CryptoSuite.RoundTrips) (hsep : PhasesSeparate base cid) {i j : Nat}
    (hi : i < 2 ^ 64) (hj : j < 2 ^ 64) {hd : PacketHeader} {pt pt' dg : List UInt8}
    (hseal : Sealed (protectorAt base cid i) hd pt dg) (hcid : hd.connectionId = cid)
    (hopen : (protectorAt base cid j).openPayload hd.packetNumber hd.connectionId
      (dg.take minCommonHeaderLen) (dg.drop minCommonHeaderLen)
      (dg.drop minCommonHeaderLen).length = .ok pt') : i = j ∧ pt = pt' := by
  by_cases hij : i = j
  · subst hij
    rw [hseal.openPayload hround] at hopen
    exact ⟨rfl, Except.ok.inj hopen⟩
  · obtain ⟨ct, tag, henc, hdrop, -⟩ := hseal.drop
    have htag : tag.toList.length = aeadTagLen := tag.toList_length
    have htotal : (ct ++ tag.toList).length = ct.length + aeadTagLen := by
      rw [List.length_append, htag]
    have hbind : (protectorAt base cid j).checkBinding hd.connectionId = .ok () := by
      rw [hcid]
      exact if_neg (not_not.mpr rfl)
    rw [hcid] at henc
    have hnone := hsep i j hi hj hij _ _ _ _ _ henc
    rw [GtpAeadProtector.openPayload, hbind, hseal.take, hdrop] at hopen
    simp only [htotal, Nat.add_sub_cancel] at hopen
    rw [if_neg (by omega), List.take_left, List.drop_left, List.take_of_length_le htag.le,
      hcid] at hopen
    have hkey : (protectorAt base cid j).key = (keyChain base cid j).1 := rfl
    rw [hkey, hnone] at hopen
    cases hopen

/-! ## 4. The invariant -/

/-- A datagram that `s` has sent: sealed in a phase that `s` has been in, under a number it has
used, announcing nothing beyond the phase that followed. -/
def Sent (base : Bytes 32 × Bytes 12) (cid : ConnectionId) (s : Link) (dg : List UInt8) : Prop :=
  ∃ phase hd pt, Sealed (protectorAt base cid phase) hd pt dg ∧ hd.connectionId = cid ∧
    hd.packetNumber.toNat < s.nextPacketNumber.toNat ∧ phase ≤ s.keys.keyPhaseCounter ∧
    ∀ q proof, .keyUpdate q proof ∈ readable (FrameIterator.collect pt) →
      q.toNat ≤ phase + 1 ∧ (q.toNat = phase + 1 → phase < s.keys.keyPhaseCounter)

/-- One end after `t` events: its keys are on the chains, its numbers small, and an announcement of
the next phase is queued only while the ratchet is still to come. -/
structure Endpoint (tx rx : Bytes 32 × Bytes 12) (cid : ConnectionId) (t : Nat) (l : Link) :
    Prop where
  connectionId : l.connectionId = cid
  keys : OnChain tx rx cid l.keys
  counter : l.keys.keyPhaseCounter ≤ t
  packetNumber : l.nextPacketNumber.toNat ≤ t + 1
  queue : ∀ p, .keyUpdate p ∈ l.controlQueue → p ≤ l.keys.keyPhaseCounter + 1 ∧
    (p = l.keys.keyPhaseCounter + 1 → l.pendingRatchet = true ∧ l.keys.graceOpen = false)

/-- One direction, from `s` to `r`: what is under way was sent, no number is ahead of the sender's,
and a sender that is a phase ahead retains the old receive key and has its announcement under
way. -/
structure Direction (base : Bytes 32 × Bytes 12) (cid : ConnectionId) (s r : Link)
    (w : ReplayWindow) (wire : List (List UInt8)) : Prop where
  sent : ∀ dg ∈ wire, Sent base cid s dg
  window : w.largestSeen < s.nextPacketNumber.toNat
  gap : s.keys.keyPhaseCounter ≤ r.keys.keyPhaseCounter + 1
  ahead : r.keys.keyPhaseCounter < s.keys.keyPhaseCounter →
    s.keys.graceOpen = true ∧ ∃ dg ∈ wire, Brings r w s.keys.txProtector dg

/-- The invariant after `t` events. -/
def Sound (s : Session) (t : Nat) (n : Net) : Prop :=
  ∀ x, Endpoint (s.base x) (s.base (!x)) s.cid t (n.peer x).hot.link ∧
    Direction (s.base x) s.cid (n.peer x).hot.link (n.peer (!x)).hot.link
      (n.peer (!x)).hot.replayWindow (n.inFlight (!x))

theorem sound_start (s : Session) : Sound s 0 s.start := by
  intro x
  have hkeyed := (s.setup x).start_keyed
  have hrx : (s.keys.forRole x).2 = s.base (!x) := by
    cases x <;> rfl
  rw [show (s.setup x).keys.forRole (s.setup x).asClient = s.keys.forRole x from rfl, hrx] at hkeyed
  refine ⟨⟨hkeyed.1, hkeyed.2, Nat.le_refl 0, Nat.le_refl 1, ?_⟩, ⟨?_, ?_, ?_, ?_⟩⟩
  · intro p hp
    cases hp
  · intro dg hdg
    cases hdg
  · exact Nat.one_pos
  · exact Nat.zero_le _
  · intro hlt
    exact absurd hlt (Nat.lt_irrefl 0)

theorem Sound.agreement {s : Session} {t : Nat} {n : Net} (h : Sound s t n) : n.Agreement := by
  intro x
  obtain ⟨hx, hxy⟩ := h x
  obtain ⟨hy, hyx⟩ := h (!x)
  rw [Bool.not_not] at hy hyx
  have hrx : (n.peer x).hot.rxProtector = _ := hx.keys.rxProtector
  have htx : (n.peer (!x)).hot.txProtector = _ := hy.keys.txProtector
  have hgap := hxy.gap
  rcases Nat.lt_trichotomy (n.peer x).hot.keyPhaseCounter (n.peer (!x)).hot.keyPhaseCounter with
    hlt | heq | hgt
  · -- the other is ahead: its announcement is under way
    exact Or.inr (Or.inr (hyx.ahead hlt).2)
  · left
    rw [hrx, htx]
    exact congrArg _ heq
  · -- this end is ahead: it retains the key the other still seals with
    right
    left
    have hgrace := (hxy.ahead hgt).1
    obtain ⟨prev, hprev⟩ := Option.isSome_iff_exists.mp (Bool.and_eq_true_iff.mp hgrace).1
    obtain ⟨phase, hphase, rfl⟩ := hx.keys.previous prev hprev
    have hcounter : (n.peer (!x)).hot.keyPhaseCounter = phase := by
      have hx' : (n.peer x).hot.keyPhaseCounter = phase + 1 := hphase
      have hle : (n.peer x).hot.keyPhaseCounter ≤ (n.peer (!x)).hot.keyPhaseCounter + 1 := hgap
      omega
    rw [htx]
    refine hprev.trans ?_
    rw [← hcounter]
    rfl

/-! ## 5. Announcements in a datagram -/

omit [CryptoSuite] in
/-- What the peer reads of a draft. -/
theorem readable_collect {fs : List Frame} (h : ∀ f ∈ fs, Sendable f) :
    readable (FrameIterator.collect (payloadOf fs)) = received fs := by
  rw [collect_payloadOf h, readable_map_ok]

omit [CryptoSuite] in
theorem keyUpdate_of_received {fs : List Frame} {q : UInt64} {proof : Bytes 32}
    (h : .keyUpdate q proof ∈ received fs) : .keyUpdate q proof ∈ fs := by
  induction fs with
  | nil => exact h
  | cons f fs ih =>
    cases f with
    | mtuProbe id pad => cases List.mem_singleton.mp h
    | _ =>
      rcases List.mem_cons.mp h with h | h
      · first
          | exact h ▸ List.mem_cons_self
          | cases h
      · exact List.mem_cons_of_mem _ (ih h)

omit [CryptoSuite] in
/-- A frame is read when no probe stands ahead of it. -/
theorem received_of_clear {pre post : List Frame} {q : UInt64} {proof : Bytes 32}
    (h : ∀ id pad, .mtuProbe id pad ∉ pre) :
    .keyUpdate q proof ∈ received (pre ++ .keyUpdate q proof :: post) := by
  induction pre with
  | nil => exact List.mem_cons_self
  | cons f pre ih =>
    have hrest := ih fun id pad hm => h id pad (List.mem_cons_of_mem _ hm)
    cases f with
    | mtuProbe id pad => exact absurd List.mem_cons_self (h id pad)
    | _ => exact List.mem_cons_of_mem _ hrest

omit [CryptoSuite] in
theorem itemFrame_ne_keyUpdate (item : SchedulableItem) (q : UInt64) (proof : Bytes 32) :
    GtpConnection.itemFrame item ≠ .keyUpdate q proof := by
  unfold GtpConnection.itemFrame
  split <;> exact Frame.noConfusion

section Transmitting

variable {c c' : GtpConnection} {now : MonotonicTime} {len : Nat} {d : GtpConnection.Draft}
  {hd : PacketHeader} {dg : List UInt8}

/-- The announcements of a transmitted datagram are those of its control frames. -/
theorem keyUpdate_of_transmitted (htrans : c.Transmitted now len d hd dg c') {q : UInt64}
    {proof : Bytes 32}
    (h : .keyUpdate q proof ∈ readable (FrameIterator.collect (payloadOf d.frames))) :
    ∃ p, .keyUpdate p ∈ d.drained ∧ q = UInt64.ofNat p := by
  rw [readable_collect htrans.sendable] at h
  have hmem := keyUpdate_of_received h
  rcases List.mem_append.mp hmem with hmem | hmem
  · rcases List.mem_append.mp hmem with hmem | hmem
    · obtain ⟨l, dl, r, m, e0, e1, ce, hack⟩ := htrans.ack _ (Option.mem_toList.mp hmem)
      cases hack
    · obtain ⟨ctrl, hctrl, heq⟩ := List.mem_map.mp hmem
      cases ctrl with
      | keyUpdate p => exact ⟨p, hctrl, (Frame.keyUpdate.inj heq).1.symm⟩
      | _ => cases heq
  · obtain ⟨item, -, heq⟩ := List.mem_map.mp hmem
    exact absurd heq (itemFrame_ne_keyUpdate item q proof)

/-- An announcement with no probe ahead of it can be read. -/
theorem readable_of_clear (htrans : c.Transmitted now len d hd dg c')
    {pre post : List OutgoingControlFrame} {p : Nat}
    (hsplit : d.drained = pre ++ .keyUpdate p :: post)
    (hclear : ∀ id pad, OutgoingControlFrame.mtuProbe id pad ∉ pre) :
    .keyUpdate (UInt64.ofNat p) (List.Vector.replicate 32 0) ∈
      readable (FrameIterator.collect (payloadOf d.frames)) := by
  have hframes : d.frames = (d.ack.toList ++ pre.map (·.buildControlFrame)) ++
      .keyUpdate (UInt64.ofNat p) (List.Vector.replicate 32 0) ::
        (post.map (·.buildControlFrame) ++ d.popped.map GtpConnection.itemFrame) := by
    rw [GtpConnection.Draft.frames, hsplit]
    simp [OutgoingControlFrame.buildControlFrame]
  rw [readable_collect htrans.sendable, hframes]
  refine received_of_clear fun id pad hmem => ?_
  rcases List.mem_append.mp hmem with hmem | hmem
  · obtain ⟨l, dl, r, m, e0, e1, ce, hack⟩ := htrans.ack _ (Option.mem_toList.mp hmem)
    cases hack
  · obtain ⟨ctrl, hctrl, heq⟩ := List.mem_map.mp hmem
    cases ctrl with
    | mtuProbe id' pad' => exact hclear id' pad' hctrl
    | _ => cases heq

end Transmitting

/-! ## 6. What the steps keep -/

section Links

variable {base tx rx : Bytes 32 × Bytes 12} {cid : ConnectionId} {t : Nat} {l l' s s' r r' : Link}
  {w w' : ReplayWindow} {wire wire' : List (List UInt8)}

theorem Endpoint.succ (h : Endpoint tx rx cid t l) : Endpoint tx rx cid (t + 1) l :=
  ⟨h.connectionId, h.keys, Nat.le_succ_of_le h.counter, Nat.le_succ_of_le h.packetNumber, h.queue⟩

/-- More counted, more numbers used: what was sent stays sent. -/
theorem Sent.mono {dg : List UInt8} (h : Sent base cid s dg)
    (hpn : s.nextPacketNumber.toNat ≤ s'.nextPacketNumber.toNat)
    (hcounter : s.keys.keyPhaseCounter ≤ s'.keys.keyPhaseCounter) : Sent base cid s' dg := by
  obtain ⟨phase, hd, pt, hseal, hcid, hnum, hphase, hkey⟩ := h
  refine ⟨phase, hd, pt, hseal, hcid, Nat.lt_of_lt_of_le hnum hpn, hphase.trans hcounter, ?_⟩
  intro q proof hq
  obtain ⟨hle, hnext⟩ := hkey q proof hq
  exact ⟨hle, fun heq => Nat.lt_of_lt_of_le (hnext heq) hcounter⟩

/-- Only these of the receiver's values decide what brings it up. -/
theorem Brings.congr {target : Protector} {dg : List UInt8} (h : Brings r w target dg)
    (hrx : r'.keys.rxProtector = r.keys.rxProtector) (hcid : r'.connectionId = r.connectionId)
    (hcounter : r'.keys.keyPhaseCounter = r.keys.keyPhaseCounter)
    (hnext : (r'.keys.advance r'.connectionId).rxProtector =
      (r.keys.advance r.connectionId).rxProtector) : Brings r' w target dg := by
  obtain ⟨hd, pt, q, proof, hseal, hhd, hcheck, hq, hlt, htarget⟩ := h
  exact ⟨hd, pt, q, proof, hrx ▸ hseal, hhd.trans hcid.symm, hcheck, hq, hcounter ▸ hlt,
    hnext.trans htarget⟩

/-- A direction in which neither the keys nor the sender's number moved. -/
theorem Direction.of_same (h : Direction base cid s r w wire) (hkeys : s'.keys = s.keys)
    (hpn : s'.nextPacketNumber = s.nextPacketNumber) (hrkeys : r'.keys = r.keys)
    (hrcid : r'.connectionId = r.connectionId) : Direction base cid s' r' w wire := by
  refine ⟨fun dg hdg => (h.sent dg hdg).mono (by rw [hpn]) (by rw [hkeys]), by rw [hpn]; exact h.window,
    by rw [hkeys, hrkeys]; exact h.gap, fun hlt => ?_⟩
  rw [hkeys, hrkeys] at hlt
  obtain ⟨hgrace, dg, hdg, hbrings⟩ := h.ahead hlt
  rw [hkeys]
  exact ⟨hgrace, dg, hdg, hbrings.congr (by rw [hrkeys]) hrcid (by rw [hrkeys])
    (by rw [hrkeys, hrcid])⟩

/-- The receiver has moved up a phase: nobody waits for an announcement any more. -/
theorem Direction.receiver_advanced (h : Direction base cid s r w wire)
    (hr : r'.keys.keyPhaseCounter = r.keys.keyPhaseCounter + 1)
    (hsub : ∀ dg ∈ wire', dg ∈ wire) (hw : w'.largestSeen < s.nextPacketNumber.toNat) :
    Direction base cid s r' w' wire' := by
  have hgap := h.gap
  refine ⟨fun dg hdg => h.sent dg (hsub dg hdg), hw, by omega, fun hlt => ?_⟩
  omega

theorem Direction.sender_caughtUp (h : Direction base cid s r w wire)
    (hs : s'.keys.keyPhaseCounter = s.keys.keyPhaseCounter + 1)
    (hpn : s.nextPacketNumber.toNat ≤ s'.nextPacketNumber.toNat)
    (hlt : s.keys.keyPhaseCounter < r.keys.keyPhaseCounter) : Direction base cid s' r w wire := by
  refine ⟨fun dg hdg => (h.sent dg hdg).mono hpn (by omega), Nat.lt_of_lt_of_le h.window hpn,
    by omega, fun hlt' => ?_⟩
  omega

/-- The keys after the deferred ratchet had its chance. -/
theorem flushed_keys (k : SessionKeys) (cid : ConnectionId) (pending : Bool) :
    (if pending then k.ratchet cid else k) =
      if pending = true ∧ k.graceOpen = false then k.advance cid else k := by
  cases pending <;> cases hgrace : k.graceOpen <;> simp [SessionKeys.ratchet, hgrace]

omit [CryptoSuite] in
theorem next_toNat {pn : PacketNumber} {t : Nat} (hpn : pn.toNat ≤ t + 1) (ht : t < 2 ^ 64 - 2) :
    (PacketNumber.next pn).toNat = pn.toNat + 1 := by
  simp only [PacketNumber.next, UInt64.toNat_add, UInt64.toNat_one]
  omega

variable {c c' : GtpConnection} {now : MonotonicTime} {len : Nat} {d : GtpConnection.Draft}
  {hd : PacketHeader} {dg : List UInt8}

theorem Endpoint.advanced (h : Endpoint tx rx cid t l) :
    OnChain tx rx cid (l.keys.advance l.connectionId) := by
  rw [h.connectionId]
  exact h.keys.advance

theorem Endpoint.announced (h : Endpoint tx rx cid t c.hot.link) {p : Nat}
    (hp : .keyUpdate p ∈ c.hot.controlQueue) : p ≤ c.hot.keyPhaseCounter + 1 ∧
      (p = c.hot.keyPhaseCounter + 1 →
        c.hot.pendingRatchet = true ∧ c.hot.graceOpen = false) :=
  h.queue p hp

/-- **Transmitting**, at the sender. -/
theorem Endpoint.transmitted (h : Endpoint tx rx cid t c.hot.link) (ht : t < 2 ^ 64 - 2)
    (htrans : c.Transmitted now len d hd dg c') : Endpoint tx rx cid (t + 1) c'.hot.link := by
  obtain ⟨queue, hqueue, hlink⟩ := htrans.rest
  rw [flushed_keys] at hlink
  have hnext := next_toNat h.packetNumber ht
  have hpn : c.hot.nextPacketNumber.toNat ≤ t + 1 := h.packetNumber
  have hcounter : c.hot.keyPhaseCounter ≤ t := h.counter
  rw [hlink]
  split
  · refine ⟨h.connectionId, h.advanced, Nat.succ_le_succ hcounter,
      hnext.le.trans (Nat.succ_le_succ hpn), ?_⟩
    intro p hp
    obtain ⟨hle, -⟩ := h.announced (by rw [hqueue]; exact List.mem_append_right _ hp)
    refine ⟨Nat.le_succ_of_le hle, fun heq => ?_⟩
    exact absurd heq (Nat.ne_of_lt (Nat.lt_succ_of_le hle))
  · rename_i hkeep
    refine ⟨h.connectionId, h.keys, Nat.le_succ_of_le hcounter,
      hnext.le.trans (Nat.succ_le_succ hpn), ?_⟩
    intro p hp
    obtain ⟨hle, hnew⟩ := h.announced (by rw [hqueue]; exact List.mem_append_right _ hp)
    exact ⟨hle, fun heq => absurd (hnew heq) hkeep⟩

/-- **Transmitting**, as the receiver of the other direction: ratcheting can only close the gap. -/
theorem Direction.transmitted_receiver (h : Direction base cid s c.hot.link w wire)
    (htrans : c.Transmitted now len d hd dg c') : Direction base cid s c'.hot.link w wire := by
  obtain ⟨queue, hqueue, hlink⟩ := htrans.rest
  rw [flushed_keys] at hlink
  rw [hlink]
  split
  · exact h.receiver_advanced rfl (fun _ hdg => hdg) h.window
  · exact h.of_same rfl rfl rfl rfl

theorem sent_transmitted (hs : Endpoint tx rx cid t c.hot.link) (ht : t < 2 ^ 64 - 2)
    (htrans : c.Transmitted now len d hd dg c') : Sent tx cid c'.hot.link dg := by
  obtain ⟨queue, hqueue, hlink⟩ := htrans.rest
  rw [flushed_keys] at hlink
  have hnext := next_toNat hs.packetNumber ht
  have hcounter : c.hot.keyPhaseCounter ≤ t := hs.counter
  have hseal := htrans.sealing
  have htx : c.hot.txProtector = protectorAt tx cid c.hot.keyPhaseCounter := hs.keys.txProtector
  rw [htx] at hseal
  refine ⟨c.hot.keyPhaseCounter, hd, _, hseal, htrans.connectionId.trans hs.connectionId, ?_, ?_,
    ?_⟩
  · rw [hlink, htrans.packetNumber]
    exact Nat.lt_of_lt_of_eq (Nat.lt_succ_self _) hnext.symm
  · rw [hlink]
    dsimp only
    split
    · exact Nat.le_succ _
    · exact Nat.le_refl _
  · intro q proof hq
    obtain ⟨p, hp, rfl⟩ := keyUpdate_of_transmitted htrans hq
    obtain ⟨hle, hnew⟩ := hs.announced (by rw [hqueue]; exact List.mem_append_left _ hp)
    rw [toNat_ofNat_u64 (by omega)]
    refine ⟨hle, fun heq => ?_⟩
    rw [hlink]
    dsimp only
    rw [if_pos (hnew heq)]
    exact Nat.lt_succ_self _

/-- **Transmitting**, as the sender: when the ratchet fires, the datagram brings the peer along. -/
theorem Direction.transmitted_sender (hs : Endpoint tx rx cid t c.hot.link)
    (hr : Endpoint rx tx cid t r) (h : Direction tx cid c.hot.link r w wire) (ht : t < 2 ^ 64 - 2)
    (htrans : c.Transmitted now len d hd dg c')
    (hannounce : c.hot.pendingRatchet = true → c.hot.graceOpen = false →
      ∃ pre post, d.drained = pre ++ .keyUpdate (c.hot.keyPhaseCounter + 1) :: post ∧
        ∀ id pad, OutgoingControlFrame.mtuProbe id pad ∉ pre) :
    Direction tx cid c'.hot.link r w (wire ++ [dg]) := by
  have hnew := sent_transmitted hs ht htrans
  obtain ⟨queue, hqueue, hlink⟩ := htrans.rest
  rw [flushed_keys] at hlink
  have hnext := next_toNat hs.packetNumber ht
  have hcounter : c.hot.keyPhaseCounter ≤ t := hs.counter
  have hgap : c.hot.keyPhaseCounter ≤ r.keys.keyPhaseCounter + 1 := h.gap
  have hpn : c.hot.nextPacketNumber.toNat ≤ c'.hot.link.nextPacketNumber.toNat := by
    rw [hlink]
    exact Nat.le_of_lt (Nat.lt_of_lt_of_eq (Nat.lt_succ_self _) hnext.symm)
  have hmono : c.hot.keyPhaseCounter ≤ c'.hot.link.keys.keyPhaseCounter := by
    rw [hlink]
    dsimp only
    split
    · exact Nat.le_succ _
    · exact Nat.le_refl _
  have hsent : ∀ dg' ∈ wire ++ [dg], Sent tx cid c'.hot.link dg' := by
    intro dg' hdg'
    rcases List.mem_append.mp hdg' with hdg' | hdg'
    · exact (h.sent dg' hdg').mono hpn hmono
    · rw [List.mem_singleton.mp hdg']
      exact hnew
  refine ⟨hsent, Nat.lt_of_lt_of_le h.window hpn, ?_, ?_⟩
  all_goals
    rw [hlink]
    dsimp only
  · split
    · rename_i hfire
      -- an end that is ahead has its grace window open, so it does not ratchet again
      have hle : ¬ r.keys.keyPhaseCounter < c.hot.keyPhaseCounter := fun hlt => by
        have hopen : c.hot.graceOpen = true := (h.ahead hlt).1
        rw [hfire.2] at hopen
        cases hopen
      exact Nat.succ_le_succ (Nat.le_of_not_lt hle)
    · exact hgap
  · split
    · rename_i hfire
      intro hlt
      have hlt' : r.keys.keyPhaseCounter < c.hot.keyPhaseCounter + 1 := hlt
      have heq : r.keys.keyPhaseCounter = c.hot.keyPhaseCounter := by
        by_contra hne
        have hopen : c.hot.graceOpen = true := (h.ahead (by
          show r.keys.keyPhaseCounter < c.hot.keyPhaseCounter
          omega)).1
        rw [hfire.2] at hopen
        cases hopen
      obtain ⟨pre, post, hsplit, hclear⟩ := hannounce hfire.1 hfire.2
      refine ⟨rfl, dg, List.mem_append_right _ (List.mem_singleton_self dg), hd, _, _, _, ?_,
        ?_, ?_, readable_of_clear htrans hsplit hclear, ?_, ?_⟩
      · have htx : c.hot.txProtector = protectorAt tx cid c.hot.keyPhaseCounter :=
          hs.keys.txProtector
        rw [hr.keys.rxProtector, heq, ← htx]
        exact htrans.sealing
      · exact htrans.connectionId.trans (hs.connectionId.trans hr.connectionId.symm)
      · have hw : w.largestSeen < c.hot.nextPacketNumber.toNat := h.window
        rw [htrans.packetNumber, ReplayWindow.check]
        dsimp only
        rw [if_pos hw]
        split <;> rfl
      · rw [toNat_ofNat_u64 (by omega)]
        exact hlt'
      · refine hr.advanced.rxProtector.trans (Eq.trans ?_ hs.advanced.txProtector.symm)
        exact congrArg (fun phase => protectorAt tx cid (phase + 1)) heq
    · intro hlt
      obtain ⟨hgrace, dg', hdg', hbrings⟩ := h.ahead hlt
      exact ⟨hgrace, dg', List.mem_append_left _ hdg', hbrings⟩

omit [CryptoSuite] in
theorem tick_graceOpen_false {k : SessionKeys} (h : k.graceOpen = false) :
    k.tickRxKeyGrace.graceOpen = false := by
  unfold SessionKeys.tickRxKeyGrace
  split
  · exact h
  · rename_i hprev
    have hzero : k.rxPrevGracePackets = 0 := by
      by_contra hne
      have hsome : k.rxProtectorPrev.isSome = true := by
        simpa [Option.isSome_iff_ne_none] using hprev
      have hopen : k.graceOpen = true := by simp [SessionKeys.graceOpen, hsome, Nat.pos_of_ne_zero hne]
      rw [hopen] at h
      cases h
    simp [SessionKeys.graceOpen, hzero]

omit [CryptoSuite] in
theorem tick_graceOpen_true {k : SessionKeys} (h : k.graceOpen = true)
    (hgrace : 1 < k.rxPrevGracePackets) : k.tickRxKeyGrace.graceOpen = true := by
  have hsome := (Bool.and_eq_true_iff.mp h).1
  have hleft : k.rxPrevGracePackets - 1 ≠ 0 := Nat.sub_ne_zero_of_lt hgrace
  unfold SessionKeys.tickRxKeyGrace
  rw [if_neg (by simpa [Option.isSome_iff_ne_none] using hsome)]
  simp [SessionKeys.graceOpen, hleft, hsome, Nat.pos_of_ne_zero hleft]

theorem tick_advance (k : SessionKeys) (cid : ConnectionId) :
    k.tickRxKeyGrace.advance cid = k.advance cid := by
  unfold SessionKeys.tickRxKeyGrace
  split <;> rfl

variable {pt : List UInt8}

/-- **Opening what the peer sent**: it was sealed in the receiver's phase or the one before, and a
newer announcement in it means that the sender is ahead. -/
theorem opens_sent (hround : CryptoSuite.RoundTrips) (hsep : PhasesSeparate base cid)
    (hc : Endpoint tx base cid t c.hot.link) (hs : s.keys.keyPhaseCounter ≤ t)
    (ht : t < 2 ^ 64 - 2) (hsent : Sent base cid s dg) (hopen : c.Opens dg hd pt) :
    hd.packetNumber.toNat < s.nextPacketNumber.toNat ∧
      ∀ q proof, .keyUpdate q proof ∈ readable (FrameIterator.collect pt) →
        c.hot.keyPhaseCounter < q.toNat → c.hot.keyPhaseCounter < s.keys.keyPhaseCounter := by
  obtain ⟨phase, hd', pt', hseal, hcid, hnum, hphase, hkey⟩ := hsent
  obtain ⟨-, m, hadm, hdec⟩ := hopen
  obtain ⟨hheader, -, -⟩ := ConnectionHot.admitHeader_ok hadm
  rw [hseal.decode] at hheader
  obtain ⟨rfl, rfl⟩ := Prod.mk.inj (Except.ok.inj hheader)
  obtain ⟨p, hp, hpay⟩ := ConnectionHot.openDatagram_ok hdec
  have hcounter : c.hot.keyPhaseCounter ≤ t := hc.counter
  obtain ⟨j, hj, rfl⟩ : ∃ j, (c.hot.keyPhaseCounter = j ∨ c.hot.keyPhaseCounter = j + 1) ∧
      p = protectorAt base cid j := by
    rcases hp with rfl | hp
    · exact ⟨_, Or.inl rfl, hc.keys.rxProtector⟩
    · obtain ⟨j, hj, rfl⟩ := hc.keys.previous p hp
      exact ⟨j, Or.inr hj, rfl⟩
  obtain ⟨rfl, rfl⟩ := sealed_opens hround hsep (by omega) (by omega) hseal hcid hpay
  refine ⟨hnum, fun q proof hq hnewer => ?_⟩
  obtain ⟨hle, hnext⟩ := hkey q proof hq
  have hsame : c.hot.keyPhaseCounter = phase := by omega
  rw [hsame]
  exact hnext (by omega)

/-- **Receiving**, at the receiver. -/
theorem Endpoint.received (h : Endpoint tx rx cid t c.hot.link) (hopen : c.Opens dg hd pt)
    (hrec : c.Received hd (readable (FrameIterator.collect pt)) now c') :
    Endpoint tx rx cid (t + 1) c'.hot.link := by
  obtain ⟨answers, hans, hlink⟩ := hrec.link
  have hcounter : c.hot.keyPhaseCounter ≤ t := h.counter
  have hqueued : ∀ p, .keyUpdate p ∈ c.hot.controlQueue ++ answers →
      .keyUpdate p ∈ c.hot.controlQueue := by
    intro p hp
    rcases List.mem_append.mp hp with hp | hp
    · exact hp
    · cases hans _ hp
  by_cases hrat : c.Ratchets dg
  · rw [GtpConnection.received_keys_ratchets hopen hrat, tick_advance] at hlink
    rw [hlink]
    refine ⟨h.connectionId, h.advanced, Nat.succ_le_succ hcounter,
      Nat.le_succ_of_le h.packetNumber, ?_⟩
    intro p hp
    obtain ⟨hle, -⟩ := h.announced (hqueued p hp)
    refine ⟨Nat.le_succ_of_le hle, fun heq => ?_⟩
    exact absurd heq (Nat.ne_of_lt (Nat.lt_succ_of_le hle))
  · rw [GtpConnection.received_keys hopen hrat] at hlink
    rw [hlink]
    refine ⟨h.connectionId, h.keys.tick, ?_, Nat.le_succ_of_le h.packetNumber, ?_⟩
    · dsimp only
      rw [GtpConnection.tickRxKeyGrace_counter]
      exact Nat.le_succ_of_le hcounter
    · intro p hp
      obtain ⟨hle, hnew⟩ := h.announced (hqueued p hp)
      dsimp only
      rw [GtpConnection.tickRxKeyGrace_counter]
      exact ⟨hle, fun heq => ⟨(hnew heq).1, tick_graceOpen_false (hnew heq).2⟩⟩

/-- **Receiving**, in the direction received from. -/
theorem Direction.received_receiver (hround : CryptoSuite.RoundTrips)
    (hsep : PhasesSeparate base cid) (hc : Endpoint tx base cid t c.hot.link)
    (hs : s.keys.keyPhaseCounter ≤ t) (ht : t < 2 ^ 64 - 2)
    (h : Direction base cid s c.hot.link c.hot.replayWindow wire) (hdg : dg ∈ wire)
    (hopen : c.Opens dg hd pt)
    (hrec : c.Received hd (readable (FrameIterator.collect pt)) now c')
    (hsub : ∀ x ∈ wire', x ∈ wire)
    (hwait : c.hot.keyPhaseCounter < s.keys.keyPhaseCounter → ¬ c.Ratchets dg →
      ∃ x ∈ wire', Brings c.hot.link (c.hot.replayWindow.commit hd.packetNumber)
        s.keys.txProtector x) :
    Direction base cid s c'.hot.link c'.hot.replayWindow wire' := by
  obtain ⟨hnum, -⟩ := opens_sent hround hsep hc hs ht (h.sent dg hdg) hopen
  have hwin : c'.hot.replayWindow.largestSeen < s.nextPacketNumber.toNat := by
    rw [hrec.replayWindow]
    rcases ReplayWindow.largestSeen_commit c.hot.replayWindow hd.packetNumber with heq | heq
    · rw [heq]
      exact h.window
    · rw [heq]
      exact hnum
  obtain ⟨answers, -, hlink⟩ := hrec.link
  by_cases hrat : c.Ratchets dg
  · rw [GtpConnection.received_keys_ratchets hopen hrat, tick_advance] at hlink
    rw [hlink]
    exact h.receiver_advanced rfl hsub hwin
  · rw [GtpConnection.received_keys hopen hrat] at hlink
    have hcounter : c'.hot.link.keys.keyPhaseCounter = c.hot.keyPhaseCounter := by
      rw [hlink]
      exact GtpConnection.tickRxKeyGrace_counter _
    have hrx : c'.hot.link.keys.rxProtector = c.hot.link.keys.rxProtector := by
      rw [hlink]
      dsimp only
      unfold SessionKeys.tickRxKeyGrace
      split <;> rfl
    have hcid : c'.hot.link.connectionId = c.hot.link.connectionId := by rw [hlink]
    have hnext : (c'.hot.link.keys.advance c'.hot.link.connectionId).rxProtector =
        (c.hot.link.keys.advance c.hot.link.connectionId).rxProtector := by
      rw [hcid, hlink]
      exact congrArg SessionKeys.rxProtector (tick_advance _ _)
    have hgap : s.keys.keyPhaseCounter ≤ c.hot.keyPhaseCounter + 1 := h.gap
    refine ⟨fun x hx => h.sent x (hsub x hx), hwin, by rw [hcounter]; exact hgap, fun hlt => ?_⟩
    rw [hcounter] at hlt
    obtain ⟨x, hx, hbrings⟩ := hwait hlt hrat
    rw [hrec.replayWindow]
    exact ⟨(h.ahead hlt).1, x, hx, hbrings.congr hrx hcid hcounter hnext⟩

/-- **Receiving**, in the other direction: an end that is ahead keeps its old receive key. -/
theorem Direction.received_sender (hround : CryptoSuite.RoundTrips)
    (hsep : PhasesSeparate base cid) (hc : Endpoint tx base cid t c.hot.link)
    (hr : r.keys.keyPhaseCounter ≤ t) (ht : t < 2 ^ 64 - 2) (hsent : Sent base cid r dg)
    (h : Direction tx cid c.hot.link r w wire) (hopen : c.Opens dg hd pt)
    (hrec : c.Received hd (readable (FrameIterator.collect pt)) now c')
    (hkeep : r.keys.keyPhaseCounter < c.hot.keyPhaseCounter → 1 < c.hot.rxPrevGracePackets) :
    Direction tx cid c'.hot.link r w wire := by
  obtain ⟨-, hnewer⟩ := opens_sent hround hsep hc hr ht hsent hopen
  obtain ⟨answers, -, hlink⟩ := hrec.link
  by_cases hrat : c.Ratchets dg
  · obtain ⟨-, hd', pt', hopen', q, proof, hq, hlt⟩ := id hrat
    obtain ⟨rfl, rfl⟩ := hopen.inj hopen'
    rw [GtpConnection.received_keys_ratchets hopen hrat, tick_advance] at hlink
    rw [hlink]
    exact h.sender_caughtUp rfl (Nat.le_refl _) (hnewer q proof hq hlt)
  · rw [GtpConnection.received_keys hopen hrat] at hlink
    have hcounter : c'.hot.link.keys.keyPhaseCounter = c.hot.keyPhaseCounter := by
      rw [hlink]
      exact GtpConnection.tickRxKeyGrace_counter _
    have htx : c'.hot.link.keys.txProtector = c.hot.link.keys.txProtector := by
      rw [hlink]
      dsimp only
      unfold SessionKeys.tickRxKeyGrace
      split <;> rfl
    have hpn : c'.hot.link.nextPacketNumber = c.hot.link.nextPacketNumber := by rw [hlink]
    refine ⟨fun x hx => (h.sent x hx).mono (by rw [hpn]) (by rw [hcounter]; exact Nat.le_refl _),
      by rw [hpn]; exact h.window, by rw [hcounter]; exact h.gap, fun hlt => ?_⟩
    rw [hcounter] at hlt
    obtain ⟨hgrace, hbrings⟩ := h.ahead hlt
    rw [htx]
    refine ⟨?_, hbrings⟩
    rw [hlink]
    exact tick_graceOpen_true hgrace (hkeep hlt)

end Links

/-! ## 7. Runs -/

theorem Sound.of_ends {s : Session} {t : Nat} {n : Net} (x : Bool)
    (hx : Endpoint (s.base x) (s.base (!x)) s.cid t (n.peer x).hot.link)
    (hy : Endpoint (s.base (!x)) (s.base x) s.cid t (n.peer (!x)).hot.link)
    (hxy : Direction (s.base x) s.cid (n.peer x).hot.link (n.peer (!x)).hot.link
      (n.peer (!x)).hot.replayWindow (n.inFlight (!x)))
    (hyx : Direction (s.base (!x)) s.cid (n.peer (!x)).hot.link (n.peer x).hot.link
      (n.peer x).hot.replayWindow (n.inFlight x)) : Sound s t n := by
  intro z
  rcases Bool.eq_or_eq_not z x with rfl | rfl
  · exact ⟨hx, hxy⟩
  · rw [Bool.not_not]
    exact ⟨hy, hyx⟩

theorem Sound.ends {s : Session} {t : Nat} {n : Net} (h : Sound s t n) (x : Bool) :
    Endpoint (s.base x) (s.base (!x)) s.cid t (n.peer x).hot.link ∧
    Endpoint (s.base (!x)) (s.base x) s.cid t (n.peer (!x)).hot.link ∧
    Direction (s.base x) s.cid (n.peer x).hot.link (n.peer (!x)).hot.link
      (n.peer (!x)).hot.replayWindow (n.inFlight (!x)) ∧
    Direction (s.base (!x)) s.cid (n.peer (!x)).hot.link (n.peer x).hot.link
      (n.peer x).hot.replayWindow (n.inFlight x) := by
  obtain ⟨hx, hxy⟩ := h x
  obtain ⟨hy, hyx⟩ := h (!x)
  rw [Bool.not_not] at hy hyx
  exact ⟨hx, hy, hxy, hyx⟩

/-- **A local call.** -/
theorem Sound.call {s : Session} {t : Nat} {n : Net} (h : Sound s t n) (ht : t < 2 ^ 64 - 2)
    (x : Bool) (op : GtpConnection.Op) (hop : op.isLocal = true) (he : n.Meets (.call x op hop)) :
    Sound s (t + 1) (n.step (.call x op hop)) := by
  obtain ⟨hx, hy, hxy, hyx⟩ := h.ends x
  have hne : (!x) ≠ x := Bool.not_ne_self x
  -- what has to be shown of the end that made the call, and of what it handed out
  have hgoal : ∀ c' wire', (n.peer x).step op = c' →
      n.inFlight (!x) ++ ((n.peer x).datagramOf op).toList.map Prod.snd = wire' →
      Endpoint (s.base x) (s.base (!x)) s.cid (t + 1) c'.hot.link →
      Direction (s.base x) s.cid c'.hot.link (n.peer (!x)).hot.link
        (n.peer (!x)).hot.replayWindow wire' →
      Direction (s.base (!x)) s.cid (n.peer (!x)).hot.link c'.hot.link c'.hot.replayWindow
        (n.inFlight x) → Sound s (t + 1) (n.step (.call x op hop)) := by
    rintro c' wire' rfl rfl hend hout hin
    refine .of_ends x ?_ ?_ ?_ ?_ <;>
      simp only [step, Function.update_self, Function.update_of_ne hne,
        Function.update_of_ne hne.symm]
    · exact hend
    · exact hy.succ
    · exact hout
    · exact hin
  cases (n.peer x).step_moves op with
  | quiet ctrls hq hctrls hlink _ hwin =>
    have hnone : (n.peer x).datagramOf op = none := by
      cases op <;> first | rfl | cases hq
    refine hgoal _ _ rfl rfl ?_ ?_ ?_
    · rw [hlink]
      refine ⟨hx.connectionId, hx.keys, Nat.le_succ_of_le hx.counter,
        Nat.le_succ_of_le hx.packetNumber, fun p hp => ?_⟩
      rcases List.mem_append.mp hp with hp | hp
      · exact hx.queue p hp
      · cases hctrls _ hp
    · rw [hnone, hlink, Option.toList_none, List.map_nil, List.append_nil]
      exact hxy.of_same rfl rfl rfl rfl
    · rw [hlink, hwin]
      exact hyx.of_same rfl rfl rfl rfl
  | silent hnone hlink _ hwin =>
    refine hgoal _ _ rfl rfl ?_ ?_ ?_
    · rw [hlink]
      exact hx.succ
    · rw [hnone, hlink, Option.toList_none, List.map_nil, List.append_nil]
      exact hxy
    · rw [hlink, hwin]
      exact hyx
  | transmitted hsome htrans =>
    refine hgoal _ _ rfl rfl (hx.transmitted ht htrans) ?_ ?_
    · rw [hsome]
      refine hxy.transmitted_sender hx hy ht htrans ?_
      rw [htrans.drained]
      exact he
    · rw [htrans.replayWindow]
      exact hyx.transmitted_receiver htrans
  | announced hlink _ hwin =>
    have hkeys : ((n.peer x).step .initiateKeyUpdate).hot.link.keys = (n.peer x).hot.link.keys := by
      rw [hlink]
      split <;> rfl
    have hpn : ((n.peer x).step .initiateKeyUpdate).hot.link.nextPacketNumber =
        (n.peer x).hot.link.nextPacketNumber := by
      rw [hlink]
      split <;> rfl
    have hcid : ((n.peer x).step .initiateKeyUpdate).hot.link.connectionId =
        (n.peer x).hot.link.connectionId := by
      rw [hlink]
      split <;> rfl
    refine hgoal _ _ rfl rfl ?_ ?_ ?_
    · rw [hlink]
      split
      · exact hx.succ
      · rename_i hgrace
        refine ⟨hx.connectionId, hx.keys, Nat.le_succ_of_le hx.counter,
          Nat.le_succ_of_le hx.packetNumber, fun p hp => ?_⟩
        have hle : p ≤ (n.peer x).hot.keyPhaseCounter + 1 := by
          rcases List.mem_append.mp hp with hp | hp
          · exact (hx.announced hp).1
          · rw [OutgoingControlFrame.keyUpdate.inj (List.mem_singleton.mp hp)]
        exact ⟨hle, fun _ => ⟨rfl, Bool.eq_false_iff.mpr hgrace⟩⟩
    · rw [show (n.peer x).datagramOf .initiateKeyUpdate = none from rfl, Option.toList_none,
        List.map_nil, List.append_nil]
      exact hxy.of_same hkeys hpn rfl rfl
    · rw [hwin]
      exact hyx.of_same rfl rfl hkeys hcid
  | ignored => cases hop
  | received => cases hop
  | ratcheted => cases hop

omit [CryptoSuite] in
theorem mem_of_wireAfter {n : Net} {x : Bool} {i : Nat} {again : Bool} {dg : List UInt8}
    (h : dg ∈ n.wireAfter x i again) : dg ∈ n.inFlight x := by
  unfold wireAfter at h
  split at h
  · exact h
  · exact List.mem_of_mem_eraseIdx h

/-- **A delivery.** -/
theorem Sound.deliver {s : Session} (hround : CryptoSuite.RoundTrips)
    (hsep : ∀ x, PhasesSeparate (s.base x) s.cid) {t : Nat} {n : Net} (h : Sound s t n)
    (ht : t < 2 ^ 64 - 2) (x : Bool) (i : Nat) (again : Bool) (src : SocketAddr)
    (now : MonotonicTime) (ecn : UInt8) (he : n.Meets (.deliver x i again src now ecn)) :
    Sound s (t + 1) (n.step (.deliver x i again src now ecn)) := by
  obtain ⟨hx, hy, hxy, hyx⟩ := h.ends x
  have hne : (!x) ≠ x := Bool.not_ne_self x
  cases hdg : (n.inFlight x)[i]? with
  | none =>
    have hsame : n.step (.deliver x i again src now ecn) = n := by
      simp only [step, hdg]
    rw [hsame]
    exact .of_ends x hx.succ hy.succ hxy hyx
  | some dg =>
    have hmem : dg ∈ n.inFlight x := List.mem_of_getElem? hdg
    obtain ⟨hwait, hkeep⟩ := he dg hdg
    have hgoal : ∀ c', (n.peer x).step (.handleIncoming src dg now ecn) = c' →
        Endpoint (s.base x) (s.base (!x)) s.cid (t + 1) c'.hot.link →
        Direction (s.base x) s.cid c'.hot.link (n.peer (!x)).hot.link
          (n.peer (!x)).hot.replayWindow (n.inFlight (!x)) →
        Direction (s.base (!x)) s.cid (n.peer (!x)).hot.link c'.hot.link c'.hot.replayWindow
          (n.wireAfter x i again) →
        Sound s (t + 1) (n.step (.deliver x i again src now ecn)) := by
      rintro c' rfl hend hout hin
      refine .of_ends x ?_ ?_ ?_ ?_ <;>
        simp only [step, hdg, Function.update_self, Function.update_of_ne hne]
      · exact hend
      · exact hy.succ
      · exact hout
      · exact hin
    cases (n.peer x).step_moves (.handleIncoming src dg now ecn) with
    | ignored hopen hhot =>
      refine hgoal _ rfl ?_ ?_ ?_ <;> rw [hhot]
      · exact hx.succ
      · exact hxy
      · refine ⟨fun y hy => hyx.sent y (mem_of_wireAfter hy), hyx.window, hyx.gap, fun hlt => ?_⟩
        have hnorat : ¬ (n.peer x).Ratchets dg := by
          rintro ⟨-, hd, pt, hop, -⟩
          exact hopen hd pt hop
        exact ⟨(hyx.ahead hlt).1, hwait hlt hnorat _ (Or.inl ⟨rfl, hopen⟩)⟩
    | received hopen hrec =>
      refine hgoal _ rfl (hx.received hopen hrec) ?_ ?_
      · refine hxy.received_sender hround (hsep (!x)) hx hy.counter ht (hyx.sent dg hmem) hopen hrec
          fun hlt => hkeep ?_ _ _ hopen
        rw [Behind, Bool.not_not]
        exact hlt
      · exact hyx.received_receiver hround (hsep (!x)) hx hy.counter ht hmem hopen hrec
          (fun y hy => mem_of_wireAfter hy)
          (fun hlt hnorat => hwait hlt hnorat _ (Or.inr ⟨_, _, hopen, rfl⟩))
    | quiet _ hq => cases hq

/-- **A loss.** -/
theorem Sound.lose {s : Session} {t : Nat} {n : Net} (h : Sound s t n) (x : Bool) (i : Nat)
    (he : n.Meets (.lose x i)) : Sound s (t + 1) (n.step (.lose x i)) := by
  obtain ⟨hx, hy, hxy, hyx⟩ := h.ends x
  have hne : (!x) ≠ x := Bool.not_ne_self x
  refine .of_ends x ?_ ?_ ?_ ?_ <;>
    simp only [step, Function.update_self, Function.update_of_ne hne]
  · exact hx.succ
  · exact hy.succ
  · exact hxy
  · exact ⟨fun dg hdg => hyx.sent dg (mem_of_wireAfter hdg), hyx.window, hyx.gap,
      fun hlt => ⟨(hyx.ahead hlt).1, he hlt⟩⟩

/-- **Agreement of the key phases** in every state of every run that meets the condition.  The
condition speaks of deliveries and losses of the one datagram that carries an announcement, of
ratchets that fire without it, and of an old key retired too early; everything else is free. -/
theorem key_phase_agreement (hround : CryptoSuite.RoundTrips) (s : Session)
    (hsep : ∀ x, PhasesSeparate (s.base x) s.cid) (events : List Event)
    (hlen : events.length < 2 ^ 64 - 1) (h : Runs.Along step Meets s.start events) :
    (events.foldl step s.start).Agreement := by
  refine Sound.agreement (s := s) (t := 0 + events.length) ?_
  refine h.preserves (b := 2 ^ 64 - 2) ?_ (by omega) (sound_start s)
  intro t n e ht he hn
  cases e with
  | call x op hop => exact hn.call ht x op hop he
  | deliver x i again src now ecn =>
    exact hn.deliver hround hsep ht x i again src now ecn he
  | lose x i => exact hn.lose x i he

end Net

/-! ## 8. On a concrete session -/

namespace Net

attribute [local instance] keyTagSuite

/-- The tags of `keyTagSuite` name the phase, from a base key whose bytes 8 to 15 are zero. -/
theorem keyTagSuite_separates {base : Bytes 32 × Bytes 12} (cid : ConnectionId)
    (hbase : (base.1.toList.drop 8).take 8 = BigEndian.toBe 8 0) : PhasesSeparate base cid := by
  have hchain : ∀ phase, (keyChain base cid phase).1.toList.take 16 =
      base.1.toList.take 8 ++ BigEndian.toBe 8 phase := by
    intro phase
    induction phase with
    | zero =>
      rw [← hbase, ← List.take_add]
      rfl
    | succ phase ih =>
      have hfront : (keyChain base cid phase).1.toList.take 8 = base.1.toList.take 8 := by
        have htake := congrArg (List.take 8) ih
        rwa [List.take_take, List.take_left' (by simp [base.1.toList_length])] at htake
      have hnext : (keyChain base cid (phase + 1)).1.toList =
          ((keyChain base cid phase).1.toList.take 8 ++ BigEndian.toBe 8 (phase + 1) ++
            List.replicate 32 0).take 32 := by
        simp only [keyChain, ratchetKey, CryptoSuite.expand, keyTagExpand, List.Vector.toList]
        congr 3
      rw [hnext, List.take_take, hfront]
      exact List.take_left' (by simp [base.1.toList_length])
  intro i j hi hj hij pn aad pt ct tag henc
  obtain ⟨rfl, rfl⟩ := Prod.mk.inj (Option.some.inj henc)
  refine if_neg fun htag => hij ?_
  have htag' : (keyChain base cid i).1.toList.take 16 = (keyChain base cid j).1.toList.take 16 :=
    htag
  rw [hchain, hchain] at htag'
  exact BigEndian.toBe_injective hi hj (List.append_cancel_left htag')

/-- A session whose base keys differ in their first bytes. -/
def sampleSession : Session where
  cid := 7
  keys :=
    { clientTxKey := ⟨List.replicate 8 1 ++ List.replicate 24 0, rfl⟩
      clientTxIv := List.Vector.replicate 12 1
      serverTxKey := ⟨List.replicate 8 2 ++ List.replicate 24 0, rfl⟩
      serverTxIv := List.Vector.replicate 12 2 }
  peerAddr
    | true => ⟨1, 4433⟩
    | false => ⟨2, 4433⟩
  preValidated _ := true
  hotConfig _ := .default
  config _ := .default

theorem sampleSession_separates (x : Bool) :
    PhasesSeparate (sampleSession.base x) sampleSession.cid := by
  cases x <;> exact keyTagSuite_separates _ (by decide)

/-- A ping that arrives, then an announcement under way. -/
def announcedRun : List Event :=
  [.call true (.sendPing 1) rfl, .call true (.produce 10 (List.replicate 200 0)) rfl,
    .deliver false 0 false ⟨2, 4433⟩ 20 0, .call true .initiateKeyUpdate rfl,
    .call true (.produce 10 (List.replicate 200 0)) rfl]

/-- The theorem at a session whose client has moved on and whose server is still to follow. -/
theorem key_phase_agreement_announcedRun :
    (announcedRun.foldl step sampleSession.start).Behind false ∧
      (announcedRun.foldl step sampleSession.start).Agreement := by
  have hbehind : (announcedRun.foldl step sampleSession.start).Behind false := by
    unfold Behind
    decide +kernel
  refine ⟨hbehind, key_phase_agreement keyTagSuite_roundTrips sampleSession sampleSession_separates
    announcedRun (by decide) ⟨trivial, ?_, ?_, trivial, ?_, trivial⟩⟩
  · have hidle : ((sampleSession.start.step (.call true (.sendPing 1) rfl)).peer true).hot.pendingRatchet
        = false := by decide +kernel
    intro hpend
    rw [hidle] at hpend
    cases hpend
  · intro dg _
    refine ⟨fun hlt => absurd hlt ?_, fun hlt => absurd hlt ?_⟩ <;>
    · unfold Behind
      decide +kernel
  · intro _ _
    exact ⟨[], [], by decide +kernel, by simp⟩

/-- The client's announcement is lost. -/
def lostRun : List Event :=
  [.call true .initiateKeyUpdate rfl, .call true (.produce 10 (List.replicate 200 0)) rfl,
    .lose false 0]

/-- **Blackout.**  The client seals in phase 1, the server holds the key of phase 0 alone, and
nothing is under way or queued that would tell it. -/
theorem key_phase_agreement_fails_on_loss :
    (∀ x, PhasesSeparate (sampleSession.base x) sampleSession.cid) ∧
      ¬ (lostRun.foldl step sampleSession.start).Agreement := by
  refine ⟨sampleSession_separates, fun hagree => ?_⟩
  have hrx : ((lostRun.foldl step sampleSession.start).peer false).hot.rxProtector ≠
      ((lostRun.foldl step sampleSession.start).peer true).hot.txProtector := by decide +kernel
  have hprev : ((lostRun.foldl step sampleSession.start).peer false).hot.rxProtectorPrev = none := by
    decide +kernel
  have hwire : (lostRun.foldl step sampleSession.start).inFlight false = [] := by decide +kernel
  rcases hagree false with heq | heq | ⟨dg, hdg, -⟩
  · rw [Bool.not_false] at heq
    exact hrx heq
  · rw [hprev] at heq
    cases heq
  · rw [hwire] at hdg
    cases hdg

end Net

end Gtp
