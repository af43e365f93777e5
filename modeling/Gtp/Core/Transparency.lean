/-
# A datagram reads as it was written

The payload that a call seals is the encoding of the frames it appended, and the peer's frame
iterator reads them back in order -- unless an MTU probe is among them and is not the last.  The
probe's decoder takes the rest of the payload as its padding, so whatever stands behind it is gone.

* `transparent_iff_probeLast` brings this down to the position of the probes in the draft.
* A probe can only be one of the control frames (`probeLast_frames_iff`).
* So `ProbeClear` says of the state before the call when nothing joins the datagram behind a probe,
  and `transparent_iff` that this is the only way to lose a frame.

The frames come back in canonical form, which for those of the send path is the frame itself, but
for the cut of a long `Close` reason.  The statement is about the datagram as it left; a network
that changes it is met by the cipher, see `Gtp.Core.Forged`.
-/
import Gtp.Core.Produce

namespace Gtp

open Frame PacketBuilder

namespace GtpConnection

/-! ## 1. Statement -/

variable [CryptoSuite]

omit [CryptoSuite] in
/-- The frames that a call appends to its datagram: the ACK, the control frames in queue order, the
frames of the items. -/
def appended (c : GtpConnection) (now : MonotonicTime) (outBuf : List UInt8) : List Frame :=
  match PacketBuilder.new outBuf (nextHeader (c.prepare now).hot now) with
  | .ok b => ((c.prepare now).assemble b now).1.frames
  | .error _ => []

/-- The datagram of `len` bytes, opened with the key that sealed it, yields exactly the frames that
were appended, and no error. -/
def Transparent (c : GtpConnection) (now : MonotonicTime) (outBuf : List UInt8) (len : Nat) : Prop :=
  let datagram := (c.produceOutgoingDatagram now outBuf).buf.take len
  ∃ hd pt, PacketHeader.decode datagram = .ok (hd, minCommonHeaderLen) ∧
    c.hot.txProtector.openPayload hd.packetNumber hd.connectionId
      (datagram.take minCommonHeaderLen) (datagram.drop minCommonHeaderLen)
      (datagram.drop minCommonHeaderLen).length = .ok pt ∧
    FrameIterator.collect pt = ((c.appended now outBuf).map canon).map .ok

omit [CryptoSuite] in
/-- Nothing joins the datagram behind an MTU probe: of the control frames that fit, a probe is the
last, and then the data loop adds nothing. -/
def ProbeClear (c : GtpConnection) (now : MonotonicTime) (outBuf : List UInt8) : Prop :=
  let c := c.prepare now
  let room := outBuf.length - minCommonHeaderLen
  let room := room - c.ackBytes room now
  ∀ pre id pad post,
    fitting c.hot.activePath room c.hot.controlQueue =
      pre ++ OutgoingControlFrame.mtuProbe id pad :: post →
    post = [] ∧ ¬ c.DataJoins room now

/-! ## 2. Probes among the frames of a draft -/

omit [CryptoSuite] in
/-- `ProbeLast`, by position: whatever stands behind a probe is empty. -/
theorem probeLast_iff (fs : List Frame) :
    ProbeLast fs ↔ ∀ pre id pad post, fs = pre ++ mtuProbe id pad :: post → post = [] := by
  induction fs with
  | nil =>
    refine ⟨fun _ pre id pad post h => ?_, fun _ => trivial⟩
    cases pre <;> cases h
  | cons f fs ih =>
    by_cases hprobe : ∃ id pad, f = mtuProbe id pad
    · obtain ⟨id, pad, rfl⟩ := hprobe
      constructor
      · intro hlast pre id' pad' post h
        cases pre with
        | nil => exact (List.cons.inj h).2 ▸ hlast
        | cons g pre =>
          have hfs : fs = [] := hlast
          rw [List.cons_append, List.cons.injEq, hfs] at h
          cases pre <;> cases h.2
      · intro h
        exact h [] id pad fs rfl
    · have hcons : ProbeLast (f :: fs) ↔ ProbeLast fs := by
        cases f <;> first | exact Iff.rfl | exact absurd ⟨_, _, rfl⟩ hprobe
      rw [hcons, ih]
      constructor
      · intro hall pre id pad post h
        cases pre with
        | nil => exact absurd ⟨id, pad, (List.cons.inj h).1⟩ hprobe
        | cons g pre => exact hall pre id pad post (List.cons.inj h).2
      · intro hall pre id pad post h
        exact hall (f :: pre) id pad post (by rw [h, List.cons_append])

omit [CryptoSuite] in
theorem buildControlFrame_eq_mtuProbe {ctrl : OutgoingControlFrame} {id : UInt32} {pad : Nat}
    (h : ctrl.buildControlFrame = .mtuProbe id pad) : ctrl = .mtuProbe id pad := by
  cases ctrl with
  | mtuProbe i p =>
    obtain ⟨rfl, rfl⟩ := Frame.mtuProbe.inj h
    rfl
  | _ => cases h

omit [CryptoSuite] in
theorem itemFrame_ne_mtuProbe (item : SchedulableItem) (id : UInt32) (pad : Nat) :
    itemFrame item ≠ .mtuProbe id pad := by
  unfold itemFrame
  split <;> exact Frame.noConfusion

omit [CryptoSuite] in
/-- In a draft a probe can only be one of the control frames. -/
theorem probeLast_frames_iff (d : Draft)
    (hack : ∀ ack, d.ack = some ack → ∀ id pad, ack ≠ mtuProbe id pad) :
    ProbeLast d.frames ↔ ∀ pre id pad post,
      d.drained = pre ++ OutgoingControlFrame.mtuProbe id pad :: post →
        post = [] ∧ d.popped = [] := by
  rw [probeLast_iff]
  constructor
  · intro h pre id pad post hsplit
    have hpost := h (d.ack.toList ++ pre.map (·.buildControlFrame)) id pad
      (post.map (·.buildControlFrame) ++ d.popped.map itemFrame) (by
        rw [Draft.frames, hsplit]
        simp [OutgoingControlFrame.buildControlFrame])
    obtain ⟨hpost, hpop⟩ := List.append_eq_nil_iff.mp hpost
    exact ⟨List.map_eq_nil_iff.mp hpost, List.map_eq_nil_iff.mp hpop⟩
  · intro h pre id pad post hsplit
    -- the probe stands in the control part: the ACK and the items are no probes
    rw [Draft.frames, List.append_assoc] at hsplit
    rcases List.append_eq_append_iff.mp hsplit with ⟨mid, hpre, hrest⟩ | ⟨mid, hack', hrest⟩
    · rcases List.append_eq_append_iff.mp hrest with ⟨mid', hmid, hitems⟩ | ⟨mid', hctrl, htail⟩
      · obtain ⟨item, -, hitem⟩ := List.mem_map.mp
          (show mtuProbe id pad ∈ d.popped.map itemFrame by rw [hitems]; simp)
        exact absurd hitem (itemFrame_ne_mtuProbe item id pad)
      · cases mid' with
        | nil =>
          rw [List.nil_append] at htail
          obtain ⟨item, -, hitem⟩ := List.mem_map.mp
            (show mtuProbe id pad ∈ d.popped.map itemFrame by rw [← htail]; simp)
          exact absurd hitem (itemFrame_ne_mtuProbe item id pad)
        | cons f mid' =>
          rw [List.cons_append, List.cons.injEq] at htail
          obtain ⟨rfl, rfl⟩ := htail
          obtain ⟨l1, l2, hl, -, hl2⟩ := List.map_eq_append_iff.mp hctrl
          obtain ⟨ctrl, l3, rfl, hctrl', hl3⟩ := List.map_eq_cons_iff.mp hl2
          obtain ⟨rfl, hpop⟩ := h l1 id pad l3 (by rw [hl, buildControlFrame_eq_mtuProbe hctrl'])
          rw [← hl3, hpop]
          rfl
    · cases hmid : mid with
      | nil =>
        rw [hmid, List.nil_append] at hrest
        rw [hmid, List.append_nil] at hack'
        -- the split falls between the ACK and the control frames
        have hctrls : d.drained.map (·.buildControlFrame) ++ d.popped.map itemFrame =
            mtuProbe id pad :: post := hrest.symm
        rcases List.append_eq_cons_iff.mp hctrls with ⟨-, hitems⟩ | ⟨l, hl, hpost⟩
        · obtain ⟨item, -, hitem⟩ := List.mem_map.mp
            (show mtuProbe id pad ∈ d.popped.map itemFrame by rw [hitems]; simp)
          exact absurd hitem (itemFrame_ne_mtuProbe item id pad)
        · obtain ⟨ctrl, l3, hdr, hctrl', hl3⟩ := List.map_eq_cons_iff.mp hl
          obtain ⟨rfl, hpop⟩ := h [] id pad l3 (by
            rw [hdr, buildControlFrame_eq_mtuProbe hctrl', List.nil_append])
          rw [hpost, ← hl3, hpop]
          rfl
      | cons f mid =>
        rw [hmid, List.cons_append, List.cons.injEq] at hrest
        have hin : mtuProbe id pad ∈ d.ack.toList := by
          rw [hack', hmid, ← hrest.1]
          simp
        exact absurd rfl (hack _ (Option.mem_toList.mp hin) id pad)

/-! ## 3. Transparency -/

/-- What the call seals is the encoding of the frames it appended, so what the peer reads is
decided by the position of the probes. -/
theorem transparent_iff_probeLast (hsuite : CryptoSuite.RoundTrips) {c : GtpConnection}
    {now : MonotonicTime} {outBuf : List UInt8} {dest : SocketAddr} {len : Nat}
    (h : (c.produceOutgoingDatagram now outBuf).result = .ok (some (dest, len))) :
    c.Transparent now outBuf len ↔ ProbeLast (c.appended now outBuf) := by
  obtain ⟨b, hb, -, d, c2, hdc, hseal, -, -, -⟩ := produce_some h
  obtain ⟨hcar, -, -⟩ := new_nextHeader hb
  have hass := (c.prepare now).assemble_spec hcar now
  rw [hdc] at hass
  dsimp only at hass
  have happ : c.appended now outBuf = d.frames := by
    rw [appended, hb]
    simp only [hdc]
  obtain ⟨ld, cc, s, pv, pac, cold, ev, hprep, -⟩ := c.prepare_spec now
  have htx : c2.hot.txProtector = c.hot.txProtector := by rw [hass.conn, hprep]
  have hcid : (nextHeader (c.prepare now).hot now).connectionId = c2.hot.connectionId := by
    rw [hass.conn]
    rfl
  have hpn : (nextHeader (c.prepare now).hot now).packetNumber = c2.hot.nextPacketNumber := by
    rw [hass.conn]
    rfl
  obtain ⟨hd, -, hsealed, -⟩ := sealDraft_spec hass.carries hcid hpn hseal
  rw [htx] at hsealed
  have hopen := hsealed.openPayload hsuite
  have hcollect := collect_payloadOf hass.carries.sendable
  rw [happ, ← received_eq_map_canon_iff]
  constructor
  · rintro ⟨hd', pt, hdec, hopen', hread⟩
    rw [hsealed.decode] at hdec
    obtain ⟨rfl, -⟩ := Prod.mk.inj (Except.ok.inj hdec)
    rw [hopen] at hopen'
    obtain rfl := Except.ok.inj hopen'
    rw [hcollect, happ] at hread
    exact List.map_injective_iff.mpr (fun _ _ => Except.ok.inj) hread
  · intro hrec
    refine ⟨hd, _, hsealed.decode, hopen, ?_⟩
    rw [hcollect, hrec, happ]

/-- **Transparency.** Whenever a call hands out a datagram, the peer reads exactly the frames that
were appended, in order and without an error, if and only if nothing joined the datagram behind an
MTU probe.  The condition is one on the connection before the call.  A call that hands out nothing
is not the subject. -/
theorem transparent_iff (hsuite : CryptoSuite.RoundTrips) (c : GtpConnection)
    (now : MonotonicTime) (outBuf : List UInt8) (dest : SocketAddr) (len : Nat)
    (h : (c.produceOutgoingDatagram now outBuf).result = .ok (some (dest, len))) :
    c.Transparent now outBuf len ↔ c.ProbeClear now outBuf := by
  rw [transparent_iff_probeLast hsuite h]
  obtain ⟨b, hb, -⟩ := produce_some h
  obtain ⟨hcar, -, hcap⟩ := new_nextHeader hb
  have hass := (c.prepare now).assemble_spec hcar now
  have hack : ∀ ack, ((c.prepare now).assemble b now).1.ack = some ack →
      ∀ id pad, ack ≠ mtuProbe id pad := by
    intro ack hsome
    rw [hass.ack] at hsome
    obtain ⟨l, d, r, n, e0, e1, ce, rfl⟩ := appendAck_isAck hsome
    exact fun _ _ => Frame.noConfusion
  have hroom := (c.prepare now).controlRoom_eq hcar now
  rw [hcap] at hroom
  have happ : c.appended now outBuf = ((c.prepare now).assemble b now).1.frames := by
    rw [appended, hb]
  rw [happ, probeLast_frames_iff _ hack, ProbeClear, hass.drained, hroom]
  have hdata := hass.data
  rw [hroom] at hdata
  constructor
  · intro hall pre id pad post hsplit
    obtain ⟨hpost, hpop⟩ := hall pre id pad post hsplit
    exact ⟨hpost, fun hj => hdata.mpr hj hpop⟩
  · intro hall pre id pad post hsplit
    obtain ⟨hpost, hnot⟩ := hall pre id pad post hsplit
    exact ⟨hpost, not_not.mp fun hne => hnot (hdata.mp hne)⟩

end GtpConnection

/-! ## 4. On concrete connections -/

namespace GtpConnection

attribute [local instance] keyTagSuite

/-- A probe alone, and a probe with a ping behind it. -/
def probeAlone : GtpConnection := (sampleSetup true).start.run [.triggerMtuProbe 1 100]
def probeThenPing : GtpConnection :=
  (sampleSetup true).start.run [.triggerMtuProbe 1 100, .sendPing 5]

/-- The theorem at a connection whose only control frame is a probe. -/
theorem transparent_iff_probeAlone :
    (probeAlone.produceOutgoingDatagram 10 (List.replicate 1500 0)).result =
        .ok (some (⟨1, 4433⟩, 113)) ∧
      (probeAlone.Transparent 10 (List.replicate 1500 0) 113 ↔
        probeAlone.ProbeClear 10 (List.replicate 1500 0)) := by
  have hres : (probeAlone.produceOutgoingDatagram 10 (List.replicate 1500 0)).result =
      .ok (some (⟨1, 4433⟩, 113)) := by decide +kernel
  exact ⟨hres, transparent_iff keyTagSuite_roundTrips probeAlone 10 _ _ _ hres⟩

/-- **The ping is gone**: the two frames leave in one datagram, and the peer reads the probe
only. -/
theorem transparent_fails_behind_probe :
    Reachable probeThenPing ∧
      (probeThenPing.produceOutgoingDatagram 10 (List.replicate 1500 0)).result =
        .ok (some (⟨1, 4433⟩, 122)) ∧
      ¬ probeThenPing.Transparent 10 (List.replicate 1500 0) 122 := by
  have hres : (probeThenPing.produceOutgoingDatagram 10 (List.replicate 1500 0)).result =
      .ok (some (⟨1, 4433⟩, 122)) := by decide +kernel
  have happ : probeThenPing.appended 10 (List.replicate 1500 0) = [.mtuProbe 1 68, .ping 5] := by
    decide +kernel
  refine ⟨⟨_, _, rfl⟩, hres, ?_⟩
  rw [transparent_iff_probeLast keyTagSuite_roundTrips hres, happ]
  exact List.cons_ne_nil _ _

end GtpConnection

end Gtp
