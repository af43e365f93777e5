/-
# What one call of `produce_outgoing_datagram` does

Two inversion lemmas: a call that hands out a datagram committed a draft (`produce_some`), and any
other call left the queues, the keys, the packet number and the acknowledgement state as they were
(`produce_none`).  `produce_exit` has the ways out one by one, in the source's order.

* `Sealed p hd pt dg` is what a sealed datagram is to the peer: a header it decodes and a payload it
  opens (`Sealed.openPayload`).  `sealDraft_spec` says that a sealed draft is one.
* `prepare_spec` says what the phases before the draft touch: the loss detector, the window, the
  scheduler and the telemetry, but not the control queue, the keys, the packet number, the ACK
  tracker or the path.
* `Unsent` is what a call without a datagram may change.

That a sealed datagram opens at the peer needs a cipher that opens what it sealed (`RoundTrips`) and
nothing else.  Whether the peer reads the frames that were written is the next question, and
`Gtp.Core.Transparency` answers it.
-/
import Gtp.Core.Draft

namespace Gtp

open BigEndian Frame PacketBuilder

/-! ## 1. Sealed datagrams -/

/-- `dg` carries the header `hd` and the plaintext `pt`, sealed by `p`. -/
structure Sealed [CryptoSuite] (p : Protector) (hd : PacketHeader) (pt dg : List UInt8) : Prop where
  short : hd.flags.isLongHeader = false
  version : hd.version = none
  headerLen : hd.headerLen = 24
  binding : p.checkBinding hd.connectionId = .ok ()
  bytes : ∃ ct tag, CryptoSuite.encrypt p.key (p.deriveNonce hd.connectionId hd.packetNumber)
    hd.bytes pt = some (ct, tag) ∧ dg = hd.bytes ++ (ct ++ tag.toList)

namespace Sealed

variable [CryptoSuite] {p : Protector} {hd : PacketHeader} {pt dg : List UInt8}

theorem decode (h : Sealed p hd pt dg) :
    PacketHeader.decode dg = .ok (hd, minCommonHeaderLen) := by
  obtain ⟨ct, tag, -, rfl⟩ := h.bytes
  exact PacketHeader.decode_bytes_short h.short h.version h.headerLen _

theorem take (h : Sealed p hd pt dg) : dg.take minCommonHeaderLen = hd.bytes := by
  obtain ⟨ct, tag, -, rfl⟩ := h.bytes
  exact List.take_left' (PacketHeader.length_bytes_short h.short)

theorem drop (h : Sealed p hd pt dg) : ∃ ct tag, CryptoSuite.encrypt p.key
    (p.deriveNonce hd.connectionId hd.packetNumber) hd.bytes pt = some (ct, tag) ∧
      dg.drop minCommonHeaderLen = ct ++ tag.toList ∧ ct.length = pt.length := by
  obtain ⟨ct, tag, henc, rfl⟩ := h.bytes
  exact ⟨ct, tag, henc, List.drop_left' (PacketHeader.length_bytes_short h.short),
    CryptoSuite.encrypt_length henc⟩

/-- **Opening.**  The protector that sealed the datagram opens it. -/
theorem openPayload (h : Sealed p hd pt dg) (hsuite : CryptoSuite.RoundTrips) :
    p.openPayload hd.packetNumber hd.connectionId (dg.take minCommonHeaderLen)
      (dg.drop minCommonHeaderLen) (dg.drop minCommonHeaderLen).length = .ok pt := by
  obtain ⟨ct, tag, henc, hdrop, hlen⟩ := h.drop
  have htag : tag.toList.length = aeadTagLen := tag.toList_length
  have htotal : (ct ++ tag.toList).length = ct.length + aeadTagLen := by
    rw [List.length_append, htag]
  rw [GtpAeadProtector.openPayload, h.binding, h.take, hdrop]
  simp only [htotal, Nat.add_sub_cancel]
  rw [if_neg (by omega), List.take_left, List.drop_left, List.take_of_length_le htag.le]
  simp only [hsuite _ _ _ _ _ _ henc]

end Sealed

namespace GtpConnection

/-! ## 2. Sealing a draft -/

/-- The last two bytes of a short header are the payload length. -/
theorem take_bytes_append_toBe {h : PacketHeader} (hshort : h.flags.isLongHeader = false) {n : Nat}
    (hn : n ≤ 65535) (rest : List UInt8) :
    (h.bytes ++ rest).take (minCommonHeaderLen - 2) ++ toBe 2 n =
      ({ h with payloadLen := UInt16.ofNat n } : PacketHeader).bytes := by
  have hn16 : (UInt16.ofNat n).toNat = n := by
    rw [UInt16.toNat_ofNat', Nat.mod_eq_of_lt (by omega)]
  have hsplit : ∀ m : UInt16, ({ h with payloadLen := m } : PacketHeader).bytes =
      ([h.flags] ++ ([h.headerLen] ++ (toBe 8 h.connectionId.toNat ++
        (toBe 8 h.packetNumber.toNat ++ toBe 4 h.timestampMicros.toNat)))) ++ toBe 2 m.toNat := by
    intro m
    rw [PacketHeader.bytes_short (h := { h with payloadLen := m }) hshort]
    simp only [List.append_assoc]
  have hself : h.bytes = ({ h with payloadLen := h.payloadLen } : PacketHeader).bytes := rfl
  rw [hself, hsplit, hsplit, hn16, List.append_assoc, List.append_assoc]
  congr 1

variable [CryptoSuite]

/-- **A sealed draft** is the header, the payload of its frames, and the tag. -/
theorem sealDraft_spec {h : ConnectionHot} {b : PacketBuilder} {header : PacketHeader}
    {fs : List Frame} (hb : b.Carries header fs) (hcid : header.connectionId = h.connectionId)
    {pn : PacketNumber} (hpn : header.packetNumber = pn) {len : Nat} {buf : List UInt8}
    (hseal : sealDraft h pn b = (.ok len, buf)) :
    ∃ hd, Alike hd header ∧ Sealed h.txProtector hd (payloadOf fs) (buf.take len) ∧
      len = minCommonHeaderLen + (payloadOf fs).length + aeadTagLen ∧ len ≤ buf.length ∧
      buf.length = b.buf.length := by
  have hsize : b.payloadLen ≤ 65535 := by
    by_contra hbig
    rw [sealDraft, finish, if_pos (Nat.not_le.mp hbig)] at hseal
    cases hseal
  rw [sealDraft, finish_carries hb hsize] at hseal
  -- the header as `finish` wrote it, and as it is after the length has been patched
  obtain ⟨hd0, hhd0, halike0⟩ : ∃ hd0, hd0 = ({ b.header with
      payloadLen := UInt16.ofNat b.payloadLen } : PacketHeader) ∧ Alike hd0 header :=
    ⟨_, rfl, hb.alike.short, hb.alike.version, hb.alike.headerLen, hb.alike.keyPhase,
      hb.alike.connectionId, hb.alike.packetNumber, hb.alike.timestampMicros⟩
  rw [← hhd0] at hseal
  simp only [Nat.add_sub_cancel_left] at hseal
  split at hseal
  · cases hseal
  · rename_i hfinal
    rw [take_bytes_append_toBe halike0.short (Nat.not_lt.mp hfinal),
      List.drop_left' (PacketHeader.length_bytes_short halike0.short)] at hseal
    have hpay : (b.buf.drop minCommonHeaderLen).take b.payloadLen = payloadOf fs := by
      rw [← hb.payload, PacketBuilder.payload, hb.headerLen]
    have hpl := hb.payloadLen
    obtain ⟨hd, hhd, halike⟩ : ∃ hd, hd = ({ hd0 with
        payloadLen := UInt16.ofNat (b.payloadLen + aeadTagLen) } : PacketHeader) ∧
          Alike hd header :=
      ⟨_, rfl, halike0.short, halike0.version, halike0.headerLen, halike0.keyPhase,
        halike0.connectionId, halike0.packetNumber, halike0.timestampMicros⟩
    rw [← hhd] at hseal
    have hcid' : hd.connectionId = h.connectionId := halike.connectionId.trans hcid
    have hpn' : hd.packetNumber = pn := halike.packetNumber.trans hpn
    rw [GtpAeadProtector.sealPayload, hpay] at hseal
    have hbind : h.txProtector.checkBinding h.connectionId = .ok () := by
      cases hbnd : h.txProtector.checkBinding h.connectionId with
      | ok u => rfl
      | error e => rw [hbnd] at hseal; cases hseal
    rw [hbind] at hseal
    dsimp only at hseal
    split at hseal
    · cases hseal
    · rename_i hroom
      cases henc : CryptoSuite.encrypt h.txProtector.key
          (h.txProtector.deriveNonce h.connectionId pn) hd.bytes (payloadOf fs) with
      | none => rw [henc] at hseal; cases hseal
      | some sealed =>
        obtain ⟨ct, tag⟩ := sealed
        rw [henc] at hseal
        dsimp only [Except.map] at hseal
        obtain ⟨hlen', rfl⟩ := Prod.mk.inj hseal
        obtain rfl := Except.ok.inj hlen'
        have hct := CryptoSuite.encrypt_length henc
        have hhb := PacketHeader.length_bytes_short halike.short
        have htag : tag.toList.length = aeadTagLen := tag.toList_length
        have hlen : (hd.bytes ++ (ct ++ tag.toList)).length =
            minCommonHeaderLen + (b.payloadLen + aeadTagLen) := by
          rw [List.length_append, List.length_append, hhb, hct, htag, hpl]
        refine ⟨hd, halike, ⟨halike.short, halike.version, halike.headerLen, ?_, ct, tag, ?_, ?_⟩,
          ?_, ?_, ?_⟩
        · rw [hcid']
          exact hbind
        · rw [hcid', hpn']
          exact henc
        · rw [← List.append_assoc]
          exact List.take_left' hlen
        · rw [hpl, Nat.add_assoc]
        · rw [← List.append_assoc, List.length_append, hlen]
          exact Nat.le_add_right _ _
        · have hbuf := hb.room
          rw [hb.headerLen] at hbuf
          rw [List.length_drop] at hroom
          rw [← List.append_assoc, List.length_append, hlen, List.length_drop, List.length_drop]
          omega

/-! ## 3. The phases before the draft -/

/-- Steps 0 to 2. -/
def prepare (c : GtpConnection) (now : MonotonicTime) : GtpConnection :=
  (c.checkPto now).housekeeping now

omit [CryptoSuite] in
theorem retransmit_spec (now : MonotonicTime) (c : GtpConnection) (r : RetransmissionRecord) :
    ∃ s cold ev, retransmit now c r =
        { c with hot.scheduler := s, cold := cold, eventQueue := ev } ∧
      ∀ x, s.Has x → c.hot.scheduler.Has x ∨ x = retransmissionItem r now :=
  ⟨_, _, _, rfl, fun _ hx => GameScheduler.enqueue_has hx⟩

omit [CryptoSuite] in
theorem retransmitAll_spec (now : MonotonicTime) (rs : List RetransmissionRecord)
    (c : GtpConnection) :
    ∃ s cold ev, rs.foldl (retransmit now) c =
        { c with hot.scheduler := s, cold := cold, eventQueue := ev } ∧
      ∀ x, s.Has x → c.hot.scheduler.Has x ∨ ∃ r ∈ rs, x = retransmissionItem r now := by
  induction rs generalizing c with
  | nil => exact ⟨c.hot.scheduler, c.cold, c.eventQueue, rfl, fun _ hx => Or.inl hx⟩
  | cons r rs ih =>
    obtain ⟨s, cold, ev, hr, hs⟩ := retransmit_spec now c r
    rw [List.foldl_cons, hr]
    obtain ⟨s', cold', ev', hrs, hs'⟩ := ih { c with hot.scheduler := s, cold, eventQueue := ev }
    refine ⟨s', cold', ev', hrs, fun x hx => ?_⟩
    rcases hs' x hx with hx | ⟨r', hr', rfl⟩
    · rcases hs x hx with hx | rfl
      · exact Or.inl hx
      · exact Or.inr ⟨r, List.mem_cons_self, rfl⟩
    · exact Or.inr ⟨r', List.mem_cons_of_mem _ hr', rfl⟩

omit [CryptoSuite] in
/-- **The probe timeout** touches the loss detector, the window, the scheduler and the telemetry;
what it queues are frames of records it took out. -/
theorem checkPto_spec (c : GtpConnection) (now : MonotonicTime) :
    ∃ ld cc s cold ev, c.checkPto now =
        { c with
          hot.lossDetector := ld, hot.cc := cc, hot.scheduler := s, cold := cold
          eventQueue := ev } ∧
      LossDetector.Shrinks c.hot.lossDetector ld ∧
      ∀ x, s.Has x → c.hot.scheduler.Has x ∨
        ∃ r, c.hot.lossDetector.Holds r ∧ x = retransmissionItem r now := by
  unfold checkPto
  dsimp only
  split
  · obtain ⟨hshrink, hfrom⟩ := LossDetector.onTimeout_spec c.hot.lossDetector
    rcases hto : c.hot.lossDetector.onTimeout with ⟨ld, lossEv⟩
    rw [hto] at hshrink hfrom
    dsimp only at hshrink hfrom ⊢
    obtain ⟨cc, hcc⟩ : ∃ cc, cc = if persistentCongestionPtoCount ≤ ld.ptoCount then
      c.hot.cc.onTimeout now else c.hot.cc := ⟨_, rfl⟩
    rw [← hcc]
    obtain ⟨s, cold, ev, hall, hs⟩ := retransmitAll_spec now lossEv.retransmittable
      (pushEvent { c with hot.lossDetector := ld, hot.cc := cc }
        (.ptoTriggered ld.ptoCount ld.inflightBytes))
    rw [hall]
    refine ⟨{ ld with timeOfLastAckElicitingPacket := now }, cc, s, cold, ev, rfl,
      ⟨hshrink.1, hshrink.2⟩, fun x hx => ?_⟩
    rcases hs x hx with hx | ⟨r, hr, rfl⟩
    · exact Or.inl hx
    · exact Or.inr ⟨r, hfrom r hr, rfl⟩
  · exact ⟨c.hot.lossDetector, c.hot.cc, c.hot.scheduler, c.cold, c.eventQueue, rfl,
      LossDetector.Shrinks.refl _, fun _ hx => Or.inl hx⟩

omit [CryptoSuite] in
/-- **Before the draft** the control queue, the keys, the packet number, the ACK tracker and the
path are untouched. -/
theorem prepare_spec (c : GtpConnection) (now : MonotonicTime) :
    ∃ ld cc s pv pac cold ev, c.prepare now =
        { c with
          hot.lossDetector := ld, hot.cc := cc, hot.scheduler := s, hot.pathValidator := pv
          hot.pacing := pac, cold := cold, eventQueue := ev } ∧
      LossDetector.Shrinks c.hot.lossDetector ld ∧
      pac = c.hot.pacing.updateTokens cc.pacingRate now ∧
      ∀ x, s.Has x → c.hot.scheduler.Has x ∨
        ∃ r, c.hot.lossDetector.Holds r ∧ x = retransmissionItem r now := by
  obtain ⟨ld, cc, s, cold, ev, hpto, hshrink, hs⟩ := c.checkPto_spec now
  rw [prepare, hpto]
  exact ⟨_, _, _, _, _, _, _, rfl, hshrink, rfl,
    fun x hx => hs x (GameScheduler.pruneStale_has hx)⟩

/-! ## 4. Inversion -/

omit [CryptoSuite] in
/-- The next header is a short one, for the connection's own id and number. -/
theorem nextHeader_short (h : ConnectionHot) (now : MonotonicTime) :
    (nextHeader h now).flags.isLongHeader = false ∧
      (nextHeader h now).flags.keyPhase = h.keyPhase := by
  have hflags : ∀ phase : Bool, ((0 : HeaderFlags).setKeyPhase phase).isLongHeader = false ∧
      ((0 : HeaderFlags).setKeyPhase phase).keyPhase = phase := by decide
  exact hflags h.keyPhase

omit [CryptoSuite] in
theorem new_nextHeader {h : ConnectionHot} {now : MonotonicTime} {buf : List UInt8}
    {b : PacketBuilder} (hb : PacketBuilder.new buf (nextHeader h now) = .ok b) :
    b.Carries (nextHeader h now) [] ∧ b.buf = buf ∧ b.remainingCapacity = buf.length - 24 :=
  new_carries (nextHeader_short h now).1 rfl rfl hb

omit [CryptoSuite] in
/-- A buffer with room for the header has a builder. -/
theorem new_nextHeader_ok (h : ConnectionHot) (now : MonotonicTime) {buf : List UInt8}
    (hlen : minCommonHeaderLen ≤ buf.length) :
    ∃ b, PacketBuilder.new buf (nextHeader h now) = .ok b := by
  unfold PacketBuilder.new
  dsimp only
  rw [PacketHeader.minLen_short (nextHeader_short h now).1, if_neg (Nat.not_lt.mpr hlen)]
  exact ⟨_, if_neg (not_not.mpr rfl)⟩

/-- An established connection on a validated path hands out what it has drafted and sealed: nothing
else holds the datagram back. -/
theorem produce_of_sealed {c : GtpConnection} {now : MonotonicTime} {outBuf : List UInt8}
    (hstate : c.hot.state = .established) (hidle : (c.prepare now).idle now = false)
    {b : PacketBuilder} (hb : PacketBuilder.new outBuf (nextHeader (c.prepare now).hot now) = .ok b)
    {d : Draft} {c2 : GtpConnection} (hdraft : (c.prepare now).assemble b now = (d, c2))
    (hval : c2.hot.antiAmplification.validated = true) {len : Nat} {buf : List UInt8}
    (hseal : sealDraft c2.hot c2.hot.nextPacketNumber d.builder = (.ok len, buf)) :
    c.produceOutgoingDatagram now outBuf =
      ⟨.ok (some (d.overrideDest.getD c2.hot.activePath, len)), c2.commit d len now, buf⟩ := by
  have hsend : c2.hot.antiAmplification.canSend len = true := by
    rw [AntiAmplificationLimiter.canSend, hval, Bool.true_or]
  have hopen : c.hot.state ≠ .closed := by
    rw [hstate]
    decide
  have hdrain : ¬ (c.hot.state = .draining ∧ c.hot.controlQueue.isEmpty = true) := by
    rw [hstate]
    rintro ⟨hdraining, -⟩
    cases hdraining
  have hprep : (c.checkPto now).housekeeping now = c.prepare now := rfl
  rw [produceOutgoingDatagram, if_neg hopen, if_neg hdrain, hprep]
  dsimp only
  rw [hidle]
  simp only [Bool.false_eq_true, if_false, hb, hdraft, launch, hseal, hsend, Bool.not_true]

/-- **A call that hands out a datagram** committed the draft it assembled. -/
theorem produce_some {c : GtpConnection} {now : MonotonicTime} {outBuf : List UInt8}
    {dest : SocketAddr} {len : Nat}
    (h : (c.produceOutgoingDatagram now outBuf).result = .ok (some (dest, len))) :
    ∃ b, PacketBuilder.new outBuf (nextHeader (c.prepare now).hot now) = .ok b ∧
      (c.prepare now).idle now = false ∧
      ∃ d c2, (c.prepare now).assemble b now = (d, c2) ∧
        sealDraft c2.hot c2.hot.nextPacketNumber d.builder =
          (.ok len, (c.produceOutgoingDatagram now outBuf).buf) ∧
        c2.hot.antiAmplification.canSend len = true ∧
        dest = d.overrideDest.getD c2.hot.activePath ∧
        (c.produceOutgoingDatagram now outBuf).conn = c2.commit d len now := by
  have hprep : (c.checkPto now).housekeeping now = c.prepare now := rfl
  unfold produceOutgoingDatagram at h ⊢
  rw [hprep] at h ⊢
  by_cases hclosed : c.hot.state = .closed
  · rw [if_pos hclosed] at h
    cases h
  by_cases hdrain : c.hot.state = .draining ∧ c.hot.controlQueue.isEmpty = true
  · rw [if_neg hclosed, if_pos hdrain] at h
    cases h
  rw [if_neg hclosed, if_neg hdrain] at h ⊢
  dsimp only at h ⊢
  cases hidle : (c.prepare now).idle now with
  | true =>
    rw [hidle] at h
    cases h
  | false =>
    rw [hidle] at h
    simp only [Bool.false_eq_true, if_false] at h ⊢
    cases hb : PacketBuilder.new outBuf (nextHeader (c.prepare now).hot now) with
    | error e =>
      rw [hb] at h
      cases h
    | ok b =>
      rw [hb] at h
      dsimp only at h ⊢
      rcases hass : (c.prepare now).assemble b now with ⟨d, c2⟩
      rw [hass] at h
      dsimp only at h ⊢
      refine ⟨b, rfl, trivial, d, c2, hass, ?_⟩
      unfold launch at h ⊢
      rcases hseal : sealDraft c2.hot c2.hot.nextPacketNumber d.builder with ⟨res, buf⟩
      rw [hseal] at h
      cases res with
      | error e => cases h
      | ok n =>
        dsimp only at h ⊢
        cases hsend : c2.hot.antiAmplification.canSend n with
        | false =>
          rw [hsend] at h
          cases h
        | true =>
          rw [hsend] at h
          simp only [Bool.not_true, Bool.false_eq_true, if_false] at h ⊢
          obtain ⟨rfl, rfl⟩ := Prod.mk.inj (Option.some.inj (Except.ok.inj h))
          exact ⟨rfl, hsend, rfl, rfl⟩

omit [CryptoSuite] in
theorem requeueItem_spec (now : MonotonicTime) (item : SchedulableItem) (c : GtpConnection) :
    ∃ s n, requeueItem now item c =
        { c with hot.scheduler := s, cold.totalDroppedFrames := n } ∧
      ∀ x, s.Has x → c.hot.scheduler.Has x ∨ x = item :=
  ⟨_, _, rfl, fun _ hx => GameScheduler.requeue_has hx⟩

omit [CryptoSuite] in
/-- Putting a draft back restores the control queue. -/
theorem putBack_spec (c : GtpConnection) (d : Draft) (now : MonotonicTime) :
    ∃ s n, c.putBack d now =
        { c with
          hot.controlQueue := d.drained ++ c.hot.controlQueue, hot.scheduler := s
          cold.totalDroppedFrames := n } ∧
      ∀ x, s.Has x → c.hot.scheduler.Has x ∨ x ∈ d.popped := by
  unfold putBack
  dsimp only
  induction d.popped with
  | nil => exact ⟨_, _, rfl, fun _ hx => Or.inl hx⟩
  | cons item rest ih =>
    obtain ⟨s, n, hrest, hs⟩ := ih
    rw [List.foldr_cons, hrest]
    obtain ⟨s', n', hreq, hs'⟩ := requeueItem_spec now item
      { c with
        hot.controlQueue := d.drained ++ c.hot.controlQueue, hot.scheduler := s
        cold.totalDroppedFrames := n }
    refine ⟨s', n', hreq, fun x hx => ?_⟩
    rcases hs' x hx with hx | rfl
    · rcases hs x hx with hx | hx
      · exact Or.inl hx
      · exact Or.inr (List.mem_cons_of_mem _ hx)
    · exact Or.inr List.mem_cons_self

/-- What a call without a datagram may change. -/
def Unsent (now : MonotonicTime) (c c' : GtpConnection) : Prop :=
  ∃ st ld cc s pv pac cold ev, c' =
      { c with
        hot.state := st, hot.lossDetector := ld, hot.cc := cc, hot.scheduler := s
        hot.pathValidator := pv, hot.pacing := pac, cold := cold, eventQueue := ev } ∧
    LossDetector.Shrinks c.hot.lossDetector ld ∧
    ∀ x, s.Has x → c.hot.scheduler.Has x ∨
      ∃ r, c.hot.lossDetector.Holds r ∧ x = retransmissionItem r now

/-- **Any other call** leaves the queues, the keys, the packet number and the acknowledgement state
as they were. -/
theorem produce_none {c : GtpConnection} {now : MonotonicTime} {outBuf : List UInt8}
    (h : ∀ dest len, (c.produceOutgoingDatagram now outBuf).result ≠ .ok (some (dest, len))) :
    Unsent now c (c.produceOutgoingDatagram now outBuf).conn := by
  have hprep : (c.checkPto now).housekeeping now = c.prepare now := rfl
  obtain ⟨ld, cc, s, pv, pac, cold, ev, hc1, hshrink, -, hs⟩ := c.prepare_spec now
  have hearly : Unsent now c (c.prepare now) := by
    rw [hc1]
    exact ⟨_, _, _, _, _, _, _, _, rfl, hshrink, hs⟩
  unfold produceOutgoingDatagram at h ⊢
  rw [hprep] at h ⊢
  split
  · exact ⟨_, _, _, _, _, _, _, _, rfl, LossDetector.Shrinks.refl _, fun _ hx => Or.inl hx⟩
  rename_i hclosed
  rw [if_neg hclosed] at h
  split
  · exact ⟨_, _, _, _, _, _, _, _, rfl, LossDetector.Shrinks.refl _, fun _ hx => Or.inl hx⟩
  rename_i hdrain
  rw [if_neg hdrain] at h
  dsimp only at h ⊢
  split
  · exact hearly
  rename_i hidle
  rw [if_neg hidle] at h
  split
  · exact hearly
  rename_i b hb
  rw [hb] at h
  dsimp only at h
  obtain ⟨hcar, -, -⟩ := new_nextHeader hb
  have hass := (c.prepare now).assemble_spec hcar now
  rcases hdc : (c.prepare now).assemble b now with ⟨d, c2⟩
  rw [hdc] at h hass
  dsimp only at h hass ⊢
  have hback : Unsent now c (c2.putBack d now) := by
    obtain ⟨s3, n3, hput, hs3⟩ := putBack_spec c2 d now
    have hqueue : d.drained ++ c2.hot.controlQueue = c.hot.controlQueue := by
      rw [← hass.queue, hc1]
    rw [hput, hqueue, hass.conn, hc1]
    refine ⟨c.hot.state, ld, cc, s3, pv, pac, _, ev, rfl, hshrink, fun x hx => ?_⟩
    have hin : (c.prepare now).hot.scheduler.Has x := by
      rcases hs3 x hx with hx | hx
      · exact hass.has x hx
      · exact hass.popped x hx
    rw [hc1] at hin
    exact hs x hin
  unfold launch at h ⊢
  split
  · exact hback
  · rename_i len buf hseal
    rw [hseal] at h
    dsimp only at h
    split
    · exact hback
    · rename_i hsend
      rw [if_neg hsend] at h
      exact absurd rfl (h _ _)

/-! ## 5. Exits -/

/-- The ways out of a call, in the source's order. -/
inductive Exit (c : GtpConnection) (now : MonotonicTime) (outBuf : List UInt8) : Produced → Prop
  | closed (h : c.hot.state = .closed) : Exit c now outBuf ⟨.ok none, c, outBuf⟩
  | drained (h : c.hot.state = .draining ∧ c.hot.controlQueue.isEmpty = true) :
      Exit c now outBuf ⟨.ok none, c.finishDraining, outBuf⟩
  | idle (h : (c.prepare now).idle now = true) :
      Exit c now outBuf ⟨.ok none, c.prepare now, outBuf⟩
  | short {e : TransportError}
      (h : PacketBuilder.new outBuf (nextHeader (c.prepare now).hot now) = .error e) :
      Exit c now outBuf ⟨.error e, c.prepare now, outBuf⟩
  | refused {b : PacketBuilder} {e : TransportError} {buf : List UInt8}
      (hb : PacketBuilder.new outBuf (nextHeader (c.prepare now).hot now) = .ok b)
      (hseal : sealDraft ((c.prepare now).assemble b now).2.hot
        ((c.prepare now).assemble b now).2.hot.nextPacketNumber
        ((c.prepare now).assemble b now).1.builder = (.error e, buf)) :
      Exit c now outBuf ⟨.error e, ((c.prepare now).assemble b now).2.putBack
        ((c.prepare now).assemble b now).1 now, buf⟩
  | limited {b : PacketBuilder} {len : Nat} {buf : List UInt8}
      (hb : PacketBuilder.new outBuf (nextHeader (c.prepare now).hot now) = .ok b)
      (hsend : ((c.prepare now).assemble b now).2.hot.antiAmplification.canSend len = false) :
      Exit c now outBuf ⟨.ok none, ((c.prepare now).assemble b now).2.putBack
        ((c.prepare now).assemble b now).1 now, buf⟩
  | sent {b : PacketBuilder} {len : Nat} {buf : List UInt8}
      (hb : PacketBuilder.new outBuf (nextHeader (c.prepare now).hot now) = .ok b)
      (hseal : sealDraft ((c.prepare now).assemble b now).2.hot
        ((c.prepare now).assemble b now).2.hot.nextPacketNumber
        ((c.prepare now).assemble b now).1.builder = (.ok len, buf)) :
      Exit c now outBuf
        ⟨.ok (some (((c.prepare now).assemble b now).1.overrideDest.getD
          ((c.prepare now).assemble b now).2.hot.activePath, len)),
        ((c.prepare now).assemble b now).2.commit ((c.prepare now).assemble b now).1 len now, buf⟩

/-- **Every call leaves by one of them.** -/
theorem produce_exit (c : GtpConnection) (now : MonotonicTime) (outBuf : List UInt8) :
    Exit c now outBuf (c.produceOutgoingDatagram now outBuf) := by
  have hprep : (c.checkPto now).housekeeping now = c.prepare now := rfl
  unfold produceOutgoingDatagram
  rw [hprep]
  split
  · exact .closed ‹_›
  · split
    · exact .drained ‹_›
    · dsimp only
      split
      · exact .idle ‹_›
      · split
        · exact .short ‹_›
        · rename_i b hb
          unfold launch
          split
          · exact .refused hb ‹_›
          · rename_i len buf hseal
            split
            · rename_i hsend
              exact .limited hb (by simpa using hsend)
            · exact .sent hb hseal

end GtpConnection

end Gtp
