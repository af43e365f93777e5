/-
# The chain of session keys, and the nonces used under it

A ratchet is a function of the key before it, so the key of every phase is fixed by the handshake:
it is an element of a chain, and `OnChain` says that a connection holds the element its counter
points at.

* `OnChain` has one lemma for everything that touches the keys: the ratchet, the answer to an
  announced phase, the tick of the grace window.  `Keyed.run` is a run.
* From this the nonce discipline follows: packet numbers only grow, so two datagrams with one nonce
  would have to be sealed under different IVs, hence in different phases (`sealings_spec`).
* `nonce_unique` says it of the log of a run.

Two phases may have the same key only if the key derivation has a cycle; that is not excluded here,
and the statement speaks of phase and nonce.  The two directions have keys of their own, and nothing
is said about nonces across them.  The bound of `2^64 - 1` calls is where the packet number would
stay at its largest value.
-/
import Gtp.Core.Steps

namespace Gtp

open BigEndian Frame

/-! ## 1. The chain -/

/-- The key and IV of a phase, by iterating `ratchet_key` from the handshake's. -/
def keyChain [CryptoSuite] (base : Bytes 32 × Bytes 12) (cid : ConnectionId) :
    Nat → Bytes 32 × Bytes 12
  | 0 => base
  | phase + 1 => ratchetKey (keyChain base cid phase).1 cid (phase + 1)

/-- The protector of a phase. -/
def protectorAt [CryptoSuite] (base : Bytes 32 × Bytes 12) (cid : ConnectionId) (phase : Nat) :
    Protector :=
  .newForCid (keyChain base cid phase).1 (keyChain base cid phase).2 cid

/-- The keys stand on the chains of the two directions, at the phase the counter names; a retained
receive key is that of the phase before. -/
structure OnChain [CryptoSuite] (tx rx : Bytes 32 × Bytes 12) (cid : ConnectionId)
    (k : SessionKeys) : Prop where
  txProtector : k.txProtector = protectorAt tx cid k.keyPhaseCounter
  rxProtector : k.rxProtector = protectorAt rx cid k.keyPhaseCounter
  txKey : k.txKey = (keyChain tx cid k.keyPhaseCounter).1
  rxKey : k.rxKey = (keyChain rx cid k.keyPhaseCounter).1
  previous : ∀ p, k.rxProtectorPrev = some p →
    ∃ phase, k.keyPhaseCounter = phase + 1 ∧ p = protectorAt rx cid phase

namespace OnChain

variable [CryptoSuite] {tx rx : Bytes 32 × Bytes 12} {cid : ConnectionId} {k : SessionKeys}

theorem advance (h : OnChain tx rx cid k) : OnChain tx rx cid (k.advance cid) := by
  have htx : ratchetKey k.txKey cid (k.keyPhaseCounter + 1) =
      keyChain tx cid (k.keyPhaseCounter + 1) := by
    rw [h.txKey]
    rfl
  have hrx : ratchetKey k.rxKey cid (k.keyPhaseCounter + 1) =
      keyChain rx cid (k.keyPhaseCounter + 1) := by
    rw [h.rxKey]
    rfl
  refine ⟨?_, ?_, ?_, ?_, ?_⟩
  · simp only [SessionKeys.advance, htx, protectorAt]
  · simp only [SessionKeys.advance, hrx, protectorAt]
  · simp only [SessionKeys.advance, htx]
  · simp only [SessionKeys.advance, hrx]
  · intro p hp
    obtain rfl : k.rxProtector = p := Option.some.inj hp
    exact ⟨k.keyPhaseCounter, rfl, h.rxProtector⟩

theorem ratchet (h : OnChain tx rx cid k) : OnChain tx rx cid (k.ratchet cid) := by
  unfold SessionKeys.ratchet
  split
  · exact h
  · exact h.advance

theorem follow (h : OnChain tx rx cid k) (announced : UInt64) :
    OnChain tx rx cid (k.follow cid announced) := by
  unfold SessionKeys.follow
  split
  · exact h.ratchet
  · exact h

theorem tick (h : OnChain tx rx cid k) : OnChain tx rx cid k.tickRxKeyGrace := by
  unfold SessionKeys.tickRxKeyGrace
  split
  · exact h
  · refine ⟨h.txProtector, h.rxProtector, h.txKey, h.rxKey, ?_⟩
    intro p hp
    dsimp only at hp
    split at hp
    · cases hp
    · exact h.previous p hp

theorem onFrames (h : OnChain tx rx cid k) (fs : List Frame) :
    OnChain tx rx cid (fs.foldl (SessionKeys.onFrame cid) k) := by
  induction fs generalizing k with
  | nil => exact h
  | cons f fs ih =>
    refine ih ?_
    cases f with
    | keyUpdate p proof => exact h.follow p
    | _ => exact h

end OnChain

namespace GtpConnection

variable [CryptoSuite]

/-- The connection has this id, and its keys stand on these chains. -/
def Keyed (tx rx : Bytes 32 × Bytes 12) (cid : ConnectionId) (c : GtpConnection) : Prop :=
  c.hot.connectionId = cid ∧ OnChain tx rx cid c.hot.toSessionKeys

theorem Setup.start_keyed (s : Setup) :
    Keyed (s.keys.forRole s.asClient).1 (s.keys.forRole s.asClient).2 s.cid s.start :=
  ⟨rfl, ⟨rfl, rfl, rfl, rfl, fun _ hp => by cases hp⟩⟩

theorem Keyed.of_link {tx rx : Bytes 32 × Bytes 12} {cid : ConnectionId} {c : GtpConnection}
    {l : Link} (h : c.hot.link = l) (hcid : l.connectionId = cid)
    (hkeys : OnChain tx rx cid l.keys) : Keyed tx rx cid c := by
  subst h
  exact ⟨hcid, hkeys⟩

/-- **Every call stays on the chains.** -/
theorem Keyed.step {tx rx : Bytes 32 × Bytes 12} {cid : ConnectionId} {c : GtpConnection}
    (h : Keyed tx rx cid c) (op : Op) : Keyed tx rx cid (c.step op) := by
  obtain ⟨hcid, hkeys⟩ := h
  cases c.step_moves op with
  | quiet ctrls _ _ hlink => exact .of_link hlink hcid hkeys
  | ignored _ hhot => exact .of_link (congrArg ConnectionHot.link hhot) hcid hkeys
  | received _ hrec =>
    obtain ⟨answers, -, hlink⟩ := hrec.link
    refine .of_link hlink hcid ?_
    rw [hcid]
    exact hkeys.tick.onFrames _
  | silent _ hlink => exact .of_link hlink hcid hkeys
  | transmitted _ htrans =>
    obtain ⟨queue, -, hlink⟩ := htrans.rest
    refine .of_link hlink hcid ?_
    dsimp only
    split
    · rw [hcid]
      exact hkeys.ratchet
    · exact hkeys
  | ratcheted hlink =>
    refine .of_link hlink hcid ?_
    rw [hcid]
    exact hkeys.ratchet
  | announced hlink =>
    split at hlink
    · exact .of_link hlink hcid hkeys
    · exact .of_link hlink hcid hkeys

/-- **Every reachable connection** holds the keys of its phase. -/
theorem Keyed.run {tx rx : Bytes 32 × Bytes 12} {cid : ConnectionId} {c : GtpConnection}
    (h : Keyed tx rx cid c) (ops : List Op) : Keyed tx rx cid (c.run ops) := by
  induction ops generalizing c with
  | nil => exact h
  | cons op ops ih => exact ih (h.step op)

end GtpConnection

/-! ## 2. Nonces -/

/-- Xor with a fixed list loses nothing. -/
theorem zipWith_xor_injective {iv a b : List UInt8} (ha : a.length = iv.length)
    (hb : b.length = iv.length)
    (h : List.zipWith (· ^^^ ·) iv a = List.zipWith (· ^^^ ·) iv b) : a = b := by
  induction iv generalizing a b with
  | nil =>
    rw [List.length_nil, List.length_eq_zero_iff] at ha hb
    rw [ha, hb]
  | cons x iv ih =>
    match a, b, ha, hb with
    | y :: a, z :: b, ha, hb =>
      rw [List.zipWith_cons_cons, List.zipWith_cons_cons, List.cons.injEq] at h
      have hyz : y = z := by
        have hxor := congrArg (x ^^^ ·) h.1
        simpa only [← UInt8.xor_assoc, UInt8.xor_self, UInt8.zero_xor] using hxor
      rw [hyz, ih (Nat.succ.inj ha) (Nat.succ.inj hb) h.2]

/-- For a fixed IV and connection id, packet numbers and nonces correspond one to one. -/
theorem deriveNonce_injective (p : Protector) (cid : ConnectionId) :
    Function.Injective (p.deriveNonce cid) := by
  intro m n h
  have hlists := congrArg List.Vector.toList h
  have hfield : ∀ pn : PacketNumber,
      ((toBe 8 cid.toNat).take 4 ++ toBe 8 pn.toNat).length = p.iv.toList.length := by
    intro pn
    simp [p.iv.toList_length]
  have hfields := zipWith_xor_injective (hfield m) (hfield n) hlists
  have hpn : m.toNat = n.toNat :=
    toBe_injective m.toNat_lt n.toNat_lt (List.append_cancel_left hfields)
  exact UInt64.toNat.inj hpn

namespace GtpConnection

/-- A datagram that left, with the phase and the protector that were current when it was sealed. -/
structure Sealing where
  keyPhaseCounter : Nat
  protector : Protector
  datagram : List UInt8

variable [CryptoSuite]

/-- The datagram was sealed with this nonce: that of its own packet number and connection id. -/
def Sealing.UsedNonce (e : Sealing) (nonce : Bytes 12) : Prop :=
  ∃ hd pt, Sealed e.protector hd pt e.datagram ∧
    nonce = e.protector.deriveNonce hd.connectionId hd.packetNumber

/-- The datagrams that a run hands to the network, oldest first. -/
def sealings : GtpConnection → List Op → List Sealing
  | _, [] => []
  | c, op :: ops =>
    ((c.datagramOf op).toList.map fun e => ⟨c.hot.keyPhaseCounter, c.hot.txProtector, e.2⟩) ++
      sealings (c.step op) ops

omit [CryptoSuite] in
def Op.isProduce : Op → Bool
  | .produce .. => true
  | _ => false

/-- A sealing of the run: its datagram carries a packet number from `pn` on, its protector is that
of its phase. -/
def Sealing.From (tx : Bytes 32 × Bytes 12) (cid : ConnectionId) (pn : Nat) (e : Sealing) : Prop :=
  e.protector = protectorAt tx cid e.keyPhaseCounter ∧
    ∃ hd pt, Sealed e.protector hd pt e.datagram ∧ hd.connectionId = cid ∧
      pn ≤ hd.packetNumber.toNat

/-- The nonce of a sealing is determined by its datagram. -/
theorem Sealing.usedNonce_eq {e : Sealing} {hd : PacketHeader} {pt : List UInt8} {nonce : Bytes 12}
    (hseal : Sealed e.protector hd pt e.datagram) (h : e.UsedNonce nonce) :
    nonce = e.protector.deriveNonce hd.connectionId hd.packetNumber := by
  obtain ⟨hd', pt', hseal', rfl⟩ := h
  have hdec := hseal'.decode
  rw [hseal.decode] at hdec
  rw [(Prod.mk.inj (Except.ok.inj hdec)).1]

/-- Two sealings with one phase and one nonce carry one packet number. -/
theorem Sealing.pn_eq {tx : Bytes 32 × Bytes 12} {cid : ConnectionId} {a b : Sealing}
    {hda hdb : PacketHeader} {pta ptb : List UInt8}
    (hpa : a.protector = protectorAt tx cid a.keyPhaseCounter)
    (hpb : b.protector = protectorAt tx cid b.keyPhaseCounter)
    (hsa : Sealed a.protector hda pta a.datagram) (hsb : Sealed b.protector hdb ptb b.datagram)
    (hca : hda.connectionId = cid) (hcb : hdb.connectionId = cid) {nonce : Bytes 12}
    (hna : a.UsedNonce nonce) (hnb : b.UsedNonce nonce)
    (hphase : a.keyPhaseCounter = b.keyPhaseCounter) : hda.packetNumber = hdb.packetNumber := by
  have ha := usedNonce_eq hsa hna
  have hb := usedNonce_eq hsb hnb
  have hprot : a.protector = b.protector := by rw [hpa, hpb, hphase]
  rw [ha, hca, hcb, hprot] at hb
  exact deriveNonce_injective _ _ hb

/-- What the first call of a run leaves for the rest: the packet number moves exactly when a
datagram left, and only a `produce` call moves it. -/
theorem step_packetNumber (c : GtpConnection) (op : Op) :
    (c.step op).hot.nextPacketNumber = (match c.datagramOf op with
      | some _ => PacketNumber.next c.hot.nextPacketNumber
      | none => c.hot.nextPacketNumber) ∧
    (op.isProduce = false → c.datagramOf op = none) := by
  cases c.step_moves op with
  | quiet ctrls hq _ hlink =>
    have hnone : c.datagramOf op = none := by
      cases op <;> first | rfl | cases hq
    rw [hnone]
    exact ⟨congrArg Link.nextPacketNumber hlink, fun _ => rfl⟩
  | ignored _ hhot => exact ⟨congrArg ConnectionHot.nextPacketNumber hhot, fun _ => rfl⟩
  | received _ hrec =>
    obtain ⟨answers, -, hlink⟩ := hrec.link
    exact ⟨congrArg Link.nextPacketNumber hlink, fun _ => rfl⟩
  | silent hnone hlink =>
    rw [hnone]
    exact ⟨congrArg Link.nextPacketNumber hlink, fun _ => rfl⟩
  | transmitted hsome htrans =>
    obtain ⟨queue, -, hlink⟩ := htrans.rest
    rw [hsome]
    exact ⟨congrArg Link.nextPacketNumber hlink, fun h => by cases h⟩
  | ratcheted hlink => exact ⟨congrArg Link.nextPacketNumber hlink, fun _ => rfl⟩
  | announced hlink =>
    refine ⟨?_, fun _ => rfl⟩
    split at hlink <;> exact congrArg Link.nextPacketNumber hlink

/-- **The log of a run.**  Every datagram is sealed with the protector of its phase under a packet
number from the run's first one on, and no two share phase and nonce. -/
theorem sealings_spec {tx rx : Bytes 32 × Bytes 12} {cid : ConnectionId} (ops : List Op)
    {c : GtpConnection} (h : Keyed tx rx cid c)
    (hlen : c.hot.nextPacketNumber.toNat + ops.countP Op.isProduce ≤ 2 ^ 64 - 1) :
    (∀ e ∈ sealings c ops, e.From tx cid c.hot.nextPacketNumber.toNat) ∧
      (sealings c ops).Pairwise fun a b => ∀ nonce, a.UsedNonce nonce → b.UsedNonce nonce →
        a.keyPhaseCounter ≠ b.keyPhaseCounter := by
  induction ops generalizing c with
  | nil => exact ⟨by simp [sealings], .nil⟩
  | cons op ops ih =>
    obtain ⟨hpn, hproduce⟩ := c.step_packetNumber op
    cases hdg : c.datagramOf op with
    | none =>
      rw [hdg] at hpn
      dsimp only at hpn
      have hrest : ops.countP Op.isProduce ≤ (op :: ops).countP Op.isProduce :=
        (List.sublist_cons_self op ops).countP_le
      obtain ⟨hfrom, hpair⟩ := ih (h.step op) (by rw [hpn]; omega)
      rw [sealings, hdg, Option.toList_none, List.map_nil, List.nil_append]
      rw [hpn] at hfrom
      exact ⟨hfrom, hpair⟩
    | some sent =>
      obtain ⟨dest, dg⟩ := sent
      rw [hdg] at hpn
      dsimp only at hpn
      have hop : op.isProduce = true := by
        by_contra hne
        rw [hproduce (Bool.eq_false_iff.mpr hne)] at hdg
        cases hdg
      rw [List.countP_cons_of_pos hop] at hlen
      -- the packet number grows by one: the run is too short for it to wrap
      have hnext : (c.step op).hot.nextPacketNumber.toNat = c.hot.nextPacketNumber.toNat + 1 := by
        rw [hpn]
        simp only [PacketNumber.next, UInt64.toNat_add, UInt64.toNat_one]
        omega
      obtain ⟨hfrom, hpair⟩ := ih (h.step op) (by omega)
      obtain ⟨d, hd, hsealed, hcid, hnum⟩ : ∃ d hd,
          Sealed c.hot.txProtector hd (payloadOf (Draft.frames d)) dg ∧
            hd.connectionId = c.hot.connectionId ∧ hd.packetNumber = c.hot.nextPacketNumber := by
        cases c.step_moves op with
        | transmitted hsome htrans =>
          rw [hdg] at hsome
          obtain ⟨rfl, rfl⟩ := Prod.mk.inj (Option.some.inj hsome)
          exact ⟨_, _, htrans.sealing, htrans.connectionId, htrans.packetNumber⟩
        | silent hnone =>
          rw [hdg] at hnone
          cases hnone
        | quiet _ hq =>
          cases op with
          | produce => cases hq
          | _ => cases hop
        | ignored => cases hop
        | received => cases hop
        | ratcheted => cases hop
        | announced => cases hop
      have hprot := h.2.txProtector
      rw [sealings, hdg, Option.toList_some, List.map_singleton, List.singleton_append]
      refine ⟨?_, List.pairwise_cons.mpr ⟨?_, hpair⟩⟩
      · intro e he
        rcases List.mem_cons.mp he with rfl | he
        · exact ⟨hprot, hd, _, hsealed, hcid.trans h.1, by rw [hnum]⟩
        · obtain ⟨hp, hd', pt', hs', hc', hle⟩ := hfrom e he
          exact ⟨hp, hd', pt', hs', hc', by omega⟩
      · intro e he nonce hn hn' hphase
        obtain ⟨hp, hd', pt', hs', hc', hle⟩ := hfrom e he
        have heq := Sealing.pn_eq (a := ⟨c.hot.keyPhaseCounter, c.hot.txProtector, dg⟩) hprot hp
          hsealed hs' (hcid.trans h.1) hc' hn hn' hphase
        rw [hnum] at heq
        rw [← heq, hnext] at hle
        omega

/-- **Nonce uniqueness.** In every run with fewer than 2^64 - 1 `produce_outgoing_datagram` calls,
every datagram that leaves was sealed with the nonce of its packet number and connection id, no two
share both phase and nonce, and `derive_nonce` is injective in the packet number.  The run may
contain any calls, at any times, and ratchets of any kind. -/
theorem nonce_unique (s : Setup) (ops : List Op)
    (hcalls : ops.countP Op.isProduce < 2 ^ 64 - 1) :
    (∀ e ∈ sealings s.start ops, ∃ nonce, e.UsedNonce nonce) ∧
      ((sealings s.start ops).Pairwise fun a b => ∀ nonce nonce', a.UsedNonce nonce →
        b.UsedNonce nonce' → (a.keyPhaseCounter, nonce) ≠ (b.keyPhaseCounter, nonce')) ∧
      ∀ (p : Protector) (cid : ConnectionId), Function.Injective (p.deriveNonce cid) := by
  have hstart : s.start.hot.nextPacketNumber.toNat = 1 := rfl
  obtain ⟨hfrom, hpair⟩ := sealings_spec ops s.start_keyed (by rw [hstart]; omega)
  refine ⟨?_, ?_, deriveNonce_injective⟩
  · intro e he
    obtain ⟨-, hd, pt, hseal, -⟩ := hfrom e he
    exact ⟨_, hd, pt, hseal, rfl⟩
  · refine hpair.imp ?_
    intro a b hab nonce nonce' hna hnb heq
    obtain ⟨hphase, rfl⟩ := Prod.mk.inj heq
    exact hab nonce hna hnb hphase

end GtpConnection

/-! ## 3. On a concrete connection -/

namespace GtpConnection

attribute [local instance] keyTagSuite

/-- A ping, a ratchet by the deferred path, and a ping under the next key. -/
def ratchetRun : List Op :=
  [.sendPing 1, .initiateKeyUpdate, .produce 10 (List.replicate 200 0), .sendPing 2,
    .produce 10 (List.replicate 200 0)]

/-- The theorem at a run that hands out a datagram in each of two phases. -/
theorem nonce_unique_ratchetRun :
    (sealings (sampleSetup true).start ratchetRun).map Sealing.keyPhaseCounter = [0, 1] ∧
      (sealings (sampleSetup true).start ratchetRun).Pairwise fun a b => ∀ nonce nonce',
        a.UsedNonce nonce → b.UsedNonce nonce' →
          (a.keyPhaseCounter, nonce) ≠ (b.keyPhaseCounter, nonce') :=
  ⟨by decide +kernel, (nonce_unique (sampleSetup true) ratchetRun (by decide)).2.1⟩

end GtpConnection

end Gtp
