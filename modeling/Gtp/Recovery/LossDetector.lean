/-
# The sender's loss detector (`gtp-recovery/src/loss_detector.rs`, `sent_packet.rs`)

The detector keeps a record of every packet that is neither acknowledged nor given up.  An ACK
frame is turned into packet numbers by `parse_ack_ranges`, a walk over gap/length pairs that
stops at the first range it cannot trust; the numbers are then removed from the records, and what
is left is swept for losses.

Each operation is cut at its loops: `ackOne` is one turn of the acknowledgement loop, `dropLost`
one turn of the sweep.  Packet numbers are naturals here, as the map keys of the source are `u64`.

* `onAckReceived_spec` says of an ACK what happens to the records: the outstanding packets among the
  acknowledged numbers are reported and removed, no record appears, and whatever is to be
  retransmitted comes out of a record that was there.
* `onTimeout_spec` is the same for a probe timeout.
* `Shrinks` is what all operations but `on_packet_sent` do to the records; `Inv` what a run keeps.
* `Unsampled` is for the packets of an old path, which do not seed the estimator of a new one.

The counters of bytes are the subject of `Gtp.Recovery.Accounting`.  The delivery rate is computed
and reported; no function of the protocol reads it.
-/
import Gtp.Wire.Frame
import Gtp.Recovery.Rtt

namespace Gtp

/-! ## 1. Records -/

/-- `RetransmissionRecord`: what is needed to send one reliable fragment again. -/
structure RetransmissionRecord where
  messageId : MessageId
  fragmentId : FragmentId
  transmissionId : TransmissionId
  groupId : OrderedGroupId
  orderSeq : UInt32
  totalFragments : UInt16
  payload : List UInt8
  deriving DecidableEq, Repr

/-- `SentPacketRecord`. -/
structure SentPacketRecord where
  packetNumber : PacketNumber
  sendTime : MonotonicTime
  bytes : Nat
  ackEliciting : Bool
  inFlight : Bool
  retransmittableFrames : List RetransmissionRecord
  deriving DecidableEq, Repr

/-- `PACKET_THRESHOLD`. -/
def packetThreshold : Nat := 3

/-- `MAX_ACKED_PER_FRAME`. -/
def maxAckedPerFrame : Nat := 16384

/-- `MAX_PTO_RETRANSMIT_BURST`. -/
def maxPtoRetransmitBurst : Nat := 2

/-- `MAX_PTO_BACKOFF_EXPONENT`. -/
def maxPtoBackoffExponent : Nat := 8

/-- `AckEvent`. -/
structure AckEvent where
  largestAcked : PacketNumber
  ackedPackets : List SentPacketRecord
  bytesAcked : Nat
  rttSample : Option Duration

/-- `LossEvent`. -/
structure LossEvent where
  lostPackets : List SentPacketRecord
  bytesLost : Nat
  retransmittable : List RetransmissionRecord

/-- `DeliveryRateSample`. -/
structure DeliveryRateSample where
  deliveredBytes : Nat
  interval : Duration
  rateBytesPerSec : Nat

/-- The outstanding packets, `BTreeMap<u64, SentPacketRecord>`. -/
abbrev SentPackets := Std.ExtTreeMap Nat SentPacketRecord compare

/-- `LossDetector`. -/
structure LossDetector where
  rttStats : RttStats
  sentPackets : SentPackets
  inflightBytes : Nat
  largestAckedPacket : Option PacketNumber
  largestSentPacket : Nat
  timeOfLastAckElicitingPacket : MonotonicTime
  ptoCount : Nat
  totalBytesSent : Nat
  totalBytesAcked : Nat
  lastDeliveryRateTime : MonotonicTime
  lastDeliveryRateBytes : Nat
  rttSampleFloor : Nat

namespace LossDetector

/-- `LossDetector::default`. -/
def default : LossDetector where
  rttStats := .default
  sentPackets := ∅
  inflightBytes := 0
  largestAckedPacket := none
  largestSentPacket := 0
  timeOfLastAckElicitingPacket := 0
  ptoCount := 0
  totalBytesSent := 0
  totalBytesAcked := 0
  lastDeliveryRateTime := 0
  lastDeliveryRateBytes := 0
  rttSampleFloor := 0

/-- `LossDetector::on_path_migration`. -/
def onPathMigration (d : LossDetector) (firstPnOnNewPath : PacketNumber) : LossDetector :=
  { d with rttStats := d.rttStats.resetForNewPath, rttSampleFloor := firstPnOnNewPath.toNat }

/-- `LossDetector::on_packet_sent`. -/
def onPacketSent (d : LossDetector) (record : SentPacketRecord) : LossDetector :=
  { d with
    timeOfLastAckElicitingPacket :=
      if record.ackEliciting then record.sendTime else d.timeOfLastAckElicitingPacket
    totalBytesSent := wrapAdd d.totalBytesSent record.bytes
    largestSentPacket := max d.largestSentPacket record.packetNumber.toNat
    inflightBytes :=
      if record.inFlight then satAdd d.inflightBytes record.bytes else d.inflightBytes
    sentPackets := d.sentPackets.insert record.packetNumber.toNat record }

/-- `LossDetector::pto_duration_with_backoff`. -/
def ptoDurationWithBackoff (d : LossDetector) (maxPto : Duration) : Duration :=
  let factor := 2 ^ min d.ptoCount maxPtoBackoffExponent
  min (satMul d.rttStats.ptoDuration factor) maxPto

/-! ## 2. ACK ranges -/

/-- The loop of `parse_ack_ranges` at range `i`, with `total` numbers collected and the low edge
of the previous block.  Range 0 starts at `largest_acked`, every later one below the gap. -/
def parseWalk (largestPn i total prevLow : Nat) : List AckRange → List Nat
  | [] => []
  | range :: rest =>
    let gap := range.gap.toNat
    if 0 < i ∧ prevLow < gap + 1 then []
    else
      let blockHigh := if 0 < i then prevLow - gap - 1 else largestPn
      let length := range.length.toNat
      if blockHigh < length then []
      else
        let blockLow := blockHigh - length
        let count := length + 1
        if maxAckedPerFrame < total + count then []
        else
          (List.range' blockLow count).reverse ++
            parseWalk largestPn (i + 1) (total + count) blockLow rest

/-- `LossDetector::parse_ack_ranges`. -/
def parseAckRanges (largestPn : Nat) (ranges : List AckRange) (rangeCount : Nat) : List Nat :=
  parseWalk largestPn 0 0 largestPn (ranges.take rangeCount)

/-! ## 3. Acknowledgement and loss -/

/-- The variables of the acknowledgement loop. -/
structure AckAcc where
  det : LossDetector
  newlyAcked : List SentPacketRecord
  bytesAcked : Nat
  rttSample : Option Duration

/-- One turn of the acknowledgement loop. -/
def ackOne (largestPn : Nat) (ackDelay : Duration) (now : MonotonicTime) (acc : AckAcc)
    (pn : Nat) : AckAcc :=
  match acc.det.sentPackets[pn]? with
  | none => acc
  | some record =>
    let det := { acc.det with sentPackets := acc.det.sentPackets.erase pn }
    let det :=
      if record.inFlight then { det with inflightBytes := det.inflightBytes - record.bytes } else det
    let bytesAcked := if record.inFlight then acc.bytesAcked + record.bytes else acc.bytesAcked
    let sample := now - record.sendTime
    -- only the largest packet, and only one sent on the present path, seeds the estimator
    let seeds := pn = largestPn ∧ det.rttSampleFloor ≤ pn
    { det := if seeds then { det with rttStats := det.rttStats.update sample ackDelay } else det
      newlyAcked := acc.newlyAcked ++ [record]
      bytesAcked
      rttSample := if seeds then some sample else acc.rttSample }

/-- The counters updated after the loop: the bytes acknowledged, the largest number acknowledged,
and the PTO backoff, which new progress resets. -/
def AckAcc.settle (acc : AckAcc) (largestAcked : PacketNumber) : LossDetector :=
  { acc.det with
    totalBytesAcked := acc.det.totalBytesAcked + acc.bytesAcked
    largestAckedPacket :=
      match acc.det.largestAckedPacket with
      | none => some largestAcked
      | some l => if l.toNat < largestAcked.toNat then some largestAcked else some l
    ptoCount := if acc.newlyAcked.isEmpty then acc.det.ptoCount else 0 }

/-- The delivery-rate block of `on_ack_received`. -/
def deliveryRate (d : LossDetector) (now : MonotonicTime) :
    LossDetector × Option DeliveryRateSample :=
  if d.lastDeliveryRateTime ≠ 0 then
    let interval := now - d.lastDeliveryRateTime
    if 1000 < interval then
      let delivered := d.totalBytesAcked - d.lastDeliveryRateBytes
      let rate := (delivered.toFloat / (interval.toFloat / 1000000.0)).toUInt64.toNat
      ({ d with lastDeliveryRateTime := now, lastDeliveryRateBytes := d.totalBytesAcked },
        some ⟨delivered, interval, rate⟩)
    else (d, none)
  else
    ({ d with lastDeliveryRateTime := now, lastDeliveryRateBytes := d.totalBytesAcked }, none)

/-- The packets the sweep declares lost: in flight, ack-eliciting, at or below the largest
acknowledged number, and past the packet or the time threshold. -/
def isLost (largestPn : Nat) (timeThreshold : Duration) (now : MonotonicTime) (pn : Nat)
    (record : SentPacketRecord) : Bool :=
  if largestPn < pn || !record.inFlight || !record.ackEliciting then false
  else decide (wrapAdd pn packetThreshold ≤ largestPn) ||
    decide (timeThreshold ≤ now - record.sendTime)

/-- One turn of the removal loop of the sweep. -/
def dropLost (acc : LossDetector × LossEvent) (pn : Nat) : LossDetector × LossEvent :=
  match acc.1.sentPackets[pn]? with
  | none => acc
  | some record =>
    let det := { acc.1 with sentPackets := acc.1.sentPackets.erase pn }
    ( if record.inFlight then { det with inflightBytes := det.inflightBytes - record.bytes } else det,
      { lostPackets := acc.2.lostPackets ++ [record]
        bytesLost := acc.2.bytesLost + record.bytes
        retransmittable := acc.2.retransmittable ++ record.retransmittableFrames })

/-- The loss sweep of `on_ack_received`. -/
def detectLost (d : LossDetector) (largestPn : Nat) (now : MonotonicTime) :
    LossDetector × LossEvent :=
  let timeThreshold := max d.rttStats.smoothedRtt d.rttStats.latestRtt * 9 / 8
  let lostPns := (d.sentPackets.toList.filter
    fun e => isLost largestPn timeThreshold now e.1 e.2).map Prod.fst
  lostPns.foldl dropLost (d, ⟨[], 0, []⟩)

/-- `LossDetector::on_ack_received`. -/
def onAckReceived (d : LossDetector) (largestAcked : PacketNumber) (ackDelayUs : UInt32)
    (ranges : List AckRange) (rangeCount : Nat) (now : MonotonicTime) :
    LossDetector × AckEvent × LossEvent × Option DeliveryRateSample :=
  let largestPn := largestAcked.toNat
  -- a peer cannot acknowledge what was never sent
  if d.largestSentPacket < largestPn then
    (d, ⟨largestAcked, [], 0, none⟩, ⟨[], 0, []⟩, none)
  else
    let ackedNumbers := parseAckRanges largestPn ranges rangeCount
    let acc := ackedNumbers.foldl (ackOne largestPn ackDelayUs.toNat now) ⟨d, [], 0, none⟩
    let (d, deliverySample) := (acc.settle largestAcked).deliveryRate now
    let (d, loss) := d.detectLost largestPn now
    (d, ⟨largestAcked, acc.newlyAcked, acc.bytesAcked, acc.rttSample⟩, loss, deliverySample)

/-- `LossDetector::on_timeout`: the oldest two in-flight records are taken out and their frames
handed back for retransmission. -/
def onTimeout (d : LossDetector) : LossDetector × LossEvent :=
  let drained := (d.sentPackets.toList.filter fun e => e.2.inFlight).take maxPtoRetransmitBurst
  let bytesDrained := (drained.map fun e => e.2.bytes).sum
  ({ d with
      ptoCount := min (d.ptoCount + 1) (2 ^ 32 - 1)
      sentPackets := drained.foldl (fun m e => m.erase e.1) d.sentPackets
      inflightBytes := d.inflightBytes - bytesDrained },
    { lostPackets := []
      bytesLost := bytesDrained
      retransmittable := drained.flatMap fun e => e.2.retransmittableFrames })

/-! ## 4. What the operations do to the records

Apart from `on_packet_sent` every operation only removes records, and every frame it hands back
for retransmission comes out of a record it removed. -/

/-- `d'` has no record that `d` did not have. -/
structure Shrinks (d d' : LossDetector) : Prop where
  largestSent : d'.largestSentPacket = d.largestSentPacket
  sub : ∀ (pn : Nat) r, d'.sentPackets[pn]? = some r → d.sentPackets[pn]? = some r

theorem Shrinks.refl (d : LossDetector) : Shrinks d d := ⟨rfl, fun _ _ h => h⟩

theorem Shrinks.trans {d d' d'' : LossDetector} (h : Shrinks d d') (h' : Shrinks d' d'') :
    Shrinks d d'' :=
  ⟨h'.largestSent.trans h.largestSent, fun pn r hr => h.sub pn r (h'.sub pn r hr)⟩

theorem getElem?_erase_some {m : SentPackets} {k pn : Nat} {r : SentPacketRecord}
    (h : (m.erase k)[pn]? = some r) : pn ≠ k ∧ m[pn]? = some r := by
  rw [Std.ExtTreeMap.getElem?_erase] at h
  split at h
  · cases h
  · rename_i hne
    exact ⟨fun he => hne (by rw [he]; exact Std.compare_self), h⟩

theorem getElem?_erase_ne {m : SentPackets} {k pn : Nat} (h : pn ≠ k) :
    (m.erase k)[pn]? = m[pn]? := by
  rw [Std.ExtTreeMap.getElem?_erase, if_neg]
  intro he
  exact h (Std.LawfulEqOrd.eq_of_compare he).symm

theorem getElem?_erase_same (m : SentPackets) (k : Nat) : (m.erase k)[k]? = none := by
  rw [Std.ExtTreeMap.getElem?_erase, if_pos Std.compare_self]

/-- A record of the detector carries this retransmission record. -/
def Holds (d : LossDetector) (rec : RetransmissionRecord) : Prop :=
  ∃ (pn : Nat) (r : SentPacketRecord), d.sentPackets[pn]? = some r ∧ rec ∈ r.retransmittableFrames

theorem Shrinks.holds {d d' : LossDetector} (h : Shrinks d d') {rec : RetransmissionRecord}
    (hr : Holds d' rec) : Holds d rec := by
  obtain ⟨pn, r, hget, hmem⟩ := hr
  exact ⟨pn, r, h.sub pn r hget, hmem⟩

/-- Only a sent packet brings records in: its own. -/
theorem holds_onPacketSent {d : LossDetector} {record : SentPacketRecord}
    {rec : RetransmissionRecord} (h : Holds (d.onPacketSent record) rec) :
    Holds d rec ∨ rec ∈ record.retransmittableFrames := by
  obtain ⟨pn, r, hget, hmem⟩ := h
  simp only [onPacketSent, Std.ExtTreeMap.getElem?_insert] at hget
  split at hget
  · obtain rfl := Option.some.inj hget
    exact Or.inr hmem
  · exact Or.inl ⟨pn, r, hget, hmem⟩

/-- One turn of the acknowledgement loop, seen from the records. -/
theorem ackOne_sentPackets (largestPn : Nat) (delay : Duration) (now : MonotonicTime)
    (acc : AckAcc) (pn : Nat) :
    (ackOne largestPn delay now acc pn).det.sentPackets = acc.det.sentPackets.erase pn := by
  unfold ackOne
  split
  · rename_i hnone
    apply Std.ExtTreeMap.ext_getElem?
    intro k
    by_cases hk : k = pn
    · rw [hk, hnone, getElem?_erase_same]
    · rw [getElem?_erase_ne hk]
  · dsimp only
    split <;> split <;> rfl

theorem ackOne_largestSent (largestPn : Nat) (delay : Duration) (now : MonotonicTime)
    (acc : AckAcc) (pn : Nat) :
    (ackOne largestPn delay now acc pn).det.largestSentPacket = acc.det.largestSentPacket := by
  unfold ackOne
  split
  · rfl
  · dsimp only
    split <;> split <;> rfl

theorem ackOne_newlyAcked (largestPn : Nat) (delay : Duration) (now : MonotonicTime)
    (acc : AckAcc) (pn : Nat) :
    (ackOne largestPn delay now acc pn).newlyAcked =
      acc.newlyAcked ++ (acc.det.sentPackets[pn]?).toList := by
  unfold ackOne
  split
  · rename_i hnone
    simp [hnone]
  · rename_i record hsome
    simp [hsome]

/-- **The acknowledgement loop.**  It takes out exactly the outstanding packets among `ns`. -/
theorem ackFold_spec (largestPn : Nat) (delay : Duration) (now : MonotonicTime) (ns : List Nat)
    (acc : AckAcc) :
    Shrinks acc.det (ns.foldl (ackOne largestPn delay now) acc).det ∧
    (∀ pn ∈ ns, (ns.foldl (ackOne largestPn delay now) acc).det.sentPackets[pn]? = none) ∧
    ∀ r, r ∈ (ns.foldl (ackOne largestPn delay now) acc).newlyAcked ↔
      r ∈ acc.newlyAcked ∨ ∃ pn ∈ ns, acc.det.sentPackets[pn]? = some r := by
  induction ns generalizing acc with
  | nil => exact ⟨Shrinks.refl _, fun pn h => (by cases h), fun r => by simp⟩
  | cons n ns ih =>
    obtain ⟨hshr, hgone, hacked⟩ := ih (ackOne largestPn delay now acc n)
    rw [ackOne_sentPackets] at hacked
    rw [ackOne_newlyAcked] at hacked
    have hstep : Shrinks acc.det (ackOne largestPn delay now acc n).det := by
      refine ⟨ackOne_largestSent .., fun pn r h => ?_⟩
      rw [ackOne_sentPackets] at h
      exact (getElem?_erase_some h).2
    refine ⟨hstep.trans hshr, fun pn hpn => ?_, fun r => ?_⟩
    · rcases List.mem_cons.mp hpn with rfl | hpn
      · -- a record found at the end would have been found right after its removal
        cases hget : (List.foldl (ackOne largestPn delay now) acc (pn :: ns)).det.sentPackets[pn]? with
        | none => rfl
        | some r =>
          have hmid := hshr.sub pn r hget
          rw [ackOne_sentPackets, getElem?_erase_same] at hmid
          cases hmid
      · exact hgone pn hpn
    · rw [List.foldl_cons, hacked, List.mem_append, Option.mem_toList, or_assoc]
      refine or_congr_right ⟨?_, ?_⟩
      · rintro (hr | ⟨pn, hpn, hr⟩)
        · exact ⟨n, List.mem_cons_self, hr⟩
        · exact ⟨pn, List.mem_cons_of_mem _ hpn, (getElem?_erase_some hr).2⟩
      · rintro ⟨pn, hpn, hr⟩
        by_cases hn : pn = n
        · exact Or.inl (hn ▸ hr)
        · refine Or.inr ⟨pn, (List.mem_cons.mp hpn).resolve_left hn, ?_⟩
          rw [getElem?_erase_ne hn]
          exact hr

theorem deliveryRate_sentPackets (d : LossDetector) (now : MonotonicTime) :
    (d.deliveryRate now).1.sentPackets = d.sentPackets ∧
      (d.deliveryRate now).1.largestSentPacket = d.largestSentPacket := by
  unfold deliveryRate
  split
  · dsimp only
    split <;> exact ⟨rfl, rfl⟩
  · exact ⟨rfl, rfl⟩

theorem dropFold_spec (d : LossDetector) (pns : List Nat) (acc : LossDetector × LossEvent)
    (hshr : Shrinks d acc.1) (hret : ∀ rec ∈ acc.2.retransmittable, Holds d rec) :
    Shrinks d (pns.foldl dropLost acc).1 ∧
      ∀ rec ∈ (pns.foldl dropLost acc).2.retransmittable, Holds d rec := by
  induction pns generalizing acc with
  | nil => exact ⟨hshr, hret⟩
  | cons pn pns ih =>
    rw [List.foldl_cons]
    cases hget : acc.1.sentPackets[pn]? with
    | none =>
      have hsame : dropLost acc pn = acc := by simp [dropLost, hget]
      rw [hsame]
      exact ih acc hshr hret
    | some record =>
      have hpack : (dropLost acc pn).1.sentPackets = acc.1.sentPackets.erase pn := by
        simp only [dropLost, hget]
        split <;> rfl
      have hlargest : (dropLost acc pn).1.largestSentPacket = acc.1.largestSentPacket := by
        simp only [dropLost, hget]
        split <;> rfl
      have hframes : (dropLost acc pn).2.retransmittable =
          acc.2.retransmittable ++ record.retransmittableFrames := by
        simp only [dropLost, hget]
      refine ih (dropLost acc pn) ⟨hlargest.trans hshr.largestSent, fun k r h => ?_⟩
        fun rec hrec => ?_
      · rw [hpack] at h
        exact hshr.sub k r (getElem?_erase_some h).2
      · rw [hframes] at hrec
        rcases List.mem_append.mp hrec with hrec | hrec
        · exact hret rec hrec
        · exact ⟨pn, record, hshr.sub pn record hget, hrec⟩

theorem detectLost_spec (d : LossDetector) (largestPn : Nat) (now : MonotonicTime) :
    Shrinks d (d.detectLost largestPn now).1 ∧
      ∀ rec ∈ (d.detectLost largestPn now).2.retransmittable, Holds d rec :=
  dropFold_spec d _ _ (Shrinks.refl d) (by simp)

theorem foldl_erase_sub {es : List (Nat × SentPacketRecord)} {m : SentPackets} {pn : Nat}
    {r : SentPacketRecord} (h : (es.foldl (fun m e => m.erase e.1) m)[pn]? = some r) :
    m[pn]? = some r := by
  induction es generalizing m with
  | nil => exact h
  | cons e es ih => exact (getElem?_erase_some (ih h)).2

theorem onTimeout_spec (d : LossDetector) :
    Shrinks d d.onTimeout.1 ∧ ∀ rec ∈ d.onTimeout.2.retransmittable, Holds d rec := by
  refine ⟨⟨rfl, fun pn r h => foldl_erase_sub h⟩, fun rec hrec => ?_⟩
  obtain ⟨⟨pn, r⟩, he, hmem⟩ := List.mem_flatMap.mp hrec
  have hlist := (List.mem_filter.mp (List.mem_of_mem_take he)).1
  exact ⟨pn, r, Std.ExtTreeMap.mem_toList_iff_getElem?_eq_some.mp hlist, hmem⟩

/-- The numbers an ACK frame is taken to acknowledge: none when it claims more than was sent. -/
def ackedNumbers (d : LossDetector) (largestAcked : PacketNumber) (ranges : List AckRange)
    (rangeCount : Nat) : List Nat :=
  if d.largestSentPacket < largestAcked.toNat then []
  else parseAckRanges largestAcked.toNat ranges rangeCount

/-- **The specification of `on_ack_received`.**  The outstanding packets among the acknowledged
numbers are reported and removed; no record appears; what is to be retransmitted comes out of
records that were there. -/
theorem onAckReceived_spec (d : LossDetector) (largestAcked : PacketNumber) (ackDelayUs : UInt32)
    (ranges : List AckRange) (rangeCount : Nat) (now : MonotonicTime) :
    let ns := d.ackedNumbers largestAcked ranges rangeCount
    let out := d.onAckReceived largestAcked ackDelayUs ranges rangeCount now
    Shrinks d out.1 ∧ (∀ pn ∈ ns, out.1.sentPackets[pn]? = none) ∧
      (∀ r, r ∈ out.2.1.ackedPackets ↔ ∃ pn ∈ ns, d.sentPackets[pn]? = some r) ∧
      ∀ rec ∈ out.2.2.1.retransmittable, Holds d rec := by
  unfold ackedNumbers onAckReceived
  by_cases hopt : d.largestSentPacket < largestAcked.toNat
  · simp only [hopt, if_true]
    exact ⟨Shrinks.refl d, by simp, by simp, by simp⟩
  · simp only [hopt, if_false]
    obtain ⟨hshr, hgone, hacked⟩ := ackFold_spec largestAcked.toNat ackDelayUs.toNat now
      (parseAckRanges largestAcked.toNat ranges rangeCount) ⟨d, [], 0, none⟩
    generalize List.foldl (ackOne largestAcked.toNat ackDelayUs.toNat now) ⟨d, [], 0, none⟩
      (parseAckRanges largestAcked.toNat ranges rangeCount) = acc at hshr hgone hacked
    -- the counters in between touch neither the records nor the largest number sent
    obtain ⟨hdp, hdl⟩ := deliveryRate_sentPackets (acc.settle largestAcked) now
    generalize ((acc.settle largestAcked).deliveryRate now).1 = dr at hdp hdl
    obtain ⟨hlshr, hlret⟩ := detectLost_spec dr largestAcked.toNat now
    have hdr : Shrinks acc.det dr := by
      refine ⟨hdl, fun pn r h => ?_⟩
      rw [hdp] at h
      exact h
    refine ⟨(hshr.trans hdr).trans hlshr, fun pn hpn => ?_, ?_, fun rec hrec => ?_⟩
    · have hnone := hgone pn hpn
      cases hget : (dr.detectLost largestAcked.toNat now).1.sentPackets[pn]? with
      | none => rfl
      | some r =>
        have hback := (hdr.trans hlshr).sub pn r hget
        rw [hnone] at hback
        cases hback
    · intro r
      rw [hacked]
      simp
    · exact (hshr.trans hdr).holds (hlret rec hrec)

/-! ## 5. Samples

The estimator is seeded by packets of the present path only: those at or above the floor that the
last migration set. -/

/-- Every outstanding packet was sent before the last migration. -/
def OldPath (d : LossDetector) : Prop :=
  ∀ (pn : Nat) r, d.sentPackets[pn]? = some r → pn < d.rttSampleFloor

/-- With old packets only, `d'` has taken no sample that `d` had not. -/
structure Unsampled (d d' : LossDetector) : Prop where
  floor : d'.rttSampleFloor = d.rttSampleFloor
  rtt : d.OldPath → d'.rttStats = d.rttStats ∧ d'.OldPath

theorem Unsampled.refl (d : LossDetector) : Unsampled d d := ⟨rfl, fun h => ⟨rfl, h⟩⟩

theorem Unsampled.trans {d d' d'' : LossDetector} (h : Unsampled d d') (h' : Unsampled d' d'') :
    Unsampled d d'' := by
  refine ⟨h'.floor.trans h.floor, fun hold => ?_⟩
  obtain ⟨hrtt, hold'⟩ := h.rtt hold
  obtain ⟨hrtt', hold''⟩ := h'.rtt hold'
  exact ⟨hrtt'.trans hrtt, hold''⟩

theorem Unsampled.of_shrinks {d d' : LossDetector} (hshr : Shrinks d d')
    (hfloor : d'.rttSampleFloor = d.rttSampleFloor) (hrtt : d'.rttStats = d.rttStats) :
    Unsampled d d' := by
  refine ⟨hfloor, fun hold => ⟨hrtt, fun pn r hr => ?_⟩⟩
  rw [hfloor]
  exact hold pn r (hshr.sub pn r hr)

theorem ackOne_unsampled (largestPn : Nat) (delay : Duration) (now : MonotonicTime) (acc : AckAcc)
    (pn : Nat) : Unsampled acc.det (ackOne largestPn delay now acc pn).det := by
  have hsub : ∀ (k : Nat) r, (ackOne largestPn delay now acc pn).det.sentPackets[k]? = some r →
      acc.det.sentPackets[k]? = some r := by
    intro k r hr
    rw [ackOne_sentPackets] at hr
    exact (getElem?_erase_some hr).2
  have hfloor : (ackOne largestPn delay now acc pn).det.rttSampleFloor =
      acc.det.rttSampleFloor := by
    unfold ackOne
    split
    · rfl
    · dsimp only
      split <;> split <;> rfl
  refine ⟨hfloor, fun hold => ⟨?_, fun k r hr => hfloor ▸ hold k r (hsub k r hr)⟩⟩
  unfold ackOne
  split
  · rfl
  · rename_i record hget
    have hbelow := hold pn record hget
    have hseeds : ∀ floor, floor = acc.det.rttSampleFloor → ¬ (pn = largestPn ∧ floor ≤ pn) := by
      rintro floor rfl ⟨-, hle⟩
      exact absurd hbelow (Nat.not_lt.mpr hle)
    dsimp only
    split
    · rw [if_neg (hseeds _ rfl)]
    · rw [if_neg (hseeds _ rfl)]

theorem ackFold_unsampled (largestPn : Nat) (delay : Duration) (now : MonotonicTime)
    (ns : List Nat) (acc : AckAcc) :
    Unsampled acc.det (ns.foldl (ackOne largestPn delay now) acc).det := by
  induction ns generalizing acc with
  | nil => exact .refl _
  | cons n ns ih => exact (ackOne_unsampled largestPn delay now acc n).trans (ih _)

theorem detectLost_estimate (d : LossDetector) (largestPn : Nat) (now : MonotonicTime) :
    (d.detectLost largestPn now).1.rttSampleFloor = d.rttSampleFloor ∧
      (d.detectLost largestPn now).1.rttStats = d.rttStats := by
  have hone : ∀ (acc : LossDetector × LossEvent) (pn : Nat),
      (dropLost acc pn).1.rttSampleFloor = acc.1.rttSampleFloor ∧
        (dropLost acc pn).1.rttStats = acc.1.rttStats := by
    intro acc pn
    unfold dropLost
    split
    · exact ⟨rfl, rfl⟩
    · dsimp only
      split <;> exact ⟨rfl, rfl⟩
  have hfold : ∀ (pns : List Nat) (acc : LossDetector × LossEvent),
      (pns.foldl dropLost acc).1.rttSampleFloor = acc.1.rttSampleFloor ∧
        (pns.foldl dropLost acc).1.rttStats = acc.1.rttStats := by
    intro pns
    induction pns with
    | nil => exact fun acc => ⟨rfl, rfl⟩
    | cons pn pns ih =>
      intro acc
      obtain ⟨hf, hr⟩ := ih (dropLost acc pn)
      obtain ⟨hf', hr'⟩ := hone acc pn
      exact ⟨hf.trans hf', hr.trans hr'⟩
  exact hfold _ _

/-- **An ACK of old packets** leaves the estimator alone. -/
theorem onAckReceived_unsampled (d : LossDetector) (largestAcked : PacketNumber)
    (ackDelayUs : UInt32) (ranges : List AckRange) (rangeCount : Nat) (now : MonotonicTime) :
    Unsampled d (d.onAckReceived largestAcked ackDelayUs ranges rangeCount now).1 := by
  unfold onAckReceived
  dsimp only
  split
  · exact .refl d
  · have hacked := ackFold_unsampled largestAcked.toNat ackDelayUs.toNat now
      (parseAckRanges largestAcked.toNat ranges rangeCount) ⟨d, [], 0, none⟩
    generalize List.foldl (ackOne largestAcked.toNat ackDelayUs.toNat now) ⟨d, [], 0, none⟩
      (parseAckRanges largestAcked.toNat ranges rangeCount) = acc at hacked ⊢
    obtain ⟨hpackets, hlargest⟩ := deliveryRate_sentPackets (acc.settle largestAcked) now
    have hestimate : ((acc.settle largestAcked).deliveryRate now).1.rttSampleFloor =
          acc.det.rttSampleFloor ∧
        ((acc.settle largestAcked).deliveryRate now).1.rttStats = acc.det.rttStats := by
      unfold deliveryRate
      split
      · dsimp only
        split <;> exact ⟨rfl, rfl⟩
      · exact ⟨rfl, rfl⟩
    have hcounted : Unsampled acc.det ((acc.settle largestAcked).deliveryRate now).1 := by
      refine .of_shrinks ⟨hlargest, fun pn r h => ?_⟩ hestimate.1 hestimate.2
      rw [hpackets] at h
      exact h
    refine (hacked.trans hcounted).trans (.of_shrinks ?_ ?_ ?_)
    · exact (detectLost_spec _ largestAcked.toNat now).1
    · exact (detectLost_estimate _ largestAcked.toNat now).1
    · exact (detectLost_estimate _ largestAcked.toNat now).2

/-! ## 6. Runs of the detector -/

/-- The calls that change a detector. -/
inductive Op where
  | sent (record : SentPacketRecord)
  | acked (largestAcked : PacketNumber) (ackDelayUs : UInt32) (ranges : List AckRange)
      (rangeCount : Nat) (now : MonotonicTime)
  | timeout
  | migrated (firstPnOnNewPath : PacketNumber)

def step (d : LossDetector) : Op → LossDetector
  | .sent record => d.onPacketSent record
  | .acked largestAcked ackDelayUs ranges rangeCount now =>
    (d.onAckReceived largestAcked ackDelayUs ranges rangeCount now).1
  | .timeout => d.onTimeout.1
  | .migrated firstPnOnNewPath => d.onPathMigration firstPnOnNewPath

/-- A sequence of calls, from a fresh detector. -/
def runNew (ops : List Op) : LossDetector := ops.foldl step default

def Op.sent? : Op → Option PacketNumber
  | .sent record => some record.packetNumber
  | _ => none

/-- The packet numbers passed to `on_packet_sent`. -/
def sentOf (ops : List Op) : List PacketNumber := ops.filterMap Op.sent?

/-- Records are filed under their packet number, and `largest_sent_packet` bounds what was
sent. -/
structure Inv (d : LossDetector) (sent : List PacketNumber) : Prop where
  keyed : ∀ (pn : Nat) r, d.sentPackets[pn]? = some r → r.packetNumber.toNat = pn
  le_largest : ∀ pn ∈ sent, pn.toNat ≤ d.largestSentPacket

theorem inv_default : Inv default [] :=
  ⟨fun pn r h => (by simp [default] at h), fun pn h => (by cases h)⟩

theorem Inv.shrink {d d' : LossDetector} {sent : List PacketNumber} (h : Inv d sent)
    (hs : Shrinks d d') : Inv d' sent :=
  ⟨fun pn r hr => h.keyed pn r (hs.sub pn r hr), fun pn hpn => by
    rw [hs.largestSent]; exact h.le_largest pn hpn⟩

theorem Inv.sent {d : LossDetector} {sent : List PacketNumber} (h : Inv d sent)
    (record : SentPacketRecord) : Inv (d.onPacketSent record) (sent ++ [record.packetNumber]) := by
  refine ⟨fun pn r hr => ?_, fun pn hpn => ?_⟩
  · simp only [onPacketSent, Std.ExtTreeMap.getElem?_insert] at hr
    split at hr
    · rename_i heq
      obtain rfl : record = r := Option.some.inj hr
      exact Std.LawfulEqOrd.eq_of_compare heq
    · exact h.keyed pn r hr
  · show pn.toNat ≤ max d.largestSentPacket record.packetNumber.toNat
    rcases List.mem_append.mp hpn with hpn | hpn
    · have := h.le_largest pn hpn
      omega
    · rw [List.mem_singleton.mp hpn]
      omega

theorem Inv.step {d : LossDetector} {sent : List PacketNumber} (h : Inv d sent) (op : Op) :
    Inv (d.step op) (sent ++ op.sent?.toList) := by
  cases op with
  | sent record => exact h.sent record
  | acked l delay ranges count now =>
    simpa [Op.sent?, LossDetector.step] using h.shrink (onAckReceived_spec d l delay ranges count now).1
  | timeout => simpa [Op.sent?, LossDetector.step] using h.shrink (onTimeout_spec d).1
  | migrated pn =>
    have hs : Shrinks d (d.onPathMigration pn) := ⟨rfl, fun _ _ hr => hr⟩
    simpa [Op.sent?, LossDetector.step] using h.shrink hs

theorem Inv.foldl {d : LossDetector} {sent : List PacketNumber} (h : Inv d sent) (ops : List Op) :
    Inv (ops.foldl LossDetector.step d) (sent ++ sentOf ops) := by
  induction ops generalizing d sent with
  | nil => simpa [sentOf] using h
  | cons op ops ih =>
    have hsplit : sent ++ sentOf (op :: ops) = (sent ++ op.sent?.toList) ++ sentOf ops := by
      cases hop : op.sent? <;> simp [sentOf, hop]
    rw [hsplit]
    exact ih (h.step op)

/-- **Every run keeps the records keyed and the largest number current.** -/
theorem inv_runNew (ops : List Op) : Inv (runNew ops) (sentOf ops) := inv_default.foldl ops

end LossDetector

end Gtp
