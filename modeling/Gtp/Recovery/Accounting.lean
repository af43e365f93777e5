/-
# The account of the sent packets

A record comes in with `on_packet_sent` and leaves in one of three ways: acknowledged, declared
lost, or drained by a probe timeout.  Each way updates the running counter `inflight_bytes` by hand,
and the counter gates all sending.  Here every call is settled: what was outstanding is, record by
record, what left plus what still is (`Settles`), the events report the in-flight bytes of exactly
what left, and the counter follows.

* `leaves_one` is a record that leaves; the three ways are built from it (`Acked`, `Lost`,
  `onTimeout_leaves`).
* `Exact.step` is one call and `settles_run` a run, by induction over the numbers still to be sent.
* `account_exact` says it of the whole run: the records sent are those acknowledged, those declared
  lost, those drained and those outstanding, each once.

Two things are left over.  The counter is added to with `saturating_add`, so it is exact only while
the bytes in flight fit in 64 bits (`account_saturates` is a run where they do not).  And a record
that is neither acknowledged nor in flight leaves in none of the three ways: after an ACK, what is
older than the packet threshold is gone only if it is not of that kind (`cleared_iff`).
-/
import Gtp.Recovery.LossDetector
import Gtp.Lib.Maps
import Gtp.Lib.Runs

namespace Gtp

namespace LossDetector

/-! ## 1. Records and bytes -/

def flight (r : SentPacketRecord) : Nat := if r.inFlight then r.bytes else 0

/-- The bytes that records have in flight. -/
def flightOf (rs : List SentPacketRecord) : Nat := (rs.map flight).sum

/-- The outstanding records. -/
def unsettled (d : LossDetector) : List SentPacketRecord := d.sentPackets.toList.map Prod.snd

/-- The counter is the sum of the in-flight bytes. -/
def Exact (d : LossDetector) : Prop := d.inflightBytes = Maps.total flight d.sentPackets

theorem flightOf_append (rs rs' : List SentPacketRecord) :
    flightOf (rs ++ rs') = flightOf rs + flightOf rs' := by
  rw [flightOf, List.map_append, List.sum_append]
  rfl

theorem flightOf_of_inFlight {rs : List SentPacketRecord} (h : ∀ r ∈ rs, r.inFlight = true) :
    flightOf rs = (rs.map SentPacketRecord.bytes).sum := by
  refine congrArg List.sum (List.map_congr_left fun r hr => ?_)
  rw [flight, if_pos (h r hr)]

theorem total_flight (d : LossDetector) :
    Maps.total flight d.sentPackets = flightOf d.unsettled := by
  rw [flightOf, unsettled, List.map_map]
  rfl

theorem unsettled_erase {m : SentPackets} {pn : Nat} {r : SentPacketRecord}
    (h : m[pn]? = some r) :
    (m.toList.map Prod.snd).Perm (r :: (m.erase pn).toList.map Prod.snd) :=
  (Maps.toList_perm_erase h).map Prod.snd

/-- From `d` to `d'` the records `rs` have left, and the counter has followed. -/
structure Leaves (d d' : LossDetector) (rs : List SentPacketRecord) : Prop where
  records : d.unsettled.Perm (rs ++ d'.unsettled)
  exact' : d'.Exact
  counter : d'.inflightBytes + flightOf rs = d.inflightBytes

theorem Leaves.refl {d : LossDetector} (h : d.Exact) : Leaves d d [] :=
  ⟨List.Perm.refl _, h, rfl⟩

theorem Leaves.trans {d d' d'' : LossDetector} {rs rs' : List SentPacketRecord}
    (h : Leaves d d' rs) (h' : Leaves d' d'' rs') : Leaves d d'' (rs ++ rs') := by
  refine ⟨?_, h'.exact', ?_⟩
  · rw [List.append_assoc]
    exact h.records.trans (h'.records.append_left rs)
  · have hfirst := h.counter
    have hsecond := h'.counter
    rw [flightOf_append]
    omega

theorem Leaves.same {d d' d'' : LossDetector} {rs : List SentPacketRecord} (h : Leaves d d' rs)
    (hpackets : d''.sentPackets = d'.sentPackets) (hbytes : d''.inflightBytes = d'.inflightBytes) :
    Leaves d d'' rs := by
  have hsame : d''.unsettled = d'.unsettled :=
    congrArg (fun m => m.toList.map Prod.snd) hpackets
  refine ⟨?_, ?_, ?_⟩
  · rw [hsame]
    exact h.records
  · rw [Exact, hpackets, hbytes]
    exact h.exact'
  · rw [hbytes]
    exact h.counter

/-- **One record leaves**: it is taken off the map, and its in-flight bytes off the counter. -/
theorem leaves_one {d d' : LossDetector} (h : d.Exact) {pn : Nat} {r : SentPacketRecord}
    (hr : d.sentPackets[pn]? = some r) (hpackets : d'.sentPackets = d.sentPackets.erase pn)
    (hbytes : d'.inflightBytes = d.inflightBytes - flight r) : Leaves d d' [r] := by
  have htotal := Maps.total_erase hr flight
  rw [← h] at htotal
  refine ⟨?_, ?_, ?_⟩
  · rw [unsettled, unsettled, hpackets]
    exact unsettled_erase hr
  · rw [Exact, hpackets, hbytes]
    omega
  · rw [hbytes]
    change _ + (flight r + 0) = _
    omega

/-! ## 2. The three ways -/

/-- The acknowledgement loop: what it collects has left. -/
structure Acked (d : LossDetector) (acc : AckAcc) : Prop where
  left : Leaves d acc.det acc.newlyAcked
  bytes : acc.bytesAcked = flightOf acc.newlyAcked

theorem Acked.one {d : LossDetector} {acc : AckAcc} (h : Acked d acc) (largestPn : Nat)
    (delay : Duration) (now : MonotonicTime) (pn : Nat) :
    Acked d (ackOne largestPn delay now acc pn) := by
  have hpackets := ackOne_sentPackets largestPn delay now acc pn
  cases hget : acc.det.sentPackets[pn]? with
  | none =>
    have hsame : ackOne largestPn delay now acc pn = acc := by
      unfold ackOne
      rw [hget]
    rw [hsame]
    exact h
  | some r =>
    have hfields : (ackOne largestPn delay now acc pn).newlyAcked = acc.newlyAcked ++ [r] ∧
        (ackOne largestPn delay now acc pn).bytesAcked = acc.bytesAcked + flight r ∧
        (ackOne largestPn delay now acc pn).det.inflightBytes =
          acc.det.inflightBytes - flight r := by
      unfold ackOne flight
      rw [hget]
      dsimp only
      refine ⟨rfl, ?_, ?_⟩
      · split <;> rfl
      · split <;> split <;> rfl
    obtain ⟨hacked, hbytes, hcounter⟩ := hfields
    refine ⟨?_, ?_⟩
    · rw [hacked]
      exact h.left.trans (leaves_one h.left.exact' hget hpackets hcounter)
    · rw [hacked, hbytes, flightOf_append, h.bytes]
      rfl

theorem Acked.fold {d : LossDetector} {acc : AckAcc} (h : Acked d acc) (largestPn : Nat)
    (delay : Duration) (now : MonotonicTime) (ns : List Nat) :
    Acked d (ns.foldl (ackOne largestPn delay now) acc) := by
  induction ns generalizing acc with
  | nil => exact h
  | cons n ns ih => exact ih (h.one largestPn delay now n)

/-- The sweep: what is declared lost has left; it was in flight, ack-eliciting, and at or below the
largest acknowledged number. -/
structure Lost (d : LossDetector) (largestPn : Nat) (acc : LossDetector × LossEvent) : Prop where
  left : Leaves d acc.1 acc.2.lostPackets
  shrinks : Shrinks d acc.1
  bytes : acc.2.bytesLost = flightOf acc.2.lostPackets
  lost : ∀ r ∈ acc.2.lostPackets, r.inFlight = true ∧ r.ackEliciting = true ∧
    ∃ pn, d.sentPackets[pn]? = some r ∧ pn ≤ largestPn

theorem isLost_spec {largestPn pn : Nat} {threshold : Duration} {now : MonotonicTime}
    {r : SentPacketRecord} (h : isLost largestPn threshold now pn r = true) :
    r.inFlight = true ∧ r.ackEliciting = true ∧ pn ≤ largestPn := by
  unfold isLost at h
  split at h
  · cases h
  · rename_i hkept
    simp only [Bool.or_eq_true, decide_eq_true_eq, Bool.not_eq_true', not_or, Nat.not_lt,
      Bool.not_eq_false] at hkept
    exact ⟨hkept.1.2, hkept.2, hkept.1.1⟩

theorem Lost.one {d : LossDetector} {largestPn : Nat} {acc : LossDetector × LossEvent}
    (h : Lost d largestPn acc) {pn : Nat}
    (hpn : ∀ r, d.sentPackets[pn]? = some r →
      r.inFlight = true ∧ r.ackEliciting = true ∧ pn ≤ largestPn) :
    Lost d largestPn (dropLost acc pn) := by
  cases hget : acc.1.sentPackets[pn]? with
  | none =>
    have hsame : dropLost acc pn = acc := by simp [dropLost, hget]
    rw [hsame]
    exact h
  | some r =>
    have hd := h.shrinks.sub pn r hget
    obtain ⟨hflight, heliciting, hle⟩ := hpn r hd
    have hbytes : flight r = r.bytes := if_pos hflight
    have hdrop : dropLost acc pn = ({ acc.1 with
          sentPackets := acc.1.sentPackets.erase pn
          inflightBytes := acc.1.inflightBytes - r.bytes },
        { lostPackets := acc.2.lostPackets ++ [r]
          bytesLost := acc.2.bytesLost + r.bytes
          retransmittable := acc.2.retransmittable ++ r.retransmittableFrames }) := by
      simp only [dropLost, hget, hflight, if_true]
    rw [hdrop]
    refine ⟨?_, ⟨h.shrinks.largestSent, fun k r' hr' => ?_⟩, ?_, fun r' hr' => ?_⟩
    · exact h.left.trans (leaves_one h.left.exact' hget rfl (by rw [hbytes]))
    · exact h.shrinks.sub k r' (getElem?_erase_some hr').2
    · dsimp only
      rw [flightOf_append, h.bytes, ← hbytes]
      rfl
    · rcases List.mem_append.mp hr' with hr' | hr'
      · exact h.lost r' hr'
      · rw [List.mem_singleton.mp hr']
        exact ⟨hflight, heliciting, pn, hd, hle⟩

theorem detectLost_lost {d : LossDetector} (h : d.Exact) (largestPn : Nat) (now : MonotonicTime) :
    Lost d largestPn (d.detectLost largestPn now) := by
  unfold detectLost
  dsimp only
  generalize max d.rttStats.smoothedRtt d.rttStats.latestRtt * 9 / 8 = threshold
  have hstart : Lost d largestPn (d, ⟨[], 0, []⟩) :=
    ⟨.refl h, .refl d, rfl, fun r hr => by cases hr⟩
  have hall : ∀ pn ∈ (d.sentPackets.toList.filter
      fun e => isLost largestPn threshold now e.1 e.2).map Prod.fst, ∀ r,
      d.sentPackets[pn]? = some r → r.inFlight = true ∧ r.ackEliciting = true ∧ pn ≤ largestPn := by
    intro pn hpn r hr
    obtain ⟨e, he, rfl⟩ := List.mem_map.mp hpn
    obtain ⟨hin, hlost⟩ := List.mem_filter.mp he
    have hget := Std.ExtTreeMap.mem_toList_iff_getElem?_eq_some.mp hin
    obtain rfl := Option.some.inj (hget.symm.trans hr)
    exact isLost_spec hlost
  generalize (d.sentPackets.toList.filter
    fun e => isLost largestPn threshold now e.1 e.2).map Prod.fst = pns at hall
  generalize (d, (⟨[], 0, []⟩ : LossEvent)) = acc at hstart ⊢
  induction pns generalizing acc with
  | nil => exact hstart
  | cons pn pns ih =>
    exact ih (fun k hk => hall k (List.mem_cons_of_mem _ hk)) _
      (hstart.one fun r hr => hall pn List.mem_cons_self r hr)

/-- The records that a probe timeout drains: the two oldest in flight. -/
def drained (d : LossDetector) : List SentPacketRecord :=
  ((d.sentPackets.toList.filter fun e => e.2.inFlight).take maxPtoRetransmitBurst).map Prod.snd

/-- Entries with different keys are taken off one by one. -/
theorem foldl_erase_perm {es : List (Nat × SentPacketRecord)} {m : SentPackets}
    (hkeys : es.Pairwise fun e e' => e.1 ≠ e'.1) (hes : ∀ e ∈ es, m[e.1]? = some e.2) :
    (m.toList.map Prod.snd).Perm
      (es.map Prod.snd ++ (es.foldl (fun m e => m.erase e.1) m).toList.map Prod.snd) := by
  induction es generalizing m with
  | nil => exact List.Perm.refl _
  | cons e es ih =>
    obtain ⟨hfirst, hrest⟩ := List.pairwise_cons.mp hkeys
    have hone := unsettled_erase (hes e List.mem_cons_self)
    have hothers : ∀ e' ∈ es, (m.erase e.1)[e'.1]? = some e'.2 := by
      intro e' he'
      rw [getElem?_erase_ne (hfirst e' he').symm]
      exact hes e' (List.mem_cons_of_mem _ he')
    exact hone.trans ((ih hrest hothers).cons e.2)

theorem onTimeout_leaves {d : LossDetector} (h : d.Exact) :
    Leaves d d.onTimeout.1 d.drained ∧ d.onTimeout.2.bytesLost = flightOf d.drained ∧
      ∀ r ∈ d.drained, r.inFlight = true := by
  have hin : ∀ e ∈ (d.sentPackets.toList.filter fun e => e.2.inFlight).take maxPtoRetransmitBurst,
      d.sentPackets[e.1]? = some e.2 ∧ e.2.inFlight = true := by
    intro e he
    obtain ⟨hmem, hflight⟩ := List.mem_filter.mp (List.mem_of_mem_take he)
    exact ⟨Std.ExtTreeMap.mem_toList_iff_getElem?_eq_some.mp hmem, hflight⟩
  have hkeys : ((d.sentPackets.toList.filter fun e => e.2.inFlight).take
      maxPtoRetransmitBurst).Pairwise fun e e' => e.1 ≠ e'.1 := by
    refine ((d.sentPackets.distinct_keys_toList.filter _).take).imp fun hne heq => hne ?_
    rw [heq]
    exact Std.compare_self
  have hflight : ∀ r ∈ d.drained, r.inFlight = true := by
    intro r hr
    obtain ⟨e, he, rfl⟩ := List.mem_map.mp hr
    exact (hin e he).2
  have hbytes : d.onTimeout.2.bytesLost = flightOf d.drained := by
    rw [flightOf_of_inFlight hflight, drained, List.map_map]
    rfl
  have hperm : d.unsettled.Perm (d.drained ++ d.onTimeout.1.unsettled) :=
    foldl_erase_perm hkeys fun e he => (hin e he).1
  have hsum : d.inflightBytes = flightOf d.drained + flightOf d.onTimeout.1.unsettled := by
    rw [h, total_flight, flightOf, (hperm.map flight).sum_eq, List.map_append, List.sum_append]
    rfl
  have hcounter : d.onTimeout.1.inflightBytes = d.inflightBytes - flightOf d.drained := by
    rw [← hbytes]
    rfl
  refine ⟨⟨hperm, ?_, ?_⟩, hbytes, hflight⟩
  · rw [Exact, total_flight]
    omega
  · omega

/-! ## 3. Every call -/

theorem deliveryRate_inflightBytes (d : LossDetector) (now : MonotonicTime) :
    (d.deliveryRate now).1.inflightBytes = d.inflightBytes := by
  unfold deliveryRate
  split
  · dsimp only
    split <;> rfl
  · rfl

theorem onAckReceived_leaves {d : LossDetector} (h : d.Exact) (largestAcked : PacketNumber)
    (ackDelayUs : UInt32) (ranges : List AckRange) (rangeCount : Nat) (now : MonotonicTime) :
    let out := d.onAckReceived largestAcked ackDelayUs ranges rangeCount now
    Leaves d out.1 (out.2.1.ackedPackets ++ out.2.2.1.lostPackets) ∧
      out.2.1.bytesAcked = flightOf out.2.1.ackedPackets ∧
      out.2.2.1.bytesLost = flightOf out.2.2.1.lostPackets ∧
      (∀ r ∈ out.2.2.1.lostPackets, r.inFlight = true ∧ r.ackEliciting = true ∧
        ∃ pn, d.sentPackets[pn]? = some r ∧ pn ≤ largestAcked.toNat) ∧
      (d.largestSentPacket < largestAcked.toNat → out.1 = d) := by
  unfold onAckReceived
  by_cases hopt : d.largestSentPacket < largestAcked.toNat
  · simp only [hopt, if_true]
    exact ⟨.refl h, rfl, rfl, fun r hr => (by cases hr), fun _ => trivial⟩
  · simp only [hopt, if_false]
    have hstart : Acked d ⟨d, [], 0, none⟩ := ⟨.refl h, rfl⟩
    have hacked := hstart.fold largestAcked.toNat ackDelayUs.toNat now
      (parseAckRanges largestAcked.toNat ranges rangeCount)
    have hshrinks := (ackFold_spec largestAcked.toNat ackDelayUs.toNat now
      (parseAckRanges largestAcked.toNat ranges rangeCount) ⟨d, [], 0, none⟩).1
    generalize List.foldl (ackOne largestAcked.toNat ackDelayUs.toNat now) ⟨d, [], 0, none⟩
      (parseAckRanges largestAcked.toNat ranges rangeCount) = acc at hacked hshrinks ⊢
    obtain ⟨hpackets, hlargest⟩ := deliveryRate_sentPackets (acc.settle largestAcked) now
    have hbytes := deliveryRate_inflightBytes (acc.settle largestAcked) now
    generalize ((acc.settle largestAcked).deliveryRate now).1 = dr at hpackets hlargest hbytes ⊢
    have hrate : Leaves d dr acc.newlyAcked := hacked.left.same hpackets hbytes
    have hlost := detectLost_lost hrate.exact' largestAcked.toNat now
    refine ⟨hrate.trans hlost.left, hacked.bytes, hlost.bytes, fun r hr => ?_,
      fun habsurd => habsurd.elim⟩
    obtain ⟨hflight, heliciting, pn, hpn, hle⟩ := hlost.lost r hr
    rw [hpackets] at hpn
    exact ⟨hflight, heliciting, pn, hshrinks.sub pn r hpn, hle⟩

/-- **The account of one call.**  A packet that is sent becomes outstanding.  An ACK: what was
outstanding is what it acknowledged, what it declared lost, and what is still outstanding; its two
sums are the in-flight bytes of just these records, and the counter goes down by them; what is lost
was in flight, ack-eliciting and not above the largest acknowledged number; an ACK above the largest
number sent changes nothing.  A timeout: likewise with what it drained.  A migration touches none of
it. -/
def Settles (d : LossDetector) : Op → Prop
  | .sent record => (d.onPacketSent record).unsettled.Perm (record :: d.unsettled)
  | .acked largestAcked ackDelayUs ranges rangeCount now =>
    let out := d.onAckReceived largestAcked ackDelayUs ranges rangeCount now
    d.unsettled.Perm (out.2.1.ackedPackets ++ out.2.2.1.lostPackets ++ out.1.unsettled) ∧
      out.2.1.bytesAcked = flightOf out.2.1.ackedPackets ∧
      out.2.2.1.bytesLost = flightOf out.2.2.1.lostPackets ∧
      out.1.inflightBytes + out.2.1.bytesAcked + out.2.2.1.bytesLost = d.inflightBytes ∧
      (∀ r ∈ out.2.2.1.lostPackets, r.inFlight = true ∧ r.ackEliciting = true ∧
        r.packetNumber.toNat ≤ largestAcked.toNat) ∧
      (d.largestSentPacket < largestAcked.toNat → out.1 = d)
  | .timeout =>
    d.unsettled.Perm (d.drained ++ d.onTimeout.1.unsettled) ∧
      d.onTimeout.2.bytesLost = flightOf d.drained ∧
      d.onTimeout.1.inflightBytes + d.onTimeout.2.bytesLost = d.inflightBytes ∧
      d.onTimeout.2.lostPackets = []
  | .migrated firstPnOnNewPath =>
    (d.onPathMigration firstPnOnNewPath).sentPackets = d.sentPackets ∧
      (d.onPathMigration firstPnOnNewPath).inflightBytes = d.inflightBytes

/-- The bytes of a packet that goes in flight fit in the counter. -/
def Fits (d : LossDetector) : Op → Prop
  | .sent record => record.inFlight = true → d.inflightBytes + record.bytes ≤ u64Max
  | _ => True

instance (d : LossDetector) : ∀ op, Decidable (Fits d op)
  | .sent record =>
    inferInstanceAs (Decidable (record.inFlight = true → d.inflightBytes + record.bytes ≤ u64Max))
  | .acked .. => isTrue trivial
  | .timeout => isTrue trivial
  | .migrated _ => isTrue trivial

/-- The records of the packets sent. -/
def sentRecords (ops : List Op) : List SentPacketRecord :=
  ops.filterMap fun
    | .sent record => some record
    | _ => none

/-- The three lists of records that left in a run. -/
structure Departed where
  acked : List SentPacketRecord
  lost : List SentPacketRecord
  drained : List SentPacketRecord

/-- What has left, call by call. -/
def departed : LossDetector → List Op → Departed
  | _, [] => ⟨[], [], []⟩
  | d, op :: ops =>
    let rest := departed (d.step op) ops
    match op with
    | .acked largestAcked ackDelayUs ranges rangeCount now =>
      let out := d.onAckReceived largestAcked ackDelayUs ranges rangeCount now
      { rest with
        acked := out.2.1.ackedPackets ++ rest.acked, lost := out.2.2.1.lostPackets ++ rest.lost }
    | .timeout => { rest with drained := d.drained ++ rest.drained }
    | _ => rest

def Departed.all (l : Departed) : List SentPacketRecord := l.acked ++ l.lost ++ l.drained

theorem unsettled_sent {d : LossDetector} {record : SentPacketRecord}
    (hfresh : d.sentPackets[record.packetNumber.toNat]? = none) :
    (d.onPacketSent record).unsettled.Perm (record :: d.unsettled) :=
  (Maps.toList_insert_perm (Maps.not_mem_iff.mpr hfresh) record).map Prod.snd

theorem Exact.sent {d : LossDetector} (h : d.Exact) {record : SentPacketRecord}
    (hfresh : d.sentPackets[record.packetNumber.toNat]? = none)
    (hfits : Fits d (.sent record)) : (d.onPacketSent record).Exact := by
  have htotal : Maps.total flight (d.onPacketSent record).sentPackets =
      flight record + Maps.total flight d.sentPackets :=
    Maps.total_insert (Maps.not_mem_iff.mpr hfresh) flight record
  rw [Exact, htotal, ← h]
  unfold onPacketSent flight
  dsimp only
  split
  · rename_i hflight
    have hle := hfits hflight
    rw [satAdd, Nat.min_eq_left hle, Nat.add_comm]
  · exact (Nat.zero_add _).symm

/-- **The step.**  The counter stays exact, and the call is settled. -/
theorem Exact.step {d : LossDetector} (h : d.Exact)
    (hkeyed : ∀ (pn : Nat) r, d.sentPackets[pn]? = some r → r.packetNumber.toNat = pn) {op : Op}
    (hfresh : ∀ record, op = .sent record → d.sentPackets[record.packetNumber.toNat]? = none)
    (hfits : Fits d op) : (d.step op).Exact ∧ Settles d op := by
  cases op with
  | sent record =>
    exact ⟨h.sent (hfresh record rfl) hfits, unsettled_sent (hfresh record rfl)⟩
  | acked l delay ranges count now =>
    obtain ⟨hleaves, hacked, hlost, hdeclared, hnothing⟩ :=
      onAckReceived_leaves h l delay ranges count now
    have hcounter := hleaves.counter
    rw [flightOf_append] at hcounter
    refine ⟨hleaves.exact', hleaves.records, hacked, hlost, ?_, fun r hr => ?_, hnothing⟩
    · rw [hacked, hlost]
      omega
    · obtain ⟨hflight, heliciting, pn, hpn, hle⟩ := hdeclared r hr
      exact ⟨hflight, heliciting, hkeyed pn r hpn ▸ hle⟩
  | timeout =>
    obtain ⟨hleaves, hbytes, -⟩ := onTimeout_leaves h
    refine ⟨hleaves.exact', hleaves.records, hbytes, ?_, rfl⟩
    rw [hbytes]
    exact hleaves.counter
  | migrated pn => exact ⟨h, rfl, rfl⟩

/-- The records of a settled call: what was outstanding and what is sent is what left and what is
outstanding. -/
theorem Settles.records {d : LossDetector} {op : Op} (h : Settles d op) :
    (sentRecords [op] ++ d.unsettled).Perm ((departed d [op]).all ++ (d.step op).unsettled) := by
  cases op with
  | sent record => exact h.symm
  | acked l delay ranges count now =>
    have hrecords := h.1
    simp only [departed, Departed.all, List.append_nil]
    exact hrecords
  | timeout =>
    have hrecords := h.1
    simp only [departed, Departed.all, List.append_nil]
    exact hrecords
  | migrated pn => exact List.Perm.refl _

/-! ## 4. Runs -/

theorem sentRecords_cons (op : Op) (ops : List Op) :
    sentRecords (op :: ops) = sentRecords [op] ++ sentRecords ops := by
  cases op <;> rfl

theorem map_packetNumber_sentRecords (ops : List Op) :
    (sentRecords ops).map SentPacketRecord.packetNumber = sentOf ops := by
  induction ops with
  | nil => rfl
  | cons op ops ih =>
    cases op with
    | sent record => exact congrArg _ ih
    | acked l delay ranges count now => exact ih
    | timeout => exact ih
    | migrated pn => exact ih

theorem departed_cons (d : LossDetector) (op : Op) (ops : List Op) :
    (departed d (op :: ops)).all.Perm
      ((departed d [op]).all ++ (departed (d.step op) ops).all) := by
  rw [List.perm_iff_count]
  intro r
  cases op with
  | sent record => simp [departed, Departed.all]
  | acked l delay ranges count now =>
    simp only [departed, Departed.all, List.count_append, List.append_nil]
    omega
  | timeout =>
    simp only [departed, Departed.all, List.count_append, List.append_nil, List.nil_append]
    omega
  | migrated pn => simp [departed, Departed.all]

/-- A number that is not outstanding and not sent by the call is not outstanding behind it. -/
theorem fresh_step {d : LossDetector} {op : Op} {pn : PacketNumber}
    (h : d.sentPackets[pn.toNat]? = none) (hop : op.sent? ≠ some pn) :
    (d.step op).sentPackets[pn.toNat]? = none := by
  have hshrinks : ∀ d', Shrinks d d' → d'.sentPackets[pn.toNat]? = none := by
    intro d' hs
    cases hget : d'.sentPackets[pn.toNat]? with
    | none => rfl
    | some r =>
      rw [hs.sub _ r hget] at h
      cases h
  cases op with
  | sent record =>
    change (d.sentPackets.insert record.packetNumber.toNat record)[pn.toNat]? = none
    rw [Maps.getElem?_insert, if_neg]
    · exact h
    · intro heq
      exact hop (congrArg some (UInt64.toNat_inj.mp heq))
  | acked l delay ranges count now =>
    exact hshrinks _ (onAckReceived_spec d l delay ranges count now).1
  | timeout => exact hshrinks _ (onTimeout_spec d).1
  | migrated first => exact h

/-- **Every call of a run is settled.**  By induction on the calls; the numbers that are still to be
sent are not outstanding. -/
theorem settles_run (ops : List Op) {d : LossDetector} {sent : List PacketNumber} (h : d.Exact)
    (hinv : Inv d sent) (hfresh : (sentOf ops).Nodup)
    (hout : ∀ pn ∈ sentOf ops, d.sentPackets[pn.toNat]? = none)
    (hfits : Runs.Along step Fits d ops) :
    (ops.foldl step d).Exact ∧
      (sentRecords ops ++ d.unsettled).Perm
        ((departed d ops).all ++ (ops.foldl step d).unsettled) ∧
      ∀ before op after, ops = before ++ op :: after → Settles (before.foldl step d) op := by
  induction ops generalizing d sent with
  | nil =>
    refine ⟨h, List.Perm.refl _, fun before op after hsplit => ?_⟩
    cases before with
    | nil => cases hsplit
    | cons b before => cases hsplit
  | cons op ops ih =>
    have hsplit : sentOf (op :: ops) = op.sent?.toList ++ sentOf ops := by
      cases op <;> rfl
    rw [hsplit] at hfresh hout
    obtain ⟨-, hrest, hdisjoint⟩ := List.nodup_append.mp hfresh
    have hnew : ∀ record, op = .sent record → d.sentPackets[record.packetNumber.toNat]? = none := by
      rintro record rfl
      exact hout _ (List.mem_append_left _ (by simp [Op.sent?]))
    obtain ⟨hexact, hsettles⟩ := h.step hinv.keyed hnew hfits.1
    have hout' : ∀ pn ∈ sentOf ops, (d.step op).sentPackets[pn.toNat]? = none := by
      intro pn hpn
      refine fresh_step (hout pn (List.mem_append_right _ hpn)) fun hop => ?_
      exact hdisjoint pn (by rw [hop]; exact List.mem_singleton.mpr rfl) pn hpn rfl
    obtain ⟨hend, hperm, hall⟩ := ih hexact (hinv.step op) hrest hout' hfits.2
    refine ⟨hend, ?_, fun before op' after heq => ?_⟩
    · have hone := hsettles.records
      have hleft := departed_cons d op ops
      rw [List.perm_iff_count] at hone hperm hleft ⊢
      intro r
      have hone := hone r
      have hperm := hperm r
      have hleft := hleft r
      rw [sentRecords_cons]
      simp only [List.count_append, List.foldl_cons] at hone hperm hleft ⊢
      omega
    · cases before with
      | nil =>
        obtain ⟨rfl, -⟩ := List.cons.inj heq
        exact hsettles
      | cons b before =>
        obtain ⟨rfl, htail⟩ := List.cons.inj heq
        exact hall before op' after htail

/-- **The account of a run.**  For every sequence of calls with fresh packet numbers in which the
bytes in flight fit in 64 bits: the counter is the sum of the bytes of the in-flight records; the
records sent are those that were acknowledged, those declared lost, those drained and those
outstanding, each once; and every call is settled. -/
theorem account_exact (ops : List Op) (hfresh : (sentOf ops).Nodup)
    (hfits : Runs.Along step Fits default ops) :
    (runNew ops).inflightBytes = flightOf (runNew ops).unsettled ∧
      (sentRecords ops).Perm ((departed default ops).all ++ (runNew ops).unsettled) ∧
      (((departed default ops).all ++ (runNew ops).unsettled).map
        SentPacketRecord.packetNumber).Nodup ∧
      ∀ before op after, ops = before ++ op :: after → Settles (runNew before) op := by
  have hempty : default.unsettled = [] := by
    rw [unsettled, default, Std.ExtTreeMap.toList_eq_nil_iff.mpr rfl]
    rfl
  have hstart : default.Exact := (Maps.total_empty flight).symm
  obtain ⟨hexact, hperm, hall⟩ := settles_run ops hstart inv_default hfresh
    (fun pn _ => Std.ExtTreeMap.getElem?_empty) hfits
  rw [hempty, List.append_nil] at hperm
  refine ⟨?_, hperm, ?_, hall⟩
  · rw [← total_flight]
    exact hexact
  · refine (hperm.map SentPacketRecord.packetNumber).nodup_iff.mp ?_
    rw [map_packetNumber_sentRecords]
    exact hfresh

/-- Four packets, of which the second is an ACK only; the last one is acknowledged, then the probe
timer fires. -/
def fourSent : List Op :=
  [.sent ⟨0, 5, 100, true, true, []⟩, .sent ⟨1, 5, 40, false, false, []⟩,
    .sent ⟨2, 5, 200, true, true, []⟩, .sent ⟨3, 6, 300, true, true, []⟩,
    .acked 3 0 [⟨0, 0⟩] 1 7, .timeout]

/-- The theorem at `fourSent`. -/
theorem account_fourSent :
    (runNew fourSent).inflightBytes = flightOf (runNew fourSent).unsettled ∧
    Settles (runNew (fourSent.take 4)) (.acked 3 0 [⟨0, 0⟩] 1 7) := by
  have hfits : Runs.Along step Fits default fourSent := by decide +kernel
  obtain ⟨hcounter, -, -, hall⟩ := account_exact fourSent (by decide) hfits
  exact ⟨hcounter, hall _ _ [.timeout] rfl⟩

/-- **A counter that saturates.**  Two packets of half the 64-bit range each. -/
theorem account_saturates :
    (sentOf [.sent ⟨0, 0, 2 ^ 63, true, true, []⟩, .sent ⟨1, 0, 2 ^ 63, true, true, []⟩]).Nodup ∧
      (runNew [.sent ⟨0, 0, 2 ^ 63, true, true, []⟩,
        .sent ⟨1, 0, 2 ^ 63, true, true, []⟩]).inflightBytes ≠
      flightOf (runNew [.sent ⟨0, 0, 2 ^ 63, true, true, []⟩,
        .sent ⟨1, 0, 2 ^ 63, true, true, []⟩]).unsettled := by
  decide +kernel

/-! ## 5. What an ACK leaves behind -/

theorem ackFold_sentPackets (largestPn : Nat) (delay : Duration) (now : MonotonicTime)
    (ns : List Nat) (acc : AckAcc) : (ns.foldl (ackOne largestPn delay now) acc).det.sentPackets =
      ns.foldl (fun m n => m.erase n) acc.det.sentPackets := by
  induction ns generalizing acc with
  | nil => rfl
  | cons n ns ih => rw [List.foldl_cons, ih, ackOne_sentPackets, List.foldl_cons]

theorem dropFold_sentPackets (pns : List Nat) (acc : LossDetector × LossEvent) :
    (pns.foldl dropLost acc).1.sentPackets =
      pns.foldl (fun m n => m.erase n) acc.1.sentPackets := by
  induction pns generalizing acc with
  | nil => rfl
  | cons pn pns ih =>
    have hone : (dropLost acc pn).1.sentPackets = acc.1.sentPackets.erase pn := by
      unfold dropLost
      split
      · rename_i hnone
        exact ((Maps.erase_eq_self_iff _ _).mpr (Maps.not_mem_iff.mpr hnone)).symm
      · dsimp only
        split <;> rfl
    rw [List.foldl_cons, ih, hone, List.foldl_cons]

/-- **What the sweep leaves** is what is not lost. -/
theorem detectLost_survives {d : LossDetector} (largestPn : Nat) (now : MonotonicTime) {pn : Nat}
    {r : SentPacketRecord} :
    (d.detectLost largestPn now).1.sentPackets[pn]? = some r ↔ d.sentPackets[pn]? = some r ∧
      isLost largestPn (max d.rttStats.smoothedRtt d.rttStats.latestRtt * 9 / 8) now pn r =
        false := by
  unfold detectLost
  dsimp only
  generalize max d.rttStats.smoothedRtt d.rttStats.latestRtt * 9 / 8 = threshold
  have hmem : pn ∈ (d.sentPackets.toList.filter
      fun e => isLost largestPn threshold now e.1 e.2).map Prod.fst ↔
      ∃ r', d.sentPackets[pn]? = some r' ∧ isLost largestPn threshold now pn r' = true := by
    simp [Std.ExtTreeMap.mem_toList_iff_getElem?_eq_some]
  rw [dropFold_sentPackets, Maps.getElem?_foldl_erase]
  split
  · rename_i hin
    obtain ⟨r', hr', hlost⟩ := hmem.mp hin
    refine ⟨fun h => (by cases h), fun ⟨hr, hkept⟩ => ?_⟩
    obtain rfl := Option.some.inj (hr'.symm.trans hr)
    rw [hlost] at hkept
    cases hkept
  · rename_i hout
    refine ⟨fun hr => ⟨hr, Bool.eq_false_iff.mpr fun hlost => hout (hmem.mpr ⟨r, hr, hlost⟩)⟩, ?_⟩
    exact fun h => h.1

/-- **What an ACK leaves** was not acknowledged and is not lost. -/
theorem onAckReceived_survives {d : LossDetector} {largestAcked : PacketNumber}
    (hle : largestAcked.toNat ≤ d.largestSentPacket) (ackDelayUs : UInt32) (ranges : List AckRange)
    (rangeCount : Nat) (now : MonotonicTime) : ∃ threshold, ∀ (pn : Nat) r,
      (d.onAckReceived largestAcked ackDelayUs ranges rangeCount now).1.sentPackets[pn]? = some r ↔
        d.sentPackets[pn]? = some r ∧ pn ∉ parseAckRanges largestAcked.toNat ranges rangeCount ∧
          isLost largestAcked.toNat threshold now pn r = false := by
  unfold onAckReceived
  simp only [Nat.not_lt.mpr hle, if_false]
  have hpackets := ackFold_sentPackets largestAcked.toNat ackDelayUs.toNat now
    (parseAckRanges largestAcked.toNat ranges rangeCount) ⟨d, [], 0, none⟩
  generalize List.foldl (ackOne largestAcked.toNat ackDelayUs.toNat now) ⟨d, [], 0, none⟩
    (parseAckRanges largestAcked.toNat ranges rangeCount) = acc at hpackets ⊢
  have hrate := (deliveryRate_sentPackets (acc.settle largestAcked) now).1
  generalize ((acc.settle largestAcked).deliveryRate now).1 = dr at hrate ⊢
  refine ⟨max dr.rttStats.smoothedRtt dr.rttStats.latestRtt * 9 / 8, fun pn r =>
    (detectLost_survives largestAcked.toNat now).trans ?_⟩
  have hget : dr.sentPackets[pn]? = if pn ∈ parseAckRanges largestAcked.toNat ranges rangeCount
      then none else d.sentPackets[pn]? := by
    rw [hrate]
    change acc.det.sentPackets[pn]? = _
    rw [hpackets, Maps.getElem?_foldl_erase]
  rw [hget]
  split
  · rename_i hin
    exact ⟨fun h => (by cases h.1), fun h => absurd hin h.2.1⟩
  · rename_i hout
    exact ⟨fun h => ⟨h.1, hout, h.2⟩, fun h => ⟨h.1, h.2.2⟩⟩

/-- Beyond the packet threshold a record is lost exactly when it is in flight and ack-eliciting. -/
theorem isLost_beyond {largestPn pn : Nat} (h : pn + packetThreshold ≤ largestPn)
    (hlarge : largestPn < 2 ^ 64) (threshold : Duration) (now : MonotonicTime)
    (r : SentPacketRecord) :
    isLost largestPn threshold now pn r = (r.inFlight && r.ackEliciting) := by
  have hbelow : decide (largestPn < pn) = false := decide_eq_false (by omega)
  have hpast : decide (wrapAdd pn packetThreshold ≤ largestPn) = true := by
    rw [wrapAdd_of_lt (by omega)]
    exact decide_eq_true h
  unfold isLost
  rw [hbelow, hpast]
  cases r.inFlight <;> cases r.ackEliciting <;> rfl

theorem le_largestSent {d : LossDetector} (h : ∀ (pn : Nat) r, d.sentPackets[pn]? = some r →
      pn ≤ d.largestSentPacket) (op : Op) : ∀ (pn : Nat) r,
      (d.step op).sentPackets[pn]? = some r → pn ≤ (d.step op).largestSentPacket := by
  have hshrinks : ∀ d', Shrinks d d' → ∀ (pn : Nat) r, d'.sentPackets[pn]? = some r →
      pn ≤ d'.largestSentPacket := by
    intro d' hs pn r hr
    rw [hs.largestSent]
    exact h pn r (hs.sub pn r hr)
  cases op with
  | sent record =>
    intro pn r hr
    change (d.sentPackets.insert record.packetNumber.toNat record)[pn]? = some r at hr
    change pn ≤ max d.largestSentPacket record.packetNumber.toNat
    rw [Maps.getElem?_insert] at hr
    split at hr
    · rename_i heq
      exact heq ▸ Nat.le_max_right _ _
    · exact (h pn r hr).trans (Nat.le_max_left _ _)
  | acked l delay ranges count now =>
    exact hshrinks _ (onAckReceived_spec d l delay ranges count now).1
  | timeout => exact hshrinks _ (onTimeout_spec d).1
  | migrated first => exact h

theorem le_largestSent_runNew (ops : List Op) (pn : Nat) (r : SentPacketRecord)
    (h : (runNew ops).sentPackets[pn]? = some r) : pn ≤ (runNew ops).largestSentPacket := by
  have hrun : ∀ (ops : List Op) (d : LossDetector), (∀ (pn : Nat) r,
      d.sentPackets[pn]? = some r → pn ≤ d.largestSentPacket) → ∀ (pn : Nat) r,
      (ops.foldl step d).sentPackets[pn]? = some r → pn ≤ (ops.foldl step d).largestSentPacket := by
    intro ops
    induction ops with
    | nil => exact fun d hd => hd
    | cons op ops ih => exact fun d hd => ih (d.step op) (le_largestSent hd op)
  exact hrun ops default (fun pn r h => by simp [default] at h) pn r h

theorem size_le_of_keys {m : SentPackets} {low high : Nat}
    (h : ∀ (pn : Nat) r, m[pn]? = some r → low ≤ pn ∧ pn ≤ high) : m.size ≤ high + 1 - low := by
  have hnodup : (m.toList.map Prod.fst).Nodup := by
    rw [List.nodup_iff_pairwise_ne, List.pairwise_map]
    refine m.distinct_keys_toList.imp fun hne heq => hne ?_
    rw [heq]
    exact Std.compare_self
  have hsub : m.toList.map Prod.fst ⊆ List.range' low (high + 1 - low) := by
    intro pn hpn
    obtain ⟨e, he, rfl⟩ := List.mem_map.mp hpn
    have hbounds := h e.1 e.2 (Std.ExtTreeMap.mem_toList_iff_getElem?_eq_some.mp he)
    exact List.mem_range'_1.mpr (by omega)
  have hlen := (List.subperm_of_subset hnodup hsub).length_le
  rw [List.length_map, Std.ExtTreeMap.length_toList, List.length_range'] at hlen
  exact hlen

/-- After an ACK of `largestAcked` the records do not pile up: none is beyond the packet threshold,
and there are no more than were sent since, plus the threshold. -/
def Cleared (d : LossDetector) (largestAcked : PacketNumber) : Prop :=
  (∀ (pn : Nat) r, d.sentPackets[pn]? = some r → ¬ pn + packetThreshold ≤ largestAcked.toNat) ∧
    d.sentPackets.size ≤ d.largestSentPacket - largestAcked.toNat + packetThreshold

/-- **When an ACK clears the records.** In every reachable state, for every ACK that does not claim
more than was sent: exactly when the records beyond the threshold that it does not acknowledge are
in flight and ack-eliciting.  The ranges of the ACK are any, as they come from the peer.  A record
that is not ack-eliciting is declared lost by no ACK, and stays. -/
theorem cleared_iff (ops : List Op) {largestAcked : PacketNumber}
    (hle : largestAcked.toNat ≤ (runNew ops).largestSentPacket) (ackDelayUs : UInt32)
    (ranges : List AckRange) (rangeCount : Nat) (now : MonotonicTime) :
    Cleared ((runNew ops).onAckReceived largestAcked ackDelayUs ranges rangeCount now).1
        largestAcked ↔
      ∀ (pn : Nat) r, (runNew ops).sentPackets[pn]? = some r →
        pn + packetThreshold ≤ largestAcked.toNat →
        pn ∉ parseAckRanges largestAcked.toNat ranges rangeCount →
        r.inFlight = true ∧ r.ackEliciting = true := by
  obtain ⟨threshold, hsurvives⟩ := onAckReceived_survives hle ackDelayUs ranges rangeCount now
  have hlarge : largestAcked.toNat < 2 ^ 64 := largestAcked.toNat_lt
  have hspec := (onAckReceived_spec (runNew ops) largestAcked ackDelayUs ranges rangeCount now).1
  constructor
  · intro hcleared pn r hr hbeyond hout
    by_contra hkind
    refine hcleared.1 pn r ((hsurvives pn r).mpr ⟨hr, hout, ?_⟩) hbeyond
    rw [isLost_beyond hbeyond hlarge, Bool.eq_false_iff, ne_eq, Bool.and_eq_true]
    exact hkind
  · intro hkind
    have hnone : ∀ (pn : Nat) r, ((runNew ops).onAckReceived largestAcked ackDelayUs ranges
        rangeCount now).1.sentPackets[pn]? = some r →
        ¬ pn + packetThreshold ≤ largestAcked.toNat := by
      intro pn r hr hbeyond
      obtain ⟨hr, hout, hkept⟩ := (hsurvives pn r).mp hr
      obtain ⟨hflight, heliciting⟩ := hkind pn r hr hbeyond hout
      rw [isLost_beyond hbeyond hlarge, hflight, heliciting] at hkept
      cases hkept
    refine ⟨hnone, ?_⟩
    have hbetween : ∀ (pn : Nat) r, ((runNew ops).onAckReceived largestAcked ackDelayUs ranges
        rangeCount now).1.sentPackets[pn]? = some r →
        largestAcked.toNat + 1 - packetThreshold ≤ pn ∧ pn ≤ (runNew ops).largestSentPacket := by
      intro pn r hr
      have hbelow := le_largestSent_runNew ops pn r (hspec.sub pn r hr)
      have habove := hnone pn r hr
      omega
    have hsize := size_le_of_keys hbetween
    rw [hspec.largestSent]
    have hthree : packetThreshold = 3 := rfl
    omega

/-- The theorem at a run where all packets are in flight. -/
theorem cleared_inFlight :
    Cleared ((runNew [.sent ⟨0, 5, 100, true, true, []⟩, .sent ⟨1, 5, 200, true, true, []⟩,
      .sent ⟨2, 5, 200, true, true, []⟩, .sent ⟨3, 5, 200, true, true, []⟩]).onAckReceived 3 0
        [⟨0, 0⟩] 1 7).1 3 := by
  refine (cleared_iff _ (by decide) 0 [⟨0, 0⟩] 1 7).mpr fun pn r hr _ _ => ?_
  simp only [runNew, List.foldl_cons, List.foldl_nil, step, onPacketSent,
    Maps.getElem?_insert] at hr
  split_ifs at hr
  all_goals first | (obtain rfl := Option.some.inj hr; exact ⟨rfl, rfl⟩) | simp [default] at hr

/-- **A record that stays.**  Packet 0 is an ACK only and is lost; packet 4 is acknowledged, and the
record of packet 0 is still there. -/
theorem ack_only_stays :
    ¬ Cleared ((runNew [.sent ⟨0, 5, 40, false, false, []⟩, .sent ⟨1, 5, 200, true, true, []⟩,
      .sent ⟨2, 5, 200, true, true, []⟩, .sent ⟨3, 5, 200, true, true, []⟩,
      .sent ⟨4, 5, 200, true, true, []⟩]).onAckReceived 4 0 [⟨0, 0⟩] 1 7).1 4 := by
  intro hcleared
  refine hcleared.1 0 ⟨0, 5, 40, false, false, []⟩ ?_ (by decide)
  decide +kernel

end LossDetector

end Gtp
