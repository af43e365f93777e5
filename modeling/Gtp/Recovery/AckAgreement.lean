/-
# The two ends of an acknowledgement

`peek_ack_frame` writes intervals as gap/length pairs and `parse_ack_ranges` walks them back; the
two live in different files and have different limits.  The bridge is `mem_parse_iff`: on the
frame of a tracker that satisfies its invariant, the walk yields exactly the numbers of the newest
32 intervals that its budget of 16384 numbers reaches (`Reached`).

Everything then follows from where the intervals lie.  All of them end inside the retention
window, so an interval that has a successor is shorter than the window and its length and gap
survive the cast to `u32`: only the oldest interval can be long.

* Soundness (`ack_sound`): nothing that was never received is acknowledged.
* Completeness (`ack_complete_iff`) holds exactly as far as the budget reaches -- a run of more than
  16384 numbers is not acknowledged at all.

Both are about one exchange: a tracker after any history, its frame, and a detector that gets it.
The wire is not in between here, and the frame's way through the codec is in `Gtp.Wire.RoundTrip`;
`Gtp.Core.Custody` has both ends of a connection, and the network.  A number that the tracker has
dropped from its intervals is not acknowledged any more; which ones these are is the subject of
`Gtp.Recovery.AckCoverage`.
-/
import Gtp.Recovery.AckTracker
import Gtp.Recovery.LossDetector

namespace Gtp

open Intervals

namespace AckAgreement

/-! ## 1. The walk over a tracker's ranges -/

/-- How many numbers below its end the range of `iv` covers: the length, cast to `u32`. -/
def wireLength (iv : PacketInterval) : Nat := (iv.last - iv.start) % 2 ^ 32

/-- The numbers that a walk with `total` numbers behind it takes from the intervals: block by
block, as long as the budget of `MAX_ACKED_PER_FRAME` is not exceeded. -/
def Reached (total : Nat) : List PacketInterval → Nat → Prop
  | [], _ => False
  | iv :: rest, pn =>
    total + (wireLength iv + 1) ≤ maxAckedPerFrame ∧
      ((iv.last ≤ pn + wireLength iv ∧ pn ≤ iv.last) ∨
        Reached (total + (wireLength iv + 1)) rest pn)

/-- The oldest interval apart, every interval survives the cast to `u32`. -/
def Tight : List PacketInterval → Prop
  | [] => True
  | [_] => True
  | iv :: nxt :: rest => iv.last < nxt.last + ackRetentionWindow ∧ Tight (nxt :: rest)

theorem Tight.tail {iv : PacketInterval} {l : List PacketInterval} (h : Tight (iv :: l)) :
    Tight l := by
  cases l with
  | nil => trivial
  | cons nxt rest => exact h.2

theorem wireLength_le {iv : PacketInterval} : wireLength iv ≤ iv.last - iv.start :=
  Nat.mod_le _ _

theorem toNat_length {iv : PacketInterval} (hne : iv.start ≤ iv.last) (hlt : iv.last < 2 ^ 64) :
    (UInt32.ofNat (wrapSub iv.last iv.start)).toNat = wireLength iv := by
  rw [wrapSub_of_le hne hlt, UInt32.toNat_ofNat', wireLength]

/-- One block: what the walk does with a range once its high edge is known to be `iv.last`. -/
theorem mem_block {iv : PacketInterval} {pn : Nat} :
    pn ∈ (List.range' (iv.last - wireLength iv) (wireLength iv + 1)).reverse ↔
      iv.last ≤ pn + wireLength iv ∧ pn ≤ iv.last := by
  have hle : wireLength iv ≤ iv.last := Nat.le_trans wireLength_le (Nat.sub_le _ _)
  rw [List.mem_reverse, List.mem_range'_1]
  omega

/-- **The later ranges.**  With the walk standing at the start of the predecessor, it reaches
exactly what `Reached` says. -/
theorem mem_parseWalk_later {prevStart largestPn i total : Nat} {l : List PacketInterval}
    (hl : Spaced (prevStart - 1) l) (hb : prevStart < 2 ^ 64) (htight : Tight l)
    (hgap : ∀ iv ∈ l.head?, prevStart < iv.last + 2 ^ 32) (pn : Nat) :
    pn ∈ LossDetector.parseWalk largestPn (i + 1) total prevStart
        (AckTracker.laterRanges prevStart l) ↔ Reached total l pn := by
  induction l generalizing prevStart i total with
  | nil => simp [AckTracker.laterRanges, LossDetector.parseWalk, Reached]
  | cons iv rest ih =>
    obtain ⟨hne, hlt, hrest⟩ := hl
    have hclose : prevStart < iv.last + 2 ^ 32 := hgap iv (by simp)
    have hgapn : (UInt32.ofNat (prevStart - wrapAdd iv.last 1)).toNat = prevStart - iv.last - 1 := by
      rw [wrapAdd_of_lt (by omega), UInt32.toNat_ofNat', Nat.mod_eq_of_lt (by omega)]
      omega
    have hhigh : prevStart - (prevStart - iv.last - 1) - 1 = iv.last := by omega
    have hwl : wireLength iv ≤ iv.last - iv.start := wireLength_le
    simp only [AckTracker.laterRanges, LossDetector.parseWalk, hgapn,
      toNat_length hne (show iv.last < 2 ^ 64 by omega), Nat.zero_lt_succ, true_and, if_true, hhigh,
      Reached]
    rw [if_neg (by omega), if_neg (by omega)]
    by_cases hbudget : maxAckedPerFrame < total + (wireLength iv + 1)
    · rw [if_pos hbudget]
      simp only [List.not_mem_nil, false_iff]
      omega
    · rw [if_neg hbudget, List.mem_append, mem_block]
      have hok : total + (wireLength iv + 1) ≤ maxAckedPerFrame := by omega
      simp only [hok, true_and]
      refine or_congr_right ?_
      -- only an interval with a successor matters for where the next block starts
      cases rest with
      | nil => simp [AckTracker.laterRanges, LossDetector.parseWalk, Reached]
      | cons nxt rest =>
        have hshort : iv.last < nxt.last + ackRetentionWindow := htight.1
        have hnlt : nxt.last < iv.start - 1 := hrest.2.1
        have hwl' : iv.last - wireLength iv = iv.start := by
          unfold ackRetentionWindow at hshort
          rw [wireLength, Nat.mod_eq_of_lt (by omega)]
          omega
        rw [hwl']
        refine ih hrest (by omega) htight.tail ?_
        intro x hx
        obtain rfl : nxt = x := by simpa using hx
        unfold ackRetentionWindow at hshort
        omega

theorem length_laterRanges (prevStart : Nat) (l : List PacketInterval) :
    (AckTracker.laterRanges prevStart l).length = l.length := by
  induction l generalizing prevStart with
  | nil => rfl
  | cons iv rest ih => simp [AckTracker.laterRanges, ih]

theorem length_ackRangesOf (l : List PacketInterval) :
    (AckTracker.ackRangesOf l).length = (l.take maxAckRanges).length := by
  cases l with
  | nil => rfl
  | cons iv rest => simp [AckTracker.ackRangesOf, length_laterRanges, maxAckRanges]

theorem length_ackRangesOf_le (l : List PacketInterval) :
    (AckTracker.ackRangesOf l).length ≤ 32 := by
  rw [length_ackRangesOf, List.length_take]
  exact Nat.min_le_left _ _

/-- The ranges that went into the frame's array are the ranges its count selects. -/
theorem take_ofList {rs : List AckRange} (h : rs.length ≤ 32) :
    (AckRanges.ofList rs).toList.take (UInt8.ofNat rs.length).toNat = rs := by
  have hcount : (UInt8.ofNat rs.length).toNat = rs.length := by
    rw [UInt8.toNat_ofNat', Nat.mod_eq_of_lt (by omega)]
  rw [hcount, AckRanges.ofList, List.Vector.toList_mk, List.take_take, Nat.min_eq_left h,
    List.take_left]

/-- Intervals that all reach into the retention window are tight. -/
theorem tight_of_retained {L : Nat} {l : List PacketInterval}
    (hret : ∀ iv ∈ l, L - ackRetentionWindow < iv.last) (hle : ∀ iv ∈ l, iv.last ≤ L) :
    Tight l := by
  induction l with
  | nil => trivial
  | cons iv rest ih =>
    cases rest with
    | nil => trivial
    | cons nxt rest =>
      have hnxt := hret nxt (by simp)
      have hiv := hle iv (by simp)
      refine ⟨by omega, ih (fun x hx => hret x (List.mem_cons_of_mem _ hx))
        (fun x hx => hle x (List.mem_cons_of_mem _ hx))⟩

theorem head_last {t : AckTracker} {received : List PacketNumber} (h : t.Inv received)
    {largest : PacketNumber} (hl : t.largestReceived = some largest) {iv : PacketInterval}
    {rest : List PacketInterval} (hi : t.intervals = iv :: rest) : iv.last = largest.toNat := by
  have hs := h.spaced largest hl
  have hret := h.retained largest hl iv (by rw [hi]; exact List.mem_cons_self)
  have hcov := h.covers_largest largest hl
  rw [hi] at hs hcov
  obtain ⟨hne, hlt, hrest⟩ := hs
  have hpos : 0 < largest.toNat := by omega
  rcases (covers_cons ..).mp (hcov hpos) with hhas | hhas
  · have := hhas.2
    omega
  · have := hrest.covers_lt hhas
    omega

theorem spaced_take {b : Nat} {l : List PacketInterval} (h : Spaced b l) (n : Nat) :
    Spaced b (l.take n) := by
  rw [← List.take_append_drop n l] at h
  exact (spaced_append.mp h).1

/-- **The bridge.**  The numbers the sender reads out of a tracker's frame are exactly those the
budget reaches in the newest 32 intervals. -/
theorem mem_parse_iff {t : AckTracker} {received : List PacketNumber} (h : t.Inv received)
    (hall : ∀ p ∈ received, p.toNat < u64Max) {largest : PacketNumber}
    (hl : t.largestReceived = some largest) (pn : Nat) :
    pn ∈ LossDetector.parseAckRanges largest.toNat
        (AckRanges.ofList (AckTracker.ackRangesOf t.intervals)).toList
        (UInt8.ofNat (AckTracker.ackRangesOf t.intervals).length).toNat ↔
      Reached 0 (t.intervals.take maxAckRanges) pn := by
  have hbound : largest.toNat < u64Max := hall _ (h.largest_mem _ hl)
  have hs := h.spaced largest hl
  have hret := h.retained largest hl
  have htight : Tight (t.intervals.take maxAckRanges) :=
    tight_of_retained (fun iv hiv => hret iv (List.mem_of_mem_take hiv))
      (fun iv hiv => Nat.le_of_lt_succ (hs.mem (List.mem_of_mem_take hiv)).2)
  rw [LossDetector.parseAckRanges, take_ofList (length_ackRangesOf_le _)]
  cases hi : t.intervals with
  | nil => simp [AckTracker.ackRangesOf, LossDetector.parseWalk, Reached]
  | cons iv rest =>
    have hlast := head_last h hl hi
    have htake : (iv :: rest).take maxAckRanges = iv :: rest.take (maxAckRanges - 1) := rfl
    rw [hi] at hs hret htight
    rw [htake] at htight ⊢
    obtain ⟨hne, hlt, hrest⟩ := hs
    have hrest' : Spaced (iv.start - 1) (rest.take (maxAckRanges - 1)) := spaced_take hrest _
    have hwl : wireLength iv ≤ iv.last - iv.start := wireLength_le
    unfold u64Max at hbound
    rw [AckTracker.ackRangesOf]
    generalize rest.take (maxAckRanges - 1) = later at hrest' htight
    simp only [LossDetector.parseWalk, toNat_length hne (show iv.last < 2 ^ 64 by omega),
      Nat.lt_irrefl, false_and, if_false, ← hlast, Reached, Nat.zero_add]
    rw [if_neg (by omega)]
    by_cases hbudget : maxAckedPerFrame < wireLength iv + 1
    · rw [if_pos hbudget]
      simp only [List.not_mem_nil, false_iff]
      omega
    · rw [if_neg hbudget, List.mem_append, mem_block]
      have hok : wireLength iv + 1 ≤ maxAckedPerFrame := by omega
      simp only [hok, true_and]
      refine or_congr_right ?_
      cases later with
      | nil => simp [AckTracker.laterRanges, LossDetector.parseWalk, Reached]
      | cons nxt later =>
        have hshort : iv.last < nxt.last + ackRetentionWindow := htight.1
        have hnlt : nxt.last < iv.start - 1 := hrest'.2.1
        unfold ackRetentionWindow at hshort
        have hwl' : iv.last - wireLength iv = iv.start := by
          rw [wireLength, Nat.mod_eq_of_lt (by omega)]
          omega
        rw [hwl']
        refine mem_parseWalk_later (i := 0) hrest' (by omega) htight.tail ?_ pn
        intro x hx
        obtain rfl : nxt = x := by simpa using hx
        omega

theorem Reached.covers {total : Nat} {l : List PacketInterval} {pn : Nat}
    (h : Reached total l pn) (hne : ∀ iv ∈ l, iv.start ≤ iv.last) : Covers l pn := by
  induction l generalizing total with
  | nil => exact h.elim
  | cons iv rest ih =>
    have hwl : wireLength iv ≤ iv.last - iv.start := wireLength_le
    have hiv := hne iv List.mem_cons_self
    rw [covers_cons]
    rcases h.2 with ⟨hlo, hhi⟩ | hrest
    · exact Or.inl ⟨by omega, hhi⟩
    · exact Or.inr (ih hrest fun x hx => hne x (List.mem_cons_of_mem _ hx))

/-! ## 2. Soundness -/

/-- Passing the frame of `peek_ack_frame` to the peer's `on_ack_received`. -/
def deliverAck (t : AckTracker) (sentAt : MonotonicTime) (d : LossDetector) (now : MonotonicTime) :
    LossDetector × AckEvent × LossEvent × Option DeliveryRateSample :=
  match t.peekAckFrame sentAt with
  | some (.ack largestAcked ackDelayUs ranges rangeCount _ _ _) =>
    d.onAckReceived largestAcked ackDelayUs ranges.toList rangeCount.toNat now
  | _ => (d, ⟨0, [], 0, none⟩, ⟨[], 0, []⟩, none)

/-- The numbers the sender reads out of the frame of `peek_ack_frame`. -/
def parsedNumbers (t : AckTracker) (sentAt : MonotonicTime) : List Nat :=
  match t.peekAckFrame sentAt with
  | some (.ack largestAcked _ ranges rangeCount _ _ _) =>
    LossDetector.parseAckRanges largestAcked.toNat ranges.toList rangeCount.toNat
  | _ => []

/-- A tracker with a policy, after any calls. -/
theorem inv_withPolicy_run (freq : UInt8) (delay : Duration) (ops : List AckTracker.Op)
    (hpn : ∀ p ∈ AckTracker.receivedOf ops, p.toNat < u64Max) :
    ((AckTracker.withPolicy freq delay).run ops).Inv (AckTracker.receivedOf ops) := by
  have hinit : (AckTracker.withPolicy freq delay).Inv [] :=
    AckTracker.inv_default.congr rfl rfl
  simpa using hinit.run ops (by simpa using hpn)

theorem mem_parsedNumbers_iff {t : AckTracker} {received : List PacketNumber} (h : t.Inv received)
    (hall : ∀ p ∈ received, p.toNat < u64Max) (sentAt : MonotonicTime) (pn : Nat) :
    pn ∈ parsedNumbers t sentAt ↔ Reached 0 (t.intervals.take maxAckRanges) pn := by
  cases hl : t.largestReceived with
  | none =>
    rw [(h.fresh hl).1]
    simp [parsedNumbers, AckTracker.peekAckFrame, hl, Reached]
  | some largest =>
    simp only [parsedNumbers, AckTracker.peekAckFrame, hl, Option.map_some]
    exact mem_parse_iff h hall hl pn

/-- The records a detector gives up as acknowledged. -/
theorem mem_acked_iff {t : AckTracker} {received : List PacketNumber} (h : t.Inv received)
    (hall : ∀ p ∈ received, p.toNat < u64Max) {d : LossDetector}
    (hsent : ∀ p ∈ received, p.toNat ≤ d.largestSentPacket) (sentAt now : MonotonicTime)
    (r : SentPacketRecord) :
    r ∈ (deliverAck t sentAt d now).2.1.ackedPackets ↔
      ∃ pn, Reached 0 (t.intervals.take maxAckRanges) pn ∧ d.sentPackets[pn]? = some r := by
  cases hl : t.largestReceived with
  | none =>
    rw [(h.fresh hl).1]
    simp [deliverAck, AckTracker.peekAckFrame, hl, Reached]
  | some largest =>
    have hle : ¬ d.largestSentPacket < largest.toNat :=
      Nat.not_lt.mpr (hsent _ (h.largest_mem _ hl))
    simp only [deliverAck, AckTracker.peekAckFrame, hl, Option.map_some]
    rw [(LossDetector.onAckReceived_spec ..).2.2.1, LossDetector.ackedNumbers, if_neg hle]
    exact exists_congr fun pn => and_congr_left fun _ => mem_parse_iff h hall hl pn

theorem received_of_reached {t : AckTracker} {received : List PacketNumber} (h : t.Inv received)
    {pn : Nat} (hr : Reached 0 (t.intervals.take maxAckRanges) pn) :
    ∃ p ∈ received, p.toNat = pn := by
  have hne : ∀ iv ∈ t.intervals.take maxAckRanges, iv.start ≤ iv.last := by
    intro iv hiv
    have hmem := List.mem_of_mem_take hiv
    cases hl : t.largestReceived with
    | none => rw [(h.fresh hl).1] at hmem; cases hmem
    | some l => exact ((h.spaced l hl).mem hmem).1
  obtain ⟨iv, hiv, hhas⟩ := hr.covers hne
  exact h.sound pn ⟨iv, List.mem_of_mem_take hiv, hhas⟩

/-- **No false acknowledgement.** Whatever the receiver was fed, in any order and with any gaps, the
numbers the sender reads out of its ACK frame were all received; so a packet that any sender gives
up as acknowledged is one the receiver got.  Numbers are below `2^64 - 1`.  That everything received
is acknowledged is another matter, see `ack_complete_iff`. -/
theorem ack_sound (freq : UInt8) (delay : Duration) (ops : List AckTracker.Op)
    (hpn : ∀ p ∈ AckTracker.receivedOf ops, p.toNat < u64Max) (sentAt : MonotonicTime) :
    let t := (AckTracker.withPolicy freq delay).run ops
    (∀ pn ∈ parsedNumbers t sentAt, ∃ p ∈ AckTracker.receivedOf ops, p.toNat = pn) ∧
      ∀ (dops : List LossDetector.Op) (now : MonotonicTime),
        ∀ r ∈ (deliverAck t sentAt (LossDetector.runNew dops) now).2.1.ackedPackets,
          r.packetNumber ∈ AckTracker.receivedOf ops := by
  have h := inv_withPolicy_run freq delay ops hpn
  refine ⟨fun pn hmem => ?_, fun dops now r hr => ?_⟩
  · exact received_of_reached h ((mem_parsedNumbers_iff h hpn sentAt pn).mp hmem)
  · -- the record is filed under a number that was parsed
    have hkeyed := (LossDetector.inv_runNew dops).keyed
    generalize LossDetector.runNew dops = d at hr hkeyed
    cases hl : ((AckTracker.withPolicy freq delay).run ops).largestReceived with
    | none => simp [deliverAck, AckTracker.peekAckFrame, hl] at hr
    | some largest =>
      simp only [deliverAck, AckTracker.peekAckFrame, hl, Option.map_some] at hr
      rw [(LossDetector.onAckReceived_spec ..).2.2.1, LossDetector.ackedNumbers] at hr
      obtain ⟨pn, hpnmem, hget⟩ := hr
      split at hpnmem
      · cases hpnmem
      · obtain ⟨p, hp, hpeq⟩ := received_of_reached h ((mem_parse_iff h hpn hl pn).mp hpnmem)
        have hrec : r.packetNumber = p := by
          rw [← UInt64.toNat_inj, hkeyed pn r hget, hpeq]
        rw [hrec]
        exact hp

/-- The theorem at a history with a gap, a duplicate and a late packet. -/
theorem ack_sound_gap :
    let ops : List AckTracker.Op := [.receive 3 true 0 10, .receive 9 true 2 20,
      .receive 3 true 0 30, .receive 2 false 0 40]
    parsedNumbers ((AckTracker.withPolicy 1 5000).run ops) 50 = [9, 3, 2] ∧
      ∀ pn ∈ parsedNumbers ((AckTracker.withPolicy 1 5000).run ops) 50,
        ∃ p ∈ AckTracker.receivedOf ops, p.toNat = pn := by
  refine ⟨by decide, (ack_sound 1 5000 _ ?_ 50).1⟩
  simp [AckTracker.receivedOf, AckTracker.Op.received, u64Max]

/-! ## 3. Completeness, as far as the budget reaches -/

/-- **The budget condition.**  If `pn` lies in one of the intervals, then that interval and the
newer ones (each counted with its length cast to `u32`) hold at most `MAX_ACKED_PER_FRAME`
numbers together, and `pn` is within the cast length of the interval's end. -/
def InBudget (total : Nat) : List PacketInterval → Nat → Prop
  | [], _ => True
  | iv :: rest, pn =>
    (iv.Has pn → total + (wireLength iv + 1) ≤ maxAckedPerFrame ∧ iv.last ≤ pn + wireLength iv) ∧
      InBudget (total + (wireLength iv + 1)) rest pn

theorem inBudget_of_not_covers {total : Nat} {l : List PacketInterval} {pn : Nat}
    (h : ¬ Covers l pn) : InBudget total l pn := by
  induction l generalizing total with
  | nil => trivial
  | cons iv rest ih =>
    rw [covers_cons, not_or] at h
    exact ⟨fun hhas => absurd hhas h.1, ih h.2⟩

/-- A number of the intervals that the condition admits is below the budget line. -/
theorem InBudget.total_le {total : Nat} {l : List PacketInterval} {pn : Nat}
    (h : InBudget total l pn) (hc : Covers l pn) : total ≤ maxAckedPerFrame := by
  induction l generalizing total with
  | nil => exact absurd hc (covers_nil pn)
  | cons iv rest ih =>
    rcases (covers_cons ..).mp hc with hhas | hrest
    · have := (h.1 hhas).1
      omega
    · have := ih h.2 hrest
      omega

/-- For a number of the intervals, the walk reaches it exactly when the condition holds. -/
theorem reached_iff_inBudget {b total : Nat} {l : List PacketInterval} {pn : Nat}
    (hs : Spaced b l) (hc : Covers l pn) : Reached total l pn ↔ InBudget total l pn := by
  induction l generalizing b total with
  | nil => exact absurd hc (covers_nil pn)
  | cons iv rest ih =>
    obtain ⟨hne, hlt, hrest⟩ := hs
    have hnotboth : iv.Has pn → ¬ Covers rest pn := by
      intro hhas hcov
      have hlo := hhas.1
      have := hrest.covers_lt hcov
      omega
    rcases (covers_cons ..).mp hc with hhas | hcov
    · have hnr : ¬ Reached (total + (wireLength iv + 1)) rest pn :=
        fun hr => hnotboth hhas (hr.covers fun x hx => (hrest.mem hx).1)
      have hib : InBudget (total + (wireLength iv + 1)) rest pn :=
        inBudget_of_not_covers (hnotboth hhas)
      have hle := hhas.2
      simp only [Reached, InBudget, hnr, hib, or_false, and_true, hhas, true_implies, hle]
    · have hnh : ¬ iv.Has pn := fun hhas => hnotboth hhas hcov
      have hwl : wireLength iv ≤ iv.last - iv.start := wireLength_le
      have hblock : ¬ (iv.last ≤ pn + wireLength iv ∧ pn ≤ iv.last) :=
        fun hb => hnh ⟨by omega, hb.2⟩
      simp only [Reached, InBudget, hblock, false_or, hnh, false_implies, true_and, ih hrest hcov]
      exact ⟨fun h => h.2, fun h => ⟨h.total_le hcov, h⟩⟩

/-- One exchange loses no acknowledgement: when the ACK frame of the tracker, built at `sentAt`,
comes to the detector at `now`, every outstanding packet in the newest 32 intervals is reported as
acknowledged and removed. -/
def AcksRetained (t : AckTracker) (sentAt : MonotonicTime) (d : LossDetector)
    (now : MonotonicTime) : Prop :=
  ∀ (pn : Nat) r, d.sentPackets[pn]? = some r → Covers (t.intervals.take maxAckRanges) pn →
    r ∈ (deliverAck t sentAt d now).2.1.ackedPackets ∧
      (deliverAck t sentAt d now).1.sentPackets[pn]? = none

/-- Every outstanding packet in the newest 32 intervals meets the budget condition. -/
def OutstandingInBudget (t : AckTracker) (d : LossDetector) : Prop :=
  ∀ pn : Nat, d.sentPackets[pn]?.isSome → InBudget 0 (t.intervals.take maxAckRanges) pn

theorem acksRetained_iff {t : AckTracker} {received : List PacketNumber} (h : t.Inv received)
    (hall : ∀ p ∈ received, p.toNat < u64Max) {d : LossDetector} {sent : List PacketNumber}
    (hd : d.Inv sent) (hsent : ∀ p ∈ received, p ∈ sent) (sentAt now : MonotonicTime) :
    AcksRetained t sentAt d now ↔ OutstandingInBudget t d := by
  have hle : ∀ p ∈ received, p.toNat ≤ d.largestSentPacket :=
    fun p hp => hd.le_largest p (hsent p hp)
  have hspaced : ∃ b, Spaced b (t.intervals.take maxAckRanges) := by
    cases hl : t.largestReceived with
    | none => rw [(h.fresh hl).1]; exact ⟨0, trivial⟩
    | some l => exact ⟨_, spaced_take (h.spaced l hl) _⟩
  obtain ⟨b, hs⟩ := hspaced
  constructor
  · intro hacks pn hout
    obtain ⟨r, hget⟩ := Option.isSome_iff_exists.mp hout
    by_cases hc : Covers (t.intervals.take maxAckRanges) pn
    · obtain ⟨pn', hreach, hget'⟩ := (mem_acked_iff h hall hle sentAt now r).mp
        (hacks pn r hget hc).1
      have hsame : pn' = pn := (hd.keyed pn' r hget').symm.trans (hd.keyed pn r hget)
      rw [hsame] at hreach
      exact (reached_iff_inBudget hs hc).mp hreach
    · exact inBudget_of_not_covers hc
  · intro hbudget pn r hget hc
    have hreach : Reached 0 (t.intervals.take maxAckRanges) pn :=
      (reached_iff_inBudget hs hc).mpr (hbudget pn (by rw [hget]; rfl))
    refine ⟨(mem_acked_iff h hall hle sentAt now r).mpr ⟨pn, hreach, hget⟩, ?_⟩
    cases hl : t.largestReceived with
    | none => rw [(h.fresh hl).1] at hc; exact absurd hc (covers_nil pn)
    | some largest =>
      have hnot : ¬ d.largestSentPacket < largest.toNat :=
        Nat.not_lt.mpr (hle _ (h.largest_mem _ hl))
      simp only [deliverAck, AckTracker.peekAckFrame, hl, Option.map_some]
      refine (LossDetector.onAckReceived_spec ..).2.1 pn ?_
      rw [LossDetector.ackedNumbers, if_neg hnot]
      exact (mem_parse_iff h hall hl pn).mpr hreach

/-- **ACK completeness.** For every receive history and every detector that has sent those numbers,
the outstanding packets of the newest 32 intervals are all acknowledged exactly when they meet the
budget condition.  Nothing is said of packets in older intervals, which no frame mentions. -/
theorem ack_complete_iff (freq : UInt8) (delay : Duration) (ops : List AckTracker.Op)
    (hpn : ∀ p ∈ AckTracker.receivedOf ops, p.toNat < u64Max) (dops : List LossDetector.Op)
    (hsent : ∀ p ∈ AckTracker.receivedOf ops, p ∈ LossDetector.sentOf dops)
    (sentAt now : MonotonicTime) :
    let t := (AckTracker.withPolicy freq delay).run ops
    AcksRetained t sentAt (LossDetector.runNew dops) now ↔
      OutstandingInBudget t (LossDetector.runNew dops) :=
  acksRetained_iff (inv_withPolicy_run freq delay ops hpn) hpn (LossDetector.inv_runNew dops)
    hsent sentAt now

/-- The theorem at a short history with a gap: the condition holds, so all is acknowledged. -/
theorem ack_complete_iff_gap :
    let ops : List AckTracker.Op := [.receive 1 true 0 10, .receive 2 true 0 20, .receive 5 true 0 30]
    let dops : List LossDetector.Op := [.sent ⟨1, 1, 100, true, true, []⟩,
      .sent ⟨2, 2, 100, true, true, []⟩, .sent ⟨5, 3, 100, true, true, []⟩]
    AcksRetained ((AckTracker.withPolicy 1 5000).run ops) 40 (LossDetector.runNew dops) 50 := by
  intro ops dops
  have hpn : ∀ p ∈ AckTracker.receivedOf ops, p.toNat < u64Max := by
    simp [ops, AckTracker.receivedOf, AckTracker.Op.received, u64Max]
  have hsent : ∀ p ∈ AckTracker.receivedOf ops, p ∈ LossDetector.sentOf dops := by
    simp [ops, dops, AckTracker.receivedOf, AckTracker.Op.received, LossDetector.sentOf,
      LossDetector.Op.sent?]
  refine (ack_complete_iff 1 5000 ops hpn dops hsent 40 50).mpr ?_
  have hi : ((AckTracker.withPolicy 1 5000).run ops).intervals = [⟨5, 5⟩, ⟨1, 2⟩] := by decide
  intro pn _
  rw [hi]
  simp [InBudget, Span.Has, wireLength, maxAckRanges, maxAckedPerFrame]
  omega

/-- A contiguous run: packets `1 .. n`, all received. -/
def receiveRun (n : Nat) : List AckTracker.Op :=
  (List.range n).map fun i => .receive (UInt64.ofNat (i + 1)) true 0 0

/-- The same run on the sender's side. -/
def sendRun (n : Nat) : List LossDetector.Op :=
  (List.range n).map fun i => .sent ⟨UInt64.ofNat (i + 1), 0, 100, true, true, []⟩

theorem receivedOf_receiveRun (n : Nat) :
    AckTracker.receivedOf (receiveRun n) = (List.range n).map fun i => UInt64.ofNat (i + 1) := by
  simp [AckTracker.receivedOf, receiveRun, List.filterMap_map, Function.comp_def,
    AckTracker.Op.received]

theorem sentOf_sendRun (n : Nat) :
    LossDetector.sentOf (sendRun n) = (List.range n).map fun i => UInt64.ofNat (i + 1) := by
  simp [LossDetector.sentOf, sendRun, List.filterMap_map, Function.comp_def,
    LossDetector.Op.sent?]

/-- A contiguous run, however long, is kept as one interval: its start is never clipped. -/
theorem intervals_receiveRun {n : Nat} (hn : n + 1 < u64Max) :
    ((AckTracker.withPolicy 1 5000).run (receiveRun (n + 1))).intervals = [⟨1, n + 1⟩] ∧
      ((AckTracker.withPolicy 1 5000).run (receiveRun (n + 1))).largestReceived =
        some (UInt64.ofNat (n + 1)) := by
  unfold u64Max at hn
  induction n with
  | zero => decide
  | succ n ih =>
    obtain ⟨hi, hl⟩ := ih (by omega)
    have hsplit : (AckTracker.withPolicy 1 5000).run (receiveRun (n + 1 + 1)) =
        ((AckTracker.withPolicy 1 5000).run (receiveRun (n + 1))).onPacketReceived
          (UInt64.ofNat (n + 1 + 1)) true 0 0 := by
      simp only [AckTracker.run, receiveRun, List.range_succ, List.map_append, List.map_cons,
        List.map_nil, List.foldl_append, List.foldl_cons, List.foldl_nil, AckTracker.step]
    have hpn : (UInt64.ofNat (n + 1 + 1)).toNat = n + 1 + 1 := toNat_ofNat_u64 (by omega)
    have hprev : (UInt64.ofNat (n + 1)).toNat = n + 1 := toNat_ofNat_u64 (by omega)
    have hlt : (UInt64.ofNat (n + 1)).toNat < (UInt64.ofNat (n + 1 + 1)).toNat := by omega
    have hbig : AckTracker.newLargest (some (UInt64.ofNat (n + 1))) (UInt64.ofNat (n + 1 + 1)) =
        UInt64.ofNat (n + 1 + 1) := by
      simp only [AckTracker.newLargest, if_pos hlt]
    rw [hsplit, AckTracker.onPacketReceived_intervals, AckTracker.onPacketReceived_largest, hi, hl,
      hbig, hpn]
    refine ⟨?_, rfl⟩
    have hins : AckTracker.insertPacket (n + 1 + 1) [⟨1, n + 1⟩] = [⟨1, n + 1 + 1⟩] := by
      simp only [AckTracker.insertPacket, AckTracker.insertFrom]
      rw [if_neg (by omega), wrapAdd_of_lt (by omega), if_neg (by omega),
        wrapAdd_of_lt (by omega), if_pos rfl]
      rfl
    have hkeep : n + 1 + 1 - ackRetentionWindow < n + 1 + 1 := by
      unfold ackRetentionWindow
      omega
    rw [hins]
    simp only [AckTracker.pruneOldIntervals, hpn]
    exact List.filter_eq_self.mpr (by simpa using hkeep)

/-- **A long contiguous run is not acknowledged at all.**  The receiver got packets `1 .. n + 1`,
the sender has them all outstanding, and the one range of the frame exceeds the budget. -/
theorem not_acksRetained_receiveRun {n : Nat} (hlong : maxAckedPerFrame ≤ n) (hn : n < 2 ^ 32) :
    ¬ AcksRetained ((AckTracker.withPolicy 1 5000).run (receiveRun (n + 1))) 0
      (LossDetector.runNew (sendRun (n + 1))) 0 := by
  have hpn : ∀ p ∈ AckTracker.receivedOf (receiveRun (n + 1)), p.toNat < u64Max := by
    rw [receivedOf_receiveRun]
    intro p hp
    obtain ⟨i, hi, rfl⟩ := List.mem_map.mp hp
    have hi' := List.mem_range.mp hi
    rw [toNat_ofNat_u64 (by omega)]
    unfold u64Max
    omega
  have hsent : ∀ p ∈ AckTracker.receivedOf (receiveRun (n + 1)),
      p ∈ LossDetector.sentOf (sendRun (n + 1)) := by
    rw [receivedOf_receiveRun, sentOf_sendRun]
    exact fun p hp => hp
  intro hacks
  have hbudget := (acksRetained_iff (inv_withPolicy_run 1 5000 _ hpn) hpn
    (LossDetector.inv_runNew (sendRun (n + 1))) hsent 0 0).mp hacks
  -- the newest packet is outstanding
  have hout : ((LossDetector.runNew (sendRun (n + 1))).sentPackets[n + 1]?).isSome := by
    simp only [LossDetector.runNew, sendRun, List.range_succ, List.map_append,
      List.map_cons, List.map_nil, List.foldl_append, List.foldl_cons, List.foldl_nil,
      LossDetector.step, LossDetector.onPacketSent]
    rw [toNat_ofNat_u64 (by omega), Std.ExtTreeMap.getElem?_insert_self]
    rfl
  have hin := hbudget (n + 1) hout
  rw [(intervals_receiveRun (by unfold u64Max; omega)).1] at hin
  obtain ⟨hle, -⟩ := hin.1 ⟨by simp only; omega, Nat.le_refl _⟩
  simp only [wireLength, Nat.add_sub_cancel, Nat.mod_eq_of_lt hn] at hle
  omega

/-- Packets `1 .. 16385` arrive and are all outstanding; none is acknowledged. -/
theorem ack_complete_fails_on_long_run :
    ¬ ∀ (ops : List AckTracker.Op) (dops : List LossDetector.Op) (sentAt now : MonotonicTime),
      (∀ p ∈ AckTracker.receivedOf ops, p ∈ LossDetector.sentOf dops) →
        AcksRetained ((AckTracker.withPolicy 1 5000).run ops) sentAt (LossDetector.runNew dops) now := by
  intro hall
  refine not_acksRetained_receiveRun (n := 16384) (Nat.le_refl _) (by decide)
    (hall (receiveRun (16384 + 1)) (sendRun (16384 + 1)) 0 0 ?_)
  rw [receivedOf_receiveRun, sentOf_sendRun]
  exact fun p hp => hp

end AckAgreement

end Gtp
