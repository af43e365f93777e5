/-
# The receiver's ACK tracker (`gtp-recovery/src/ack_tracker.rs`)

The tracker keeps the received packet numbers as intervals, newest first.  Every receipt inserts
one number, merges neighbours that came to touch, and drops the intervals that fell more than
`ACK_RETENTION_WINDOW` below the largest number seen.  `peek_ack_frame` writes the newest 32
intervals as gap/length pairs cast to `u32`.

The invariant (`AckTracker.Inv`) is proved for every history of receipts: the intervals are
spaced, every number they cover was received, the first interval ends at the largest number, and
every interval reaches into the retention window -- so only the oldest one can be long.

* `mergeFrom_spec` and `insertFrom_spec` are the two loops, one lemma each; the form of the list is
  `Intervals.Spaced`.
* `Inv.receive` is one receipt, `Inv.step` one call and `Inv.run` a history.

Numbers are naturals inside, as the source keeps them in `u64`.  A packet numbered `2^64 - 1` is
left out: `end + 1` would wrap there.  When an ACK is due is not said here, but in
`Gtp.Core.AckDuty`, and what a peer makes of the frame in `Gtp.Recovery.AckAgreement`.
-/
import Gtp.Wire.Frame
import Gtp.Lib.Intervals

namespace Gtp

open Intervals

/-! ## 1. State -/

/-- `PacketInterval`: a contiguous run `[start, end]` of received packet numbers. -/
abbrev PacketInterval := Span

/-- `ACK_RETENTION_WINDOW`. -/
def ackRetentionWindow : Nat := 1024

/-- Tracks received packet numbers and formats ACK frames. -/
structure AckTracker where
  intervals : List PacketInterval
  largestReceived : Option PacketNumber
  largestReceivedTime : MonotonicTime
  unackedPacketCount : Nat
  lastAckSentTime : Option MonotonicTime
  ackFrequency : UInt8
  maxAckDelay : Duration
  ect0Count : UInt32
  ect1Count : UInt32
  ceCount : UInt32
  hasGap : Bool
  deriving DecidableEq

namespace AckTracker

/-- `AckTracker::default`. -/
def default : AckTracker where
  intervals := []
  largestReceived := none
  largestReceivedTime := 0
  unackedPacketCount := 0
  lastAckSentTime := none
  ackFrequency := 2
  maxAckDelay := Duration.fromMillis 25
  ect0Count := 0
  ect1Count := 0
  ceCount := 0
  hasGap := false

/-- `AckTracker::with_policy`. -/
def withPolicy (ackFrequency : UInt8) (maxAckDelay : Duration) : AckTracker :=
  { default with ackFrequency := max ackFrequency 1, maxAckDelay }

/-- `AckTracker::set_policy`. -/
def setPolicy (t : AckTracker) (ackFrequency : UInt8) (maxAckDelay : Duration) : AckTracker :=
  { t with ackFrequency := max ackFrequency 1, maxAckDelay }

/-! ## 2. Receiving -/

/-- The loop of `merge_adjacent` with `cur` at the cursor: the successor is swallowed while it
touches, otherwise the cursor moves on. -/
def mergeFrom (cur : PacketInterval) : List PacketInterval → List PacketInterval
  | [] => [cur]
  | nxt :: rest =>
    if cur.start ≤ wrapAdd nxt.last 1 then
      mergeFrom { cur with start := nxt.start } rest
    else
      cur :: mergeFrom nxt rest

/-- `AckTracker::merge_adjacent`. -/
def mergeAdjacent : List PacketInterval → List PacketInterval
  | [] => []
  | cur :: rest => mergeFrom cur rest

/-- The loop of `insert_packet`: `pre` are the intervals already passed. -/
def insertFrom (pn : Nat) (pre : List PacketInterval) : List PacketInterval → List PacketInterval
  | [] => pre ++ [⟨pn, pn⟩]
  | interval :: rest =>
    if interval.start ≤ pn ∧ pn ≤ interval.last then
      pre ++ interval :: rest
    else if wrapAdd pn 1 = interval.start then
      mergeAdjacent (pre ++ { interval with start := pn } :: rest)
    else if pn = wrapAdd interval.last 1 then
      mergeAdjacent (pre ++ { interval with last := pn } :: rest)
    else if interval.last < pn then
      pre ++ ⟨pn, pn⟩ :: interval :: rest
    else
      insertFrom pn (pre ++ [interval]) rest

/-- `AckTracker::insert_packet`. -/
def insertPacket (pn : Nat) (intervals : List PacketInterval) : List PacketInterval :=
  insertFrom pn [] intervals

/-- `AckTracker::prune_old_intervals`. -/
def pruneOldIntervals (largest : Option PacketNumber) (intervals : List PacketInterval) :
    List PacketInterval :=
  match largest with
  | none => intervals
  | some largest =>
    intervals.filter fun iv => decide (largest.toNat - ackRetentionWindow < iv.last)

/-- The ECN counter update at the head of `on_packet_received`. -/
def countEcn (t : AckTracker) (ecnBits : Nat) : AckTracker :=
  match ecnBits with
  | 1 => { t with ect1Count := satIncU32 t.ect1Count }
  | 2 => { t with ect0Count := satIncU32 t.ect0Count }
  | 3 => { t with ceCount := satIncU32 t.ceCount }
  | _ => t

/-- The update of `largest_received`, with the gap flag. -/
def noteLargest (t : AckTracker) (pn : PacketNumber) (now : MonotonicTime) : AckTracker :=
  match t.largestReceived with
  | none => { t with largestReceived := some pn, largestReceivedTime := now }
  | some prev =>
    if prev.toNat < pn.toNat then
      { t with
        hasGap := t.hasGap || decide (wrapAdd prev.toNat 1 < pn.toNat)
        largestReceived := some pn
        largestReceivedTime := now }
    else t

/-- `AckTracker::on_packet_received`. -/
def onPacketReceived (t : AckTracker) (pn : PacketNumber) (isAckEliciting : Bool) (ecnBits : Nat)
    (now : MonotonicTime) : AckTracker :=
  let t := t.countEcn ecnBits
  let t := { t with lastAckSentTime := some (t.lastAckSentTime.getD now) }
  let t := t.noteLargest pn now
  let t := { t with
    intervals := pruneOldIntervals t.largestReceived (insertPacket pn.toNat t.intervals) }
  if isAckEliciting then
    { t with unackedPacketCount := min (t.unackedPacketCount + 1) 255 }
  else t

/-! ## 3. Sending the ACK -/

/-- `AckTracker::should_send_ack`. -/
def shouldSendAck (t : AckTracker) (now : MonotonicTime) : Bool :=
  if t.unackedPacketCount = 0 then false
  else if t.hasGap then true
  else if t.ackFrequency.toNat ≤ t.unackedPacketCount then true
  else match t.lastAckSentTime with
    | some lastAck => decide (t.maxAckDelay ≤ now - lastAck)
    | none => false

/-- The ranges after the first: each skips the gap below `prevStart`, then covers its own
length.  Both fields are cast `as u32`. -/
def laterRanges (prevStart : Nat) : List PacketInterval → List AckRange
  | [] => []
  | interval :: rest =>
    { gap := UInt32.ofNat (prevStart - wrapAdd interval.last 1)
      length := UInt32.ofNat (wrapSub interval.last interval.start) } ::
    laterRanges interval.start rest

/-- The ranges `peek_ack_frame` writes: the first interval has gap 0, then at most 31 more. -/
def ackRangesOf : List PacketInterval → List AckRange
  | [] => []
  | first :: rest =>
    { gap := 0, length := UInt32.ofNat (wrapSub first.last first.start) } ::
    laterRanges first.start (rest.take (maxAckRanges - 1))

/-- `AckTracker::peek_ack_frame`. -/
def peekAckFrame (t : AckTracker) (now : MonotonicTime) : Option Frame :=
  t.largestReceived.map fun largest =>
    let ackDelayUs := min (now - t.largestReceivedTime) (2 ^ 32 - 1)
    let ranges := ackRangesOf t.intervals
    .ack largest (UInt32.ofNat ackDelayUs) (.ofList ranges) (UInt8.ofNat ranges.length)
      t.ect0Count t.ect1Count t.ceCount

/-- `AckTracker::commit_ack_sent`. -/
def commitAckSent (t : AckTracker) (now : MonotonicTime) : AckTracker :=
  { t with unackedPacketCount := 0, hasGap := false, lastAckSentTime := some now }

/-! ## 4. Insertion keeps the intervals spaced -/

/-- `merge_adjacent` never looks back: a spaced prefix above the cursor stays as it is. -/
theorem mergeFrom_append {b : Nat} {p cur : PacketInterval} {pre rest : List PacketInterval}
    (hpre : Spaced b (p :: pre)) (hb : b < 2 ^ 64) (hcur : cur.last < floorOf b (p :: pre)) :
    mergeFrom p (pre ++ cur :: rest) = (p :: pre) ++ mergeFrom cur rest := by
  induction pre generalizing b p with
  | nil =>
    obtain ⟨hne, hlt, -⟩ := hpre
    simp only [floorOf] at hcur
    have hgap : ¬ p.start ≤ wrapAdd cur.last 1 := by
      rw [wrapAdd_of_lt (by omega)]
      omega
    rw [List.nil_append, mergeFrom, if_neg hgap, List.singleton_append]
  | cons q pre ih =>
    obtain ⟨hne, hlt, hrest⟩ := hpre
    have hq := hrest.1
    have hql := hrest.2.1
    have hgap : ¬ p.start ≤ wrapAdd q.last 1 := by
      rw [wrapAdd_of_lt (by omega)]
      omega
    rw [List.cons_append, mergeFrom, if_neg hgap, ih hrest (by omega) hcur]
    rfl

theorem mergeAdjacent_append {b : Nat} {cur : PacketInterval} {pre rest : List PacketInterval}
    (hpre : Spaced b pre) (hb : b < 2 ^ 64) (hcur : cur.last < floorOf b pre) :
    mergeAdjacent (pre ++ cur :: rest) = pre ++ mergeFrom cur rest := by
  cases pre with
  | nil => rfl
  | cons p pre => exact mergeFrom_append hpre hb hcur

/-- **Merging.**  When the tail lies below the cursor -- it may touch it, but does not overlap --
the merged list is spaced and covers the same numbers. -/
theorem mergeFrom_spec {b : Nat} {cur : PacketInterval} {rest : List PacketInterval}
    (hne : cur.start ≤ cur.last) (hlt : cur.last < b) (hb : b < 2 ^ 64)
    (hrest : Spaced cur.start rest) :
    Spaced b (mergeFrom cur rest) ∧
      ∀ x, Covers (mergeFrom cur rest) x ↔ cur.Has x ∨ Covers rest x := by
  induction rest generalizing b cur with
  | nil => exact ⟨⟨hne, hlt, trivial⟩, fun x => by simp [mergeFrom]⟩
  | cons nxt rest ih =>
    obtain ⟨hnne, hnlt, hnrest⟩ := hrest
    rw [mergeFrom, wrapAdd_of_lt (by omega)]
    split
    · -- the two touch, so the merged interval is exactly their union
      rename_i htouch
      have hmono : Spaced nxt.start rest := hnrest.mono (by omega)
      obtain ⟨hs, hc⟩ := @ih b { cur with start := nxt.start } (by simp only; omega) hlt hb
        hmono
      refine ⟨hs, fun x => ?_⟩
      rw [hc, covers_cons, ← or_assoc]
      refine or_congr_left ?_
      simp only [Span.Has]
      omega
    · rename_i hgap
      obtain ⟨hs, hc⟩ := ih (b := cur.start - 1) hnne (by omega) (by omega) (hnrest.mono (by omega))
      refine ⟨⟨hne, hlt, hs⟩, fun x => ?_⟩
      rw [covers_cons, covers_cons, hc]

theorem mergeAdjacent_spec {b : Nat} (cur : PacketInterval) {pre rest : List PacketInterval}
    (hpre : Spaced b pre) (hb : b < 2 ^ 64) (hne : cur.start ≤ cur.last)
    (hcur : cur.last < floorOf b pre) (hrest : Spaced cur.start rest) :
    Spaced b (mergeAdjacent (pre ++ cur :: rest)) ∧
      ∀ x, Covers (mergeAdjacent (pre ++ cur :: rest)) x ↔
        Covers pre x ∨ cur.Has x ∨ Covers rest x := by
  have hfloor : floorOf b pre < 2 ^ 64 := Nat.lt_of_le_of_lt hpre.floorOf_le hb
  obtain ⟨hs, hc⟩ := mergeFrom_spec hne hcur hfloor hrest
  rw [mergeAdjacent_append hpre hb hcur]
  exact ⟨spaced_append.mpr ⟨hpre, hs⟩, fun x => by rw [covers_append, hc]⟩

/-- The loop of `insert_packet`, from any point: nothing passed so far is next to `pn`. -/
theorem insertFrom_spec {b pn : Nat} (hb : b < 2 ^ 64) (l : List PacketInterval) :
    ∀ pre, Spaced b (pre ++ l) → pn < floorOf b pre →
      Spaced b (insertFrom pn pre l) ∧
        ∀ x, Covers (insertFrom pn pre l) x ↔ x = pn ∨ Covers (pre ++ l) x := by
  induction l with
  | nil =>
    intro pre hpre hpn
    rw [List.append_nil] at hpre
    refine ⟨spaced_append.mpr ⟨hpre, Nat.le_refl pn, hpn, trivial⟩, fun x => ?_⟩
    simp only [insertFrom, covers_append, covers_cons, covers_nil, Span.Has, or_false]
    rw [or_comm, ← Nat.le_antisymm_iff, eq_comm]
  | cons iv rest ih =>
    intro pre hall hpn
    obtain ⟨hpre, hne, hlt, hrest⟩ := spaced_append.mp hall
    have hfloor := hpre.floorOf_le
    rw [insertFrom, wrapAdd_of_lt (by omega), wrapAdd_of_lt (by omega)]
    split
    · rename_i hin
      refine ⟨hall, fun x => ⟨Or.inr, ?_⟩⟩
      rintro (rfl | hx)
      · exact ⟨iv, by simp, hin⟩
      · exact hx
    split
    · rename_i hin hdown
      obtain ⟨hs, hc⟩ := mergeAdjacent_spec { iv with start := pn } hpre hb
        (by simp only; omega) hlt (hrest.mono (by simp only; omega))
      refine ⟨hs, fun x => ?_⟩
      rw [hc, covers_append, covers_cons]
      simp only [Span.Has]
      by_cases hx : Covers pre x <;> by_cases hx' : Covers rest x <;> simp [hx, hx']
      omega
    split
    · rename_i hin hdown hup
      obtain ⟨hs, hc⟩ := mergeAdjacent_spec { iv with last := pn } hpre hb
        (by simp only; omega) hpn (hrest.mono (by simp only; omega))
      refine ⟨hs, fun x => ?_⟩
      rw [hc, covers_append, covers_cons]
      simp only [Span.Has]
      by_cases hx : Covers pre x <;> by_cases hx' : Covers rest x <;> simp [hx, hx']
      omega
    split
    · rename_i hin hdown hup habove
      refine ⟨spaced_append.mpr ⟨hpre, Nat.le_refl pn, hpn, hne, by simp only; omega, hrest⟩,
        fun x => ?_⟩
      have heq : (pn ≤ x ∧ x ≤ pn) ↔ x = pn := by omega
      rw [covers_append, covers_cons, covers_append]
      simp only [Span.Has, heq]
      exact or_left_comm
    · rename_i hin hdown hup habove
      have hsplit : pre ++ iv :: rest = (pre ++ [iv]) ++ rest := by simp
      rw [hsplit] at hall ⊢
      refine ih (pre ++ [iv]) hall ?_
      rw [floorOf_append]
      simp only [floorOf]
      omega

theorem insertPacket_spec {b : Nat} {l : List PacketInterval} (pn : Nat) (hb : b < 2 ^ 64)
    (hl : Spaced b l) (hpn : pn < b) :
    Spaced b (insertPacket pn l) ∧
      ∀ x, Covers (insertPacket pn l) x ↔ x = pn ∨ Covers l x :=
  insertFrom_spec hb l [] hl hpn

/-! ## 5. Runs of the tracker -/

/-- The calls that change a tracker. -/
inductive Op where
  | receive (pn : PacketNumber) (isAckEliciting : Bool) (ecnBits : Nat) (now : MonotonicTime)
  | setPolicy (ackFrequency : UInt8) (maxAckDelay : Duration)
  | commitSent (now : MonotonicTime)

def step (t : AckTracker) : Op → AckTracker
  | .receive pn isAckEliciting ecnBits now => t.onPacketReceived pn isAckEliciting ecnBits now
  | .setPolicy ackFrequency maxAckDelay => t.setPolicy ackFrequency maxAckDelay
  | .commitSent now => t.commitAckSent now

def run (t : AckTracker) (ops : List Op) : AckTracker := ops.foldl step t

/-- The packet number a call feeds to the tracker. -/
def Op.received : Op → Option PacketNumber
  | .receive pn _ _ _ => some pn
  | _ => none

/-- **The receive history**: the packet numbers passed to `on_packet_received`. -/
def receivedOf (ops : List Op) : List PacketNumber := ops.filterMap Op.received

/-- What the intervals say about the history `received`. -/
structure Inv (t : AckTracker) (received : List PacketNumber) : Prop where
  fresh : t.largestReceived = none → t.intervals = [] ∧ received = []
  largest_mem : ∀ l, t.largestReceived = some l → l ∈ received
  spaced : ∀ l, t.largestReceived = some l → Spaced (l.toNat + 1) t.intervals
  /-- the largest number is covered; packet number 0 alone falls to the retention test -/
  covers_largest : ∀ l, t.largestReceived = some l → 0 < l.toNat → Covers t.intervals l.toNat
  retained : ∀ l, t.largestReceived = some l →
    ∀ iv ∈ t.intervals, l.toNat - ackRetentionWindow < iv.last
  sound : ∀ x, Covers t.intervals x → ∃ pn ∈ received, pn.toNat = x

theorem inv_default : Inv default [] where
  fresh _ := ⟨rfl, rfl⟩
  largest_mem _ h := by cases h
  spaced _ h := by cases h
  covers_largest _ h := by cases h
  retained _ h := by cases h
  sound x h := absurd h (covers_nil x)

theorem Inv.congr {t t' : AckTracker} {received : List PacketNumber} (h : Inv t received)
    (hi : t'.intervals = t.intervals) (hl : t'.largestReceived = t.largestReceived) :
    Inv t' received where
  fresh := by rw [hi, hl]; exact h.fresh
  largest_mem := by rw [hl]; exact h.largest_mem
  spaced := by rw [hi, hl]; exact h.spaced
  covers_largest := by rw [hi, hl]; exact h.covers_largest
  retained := by rw [hi, hl]; exact h.retained
  sound := by rw [hi]; exact h.sound

/-- The new largest number: the old one or the packet just received, whichever is larger. -/
def newLargest (largest : Option PacketNumber) (pn : PacketNumber) : PacketNumber :=
  match largest with
  | none => pn
  | some prev => if prev.toNat < pn.toNat then pn else prev

theorem onPacketReceived_largest (t : AckTracker) (pn : PacketNumber) (e : Bool) (ecn : Nat)
    (now : MonotonicTime) :
    (t.onPacketReceived pn e ecn now).largestReceived =
      some (newLargest t.largestReceived pn) := by
  have hecn : (t.countEcn ecn).largestReceived = t.largestReceived := by
    unfold countEcn
    split <;> rfl
  cases hl : t.largestReceived with
  | none =>
    cases e <;> simp [onPacketReceived, noteLargest, hecn, hl, newLargest]
  | some prev =>
    by_cases hlt : prev.toNat < pn.toNat <;> cases e <;>
      simp [onPacketReceived, noteLargest, hecn, hl, newLargest, hlt]

theorem onPacketReceived_intervals (t : AckTracker) (pn : PacketNumber) (e : Bool) (ecn : Nat)
    (now : MonotonicTime) :
    (t.onPacketReceived pn e ecn now).intervals =
      pruneOldIntervals (some (newLargest t.largestReceived pn))
        (insertPacket pn.toNat t.intervals) := by
  have hecn : (t.countEcn ecn).largestReceived = t.largestReceived ∧
      (t.countEcn ecn).intervals = t.intervals := by
    unfold countEcn
    split <;> exact ⟨rfl, rfl⟩
  cases hl : t.largestReceived with
  | none =>
    cases e <;> simp [onPacketReceived, noteLargest, hecn, hl, newLargest]
  | some prev =>
    by_cases hlt : prev.toNat < pn.toNat <;> cases e <;>
      simp [onPacketReceived, noteLargest, hecn, hl, newLargest, hlt]

theorem le_newLargest (largest : Option PacketNumber) (pn : PacketNumber) :
    pn.toNat ≤ (newLargest largest pn).toNat ∧
      (∀ l, largest = some l → l.toNat ≤ (newLargest largest pn).toNat) ∧
      (newLargest largest pn = pn ∨ largest = some (newLargest largest pn)) := by
  cases largest with
  | none => exact ⟨Nat.le_refl _, fun _ h => (by cases h), Or.inl rfl⟩
  | some prev =>
    by_cases hlt : prev.toNat < pn.toNat
    · refine ⟨by simp [newLargest, hlt], fun l h => ?_, Or.inl (by simp [newLargest, hlt])⟩
      cases h
      simp only [newLargest, hlt, if_true]
      omega
    · refine ⟨by simp [newLargest, hlt]; omega, fun l h => ?_, Or.inr (by simp [newLargest, hlt])⟩
      cases h
      simp [newLargest, hlt]

theorem Inv.receive {t : AckTracker} {received : List PacketNumber} (h : Inv t received)
    {pn : PacketNumber} (hpn : pn.toNat < u64Max) (hall : ∀ p ∈ received, p.toNat < u64Max)
    (e : Bool) (ecn : Nat) (now : MonotonicTime) :
    Inv (t.onPacketReceived pn e ecn now) (received ++ [pn]) := by
  have hl := onPacketReceived_largest t pn e ecn now
  have hi := onPacketReceived_intervals t pn e ecn now
  obtain ⟨hle, hle', hsrc⟩ := le_newLargest t.largestReceived pn
  generalize newLargest t.largestReceived pn = big at hl hi hle hle' hsrc
  have hbig : big ∈ received ++ [pn] := by
    rcases hsrc with rfl | hsrc
    · simp
    · exact List.mem_append_left _ (h.largest_mem _ hsrc)
  have hbound : big.toNat < u64Max := by
    rcases List.mem_append.mp hbig with hmem | hmem
    · exact hall _ hmem
    · rw [List.mem_singleton.mp hmem]; exact hpn
  have hold : Spaced (big.toNat + 1) t.intervals := by
    cases hlast : t.largestReceived with
    | none => rw [(h.fresh hlast).1]; trivial
    | some l => exact (h.spaced l hlast).mono (Nat.succ_le_succ (hle' l hlast))
  obtain ⟨hs, hc⟩ := insertPacket_spec pn.toNat (by unfold u64Max at hbound; omega) hold
    (by omega)
  refine ⟨fun hnone => ?_, ?_, ?_, ?_, ?_, ?_⟩
  · rw [hl] at hnone
    cases hnone
  · rw [hl]
    rintro l ⟨⟩
    exact hbig
  · rw [hl, hi]
    rintro l ⟨⟩
    exact hs.filter _
  · rw [hl, hi]
    rintro l ⟨⟩ hpos
    -- the number is covered before the pruning, by an interval that ends inside the window
    have hcov : Covers (insertPacket pn.toNat t.intervals) big.toNat := by
      rw [hc]
      rcases hsrc with rfl | hsrc
      · exact Or.inl rfl
      · exact Or.inr (h.covers_largest _ hsrc hpos)
    obtain ⟨iv, hiv, hlo, hhi⟩ := hcov
    refine ⟨iv, List.mem_filter.mpr ⟨hiv, decide_eq_true ?_⟩, hlo, hhi⟩
    unfold ackRetentionWindow
    omega
  · rw [hl, hi]
    rintro l ⟨⟩ iv hiv
    exact of_decide_eq_true (List.mem_filter.mp hiv).2
  · rw [hi]
    rintro x ⟨iv, hiv, hx⟩
    rcases (hc x).mp ⟨iv, (List.mem_filter.mp hiv).1, hx⟩ with rfl | hx
    · exact ⟨pn, by simp, rfl⟩
    · obtain ⟨p, hp, hpx⟩ := h.sound x hx
      exact ⟨p, List.mem_append_left _ hp, hpx⟩

/-- One call keeps the invariant, for the history it extends. -/
theorem Inv.step {t : AckTracker} {received : List PacketNumber} (h : Inv t received) (op : Op)
    (hall : ∀ p ∈ received ++ op.received.toList, p.toNat < u64Max) :
    Inv (t.step op) (received ++ op.received.toList) := by
  cases op with
  | receive pn e ecn now =>
    exact h.receive (hall pn (by simp [Op.received]))
      (fun p hp => hall p (List.mem_append_left _ hp)) e ecn now
  | setPolicy freq delay =>
    rw [show received ++ (Op.setPolicy freq delay).received.toList = received by simp [Op.received]]
    exact h.congr rfl rfl
  | commitSent now =>
    rw [show received ++ (Op.commitSent now).received.toList = received by simp [Op.received]]
    exact h.congr rfl rfl

/-- **Every run keeps the invariant**, as long as no packet is numbered `2^64 - 1`. -/
theorem Inv.run {t : AckTracker} {received : List PacketNumber} (h : Inv t received)
    (ops : List Op) (hall : ∀ p ∈ received ++ receivedOf ops, p.toNat < u64Max) :
    Inv (t.run ops) (received ++ receivedOf ops) := by
  induction ops generalizing t received with
  | nil => simpa [AckTracker.run, receivedOf] using h
  | cons op ops ih =>
    have hsplit : received ++ receivedOf (op :: ops) =
        (received ++ op.received.toList) ++ receivedOf ops := by
      cases hop : op.received <;> simp [receivedOf, hop]
    rw [hsplit] at hall ⊢
    exact ih (h.step op fun p hp => hall p (List.mem_append_left _ hp)) hall

end AckTracker

end Gtp
