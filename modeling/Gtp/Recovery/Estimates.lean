/-
# What the path estimators promise (`gtp-recovery/src/rtt.rs`, `owd.rs`)

Both estimators are fed with numbers that the peer chooses: the round-trip estimator with a reported
ACK delay, the one-way-delay estimator with the peer's timestamp.  Here is what the peer cannot do
with them.

The delay that a peer reports is subtracted from a sample only down to the smallest sample
(`rtt_bounds`): the minimum is taken from the raw samples, and every estimate stays between the
smallest and the largest of them.  A run of the estimator is read beside the list of the raw samples
since the last reset (`Tracks`).

The timestamp of a peer is read only through the difference to the local clock, modulo 2^32, and
only differences of such differences are used.  So an offset between the clocks cancels
(`observed_shift`), and what is measured is the delay above the smallest one since the floor was
anchored: `Floor` is the same estimator on true delays, without clocks, and it gives the same
numbers (`observed_stamped`).
-/
import Gtp.Recovery.Rtt
import Gtp.Lib.Runs
import Mathlib.Data.List.Induction

namespace Gtp

/-! ## 1. Round-trip time -/

namespace RttStats

/-- The calls that change the estimator. -/
inductive Op where
  | update (sendToAckDuration ackDelay : Duration)
  | resetForNewPath
  deriving DecidableEq, Repr

def step (s : RttStats) : Op → RttStats
  | .update raw ackDelay => s.update raw ackDelay
  | .resetForNewPath => s.resetForNewPath

/-- Eight times the raw sample fits in a `u64`. -/
def Op.Small : Op → Prop
  | .update raw _ => 8 * raw ≤ u64Max
  | .resetForNewPath => True

instance : DecidablePred Op.Small
  | .update raw _ => inferInstanceAs (Decidable (8 * raw ≤ u64Max))
  | .resetForNewPath => isTrue trivial

/-- The two sums that `update` forms fit in a `u64`.  The first sample forms none. -/
def FitsU64 (s : RttStats) (raw ackDelay : Duration) : Prop :=
  let adjustedRtt := (s.update raw ackDelay).latestRtt
  s.firstSample = false →
    s.rttvar * 3 + max (s.smoothedRtt - adjustedRtt) (adjustedRtt - s.smoothedRtt) ≤ u64Max ∧
      s.smoothedRtt * 7 + adjustedRtt ≤ u64Max

/-- A new estimator; `max_ack_delay` belongs to the peer. -/
def start (maxAckDelay : Duration) : RttStats := { default with maxAckDelay }

def samplesOf (ops : List Op) : List Duration :=
  ops.foldl (fun samples op =>
    match op with
    | .update raw _ => raw :: samples
    | .resetForNewPath => []) []

theorem le_of_eight {raw : Nat} (h : 8 * raw ≤ u64Max) : raw ≤ u64Max := by omega

/-- The sample that enters the averages: the raw one, or less by what the peer reported, but never
below the minimum. -/
theorem latestRtt_update (s : RttStats) {raw : Duration} (hraw : raw ≤ u64Max)
    (ackDelay : Duration) :
    min s.minRtt raw ≤ (s.update raw ackDelay).latestRtt ∧
      (s.update raw ackDelay).latestRtt ≤ raw := by
  have hlatest : (s.update raw ackDelay).latestRtt =
      if s.firstSample then raw
      else if satAdd (min s.minRtt raw) (min ackDelay s.maxAckDelay) < raw then
        raw - min ackDelay s.maxAckDelay
      else raw := by
    unfold update
    split <;> rfl
  rw [hlatest]
  split
  · exact ⟨Nat.min_le_right _ _, le_rfl⟩
  · split
    · rename_i hlarge
      have hadjust : ∀ m a k : Nat, min (m + k) u64Max < a → a ≤ u64Max →
          m ≤ a - k ∧ a - k ≤ a := by omega
      exact hadjust _ _ _ hlarge hraw
    · exact ⟨Nat.min_le_right _ _, le_rfl⟩

theorem update_first {s : RttStats} (h : s.firstSample = true) (raw ackDelay : Duration) :
    s.update raw ackDelay = { s with
      minRtt := min s.minRtt raw
      latestRtt := raw
      firstSample := false
      smoothedRtt := raw
      rttvar := raw / 2 } := by
  unfold update
  simp [h]

/-- The averages of a later sample, over the adjusted one. -/
theorem update_later {s : RttStats} (h : s.firstSample = false) (raw ackDelay : Duration) :
    s.update raw ackDelay = { s with
      minRtt := min s.minRtt raw
      latestRtt := (s.update raw ackDelay).latestRtt
      rttvar := (s.rttvar * 3 + max (s.smoothedRtt - (s.update raw ackDelay).latestRtt)
        ((s.update raw ackDelay).latestRtt - s.smoothedRtt)) / 4
      smoothedRtt := (s.smoothedRtt * 7 + (s.update raw ackDelay).latestRtt) / 8 } := by
  have hdiff : ∀ a b : Nat, (if a ≤ b then b - a else a - b) = max (b - a) (a - b) := by
    intro a b
    split <;> omega
  unfold update
  simp [h, hdiff]

/-- The averages stay between the bounds of what is averaged. -/
theorem average_le {x smoothed var adjusted : Nat} (hsmoothed : smoothed ≤ x) (hvar : var ≤ x)
    (hadjusted : adjusted ≤ x) :
    (smoothed * 7 + adjusted) / 8 ≤ x ∧
      (var * 3 + max (smoothed - adjusted) (adjusted - smoothed)) / 4 ≤ x := by
  omega

theorem le_average {m smoothed adjusted : Nat} (hsmoothed : m ≤ smoothed)
    (hadjusted : m ≤ adjusted) : m ≤ (smoothed * 7 + adjusted) / 8 := by
  omega

theorem sums_le {x y smoothed var adjusted : Nat} (hsmoothed : smoothed ≤ x) (hvar : var ≤ x)
    (hadjusted : adjusted ≤ y) (hx : 8 * x ≤ u64Max) (hy : 8 * y ≤ u64Max) :
    var * 3 + max (smoothed - adjusted) (adjusted - smoothed) ≤ u64Max ∧
      smoothed * 7 + adjusted ≤ u64Max := by
  omega

/-- The estimator after the raw samples `samples`, the latest first. -/
structure Tracks (samples : List Duration) (s : RttStats) : Prop where
  first : s.firstSample = samples.isEmpty
  unset : samples = [] → s.minRtt = u64Max
  least : ∀ x ∈ samples, s.minRtt ≤ x
  taken : samples ≠ [] → s.minRtt ∈ samples
  above : samples ≠ [] → s.minRtt ≤ s.smoothedRtt
  below : samples ≠ [] → ∃ x ∈ samples, s.smoothedRtt ≤ x ∧ s.rttvar ≤ x
  small : ∀ x ∈ samples, 8 * x ≤ u64Max

theorem tracks_start (maxAckDelay : Duration) : Tracks [] (start maxAckDelay) where
  first := rfl
  unset _ := rfl
  least _ hx := absurd hx List.not_mem_nil
  taken h := absurd rfl h
  above h := absurd rfl h
  below h := absurd rfl h
  small _ hx := absurd hx List.not_mem_nil

variable {s : RttStats} {samples : List Duration}

/-- The sums of the next sample fit: everything in them is at most a sample. -/
theorem Tracks.fits (h : Tracks samples s) {raw : Duration} (hraw : 8 * raw ≤ u64Max)
    (ackDelay : Duration) : s.FitsU64 raw ackDelay := by
  intro hlater
  have hne : samples ≠ [] := by
    rintro rfl
    rw [h.first] at hlater
    cases hlater
  obtain ⟨x, hx, hsmoothed, hvar⟩ := h.below hne
  have hlatest := (latestRtt_update s (le_of_eight hraw) ackDelay).2
  exact sums_le hsmoothed hvar hlatest (h.small x hx) hraw

/-- **One sample more.** -/
theorem Tracks.update (h : Tracks samples s) {raw : Duration} (hraw : 8 * raw ≤ u64Max)
    (ackDelay : Duration) : Tracks (raw :: samples) (s.update raw ackDelay) := by
  obtain ⟨hlow, hhigh⟩ := latestRtt_update s (le_of_eight hraw) ackDelay
  have hsmall : ∀ x ∈ raw :: samples, 8 * x ≤ u64Max :=
    List.forall_mem_cons.mpr ⟨hraw, h.small⟩
  cases samples with
  | nil =>
    rw [update_first h.first]
    have hmin : min s.minRtt raw = raw := by
      rw [h.unset rfl]
      exact Nat.min_eq_right (le_of_eight hraw)
    refine ⟨rfl, fun hnil => absurd hnil (List.cons_ne_nil _ _), ?_, fun _ => ?_, fun _ => ?_,
      fun _ => ?_, hsmall⟩
    · rw [hmin]
      exact List.forall_mem_singleton.mpr le_rfl
    · rw [hmin]
      exact List.mem_singleton_self raw
    · exact Nat.min_le_right _ _
    · exact ⟨raw, List.mem_singleton_self raw, le_rfl, Nat.div_le_self raw 2⟩
  | cons y rest =>
    have hne : y :: rest ≠ [] := List.cons_ne_nil y rest
    have habove := h.above hne
    obtain ⟨x, hx, hsmoothed, hvar⟩ := h.below hne
    rw [update_later h.first]
    generalize (s.update raw ackDelay).latestRtt = adjusted at hlow hhigh
    refine ⟨h.first, fun hnil => absurd hnil (List.cons_ne_nil _ _), ?_, fun _ => ?_, fun _ => ?_,
      fun _ => ?_, hsmall⟩
    · rintro z hz
      rcases List.mem_cons.mp hz with rfl | hz
      · exact Nat.min_le_right _ _
      · exact (Nat.min_le_left _ _).trans (h.least z hz)
    · change min s.minRtt raw ∈ raw :: y :: rest
      rcases Nat.le_total s.minRtt raw with hle | hle
      · rw [Nat.min_eq_left hle]
        exact List.mem_cons_of_mem _ (h.taken hne)
      · rw [Nat.min_eq_right hle]
        exact List.mem_cons_self
    · exact le_average ((Nat.min_le_left _ _).trans habove) hlow
    · -- the larger of the old bound and the new sample bounds both averages
      rcases Nat.le_total x raw with hle | hle
      · exact ⟨raw, List.mem_cons_self,
          average_le (hsmoothed.trans hle) (hvar.trans hle) hhigh⟩
      · exact ⟨x, List.mem_cons_of_mem _ hx, average_le hsmoothed hvar (hhigh.trans hle)⟩

theorem tracks_run (maxAckDelay : Duration) {ops : List Op} (hops : ∀ op ∈ ops, op.Small) :
    Tracks (samplesOf ops) (ops.foldl step (start maxAckDelay)) := by
  induction ops using List.reverseRecOn with
  | nil => exact tracks_start maxAckDelay
  | append_singleton ops op ih =>
    have h := ih fun op' hop' => hops op' (List.mem_append_left _ hop')
    have hop := hops op (List.mem_append_right _ (List.mem_singleton_self op))
    rw [samplesOf, List.foldl_append, List.foldl_append]
    cases op with
    | update raw ackDelay => exact h.update hop ackDelay
    | resetForNewPath => exact tracks_start _

/-- **Bounds of the round-trip estimator.**  For all calls, with any samples whose eightfold fits in
a `u64` and any reported delays: after an update nothing has overflowed, `min_rtt` is the minimum of
the raw samples since the last reset, `latest_rtt` lies between it and the raw sample, and
`smoothed_rtt` between it and the largest raw sample. -/
theorem rtt_bounds (maxAckDelay : Duration) (ops : List Op) (raw ackDelay : Duration)
    (hops : ∀ op ∈ ops ++ [.update raw ackDelay], op.Small) :
    let before := ops.foldl step (start maxAckDelay)
    let s := before.step (.update raw ackDelay)
    let samples := samplesOf (ops ++ [.update raw ackDelay])
    before.FitsU64 raw ackDelay ∧
      (s.minRtt ∈ samples ∧ ∀ x ∈ samples, s.minRtt ≤ x) ∧
      (s.minRtt ≤ s.latestRtt ∧ s.latestRtt ≤ raw) ∧
      s.minRtt ≤ s.smoothedRtt ∧ ∃ x ∈ samples, s.smoothedRtt ≤ x := by
  intro before s samples
  have hbefore := tracks_run maxAckDelay fun op hop => hops op (List.mem_append_left _ hop)
  have hraw : 8 * raw ≤ u64Max := hops _ (List.mem_append_right _ (List.mem_singleton_self _))
  have hsamples : samples = raw :: samplesOf ops := by
    rw [show samples = samplesOf (ops ++ [.update raw ackDelay]) from rfl, samplesOf,
      List.foldl_append]
    rfl
  have hafter : Tracks samples s := hsamples ▸ hbefore.update hraw ackDelay
  have hne : samples ≠ [] := hsamples ▸ List.cons_ne_nil _ _
  have hmin : s.minRtt = min before.minRtt raw := by
    change (before.update raw ackDelay).minRtt = _
    unfold update
    split <;> rfl
  obtain ⟨hlow, hhigh⟩ := latestRtt_update before (le_of_eight hraw) ackDelay
  obtain ⟨x, hx, hbelow, -⟩ := hafter.below hne
  exact ⟨hbefore.fits hraw ackDelay, ⟨hafter.taken hne, hafter.least⟩, ⟨hmin.trans_le hlow, hhigh⟩,
    hafter.above hne, x, hx, hbelow⟩

/-- Two samples on one path, a reset, and two on the next; the last delay is reported as an hour. -/
def fourSamples : List Op :=
  [.update 9000 0, .update 12000 50, .resetForNewPath, .update 60000 0]

/-- The theorem at `fourSamples`: the minimum is of the new path, and the hour counts for 25 ms. -/
theorem rtt_bounds_fourSamples :
    let s := (fourSamples.foldl step (start defaultMaxAckDelay)).step (.update 90000 3600000000)
    s.minRtt ≤ s.latestRtt ∧ s.latestRtt ≤ 90000 ∧ s.minRtt = 60000 ∧ s.latestRtt = 65000 := by
  obtain ⟨-, -, ⟨hlow, hhigh⟩, -⟩ :=
    rtt_bounds defaultMaxAckDelay fourSamples 90000 3600000000 (by decide)
  exact ⟨hlow, hhigh, by decide⟩

end RttStats

/-! ## 2. One-way delay: one packet -/

theorem u32_ofInt_sub (a b : Int) :
    UInt32.ofInt (a - b) = UInt32.ofInt a - UInt32.ofInt b := by
  rw [Int.sub_eq_add_neg, UInt32.ofInt_add, UInt32.ofInt_neg, UInt32.sub_eq_add_neg]

theorem u32_ofNat_eq_ofInt (n : Nat) : UInt32.ofNat n = UInt32.ofInt n := by
  apply UInt32.toNat.inj
  rw [UInt32.ofInt, UInt32.toNat_ofNat', UInt32.toNat_ofNat']
  omega

/-- A difference of less than half the range survives the wrap and the cast to `i32`. -/
theorem u32_toInt_ofInt {x : Int} (hlow : -2 ^ 31 ≤ x) (hhigh : x < 2 ^ 31) :
    (UInt32.ofInt x).toInt32.toInt = x := by
  have h : (UInt32.ofInt x).toInt32 = Int32.ofInt x := by
    apply Int32.toBitVec.inj
    apply BitVec.eq_of_toNat_eq
    simp [UInt32.ofInt]
    omega
  rw [h]
  exact Int32.toInt_ofInt_of_le hlow hhigh

namespace OwdEstimator

/-- The jitter filter of `on_packet`. -/
def nextJitter (jitter prevOwdVar : UInt32) (owdVar : Nat) : UInt32 :=
  let diff : Int := ((owdVar : Int) - prevOwdVar.toNat).natAbs
  let adjustment : Int := (diff - jitter.toNat).tdiv 16
  UInt32.ofNat (max (jitter.toNat + adjustment) 0).toNat

/-- The filter moves towards the difference and never past it. -/
theorem nextJitter_le (jitter prevOwdVar : UInt32) (owdVar : Nat) :
    (nextJitter jitter prevOwdVar owdVar).toNat ≤
      max jitter.toNat ((owdVar : Int) - prevOwdVar.toNat).natAbs := by
  unfold nextJitter
  generalize ((owdVar : Int) - prevOwdVar.toNat).natAbs = diff
  dsimp only
  rw [UInt32.toNat_ofNat']
  refine (Nat.mod_le _ _).trans ?_
  have htdiv : ((diff : Int) - jitter.toNat).tdiv 16 ≤ max ((diff : Int) - jitter.toNat) 0 := by
    rcases Nat.le_total jitter.toNat diff with hle | hle
    · rw [Int.tdiv_eq_ediv_of_nonneg (by omega)]
      omega
    · rw [← Int.neg_neg ((diff : Int) - jitter.toNat), Int.neg_tdiv,
        Int.tdiv_eq_ediv_of_nonneg (by omega)]
      omega
  generalize ((diff : Int) - jitter.toNat).tdiv 16 = adjustment at htdiv
  omega

theorem onPacket_first {o : OwdEstimator} (h : o.hasSample = false) (tsPeer : UInt32)
    (now : MonotonicTime) :
    o.onPacket tsPeer now = { o with
      hasSample := true
      baseD := UInt32.ofNat now - tsPeer
      floorTime := now
      prevOwdVar := 0 } := by
  unfold onPacket
  simp only [h]
  rfl

/-- **A later packet.**  An aged floor is anchored at the packet, a floor above the packet is
lowered to it. -/
theorem onPacket_later {o : OwdEstimator} (h : o.hasSample = true) (tsPeer : UInt32)
    (now : MonotonicTime) :
    o.onPacket tsPeer now =
      let d := UInt32.ofNat now - tsPeer
      let aged := floorReanchorWindow < now - o.floorTime
      let delta := if aged then 0 else (d - o.baseD).toInt32.toInt
      { o with
        baseD := if aged ∨ delta < 0 then d else o.baseD
        floorTime := if aged ∨ delta < 0 then now else o.floorTime
        jitter := nextJitter o.jitter o.prevOwdVar (max delta 0).toNat
        prevOwdVar := UInt32.ofNat (max delta 0).toNat } := by
  unfold onPacket
  simp only [h, Bool.not_true, Bool.false_eq_true, if_false]
  by_cases haged : floorReanchorWindow < now - o.floorTime
  · simp [haged, nextJitter]
  · simp only [haged, if_false, false_or]
    generalize (UInt32.ofNat now - tsPeer - o.baseD).toInt32.toInt = delta
    by_cases hneg : delta < 0
    · simp [hneg, h, nextJitter]
    · simp [hneg, h, nextJitter]

/-! ## 3. One-way delay: runs -/

/-- A packet as it arrives: the peer's timestamp and the local time. -/
structure Packet where
  tsPeer : UInt32
  now : MonotonicTime
  deriving DecidableEq, Repr

/-- The estimator after a packet. -/
def feed (o : OwdEstimator) (p : Packet) : OwdEstimator := o.onPacket p.tsPeer p.now

/-- The samples that `on_packet` returns. -/
def samples (o : OwdEstimator) (ps : List Packet) : List OwdSample :=
  Runs.outputs feed (fun o p => (o.feed p).sample) o ps

/-- The samples of a new estimator. -/
def observed (ps : List Packet) : List OwdSample := default.samples ps

/-- The peer's clock set forward by `c`. -/
def Packet.shift (c : UInt32) (p : Packet) : Packet := { p with tsPeer := p.tsPeer + c }

/-- The same estimator, up to an offset of the peer's clock. -/
def Shifted (c : UInt32) (o o' : OwdEstimator) : Prop :=
  o' = { o with baseD := if o.hasSample then o.baseD - c else o.baseD }

theorem Shifted.feed {c : UInt32} {o o' : OwdEstimator} (h : Shifted c o o') (p : Packet) :
    Shifted c (o.feed p) (o'.feed (p.shift c)) := by
  have hd : UInt32.ofNat p.now - (p.tsPeer + c) = UInt32.ofNat p.now - p.tsPeer - c := by
    grind
  cases hsome : o.hasSample with
  | false =>
    have h' : o' = o := by
      obtain ⟨baseD, prevOwdVar, jitter, floorTime, hasSample⟩ := o
      cases hsome
      exact h
    rw [h', OwdEstimator.feed, OwdEstimator.feed, onPacket_first hsome, onPacket_first hsome]
    simp [Shifted, Packet.shift, hd]
  | true =>
    have h' : o' = { o with baseD := o.baseD - c } := by
      rw [h]
      simp [hsome]
    have hsub : ∀ d : UInt32, d - c - (o.baseD - c) = d - o.baseD := by
      intro d
      grind
    subst h'
    rw [OwdEstimator.feed, OwdEstimator.feed, onPacket_later hsome,
      onPacket_later (o := { o with baseD := o.baseD - c }) hsome]
    simp only [Packet.shift, hd, hsub, Shifted, hsome, if_true]
    -- the floor is anchored in both runs or in neither
    generalize hdelta : (if floorReanchorWindow < p.now - o.floorTime then 0
      else (UInt32.ofNat p.now - p.tsPeer - o.baseD).toInt32.toInt) = delta
    by_cases hanchor : floorReanchorWindow < p.now - o.floorTime ∨ delta < 0
    · simp only [hanchor, if_true]
    · simp only [hanchor, if_false]

/-- **The clocks' offset cancels.** -/
theorem Shifted.samples {c : UInt32} {o o' : OwdEstimator} (h : Shifted c o o')
    (ps : List Packet) : o'.samples (ps.map (Packet.shift c)) = o.samples ps := by
  induction ps generalizing o o' with
  | nil => rfl
  | cons p ps ih =>
    have hstep := h.feed p
    have hsample : (o'.feed (p.shift c)).sample = (o.feed p).sample := by
      rw [hstep]
      rfl
    exact congrArg₂ List.cons hsample (ih hstep)

/-! ## 4. One-way delay: the floor on true delays -/

/-- A packet as it travels: how long, and when it arrives. -/
structure Flight where
  delay : Int
  now : MonotonicTime
  deriving DecidableEq, Repr

/-- The packet that arrives when the sender's clock is ahead by `offset`: both clocks are cut to 32
bits. -/
def Flight.stamp (offset : Int) (f : Flight) : Packet :=
  ⟨UInt32.ofInt (f.now - f.delay + offset), f.now⟩

/-- The floor on true delays: the delays since it was last anchored, and since when the smallest of
them serves. -/
structure Floor where
  anchor : Int
  later : List Int
  floorTime : MonotonicTime
  deriving DecidableEq, Repr

/-- The smallest delay since the floor was anchored. -/
def Floor.smallest (fl : Floor) : Int := fl.later.foldr min fl.anchor

/-- The first packet anchors the floor, and so does one that finds it in service for more than 30
seconds. -/
def Floor.receive : Option Floor → Flight → Floor
  | none, f => ⟨f.delay, [], f.now⟩
  | some fl, f =>
    if floorReanchorWindow < f.now - fl.floorTime then ⟨f.delay, [], f.now⟩
    else ⟨fl.anchor, f.delay :: fl.later, if f.delay < fl.smallest then f.now else fl.floorTime⟩

/-- The delay of every packet above the smallest one since the floor was anchored. -/
def excesses (fl : Option Floor) (fs : List Flight) : List Int :=
  Runs.outputs (fun fl f => some (Floor.receive fl f))
    (fun fl f => f.delay - (Floor.receive fl f).smallest) fl fs

/-- The delays differ pairwise by less than 2^31. -/
def Close (ds : List Int) : Prop := ∀ d ∈ ds, ∀ d' ∈ ds, d - d' < 2 ^ 31

/-- The estimator holds the floor, read through clocks that are `offset` apart. -/
def Holds (offset : Int) (o : OwdEstimator) : Option Floor → Prop
  | none => o.hasSample = false
  | some fl => o.hasSample = true ∧ o.baseD = UInt32.ofInt (fl.smallest - offset) ∧
      o.floorTime = fl.floorTime

/-- What the receiver computes from a packet: its delay less the offset. -/
theorem difference_stamp (offset : Int) (f : Flight) :
    UInt32.ofNat f.now - (f.stamp offset).tsPeer = UInt32.ofInt (f.delay - offset) := by
  rw [Flight.stamp, u32_ofNat_eq_ofInt, ← u32_ofInt_sub]
  congr 1
  ring

theorem smallest_receive {fl : Floor} {f : Flight}
    (h : ¬ floorReanchorWindow < f.now - fl.floorTime) :
    (Floor.receive (some fl) f).smallest = min f.delay fl.smallest := by
  rw [Floor.receive, if_neg h]
  rfl

/-- **One packet on both sides.** -/
theorem Holds.feed {offset : Int} {o : OwdEstimator} {fl : Option Floor} (h : Holds offset o fl)
    {f : Flight} (hclose : ∀ fl', fl = some fl' → f.delay - fl'.smallest < 2 ^ 31 ∧
      fl'.smallest - f.delay < 2 ^ 31) :
    Holds offset (o.feed (f.stamp offset)) (some (Floor.receive fl f)) ∧
      ((o.feed (f.stamp offset)).prevOwdVar.toNat : Int) =
        f.delay - (Floor.receive fl f).smallest := by
  have hd := difference_stamp offset f
  cases fl with
  | none =>
    rw [OwdEstimator.feed, onPacket_first h]
    exact ⟨⟨rfl, hd, rfl⟩, (sub_self f.delay).symm⟩
  | some fl =>
    obtain ⟨hsome, hbase, htime⟩ := h
    obtain ⟨hhigh, hlow⟩ := hclose fl rfl
    have hdelta : (UInt32.ofNat f.now - (f.stamp offset).tsPeer - o.baseD).toInt32.toInt =
        f.delay - fl.smallest := by
      rw [hd, hbase, ← u32_ofInt_sub, u32_toInt_ofInt] <;> omega
    have hnow : (f.stamp offset).now = f.now := rfl
    rw [OwdEstimator.feed, onPacket_later hsome]
    dsimp only
    rw [hnow, hdelta, htime]
    by_cases haged : floorReanchorWindow < f.now - fl.floorTime
    · have hreceive : Floor.receive (some fl) f = ⟨f.delay, [], f.now⟩ := if_pos haged
      rw [hreceive, if_pos haged, if_pos (Or.inl haged), if_pos (Or.inl haged)]
      exact ⟨⟨hsome, hd, rfl⟩, (sub_self f.delay).symm⟩
    · have hsmallest := smallest_receive (f := f) haged
      have hreceive : (Floor.receive (some fl) f).floorTime =
          if f.delay < fl.smallest then f.now else fl.floorTime := by
        rw [Floor.receive, if_neg haged]
      have hfits : (max (f.delay - fl.smallest) 0).toNat < 2 ^ 32 := by omega
      have hlower : floorReanchorWindow < f.now - fl.floorTime ∨ f.delay - fl.smallest < 0 ↔
          f.delay < fl.smallest := by
        rw [or_iff_right haged, sub_neg]
      rw [if_neg haged]
      simp only [hlower]
      refine ⟨⟨hsome, ?_, hreceive.symm⟩, ?_⟩
      · rw [hsmallest]
        split
        · rename_i hlt
          rw [min_eq_left hlt.le, hd]
        · rename_i hnot
          rw [min_eq_right (not_lt.mp hnot), hbase]
      · rw [hsmallest, UInt32.toNat_ofNat', Nat.mod_eq_of_lt hfits]
        omega

/-- **The estimator measures the delay above the floor.** -/
theorem Holds.samples {offset : Int} {o : OwdEstimator} {fl : Option Floor}
    (h : Holds offset o fl) {fs : List Flight}
    (hclose : Close ((fl.map Floor.smallest).toList ++ fs.map Flight.delay)) :
    (o.samples (fs.map (Flight.stamp offset))).map (fun s => (s.owdVarUs.toNat : Int)) =
      excesses fl fs := by
  induction fs generalizing o fl with
  | nil => rfl
  | cons f fs ih =>
    have hdelay : f.delay ∈ (fl.map Floor.smallest).toList ++ (f :: fs).map Flight.delay := by
      simp
    have hnear : ∀ fl', fl = some fl' → f.delay - fl'.smallest < 2 ^ 31 ∧
        fl'.smallest - f.delay < 2 ^ 31 := by
      rintro fl' rfl
      have hmem : fl'.smallest ∈ ((some fl').map Floor.smallest).toList ++
          (f :: fs).map Flight.delay := by simp
      exact ⟨hclose _ hdelay _ hmem, hclose _ hmem _ hdelay⟩
    obtain ⟨hnext, hvar⟩ := h.feed hnear
    refine congrArg₂ List.cons hvar (ih hnext ?_)
    -- the new floor is the old one or the packet's delay
    have hsub : ∀ d ∈ ((some (Floor.receive fl f)).map Floor.smallest).toList ++
        fs.map Flight.delay,
        d ∈ (fl.map Floor.smallest).toList ++ (f :: fs).map Flight.delay := by
      intro d hd
      rcases List.mem_append.mp hd with hd | hd
      · have hdeq : d = (Floor.receive fl f).smallest := by simpa using hd
        cases fl with
        | none => exact hdeq ▸ hdelay
        | some fl =>
          by_cases haged : floorReanchorWindow < f.now - fl.floorTime
          · rw [Floor.receive, if_pos haged] at hdeq
            exact hdeq ▸ hdelay
          · rw [smallest_receive haged] at hdeq
            rcases min_choice f.delay fl.smallest with hmin | hmin
            · exact (hdeq.trans hmin) ▸ hdelay
            · rw [hdeq, hmin]
              simp
      · exact List.mem_append_right _ (List.mem_cons_of_mem _ hd)
    exact fun d hd d' hd' => hclose d (hsub d hd) d' (hsub d' hd')

/-! ## 5. Jitter, and the whole -/

/-- The largest difference between consecutive values. -/
def largestStep : List Nat → Nat
  | a :: b :: rest => max ((b : Int) - a).natAbs (largestStep (b :: rest))
  | _ => 0

/-- The jitter after a packet, by the two variances that it compares. -/
theorem feed_jitter {o : OwdEstimator} (hsome : o.hasSample = true) (p : Packet) :
    (o.feed p).hasSample = true ∧ (o.feed p).jitter.toNat ≤ max o.jitter.toNat
      (((o.feed p).prevOwdVar.toNat : Int) - o.prevOwdVar.toNat).natAbs := by
  rw [OwdEstimator.feed, onPacket_later hsome]
  refine ⟨hsome, ?_⟩
  dsimp only
  generalize hdelta : (if floorReanchorWindow < p.now - o.floorTime then 0
    else (UInt32.ofNat p.now - p.tsPeer - o.baseD).toInt32.toInt) = delta
  have hlt : delta < 2 ^ 31 := by
    rw [← hdelta]
    split
    · decide
    · exact Int32.toInt_lt _
  rw [UInt32.toNat_ofNat', Nat.mod_eq_of_lt (show (max delta 0).toNat < 2 ^ 32 by omega)]
  exact nextJitter_le o.jitter o.prevOwdVar (max delta 0).toNat

/-- The jitter stays below every bound on the differences. -/
theorem jitter_le {bound : Nat} {ps : List Packet} {o : OwdEstimator} (hsome : o.hasSample = true)
    (hjitter : o.jitter.toNat ≤ bound)
    (hsteps : largestStep (o.prevOwdVar.toNat ::
      (o.samples ps).map (fun s => s.owdVarUs.toNat)) ≤ bound) :
    ∀ s ∈ o.samples ps, s.jitterUs.toNat ≤ bound := by
  induction ps generalizing o with
  | nil =>
    intro s hs
    cases hs
  | cons p ps ih =>
    obtain ⟨hstep, hrest⟩ := max_le_iff.mp hsteps
    obtain ⟨hsome', hfilter⟩ := feed_jitter hsome p
    have hnext : (o.feed p).jitter.toNat ≤ bound := hfilter.trans (max_le hjitter hstep)
    intro s hs
    rcases List.mem_cons.mp hs with rfl | hs
    · exact hnext
    · exact ih hsome' hnext hrest s hs

/-- The variances that the samples report. -/
def owdVars (ps : List Packet) : List Nat := (observed ps).map fun s => s.owdVarUs.toNat

theorem observed_jitter_le (ps : List Packet) :
    ∀ s ∈ observed ps, s.jitterUs.toNat ≤ largestStep (owdVars ps) := by
  cases ps with
  | nil =>
    intro s hs
    cases hs
  | cons p ps =>
    -- the first packet reports no jitter, and its variance is where the differences start
    intro s hs
    rcases List.mem_cons.mp hs with rfl | hs
    · exact Nat.zero_le _
    · exact jitter_le (o := default.feed p) rfl (Nat.zero_le _) le_rfl s hs

/-- **One-way delay without common clocks.**  Whatever constant is added to all timestamps of the
peer, modulo 2^32, the samples are the same.  For true delays that differ pairwise by less than 2^31
microseconds, and clocks that are any number of microseconds apart, each reported variance is the
delay of its packet above the smallest one since the floor was last anchored, wherever the clocks
wrap.  And the jitter is never above the largest difference between consecutive variances. -/
theorem owd_offset_free (ps : List Packet) :
    (∀ c : UInt32, observed (ps.map (Packet.shift c)) = observed ps) ∧
      (∀ (offset : Int) (fs : List Flight), ps = fs.map (Flight.stamp offset) →
        Close (fs.map Flight.delay) →
          (observed ps).map (fun s => (s.owdVarUs.toNat : Int)) = excesses none fs) ∧
      ∀ s ∈ observed ps, s.jitterUs.toNat ≤ largestStep (owdVars ps) := by
  refine ⟨fun c => ?_, ?_, observed_jitter_le ps⟩
  · exact @Shifted.samples c default default rfl ps
  · rintro offset fs rfl hclose
    exact @Holds.samples offset default none rfl fs hclose

/-- Three packets with delays of 7, 4 and 9; the peer's clock is 2^32 - 3 ahead, so its timestamps
wrap on the way. -/
def threeFlights : List Flight := [⟨7, 6⟩, ⟨4, 8⟩, ⟨9, 20⟩]

/-- The theorem at `threeFlights`. -/
theorem owd_offset_free_threeFlights :
    Close (threeFlights.map Flight.delay) ∧
      (observed (threeFlights.map (Flight.stamp (2 ^ 32 - 3)))).map
        (fun s => (s.owdVarUs.toNat : Int)) = [0, 0, 5] := by
  have hclose : Close (threeFlights.map Flight.delay) := by
    unfold Close
    decide
  exact ⟨hclose, (owd_offset_free _).2.1 (2 ^ 32 - 3) threeFlights rfl hclose⟩

end OwdEstimator

end Gtp
