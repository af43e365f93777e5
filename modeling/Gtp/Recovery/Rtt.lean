/-
# Path measurement (`gtp-recovery/src/rtt.rs`, `owd.rs`)

The round-trip estimator that the loss detector and the pacing rate read, and the one-way-delay
estimator that is fed from the timestamp of every authenticated packet.  Both are integer-only.

Where the source adds two `u64`, the model does too (`wrapAdd` and the like), so that an overflow
would show.  The timestamps are 32 bits wide and differences of them wrap, as the source has it; the
cast of such a difference to `i32` is what decides whether a packet is faster or slower than the
floor.

What the two estimators promise for numbers of the peer's choice is in `Gtp.Recovery.Estimates`.
-/
import Gtp.Types

namespace Gtp

/-! ## 1. Round-trip time -/

/-- `INITIAL_RTT`. -/
def initialRtt : Duration := Duration.fromMillis 100

/-- `DEFAULT_MAX_ACK_DELAY`. -/
def defaultMaxAckDelay : Duration := Duration.fromMillis 25

/-- RFC-aligned RTT statistics. -/
structure RttStats where
  latestRtt : Duration
  smoothedRtt : Duration
  rttvar : Duration
  minRtt : Duration
  maxAckDelay : Duration
  firstSample : Bool
  deriving DecidableEq, Repr

namespace RttStats

/-- `RttStats::default`. -/
def default : RttStats where
  latestRtt := initialRtt
  smoothedRtt := initialRtt
  rttvar := initialRtt / 2
  minRtt := u64Max
  maxAckDelay := defaultMaxAckDelay
  firstSample := true

/-- `RttStats::min_rtt_sample`: the sentinel never leaves the estimator. -/
def minRttSample (s : RttStats) : Option Duration :=
  if s.firstSample then none else some s.minRtt

/-- `RttStats::reset_for_new_path`: `max_ack_delay` belongs to the peer and survives. -/
def resetForNewPath (s : RttStats) : RttStats := { default with maxAckDelay := s.maxAckDelay }

/-- `RttStats::update`. -/
def update (s : RttStats) (sendToAckDuration ackDelay : Duration) : RttStats :=
  let rawRtt := sendToAckDuration
  let minRtt := min s.minRtt rawRtt
  let ackDelayClamped := min ackDelay s.maxAckDelay
  let adjustedRtt :=
    if s.firstSample then rawRtt
    else if satAdd minRtt ackDelayClamped < rawRtt then rawRtt - ackDelayClamped
    else rawRtt
  if s.firstSample then
    { s with
      minRtt
      latestRtt := adjustedRtt
      firstSample := false
      smoothedRtt := adjustedRtt
      rttvar := adjustedRtt / 2 }
  else
    let rttDiff :=
      if adjustedRtt ≤ s.smoothedRtt then s.smoothedRtt - adjustedRtt
      else adjustedRtt - s.smoothedRtt
    { s with
      minRtt
      latestRtt := adjustedRtt
      rttvar := (s.rttvar * 3 + rttDiff) / 4
      smoothedRtt := (s.smoothedRtt * 7 + adjustedRtt) / 8 }

/-- `RttStats::pto_duration`, never below the 1 ms timer granularity. -/
def ptoDuration (s : RttStats) : Duration :=
  max (satAdd (satAdd s.smoothedRtt (s.rttvar * 4)) s.maxAckDelay) (Duration.fromMillis 1)

end RttStats

/-! ## 2. One-way delay -/

/-- `FLOOR_REANCHOR_WINDOW`. -/
def floorReanchorWindow : Duration := 30000000

/-- `OwdSample`. -/
structure OwdSample where
  owdVarUs : UInt32
  jitterUs : UInt32
  epoch : UInt8
  deriving DecidableEq, Repr

/-- The sliding-floor estimator. -/
structure OwdEstimator where
  baseD : UInt32
  prevOwdVar : UInt32
  jitter : UInt32
  floorTime : MonotonicTime
  hasSample : Bool
  deriving DecidableEq, Repr

namespace OwdEstimator

/-- `OwdEstimator::default`. -/
def default : OwdEstimator := ⟨0, 0, 0, 0, false⟩

/-- `OwdEstimator::sample`. -/
def sample (o : OwdEstimator) : OwdSample := ⟨o.prevOwdVar, o.jitter, 0⟩

/-- `OwdEstimator::on_packet`: the estimator after the packet; the sample it returns is
`sample` of it. -/
def onPacket (o : OwdEstimator) (tsPeer : UInt32) (now : MonotonicTime) : OwdEstimator :=
  let tsLocal := UInt32.ofNat now
  let d := tsLocal - tsPeer
  if !o.hasSample then
    { o with hasSample := true, baseD := d, floorTime := now, prevOwdVar := 0 }
  else
    let o :=
      if floorReanchorWindow < now - o.floorTime then { o with baseD := d, floorTime := now } else o
    let delta := (d - o.baseD).toInt32.toInt
    let o := if delta < 0 then { o with baseD := d, floorTime := now } else o
    let owdVar := (max delta 0).toNat
    let diff : Int := ((owdVar : Int) - o.prevOwdVar.toNat).natAbs
    let adjustment : Int := (diff - o.jitter.toNat).tdiv 16
    { o with
      jitter := UInt32.ofNat (max (o.jitter.toNat + adjustment) 0).toNat
      prevOwdVar := UInt32.ofNat owdVar }

end OwdEstimator

end Gtp
