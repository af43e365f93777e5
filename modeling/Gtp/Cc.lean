/-
# Congestion control, pacing and backpressure (`gtp-cc`)

CUBIC keeps its window in bytes and its curve in `f64`; the model keeps both, with `Float` for
`f64`, so that the curve is transcribed and not abstracted.  Nothing is proved about the curve: the
results about the engine only use that the pacing bucket is an integer that `consume` empties and
that never fills above its burst, whatever rate the curve asks for.  So they do not depend on how a
platform rounds.

* `floatMax`, `floatClamp` and `floatToNat` are Rust's `max`, `clamp` and `as u64`, with what these
  do to a NaN.
* The bucket takes time zero for "not started": until a call at a later time every update fills it
  up again.  What this leads to is in `Gtp.Core.TxLoop`.

`on_packet_sent` of the controller does nothing and is left out.  The floor of the window is in
`Gtp.Window`.
-/
import Gtp.Recovery.LossDetector

namespace Gtp

/-! ## 1. Floating point helpers -/

/-- `f64::max`: when one of the two is NaN, the other. -/
def floatMax (a b : Float) : Float := if a.isNaN then b else if a < b then b else a

/-- `f64::clamp`; NaN stays NaN, since neither comparison holds of it. -/
def floatClamp (x lo hi : Float) : Float := if x < lo then lo else if hi < x then hi else x

/-- `Duration::as_secs_f64`. -/
def Duration.asSecsF64 (d : Duration) : Float := d.toFloat / 1000000.0

/-- `as u64` from `f64`: saturating, and zero for NaN. -/
def floatToNat (x : Float) : Nat := x.toUInt64.toNat

/-! ## 2. CUBIC (`cubic.rs`) -/

/-- `CubicConfig`. -/
structure CubicConfig where
  smss : Nat
  initialCwndPackets : Nat
  minCwndPackets : Nat
  beta : Float
  c : Float
  pacingGain : Float

/-- `CubicCongestionController`. -/
structure CubicCongestionController where
  smss : Nat
  minCwndBytes : Nat
  beta : Float
  cConst : Float
  pacingGain : Float
  cwnd : Nat
  ssthresh : Nat
  wMax : Nat
  wLastMax : Nat
  k : Float
  epochStart : Option MonotonicTime
  originPoint : Nat
  smoothedRtt : Duration
  lastLossTime : Option MonotonicTime

namespace CubicCongestionController

/-- `CubicCongestionController::with_config`. -/
def withConfig (config : CubicConfig) : CubicCongestionController :=
  let smss := max config.smss 1
  let initialCwnd := wrapMul (max config.initialCwndPackets 1) smss
  { smss
    minCwndBytes := wrapMul (max config.minCwndPackets 1) smss
    beta := floatClamp config.beta 0.5 0.95
    cConst := floatMax config.c 0.05
    pacingGain := floatMax config.pacingGain 1.0
    cwnd := initialCwnd
    ssthresh := u64Max
    wMax := initialCwnd
    wLastMax := initialCwnd
    k := 0.0
    epochStart := none
    originPoint := initialCwnd
    smoothedRtt := Duration.fromMillis 50
    lastLossTime := none }

/-- `update_w_cubic`: slow start below `ssthresh`, otherwise the larger of the cubic and the
TCP-friendly window. -/
def updateWCubic (cc : CubicCongestionController) (now : MonotonicTime) :
    CubicCongestionController :=
  let epochStart := cc.epochStart.getD now
  let t := Duration.asSecsF64 (now - epochStart)
  let targetDiff := t - cc.k
  let wCubic := cc.cConst * (targetDiff * targetDiff * targetDiff) * cc.smss.toFloat +
    cc.originPoint.toFloat
  let rttSecs := floatMax (Duration.asSecsF64 cc.smoothedRtt) 0.001
  let tcpFactor := 3.0 * (1.0 - cc.beta) / (1.0 + cc.beta)
  let wTcp := cc.wMax.toFloat * cc.beta + tcpFactor * (t / rttSecs) * cc.smss.toFloat
  let wCubic := if wCubic < wTcp then wTcp else wCubic
  let wCubicClamped := floatToNat (floatMax wCubic cc.minCwndBytes.toFloat)
  { cc with
    epochStart := some epochStart
    cwnd := if cc.cwnd < cc.ssthresh then satAdd cc.cwnd cc.smss else max cc.cwnd wCubicClamped }

/-- `on_congestion_event`: at most one reduction per round trip. -/
def onCongestionEvent (cc : CubicCongestionController) (now : MonotonicTime) :
    CubicCongestionController :=
  let sameRtt := match cc.lastLossTime with
    | some lastLoss => decide (now - lastLoss < cc.smoothedRtt)
    | none => false
  if sameRtt then cc
  else
    let wMax := if cc.cwnd < cc.wLastMax then
        max (floatToNat (cc.cwnd.toFloat * (1.0 + cc.beta) / 2.0)) cc.minCwndBytes
      else cc.cwnd
    let ssthresh := max (floatToNat (cc.cwnd.toFloat * cc.beta)) cc.minCwndBytes
    let wDiff := (wMax.toFloat * (1.0 - cc.beta)) / (cc.cConst * cc.smss.toFloat)
    { cc with
      lastLossTime := some now
      wLastMax := cc.cwnd
      wMax
      ssthresh
      cwnd := ssthresh
      originPoint := wMax
      k := if 0.0 < wDiff then wDiff.cbrt else 0.0
      epochStart := some now }

/-- `on_ack`: the window grows on acknowledgements that carry bytes only. -/
def onAck (cc : CubicCongestionController) (ev : AckEvent) (now : MonotonicTime) :
    CubicCongestionController :=
  if 0 < ev.bytesAcked then cc.updateWCubic now else cc

/-- `on_loss`. -/
def onLoss (cc : CubicCongestionController) (ev : LossEvent) (now : MonotonicTime) :
    CubicCongestionController :=
  if ev.lostPackets.isEmpty then cc else cc.onCongestionEvent now

/-- `on_ecn`. -/
def onEcn (cc : CubicCongestionController) (ceCount : UInt32) (now : MonotonicTime) :
    CubicCongestionController :=
  if 0 < ceCount then cc.onCongestionEvent now else cc

/-- `on_rtt`. -/
def onRtt (cc : CubicCongestionController) (smoothedRtt : Duration) : CubicCongestionController :=
  { cc with smoothedRtt }

/-- `on_timeout`. -/
def onTimeout (cc : CubicCongestionController) (now : MonotonicTime) : CubicCongestionController :=
  let ssthresh := max (floatToNat (cc.cwnd.toFloat * cc.beta)) cc.minCwndBytes
  { cc with
    ssthresh
    cwnd := cc.minCwndBytes
    wMax := ssthresh
    wLastMax := ssthresh
    originPoint := ssthresh
    k := 0.0
    epochStart := some now }

/-- `pacing_rate`, in bytes per second. -/
def pacingRate (cc : CubicCongestionController) : Nat :=
  let rttSecs := floatMax (Duration.asSecsF64 cc.smoothedRtt) 0.001
  let baseRate := cc.cwnd.toFloat / rttSecs * cc.pacingGain
  floatToNat (floatMax baseRate 10000.0)

end CubicCongestionController

/-! ## 3. Pacing (`pacing.rs`) -/

/-- `PacingEngine`: a token bucket. -/
structure PacingEngine where
  tokensBytes : Nat
  lastUpdateTime : MonotonicTime
  maxBurstBytes : Nat
  fractionalRemainder : Float

namespace PacingEngine

def new (maxBurstBytes : Nat) : PacingEngine := ⟨maxBurstBytes, 0, maxBurstBytes, 0.0⟩

/-- `update_tokens`.  Time zero means "not started". -/
def updateTokens (p : PacingEngine) (pacingRateBps : Nat) (now : MonotonicTime) : PacingEngine :=
  if p.lastUpdateTime = 0 then
    { p with lastUpdateTime := now, tokensBytes := p.maxBurstBytes }
  else
    let elapsed := now - p.lastUpdateTime
    if 0 < elapsed then
      let exact := pacingRateBps.toFloat * Duration.asSecsF64 elapsed + p.fractionalRemainder
      { p with
        fractionalRemainder := exact - exact.floor
        tokensBytes := min (p.tokensBytes + floatToNat exact.floor) p.maxBurstBytes
        lastUpdateTime := now }
    else p

/-- `consume`. -/
def consume (p : PacingEngine) (bytes : Nat) : PacingEngine :=
  { p with tokensBytes := p.tokensBytes - bytes }

/-- `send_budget`. -/
def sendBudget (p : PacingEngine) (cwnd inflight : Nat) : Nat := min (cwnd - inflight) p.tokensBytes

/-- A second update at the same time changes nothing, once the clock has started. -/
theorem updateTokens_same {p : PacingEngine} {now : MonotonicTime} (hstart : p.lastUpdateTime ≠ 0)
    (hle : now ≤ p.lastUpdateTime) (rate : Nat) : p.updateTokens rate now = p := by
  have hzero : ¬ 0 < now - p.lastUpdateTime := Nat.not_lt.mpr (Nat.sub_eq_zero_of_le hle).le
  rw [updateTokens, if_neg hstart]
  simp only [if_neg hzero]

/-- After an update the clock stands at `now` or later. -/
theorem le_lastUpdateTime_updateTokens (p : PacingEngine) (rate : Nat) (now : MonotonicTime) :
    now ≤ (p.updateTokens rate now).lastUpdateTime := by
  unfold updateTokens
  split
  · exact Nat.le_refl now
  · dsimp only
    split
    · exact Nat.le_refl now
    · rename_i hle
      exact Nat.sub_eq_zero_iff_le.mp (Nat.eq_zero_of_not_pos hle)

end PacingEngine

/-! ## 4. Backpressure (`backpressure.rs`) -/

/-- `BackpressureLevel`. -/
inductive BackpressureLevel where
  | low
  | medium
  | high
  | critical
  deriving DecidableEq, Repr

/-- `calculate_backpressure`. -/
def calculateBackpressure (queuedBytes cwnd : Nat) (currentRtt : Duration)
    (minRtt : Option Duration) : BackpressureLevel :=
  let rttInflation := match minRtt with
    | some m => if 0 < m then currentRtt.toFloat / m.toFloat else 1.0
    | none => 1.0
  let queueRatio := queuedBytes.toFloat / (max cwnd 1200).toFloat
  if 3.0 < queueRatio || 2.5 < rttInflation then .critical
  else if 1.5 < queueRatio || 1.8 < rttInflation then .high
  else if 0.8 < queueRatio || 1.3 < rttInflation then .medium
  else .low

end Gtp
