/-
# The floor of the congestion window (`gtp-cc/src/cubic.rs`)

Every operation that lowers the window clamps it at `min_cwnd_bytes`, so that the sender can always
have some datagrams in flight.  The curve is in floating point; nothing here depends on its values,
only on the clamps behind it.  The constructor alone has no clamp: it takes the initial window as it
is configured, and a configuration may ask for fewer initial packets than minimum packets.

* `AboveFloor` is the invariant: window, threshold and last maximum, and that the floor itself is a
  `u64`.
* `AboveFloor.step` is one call, of any kind and with any curve.
* `window_floor_iff` says that the constructor is the only way below the floor: for a configuration
  whose initial window is not below the minimum the floor holds after any calls, and for any other
  it is broken from the start.

The threshold and the last maximum start at the largest `u64` and at the initial window, and are
within the statement only once an event has set them (`sets`).  Nothing is said about how large the
window gets.
-/
import Gtp.Cc
import Gtp.Lib.Runs

namespace Gtp

namespace CubicCongestionController

/-! ## 1. Calls -/

/-- The calls that move the controller. -/
inductive Op where
  | onAck (ev : AckEvent) (now : MonotonicTime)
  | onLoss (ev : LossEvent) (now : MonotonicTime)
  | onEcn (ceCount : UInt32) (now : MonotonicTime)
  | onRtt (smoothedRtt : Duration)
  | onTimeout (now : MonotonicTime)

/-- The controller after one call. -/
def step (cc : CubicCongestionController) : Op → CubicCongestionController
  | .onAck ev now => cc.onAck ev now
  | .onLoss ev now => cc.onLoss ev now
  | .onEcn ceCount now => cc.onEcn ceCount now
  | .onRtt smoothedRtt => cc.onRtt smoothedRtt
  | .onTimeout now => cc.onTimeout now

/-- The round trip of the last reduction is not over. -/
def sameRtt (cc : CubicCongestionController) (now : MonotonicTime) : Bool :=
  match cc.lastLossTime with
  | some lastLoss => decide (now - lastLoss < cc.smoothedRtt)
  | none => false

/-- The call is a timeout, or a congestion event that is not held back by the last one: it sets
`ssthresh` and `w_max`. -/
def sets (cc : CubicCongestionController) : Op → Bool
  | .onLoss ev now => !ev.lostPackets.isEmpty && !cc.sameRtt now
  | .onEcn ceCount now => decide (0 < ceCount) && !cc.sameRtt now
  | .onTimeout _ => true
  | _ => false

/-! ## 2. The floor -/

/-- The window, the threshold and the last maximum are at or above the floor, which is a `u64`. -/
structure AboveFloor (cc : CubicCongestionController) : Prop where
  cwnd : cc.minCwndBytes ≤ cc.cwnd
  ssthresh : cc.minCwndBytes ≤ cc.ssthresh
  wMax : cc.minCwndBytes ≤ cc.wMax
  fits : cc.minCwndBytes ≤ u64Max

variable {cc : CubicCongestionController}

theorem AboveFloor.updateWCubic (h : AboveFloor cc) (now : MonotonicTime) :
    AboveFloor (cc.updateWCubic now) := by
  refine ⟨?_, h.ssthresh, h.wMax, h.fits⟩
  change cc.minCwndBytes ≤ if cc.cwnd < cc.ssthresh then satAdd cc.cwnd cc.smss else _
  split
  · exact Nat.le_min.mpr ⟨h.cwnd.trans (Nat.le_add_right _ _), h.fits⟩
  · exact h.cwnd.trans (Nat.le_max_left _ _)

theorem AboveFloor.onCongestionEvent (h : AboveFloor cc) (now : MonotonicTime) :
    AboveFloor (cc.onCongestionEvent now) := by
  have hsame : cc.onCongestionEvent now = if cc.sameRtt now then cc else _ := rfl
  rw [hsame]
  split
  · exact h
  · refine ⟨Nat.le_max_right _ _, Nat.le_max_right _ _, ?_, h.fits⟩
    -- fast convergence clamps; without it the old window is the maximum
    change cc.minCwndBytes ≤ if cc.cwnd < cc.wLastMax then _ else cc.cwnd
    split
    · exact Nat.le_max_right _ _
    · exact h.cwnd

theorem AboveFloor.onTimeout (h : AboveFloor cc) (now : MonotonicTime) :
    AboveFloor (cc.onTimeout now) :=
  ⟨le_rfl, Nat.le_max_right _ _, Nat.le_max_right _ _, h.fits⟩

/-- **One call.** -/
theorem AboveFloor.step (h : AboveFloor cc) (op : Op) : AboveFloor (cc.step op) := by
  cases op with
  | onAck ev now =>
    change AboveFloor (if 0 < ev.bytesAcked then cc.updateWCubic now else cc)
    split
    · exact h.updateWCubic now
    · exact h
  | onLoss ev now =>
    change AboveFloor (if ev.lostPackets.isEmpty then cc else cc.onCongestionEvent now)
    split
    · exact h
    · exact h.onCongestionEvent now
  | onEcn ceCount now =>
    change AboveFloor (if 0 < ceCount then cc.onCongestionEvent now else cc)
    split
    · exact h.onCongestionEvent now
    · exact h
  | onRtt smoothedRtt => exact ⟨h.cwnd, h.ssthresh, h.wMax, h.fits⟩
  | onTimeout now => exact h.onTimeout now

/-- The initial window is not below the minimum, as `u64` arithmetic gives the two. -/
def InitialCovers (config : CubicConfig) : Prop :=
  wrapMul (max config.minCwndPackets 1) (max config.smss 1) ≤
    wrapMul (max config.initialCwndPackets 1) (max config.smss 1)

theorem aboveFloor_withConfig {config : CubicConfig} (h : InitialCovers config) :
    AboveFloor (withConfig config) := by
  have hfits : wrapMul (max config.minCwndPackets 1) (max config.smss 1) ≤ u64Max :=
    Nat.le_pred_of_lt (Nat.mod_lt _ (by decide))
  exact ⟨h, hfits, h, hfits⟩

/-- **The floor of the window.**  For every configuration: after any calls the window is at least
`min_cwnd_bytes`, and so are `ssthresh` and `w_max` once a congestion event or a timeout has set
them, if and only if the initial window is not below the minimum.  Only the clamps behind the curve
are used, so that nothing is said of the curve, and nothing depends on its rounding. -/
theorem window_floor_iff (config : CubicConfig) :
    (∀ ops : List Op,
      let cc := ops.foldl step (withConfig config)
      cc.minCwndBytes ≤ cc.cwnd ∧
        ((∃ before op after, ops = before ++ op :: after ∧
            (before.foldl step (withConfig config)).sets op = true) →
          cc.minCwndBytes ≤ cc.ssthresh ∧ cc.minCwndBytes ≤ cc.wMax)) ↔
      InitialCovers config := by
  constructor
  · intro hall
    exact (hall []).1
  · intro hcovers ops
    have habove : AboveFloor (ops.foldl step (withConfig config)) :=
      (Runs.along_of_forall (P := fun _ _ => True) (fun _ _ => trivial) ops _).preserves_always
        (fun _ op _ hcc => hcc.step op) (aboveFloor_withConfig hcovers)
    exact ⟨habove.cwnd, fun _ => ⟨habove.ssthresh, habove.wMax⟩⟩

/-- One initial packet where four are the minimum. -/
def narrowStart : CubicConfig :=
  { smss := 1200
    initialCwndPackets := 1
    minCwndPackets := 4
    beta := 0.7
    c := 0.4
    pacingGain := 1.2 }

/-- **Below the floor from the start.**  The window is one packet, the minimum four; and a loss at
once makes one packet the maximum. -/
theorem narrowStart_below :
    (withConfig narrowStart).cwnd = 1200 ∧ (withConfig narrowStart).minCwndBytes = 4800 ∧
      ((withConfig narrowStart).step (.onEcn 1 0)).wMax = 1200 ∧
      ¬ ∀ ops : List Op,
        let cc := ops.foldl step (withConfig narrowStart)
        cc.minCwndBytes ≤ cc.cwnd ∧
          ((∃ before op after, ops = before ++ op :: after ∧
              (before.foldl step (withConfig narrowStart)).sets op = true) →
            cc.minCwndBytes ≤ cc.ssthresh ∧ cc.minCwndBytes ≤ cc.wMax) := by
  refine ⟨rfl, rfl, rfl, fun hall => ?_⟩
  exact absurd (hall []).1 (by decide)

end CubicCongestionController

end Gtp
