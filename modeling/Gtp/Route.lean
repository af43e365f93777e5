/-
# Route scoring, selection and switching (`gtp-route`)

The crate is pure: candidates in, a decision out.

* `score` weighs the axes that were measured; an axis that was not is left out of the mean, and
  without any there is no score.  `confidence` counts samples, `freshness` the age of the evidence.
* `select` ranks the candidates by score, weighted with both, tests three floors on the first, and
  takes the lower id when the second is within a margin.
* `SwitchController.evaluate` adopts, holds, switches or reverts, by a dwell time and a revert
  window.

Scores are `f64` in the source; the model takes the same expressions over exact rationals, so that a
score is the number the formula denotes.  Rounding may decide otherwise between candidates that are
very close; no score is NaN, since every axis is finite and the weights are positive.  The ranking
is a stable sort, as in the source.

The decision log is an observer (`evaluate` records into it and never reads it back) and is left out
here; it is in `Gtp.DecisionLog`.  So are the texts for dashboards.
-/
import Gtp.Types
import Mathlib.Data.Rat.Defs
import Mathlib.Algebra.Order.Ring.Rat

namespace Gtp

/-! ## 1. Measurements (`lib.rs`) -/

/-- `PathStats`: one candidate path; a missing axis is unknown. -/
structure PathStats where
  pathId : UInt32
  fwdOwdVarUs : Option UInt32
  fwdJitterUs : Option UInt32
  revOwdVarUs : Option UInt32
  revJitterUs : Option UInt32
  rttUs : Option UInt32
  sampleCount : UInt32
  fwdAgeUs : Option Nat
  revAgeUs : Option Nat
  lossRate : Option ℚ
  deriving DecidableEq, Repr

namespace PathStats

/-- `PathStats::default()`. -/
def default : PathStats := ⟨0, none, none, none, none, none, 0, none, none, none⟩

/-- `PathStats::path_age`: the staler direction governs. -/
def pathAge (s : PathStats) : Option Nat :=
  match s.fwdAgeUs, s.revAgeUs with
  | some f, some r => some (max f r)
  | some f, none => some f
  | none, some r => some r
  | none, none => none

end PathStats

/-! ## 2. Scoring (`score.rs`) -/

namespace Route

def owdVarSaturationUs : UInt32 := 50000
def jitterSaturationUs : UInt32 := 20000
def rttSaturationUs : UInt32 := 300000
def varAxisWeight : ℚ := 6 / 10
def pathWeightFwd : ℚ := 30 / 100
def pathWeightRev : ℚ := 30 / 100
def pathWeightRtt : ℚ := 25 / 100
def lossSaturation : ℚ := 5 / 100
def lossAxisWeight : ℚ := 15 / 100
def confidenceFullSamples : ℚ := 30
def confidenceFloor : ℚ := 1 / 2
def freshnessGraceUs : Nat := 1000000
def freshnessSaturationUs : Nat := 5000000

/-- `normalize_lower_better`. -/
def normalizeLowerBetter (value saturation : UInt32) : ℚ :=
  if saturation = 0 then 0 else 1 - min ((value.toNat : ℚ) / saturation.toNat) 1

/-- `direction_score`. -/
def directionScore : Option UInt32 → Option UInt32 → Option ℚ
  | some v, some j =>
    some (varAxisWeight * normalizeLowerBetter v owdVarSaturationUs +
      (1 - varAxisWeight) * normalizeLowerBetter j jitterSaturationUs)
  | some v, none => some (normalizeLowerBetter v owdVarSaturationUs)
  | none, some j => some (normalizeLowerBetter j jitterSaturationUs)
  | none, none => none

/-- One axis of `score`: its weight and its weighted value, added when the axis is present. -/
def addAxis (w : ℚ) (axis : Option ℚ) (sums : ℚ × ℚ) : ℚ × ℚ :=
  match axis with
  | some s => (sums.1 + w, sums.2 + w * s)
  | none => sums

/-- `score`: the weighted mean of the axes that are present. -/
def score (stats : PathStats) : Option ℚ :=
  let fwd := directionScore stats.fwdOwdVarUs stats.fwdJitterUs
  let rev := directionScore stats.revOwdVarUs stats.revJitterUs
  let rtt := stats.rttUs.map fun r => normalizeLowerBetter r rttSaturationUs
  let loss := stats.lossRate.map fun lr => 1 - min (lr / lossSaturation) 1
  let (weightSum, acc) :=
    addAxis lossAxisWeight loss <|
    addAxis (pathWeightRtt * (1 - lossAxisWeight)) rtt <|
    addAxis (pathWeightRev * (1 - lossAxisWeight)) rev <|
    addAxis (pathWeightFwd * (1 - lossAxisWeight)) fwd (0, 0)
  if weightSum = 0 then none else some (acc / weightSum)

/-- `confidence`. -/
def confidence (sampleCount : UInt32) : ℚ := min (sampleCount.toNat / confidenceFullSamples) 1

/-- `freshness`: an unknown age is neutral. -/
def freshness (ageUs : Option Nat) : ℚ :=
  match ageUs with
  | none => 1
  | some age =>
    if age ≤ freshnessGraceUs then 1
    else
      let span : ℚ := freshnessSaturationUs - freshnessGraceUs
      max (((freshnessSaturationUs : ℚ) - age) / span) 0

/-! ## 3. Selection (`select.rs`) -/

def clearWinnerMargin : ℚ := 5 / 100

/-- `f64::MIN`, the key of a candidate without a score. -/
def f64Min : ℚ := -(2 ^ 1024 - 2 ^ 971)

/-- `SelectionReason`. -/
inductive SelectionReason where
  | noCandidates
  | insufficientData
  | confidenceFloorHold
  | staleEvidenceHold
  | singleCandidate
  | clearWinner
  | tieBreakLowerId
  deriving DecidableEq, Repr

/-- `SelectionReason::code`. -/
def SelectionReason.code : SelectionReason → String
  | noCandidates => "NO_CANDIDATES"
  | insufficientData => "INSUFFICIENT_DATA"
  | confidenceFloorHold => "CONFIDENCE_FLOOR_HOLD"
  | staleEvidenceHold => "STALE_EVIDENCE_HOLD"
  | singleCandidate => "SINGLE_CANDIDATE"
  | clearWinner => "CLEAR_WINNER"
  | tieBreakLowerId => "TIE_BREAK_LOWER_ID"

/-- `ScoredCandidate`. -/
structure ScoredCandidate where
  pathId : UInt32
  score : Option ℚ
  confidence : ℚ
  freshness : ℚ
  ageUs : Option Nat
  effective : Option ℚ
  deriving DecidableEq, Repr

/-- `Selection`. -/
structure Selection where
  chosen : Option UInt32
  reason : SelectionReason
  runnerUp : Option UInt32
  scored : List ScoredCandidate
  deriving DecidableEq, Repr

/-- The scored record of one candidate. -/
def scoreCandidate (c : PathStats) : ScoredCandidate :=
  let s := score c
  let conf := confidence c.sampleCount
  let age := c.pathAge
  let fresh := freshness age
  { pathId := c.pathId
    score := s
    confidence := conf
    freshness := fresh
    ageUs := age
    effective := s.map fun v => v * conf * fresh }

/-- The order of `rank`: the larger effective score first, then the larger confidence, then the
smaller id. -/
def ScoredCandidate.before (a b : ScoredCandidate) : Bool :=
  let ea := a.effective.getD f64Min
  let eb := b.effective.getD f64Min
  if ea ≠ eb then decide (eb < ea)
  else if a.confidence ≠ b.confidence then decide (b.confidence < a.confidence)
  else decide (a.pathId ≤ b.pathId)

/-- `rank`. -/
def rank (candidates : List PathStats) : List ScoredCandidate :=
  (candidates.map scoreCandidate).mergeSort ScoredCandidate.before

/-- `select`. -/
def select (candidates : List PathStats) : Selection :=
  let scored := rank candidates
  match scored with
  | [] => ⟨none, .noCandidates, none, scored⟩
  | best :: _ =>
    if best.score.isNone then ⟨none, .insufficientData, none, scored⟩
    else if best.confidence < confidenceFloor then ⟨none, .confidenceFloorHold, none, scored⟩
    else if best.ageUs.isSome ∧ best.freshness < confidenceFloor then
      ⟨none, .staleEvidenceHold, none, scored⟩
    else
      match scored.filter fun s => s.score.isSome with
      | _ :: runner :: _ =>
        let bestEff := best.effective.getD 0
        let runnerEff := runner.effective.getD 0
        let margin := if 0 < bestEff then (bestEff - runnerEff) / bestEff else 0
        if clearWinnerMargin ≤ margin then
          ⟨some best.pathId, .clearWinner, some runner.pathId, scored⟩
        else
          ⟨some (min best.pathId runner.pathId), .tieBreakLowerId, some runner.pathId, scored⟩
      | _ => ⟨some best.pathId, .singleCandidate, none, scored⟩

end Route

/-! ## 4. Switching (`switch.rs`) -/

/-- `SwitchPolicy`. -/
inductive SwitchPolicy where
  | shadow
  | enforce
  deriving DecidableEq, Repr

/-- `SwitchDecision`. -/
inductive SwitchDecision where
  | hold (current : UInt32) (reason : Route.SelectionReason)
  | switch (fromPath toPath : UInt32) (reason : Route.SelectionReason)
  | revert (fromPath toPath : UInt32)
  deriving DecidableEq, Repr

/-- `SwitchController`. -/
structure SwitchController where
  policy : SwitchPolicy
  minDwell : Duration
  revertWindow : Duration
  selected : Option UInt32
  previous : Option UInt32
  lastSwitchTime : MonotonicTime
  decisionCount : Nat
  deriving DecidableEq, Repr

namespace SwitchController

/-- `SwitchController::new`. -/
def new (policy : SwitchPolicy) : SwitchController :=
  { policy
    minDwell := Duration.fromMillis 200
    revertWindow := Duration.fromMillis 500
    selected := none
    previous := none
    lastSwitchTime := 0
    decisionCount := 0 }

/-- The controller after it moved from `current` to `winner`. -/
def move (c : SwitchController) (current winner : UInt32) (now : MonotonicTime) :
    SwitchController :=
  { c with previous := some current, selected := some winner, lastSwitchTime := now }

/-- `SwitchController::evaluate`. -/
def evaluate (c : SwitchController) (candidates : List PathStats) (now : MonotonicTime) :
    SwitchDecision × SwitchController :=
  let c := { c with decisionCount := c.decisionCount + 1 }
  let selection := Route.select candidates
  match selection.chosen with
  | none => (.hold (c.selected.getD 0) selection.reason, c)
  | some winner =>
    match c.selected with
    | none =>
      (.hold winner selection.reason, { c with selected := some winner, lastSwitchTime := now })
    | some current =>
      if winner = current then (.hold current selection.reason, c)
      -- the revert test comes before the dwell floor: it undoes a recent switch
      else if c.previous = some winner ∧ now - c.lastSwitchTime < c.revertWindow then
        (.revert current winner, c.move current winner now)
      else if now - c.lastSwitchTime < c.minDwell then (.hold current .tieBreakLowerId, c)
      else if c.policy = .enforce then
        (.switch current winner selection.reason, c.move current winner now)
      else (.hold current .clearWinner, c)

end SwitchController

end Gtp
