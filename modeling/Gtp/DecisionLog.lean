/-
# The decision log (`gtp-route/src/decision_log.rs`)

Every selection becomes a record, and a record one line of text: the prefix, eight fields between
bars, and behind them one field for each candidate, whose six parts stand between colons.  A dash is
an absent value, the connection is hexadecimal, and the numbers of a candidate keep four digits
behind the point.

* No separator is inside a field (`not_mem_parts`, `bar_not_mem_encode`), so a line splits into the
  fields that were joined.
* A candidate is read back, rounded (`parse_encode`), and what is rounded once is written alike
  again (`encode_rounded`).
* So the line is read back to the same record but for these numbers, and the record that comes back
  is written as the same line (`decision_record_replay`).

An `f64` has a sign at zero too, and its text shows it: so the log holds a number as a sign and a
magnitude.  The path set of a record is the list of its candidates' ids, which a line does not
repeat; a replay has the ids in the order of the line.  Lines that no record was written as are not
described here, nor is what is done with a log.
-/
import Gtp.Report

namespace Gtp

namespace Route

open Numerals
open MeasurementReport (stripLead parseU32 parseU64 orDash next field fieldU64 orDash_some
  orDash_field orDash_fieldU64 parseU32_toDigits parseU64_toDigits stripLead_bar next_eq_some)

/-! ## 1. Records -/

/-- `DECISION_LOG_PREFIX`. -/
def decisionLogPrefix : Text := "GTPDL1".toList

/-- `PolicyClass`. -/
inductive PolicyClass where
  | shadow
  | failover
  | degradation
  | optimization
  deriving DecidableEq, Repr

/-- `PolicyClass::code`. -/
def PolicyClass.code : PolicyClass → String
  | shadow => "SHADOW"
  | failover => "FAILOVER"
  | degradation => "DEGRADATION"
  | optimization => "OPTIMIZATION"

/-- `PolicyClass::from_code`. -/
def PolicyClass.fromCode : String → Option PolicyClass
  | "SHADOW" => some shadow
  | "FAILOVER" => some failover
  | "DEGRADATION" => some degradation
  | "OPTIMIZATION" => some optimization
  | _ => none

/-- `SelectionReason::from_code`. -/
def SelectionReason.fromCode : String → Option SelectionReason
  | "NO_CANDIDATES" => some noCandidates
  | "INSUFFICIENT_DATA" => some insufficientData
  | "CONFIDENCE_FLOOR_HOLD" => some confidenceFloorHold
  | "STALE_EVIDENCE_HOLD" => some staleEvidenceHold
  | "SINGLE_CANDIDATE" => some singleCandidate
  | "CLEAR_WINNER" => some clearWinner
  | "TIE_BREAK_LOWER_ID" => some tieBreakLowerId
  | _ => none

theorem PolicyClass.fromCode_code (c : PolicyClass) : fromCode c.code = some c := by
  cases c <;> rfl

theorem SelectionReason.fromCode_code (r : SelectionReason) : fromCode r.code = some r := by
  cases r <;> rfl

/-- A `ScoredCandidate` as the log holds it. -/
structure LoggedCandidate where
  pathId : UInt32
  score : Option Decimal
  confidence : Decimal
  freshness : Decimal
  ageUs : Option UInt64
  effective : Option Decimal
  deriving DecidableEq

/-- `DecisionRecord`. -/
structure DecisionRecord where
  decisionId : UInt64
  connectionId : UInt64
  policyClass : PolicyClass
  pathSet : List UInt32
  measurementWindowUs : Option UInt64
  previousPath : Option UInt32
  selectedPath : Option UInt32
  runnerUp : Option UInt32
  reason : SelectionReason
  candidates : List LoggedCandidate
  deriving DecidableEq

/-- A number of a selection: its sign and its magnitude. -/
def exactDecimal (q : ℚ) : Decimal := .finite (decide (q < 0)) ⟨|q|, abs_nonneg q⟩

/-- A candidate of a selection, as the log takes it. -/
def ScoredCandidate.logged (c : ScoredCandidate) : LoggedCandidate where
  pathId := c.pathId
  score := c.score.map exactDecimal
  confidence := exactDecimal c.confidence
  freshness := exactDecimal c.freshness
  ageUs := c.ageUs.map UInt64.ofNat
  effective := c.effective.map exactDecimal

/-- `DecisionRecord::from_selection`. -/
def DecisionRecord.fromSelection (decisionId connectionId : UInt64) (policyClass : PolicyClass)
    (measurementWindowUs : Option UInt64) (selection : Selection) : DecisionRecord where
  decisionId := decisionId
  connectionId := connectionId
  policyClass := policyClass
  pathSet := selection.scored.map (·.pathId)
  measurementWindowUs := measurementWindowUs
  previousPath := none
  selectedPath := selection.chosen
  runnerUp := selection.runnerUp
  reason := selection.reason
  candidates := selection.scored.map (·.logged)

/-! ## 2. Lines -/

/-- `opt_f`. -/
def optF : Option Decimal → Text
  | some v => fixedDecimal 4 v
  | none => ['-']

namespace LoggedCandidate

/-- The parts of a candidate. -/
def parts (c : LoggedCandidate) : List Text :=
  [Nat.toDigits 10 c.pathId.toNat, optF c.score, fixedDecimal 4 c.confidence,
    fixedDecimal 4 c.freshness, optF c.effective, fieldU64 c.ageUs]

/-- A candidate as `encode` writes it. -/
def encode (c : LoggedCandidate) : Text := [':'].intercalate c.parts

/-- A candidate as `parse` reads it: six parts, and nothing behind them. -/
def parse (cand : Text) : Option LoggedCandidate := do
  let f := cand.splitOn ':'
  let (pathId, f) ← next parseU32 f
  let (score, f) ← next (orDash parseDecimal) f
  let (confidence, f) ← next parseDecimal f
  let (freshness, f) ← next parseDecimal f
  let (effective, f) ← next (orDash parseDecimal) f
  let (ageUs, f) ← next (orDash parseU64) f
  if f.isEmpty then some { pathId, score, confidence, freshness, ageUs, effective } else none

/-- The candidate with its numbers rounded to four places. -/
def rounded (c : LoggedCandidate) : LoggedCandidate :=
  { c with
    score := c.score.map (Decimal.rounded 4)
    confidence := c.confidence.rounded 4
    freshness := c.freshness.rounded 4
    effective := c.effective.map (Decimal.rounded 4) }

end LoggedCandidate

namespace DecisionRecord

/-- The fields in front of the candidates. -/
def leadFields (r : DecisionRecord) : List Text :=
  [Nat.toDigits 10 r.decisionId.toNat, hexDigits r.connectionId.toNat,
    r.policyClass.code.toList, fieldU64 r.measurementWindowUs, field r.previousPath,
    field r.selectedPath, field r.runnerUp, r.reason.code.toList]

/-- `DecisionRecord::encode`. -/
def encode (r : DecisionRecord) : Text :=
  r.candidates.foldl (fun s c => s ++ '|' :: c.encode)
    (['|'].intercalate (decisionLogPrefix :: r.leadFields))

/-- `u64::from_str_radix(s, 16)`. -/
def parseHexU64 (s : Text) : Option UInt64 := (parseHex (2 ^ 64) s).map UInt64.ofNat

/-- `DecisionRecord::parse`. -/
def parse (line : Text) : Option DecisionRecord := do
  let rest ← (stripLead decisionLogPrefix line).bind (stripLead ['|'])
  let parts := rest.splitOn '|'
  let (decisionId, parts) ← next parseU64 parts
  let (connectionId, parts) ← next parseHexU64 parts
  let (policyClass, parts) ← next (fun s => PolicyClass.fromCode (String.ofList s)) parts
  let (measurementWindowUs, parts) ← next (orDash parseU64) parts
  let (previousPath, parts) ← next (orDash parseU32) parts
  let (selectedPath, parts) ← next (orDash parseU32) parts
  let (runnerUp, parts) ← next (orDash parseU32) parts
  let (reason, parts) ← next (fun s => SelectionReason.fromCode (String.ofList s)) parts
  let candidates ← parts.mapM LoggedCandidate.parse
  some { decisionId, connectionId, policyClass, pathSet := candidates.map (·.pathId),
         measurementWindowUs, previousPath, selectedPath, runnerUp, reason, candidates }

/-- The record that a replay of the line gives: the numbers are rounded, and the path set is the one
of the candidates. -/
def replayed (r : DecisionRecord) : DecisionRecord :=
  { r with
    pathSet := r.candidates.map (·.pathId)
    candidates := r.candidates.map (·.rounded) }

end DecisionRecord

/-! ## 3. No separator in a field -/

/-- The two separators of a line. -/
def IsSeparator (c : Char) : Prop := c = '|' ∨ c = ':'

section Separators

variable {c : Char} (hc : IsSeparator c)

include hc

theorem not_mem_digits (n : Nat) : c ∉ Nat.toDigits 10 n := by
  apply not_mem_toDigits
  rcases hc with rfl | rfl <;> decide

theorem not_mem_fieldU64 (v : Option UInt64) : c ∉ fieldU64 v := by
  cases v with
  | none => rcases hc with rfl | rfl <;> decide
  | some v => exact not_mem_digits hc _

theorem not_mem_field (v : Option UInt32) : c ∉ field v := by
  cases v with
  | none => rcases hc with rfl | rfl <;> decide
  | some v => exact not_mem_digits hc _

theorem not_mem_fixedDecimal (v : Decimal) : c ∉ fixedDecimal 4 v := by
  intro hmem
  have h := mem_fixedDecimal hmem
  rcases hc with rfl | rfl <;> exact absurd h (by decide)

theorem not_mem_optF (v : Option Decimal) : c ∉ optF v := by
  cases v with
  | none => rcases hc with rfl | rfl <;> decide
  | some v => exact not_mem_fixedDecimal hc v

theorem not_mem_parts (cand : LoggedCandidate) : ∀ s ∈ cand.parts, c ∉ s := by
  simp only [LoggedCandidate.parts, List.forall_mem_cons, List.not_mem_nil, false_imp_iff,
    implies_true, and_true]
  exact ⟨not_mem_digits hc _, not_mem_optF hc _, not_mem_fixedDecimal hc _,
    not_mem_fixedDecimal hc _, not_mem_optF hc _, not_mem_fieldU64 hc _⟩

end Separators

theorem bar_not_mem_encode (cand : LoggedCandidate) : '|' ∉ cand.encode :=
  not_mem_intercalate (by decide) (not_mem_parts (Or.inl rfl) cand)

theorem bar_not_mem_lead (r : DecisionRecord) : ∀ s ∈ r.leadFields, '|' ∉ s := by
  have hbar : IsSeparator '|' := Or.inl rfl
  simp only [DecisionRecord.leadFields, List.forall_mem_cons, List.not_mem_nil, false_imp_iff,
    implies_true, and_true]
  refine ⟨not_mem_digits hbar _, not_mem_hexDigits (by decide) _, ?_, not_mem_fieldU64 hbar _,
    not_mem_field hbar _, not_mem_field hbar _, not_mem_field hbar _, ?_⟩
  · cases r.policyClass <;> decide
  · cases r.reason <;> decide

/-! ## 4. What is written is read back -/

/-- A part that is read: the parser goes on with its value and the parts behind it. -/
theorem next_bind {α β : Type} {read : Text → Option α} {s : Text} {v : α} (h : read s = some v)
    (parts : List Text) (f : α × List Text → Option β) :
    (next read (s :: parts) >>= f) = f (v, parts) := by
  rw [next_eq_some.mpr ⟨s, rfl, h⟩]
  rfl

theorem optF_rounded (v : Option Decimal) : optF (v.map (Decimal.rounded 4)) = optF v := by
  cases v with
  | none => rfl
  | some v => exact fixedDecimal_rounded 4 v

theorem orDash_optF (v : Option Decimal) :
    orDash parseDecimal (optF v) = some (v.map (Decimal.rounded 4)) := by
  cases v with
  | none => rfl
  | some v => exact orDash_some (fixedDecimal_ne_dash 4 v) (parseDecimal_fixedDecimal 4 v)

namespace LoggedCandidate

/-- **A candidate is read back**, rounded. -/
theorem parse_encode (c : LoggedCandidate) : parse c.encode = some c.rounded := by
  have hsplit : c.encode.splitOn ':' = c.parts :=
    List.splitOn_intercalate ':' (not_mem_parts (Or.inr rfl) c) (List.cons_ne_nil _ _)
  rw [parse, hsplit, parts]
  dsimp only
  rw [next_bind (parseU32_toDigits _), next_bind (orDash_optF _),
    next_bind (parseDecimal_fixedDecimal 4 _), next_bind (parseDecimal_fixedDecimal 4 _),
    next_bind (orDash_optF _), next_bind (orDash_fieldU64 _)]
  rfl

theorem encode_rounded (c : LoggedCandidate) : c.rounded.encode = c.encode := by
  simp only [encode, parts, rounded, optF_rounded, fixedDecimal_rounded]

end LoggedCandidate

namespace DecisionRecord

theorem parseHexU64_hexDigits (v : UInt64) : parseHexU64 (hexDigits v.toNat) = some v := by
  rw [parseHexU64, parseHex_hexDigits v.toNat_lt, Option.map_some, UInt64.ofNat_toNat]

theorem encode_eq (r : DecisionRecord) :
    r.encode = decisionLogPrefix ++ '|' ::
      ['|'].intercalate (r.leadFields ++ r.candidates.map (·.encode)) := by
  rw [encode, foldl_push '|' LoggedCandidate.encode r.candidates (List.cons_ne_nil _ _),
    List.cons_append, List.intercalate_cons_of_ne_nil (by simp [leadFields]), List.append_assoc,
    List.singleton_append]

theorem splitOn_fields (r : DecisionRecord) :
    (['|'].intercalate (r.leadFields ++ r.candidates.map (·.encode))).splitOn '|' =
      r.leadFields ++ r.candidates.map (·.encode) := by
  apply List.splitOn_intercalate
  · rw [List.forall_mem_append, List.forall_mem_map]
    exact ⟨bar_not_mem_lead r, fun c _ => bar_not_mem_encode c⟩
  · simp [leadFields]

theorem mapM_parse (cs : List LoggedCandidate) :
    (cs.map (·.encode)).mapM LoggedCandidate.parse = some (cs.map (·.rounded)) := by
  induction cs with
  | nil => rfl
  | cons c cs ih =>
    rw [List.map_cons, List.mapM_cons, LoggedCandidate.parse_encode, ih]
    rfl

theorem parse_encode_record (r : DecisionRecord) : parse r.encode = some r.replayed := by
  have hstrip : (stripLead decisionLogPrefix r.encode).bind (stripLead ['|']) =
      some (['|'].intercalate (r.leadFields ++ r.candidates.map (·.encode))) :=
    stripLead_bar.mpr r.encode_eq
  have hclass : PolicyClass.fromCode (String.ofList r.policyClass.code.toList) =
      some r.policyClass := by
    rw [String.ofList_toList, PolicyClass.fromCode_code]
  have hreason : SelectionReason.fromCode (String.ofList r.reason.code.toList) = some r.reason := by
    rw [String.ofList_toList, SelectionReason.fromCode_code]
  have hpaths : (r.candidates.map (·.rounded)).map (·.pathId) = r.candidates.map (·.pathId) := by
    rw [List.map_map]
    rfl
  rw [parse, hstrip, Option.bind_eq_bind, Option.bind_some, splitOn_fields, leadFields]
  dsimp only [List.cons_append, List.nil_append]
  rw [next_bind (parseU64_toDigits _), next_bind (parseHexU64_hexDigits _), next_bind hclass,
    next_bind (orDash_fieldU64 _), next_bind (orDash_field _), next_bind (orDash_field _),
    next_bind (orDash_field _), next_bind hreason, mapM_parse, Option.bind_eq_bind,
    Option.bind_some, hpaths]
  rfl

theorem encode_replayed (r : DecisionRecord) : r.replayed.encode = r.encode := by
  have hlead : r.replayed.leadFields = r.leadFields := rfl
  have hcandidates : r.replayed.candidates.map (·.encode) = r.candidates.map (·.encode) := by
    simp only [replayed, List.map_map, Function.comp_def, LoggedCandidate.encode_rounded]
  rw [encode_eq, encode_eq, hlead, hcandidates]

/-- **A decision is replayed from its line.**  For every record the line is read back: every field
in front of the candidates, their ids and their ages as they were, the numbers rounded to four
places; and the record that was read is written as the same line. -/
theorem decision_record_replay (r : DecisionRecord) :
    ∃ r', parse r.encode = some r' ∧ r'.encode = r.encode ∧
      r'.decisionId = r.decisionId ∧ r'.connectionId = r.connectionId ∧
      r'.policyClass = r.policyClass ∧ r'.measurementWindowUs = r.measurementWindowUs ∧
      r'.previousPath = r.previousPath ∧ r'.selectedPath = r.selectedPath ∧
      r'.runnerUp = r.runnerUp ∧ r'.reason = r.reason ∧
      r'.candidates.map (fun c => (c.pathId, c.ageUs)) =
        r.candidates.map (fun c => (c.pathId, c.ageUs)) ∧
      r'.candidates = r.candidates.map (·.rounded) := by
  refine ⟨r.replayed, parse_encode_record r, encode_replayed r, rfl, rfl, rfl, rfl, rfl, rfl, rfl,
    rfl, ?_, rfl⟩
  rw [replayed, List.map_map]
  rfl

example : encode ⟨4, 0xAC92, .shadow, [], some 10000, none, some 7, some 2, .clearWinner,
    [⟨7, some (.finite true 0), .finite false (1 / 3), .finite false 1, none, none⟩]⟩ =
    "GTPDL1|4|AC92|SHADOW|10000|-|7|2|CLEAR_WINNER|7:-0.0000:0.3333:1.0000:-:-".toList := by
  decide +kernel

end DecisionRecord

end Route

end Gtp
