/-
# Measurement reports (`gtp-route/src/report.rs`)

One endpoint tells the other what its receiver measured, as a line of text: a prefix with the
version, and the fields between bars, `-` for one that is absent.  Numbers are read as the standard
library reads them; the loss rate is an `f64`, taken exactly here.

* A line is read only as a whole (`parse_isSome_iff`): one wrong field, or one too many, and nothing
  of it is used.
* What is written is read back, but for the loss rate: it is formatted with six digits behind the
  point, and then once more as a string, where the same precision keeps six characters.  Two of the
  digits are lost (`parse_encode_rate`, `report_round_trip_iff`).
* A rate that is read may be negative.  The loss axis of the score is capped on the other side only,
  so such a report is worth more than a perfect one (`score_unit_iff`).

The round trip is stated for rates that are absent or a number of millionths, which is what a report
carries when the rate was rounded before; another rate is rounded on the way, and comes back changed
in any case.  An infinite or undefined rate can be read; it has no exact value, so the statistics of
such a line are left out of the statement about scores.
-/
import Gtp.Selection
import Gtp.Lib.Numerals

namespace Gtp

open Numerals

/-! ## 1. The report -/

/-- `REPORT_PREFIX`. -/
def reportPrefix : Text := "GTPRP2".toList

/-- `REPORT_PREFIX_V3`. -/
def reportPrefixV3 : Text := "GTPRP3".toList

/-- `REPORT_PREFIX_V1`. -/
def reportPrefixV1 : Text := "GTPRP1".toList

/-- `MeasurementReport`. -/
structure MeasurementReport where
  owdVarUs : Option UInt32
  jitterUs : Option UInt32
  srttUs : Option UInt32
  samples : UInt32
  sinceLastRxUs : Option UInt64
  lossRate : Option F64
  deriving DecidableEq, Repr

namespace MeasurementReport

/-- A number, or a dash. -/
def numberField : Option Nat → Text
  | some v => Nat.toDigits 10 v
  | none => ['-']

/-- `field`. -/
def field (v : Option UInt32) : Text := numberField (v.map UInt32.toNat)

/-- `field_u64`. -/
def fieldU64 (v : Option UInt64) : Text := numberField (v.map UInt64.toNat)

/-- `MeasurementReport::encode`.  The rate is formatted with a precision of six twice: as a number,
and the text of it as a text, of which six characters are kept. -/
def encode (r : MeasurementReport) : Text :=
  match r.lossRate with
  | some l =>
    ['|'].intercalate [reportPrefixV3, field r.owdVarUs, field r.jitterUs, field r.srttUs,
      Nat.toDigits 10 r.samples.toNat, fieldU64 r.sinceLastRxUs, (fixedF64 6 l).take 6]
  | none =>
    ['|'].intercalate [reportPrefix, field r.owdVarUs, field r.jitterUs, field r.srttUs,
      Nat.toDigits 10 r.samples.toNat, fieldU64 r.sinceLastRxUs]

def stripLead (lead s : Text) : Option Text :=
  if lead.isPrefixOf s then some (s.drop lead.length) else none

/-- The version of a line, and what is behind its prefix and the first bar. -/
def stripVersion (line : Text) : Option (Nat × Text) :=
  match (stripLead reportPrefixV3 line).bind (stripLead ['|']) with
  | some rest => some (3, rest)
  | none =>
    match (stripLead reportPrefix line).bind (stripLead ['|']) with
    | some rest => some (2, rest)
    | none =>
      match (stripLead reportPrefixV1 line).bind (stripLead ['|']) with
      | some rest => some (1, rest)
      | none => none

/-- `s.parse::<u32>()`. -/
def parseU32 (s : Text) : Option UInt32 := (parseUnsigned (2 ^ 32) s).map UInt32.ofNat

/-- `s.parse::<u64>()`. -/
def parseU64 (s : Text) : Option UInt64 := (parseUnsigned (2 ^ 64) s).map UInt64.ofNat

/-- A dash is an absent field; anything else has to be a number. -/
def orDash {α : Type} (read : Text → Option α) (s : Text) : Option (Option α) :=
  if s = ['-'] then some none else (read s).map some

/-- The next of the parts, read. -/
def next {α : Type} (read : Text → Option α) : List Text → Option (α × List Text)
  | [] => none
  | s :: parts => (read s).map fun v => (v, parts)

/-- The fields that the later versions added, and nothing behind them. -/
def parseTail (version : Nat) (isV3 : Bool) (parts : List Text) :
    Option (Option UInt64 × Option F64) := do
  let (sinceLastRxUs, parts) ←
    if 2 ≤ version then next (orDash parseU64) parts else some (none, parts)
  let (lossRate, parts) ← if isV3 then next (orDash parseF64) parts else some (none, parts)
  -- trailing fields: not our format
  if parts.isEmpty then some (sinceLastRxUs, lossRate) else none

/-- The fields of a line. -/
def parseParts (version : Nat) (isV3 : Bool) (parts : List Text) : Option MeasurementReport := do
  let (owdVarUs, parts) ← next (orDash parseU32) parts
  let (jitterUs, parts) ← next (orDash parseU32) parts
  let (srttUs, parts) ← next (orDash parseU32) parts
  let (samples, parts) ← next parseU32 parts
  let (sinceLastRxUs, lossRate) ← parseTail version isV3 parts
  some { owdVarUs, jitterUs, srttUs, samples, sinceLastRxUs, lossRate }

/-- `MeasurementReport::parse`. -/
def parse (line : Text) : Option MeasurementReport := do
  let (version, rest) ← stripVersion line
  parseParts version (reportPrefixV3.isPrefixOf line) (rest.splitOn '|')

/-- The rate of a report as path statistics hold it: exact, or absent.  An infinite or undefined
rate has no exact value. -/
def exactRate : Option F64 → Option (Option ℚ)
  | none => some none
  | some (.finite q) => some (some q)
  | some _ => none

/-- `MeasurementReport::into_path_stats`, for a rate that has an exact value. -/
def intoPathStats (r : MeasurementReport) (pathId : UInt32) (rev : PathStats) :
    Option PathStats :=
  (exactRate r.lossRate).map fun lossRate =>
    { pathId
      fwdOwdVarUs := r.owdVarUs
      fwdJitterUs := r.jitterUs
      revOwdVarUs := rev.revOwdVarUs
      revJitterUs := rev.revJitterUs
      rttUs := rev.rttUs.or r.srttUs
      sampleCount := min r.samples (max rev.sampleCount 1)
      fwdAgeUs := r.sinceLastRxUs.map UInt64.toNat
      revAgeUs := rev.revAgeUs
      lossRate }

/-! ## 2. Lines that are read -/

theorem next_eq_some {α : Type} {read : Text → Option α} {parts rest : List Text} {v : α} :
    next read parts = some (v, rest) ↔ ∃ s, parts = s :: rest ∧ read s = some v := by
  cases parts with
  | nil => simp [next]
  | cons s parts =>
    simp only [next, Option.map_eq_some_iff, Prod.mk.injEq, List.cons.injEq]
    constructor
    · rintro ⟨w, hw, rfl, rfl⟩
      exact ⟨s, ⟨rfl, rfl⟩, hw⟩
    · rintro ⟨s', ⟨rfl, rfl⟩, hs⟩
      exact ⟨v, hs, rfl, rfl⟩

/-- **A line is read part by part.** -/
theorem parseParts_eq_some {version : Nat} {isV3 : Bool} {parts : List Text}
    {r : MeasurementReport} :
    parseParts version isV3 parts = some r ↔
      ∃ s1 s2 s3 s4 tail, parts = s1 :: s2 :: s3 :: s4 :: tail ∧
        orDash parseU32 s1 = some r.owdVarUs ∧ orDash parseU32 s2 = some r.jitterUs ∧
        orDash parseU32 s3 = some r.srttUs ∧ parseU32 s4 = some r.samples ∧
        parseTail version isV3 tail = some (r.sinceLastRxUs, r.lossRate) := by
  constructor
  · intro h
    obtain ⟨⟨v1, parts1⟩, h1, hrest1⟩ := Option.bind_eq_some_iff.mp h
    obtain ⟨⟨v2, parts2⟩, h2, hrest2⟩ := Option.bind_eq_some_iff.mp hrest1
    obtain ⟨⟨v3, parts3⟩, h3, hrest3⟩ := Option.bind_eq_some_iff.mp hrest2
    obtain ⟨⟨v4, parts4⟩, h4, hrest4⟩ := Option.bind_eq_some_iff.mp hrest3
    obtain ⟨⟨v5, v6⟩, htail, hr⟩ := Option.bind_eq_some_iff.mp hrest4
    obtain ⟨s1, rfl, hs1⟩ := next_eq_some.mp h1
    obtain ⟨s2, rfl, hs2⟩ := next_eq_some.mp h2
    obtain ⟨s3, rfl, hs3⟩ := next_eq_some.mp h3
    obtain ⟨s4, rfl, hs4⟩ := next_eq_some.mp h4
    obtain rfl := Option.some.inj hr
    exact ⟨s1, s2, s3, s4, parts4, rfl, hs1, hs2, hs3, hs4, htail⟩
  · rintro ⟨s1, s2, s3, s4, tail, rfl, h1, h2, h3, h4, htail⟩
    simp [parseParts, next, h1, h2, h3, h4, htail]

theorem parseTail_v1 {parts : List Text} {v : Option UInt64 × Option F64} :
    parseTail 1 false parts = some v ↔ parts = [] ∧ v = (none, none) := by
  cases parts with
  | nil =>
    change some (none, none) = some v ↔ _
    rw [Option.some_inj, eq_comm]
    exact (and_iff_right rfl).symm
  | cons s parts => simp [parseTail]

theorem parseTail_v2 {parts : List Text} {v : Option UInt64 × Option F64} :
    parseTail 2 false parts = some v ↔
      ∃ s5, parts = [s5] ∧ orDash parseU64 s5 = some v.1 ∧ v.2 = none := by
  constructor
  · intro h
    obtain ⟨⟨v5, parts5⟩, h5, hrest⟩ := Option.bind_eq_some_iff.mp h
    obtain ⟨s5, rfl, hs5⟩ := next_eq_some.mp h5
    cases parts5 with
    | nil =>
      obtain rfl := Option.some.inj hrest
      exact ⟨s5, rfl, hs5, rfl⟩
    | cons s parts => cases hrest
  · obtain ⟨v5, v6⟩ := v
    rintro ⟨s5, rfl, h5, rfl⟩
    simp [parseTail, next, h5]

theorem parseTail_v3 {parts : List Text} {v : Option UInt64 × Option F64} :
    parseTail 3 true parts = some v ↔
      ∃ s5 s6, parts = [s5, s6] ∧ orDash parseU64 s5 = some v.1 ∧
        orDash parseF64 s6 = some v.2 := by
  constructor
  · intro h
    obtain ⟨⟨v5, parts5⟩, h5, hrest⟩ := Option.bind_eq_some_iff.mp h
    obtain ⟨⟨v6, parts6⟩, h6, hend⟩ := Option.bind_eq_some_iff.mp hrest
    obtain ⟨s5, rfl, hs5⟩ := next_eq_some.mp h5
    obtain ⟨s6, rfl, hs6⟩ := next_eq_some.mp h6
    cases parts6 with
    | nil =>
      obtain rfl := Option.some.inj hend
      exact ⟨s5, s6, rfl, hs5, hs6⟩
    | cons s parts => cases hend
  · obtain ⟨v5, v6⟩ := v
    rintro ⟨s5, s6, rfl, h5, h6⟩
    simp [parseTail, next, h5, h6]

theorem stripLead_eq_some {lead s rest : Text} :
    stripLead lead s = some rest ↔ s = lead ++ rest := by
  unfold stripLead
  constructor
  · intro h
    split at h
    · rename_i hlead
      obtain ⟨tail, rfl⟩ := List.isPrefixOf_iff_prefix.mp hlead
      rw [List.drop_left] at h
      rw [Option.some.inj h]
    · cases h
  · rintro rfl
    rw [if_pos (List.isPrefixOf_iff_prefix.mpr ⟨rest, rfl⟩), List.drop_left]

theorem stripLead_bar {lead line rest : Text} :
    (stripLead lead line).bind (stripLead ['|']) = some rest ↔ line = lead ++ '|' :: rest := by
  rw [Option.bind_eq_some_iff]
  constructor
  · rintro ⟨tail, htail, hrest⟩
    rw [stripLead_eq_some.mp htail, stripLead_eq_some.mp hrest]
    rfl
  · rintro rfl
    exact ⟨'|' :: rest, stripLead_eq_some.mpr rfl, stripLead_eq_some.mpr rfl⟩

/-- **The three versions.** -/
theorem parse_eq_some {line : Text} {r : MeasurementReport} : parse line = some r ↔
    ∃ rest, (line = reportPrefixV3 ++ '|' :: rest ∧
        parseParts 3 true (rest.splitOn '|') = some r) ∨
      (line = reportPrefix ++ '|' :: rest ∧ parseParts 2 false (rest.splitOn '|') = some r) ∨
      (line = reportPrefixV1 ++ '|' :: rest ∧
        parseParts 1 false (rest.splitOn '|') = some r) := by
  constructor
  · intro h
    obtain ⟨⟨version, rest⟩, hversion, hparts⟩ := Option.bind_eq_some_iff.mp h
    refine ⟨rest, ?_⟩
    unfold stripVersion at hversion
    split at hversion
    · rename_i rest' hlead
      cases hversion
      obtain rfl := stripLead_bar.mp hlead
      exact Or.inl ⟨rfl, hparts⟩
    · split at hversion
      · rename_i rest' hlead
        cases hversion
        obtain rfl := stripLead_bar.mp hlead
        exact Or.inr (Or.inl ⟨rfl, hparts⟩)
      · split at hversion
        · rename_i rest' hlead
          cases hversion
          obtain rfl := stripLead_bar.mp hlead
          exact Or.inr (Or.inr ⟨rfl, hparts⟩)
        · cases hversion
  · rintro ⟨rest, ⟨rfl, hparts⟩ | ⟨rfl, hparts⟩ | ⟨rfl, hparts⟩⟩
    · exact hparts
    · exact hparts
    · exact hparts

/-! ## 3. Lines that are rejected -/

/-- What a field of a line has to be. -/
inductive Kind where
  | measure
  | count
  | age
  | rate
  deriving DecidableEq, Repr

/-- The field is a number of its kind, or a dash where it may be absent. -/
def Kind.Accepts : Kind → Text → Prop
  | .measure, s => s = ['-'] ∨ (parseU32 s).isSome
  | .count, s => (parseU32 s).isSome
  | .age, s => s = ['-'] ∨ (parseU64 s).isSome
  | .rate, s => s = ['-'] ∨ (parseF64 s).isSome

/-- The prefixes of the versions, and the fields behind them. -/
def formats : List (Text × List Kind) :=
  [(reportPrefixV3, [.measure, .measure, .measure, .count, .age, .rate]),
    (reportPrefix, [.measure, .measure, .measure, .count, .age]),
    (reportPrefixV1, [.measure, .measure, .measure, .count])]

/-- A known prefix, the right number of fields between bars, and each of them well formed. -/
def WellFormed (line : Text) : Prop :=
  ∃ format ∈ formats, ∃ fields : List Text, line = ['|'].intercalate (format.1 :: fields) ∧
    (∀ s ∈ fields, '|' ∉ s) ∧ List.Forall₂ Kind.Accepts format.2 fields

theorem orDash_isSome {α : Type} (read : Text → Option α) (s : Text) :
    (∃ v, orDash read s = some v) ↔ s = ['-'] ∨ (read s).isSome := by
  unfold orDash
  split
  · rename_i hdash
    simp [hdash]
  · rename_i hdash
    rw [or_iff_right hdash]
    cases read s <;> simp

/-- A tail and its kinds give a line and its kinds: the first four fields are the same in every
version. -/
theorem parseParts_accepts {version : Nat} {isV3 : Bool} {kinds : List Kind}
    (htail : ∀ tail, (∃ v, parseTail version isV3 tail = some v) ↔
      List.Forall₂ Kind.Accepts kinds tail) (parts : List Text) :
    (∃ r, parseParts version isV3 parts = some r) ↔
      List.Forall₂ Kind.Accepts (.measure :: .measure :: .measure :: .count :: kinds) parts := by
  have hmeasure : ∀ s, (∃ v, orDash parseU32 s = some v) ↔ Kind.measure.Accepts s :=
    orDash_isSome parseU32
  have hcount : ∀ s, (∃ v, parseU32 s = some v) ↔ Kind.count.Accepts s :=
    fun s => Option.isSome_iff_exists.symm
  constructor
  · rintro ⟨r, hr⟩
    obtain ⟨s1, s2, s3, s4, tail, rfl, h1, h2, h3, h4, hrest⟩ := parseParts_eq_some.mp hr
    exact .cons ((hmeasure s1).mp ⟨_, h1⟩) (.cons ((hmeasure s2).mp ⟨_, h2⟩)
      (.cons ((hmeasure s3).mp ⟨_, h3⟩) (.cons ((hcount s4).mp ⟨_, h4⟩)
        ((htail tail).mp ⟨_, hrest⟩))))
  · intro h
    cases h with
    | cons h1 h =>
    cases h with
    | cons h2 h =>
    cases h with
    | cons h3 h =>
    cases h with
    | cons h4 h =>
    obtain ⟨v1, hv1⟩ := (hmeasure _).mpr h1
    obtain ⟨v2, hv2⟩ := (hmeasure _).mpr h2
    obtain ⟨v3, hv3⟩ := (hmeasure _).mpr h3
    obtain ⟨v4, hv4⟩ := (hcount _).mpr h4
    obtain ⟨⟨v5, v6⟩, hrest⟩ := (htail _).mpr h
    exact ⟨⟨v1, v2, v3, v4, v5, v6⟩,
      parseParts_eq_some.mpr ⟨_, _, _, _, _, rfl, hv1, hv2, hv3, hv4, hrest⟩⟩

theorem tail_accepts_v1 (tail : List Text) :
    (∃ v, parseTail 1 false tail = some v) ↔ List.Forall₂ Kind.Accepts [] tail := by
  simp [parseTail_v1]

theorem tail_accepts_v2 (tail : List Text) :
    (∃ v, parseTail 2 false tail = some v) ↔ List.Forall₂ Kind.Accepts [.age] tail := by
  constructor
  · rintro ⟨v, hv⟩
    obtain ⟨s5, rfl, h5, -⟩ := parseTail_v2.mp hv
    exact .cons ((orDash_isSome parseU64 s5).mp ⟨_, h5⟩) .nil
  · intro h
    cases h with
    | cons h5 h =>
    cases h with
    | nil =>
    obtain ⟨v5, hv5⟩ := (orDash_isSome parseU64 _).mpr h5
    exact ⟨(v5, none), parseTail_v2.mpr ⟨_, rfl, hv5, rfl⟩⟩

theorem tail_accepts_v3 (tail : List Text) :
    (∃ v, parseTail 3 true tail = some v) ↔ List.Forall₂ Kind.Accepts [.age, .rate] tail := by
  constructor
  · rintro ⟨v, hv⟩
    obtain ⟨s5, s6, rfl, h5, h6⟩ := parseTail_v3.mp hv
    exact .cons ((orDash_isSome parseU64 s5).mp ⟨_, h5⟩)
      (.cons ((orDash_isSome parseF64 s6).mp ⟨_, h6⟩) .nil)
  · intro h
    cases h with
    | cons h5 h =>
    cases h with
    | cons h6 h =>
    cases h with
    | nil =>
    obtain ⟨v5, hv5⟩ := (orDash_isSome parseU64 _).mpr h5
    obtain ⟨v6, hv6⟩ := (orDash_isSome parseF64 _).mpr h6
    exact ⟨(v5, v6), parseTail_v3.mpr ⟨_, _, rfl, hv5, hv6⟩⟩

/-- **A line is read as a whole.**  It is read exactly when its prefix is known, the number of its
fields is the one of its version, and every field is a number of its kind or a dash where one is
allowed. -/
theorem parse_isSome_iff (line : Text) : (parse line).isSome ↔ WellFormed line := by
  have hparts : (parse line).isSome ↔
      (∃ rest, line = reportPrefixV3 ++ '|' :: rest ∧
        ∃ r, parseParts 3 true (rest.splitOn '|') = some r) ∨
      (∃ rest, line = reportPrefix ++ '|' :: rest ∧
        ∃ r, parseParts 2 false (rest.splitOn '|') = some r) ∨
      (∃ rest, line = reportPrefixV1 ++ '|' :: rest ∧
        ∃ r, parseParts 1 false (rest.splitOn '|') = some r) := by
    rw [Option.isSome_iff_exists]
    constructor
    · rintro ⟨r, hr⟩
      obtain ⟨rest, ⟨hline, h⟩ | ⟨hline, h⟩ | ⟨hline, h⟩⟩ := parse_eq_some.mp hr
      · exact Or.inl ⟨rest, hline, r, h⟩
      · exact Or.inr (Or.inl ⟨rest, hline, r, h⟩)
      · exact Or.inr (Or.inr ⟨rest, hline, r, h⟩)
    · rintro (⟨rest, hline, r, h⟩ | ⟨rest, hline, r, h⟩ | ⟨rest, hline, r, h⟩)
      · exact ⟨r, parse_eq_some.mpr ⟨rest, Or.inl ⟨hline, h⟩⟩⟩
      · exact ⟨r, parse_eq_some.mpr ⟨rest, Or.inr (Or.inl ⟨hline, h⟩)⟩⟩
      · exact ⟨r, parse_eq_some.mpr ⟨rest, Or.inr (Or.inr ⟨hline, h⟩)⟩⟩
  have hnil : ∀ {kind : Kind} {kinds : List Kind},
      ¬ List.Forall₂ Kind.Accepts (kind :: kinds) [] := fun h => by cases h
  simp only [hparts, parseParts_accepts tail_accepts_v3, parseParts_accepts tail_accepts_v2,
    parseParts_accepts tail_accepts_v1, ← exists_fields_iff hnil]
  unfold WellFormed formats
  simp only [List.mem_cons, List.not_mem_nil, or_false, exists_eq_or_imp, exists_eq_left]

/-! ## 4. What is written is read back -/

theorem bar_not_mem_numberField (v : Option Nat) : '|' ∉ numberField v := by
  cases v with
  | none => decide
  | some v => exact not_mem_toDigits (by decide) v

theorem toDigits_ne_dash (n : Nat) : Nat.toDigits 10 n ≠ ['-'] := toDigits_ne_cons (by decide) n []

theorem parseU32_toDigits (v : UInt32) : parseU32 (Nat.toDigits 10 v.toNat) = some v := by
  rw [parseU32, parseUnsigned_toDigits v.toNat_lt, Option.map_some, UInt32.ofNat_toNat]

theorem parseU64_toDigits (v : UInt64) : parseU64 (Nat.toDigits 10 v.toNat) = some v := by
  rw [parseU64, parseUnsigned_toDigits v.toNat_lt, Option.map_some, UInt64.ofNat_toNat]

/-- What is written for a number is read, unless it is a dash. -/
theorem orDash_some {α : Type} {read : Text → Option α} {s : Text} {v : α} (hs : s ≠ ['-'])
    (h : read s = some v) : orDash read s = some (some v) := by
  rw [orDash, if_neg hs, h, Option.map_some]

theorem orDash_field (v : Option UInt32) : orDash parseU32 (field v) = some v := by
  cases v with
  | none => rfl
  | some v => exact orDash_some (toDigits_ne_dash _) (parseU32_toDigits v)

theorem orDash_fieldU64 (v : Option UInt64) : orDash parseU64 (fieldU64 v) = some v := by
  cases v with
  | none => rfl
  | some v => exact orDash_some (toDigits_ne_dash _) (parseU64_toDigits v)

/-- What is left of a rate of `k` millionths: the digit before the point and four behind it. -/
def rateText (k : Nat) : Text := [(k / 10 ^ 6).digitChar] ++ '.' :: padded 4 (k / 10 ^ 2)

section Rate

variable {k : Nat} (hk : k ≤ 10 ^ 6)

include hk

theorem toDigits_rate : Nat.toDigits 10 (k / 10 ^ 6) = [(k / 10 ^ 6).digitChar] :=
  Nat.toDigits_of_lt_base (by omega)

theorem take_rate : (fixedF64 6 (.finite ((k : ℚ) / 10 ^ 6))).take 6 = rateText k := by
  rw [fixedF64, fixed_div, toDigits_rate hk, rateText, ← take_padded 4 2 k]
  rfl

theorem parseF64_rate :
    parseF64 (rateText k) = some (.finite (((k / 10 ^ 2 : Nat) : ℚ) / 10 ^ 4)) := by
  have hlt : k / 10 ^ 6 < 10 := by omega
  have hdigit : ((k / 10 ^ 6).digitChar).isDigit = true := by
    rw [Nat.isDigit_digitChar]
    exact decide_eq_true hlt
  have hvalue : Nat.ofDigitChars 10 ([(k / 10 ^ 6).digitChar] ++ padded 4 (k / 10 ^ 2)) 0 =
      k / 10 ^ 2 := by
    rw [Nat.ofDigitChars_append, Nat.ofDigitChars_cons_digitChar_of_lt_ten hlt,
      Nat.ofDigitChars_nil, Nat.ofDigitChars_eq_ofDigitChars_zero, ofDigitChars_padded,
      length_padded]
    omega
  have hnumber : parseNumber (rateText k) = some (((k / 10 ^ 2 : Nat) : ℚ) / 10 ^ 4) := by
    have hint : [(k / 10 ^ 6).digitChar].all Char.isDigit = true := by
      rw [List.all_cons, hdigit]
      rfl
    rw [rateText, parseNumber_fixed hint (List.cons_ne_nil _ _) (all_padded _ _), hvalue,
      length_padded]
  have hsigned : parseF64 (rateText k) = parseSigned false (rateText k) := by
    -- a digit is no sign
    unfold parseF64
    split
    · rename_i heq
      rw [(List.cons.inj heq).1] at hdigit
      cases hdigit
    · rename_i heq
      rw [(List.cons.inj heq).1] at hdigit
      cases hdigit
    · rfl
  rw [hsigned, parseSigned, hnumber]
  rfl

theorem bar_not_mem_rate : '|' ∉ rateText k := by
  rw [rateText, ← toDigits_rate hk, List.mem_append, List.mem_cons, not_or, not_or]
  refine ⟨not_mem_toDigits (by decide) _, by decide, fun hmem => ?_⟩
  exact absurd (List.all_eq_true.mp (all_padded _ _) _ hmem) (by decide)

end Rate

/-- The fields that both versions write. -/
def leadFields (r : MeasurementReport) : List Text :=
  [field r.owdVarUs, field r.jitterUs, field r.srttUs, Nat.toDigits 10 r.samples.toNat,
    fieldU64 r.sinceLastRxUs]

theorem bar_not_mem_leadFields (r : MeasurementReport) : ∀ s ∈ leadFields r, '|' ∉ s := by
  simp only [leadFields, List.forall_mem_cons, List.not_mem_nil, false_imp_iff, implies_true,
    and_true]
  exact ⟨bar_not_mem_numberField _, bar_not_mem_numberField _, bar_not_mem_numberField _,
    not_mem_toDigits (by decide) _, bar_not_mem_numberField _⟩

/-- **Without a rate** a report is read back as it is. -/
theorem parse_encode_none {r : MeasurementReport} (h : r.lossRate = none) :
    parse r.encode = some r := by
  refine parse_eq_some.mpr ⟨['|'].intercalate (leadFields r), Or.inr (Or.inl ⟨?_, ?_⟩)⟩
  · rw [encode, h]
    rfl
  · rw [List.splitOn_intercalate '|' (bar_not_mem_leadFields r) (List.cons_ne_nil _ _)]
    exact parseParts_eq_some.mpr ⟨_, _, _, _, _, rfl, orDash_field _, orDash_field _,
      orDash_field _, parseU32_toDigits _, parseTail_v2.mpr ⟨_, rfl, orDash_fieldU64 _, h⟩⟩

/-- **With a rate** it is read back up to the rate, which loses what is below a ten-thousandth. -/
theorem parse_encode_rate {r : MeasurementReport} {k : Nat} (hk : k ≤ 10 ^ 6)
    (h : r.lossRate = some (.finite ((k : ℚ) / 10 ^ 6))) :
    parse r.encode = some { r with
      lossRate := some (.finite (((k / 10 ^ 2 : Nat) : ℚ) / 10 ^ 4)) } := by
  have hrate : orDash parseF64 (rateText k) =
      some (some (.finite (((k / 10 ^ 2 : Nat) : ℚ) / 10 ^ 4))) :=
    orDash_some (fun hdash => by simp [rateText] at hdash) (parseF64_rate hk)
  have hencode : r.encode =
      reportPrefixV3 ++ '|' :: ['|'].intercalate (leadFields r ++ [rateText k]) := by
    rw [encode, h]
    dsimp only
    rw [take_rate hk]
    rfl
  have hall : ∀ s ∈ leadFields r ++ [rateText k], '|' ∉ s :=
    List.forall_mem_append.mpr
      ⟨bar_not_mem_leadFields r, List.forall_mem_singleton.mpr (bar_not_mem_rate hk)⟩
  refine parse_eq_some.mpr ⟨_, Or.inl ⟨hencode, ?_⟩⟩
  rw [List.splitOn_intercalate '|' hall (List.cons_ne_nil _ _)]
  exact parseParts_eq_some.mpr ⟨_, _, _, _, _, rfl, orDash_field _, orDash_field _, orDash_field _,
    parseU32_toDigits _, parseTail_v3.mpr ⟨_, _, rfl, orDash_fieldU64 _, hrate⟩⟩

/-- The rate is absent, or a number of millionths from 0 to 1. -/
def Millionths (r : MeasurementReport) : Prop :=
  ∀ l, r.lossRate = some l → ∃ k : Nat, k ≤ 10 ^ 6 ∧ l = .finite ((k : ℚ) / 10 ^ 6)

/-- The rate is absent, or a number of ten-thousandths. -/
def TenThousandths (r : MeasurementReport) : Prop :=
  ∀ l, r.lossRate = some l → ∃ m : Nat, l = .finite ((m : ℚ) / 10 ^ 4)

/-- **The round trip of a report.** A report whose rate is absent or a number of millionths is read
back as it was written if and only if its rate is absent or a number of ten-thousandths.  And every
line that is read is well formed: its prefix, its number of fields, and each of them.

Rates are exact here, and one that is no number of millionths is not the subject. -/
theorem report_round_trip_iff (r : MeasurementReport) (line : Text) :
    (r.Millionths → (parse r.encode = some r ↔ r.TenThousandths)) ∧
      (¬ WellFormed line → parse line = none) := by
  constructor
  · intro hmicro
    cases hloss : r.lossRate with
    | none =>
      have hten : r.TenThousandths := fun l hl => by
        rw [hloss] at hl
        cases hl
      exact iff_of_true (parse_encode_none hloss) hten
    | some l =>
      obtain ⟨k, hk, rfl⟩ := hmicro l hloss
      rw [parse_encode_rate hk hloss, Option.some_inj]
      constructor
      · intro heq l hl
        rw [← heq] at hl
        obtain rfl := Option.some.inj hl
        exact ⟨k / 10 ^ 2, rfl⟩
      · intro hten
        obtain ⟨m, hm⟩ := hten _ hloss
        have hvalue : (k : ℚ) / 10 ^ 6 = (m : ℚ) / 10 ^ 4 := F64.finite.inj hm
        have hkm : (k : ℚ) = ((m * 10 ^ 2 : Nat) : ℚ) := by
          push_cast
          field_simp at hvalue
          linarith
        have hnat : k = m * 10 ^ 2 := by exact_mod_cast hkm
        have hdiv : k / 10 ^ 2 = m := by omega
        rw [hdiv, ← hm, ← hloss]
  · intro hline
    rw [← parse_isSome_iff] at hline
    exact Option.not_isSome_iff_eq_none.mp hline

/-- A report of nothing but a rate of 123456 millionths. -/
def fineRate : MeasurementReport :=
  ⟨none, none, none, 0, none, some (.finite (123456 / 10 ^ 6))⟩

/-- **A rate that is not read back.**  0.123456 is written as 0.1234. -/
theorem fineRate_truncated :
    fineRate.Millionths ∧ fineRate.encode = "GTPRP3|-|-|-|0|-|0.1234".toList ∧
      parse fineRate.encode ≠ some fineRate := by
  refine ⟨?_, by decide +kernel, by decide +kernel⟩
  intro l hl
  exact ⟨123456, by decide, (Option.some.inj hl).symm⟩

end MeasurementReport

/-! ## 5. Scores -/

namespace Route

theorem normalizeLowerBetter_unit (value saturation : UInt32) :
    0 ≤ normalizeLowerBetter value saturation ∧ normalizeLowerBetter value saturation ≤ 1 := by
  unfold normalizeLowerBetter
  split
  · exact ⟨le_rfl, zero_le_one⟩
  · have hquot : (0 : ℚ) ≤ value.toNat / saturation.toNat := by positivity
    constructor
    · exact sub_nonneg.mpr (min_le_right _ _)
    · linarith [le_min hquot zero_le_one]

/-- A direction is worth between nothing and everything. -/
theorem directionScore_unit {v j : Option UInt32} {s : ℚ} (h : directionScore v j = some s) :
    0 ≤ s ∧ s ≤ 1 := by
  cases v with
  | none =>
    cases j with
    | none => cases h
    | some j =>
      obtain rfl := Option.some.inj h
      exact normalizeLowerBetter_unit _ _
  | some v =>
    have hv := normalizeLowerBetter_unit v owdVarSaturationUs
    cases j with
    | none =>
      obtain rfl := Option.some.inj h
      exact hv
    | some j =>
      have hj := normalizeLowerBetter_unit j jitterSaturationUs
      obtain rfl := Option.some.inj h
      unfold varAxisWeight
      constructor <;> linarith

theorem lossWeight_pos : 0 < lossAxisWeight := by norm_num [lossAxisWeight]

theorem fwdWeight_pos : 0 < pathWeightFwd * (1 - lossAxisWeight) := by
  norm_num [pathWeightFwd, lossAxisWeight]

theorem revWeight_pos : 0 < pathWeightRev * (1 - lossAxisWeight) := by
  norm_num [pathWeightRev, lossAxisWeight]

theorem rttWeight_pos : 0 < pathWeightRtt * (1 - lossAxisWeight) := by
  norm_num [pathWeightRtt, lossAxisWeight]

/-- What an axis takes off the score: its weight times what it is short of a perfect one. -/
def axisShortfall (w : ℚ) : Option ℚ → ℚ
  | some s => w * (1 - s)
  | none => 0

theorem axisShortfall_nonneg {w : ℚ} (hw : 0 ≤ w) {axis : Option ℚ}
    (h : ∀ s, axis = some s → s ≤ 1) : 0 ≤ axisShortfall w axis := by
  cases axis with
  | none => exact le_rfl
  | some s => exact mul_nonneg hw (sub_nonneg.mpr (h s rfl))

/-- The loss axis of `score`. -/
def lossScore (lossRate : ℚ) : ℚ := 1 - min (lossRate / lossSaturation) 1

/-- What all the axes together take off. -/
def shortfall (stats : PathStats) : ℚ :=
  axisShortfall (pathWeightFwd * (1 - lossAxisWeight))
      (directionScore stats.fwdOwdVarUs stats.fwdJitterUs) +
    axisShortfall (pathWeightRev * (1 - lossAxisWeight))
      (directionScore stats.revOwdVarUs stats.revJitterUs) +
    axisShortfall (pathWeightRtt * (1 - lossAxisWeight))
      (stats.rttUs.map fun r => normalizeLowerBetter r rttSaturationUs) +
    axisShortfall lossAxisWeight (stats.lossRate.map lossScore)

/-- The sums of `score` on the way: neither is negative, without a weight there is no value, and
they differ by what the axes took. -/
structure Sums (sums : ℚ × ℚ) (taken : ℚ) : Prop where
  weight : 0 ≤ sums.1
  value : 0 ≤ sums.2
  empty : sums.1 = 0 → sums.2 = 0
  taken : sums.1 - sums.2 = taken

theorem Sums.addAxis {sums : ℚ × ℚ} {taken w : ℚ} (h : Sums sums taken) (hw : 0 < w)
    {axis : Option ℚ} (haxis : ∀ s, axis = some s → 0 ≤ s) :
    Sums (addAxis w axis sums) (taken + axisShortfall w axis) := by
  cases axis with
  | none => exact ⟨h.weight, h.value, h.empty, h.taken.trans (add_zero taken).symm⟩
  | some s =>
    have hpos : 0 < sums.1 + w := add_pos_of_nonneg_of_pos h.weight hw
    refine ⟨hpos.le, add_nonneg h.value (mul_nonneg hw.le (haxis s rfl)),
      fun hzero => absurd hzero hpos.ne', ?_⟩
    change sums.1 + w - (sums.2 + w * s) = taken + w * (1 - s)
    rw [← h.taken]
    ring

theorem sums_score (stats : PathStats) : ∃ sums, Sums sums (shortfall stats) ∧
    score stats = if sums.1 = 0 then none else some (sums.2 / sums.1) := by
  have hempty : Sums (0, 0) 0 := ⟨le_rfl, le_rfl, fun _ => rfl, sub_self 0⟩
  have hfwd := hempty.addAxis fwdWeight_pos
    fun s (hs : directionScore stats.fwdOwdVarUs stats.fwdJitterUs = some s) =>
      (directionScore_unit hs).1
  have hrev := hfwd.addAxis revWeight_pos
    fun s (hs : directionScore stats.revOwdVarUs stats.revJitterUs = some s) =>
      (directionScore_unit hs).1
  have hrtt := hrev.addAxis rttWeight_pos
    fun s (hs : (stats.rttUs.map fun r => normalizeLowerBetter r rttSaturationUs) = some s) => by
      obtain ⟨r, -, rfl⟩ := Option.map_eq_some_iff.mp hs
      exact (normalizeLowerBetter_unit _ _).1
  have hloss := hrtt.addAxis lossWeight_pos
    fun s (hs : stats.lossRate.map lossScore = some s) => by
      obtain ⟨l, -, rfl⟩ := Option.map_eq_some_iff.mp hs
      exact sub_nonneg.mpr (min_le_right _ _)
  rw [zero_add] at hloss
  exact ⟨_, hloss, rfl⟩

/-- **The score is in the unit interval** exactly when the axes take something off on balance. -/
theorem score_unit (stats : PathStats) :
    (∀ q, score stats = some q → 0 ≤ q ∧ q ≤ 1) ↔ 0 ≤ shortfall stats := by
  obtain ⟨sums, hsums, hscore⟩ := sums_score stats
  rw [hscore, ← hsums.taken, sub_nonneg]
  by_cases hzero : sums.1 = 0
  · rw [if_pos hzero]
    exact iff_of_true (fun q hq => by cases hq) (by rw [hzero, hsums.empty hzero])
  · rw [if_neg hzero]
    have hpos : 0 < sums.1 := lt_of_le_of_ne hsums.weight (Ne.symm hzero)
    constructor
    · intro h
      exact (div_le_one hpos).mp (h _ rfl).2
    · rintro hle q hq
      obtain rfl := Option.some.inj hq
      exact ⟨div_nonneg hsums.value hpos.le, (div_le_one hpos).mpr hle⟩

end Route

namespace MeasurementReport

open Route

/-- What the forward axes of the report are short of perfect ones. -/
def forwardShortfall (r : MeasurementReport) : ℚ :=
  axisShortfall (pathWeightFwd * (1 - lossAxisWeight)) (directionScore r.owdVarUs r.jitterUs)

/-- A negative rate, as far as there is one, adds no more than the forward axes take off. -/
def Covered (r : MeasurementReport) : Prop :=
  ∀ q, r.lossRate = some (.finite q) →
    -(lossAxisWeight * (q / lossSaturation)) ≤ r.forwardShortfall

theorem forwardShortfall_nonneg (r : MeasurementReport) : 0 ≤ r.forwardShortfall :=
  axisShortfall_nonneg fwdWeight_pos.le fun _ hs => (directionScore_unit hs).2

/-- The loss axis takes off the weighted rate, up to the cap. -/
theorem axisShortfall_loss (q : ℚ) :
    axisShortfall lossAxisWeight (some (lossScore q)) =
      lossAxisWeight * min (q / lossSaturation) 1 := by
  rw [axisShortfall, lossScore, sub_sub_cancel]

/-- The statistics that a report with a finite rate gives. -/
theorem intoPathStats_eq_some {r : MeasurementReport} {pathId : UInt32} {rev stats : PathStats}
    (h : r.intoPathStats pathId rev = some stats) :
    (∀ q, stats.lossRate = some q ↔ r.lossRate = some (.finite q)) ∧
      shortfall stats = r.forwardShortfall +
        axisShortfall (pathWeightRev * (1 - lossAxisWeight))
          (directionScore rev.revOwdVarUs rev.revJitterUs) +
        axisShortfall (pathWeightRtt * (1 - lossAxisWeight))
          ((rev.rttUs.or r.srttUs).map fun x => normalizeLowerBetter x rttSaturationUs) +
        axisShortfall lossAxisWeight (stats.lossRate.map lossScore) := by
  obtain ⟨lossRate, hloss, rfl⟩ := Option.map_eq_some_iff.mp h
  refine ⟨fun q => ?_, rfl⟩
  dsimp only
  unfold exactRate at hloss
  split at hloss
  · rename_i hnone
    obtain rfl := Option.some.inj hloss
    simp [hnone]
  · rename_i q' hsome
    obtain rfl := Option.some.inj hloss
    simp [hsome]
  · cases hloss

/-- **Scores of reports.** For every line: whatever is measured locally, the score that the report
of the line leads to is absent or lies between 0 and 1, if and only if a negative rate in it adds no
more than its own forward axes take off.  Scores are exact rationals, so that the bounds are sharp;
how far `f64` strays from them is left out. -/
theorem score_unit_iff (line : Text) :
    (∀ r, parse line = some r → ∀ pathId rev stats, r.intoPathStats pathId rev = some stats →
      ∀ q, score stats = some q → 0 ≤ q ∧ q ≤ 1) ↔
      ∀ r, parse line = some r → r.Covered := by
  refine forall_congr' fun r => forall_congr' fun _ => ?_
  constructor
  · intro h q hq
    -- a local end that measures a perfect round trip and nothing else leaves the forward axes alone
    let rev : PathStats := { PathStats.default with rttUs := some 0 }
    have hsome : ∃ stats, r.intoPathStats 0 rev = some stats := by
      unfold intoPathStats
      rw [hq]
      exact ⟨_, rfl⟩
    obtain ⟨stats, hstats⟩ := hsome
    obtain ⟨hrate, hshort⟩ := intoPathStats_eq_some hstats
    have hperfect : axisShortfall (pathWeightRtt * (1 - lossAxisWeight))
        ((rev.rttUs.or r.srttUs).map fun x => normalizeLowerBetter x rttSaturationUs) = 0 := by
      change axisShortfall _ (some (normalizeLowerBetter 0 rttSaturationUs)) = 0
      decide +kernel
    have hnone : axisShortfall (pathWeightRev * (1 - lossAxisWeight))
        (directionScore rev.revOwdVarUs rev.revJitterUs) = 0 := rfl
    have hunit := (score_unit stats).mp (h 0 rev stats hstats)
    rw [hshort, (hrate q).mpr hq, Option.map_some, axisShortfall_loss, hperfect, hnone, add_zero,
      add_zero] at hunit
    have hmin : lossAxisWeight * min (q / lossSaturation) 1 ≤
        lossAxisWeight * (q / lossSaturation) :=
      mul_le_mul_of_nonneg_left (min_le_left _ _) lossWeight_pos.le
    linarith
  · intro hcovered pathId rev stats hstats
    rw [score_unit]
    obtain ⟨hrate, hshort⟩ := intoPathStats_eq_some hstats
    have hrev : 0 ≤ axisShortfall (pathWeightRev * (1 - lossAxisWeight))
        (directionScore rev.revOwdVarUs rev.revJitterUs) :=
      axisShortfall_nonneg revWeight_pos.le fun _ hs => (directionScore_unit hs).2
    have hrtt : 0 ≤ axisShortfall (pathWeightRtt * (1 - lossAxisWeight))
        ((rev.rttUs.or r.srttUs).map fun x => normalizeLowerBetter x rttSaturationUs) := by
      refine axisShortfall_nonneg rttWeight_pos.le fun s hs => ?_
      obtain ⟨x, -, rfl⟩ := Option.map_eq_some_iff.mp hs
      exact (normalizeLowerBetter_unit _ _).2
    have hfwd := r.forwardShortfall_nonneg
    rw [hshort]
    cases hloss : stats.lossRate with
    | none =>
      change 0 ≤ _ + _ + _ + 0
      linarith
    | some q =>
      rw [Option.map_some, axisShortfall_loss]
      -- a rate below the cap takes off its weight, one above it the whole axis
      rcases min_choice (q / lossSaturation) 1 with hmin | hmin
      · have hcov := hcovered q ((hrate q).mp hloss)
        rw [hmin]
        linarith
      · rw [hmin]
        have hweight : 0 ≤ lossAxisWeight * 1 := mul_nonneg lossWeight_pos.le zero_le_one
        linarith

/-- The line of a peer that reports a rate of -5. -/
def negativeRate : Text := "GTPRP3|-|-|-|30|-|-5".toList

/-- **Better than perfect.**  The line is read, and its path scores 101. -/
theorem negativeRate_score :
    ∃ r stats, parse negativeRate = some r ∧
      r.intoPathStats 1 PathStats.default = some stats ∧ score stats = some 101 ∧
      ¬ ∀ q, score stats = some q → 0 ≤ q ∧ q ≤ 1 := by
  have hscore : ∀ stats : PathStats, score stats = some 101 → score stats = some 101 ∧
      ¬ ∀ q, score stats = some q → 0 ≤ q ∧ q ≤ 1 :=
    fun stats hscore => ⟨hscore, fun h => absurd (h 101 hscore).2 (by norm_num)⟩
  refine ⟨⟨none, none, none, 30, none, some (.finite (-5))⟩, _, by decide +kernel, rfl,
    hscore _ ?_⟩
  decide +kernel

end MeasurementReport

end Gtp
