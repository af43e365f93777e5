/-
# What evidence a selected path has (`gtp-route/src/select.rs`)

`select` tests its floors -- some measured axis, enough samples, evidence that is not stale -- on
the candidate that ranks first, and only then decides between the first two.  When they are within
the margin the lower id wins, and that may be the second one, which no floor was tested on.

* The ranking is a stable sort, so candidates that the order does not separate keep their positions;
  `Ahead` is the order with the positions, and the sorted list is pairwise ahead (`ranking`).
* `First` and `RunnerUp` are the two candidates that matter, and `select_chosen` says what `select`
  makes of them.
* `select_evidence_iff` says exactly when the path selected has the evidence the floors ask for: it
  lacks it when the tie-break overtakes the first (`Overtaken`).
* `select_perm` says that the order of the candidates makes no difference, when their ids differ.

Scores are exact rationals (`Gtp.Route`).  How far apart two `f64` scores have to be for the same
choice is not said.
-/
import Gtp.Route
import Mathlib.Tactic.Linarith
import Mathlib.Tactic.NormNum
import Mathlib.Data.List.Nodup

namespace Gtp

namespace PathStats

/-- At least one axis was measured. -/
def Measured (c : PathStats) : Prop :=
  c.fwdOwdVarUs.isSome ∨ c.fwdJitterUs.isSome ∨ c.revOwdVarUs.isSome ∨ c.revJitterUs.isSome ∨
    c.rttUs.isSome ∨ c.lossRate.isSome

instance (c : PathStats) : Decidable c.Measured := by
  unfold Measured
  exact inferInstance

/-- The evidence a path needs to be selected: something measured, samples enough, and not stale
unless its age is unknown. -/
structure Evident (c : PathStats) : Prop where
  measured : c.Measured
  confident : Route.confidenceFloor ≤ Route.confidence c.sampleCount
  fresh : c.pathAge = none ∨ Route.confidenceFloor ≤ Route.freshness c.pathAge

end PathStats

namespace Route

/-! ## 1. A score is there when an axis is -/

theorem directionScore_isSome (v j : Option UInt32) :
    (directionScore v j).isSome = (v.isSome || j.isSome) := by
  cases v <;> cases j <;> rfl

theorem score_isSome_iff (c : PathStats) : (score c).isSome ↔ c.Measured := by
  have hfwd := directionScore_isSome c.fwdOwdVarUs c.fwdJitterUs
  have hrev := directionScore_isSome c.revOwdVarUs c.revJitterUs
  have hmeasured : c.Measured ↔ (directionScore c.fwdOwdVarUs c.fwdJitterUs).isSome = true ∨
      (directionScore c.revOwdVarUs c.revJitterUs).isSome = true ∨ c.rttUs.isSome = true ∨
      c.lossRate.isSome = true := by
    rw [hfwd, hrev, Bool.or_eq_true, Bool.or_eq_true, PathStats.Measured]
    tauto
  rw [hmeasured]
  unfold score
  generalize directionScore c.fwdOwdVarUs c.fwdJitterUs = fwd
  generalize directionScore c.revOwdVarUs c.revJitterUs = rev
  cases fwd <;> cases rev <;> cases c.rttUs <;> cases c.lossRate <;>
    norm_num [addAxis, lossAxisWeight, pathWeightFwd, pathWeightRev, pathWeightRtt]

/-! ## 2. The order of the ranking -/

/-- The comparison of `rank`, key by key. -/
theorem before_iff (a b : ScoredCandidate) : a.before b = true ↔
    b.effective.getD f64Min < a.effective.getD f64Min ∨
    (a.effective.getD f64Min = b.effective.getD f64Min ∧ (b.confidence < a.confidence ∨
      (a.confidence = b.confidence ∧ a.pathId ≤ b.pathId))) := by
  unfold ScoredCandidate.before
  dsimp only
  split
  · rename_i hne
    simp [hne]
  · rename_i heq
    rw [not_not] at heq
    split
    · rename_i hne
      simp [heq, hne]
    · rename_i hconf
      rw [not_not] at hconf
      simp [heq, hconf]

theorem before_total (a b : ScoredCandidate) : (a.before b || b.before a) = true := by
  rw [Bool.or_eq_true, before_iff, before_iff]
  rcases lt_trichotomy (a.effective.getD f64Min) (b.effective.getD f64Min) with h | h | h
  · exact Or.inr (Or.inl h)
  · rcases lt_trichotomy a.confidence b.confidence with h' | h' | h'
    · exact Or.inr (Or.inr ⟨h.symm, Or.inl h'⟩)
    · rcases UInt32.le_total a.pathId b.pathId with hid | hid
      · exact Or.inl (Or.inr ⟨h, Or.inr ⟨h', hid⟩⟩)
      · exact Or.inr (Or.inr ⟨h.symm, Or.inr ⟨h'.symm, hid⟩⟩)
    · exact Or.inl (Or.inr ⟨h, Or.inl h'⟩)
  · exact Or.inl (Or.inl h)

theorem before_trans (a b c : ScoredCandidate) (hab : a.before b = true)
    (hbc : b.before c = true) : a.before c = true := by
  rw [before_iff] at hab hbc ⊢
  rcases hab with hab | ⟨eab, hab⟩
  · rcases hbc with hbc | ⟨ebc, -⟩
    · exact Or.inl (hbc.trans hab)
    · exact Or.inl (ebc ▸ hab)
  · rcases hbc with hbc | ⟨ebc, hbc⟩
    · exact Or.inl (eab ▸ hbc)
    · refine Or.inr ⟨eab.trans ebc, ?_⟩
      rcases hab with hab | ⟨cab, hab⟩
      · rcases hbc with hbc | ⟨cbc, -⟩
        · exact Or.inl (hbc.trans hab)
        · exact Or.inl (cbc ▸ hab)
      · rcases hbc with hbc | ⟨cbc, hbc⟩
        · exact Or.inl (cab ▸ hbc)
        · exact Or.inr ⟨cab.trans cbc, UInt32.le_trans hab hbc⟩

/-- A candidate with its position in the list. -/
abbrev Entry := PathStats × Nat

/-- `a` ranks ahead of `b`: by the order of `rank`, and by position where that does not decide. -/
def Ahead (a b : Entry) : Prop :=
  (scoreCandidate a.1).before (scoreCandidate b.1) = true ∧
    ((scoreCandidate b.1).before (scoreCandidate a.1) = true → a.2 ≤ b.2)

/-- The comparison of candidates by their scored records. -/
def compareStats (a b : PathStats) : Bool := (scoreCandidate a).before (scoreCandidate b)

theorem zipIdxLE_iff (a b : Entry) : List.zipIdxLE compareStats a b = true ↔ Ahead a b := by
  unfold List.zipIdxLE Ahead compareStats
  split
  · rename_i h
    split
    · rename_i h'
      simp [h, h']
    · rename_i h'
      simp [h, h']
  · rename_i h
    simp [h]

/-- The candidates in the order of `rank`, with their positions. -/
def ranking (candidates : List PathStats) : List Entry :=
  candidates.zipIdx.mergeSort (List.zipIdxLE compareStats)

theorem rank_eq (candidates : List PathStats) :
    rank candidates = (ranking candidates).map fun e => scoreCandidate e.1 := by
  have hsort : (candidates.mergeSort compareStats).map scoreCandidate = rank candidates :=
    List.map_mergeSort fun _ _ _ _ => rfl
  rw [← hsort, ← List.mergeSort_zipIdx, List.map_map]
  rfl

theorem mem_ranking {candidates : List PathStats} {e : Entry} :
    e ∈ ranking candidates ↔ e ∈ candidates.zipIdx := List.mem_mergeSort

theorem ranking_pairwise (candidates : List PathStats) : (ranking candidates).Pairwise Ahead := by
  have htrans : ∀ a b c, compareStats a b = true → compareStats b c = true →
      compareStats a c = true := fun a b c => before_trans _ _ _
  have htotal : ∀ a b, (compareStats a b || compareStats b a) = true := fun a b => before_total _ _
  have hsorted := List.pairwise_mergeSort (List.zipIdxLE_trans htrans)
    (List.zipIdxLE_total htotal) candidates.zipIdx
  exact hsorted.imp fun {a b} h => (zipIdxLE_iff a b).mp h

theorem ranking_nodup (candidates : List PathStats) : (ranking candidates).Nodup := by
  have hperm : (ranking candidates).Perm candidates.zipIdx := List.mergeSort_perm _ _
  rw [hperm.nodup_iff]
  apply List.Nodup.of_map Prod.snd
  rw [List.zipIdx_map_snd]
  exact List.nodup_range'

theorem Ahead.antisymm {candidates : List PathStats} {a b : Entry} (ha : a ∈ candidates.zipIdx)
    (hb : b ∈ candidates.zipIdx) (hab : Ahead a b) (hba : Ahead b a) : a = b := by
  have hpos : a.2 = b.2 := Nat.le_antisymm (hab.2 hba.1) (hba.2 hab.1)
  have hga := List.mem_zipIdx_iff_getElem?.mp ha
  have hgb := List.mem_zipIdx_iff_getElem?.mp hb
  rw [hpos, hgb] at hga
  exact Prod.ext (Option.some.inj hga).symm hpos

/-! ## 3. The first two -/

/-- `e` ranks first of all candidates. -/
def First (candidates : List PathStats) (e : Entry) : Prop :=
  e ∈ candidates.zipIdx ∧ ∀ x ∈ candidates.zipIdx, x ≠ e → Ahead e x

/-- `e` ranks first of the other candidates that were measured. -/
def RunnerUp (candidates : List PathStats) (best e : Entry) : Prop :=
  e ∈ candidates.zipIdx ∧ e ≠ best ∧ e.1.Measured ∧
    ∀ x ∈ candidates.zipIdx, x ≠ best → x ≠ e → x.1.Measured → Ahead e x

theorem First.unique {candidates : List PathStats} {a b : Entry} (ha : First candidates a)
    (hb : First candidates b) : a = b := by
  by_contra hne
  exact hne (Ahead.antisymm ha.1 hb.1 (ha.2 b hb.1 (Ne.symm hne)) (hb.2 a ha.1 hne))

theorem RunnerUp.unique {candidates : List PathStats} {best a b : Entry}
    (ha : RunnerUp candidates best a) (hb : RunnerUp candidates best b) : a = b := by
  obtain ⟨hamem, hane, hameas, hafirst⟩ := ha
  obtain ⟨hbmem, hbne, hbmeas, hbfirst⟩ := hb
  by_contra hne
  exact hne (Ahead.antisymm hamem hbmem (hafirst b hbmem hbne (Ne.symm hne) hbmeas)
    (hbfirst a hamem hane hne hameas))

theorem first_of_ranking {candidates : List PathStats} {e : Entry} {rest : List Entry}
    (h : ranking candidates = e :: rest) : First candidates e := by
  have hpair := ranking_pairwise candidates
  rw [h] at hpair
  refine ⟨mem_ranking.mp (h ▸ List.mem_cons_self), ?_⟩
  intro x hx hne
  rw [← mem_ranking, h] at hx
  exact List.rel_of_pairwise_cons hpair ((List.mem_cons.mp hx).resolve_left hne)

/-- The first measured entry behind the head is the runner-up. -/
theorem runnerUp_of_ranking {candidates : List PathStats} {best e : Entry} {rest tail : List Entry}
    (h : ranking candidates = best :: rest)
    (hfilter : rest.filter (fun x => decide x.1.Measured) = e :: tail) :
    RunnerUp candidates best e := by
  have hpair := ranking_pairwise candidates
  have hnodup := ranking_nodup candidates
  rw [h] at hpair hnodup
  have hmem : e ∈ rest ∧ e.1.Measured := by
    have hin : e ∈ rest.filter fun x => decide x.1.Measured := hfilter ▸ List.mem_cons_self
    simpa using hin
  have hfiltered := hpair.of_cons.filter fun x => decide x.1.Measured
  rw [hfilter] at hfiltered
  refine ⟨mem_ranking.mp (h ▸ List.mem_cons_of_mem _ hmem.1), ?_, hmem.2, ?_⟩
  · rintro rfl
    exact (List.nodup_cons.mp hnodup).1 hmem.1
  · intro x hx hbest hne hmeas
    rw [← mem_ranking, h] at hx
    have hrest : x ∈ rest := (List.mem_cons.mp hx).resolve_left hbest
    have hin : x ∈ rest.filter fun x => decide x.1.Measured := by simp [hrest, hmeas]
    rw [hfilter] at hin
    exact List.rel_of_pairwise_cons hfiltered ((List.mem_cons.mp hin).resolve_left hne)

/-- The lead of the first over the runner-up, relative to the first. -/
def margin (best runner : PathStats) : ℚ :=
  let bestEff := (scoreCandidate best).effective.getD 0
  let runnerEff := (scoreCandidate runner).effective.getD 0
  if 0 < bestEff then (bestEff - runnerEff) / bestEff else 0

/-- The floors as `select` tests them on the first record. -/
theorem evident_iff (c : PathStats) : c.Evident ↔
    (scoreCandidate c).score.isNone = false ∧
      ¬ (scoreCandidate c).confidence < confidenceFloor ∧
      ¬ ((scoreCandidate c).ageUs.isSome ∧ (scoreCandidate c).freshness < confidenceFloor) := by
  have hscore : (scoreCandidate c).score.isNone = false ↔ c.Measured := by
    rw [← score_isSome_iff]
    change (score c).isNone = false ↔ _
    cases score c <;> simp
  rw [hscore]
  constructor
  · rintro ⟨hmeas, hconf, hfresh⟩
    refine ⟨hmeas, not_lt.mpr hconf, ?_⟩
    rintro ⟨hage, hstale⟩
    rcases hfresh with hnone | hfresh
    · rw [show (scoreCandidate c).ageUs = none from hnone] at hage
      cases hage
    · exact absurd hfresh (not_le.mpr hstale)
  · rintro ⟨hmeas, hconf, hfresh⟩
    refine ⟨hmeas, not_lt.mp hconf, ?_⟩
    cases hage : c.pathAge with
    | none => exact Or.inl rfl
    | some age =>
      right
      rw [← hage]
      exact not_lt.mp fun hstale => hfresh ⟨by
        rw [show (scoreCandidate c).ageUs = some age from hage]
        rfl, hstale⟩

theorem filter_scored (rest : List Entry) :
    (rest.map fun e => scoreCandidate e.1).filter (fun s => s.score.isSome) =
      (rest.filter fun x => decide x.1.Measured).map fun e => scoreCandidate e.1 := by
  rw [List.filter_map]
  congr 1
  apply List.filter_congr
  intro x _
  exact Bool.eq_iff_iff.mpr ((score_isSome_iff x.1).trans decide_eq_true_iff.symm)

/-- **What `select` chooses.**  Nothing unless the first candidate is evident; then the first, or
the lower id of the first two when a runner-up is within the margin. -/
theorem select_chosen (candidates : List PathStats) :
    ((select candidates).chosen = none ∧ ∀ e, First candidates e → ¬ e.1.Evident) ∨
    ∃ best, First candidates best ∧ best.1.Evident ∧
      (((select candidates).chosen = some best.1.pathId ∧
          ∀ e, RunnerUp candidates best e → clearWinnerMargin ≤ margin best.1 e.1) ∨
        ∃ runner, RunnerUp candidates best runner ∧ margin best.1 runner.1 < clearWinnerMargin ∧
          (select candidates).chosen = some (min best.1.pathId runner.1.pathId)) := by
  unfold select
  rw [rank_eq]
  cases hrank : ranking candidates with
  | nil =>
    refine Or.inl ⟨rfl, ?_⟩
    intro e hfirst
    have hmem := mem_ranking.mpr hfirst.1
    rw [hrank] at hmem
    cases hmem
  | cons best rest =>
    have hfirst := first_of_ranking hrank
    simp only [List.map_cons]
    by_cases hevident : best.1.Evident
    · right
      refine ⟨best, hfirst, hevident, ?_⟩
      obtain ⟨hscore, hconf, hfresh⟩ := (evident_iff best.1).mp hevident
      rw [if_neg (by rw [hscore]; exact Bool.false_ne_true), if_neg hconf, if_neg hfresh]
      have hsome : (scoreCandidate best.1).score.isSome = true := by
        cases hs : (scoreCandidate best.1).score with
        | none =>
          rw [hs] at hscore
          cases hscore
        | some v => rfl
      have husable : ((scoreCandidate best.1 :: rest.map fun e => scoreCandidate e.1).filter
          fun s => s.score.isSome) = scoreCandidate best.1 ::
            (rest.filter fun x => decide x.1.Measured).map fun e => scoreCandidate e.1 := by
        rw [← filter_scored]
        exact List.filter_cons_of_pos hsome
      rw [husable]
      cases hfilter : rest.filter fun x => decide x.1.Measured with
      | nil =>
        left
        refine ⟨rfl, ?_⟩
        rintro e ⟨hmem, hne, hmeas, -⟩
        rw [← mem_ranking, hrank] at hmem
        have hrest : e ∈ rest := (List.mem_cons.mp hmem).resolve_left hne
        have hin : e ∈ rest.filter fun x => decide x.1.Measured := by simp [hrest, hmeas]
        rw [hfilter] at hin
        cases hin
      | cons runner tail =>
        have hrunner := runnerUp_of_ranking hrank hfilter
        simp only [List.map_cons]
        by_cases hmargin : clearWinnerMargin ≤ margin best.1 runner.1
        · left
          refine ⟨?_, fun e he => he.unique hrunner ▸ hmargin⟩
          exact congrArg Selection.chosen (if_pos hmargin)
        · right
          refine ⟨runner, hrunner, not_le.mp hmargin, ?_⟩
          exact congrArg Selection.chosen (if_neg hmargin)
    · left
      refine ⟨?_, fun e he => he.unique hfirst ▸ hevident⟩
      by_cases hscore : (scoreCandidate best.1).score.isNone = true
      · rw [if_pos hscore]
      · rw [if_neg hscore]
        by_cases hconf : (scoreCandidate best.1).confidence < confidenceFloor
        · rw [if_pos hconf]
        · rw [if_neg hconf]
          by_cases hfresh : (scoreCandidate best.1).ageUs.isSome ∧
              (scoreCandidate best.1).freshness < confidenceFloor
          · rw [if_pos hfresh]
          · exact absurd ((evident_iff best.1).mpr
              ⟨Bool.eq_false_iff.mpr hscore, hconf, hfresh⟩) hevident

/-! ## 4. The floors and the tie-break -/

/-- The first two are within the margin, the runner-up has the lower id, and no candidate of that
id is evident. -/
def Overtaken (candidates : List PathStats) : Prop :=
  ∃ best runner, First candidates best ∧ best.1.Evident ∧ RunnerUp candidates best runner ∧
    margin best.1 runner.1 < clearWinnerMargin ∧ runner.1.pathId < best.1.pathId ∧
    ∀ c ∈ candidates, c.pathId = runner.1.pathId → ¬ c.Evident

theorem mem_of_mem_zipIdx {candidates : List PathStats} {e : Entry}
    (h : e ∈ candidates.zipIdx) : e.1 ∈ candidates :=
  List.mem_of_getElem? (List.mem_zipIdx_iff_getElem?.mp h)

/-- **The evidence floor.** A path that `select` chooses is the id of a candidate with a measured
axis, confidence above the floor and evidence that is unknown of age or fresh enough, except exactly
when a runner-up of lower id and without that evidence is within the margin.  Ids need not be
distinct; the evidence may be that of any candidate with the id chosen. -/
theorem select_evidence_iff (candidates : List PathStats) :
    (∀ p, (select candidates).chosen = some p →
      ∃ c ∈ candidates, c.pathId = p ∧ c.Measured ∧ confidenceFloor ≤ confidence c.sampleCount ∧
        (c.pathAge = none ∨ confidenceFloor ≤ freshness c.pathAge)) ↔
      ¬ Overtaken candidates := by
  have hevident : ∀ p, (∃ c ∈ candidates, c.pathId = p ∧ c.Measured ∧
      confidenceFloor ≤ confidence c.sampleCount ∧
      (c.pathAge = none ∨ confidenceFloor ≤ freshness c.pathAge)) ↔
      ∃ c ∈ candidates, c.pathId = p ∧ c.Evident := by
    intro p
    constructor
    · rintro ⟨c, hc, hid, hmeas, hconf, hfresh⟩
      exact ⟨c, hc, hid, hmeas, hconf, hfresh⟩
    · rintro ⟨c, hc, hid, hmeas, hconf, hfresh⟩
      exact ⟨c, hc, hid, hmeas, hconf, hfresh⟩
  simp only [hevident]
  rcases select_chosen candidates with ⟨hnone, hfirst⟩ | ⟨best, hbest, hev, hchosen⟩
  · -- no winner: nothing to show, and nothing to overtake
    constructor
    · rintro - ⟨best, runner, hbest, hev, -⟩
      exact hfirst best hbest hev
    · intro _ p hp
      rw [hnone] at hp
      cases hp
  · rcases hchosen with ⟨hwin, hclear⟩ | ⟨runner, hrunner, hmargin, htie⟩
    · constructor
      · rintro - ⟨best', runner, hbest', -, hrunner, hmargin, -⟩
        obtain rfl := hbest'.unique hbest
        exact absurd (hclear runner hrunner) (not_le.mpr hmargin)
      · intro _ p hp
        rw [hwin] at hp
        exact ⟨best.1, mem_of_mem_zipIdx hbest.1, Option.some.inj hp, hev⟩
    · rcases UInt32.lt_or_le runner.1.pathId best.1.pathId with hlt | hle
      · -- the runner-up's id is the one chosen
        have hmin : min best.1.pathId runner.1.pathId = runner.1.pathId :=
          if_neg (UInt32.not_le.mpr hlt)
        rw [htie, hmin]
        constructor
        · rintro hall ⟨best', runner', hbest', -, hrunner', -, -, hnone⟩
          obtain rfl := hbest'.unique hbest
          obtain rfl := hrunner'.unique hrunner
          obtain ⟨c, hc, hid, hevc⟩ := hall _ rfl
          exact hnone c hc hid hevc
        · intro hnot p hp
          obtain rfl := Option.some.inj hp
          by_contra hcontra
          refine hnot ⟨best, runner, hbest, hev, hrunner, hmargin, hlt, ?_⟩
          intro c hc hid hevc
          exact hcontra ⟨c, hc, hid, hevc⟩
      · have hmin : min best.1.pathId runner.1.pathId = best.1.pathId := if_pos hle
        rw [htie, hmin]
        constructor
        · rintro - ⟨best', runner', hbest', -, hrunner', -, hlt, -⟩
          obtain rfl := hbest'.unique hbest
          obtain rfl := hrunner'.unique hrunner
          exact absurd hle (UInt32.not_le.mpr hlt)
        · intro _ p hp
          exact ⟨best.1, mem_of_mem_zipIdx hbest.1, Option.some.inj hp, hev⟩

/-- Measured often, and slow. -/
def slowPath : PathStats :=
  { PathStats.default with pathId := 2, rttUs := some 159000, sampleCount := 30 }

/-- Measured 14 times, and fast. -/
def fewSamples : PathStats :=
  { PathStats.default with pathId := 1, rttUs := some 0, sampleCount := 14 }

/-- **The runner-up wins without the samples.**  Path 2 ranks first and passes the floors; path 1,
whose confidence is 14/30, is within the margin and has the lower id. -/
theorem select_unconfident :
    (select [slowPath, fewSamples]).chosen = some 1 ∧
      ¬ ∃ c ∈ [slowPath, fewSamples], c.pathId = 1 ∧ c.Measured ∧
        confidenceFloor ≤ confidence c.sampleCount ∧
        (c.pathAge = none ∨ confidenceFloor ≤ freshness c.pathAge) := by
  have hrank : rank [slowPath, fewSamples] = [scoreCandidate slowPath, scoreCandidate fewSamples] :=
    List.mergeSort_of_pairwise (by decide +kernel)
  constructor
  · unfold select
    rw [hrank]
    decide +kernel
  · rintro ⟨c, hc, hid, -, hconf, -⟩
    rcases List.mem_pair.mp hc with rfl | rfl
    · exact absurd hid (by decide)
    · exact absurd hconf (by decide +kernel)

/-! ## 5. The order of the candidates -/

/-- Records that rank ahead of each other have the same id: the id is the last key. -/
theorem pathId_eq_of_before {a b : ScoredCandidate} (hab : a.before b = true)
    (hba : b.before a = true) : a.pathId = b.pathId := by
  rw [before_iff] at hab hba
  rcases hab with hab | ⟨hEff, hab⟩
  · rcases hba with hba | ⟨heq, -⟩
    · exact absurd hab hba.asymm
    · exact absurd heq hab.ne
  · rcases hba with hba | ⟨-, hba⟩
    · exact absurd hEff hba.ne
    · rcases hab with hab | ⟨hConf, hab⟩
      · rcases hba with hba | ⟨heq, -⟩
        · exact absurd hab hba.asymm
        · exact absurd heq hab.ne
      · rcases hba with hba | ⟨-, hba⟩
        · exact absurd hConf hba.ne
        · exact UInt32.le_antisymm hab hba

/-- Candidates of distinct ids have one ranking, in whatever order they come. -/
theorem rank_perm {candidates candidates' : List PathStats}
    (hids : (candidates.map PathStats.pathId).Nodup) (hperm : candidates.Perm candidates') :
    rank candidates = rank candidates' := by
  have hmerge : (rank candidates).Perm (candidates.map scoreCandidate) := List.mergeSort_perm _ _
  have hranks : (rank candidates).Perm (rank candidates') :=
    (hmerge.trans (hperm.map scoreCandidate)).trans (List.mergeSort_perm _ _).symm
  have hscored : ((candidates.map scoreCandidate).map ScoredCandidate.pathId).Nodup := by
    rw [List.map_map]
    exact hids
  refine hranks.eq_of_pairwise ?_ (List.pairwise_mergeSort before_trans before_total _)
    (List.pairwise_mergeSort before_trans before_total _)
  intro a b ha hb hab hba
  have hb' : b ∈ rank candidates := hranks.mem_iff.mpr hb
  exact List.inj_on_of_nodup_map hscored (hmerge.mem_iff.mp ha) (hmerge.mem_iff.mp hb')
    (pathId_eq_of_before hab hba)

/-- **The order of the candidates does not matter.**  With distinct ids, every permutation of the
candidates gives the same selection: chosen path, reason, runner-up and ranked records.  With equal
ids it does matter, since the ranking is stable. -/
theorem select_perm {candidates candidates' : List PathStats}
    (hids : (candidates.map PathStats.pathId).Nodup) (hperm : candidates.Perm candidates') :
    select candidates = select candidates' := by
  unfold select
  rw [rank_perm hids hperm]

/-- The theorem at two candidates that are within the margin. -/
theorem select_perm_pair :
    select [slowPath, fewSamples] = select [fewSamples, slowPath] :=
  select_perm (by decide) (List.Perm.swap _ _ _)

end Route

end Gtp
