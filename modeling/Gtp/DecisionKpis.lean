/-
# The figures of the decision log (`gtp-route/src/decision_log.rs`)

`DecisionTracker` numbers the selections, keeps the last of them in a ring and counts switches and
reverts.  A switch is a selection of another path than the one selected before it, holds aside, and
a revert is a switch back to the path that the switch before it had left (7, 2, 7).

The tracker remembers two paths and shifts them at every selection, not at every switch.  So it sees
a revert only when the path in between was selected once: 7, 2, 2, 7 switches back, and is not
counted.  Everything else it counts is what it says.

* `directReverts` is what the tracker counts, by `recordAll_revertCount`, from any memory.
* `lateReverts` is what it misses; `revertsOf_switchesOf` says that every revert is one or the
  other.
* `decision_kpis_iff` is the whole: all figures are what they mean exactly when there is no late
  revert.

Counters are natural numbers here; `u64` is out of reach of one step per decision.  The ring holds
the last records and counts what it dropped; what a record says is the subject of `Gtp.DecisionLog`.
-/
import Gtp.DecisionLog

namespace Gtp

namespace Route

/-! ## 1. The tracker -/

/-- `DecisionTracker`. -/
structure DecisionTracker where
  nextId : Nat
  previousPath : Option UInt32
  beforePreviousPath : Option UInt32
  ring : List DecisionRecord
  capacity : Nat
  droppedRecords : Nat
  decisions : Nat
  switchCount : Nat
  revertCount : Nat
  lastDwellUs : Option UInt64
  lastSwitchWindowUs : Option UInt64

/-- The arguments of one call of `record`. -/
structure Verdict where
  connectionId : UInt64
  policyClass : PolicyClass
  windowUs : Option UInt64
  selection : Selection

/-- `u64::saturating_sub`. -/
def saturatingSub (a b : UInt64) : UInt64 := if b ≤ a then a - b else 0

namespace DecisionTracker

/-- `DecisionTracker::new`. -/
def new (capacity : Nat) : DecisionTracker :=
  ⟨0, none, none, [], capacity, 0, 0, 0, 0, none, none⟩

/-- The figures of a switch. -/
def countSwitch (t : DecisionTracker) (windowUs : Option UInt64) (sel : UInt32) :
    DecisionTracker :=
  { t with
    switchCount := t.switchCount + 1
    lastDwellUs :=
      match windowUs, t.lastSwitchWindowUs with
      | some now, some last => some (saturatingSub now last)
      | _, _ => t.lastDwellUs
    lastSwitchWindowUs := windowUs
    -- 7, 2, 7: back to the path before the one that is left
    revertCount := if t.beforePreviousPath = some sel then t.revertCount + 1 else t.revertCount }

/-- The selected path, with the figures it changes. -/
def noteSelection (t : DecisionTracker) (windowUs : Option UInt64) (sel : UInt32) :
    DecisionTracker :=
  let t' := match t.previousPath with
    | some prev => if prev ≠ sel then t.countSwitch windowUs sel else t
    | none => t
  { t' with beforePreviousPath := t'.previousPath, previousPath := some sel }

/-- The record goes to the ring, and the oldest one goes if the ring is full. -/
def store (t : DecisionTracker) (entry : DecisionRecord) : DecisionTracker :=
  if 0 < t.capacity then
    if t.capacity ≤ t.ring.length then
      { t with ring := t.ring.tail ++ [entry], droppedRecords := t.droppedRecords + 1 }
    else
      { t with ring := t.ring ++ [entry] }
  else
    { t with droppedRecords := t.droppedRecords + 1 }

/-- The tracker that `record` leaves. -/
def recorded (t : DecisionTracker) (v : Verdict) : DecisionTracker :=
  let id := t.nextId
  let entry := { DecisionRecord.fromSelection (UInt64.ofNat id) v.connectionId v.policyClass
    v.windowUs v.selection with previousPath := t.previousPath }
  let t := { t with nextId := id + 1 }
  let t := match v.selection.chosen with
    | some sel => t.noteSelection v.windowUs sel
    | none => t
  { t with decisions := t.decisions + 1 }.store entry

/-- `DecisionTracker::record`: the id of the decision, and the tracker. -/
def record (t : DecisionTracker) (v : Verdict) : Nat × DecisionTracker := (t.nextId, t.recorded v)

/-- The tracker after a sequence of selections. -/
def recordAll (t : DecisionTracker) (verdicts : List Verdict) : DecisionTracker :=
  verdicts.foldl (fun t v => (t.record v).2) t

end DecisionTracker

/-! ## 2. What the figures mean -/

/-- The chosen paths, holds removed. -/
def chosenPaths (verdicts : List Verdict) : List UInt32 := verdicts.filterMap (·.selection.chosen)

/-- The switches of a sequence of paths: the path that is left and the one it is left for. -/
def switchesOf : List UInt32 → List (UInt32 × UInt32)
  | a :: b :: rest => if a = b then switchesOf (b :: rest) else (a, b) :: switchesOf (b :: rest)
  | _ => []

/-- The switches whose target is the path left by the switch before. -/
def revertsOf : List (UInt32 × UInt32) → Nat
  | s :: t :: rest => (if t.2 = s.1 then 1 else 0) + revertsOf (t :: rest)
  | _ => 0

/-- **The figures are what they mean**, and no record is unaccounted for. -/
structure KpisExact (t : DecisionTracker) (verdicts : List Verdict) : Prop where
  decisions : t.decisions = verdicts.length
  switches : t.switchCount = (switchesOf (chosenPaths verdicts)).length
  reverts : t.revertCount = revertsOf (switchesOf (chosenPaths verdicts))
  records : t.ring.length + t.droppedRecords = t.decisions

/-- Somewhere a path is left for another, this one is selected at least twice in a row, and then
left for the first one again. -/
def LateRevert (paths : List UInt32) : Prop :=
  ∃ a b rest, (a :: b :: b :: rest) <:+ paths ∧ a ≠ b ∧ rest.find? (· ≠ b) = some a

/-! ## 3. What the tracker counts -/

/-- What the tracker counts as a revert: a path, another one, and the first again, each selected
once. -/
def directReverts : List UInt32 → Nat
  | a :: b :: c :: rest => (if b ≠ c ∧ a = c then 1 else 0) + directReverts (b :: c :: rest)
  | _ => 0

namespace DecisionTracker

/-- The remembered paths, the older one first. -/
def remembered (t : DecisionTracker) : List UInt32 :=
  t.beforePreviousPath.toList ++ t.previousPath.toList

/-- The older path is only remembered beside the newer one. -/
def Remembers (t : DecisionTracker) : Prop :=
  t.previousPath = none → t.beforePreviousPath = none

@[simp] theorem store_fields (t : DecisionTracker) (entry : DecisionRecord) :
    (t.store entry).previousPath = t.previousPath ∧
      (t.store entry).beforePreviousPath = t.beforePreviousPath ∧
      (t.store entry).switchCount = t.switchCount ∧ (t.store entry).revertCount = t.revertCount ∧
      (t.store entry).decisions = t.decisions := by
  unfold store
  split
  · split <;> simp
  · simp

/-- Every record is in the ring or dropped. -/
theorem store_length (t : DecisionTracker) (entry : DecisionRecord) :
    (t.store entry).ring.length + (t.store entry).droppedRecords =
      t.ring.length + t.droppedRecords + 1 := by
  unfold store
  split
  · split
    · have hpos : 0 < t.ring.length := by omega
      simp only [List.length_append, List.length_tail, List.length_singleton]
      omega
    · simp only [List.length_append, List.length_singleton]
      omega
  · rfl

/-- What a selection does to the memory and its two figures. -/
theorem recorded_some {v : Verdict} {sel : UInt32} (h : v.selection.chosen = some sel)
    (t : DecisionTracker) :
    (t.recorded v).previousPath = some sel ∧ (t.recorded v).beforePreviousPath = t.previousPath ∧
      (t.recorded v).switchCount =
        t.switchCount + (switchesOf (t.previousPath.toList ++ [sel])).length ∧
      (t.recorded v).revertCount =
        t.revertCount + (if t.previousPath.isSome ∧ t.previousPath ≠ some sel ∧
          t.beforePreviousPath = some sel then 1 else 0) := by
  simp only [recorded, h, store_fields, noteSelection]
  cases hprev : t.previousPath with
  | none => simp [switchesOf]
  | some prev =>
    by_cases hsel : prev = sel
    · simp [hsel, switchesOf]
    · by_cases hback : t.beforePreviousPath = some sel
      · simp [hsel, hback, switchesOf, countSwitch]
      · simp [hsel, hback, switchesOf, countSwitch]

theorem recorded_none {v : Verdict} (h : v.selection.chosen = none) (t : DecisionTracker) :
    (t.recorded v).previousPath = t.previousPath ∧
      (t.recorded v).beforePreviousPath = t.beforePreviousPath ∧
      (t.recorded v).switchCount = t.switchCount ∧ (t.recorded v).revertCount = t.revertCount := by
  simp [recorded, h]

theorem recorded_counts (t : DecisionTracker) (v : Verdict) :
    (t.recorded v).decisions = t.decisions + 1 ∧
      (t.recorded v).ring.length + (t.recorded v).droppedRecords =
        t.ring.length + t.droppedRecords + 1 := by
  have hnote : ∀ u : DecisionTracker, ∀ w sel, (u.noteSelection w sel).decisions = u.decisions ∧
      (u.noteSelection w sel).ring = u.ring ∧
      (u.noteSelection w sel).droppedRecords = u.droppedRecords := by
    intro u w sel
    unfold noteSelection
    split
    · split <;> exact ⟨rfl, rfl, rfl⟩
    · exact ⟨rfl, rfl, rfl⟩
  rw [recorded]
  cases hchosen : v.selection.chosen with
  | none => exact ⟨by simp, store_length _ _⟩
  | some sel =>
    obtain ⟨hdecisions, hring, hdropped⟩ := hnote { t with nextId := t.nextId + 1 } v.windowUs sel
    refine ⟨?_, (store_length _ _).trans ?_⟩
    · simp only [store_fields]
      rw [hdecisions]
    · simp only [hring, hdropped]

/-! ## 4. Whole runs -/

theorem recordAll_counts (t : DecisionTracker) (verdicts : List Verdict) :
    (t.recordAll verdicts).decisions = t.decisions + verdicts.length ∧
      (t.recordAll verdicts).ring.length + (t.recordAll verdicts).droppedRecords =
        t.ring.length + t.droppedRecords + verdicts.length := by
  induction verdicts generalizing t with
  | nil => exact ⟨rfl, rfl⟩
  | cons v verdicts ih =>
    obtain ⟨hdecisions, hrecords⟩ := recorded_counts t v
    obtain ⟨ih₁, ih₂⟩ := ih (t.recorded v)
    rw [hdecisions] at ih₁
    rw [hrecords] at ih₂
    refine ⟨ih₁.trans ?_, ih₂.trans ?_⟩
    · rw [List.length_cons]
      omega
    · rw [List.length_cons]
      omega

/-- Two paths at the front: the switch between them comes first. -/
theorem length_switchesOf_append (a : UInt32) (p : List UInt32) (rest : List UInt32)
    (h : p.length ≤ 1) : (switchesOf (p ++ a :: rest)).length =
      (switchesOf (p ++ [a])).length + (switchesOf (a :: rest)).length := by
  match p, h with
  | [], _ => simp [switchesOf]
  | [b], _ =>
    simp only [List.cons_append, List.nil_append, switchesOf]
    split
    · simp
    · simp [Nat.add_comm]

/-- **The switches are the switches**, from any memory. -/
theorem recordAll_switchCount (t : DecisionTracker) (verdicts : List Verdict) :
    (t.recordAll verdicts).switchCount =
      t.switchCount + (switchesOf (t.previousPath.toList ++ chosenPaths verdicts)).length := by
  induction verdicts generalizing t with
  | nil =>
    cases hprev : t.previousPath <;> simp [recordAll, chosenPaths, switchesOf]
  | cons v verdicts ih =>
    rw [recordAll, List.foldl_cons]
    refine (ih (t.recorded v)).trans ?_
    cases hchosen : v.selection.chosen with
    | none =>
      obtain ⟨hprev, -, hswitch, -⟩ := recorded_none hchosen t
      rw [hprev, hswitch]
      simp [chosenPaths, hchosen]
    | some sel =>
      obtain ⟨hprev, -, hswitch, -⟩ := recorded_some hchosen t
      have hlen : t.previousPath.toList.length ≤ 1 := by cases t.previousPath <;> simp
      have hpaths : chosenPaths (v :: verdicts) = sel :: chosenPaths verdicts := by
        simp [chosenPaths, hchosen]
      rw [hprev, hswitch, hpaths, length_switchesOf_append sel _ (chosenPaths verdicts) hlen]
      simp [Nat.add_assoc]

/-- **The reverts that are counted are the direct ones**, from any memory. -/
theorem recordAll_revertCount (t : DecisionTracker) (ht : t.Remembers) (verdicts : List Verdict) :
    (t.recordAll verdicts).revertCount =
      t.revertCount + directReverts (t.remembered ++ chosenPaths verdicts) := by
  induction verdicts generalizing t with
  | nil =>
    unfold remembered
    cases t.previousPath <;> cases t.beforePreviousPath <;>
      simp [recordAll, chosenPaths, directReverts]
  | cons v verdicts ih =>
    rw [recordAll, List.foldl_cons]
    cases hchosen : v.selection.chosen with
    | none =>
      obtain ⟨hprev, hbefore, -, hrevert⟩ := recorded_none hchosen t
      have hkept : (t.recorded v).Remembers := by
        rw [Remembers, hprev, hbefore]
        exact ht
      refine (ih (t.recorded v) hkept).trans ?_
      rw [hrevert, remembered, hprev, hbefore]
      simp [chosenPaths, hchosen, remembered]
    | some sel =>
      obtain ⟨hprev, hbefore, -, hrevert⟩ := recorded_some hchosen t
      have hkept : (t.recorded v).Remembers := by
        rw [Remembers, hprev]
        exact fun h => by cases h
      have hpaths : chosenPaths (v :: verdicts) = sel :: chosenPaths verdicts := by
        simp [chosenPaths, hchosen]
      refine (ih (t.recorded v) hkept).trans ?_
      rw [hrevert, hpaths, remembered, hprev, hbefore, remembered]
      -- One remembered path makes no triple yet; two make one with the new path.
      cases hp : t.previousPath with
      | none => simp [ht hp]
      | some p =>
        cases hb : t.beforePreviousPath with
        | none => simp
        | some b => simp [directReverts, Nat.add_assoc]

end DecisionTracker

/-! ## 5. Direct and late reverts -/

/-- The reverts that the tracker misses, one for each late revert. -/
def lateReverts : List UInt32 → Nat
  | a :: b :: rest =>
    (if a ≠ b ∧ rest.head? = some b ∧ rest.find? (· ≠ b) = some a then 1 else 0) +
      lateReverts (b :: rest)
  | _ => 0

/-- Whether the next switch is a revert depends on the next other path. -/
theorem revertsOf_cons (a b : UInt32) (rest : List UInt32) :
    revertsOf ((a, b) :: switchesOf (b :: rest)) =
      (if rest.find? (· ≠ b) = some a then 1 else 0) + revertsOf (switchesOf (b :: rest)) := by
  induction rest with
  | nil => simp [switchesOf, revertsOf]
  | cons c rest ih =>
    by_cases hc : b = c
    · subst hc
      simpa [switchesOf] using ih
    · simp [switchesOf, revertsOf, hc, Ne.symm hc]

/-- **Every revert is direct or late.** -/
theorem revertsOf_switchesOf (paths : List UInt32) :
    revertsOf (switchesOf paths) = directReverts paths + lateReverts paths := by
  induction paths with
  | nil => rfl
  | cons a paths ih =>
    cases paths with
    | nil => rfl
    | cons b rest =>
      by_cases hab : a = b
      · subst hab
        -- A repeated selection is no switch, and no direct revert starts with it.
        have hdirect : directReverts (a :: a :: rest) = directReverts (a :: rest) := by
          cases rest with
          | nil => rfl
          | cons c rest =>
            simp only [directReverts]
            rw [if_neg (fun h => h.1 h.2), Nat.zero_add]
        simpa [switchesOf, lateReverts, hdirect] using ih
      · rw [switchesOf, if_neg hab, revertsOf_cons, ih, lateReverts]
        cases rest with
        | nil => simp [directReverts]
        | cons c rest =>
          by_cases hc : c = b
          · subst hc
            simp [directReverts, hab]
            omega
          · have hcb : b ≠ c := fun h => hc h.symm
            simp [directReverts, hab, hcb, eq_comm]
            omega

theorem lateRevert_cons (a b : UInt32) (rest : List UInt32) :
    LateRevert (a :: b :: rest) ↔
      (a ≠ b ∧ rest.head? = some b ∧ rest.find? (· ≠ b) = some a) ∨ LateRevert (b :: rest) := by
  constructor
  · rintro ⟨a', b', rest', hsuffix, hne, hfind⟩
    rcases List.suffix_cons_iff.mp hsuffix with heq | hsuffix
    · obtain ⟨rfl, rfl, rfl⟩ := by simpa using heq
      exact Or.inl ⟨hne, rfl, by simpa using hfind⟩
    · exact Or.inr ⟨a', b', rest', hsuffix, hne, hfind⟩
  · rintro (⟨hne, hhead, hfind⟩ | ⟨a', b', rest', hsuffix, hne, hfind⟩)
    · cases rest with
      | nil => cases hhead
      | cons c rest =>
        obtain rfl : c = b := by simpa using hhead
        exact ⟨a, c, rest, List.suffix_refl _, hne, by simpa using hfind⟩
    · exact ⟨a', b', rest', hsuffix.trans (List.suffix_cons _ _), hne, hfind⟩

theorem not_lateRevert_of_length {paths : List UInt32} (h : paths.length ≤ 1) :
    ¬ LateRevert paths := by
  rintro ⟨a, b, rest, hsuffix, -⟩
  have hlen := hsuffix.length_le
  simp only [List.length_cons] at hlen
  omega

theorem lateReverts_eq_zero (paths : List UInt32) :
    lateReverts paths = 0 ↔ ¬ LateRevert paths := by
  induction paths with
  | nil => exact iff_of_true rfl (not_lateRevert_of_length (by decide))
  | cons a paths ih =>
    cases paths with
    | nil => exact iff_of_true rfl (not_lateRevert_of_length (by simp))
    | cons b rest =>
      rw [lateReverts, Nat.add_eq_zero_iff, ih, lateRevert_cons, not_or]
      simp

/-- **When the figures of the log are what they mean.**  For every sequence of selections, holds and
repetitions among them, and every capacity: decisions, switches, reverts and the account of the
records are exact if and only if there is no late revert, that is, no path is left for another that
is selected at least twice in a row and then left for the first one.  Only the reverts go wrong
there; the other figures are exact in any case. -/
theorem decision_kpis_iff (capacity : Nat) (verdicts : List Verdict) :
    KpisExact ((DecisionTracker.new capacity).recordAll verdicts) verdicts ↔
      ¬ LateRevert (chosenPaths verdicts) := by
  obtain ⟨hdecisions, hrecords⟩ := (DecisionTracker.new capacity).recordAll_counts verdicts
  have hswitches := (DecisionTracker.new capacity).recordAll_switchCount verdicts
  have hreverts := (DecisionTracker.new capacity).recordAll_revertCount (fun _ => rfl) verdicts
  simp only [DecisionTracker.new, DecisionTracker.remembered, Option.toList_none, List.nil_append,
    List.length_nil, Nat.zero_add] at hdecisions hrecords hswitches hreverts
  rw [← lateReverts_eq_zero]
  constructor
  · intro h
    have hexact := h.reverts
    rw [revertsOf_switchesOf] at hexact
    have hcounts := hexact.symm.trans hreverts
    omega
  · intro h
    refine ⟨hdecisions, hswitches, ?_, hrecords.trans hdecisions.symm⟩
    rw [revertsOf_switchesOf, h, Nat.add_zero]
    exact hreverts

/-- A selection of one path, or a hold, without candidates. -/
def verdictOf (chosen : Option UInt32) : Verdict :=
  ⟨1, .shadow, none, ⟨chosen, .singleCandidate, none, []⟩⟩

/-- **7, 2, 2, 7**: the second switch goes back to the path that the first one left, and no revert
is counted. -/
theorem late_revert_uncounted :
    ¬ KpisExact ((DecisionTracker.new 8).recordAll
        ([some 7, some 2, some 2, some 7].map verdictOf))
      ([some 7, some 2, some 2, some 7].map verdictOf) := by
  intro h
  exact absurd h.reverts (by decide)

end Route
end Gtp
