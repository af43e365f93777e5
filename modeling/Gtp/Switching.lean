/-
# How often the route controller changes its mind (`gtp-route/src/switch.rs`)

The controller is meant not to flap: a selected path is held for `min_dwell`, and the only earlier
change is a revert, which undoes the switch just made.  But a revert is itself a move that can be
reverted, since the test for it runs before the dwell floor and looks only at the path left last.

A run is followed through the list of its changes.

* `evaluate_cases` says once what an evaluation can do.
* `Follows` ties the controller to the last of its changes, and `Follows.step` is one evaluation:
  without a change the controller stays as it was; a change is spaced from the last one unless the
  evaluation is a relapse.
* `antiFlap_iff` says that the changes of a run are spaced as intended exactly when no revert is
  undone within the dwell time.

The scores that rank the paths are exact rationals in `Gtp.Selection`, where the code has `f64`.
The controller reads a selection through `chosen` alone, and the results of this module hold
whatever path is chosen, and whatever the times of the calls are.  Whether the path chosen is a good
one is not the subject.
-/
import Gtp.Route
import Mathlib.Data.List.Chain

namespace Gtp

namespace SwitchController

/-! ## 1. Changes of the selected path -/

/-- How the selected path came to change. -/
inductive Kind where
  | adopted
  | switched
  | reverted
  deriving DecidableEq, Repr

/-- One change of the selected path. -/
structure Change where
  kind : Kind
  left : Option UInt32
  taken : UInt32
  time : MonotonicTime
  deriving DecidableEq, Repr

/-- The arguments of one evaluation. -/
abbrev Input := List PathStats × MonotonicTime

/-- The kind of change that a decision announces. -/
def kindOf : SwitchDecision → Kind
  | .switch .. => .switched
  | .revert .. => .reverted
  | .hold .. => .adopted

/-- The change of the selected path that an evaluation makes, if any. -/
def changeOf (c : SwitchController) (input : Input) : Option Change :=
  let (decision, c') := c.evaluate input.1 input.2
  if c'.selected = c.selected then none
  else c'.selected.map fun p => ⟨kindOf decision, c.selected, p, input.2⟩

/-- The controller after a run of evaluations. -/
def after (c : SwitchController) (inputs : List Input) : SwitchController :=
  inputs.foldl (fun c input => (c.evaluate input.1 input.2).2) c

def changes (c : SwitchController) : List Input → List Change
  | [] => []
  | input :: rest => (c.changeOf input).toList ++ changes (c.evaluate input.1 input.2).2 rest

theorem changes_append (c : SwitchController) (xs ys : List Input) :
    c.changes (xs ++ ys) = c.changes xs ++ (c.after xs).changes ys := by
  induction xs generalizing c with
  | nil => rfl
  | cons x xs ih =>
    rw [List.cons_append, changes, changes, ih, List.append_assoc]
    rfl

/-! ## 2. One evaluation -/

/-- **What an evaluation does.**  It leaves the selected path, adopts the first one, undoes the last
move within the revert window, or switches after the dwell time. -/
theorem evaluate_cases (c : SwitchController) (candidates : List PathStats) (now : MonotonicTime) :
    (∃ current reason, c.evaluate candidates now =
      (.hold current reason, { c with decisionCount := c.decisionCount + 1 })) ∨
    (∃ winner reason, c.selected = none ∧ c.evaluate candidates now =
      (.hold winner reason,
        { c with
          decisionCount := c.decisionCount + 1
          selected := some winner
          lastSwitchTime := now })) ∨
    (∃ current winner, c.selected = some current ∧ winner ≠ current ∧
      (Route.select candidates).chosen = some winner ∧ c.previous = some winner ∧
      now - c.lastSwitchTime < c.revertWindow ∧ c.evaluate candidates now =
        (.revert current winner,
          ({ c with decisionCount := c.decisionCount + 1 } : SwitchController).move current winner
            now)) ∨
    (∃ current winner reason, c.selected = some current ∧ winner ≠ current ∧
      ¬ now - c.lastSwitchTime < c.minDwell ∧ c.policy = .enforce ∧ c.evaluate candidates now =
        (.switch current winner reason,
          ({ c with decisionCount := c.decisionCount + 1 } : SwitchController).move current winner
            now)) := by
  unfold evaluate
  dsimp only
  cases hchosen : (Route.select candidates).chosen with
  | none => exact Or.inl ⟨_, _, rfl⟩
  | some winner =>
    cases hselected : c.selected with
    | none => exact Or.inr (Or.inl ⟨winner, (Route.select candidates).reason, rfl, by simp⟩)
    | some current =>
      by_cases hsame : winner = current
      · exact Or.inl ⟨current, (Route.select candidates).reason, by simp [hsame]⟩
      · by_cases hrevert : c.previous = some winner ∧ now - c.lastSwitchTime < c.revertWindow
        · refine Or.inr (Or.inr (Or.inl ⟨current, winner, rfl, hsame, rfl, hrevert.1, hrevert.2, ?_⟩))
          simp [hsame, hrevert]
        · by_cases hdwell : now - c.lastSwitchTime < c.minDwell
          · exact Or.inl ⟨current, .tieBreakLowerId, by simp [hsame, hrevert, hdwell]⟩
          · by_cases hpolicy : c.policy = .enforce
            · refine Or.inr (Or.inr (Or.inr ⟨current, winner, (Route.select candidates).reason, rfl,
                hsame, hdwell, hpolicy, ?_⟩))
              simp [hsame, hrevert, hdwell, hpolicy]
            · exact Or.inl ⟨current, .clearWinner, by simp [hsame, hrevert, hdwell, hpolicy]⟩

/-! ## 3. The controller and its last change -/

/-- The controller remembers exactly its last change. -/
structure Follows (c : SwitchController) (last : Option Change) : Prop where
  minDwell : c.minDwell = Duration.fromMillis 200
  revertWindow : c.revertWindow = Duration.fromMillis 500
  selected : c.selected = last.map Change.taken
  previous : c.previous = last.bind Change.left
  time : ∀ ch ∈ last, c.lastSwitchTime = ch.time
  moved : ∀ ch ∈ last, ch.left ≠ some ch.taken
  adopted : ∀ ch ∈ last, ch.kind = .adopted ↔ ch.left = none

theorem follows_new (policy : SwitchPolicy) : (new policy).Follows none :=
  ⟨rfl, rfl, rfl, rfl, by simp, by simp, by simp⟩

/-- Two consecutive changes as the policy intends them: a dwell time apart, or a revert that undoes
the switch before it within the revert window; and two reverts are a dwell time apart. -/
def Spaced (a b : Change) : Prop :=
  (a.time + Duration.fromMillis 200 ≤ b.time ∨
    (a.kind = .switched ∧ b.kind = .reverted ∧ b.left = some a.taken ∧ a.left = some b.taken ∧
      b.time < a.time + Duration.fromMillis 500)) ∧
    ¬ (a.kind = .reverted ∧ b.kind = .reverted ∧ b.time < a.time + Duration.fromMillis 200)

/-- The evaluation undoes a revert within the dwell time: the path that the revert left is chosen
again. -/
def Relapse (last : Option Change) (input : Input) : Prop :=
  ∃ ch ∈ last, ch.kind = .reverted ∧ input.2 < ch.time + Duration.fromMillis 200 ∧
    (Route.select input.1).chosen = ch.left

/-- What a change leaves behind. -/
theorem follows_move {c : SwitchController} {last : Option Change} (h : c.Follows last)
    {current winner : UInt32} (hselected : c.selected = some current) (hne : winner ≠ current)
    (now : MonotonicTime) {kind : Kind} (hkind : kind ≠ .adopted) :
    (({ c with decisionCount := c.decisionCount + 1 } : SwitchController).move current winner
      now).Follows (some ⟨kind, c.selected, winner, now⟩) := by
  refine ⟨h.minDwell, h.revertWindow, rfl, hselected.symm, by simp [move], ?_, ?_⟩
  · intro ch hch
    obtain rfl := Option.mem_some_iff.mp hch
    rw [hselected]
    exact fun heq => hne (Option.some.inj heq).symm
  · intro ch hch
    obtain rfl := Option.mem_some_iff.mp hch
    rw [hselected]
    simp [hkind]

theorem changeOf_move {c : SwitchController} {input : Input} {decision : SwitchDecision}
    {current winner : UInt32} (hselected : c.selected = some current) (hne : winner ≠ current)
    (h : c.evaluate input.1 input.2 = (decision,
      ({ c with decisionCount := c.decisionCount + 1 } : SwitchController).move current winner
        input.2)) :
    c.changeOf input = some ⟨kindOf decision, c.selected, winner, input.2⟩ := by
  unfold changeOf
  rw [h]
  dsimp only [move]
  rw [if_neg]
  · rfl
  · rw [hselected]
    exact fun heq => hne (Option.some.inj heq)

theorem changeOf_same {c c' : SwitchController} {input : Input} {decision : SwitchDecision}
    (h : c.evaluate input.1 input.2 = (decision, c')) (hsame : c'.selected = c.selected) :
    c.changeOf input = none := by
  unfold changeOf
  rw [h]
  exact if_pos hsame

theorem sub_lt_of_lt_add {a b d e : Nat} (h : a < b + d) (hde : d < e) (hd : 0 < d) :
    a - b < e := by omega

theorem lt_add_of_sub_lt {a b d : Nat} (h : a - b < d) : a < b + d := by omega

theorem add_le_of_not_sub_lt {a b d : Nat} (h : ¬ a - b < d) (hd : 0 < d) : b + d ≤ a := by omega

theorem Follows.evaluate_relapse {c : SwitchController} {last : Option Change} (h : c.Follows last)
    {input : Input} (hr : Relapse last input) :
    ∃ current winner, c.selected = some current ∧ winner ≠ current ∧
      c.evaluate input.1 input.2 = (.revert current winner,
        ({ c with decisionCount := c.decisionCount + 1 } : SwitchController).move current winner
          input.2) := by
  obtain ⟨ch, hch, hkind, htime, hchosen⟩ := hr
  obtain rfl := hch
  have hselected : c.selected = some ch.taken := h.selected
  have hprevious : c.previous = ch.left := h.previous
  have hmoved := h.moved ch rfl
  have hlast := h.time ch rfl
  cases hleft : ch.left with
  | none =>
    have hadopted := (h.adopted ch rfl).mpr hleft
    rw [hkind] at hadopted
    cases hadopted
  | some winner =>
    rw [hleft] at hchosen hprevious hmoved
    have hne : winner ≠ ch.taken := fun heq => hmoved (congrArg some heq)
    have hwindow : input.2 - c.lastSwitchTime < c.revertWindow := by
      rw [hlast, h.revertWindow]
      exact sub_lt_of_lt_add htime (by decide) (by decide)
    refine ⟨ch.taken, winner, hselected, hne, ?_⟩
    unfold evaluate
    simp [hchosen, hselected, hne, hprevious, hwindow]

/-- **One evaluation.**  Without a change the controller stays as it was; a change is spaced from
the last one unless the evaluation is a relapse; and a relapse is a change that is not spaced. -/
theorem Follows.step {c : SwitchController} {last : Option Change} (h : c.Follows last)
    (input : Input) :
    ((c.evaluate input.1 input.2).2.Follows ((c.changeOf input).or last)) ∧
      ((∀ a ∈ last, ∀ b ∈ c.changeOf input, Spaced a b) ↔ ¬ Relapse last input) := by
  by_cases hr : Relapse last input
  · obtain ⟨current, winner, hselected, hne, heval⟩ := h.evaluate_relapse hr
    rw [changeOf_move hselected hne heval, heval]
    refine ⟨follows_move h hselected hne input.2 (by simp [kindOf]), ?_⟩
    refine iff_of_false ?_ (not_not.mpr hr)
    obtain ⟨ch, hch, hkind, htime, -⟩ := hr
    intro hspaced
    exact (hspaced ch hch _ rfl).2 ⟨hkind, rfl, htime⟩
  · rw [iff_true_right hr]
    rcases c.evaluate_cases input.1 input.2 with ⟨current, reason, heval⟩ |
      ⟨winner, reason, hnone, heval⟩ |
      ⟨current, winner, hselected, hne, hchosen, hprevious, hwindow, heval⟩ |
      ⟨current, winner, reason, hselected, hne, hdwell, hpolicy, heval⟩
    · rw [changeOf_same heval rfl, heval]
      refine ⟨⟨h.minDwell, h.revertWindow, h.selected, h.previous, h.time, h.moved, h.adopted⟩, ?_⟩
      simp
    · have hlast : last = none := by
        have hselected := h.selected
        rw [hnone] at hselected
        exact Option.map_eq_none_iff.mp hselected.symm
      have hprevious := h.previous
      subst hlast
      have hchange : c.changeOf input = some ⟨.adopted, none, winner, input.2⟩ := by
        unfold changeOf
        rw [heval]
        simp [hnone, kindOf]
      rw [hchange, heval]
      refine ⟨⟨h.minDwell, h.revertWindow, rfl, hprevious, ?_, ?_, ?_⟩, by simp⟩
      · rintro ch hch
        obtain rfl := Option.mem_some_iff.mp hch
        rfl
      · rintro ch hch
        obtain rfl := Option.mem_some_iff.mp hch
        simp
      · rintro ch hch
        obtain rfl := Option.mem_some_iff.mp hch
        simp
    · rw [changeOf_move hselected hne heval, heval]
      refine ⟨follows_move h hselected hne input.2 (by simp [kindOf]), ?_⟩
      intro a ha b hb
      obtain rfl := Option.mem_some_iff.mp hb
      obtain rfl := ha
      have hleft : a.left = some winner := h.previous.symm.trans hprevious
      have htaken : c.selected = some a.taken := h.selected
      have htime := h.time a rfl
      have hnot : a.kind = .reverted → a.time + Duration.fromMillis 200 ≤ input.2 := by
        intro hkind
        by_contra hlt
        exact hr ⟨a, rfl, hkind, Nat.not_le.mp hlt, hchosen.trans hleft.symm⟩
      rw [htime, h.revertWindow] at hwindow
      cases hkind : a.kind with
      | adopted =>
        have hnone := (h.adopted a rfl).mp hkind
        rw [hleft] at hnone
        cases hnone
      | switched =>
        refine ⟨Or.inr ⟨hkind, rfl, htaken, hleft, ?_⟩, fun hrev => by simp [hkind] at hrev⟩
        exact lt_add_of_sub_lt hwindow
      | reverted =>
        have hle := hnot hkind
        exact ⟨Or.inl hle, fun hrev => absurd hle (Nat.not_le.mpr hrev.2.2)⟩
    · rw [changeOf_move hselected hne heval, heval]
      refine ⟨follows_move h hselected hne input.2 (by simp [kindOf]), ?_⟩
      intro a ha b hb
      obtain rfl := Option.mem_some_iff.mp hb
      obtain rfl := ha
      have htime := h.time a rfl
      have hle : a.time + Duration.fromMillis 200 ≤ input.2 := by
        rw [htime, h.minDwell] at hdwell
        exact add_le_of_not_sub_lt hdwell (by decide)
      exact ⟨Or.inl hle, fun hrev => by simp [kindOf] at hrev⟩

/-! ## 4. Runs -/

theorem changes_singleton (c : SwitchController) (input : Input) :
    c.changes [input] = (c.changeOf input).toList := List.append_nil _

theorem getLast?_append_toList (l : List Change) (o : Option Change) :
    (l ++ o.toList).getLast? = o.or l.getLast? := by
  cases o with
  | none => simp
  | some x => simp

/-- The controller follows its changes along every run. -/
theorem follows_after (policy : SwitchPolicy) (inputs : List Input) :
    ((new policy).after inputs).Follows ((new policy).changes inputs).getLast? := by
  induction inputs using List.reverseRecOn with
  | nil => exact follows_new policy
  | append_singleton inputs input ih =>
    have hstep := (ih.step input).1
    rw [changes_append, changes_singleton, getLast?_append_toList, after, List.foldl_append]
    exact hstep

/-- Some evaluation of the run is a relapse. -/
def Relapses (policy : SwitchPolicy) (inputs : List Input) : Prop :=
  ∃ before input rest, inputs = before ++ input :: rest ∧
    Relapse ((new policy).changes before).getLast? input

theorem relapses_append (policy : SwitchPolicy) (inputs : List Input) (input : Input) :
    Relapses policy (inputs ++ [input]) ↔
      Relapses policy inputs ∨ Relapse ((new policy).changes inputs).getLast? input := by
  constructor
  · rintro ⟨before, x, rest, heq, hr⟩
    rcases List.eq_nil_or_concat rest with rfl | ⟨rest', y, rfl⟩
    · obtain ⟨rfl, hx⟩ := List.append_inj' heq rfl
      obtain rfl := List.singleton_inj.mp hx
      exact Or.inr hr
    · rw [List.concat_eq_append, ← List.cons_append, ← List.append_assoc] at heq
      obtain ⟨hinit, -⟩ := List.append_inj' heq rfl
      exact Or.inl ⟨before, x, rest', hinit, hr⟩
  · rintro (⟨before, x, rest, rfl, hr⟩ | hr)
    · exact ⟨before, x, rest ++ [input], by simp, hr⟩
    · exact ⟨inputs, input, [], rfl, hr⟩

theorem spaced_iff (policy : SwitchPolicy) (inputs : List Input) :
    ((new policy).changes inputs).IsChain Spaced ↔ ¬ Relapses policy inputs := by
  induction inputs using List.reverseRecOn with
  | nil =>
    refine iff_of_true List.isChain_nil ?_
    rintro ⟨before, input, rest, heq, -⟩
    exact absurd heq.symm (by simp)
  | append_singleton inputs input ih =>
    have hstep := ((follows_after policy inputs).step input).2
    have hsingle : ∀ o : Option Change, o.toList.IsChain Spaced := by
      intro o
      cases o <;> simp
    rw [changes_append, changes_singleton, List.isChain_append, relapses_append, ih, not_or, ← hstep]
    simp [hsingle]

/-- Under `Shadow` nothing is ever left, so nothing is reverted to. -/
structure Shadowing (c : SwitchController) (n : Nat) : Prop where
  policy : c.policy = .shadow
  previous : c.previous = none
  changes : n ≤ 1
  selected : c.selected = none → n = 0

theorem Shadowing.step {c : SwitchController} {n : Nat} (h : c.Shadowing n) (input : Input) :
    (c.evaluate input.1 input.2).2.Shadowing (n + (c.changeOf input).toList.length) := by
  rcases c.evaluate_cases input.1 input.2 with ⟨current, reason, heval⟩ |
    ⟨winner, reason, hnone, heval⟩ |
    ⟨current, winner, -, -, -, hprevious, -⟩ |
    ⟨current, winner, reason, -, -, -, hpolicy, -⟩
  · rw [changeOf_same heval rfl, heval]
    exact ⟨h.policy, h.previous, h.changes, h.selected⟩
  · have hzero := h.selected hnone
    have hlen : (c.changeOf input).toList.length ≤ 1 := by
      cases c.changeOf input <;> simp
    rw [heval]
    exact ⟨h.policy, h.previous, by omega, by simp⟩
  · rw [h.previous] at hprevious
    cases hprevious
  · rw [h.policy] at hpolicy
    cases hpolicy

theorem shadowing_after (inputs : List Input) :
    ((new .shadow).after inputs).Shadowing ((new .shadow).changes inputs).length := by
  induction inputs using List.reverseRecOn with
  | nil => exact ⟨rfl, rfl, by decide, fun _ => rfl⟩
  | append_singleton inputs input ih =>
    have hstep := ih.step input
    rw [changes_append, changes_singleton, List.length_append, after, List.foldl_append]
    exact hstep

/-- **Anti-flap.**  Over every run of evaluations, consecutive changes of the selected path are a
dwell time apart, or the second is a revert that undoes the switch before it, and a shadowing
controller changes once at most -- exactly when no evaluation, within the dwell time of a revert,
chooses the path which that revert left.  An evaluation reads the selection only through the path it
chooses, `(select ..).chosen`, so it makes no difference to this that the scores behind the choice
are exact rationals here and `f64` in the code. -/
theorem antiFlap_iff (policy : SwitchPolicy) (inputs : List Input) :
    (((new policy).changes inputs).IsChain Spaced ∧
      (policy = .shadow → ((new policy).changes inputs).length ≤ 1)) ↔
      ¬ Relapses policy inputs := by
  rw [← spaced_iff]
  refine and_iff_left ?_
  rintro rfl
  exact (shadowing_after inputs).changes

/-- A path that is good by itself. -/
def goodPath (pathId : UInt32) : PathStats :=
  { PathStats.default with pathId, rttUs := some 0, sampleCount := 30 }

theorem select_goodPath : (Route.select [goodPath 1]).chosen = some 1 ∧
    (Route.select [goodPath 2]).chosen = some 2 := by
  have hrank : ∀ id, Route.rank [goodPath id] = [Route.scoreCandidate (goodPath id)] :=
    fun id => List.mergeSort_singleton _
  unfold Route.select
  rw [hrank, hrank]
  decide +kernel

/-- **A revert reverted.**  The controller adopts path 1, switches to path 2 after the dwell time,
and then follows measurements that alternate: two reverts, a microsecond apart. -/
theorem reverts_flap :
    ¬ ((new .enforce).changes [([goodPath 1], 0), ([goodPath 2], 200000), ([goodPath 1], 200001),
      ([goodPath 2], 200002)]).IsChain Spaced := by
  obtain ⟨h1, h2⟩ := select_goodPath
  have hchanges : (new .enforce).changes [([goodPath 1], 0), ([goodPath 2], 200000),
      ([goodPath 1], 200001), ([goodPath 2], 200002)] =
      [⟨.adopted, none, 1, 0⟩, ⟨.switched, some 1, 2, 200000⟩, ⟨.reverted, some 2, 1, 200001⟩,
        ⟨.reverted, some 1, 2, 200002⟩] := by
    simp [changes, changeOf, evaluate, h1, h2, new, move, kindOf, Duration.fromMillis, u64Max]
  rw [hchanges]
  simp [Spaced, Duration.fromMillis, u64Max]

end SwitchController

end Gtp
