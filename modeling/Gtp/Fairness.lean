/-
# The shares of the tiers

Two tiers of the round robin that always have something to send are opened in turn, and each opening
is worth one quantum.  What a tier has not spent it keeps, but it is passed only when its first item
is dearer than that, so it never keeps more than one item's worth.  Hence the bytes served from the
two, counted in quanta, stay together (`weighted_fairness`), whatever else is queued, enqueued, put
back or dropped meanwhile.

* The invariant is `RoundRobin.Even` of the marks, with the bytes served so far.
* `popNext_even` is a call: the turns keep it (`Rounds.even`), since a tier that lasts has a live
  item when it is passed (`Took.lasts`).  No other call touches the marks.
* `run_even` is a run.

Tier 0 is not in the cycle and takes what it likes first; the shares are of what is left.  Items
must be within the budget of every call and within three quanta of both tiers: an item dearer than
that is held up, and its tier falls behind.
-/
import Gtp.Rounds
import Gtp.Lib.Runs

namespace Gtp

namespace GameScheduler

/-! ## 1. What a call serves -/

/-- The bytes of an outcome that are of tier `t`. -/
def servedFrom (t : Fin 5) (out : Option SchedulableItem) : Nat :=
  ((ofTier t out.toList).map SchedulableItem.sizeBytes).sum

/-- The bytes served from tier `t` by a sequence of calls. -/
def servedBytes (t : Fin 5) (s : GameScheduler) (ops : List Op) : Nat :=
  ((Runs.outputs step popped s ops).map (servedFrom t)).sum

/-- Tier `t` has something to send at the call, and goes on having it, unless the call serves it; no
item of it is above `most` bytes, and the budget is not below. -/
def Backlogged (most : Nat) (t : Fin 5) (s : GameScheduler) : Op → Prop
  | .popNext sendBudget now => most ≤ sendBudget ∧ s.queues t ≠ [] ∧
      ((s.popNext sendBudget now).2.queues t ≠ [] ∨
        ofTier t (s.popNext sendBudget now).1.toList ≠ []) ∧
      ∀ x ∈ s.queues t, x.sizeBytes ≤ most
  | _ => True

instance (most : Nat) (t : Fin 5) (s : GameScheduler) : ∀ op, Decidable (Backlogged most t s op)
  | .popNext _ _ => inferInstanceAs (Decidable (_ ∧ _ ∧ _ ∧ _))
  | .enqueue _ _ => isTrue trivial
  | .requeue _ _ => isTrue trivial
  | .pruneStale _ => isTrue trivial

theorem servedFrom_some (t : Fin 5) (item : SchedulableItem) :
    servedFrom t (some item) = if item.priority.idx = t then item.sizeBytes else 0 := by
  unfold servedFrom ofTier
  by_cases h : item.priority.idx = t
  · simp [h]
  · simp [h]

/-- The bytes of a visit, by the library's account. -/
theorem servedFrom_succ {item : SchedulableItem} {idx : Fin 4} (h : item.priority.idx = idx.succ)
    (t : Fin 4) : servedFrom t.succ (some item) =
      RoundRobin.sentBy t idx (some item.sizeBytes) := by
  rw [servedFrom_some, h, RoundRobin.sentBy]
  simp only [Fin.succ_inj, Option.getD_some]

/-! ## 2. One call -/

structure InUse (most : Nat) (t : Fin 4) (s : GameScheduler) : Prop where
  busy : s.Busy t
  sizes : ∀ x ∈ s.queues t.succ, x.sizeBytes ≤ most

/-- The tier still has something to send, or was served last. -/
def Lasts (t : Fin 4) (out : Option SchedulableItem × GameScheduler) : Prop :=
  out.2.queues t.succ ≠ [] ∨ ofTier t.succ out.1.toList ≠ []

section Calls

variable {sendBudget most : Nat} {now : MonotonicTime} {s s' : GameScheduler} {a b idx : Fin 4}
  {totalA totalB : Nat}

/-- A tier that lasts has a live item when it is passed. -/
theorem Took.lasts {t : Fin 4} {out : Option SchedulableItem × GameScheduler}
    (h : Took now s out.1 out.2) (hlasts : Lasts t out) : s.Busy t := by
  intro hempty
  have hitems := h.items t.succ
  rw [hempty] at hitems
  obtain ⟨hnone, -⟩ := List.append_eq_nil_iff.mp hitems.symm
  rcases hlasts with hq | hserved
  · exact hq (List.suffix_nil.mp (hempty ▸ h.suffix t.succ))
  · exact hserved hnone

/-- Passing a tier in use: it could not pay for its first item. -/
theorem InUse.passed (h : InUse most idx s) (hbudget : most ≤ sendBudget)
    (hdear : ∀ item rest, live now (s.queues idx.succ) = item :: rest →
      item.sizeBytes ≤ sendBudget → s.marks.purse quanta 4 idx < item.sizeBytes)
    (hlive : live now (s.queues idx.succ) ≠ []) : s.marks.purse quanta 4 idx ≤ most := by
  obtain ⟨item, rest, hcons⟩ := List.exists_cons_of_ne_nil hlive
  have hsize := h.sizes item (mem_of_live hcons)
  exact (hdear item rest hcons (hsize.trans hbudget)).le.trans hsize

/-- Three quanta saved and one more are within the cap. -/
theorem quanta_cap {t : Fin 4} (h : most ≤ 3 * quanta t) : most + quanta t ≤ quanta t * 4 := by
  omega

/-- **The turns of a call** keep the two tiers even. -/
theorem Rounds.even {rounds : Nat} {out : Option SchedulableItem × GameScheduler}
    (h : Rounds sendBudget now rounds s out) (hab : a ≠ b) (hma : most ≤ 3 * quanta a)
    (hmb : most ≤ 3 * quanta b) (hbudget : most ≤ sendBudget)
    (htiers : ∀ t, ∀ x ∈ s.queues t, x.priority.idx = t) (ha : InUse most a s)
    (hb : InUse most b s) (hlasta : Lasts a out) (hlastb : Lasts b out)
    (heven : RoundRobin.Even quanta most s.marks a b totalA totalB) :
    RoundRobin.Even quanta most out.2.marks a b (totalA + servedFrom a.succ out.1)
      (totalB + servedFrom b.succ out.1) := by
  induction h with
  | ended s => exact heven
  | idle hidle hq => exact absurd ha.busy (hidle a)
  | served hvisit =>
    cases hvisit with
    | served hlive hfits hturn hq =>
      have htier := htiers _ _ (mem_of_live hlive)
      rw [servedFrom_succ htier, servedFrom_succ htier]
      exact heven.turn hab (quanta_cap hma) (quanta_cap hmb) hturn ha.busy hb.busy
        fun hnone => by cases hnone
  | @passed rounds s s1 out hvisit hrest ih =>
    have htook := hvisit.took htiers
    have htiers1 := htook.tiers htiers
    have hrests := hrest.took htiers1
    -- both are still in use behind the visit, for they last
    have ha1 : InUse most a s1 :=
      ⟨hrests.lasts hlasta, fun x hx => ha.sizes x ((htook.suffix _).subset hx)⟩
    have hb1 : InUse most b s1 :=
      ⟨hrests.lasts hlastb, fun x hx => hb.sizes x ((htook.suffix _).subset hx)⟩
    refine ih htiers1 ha1 hb1 hlasta hlastb ?_
    cases hvisit with
    | @passed idx _ hdear hturn hq =>
      have hlive : s1.queues idx.succ = live now (s.queues idx.succ) := by
        rw [hq, Function.update_self]
      have hstep := heven.turn hab (quanta_cap hma) (quanta_cap hmb) hturn ha.busy hb.busy ?_
      · have hzero : ∀ t, RoundRobin.sentBy t idx none = 0 := fun t => by
          unfold RoundRobin.sentBy
          split <;> rfl
        rw [hzero, hzero] at hstep
        exact hstep
      · rintro - (rfl | rfl)
        · exact ha.passed hbudget hdear (hlive ▸ ha1.busy)
        · exact hb.passed hbudget hdear (hlive ▸ hb1.busy)

/-- **A call of `pop_next`** keeps the two tiers even. -/
theorem popNext_even (hab : a ≠ b) (hma : most ≤ 3 * quanta a) (hmb : most ≤ 3 * quanta b)
    (htiers : ∀ t, ∀ x ∈ s.queues t, x.priority.idx = t)
    (ha : Backlogged most a.succ s (.popNext sendBudget now))
    (hb : Backlogged most b.succ s (.popNext sendBudget now))
    (heven : RoundRobin.Even quanta most s.marks a b totalA totalB) :
    RoundRobin.Even quanta most (s.popNext sendBudget now).2.marks a b
      (totalA + servedFrom a.succ (s.popNext sendBudget now).1)
      (totalB + servedFrom b.succ (s.popNext sendBudget now).1) := by
  obtain ⟨hbudget, hbusya, hlasta, hsizea⟩ := ha
  obtain ⟨-, hbusyb, hlastb, hsizeb⟩ := hb
  have htakes := popNext_takes s sendBudget now
  generalize s.popNext sendBudget now = out at htakes hlasta hlastb ⊢
  cases htakes with
  | broke hzero => exact heven
  | strict hlive hfits hmarks hq =>
    have htier := htiers 0 _ (mem_of_live hlive)
    have hnone : ∀ t : Fin 4, servedFrom t.succ (some _) = 0 := fun t => by
      rw [servedFrom_some, htier, if_neg (Fin.succ_ne_zero t).symm]
    rw [hnone, hnone, hmarks]
    exact heven
  | @rounds s1 out hbig hmarks hq hrounds =>
    have hsame : ∀ t : Fin 4, s1.queues t.succ = s.queues t.succ := fun t => by
      rw [hq, Function.update_of_ne (Fin.succ_ne_zero t)]
    have hexpired : Took now s none s1 := took_expired hq
    refine hrounds.even hab hma hmb hbudget (hexpired.tiers htiers) ⟨?_, ?_⟩ ⟨?_, ?_⟩ hlasta hlastb
      (hmarks ▸ heven)
    · rw [Busy, hsame]
      exact hbusya
    · rw [hsame]
      exact hsizea
    · rw [Busy, hsame]
      exact hbusyb
    · rw [hsame]
      exact hsizeb

theorem enqueue_marks (s : GameScheduler) (item : SchedulableItem) (now : MonotonicTime) :
    (s.enqueue item now).2.marks = s.marks := by
  unfold enqueue
  dsimp only
  split
  · rfl
  · split
    · split
      · rfl
      · split <;> rfl
    · rfl

theorem requeue_marks (s : GameScheduler) (item : SchedulableItem) (now : MonotonicTime) :
    (s.requeue item now).2.marks = s.marks := by
  unfold requeue
  split <;> rfl

/-- **The step.** -/
theorem step_even (hab : a ≠ b) (hma : most ≤ 3 * quanta a) (hmb : most ≤ 3 * quanta b)
    (hs : s.Counted) {op : Op} (ha : Backlogged most a.succ s op)
    (hb : Backlogged most b.succ s op)
    (heven : RoundRobin.Even quanta most s.marks a b totalA totalB) :
    RoundRobin.Even quanta most (s.step op).marks a b (totalA + servedFrom a.succ (s.popped op))
      (totalB + servedFrom b.succ (s.popped op)) := by
  cases op with
  | enqueue item now =>
    rw [step, enqueue_marks]
    exact heven
  | requeue item now =>
    rw [step, requeue_marks]
    exact heven
  | popNext sendBudget now => exact popNext_even hab hma hmb hs.tiers ha hb heven
  | pruneStale now => exact heven

end Calls

/-! ## 3. Runs -/

/-- The calls keep the two tiers even, by induction on them. -/
theorem run_even {most : Nat} {a b : Fin 4} (hab : a ≠ b) (hma : most ≤ 3 * quanta a)
    (hmb : most ≤ 3 * quanta b) (ops : List Op) {s : GameScheduler} {totalA totalB : Nat}
    (hs : s.Counted) (h : Runs.Along step (fun s op => Backlogged most a.succ s op ∧
      Backlogged most b.succ s op) s ops)
    (heven : RoundRobin.Even quanta most s.marks a b totalA totalB) :
    RoundRobin.Even quanta most (ops.foldl step s).marks a b
      (totalA + servedBytes a.succ s ops) (totalB + servedBytes b.succ s ops) := by
  induction ops generalizing s totalA totalB with
  | nil => exact heven
  | cons op ops ih =>
    have hstep := step_even hab hma hmb hs h.1.1 h.1.2 heven
    have hrest := ih (hs.step op) h.2 hstep
    rw [Nat.add_assoc, Nat.add_assoc] at hrest
    exact hrest

/-- The tier that comes first in the cycle is ahead at first. -/
theorem fairness_of_lt (caps : Fin 5 → Nat) (limit : Nat) {most : Nat} {a b : Fin 4} (hab : a < b)
    (hma : most ≤ 3 * quanta a) (hmb : most ≤ 3 * quanta b) {ops : List Op}
    (h : Runs.Along step (fun s op => Backlogged most a.succ s op ∧ Backlogged most b.succ s op)
      (withPerTierCapsAndItemLimit caps limit) ops) :
    |(servedBytes a.succ (withPerTierCapsAndItemLimit caps limit) ops : ℚ) / quanta a -
        servedBytes b.succ (withPerTierCapsAndItemLimit caps limit) ops / quanta b| ≤
      1 + most / quanta a + most / quanta b := by
  have hne : a ≠ b := ne_of_lt hab
  have hstart : RoundRobin.Even quanta most (withPerTierCapsAndItemLimit caps limit).marks a b 0
      0 := by
    refine RoundRobin.even_start (fun _ => rfl) (fun _ => rfl) ?_
    have hahead : ∀ a b : Fin 4, a < b → RoundRobin.Ahead (cursorOf 1) a b := by decide
    exact hahead a b hab
  have hend := run_even hne hma hmb ops (run_counted caps limit []).1 h hstart
  rw [Nat.zero_add, Nat.zero_add] at hend
  exact hend.difference hne (quanta_pos a) (quanta_pos b)

/-- **Weighted fairness.**  A new scheduler, and calls in any order, with any items, times and
traffic in the other tiers.  Two tiers of the round robin that have something to send at every call
of `pop_next`, with items of at most `most` bytes, which is within every call's budget and within
three quanta of each: what has been served from them differs, counted in quanta, by at most one and
the `most` bytes that each may have saved up. -/
theorem weighted_fairness (caps : Fin 5 → Nat) (limit : Nat) {i j : Fin 5} (hi : i ≠ 0) (hj : j ≠ 0)
    (most : Nat) (hmi : most ≤ 3 * tierQuantum i) (hmj : most ≤ 3 * tierQuantum j) (ops : List Op)
    (h : Runs.Along step (fun s op => Backlogged most i s op ∧ Backlogged most j s op)
      (withPerTierCapsAndItemLimit caps limit) ops) :
    |(servedBytes i (withPerTierCapsAndItemLimit caps limit) ops : ℚ) / tierQuantum i -
        servedBytes j (withPerTierCapsAndItemLimit caps limit) ops / tierQuantum j| ≤
      1 + most / tierQuantum i + most / tierQuantum j := by
  obtain ⟨a, rfl⟩ := Fin.exists_succ_eq.mpr hi
  obtain ⟨b, rfl⟩ := Fin.exists_succ_eq.mpr hj
  rcases lt_trichotomy a b with hlt | rfl | hlt
  · exact fairness_of_lt caps limit hlt hmi hmj h
  · have hnonneg : (0 : ℚ) ≤ most / tierQuantum a.succ :=
      div_nonneg (Nat.cast_nonneg _) (Nat.cast_nonneg _)
    rw [sub_self, abs_zero]
    linarith
  · have hswap : Runs.Along step (fun s op => Backlogged most b.succ s op ∧
        Backlogged most a.succ s op) (withPerTierCapsAndItemLimit caps limit) ops :=
      Runs.along_iff.mpr fun before op after heq =>
        (Runs.along_iff.mp h before op after heq).symm
    rw [abs_sub_comm, add_right_comm]
    exact fairness_of_lt caps limit hlt hmj hmi hswap

/-- Items of 400 bytes in the tiers 3 and 4, and five calls of `pop_next`. -/
def sharedCycle : List Op :=
  List.replicate 6 (.enqueue ⟨1, .unreliable, .p3ReliableGameplay, 0, none, false,
    List.replicate 400 0, 0, 1⟩ 0) ++
  List.replicate 3 (.enqueue ⟨2, .unreliable, .p4BulkCosmetic, 0, none, false,
    List.replicate 400 0, 0, 1⟩ 0) ++
  List.replicate 5 (.popNext 1200 0)

/-- The theorem at `sharedCycle`. -/
theorem fairness_sharedCycle :
    |(servedBytes 3 (withPerTierCapsAndItemLimit (fun _ => 4096) 8) sharedCycle : ℚ) /
          tierQuantum 3 -
        servedBytes 4 (withPerTierCapsAndItemLimit (fun _ => 4096) 8) sharedCycle /
          tierQuantum 4| ≤ 1 + (400 : Nat) / tierQuantum 3 + (400 : Nat) / tierQuantum 4 :=
  weighted_fairness (fun _ => 4096) 8 (by decide) (by decide) 400 (by decide) (by decide)
    sharedCycle (by decide +kernel)

end GameScheduler

end Gtp
