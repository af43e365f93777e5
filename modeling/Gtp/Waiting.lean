/-
# How long a tier waits

A busy tier of the round robin is passed when its first item is dearer than the budget of the call,
or than what the tier has saved.  While it has saved less than four quanta, each time it is passed
brings it closer to them, so that there is a bound on what another tier may send before it is
served.  Once it has saved them, only the budget can hold it up, and nothing bounds that.

* `WithinCap` says that no tier has saved more than four quanta; every call keeps it
  (`WithinCap.popNext`).
* `overlooks` is a call that passes a tier which has saved them.  No call does that to a tier whose
  items are all within the budget (`overlooks_of_small`).
* `credit` is what tier `a` may send before tier `b` is served, at most nine quanta of `a`
  (`WithinCap.credit_le`).  A call that neither serves `b` nor overlooks it pays what it serves of
  `a` out of that (`popNext_credit`).
* `Pair` is two tiers that are alone: which of them a call serves, and that a call with room for
  neither puts the turn back to the first one (`Pair.overlooked`).

Tier 0 is not in the cycle and may hold up all others.  Nothing here is about datagrams: the credit
is followed through the data loop in `Gtp.Core.Starvation`, and `Gtp.Core.Starving` has a pair of
tiers of which one waits for as long as one likes.
-/
import Gtp.Fairness

namespace Gtp

namespace GameScheduler

/-! ## 1. Deficits stay within the cap -/

/-- No tier of the cycle has saved more than four of its quanta. -/
def WithinCap (s : GameScheduler) : Prop := ∀ t, s.marks.deficit t ≤ quanta t * 4

theorem WithinCap.same {s s' : GameScheduler} (h : s.WithinCap) (heq : s'.marks = s.marks) :
    s'.WithinCap := by
  intro t
  rw [heq]
  exact h t

theorem WithinCap.congr {s s' : GameScheduler} (h : s.WithinCap) (heq : s'.deficits = s.deficits) :
    s'.WithinCap := by
  intro t
  change s'.deficits t.succ ≤ _
  rw [heq]
  exact h t

theorem WithinCap.update {s s' : GameScheduler} (h : s.WithinCap) {tier : Fin 5} {d : Nat}
    (hd : d ≤ tierQuantum tier * 4) (heq : s'.deficits = Function.update s.deficits tier d) :
    s'.WithinCap := by
  intro t
  change s'.deficits t.succ ≤ _
  rw [heq]
  by_cases ht : t.succ = tier
  · rw [ht, Function.update_self, quanta, ht]
    exact hd
  · rw [Function.update_of_ne ht]
    exact h t

theorem WithinCap.scanTiers {s : GameScheduler} (h : s.WithinCap) (steps : List Nat) :
    (s.scanTiers steps).1.WithinCap := by
  induction steps generalizing s with
  | nil => exact h
  | cons step rest ih =>
    rw [GameScheduler.scanTiers]
    split
    · exact ih (h.update (Nat.zero_le _) rfl)
    · exact h

theorem WithinCap.accrue {s : GameScheduler} (h : s.WithinCap) (idx : Fin 5) :
    (s.accrue idx).WithinCap := by
  unfold GameScheduler.accrue
  split
  · exact h
  · exact h.update (Nat.min_le_right _ _) rfl

theorem serveTier_deficits (s : GameScheduler) (tier : Fin 5) (now : MonotonicTime)
    (ok : SchedulableItem → Bool) (q : List SchedulableItem) :
    (s.serveTier tier now ok q).2.deficits = s.deficits := by
  have hserves := serveTier_serves s tier now ok q
  generalize s.serveTier tier now ok q = out at hserves ⊢
  cases hserves with
  | front hlive hok hq hdeficits => exact hdeficits
  | nothing hno hq hdeficits => exact hdeficits

theorem WithinCap.drrRounds {s : GameScheduler} (h : s.WithinCap) (sendBudget : Nat)
    (now : MonotonicTime) (rounds : Nat) : (drrRounds sendBudget now rounds s).2.WithinCap := by
  induction rounds generalizing s with
  | zero => exact h
  | succ rounds ih =>
    have hscan := h.scanTiers [0, 1, 2, 3]
    rw [GameScheduler.drrRounds]
    rcases hs1 : s.scanTiers [0, 1, 2, 3] with ⟨s1, idx⟩
    rw [hs1] at hscan
    cases idx with
    | none => exact hscan
    | some tier =>
      obtain ⟨idx, rfl, -⟩ := scanTiers_some hs1
      have hacc := WithinCap.accrue hscan idx.succ
      dsimp only
      generalize s1.accrue idx.succ = s2 at hacc ⊢
      have hserve := serveTier_deficits s2 idx.succ now (fun item =>
        decide (item.sizeBytes ≤ sendBudget) && decide (item.sizeBytes ≤ s2.deficits idx.succ))
        (s2.queues idx.succ)
      rcases hs3 : s2.serveTier idx.succ now _ (s2.queues idx.succ) with ⟨front, s3⟩
      rw [hs3] at hserve
      have hcap := hacc.congr hserve
      cases front with
      | some front => exact hcap.update ((Nat.sub_le _ _).trans (hcap idx)) rfl
      | none => exact ih (hcap.congr rfl)

theorem WithinCap.popNext {s : GameScheduler} (h : s.WithinCap) (sendBudget : Nat)
    (now : MonotonicTime) : (s.popNext sendBudget now).2.WithinCap := by
  unfold GameScheduler.popNext
  split
  · exact h
  · dsimp only
    generalize PriorityTier.p0Control.idx = strict
    have hserve := serveTier_deficits s strict now
      (fun item => decide (item.sizeBytes ≤ sendBudget)) (s.queues strict)
    rcases hs2 : s.serveTier strict now _ (s.queues strict) with ⟨front, s2⟩
    rw [hs2] at hserve
    have hcap := h.congr hserve
    cases front with
    | some front => exact hcap
    | none => exact hcap.drrRounds sendBudget now 4

/-! ## 2. The credit of a tier -/

/-- What tier `a` may send before tier `b` is served. -/
def credit (s : GameScheduler) (a b : Fin 4) : Nat := s.marks.credit quanta 4 a b

theorem WithinCap.credit_le {s : GameScheduler} (h : s.WithinCap) (a b : Fin 4) :
    s.credit a b ≤ quanta a * 9 :=
  RoundRobin.Marks.credit_le (by decide) (h a) b

section Calls

variable {sendBudget : Nat} {now : MonotonicTime} {s s' : GameScheduler} {a b idx : Fin 4}

theorem Fresh.live_eq (h : s.Fresh now) (t : Fin 5) : live now (s.queues t) = s.queues t := by
  have hall := h t
  cases hq : s.queues t with
  | nil => rfl
  | cons item rest =>
    rw [hq] at hall
    refine List.dropWhile_cons_of_neg ?_
    rw [hall item List.mem_cons_self]
    exact Bool.false_ne_true

/-- One of the next turns passes the tier although it has saved four quanta. -/
def overlooksIn (tier : Fin 5) (sendBudget : Nat) (now : MonotonicTime) :
    Nat → GameScheduler → Bool
  | 0, _ => false
  | rounds + 1, s =>
    match s.passTurn sendBudget now with
    | none => false
    | some (idx, s) =>
      decide (idx = tier ∧ tierQuantum tier * 4 ≤ s.deficits tier) ||
        overlooksIn tier sendBudget now rounds s

/-- The call of `pop_next` passes the tier although it has saved four quanta: more it cannot save,
so what it lacks is the room for its first item. -/
def overlooks (tier : Fin 5) (sendBudget : Nat) (now : MonotonicTime) (s : GameScheduler) : Bool :=
  if sendBudget = 0 then false
  else
    let strict := PriorityTier.p0Control.idx
    let fits := fun item : SchedulableItem => decide (item.sizeBytes ≤ sendBudget)
    match s.serveTier strict now fits (s.queues strict) with
    | (some _, _) => false
    | (none, s) => overlooksIn tier sendBudget now 4 s

/-- A tier is not overlooked when each of its items fits, the budget and what it may save. -/
theorem overlooksIn_of_small {rounds : Nat} (hlive : s.Fresh now)
    (hbudget : ∀ x ∈ s.queues b.succ, x.sizeBytes ≤ sendBudget)
    (hcap : ∀ x ∈ s.queues b.succ, x.sizeBytes ≤ quanta b * 4) :
    overlooksIn b.succ sendBudget now rounds s = false := by
  induction rounds generalizing s with
  | zero => rfl
  | succ rounds ih =>
    rw [overlooksIn]
    cases nextTurn sendBudget now rounds s with
    | @passed idx s1 hpass hgo hdear hturn hq =>
      have hsame : s1.queues = s.queues := by
        rw [hq, hlive.live_eq, Function.update_eq_self]
      have hbelow : ¬ (idx.succ = b.succ ∧ tierQuantum b.succ * 4 ≤ s1.deficits b.succ) := by
        rintro ⟨hidx, hfull⟩
        obtain rfl := Fin.succ_inj.mp hidx
        obtain ⟨x, rest, hfront⟩ := List.exists_cons_of_ne_nil hturn.visited
        have hx : x ∈ s.queues idx.succ := by
          rw [hfront]
          exact List.mem_cons_self
        obtain ⟨hdeficit, -⟩ := hturn.passed rfl
        have hlt := hdear x rest (by rw [hlive.live_eq, hfront]) (hbudget x hx)
        rw [← hdeficit] at hlt
        exact Nat.lt_irrefl _ ((hlt.trans_le (hcap x hx)).trans_le hfull)
      rw [hpass]
      dsimp only
      rw [decide_eq_false hbelow, Bool.false_or]
      exact ih (fun t => by rw [hsame]; exact hlive t) (by rw [hsame]; exact hbudget)
        (by rw [hsame]; exact hcap)
    | idle hpass hgo hidle hq => rw [hpass]
    | served hpass hgo hvisit => rw [hpass]

theorem overlooks_of_small (hlive : s.Fresh now)
    (hbudget : ∀ x ∈ s.queues b.succ, x.sizeBytes ≤ sendBudget)
    (hcap : ∀ x ∈ s.queues b.succ, x.sizeBytes ≤ quanta b * 4) :
    s.overlooks b.succ sendBudget now = false := by
  unfold overlooks
  split
  · rfl
  · dsimp only [PriorityTier.idx]
    have hserves := serveTier_serves s 0 now (fun item => decide (item.sizeBytes ≤ sendBudget))
      (s.queues 0)
    generalize s.serveTier 0 now _ (s.queues 0) = out at hserves ⊢
    cases hserves with
    | front hfront hok hq hd ha hp => rfl
    | @nothing s1 hno hq hd ha hp =>
      have hsame : s1.queues = s.queues := by
        rw [hq, hlive.live_eq, Function.update_eq_self]
      exact overlooksIn_of_small (fun t => by rw [hsame]; exact hlive t)
        (by rw [hsame]; exact hbudget) (by rw [hsame]; exact hcap)

end Calls

/-! ## 3. Two tiers alone -/

/-- The tiers `a` and `b` of the cycle hold these items, no other tier holds any, and none has
expired. -/
structure Pair (now : MonotonicTime) (a b : Fin 4) (s : GameScheduler)
    (xs ys : List SchedulableItem) : Prop where
  fresh : s.Fresh now
  first : s.queues a.succ = xs
  second : s.queues b.succ = ys
  others : ∀ t : Fin 5, t ≠ a.succ → t ≠ b.succ → s.queues t = []

section Pair

variable {sendBudget : Nat} {now : MonotonicTime} {s : GameScheduler} {a b idx : Fin 4}
  {x y : SchedulableItem} {xs ys : List SchedulableItem}

theorem Pair.symm (h : Pair now a b s xs ys) : Pair now b a s ys xs :=
  ⟨h.fresh, h.second, h.first, fun t hb ha => h.others t ha hb⟩

theorem Pair.busy (h : Pair now a b s (x :: xs) ys) : s.Busy a := by
  unfold Busy
  rw [h.first]
  exact List.cons_ne_nil _ _

/-- The tier that comes first is visited. -/
theorem Pair.visited (h : Pair now a b s (x :: xs) ys)
    (hahead : RoundRobin.Ahead s.marks.cursor a b) {sent : Option Nat} {m : RoundRobin.Marks 4}
    (hturn : RoundRobin.Turn quanta 4 s.Busy s.marks idx sent m) : idx = a := by
  by_contra hne
  have hfirst := hturn.first a h.busy
  have hb : idx = b := by
    by_contra hnb
    exact hturn.visited (h.others _ (fun heq => hne (Fin.succ_inj.mp heq))
      fun heq => hnb (Fin.succ_inj.mp heq))
  rw [hb] at hfirst
  exact absurd hahead (Nat.not_lt.mpr hfirst)

/-- It is passed when its first item is too dear, for the budget or for the tier. -/
theorem Pair.passes (h : Pair now a b s (x :: xs) ys)
    (hahead : RoundRobin.Ahead s.marks.cursor a b)
    (hdear : sendBudget < x.sizeBytes ∨ s.marks.purse quanta 4 a < x.sizeBytes) (rounds : Nat) :
    ∃ s1, drrRounds sendBudget now (rounds + 1) s = drrRounds sendBudget now rounds s1 ∧
      Pair now b a s1 ys (x :: xs) ∧ RoundRobin.Turn quanta 4 s.Busy s.marks a none s1.marks := by
  cases nextTurn sendBudget now rounds s with
  | @passed idx s1 hpass hgo hcost hturn hq =>
    obtain rfl := h.visited hahead hturn
    have hsame : s1.queues = s.queues := by
      rw [hq, h.fresh.live_eq, Function.update_eq_self]
    refine ⟨s1, hgo, ⟨fun t => ?_, ?_, ?_, fun t hb ha => ?_⟩, hturn⟩
    · rw [hsame]
      exact h.fresh t
    · rw [hsame]
      exact h.second
    · rw [hsame]
      exact h.first
    · rw [hsame]
      exact h.others t ha hb
  | idle hpass hgo hidle hq => exact absurd h.busy (hidle a)
  | @served item s1 hpass hgo hvisit =>
    cases hvisit with
    | @served idx _ rest _ hfront hfits hturn hq =>
      obtain rfl := h.visited hahead hturn
      rw [h.fresh.live_eq, h.first] at hfront
      obtain ⟨rfl, -⟩ := List.cons.inj hfront
      obtain ⟨hle, -⟩ := hturn.served _ rfl
      omega

/-- It is served when it can pay for its first item. -/
theorem Pair.serves (h : Pair now a b s (x :: xs) ys)
    (hahead : RoundRobin.Ahead s.marks.cursor a b) (hab : a ≠ b)
    (hbudget : x.sizeBytes ≤ sendBudget) (hpurse : x.sizeBytes ≤ s.marks.purse quanta 4 a) (rounds : Nat) :
    ∃ s1, drrRounds sendBudget now (rounds + 1) s = (some x, s1) ∧ Pair now a b s1 xs ys ∧
      RoundRobin.Turn quanta 4 s.Busy s.marks a (some x.sizeBytes) s1.marks := by
  cases nextTurn sendBudget now rounds s with
  | @passed idx s1 hpass hgo hcost hturn hq =>
    obtain rfl := h.visited hahead hturn
    have hlt := hcost x xs (by rw [h.fresh.live_eq, h.first]) hbudget
    omega
  | idle hpass hgo hidle hq => exact absurd h.busy (hidle a)
  | @served item s1 hpass hgo hvisit =>
    cases hvisit with
    | @served idx _ rest _ hfront hfits hturn hq =>
      obtain rfl := h.visited hahead hturn
      rw [h.fresh.live_eq, h.first] at hfront
      obtain ⟨rfl, rfl⟩ := List.cons.inj hfront
      have hother : ∀ t, t ≠ idx.succ → s1.queues t = s.queues t := by
        intro t ht
        rw [hq, Function.update_of_ne ht]
      refine ⟨s1, hgo, ⟨fun t z hz => ?_, ?_, ?_, fun t ha hb => ?_⟩, hturn⟩
      · rw [hq] at hz
        rcases mem_update hz with hz | hz
        · refine h.fresh idx.succ z ?_
          rw [h.first]
          exact List.mem_cons_of_mem _ hz
        · exact h.fresh t z hz
      · rw [hq, Function.update_self]
      · rw [hother _ fun heq => hab (Fin.succ_inj.mp heq).symm]
        exact h.second
      · rw [hother t ha]
        exact h.others t ha hb

/-- Tier 0 is empty, so that the call is its turns. -/
theorem Pair.popNext (h : Pair now a b s xs ys) (hpos : 0 < sendBudget) :
    s.popNext sendBudget now = drrRounds sendBudget now 4 s := by
  have hempty : s.queues 0 = [] :=
    h.others 0 (Fin.succ_ne_zero a).symm (Fin.succ_ne_zero b).symm
  have hserve := serveTier_fresh h.fresh 0 fun item => decide (item.sizeBytes ≤ sendBudget)
  rw [hempty] at hserve
  dsimp only at hserve
  have hidx : PriorityTier.p0Control.idx = 0 := rfl
  rw [GameScheduler.popNext, if_neg (Nat.ne_of_gt hpos)]
  dsimp only
  rw [hidx, hempty, hserve]

/-- Both are closed, and `a` comes first. -/
structure Level (a b : Fin 4) (s : GameScheduler) : Prop where
  ahead : RoundRobin.Ahead s.marks.cursor a b
  first : s.marks.opened a = false
  second : s.marks.opened b = false

theorem Level.congr {s s' : GameScheduler} (h : Level a b s) (heq : s'.marks = s.marks) :
    Level a b s' := by
  refine ⟨?_, ?_, ?_⟩
  · rw [heq]
    exact h.ahead
  · rw [heq]
    exact h.first
  · rw [heq]
    exact h.second

theorem le_purse {m : RoundRobin.Marks 4} {t : Fin 4} (h : m.opened t = false) :
    quanta t ≤ m.purse quanta 4 t := by
  unfold RoundRobin.Marks.purse
  rw [h, if_neg Bool.false_ne_true]
  omega

/-- **Neither fits**: both are passed twice, and it is as if nothing had been asked. -/
theorem Pair.overlooked (h : Pair now a b s (x :: xs) (y :: ys)) (hab : a ≠ b)
    (hahead : RoundRobin.Ahead s.marks.cursor a b) (hpos : 0 < sendBudget)
    (hx : sendBudget < x.sizeBytes) (hy : sendBudget < y.sizeBytes) :
    ∃ s1, s.popNext sendBudget now = (none, s1) ∧ Pair now a b s1 (x :: xs) (y :: ys) ∧
      Level a b s1 := by
  have htwice : ∀ {s : GameScheduler}, Pair now a b s (x :: xs) (y :: ys) →
      RoundRobin.Ahead s.marks.cursor a b → ∀ rounds, ∃ s2,
        drrRounds sendBudget now (rounds + 2) s = drrRounds sendBudget now rounds s2 ∧
        Pair now a b s2 (x :: xs) (y :: ys) ∧ Level a b s2 := by
    intro s h hahead rounds
    obtain ⟨s1, hgo, hpair, hturn⟩ := h.passes hahead (Or.inl hx) (rounds + 1)
    obtain ⟨-, hclosed, hcursor⟩ := hturn.passed rfl
    obtain ⟨s2, hgo2, hpair2, hturn2⟩ := hpair.passes
      (by rw [hcursor]; exact RoundRobin.ahead_next_self hab.symm) (Or.inl hy) rounds
    obtain ⟨-, hclosed2, hcursor2⟩ := hturn2.passed rfl
    obtain ⟨-, hsame⟩ := hturn2.others a hab hpair.symm.busy
    refine ⟨s2, hgo.trans hgo2, hpair2, ⟨?_, hsame.trans hclosed, hclosed2⟩⟩
    rw [hcursor2]
    exact RoundRobin.ahead_next_self hab
  obtain ⟨s2, hgo, hpair, hlevel⟩ := htwice h hahead 2
  obtain ⟨s4, hgo4, hpair4, hlevel4⟩ := htwice hpair hlevel.ahead 0
  exact ⟨s4, by rw [h.popNext hpos, hgo, hgo4]; rfl, hpair4, hlevel4⟩

/-- `a` is served, if it comes first, or if it comes next and `b` cannot pay. -/
theorem Pair.served_first (h : Pair now a b s (x :: xs) (y :: ys)) (hab : a ≠ b)
    (hclosed : s.marks.opened a = false) (hturn : RoundRobin.Ahead s.marks.cursor a b ∨
      (RoundRobin.Ahead s.marks.cursor b a ∧ s.marks.purse quanta 4 b < y.sizeBytes))
    (hx : x.sizeBytes ≤ quanta a) (hpos : 0 < sendBudget) (hbudget : x.sizeBytes ≤ sendBudget) :
    ∃ s1, s.popNext sendBudget now = (some x, s1) ∧ Pair now a b s1 xs (y :: ys) ∧
      RoundRobin.Ahead s1.marks.cursor a b ∧ (Level a b s → s1.marks.opened b = false ∧
        s1.marks.purse quanta 4 b = s.marks.purse quanta 4 b) := by
  rw [h.popNext hpos]
  rcases hturn with hahead | ⟨hahead, hdear⟩
  · obtain ⟨s1, hgo, hpair, hturn⟩ := h.serves hahead hab hbudget
      (hx.trans (le_purse hclosed)) 3
    obtain ⟨-, -, -, hcursor⟩ := hturn.served _ rfl
    obtain ⟨hdeficit, hopened⟩ := hturn.others b hab.symm h.symm.busy
    refine ⟨s1, hgo, hpair, ?_, fun hlevel => ⟨hopened.trans hlevel.second,
      RoundRobin.Marks.purse_congr hdeficit hopened⟩⟩
    rw [hcursor]
    exact RoundRobin.ahead_self hab
  · obtain ⟨s1, hgo, hpair, hpass⟩ := h.symm.passes hahead (Or.inr hdear) 3
    obtain ⟨-, -, hcursor⟩ := hpass.passed rfl
    obtain ⟨-, hopened⟩ := hpass.others a hab h.busy
    obtain ⟨s2, hgo2, hpair2, hturn⟩ := hpair.serves
      (by rw [hcursor]; exact RoundRobin.ahead_next_self hab) hab hbudget
      (hx.trans (le_purse (hopened.trans hclosed))) 2
    obtain ⟨-, -, -, hcursor2⟩ := hturn.served _ rfl
    refine ⟨s2, hgo.trans hgo2, hpair2, ?_, fun hlevel => ?_⟩
    · rw [hcursor2]
      exact RoundRobin.ahead_self hab
    · exact absurd hlevel.ahead (Nat.lt_asymm hahead)

/-- `b` is served, if `a` comes first and its item does not fit. -/
theorem Pair.served_second (h : Pair now a b s (x :: xs) (y :: ys)) (hab : a ≠ b)
    (hahead : RoundRobin.Ahead s.marks.cursor a b) (hclosed : s.marks.opened b = false)
    (hx : sendBudget < x.sizeBytes) (hy : y.sizeBytes ≤ quanta b) (hpos : 0 < sendBudget)
    (hbudget : y.sizeBytes ≤ sendBudget) :
    ∃ s1, s.popNext sendBudget now = (some y, s1) ∧ Pair now a b s1 (x :: xs) ys ∧
      s1.marks.opened a = false ∧ RoundRobin.Ahead s1.marks.cursor b a ∧
      s1.marks.purse quanta 4 b = s.marks.purse quanta 4 b - y.sizeBytes := by
  rw [h.popNext hpos]
  obtain ⟨s1, hgo, hpair, hpass⟩ := h.passes hahead (Or.inl hx) 3
  obtain ⟨-, hclosed1, hcursor⟩ := hpass.passed rfl
  obtain ⟨hdeficit, hopened⟩ := hpass.others b hab.symm h.symm.busy
  have hpurse : s1.marks.purse quanta 4 b = s.marks.purse quanta 4 b :=
    RoundRobin.Marks.purse_congr hdeficit hopened
  obtain ⟨s2, hgo2, hpair2, hturn⟩ := hpair.serves
    (by rw [hcursor]; exact RoundRobin.ahead_next_self hab.symm) hab.symm hbudget
    (hy.trans (le_purse (hopened.trans hclosed))) 2
  obtain ⟨-, hdeficit2, hopened2, hcursor2⟩ := hturn.served _ rfl
  obtain ⟨-, hsame⟩ := hturn.others a hab hpair.symm.busy
  refine ⟨s2, hgo.trans hgo2, hpair2.symm, hsame.trans hclosed1, ?_, ?_⟩
  · rw [hcursor2]
    exact RoundRobin.ahead_self hab.symm
  · rw [RoundRobin.Marks.purse, hopened2, if_pos rfl, hdeficit2, hpurse]

end Pair

end GameScheduler

end Gtp
