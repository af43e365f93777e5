/-
# Everything queued is sent

`pop_next` may return nothing although items are queued: a call makes four turns, and a tier saves
up its quanta over several of them.  But a turn is never for nothing.  It serves an item, or it
drops expired ones, or it brings the tier it passes closer to the cap of four quanta; and an item of
at most four quanta is paid for before that.

* `effort` counts this down: 37 for each item that is queued, and what the tiers are short of.
* `Visit.effort_lt` is a turn, `popNext_effort` a call.
* `scheduler_drains`: a caller that goes on asking, with a budget that every item fits in, gets
  every item that is not expired, once, and in the order of its tier.

The time stands still meanwhile, and nothing is enqueued.  An item of the round robin that is dearer
than four quanta of its tier is left out: it is never paid for, and blocks its tier.  So is a budget
that some item does not fit in.
-/
import Gtp.Rounds

namespace Gtp

namespace GameScheduler

/-! ## 1. The effort that is left -/

/-- How many items are queued. -/
def itemCount (s : GameScheduler) : Nat := ∑ t, (s.queues t).length

/-- The turns that are left, at most: 37 for each item and what the tiers are short of. -/
def effort (s : GameScheduler) : Nat := 37 * s.itemCount + s.marks.shortfall quanta 4 s.Busy

theorem effort_le (s : GameScheduler) : s.effort ≤ 37 * s.itemCount + 36 := by
  have hle := s.marks.shortfall_le quanta 4 s.Busy
  unfold effort
  omega

theorem effort_lt_of_count {s s' : GameScheduler} (h : s'.itemCount < s.itemCount) :
    s'.effort < s.effort := by
  have hle := s'.effort_le
  unfold effort at hle ⊢
  omega

theorem effort_empty {s : GameScheduler} (h : ∀ t, s.queues t = []) : s.effort = 0 := by
  have hidle : ∀ t, ¬ s.Busy t := fun t ht => ht (h t.succ)
  simp [effort, itemCount, h, RoundRobin.Marks.shortfall, hidle]

/-- Only the queues and the marks of the busy tiers matter. -/
theorem effort_congr {s s' : GameScheduler} (hq : s'.queues = s.queues)
    (hshort : ∀ t, s.Busy t → s'.marks.short quanta 4 t = s.marks.short quanta 4 t) :
    s'.effort = s.effort := by
  have hbusy : s'.marks.shortfall quanta 4 s'.Busy = s.marks.shortfall quanta 4 s.Busy :=
    RoundRobin.Marks.shortfall_congr (fun t => by rw [Busy, Busy, hq]) hshort
  rw [effort, effort, itemCount, itemCount, hq, hbusy]

theorem itemCount_lt {s s' : GameScheduler} (h : ∀ t, s'.queues t <:+ s.queues t) (tier : Fin 5)
    (hlt : (s'.queues tier).length < (s.queues tier).length) : s'.itemCount < s.itemCount :=
  Finset.sum_lt_sum (fun t _ => (h t).length_le) ⟨tier, Finset.mem_univ tier, hlt⟩

/-- Items that the budget and the tier's four quanta can pay for, each in its own tier. -/
structure Payable (sendBudget : Nat) (s : GameScheduler) : Prop where
  tiers : ∀ t, ∀ x ∈ s.queues t, x.priority.idx = t
  fits : ∀ t, ∀ x ∈ s.queues t, x.sizeBytes ≤ sendBudget
  paid : ∀ t : Fin 4, ∀ x ∈ s.queues t.succ, x.sizeBytes ≤ quanta t * 4

theorem Payable.suffix {sendBudget : Nat} {s s' : GameScheduler} (h : Payable sendBudget s)
    (hs : ∀ t, s'.queues t <:+ s.queues t) : Payable sendBudget s' :=
  ⟨fun t x hx => h.tiers t x ((hs t).subset hx), fun t x hx => h.fits t x ((hs t).subset hx),
    fun t x hx => h.paid t x ((hs t.succ).subset hx)⟩

section Calls

variable {sendBudget : Nat} {now : MonotonicTime} {s s' : GameScheduler}
  {out : Option SchedulableItem}

/-- **A turn is never for nothing.** -/
theorem Visit.effort_lt (h : Visit sendBudget now s out s') (hs : Payable sendBudget s) :
    s'.effort < s.effort := by
  have htook := h.took hs.tiers
  cases h with
  | @served idx item rest _ hlive hfits hturn hq =>
    refine effort_lt_of_count (itemCount_lt htook.suffix idx.succ ?_)
    have hlen := (live_suffix now (s.queues idx.succ)).length_le
    rw [hlive, List.length_cons] at hlen
    rw [hq, Function.update_self]
    omega
  | @passed idx _ hdear hturn hq =>
    by_cases hsame : live now (s.queues idx.succ) = s.queues idx.succ
    · -- nothing is expired: the first item was too dear, but the tier is a quantum closer to it
      rw [hsame, Function.update_eq_self] at hq
      obtain ⟨item, rest, hcons⟩ := List.exists_cons_of_ne_nil hturn.visited
      have hmem : item ∈ s.queues idx.succ := by
        rw [hcons]
        exact List.mem_cons_self
      have hpurse := hdear item rest (hsame.trans hcons) (hs.fits _ _ hmem)
      have hshort := hturn.shortfall_lt (quanta_pos idx) (hpurse.trans_le (hs.paid idx _ hmem))
      have hbusy : s'.marks.shortfall quanta 4 s'.Busy = s'.marks.shortfall quanta 4 s.Busy :=
        RoundRobin.Marks.shortfall_congr (fun t => by rw [Busy, Busy, hq]) fun _ _ => rfl
      unfold effort itemCount
      rw [hbusy, hq]
      omega
    · refine effort_lt_of_count (itemCount_lt htook.suffix idx.succ ?_)
      rw [hq, Function.update_self]
      refine Nat.lt_of_le_of_ne (live_suffix now _).length_le fun hlen => hsame ?_
      exact (live_suffix now _).eq_of_length hlen

theorem Rounds.effort_le {rounds : Nat} {out : Option SchedulableItem × GameScheduler}
    (h : Rounds sendBudget now rounds s out) (hs : Payable sendBudget s) :
    out.2.effort ≤ s.effort ∧ (0 < rounds → (∃ t, s.Busy t) → out.2.effort < s.effort) := by
  induction h with
  | ended s => exact ⟨Nat.le_refl _, fun h => absurd h (Nat.lt_irrefl 0)⟩
  | idle hidle hq =>
    refine ⟨Nat.le_of_eq (effort_congr hq fun t ht => absurd ht (hidle t)), ?_⟩
    exact fun _ ⟨t, ht⟩ => absurd ht (hidle t)
  | served hvisit =>
    have hlt := hvisit.effort_lt hs
    exact ⟨hlt.le, fun _ _ => hlt⟩
  | passed hvisit hrest ih =>
    have hlt := hvisit.effort_lt hs
    obtain ⟨hle, -⟩ := ih (hs.suffix (hvisit.took hs.tiers).suffix)
    exact ⟨hle.trans hlt.le, fun _ _ => hle.trans_lt hlt⟩

/-- **A call.**  While anything is queued, it lowers the effort that is left. -/
theorem popNext_effort (hs : Payable sendBudget s) (hpos : 0 < sendBudget) :
    s.effort = 0 ∨ (s.popNext sendBudget now).2.effort < s.effort := by
  have htakes := popNext_takes s sendBudget now
  have htook := popNext_took s sendBudget now hs.tiers
  generalize s.popNext sendBudget now = out at htakes htook ⊢
  cases htakes with
  | broke hzero => exact absurd hzero hpos.ne'
  | strict hlive hfits hmarks hq =>
    refine Or.inr (effort_lt_of_count (itemCount_lt htook.suffix 0 ?_))
    have hlen := (live_suffix now (s.queues 0)).length_le
    rw [hlive, List.length_cons] at hlen
    rw [hq, Function.update_self]
    omega
  | @rounds s1 out hbig hmarks hq hrounds =>
    -- every item fits, so what is left of tier 0 is empty
    have hempty : live now (s.queues 0) = [] := by
      cases hlive : live now (s.queues 0) with
      | nil => rfl
      | cons item rest =>
        have hlt := hbig item rest hlive
        have hle := hs.fits 0 item (mem_of_live hlive)
        omega
    have hexpired : Took now s none s1 := took_expired hq
    obtain ⟨hle, hlt⟩ := hrounds.effort_le (hs.suffix hexpired.suffix)
    by_cases h0 : s.queues 0 = []
    · have hsame : s1.queues = s.queues := by
        rw [hq, hempty, ← h0, Function.update_eq_self]
      by_cases hbusy : ∃ t, s1.Busy t
      · have heffort : s1.effort = s.effort := effort_congr hsame fun t _ => by rw [hmarks]
        exact Or.inr (heffort ▸ hlt (by decide) hbusy)
      · refine Or.inl (effort_empty fun t => ?_)
        cases t using Fin.cases with
        | zero => exact h0
        | succ t =>
          refine not_not.mp fun ht => hbusy ⟨t, ?_⟩
          rw [Busy, hsame]
          exact ht
    · refine Or.inr (hle.trans_lt (effort_lt_of_count (itemCount_lt hexpired.suffix 0 ?_)))
      rw [hq, Function.update_self, hempty]
      exact List.length_pos_of_ne_nil h0

end Calls

/-! ## 2. Repeated calls -/

/-- `n` calls of `pop_next`, with what they hand out. -/
def pops (sendBudget : Nat) (now : MonotonicTime) :
    Nat → GameScheduler → List SchedulableItem × GameScheduler
  | 0, s => ([], s)
  | n + 1, s =>
    let (out, s) := s.popNext sendBudget now
    let (items, s) := pops sendBudget now n s
    (out.toList ++ items, s)

theorem queues_of_effort {s : GameScheduler} (h : s.effort = 0) (t : Fin 5) : s.queues t = [] := by
  have hcount : s.itemCount = 0 := by
    unfold effort at h
    omega
  have hzero := Finset.sum_eq_zero_iff.mp hcount t (Finset.mem_univ t)
  exact List.length_eq_zero_iff.mp hzero

/-- By induction on the calls: the effort is gone before they are. -/
theorem pops_drain {sendBudget : Nat} (now : MonotonicTime) (hpos : 0 < sendBudget) (n : Nat)
    {s : GameScheduler} (hs : Payable sendBudget s) (hn : s.effort ≤ n) :
    (∀ t, (pops sendBudget now n s).2.queues t = []) ∧
      ∀ t, ofTier t (pops sendBudget now n s).1 = unexpired now (s.queues t) := by
  induction n generalizing s with
  | zero =>
    have hempty := queues_of_effort (Nat.le_zero.mp hn)
    refine ⟨hempty, fun t => ?_⟩
    rw [hempty]
    rfl
  | succ n ih =>
    have htook := popNext_took s sendBudget now hs.tiers
    have hn' : (s.popNext sendBudget now).2.effort ≤ n := by
      rcases @popNext_effort sendBudget now s hs hpos with hzero | hlt
      · refine (effort_empty fun t => ?_).trans_le (Nat.zero_le n)
        exact List.suffix_nil.mp (queues_of_effort hzero t ▸ htook.suffix t)
      · omega
    obtain ⟨hdrained, hitems⟩ := ih (hs.suffix htook.suffix) hn'
    refine ⟨hdrained, fun t => ?_⟩
    rw [htook.items t, ← hitems t]
    exact List.filter_append ..

/-- **The scheduler drains.**  In every reachable state: called again and again, at the same time
and with a budget that every queued item fits in, `pop_next` hands out every item that is not
expired, once and in the order of its tier, as long as no item of the round robin is dearer than
four quanta of its tier; 37 calls for each item, and 36 more, are enough. -/
theorem scheduler_drains (caps : Fin 5 → Nat) (limit : Nat) (ops : List Op) (sendBudget : Nat)
    (now : MonotonicTime) (hpos : 0 < sendBudget)
    (hfits : ∀ t, ∀ x ∈ (run caps limit ops).queues t, x.sizeBytes ≤ sendBudget)
    (hpaid : ∀ t ≠ 0, ∀ x ∈ (run caps limit ops).queues t, x.sizeBytes ≤ 4 * tierQuantum t)
    {n : Nat} (hn : 37 * (∑ t, ((run caps limit ops).queues t).length) + 36 ≤ n) :
    (∀ t, (pops sendBudget now n (run caps limit ops)).2.queues t = []) ∧
      ∀ t, (pops sendBudget now n (run caps limit ops)).1.filter (fun x => x.priority.idx = t) =
        ((run caps limit ops).queues t).filter fun x => !x.isExpired now := by
  have hs : Payable sendBudget (run caps limit ops) := by
    refine ⟨(run_counted caps limit ops).1.tiers, hfits, fun t x hx => ?_⟩
    rw [Nat.mul_comm]
    exact hpaid t.succ (Fin.succ_ne_zero t) x hx
  exact pops_drain now hpos n hs ((effort_le _).trans hn)

/-- An item of 600 bytes in tier 4, one that expires at time 9, and one in tier 1. -/
def threeQueued : List Op :=
  [.enqueue ⟨1, .unreliable, .p4BulkCosmetic, 0, none, false, List.replicate 600 0, 0, 1⟩ 0,
    .enqueue ⟨2, .unreliable, .p4BulkCosmetic, 0, some 9, false, [1], 0, 1⟩ 0,
    .enqueue ⟨3, .unreliable, .p1Input, 0, none, false, [2, 3], 0, 1⟩ 0]

/-- The theorem at `threeQueued`, at time 10. -/
theorem drains_threeQueued :
    (pops 1200 10 147 (run (fun _ => 4096) 8 threeQueued)).2.queues 4 = [] ∧
      (pops 1200 10 147 (run (fun _ => 4096) 8 threeQueued)).1.filter
          (fun x => x.priority.idx = 4) =
        [⟨1, .unreliable, .p4BulkCosmetic, 0, none, false, List.replicate 600 0, 0, 1⟩] := by
  obtain ⟨hempty, hitems⟩ := scheduler_drains (fun _ => 4096) 8 threeQueued 1200 10 (by decide)
    (by decide +kernel) (by decide +kernel) (n := 147) (by decide +kernel)
  refine ⟨hempty 4, (hitems 4).trans ?_⟩
  decide +kernel

end GameScheduler

end Gtp
