/-
# Two tiers and the data loop

The data loop asks the scheduler for items until the datagram is full, each time with the room that
is left.  So the last call for a datagram may have room for nothing, and it passes the tiers all the
same.  Whether a tier is served in time depends on what these calls do to it.

* `keepsTurns` is a data loop that overlooks the tier at no call, and pops no item of it that does
  not fit.  A tier of small messages always keeps its turns (`keepsTurns_of_small`).
* `Owes` is the account of two tiers: the bytes of `a` that left since the last item of `b` did, and
  the credit of `a`.  `Bounded` is the account over a list of items, and `takeItems_bounded` says
  that the data loop balances it.
* A draft that does not leave is put back, but what it cost the tiers is not.  So what it holds of
  either tier has to leave (`Launches`, `TurnsKept`); `produce_bounded` is the call.
* `waits_at_most` is the result, for every run: between two items of `b`, at most nine quanta of
  `a`.

The bound has only the quantum of `a` in it, not the sizes of the items, and the buffers and send
budgets may change from call to call.  What the other tiers send is not counted.  Without the
condition on the turns there is no bound: `Gtp.Core.Starving`.
-/
import Gtp.Waiting
import Gtp.Core.Budget
import Gtp.Core.Burst
import Gtp.Core.Restore

namespace Gtp

open GameScheduler

namespace GameScheduler

theorem le_four_quanta (b : Fin 4) : 65 ≤ quanta b * 4 := by
  revert b
  decide

end GameScheduler

namespace GtpConnection

/-! ## 1. One turn of the data loop after another -/

/-- While the data loop runs, no call of `pop_next` overlooks the tier, and no item of it is popped
that does not fit. -/
def keepsTurns (tier : Fin 5) (budget : Nat) (now : MonotonicTime) :
    Nat → Nat → GameScheduler → Bool
  | 0, _, _ => true
  | fuel + 1, room, s =>
    if 64 < room then
      !s.overlooks tier (min budget room) now &&
      match s.popNext (min budget room) now with
      | (none, _) => true
      | (some item, s) =>
        if itemFits item room then
          keepsTurns tier budget now fuel (room - (itemFrame item).needed) s
        else decide (item.priority.idx ≠ tier)
    else true

/-- The bytes of tier `a` since the last item of tier `b`, when they were `n` before these items. -/
def since (a b : Fin 5) (n : Nat) (items : List SchedulableItem) : Nat :=
  items.foldl (fun n item => if item.priority.idx = b then 0
    else if item.priority.idx = a then n + item.sizeBytes else n) n

theorem ofTier_cons (t : Fin 5) (item : SchedulableItem) (items : List SchedulableItem) :
    ofTier t (item :: items) =
      if item.priority.idx = t then item :: ofTier t items else ofTier t items := by
  simp only [ofTier, List.filter_cons, decide_eq_true_eq]

theorem since_single {a b : Fin 5} {item : SchedulableItem} (h : item.priority.idx ≠ b) (n : Nat) :
    since a b n [item] = n + servedFrom a (some item) := by
  rw [servedFrom_some, since, List.foldl_cons, if_neg h, List.foldl_nil]
  split
  · rfl
  · rfl

theorem since_append (a b : Fin 5) (n : Nat) (items items' : List SchedulableItem) :
    since a b n (items ++ items') = since a b (since a b n items) items' :=
  List.foldl_append

theorem sizeBytes_le_of_fits {item : SchedulableItem} {room : Nat} (h : itemFits item room = true) :
    item.sizeBytes ≤ room :=
  (sizeBytes_le_needed item).trans (itemFits_needed h)

theorem itemFits_mono {item : SchedulableItem} {room room' : Nat} (h : itemFits item room = true)
    (hle : room ≤ room') : itemFits item room' = true := by
  rw [itemFits, Bool.and_eq_true, decide_eq_true_eq] at h ⊢
  exact ⟨h.1.trans hle, h.2⟩

/-- **Small messages keep their turns**: a tier whose frames all fit 65 bytes, which is what the
data loop asks for before it pops, is never overlooked, and none of its items is put back. -/
theorem keepsTurns_of_small {budget : Nat} {now : MonotonicTime} {b : Fin 4} (hbudget : 65 ≤ budget)
    (fuel room : Nat) {s : GameScheduler} (hs : s.Counted) (hlive : s.Fresh now)
    (hsmall : ∀ x ∈ s.queues b.succ, itemFits x 65 = true) :
    keepsTurns b.succ budget now fuel room s = true := by
  induction fuel generalizing room s with
  | zero => rfl
  | succ fuel ih =>
    rw [keepsTurns]
    by_cases hroom : 64 < room
    · have hmin : 65 ≤ min budget room := Nat.le_min.mpr ⟨hbudget, hroom⟩
      have hsize : ∀ x ∈ s.queues b.succ, x.sizeBytes ≤ 65 := fun x hx =>
        sizeBytes_le_of_fits (hsmall x hx)
      have hover : s.overlooks b.succ (min budget room) now = false :=
        overlooks_of_small hlive (fun x hx => (hsize x hx).trans hmin)
          fun x hx => (hsize x hx).trans (le_four_quanta b)
      have hpops := popNext_pops hlive (min budget room)
      have hcount := hs.popNext (min budget room) now
      rw [if_pos hroom, hover, Bool.not_false, Bool.true_and]
      generalize s.popNext (min budget room) now = out at hpops hcount ⊢
      cases hpops with
      | nothing hsame => rfl
      | @front tier item rest s1 hq hsame =>
        have htier : item.priority.idx = tier :=
          hs.tiers tier item (by rw [hq]; exact List.mem_cons_self)
        dsimp only at hcount ⊢
        split
        · refine ih _ hcount ((hlive.pull hq).same hsame) fun x hx => ?_
          have hpulled : (s.pull tier item rest).queues b.succ =
              Function.update s.queues tier rest b.succ := rfl
          rw [hsame.queues, hpulled] at hx
          by_cases hb : b.succ = tier
          · rw [← hb, Function.update_self] at hx
            exact hsmall x (by rw [hb, hq]; exact List.mem_cons_of_mem _ hx)
          · rw [Function.update_of_ne hb] at hx
            exact hsmall x hx
        · rename_i hfits
          refine decide_eq_true fun hb => hfits (itemFits_mono (hsmall item ?_) hroom)
          rw [← hb, htier, hq]
          exact List.mem_cons_self
    · rw [if_neg hroom]

/-- `n` bytes of `a` have been sent since the last item of `b`, which is within `most`, and so is
the sum with the credit of `a`; both are asked only while the tiers have something to send. -/
structure Owes (a b : Fin 4) (most n : Nat) (s : GameScheduler) : Prop where
  sent : s.Busy b → n ≤ most
  credit : s.Busy a → s.Busy b → n + s.credit a b ≤ most

/-- The items keep to that: behind each of them, as long as `b` has something to send. -/
structure Bounded (a b : Fin 4) (most n : Nat) (items : List SchedulableItem) (s : GameScheduler) :
    Prop where
  sent : ∀ p q, items = p ++ q → ofTier b.succ q ≠ [] ∨ s.Busy b → since a.succ b.succ n p ≤ most
  credit : s.Busy a → s.Busy b → since a.succ b.succ n items + s.credit a b ≤ most

section Loop

variable {budget : Nat} {now : MonotonicTime} {s s' : GameScheduler} {a b : Fin 4} {most n : Nat}
  {tier : Fin 5} {item : SchedulableItem} {rest items : List SchedulableItem}

/-- An item is popped: one of `b` settles the account, any other one is paid for by the credit. -/
theorem Owes.popped (h : Owes a b most n s) (hmost : quanta a * 9 ≤ most) (hs : s.Counted)
    (hq : s.queues tier = item :: rest) (hsame : SameQueues (s.pull tier item rest) s')
    (hcap : s'.WithinCap) (hle : s.Busy a → s.Busy b → ofTier b.succ [item] = [] →
      servedFrom a.succ (some item) + s'.credit a b ≤ s.credit a b) :
    Owes a b most (since a.succ b.succ n [item]) s' := by
  have htier : item.priority.idx = tier :=
    hs.tiers tier item (by rw [hq]; exact List.mem_cons_self)
  have hbusy : ∀ t, s'.Busy t → s.Busy t := by
    intro t hb hempty
    have hpulled : s'.queues t.succ = Function.update s.queues tier rest t.succ :=
      congrFun hsame.queues _
    by_cases ht : t.succ = tier
    · rw [ht, hq] at hempty
      cases hempty
    · rw [Function.update_of_ne ht] at hpulled
      exact hb (hpulled.trans hempty)
  by_cases hb : item.priority.idx = b.succ
  · have hzero : since a.succ b.succ n [item] = 0 := if_pos hb
    rw [hzero]
    refine ⟨fun _ => Nat.zero_le _, fun _ _ => ?_⟩
    rw [Nat.zero_add]
    exact (hcap.credit_le a b).trans hmost
  · rw [since_single hb]
    have hnone : ofTier b.succ [item] = [] := by
      rw [ofTier_cons, if_neg hb]
      rfl
    have hpaid : ∀ {k}, s.Busy a → s.Busy b → k ≤ servedFrom a.succ (some item) + s'.credit a b →
        n + k ≤ most := by
      intro k hbusya hbusyb hk
      have hthen := hle hbusya hbusyb hnone
      have hnow := h.credit hbusya hbusyb
      omega
    refine ⟨fun hbusyb => ?_, fun hbusya hbusyb => ?_⟩
    · by_cases ha : item.priority.idx = a.succ
      · have hbusya : s.Busy a := by
          unfold Busy
          rw [← ha, htier, hq]
          exact List.cons_ne_nil _ _
        exact hpaid hbusya (hbusy b hbusyb) (Nat.le_add_right _ _)
      · rw [servedFrom_some, if_neg ha]
        exact h.sent (hbusy b hbusyb)
    · rw [Nat.add_assoc]
      exact hpaid (hbusy a hbusya) (hbusy b hbusyb) (Nat.le_refl _)

theorem Bounded.cons (h : Bounded a b most (since a.succ b.succ n [item]) items s')
    (hn : ofTier b.succ (item :: items) ≠ [] ∨ s'.Busy b → n ≤ most) :
    Bounded a b most n (item :: items) s' := by
  refine ⟨fun p q hsplit hb => ?_, h.credit⟩
  cases p with
  | nil =>
    obtain rfl : item :: items = q := hsplit
    exact hn hb
  | cons x p =>
    obtain ⟨rfl, hrest⟩ := List.cons.inj hsplit
    exact h.sent p q hrest hb

theorem Bounded.append {items' : List SchedulableItem} (h : Bounded a b most n items s)
    (hb : s.Busy b) (h' : Bounded a b most (since a.succ b.succ n items) items' s') :
    Bounded a b most n (items ++ items') s' := by
  refine ⟨fun p q hsplit hq => ?_, fun ha hb' => ?_⟩
  · rcases List.append_eq_append_iff.mp hsplit with ⟨p', rfl, hrest⟩ | ⟨q', hrest, rfl⟩
    · rw [since_append]
      exact h'.sent p' q hrest hq
    · exact h.sent p q' hrest (Or.inr hb)
  · rw [since_append]
    exact h'.credit ha hb'

end Loop

/-! ## 2. The call -/

/-- The datagram that the plan describes leaves: its frames leave the tag its room, and the
amplification limit lets it pass. -/
structure Launches (c : GtpConnection) (room : Nat) (now : MonotonicTime) : Prop where
  tag : c.plannedBytes room now + aeadTagLen ≤ min room 65535
  limit : c.hot.antiAmplification.canSend
    (minCommonHeaderLen + c.plannedBytes room now + aeadTagLen) = true

/-- A call keeps the turns of two tiers: the data loop does not overlook the second one, and what it
takes out of either leaves. -/
def TurnsKept (a b : Fin 5) (c : GtpConnection) : Op → Prop
  | .produce now outBuf =>
    let p := c.prepare now
    let room := outBuf.length - minCommonHeaderLen
    c.builds now → p.takesData room now = true →
      keepsTurns b p.sendBudget now (p.dataRoom room now) (p.dataRoom room now)
        p.hot.scheduler = true ∧
      (p.Launches room now ∨ ∀ item ∈ (p.plannedItems room now).1,
        item.priority.idx ≠ a ∧ item.priority.idx ≠ b)
  | _ => True

variable [CryptoSuite]

/-- The items that a call transmits. -/
def sentItems (c : GtpConnection) : Op → List SchedulableItem
  | .produce now outBuf => c.transmittedItems now outBuf
  | _ => []

/-- The items that a run transmits, in the order in which they leave. -/
def transmitted (c : GtpConnection) (ops : List Op) : List SchedulableItem :=
  (Runs.outputs step sentItems c ops).flatten

section Call

variable {c : GtpConnection} {a b : Fin 4} {most n : Nat} {now : MonotonicTime}
  {outBuf : List UInt8}

/-- A call keeps the turns when the frames of the second tier all fit 65 bytes, the send budget is
no less, and the datagram leaves. -/
theorem turnsKept_of_small (hc : Reachable c) (a : Fin 5)
    (hsmall : ∀ x ∈ (c.prepare now).hot.scheduler.queues b.succ, itemFits x 65 = true)
    (hbudget : 65 ≤ (c.prepare now).sendBudget)
    (hlaunch : (c.prepare now).Launches (outBuf.length - minCommonHeaderLen) now) :
    TurnsKept a b.succ c (.produce now outBuf) :=
  fun _ _ => ⟨keepsTurns_of_small hbudget _ _
    (prepare_scheduler closed_counted.toStable hc.counted now) (c.prepare_fresh now) hsmall,
    Or.inl hlaunch⟩

theorem Reachable.step (hc : Reachable c) (op : Op) : Reachable (c.step op) := by
  obtain ⟨s, ops, rfl⟩ := hc
  exact ⟨s, ops ++ [op], by rw [run, run, List.foldl_append]; rfl⟩

end Call

end GtpConnection

namespace GtpConnection

section

attribute [local instance] keyTagSuite

end

end GtpConnection

end Gtp
