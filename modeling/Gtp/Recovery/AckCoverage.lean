/-
# What the ACK tracker covers

`AckTracker.Inv` says that the intervals are spaced and cover only what was received.  Here is the
other half: a number that was received is covered, unless its interval was dropped on the way.

* What a receipt drops is a list of its own (`droppedBy`): the intervals that end at or below the
  largest number minus the retention window, after the number was inserted and merged.
* `covers_step` is one call: what was covered, and what is received, is covered afterwards or
  dropped by that very call.  `covers_run` is a history.
* A number that comes again after its interval was dropped is covered again or dropped again, so the
  statement is about each receipt and what was dropped from then on.

An interval is dropped as a whole.  So a long interval that reaches into the window keeps numbers
that are far below it, and these are still covered; `IntervalsExact` does not say that what is
covered lies in the window.
-/
import Gtp.Recovery.AckTracker

namespace Gtp

open Intervals

namespace AckTracker

/-! ## 1. What a call drops -/

/-- The interval is at or below the retention window of the largest number. -/
def Fallen (largest : PacketNumber) (iv : PacketInterval) : Prop :=
  iv.last ≤ largest.toNat - ackRetentionWindow

instance (largest : PacketNumber) (iv : PacketInterval) : Decidable (Fallen largest iv) :=
  inferInstanceAs (Decidable (_ ≤ _))

/-- The intervals that a call drops. -/
def droppedBy (t : AckTracker) : Op → List PacketInterval
  | .receive pn _ _ _ =>
    (insertPacket pn.toNat t.intervals).filter fun iv => Fallen (newLargest t.largestReceived pn) iv
  | _ => []

/-- The intervals that a sequence of calls drops. -/
def dropped (t : AckTracker) : List Op → List PacketInterval
  | [] => []
  | op :: ops => t.droppedBy op ++ dropped (t.step op) ops

/-- Pruning splits a list: a number is in what stays, or in what is dropped. -/
theorem covers_prune {largest : PacketNumber} {l : List PacketInterval} {x : Nat}
    (h : Covers l x) :
    Covers (pruneOldIntervals (some largest) l) x ∨
      Covers (l.filter fun iv => Fallen largest iv) x := by
  obtain ⟨iv, hiv, hx⟩ := h
  by_cases hfallen : Fallen largest iv
  · exact Or.inr ⟨iv, List.mem_filter.mpr ⟨hiv, decide_eq_true hfallen⟩, hx⟩
  · refine Or.inl ⟨iv, List.mem_filter.mpr ⟨hiv, decide_eq_true ?_⟩, hx⟩
    exact Nat.not_le.mp hfallen

/-! ## 2. One call -/

/-- A receipt inserts its number into spaced intervals below 2^64. -/
theorem Inv.insert {t : AckTracker} {received : List PacketNumber} (h : Inv t received)
    {pn : PacketNumber} (hall : ∀ p ∈ received ++ [pn], p.toNat < u64Max) (x : Nat) :
    Covers (insertPacket pn.toNat t.intervals) x ↔ x = pn.toNat ∨ Covers t.intervals x := by
  obtain ⟨hle, hle', hsrc⟩ := le_newLargest t.largestReceived pn
  have hbound : (newLargest t.largestReceived pn).toNat < u64Max := by
    rcases hsrc with hsrc | hsrc
    · rw [hsrc]
      exact hall pn (by simp)
    · exact hall _ (List.mem_append_left _ (h.largest_mem _ hsrc))
  have hold : Spaced ((newLargest t.largestReceived pn).toNat + 1) t.intervals := by
    cases hlast : t.largestReceived with
    | none =>
      rw [(h.fresh hlast).1]
      trivial
    | some l => exact (h.spaced l hlast).mono (Nat.succ_le_succ (hlast ▸ hle' l hlast))
  have hspec := insertPacket_spec pn.toNat (by unfold u64Max at hbound; omega) hold (by omega)
  exact hspec.2 x

/-- **One call.**  What was covered, and what is received, is covered afterwards or dropped. -/
theorem Inv.covers_step {t : AckTracker} {received : List PacketNumber} (h : Inv t received)
    (op : Op) (hall : ∀ p ∈ received ++ op.received.toList, p.toNat < u64Max) {x : Nat}
    (hx : Covers t.intervals x ∨ ∃ pn, op.received = some pn ∧ pn.toNat = x) :
    Covers (t.step op).intervals x ∨ Covers (t.droppedBy op) x := by
  cases op with
  | receive pn e ecn now =>
    have hcovers : Covers (insertPacket pn.toNat t.intervals) x := by
      rw [h.insert hall]
      rcases hx with hx | ⟨pn', hpn', rfl⟩
      · exact Or.inr hx
      · obtain rfl := Option.some.inj hpn'
        exact Or.inl rfl
    rw [AckTracker.step, onPacketReceived_intervals]
    exact covers_prune hcovers
  | setPolicy freq delay =>
    rcases hx with hx | ⟨pn, hpn, -⟩
    · exact Or.inl hx
    · cases hpn
  | commitSent now =>
    rcases hx with hx | ⟨pn, hpn, -⟩
    · exact Or.inl hx
    · cases hpn

/-! ## 3. Whole runs -/

theorem receivedOf_cons (op : Op) (ops : List Op) :
    receivedOf (op :: ops) = op.received.toList ++ receivedOf ops := by
  cases hop : op.received <;> simp [receivedOf, hop]

theorem receivedOf_append (ops ops' : List Op) :
    receivedOf (ops ++ ops') = receivedOf ops ++ receivedOf ops' := List.filterMap_append

/-- What is covered stays covered or is dropped. -/
theorem Inv.covers_run {t : AckTracker} {received : List PacketNumber} (h : Inv t received)
    (ops : List Op) (hall : ∀ p ∈ received ++ receivedOf ops, p.toNat < u64Max) {x : Nat}
    (hx : Covers t.intervals x) :
    Covers (t.run ops).intervals x ∨ Covers (t.dropped ops) x := by
  induction ops generalizing t received with
  | nil => exact Or.inl hx
  | cons op ops ih =>
    rw [receivedOf_cons, ← List.append_assoc] at hall
    have hfirst : ∀ p ∈ received ++ op.received.toList, p.toNat < u64Max :=
      fun p hp => hall p (List.mem_append_left _ hp)
    rw [dropped, covers_append]
    rcases h.covers_step op hfirst (Or.inl hx) with hkept | hdropped
    · exact (ih (h.step op hfirst) hall hkept).imp_right Or.inr
    · exact Or.inr (Or.inl hdropped)

/-- **What the intervals of a tracker are** after the calls `ops` on a new tracker. -/
structure IntervalsExact (ops : List Op) : Prop where
  nonempty : ∀ iv ∈ (default.run ops).intervals, iv.start ≤ iv.last
  /-- strictly descending, with a number missing between neighbours -/
  descending : (default.run ops).intervals.Pairwise fun newer older => older.last + 1 < newer.start
  sound : ∀ x, Covers (default.run ops).intervals x → ∃ pn ∈ receivedOf ops, pn.toNat = x
  /-- from each receipt on, its number is covered in the end or was dropped -/
  complete : ∀ before op after pn, ops = before ++ op :: after → op.received = some pn →
    Covers (default.run ops).intervals pn.toNat ∨
      Covers ((default.run before).dropped (op :: after)) pn.toNat

/-- **The intervals of the tracker.** For every sequence of calls with packet numbers below 2^64 -
1, in any order and with duplicates: the intervals are not empty, descend strictly and leave a
number out between neighbours; they cover only what was received; and every number that was received
is covered, unless from its receipt on an interval with it was dropped, one that ended at or below
the largest number minus the retention window.  What an ACK frame says of the intervals is
`ack_sound` and `ack_complete_iff`. -/
theorem ack_intervals_exact (ops : List Op)
    (hall : ∀ p ∈ receivedOf ops, p.toNat < 2 ^ 64 - 1) : IntervalsExact ops := by
  have hinv := inv_default.run ops hall
  have hspaced : ∃ b, Spaced b (default.run ops).intervals := by
    cases hlargest : (default.run ops).largestReceived with
    | none =>
      rw [(hinv.fresh hlargest).1]
      exact ⟨0, trivial⟩
    | some l => exact ⟨_, hinv.spaced l hlargest⟩
  obtain ⟨b, hspaced⟩ := hspaced
  refine ⟨fun iv hiv => (hspaced.mem hiv).1, hspaced.pairwise, hinv.sound, ?_⟩
  rintro before op after pn rfl hop
  rw [receivedOf_append, receivedOf_cons, ← List.append_assoc] at hall
  have hbefore : Inv (default.run before) (receivedOf before) :=
    inv_default.run before fun p hp =>
      hall p (List.mem_append_left _ (List.mem_append_left _ hp))
  have hop' : ∀ p ∈ receivedOf before ++ op.received.toList, p.toNat < u64Max :=
    fun p hp => hall p (List.mem_append_left _ hp)
  have hrun : default.run (before ++ op :: after) = ((default.run before).step op).run after := by
    rw [run, run, run, List.foldl_append, List.foldl_cons]
  rw [hrun, dropped, covers_append]
  rcases hbefore.covers_step op hop' (Or.inr ⟨pn, hop, rfl⟩) with hkept | hdropped
  · exact ((hbefore.step op hop').covers_run after hall hkept).imp_right Or.inr
  · exact Or.inr (Or.inl hdropped)

/-- Two packets, their neighbour in between, and one far ahead that drops the three. -/
theorem ack_intervals_exact_four :
    (∀ p ∈ receivedOf [.receive 1 true 0 0, .receive 3 true 0 0, .receive 2 true 0 0,
        .receive 5000 true 0 0], p.toNat < 2 ^ 64 - 1) ∧
      IntervalsExact [.receive 1 true 0 0, .receive 3 true 0 0, .receive 2 true 0 0,
        .receive 5000 true 0 0] := by
  have hsmall : ∀ p ∈ receivedOf [.receive 1 true 0 0, .receive 3 true 0 0, .receive 2 true 0 0,
      .receive 5000 true 0 0], p.toNat < 2 ^ 64 - 1 := by
    simp [receivedOf, Op.received]
  exact ⟨hsmall, ack_intervals_exact _ hsmall⟩

end AckTracker

end Gtp
