/-
# The replay window is a set of packet numbers (`gtp-crypto/src/replay.rs`)

`ReplayWindow` keeps 128 bits behind the largest number seen.  What it is for is simpler: it
remembers the set of numbers committed, and refuses a number of that set and any number too far
behind the largest.

* The words are shifted with a carry from the low one into the high one; `bitAt_shiftBitmap` says
  once what that does to a bit, for the three ranges of the distance.
* `Tracks w S` ties the window to a set -- bit `i` stands for the number `i` behind the largest --
  and `Tracks.commit` keeps it, whatever the jump.
* `Tracks.check_iff` reads the answer of `check` off the set, and `check_refines_set` is the whole:
  the window refines the set, over all sequences of commits.

The set is a set of 64-bit numbers, and no jump is too large.  A number more than 127 behind the
largest is refused whether it was committed or not: that is what the window gives up.
-/
import Gtp.Crypto
import Gtp.Lib.Bits
import Mathlib.Order.Bounds.Defs

namespace Gtp

open Bits

namespace ReplayWindow

/-! ## 1. The bitmap -/

/-- Bit `i` of the bitmap, the low word first. -/
def bitAt (w : ReplayWindow) (i : Nat) : Bool :=
  if i < 64 then bit w.bitmap.1 i else bit w.bitmap.2 (i - 64)

theorem bitAt_of_ge {w : ReplayWindow} {i : Nat} (h : 128 ≤ i) : w.bitAt i = false := by
  rw [bitAt, if_neg (by omega)]
  exact bit_of_ge (by omega)

theorem isBitSet_eq (w : ReplayWindow) (i : Nat) : w.isBitSet i = w.bitAt i := by
  unfold isBitSet
  split
  · rename_i h
    rw [bitAt, if_pos h]
    exact Bool.eq_iff_iff.mpr (decide_eq_true_iff.trans (and_mask_ne_zero h))
  · rename_i h
    split
    · rw [bitAt, if_neg h]
      exact Bool.eq_iff_iff.mpr (decide_eq_true_iff.trans (and_mask_ne_zero (by omega)))
    · exact (bitAt_of_ge (by omega)).symm

theorem bitAt_setBit {w : ReplayWindow} {i : Nat} (hi : i < 128) (j : Nat) :
    (w.setBit i).bitAt j = (w.bitAt j || decide (j = i)) := by
  unfold setBit bitAt
  by_cases h : i < 64
  · rw [if_pos h]
    by_cases hj : j < 64
    · simp only [if_pos hj, bit_or, bit_mask h]
    · simp only [if_neg hj, show j ≠ i by omega, decide_false, Bool.or_false]
  · rw [if_neg h, if_pos hi]
    by_cases hj : j < 64
    · simp only [if_pos hj, show j ≠ i by omega, decide_false, Bool.or_false]
    · have hiff : decide (j - 64 = i - 64) = decide (j = i) := decide_eq_decide.mpr (by omega)
      simp only [if_neg hj, bit_or, bit_mask (show i - 64 < 64 by omega), hiff]

/-- **The shift moves every bit up by the distance**, across the word boundary too. -/
theorem bitAt_shiftBitmap (w : ReplayWindow) {s : Nat} (hs : 0 < s) (j : Nat) :
    (w.shiftBitmap s).bitAt j = (decide (s ≤ j ∧ j < 128) && w.bitAt (j - s)) := by
  unfold shiftBitmap
  by_cases h128 : 128 ≤ s
  · -- everything leaves the window
    rw [if_pos h128]
    have hnot : ¬ (s ≤ j ∧ j < 128) := by omega
    simp [bitAt, hnot]
  rw [if_neg h128]
  by_cases h64 : 64 ≤ s
  · -- the low word moves into the high one
    rw [if_pos h64]
    unfold bitAt
    by_cases hj : j < 64
    · have hnot : ¬ (s ≤ j ∧ j < 128) := by omega
      simp [hj, hnot]
    · simp only [if_neg hj, bit_shiftLeft _ (show s - 64 < 64 by omega)]
      have hiff : decide (s - 64 ≤ j - 64 ∧ j - 64 < 64) = decide (s ≤ j ∧ j < 128) :=
        decide_eq_decide.mpr (by omega)
      rw [hiff]
      by_cases hin : s ≤ j ∧ j < 128
      · rw [if_pos (show j - s < 64 by omega), show j - 64 - (s - 64) = j - s by omega]
      · simp [hin]
  · -- both words move, and the top of the low one is carried over
    rw [if_neg h64]
    unfold bitAt
    by_cases hj : j < 64
    · simp only [if_pos hj, bit_shiftLeft _ (show s < 64 by omega), if_pos (show j - s < 64 by omega)]
      have hiff : decide (s ≤ j ∧ j < 64) = decide (s ≤ j ∧ j < 128) :=
        decide_eq_decide.mpr (by omega)
      rw [hiff]
    · simp only [if_neg hj, bit_or, bit_shiftLeft _ (show s < 64 by omega),
        bit_shiftRight _ (show 64 - s < 64 by omega)]
      by_cases hin : j < 128
      · by_cases hlow : j - s < 64
        · -- the bit comes out of the low word
          have hnot : ¬ (s ≤ j - 64 ∧ j - 64 < 64) := by omega
          rw [if_pos hlow, show j - 64 + (64 - s) = j - s by omega]
          simp [hnot, hin, show s ≤ j by omega]
        · -- the bit stays in the high word
          rw [if_neg hlow, bit_of_ge (show 64 ≤ j - 64 + (64 - s) by omega),
            show j - 64 - s = j - s - 64 by omega]
          simp [hin, show s ≤ j by omega, show s ≤ j - 64 by omega, show j - 64 < 64 by omega]
      · have hnot : ¬ (s ≤ j - 64 ∧ j - 64 < 64) := by omega
        rw [bit_of_ge (show 64 ≤ j - 64 + (64 - s) by omega)]
        simp [hin, hnot]

@[simp] theorem largestSeen_setBit (w : ReplayWindow) (i : Nat) :
    (w.setBit i).largestSeen = w.largestSeen := by
  unfold setBit
  split
  · rfl
  · split <;> rfl

@[simp] theorem initialized_setBit (w : ReplayWindow) (i : Nat) :
    (w.setBit i).initialized = w.initialized := by
  unfold setBit
  split
  · rfl
  · split <;> rfl

@[simp] theorem initialized_shiftBitmap (w : ReplayWindow) (s : Nat) :
    (w.shiftBitmap s).initialized = w.initialized := by
  unfold shiftBitmap
  split
  · rfl
  · split <;> rfl

/-! ## 2. The set behind the window -/

/-- The window holds the nonempty set `S`: its largest number, and a bit for each number less than
128 behind it. -/
structure Tracks (w : ReplayWindow) (S : Set PacketNumber) : Prop where
  initialized : w.initialized = true
  exists_largest : ∃ m, IsGreatest S m ∧ w.largestSeen = m.toNat
  bits : ∀ i, w.bitAt i = true ↔ i < 128 ∧ ∃ pn ∈ S, pn.toNat + i = w.largestSeen

theorem Tracks.le_largest {w : ReplayWindow} {S : Set PacketNumber} (h : w.Tracks S)
    {pn : PacketNumber} (hpn : pn ∈ S) : pn.toNat ≤ w.largestSeen := by
  obtain ⟨m, hm, hlargest⟩ := h.exists_largest
  rw [hlargest]
  exact UInt64.le_iff_toNat_le.mp (hm.2 hpn)

theorem tracks_commit_new (pn : PacketNumber) : (new.commit pn).Tracks {pn} := by
  refine ⟨rfl, ⟨pn, ⟨rfl, ?_⟩, rfl⟩, ?_⟩
  · rintro x rfl
    exact UInt64.le_refl _
  intro i
  have hbit : (new.commit pn).bitAt i = decide (i = 0) := by
    simp only [new, commit, bitAt]
    by_cases hi : i < 64
    · simp [hi]
    · simp [hi, show i ≠ 0 by omega]
  rw [hbit, decide_eq_true_iff]
  constructor
  · rintro rfl
    exact ⟨by decide, pn, rfl, rfl⟩
  · rintro ⟨-, pn', rfl, hsum⟩
    have hlargest : (new.commit pn').largestSeen = pn'.toNat := rfl
    omega

/-- A number above the largest: the old bits move up, and bit 0 is the new number. -/
theorem Tracks.commit_above {w : ReplayWindow} {S : Set PacketNumber} (h : w.Tracks S)
    {pn : PacketNumber} (hpn : w.largestSeen < pn.toNat) : (w.commit pn).Tracks (insert pn S) := by
  obtain ⟨m, hm, hlargest⟩ := h.exists_largest
  -- the two arms of `commit` shift alike
  have hcommit : w.commit pn =
      ({ w.shiftBitmap (pn.toNat - w.largestSeen) with largestSeen := pn.toNat } :
        ReplayWindow).setBit 0 := by
    simp only [commit, h.initialized, Bool.not_true, Bool.false_eq_true, if_false, if_pos hpn]
    by_cases hfar : replayWindowSize ≤ pn.toNat - w.largestSeen
    · have hshift : w.shiftBitmap (pn.toNat - w.largestSeen) = { w with bitmap := (0, 0) } := by
        rw [shiftBitmap]
        exact if_pos hfar
      rw [if_pos hfar, hshift, h.initialized]
    · rw [if_neg hfar]
  rw [hcommit]
  refine ⟨?_, ⟨pn, ⟨Set.mem_insert _ _, ?_⟩, largestSeen_setBit _ _⟩, ?_⟩
  · rw [initialized_setBit]
    exact (initialized_shiftBitmap _ _).trans h.initialized
  · rintro x (rfl | hx)
    · exact UInt64.le_refl _
    · have hle := h.le_largest hx
      exact UInt64.le_iff_toNat_le.mpr (by omega)
  · intro i
    rw [bitAt_setBit (by decide), largestSeen_setBit, Bool.or_eq_true, decide_eq_true_iff]
    have hshift := w.bitAt_shiftBitmap (show 0 < pn.toNat - w.largestSeen by omega) i
    have hbits := h.bits (i - (pn.toNat - w.largestSeen))
    have hmoved : ({ w.shiftBitmap (pn.toNat - w.largestSeen) with largestSeen := pn.toNat } :
        ReplayWindow).bitAt i = (w.shiftBitmap (pn.toNat - w.largestSeen)).bitAt i := rfl
    rw [hmoved, hshift, Bool.and_eq_true, decide_eq_true_iff, hbits]
    constructor
    · rintro (⟨⟨hle, hlt⟩, -, x, hx, hsum⟩ | rfl)
      · exact ⟨hlt, x, Set.mem_insert_of_mem _ hx, by dsimp only; omega⟩
      · exact ⟨by decide, pn, Set.mem_insert _ _, rfl⟩
    · rintro ⟨hlt, x, rfl | hx, hsum⟩
      · dsimp only at hsum
        exact Or.inr (by omega)
      · have hle := h.le_largest hx
        dsimp only at hsum
        exact Or.inl ⟨⟨by omega, hlt⟩, by omega, x, hx, by omega⟩

/-- A number not above the largest: its bit is set if the window reaches that far. -/
theorem Tracks.commit_below {w : ReplayWindow} {S : Set PacketNumber} (h : w.Tracks S)
    {pn : PacketNumber} (hpn : ¬ w.largestSeen < pn.toNat) :
    (w.commit pn).Tracks (insert pn S) := by
  obtain ⟨m, hm, hlargest⟩ := h.exists_largest
  have hgreatest : IsGreatest (insert pn S) m := by
    refine ⟨Set.mem_insert_of_mem _ hm.1, ?_⟩
    rintro x (rfl | hx)
    · exact UInt64.le_iff_toNat_le.mpr (by omega)
    · exact hm.2 hx
  by_cases hnear : w.largestSeen - pn.toNat < replayWindowSize
  · have hcommit : w.commit pn = w.setBit (w.largestSeen - pn.toNat) := by
      simp [commit, h.initialized, hpn, hnear]
    rw [hcommit]
    refine ⟨(initialized_setBit _ _).trans h.initialized, ⟨m, hgreatest, ?_⟩, ?_⟩
    · rw [largestSeen_setBit, hlargest]
    · intro i
      rw [bitAt_setBit hnear, largestSeen_setBit, Bool.or_eq_true, decide_eq_true_iff, h.bits]
      constructor
      · rintro (⟨hlt, x, hx, hsum⟩ | rfl)
        · exact ⟨hlt, x, Set.mem_insert_of_mem _ hx, hsum⟩
        · exact ⟨hnear, pn, Set.mem_insert _ _, by omega⟩
      · rintro ⟨hlt, x, rfl | hx, hsum⟩
        · exact Or.inr (by omega)
        · exact Or.inl ⟨hlt, x, hx, hsum⟩
  · have hcommit : w.commit pn = w := by
      simp [commit, h.initialized, hpn, hnear]
    rw [hcommit]
    refine ⟨h.initialized, ⟨m, hgreatest, hlargest⟩, ?_⟩
    intro i
    rw [h.bits]
    constructor
    · rintro ⟨hlt, x, hx, hsum⟩
      exact ⟨hlt, x, Set.mem_insert_of_mem _ hx, hsum⟩
    · rintro ⟨hlt, x, rfl | hx, hsum⟩
      · have hsize : replayWindowSize = 128 := rfl
        omega
      · exact ⟨hlt, x, hx, hsum⟩

/-- **Every commit adds its number to the set.** -/
theorem Tracks.commit {w : ReplayWindow} {S : Set PacketNumber} (h : w.Tracks S)
    (pn : PacketNumber) : (w.commit pn).Tracks (insert pn S) := by
  by_cases hpn : w.largestSeen < pn.toNat
  · exact h.commit_above hpn
  · exact h.commit_below hpn

/-! ## 3. Runs -/

def commitAll (w : ReplayWindow) (pns : List PacketNumber) : ReplayWindow := pns.foldl commit w

theorem Tracks.commitAll {w : ReplayWindow} {S : Set PacketNumber} (h : w.Tracks S)
    (pns : List PacketNumber) : (w.commitAll pns).Tracks (S ∪ {pn | pn ∈ pns}) := by
  induction pns generalizing w S with
  | nil => simpa [ReplayWindow.commitAll] using h
  | cons pn pns ih =>
    have hset : S ∪ {x | x ∈ pn :: pns} = insert pn S ∪ {x | x ∈ pns} := by
      ext x
      simp only [Set.mem_union, Set.mem_ofPred_eq, List.mem_cons, Set.mem_insert_iff]
      tauto
    rw [hset]
    exact ih (h.commit pn)

/-- What the window refuses: a number too old, or one committed before. -/
theorem Tracks.check_iff {w : ReplayWindow} {S : Set PacketNumber} (h : w.Tracks S)
    (pn : PacketNumber) :
    w.check pn = .ok () ↔
      ∃ m, IsGreatest S m ∧ (m < pn ∨ (m.toNat - pn.toNat < 128 ∧ pn ∉ S)) := by
  obtain ⟨m, hm, hlargest⟩ := h.exists_largest
  have hspec : (∃ m, IsGreatest S m ∧ (m < pn ∨ (m.toNat - pn.toNat < 128 ∧ pn ∉ S))) ↔
      w.largestSeen < pn.toNat ∨ (w.largestSeen - pn.toNat < 128 ∧ pn ∉ S) := by
    rw [hlargest]
    constructor
    · rintro ⟨m', hm', hor⟩
      rw [UInt64.le_antisymm (hm'.2 hm.1) (hm.2 hm'.1)]
      exact hor.imp_left UInt64.lt_iff_toNat_lt.mp
    · intro hor
      exact ⟨m, hm, hor.imp_left UInt64.lt_iff_toNat_lt.mpr⟩
  rw [hspec]
  simp only [check, h.initialized, Bool.not_true, Bool.false_eq_true, if_false]
  by_cases habove : w.largestSeen < pn.toNat
  · simp [habove]
  · rw [if_neg habove]
    have hmem : w.isBitSet (w.largestSeen - pn.toNat) = true ↔
        w.largestSeen - pn.toNat < 128 ∧ pn ∈ S := by
      rw [isBitSet_eq, h.bits]
      refine and_congr_right fun _ => ⟨?_, ?_⟩
      · rintro ⟨x, hx, hsum⟩
        rwa [← UInt64.toNat_inj.mp (show x.toNat = pn.toNat by omega)]
      · intro hpn
        exact ⟨pn, hpn, by omega⟩
    by_cases hfar : replayWindowSize ≤ w.largestSeen - pn.toNat
    · have hnot : ¬ w.largestSeen - pn.toNat < 128 := Nat.not_lt.mpr hfar
      simp [hfar, habove, hnot]
    · have hnear : w.largestSeen - pn.toNat < 128 := Nat.not_le.mp hfar
      rw [if_neg hfar]
      by_cases hset : w.isBitSet (w.largestSeen - pn.toNat) = true
      · have hpn := (hmem.mp hset).2
        simp [hset, habove, hpn]
      · have hpn : pn ∉ S := fun hpn => hset (hmem.mpr ⟨hnear, hpn⟩)
        simp [hset, hnear, hpn]

/-- `check_and_update`: the result and the window afterwards. -/
def checkAndUpdate (w : ReplayWindow) (packetNumber : PacketNumber) :
    Result Unit × ReplayWindow :=
  match w.check packetNumber with
  | .error e => (.error e, w)
  | .ok () => (.ok (), w.commit packetNumber)

/-- The numbers accepted when every accepted number is committed. -/
def accepted (w : ReplayWindow) : List PacketNumber → List PacketNumber
  | [] => []
  | pn :: pns =>
    match w.checkAndUpdate pn with
    | (.ok (), w) => pn :: accepted w pns
    | (.error _, w) => accepted w pns

theorem Tracks.accepted_fresh {w : ReplayWindow} {S : Set PacketNumber} (h : w.Tracks S)
    (pns : List PacketNumber) :
    (w.accepted pns).Nodup ∧ ∀ pn ∈ w.accepted pns, pn ∉ S := by
  induction pns generalizing w S with
  | nil => exact ⟨List.nodup_nil, by simp [accepted]⟩
  | cons pn pns ih =>
    have hcheck := h.check_iff pn
    cases hres : w.check pn with
    | error e =>
      simp only [accepted, checkAndUpdate, hres]
      exact ih h
    | ok _ =>
      simp only [accepted, checkAndUpdate, hres]
      obtain ⟨hnodup, hfresh⟩ := ih (h.commit pn)
      have hpn : pn ∉ S := by
        obtain ⟨m, hm, habove | ⟨-, hnot⟩⟩ := hcheck.mp hres
        · exact fun hmem => absurd (hm.2 hmem) (UInt64.not_le.mpr habove)
        · exact hnot
      refine ⟨List.nodup_cons.mpr ⟨?_, hnodup⟩, ?_⟩
      · exact fun hmem => hfresh pn hmem (Set.mem_insert _ _)
      · intro x hx
        rcases List.mem_cons.mp hx with rfl | hx
        · exact hpn
        · exact fun hS => hfresh x hx (Set.mem_insert_of_mem _ hS)

/-- **The window refines the set of committed numbers.** After any commits, in any order and with
any jumps, a number is accepted exactly when nothing was committed, or it is above the largest
committed number, or less than 128 below it and not committed; and committing what is accepted, no
number is accepted twice.  A number that is too old is refused without being known, so that a late
packet may be refused the first time it comes. -/
theorem check_refines_set (pns : List PacketNumber) :
    (∀ pn, (new.commitAll pns).check pn = .ok () ↔
      pns = [] ∨ ∃ m, IsGreatest {x | x ∈ pns} m ∧
        (m < pn ∨ (m.toNat - pn.toNat < 128 ∧ pn ∉ pns))) ∧
      (new.accepted pns).Nodup := by
  cases pns with
  | nil => exact ⟨fun pn => by simp [commitAll, check, new], List.nodup_nil⟩
  | cons first pns =>
    have htracks := tracks_commit_new first
    constructor
    · intro pn
      have hset : ({first} : Set PacketNumber) ∪ {x | x ∈ pns} = {x | x ∈ first :: pns} := by
        ext x
        simp
      have hall := htracks.commitAll pns
      rw [hset] at hall
      have hrun : new.commitAll (first :: pns) = (new.commit first).commitAll pns := rfl
      rw [hrun, hall.check_iff]
      simp
    · obtain ⟨hnodup, hfresh⟩ := htracks.accepted_fresh pns
      have hrun : new.accepted (first :: pns) = first :: (new.commit first).accepted pns := rfl
      rw [hrun]
      exact List.nodup_cons.mpr ⟨fun hmem => hfresh first hmem rfl, hnodup⟩

/-- A jump of 64 carries a whole word: 100 is refused and 101 is not. -/
example : let w := new.commitAll [100, 95, 164]
    w.check 100 = .error .replayDetected ∧ w.check 101 = .ok () := by decide

end ReplayWindow

end Gtp
