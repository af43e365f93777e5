/-
# The walk over hostile ACK ranges

The gaps and lengths of an ACK frame are 32-bit numbers of the peer's choice, and `parse_ack_ranges`
subtracts them from 64-bit packet numbers.  Its three breaks come before the subtractions they
protect.

Two readings of the walk stand beside it.

* `walkChecked` has every sum and difference of the source checked for 64 bits: it never fails, and
  gives what the walk gives (`walkChecked_eq`).  In particular nothing wraps in a release build and
  nothing panics in a debug build.
* `denoted` is what the ranges mean, as blocks of integers that may run below zero: the walk gives
  the numbers of the first of these blocks, up to one that runs below zero or passes the cap
  (`walksThrough_parseAckRanges`).

`parse_ack_ranges_safe` puts them together with the order and the bound of the result.  A block that
is cut short by a break is given up as a whole, also its part above zero.  Whether the numbers were
ever sent is not tested by the walk; `on_ack_received` refuses a frame whose largest number was not.
-/
import Gtp.Recovery.LossDetector
import Mathlib.Data.List.TakeWhile
import Mathlib.Tactic.Common

namespace Gtp

namespace LossDetector

/-! ## 1. What the ranges mean -/

structure Block where
  low : Int
  high : Int
  deriving DecidableEq, Repr

namespace Block

def size (b : Block) : Nat := (b.high + 1 - b.low).toNat

/-- The numbers of the block, the highest first. -/
def numbers (b : Block) : List Nat := (List.range' b.low.toNat b.size).reverse

theorem length_numbers (b : Block) : b.numbers.length = b.size := by
  rw [numbers, List.length_reverse, List.length_range']

end Block

/-- The blocks below `prevLow`: each skips its gap and covers one number more than its length. -/
def laterBlocks (prevLow : Int) : List AckRange → List Block
  | [] => []
  | range :: rest =>
    let high := prevLow - range.gap.toNat - 1
    let low := high - range.length.toNat
    ⟨low, high⟩ :: laterBlocks low rest

/-- The blocks of a frame: the first one ends at the largest number, and its gap says nothing. -/
def denoted (largest : Int) : List AckRange → List Block
  | [] => []
  | range :: rest =>
    ⟨largest - range.length.toNat, largest⟩ :: laterBlocks (largest - range.length.toNat) rest

/-- `acked` are the numbers of the first of the blocks, `total` numbers having come before: all of
them at or above zero, and the next block, if there is one, runs below zero or passes the cap. -/
def WalksThrough (total : Nat) (blocks : List Block) (acked : List Nat) : Prop :=
  ∃ k, acked = (blocks.take k).flatMap Block.numbers ∧ (∀ b ∈ blocks.take k, 0 ≤ b.low) ∧
    ∀ b, blocks[k]? = some b → b.low < 0 ∨ maxAckedPerFrame < total + acked.length + b.size

theorem walksThrough_nil (total : Nat) : WalksThrough total [] [] :=
  ⟨0, rfl, by simp, by simp⟩

theorem walksThrough_stop {total : Nat} {b : Block} {blocks : List Block}
    (h : b.low < 0 ∨ maxAckedPerFrame < total + b.size) : WalksThrough total (b :: blocks) [] := by
  refine ⟨0, rfl, by simp, ?_⟩
  intro b' hb'
  obtain rfl : b = b' := by simpa using hb'
  simpa using h

theorem WalksThrough.cons {total : Nat} {b : Block} {blocks : List Block} {acked : List Nat}
    (h : WalksThrough (total + b.size) blocks acked) (hb : 0 ≤ b.low) :
    WalksThrough total (b :: blocks) (b.numbers ++ acked) := by
  obtain ⟨k, hacked, hlow, hstop⟩ := h
  refine ⟨k + 1, ?_, ?_, ?_⟩
  · rw [List.take_succ_cons, List.flatMap_cons, ← hacked]
  · rw [List.take_succ_cons, List.forall_mem_cons]
    exact ⟨hb, hlow⟩
  · intro b' hb'
    rw [List.getElem?_cons_succ] at hb'
    have h := hstop b' hb'
    rw [List.length_append, b.length_numbers]
    omega

/-! ## 2. The walk gives the first blocks -/

/-- One range whose block starts at `high`: the walk stops before it, or gives its numbers. -/
theorem walksThrough_block {total high length : Nat} {blocks : List Block} {rest : List Nat}
    (hrest : length ≤ high → WalksThrough (total + (length + 1)) blocks rest) :
    WalksThrough total (⟨(high : Int) - length, high⟩ :: blocks)
      (if high < length then []
        else if maxAckedPerFrame < total + (length + 1) then []
        else (List.range' (high - length) (length + 1)).reverse ++ rest) := by
  have hsize : (⟨(high : Int) - length, high⟩ : Block).size = length + 1 := by
    simp only [Block.size]
    omega
  split
  · rename_i hlow
    exact walksThrough_stop (Or.inl (by simp only; omega))
  · rename_i hlow
    split
    · rename_i hcap
      exact walksThrough_stop (Or.inr (by rw [hsize]; exact hcap))
    · have hnumbers : (⟨(high : Int) - length, high⟩ : Block).numbers =
          (List.range' (high - length) (length + 1)).reverse := by
        have hstart : ((high : Int) - length).toNat = high - length := by omega
        rw [Block.numbers, hsize, hstart]
      rw [← hnumbers]
      refine WalksThrough.cons ?_ (by simp only; omega)
      rw [hsize]
      exact hrest (Nat.not_lt.mp hlow)

/-- The ranges behind the first, from any point of the walk. -/
theorem walksThrough_later (largestPn i total prevLow : Nat) (ranges : List AckRange) :
    WalksThrough total (laterBlocks prevLow ranges)
      (parseWalk largestPn (i + 1) total prevLow ranges) := by
  induction ranges generalizing i total prevLow with
  | nil => exact walksThrough_nil total
  | cons range rest ih =>
    rw [parseWalk, laterBlocks]
    have hpos : 0 < i + 1 := Nat.succ_pos i
    simp only [hpos, true_and, if_true]
    by_cases hgap : prevLow < range.gap.toNat + 1
    · rw [if_pos hgap]
      exact walksThrough_stop (Or.inl (by simp only; omega))
    · rw [if_neg hgap]
      have hhigh : (prevLow : Int) - range.gap.toNat - 1 =
          ((prevLow - range.gap.toNat - 1 : Nat) : Int) := by omega
      rw [hhigh]
      refine walksThrough_block fun hlength => ?_
      rw [← Int.ofNat_sub hlength]
      exact ih (i + 1) _ _

/-- **The walk gives the first of the blocks that the ranges mean.** -/
theorem walksThrough_parseAckRanges (largestPn : Nat) (ranges : List AckRange) (rangeCount : Nat) :
    WalksThrough 0 (denoted largestPn (ranges.take rangeCount))
      (parseAckRanges largestPn ranges rangeCount) := by
  rw [parseAckRanges]
  cases ranges.take rangeCount with
  | nil => exact walksThrough_nil 0
  | cons range rest =>
    rw [parseWalk, denoted]
    simp only [Nat.lt_irrefl, false_and, if_false]
    refine walksThrough_block fun hlength => ?_
    rw [← Int.ofNat_sub hlength]
    exact walksThrough_later largestPn 0 _ _ rest

/-! ## 3. Descending, bounded, capped -/

/-- The numbers of a block, with what comes below it. -/
theorem pairwise_block {low count : Nat} {rest : List Nat} (hrest : rest.Pairwise (· > ·))
    (hlow : ∀ x ∈ rest, x < low) :
    ((List.range' low count).reverse ++ rest).Pairwise (· > ·) := by
  rw [List.pairwise_append, List.pairwise_reverse]
  refine ⟨List.pairwise_lt_range', hrest, ?_⟩
  intro x hx y hy
  rw [List.mem_reverse, List.mem_range'_1] at hx
  have hy' := hlow y hy
  omega

/-- Behind the first range the numbers descend from below the previous block. -/
theorem pairwise_later (largestPn i total prevLow : Nat) (ranges : List AckRange) :
    (parseWalk largestPn (i + 1) total prevLow ranges).Pairwise (· > ·) ∧
      ∀ x ∈ parseWalk largestPn (i + 1) total prevLow ranges, x < prevLow := by
  induction ranges generalizing i total prevLow with
  | nil => exact ⟨List.Pairwise.nil, fun x hx => absurd hx List.not_mem_nil⟩
  | cons range rest ih =>
    rw [parseWalk]
    simp only [Nat.succ_pos, true_and, if_true]
    have hnil : ([] : List Nat).Pairwise (· > ·) ∧ ∀ x ∈ ([] : List Nat), x < prevLow :=
      ⟨List.Pairwise.nil, fun x hx => absurd hx List.not_mem_nil⟩
    split
    · exact hnil
    split
    · exact hnil
    split
    · exact hnil
    · obtain ⟨hrest, hbelow⟩ := ih (i + 1) (total + (range.length.toNat + 1))
        (prevLow - range.gap.toNat - 1 - range.length.toNat)
      refine ⟨pairwise_block hrest hbelow, fun x hx => ?_⟩
      rcases List.mem_append.mp hx with hx | hx
      · rw [List.mem_reverse, List.mem_range'_1] at hx
        omega
      · have hx' := hbelow x hx
        omega

/-- **The numbers descend strictly, from the largest.** -/
theorem pairwise_parseAckRanges (largestPn : Nat) (ranges : List AckRange) (rangeCount : Nat) :
    (parseAckRanges largestPn ranges rangeCount).Pairwise (· > ·) ∧
      ∀ x ∈ parseAckRanges largestPn ranges rangeCount, x ≤ largestPn := by
  rw [parseAckRanges]
  have hnil : ([] : List Nat).Pairwise (· > ·) ∧ ∀ x ∈ ([] : List Nat), x ≤ largestPn :=
    ⟨List.Pairwise.nil, fun x hx => absurd hx List.not_mem_nil⟩
  cases ranges.take rangeCount with
  | nil => exact hnil
  | cons range rest =>
    rw [parseWalk]
    simp only [Nat.lt_irrefl, false_and, if_false]
    split
    · exact hnil
    split
    · exact hnil
    · obtain ⟨hrest, hbelow⟩ := pairwise_later largestPn 0 (0 + (range.length.toNat + 1))
        (largestPn - range.length.toNat) rest
      refine ⟨pairwise_block hrest hbelow, fun x hx => ?_⟩
      rcases List.mem_append.mp hx with hx | hx
      · rw [List.mem_reverse, List.mem_range'_1] at hx
        omega
      · have hx' := hbelow x hx
        omega

/-- The cap is checked before each block. -/
theorem length_parseWalk_le {largestPn i total prevLow : Nat} (h : total ≤ maxAckedPerFrame)
    (ranges : List AckRange) :
    total + (parseWalk largestPn i total prevLow ranges).length ≤ maxAckedPerFrame := by
  induction ranges generalizing i total prevLow with
  | nil => exact h
  | cons range rest ih =>
    rw [parseWalk]
    generalize (if 0 < i then prevLow - range.gap.toNat - 1 else largestPn) = high
    dsimp only
    split
    · exact h
    split
    · exact h
    split
    · exact h
    · rename_i hcap
      rw [List.length_append, List.length_reverse, List.length_range', ← Nat.add_assoc]
      exact ih (Nat.not_lt.mp hcap)

/-! ## 4. No sum or difference overflows -/

/-- `+` on `u64`, checked. -/
def addChecked (a b : Nat) : Option Nat := if a + b < 2 ^ 64 then some (a + b) else none

/-- `-` on `u64`, checked. -/
def subChecked (a b : Nat) : Option Nat := if b ≤ a then some (a - b) else none

theorem addChecked_eq {a b : Nat} (h : a + b < 2 ^ 64) : addChecked a b = some (a + b) := if_pos h

theorem subChecked_eq {a b : Nat} (h : b ≤ a) : subChecked a b = some (a - b) := if_pos h

/-- The high edge of the block of range `i`, checked; the inner `none` is the break before it. -/
def blockHighChecked (i blockHigh prevLow gap : Nat) : Option (Option Nat) :=
  if 0 < i then do
    let skip ← addChecked gap 1
    if prevLow < skip then some none
    else do
      let below ← subChecked prevLow gap
      let high ← subChecked below 1
      some (some high)
  else some (some blockHigh)

/-- The loop of `parse_ack_ranges` with every sum and difference checked. -/
def walkChecked (i total blockHigh prevLow : Nat) : List AckRange → Option (List Nat)
  | [] => some []
  | range :: rest => do
    match ← blockHighChecked i blockHigh prevLow range.gap.toNat with
    | none => some []
    | some blockHigh =>
      let length := range.length.toNat
      if blockHigh < length then some []
      else do
        let blockLow ← subChecked blockHigh length
        let count ← addChecked length 1
        let total ← addChecked total count
        if maxAckedPerFrame < total then some []
        else do
          let acked ← walkChecked (i + 1) total blockHigh blockLow rest
          some ((List.range' blockLow count).reverse ++ acked)

/-- `parse_ack_ranges` with every sum and difference checked. -/
def parseAckRangesChecked (largestPn : Nat) (ranges : List AckRange) (rangeCount : Nat) :
    Option (List Nat) :=
  walkChecked 0 0 largestPn largestPn (ranges.take rangeCount)

/-- The high edge is computed without overflow, or the walk breaks before. -/
theorem blockHighChecked_eq (i blockHigh prevLow : Nat) (gap : UInt32) :
    blockHighChecked i blockHigh prevLow gap.toNat =
      some (if 0 < i ∧ prevLow < gap.toNat + 1 then none
        else some (if 0 < i then prevLow - gap.toNat - 1 else blockHigh)) := by
  have hgap := gap.toNat_lt
  unfold blockHighChecked
  by_cases hi : 0 < i
  · by_cases hbreak : prevLow < gap.toNat + 1
    · simp [hi, hbreak, addChecked_eq (show gap.toNat + 1 < 2 ^ 64 by omega)]
    · simp [hi, hbreak, addChecked_eq (show gap.toNat + 1 < 2 ^ 64 by omega),
        subChecked_eq (show gap.toNat ≤ prevLow by omega),
        subChecked_eq (show 1 ≤ prevLow - gap.toNat by omega)]
  · simp [hi]

/-- **Checked and unchecked walk agree**, from any point where the total is within the cap. -/
theorem walkChecked_eq {largestPn i total blockHigh prevLow : Nat}
    (hfirst : i = 0 → blockHigh = largestPn) (htotal : total ≤ maxAckedPerFrame)
    (ranges : List AckRange) :
    walkChecked i total blockHigh prevLow ranges =
      some (parseWalk largestPn i total prevLow ranges) := by
  induction ranges generalizing i total blockHigh prevLow with
  | nil => rfl
  | cons range rest ih =>
    have hlength := range.length.toNat_lt
    rw [walkChecked, blockHighChecked_eq, parseWalk]
    have hhigh : (if 0 < i then prevLow - range.gap.toNat - 1 else blockHigh) =
        if 0 < i then prevLow - range.gap.toNat - 1 else largestPn := by
      by_cases hi : 0 < i
      · rw [if_pos hi, if_pos hi]
      · rw [if_neg hi, if_neg hi, hfirst (Nat.eq_zero_of_not_pos hi)]
    rw [hhigh]
    by_cases hbreak : 0 < i ∧ prevLow < range.gap.toNat + 1
    · rw [if_pos hbreak]
      dsimp only [Option.bind_eq_bind, Option.bind_some]
      rw [if_pos hbreak]
    · rw [if_neg hbreak]
      dsimp only [Option.bind_eq_bind, Option.bind_some]
      rw [if_neg hbreak]
      generalize (if 0 < i then prevLow - range.gap.toNat - 1 else largestPn) = high
      by_cases hlow : high < range.length.toNat
      · rw [if_pos hlow, if_pos hlow]
      · have hcount : range.length.toNat + 1 < 2 ^ 64 := by omega
        have htotal' : total + (range.length.toNat + 1) < 2 ^ 64 := by
          unfold maxAckedPerFrame at htotal
          omega
        rw [if_neg hlow, if_neg hlow, subChecked_eq (Nat.not_lt.mp hlow), Option.bind_some,
          addChecked_eq hcount, Option.bind_some, addChecked_eq htotal', Option.bind_some]
        by_cases hcap : maxAckedPerFrame < total + (range.length.toNat + 1)
        · rw [if_pos hcap, if_pos hcap]
        · have hrest := @ih (i + 1) (total + (range.length.toNat + 1)) high
            (high - range.length.toNat) (fun h => absurd h (Nat.succ_ne_zero i))
            (Nat.not_lt.mp hcap)
          rw [if_neg hcap, if_neg hcap, hrest, Option.bind_some]

/-- **The walk on hostile ranges.**  For every largest number, all ranges and every count: no sum or
difference of the walk overflows; its numbers descend strictly, at most 16384 of them and none above
the largest; and they are the numbers of the first of the blocks that the ranges mean, up to one
that runs below zero or passes the cap. -/
theorem parse_ack_ranges_safe (largestPn : PacketNumber) (ranges : List AckRange)
    (rangeCount : Nat) :
    parseAckRangesChecked largestPn.toNat ranges rangeCount =
        some (parseAckRanges largestPn.toNat ranges rangeCount) ∧
      (parseAckRanges largestPn.toNat ranges rangeCount).Pairwise (· > ·) ∧
      (parseAckRanges largestPn.toNat ranges rangeCount).length ≤ 16384 ∧
      (∀ pn ∈ parseAckRanges largestPn.toNat ranges rangeCount, pn ≤ largestPn.toNat) ∧
      WalksThrough 0 (denoted largestPn.toNat (ranges.take rangeCount))
        (parseAckRanges largestPn.toNat ranges rangeCount) := by
  obtain ⟨hdescending, hbound⟩ := pairwise_parseAckRanges largestPn.toNat ranges rangeCount
  refine ⟨walkChecked_eq (fun _ => rfl) (Nat.zero_le _) _, hdescending, ?_, hbound,
    walksThrough_parseAckRanges largestPn.toNat ranges rangeCount⟩
  have hlen := @length_parseWalk_le largestPn.toNat 0 0 largestPn.toNat (Nat.zero_le _)
    (ranges.take rangeCount)
  rwa [Nat.zero_add] at hlen

end LossDetector

end Gtp
