/-
# The bits of a machine word

A 64-bit word as the set of its bits.  `bit` is total: from 64 on there is none.  Shifts, masks and
bitwise operators are described by what they do to one bit, and two words with the same bits are
equal (`ext_bits`), so that a proof about masks and carries turns into one about positions.

* `and_mask_ne_zero` reads a test of one bit, as code writes it.
* `eq_zero_of_xor_shiftLeft`, `eq_zero_of_xor_shiftRight` and `eq_zero_of_mul_eq_zero`: three ways
  in which a step on words loses nothing, as generators of pseudo-random numbers use them.

Other widths are left out, and so are signed words.
-/
import Mathlib.Tactic.Common
import Mathlib.Data.UInt

namespace Bits

/-- Bit `i` of a word. -/
def bit (x : UInt64) (i : Nat) : Bool := x.toBitVec.getLsbD i

theorem bit_of_ge {x : UInt64} {i : Nat} (h : 64 ≤ i) : bit x i = false :=
  BitVec.getLsbD_of_ge _ _ h

theorem toNat_distance {s : Nat} (hs : s < 64) : ((UInt64.ofNat s).toBitVec % 64).toNat = s := by
  have h64 : (64 : BitVec 64).toNat = 64 := rfl
  rw [UInt64.toBitVec_ofNat', BitVec.toNat_umod, BitVec.toNat_ofNat, h64]
  omega

@[simp] theorem bit_zero (i : Nat) : bit 0 i = false := by
  simp [bit]

@[simp] theorem bit_one (i : Nat) : bit 1 i = decide (i = 0) := by
  simp [bit]

@[simp] theorem bit_or (x y : UInt64) (i : Nat) : bit (x ||| y) i = (bit x i || bit y i) := by
  simp [bit, UInt64.toBitVec_or]

@[simp] theorem bit_and (x y : UInt64) (i : Nat) : bit (x &&& y) i = (bit x i && bit y i) := by
  simp [bit, UInt64.toBitVec_and]

@[simp] theorem bit_xor (x y : UInt64) (i : Nat) : bit (x ^^^ y) i = (bit x i ^^ bit y i) := by
  simp [bit, UInt64.toBitVec_xor]

theorem bit_shiftLeft (x : UInt64) {s : Nat} (hs : s < 64) (i : Nat) :
    bit (x <<< UInt64.ofNat s) i = (decide (s ≤ i ∧ i < 64) && bit x (i - s)) := by
  unfold bit
  rw [UInt64.toBitVec_shiftLeft, BitVec.shiftLeft_eq', toNat_distance hs, BitVec.getLsbD_shiftLeft]
  by_cases hi : i < 64
  · by_cases his : i < s
    · simp [hi, his]
    · simp [hi, his, Nat.not_lt.mp his]
  · simp [hi]

theorem bit_shiftRight (x : UInt64) {s : Nat} (hs : s < 64) (i : Nat) :
    bit (x >>> UInt64.ofNat s) i = bit x (i + s) := by
  unfold bit
  rw [UInt64.toBitVec_shiftRight, BitVec.ushiftRight_eq', toNat_distance hs,
    BitVec.getLsbD_ushiftRight, Nat.add_comm]

theorem bit_mask {s : Nat} (hs : s < 64) (i : Nat) :
    bit (1 <<< UInt64.ofNat s) i = decide (i = s) := by
  rw [bit_shiftLeft 1 hs, bit_one]
  by_cases h : i = s
  · subst h
    simp [hs]
  · simp [h]
    omega

theorem ext_bits {x y : UInt64} (h : ∀ i, bit x i = bit y i) : x = y := by
  apply UInt64.toBitVec_inj.mp
  apply BitVec.eq_of_getLsbD_eq
  intro i _
  exact h i

/-- **Testing one bit**: the mask is left over exactly when the bit is set. -/
theorem and_mask_ne_zero {x : UInt64} {s : Nat} (hs : s < 64) :
    x &&& (1 <<< UInt64.ofNat s) ≠ 0 ↔ bit x s = true := by
  constructor
  · intro hne
    by_contra hbit
    apply hne
    apply ext_bits
    intro i
    rw [bit_and, bit_mask hs, bit_zero]
    by_cases h : i = s
    · subst h
      simp [hbit]
    · simp [h]
  · intro hbit hzero
    have h := bit_and x (1 <<< UInt64.ofNat s) s
    rw [hzero, bit_zero, hbit, bit_mask hs] at h
    simp at h

/-- A xor with its own left shift loses nothing: the lowest set bit has no partner. -/
theorem eq_zero_of_xor_shiftLeft {x : UInt64} {s : Nat} (hpos : 0 < s) (hs : s < 64)
    (h : x ^^^ (x <<< UInt64.ofNat s) = 0) : x = 0 := by
  apply ext_bits
  intro i
  rw [bit_zero]
  induction i using Nat.strong_induction_on with
  | _ i ih =>
    have hi := bit_xor x (x <<< UInt64.ofNat s) i
    rw [h, bit_zero, bit_shiftLeft x hs] at hi
    by_cases his : s ≤ i ∧ i < 64
    · rw [ih (i - s) (by omega)] at hi
      simpa using hi.symm
    · simpa [his] using hi.symm

/-- A xor with its own right shift loses nothing: the highest set bit has no partner. -/
theorem eq_zero_of_xor_shiftRight {x : UInt64} {s : Nat} (hpos : 0 < s) (hs : s < 64)
    (h : x ^^^ (x >>> UInt64.ofNat s) = 0) : x = 0 := by
  apply ext_bits
  intro i
  rw [bit_zero]
  -- Downwards: above bit 63 there is nothing, and bit `i` follows from bit `i + s`.
  induction hn : 64 - i using Nat.strong_induction_on generalizing i with
  | _ n ih =>
    by_cases hi : i < 64
    · have hbit := bit_xor x (x >>> UInt64.ofNat s) i
      rw [h, bit_zero, bit_shiftRight x hs, ih (64 - (i + s)) (by omega) (i + s) rfl] at hbit
      simpa using hbit.symm
    · exact bit_of_ge (by omega)

/-- Multiplication by a word with an inverse loses nothing. -/
theorem eq_zero_of_mul_eq_zero {x c k : UInt64} (hinv : c * k = 1) (h : x * c = 0) : x = 0 := by
  have hx : x * c * k = x := by rw [UInt64.mul_assoc, hinv, UInt64.mul_one]
  rw [← hx, h, UInt64.zero_mul]

end Bits
