/-
# Big-endian integers as byte strings

A fixed-width unsigned integer goes on the wire most significant byte first.  `toBe k n` is the
`k`-byte form of `n` (higher bytes are cut off, as a narrowing cast does) and `ofBe` reads any
byte string back.

* `ofBe_toBe` and `toBe_ofBe`: the two are inverse to each other, on numbers below `256 ^ k` and on
  strings of `k` bytes.
* `toBe_injective`: below `256 ^ k` nothing is lost.  `toBe_add_mul` says what is lost above.

Nothing here knows about a particular format, and widths are natural numbers: the machine's words
come in only where a format is read.
-/
import Mathlib.Tactic.Ring

namespace BigEndian

/-- The `k` low bytes of `n`, most significant first. -/
def toBe : Nat → Nat → List UInt8
  | 0, _ => []
  | k + 1, n => UInt8.ofNat (n / 256 ^ k) :: toBe k n

/-- The number a byte string denotes, most significant byte first. -/
def ofBe : List UInt8 → Nat
  | [] => 0
  | b :: bs => b.toNat * 256 ^ bs.length + ofBe bs

@[simp] theorem length_toBe : ∀ k n, (toBe k n).length = k
  | 0, _ => rfl
  | k + 1, n => by simp [toBe, length_toBe k n]

theorem ofBe_lt : ∀ bs : List UInt8, ofBe bs < 256 ^ bs.length
  | [] => by simp [ofBe]
  | b :: bs => by
    have hb : b.toNat < 256 := b.toNat_lt
    have ih := ofBe_lt bs
    calc ofBe (b :: bs) < b.toNat * 256 ^ bs.length + 256 ^ bs.length := by simp [ofBe, ih]
      _ = (b.toNat + 1) * 256 ^ bs.length := by rw [Nat.add_mul, Nat.one_mul]
      _ ≤ 256 * 256 ^ bs.length := Nat.mul_le_mul_right _ hb
      _ = 256 ^ (b :: bs).length := by rw [List.length_cons, Nat.pow_succ, Nat.mul_comm]

/-- Reading back what was written gives the number cut to the field's width. -/
theorem ofBe_toBe : ∀ k n, ofBe (toBe k n) = n % 256 ^ k
  | 0, n => by simp [toBe, ofBe, Nat.mod_one]
  | k + 1, n => by
    simp only [toBe, ofBe, length_toBe, ofBe_toBe k n, UInt8.toNat_ofNat']
    rw [show 256 ^ (k + 1) = 256 ^ k * 256 from Nat.pow_succ .., Nat.mod_mul]
    ring

theorem ofBe_toBe_of_lt {k n : Nat} (h : n < 256 ^ k) : ofBe (toBe k n) = n := by
  rw [ofBe_toBe, Nat.mod_eq_of_lt h]

theorem toBe_injective {k m n : Nat} (hm : m < 256 ^ k) (hn : n < 256 ^ k)
    (h : toBe k m = toBe k n) : m = n := by
  rw [← ofBe_toBe_of_lt hm, ← ofBe_toBe_of_lt hn, h]

/-- Only the bytes below the field's width matter. -/
theorem toBe_add_mul (k n m : Nat) : toBe k (n + m * 256 ^ k) = toBe k n := by
  induction k generalizing m with
  | zero => rfl
  | succ k ih =>
    have hpow : m * 256 ^ (k + 1) = (m * 256) * 256 ^ k := by rw [Nat.pow_succ]; ring
    have hhead : UInt8.ofNat ((n + m * 256 * 256 ^ k) / 256 ^ k) = UInt8.ofNat (n / 256 ^ k) := by
      rw [Nat.add_mul_div_right _ _ (Nat.pow_pos (by decide))]
      apply UInt8.toNat_inj.mp
      simp only [UInt8.toNat_ofNat']
      omega
    simp only [toBe, hpow, ih, hhead]

theorem toBe_ofBe : ∀ bs : List UInt8, toBe bs.length (ofBe bs) = bs
  | [] => rfl
  | b :: bs => by
    have hlt := ofBe_lt bs
    have hpos : 0 < 256 ^ bs.length := Nat.pow_pos (by decide)
    have hhead : (b.toNat * 256 ^ bs.length + ofBe bs) / 256 ^ bs.length = b.toNat := by
      rw [Nat.add_comm, Nat.add_mul_div_right _ _ hpos, Nat.div_eq_of_lt hlt, Nat.zero_add]
    have htail : toBe bs.length (b.toNat * 256 ^ bs.length + ofBe bs) = bs := by
      rw [Nat.add_comm, toBe_add_mul, toBe_ofBe bs]
    simp only [List.length_cons, toBe, ofBe, hhead, htail, UInt8.ofNat_toNat]

end BigEndian
