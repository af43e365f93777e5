/-
# The random streams of the simulators

XorShift64 is a bijection that fixes zero (`nextState_eq_zero`), so a stream is constant exactly
when it starts at zero.  A constant stream is no stream: every packet of the direction then meets
the same impairment.

`SimulatedNetwork::new` rules a start at zero out with `seed.max(1)` (`stream_alive`).
`SimulatedFabric::new` derives its starts by `splitmix64(master ⊕ splitmix64(2i + d))` and has no
such guard: `splitmix64` is a bijection too, its one preimage of zero is `deadStart`, and each
direction of each link has one master seed that reaches it (`fabric_streams_alive_iff`).

That the draws of a live stream look random is not the subject, nor that two streams differ.
-/
import Gtp.Lib.Bits
import Gtp.Sim.Fabric

namespace Gtp

open Bits

/-! ## 1. Both generators lose nothing -/

/-- The state one draw leaves. -/
def nextState (state : UInt64) : UInt64 := (nextRandomF64 state).2

@[simp] theorem nextState_zero : nextState 0 = 0 := by
  simp [nextState, nextRandomF64]

/-- **The three xor-shifts map only zero to zero.** -/
theorem nextState_eq_zero {state : UInt64} (h : nextState state = 0) : state = 0 := by
  have h3 := eq_zero_of_xor_shiftLeft (s := 17) (by decide) (by decide) h
  have h2 := eq_zero_of_xor_shiftRight (s := 7) (by decide) (by decide) h3
  exact eq_zero_of_xor_shiftLeft (s := 13) (by decide) (by decide) h2

/-- **A stream that starts away from zero never reaches it.** -/
theorem iterate_nextState_ne_zero (state : UInt64) :
    (∀ n, nextState^[n] state ≠ 0) ↔ state ≠ 0 := by
  constructor
  · intro h
    exact h 0
  · intro h n
    induction n with
    | zero => exact h
    | succ n ih =>
      rw [Function.iterate_succ_apply']
      exact fun hzero => ih (nextState_eq_zero hzero)

/-- The one word that `splitmix64` sends to zero: minus its increment. -/
def deadStart : UInt64 := 0x61C8864680B583EB

/-- **`splitmix64` maps only `deadStart` to zero**: its xor-shifts lose nothing, and its factors
are odd. -/
theorem splitmix64_eq_zero {x : UInt64} : splitmix64 x = 0 ↔ x = deadStart := by
  constructor
  · intro h
    have h1 := eq_zero_of_xor_shiftRight (s := 31) (by decide) (by decide) h
    have h2 := eq_zero_of_mul_eq_zero (k := 0x319642B2D24D8EC3) (by decide) h1
    have h3 := eq_zero_of_xor_shiftRight (s := 27) (by decide) (by decide) h2
    have h4 := eq_zero_of_mul_eq_zero (k := 0x96DE1B173F119089) (by decide) h3
    have h5 := eq_zero_of_xor_shiftRight (s := 30) (by decide) (by decide) h4
    rw [← UInt64.add_sub_cancel x 0x9E3779B97F4A7C15, h5]
    decide
  · rintro rfl
    decide

/-! ## 2. The streams of a fabric -/

/-- The number a stream's seed is derived from: `2i + d`. -/
def streamNumber (i : Nat) : FabricDirection → UInt64
  | .forward => UInt64.ofNat i * 2
  | .reverse => UInt64.ofNat i * 2 + 1

theorem streamSeed_eq (masterSeed : UInt64) (i : Nat) (d : FabricDirection) :
    streamSeed masterSeed i d = splitmix64 (masterSeed ^^^ splitmix64 (streamNumber i d)) := by
  cases d <;> rfl

theorem streamSeed_eq_zero {masterSeed : UInt64} {i : Nat} {d : FabricDirection} :
    streamSeed masterSeed i d = 0 ↔
      masterSeed = splitmix64 (streamNumber i d) ^^^ deadStart := by
  rw [streamSeed_eq, splitmix64_eq_zero]
  constructor
  · intro h
    rw [← h, UInt64.xor_comm masterSeed, ← UInt64.xor_assoc, UInt64.xor_self, UInt64.zero_xor]
  · rintro rfl
    rw [UInt64.xor_comm, ← UInt64.xor_assoc, UInt64.xor_self, UInt64.zero_xor]

theorem rng_new {masterSeed : UInt64} {linkProfiles : List (NetworkProfile × NetworkProfile)}
    {i : Nat} {link : SimulatedLink}
    (h : (SimulatedFabric.new masterSeed linkProfiles).links[i]? = some link)
    (d : FabricDirection) : link.rng d = streamSeed masterSeed i d := by
  simp only [SimulatedFabric.new, List.getElem?_mapIdx, Option.map_eq_some_iff] at h
  obtain ⟨p, -, rfl⟩ := h
  cases d <;> rfl

theorem links_new (masterSeed : UInt64) (linkProfiles : List (NetworkProfile × NetworkProfile))
    {i : Nat} (hi : i < linkProfiles.length) :
    ∃ link, (SimulatedFabric.new masterSeed linkProfiles).links[i]? = some link := by
  simp [SimulatedFabric.new, hi]

/-- **When the streams of a link stay alive.** The generator of direction `d` of link `i` is away
from zero, at first and after any number of draws, exactly when the master seed is not the one that
`2i + d` sends to the dead start.  So of the `2^64` seeds one is dead for each stream.  That two
streams are different from each other, or look random, is not said. -/
theorem fabric_streams_alive_iff (masterSeed : UInt64)
    (linkProfiles : List (NetworkProfile × NetworkProfile)) (i : Nat) (d : FabricDirection) :
    (∀ link, (SimulatedFabric.new masterSeed linkProfiles).links[i]? = some link →
        ∀ n, nextState^[n] (link.rng d) ≠ 0) ↔
      (i < linkProfiles.length → masterSeed ≠ splitmix64 (streamNumber i d) ^^^ deadStart) := by
  constructor
  · intro halive hi hseed
    obtain ⟨link, hlink⟩ := links_new masterSeed linkProfiles hi
    apply halive link hlink 0
    rw [Function.iterate_zero_apply, rng_new hlink d]
    exact streamSeed_eq_zero.mpr hseed
  · intro hseed link hlink
    rw [iterate_nextState_ne_zero, rng_new hlink d]
    intro hzero
    have hi : i < linkProfiles.length := by
      have h := (List.getElem?_eq_some_iff.mp hlink).1
      simpa [SimulatedFabric.new] using h
    exact hseed hi (streamSeed_eq_zero.mp hzero)

/-- One link and the master seed `0x83E82E7FFBA84E44`: the forward stream is zero at every draw. -/
theorem fabric_stream_dead :
    ¬ ∀ link, (SimulatedFabric.new 0x83E82E7FFBA84E44
        [(NetworkProfile.lan, NetworkProfile.lan)]).links[0]? = some link →
      ∀ n, nextState^[n] (link.rng .forward) ≠ 0 := by
  intro halive
  obtain ⟨link, hlink⟩ := links_new 0x83E82E7FFBA84E44
    [(NetworkProfile.lan, NetworkProfile.lan)] (i := 0) (by decide)
  apply halive link hlink 0
  rw [Function.iterate_zero_apply, rng_new hlink]
  decide

/-! ## 3. The guard of the single pipe -/

/-- `SimulatedNetwork`. -/
structure SimulatedNetwork where
  queue : List SimulatedPacket
  rngState : UInt64

namespace SimulatedNetwork

/-- `SimulatedNetwork::new`. -/
def new (seed : UInt64) : SimulatedNetwork := ⟨[], max seed 1⟩

/-- `SimulatedNetwork::transmit`: the same four draws as the fabric's, on the profile it is
given. -/
def transmit (net : SimulatedNetwork) (src dest : SocketAddr) (data : List UInt8)
    (now : MonotonicTime) (profile : NetworkProfile) : SimulatedNetwork :=
  let (outcome, rng) := txOutcome profile net.rngState data.length now
  ⟨net.queue ++ outcome.packets src dest data, rng⟩

/-- **`seed.max(1)` keeps the pipe's stream alive for every seed.** -/
theorem stream_alive (seed : UInt64) (n : Nat) : nextState^[n] (new seed).rngState ≠ 0 := by
  apply (iterate_nextState_ne_zero _).mpr
  intro hzero
  have h : (1 : UInt64) ≤ max seed 1 := by
    show 1 ≤ if seed ≤ 1 then 1 else seed
    split <;> simp_all [UInt64.le_iff_toNat_le]
    omega
  rw [show max seed 1 = 0 from hzero] at h
  exact absurd h (by decide)

end SimulatedNetwork
end Gtp
