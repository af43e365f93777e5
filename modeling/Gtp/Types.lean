/-
# Identifiers, time, semantics and errors (`gtp-types`)

The small types every crate of the workspace shares.

* Identifiers keep the width they have on the wire, so a value that does not fit a field cannot be
  built.  `isNewerThan` is the serial-number comparison of RFC 1982, which `StateSequence` and
  `GenerationId` share; it is not transitive, and what follows from that is said where it is used.
* Times and durations are microseconds as natural numbers.  `MonotonicTime::duration_since` and the
  `Sub` instances saturate at zero, which is what subtraction of naturals does.  A time never
  overflows here; the source's times are `u64`, which is half a million years.
* The arithmetic that does matter at its bound is named after what the source does there:
  `satAdd` and `satMul` saturate, `wrapAdd`, `wrapSub` and `wrapMul` wrap, as `+`, `-` and `*` do in
  a release build.  A debug build panics instead.

Left out are conversions and texts: `Display`, `Debug`, the `From` instances, and `serde`.
`TransportError` has the variants that the modelled functions return, with the data they carry.
-/
import Mathlib.Tactic.Ring

namespace Gtp

/-! ## 1. Identifiers (`identifiers.rs`) -/

abbrev ConnectionId := UInt64
abbrev PacketNumber := UInt64
abbrev MessageId := UInt64
abbrev FragmentId := UInt16
abbrev TransmissionId := UInt8
abbrev OrderedGroupId := UInt16
abbrev StateSequence := UInt32
abbrev GenerationId := UInt32

/-- `PacketNumber::next`: wrapping, never panicking. -/
def PacketNumber.next (pn : PacketNumber) : PacketNumber := pn + 1

theorem PacketNumber.toNat_next {pn : PacketNumber} (h : pn.toNat + 1 < 2 ^ 64) :
    (PacketNumber.next pn).toNat = pn.toNat + 1 := by
  simp only [PacketNumber.next, UInt64.toNat_add, UInt64.toNat_one]
  exact Nat.mod_eq_of_lt h

theorem toNat_ofNat_u64 {n : Nat} (h : n < 2 ^ 64) : (UInt64.ofNat n).toNat = n := by
  rw [UInt64.toNat_ofNat', Nat.mod_eq_of_lt h]

/-- Serial number comparison (RFC 1982): `a` is strictly newer than `b`.  `StateSequence` and
`GenerationId` both use it. -/
def isNewerThan (a b : UInt32) : Bool :=
  let diff := a - b
  decide (0 < diff) && decide (diff < 0x80000000)

/-- An entity and component state channel, `(entity_id, state_type)`. -/
structure StateKey where
  entityId : UInt32
  stateType : UInt16
  deriving DecidableEq, Repr

namespace StateKey

/-- `StateKey::default()`. -/
def default : StateKey := ⟨0, 0⟩

/-- `StateKey::to_u48`: the entity in the upper 32 bits, the type in the lower 16. -/
def toU48 (k : StateKey) : Nat := k.entityId.toNat * 2 ^ 16 + k.stateType.toNat

/-- `StateKey::from_u48`. -/
def fromU48 (n : Nat) : StateKey := ⟨UInt32.ofNat (n / 2 ^ 16), UInt16.ofNat (n % 2 ^ 16)⟩

theorem toU48_lt (k : StateKey) : k.toU48 < 2 ^ 48 := by
  have h1 := k.entityId.toNat_lt
  have h2 := k.stateType.toNat_lt
  simp only [toU48]
  omega

theorem fromU48_toU48 (k : StateKey) : fromU48 k.toU48 = k := by
  have h1 := k.entityId.toNat_lt
  have h2 := k.stateType.toNat_lt
  have hdiv : (k.entityId.toNat * 2 ^ 16 + k.stateType.toNat) / 2 ^ 16 = k.entityId.toNat := by
    omega
  have hmod : (k.entityId.toNat * 2 ^ 16 + k.stateType.toNat) % 2 ^ 16 = k.stateType.toNat := by
    omega
  simp only [fromU48, toU48, hdiv, hmod, UInt32.ofNat_toNat, UInt16.ofNat_toNat]

end StateKey

/-- A remote address; the engine only ever compares addresses. -/
structure SocketAddr where
  ip : Nat
  port : UInt16
  deriving DecidableEq, Repr

/-! ## 2. Time (`time.rs`) -/

abbrev MonotonicTime := Nat
abbrev Duration := Nat

def u64Max : Nat := 2 ^ 64 - 1

/-- `Duration::from_millis`. -/
def Duration.fromMillis (ms : Nat) : Duration := min (ms * 1000) u64Max

/-- `Duration::from_secs`. -/
def Duration.fromSecs (s : Nat) : Duration := min (s * 1000000) u64Max

/-- `saturating_add` on `u64`. -/
def satAdd (a b : Nat) : Nat := min (a + b) u64Max

/-- `saturating_mul` on `u64`. -/
def satMul (a b : Nat) : Nat := min (a * b) u64Max

/-- `+` on `u64`: release builds wrap. -/
def wrapAdd (a b : Nat) : Nat := (a + b) % 2 ^ 64

/-- `-` on `u64`: release builds wrap. -/
def wrapSub (a b : Nat) : Nat := (a + (2 ^ 64 - b)) % 2 ^ 64

/-- `*` on `u64`: release builds wrap. -/
def wrapMul (a b : Nat) : Nat := (a * b) % 2 ^ 64

theorem wrapAdd_of_lt {a b : Nat} (h : a + b < 2 ^ 64) : wrapAdd a b = a + b :=
  Nat.mod_eq_of_lt h

theorem wrapSub_of_le {a b : Nat} (hab : b ≤ a) (ha : a < 2 ^ 64) : wrapSub a b = a - b := by
  have hsum : a + (2 ^ 64 - b) = (a - b) + 2 ^ 64 := by omega
  rw [wrapSub, hsum, Nat.add_mod_right, Nat.mod_eq_of_lt (by omega)]

/-- `saturating_add(1)` on `u32`. -/
def satIncU32 (n : UInt32) : UInt32 := if n = 0xFFFFFFFF then n else n + 1

/-! ## 3. Message semantics (`semantics.rs`) -/

/-- The four delivery semantics. -/
inductive MessageClass where
  | unreliable
  | unreliableSequenced (stateKey : StateKey) (sequence : StateSequence)
      (generation : GenerationId)
  | reliableUnordered
  | reliableOrdered (groupId : OrderedGroupId) (orderSeq : UInt32)
  deriving DecidableEq, Repr

/-- Priority classes, in the order of their discriminants. -/
inductive PriorityTier where
  | p0Control
  | p1Input
  | p2WorldState
  | p3ReliableGameplay
  | p4BulkCosmetic
  deriving DecidableEq, Repr

namespace PriorityTier

/-- `priority as usize`. -/
def idx : PriorityTier → Fin 5
  | p0Control => 0
  | p1Input => 1
  | p2WorldState => 2
  | p3ReliableGameplay => 3
  | p4BulkCosmetic => 4

/-- `PriorityTier::default_weight`, by tier index. -/
def defaultWeight : Fin 5 → Nat
  | 0 => 15
  | 1 => 35
  | 2 => 30
  | 3 => 15
  | 4 => 5

end PriorityTier

/-! ## 4. Errors (`error.rs`) -/

/-- `TransportError`: the variants that the modelled functions return. -/
inductive TransportError where
  | invalidPacket (reason : String)
  | bufferTooShort
  | bufferOverflow
  | cryptoFailure
  | truncatedFrame (needed available : Nat)
  | malformedFrame (reason : String)
  | replayDetected
  | protocolViolation (reason : String)
  | resourceLimitExceeded (reason : String)
  | payloadTooLarge (max : Nat)
  | connectionClosed (code : UInt16)
  | messageExpired
  | handshakeTimeout
  | handshakeFailed (reason : String)
  | io (error : String)
  deriving DecidableEq, Repr

abbrev Result (α : Type) := Except TransportError α

end Gtp
