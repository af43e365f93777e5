/-
# The frame format (`gtp-wire/src/frame.rs`)

`Frame.encode` and `Frame.decode` as the source computes them.  An encoder receives the rest of
the datagram buffer and either refuses (after the type byte has been written, exactly as the
source does) or overwrites a prefix of it; a decoder reads at an offset that every `read_*`
helper advances.

Every arm of `encode` has the same shape -- a size test, then the fields in order -- so the arms
differ only in `needed`, `oversize` and `body`, which are tables with one line per frame type.  That
the size test asks for exactly the bytes written is `length_bytes`, the one fact proved here.  The
arms of `decode` differ more, and are written out.

Three things are easily overlooked.

* Two decoders take the REST of the buffer instead of a declared length: `MtuProbe` and `Padding`.
* The range count of an `Ack` is clamped on the way out and refused on the way in.
* The reason of a `Close` is cut at 255 bytes, and then back to a character boundary.

A slice here never leaves its buffer: `readBytes` tests the length first, as the source does.  That
the source's slices do not panic either is `Checked.decode_eq` in `Gtp.Wire.Stream`.
-/
import Gtp.Types
import Gtp.Lib.BigEndian
import Mathlib.Data.Vector.Basic

namespace Gtp

open BigEndian

/-! ## 1. Frames -/

def maxAckRanges : Nat := 32

/-- `AckRange`: skip `gap` packets, then cover `length + 1`. -/
structure AckRange where
  gap : UInt32
  length : UInt32
  deriving DecidableEq, Repr

/-- `AckRange::default()`. -/
def AckRange.default : AckRange := ⟨0, 0⟩

/-- `[AckRange; MAX_ACK_RANGES]`. -/
abbrev AckRanges := List.Vector AckRange 32

/-- A fixed-size byte array `[u8; n]`. -/
abbrev Bytes (n : Nat) := List.Vector UInt8 n

/-- The array whose first entries are `l` and whose remaining entries are the default: what the
source builds by writing into `[AckRange::default(); MAX_ACK_RANGES]`. -/
def AckRanges.ofList (l : List AckRange) : AckRanges :=
  ⟨(l ++ List.replicate 32 AckRange.default).take 32, by simp⟩

/-- The typed frames of the wire format. -/
inductive Frame where
  | ack (largestAcked : PacketNumber) (ackDelayUs : UInt32) (ranges : AckRanges)
      (rangeCount : UInt8) (ect0Count ect1Count ceCount : UInt32)
  | data (messageId : MessageId) (stateKey : StateKey) (sequence : StateSequence)
      (generation : GenerationId) (deadlineMs : UInt16) (payload : List UInt8)
  | reliableData (messageId : MessageId) (fragmentId : FragmentId) (totalFragments : UInt16)
      (groupId : OrderedGroupId) (orderSeq : UInt32) (payload : List UInt8)
  | retx (messageId : MessageId) (fragmentId : FragmentId) (transmissionId : TransmissionId)
      (payload : List UInt8)
  | ping (nonce : UInt64)
  | pathChallenge (data : Bytes 8)
  | pathResponse (data : Bytes 8)
  | mtuProbe (probeId : UInt32) (paddingLen : Nat)
  | close (errorCode : UInt16) (reason : String)
  | ackFrequency (ackFrequencyPackets : UInt8) (maxAckDelayMs : UInt16)
      (reorderThreshold : UInt8)
  | clientHello (clientPublicKey clientNonce : Bytes 32) (version : UInt32)
  | serverHello (serverPublicKey serverNonce statelessCookie : Bytes 32)
      (assignedCid : ConnectionId) (serverStaticPk : Bytes 32)
  | handshakeFinish (cookieEcho clientProof : Bytes 32)
  | serverFinish (serverProof : Bytes 32)
  | keyUpdate (nextPhase : UInt64) (initiatorProof : Bytes 32)
  | padding (len : Nat)
  deriving DecidableEq

namespace Frame

/-- `Frame::frame_type`. -/
def frameType : Frame → UInt8
  | ack .. => 0x01
  | data .. => 0x02
  | reliableData .. => 0x03
  | retx .. => 0x04
  | ping .. => 0x05
  | pathChallenge .. => 0x06
  | pathResponse .. => 0x07
  | mtuProbe .. => 0x08
  | close .. => 0x09
  | ackFrequency .. => 0x0A
  | clientHello .. => 0x0B
  | serverHello .. => 0x0C
  | handshakeFinish .. => 0x0D
  | serverFinish .. => 0x0E
  | keyUpdate .. => 0x10
  | padding .. => 0x00

/-- `Frame::is_ack_eliciting`. -/
def isAckEliciting : Frame → Bool
  | ack .. => false
  | padding .. => false
  | _ => true

/-! ## 2. Encoding -/

/-- `str::as_bytes`. -/
def strBytes (s : String) : List UInt8 := s.toByteArray.data.toList

/-- The `while` loop of the `Close` arm: step back while the byte after the cut is a UTF-8
continuation byte (`10xxxxxx`), so that the cut ends at a character boundary. -/
def trimToBoundary (bytes : List UInt8) : Nat → Nat
  | 0 => 0
  | n + 1 =>
    match bytes[n + 1]? with
    | some b => if b &&& 0xC0 = 0x80 then trimToBoundary bytes n else n + 1
    | none => n + 1

/-- The number of bytes of the reason that a `Close` frame carries. -/
def reasonLen (reason : String) : Nat :=
  trimToBoundary (strBytes reason) (min (strBytes reason).length 255)

/-- The ranges an `Ack` frame serialises: the count is clamped to `MAX_ACK_RANGES` (WIR-2). -/
def ackCount (rangeCount : UInt8) : Nat := min rangeCount.toNat maxAckRanges

def rangeBytes (r : AckRange) : List UInt8 := toBe 4 r.gap.toNat ++ toBe 4 r.length.toNat

/-- The buffer length each arm of `encode` asks for. -/
def needed : Frame → Nat
  | ack _ _ _ rangeCount _ _ _ => 1 + 8 + 4 + 1 + (ackCount rangeCount * 8) + 4 + 4 + 4
  | data _ _ _ _ _ payload => 1 + 8 + 6 + 4 + 4 + 2 + 2 + payload.length
  | reliableData _ _ _ _ _ payload => 1 + 8 + 2 + 2 + 2 + 4 + 2 + payload.length
  | retx _ _ _ payload => 1 + 8 + 2 + 1 + 2 + payload.length
  | ping _ => 1 + 8
  | pathChallenge _ => 1 + 8
  | pathResponse _ => 1 + 8
  | mtuProbe _ paddingLen => 1 + 4 + paddingLen
  | close _ reason => 1 + 2 + 1 + reasonLen reason
  | ackFrequency .. => 1 + 1 + 2 + 1
  | clientHello .. => 1 + 32 + 32 + 4
  | serverHello .. => 1 + 32 + 32 + 32 + 8 + 32
  | handshakeFinish .. => 1 + 32 + 32
  | serverFinish _ => 1 + 32
  | keyUpdate .. => 1 + 8 + 32
  | padding len => 1 + len

/-- `payload.len() > u16::MAX`, tested by the three arms that carry a payload. -/
def oversize : Frame → Bool
  | data _ _ _ _ _ payload => decide (65535 < payload.length)
  | reliableData _ _ _ _ _ payload => decide (65535 < payload.length)
  | retx _ _ _ payload => decide (65535 < payload.length)
  | _ => false

/-- The bytes each arm of `encode` writes after the type byte, field by field. -/
def body : Frame → List UInt8
  | ack largestAcked ackDelayUs ranges rangeCount ect0Count ect1Count ceCount =>
    toBe 8 largestAcked.toNat ++ toBe 4 ackDelayUs.toNat ++ [UInt8.ofNat (ackCount rangeCount)] ++
      ((ranges.toList.take (ackCount rangeCount)).flatMap rangeBytes) ++
      toBe 4 ect0Count.toNat ++ toBe 4 ect1Count.toNat ++ toBe 4 ceCount.toNat
  | data messageId stateKey sequence generation deadlineMs payload =>
    toBe 8 messageId.toNat ++ toBe 6 stateKey.toU48 ++ toBe 4 sequence.toNat ++
      toBe 4 generation.toNat ++ toBe 2 deadlineMs.toNat ++ toBe 2 payload.length ++ payload
  | reliableData messageId fragmentId totalFragments groupId orderSeq payload =>
    toBe 8 messageId.toNat ++ toBe 2 fragmentId.toNat ++ toBe 2 totalFragments.toNat ++
      toBe 2 groupId.toNat ++ toBe 4 orderSeq.toNat ++ toBe 2 payload.length ++ payload
  | retx messageId fragmentId transmissionId payload =>
    toBe 8 messageId.toNat ++ toBe 2 fragmentId.toNat ++ [transmissionId] ++
      toBe 2 payload.length ++ payload
  | ping nonce => toBe 8 nonce.toNat
  | pathChallenge token => token.toList
  | pathResponse token => token.toList
  | mtuProbe probeId paddingLen => toBe 4 probeId.toNat ++ List.replicate paddingLen 0
  | close errorCode reason =>
    toBe 2 errorCode.toNat ++ [UInt8.ofNat (reasonLen reason)] ++
      (strBytes reason).take (reasonLen reason)
  | ackFrequency ackFrequencyPackets maxAckDelayMs reorderThreshold =>
    [ackFrequencyPackets] ++ toBe 2 maxAckDelayMs.toNat ++ [reorderThreshold]
  | clientHello clientPublicKey clientNonce version =>
    clientPublicKey.toList ++ clientNonce.toList ++ toBe 4 version.toNat
  | serverHello serverPublicKey serverNonce statelessCookie assignedCid serverStaticPk =>
    serverPublicKey.toList ++ serverNonce.toList ++ statelessCookie.toList ++
      toBe 8 assignedCid.toNat ++ serverStaticPk.toList
  | handshakeFinish cookieEcho clientProof => cookieEcho.toList ++ clientProof.toList
  | serverFinish serverProof => serverProof.toList
  | keyUpdate nextPhase initiatorProof => toBe 8 nextPhase.toNat ++ initiatorProof.toList
  | padding len => List.replicate len 0

/-- The whole encoding of a frame: the type byte and the fields. -/
def bytes (f : Frame) : List UInt8 := f.frameType :: f.body

/-- `Frame::encode(&self, buf)`: the result and the buffer afterwards.  The type byte is written
before the size is tested, so a refused frame still touches the first byte. -/
def encode (f : Frame) : List UInt8 → Result Nat × List UInt8
  | [] => (.error .bufferOverflow, [])
  | b :: tail =>
    if (b :: tail).length < f.needed || f.oversize then
      (.error .bufferOverflow, f.frameType :: tail)
    else
      (.ok (1 + f.body.length), f.bytes ++ tail.drop f.body.length)

theorem trimToBoundary_le (bytes : List UInt8) (n : Nat) : trimToBoundary bytes n ≤ n := by
  induction n with
  | zero => exact Nat.le_refl 0
  | succ n ih =>
    rw [trimToBoundary]
    split
    · split
      · exact Nat.le_succ_of_le ih
      · exact Nat.le_refl _
    · exact Nat.le_refl _

theorem reasonLen_le_length (reason : String) : reasonLen reason ≤ (strBytes reason).length :=
  Nat.le_trans (trimToBoundary_le _ _) (Nat.min_le_left _ _)

theorem length_rangesBytes (rs : List AckRange) : (rs.flatMap rangeBytes).length = rs.length * 8 := by
  induction rs with
  | nil => rfl
  | cons r rs ih =>
    rw [List.flatMap_cons, List.length_append, ih, List.length_cons]
    simp only [rangeBytes, List.length_append, length_toBe]
    omega

theorem length_take_ranges (ranges : AckRanges) (rangeCount : UInt8) :
    (ranges.toList.take (ackCount rangeCount)).length = ackCount rangeCount := by
  have hlen : ranges.toList.length = 32 := ranges.toList_length
  rw [List.length_take, hlen]
  exact Nat.min_eq_left (Nat.min_le_right _ _)

/-- The size test asks for exactly the bytes written. -/
theorem length_bytes (f : Frame) : f.bytes.length = f.needed := by
  have hcut (reason : String) : ((strBytes reason).take (reasonLen reason)).length =
      reasonLen reason := by
    rw [List.length_take, Nat.min_eq_left (reasonLen_le_length reason)]
  cases f <;>
    simp only [bytes, body, needed, List.length_cons, List.length_append, length_toBe,
      List.length_replicate, List.length_nil, length_rangesBytes, length_take_ranges,
      List.Vector.toList_length, hcut] <;>
    omega

/-! ## 3. Decoding -/

/-- `read_bytes`: the next `len` bytes at `offset`, and the advanced offset. -/
def readBytes (buf : List UInt8) (offset len : Nat) : Result (List UInt8 × Nat) :=
  if buf.length < offset + len then
    .error (.truncatedFrame len (buf.length - offset))
  else
    .ok ((buf.drop offset).take len, offset + len)

/-- `read_u8`. -/
def readU8 (buf : List UInt8) (offset : Nat) : Result (UInt8 × Nat) := do
  let (bs, offset) ← readBytes buf offset 1
  return (UInt8.ofNat (ofBe bs), offset)

/-- `read_u16`. -/
def readU16 (buf : List UInt8) (offset : Nat) : Result (UInt16 × Nat) := do
  let (bs, offset) ← readBytes buf offset 2
  return (UInt16.ofNat (ofBe bs), offset)

/-- `read_u32`. -/
def readU32 (buf : List UInt8) (offset : Nat) : Result (UInt32 × Nat) := do
  let (bs, offset) ← readBytes buf offset 4
  return (UInt32.ofNat (ofBe bs), offset)

/-- `read_u64`. -/
def readU64 (buf : List UInt8) (offset : Nat) : Result (UInt64 × Nat) := do
  let (bs, offset) ← readBytes buf offset 8
  return (UInt64.ofNat (ofBe bs), offset)

/-- `read_bytes` followed by `copy_from_slice` into a `[u8; n]`. -/
def readArray (n : Nat) (buf : List UInt8) (offset : Nat) : Result (Bytes n × Nat) :=
  if h : buf.length < offset + n then
    .error (.truncatedFrame n (buf.length - offset))
  else
    .ok (⟨(buf.drop offset).take n, by simp; omega⟩, offset + n)

/-- The loop over the ranges of an `Ack` frame. -/
def readRanges (buf : List UInt8) : Nat → Nat → Result (List AckRange × Nat)
  | 0, offset => .ok ([], offset)
  | count + 1, offset => do
    let (gap, offset) ← readU32 buf offset
    let (length, offset) ← readU32 buf offset
    let (rest, offset) ← readRanges buf count offset
    return (⟨gap, length⟩ :: rest, offset)

/-- `core::str::from_utf8`. -/
def fromUtf8 (bytes : List UInt8) : Option String := String.fromUTF8? ⟨bytes.toArray⟩

/-- `Frame::decode`: the frame and the number of bytes consumed. -/
def decode (buf : List UInt8) : Result (Frame × Nat) := do
  let (frameType, offset) ← readU8 buf 0
  match frameType with
  | 0x01 =>
    let (largest, offset) ← readU64 buf offset
    let (ackDelay, offset) ← readU32 buf offset
    let (rangeCount, offset) ← readU8 buf offset
    if maxAckRanges < rangeCount.toNat then
      throw (.resourceLimitExceeded "Too many ACK ranges")
    let (ranges, offset) ← readRanges buf rangeCount.toNat offset
    let (ect0, offset) ← readU32 buf offset
    let (ect1, offset) ← readU32 buf offset
    let (ce, offset) ← readU32 buf offset
    return (ack largest ackDelay (.ofList ranges) rangeCount ect0 ect1 ce, offset)
  | 0x02 =>
    let (msgId, offset) ← readU64 buf offset
    let (keySlice, offset) ← readBytes buf offset 6
    let (seq, offset) ← readU32 buf offset
    let (gen, offset) ← readU32 buf offset
    let (deadline, offset) ← readU16 buf offset
    let (payloadLen, offset) ← readU16 buf offset
    let (payload, offset) ← readBytes buf offset payloadLen.toNat
    return (data msgId (.fromU48 (ofBe keySlice)) seq gen deadline payload, offset)
  | 0x03 =>
    let (msgId, offset) ← readU64 buf offset
    let (fragId, offset) ← readU16 buf offset
    let (totalFrags, offset) ← readU16 buf offset
    let (groupId, offset) ← readU16 buf offset
    let (orderSeq, offset) ← readU32 buf offset
    let (payloadLen, offset) ← readU16 buf offset
    let (payload, offset) ← readBytes buf offset payloadLen.toNat
    return (reliableData msgId fragId totalFrags groupId orderSeq payload, offset)
  | 0x04 =>
    let (msgId, offset) ← readU64 buf offset
    let (fragId, offset) ← readU16 buf offset
    let (transmissionId, offset) ← readU8 buf offset
    let (payloadLen, offset) ← readU16 buf offset
    let (payload, offset) ← readBytes buf offset payloadLen.toNat
    return (retx msgId fragId transmissionId payload, offset)
  | 0x05 =>
    let (nonce, offset) ← readU64 buf offset
    return (ping nonce, offset)
  | 0x06 =>
    let (token, offset) ← readArray 8 buf offset
    return (pathChallenge token, offset)
  | 0x07 =>
    let (token, offset) ← readArray 8 buf offset
    return (pathResponse token, offset)
  | 0x08 =>
    let (probeId, offset) ← readU32 buf offset
    return (mtuProbe probeId (buf.length - offset), buf.length)
  | 0x09 =>
    let (errorCode, offset) ← readU16 buf offset
    let (reasonLen, offset) ← readU8 buf offset
    let (reasonBytes, offset) ← readBytes buf offset reasonLen.toNat
    match fromUtf8 reasonBytes with
    | some reason => return (close errorCode reason, offset)
    | none => throw (.malformedFrame "Malformed UTF-8 close reason")
  | 0x0A =>
    let (ackFreq, offset) ← readU8 buf offset
    let (maxDelay, offset) ← readU16 buf offset
    let (reorderThresh, offset) ← readU8 buf offset
    return (ackFrequency ackFreq maxDelay reorderThresh, offset)
  | 0x0B =>
    let (clientPublicKey, offset) ← readArray 32 buf offset
    let (clientNonce, offset) ← readArray 32 buf offset
    let (version, offset) ← readU32 buf offset
    return (clientHello clientPublicKey clientNonce version, offset)
  | 0x0C =>
    let (serverPublicKey, offset) ← readArray 32 buf offset
    let (serverNonce, offset) ← readArray 32 buf offset
    let (statelessCookie, offset) ← readArray 32 buf offset
    let (cid, offset) ← readU64 buf offset
    let (serverStaticPk, offset) ← readArray 32 buf offset
    return (serverHello serverPublicKey serverNonce statelessCookie cid serverStaticPk, offset)
  | 0x0D =>
    let (cookieEcho, offset) ← readArray 32 buf offset
    let (clientProof, offset) ← readArray 32 buf offset
    return (handshakeFinish cookieEcho clientProof, offset)
  | 0x0E =>
    let (serverProof, offset) ← readArray 32 buf offset
    return (serverFinish serverProof, offset)
  | 0x10 =>
    let (nextPhase, offset) ← readU64 buf offset
    let (initiatorProof, offset) ← readArray 32 buf offset
    return (keyUpdate nextPhase initiatorProof, offset)
  | 0x00 => return (padding (buf.length - offset), buf.length)
  | _ => throw (.malformedFrame "Unknown TLV frame type")

end Frame

end Gtp
