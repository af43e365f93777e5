/-
# Packet header, frame iterator, packet builder (`gtp-wire/src/header.rs`, `codec.rs`)

What stands around the frames of a datagram.

* The header is written and read field by field.  `header_len` is honoured on the way in, so bytes
  between the fields and `header_len` are skipped as future extensions; on the way out there are
  none.  A short header routes by connection id, a long one has a version besides and belongs to the
  handshake.
* `FrameIterator` is a state machine over the payload (`next`), collected here by a recursion on the
  bytes that are left.  After an error it yields nothing more.
* `PacketBuilder` owns the datagram buffer.  A refused frame leaves the lengths as they are, but its
  type byte may already be in the buffer, behind the end of the payload.

The flag byte keeps all its bits, also those that nothing reads: the header that comes back is the
one that was sent.  Not modelled are `set_long_header` and the ECN bits of the flags, which no code
of the protocol calls.
-/
import Gtp.Wire.Frame

namespace Gtp

open BigEndian

/-! ## 1. Header -/

/-- `MIN_COMMON_HEADER_LEN`: flags, header_len, cid, packet number, timestamp, payload_len. -/
def minCommonHeaderLen : Nat := 24

/-- `MIN_LONG_HEADER_LEN`. -/
def minLongHeaderLen : Nat := 28

/-- `GTP_V1_1`. -/
def gtpV11 : UInt32 := 0x00010001

/-- The first byte of every packet. -/
abbrev HeaderFlags := UInt8

namespace HeaderFlags

def isLongHeader (f : HeaderFlags) : Bool := f &&& 0x80 ≠ 0

def keyPhase (f : HeaderFlags) : Bool := f &&& 0x40 ≠ 0

def setKeyPhase (f : HeaderFlags) (phase : Bool) : HeaderFlags :=
  if phase then f ||| 0x40 else f &&& ~~~0x40

def hasAck (f : HeaderFlags) : Bool := f &&& 0x20 ≠ 0

def setAckPresent (f : HeaderFlags) (ackPresent : Bool) : HeaderFlags :=
  if ackPresent then f ||| 0x20 else f &&& ~~~0x20

end HeaderFlags

/-- `PacketHeader`. -/
structure PacketHeader where
  flags : HeaderFlags
  version : Option UInt32
  headerLen : UInt8
  connectionId : ConnectionId
  packetNumber : PacketNumber
  timestampMicros : UInt32
  payloadLen : UInt16
  deriving DecidableEq, Repr

namespace PacketHeader

/-- `PacketHeader::new_short`. -/
def newShort (connectionId : ConnectionId) (packetNumber : PacketNumber) (timestampMicros : UInt32)
    (payloadLen : UInt16) : PacketHeader :=
  { flags := 0
    version := none
    headerLen := 24
    connectionId
    packetNumber
    timestampMicros
    payloadLen }

/-- `PacketHeader::new_long`. -/
def newLong (version : UInt32) (connectionId : ConnectionId)
    (packetNumber : PacketNumber) (timestampMicros : UInt32) (payloadLen : UInt16) : PacketHeader :=
  { flags := 0x80
    version := some version
    headerLen := 28
    connectionId
    packetNumber
    timestampMicros
    payloadLen }

def minLen (flags : HeaderFlags) : Nat :=
  if flags.isLongHeader then minLongHeaderLen else minCommonHeaderLen

/-- The bytes `PacketHeader::encode` writes. -/
def bytes (h : PacketHeader) : List UInt8 :=
  [h.flags] ++ (if h.flags.isLongHeader then toBe 4 (h.version.getD gtpV11).toNat else []) ++
    [h.headerLen] ++ toBe 8 h.connectionId.toNat ++ toBe 8 h.packetNumber.toNat ++
    toBe 4 h.timestampMicros.toNat ++ toBe 2 h.payloadLen.toNat

/-- `PacketHeader::encode`: the result and the buffer afterwards. -/
def encode (h : PacketHeader) (buf : List UInt8) : Result Nat × List UInt8 :=
  if buf.length < minLen h.flags then (.error .bufferTooShort, buf)
  else (.ok h.bytes.length, h.bytes ++ buf.drop h.bytes.length)

/-- The `n` bytes at `offset`, as the fixed-size reads of `decode` take them. -/
def field (buf : List UInt8) (offset n : Nat) : Nat := ofBe ((buf.drop offset).take n)

/-- `PacketHeader::decode`: the header and the number of bytes consumed. -/
def decode (buf : List UInt8) : Result (PacketHeader × Nat) := do
  if buf.isEmpty then throw .bufferTooShort
  let flags : HeaderFlags := UInt8.ofNat (field buf 0 1)
  if buf.length < minLen flags then throw .bufferTooShort
  let version := if flags.isLongHeader then some (UInt32.ofNat (field buf 1 4)) else none
  let offset := if flags.isLongHeader then 5 else 1
  let headerLen := field buf offset 1
  if headerLen < minLen flags ∨ buf.length < headerLen then
    throw (.invalidPacket "Invalid header length")
  return (
    { flags
      version
      headerLen := UInt8.ofNat headerLen
      connectionId := UInt64.ofNat (field buf (offset + 1) 8)
      packetNumber := UInt64.ofNat (field buf (offset + 9) 8)
      timestampMicros := UInt32.ofNat (field buf (offset + 17) 4)
      payloadLen := UInt16.ofNat (field buf (offset + 21) 2) },
    headerLen)

end PacketHeader

/-! ## 2. Frame iterator -/

/-- `FrameIterator::next` at `offset`: the item it yields, if any, and the next offset. -/
def FrameIterator.next (buf : List UInt8) (offset : Nat) : Option (Result Frame × Nat) :=
  if buf.length ≤ offset then none
  else
    match Frame.decode (buf.drop offset) with
    | .ok (frame, consumed) =>
      if consumed = 0 then
        some (.error (.malformedFrame "decoded frame consumed zero bytes"), buf.length)
      else some (.ok frame, offset + consumed)
    | .error e => some (.error e, buf.length)

/-- The items of the iterator from `offset` on.  Every step moves the offset, so `fuel` steps are
enough when `fuel` is the number of bytes left. -/
def FrameIterator.collectFrom (buf : List UInt8) : Nat → Nat → List (Result Frame)
  | 0, _ => []
  | fuel + 1, offset =>
    match next buf offset with
    | none => []
    | some (item, offset') => item :: collectFrom buf fuel offset'

/-- All items of `FrameIterator::new(buf)`. -/
def FrameIterator.collect (buf : List UInt8) : List (Result Frame) := collectFrom buf buf.length 0

/-! ## 3. Packet builder -/

/-- `PacketBuilder`. -/
structure PacketBuilder where
  buf : List UInt8
  header : PacketHeader
  headerLen : Nat
  payloadLen : Nat

namespace PacketBuilder

/-- `PacketBuilder::new`. -/
def new (buf : List UInt8) (header : PacketHeader) : Result PacketBuilder :=
  let headerLen := PacketHeader.minLen header.flags
  if buf.length < headerLen then .error .bufferTooShort
  else if header.headerLen.toNat ≠ headerLen then
    .error (.invalidPacket "header_len field disagrees with flags-derived header size")
  else .ok { buf, header, headerLen, payloadLen := 0 }

/-- `PacketBuilder::remaining_capacity`. -/
def remainingCapacity (b : PacketBuilder) : Nat := b.buf.length - (b.headerLen + b.payloadLen)

/-- `PacketBuilder::append_frame`: the result and the builder afterwards. -/
def appendFrame (b : PacketBuilder) (frame : Frame) : Result Unit × PacketBuilder :=
  let currentOffset := b.headerLen + b.payloadLen
  let (res, rest) := frame.encode (b.buf.drop currentOffset)
  let b := { b with buf := b.buf.take currentOffset ++ rest }
  match res with
  | .error e => (.error e, b)
  | .ok written =>
    let header := match frame with
      | .ack .. => { b.header with flags := b.header.flags.setAckPresent true }
      | _ => b.header
    (.ok (), { b with header, payloadLen := b.payloadLen + written })

/-- `PacketBuilder::finish`: the datagram length and the buffer with the header written. -/
def finish (b : PacketBuilder) : Result Nat × List UInt8 :=
  if 65535 < b.payloadLen then
    (.error (.resourceLimitExceeded "payload length exceeds u16::MAX"), b.buf)
  else
    let header := { b.header with payloadLen := UInt16.ofNat b.payloadLen }
    let (res, front) := header.encode (b.buf.take b.headerLen)
    match res with
    | .error e => (.error e, b.buf)
    | .ok _ => (.ok (b.headerLen + b.payloadLen), front ++ b.buf.drop b.headerLen)

end PacketBuilder

end Gtp
