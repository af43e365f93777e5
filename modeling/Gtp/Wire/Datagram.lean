/-
# A datagram built and read back

Any header the two constructors make, whatever its other flag bits, and any frames offered to
`append_frame`, of which some may be refused: `Holds` says what the builder then holds, and
`finish_decodes` what the peer reads off the finished datagram.

* `Made` are the headers of `new_short` and `new_long`; both read back (`decode_sent`).
* `Holds.appendFrame` is the step: an append is successful exactly when the frame fits, and only a
  frame that was taken shows.  `Holds.appendFrames` is the run over all frames offered.
* `flagsAfter` is the flag byte at the end: the ACK flag is set when it was set before, or when an
  ACK frame was taken.  No other bit changes (`or_flagsAfter`).

`Gtp.Wire.Builder` has the same for the send path, which builds short headers only; the lemmas about
one `append_frame` are shared.  The payload is not encrypted here: between `finish` and the network
the send path seals it in place, which is `Gtp.Core.Produce`.
-/
import Gtp.Wire.Builder

namespace Gtp

open Frame

/-! ## 1. Headers -/

namespace PacketHeader

/-- The headers of `new_short` and `new_long`, with any setting of the other flag bits. -/
inductive Made : PacketHeader → Prop
  | short (connectionId : ConnectionId) (packetNumber : PacketNumber) (timestampMicros : UInt32)
      (payloadLen : UInt16) (flags : HeaderFlags) (h : flags.isLongHeader = false) :
      Made { newShort connectionId packetNumber timestampMicros payloadLen with flags }
  | long (version : UInt32) (connectionId : ConnectionId) (packetNumber : PacketNumber)
      (timestampMicros : UInt32) (payloadLen : UInt16) (flags : HeaderFlags)
      (h : flags.isLongHeader = true) :
      Made { newLong version connectionId packetNumber timestampMicros payloadLen with flags }

theorem length_bytes_minLen (h : PacketHeader) : h.bytes.length = minLen h.flags := by
  cases hlong : h.flags.isLongHeader with
  | true => rw [length_bytes_long hlong, minLen_long hlong]
  | false => rw [length_bytes_short hlong, minLen_short hlong]

/-- The header as `finish` sends it. -/
def sent (h : PacketHeader) (flags : HeaderFlags) (payloadLen : Nat) : PacketHeader :=
  { h with flags, payloadLen := UInt16.ofNat payloadLen }

/-- **A made header reads back**, with anything behind it. -/
theorem decode_sent {h : PacketHeader} (hmade : Made h) {flags : HeaderFlags}
    (hlong : flags.isLongHeader = h.flags.isLongHeader) (payloadLen : Nat) (rest : List UInt8) :
    decode ((h.sent flags payloadLen).bytes ++ rest) =
      .ok (h.sent flags payloadLen, minLen h.flags) := by
  cases hmade with
  | short cid pn ts len flags' h' =>
    rw [minLen_short h']
    exact decode_bytes_short (hlong.trans h') rfl rfl rest
  | long version cid pn ts len flags' h' =>
    rw [minLen_long h']
    exact decode_bytes_long (hlong.trans h') rfl rfl rest

end PacketHeader

/-! ## 2. Offering frames -/

namespace PacketBuilder

/-- `append_frame` for each frame in turn: the frames taken, and the builder. -/
def appendFrames (b : PacketBuilder) : List Frame → List Frame × PacketBuilder
  | [] => ([], b)
  | frame :: rest =>
    match b.appendFrame frame with
    | (.ok (), b) => (frame :: (b.appendFrames rest).1, (b.appendFrames rest).2)
    | (.error _, b) => b.appendFrames rest

/-- An ACK frame. -/
def isAck : Frame → Bool
  | .ack .. => true
  | _ => false

/-- The flags after `taken` was appended. -/
def flagsAfter (flags : HeaderFlags) (taken : List Frame) : HeaderFlags :=
  if taken.any isAck then flags.setAckPresent true else flags

/-- The builder was made for `header` and has taken `taken`. -/
structure Holds (b : PacketBuilder) (header : PacketHeader) (taken : List Frame) : Prop where
  noted : b.header = { header with flags := flagsAfter header.flags taken }
  headerLen : b.headerLen = PacketHeader.minLen header.flags
  room : b.headerLen + b.payloadLen ≤ b.buf.length
  payload : b.payload = payloadOf taken

theorem Holds.length_payload {b : PacketBuilder} {header : PacketHeader} {taken : List Frame}
    (h : b.Holds header taken) : (payloadOf taken).length = b.payloadLen := by
  have hroom := h.room
  rw [← h.payload, PacketBuilder.payload, List.length_take, List.length_drop]
  omega

theorem new_holds {buf : List UInt8} {header : PacketHeader} {b : PacketBuilder}
    (h : new buf header = .ok b) : b.Holds header [] := by
  unfold new at h
  dsimp only at h
  split at h
  · cases h
  · rename_i hbuf
    split at h
    · cases h
    · obtain rfl := Except.ok.inj h
      exact ⟨rfl, rfl, Nat.not_lt.mp hbuf, rfl⟩

theorem setAckPresent_setAckPresent (flags : HeaderFlags) :
    (flags.setAckPresent true).setAckPresent true = flags.setAckPresent true := by
  simp only [HeaderFlags.setAckPresent, if_true]
  apply UInt8.toBitVec_inj.mp
  rw [UInt8.toBitVec_or, UInt8.toBitVec_or, BitVec.or_assoc, BitVec.or_self]

theorem noted_flagsAfter (header : PacketHeader) (taken : List Frame) (f : Frame) :
    noted { header with flags := flagsAfter header.flags taken } f =
      { header with flags := flagsAfter header.flags (taken ++ [f]) } := by
  have hany : (taken ++ [f]).any isAck = (taken.any isAck || isAck f) := by simp
  simp only [flagsAfter, hany]
  cases f with
  | ack =>
    simp only [noted, isAck, Bool.or_true, if_true]
    split
    · rw [setAckPresent_setAckPresent]
    · rfl
  | _ => simp only [noted, isAck, Bool.or_false]

/-- Appending is successful exactly when the frame fits. -/
theorem Holds.appendFrame {b : PacketBuilder} {header : PacketHeader} {taken : List Frame}
    (h : b.Holds header taken) (f : Frame) :
    (∃ b', b.appendFrame f = (.ok (), b') ∧ b'.Holds header (taken ++ [f])) ∨
      (∃ e b', b.appendFrame f = (.error e, b') ∧ Refused b b' ∧ b'.Holds header taken) := by
  by_cases hfit : b.Fits f
  · obtain ⟨b', happ, hb'⟩ := appendFrame_appended h.room hfit
    have hcap : f.needed ≤ b.buf.length - (b.headerLen + b.payloadLen) := hfit.1
    have hroom := h.room
    refine Or.inl ⟨b', happ, ?_, hb'.headerLen.trans h.headerLen, ?_, ?_⟩
    · rw [hb'.header, h.noted, noted_flagsAfter]
    · rw [hb'.headerLen, hb'.payloadLen, hb'.length]
      omega
    · rw [hb'.payload, h.payload, payloadOf_append, payloadOf_cons, payloadOf_nil, List.append_nil]
  · obtain ⟨e, b', happ, hb'⟩ := appendFrame_refused h.room hfit
    refine Or.inr ⟨e, b', happ, hb', hb'.header.trans h.noted, hb'.headerLen.trans h.headerLen, ?_,
      hb'.payload.trans h.payload⟩
    rw [hb'.headerLen, hb'.payloadLen, hb'.length]
    exact h.room

/-- **All the frames**: the builder holds exactly those it took. -/
theorem Holds.appendFrames {b : PacketBuilder} {header : PacketHeader} {taken : List Frame}
    (h : b.Holds header taken) (fs : List Frame) :
    (b.appendFrames fs).2.Holds header (taken ++ (b.appendFrames fs).1) := by
  induction fs generalizing b taken with
  | nil => simpa [PacketBuilder.appendFrames] using h
  | cons f fs ih =>
    rw [PacketBuilder.appendFrames]
    rcases h.appendFrame f with ⟨b', happ, hb'⟩ | ⟨e, b', happ, -, hb'⟩
    · rw [happ]
      have hrest := ih hb'
      rwa [List.append_assoc, List.singleton_append] at hrest
    · rw [happ]
      exact ih hb'

/-! ## 3. The finished datagram -/

theorem isLongHeader_flagsAfter (flags : HeaderFlags) (taken : List Frame) :
    (flagsAfter flags taken).isLongHeader = flags.isLongHeader := by
  unfold flagsAfter
  split
  · exact isLongHeader_setAckPresent flags
  · rfl

theorem hasAck_setAckPresent (flags : HeaderFlags) : (flags.setAckPresent true).hasAck = true := by
  have hbits : ∀ v : BitVec 8, (v ||| 0x20#8) &&& 0x20#8 ≠ 0#8 := by decide
  simp only [HeaderFlags.hasAck, HeaderFlags.setAckPresent, if_true, decide_eq_true_eq]
  exact fun h => hbits flags.toBitVec (UInt8.toBitVec_inj.mpr h)

theorem hasAck_flagsAfter (flags : HeaderFlags) (taken : List Frame) :
    (flagsAfter flags taken).hasAck = (flags.hasAck || taken.any isAck) := by
  unfold flagsAfter
  split
  · rename_i hany
    rw [hasAck_setAckPresent, hany, Bool.or_true]
  · rename_i hany
    rw [Bool.eq_false_iff.mpr hany, Bool.or_false]

/-- The ACK flag apart, the flags are as they were. -/
theorem or_flagsAfter (flags : HeaderFlags) (taken : List Frame) :
    flagsAfter flags taken ||| 0x20 = flags ||| 0x20 := by
  unfold flagsAfter
  split
  · exact setAckPresent_setAckPresent flags
  · rfl

theorem Holds.finish {b : PacketBuilder} {header : PacketHeader} {taken : List Frame}
    (h : b.Holds header taken) {n : Nat} {out : List UInt8} (hfin : b.finish = (.ok n, out)) :
    (payloadOf taken).length ≤ 65535 ∧
      out.take n = (header.sent (flagsAfter header.flags taken) (payloadOf taken).length).bytes ++
        payloadOf taken := by
  have hroom := h.room
  have hpayload := h.payload
  rw [h.length_payload]
  unfold PacketBuilder.finish at hfin
  split at hfin
  · cases (Prod.mk.inj hfin).1
  · rename_i hsize
    have hsent : ({ b.header with payloadLen := UInt16.ofNat b.payloadLen } : PacketHeader) =
        header.sent (flagsAfter header.flags taken) b.payloadLen := by
      rw [h.noted]
      rfl
    rw [hsent] at hfin
    generalize hh : header.sent (flagsAfter header.flags taken) b.payloadLen = h' at hfin ⊢
    have hmin : PacketHeader.minLen h'.flags = b.headerLen := by
      rw [h.headerLen, ← hh]
      simp only [PacketHeader.minLen, PacketHeader.sent, isLongHeader_flagsAfter]
    have hlen := h'.length_bytes_minLen
    rw [hmin] at hlen
    have hfront : (b.buf.take b.headerLen).length = b.headerLen := by
      rw [List.length_take]
      omega
    -- the header fills its part of the buffer
    simp only [PacketHeader.encode, hmin, hfront, Nat.lt_irrefl, if_false, hlen,
      List.drop_eq_nil_of_le hfront.le, List.append_nil] at hfin
    obtain ⟨hn, rfl⟩ := Prod.mk.inj hfin
    obtain rfl := Except.ok.inj hn
    refine ⟨Nat.not_lt.mp hsize, ?_⟩
    rw [← hpayload, PacketBuilder.payload, ← hlen, List.take_length_add_append]

/-- **The datagram and its header.**  Whatever header was made, and whichever frames were refused on
the way, a finished datagram decodes to the header with the payload's length and with the ACK flag
set when it was set before or an ACK frame was taken; the header's bytes are consumed, and the bytes
behind it are the encodings of the frames taken, in order.  A refused frame changes neither the
length nor any byte in front of it. -/
theorem finish_decodes {buf : List UInt8} {header : PacketHeader} {b : PacketBuilder}
    (hmade : PacketHeader.Made header) (hnew : new buf header = .ok b) (fs : List Frame) :
    (∀ n out, (b.appendFrames fs).2.finish = (.ok n, out) →
      ∃ decoded, PacketHeader.decode (out.take n) = .ok (decoded, b.headerLen) ∧
        decoded = { header with
          flags := decoded.flags
          payloadLen := decoded.payloadLen } ∧
        decoded.payloadLen.toNat = ((out.take n).drop b.headerLen).length ∧
        (decoded.flags.hasAck = true ↔
          header.flags.hasAck = true ∨ ∃ f ∈ (b.appendFrames fs).1, isAck f = true) ∧
        decoded.flags ||| 0x20 = header.flags ||| 0x20 ∧
        (out.take n).drop b.headerLen = (b.appendFrames fs).1.flatMap bytes) ∧
      ∀ f e b', (b.appendFrames fs).2.appendFrame f = (.error e, b') →
        b'.payloadLen = (b.appendFrames fs).2.payloadLen ∧
        b'.buf.length = (b.appendFrames fs).2.buf.length ∧
        b'.header = (b.appendFrames fs).2.header ∧
        b'.buf.take (b'.headerLen + b'.payloadLen) =
          (b.appendFrames fs).2.buf.take (b'.headerLen + b'.payloadLen) := by
  have hb := new_holds hnew
  have hall := hb.appendFrames fs
  rw [List.nil_append] at hall
  constructor
  · intro n out hfin
    obtain ⟨hsize, htake⟩ := hall.finish hfin
    have hlong := isLongHeader_flagsAfter header.flags (b.appendFrames fs).1
    have hdecode := PacketHeader.decode_sent hmade hlong
      (payloadOf (b.appendFrames fs).1).length (payloadOf (b.appendFrames fs).1)
    have hdrop : (out.take n).drop b.headerLen = payloadOf (b.appendFrames fs).1 := by
      rw [htake]
      refine List.drop_left' ?_
      rw [PacketHeader.length_bytes_minLen, hb.headerLen]
      simp only [PacketHeader.minLen, PacketHeader.sent, hlong]
    refine ⟨header.sent (flagsAfter header.flags (b.appendFrames fs).1)
      (payloadOf (b.appendFrames fs).1).length, ?_, rfl, ?_, ?_, ?_, hdrop⟩
    · rw [htake, hb.headerLen]
      exact hdecode
    · rw [hdrop]
      exact Nat.mod_eq_of_lt (by omega)
    · simp only [PacketHeader.sent, hasAck_flagsAfter, Bool.or_eq_true, List.any_eq_true]
    · exact or_flagsAfter header.flags _
  · intro f e b' happ
    rcases hall.appendFrame f with ⟨b'', hok, -⟩ | ⟨e', b'', herr, hrefused, -⟩
    · rw [hok] at happ
      cases (Prod.mk.inj happ).1
    · rw [herr] at happ
      obtain ⟨-, rfl⟩ := Prod.mk.inj happ
      refine ⟨hrefused.payloadLen, hrefused.length, hrefused.header, ?_⟩
      rw [hrefused.headerLen, hrefused.payloadLen]
      exact hrefused.before

/-- A `Ping` taken and a padding frame refused, in 40 bytes. -/
theorem finish_decodes_ping : ∃ b n out decoded,
    new (List.replicate 40 0) (.newShort 7 1 0 0) = .ok b ∧
      (b.appendFrames [.ping 1, .padding 100]).2.finish = (.ok n, out) ∧
      PacketHeader.decode (out.take n) = .ok (decoded, 24) ∧ decoded.payloadLen.toNat = 9 ∧
      (out.take n).drop 24 = (Frame.ping 1).bytes := by
  have hnew : new (List.replicate 40 0) (.newShort 7 1 0 0) =
      .ok ⟨List.replicate 40 0, .newShort 7 1 0 0, 24, 0⟩ := rfl
  have hmade : PacketHeader.Made (.newShort 7 1 0 0) := .short 7 1 0 0 0 rfl
  have hfinish : ∃ n out, ((⟨List.replicate 40 0, .newShort 7 1 0 0, 24, 0⟩ :
      PacketBuilder).appendFrames [.ping 1, .padding 100]).2.finish = (.ok n, out) := ⟨_, _, rfl⟩
  obtain ⟨n, out, hfin⟩ := hfinish
  obtain ⟨decoded, hdecode, -, hlen, -, -, hpayload⟩ :=
    (finish_decodes hmade hnew [.ping 1, .padding 100]).1 n out hfin
  have hbytes : (out.take n).drop 24 = (Frame.ping 1).bytes := hpayload
  refine ⟨_, n, out, decoded, hnew, hfin, hdecode, ?_, hbytes⟩
  exact hlen.trans (congrArg List.length hbytes)

end PacketBuilder

end Gtp
