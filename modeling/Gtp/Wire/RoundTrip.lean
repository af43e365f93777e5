/-
# What the decoder makes of an encoded frame

Every frame but two announces its own length, so decoding its bytes with anything behind them
gives the frame back and consumes exactly its bytes (`decode_bytes`).  "Back" means `canon`: the
unused slots of an ACK frame's range array are cleared, and a `Close` reason is what its cut left
of it.  The two exceptions take whatever follows into themselves: `decode_mtuProbe` says so for
the probe, `Padding` is never sent.

* The proofs follow the bytes: `At buf offset l` says that the reader stands in front of `l`, and
  every `read_*` helper has one lemma that moves it past the field it read.
* The cut of a reason is valid UTF-8 (`fromUtf8_cut`), whatever the reason was.  So a peer never
  refuses a `Close` for its text.
* Over a whole payload the iterator yields `received fs` (`collectFrom_payloadOf`): the frames in
  canonical form, up to the first probe.  It yields all that was sent exactly when no frame stands
  behind a probe (`received_eq_map_canon_iff`).

Which frames the send path puts behind a probe is no question of the format; `Gtp.Core.Transparency`
has it.  Bytes that no encoder wrote are the subject of `Gtp.Wire.Canonical` and `Gtp.Wire.Stream`.
-/
import Gtp.Wire.Codec
import Gtp.Lib.Utf8

namespace Gtp

open BigEndian

namespace Frame

/-! ## 1. Readers -/

/-- The reader stands at `offset`, in front of `l`. -/
def At (buf : List UInt8) (offset : Nat) (l : List UInt8) : Prop :=
  ∃ pre, buf = pre ++ l ∧ pre.length = offset

theorem At.length_le {buf : List UInt8} {offset : Nat} {l : List UInt8} (h : At buf offset l) :
    offset + l.length = buf.length := by
  obtain ⟨pre, rfl, rfl⟩ := h
  rw [List.length_append]

/-- `read_bytes` takes the bytes it stands in front of. -/
theorem At.readBytes {buf bs rest : List UInt8} {offset : Nat} (h : At buf offset (bs ++ rest)) :
    readBytes buf offset bs.length = .ok (bs, offset + bs.length) ∧
      At buf (offset + bs.length) rest := by
  obtain ⟨pre, rfl, rfl⟩ := h
  refine ⟨?_, pre ++ bs, by simp, by simp⟩
  rw [Frame.readBytes, if_neg (by simp)]
  simp

theorem At.readU8 {buf rest : List UInt8} {b : UInt8} {offset : Nat}
    (h : At buf offset (b :: rest)) :
    readU8 buf offset = .ok (b, offset + 1) ∧ At buf (offset + 1) rest := by
  have h' : At buf offset ([b] ++ rest) := h
  obtain ⟨hr, hat⟩ := h'.readBytes
  refine ⟨?_, hat⟩
  rw [List.length_singleton] at hr
  rw [Frame.readU8, hr]
  simp only [bind, Except.bind, pure, Except.pure, ofBe, List.length_nil, pow_zero, mul_one,
    add_zero, UInt8.ofNat_toNat]

theorem At.readU16 {buf rest : List UInt8} {n : UInt16} {offset : Nat}
    (h : At buf offset (toBe 2 n.toNat ++ rest)) :
    readU16 buf offset = .ok (n, offset + 2) ∧ At buf (offset + 2) rest := by
  obtain ⟨hr, hat⟩ := h.readBytes
  rw [length_toBe] at hr hat
  refine ⟨?_, hat⟩
  have hn : n.toNat < 256 ^ 2 := n.toNat_lt
  rw [Frame.readU16, hr]
  simp only [bind, Except.bind, pure, Except.pure, ofBe_toBe_of_lt hn, UInt16.ofNat_toNat]

theorem At.readU32 {buf rest : List UInt8} {n : UInt32} {offset : Nat}
    (h : At buf offset (toBe 4 n.toNat ++ rest)) :
    readU32 buf offset = .ok (n, offset + 4) ∧ At buf (offset + 4) rest := by
  obtain ⟨hr, hat⟩ := h.readBytes
  rw [length_toBe] at hr hat
  refine ⟨?_, hat⟩
  have hn : n.toNat < 256 ^ 4 := n.toNat_lt
  rw [Frame.readU32, hr]
  simp only [bind, Except.bind, pure, Except.pure, ofBe_toBe_of_lt hn, UInt32.ofNat_toNat]

theorem At.readU64 {buf rest : List UInt8} {n : UInt64} {offset : Nat}
    (h : At buf offset (toBe 8 n.toNat ++ rest)) :
    readU64 buf offset = .ok (n, offset + 8) ∧ At buf (offset + 8) rest := by
  obtain ⟨hr, hat⟩ := h.readBytes
  rw [length_toBe] at hr hat
  refine ⟨?_, hat⟩
  have hn : n.toNat < 256 ^ 8 := n.toNat_lt
  rw [Frame.readU64, hr]
  simp only [bind, Except.bind, pure, Except.pure, ofBe_toBe_of_lt hn, UInt64.ofNat_toNat]

theorem At.readArray {buf rest : List UInt8} {n : Nat} {v : Bytes n} {offset : Nat}
    (h : At buf offset (v.toList ++ rest)) :
    readArray n buf offset = .ok (v, offset + n) ∧ At buf (offset + n) rest := by
  obtain ⟨pre, rfl, rfl⟩ := h
  have hv : v.toList.length = n := v.toList_length
  refine ⟨?_, pre ++ v.toList, by simp, by simp [hv]⟩
  rw [Frame.readArray, dif_neg (by simp [hv])]
  congr 2
  apply List.Vector.eq
  simp only [List.Vector.toList_mk, List.drop_left]
  exact List.take_left' hv

theorem At.readRanges {buf rest : List UInt8} {rs : List AckRange} {offset : Nat}
    (h : At buf offset (rs.flatMap rangeBytes ++ rest)) :
    readRanges buf rs.length offset = .ok (rs, offset + rs.length * 8) ∧
      At buf (offset + rs.length * 8) rest := by
  induction rs generalizing offset with
  | nil => exact ⟨rfl, h⟩
  | cons r rs ih =>
    have h0 : At buf offset (toBe 4 r.gap.toNat ++ (toBe 4 r.length.toNat ++
        (rs.flatMap rangeBytes ++ rest))) := by
      simpa [rangeBytes] using h
    obtain ⟨hgap, h1⟩ := h0.readU32
    obtain ⟨hlen, h2⟩ := h1.readU32
    obtain ⟨hrest, h3⟩ := ih h2
    have hoff : offset + 4 + 4 + rs.length * 8 = offset + (r :: rs).length * 8 := by
      rw [List.length_cons]
      omega
    rw [hoff] at hrest h3
    refine ⟨?_, h3⟩
    rw [List.length_cons, Frame.readRanges]
    simp only [hgap, hlen, hrest, bind, Except.bind, pure, Except.pure, List.length_cons]

/-! ## 2. The cut of a `Close` reason -/

/-- What the peer reads as the reason. -/
def cutReason (reason : String) : String :=
  (fromUtf8 ((strBytes reason).take (reasonLen reason))).getD ""

/-- The loop stops in front of a byte that is no continuation byte, or at the start. -/
theorem trimToBoundary_stops (bytes : List UInt8) (n : Nat) :
    trimToBoundary bytes n = 0 ∨
      ∀ b, bytes[trimToBoundary bytes n]? = some b → ¬ Utf8.IsContinuation b := by
  induction n with
  | zero => exact Or.inl rfl
  | succ n ih =>
    rw [trimToBoundary]
    split
    · rename_i b hb
      split
      · exact ih
      · rename_i hcont
        refine Or.inr fun b' hb' => ?_
        rw [hb] at hb'
        obtain rfl := Option.some.inj hb'
        exact hcont
    · rename_i hnone
      refine Or.inr fun b hb => ?_
      rw [hnone] at hb
      cases hb

theorem reasonLen_le (reason : String) : reasonLen reason ≤ 255 :=
  Nat.le_trans (trimToBoundary_le _ _) (Nat.min_le_right _ _)

theorem strBytes_ofList (cs : List Char) : strBytes (String.ofList cs) = Utf8.encode cs :=
  Utf8.toList_toByteArray_ofList cs

theorem exists_cut (reason : String) : ∃ k,
    (strBytes reason).take (reasonLen reason) = strBytes (String.ofList (reason.toList.take k)) := by
  obtain ⟨cs, rfl⟩ := String.exists_eq_ofList reason
  rw [String.toList_ofList]
  simp only [strBytes_ofList]
  rcases trimToBoundary_stops (strBytes (String.ofList cs))
    (min (strBytes (String.ofList cs)).length 255) with hzero | hbound
  · refine ⟨0, ?_⟩
    rw [show reasonLen (String.ofList cs) = 0 from hzero]
    rfl
  · refine Utf8.exists_take_encode cs _ fun b hb => ?_
    rw [← strBytes_ofList] at hb
    exact hbound b hb

/-- **The cut is valid UTF-8**, whatever the reason: `from_utf8` accepts it. -/
theorem fromUtf8_cut (reason : String) :
    fromUtf8 ((strBytes reason).take (reasonLen reason)) = some (cutReason reason) := by
  obtain ⟨k, hk⟩ := exists_cut reason
  rw [cutReason, hk, strBytes_ofList, fromUtf8, Utf8.fromUTF8?_encode]
  rfl

/-! ## 3. Round trips -/

/-- The frame that the peer decodes. -/
def canon : Frame → Frame
  | ack largestAcked ackDelayUs ranges rangeCount ect0Count ect1Count ceCount =>
    ack largestAcked ackDelayUs (.ofList (ranges.toList.take (ackCount rangeCount)))
      (UInt8.ofNat (ackCount rangeCount)) ect0Count ect1Count ceCount
  | close errorCode reason => close errorCode (cutReason reason)
  | f => f

/-- Frames whose decoder stops at a length the frame itself announces. -/
def selfDelimiting : Frame → Bool
  | mtuProbe .. => false
  | padding .. => false
  | _ => true

theorem at_type (f : Frame) (rest : List UInt8) :
    readU8 (f.bytes ++ rest) 0 = .ok (f.frameType, 1) ∧ At (f.bytes ++ rest) 1 (f.body ++ rest) := by
  have h : At (f.bytes ++ rest) 0 (f.frameType :: (f.body ++ rest)) := ⟨[], by simp [bytes], rfl⟩
  exact h.readU8

theorem toNat_ackCount (rangeCount : UInt8) :
    (UInt8.ofNat (ackCount rangeCount)).toNat = ackCount rangeCount := by
  have hle : ackCount rangeCount ≤ 32 := Nat.min_le_right _ _
  rw [UInt8.toNat_ofNat', Nat.mod_eq_of_lt (by omega)]

theorem decode_ack (l : PacketNumber) (d : UInt32) (ranges : AckRanges) (c : UInt8)
    (e0 e1 ce : UInt32) (rest : List UInt8) :
    decode ((ack l d ranges c e0 e1 ce).bytes ++ rest) =
      .ok ((ack l d ranges c e0 e1 ce).canon, (ack l d ranges c e0 e1 ce).bytes.length) := by
  rw [length_bytes]
  obtain ⟨htype, h0⟩ := at_type (ack l d ranges c e0 e1 ce) rest
  generalize (ack l d ranges c e0 e1 ce).bytes ++ rest = buf at htype h0 ⊢
  simp only [body, List.append_assoc, List.cons_append, List.nil_append] at h0
  obtain ⟨r1, h1⟩ := h0.readU64
  obtain ⟨r2, h2⟩ := h1.readU32
  obtain ⟨r3, h3⟩ := h2.readU8
  obtain ⟨r4, h4⟩ := h3.readRanges
  rw [length_take_ranges] at r4 h4
  obtain ⟨r5, h5⟩ := h4.readU32
  obtain ⟨r6, h6⟩ := h5.readU32
  obtain ⟨r7, h7⟩ := h6.readU32
  have hle : ¬ maxAckRanges < ackCount c := Nat.not_lt.mpr (Nat.min_le_right _ _)
  simp only [decode, htype, frameType, r1, r2, r3, toNat_ackCount, if_neg hle, r4, r5, r6, r7, bind,
    Except.bind, pure, Except.pure, canon, needed]

theorem At.readPayload {buf payload rest : List UInt8} {offset : Nat}
    (h : At buf offset (toBe 2 payload.length ++ (payload ++ rest)))
    (hlen : payload.length ≤ 65535) :
    Frame.readU16 buf offset = .ok (UInt16.ofNat payload.length, offset + 2) ∧
      Frame.readBytes buf (offset + 2) (UInt16.ofNat payload.length).toNat =
        .ok (payload, offset + 2 + payload.length) := by
  have hn : (UInt16.ofNat payload.length).toNat = payload.length := by
    rw [UInt16.toNat_ofNat', Nat.mod_eq_of_lt (by omega)]
  rw [← hn] at h
  obtain ⟨hr, h1⟩ := h.readU16
  rw [hn]
  exact ⟨hr, h1.readBytes.1⟩

theorem decode_data (m : MessageId) (k : StateKey) (q : StateSequence) (g : GenerationId)
    (dl : UInt16) (payload rest : List UInt8) (hlen : payload.length ≤ 65535) :
    decode ((data m k q g dl payload).bytes ++ rest) =
      .ok (data m k q g dl payload, (data m k q g dl payload).bytes.length) := by
  rw [length_bytes]
  obtain ⟨htype, h0⟩ := at_type (data m k q g dl payload) rest
  generalize (data m k q g dl payload).bytes ++ rest = buf at htype h0 ⊢
  simp only [body, List.append_assoc] at h0
  obtain ⟨r1, h1⟩ := h0.readU64
  obtain ⟨r2, h2⟩ := h1.readBytes
  rw [length_toBe] at r2 h2
  obtain ⟨r3, h3⟩ := h2.readU32
  obtain ⟨r4, h4⟩ := h3.readU32
  obtain ⟨r5, h5⟩ := h4.readU16
  obtain ⟨r6, r7⟩ := h5.readPayload hlen
  have hkey : StateKey.fromU48 (ofBe (toBe 6 k.toU48)) = k := by
    rw [ofBe_toBe_of_lt (show k.toU48 < 256 ^ 6 from k.toU48_lt), StateKey.fromU48_toU48]
  simp only [decode, htype, frameType, r1, r2, r3, r4, r5, r6, r7, hkey, bind, Except.bind, pure,
    Except.pure, needed]

theorem decode_reliableData (m : MessageId) (i : FragmentId) (n : UInt16) (g : OrderedGroupId)
    (q : UInt32) (payload rest : List UInt8) (hlen : payload.length ≤ 65535) :
    decode ((reliableData m i n g q payload).bytes ++ rest) =
      .ok (reliableData m i n g q payload, (reliableData m i n g q payload).bytes.length) := by
  rw [length_bytes]
  obtain ⟨htype, h0⟩ := at_type (reliableData m i n g q payload) rest
  generalize (reliableData m i n g q payload).bytes ++ rest = buf at htype h0 ⊢
  simp only [body, List.append_assoc] at h0
  obtain ⟨r1, h1⟩ := h0.readU64
  obtain ⟨r2, h2⟩ := h1.readU16
  obtain ⟨r3, h3⟩ := h2.readU16
  obtain ⟨r4, h4⟩ := h3.readU16
  obtain ⟨r5, h5⟩ := h4.readU32
  obtain ⟨r6, r7⟩ := h5.readPayload hlen
  simp only [decode, htype, frameType, r1, r2, r3, r4, r5, r6, r7, bind, Except.bind, pure,
    Except.pure, needed]

theorem decode_retx (m : MessageId) (i : FragmentId) (t : TransmissionId)
    (payload rest : List UInt8) (hlen : payload.length ≤ 65535) :
    decode ((retx m i t payload).bytes ++ rest) =
      .ok (retx m i t payload, (retx m i t payload).bytes.length) := by
  rw [length_bytes]
  obtain ⟨htype, h0⟩ := at_type (retx m i t payload) rest
  generalize (retx m i t payload).bytes ++ rest = buf at htype h0 ⊢
  simp only [body, List.append_assoc, List.cons_append, List.nil_append] at h0
  obtain ⟨r1, h1⟩ := h0.readU64
  obtain ⟨r2, h2⟩ := h1.readU16
  obtain ⟨r3, h3⟩ := h2.readU8
  obtain ⟨r4, r5⟩ := h3.readPayload hlen
  simp only [decode, htype, frameType, r1, r2, r3, r4, r5, bind, Except.bind, pure, Except.pure,
    needed]

theorem decode_close (code : UInt16) (reason : String) (rest : List UInt8) :
    decode ((close code reason).bytes ++ rest) =
      .ok ((close code reason).canon, (close code reason).bytes.length) := by
  rw [length_bytes]
  obtain ⟨htype, h0⟩ := at_type (close code reason) rest
  generalize (close code reason).bytes ++ rest = buf at htype h0 ⊢
  simp only [body, List.append_assoc, List.cons_append, List.nil_append] at h0
  obtain ⟨r1, h1⟩ := h0.readU16
  obtain ⟨r2, h2⟩ := h1.readU8
  obtain ⟨r3, -⟩ := h2.readBytes
  have hle := reasonLen_le reason
  have hn : (UInt8.ofNat (reasonLen reason)).toNat = reasonLen reason := by
    rw [UInt8.toNat_ofNat', Nat.mod_eq_of_lt (by omega)]
  rw [List.length_take, Nat.min_eq_left (reasonLen_le_length reason)] at r3
  simp only [decode, htype, frameType, r1, r2, hn, r3, fromUtf8_cut, bind, Except.bind, pure,
    Except.pure, canon, needed]

/-- **Every self-delimiting frame comes back**, whatever follows it in the datagram.  An ACK frame
comes back with the unused slots of its array cleared, and a `Close` frame with what the cut left of
its reason; every other frame comes back as it was. -/
theorem decode_bytes {f : Frame} (hself : f.selfDelimiting) (hsize : f.oversize = false)
    (rest : List UInt8) : decode (f.bytes ++ rest) = .ok (f.canon, f.bytes.length) := by
  cases f with
  | ack => exact decode_ack ..
  | data => exact decode_data _ _ _ _ _ _ _ (by simpa [oversize] using hsize)
  | reliableData => exact decode_reliableData _ _ _ _ _ _ _ (by simpa [oversize] using hsize)
  | retx => exact decode_retx _ _ _ _ _ (by simpa [oversize] using hsize)
  | close => exact decode_close ..
  | mtuProbe => cases hself
  | padding => cases hself
  | ping nonce =>
    rw [length_bytes]
    obtain ⟨htype, h0⟩ := at_type (ping nonce) rest
    generalize (ping nonce).bytes ++ rest = buf at htype h0 ⊢
    obtain ⟨r1, -⟩ := h0.readU64
    simp only [decode, htype, frameType, r1, bind, Except.bind, pure, Except.pure, canon, needed]
  | pathChallenge token =>
    rw [length_bytes]
    obtain ⟨htype, h0⟩ := at_type (pathChallenge token) rest
    generalize (pathChallenge token).bytes ++ rest = buf at htype h0 ⊢
    obtain ⟨r1, -⟩ := h0.readArray
    simp only [decode, htype, frameType, r1, bind, Except.bind, pure, Except.pure, canon, needed]
  | pathResponse token =>
    rw [length_bytes]
    obtain ⟨htype, h0⟩ := at_type (pathResponse token) rest
    generalize (pathResponse token).bytes ++ rest = buf at htype h0 ⊢
    obtain ⟨r1, -⟩ := h0.readArray
    simp only [decode, htype, frameType, r1, bind, Except.bind, pure, Except.pure, canon, needed]
  | ackFrequency freq delay thresh =>
    rw [length_bytes]
    obtain ⟨htype, h0⟩ := at_type (ackFrequency freq delay thresh) rest
    generalize (ackFrequency freq delay thresh).bytes ++ rest = buf at htype h0 ⊢
    simp only [body, List.append_assoc, List.cons_append, List.nil_append] at h0
    obtain ⟨r1, h1⟩ := h0.readU8
    obtain ⟨r2, h2⟩ := h1.readU16
    obtain ⟨r3, -⟩ := h2.readU8
    simp only [decode, htype, frameType, r1, r2, r3, bind, Except.bind, pure, Except.pure, canon,
      needed]
  | clientHello pk nonce version =>
    rw [length_bytes]
    obtain ⟨htype, h0⟩ := at_type (clientHello pk nonce version) rest
    generalize (clientHello pk nonce version).bytes ++ rest = buf at htype h0 ⊢
    simp only [body, List.append_assoc] at h0
    obtain ⟨r1, h1⟩ := h0.readArray
    obtain ⟨r2, h2⟩ := h1.readArray
    obtain ⟨r3, -⟩ := h2.readU32
    simp only [decode, htype, frameType, r1, r2, r3, bind, Except.bind, pure, Except.pure, canon,
      needed]
  | serverHello pk nonce cookie cid staticPk =>
    rw [length_bytes]
    obtain ⟨htype, h0⟩ := at_type (serverHello pk nonce cookie cid staticPk) rest
    generalize (serverHello pk nonce cookie cid staticPk).bytes ++ rest = buf at htype h0 ⊢
    simp only [body, List.append_assoc] at h0
    obtain ⟨r1, h1⟩ := h0.readArray
    obtain ⟨r2, h2⟩ := h1.readArray
    obtain ⟨r3, h3⟩ := h2.readArray
    obtain ⟨r4, h4⟩ := h3.readU64
    obtain ⟨r5, -⟩ := h4.readArray
    simp only [decode, htype, frameType, r1, r2, r3, r4, r5, bind, Except.bind, pure, Except.pure,
      canon, needed]
  | handshakeFinish echo proof =>
    rw [length_bytes]
    obtain ⟨htype, h0⟩ := at_type (handshakeFinish echo proof) rest
    generalize (handshakeFinish echo proof).bytes ++ rest = buf at htype h0 ⊢
    simp only [body, List.append_assoc] at h0
    obtain ⟨r1, h1⟩ := h0.readArray
    obtain ⟨r2, -⟩ := h1.readArray
    simp only [decode, htype, frameType, r1, r2, bind, Except.bind, pure, Except.pure, canon, needed]
  | serverFinish proof =>
    rw [length_bytes]
    obtain ⟨htype, h0⟩ := at_type (serverFinish proof) rest
    generalize (serverFinish proof).bytes ++ rest = buf at htype h0 ⊢
    obtain ⟨r1, -⟩ := h0.readArray
    simp only [decode, htype, frameType, r1, bind, Except.bind, pure, Except.pure, canon, needed]
  | keyUpdate phase proof =>
    rw [length_bytes]
    obtain ⟨htype, h0⟩ := at_type (keyUpdate phase proof) rest
    generalize (keyUpdate phase proof).bytes ++ rest = buf at htype h0 ⊢
    simp only [body, List.append_assoc] at h0
    obtain ⟨r1, h1⟩ := h0.readU64
    obtain ⟨r2, -⟩ := h1.readArray
    simp only [decode, htype, frameType, r1, r2, bind, Except.bind, pure, Except.pure, canon, needed]

/-- **The probe swallows what follows it**: its decoder takes the rest of the buffer as padding. -/
theorem decode_mtuProbe (id : UInt32) (padding : Nat) (rest : List UInt8) :
    decode ((mtuProbe id padding).bytes ++ rest) =
      .ok (mtuProbe id (padding + rest.length), (mtuProbe id padding).bytes.length + rest.length) := by
  have hlen : ((mtuProbe id padding).bytes ++ rest).length = 1 + 4 + padding + rest.length := by
    rw [List.length_append, length_bytes]
    rfl
  rw [length_bytes]
  obtain ⟨htype, h0⟩ := at_type (mtuProbe id padding) rest
  generalize (mtuProbe id padding).bytes ++ rest = buf at htype h0 hlen ⊢
  simp only [body, List.append_assoc] at h0
  obtain ⟨r1, -⟩ := h0.readU32
  have hrest : 1 + 4 + padding + rest.length - (1 + 4) = padding + rest.length := by omega
  simp only [decode, htype, frameType, r1, bind, Except.bind, pure, Except.pure, needed, hlen, hrest]

/-! ## 4. A whole payload -/

/-- The payload of a datagram that carries `fs`. -/
def payloadOf (fs : List Frame) : List UInt8 := fs.flatMap bytes

@[simp] theorem payloadOf_nil : payloadOf [] = [] := rfl

@[simp] theorem payloadOf_cons (f : Frame) (fs : List Frame) :
    payloadOf (f :: fs) = f.bytes ++ payloadOf fs := rfl

theorem payloadOf_append (fs gs : List Frame) :
    payloadOf (fs ++ gs) = payloadOf fs ++ payloadOf gs := List.flatMap_append ..

theorem bytes_pos (f : Frame) : 0 < f.bytes.length := Nat.succ_pos _

/-- The frames the peer's iterator yields: a probe ends the list and counts the rest as its own
padding. -/
def received : List Frame → List Frame
  | [] => []
  | mtuProbe id pad :: rest => [mtuProbe id (pad + (payloadOf rest).length)]
  | f :: rest => f.canon :: received rest

/-- Frames the send path can write: no padding frame, no payload beyond 16 bits. -/
def Sendable : Frame → Prop
  | padding .. => False
  | f => f.oversize = false

theorem next_of_decode {buf rest : List UInt8} {offset n : Nat} {f g : Frame}
    (h : At buf offset (f.bytes ++ rest)) (hd : decode (f.bytes ++ rest) = .ok (g, n)) (hn : 0 < n) :
    FrameIterator.next buf offset = some (.ok g, offset + n) := by
  obtain ⟨pre, rfl, rfl⟩ := h
  have hpos := bytes_pos f
  rw [FrameIterator.next, if_neg (by rw [List.length_append, List.length_append]; omega)]
  simp only [List.drop_left, hd, if_neg (Nat.pos_iff_ne_zero.mp hn)]

theorem collectFrom_end {buf : List UInt8} {offset : Nat} (h : buf.length ≤ offset) (fuel : Nat) :
    FrameIterator.collectFrom buf fuel offset = [] := by
  cases fuel with
  | zero => rfl
  | succ fuel => simp [FrameIterator.collectFrom, FrameIterator.next, h]

/-- **What a payload reads as.**  The iterator yields `received fs`, and never an error. -/
theorem collectFrom_payloadOf {buf : List UInt8} {fs : List Frame} {fuel offset : Nat}
    (hfs : ∀ f ∈ fs, Sendable f) (hat : At buf offset (payloadOf fs))
    (hfuel : (payloadOf fs).length ≤ fuel) :
    FrameIterator.collectFrom buf fuel offset = (received fs).map .ok := by
  induction fs generalizing fuel offset with
  | nil =>
    have hlen := hat.length_le
    exact collectFrom_end (by simpa using hlen.symm.le) fuel
  | cons f fs ih =>
    have hpos := bytes_pos f
    rw [payloadOf_cons, List.length_append] at hfuel
    rw [payloadOf_cons] at hat
    obtain ⟨fuel, rfl⟩ : ∃ k, fuel = k + 1 := ⟨fuel - 1, by omega⟩
    have hf := hfs f List.mem_cons_self
    rw [FrameIterator.collectFrom]
    by_cases hself : f.selfDelimiting
    · -- the frame comes back and the iterator stands in front of the next one
      have hsize : f.oversize = false := by
        cases f <;> first | exact hf | cases hself
      rw [next_of_decode hat (decode_bytes hself hsize _) hpos]
      have hnext : At buf (offset + f.bytes.length) (payloadOf fs) := by
        obtain ⟨pre, rfl, rfl⟩ := hat
        exact ⟨pre ++ f.bytes, by simp, by simp⟩
      have hrec : received (f :: fs) = f.canon :: received fs := by
        cases f <;> first | rfl | cases hself
      rw [hrec, List.map_cons]
      simp only
      rw [ih (fun g hg => hfs g (List.mem_cons_of_mem _ hg)) hnext (by omega)]
    · cases f with
      | mtuProbe id pad =>
        rw [next_of_decode hat (decode_mtuProbe id pad _) (by omega)]
        have hend : buf.length ≤ offset + ((mtuProbe id pad).bytes.length +
            (payloadOf fs).length) := by
          have hlen := hat.length_le
          rw [List.length_append] at hlen
          omega
        simp only [collectFrom_end hend, received, List.map_cons, List.map_nil]
      | padding => exact hf.elim
      | _ => exact absurd rfl hself

theorem collect_payloadOf {fs : List Frame} (hfs : ∀ f ∈ fs, Sendable f) :
    FrameIterator.collect (payloadOf fs) = (received fs).map .ok :=
  collectFrom_payloadOf hfs ⟨[], rfl, rfl⟩ (Nat.le_refl _)

/-- No frame stands behind a probe. -/
def ProbeLast : List Frame → Prop
  | [] => True
  | mtuProbe .. :: rest => rest = []
  | _ :: rest => ProbeLast rest

/-- **Transparency.**  The peer reads exactly the frames sent, in canonical form, if and only if no
frame stands behind a probe.  The frames are any that the send path can write; that they also fit a
datagram together is not asked, since the payload is given as a list of bytes. -/
theorem received_eq_map_canon_iff (fs : List Frame) :
    received fs = fs.map canon ↔ ProbeLast fs := by
  induction fs with
  | nil => simp [received, ProbeLast]
  | cons f fs ih =>
    by_cases hself : ∃ id pad, f = mtuProbe id pad
    · obtain ⟨id, pad, rfl⟩ := hself
      cases fs with
      | nil => simp [received, ProbeLast, canon]
      | cons g gs => simp [received, ProbeLast]
    · have hrec : received (f :: fs) = f.canon :: received fs := by
        cases f <;> first | rfl | exact absurd ⟨_, _, rfl⟩ hself
      have hlast : ProbeLast (f :: fs) ↔ ProbeLast fs := by
        cases f <;> first | exact Iff.rfl | exact absurd ⟨_, _, rfl⟩ hself
      rw [hrec, hlast, List.map_cons, List.cons.injEq, ← ih]
      simp

end Frame

end Gtp
