/-
# Both directions of the frame codec

`RoundTrip` follows the encoder: what was written reads back.  Here the decoder is followed, over
arbitrary bytes: `decode_inv` says of every accepted byte string that it begins with the encoding of
the frame returned, that the frame is in canonical form, and how far the reader went -- or that the
frame is one of the two that take the rest of the buffer.

* `Took buf offset offset' bs` says over which bytes a reader went.  Every `read_*` helper has one
  lemma, and every arm of the decoder that is more than a few fields has one of its own
  (`decoded_ack`, `decoded_data`, ...).
* `Canonical f g` says field by field what the canonical form of a frame is, and `decode_encode`
  that it is what comes back: encoding and decoding is canonicalising.
* `encode_decode` is the other direction: decoding and encoding gives the same bytes back, whatever
  follows them, so the format is canonical and self-delimiting.

A probe and a padding frame are left out of the second direction, since they stand for the length of
whatever follows them.  An ACK frame whose count is past its array cannot come from the decoder, and
the encoder clamps it (`decode_encode_clamped`).
-/
import Gtp.Wire.Builder

namespace Gtp

open BigEndian

namespace Frame

/-! ## 1. Where a reader went -/

/-- A reader went from `offset` to `offset'` over the bytes `bs`. -/
structure Took (buf : List UInt8) (offset offset' : Nat) (bs : List UInt8) : Prop where
  next : offset' = offset + bs.length
  bytes : buf.drop offset = bs ++ buf.drop offset'

theorem Took.append {buf a b : List UInt8} {o o1 o2 : Nat} (h : Took buf o o1 a)
    (h' : Took buf o1 o2 b) : Took buf o o2 (a ++ b) := by
  constructor
  · rw [h'.next, h.next, List.length_append, Nat.add_assoc]
  · rw [h.bytes, h'.bytes, List.append_assoc]

/-- A reader that started inside the buffer stays inside it. -/
theorem Took.le_length {buf bs : List UInt8} {o o' : Nat} (h : Took buf o o' bs)
    (ho : o ≤ buf.length) : o' ≤ buf.length := by
  have hlen := congrArg List.length h.bytes
  have hnext := h.next
  rw [List.length_append, List.length_drop, List.length_drop] at hlen
  omega

/-- From the start of the buffer the bytes read are its first bytes. -/
theorem Took.take_eq {buf bs : List UInt8} {n : Nat} (h : Took buf 0 n bs) : buf.take n = bs := by
  have hbytes := h.bytes
  rw [List.drop_zero] at hbytes
  rw [hbytes, h.next, Nat.zero_add]
  exact List.take_left

theorem bind_ok {α β : Type} {x : Result α} {f : α → Result β} {b : β} (h : x >>= f = .ok b) :
    ∃ a, x = .ok a ∧ f a = .ok b := by
  cases x with
  | error e => cases h
  | ok a => exact ⟨a, rfl, h⟩

theorem readBytes_took {buf bs : List UInt8} {o o' len : Nat}
    (h : readBytes buf o len = .ok (bs, o')) : Took buf o o' bs ∧ bs.length = len := by
  unfold readBytes at h
  split at h
  · cases h
  · rename_i hlen
    obtain ⟨rfl, rfl⟩ := Prod.mk.inj (Except.ok.inj h)
    have hbs : ((buf.drop o).take len).length = len := by
      rw [List.length_take, List.length_drop]
      omega
    refine ⟨⟨by rw [hbs], ?_⟩, hbs⟩
    rw [← List.drop_drop, List.take_append_drop]

/-- A byte string of the right length is the big-endian form of the number it denotes. -/
theorem toBe_of_length {bs : List UInt8} {k : Nat} (hlen : bs.length = k) :
    toBe k (ofBe bs) = bs := by
  rw [← hlen, toBe_ofBe]

theorem ofBe_lt_of_length {bs : List UInt8} {k : Nat} (hlen : bs.length = k) :
    ofBe bs < 256 ^ k := by
  rw [← hlen]
  exact ofBe_lt bs

theorem readU8_took {buf : List UInt8} {o o' : Nat} {v : UInt8} (h : readU8 buf o = .ok (v, o')) :
    Took buf o o' [v] := by
  obtain ⟨⟨bs, o1⟩, hr, h⟩ := bind_ok h
  obtain ⟨htook, hlen⟩ := readBytes_took hr
  obtain ⟨rfl, rfl⟩ := Prod.mk.inj (Except.ok.inj h)
  obtain ⟨b, rfl⟩ := List.length_eq_one_iff.mp hlen
  simpa [ofBe] using htook

theorem readU16_took {buf : List UInt8} {o o' : Nat} {v : UInt16}
    (h : readU16 buf o = .ok (v, o')) : Took buf o o' (toBe 2 v.toNat) := by
  obtain ⟨⟨bs, o1⟩, hr, h⟩ := bind_ok h
  obtain ⟨htook, hlen⟩ := readBytes_took hr
  obtain ⟨rfl, rfl⟩ := Prod.mk.inj (Except.ok.inj h)
  have hlt : ofBe bs < 2 ^ 16 := ofBe_lt_of_length hlen
  rwa [UInt16.toNat_ofNat', Nat.mod_eq_of_lt hlt, toBe_of_length hlen]

theorem readU32_took {buf : List UInt8} {o o' : Nat} {v : UInt32}
    (h : readU32 buf o = .ok (v, o')) : Took buf o o' (toBe 4 v.toNat) := by
  obtain ⟨⟨bs, o1⟩, hr, h⟩ := bind_ok h
  obtain ⟨htook, hlen⟩ := readBytes_took hr
  obtain ⟨rfl, rfl⟩ := Prod.mk.inj (Except.ok.inj h)
  have hlt : ofBe bs < 2 ^ 32 := ofBe_lt_of_length hlen
  rwa [UInt32.toNat_ofNat', Nat.mod_eq_of_lt hlt, toBe_of_length hlen]

theorem readU64_took {buf : List UInt8} {o o' : Nat} {v : UInt64}
    (h : readU64 buf o = .ok (v, o')) : Took buf o o' (toBe 8 v.toNat) := by
  obtain ⟨⟨bs, o1⟩, hr, h⟩ := bind_ok h
  obtain ⟨htook, hlen⟩ := readBytes_took hr
  obtain ⟨rfl, rfl⟩ := Prod.mk.inj (Except.ok.inj h)
  have hlt : ofBe bs < 2 ^ 64 := ofBe_lt_of_length hlen
  rwa [UInt64.toNat_ofNat', Nat.mod_eq_of_lt hlt, toBe_of_length hlen]

theorem readArray_took {buf : List UInt8} {n o o' : Nat} {v : Bytes n}
    (h : readArray n buf o = .ok (v, o')) : Took buf o o' v.toList := by
  unfold readArray at h
  split at h
  · cases h
  · rename_i hlen
    obtain ⟨rfl, rfl⟩ := Prod.mk.inj (Except.ok.inj h)
    refine ⟨congrArg (o + ·) (List.Vector.toList_length _).symm, ?_⟩
    rw [List.Vector.toList_mk, ← List.drop_drop, List.take_append_drop]

theorem readRanges_took {buf : List UInt8} {count o o' : Nat} {rs : List AckRange}
    (h : readRanges buf count o = .ok (rs, o')) :
    Took buf o o' (rs.flatMap rangeBytes) ∧ rs.length = count := by
  induction count generalizing o rs with
  | zero =>
    obtain ⟨rfl, rfl⟩ := Prod.mk.inj (Except.ok.inj h)
    exact ⟨⟨rfl, rfl⟩, rfl⟩
  | succ count ih =>
    obtain ⟨⟨gap, o1⟩, r1, h⟩ := bind_ok h
    obtain ⟨⟨length, o2⟩, r2, h⟩ := bind_ok h
    obtain ⟨⟨rest, o3⟩, r3, h⟩ := bind_ok h
    obtain ⟨rfl, rfl⟩ := Prod.mk.inj (Except.ok.inj h)
    obtain ⟨t3, hrest⟩ := ih r3
    refine ⟨?_, by rw [List.length_cons, hrest]⟩
    have htook := ((readU32_took r1).append (readU32_took r2)).append t3
    simpa [rangeBytes] using htook

theorem readPayload_took {buf payload : List UInt8} {o o1 o2 : Nat} {len : UInt16}
    (h1 : readU16 buf o = .ok (len, o1)) (h2 : readBytes buf o1 len.toNat = .ok (payload, o2)) :
    Took buf o o2 (toBe 2 payload.length ++ payload) ∧ payload.length ≤ 65535 := by
  obtain ⟨htook, hlen⟩ := readBytes_took h2
  have hlt : len.toNat < 2 ^ 16 := len.toNat_lt
  refine ⟨?_, by omega⟩
  rw [hlen]
  exact (readU16_took h1).append htook

/-! ## 2. What an accepted byte string is -/

/-- The bytes of an accepted frame that announces its own length: it is in canonical form, and the
reader went over exactly its encoding. -/
structure Spelled (buf : List UInt8) (f : Frame) (n : Nat) : Prop where
  took : Took buf 0 n f.bytes
  canonical : f.canon = f
  size : f.oversize = false

/-- The three outcomes of a successful decode. -/
inductive Decoded (buf : List UInt8) (f : Frame) (n : Nat) : Prop
  | spelled (hself : f.selfDelimiting) (h : Spelled buf f n)
  | probe (id : UInt32) (hf : f = mtuProbe id (buf.length - 5)) (hn : n = buf.length)
      (h : Took buf 0 5 ([0x08] ++ toBe 4 id.toNat))
  | pad (hf : f = padding (buf.length - 1)) (hn : n = buf.length) (h : Took buf 0 1 [0x00])

theorem toU48_fromU48 {n : Nat} (h : n < 256 ^ 6) : (StateKey.fromU48 n).toU48 = n := by
  have h1 : n / 2 ^ 16 < 2 ^ 32 := by omega
  have h2 : n % 2 ^ 16 < 2 ^ 16 := by omega
  simp only [StateKey.toU48, StateKey.fromU48, UInt32.toNat_ofNat', UInt16.toNat_ofNat']
  omega

/-- The array of a decoded ACK frame holds the ranges read. -/
theorem take_ofList {rs : List AckRange} (h : rs.length ≤ 32) :
    (AckRanges.ofList rs).toList.take rs.length = rs := by
  rw [AckRanges.ofList, List.Vector.toList_mk, List.take_take, Nat.min_eq_left h]
  exact List.take_left

/-- What `from_utf8` returns has the bytes it was given. -/
theorem strBytes_of_fromUtf8 {bs : List UInt8} {s : String} (h : fromUtf8 bs = some s) :
    strBytes s = bs := by
  unfold fromUtf8 String.fromUTF8? at h
  split at h
  · rw [← Option.some.inj h]
    rfl
  · cases h

theorem strBytes_injective {s t : String} (h : strBytes s = strBytes t) : s = t := by
  apply String.toByteArray_inj.mp
  apply ByteArray.ext
  exact Array.toList_inj.mp h

/-- A reason that fits its length byte is not cut. -/
theorem reasonLen_of_le {reason : String} (h : (strBytes reason).length ≤ 255) :
    reasonLen reason = (strBytes reason).length := by
  rw [reasonLen, Nat.min_eq_left h]
  cases hlen : (strBytes reason).length with
  | zero => rfl
  | succ k =>
    have hnone : (strBytes reason)[k + 1]? = none := List.getElem?_eq_none hlen.le
    rw [trimToBoundary, hnone]

theorem cutReason_of_le {reason : String} (h : (strBytes reason).length ≤ 255) :
    cutReason reason = reason := by
  have hcut := fromUtf8_cut reason
  rw [reasonLen_of_le h, List.take_length] at hcut
  exact strBytes_injective (strBytes_of_fromUtf8 hcut)

section

variable {buf : List UInt8} {o n : Nat} {f : Frame}

theorem Took.decoded {t : UInt8} {bs : List UInt8} (head : Took buf 0 o [t])
    (htook : Took buf o n bs) (hself : f.selfDelimiting) (htype : t = f.frameType)
    (hbody : bs = f.body) (hcanon : f.canon = f) (hsize : f.oversize = false) :
    Decoded buf f n := by
  refine .spelled hself ⟨?_, hcanon, hsize⟩
  rw [Frame.bytes, ← htype, ← hbody]
  exact head.append htook

/-- The array of ranges has as many of them as the count byte says, and the rest is not written. -/
theorem decoded_ack (head : Took buf 0 o [0x01])
    (h : (do
      let (largest, offset) ← readU64 buf o
      let (ackDelay, offset) ← readU32 buf offset
      let (rangeCount, offset) ← readU8 buf offset
      if maxAckRanges < rangeCount.toNat then
        throw (.resourceLimitExceeded "Too many ACK ranges")
      let (ranges, offset) ← readRanges buf rangeCount.toNat offset
      let (ect0, offset) ← readU32 buf offset
      let (ect1, offset) ← readU32 buf offset
      let (ce, offset) ← readU32 buf offset
      return (ack largest ackDelay (.ofList ranges) rangeCount ect0 ect1 ce, offset)) =
        Except.ok (f, n)) : Decoded buf f n := by
  obtain ⟨⟨largest, o1⟩, r1, h⟩ := bind_ok h
  obtain ⟨⟨delay, o2⟩, r2, h⟩ := bind_ok h
  obtain ⟨⟨count, o3⟩, r3, h⟩ := bind_ok h
  dsimp only at r2 r3 h
  split at h
  · cases h
  rename_i hcount
  obtain ⟨⟨rs, o4⟩, r4, h⟩ := bind_ok h
  obtain ⟨⟨e0, o5⟩, r5, h⟩ := bind_ok h
  obtain ⟨⟨e1, o6⟩, r6, h⟩ := bind_ok h
  obtain ⟨⟨ce, o7⟩, r7, h⟩ := bind_ok h
  obtain ⟨rfl, rfl⟩ := Prod.mk.inj (Except.ok.inj h)
  obtain ⟨t4, hlen⟩ := readRanges_took r4
  have hack : ackCount count = rs.length := by
    rw [hlen]
    exact Nat.min_eq_left (Nat.not_lt.mp hcount)
  have hle : rs.length ≤ 32 := by
    rw [hlen]
    exact Nat.not_lt.mp hcount
  refine head.decoded ((((((readU64_took r1).append (readU32_took r2)).append
    (readU8_took r3)).append t4).append (readU32_took r5)).append
    (readU32_took r6) |>.append (readU32_took r7)) rfl rfl ?_ ?_ rfl
  · rw [body, hack, take_ofList hle, hlen, UInt8.ofNat_toNat]
  · rw [canon, hack, take_ofList hle, hlen, UInt8.ofNat_toNat]

/-- The key takes six bytes, so it is below `2 ^ 48`. -/
theorem decoded_data (head : Took buf 0 o [0x02])
    (h : (do
      let (msgId, offset) ← readU64 buf o
      let (keySlice, offset) ← readBytes buf offset 6
      let (seq, offset) ← readU32 buf offset
      let (gen, offset) ← readU32 buf offset
      let (deadline, offset) ← readU16 buf offset
      let (payloadLen, offset) ← readU16 buf offset
      let (payload, offset) ← readBytes buf offset payloadLen.toNat
      return (data msgId (.fromU48 (ofBe keySlice)) seq gen deadline payload, offset)) =
        Except.ok (f, n)) : Decoded buf f n := by
  obtain ⟨⟨msgId, o1⟩, r1, h⟩ := bind_ok h
  obtain ⟨⟨key, o2⟩, r2, h⟩ := bind_ok h
  obtain ⟨⟨seq, o3⟩, r3, h⟩ := bind_ok h
  obtain ⟨⟨gen, o4⟩, r4, h⟩ := bind_ok h
  obtain ⟨⟨deadline, o5⟩, r5, h⟩ := bind_ok h
  obtain ⟨⟨len, o6⟩, r6, h⟩ := bind_ok h
  obtain ⟨⟨payload, o7⟩, r7, h⟩ := bind_ok h
  obtain ⟨rfl, rfl⟩ := Prod.mk.inj (Except.ok.inj h)
  obtain ⟨t2, hkey⟩ := readBytes_took r2
  obtain ⟨t7, hlen⟩ := readPayload_took r6 r7
  refine head.decoded (((((readU64_took r1).append t2).append (readU32_took r3)).append
    (readU32_took r4)).append (readU16_took r5) |>.append t7) rfl rfl ?_ rfl ?_
  · rw [body, toU48_fromU48 (ofBe_lt_of_length hkey), toBe_of_length hkey]
    simp only [List.append_assoc]
  · simp [oversize, hlen]

theorem decoded_reliableData (head : Took buf 0 o [0x03])
    (h : (do
      let (msgId, offset) ← readU64 buf o
      let (fragId, offset) ← readU16 buf offset
      let (totalFrags, offset) ← readU16 buf offset
      let (groupId, offset) ← readU16 buf offset
      let (orderSeq, offset) ← readU32 buf offset
      let (payloadLen, offset) ← readU16 buf offset
      let (payload, offset) ← readBytes buf offset payloadLen.toNat
      return (reliableData msgId fragId totalFrags groupId orderSeq payload, offset)) =
        Except.ok (f, n)) : Decoded buf f n := by
  obtain ⟨⟨msgId, o1⟩, r1, h⟩ := bind_ok h
  obtain ⟨⟨fragId, o2⟩, r2, h⟩ := bind_ok h
  obtain ⟨⟨total, o3⟩, r3, h⟩ := bind_ok h
  obtain ⟨⟨group, o4⟩, r4, h⟩ := bind_ok h
  obtain ⟨⟨orderSeq, o5⟩, r5, h⟩ := bind_ok h
  obtain ⟨⟨len, o6⟩, r6, h⟩ := bind_ok h
  obtain ⟨⟨payload, o7⟩, r7, h⟩ := bind_ok h
  obtain ⟨rfl, rfl⟩ := Prod.mk.inj (Except.ok.inj h)
  obtain ⟨t7, hlen⟩ := readPayload_took r6 r7
  refine head.decoded (((((readU64_took r1).append (readU16_took r2)).append
    (readU16_took r3)).append (readU16_took r4)).append (readU32_took r5) |>.append t7)
    rfl rfl ?_ rfl ?_
  · simp only [body, List.append_assoc]
  · simp [oversize, hlen]

theorem decoded_retx (head : Took buf 0 o [0x04])
    (h : (do
      let (msgId, offset) ← readU64 buf o
      let (fragId, offset) ← readU16 buf offset
      let (transmissionId, offset) ← readU8 buf offset
      let (payloadLen, offset) ← readU16 buf offset
      let (payload, offset) ← readBytes buf offset payloadLen.toNat
      return (retx msgId fragId transmissionId payload, offset)) = Except.ok (f, n)) :
    Decoded buf f n := by
  obtain ⟨⟨msgId, o1⟩, r1, h⟩ := bind_ok h
  obtain ⟨⟨fragId, o2⟩, r2, h⟩ := bind_ok h
  obtain ⟨⟨transmission, o3⟩, r3, h⟩ := bind_ok h
  obtain ⟨⟨len, o4⟩, r4, h⟩ := bind_ok h
  obtain ⟨⟨payload, o5⟩, r5, h⟩ := bind_ok h
  obtain ⟨rfl, rfl⟩ := Prod.mk.inj (Except.ok.inj h)
  obtain ⟨t5, hlen⟩ := readPayload_took r4 r5
  refine head.decoded ((((readU64_took r1).append (readU16_took r2)).append
    (readU8_took r3)).append t5) rfl rfl ?_ rfl ?_
  · simp only [body, List.append_assoc]
  · simp [oversize, hlen]

/-- A reason that was read is UTF-8 of at most 255 bytes, and writing it cuts nothing off. -/
theorem decoded_close (head : Took buf 0 o [0x09])
    (h : (do
      let (errorCode, offset) ← readU16 buf o
      let (reasonLen, offset) ← readU8 buf offset
      let (reasonBytes, offset) ← readBytes buf offset reasonLen.toNat
      match fromUtf8 reasonBytes with
      | some reason => return (close errorCode reason, offset)
      | none => throw (.malformedFrame "Malformed UTF-8 close reason")) = Except.ok (f, n)) :
    Decoded buf f n := by
  obtain ⟨⟨code, o1⟩, r1, h⟩ := bind_ok h
  obtain ⟨⟨len, o2⟩, r2, h⟩ := bind_ok h
  obtain ⟨⟨reasonBytes, o3⟩, r3, h⟩ := bind_ok h
  dsimp only at r2 r3 h
  split at h
  · rename_i reason hreason
    obtain ⟨rfl, rfl⟩ := Prod.mk.inj (Except.ok.inj h)
    obtain ⟨t3, hlen⟩ := readBytes_took r3
    have hbytes := strBytes_of_fromUtf8 hreason
    have hle : (strBytes reason).length ≤ 255 := by
      rw [hbytes, hlen]
      exact Nat.le_of_lt_succ len.toNat_lt
    refine head.decoded (((readU16_took r1).append (readU8_took r2)).append t3) rfl rfl ?_ ?_ rfl
    · rw [body, reasonLen_of_le hle, List.take_length, hbytes, hlen, UInt8.ofNat_toNat]
    · rw [canon, cutReason_of_le hle]
  · cases h

theorem decoded_clientHello (head : Took buf 0 o [0x0B])
    (h : (do
      let (clientPublicKey, offset) ← readArray 32 buf o
      let (clientNonce, offset) ← readArray 32 buf offset
      let (version, offset) ← readU32 buf offset
      return (clientHello clientPublicKey clientNonce version, offset)) = Except.ok (f, n)) :
    Decoded buf f n := by
  obtain ⟨⟨pk, o1⟩, r1, h⟩ := bind_ok h
  obtain ⟨⟨nonce, o2⟩, r2, h⟩ := bind_ok h
  obtain ⟨⟨version, o3⟩, r3, h⟩ := bind_ok h
  obtain ⟨rfl, rfl⟩ := Prod.mk.inj (Except.ok.inj h)
  exact head.decoded (((readArray_took r1).append (readArray_took r2)).append (readU32_took r3))
    rfl rfl rfl rfl rfl

theorem decoded_serverHello (head : Took buf 0 o [0x0C])
    (h : (do
      let (serverPublicKey, offset) ← readArray 32 buf o
      let (serverNonce, offset) ← readArray 32 buf offset
      let (statelessCookie, offset) ← readArray 32 buf offset
      let (cid, offset) ← readU64 buf offset
      let (serverStaticPk, offset) ← readArray 32 buf offset
      return (serverHello serverPublicKey serverNonce statelessCookie cid serverStaticPk,
        offset)) = Except.ok (f, n)) : Decoded buf f n := by
  obtain ⟨⟨pk, o1⟩, r1, h⟩ := bind_ok h
  obtain ⟨⟨nonce, o2⟩, r2, h⟩ := bind_ok h
  obtain ⟨⟨cookie, o3⟩, r3, h⟩ := bind_ok h
  obtain ⟨⟨cid, o4⟩, r4, h⟩ := bind_ok h
  obtain ⟨⟨staticPk, o5⟩, r5, h⟩ := bind_ok h
  obtain ⟨rfl, rfl⟩ := Prod.mk.inj (Except.ok.inj h)
  exact head.decoded (((((readArray_took r1).append (readArray_took r2)).append
    (readArray_took r3)).append (readU64_took r4)).append (readArray_took r5))
    rfl rfl rfl rfl rfl

/-- **The decoder, inverted.**  The cases are those of the type byte; the frames that are no more
than a few fields of fixed length are dealt with here. -/
theorem decode_inv (h : decode buf = .ok (f, n)) : Decoded buf f n := by
  obtain ⟨⟨t, o⟩, rt, h⟩ := bind_ok h
  have tt := readU8_took rt
  dsimp only at h
  split at h
  · exact decoded_ack tt h
  · exact decoded_data tt h
  · exact decoded_reliableData tt h
  · exact decoded_retx tt h
  · -- Ping
    obtain ⟨⟨nonce, o1⟩, r1, h⟩ := bind_ok h
    obtain ⟨rfl, rfl⟩ := Prod.mk.inj (Except.ok.inj h)
    exact tt.decoded (readU64_took r1) rfl rfl rfl rfl rfl
  · -- PathChallenge
    obtain ⟨⟨token, o1⟩, r1, h⟩ := bind_ok h
    obtain ⟨rfl, rfl⟩ := Prod.mk.inj (Except.ok.inj h)
    exact tt.decoded (readArray_took r1) rfl rfl rfl rfl rfl
  · -- PathResponse
    obtain ⟨⟨token, o1⟩, r1, h⟩ := bind_ok h
    obtain ⟨rfl, rfl⟩ := Prod.mk.inj (Except.ok.inj h)
    exact tt.decoded (readArray_took r1) rfl rfl rfl rfl rfl
  · -- MtuProbe: whatever follows it is taken for its padding
    obtain ⟨⟨id, o1⟩, r1, h⟩ := bind_ok h
    obtain ⟨rfl, rfl⟩ := Prod.mk.inj (Except.ok.inj h)
    have htook := tt.append (readU32_took r1)
    have ho : o1 = 5 := by simpa using htook.next
    subst ho
    exact .probe id rfl rfl htook
  · exact decoded_close tt h
  · -- AckFrequency
    obtain ⟨⟨freq, o1⟩, r1, h⟩ := bind_ok h
    obtain ⟨⟨delay, o2⟩, r2, h⟩ := bind_ok h
    obtain ⟨⟨thresh, o3⟩, r3, h⟩ := bind_ok h
    obtain ⟨rfl, rfl⟩ := Prod.mk.inj (Except.ok.inj h)
    exact tt.decoded (((readU8_took r1).append (readU16_took r2)).append (readU8_took r3))
      rfl rfl rfl rfl rfl
  · exact decoded_clientHello tt h
  · exact decoded_serverHello tt h
  · -- HandshakeFinish
    obtain ⟨⟨echo, o1⟩, r1, h⟩ := bind_ok h
    obtain ⟨⟨proof, o2⟩, r2, h⟩ := bind_ok h
    obtain ⟨rfl, rfl⟩ := Prod.mk.inj (Except.ok.inj h)
    exact tt.decoded ((readArray_took r1).append (readArray_took r2)) rfl rfl rfl rfl rfl
  · -- ServerFinish
    obtain ⟨⟨proof, o1⟩, r1, h⟩ := bind_ok h
    obtain ⟨rfl, rfl⟩ := Prod.mk.inj (Except.ok.inj h)
    exact tt.decoded (readArray_took r1) rfl rfl rfl rfl rfl
  · -- KeyUpdate
    obtain ⟨⟨phase, o1⟩, r1, h⟩ := bind_ok h
    obtain ⟨⟨proof, o2⟩, r2, h⟩ := bind_ok h
    obtain ⟨rfl, rfl⟩ := Prod.mk.inj (Except.ok.inj h)
    exact tt.decoded ((readU64_took r1).append (readArray_took r2)) rfl rfl rfl rfl rfl
  · -- Padding
    obtain ⟨rfl, rfl⟩ := Prod.mk.inj (Except.ok.inj h)
    have ho : o = 1 := tt.next
    subst ho
    exact .pad rfl rfl tt
  · cases h

end

/-! ## 3. Encoding, then decoding -/

/-- `cut` is the longest part of `reason`, from its start and in whole characters, that has at most
255 bytes. -/
def IsCut (reason cut : String) : Prop :=
  (∃ k, cut = String.ofList (reason.toList.take k)) ∧ (strBytes cut).length ≤ 255 ∧
    ∀ k, (strBytes (String.ofList (reason.toList.take k))).length ≤ 255 →
      (strBytes (String.ofList (reason.toList.take k))).length ≤ (strBytes cut).length

/-- The loop does not step back past a boundary. -/
theorem le_trimToBoundary {bytes : List UInt8} {b n : Nat}
    (hb : ∀ x, bytes[b]? = some x → ¬ Utf8.IsContinuation x) (h : b ≤ n) :
    b ≤ trimToBoundary bytes n := by
  induction n with
  | zero => exact h
  | succ n ih =>
    rw [trimToBoundary]
    split
    · rename_i x hx
      split
      · rename_i hcont
        have hne : b ≠ n + 1 := by
          rintro rfl
          exact hb x hx hcont
        exact ih (by omega)
      · exact h
    · exact h

/-- **The cut is the longest possible.** -/
theorem cutReason_isCut (reason : String) : IsCut reason (cutReason reason) := by
  have hlen : (strBytes (cutReason reason)).length = reasonLen reason := by
    rw [strBytes_of_fromUtf8 (fromUtf8_cut reason), List.length_take,
      Nat.min_eq_left (reasonLen_le_length reason)]
  refine ⟨?_, ?_, ?_⟩
  · obtain ⟨k, hk⟩ := exists_cut reason
    refine ⟨k, strBytes_injective ?_⟩
    rw [strBytes_of_fromUtf8 (fromUtf8_cut reason), hk]
  · rw [hlen]
    exact reasonLen_le reason
  · intro k hk
    rw [hlen]
    apply le_trimToBoundary
    · intro x hx
      obtain ⟨cs, rfl⟩ := String.exists_eq_ofList reason
      rw [String.toList_ofList, strBytes_ofList, strBytes_ofList] at hx
      exact Utf8.not_isContinuation_after cs k hx
    · refine le_min ?_ hk
      obtain ⟨cs, rfl⟩ := String.exists_eq_ofList reason
      rw [String.toList_ofList, strBytes_ofList, strBytes_ofList]
      exact Utf8.length_encode_take_le cs k

/-- The canonical form of a frame, field by field. -/
inductive Canonical : Frame → Frame → Prop
  | ack {largest : PacketNumber} {delay e0 e1 ce : UInt32} {ranges ranges' : AckRanges}
      {count count' : UInt8} (hcount : count'.toNat = min count.toNat maxAckRanges)
      (hranges : ∀ i, ranges'.get i =
        if i.val < min count.toNat maxAckRanges then ranges.get i else AckRange.default) :
      Canonical (ack largest delay ranges count e0 e1 ce) (ack largest delay ranges' count' e0 e1 ce)
  | close {code : UInt16} {reason cut : String} (h : IsCut reason cut) :
      Canonical (close code reason) (close code cut)
  | same {f : Frame} (hack : f.frameType ≠ 0x01) (hclose : f.frameType ≠ 0x09) : Canonical f f

theorem getElem?_toList {n : Nat} (v : List.Vector AckRange n) (i : Fin n) :
    v.toList[i.val]? = some (v.get i) := by
  have hi : i.val < v.toList.length := by
    rw [v.toList_length]
    exact i.isLt
  rw [List.getElem?_eq_getElem hi, List.Vector.get_eq_get_toList, List.get_eq_getElem]
  rfl

/-- The slots of the array in front of the count are kept, the others are cleared. -/
theorem get_ofList_take (ranges : AckRanges) (count : Nat) (i : Fin 32) :
    (AckRanges.ofList (ranges.toList.take count)).get i =
      if i.val < count then ranges.get i else AckRange.default := by
  have hlen : ranges.toList.length = 32 := ranges.toList_length
  have hi := i.isLt
  have hget : (AckRanges.ofList (ranges.toList.take count)).toList[i.val]? =
      (ranges.toList.take count ++ List.replicate 32 AckRange.default)[i.val]? :=
    List.getElem?_take_of_lt hi
  apply Option.some.inj
  rw [← getElem?_toList, hget]
  split
  · rename_i hlt
    rw [List.getElem?_append_left (by rw [List.length_take, hlen]; omega),
      List.getElem?_take_of_lt hlt, getElem?_toList]
  · rename_i hge
    rw [List.getElem?_append_right (by rw [List.length_take]; omega), List.getElem?_replicate,
      if_pos (by rw [List.length_take]; omega)]

theorem canonical_canon (f : Frame) : Canonical f f.canon := by
  cases f with
  | ack largest delay ranges count e0 e1 ce =>
    exact .ack (toNat_ackCount count) (get_ofList_take ranges (ackCount count))
  | close code reason => exact .close (cutReason_isCut reason)
  | _ => exact .same (by simp [frameType]) (by simp [frameType])

theorem encode_inv {f : Frame} {buf buf' : List UInt8} {n : Nat} (h : f.encode buf = (.ok n, buf')) :
    f.oversize = false ∧ n = f.bytes.length ∧ buf' = f.bytes ++ buf.drop n := by
  by_cases hfit : f.needed ≤ buf.length ∧ f.oversize = false
  · rw [PacketBuilder.encode_ok hfit.1 hfit.2] at h
    obtain ⟨hn, rfl⟩ := Prod.mk.inj h
    obtain rfl := Except.ok.inj hn
    exact ⟨hfit.2, (length_bytes f).symm, rfl⟩
  · obtain ⟨e, rest, herr, -⟩ := PacketBuilder.encode_error hfit
    rw [herr] at h
    cases (Prod.mk.inj h).1

theorem decode_padding (len : Nat) :
    decode (padding len).bytes = .ok (padding len, (padding len).bytes.length) := by
  obtain ⟨htype, -⟩ := at_type (padding len) []
  rw [List.append_nil] at htype
  simp only [decode, htype, frameType, bind, Except.bind, pure, Except.pure, length_bytes, needed,
    Nat.add_sub_cancel_left]

/-- **Encoding and decoding is canonicalising.**  Whatever frame encodes into a buffer, decoding the
bytes gives its canonical form and consumes just them: field by field the same, apart from the slots
of an ACK frame's array behind its count and from what was cut off a reason.  A probe and a padding
frame come back with the length of what stands behind them. -/
theorem decode_encode {f : Frame} {buf buf' : List UInt8} {n : Nat}
    (h : f.encode buf = (.ok n, buf')) :
    ∃ g, decode (buf'.take n) = .ok (g, n) ∧ Canonical f g := by
  obtain ⟨hsize, rfl, rfl⟩ := encode_inv h
  rw [List.take_left]
  refine ⟨f.canon, ?_, canonical_canon f⟩
  by_cases hself : f.selfDelimiting
  · simpa using decode_bytes hself hsize []
  · cases f with
    | mtuProbe id pad => simpa [canon] using decode_mtuProbe id pad []
    | padding len => exact decode_padding len
    | _ => exact absurd rfl hself

/-- An ACK frame whose count is past its array is clamped on the wire. -/
theorem decode_encode_clamped : ∃ n buf' g,
    (ack 7 0 (.ofList [⟨1, 2⟩]) 200 0 0 0).encode (List.replicate 300 0) = (.ok n, buf') ∧
      decode (buf'.take n) = .ok (g, n) ∧
      Canonical (ack 7 0 (.ofList [⟨1, 2⟩]) 200 0 0 0) g := by
  have hroom : (ack 7 0 (.ofList [⟨1, 2⟩]) 200 0 0 0).needed ≤
      (List.replicate 300 (0 : UInt8)).length := by
    rw [List.length_replicate]
    decide
  have hencode := PacketBuilder.encode_ok hroom rfl
  obtain ⟨g, hdecode, hcanonical⟩ := decode_encode hencode
  exact ⟨_, _, g, hencode, hdecode, hcanonical⟩

/-! ## 4. Decoding, then encoding -/

/-- **The wire format is canonical and self-delimiting.**  Whatever bytes decode to a frame other
than padding and probe, the frame encodes to exactly the bytes read, into any buffer they fit, and
decodes from them alike with anything behind them. -/
theorem encode_decode {b : List UInt8} {f : Frame} {n : Nat} (h : decode b = .ok (f, n))
    (hpad : ∀ len, f ≠ padding len) (hprobe : ∀ id len, f ≠ mtuProbe id len) :
    (∀ buf : List UInt8, n ≤ buf.length → f.encode buf = (.ok n, b.take n ++ buf.drop n)) ∧
      ∀ c : List UInt8, decode (b.take n ++ c) = .ok (f, n) := by
  cases decode_inv h with
  | probe id hf => exact absurd hf (hprobe _ _)
  | pad hf => exact absurd hf (hpad _)
  | spelled hself hs =>
    have hn : n = f.needed := by
      rw [hs.took.next, Nat.zero_add, length_bytes]
    rw [hs.took.take_eq]
    constructor
    · intro buf hbuf
      rw [hn] at hbuf ⊢
      exact PacketBuilder.encode_ok hbuf hs.size
    · intro c
      rw [decode_bytes hself hs.size c, hs.canonical, length_bytes, hn]

theorem encode_decode_ping :
    decode [5, 0, 0, 0, 0, 0, 0, 1, 2, 9, 9] = .ok (ping 258, 9) ∧
      (ping 258).encode (List.replicate 9 0) = (.ok 9, [5, 0, 0, 0, 0, 0, 0, 1, 2]) ∧
      decode [5, 0, 0, 0, 0, 0, 0, 1, 2, 1, 7, 7] = .ok (ping 258, 9) := by
  have h : decode [5, 0, 0, 0, 0, 0, 0, 1, 2, 9, 9] = .ok (ping 258, 9) := by decide
  obtain ⟨hencode, hdecode⟩ := encode_decode h (by simp) (by simp)
  exact ⟨h, hencode (List.replicate 9 0) (by decide), hdecode [1, 7, 7]⟩

end Frame

end Gtp
