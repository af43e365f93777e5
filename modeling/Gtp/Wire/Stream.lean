/-
# The frame iterator on hostile bytes (`gtp-wire/src/codec.rs`)

A payload comes from the network: `FrameIterator` must end on every byte string, and the decoder
must not index outside of it.  Two things are proved.

* The decoder never panics.  `Checked` is the decoder with slice expressions as Rust has them -- one
  that leaves the buffer panics -- and it agrees with `Frame.decode` on every input (`decode_eq`).
  Each helper has a lemma of its own; the arms of the decoder follow from them.
* The iterator cuts the payload into consecutive pieces, each of which decodes to the frame it
  yielded, and stops at the first piece that does not decode (`Cut`, `collectFrom_cut`).  It gets
  ahead by at least one byte with every frame (`decode_consumed`), so it stops after as many calls
  as there are bytes.

`collect_arbitrary` puts these together.  The frames themselves may be anything: whether a range, a
fragment count or a phase makes sense is for the connection to say, not for the iterator.  Memory is
not modelled either: a payload of a frame is copied, and it is never longer than the datagram.
-/
import Gtp.Wire.Canonical

namespace Gtp

open BigEndian

/-! ## 1. The decoder with panicking slices -/

/-- A computation that may fail, or panic (`none`). -/
abbrev Checked (α : Type) := ExceptT TransportError Option α

namespace Checked

/-- `&buf[start..stop]`. -/
def slice (buf : List UInt8) (start stop : Nat) : Checked (List UInt8) :=
  ExceptT.mk (if start ≤ stop ∧ stop ≤ buf.length then
    some (.ok ((buf.drop start).take (stop - start))) else none)

/-- `copy_from_slice` into a `[u8; n]` panics unless the lengths agree. -/
def copyFromSlice (n : Nat) (bs : List UInt8) : Checked (Bytes n) :=
  ExceptT.mk (if h : bs.length = n then some (.ok ⟨bs, h⟩) else none)

/-- `read_bytes`. -/
def readBytes (buf : List UInt8) (offset len : Nat) : Checked (List UInt8 × Nat) := do
  if buf.length < offset + len then throw (.truncatedFrame len (buf.length - offset))
  let bs ← slice buf offset (offset + len)
  return (bs, offset + len)

/-- `read_bytes`, or the body of a `read_uN`, into a `[u8; n]`. -/
def readArray (n : Nat) (buf : List UInt8) (offset : Nat) : Checked (Bytes n × Nat) := do
  let (bs, offset) ← readBytes buf offset n
  let array ← copyFromSlice n bs
  return (array, offset)

/-- `read_u8`. -/
def readU8 (buf : List UInt8) (offset : Nat) : Checked (UInt8 × Nat) := do
  let (array, offset) ← readArray 1 buf offset
  return (UInt8.ofNat (ofBe array.toList), offset)

/-- `read_u16`. -/
def readU16 (buf : List UInt8) (offset : Nat) : Checked (UInt16 × Nat) := do
  let (array, offset) ← readArray 2 buf offset
  return (UInt16.ofNat (ofBe array.toList), offset)

/-- `read_u32`. -/
def readU32 (buf : List UInt8) (offset : Nat) : Checked (UInt32 × Nat) := do
  let (array, offset) ← readArray 4 buf offset
  return (UInt32.ofNat (ofBe array.toList), offset)

/-- `read_u64`. -/
def readU64 (buf : List UInt8) (offset : Nat) : Checked (UInt64 × Nat) := do
  let (array, offset) ← readArray 8 buf offset
  return (UInt64.ofNat (ofBe array.toList), offset)

/-- The loop over the ranges of an `Ack` frame. -/
def readRanges (buf : List UInt8) : Nat → Nat → Checked (List AckRange × Nat)
  | 0, offset => return ([], offset)
  | count + 1, offset => do
    let (gap, offset) ← readU32 buf offset
    let (length, offset) ← readU32 buf offset
    let (rest, offset) ← readRanges buf count offset
    return (⟨gap, length⟩ :: rest, offset)

open Frame in
/-- `Frame::decode`. -/
def decode (buf : List UInt8) : Checked (Frame × Nat) := do
  let (frameType, offset) ← readU8 buf 0
  match frameType with
  | 0x01 =>
    let (largest, offset) ← readU64 buf offset
    let (ackDelay, offset) ← readU32 buf offset
    let (rangeCount, offset) ← readU8 buf offset
    if maxAckRanges < rangeCount.toNat then
      throw (.resourceLimitExceeded "Too many ACK ranges")
    let (ranges, offset) ← readRanges buf rangeCount.toNat offset
    let (ect0, offset) ← readU32 buf offset
    let (ect1, offset) ← readU32 buf offset
    let (ce, offset) ← readU32 buf offset
    return (ack largest ackDelay (.ofList ranges) rangeCount ect0 ect1 ce, offset)
  | 0x02 =>
    let (msgId, offset) ← readU64 buf offset
    let (keySlice, offset) ← readBytes buf offset 6
    let (seq, offset) ← readU32 buf offset
    let (gen, offset) ← readU32 buf offset
    let (deadline, offset) ← readU16 buf offset
    let (payloadLen, offset) ← readU16 buf offset
    let (payload, offset) ← readBytes buf offset payloadLen.toNat
    return (data msgId (.fromU48 (ofBe keySlice)) seq gen deadline payload, offset)
  | 0x03 =>
    let (msgId, offset) ← readU64 buf offset
    let (fragId, offset) ← readU16 buf offset
    let (totalFrags, offset) ← readU16 buf offset
    let (groupId, offset) ← readU16 buf offset
    let (orderSeq, offset) ← readU32 buf offset
    let (payloadLen, offset) ← readU16 buf offset
    let (payload, offset) ← readBytes buf offset payloadLen.toNat
    return (reliableData msgId fragId totalFrags groupId orderSeq payload, offset)
  | 0x04 =>
    let (msgId, offset) ← readU64 buf offset
    let (fragId, offset) ← readU16 buf offset
    let (transmissionId, offset) ← readU8 buf offset
    let (payloadLen, offset) ← readU16 buf offset
    let (payload, offset) ← readBytes buf offset payloadLen.toNat
    return (retx msgId fragId transmissionId payload, offset)
  | 0x05 =>
    let (nonce, offset) ← readU64 buf offset
    return (ping nonce, offset)
  | 0x06 =>
    let (token, offset) ← readArray 8 buf offset
    return (pathChallenge token, offset)
  | 0x07 =>
    let (token, offset) ← readArray 8 buf offset
    return (pathResponse token, offset)
  | 0x08 =>
    let (probeId, offset) ← readU32 buf offset
    return (mtuProbe probeId (buf.length - offset), buf.length)
  | 0x09 =>
    let (errorCode, offset) ← readU16 buf offset
    let (reasonLen, offset) ← readU8 buf offset
    let (reasonBytes, offset) ← readBytes buf offset reasonLen.toNat
    match fromUtf8 reasonBytes with
    | some reason => return (close errorCode reason, offset)
    | none => throw (.malformedFrame "Malformed UTF-8 close reason")
  | 0x0A =>
    let (ackFreq, offset) ← readU8 buf offset
    let (maxDelay, offset) ← readU16 buf offset
    let (reorderThresh, offset) ← readU8 buf offset
    return (ackFrequency ackFreq maxDelay reorderThresh, offset)
  | 0x0B =>
    let (clientPublicKey, offset) ← readArray 32 buf offset
    let (clientNonce, offset) ← readArray 32 buf offset
    let (version, offset) ← readU32 buf offset
    return (clientHello clientPublicKey clientNonce version, offset)
  | 0x0C =>
    let (serverPublicKey, offset) ← readArray 32 buf offset
    let (serverNonce, offset) ← readArray 32 buf offset
    let (statelessCookie, offset) ← readArray 32 buf offset
    let (cid, offset) ← readU64 buf offset
    let (serverStaticPk, offset) ← readArray 32 buf offset
    return (serverHello serverPublicKey serverNonce statelessCookie cid serverStaticPk, offset)
  | 0x0D =>
    let (cookieEcho, offset) ← readArray 32 buf offset
    let (clientProof, offset) ← readArray 32 buf offset
    return (handshakeFinish cookieEcho clientProof, offset)
  | 0x0E =>
    let (serverProof, offset) ← readArray 32 buf offset
    return (serverFinish serverProof, offset)
  | 0x10 =>
    let (nextPhase, offset) ← readU64 buf offset
    let (initiatorProof, offset) ← readArray 32 buf offset
    return (keyUpdate nextPhase initiatorProof, offset)
  | 0x00 => return (padding (buf.length - offset), buf.length)
  | _ => throw (.malformedFrame "Unknown TLV frame type")

/-- A result without a panic. -/
def lift {α : Type} (r : Result α) : Checked α := ExceptT.mk (some r)

theorem lift_bind {α β : Type} (x : Result α) (f : α → Result β) :
    (lift x >>= fun a => lift (f a)) = lift (x >>= f) := by
  cases x <;> rfl

theorem lift_pure {α : Type} (a : α) : (pure a : Checked α) = lift (pure a) := rfl

theorem lift_throw {α : Type} (e : TransportError) :
    (throw e : Checked α) = lift (throw e) := rfl

theorem readBytes_eq (buf : List UInt8) (offset len : Nat) :
    readBytes buf offset len = lift (Frame.readBytes buf offset len) := by
  unfold readBytes Frame.readBytes
  by_cases h : buf.length < offset + len
  · simp [h]
    rfl
  · have hin : offset ≤ offset + len ∧ offset + len ≤ buf.length := ⟨by omega, by omega⟩
    simp only [h, if_false, slice, if_pos hin, Nat.add_sub_cancel_left]
    rfl

theorem readArray_eq (n : Nat) (buf : List UInt8) (offset : Nat) :
    readArray n buf offset = lift (Frame.readArray n buf offset) := by
  unfold readArray Frame.readArray
  rw [readBytes_eq, Frame.readBytes]
  by_cases h : buf.length < offset + n
  · rw [if_pos h, dif_pos h]
    rfl
  · have hlen : ((buf.drop offset).take n).length = n := by
      rw [List.length_take, List.length_drop]
      omega
    rw [if_neg h, dif_neg h]
    have hcopy : copyFromSlice n ((buf.drop offset).take n) =
        lift (.ok ⟨(buf.drop offset).take n, hlen⟩) := by
      rw [copyFromSlice, dif_pos hlen]
      rfl
    change (copyFromSlice n ((buf.drop offset).take n) >>= fun array =>
      pure (array, offset + n)) = _
    rw [hcopy]
    rfl

/-- A fixed-width read is the read of an array and a conversion. -/
theorem readUint_eq {α : Type} (n : Nat) (buf : List UInt8) (offset : Nat) (f : Nat → α) :
    (do let (array, offset) ← readArray n buf offset
        return (f (ofBe array.toList), offset) : Checked (α × Nat)) =
      lift (do let (bs, offset) ← Frame.readBytes buf offset n
               return (f (ofBe bs), offset)) := by
  rw [readArray_eq, Frame.readArray, Frame.readBytes]
  by_cases h : buf.length < offset + n
  · rw [dif_pos h, if_pos h]
    rfl
  · rw [dif_neg h, if_neg h]
    rfl

theorem readU8_eq (buf : List UInt8) (offset : Nat) :
    readU8 buf offset = lift (Frame.readU8 buf offset) := readUint_eq 1 buf offset UInt8.ofNat

theorem readU16_eq (buf : List UInt8) (offset : Nat) :
    readU16 buf offset = lift (Frame.readU16 buf offset) := readUint_eq 2 buf offset UInt16.ofNat

theorem readU32_eq (buf : List UInt8) (offset : Nat) :
    readU32 buf offset = lift (Frame.readU32 buf offset) := readUint_eq 4 buf offset UInt32.ofNat

theorem readU64_eq (buf : List UInt8) (offset : Nat) :
    readU64 buf offset = lift (Frame.readU64 buf offset) := readUint_eq 8 buf offset UInt64.ofNat

theorem readRanges_eq (buf : List UInt8) (count offset : Nat) :
    readRanges buf count offset = lift (Frame.readRanges buf count offset) := by
  induction count generalizing offset with
  | zero => rfl
  | succ count ih =>
    simp only [readRanges, Frame.readRanges, readU32_eq, ih, lift_pure, lift_bind]

theorem lift_ite {α : Type} (c : Prop) [Decidable c] (x y : Result α) :
    (if c then lift x else lift y) = lift (if c then x else y) := by
  split <;> rfl

theorem bind_congr_lift {α β : Type} {x : Result α} {f : α → Checked β} {g : α → Result β}
    (h : ∀ a, f a = lift (g a)) : lift x >>= f = lift (x >>= g) := by
  rw [← lift_bind]
  exact congrArg _ (funext h)

/-- **The decoder does not panic**, on any bytes. -/
theorem decode_eq (buf : List UInt8) : decode buf = lift (Frame.decode buf) := by
  unfold decode Frame.decode
  rw [readU8_eq]
  apply bind_congr_lift
  rintro ⟨frameType, offset⟩
  dsimp only
  split
  case h_9 =>
    -- `Close` has a match of its own
    simp only [readBytes_eq, readU8_eq, readU16_eq]
    refine bind_congr_lift fun code => bind_congr_lift fun len => bind_congr_lift fun reason => ?_
    cases Frame.fromUtf8 reason.1 <;> rfl
  all_goals
    simp only [readBytes_eq, readArray_eq, readU8_eq, readU16_eq, readU32_eq, readU64_eq,
      readRanges_eq, lift_pure, lift_throw, lift_bind, lift_ite]

end Checked

/-! ## 2. Progress -/

namespace Frame

/-- **Every successful decode consumes its type byte, and nothing behind the buffer.** -/
theorem decode_consumed {b : List UInt8} {f : Frame} {n : Nat} (h : decode b = .ok (f, n)) :
    1 ≤ n ∧ n ≤ b.length := by
  cases decode_inv h with
  | spelled hself hs =>
    have hpos := bytes_pos f
    have hnext := hs.took.next
    exact ⟨by omega, hs.took.le_length (Nat.zero_le _)⟩
  | probe id hf hn hs =>
    have hle := hs.le_length (Nat.zero_le _)
    exact ⟨by omega, hn.le⟩
  | pad hf hn hs =>
    have hle := hs.le_length (Nat.zero_le _)
    exact ⟨by omega, hn.le⟩

/-- A piece cut off at the length consumed decodes to the same frame. -/
theorem decode_take {b : List UInt8} {f : Frame} {n : Nat} (h : decode b = .ok (f, n)) :
    decode (b.take n) = .ok (f, n) := by
  cases decode_inv h with
  | spelled hself hs =>
    have hdecode := decode_bytes hself hs.size []
    rw [List.append_nil, hs.canonical] at hdecode
    rw [hs.took.take_eq, hdecode, hs.took.next, Nat.zero_add]
  | probe id hf hn hs => rw [hn, List.take_length, h, hn]
  | pad hf hn hs => rw [hn, List.take_length, h, hn]

end Frame

/-! ## 3. The iterator -/

namespace FrameIterator

/-- The offset of the iterator after `k` calls of `next`. -/
def offsetAfter (buf : List UInt8) : Nat → Nat
  | 0 => 0
  | k + 1 =>
    match next buf (offsetAfter buf k) with
    | none => offsetAfter buf k
    | some (_, offset) => offset

/-- What one call does: the end, a frame and progress over its bytes, or an error and the end. -/
theorem next_cases (buf : List UInt8) {offset : Nat} (ho : offset ≤ buf.length) :
    (offset = buf.length ∧ next buf offset = none) ∨
    (∃ f n, Frame.decode (buf.drop offset) = .ok (f, n) ∧ 1 ≤ n ∧ offset + n ≤ buf.length ∧
      next buf offset = some (.ok f, offset + n)) ∨
    (∃ e, offset < buf.length ∧ Frame.decode (buf.drop offset) = .error e ∧
      next buf offset = some (.error e, buf.length)) := by
  rcases Nat.lt_or_ge offset buf.length with hlt | hge
  · right
    have hnot : ¬ buf.length ≤ offset := Nat.not_le.mpr hlt
    cases hdecode : Frame.decode (buf.drop offset) with
    | error e =>
      refine Or.inr ⟨e, hlt, rfl, ?_⟩
      simp only [next, if_neg hnot, hdecode]
    | ok p =>
      obtain ⟨f, n⟩ := p
      obtain ⟨hpos, hle⟩ := Frame.decode_consumed hdecode
      rw [List.length_drop] at hle
      refine Or.inl ⟨f, n, rfl, hpos, by omega, ?_⟩
      simp only [next, if_neg hnot, hdecode, if_neg (show n ≠ 0 by omega)]
  · exact Or.inl ⟨by omega, by simp [next, hge]⟩

theorem offsetAfter_le (buf : List UInt8) (k : Nat) : offsetAfter buf k ≤ buf.length := by
  induction k with
  | zero => exact Nat.zero_le _
  | succ k ih =>
    rw [offsetAfter]
    rcases next_cases buf ih with ⟨-, hnext⟩ | ⟨f, n, -, -, hle, hnext⟩ | ⟨e, -, -, hnext⟩
    · rw [hnext]
      exact ih
    · rw [hnext]
      exact hle
    · rw [hnext]

/-- Every call before the end moves on by a byte. -/
theorem min_le_offsetAfter (buf : List UInt8) (k : Nat) :
    min k buf.length ≤ offsetAfter buf k := by
  induction k with
  | zero => simp
  | succ k ih =>
    rw [offsetAfter]
    rcases next_cases buf (offsetAfter_le buf k) with
      ⟨hend, hnext⟩ | ⟨f, n, -, hpos, -, hnext⟩ | ⟨e, -, -, hnext⟩
    · rw [hnext, hend]
      exact Nat.min_le_right _ _
    · rw [hnext]
      dsimp only
      omega
    · rw [hnext]
      exact Nat.min_le_right _ _

/-- A payload cut into pieces: each piece decodes to its frame, and what is left is empty or does
not decode. -/
structure Cut (buf : List UInt8) (pieces : List (Frame × List UInt8))
    (error : Option (TransportError × List UInt8)) : Prop where
  bytes : buf = pieces.flatMap Prod.snd ++ (error.map Prod.snd).getD []
  frames : ∀ p ∈ pieces, Frame.decode p.2 = .ok (p.1, p.2.length)
  failure : ∀ p ∈ error, Frame.decode p.2 = .error p.1

/-- The items that a cut payload yields: its frames, then the error. -/
def itemsOf (pieces : List (Frame × List UInt8)) (error : Option (TransportError × List UInt8)) :
    List (Result Frame) :=
  pieces.map (fun p => .ok p.1) ++ error.toList.map fun p => .error p.1

theorem collectFrom_cut {buf : List UInt8} {fuel offset : Nat} (ho : offset ≤ buf.length)
    (hfuel : buf.length ≤ offset + fuel) :
    ∃ pieces error, collectFrom buf fuel offset = itemsOf pieces error ∧
      Cut (buf.drop offset) pieces error := by
  induction fuel generalizing offset with
  | zero =>
    have hend : offset = buf.length := by omega
    subst hend
    refine ⟨[], none, rfl, ⟨?_, by simp, by simp⟩⟩
    simp
  | succ fuel ih =>
    rw [collectFrom]
    rcases next_cases buf ho with
      ⟨hend, hnext⟩ | ⟨f, n, hdecode, hpos, hle, hnext⟩ | ⟨e, hlt, hdecode, hnext⟩
    · subst hend
      rw [hnext]
      refine ⟨[], none, rfl, ⟨?_, by simp, by simp⟩⟩
      simp
    · -- one more piece in front of the pieces of the rest
      obtain ⟨pieces, error, hitems, hcut⟩ := ih hle (by omega)
      rw [hnext]
      refine ⟨(f, (buf.drop offset).take n) :: pieces, error, ?_, ⟨?_, ?_, hcut.failure⟩⟩
      · simp only [hitems, itemsOf, List.map_cons, List.cons_append]
      · rw [List.flatMap_cons, List.append_assoc, ← hcut.bytes, ← List.drop_drop,
          List.take_append_drop]
      · intro p hp
        rcases List.mem_cons.mp hp with rfl | hp
        · have hlen : ((buf.drop offset).take n).length = n := by
            rw [List.length_take, List.length_drop]
            omega
          dsimp only
          rw [hlen]
          exact Frame.decode_take hdecode
        · exact hcut.frames p hp
    · rw [hnext]
      refine ⟨[], some (e, buf.drop offset), ?_, ⟨by simp, by simp, ?_⟩⟩
      · simp [Frame.collectFrom_end (Nat.le_refl _), itemsOf]
      · intro p hp
        obtain rfl := Option.mem_some_iff.mp hp
        exact hdecode

/-- More calls than bytes yield nothing more. -/
theorem collectFrom_add {buf : List UInt8} {fuel offset : Nat} (ho : offset ≤ buf.length)
    (hfuel : buf.length ≤ offset + fuel) (k : Nat) :
    collectFrom buf (fuel + k) offset = collectFrom buf fuel offset := by
  induction fuel generalizing offset with
  | zero => exact Frame.collectFrom_end (by omega) _
  | succ fuel ih =>
    rw [Nat.add_right_comm, collectFrom, collectFrom]
    rcases next_cases buf ho with ⟨-, hnext⟩ | ⟨f, n, -, hpos, hle, hnext⟩ | ⟨e, -, -, hnext⟩
    · rw [hnext]
    · rw [hnext]
      dsimp only
      rw [ih hle (by omega)]
    · rw [hnext]
      dsimp only
      rw [Frame.collectFrom_end (Nat.le_refl _), Frame.collectFrom_end (Nat.le_refl _)]

/-- **The iterator on arbitrary bytes.**  After `buf.length` calls nothing more comes; the offset
never leaves the buffer, and neither do the reads, since the decoder with panicking slices agrees
with the one that cannot panic; every successful decode consumes at least one byte and no more than
there are; and the items are the frames of consecutive pieces that begin at offset 0, followed by at
most one error, which is the last. -/
theorem collect_arbitrary (buf : List UInt8) :
    (∀ k, buf.length ≤ k →
      next buf (offsetAfter buf k) = none ∧ collectFrom buf k 0 = collect buf) ∧
      (∀ k, offsetAfter buf k ≤ buf.length) ∧
      (∀ b : List UInt8, Checked.decode b = Checked.lift (Frame.decode b)) ∧
      (∀ (b : List UInt8) f n, Frame.decode b = .ok (f, n) → 1 ≤ n ∧ n ≤ b.length) ∧
      ∃ pieces error, collect buf = itemsOf pieces error ∧ Cut buf pieces error := by
  refine ⟨?_, offsetAfter_le buf, Checked.decode_eq, fun b f n => Frame.decode_consumed, ?_⟩
  · intro k hk
    have hend : buf.length ≤ offsetAfter buf k := by
      have hmin := min_le_offsetAfter buf k
      rwa [Nat.min_eq_right hk] at hmin
    refine ⟨by simp [next, hend], ?_⟩
    have hadd := collectFrom_add (Nat.zero_le buf.length) (Nat.le_of_eq (Nat.zero_add _).symm)
      (k - buf.length)
    rwa [Nat.add_sub_cancel' hk] at hadd
  · obtain ⟨pieces, error, hitems, hcut⟩ :=
      collectFrom_cut (Nat.zero_le buf.length) (Nat.le_of_eq (Nat.zero_add _).symm)
    exact ⟨pieces, error, hitems, hcut⟩

/-- Two frames and a truncated third. -/
example : (collect [0x0A, 1, 0, 2, 3, 0x05, 0, 0, 0, 0, 0, 0, 0, 7, 0x05, 1]).length = 3 := by decide

end FrameIterator

end Gtp
