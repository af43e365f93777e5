/-
# What the packet builder builds

`Carries b fs` says that the builder's payload is the encoding of the frames `fs`, one behind the
other.  `append_frame` has two cases and one lemma for each: a frame that fits joins the list
(`appendFrame_fits`), a frame that does not fit leaves the payload as it was
(`appendFrame_not_fits`).  What a refused frame leaves behind the end of the payload is not
described; `finish` cuts it off.

* Headers read back with anything behind them (`decode_bytes_short`, `decode_bytes_long`).
* The only change that `append_frame` makes to a header is the ACK flag.  `Alike` are headers that
  differ in it, and in the length, alone: they route and open alike.
* At the end the header is written (`finish_carries`).  So a finished datagram is a header that the
  peer decodes and the payload it then opens.

The send path builds short headers only, and that is what `Carries` is about; `Gtp.Wire.Datagram`
has every header and every frame list.  A builder whose buffer is too short for its header is an
error of `new`, and none of the lemmas apply.
-/
import Gtp.Wire.RoundTrip

namespace Gtp

open BigEndian Frame

/-! ## 1. The short header reads back -/

namespace PacketHeader

/-- The field that a reader at `offset` stands in front of. -/
theorem field_of_at {buf bs rest : List UInt8} {at' offset n : Nat} (h : At buf at' (bs ++ rest))
    (hat : at' = offset) (hn : bs.length = n) : field buf offset n = ofBe bs := by
  obtain ⟨pre, rfl, rfl⟩ := h
  subst hn hat
  simp [field]

theorem bytes_short {h : PacketHeader} (hshort : h.flags.isLongHeader = false) :
    h.bytes = [h.flags] ++ ([h.headerLen] ++ (toBe 8 h.connectionId.toNat ++
      (toBe 8 h.packetNumber.toNat ++ (toBe 4 h.timestampMicros.toNat ++
        toBe 2 h.payloadLen.toNat)))) := by
  simp [bytes, hshort]

theorem length_bytes_short {h : PacketHeader} (hshort : h.flags.isLongHeader = false) :
    h.bytes.length = minCommonHeaderLen := by
  simp [bytes_short hshort, minCommonHeaderLen]

theorem minLen_short {flags : HeaderFlags} (hshort : flags.isLongHeader = false) :
    minLen flags = minCommonHeaderLen := by
  simp [minLen, hshort]

/-- **Decoding a short header**, with anything behind it. -/
theorem decode_bytes_short {h : PacketHeader} (hshort : h.flags.isLongHeader = false)
    (hversion : h.version = none) (hlen : h.headerLen = 24) (rest : List UInt8) :
    decode (h.bytes ++ rest) = .ok (h, minCommonHeaderLen) := by
  have hat : At (h.bytes ++ rest) 0 ([h.flags] ++ ([h.headerLen] ++ (toBe 8 h.connectionId.toNat ++
      (toBe 8 h.packetNumber.toNat ++ (toBe 4 h.timestampMicros.toNat ++
        (toBe 2 h.payloadLen.toNat ++ rest)))))) := by
    refine ⟨[], ?_, rfl⟩
    simp [bytes_short hshort]
  have hbuf : minCommonHeaderLen ≤ (h.bytes ++ rest).length := by
    rw [List.length_append, length_bytes_short hshort]
    exact Nat.le_add_right _ _
  generalize h.bytes ++ rest = buf at hat hbuf
  obtain ⟨-, h1⟩ := hat.readBytes
  obtain ⟨-, h2⟩ := h1.readBytes
  obtain ⟨-, h3⟩ := h2.readBytes
  obtain ⟨-, h4⟩ := h3.readBytes
  obtain ⟨-, h5⟩ := h4.readBytes
  simp only [List.length_singleton, length_toBe] at h1 h2 h3 h4 h5
  have f0 : field buf 0 1 = h.flags.toNat := by
    rw [field_of_at hat rfl (List.length_singleton ..)]
    simp [ofBe]
  have f1 : field buf 1 1 = h.headerLen.toNat := by
    rw [field_of_at h1 rfl (List.length_singleton ..)]
    simp [ofBe]
  have f2 : field buf 2 8 = h.connectionId.toNat := by
    rw [field_of_at h2 rfl (length_toBe ..), ofBe_toBe_of_lt h.connectionId.toNat_lt]
  have f3 : field buf 10 8 = h.packetNumber.toNat := by
    rw [field_of_at h3 rfl (length_toBe ..), ofBe_toBe_of_lt h.packetNumber.toNat_lt]
  have f4 : field buf 18 4 = h.timestampMicros.toNat := by
    rw [field_of_at h4 rfl (length_toBe ..), ofBe_toBe_of_lt h.timestampMicros.toNat_lt]
  have f5 : field buf 22 2 = h.payloadLen.toNat := by
    rw [field_of_at h5 rfl (length_toBe ..), ofBe_toBe_of_lt h.payloadLen.toNat_lt]
  have hne : buf.isEmpty = false := by
    cases buf with
    | nil => exact absurd hbuf (by decide)
    | cons b bs => rfl
  have hflags : (UInt8.ofNat h.flags.toNat) = h.flags := UInt8.ofNat_toNat
  have hlen24 : h.headerLen.toNat = minCommonHeaderLen := by rw [hlen]; rfl
  unfold decode
  simp only [hne, f0, hflags, minLen_short hshort, hshort, if_neg (Nat.not_lt.mpr hbuf), f1, hlen24,
    bind, Except.bind, pure, Except.pure, Bool.false_eq_true, if_false, Nat.lt_irrefl, false_or,
    Nat.reduceAdd, f2, f3, f4, f5, UInt64.ofNat_toNat, UInt32.ofNat_toNat, UInt16.ofNat_toNat]
  obtain ⟨flags, version, headerLen, connectionId, packetNumber, timestampMicros, payloadLen⟩ := h
  simp only at hversion hlen
  subst hversion hlen
  rfl

theorem bytes_long {h : PacketHeader} (hlong : h.flags.isLongHeader = true) :
    h.bytes = [h.flags] ++ (toBe 4 (h.version.getD gtpV11).toNat ++ ([h.headerLen] ++
      (toBe 8 h.connectionId.toNat ++ (toBe 8 h.packetNumber.toNat ++
        (toBe 4 h.timestampMicros.toNat ++ toBe 2 h.payloadLen.toNat))))) := by
  simp [bytes, hlong]

theorem length_bytes_long {h : PacketHeader} (hlong : h.flags.isLongHeader = true) :
    h.bytes.length = minLongHeaderLen := by
  simp [bytes_long hlong, minLongHeaderLen]

theorem minLen_long {flags : HeaderFlags} (hlong : flags.isLongHeader = true) :
    minLen flags = minLongHeaderLen := by
  simp [minLen, hlong]

/-- **Decoding a long header**, with anything behind it. -/
theorem decode_bytes_long {h : PacketHeader} (hlong : h.flags.isLongHeader = true)
    (hversion : h.version.isSome) (hlen : h.headerLen = 28) (rest : List UInt8) :
    decode (h.bytes ++ rest) = .ok (h, minLongHeaderLen) := by
  have hat : At (h.bytes ++ rest) 0 ([h.flags] ++ (toBe 4 (h.version.getD gtpV11).toNat ++
      ([h.headerLen] ++ (toBe 8 h.connectionId.toNat ++ (toBe 8 h.packetNumber.toNat ++
        (toBe 4 h.timestampMicros.toNat ++ (toBe 2 h.payloadLen.toNat ++ rest))))))) := by
    refine ⟨[], ?_, rfl⟩
    simp [bytes_long hlong]
  have hbuf : minLongHeaderLen ≤ (h.bytes ++ rest).length := by
    rw [List.length_append, length_bytes_long hlong]
    exact Nat.le_add_right _ _
  generalize h.bytes ++ rest = buf at hat hbuf
  obtain ⟨-, h1⟩ := hat.readBytes
  obtain ⟨-, h2⟩ := h1.readBytes
  obtain ⟨-, h3⟩ := h2.readBytes
  obtain ⟨-, h4⟩ := h3.readBytes
  obtain ⟨-, h5⟩ := h4.readBytes
  obtain ⟨-, h6⟩ := h5.readBytes
  simp only [List.length_singleton, length_toBe] at h1 h2 h3 h4 h5 h6
  have f0 : field buf 0 1 = h.flags.toNat := by
    rw [field_of_at hat rfl (List.length_singleton ..)]
    simp [ofBe]
  have f1 : field buf 1 4 = (h.version.getD gtpV11).toNat := by
    rw [field_of_at h1 rfl (length_toBe ..), ofBe_toBe_of_lt (h.version.getD gtpV11).toNat_lt]
  have f2 : field buf 5 1 = h.headerLen.toNat := by
    rw [field_of_at h2 rfl (List.length_singleton ..)]
    simp [ofBe]
  have f3 : field buf 6 8 = h.connectionId.toNat := by
    rw [field_of_at h3 rfl (length_toBe ..), ofBe_toBe_of_lt h.connectionId.toNat_lt]
  have f4 : field buf 14 8 = h.packetNumber.toNat := by
    rw [field_of_at h4 rfl (length_toBe ..), ofBe_toBe_of_lt h.packetNumber.toNat_lt]
  have f5 : field buf 22 4 = h.timestampMicros.toNat := by
    rw [field_of_at h5 rfl (length_toBe ..), ofBe_toBe_of_lt h.timestampMicros.toNat_lt]
  have f6 : field buf 26 2 = h.payloadLen.toNat := by
    rw [field_of_at h6 rfl (length_toBe ..), ofBe_toBe_of_lt h.payloadLen.toNat_lt]
  have hne : buf.isEmpty = false := by
    cases buf with
    | nil => exact absurd hbuf (by decide)
    | cons b bs => rfl
  have hflags : (UInt8.ofNat h.flags.toNat) = h.flags := UInt8.ofNat_toNat
  have hlen28 : h.headerLen.toNat = minLongHeaderLen := by rw [hlen]; rfl
  unfold decode
  simp only [hne, f0, hflags, minLen_long hlong, hlong, if_neg (Nat.not_lt.mpr hbuf), f1, f2,
    hlen28, bind, Except.bind, pure, Except.pure, Bool.false_eq_true, if_true, if_false,
    Nat.lt_irrefl, false_or, Nat.reduceAdd, f3, f4, f5, f6, UInt64.ofNat_toNat, UInt32.ofNat_toNat,
    UInt16.ofNat_toNat]
  obtain ⟨flags, version, headerLen, connectionId, packetNumber, timestampMicros, payloadLen⟩ := h
  obtain ⟨version, rfl⟩ := Option.isSome_iff_exists.mp hversion
  simp only at hlen
  subst hlen
  rfl

end PacketHeader

/-! ## 2. The ACK flag

The only change `append_frame` makes to the header. -/

/-- Setting a bit does not show through a mask that leaves it out. -/
theorem or_and_of_disjoint (flags : UInt8) {bit mask : UInt8} (h : bit &&& mask = 0) :
    (flags ||| bit) &&& mask = flags &&& mask := by
  apply UInt8.toBitVec_inj.mp
  rw [UInt8.toBitVec_and, UInt8.toBitVec_or, BitVec.and_or_distrib_right, ← UInt8.toBitVec_and bit,
    h, UInt8.toBitVec_and]
  exact BitVec.or_zero

theorem isLongHeader_setAckPresent (flags : HeaderFlags) :
    (flags.setAckPresent true).isLongHeader = flags.isLongHeader := by
  simp only [HeaderFlags.isLongHeader, HeaderFlags.setAckPresent, if_true,
    or_and_of_disjoint flags (show (0x20 : UInt8) &&& 0x80 = 0 by decide)]

theorem keyPhase_setAckPresent (flags : HeaderFlags) :
    (flags.setAckPresent true).keyPhase = flags.keyPhase := by
  simp only [HeaderFlags.keyPhase, HeaderFlags.setAckPresent, if_true,
    or_and_of_disjoint flags (show (0x20 : UInt8) &&& 0x40 = 0 by decide)]

/-! ## 3. Appending -/

namespace PacketBuilder

/-- The frame fits the rest of the buffer. -/
def Fits (b : PacketBuilder) (f : Frame) : Prop :=
  f.needed ≤ b.remainingCapacity ∧ f.oversize = false

instance (b : PacketBuilder) (f : Frame) : Decidable (b.Fits f) := by
  unfold Fits
  exact inferInstance

def payload (b : PacketBuilder) : List UInt8 := (b.buf.drop b.headerLen).take b.payloadLen

/-- Two short headers that route and open alike: only the ACK flag and the length may differ. -/
structure Alike (h h' : PacketHeader) : Prop where
  short : h.flags.isLongHeader = false
  version : h.version = none
  headerLen : h.headerLen = 24
  keyPhase : h.flags.keyPhase = h'.flags.keyPhase
  connectionId : h.connectionId = h'.connectionId
  packetNumber : h.packetNumber = h'.packetNumber
  timestampMicros : h.timestampMicros = h'.timestampMicros

/-- The builder was made for `header`, and its payload is the encoding of `fs`. -/
structure Carries (b : PacketBuilder) (header : PacketHeader) (fs : List Frame) : Prop where
  alike : Alike b.header header
  headerLen : b.headerLen = minCommonHeaderLen
  room : b.headerLen + b.payloadLen ≤ b.buf.length
  payload : b.payload = payloadOf fs
  sendable : ∀ f ∈ fs, Sendable f

theorem Carries.payloadLen {b : PacketBuilder} {header : PacketHeader} {fs : List Frame}
    (h : b.Carries header fs) : (payloadOf fs).length = b.payloadLen := by
  have hroom := h.room
  rw [← h.payload, PacketBuilder.payload, List.length_take, List.length_drop]
  omega

theorem needed_pos (f : Frame) : 0 < f.needed := by
  rw [← length_bytes]
  exact bytes_pos f

theorem encode_ok {f : Frame} {buf : List UInt8} (hlen : f.needed ≤ buf.length)
    (hsize : f.oversize = false) :
    f.encode buf = (.ok f.needed, f.bytes ++ buf.drop f.needed) := by
  have hpos := needed_pos f
  have hbytes := length_bytes f
  cases buf with
  | nil => exact absurd hlen (Nat.not_le.mpr hpos)
  | cons x tail =>
    have hneeded : f.needed = f.body.length + 1 := by rw [← hbytes, Frame.bytes, List.length_cons]
    have hcond : ¬ ((decide ((x :: tail).length < f.needed) || f.oversize) = true) := by
      rw [hsize, Bool.or_false, decide_eq_true_eq]
      exact Nat.not_lt.mpr hlen
    rw [encode, if_neg hcond]
    rw [hneeded, List.drop_succ_cons, Nat.add_comm]

/-- What `encode` does with a frame that does not fit: the type byte at most. -/
theorem encode_error {f : Frame} {buf : List UInt8}
    (h : ¬ (f.needed ≤ buf.length ∧ f.oversize = false)) :
    ∃ e rest, f.encode buf = (.error e, rest) ∧ rest.length = buf.length := by
  cases buf with
  | nil => exact ⟨_, _, rfl, rfl⟩
  | cons x tail =>
    refine ⟨.bufferOverflow, f.frameType :: tail, ?_, rfl⟩
    rw [encode, if_pos]
    by_cases hlen : f.needed ≤ (x :: tail).length
    · have hsize : f.oversize = true := by
        cases hs : f.oversize with
        | true => rfl
        | false => exact absurd ⟨hlen, hs⟩ h
      simp [hsize]
    · rw [Bool.or_eq_true, decide_eq_true_eq]
      exact Or.inl (Nat.not_le.mp hlen)

/-- The header after a frame was appended. -/
def noted (header : PacketHeader) : Frame → PacketHeader
  | .ack .. => { header with flags := header.flags.setAckPresent true }
  | _ => header

/-- A successful append: the frame's bytes stand behind the payload. -/
structure Appended (b b' : PacketBuilder) (f : Frame) : Prop where
  header : b'.header = noted b.header f
  headerLen : b'.headerLen = b.headerLen
  payloadLen : b'.payloadLen = b.payloadLen + f.needed
  length : b'.buf.length = b.buf.length
  before : b'.buf.take (b.headerLen + b.payloadLen) = b.buf.take (b.headerLen + b.payloadLen)
  payload : b'.payload = b.payload ++ f.bytes

/-- A refused append: nothing in front of the end of the payload changed. -/
structure Refused (b b' : PacketBuilder) : Prop where
  header : b'.header = b.header
  headerLen : b'.headerLen = b.headerLen
  payloadLen : b'.payloadLen = b.payloadLen
  length : b'.buf.length = b.buf.length
  before : b'.buf.take (b.headerLen + b.payloadLen) = b.buf.take (b.headerLen + b.payloadLen)

theorem Refused.payload {b b' : PacketBuilder} (h : Refused b b') : b'.payload = b.payload := by
  rw [PacketBuilder.payload, PacketBuilder.payload, h.headerLen, h.payloadLen, List.take_drop,
    List.take_drop, h.before]

theorem appendFrame_appended {b : PacketBuilder} {f : Frame}
    (hroom : b.headerLen + b.payloadLen ≤ b.buf.length) (hfit : b.Fits f) :
    ∃ b', b.appendFrame f = (.ok (), b') ∧ Appended b b' f := by
  obtain ⟨hcap, hsize⟩ := hfit
  have hcap' : f.needed ≤ b.buf.length - (b.headerLen + b.payloadLen) := hcap
  have hbytes := length_bytes f
  have hdrop : f.needed ≤ (b.buf.drop (b.headerLen + b.payloadLen)).length := by
    rw [List.length_drop]
    exact hcap
  have hfront : (b.buf.take (b.headerLen + b.payloadLen)).length = b.headerLen + b.payloadLen := by
    rw [List.length_take]
    omega
  rw [appendFrame, encode_ok hdrop hsize]
  refine ⟨_, rfl, ?_, rfl, rfl, ?_, ?_, ?_⟩
  · cases f <;> rfl
  · simp only [List.length_append, List.length_take, List.length_drop, hbytes]
    omega
  · exact List.take_left' hfront
  · have hsplit : b.buf.take (b.headerLen + b.payloadLen) = b.buf.take b.headerLen ++ b.payload := by
      rw [List.take_add, PacketBuilder.payload]
    have hhl : (b.buf.take b.headerLen).length = b.headerLen := by
      rw [List.length_take]
      omega
    have hpl : b.payload.length = b.payloadLen := by
      rw [PacketBuilder.payload, List.length_take, List.length_drop]
      omega
    rw [PacketBuilder.payload]
    simp only [hsplit, List.append_assoc]
    rw [List.drop_left' hhl, ← List.append_assoc]
    refine List.take_left' ?_
    rw [List.length_append, hpl, hbytes]

theorem appendFrame_refused {b : PacketBuilder} {f : Frame}
    (hroom : b.headerLen + b.payloadLen ≤ b.buf.length) (hfit : ¬ b.Fits f) :
    ∃ e b', b.appendFrame f = (.error e, b') ∧ Refused b b' := by
  have hnot : ¬ (f.needed ≤ (b.buf.drop (b.headerLen + b.payloadLen)).length ∧
      f.oversize = false) := by
    rw [List.length_drop]
    exact hfit
  obtain ⟨e, rest, henc, hlen⟩ := encode_error hnot
  rw [List.length_drop] at hlen
  refine ⟨e, { b with buf := b.buf.take (b.headerLen + b.payloadLen) ++ rest }, ?_, rfl, rfl, rfl,
    ?_, ?_⟩
  · rw [appendFrame, henc]
  · rw [List.length_append, List.length_take, hlen]
    omega
  · refine List.take_left' ?_
    rw [List.length_take]
    omega

/-- Noting a frame keeps what routes and opens the packet. -/
theorem Alike.noted {h h' : PacketHeader} (halike : Alike h h') (f : Frame) :
    Alike (noted h f) h' := by
  obtain ⟨hshort, hversion, hlen, hphase, hcid, hpn, hts⟩ := halike
  cases f with
  | ack =>
    exact ⟨(isLongHeader_setAckPresent _).trans hshort, hversion, hlen,
      (keyPhase_setAckPresent _).trans hphase, hcid, hpn, hts⟩
  | _ => exact ⟨hshort, hversion, hlen, hphase, hcid, hpn, hts⟩

/-- **A frame that fits joins the payload.** -/
theorem appendFrame_fits {b : PacketBuilder} {header : PacketHeader} {fs : List Frame} {f : Frame}
    (h : b.Carries header fs) (hfit : b.Fits f) (hpad : ∀ n, f ≠ .padding n) :
    ∃ b', b.appendFrame f = (.ok (), b') ∧ b'.Carries header (fs ++ [f]) ∧
      b'.buf.length = b.buf.length ∧
      b'.remainingCapacity = b.remainingCapacity - f.needed := by
  obtain ⟨b', happ, hb'⟩ := appendFrame_appended h.room hfit
  have hcap : f.needed ≤ b.buf.length - (b.headerLen + b.payloadLen) := hfit.1
  have hroom := h.room
  refine ⟨b', happ, ⟨?_, hb'.headerLen.trans h.headerLen, ?_, ?_, ?_⟩, hb'.length, ?_⟩
  · rw [hb'.header]
    exact h.alike.noted f
  · rw [hb'.headerLen, hb'.payloadLen, hb'.length]
    omega
  · rw [hb'.payload, h.payload, payloadOf_append, payloadOf_cons, payloadOf_nil, List.append_nil]
  · intro g hg
    rcases List.mem_append.mp hg with hg | hg
    · exact h.sendable g hg
    · obtain rfl := List.mem_singleton.mp hg
      cases g with
      | padding n => exact absurd rfl (hpad n)
      | _ => exact hfit.2
  · rw [remainingCapacity, remainingCapacity, hb'.headerLen, hb'.payloadLen, hb'.length]
    omega

/-- **A frame that does not fit leaves the payload.** -/
theorem appendFrame_not_fits {b : PacketBuilder} {header : PacketHeader} {fs : List Frame}
    {f : Frame} (h : b.Carries header fs) (hfit : ¬ b.Fits f) :
    ∃ e b', b.appendFrame f = (.error e, b') ∧ b'.Carries header fs ∧
      b'.buf.length = b.buf.length ∧
      b'.remainingCapacity = b.remainingCapacity := by
  obtain ⟨e, b', happ, hb'⟩ := appendFrame_refused h.room hfit
  refine ⟨e, b', happ, ⟨?_, hb'.headerLen.trans h.headerLen, ?_, ?_, h.sendable⟩, hb'.length, ?_⟩
  · rw [hb'.header]
    exact h.alike
  · rw [hb'.headerLen, hb'.payloadLen, hb'.length]
    exact h.room
  · rw [hb'.payload, h.payload]
  · rw [remainingCapacity, remainingCapacity, hb'.headerLen, hb'.payloadLen, hb'.length]

/-- A new builder on a long enough buffer carries nothing. -/
theorem new_carries {buf : List UInt8} {header : PacketHeader} {b : PacketBuilder}
    (hshort : header.flags.isLongHeader = false) (hversion : header.version = none)
    (hlen : header.headerLen = 24) (h : new buf header = .ok b) :
    b.Carries header [] ∧ b.buf = buf ∧ b.remainingCapacity = buf.length - 24 := by
  rw [new, PacketHeader.minLen_short hshort] at h
  split at h
  · cases h
  · rename_i hbuf
    split at h
    · cases h
    · obtain rfl := Except.ok.inj h
      refine ⟨⟨⟨hshort, hversion, hlen, rfl, rfl, rfl, rfl⟩, rfl, ?_, rfl, ?_⟩, rfl, rfl⟩
      · exact Nat.not_lt.mp hbuf
      · intro f hf
        cases hf

/-- **The finished datagram**: the header with the payload length, then the payload. -/
theorem finish_carries {b : PacketBuilder} {header : PacketHeader} {fs : List Frame}
    (h : b.Carries header fs) (hsize : b.payloadLen ≤ 65535) :
    b.finish = (.ok (minCommonHeaderLen + b.payloadLen),
      ({ b.header with payloadLen := UInt16.ofNat b.payloadLen } : PacketHeader).bytes ++
        b.buf.drop minCommonHeaderLen) := by
  have hshort : ({ b.header with payloadLen := UInt16.ofNat b.payloadLen } :
      PacketHeader).flags.isLongHeader = false := h.alike.short
  have hroom := h.room
  have hhl := h.headerLen
  have hlen := PacketHeader.length_bytes_short hshort
  rw [finish, if_neg (Nat.not_lt.mpr hsize)]
  simp only [PacketHeader.encode, PacketHeader.minLen_short hshort]
  have htake : (b.buf.take b.headerLen).length = minCommonHeaderLen := by
    rw [List.length_take]
    omega
  rw [if_neg (by rw [htake]; exact Nat.lt_irrefl _), hlen, List.drop_eq_nil_of_le htake.le]
  simp only [hhl, List.append_nil]

end PacketBuilder

end Gtp
