/-
# Packet protection (`gtp-crypto`)

The cipher and the key derivation are third-party code (`chacha20poly1305`, `hkdf`); they enter the
model as a parameter, `CryptoSuite`, and what is assumed about them is stated where it is used.
Around them everything is the source's own:

* the protector, which is bound to the connection id it was made for, and its nonce, the IV xor the
  upper half of the id and the packet number;
* the key ratchet, which makes the key and the IV of the next phase from those of the present one;
* the replay window, 128 bits behind the largest number seen.

`RoundTrips` is the one property of the cipher that has a name here: what is sealed opens again
under the same key, nonce and associated data.  That nothing else opens is an assumption of the
results that need it, in the form in which they need it: no theorem assumes a cipher that cannot be
forged absolutely.  `keyTagSuite` is a suite that can be computed with, for concrete runs.

Only the production protector is modelled: the plaintext one exists behind a test feature.  Wiping
keys from memory has no counterpart.
-/
import Gtp.Wire.Frame

namespace Gtp

open BigEndian

/-! ## 1. The cipher suite -/

/-- The primitives: an AEAD that keeps the length and adds a 16-byte tag, and HKDF. -/
class CryptoSuite where
  /-- `encrypt_in_place_detached`: ciphertext and tag. -/
  encrypt : Bytes 32 → Bytes 12 → List UInt8 → List UInt8 → Option (List UInt8 × Bytes 16)
  /-- `decrypt_in_place_detached`. -/
  decrypt : Bytes 32 → Bytes 12 → List UInt8 → List UInt8 → List UInt8 → Option (List UInt8)
  /-- `Hkdf::new(salt, ikm).expand(info, out)`, for an output of `n` bytes. -/
  expand : List UInt8 → List UInt8 → List UInt8 → (n : Nat) → Bytes n
  encrypt_length : ∀ {key nonce aad pt ct tag}, encrypt key nonce aad pt = some (ct, tag) →
    ct.length = pt.length
  decrypt_length : ∀ {key nonce aad ct tag pt}, decrypt key nonce aad ct tag = some pt →
    pt.length = ct.length

/-- What is sealed opens again under the same key, nonce and associated data. -/
def CryptoSuite.RoundTrips [CryptoSuite] : Prop :=
  ∀ key nonce aad pt ct tag, CryptoSuite.encrypt key nonce aad pt = some (ct, tag) →
    CryptoSuite.decrypt key nonce aad ct tag.toList = some pt

/-! ## 2. The AEAD protector (`aead.rs`) -/

/-- `AEAD_TAG_LEN`. -/
def aeadTagLen : Nat := 16

/-- `GtpAeadProtector`. -/
structure GtpAeadProtector where
  key : Bytes 32
  iv : Bytes 12
  boundCid : Option ConnectionId
  deriving DecidableEq

/-- `Protector`: in a production build, always the AEAD one. -/
abbrev Protector := GtpAeadProtector

namespace GtpAeadProtector

/-- `new_for_cid`. -/
def newForCid (key : Bytes 32) (iv : Bytes 12) (cid : ConnectionId) : GtpAeadProtector :=
  ⟨key, iv, some cid⟩

/-- `check_binding`. -/
def checkBinding (p : GtpAeadProtector) (connectionId : ConnectionId) : Result Unit :=
  match p.boundCid with
  | some bound => if bound ≠ connectionId then .error .cryptoFailure else .ok ()
  | none => .ok ()

/-- `derive_nonce`: the IV, xor the upper half of the connection id and the packet number. -/
def deriveNonce (p : GtpAeadProtector) (cid : ConnectionId) (pn : PacketNumber) : Bytes 12 :=
  ⟨List.zipWith (· ^^^ ·) p.iv.toList ((toBe 8 cid.toNat).take 4 ++ toBe 8 pn.toNat), by
    simp [p.iv.toList_length]⟩

variable [CryptoSuite]

/-- `seal`: the sealed length and the payload buffer afterwards. -/
def sealPayload (p : GtpAeadProtector) (pn : PacketNumber) (cid : ConnectionId) (aad : List UInt8)
    (payload : List UInt8) (payloadLen : Nat) : Result Nat × List UInt8 :=
  match p.checkBinding cid with
  | .error e => (.error e, payload)
  | .ok () =>
    if payload.length < payloadLen + aeadTagLen then (.error .bufferTooShort, payload)
    else
      match CryptoSuite.encrypt p.key (p.deriveNonce cid pn) aad (payload.take payloadLen) with
      | none => (.error .cryptoFailure, payload)
      | some (ct, tag) =>
        (.ok (payloadLen + aeadTagLen),
          ct ++ tag.toList ++ payload.drop (payloadLen + aeadTagLen))

/-- `open`: the plaintext.  A failed attempt leaves the buffer as it was. -/
def openPayload (p : GtpAeadProtector) (pn : PacketNumber) (cid : ConnectionId) (aad : List UInt8)
    (payload : List UInt8) (ciphertextLen : Nat) : Result (List UInt8) :=
  match p.checkBinding cid with
  | .error e => .error e
  | .ok () =>
    if ciphertextLen < aeadTagLen ∨ payload.length < ciphertextLen then .error .bufferTooShort
    else
      let plaintextLen := ciphertextLen - aeadTagLen
      let data := payload.take plaintextLen
      let tag := (payload.drop plaintextLen).take aeadTagLen
      match CryptoSuite.decrypt p.key (p.deriveNonce cid pn) aad data tag with
      | none => .error .cryptoFailure
      | some pt => .ok pt

end GtpAeadProtector

/-! ## 3. Keys (`handshake.rs`) -/

/-- `DirectionalKeys`. -/
structure DirectionalKeys where
  clientTxKey : Bytes 32
  clientTxIv : Bytes 12
  serverTxKey : Bytes 32
  serverTxIv : Bytes 12
  deriving DecidableEq

/-- `DirectionalKeys::for_role`: what the endpoint seals with, and what it opens with. -/
def DirectionalKeys.forRole (k : DirectionalKeys) (asClient : Bool) :
    (Bytes 32 × Bytes 12) × (Bytes 32 × Bytes 12) :=
  if asClient then ((k.clientTxKey, k.clientTxIv), (k.serverTxKey, k.serverTxIv))
  else ((k.serverTxKey, k.serverTxIv), (k.clientTxKey, k.clientTxIv))

/-- The bytes of an ASCII label. -/
def label (s : String) : List UInt8 := s.toList.map fun c => UInt8.ofNat c.toNat

/-- `ratchet_key`: key and IV of the next phase. -/
def ratchetKey [CryptoSuite] (currentKey : Bytes 32) (connectionId : ConnectionId)
    (keyPhase : Nat) : Bytes 32 × Bytes 12 :=
  let salt := label "GTP_V1_1_KEY_RATCHET_SALT"
  let info := toBe 8 connectionId.toNat ++ toBe 8 keyPhase
  (CryptoSuite.expand salt currentKey.toList (info ++ label "KEYPHASE") 32,
    CryptoSuite.expand salt currentKey.toList (info ++ label "KEYPH-IV") 12)

/-! ## 4. Replay window (`replay.rs`) -/

/-- `REPLAY_WINDOW_SIZE`. -/
def replayWindowSize : Nat := 128

/-- `ReplayWindow`: 128 bits behind the largest number seen. -/
structure ReplayWindow where
  largestSeen : Nat
  bitmap : UInt64 × UInt64
  initialized : Bool
  deriving DecidableEq, Repr

namespace ReplayWindow

/-- `ReplayWindow::new`. -/
def new : ReplayWindow := ⟨0, (0, 0), false⟩

/-- `is_bit_set`. -/
def isBitSet (w : ReplayWindow) (index : Nat) : Bool :=
  if index < 64 then w.bitmap.1 &&& (1 <<< UInt64.ofNat index) ≠ 0
  else if index < 128 then w.bitmap.2 &&& (1 <<< UInt64.ofNat (index - 64)) ≠ 0
  else false

/-- `set_bit`. -/
def setBit (w : ReplayWindow) (index : Nat) : ReplayWindow :=
  if index < 64 then
    { w with bitmap := (w.bitmap.1 ||| (1 <<< UInt64.ofNat index), w.bitmap.2) }
  else if index < 128 then
    { w with bitmap := (w.bitmap.1, w.bitmap.2 ||| (1 <<< UInt64.ofNat (index - 64))) }
  else w

/-- `shift_bitmap`. -/
def shiftBitmap (w : ReplayWindow) (shift : Nat) : ReplayWindow :=
  if 128 ≤ shift then { w with bitmap := (0, 0) }
  else if 64 ≤ shift then
    { w with bitmap := (0, w.bitmap.1 <<< UInt64.ofNat (shift - 64)) }
  else
    { w with
      bitmap := (w.bitmap.1 <<< UInt64.ofNat shift,
        (w.bitmap.2 <<< UInt64.ofNat shift) ||| (w.bitmap.1 >>> UInt64.ofNat (64 - shift))) }

/-- `check`. -/
def check (w : ReplayWindow) (packetNumber : PacketNumber) : Result Unit :=
  let pn := packetNumber.toNat
  if !w.initialized then .ok ()
  else if w.largestSeen < pn then .ok ()
  else
    let diff := w.largestSeen - pn
    if replayWindowSize ≤ diff then .error .replayDetected
    else if w.isBitSet diff then .error .replayDetected
    else .ok ()

/-- `commit`. -/
def commit (w : ReplayWindow) (packetNumber : PacketNumber) : ReplayWindow :=
  let pn := packetNumber.toNat
  if !w.initialized then
    { w with initialized := true, largestSeen := pn, bitmap := (1, w.bitmap.2) }
  else if w.largestSeen < pn then
    let shift := pn - w.largestSeen
    let w := if replayWindowSize ≤ shift then { w with bitmap := (0, 0) } else w.shiftBitmap shift
    { w with largestSeen := pn }.setBit 0
  else
    let diff := w.largestSeen - pn
    if diff < replayWindowSize then w.setBit diff else w

/-- The largest number seen is the old one or the new one. -/
theorem largestSeen_commit (w : ReplayWindow) (packetNumber : PacketNumber) :
    (w.commit packetNumber).largestSeen = w.largestSeen ∨
      (w.commit packetNumber).largestSeen = packetNumber.toNat := by
  have hset : ∀ (v : ReplayWindow) (i : Nat), (v.setBit i).largestSeen = v.largestSeen := by
    intro v i
    unfold setBit
    split
    · rfl
    · split <;> rfl
  unfold commit
  dsimp only
  split
  · exact Or.inr rfl
  · split
    · exact Or.inr (hset _ 0)
    · split
      · exact Or.inl (hset _ _)
      · exact Or.inl rfl

end ReplayWindow

/-! ## 5. A suite to evaluate with

The ciphertext is the plaintext and the tag is the front of the key; the ratchet keeps the first
eight bytes of a key and puts the phase behind them.  It has the two properties the results below
assume of the real suite, and it can be computed with. -/

/-- The tag of `keyTagSuite`. -/
def keyTag (key : Bytes 32) : Bytes 16 := ⟨key.toList.take 16, by simp⟩

/-- The key material of `keyTagSuite`. -/
def keyTagExpand (ikm info : List UInt8) (n : Nat) : Bytes n :=
  ⟨(ikm.take 8 ++ (info.drop 8).take 8 ++ List.replicate n 0).take n, by simp; omega⟩

/-- A suite whose tag names the key. -/
@[reducible] def keyTagSuite : CryptoSuite where
  encrypt key _ _ pt := some (pt, keyTag key)
  decrypt key _ _ ct tag := if tag = (keyTag key).toList then some ct else none
  expand _ ikm info n := keyTagExpand ikm info n
  encrypt_length h := by rw [(Prod.mk.inj (Option.some.inj h)).1]
  decrypt_length h := by
    split at h
    · rw [Option.some.inj h]
    · cases h

theorem keyTagSuite_roundTrips : @CryptoSuite.RoundTrips keyTagSuite := by
  intro key nonce aad pt ct tag h
  obtain ⟨rfl, rfl⟩ := Prod.mk.inj (Option.some.inj h)
  exact if_pos rfl

end Gtp
