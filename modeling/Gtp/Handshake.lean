/-
# The handshake's cryptography (`gtp-crypto/src/handshake.rs`, `gtp-path/src/stateless_token.rs`)

X25519, HMAC and HKDF are third-party code; the first two enter the model as `KeyExchange`, with the
test for a contributory result and the text of an address that the cookie is made from, the third is
`CryptoSuite.expand`.  What is built from them is the source's own: the session secret with its
static term, the directional keys, the transcript, the two confirmation proofs and the cookie.

The proofs are what agreement rests on.  Outputs of 32 bytes cannot be different for all inputs, so
that the primitives are ideal is said of the inputs that occur (`Ideal`): among these, equal proofs
come from equal secrets and transcripts (`Ideal.serverProof_inj`).  The transcript's bytes name it,
since its fields have fixed lengths (`HandshakeTranscript.bytes_inj`).

A random number is an argument: whoever calls `generate` supplies the bytes that the random source
gives.  Comparisons take the time they take; that the source's are in constant time is not modelled.
-/
import Gtp.Crypto
import Gtp.Wire.RoundTrip

namespace Gtp

open BigEndian

/-! ## 1. The primitives -/

/-- X25519 and HMAC-SHA256, and the text of an address as the standard library prints it. -/
class KeyExchange where
  /-- `PublicKey::from(&secret)`. -/
  publicKey : Bytes 32 → Bytes 32
  /-- `secret.diffie_hellman(&public)`. -/
  diffieHellman : Bytes 32 → Bytes 32 → Bytes 32
  /-- `shared.was_contributory()`. -/
  wasContributory : Bytes 32 → Bool
  /-- HMAC-SHA256 under a key, of a message. -/
  hmac : List UInt8 → List UInt8 → Bytes 32
  /-- `addr.to_string().as_bytes()`. -/
  addrText : SocketAddr → List UInt8

/-! ## 2. The session secret -/

/-- `HandshakeSharedSecret`: the ephemeral term and the static term. -/
structure HandshakeSharedSecret where
  ephemeral : Bytes 32
  static : Bytes 32
  deriving DecidableEq

/-- `HandshakeSharedSecret::new`: the static term reads as zeros. -/
def HandshakeSharedSecret.new (secret : Bytes 32) : HandshakeSharedSecret :=
  ⟨secret, List.Vector.replicate 32 0⟩

/-- `as_bytes`. -/
def HandshakeSharedSecret.asBytes (s : HandshakeSharedSecret) : List UInt8 :=
  s.ephemeral.toList ++ s.static.toList

/-- `EphemeralKeyPair`. -/
structure EphemeralKeyPair where
  secret : Bytes 32
  publicKey : Bytes 32
  nonce : Bytes 32
  deriving DecidableEq

/-- `StaticIdentity`. -/
structure StaticIdentity where
  secret : Bytes 32
  deriving DecidableEq

section Exchange

variable [KeyExchange]

namespace EphemeralKeyPair

/-- `EphemeralKeyPair::generate`, from the bytes that the random source gives. -/
def generate (secret nonce : Bytes 32) : EphemeralKeyPair :=
  ⟨secret, KeyExchange.publicKey secret, nonce⟩

/-- `compute_shared_secret_raw`; `none` is the refusal of a non-contributory key. -/
def computeSharedSecretRaw (secret peerPublicKey : Bytes 32) : Option (Bytes 32) :=
  let shared := KeyExchange.diffieHellman secret peerPublicKey
  if KeyExchange.wasContributory shared then some shared else none

/-- `compute_shared_secret`. -/
def computeSharedSecret (pair : EphemeralKeyPair) (peerPublicKey : Bytes 32) :
    Option HandshakeSharedSecret :=
  (computeSharedSecretRaw pair.secret peerPublicKey).map .new

/-- `compute_shared_secret_with_static`. -/
def computeSharedSecretWithStatic (pair : EphemeralKeyPair)
    (peerEphemeralPublicKey serverStaticPk : Bytes 32) : Option HandshakeSharedSecret := do
  let ephemeral ← computeSharedSecretRaw pair.secret peerEphemeralPublicKey
  let static ← computeSharedSecretRaw pair.secret serverStaticPk
  return ⟨ephemeral, static⟩

end EphemeralKeyPair

/-- `StaticIdentity::public_key`. -/
def StaticIdentity.publicKey (identity : StaticIdentity) : Bytes 32 :=
  KeyExchange.publicKey identity.secret

/-- `StaticIdentity::complete_server_session`. -/
def StaticIdentity.completeServerSession (identity : StaticIdentity) (pair : EphemeralKeyPair)
    (clientPublicKey : Bytes 32) : Option HandshakeSharedSecret := do
  let ephemeral ← EphemeralKeyPair.computeSharedSecretRaw pair.secret clientPublicKey
  let static ← EphemeralKeyPair.computeSharedSecretRaw identity.secret clientPublicKey
  return ⟨ephemeral, static⟩

end Exchange

/-! ## 3. Session keys -/

/-- The `info` of the key schedule: label, suffix and connection id, 24 bytes. -/
def scheduleInfo (name suffix : String) (cid : ConnectionId) : List UInt8 :=
  label name ++ label suffix ++ toBe 8 cid.toNat

/-- `derive_directional_handshake_session_keys`. -/
def deriveDirectionalHandshakeSessionKeys [CryptoSuite] (sharedSecret : HandshakeSharedSecret)
    (clientNonce serverNonce : Bytes 32) (connectionId : ConnectionId) : DirectionalKeys :=
  let ikm := sharedSecret.asBytes ++ clientNonce.toList ++ serverNonce.toList
  let masterKey := CryptoSuite.expand (label "GTP_V1_1_X25519_SESSION_KEY_EXCHANGE") ikm
    (scheduleInfo "master  " "key     " connectionId) 32
  let expand := fun (name : String) (n : Nat) =>
    CryptoSuite.expand (label "GTP_V1_1_TRAFFIC_KEY_SCHEDULE") masterKey.toList
      (scheduleInfo name "gtp/v1  " connectionId) n
  { clientTxKey := expand "c2s key " 32
    clientTxIv := expand "c2s iv  " 12
    serverTxKey := expand "s2c key " 32
    serverTxIv := expand "s2c iv  " 12 }

/-! ## 4. Confirmation proofs -/

/-- `PROTOCOL_VERSION`. -/
def protocolVersion : UInt32 := 3

/-- `HandshakeTranscript`. -/
structure HandshakeTranscript where
  clientPk : Bytes 32
  serverPk : Bytes 32
  clientNonce : Bytes 32
  serverNonce : Bytes 32
  connectionId : ConnectionId
  version : UInt32
  deriving DecidableEq

/-- `update_with_transcript`: what the MAC is fed after the label. -/
def HandshakeTranscript.bytes (t : HandshakeTranscript) : List UInt8 :=
  t.clientPk.toList ++ t.serverPk.toList ++ t.clientNonce.toList ++ t.serverNonce.toList ++
    toBe 8 t.connectionId.toNat ++ toBe 4 t.version.toNat

section Proofs

variable [CryptoSuite] [KeyExchange]

omit [KeyExchange] in
/-- `confirmation_key`. -/
def confirmationKey (sharedSecret : HandshakeSharedSecret) : Bytes 32 :=
  CryptoSuite.expand (label "GTP_V1_1_CONFIRM_SALT") sharedSecret.asBytes
    (label "gtp/v1 handshake finished key") 32

/-- The MAC of both proofs, under the label of one. -/
def computeProof (name : String) (sharedSecret : HandshakeSharedSecret)
    (transcript : HandshakeTranscript) : Bytes 32 :=
  KeyExchange.hmac (confirmationKey sharedSecret).toList (label name ++ transcript.bytes)

/-- `compute_client_proof`. -/
def computeClientProof (sharedSecret : HandshakeSharedSecret) (transcript : HandshakeTranscript) :
    Bytes 32 :=
  computeProof "gtp-handshake-finish" sharedSecret transcript

/-- `verify_client_proof`. -/
def verifyClientProof (sharedSecret : HandshakeSharedSecret) (transcript : HandshakeTranscript)
    (candidateProof : Bytes 32) : Bool :=
  decide (computeClientProof sharedSecret transcript = candidateProof)

/-- `compute_server_proof`. -/
def computeServerProof (sharedSecret : HandshakeSharedSecret) (transcript : HandshakeTranscript) :
    Bytes 32 :=
  computeProof "gtp-handshake-server-finish" sharedSecret transcript

/-- `verify_server_proof`. -/
def verifyServerProof (sharedSecret : HandshakeSharedSecret) (transcript : HandshakeTranscript)
    (candidateProof : Bytes 32) : Bool :=
  decide (computeServerProof sharedSecret transcript = candidateProof)

end Proofs

/-! ## 5. The cookie -/

/-- `TOKEN_LIFETIME`. -/
def tokenLifetime : Duration := Duration.fromSecs 10

/-- `StatelessTokenManager`. -/
structure StatelessTokenManager where
  secret : Bytes 32
  deriving DecidableEq

namespace StatelessTokenManager

variable [KeyExchange]

/-- `mac`. -/
def mac (m : StatelessTokenManager) (addr : SocketAddr) (tsBytes : List UInt8) : Bytes 32 :=
  KeyExchange.hmac m.secret.toList (label "GTP-COOKIE-V1" ++ KeyExchange.addrText addr ++ tsBytes)

/-- `generate_cookie`: the time in the clear, and 24 bytes of the MAC. -/
def generateCookie (m : StatelessTokenManager) (addr : SocketAddr) (now : MonotonicTime) :
    Bytes 32 :=
  ⟨toBe 8 now ++ (m.mac addr (toBe 8 now)).toList.take 24, by simp⟩

/-- `verify_cookie`. -/
def verifyCookie (m : StatelessTokenManager) (addr : SocketAddr) (cookie : Bytes 32)
    (now : MonotonicTime) : Bool :=
  let tsBytes := cookie.toList.take 8
  let tokenTime : MonotonicTime := ofBe tsBytes
  if now < tokenTime then false
  else if tokenLifetime < now - tokenTime then false
  else decide (cookie.toList.drop 8 = (m.mac addr tsBytes).toList.take 24)

end StatelessTokenManager

/-! ## 6. Ideal primitives -/

theorem HandshakeSharedSecret.asBytes_inj {s s' : HandshakeSharedSecret}
    (h : s.asBytes = s'.asBytes) : s = s' := by
  obtain ⟨e, t⟩ := s
  obtain ⟨e', t'⟩ := s'
  have hlen : e.toList.length = e'.toList.length := by simp
  obtain ⟨he, ht⟩ := List.append_inj h hlen
  rw [List.Vector.eq e e' he, List.Vector.eq t t' ht]

/-- The fields have fixed lengths, so the bytes name the transcript. -/
theorem HandshakeTranscript.bytes_inj {t t' : HandshakeTranscript} (h : t.bytes = t'.bytes) :
    t = t' := by
  unfold bytes at h
  obtain ⟨h, hversion⟩ := List.append_inj' h (by simp)
  obtain ⟨h, hcid⟩ := List.append_inj' h (by simp)
  obtain ⟨h, hserverNonce⟩ := List.append_inj' h (by simp)
  obtain ⟨h, hclientNonce⟩ := List.append_inj' h (by simp)
  obtain ⟨hclientPk, hserverPk⟩ := List.append_inj' h (by simp)
  have hversion := UInt32.toNat_inj.mp
    (toBe_injective t.version.toNat_lt t'.version.toNat_lt hversion)
  have hcid := UInt64.toNat_inj.mp
    (toBe_injective t.connectionId.toNat_lt t'.connectionId.toNat_lt hcid)
  obtain ⟨clientPk, serverPk, clientNonce, serverNonce, cid, version⟩ := t
  obtain ⟨clientPk', serverPk', clientNonce', serverNonce', cid', version'⟩ := t'
  simp only at hversion hcid hserverNonce hclientNonce hclientPk hserverPk
  rw [hversion, hcid, List.Vector.eq _ _ hserverNonce, List.Vector.eq _ _ hclientNonce,
    List.Vector.eq _ _ hserverPk, List.Vector.eq _ _ hclientPk]

/-- A secret and a transcript, of which proofs are computed. -/
abbrev Confirmation := HandshakeSharedSecret × HandshakeTranscript

/-- On the inputs that occur, HKDF and HMAC have equal outputs only for equal inputs. -/
structure Ideal [CryptoSuite] [KeyExchange] (used : List Confirmation) : Prop where
  hkdf : ∀ p ∈ used, ∀ q ∈ used, confirmationKey p.1 = confirmationKey q.1 →
    p.1.asBytes = q.1.asBytes
  hmac : ∀ p ∈ used, ∀ q ∈ used, computeServerProof p.1 p.2 = computeServerProof q.1 q.2 →
    (confirmationKey p.1).toList = (confirmationKey q.1).toList ∧
      label "gtp-handshake-server-finish" ++ p.2.bytes =
        label "gtp-handshake-server-finish" ++ q.2.bytes

instance [CryptoSuite] [KeyExchange] (used : List Confirmation) : Decidable (Ideal used) :=
  decidable_of_iff _ ⟨fun h => Ideal.mk h.1 h.2, fun h => And.intro h.hkdf h.hmac⟩

/-- Equal proofs come from equal secrets and transcripts. -/
theorem Ideal.serverProof_inj [CryptoSuite] [KeyExchange] {used : List Confirmation}
    (h : Ideal used) {p q : Confirmation} (hp : p ∈ used) (hq : q ∈ used)
    (heq : computeServerProof p.1 p.2 = computeServerProof q.1 q.2) : p = q := by
  obtain ⟨hkey, hbytes⟩ := h.hmac p hp q hq heq
  have hsecret := h.hkdf p hp q hq (List.Vector.eq _ _ hkey)
  exact Prod.ext (HandshakeSharedSecret.asBytes_inj hsecret)
    (HandshakeTranscript.bytes_inj (List.append_cancel_left hbytes))

/-! ## 7. Primitives to evaluate with

A public key is its secret and the shared point is the sum of both; key material begins with its
label, and a MAC shows its key, a part of its label and the end of its message. -/

/-- The first `n` bytes, filled up with zeros. -/
def fit (n : Nat) (l : List UInt8) : Bytes n := ⟨(l ++ List.replicate n 0).take n, by simp⟩

/-- A suite whose key material begins with the label. -/
@[reducible] def labelSuite : CryptoSuite :=
  { keyTagSuite with expand := fun _ ikm info n => fit n (info.take 4 ++ ikm) }

/-- An exchange that can be computed with. -/
@[reducible] def additiveExchange : KeyExchange where
  publicKey secret := secret
  diffieHellman secret pk := fit 32 (List.zipWith (· + ·) secret.toList pk.toList)
  wasContributory shared := decide (shared ≠ List.Vector.replicate 32 0)
  hmac key message :=
    fit 32 (key.take 8 ++ (message.drop 14).take 8 ++ message.reverse.take 16)
  addrText addr := toBe 8 addr.ip ++ toBe 2 addr.port.toNat

end Gtp
