/-
# An invalid `HandshakeFinish` at a server

The RX loop takes the pending handshake out of its map before it looks at the proof, and the cookie
speaks for the address of the sender only.  So a host with a cookie of its own can use up the
handshake of another, whose `HandshakeFinish` then finds nothing.  `invalid_finish_harmless_iff`
says exactly when an invalid `HandshakeFinish` leaves the server as it was.

* `onHandshakeFinish_invalid` is the handler on a proof that does not verify: past the cookie the
  cache is swept, and the pending handshake is gone unless the cache answers for its id.
* `Harmless`: the three maps of the server are the same, and so is its answer to every later
  `HandshakeFinish` for the id.  A sweep that takes something out is a change of the cache.
* `invalid_finish_consumes` is the run with two hosts.

The client whose handshake is gone is not told.  It tries again under the same id until it gives up,
which is the subject of `Gtp.Runtime.Traces`; that it could begin again with a new `ClientHello`,
and what that meets at the server, is left out here.
-/
import Gtp.Runtime.Steps

namespace Gtp

namespace GtpEndpoint

section

variable [KeyExchange] [CryptoSuite]

/-! ## 1. The handler on an invalid proof -/

/-- The proof does not verify against the pending handshake of its connection id. -/
def Invalid (ep : GtpEndpoint) (cid : ConnectionId) (clientProof : Bytes 32) : Prop :=
  ∀ pending, ep.pendingServerHandshakes[cid]? = some pending →
    ∀ shared, ep.serverSecret pending = some shared →
      verifyClientProof shared (serverTranscript pending cid) clientProof = false

instance (ep : GtpEndpoint) (cid : ConnectionId) (clientProof : Bytes 32) :
    Decidable (ep.Invalid cid clientProof) :=
  decidable_of_iff ((ep.pendingServerHandshakes[cid]?).all fun pending =>
    (ep.serverSecret pending).all fun shared =>
      !verifyClientProof shared (serverTranscript pending cid) clientProof) (by
    simp only [Invalid, Option.all_eq_true, Bool.not_eq_true'])

omit [KeyExchange] [CryptoSuite] in
/-- The cache without what has outlived it. -/
def sweptFinishes (ep : GtpEndpoint) (now : MonotonicTime) :
    Std.ExtTreeMap ConnectionId (Bytes 32 × SocketAddr × MonotonicTime) compare :=
  ep.acceptedFinishes.filter fun _ entry => decide (now - entry.2.2 ≤ handshakeLifetime)

/-- Past the cookie, the cache is swept, and the pending handshake is gone unless the cache answers
for its id. -/
theorem onHandshakeFinish_invalid {ep : GtpEndpoint} {cid : ConnectionId} {clientProof : Bytes 32}
    (h : ep.Invalid cid clientProof) {src : SocketAddr} {cookieEcho : Bytes 32}
    {now : MonotonicTime} (hcookie : ep.statelessTokens.verifyCookie src cookieEcho now = true) :
    (ep.onHandshakeFinish cid src cookieEcho clientProof now).1 =
      { ep with
        acceptedFinishes := ep.sweptFinishes now
        pendingServerHandshakes := if cid ∈ ep.sweptFinishes now then ep.pendingServerHandshakes
          else ep.pendingServerHandshakes.erase cid } := by
  rw [onHandshakeFinish_eq]
  rw [hcookie, Bool.not_true, if_neg Bool.false_ne_true]
  dsimp only
  rw [show (ep.acceptedFinishes.filter fun _ entry =>
    decide (now - entry.2.2 ≤ handshakeLifetime)) = ep.sweptFinishes now from rfl]
  cases hcached : (ep.sweptFinishes now)[cid]? with
  | some entry => rw [if_pos (Maps.mem_iff.mpr ⟨entry, hcached⟩)]
  | none =>
    rw [if_neg (Maps.not_mem_iff.mpr hcached)]
    dsimp only
    cases hpending : ep.pendingServerHandshakes[cid]? with
    | none => rw [(Maps.erase_eq_self_iff _ _).mpr (Maps.not_mem_iff.mpr hpending)]
    | some pending =>
      dsimp only
      split
      · rfl
      · rename_i shared hsecret
        rw [h pending hpending shared hsecret]
        rfl

/-! ## 2. When it is harmless -/

omit [KeyExchange] [CryptoSuite] in
/-- No entry of the cache has outlived it. -/
def NothingToSweep (ep : GtpEndpoint) (now : MonotonicTime) : Prop :=
  ∀ (id : ConnectionId) (entry : Bytes 32 × SocketAddr × MonotonicTime),
    ep.acceptedFinishes[id]? = some entry → now - entry.2.2 ≤ handshakeLifetime

omit [KeyExchange] [CryptoSuite] in
theorem sweptFinishes_eq_iff (ep : GtpEndpoint) (now : MonotonicTime) :
    ep.sweptFinishes now = ep.acceptedFinishes ↔ ep.NothingToSweep now := by
  rw [sweptFinishes, Maps.filter_eq_self_iff]
  simp only [decide_eq_true_eq]
  rfl

omit [KeyExchange] [CryptoSuite] in
/-- The maps of the server are the same. -/
structure SameServer (ep ep' : GtpEndpoint) : Prop where
  pending : ep'.pendingServerHandshakes = ep.pendingServerHandshakes
  accepted : ep'.acceptedFinishes = ep.acceptedFinishes
  connections : ep'.connections = ep.connections

/-- The server is the same, also to every later `HandshakeFinish` for the same connection id. -/
def Harmless (ep : GtpEndpoint) (cid : ConnectionId) (ep' : GtpEndpoint) : Prop :=
  SameServer ep ep' ∧ ∀ src cookieEcho clientProof now,
    (ep'.onHandshakeFinish cid src cookieEcho clientProof now).2 =
      (ep.onHandshakeFinish cid src cookieEcho clientProof now).2

/-- **When an invalid `HandshakeFinish` changes nothing.** Its cookie is refused, or the cache has
nothing to sweep and either answers for the connection id or there is no pending handshake to
consume.  The state of the server is any, reachable or not.  A `HandshakeFinish` whose proof
verifies is not the subject, nor is what the datagram costs the server in time. -/
theorem invalid_finish_harmless_iff (ep : GtpEndpoint) (cid : ConnectionId) (src : SocketAddr)
    (cookieEcho clientProof : Bytes 32) (now : MonotonicTime) (h : ep.Invalid cid clientProof) :
    Harmless ep cid (ep.onHandshakeFinish cid src cookieEcho clientProof now).1 ↔
      ep.statelessTokens.verifyCookie src cookieEcho now = false ∨
      ep.NothingToSweep now ∧ (cid ∈ ep.acceptedFinishes ∨ cid ∉ ep.pendingServerHandshakes) := by
  cases hcookie : ep.statelessTokens.verifyCookie src cookieEcho now with
  | false =>
    have hsame : (ep.onHandshakeFinish cid src cookieEcho clientProof now).1 = ep := by
      rw [onHandshakeFinish_eq]
      rw [hcookie]
      rfl
    rw [hsame]
    exact iff_of_true ⟨⟨rfl, rfl, rfl⟩, fun _ _ _ _ => rfl⟩ (Or.inl rfl)
  | true =>
    rw [onHandshakeFinish_invalid h hcookie, ← sweptFinishes_eq_iff]
    constructor
    · rintro ⟨⟨hpending, haccepted, -⟩, -⟩
      dsimp only at hpending haccepted
      refine Or.inr ⟨haccepted, ?_⟩
      rw [haccepted] at hpending
      by_cases hcached : cid ∈ ep.acceptedFinishes
      · exact Or.inl hcached
      · rw [if_neg hcached, Maps.erase_eq_self_iff] at hpending
        exact Or.inr hpending
    · rintro (hfalse | ⟨haccepted, hcid⟩)
      · cases hfalse
      · have hpending : (if cid ∈ ep.acceptedFinishes then ep.pendingServerHandshakes
            else ep.pendingServerHandshakes.erase cid) = ep.pendingServerHandshakes := by
          split
          · rfl
          · rename_i hcached
            exact (Maps.erase_eq_self_iff _ _).mpr (hcid.resolve_left hcached)
        rw [haccepted, hpending]
        exact ⟨⟨rfl, rfl, rfl⟩, fun _ _ _ _ => rfl⟩

end

/-! ## 3. Another host uses up a handshake -/

namespace Finish

attribute [local instance] labelSuite additiveExchange

/-- A key, a nonce or a proof of one byte. -/
def byte (b : UInt8) : Bytes 32 := List.Vector.replicate 32 b

/-- The client, and the other host. -/
def client : SocketAddr := ⟨2, 5000⟩
def other : SocketAddr := ⟨3, 6000⟩

/-- A `ClientHello` of a host. -/
def hello (src : SocketAddr) (cid : ConnectionId) (b : UInt8) : Event :=
  .receive src ((handshakePacket 256 cid 0 (.clientHello (byte b) (byte (b + 1))
    protocolVersion)).toOption.getD []) 1000 (byte (b + 2)) (byte (b + 3))

/-- The server after a `ClientHello` of each. -/
def greeted : GtpEndpoint := (bind (byte 9) none none).run [hello client 7 1, hello other 8 11]

theorem reachable_greeted : Reachable greeted := ⟨_, _, _, _, rfl⟩

/-- The proof that the client computes. -/
def proof : Bytes 32 :=
  ((greeted.pendingServerHandshakes[(7 : ConnectionId)]?).bind fun pending =>
    (greeted.serverSecret pending).map fun shared =>
      computeClientProof shared (serverTranscript pending 7)).getD (byte 0)

/-- The server after a `HandshakeFinish` for the client's id, with the cookie of its sender. -/
def finish (src : SocketAddr) (clientProof : Bytes 32) (ep : GtpEndpoint) :
    GtpEndpoint × List Outgoing :=
  ep.onHandshakeFinish 7 src (greeted.statelessTokens.generateCookie src 1000) clientProof 2000

/-- The theorem at a `HandshakeFinish` whose cookie is refused. -/
theorem invalid_finish_without_cookie : greeted.Invalid 7 (byte 0) ∧
    Harmless greeted 7 (greeted.onHandshakeFinish 7 other (byte 0) (byte 0) 2000).1 := by
  have hinvalid : greeted.Invalid 7 (byte 0) := by decide +kernel
  exact ⟨hinvalid, (invalid_finish_harmless_iff greeted 7 other (byte 0) (byte 0) 2000
    hinvalid).mpr (Or.inl (by decide +kernel))⟩

/-- **The handshake is used up.**  The other host holds a cookie of its own and no proof; after its
`HandshakeFinish` the pending handshake is gone, and the client's is not answered. -/
theorem invalid_finish_consumes : Reachable greeted ∧ greeted.Invalid 7 (byte 0) ∧
    (greeted.pendingServerHandshakes[(7 : ConnectionId)]?).isSome ∧
    (finish other (byte 0) greeted).1.pendingServerHandshakes[(7 : ConnectionId)]? = none ∧
    (finish client proof greeted).2.length = 1 ∧
    (finish client proof (finish other (byte 0) greeted).1).2 = [] := by
  refine ⟨reachable_greeted, ?_⟩
  decide +kernel

end Finish

end GtpEndpoint

end Gtp
