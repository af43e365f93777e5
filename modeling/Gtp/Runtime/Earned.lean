/-
# What it takes to be registered at a server

An endpoint that listens registers a connection of its own accord in one place, on a
`HandshakeFinish`.  `connections_earned` says what has come before: the sender has the cookie that
this server generates for its address at a time within the last ten seconds, a `ClientHello` that
passed the rate limit began the handshake, the sender knows the secret that this `ClientHello` leads
to, and the id was free.

The pending handshake has been in the map from that `ClientHello` on, and it is gone afterwards.  So
no `ClientHello` leads to two connections, and every wrong proof costs its sender a new one.

Two things this does not say.  The cookie has the *value* that `generate_cookie` gives; that its
sender received it from the server would need a MAC that cannot be forged, which is no property of
the code.  And the id was free when the datagram was handled, which is one step here: a registration
of the same id by another task between the look at the map and the insertion is what
`Gtp.Runtime.Sections` calls in the way, and the insertion then replaces it.

`FinishOutcome` is the handler of `HandshakeFinish` branch by branch; the bound on the replies in
`Gtp.Runtime.Replies` goes by the same cases.
-/
import Gtp.Runtime.Finishes
import Gtp.Lib.Runs

namespace Gtp

open BigEndian

/-! ## 1. Cookies -/

section Cookies

variable [KeyExchange]

/-- **The cookies of an address.**  A cookie verifies when it was generated for this address, by
this server, and at most ten seconds ago. -/
theorem StatelessTokenManager.verifyCookie_iff (m : StatelessTokenManager) (addr : SocketAddr)
    (cookie : Bytes 32) (now : MonotonicTime) : m.verifyCookie addr cookie now = true ↔
      ∃ issued : MonotonicTime, issued < 2 ^ 64 ∧ issued ≤ now ∧ now - issued ≤ tokenLifetime ∧
        cookie = m.generateCookie addr issued := by
  have hlen : (cookie.toList.take 8).length = 8 := by simp
  constructor
  · intro h
    unfold verifyCookie at h
    dsimp only at h
    split at h
    · cases h
    · rename_i hpast
      split at h
      · cases h
      · rename_i hfresh
        have hmac := of_decide_eq_true h
        have htime : ofBe (cookie.toList.take 8) < 256 ^ 8 := by
          have hlt := ofBe_lt (cookie.toList.take 8)
          rwa [hlen] at hlt
        have hspelled : toBe 8 (ofBe (cookie.toList.take 8)) = cookie.toList.take 8 := by
          have htoBe := toBe_ofBe (cookie.toList.take 8)
          rwa [hlen] at htoBe
        refine ⟨ofBe (cookie.toList.take 8), htime, Nat.not_lt.mp hpast, Nat.not_lt.mp hfresh, ?_⟩
        refine List.Vector.eq _ _ ?_
        change cookie.toList = toBe 8 (ofBe (cookie.toList.take 8)) ++
          (m.mac addr (toBe 8 (ofBe (cookie.toList.take 8)))).toList.take 24
        rw [hspelled, ← hmac, List.take_append_drop]
  · rintro ⟨issued, hfits, hpast, hfresh, rfl⟩
    have htake : (m.generateCookie addr issued).toList.take 8 = toBe 8 issued :=
      List.take_left' (length_toBe 8 issued)
    have hdrop : (m.generateCookie addr issued).toList.drop 8 =
        (m.mac addr (toBe 8 issued)).toList.take 24 :=
      List.drop_left' (length_toBe 8 issued)
    have htime : ofBe (toBe 8 issued) = issued := ofBe_toBe_of_lt hfits
    unfold verifyCookie
    dsimp only
    rw [htake, hdrop, htime, if_neg (Nat.not_lt.mpr hpast), if_neg (Nat.not_lt.mpr hfresh)]
    exact decide_eq_true rfl

end Cookies

namespace GtpEndpoint

section

variable [KeyExchange] [CryptoSuite]

/-! ## 2. What concerns the server's side -/

omit [KeyExchange] [CryptoSuite] in
/-- What the handlers of `ClientHello` and `HandshakeFinish` work with, apart from the map of
connections. -/
def serverSide (ep : GtpEndpoint) : StatelessTokenManager × Option StaticIdentity ×
    Std.ExtTreeMap ConnectionId PendingServerHandshake compare ×
    Std.ExtTreeMap ConnectionId (Bytes 32 × SocketAddr × MonotonicTime) compare :=
  (ep.statelessTokens, ep.staticIdentity, ep.pendingServerHandshakes, ep.acceptedFinishes)

/-- The server's side after a `HandshakeFinish`, with the answer to it. -/
inductive FinishOutcome (ep : GtpEndpoint) (cid : ConnectionId) (src : SocketAddr)
    (cookieEcho clientProof : Bytes 32) (now : MonotonicTime) : GtpEndpoint × List Outgoing → Prop
  /-- The cookie does not verify. -/
  | refused (hcookie : ep.statelessTokens.verifyCookie src cookieEcho now = false) :
    FinishOutcome ep cid src cookieEcho clientProof now (ep, [])
  /-- The cache answers. -/
  | cached (proof : Bytes 32) (dest : SocketAddr) (t : MonotonicTime)
      (hcached : (ep.sweptFinishes now)[cid]? = some (proof, dest, t)) :
    FinishOutcome ep cid src cookieEcho clientProof now
      ({ ep with acceptedFinishes := ep.sweptFinishes now }, sendServerFinish cid proof dest)
  /-- No handshake of this id is pending, or its proof is wrong. -/
  | failed : FinishOutcome ep cid src cookieEcho clientProof now
      ({ ep with
        acceptedFinishes := ep.sweptFinishes now
        pendingServerHandshakes := ep.pendingServerHandshakes.erase cid }, [])
  /-- The handshake is complete. -/
  | accepted (pending : PendingServerHandshake) (shared : HandshakeSharedSecret)
      (hcookie : ep.statelessTokens.verifyCookie src cookieEcho now = true)
      (hpending : ep.pendingServerHandshakes[cid]? = some pending)
      (hshared : ep.serverSecret pending = some shared)
      (hproof : clientProof = computeClientProof shared (serverTranscript pending cid))
      (ep' : GtpEndpoint) (hside : ep'.serverSide =
        (ep.statelessTokens, ep.staticIdentity, ep.pendingServerHandshakes.erase cid,
          (ep.sweptFinishes now).insert cid
            (computeServerProof shared (serverTranscript pending cid), src, now)))
      (harena : ep'.arena = ep.arena ∧ ep'.connections = ep.connections ∨
        cid ∉ ep.connections ∧
        ep'.arena = ep.arena ++ [⟨GtpConnection.newWithDirectionalKeys cid src
          (sessionKeys (shared, serverTranscript pending cid)) false true .competitiveFps, [],
          true⟩] ∧
        ep'.connections = ep.connections.insert cid ep.arena.length) :
    FinishOutcome ep cid src cookieEcho clientProof now
      (ep', sendServerFinish cid (computeServerProof shared (serverTranscript pending cid)) src)

/-- **A `HandshakeFinish`**, branch by branch. -/
theorem onHandshakeFinish_outcome (ep : GtpEndpoint) (cid : ConnectionId) (src : SocketAddr)
    (cookieEcho clientProof : Bytes 32) (now : MonotonicTime) :
    FinishOutcome ep cid src cookieEcho clientProof now
      (ep.onHandshakeFinish cid src cookieEcho clientProof now) := by
  rw [onHandshakeFinish_eq]
  cases hcookie : ep.statelessTokens.verifyCookie src cookieEcho now with
  | false => exact .refused hcookie
  | true =>
    rw [Bool.not_true, if_neg Bool.false_ne_true]
    dsimp only
    rw [show (ep.acceptedFinishes.filter fun _ entry =>
      decide (now - entry.2.2 ≤ handshakeLifetime)) = ep.sweptFinishes now from rfl]
    cases hcached : (ep.sweptFinishes now)[cid]? with
    | some entry =>
      obtain ⟨proof, dest, t⟩ := entry
      exact .cached proof dest t hcached
    | none =>
      dsimp only
      cases hpending : ep.pendingServerHandshakes[cid]? with
      | none =>
        have herase := (Maps.erase_eq_self_iff ep.pendingServerHandshakes cid).mpr
          (Maps.not_mem_iff.mpr hpending)
        have hfailed : FinishOutcome ep cid src cookieEcho clientProof now
            ({ ep with
              acceptedFinishes := ep.sweptFinishes now
              pendingServerHandshakes := ep.pendingServerHandshakes.erase cid }, []) := .failed
        rwa [herase] at hfailed
      | some pending =>
        dsimp only
        split
        · exact .failed
        · rename_i shared hshared
          cases hproof : verifyClientProof shared (serverTranscript pending cid) clientProof with
          | false => exact .failed
          | true =>
            have hclient := (of_decide_eq_true hproof).symm
            rw [Bool.not_true, if_neg Bool.false_ne_true]
            unfold acceptConnection
            split
            · exact .accepted pending shared hcookie hpending hshared hclient _ rfl
                (Or.inl ⟨rfl, rfl⟩)
            · rename_i hfree
              exact .accepted pending shared hcookie hpending hshared hclient _ rfl
                (Or.inr ⟨hfree, rfl, rfl⟩)

/-- The handshake that a `ClientHello` begins: it passes the rate limit, and no handshake with the
same client material is pending. -/
structure Begins (cid : ConnectionId) (pending : PendingServerHandshake) (ep : GtpEndpoint)
    (e : Event) : Prop where
  hello : ∃ datagram secret nonce, e = .receive pending.src datagram pending.started secret nonce ∧
    Carries datagram cid (.clientHello pending.clientPk pending.clientNonce protocolVersion) ∧
    pending.pair = EphemeralKeyPair.generate secret nonce
  admitted : (ep.helloRateLimiter.allow pending.src.ip pending.started (Duration.fromSecs 1) 20).1 =
    true

omit [CryptoSuite] in
/-- A `ClientHello` begins a handshake, or it begins none. -/
theorem onClientHello_pending (ep : GtpEndpoint) (cid : ConnectionId) (src : SocketAddr)
    {datagram : List UInt8} {pk clientNonce : Bytes 32} {version : UInt32} (now : MonotonicTime)
    (secret nonce : Bytes 32) (h : Carries datagram cid (.clientHello pk clientNonce version))
    {i : ConnectionId} {pending : PendingServerHandshake}
    (hpending : (ep.onClientHello cid src pk clientNonce version now secret
      nonce).1.pendingServerHandshakes[i]? = some pending) :
    ep.pendingServerHandshakes[i]? = some pending ∨
      Begins i pending ep (.receive src datagram now secret nonce) := by
  unfold onClientHello at hpending
  split at hpending
  · exact Or.inl hpending
  · rename_i hversion
    obtain rfl := not_not.mp hversion
    dsimp only at hpending
    split at hpending
    · exact Or.inl hpending
    · rename_i hallowed
      dsimp only at hpending
      split at hpending
      · exact Or.inl (getElem?_of_filter hpending)
      · rw [Maps.getElem?_insert] at hpending
        split at hpending
        · rename_i hid
          obtain rfl := hid
          obtain rfl := Option.some.inj hpending
          exact Or.inr ⟨⟨datagram, secret, nonce, rfl, h, rfl⟩, by simpa using hallowed⟩
        · exact Or.inl (getElem?_of_filter hpending)

omit [KeyExchange] in
theorem onData_serverSide (ep : GtpEndpoint) (cid : ConnectionId) (src : SocketAddr)
    (datagram : List UInt8) (now : MonotonicTime) :
    (ep.onData cid src datagram now).serverSide = ep.serverSide := by
  unfold onData
  split
  · rfl
  · split
    · rfl
    · dsimp only
      split
      · split <;> rfl
      · split <;> rfl

theorem advance_serverSide (ep : GtpEndpoint) (id : Nat) (call : ConnectCall)
    (failure : Option String) : (ep.advance id call failure).1.serverSide = ep.serverSide := by
  unfold advance
  dsimp only
  split
  · split <;> rfl
  · split
    · rfl
    · split
      · rfl
      · split
        · rfl
        · split <;> rfl
  · rfl
  · split <;> rfl
  · rfl
  · rfl
  · split
    · split <;> rfl
    · split
      · rfl
      · split <;> rfl
  · rfl
  · split <;> rfl
  · rfl

/-- What an event does to the server's side. -/
inductive ServerStep (ep : GtpEndpoint) : Event → GtpEndpoint → Prop
  | aside {e : Event} {ep' : GtpEndpoint} (hside : ep'.serverSide = ep.serverSide) :
    ServerStep ep e ep'
  | clientHello {src : SocketAddr} {datagram : List UInt8} {now : MonotonicTime}
      {secret nonce : Bytes 32} {cid : ConnectionId} {pk clientNonce : Bytes 32} {version : UInt32}
      (h : Carries datagram cid (.clientHello pk clientNonce version)) :
    ServerStep ep (.receive src datagram now secret nonce)
      (ep.onClientHello cid src pk clientNonce version now secret nonce).1
  | handshakeFinish {src : SocketAddr} {datagram : List UInt8} {now : MonotonicTime}
      {secret nonce : Bytes 32} {cid : ConnectionId} {cookie proof : Bytes 32}
      (h : Carries datagram cid (.handshakeFinish cookie proof)) :
    ServerStep ep (.receive src datagram now secret nonce)
      (ep.onHandshakeFinish cid src cookie proof now).1

/-- **Every event.** -/
theorem step_serverStep (ep : GtpEndpoint) (e : Event) : ServerStep ep e (ep.step e) := by
  cases e with
  | receive src datagram now secret nonce =>
    have h := ep.onDatagram_received src datagram now secret nonce
    change ServerStep ep _ (ep.onDatagram src datagram now secret nonce).1
    generalize ep.onDatagram src datagram now secret nonce = r at h
    cases h with
    | dropped => exact .aside rfl
    | clientHello hcarries => exact .clientHello hcarries
    | serverHello hcarries =>
      refine .aside ?_
      unfold onServerHello
      split <;> rfl
    | handshakeFinish hcarries => exact .handshakeFinish hcarries
    | serverFinish hcarries =>
      refine .aside ?_
      unfold onServerFinish
      split <;> rfl
    | data hdata => exact .aside (ep.onData_serverSide ..)
  | poll id failure =>
    refine .aside ?_
    unfold step handle
    dsimp only
    split
    · exact ep.advance_serverSide ..
    · rfl
  | engine handle op =>
    refine .aside ?_
    unfold step GtpEndpoint.handle
    dsimp only
    split <;> rfl
  | _ => exact .aside rfl

theorem step_identity (ep : GtpEndpoint) (e : Event) :
    (ep.step e).statelessTokens = ep.statelessTokens ∧
      (ep.step e).staticIdentity = ep.staticIdentity := by
  have h := ep.step_serverStep e
  generalize ep.step e = ep' at h
  cases h with
  | aside hside =>
    simp only [serverSide, Prod.mk.injEq] at hside
    exact ⟨hside.1, hside.2.1⟩
  | @clientHello src datagram now secret nonce cid pk clientNonce version hcarries =>
    obtain ⟨limiter, pending, heq, -⟩ :=
      ep.onClientHello_spec cid src pk clientNonce version now secret nonce
    rw [heq]
    exact ⟨rfl, rfl⟩
  | @handshakeFinish src datagram now secret nonce cid cookie proof hcarries =>
    have hout := ep.onHandshakeFinish_outcome cid src cookie proof now
    generalize ep.onHandshakeFinish cid src cookie proof now = r at hout
    cases hout with
    | refused => exact ⟨rfl, rfl⟩
    | cached => exact ⟨rfl, rfl⟩
    | failed => exact ⟨rfl, rfl⟩
    | accepted pending shared hcookie hpending hshared hproof ep' hside harena =>
      simp only [serverSide, Prod.mk.injEq] at hside
      exact ⟨hside.1, hside.2.1⟩

theorem run_identity (ep : GtpEndpoint) (events : List Event) :
    (ep.run events).statelessTokens = ep.statelessTokens ∧
      (ep.run events).staticIdentity = ep.staticIdentity := by
  induction events generalizing ep with
  | nil => exact ⟨rfl, rfl⟩
  | cons e events ih =>
    obtain ⟨htokens, hidentity⟩ := ep.step_identity e
    obtain ⟨htokens', hidentity'⟩ := ih (ep.step e)
    exact ⟨htokens'.trans htokens, hidentity'.trans hidentity⟩

/-- A pending handshake was pending before, or the event began it. -/
theorem step_pending (ep : GtpEndpoint) (e : Event) {cid : ConnectionId}
    {pending : PendingServerHandshake}
    (hpending : (ep.step e).pendingServerHandshakes[cid]? = some pending) :
    ep.pendingServerHandshakes[cid]? = some pending ∨ Begins cid pending ep e := by
  have h := ep.step_serverStep e
  generalize ep.step e = ep' at h hpending
  have herase : ∀ i : ConnectionId, (ep.pendingServerHandshakes.erase i)[cid]? = some pending →
      ep.pendingServerHandshakes[cid]? = some pending := by
    intro i hi
    rw [Maps.getElem?_erase] at hi
    split at hi
    · cases hi
    · exact hi
  cases h with
  | aside hside =>
    simp only [serverSide, Prod.mk.injEq] at hside
    exact Or.inl (hside.2.2.1 ▸ hpending)
  | clientHello hcarries => exact ep.onClientHello_pending _ _ _ _ _ hcarries hpending
  | @handshakeFinish src datagram now secret nonce i cookie proof hcarries =>
    have hout := ep.onHandshakeFinish_outcome i src cookie proof now
    generalize ep.onHandshakeFinish i src cookie proof now = r at hout hpending
    cases hout with
    | refused => exact Or.inl hpending
    | cached => exact Or.inl hpending
    | failed => exact Or.inl (herase i hpending)
    | accepted pending' shared hcookie hpending' hshared hproof ep' hside harena =>
      simp only [serverSide, Prod.mk.injEq] at hside
      exact Or.inl (herase i (hside.2.2.1 ▸ hpending))

/-! ## 3. The history of a connection -/

/-- What a connection that `events` and then a datagram of `src` made the server register has
behind it. -/
structure Earned (start : GtpEndpoint) (events : List Event) (src : SocketAddr)
    (now : MonotonicTime) (cid : ConnectionId) (cookie proof : Bytes 32)
    (pending : PendingServerHandshake) (ep' : GtpEndpoint) : Prop where
  /-- The id was free when the server looked, and nothing came between that and the insertion. -/
  free : cid ∉ (start.run events).connections
  /-- The sender has a cookie of the value that the server generates for its address. -/
  addressed : ∃ issued : MonotonicTime, issued ≤ now ∧ now - issued ≤ tokenLifetime ∧
    cookie = start.statelessTokens.generateCookie src issued
  /-- A `ClientHello` began the handshake, which has been pending since. -/
  begun : ∃ before hello after, events = before ++ hello :: after ∧
    Begins cid pending (start.run before) hello ∧
    ∀ mid rest, after = mid ++ rest →
      (start.run (before ++ hello :: mid)).pendingServerHandshakes[cid]? = some pending
  /-- It is not pending any more. -/
  spent : cid ∉ ep'.pendingServerHandshakes
  /-- The sender knows the secret, and the connection has the keys that follow from it. -/
  confirmed : ∃ shared, start.serverSecret pending = some shared ∧
    proof = computeClientProof shared (serverTranscript pending cid) ∧
    ep'.arena = (start.run events).arena ++ [⟨GtpConnection.newWithDirectionalKeys cid src
      (sessionKeys (shared, serverTranscript pending cid)) false true .competitiveFps, [], true⟩] ∧
    ep'.connections = (start.run events).connections.insert cid (start.run events).arena.length

/-- Only a `HandshakeFinish` makes a datagram register a connection. -/
theorem receive_arena (ep : GtpEndpoint) (src : SocketAddr) (datagram : List UInt8)
    (now : MonotonicTime) (secret nonce : Bytes 32) :
    (ep.step (.receive src datagram now secret nonce)).arena.length = ep.arena.length ∨
      ∃ cid cookie proof, Carries datagram cid (.handshakeFinish cookie proof) ∧
        ep.step (.receive src datagram now secret nonce) =
          (ep.onHandshakeFinish cid src cookie proof now).1 := by
  have h := ep.onDatagram_received src datagram now secret nonce
  change (ep.onDatagram src datagram now secret nonce).1.arena.length = _ ∨
    ∃ cid cookie proof, _ ∧ (ep.onDatagram src datagram now secret nonce).1 = _
  generalize ep.onDatagram src datagram now secret nonce = r at h
  cases h with
  | dropped => exact Or.inl rfl
  | @clientHello cid pk clientNonce version hcarries =>
    obtain ⟨limiter, pending, heq, -⟩ :=
      ep.onClientHello_spec cid src pk clientNonce version now secret nonce
    rw [heq]
    exact Or.inl rfl
  | serverHello hcarries =>
    refine Or.inl ?_
    unfold onServerHello
    split <;> rfl
  | handshakeFinish hcarries => exact Or.inr ⟨_, _, _, hcarries, rfl⟩
  | serverFinish hcarries =>
    refine Or.inl ?_
    unfold onServerFinish
    split <;> rfl
  | data hdata =>
    refine Or.inl ?_
    unfold onData
    split
    · rfl
    · split
      · rfl
      · dsimp only
        split
        · split <;> exact List.length_set ..
        · split <;> exact List.length_set ..

/-- **Connections are earned.**  Take any run of an endpoint, and a datagram that makes it register
a connection.  The datagram is a `HandshakeFinish`: its cookie has the value that the server
generates for the address of its sender at some time in the last ten seconds, and its proof is that
of a handshake that an earlier `ClientHello` began, and which is spent thereby.  Whether the sender
was given the cookie is not said. -/
theorem connections_earned (tokenSecret : Bytes 32) (identity : Option StaticIdentity)
    (pinned : Option (Bytes 32)) (events : List Event) (src : SocketAddr) (datagram : List UInt8)
    (now : MonotonicTime) (secret nonce : Bytes 32)
    (h : (((bind tokenSecret identity pinned).run events).step
        (.receive src datagram now secret nonce)).arena.length ≠
      ((bind tokenSecret identity pinned).run events).arena.length) :
    ∃ cid cookie proof pending, Carries datagram cid (.handshakeFinish cookie proof) ∧
      Earned (bind tokenSecret identity pinned) events src now cid cookie proof pending
        (((bind tokenSecret identity pinned).run events).step
          (.receive src datagram now secret nonce)) := by
  obtain ⟨start, hstart⟩ : ∃ start, start = bind tokenSecret identity pinned := ⟨_, rfl⟩
  have hnone : ∀ cid : ConnectionId, start.pendingServerHandshakes[cid]? = none := by
    intro cid
    rw [hstart]
    rfl
  rw [← hstart] at h ⊢
  obtain ⟨htokens, hidentity⟩ := start.run_identity events
  rcases (start.run events).receive_arena src datagram now secret nonce with
    hsame | ⟨cid, cookie, proof, hcarries, hstep⟩
  · exact absurd hsame h
  rw [hstep] at h ⊢
  have hout := (start.run events).onHandshakeFinish_outcome cid src cookie proof now
  generalize (start.run events).onHandshakeFinish cid src cookie proof now = r at h hout ⊢
  cases hout with
  | refused => exact absurd rfl h
  | cached => exact absurd rfl h
  | failed => exact absurd rfl h
  | accepted pending shared hcookie hpending hshared hproof ep' hside harena =>
    simp only [serverSide, Prod.mk.injEq] at hside
    rcases harena with ⟨hsame, -⟩ | ⟨hfree, harena, hmap⟩
    · exact absurd (congrArg List.length hsame) h
    refine ⟨cid, cookie, proof, pending, hcarries, hfree, ?_, ?_, ?_, shared, ?_, hproof, harena,
      hmap⟩
    · rw [htokens] at hcookie
      obtain ⟨issued, -, hpast, hfresh, heq⟩ :=
        (start.statelessTokens.verifyCookie_iff src cookie now).mp hcookie
      exact ⟨issued, hpast, hfresh, heq⟩
    · have hbegins : ∀ ep e, (step ep e).pendingServerHandshakes[cid]? = some pending →
          ep.pendingServerHandshakes[cid]? = some pending ∨ Begins cid pending ep e :=
        fun ep e => ep.step_pending e
      have hnot : ¬ start.pendingServerHandshakes[cid]? = some pending := by simp [hnone cid]
      exact Runs.since (H := fun ep : GtpEndpoint =>
        ep.pendingServerHandshakes[cid]? = some pending) hbegins hnot hpending
    · dsimp only
      rw [hside.2.2.1, Maps.mem_erase]
      simp
    · unfold serverSecret at hshared ⊢
      rw [← hidentity]
      exact hshared

end

namespace Finish

attribute [local instance] labelSuite additiveExchange

/-- The `HandshakeFinish` of the client, with its cookie and its proof. -/
def clientFinish : List UInt8 :=
  ((handshakePacket 128 7 1 (.handshakeFinish (greeted.statelessTokens.generateCookie client 1000)
    proof)).toOption.getD [])

/-- A client that another host does not disturb is registered. -/
theorem connections_earned_client : ∃ cid cookie clientProof pending,
    Carries clientFinish cid (.handshakeFinish cookie clientProof) ∧
    Earned (bind (byte 9) none none) [hello client 7 1, hello other 8 11] client 2000 cid cookie
      clientProof pending (greeted.step (.receive client clientFinish 2000 (byte 0) (byte 0))) :=
  connections_earned (byte 9) none none [hello client 7 1, hello other 8 11] client clientFinish
    2000 (byte 0) (byte 0) (by decide +kernel)

end Finish

end GtpEndpoint

end Gtp
