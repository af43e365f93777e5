/-
# The endpoint (`gtp-runtime-tokio/src/endpoint.rs`)

One socket, one RX task that serves every connection, and any number of `connect` calls.  What they
share is in maps keyed by the connection id, each behind a lock.  A call of `connect` advances from
one stage to the next; a stage is one critical section, or the removal of the waiter of this very
call and one more.  A datagram is one step of the RX task.  For the handlers of `ClientHello`,
`ServerHello` and `ServerFinish` this is no coarser than the code, since they change only maps that
nobody else changes, or one map under one lock.  Two handlers let other tasks in on the way:

* `onData` leaves the scope in which it serves the connection before it takes the map entry of an
  evicted connection away, and between two `try_send` the application may take a message;
* `onHandshakeFinish` looks whether the id is free in one section (`confirmFinish` is what it does
  up to there), and registers the connection in a later one.

As one step they describe the runs in which nothing of another task falls in between.
`Gtp.Runtime.Sections` has them section by section, says which runs these are, and carries over to
them what is proved here.

* A connection is shared by the map, its TX task and the application's handle; it lives in `arena`,
  and the others hold its index.
* A one-shot channel is the id of the call that waits at its end: the map holds the sender, and what
  was sent is in the call.  A call that finds neither has lost its sender.
* The 400 ms timers and the failures of the socket are inputs of a step.

Not modelled: the socket and its address, the queue of accepted connections, and the plaintext
connections that a production build does not have.
-/
import Gtp.Handshake
import Gtp.Core.Connection

namespace Gtp

open BigEndian

/-! ## 1. Hello rate limit -/

/-- `IpAddr::is_loopback`; a number below 2^32 is an IPv4 address, an IPv6 address stands 2^32
higher. -/
def isLoopback (ip : Nat) : Bool := decide (ip / 2 ^ 24 = 127 ∨ ip = 2 ^ 32 + 1)

/-- `HelloRateLimiter`. -/
structure HelloRateLimiter where
  seen : Std.ExtTreeMap Nat (UInt32 × MonotonicTime) compare

namespace HelloRateLimiter

/-- `HelloRateLimiter::default`. -/
def default : HelloRateLimiter := ⟨∅⟩

/-- `allow`. -/
def allow (r : HelloRateLimiter) (ip : Nat) (now : MonotonicTime) (window : Duration)
    (max : UInt32) : Bool × HelloRateLimiter :=
  if isLoopback ip then (true, r)
  else
    let seen := r.seen.filter fun _ entry => decide (now - entry.2 < window)
    let entry := (seen[ip]?).getD (0, now)
    let entry := if window ≤ now - entry.2 then (1, now) else (entry.1 + 1, entry.2)
    (decide (entry.1 ≤ max), ⟨seen.insert ip entry⟩)

end HelloRateLimiter

/-! ## 2. State -/

/-- `ServerHelloInfo`. -/
structure ServerHelloInfo where
  serverPk : Bytes 32
  serverNonce : Bytes 32
  statelessCookie : Bytes 32
  serverStaticPk : Bytes 32
  deriving DecidableEq

/-- An entry of `pending_server_handshakes`. -/
structure PendingServerHandshake where
  pair : EphemeralKeyPair
  clientPk : Bytes 32
  clientNonce : Bytes 32
  src : SocketAddr
  started : MonotonicTime
  deriving DecidableEq

/-- What `connect` has computed when it sends its `HandshakeFinish`. -/
structure Session where
  shared : HandshakeSharedSecret
  transcript : HandshakeTranscript
  keys : DirectionalKeys
  finish : List UInt8
  deriving DecidableEq

/-- Where a call of `connect` stands. -/
inductive Stage where
  /-- The waiter for `ServerHello` is registered. -/
  | sendHello (hello : List UInt8)
  | awaitHello (hello : List UInt8) (attempts : Nat)
  /-- The waiter is to be removed before the call returns. -/
  | abandon (error : TransportError)
  /-- `ServerHello` has been taken from the channel. -/
  | greeted (hello : ServerHelloInfo)
  /-- The waiter for `ServerFinish` is registered. -/
  | sendFinish (session : Session)
  | register (session : Session)
  | awaitFinish (session : Session) (handle : Nat) (rounds : Nat)
  /-- The proof was wrong. -/
  | retract (handle : Nat) (error : TransportError)
  | conclude (handle : Nat) (confirmed : Bool)
  | returned (result : Result Nat)
  deriving DecidableEq

/-- A call of `connect`. -/
structure ConnectCall where
  cid : ConnectionId
  peerAddr : SocketAddr
  pair : EphemeralKeyPair
  /-- What was sent on the channel of `pending_client_handshakes`. -/
  hello : Option ServerHelloInfo
  /-- What was sent on the channel of `pending_server_finishes`. -/
  proof : Option (Bytes 32)
  /-- The connection that the call has registered. -/
  asyncConn : Option Nat
  stage : Stage
  deriving DecidableEq

/-- A connection with the channel to its application. -/
structure SharedConnection where
  conn : GtpConnection
  queue : List ReceivedMessage
  open' : Bool

/-- `GtpEndpoint`. -/
structure GtpEndpoint where
  arena : List SharedConnection
  connections : Std.ExtTreeMap ConnectionId Nat compare
  statelessTokens : StatelessTokenManager
  pendingClientHandshakes : Std.ExtTreeMap ConnectionId Nat compare
  pendingServerHandshakes : Std.ExtTreeMap ConnectionId PendingServerHandshake compare
  pendingServerFinishes : Std.ExtTreeMap ConnectionId Nat compare
  acceptedFinishes : Std.ExtTreeMap ConnectionId (Bytes 32 × SocketAddr × MonotonicTime) compare
  staticIdentity : Option StaticIdentity
  trustedServerStatic : Option (Bytes 32)
  helloRateLimiter : HelloRateLimiter
  calls : List ConnectCall

/-- A datagram handed to the socket, with its destination. -/
abbrev Outgoing := SocketAddr × List UInt8

/-- A handshake datagram, built in a buffer of `size` bytes: a long header and one frame. -/
def handshakePacket (size : Nat) (cid : ConnectionId) (packetNumber : PacketNumber)
    (frame : Frame) : Result (List UInt8) :=
  let (res, buf) := (PacketHeader.newLong 1 cid packetNumber 0 0).encode (List.replicate size 0)
  match res with
  | .error _ => .error .bufferOverflow
  | .ok headerLen =>
    let (res, rest) := frame.encode (buf.drop headerLen)
    match res with
    | .error _ => .error .bufferOverflow
    | .ok frameLen => .ok ((buf.take headerLen ++ rest).take (headerLen + frameLen))

/-- The datagram, or nothing where the source gives up silently. -/
def sendPacket (size : Nat) (cid : ConnectionId) (frame : Frame) (dest : SocketAddr) :
    List Outgoing :=
  match handshakePacket size cid 0 frame with
  | .ok datagram => [(dest, datagram)]
  | .error _ => []

/-- `send_server_finish`. -/
def sendServerFinish (cid : ConnectionId) (proof : Bytes 32) (dest : SocketAddr) : List Outgoing :=
  sendPacket 128 cid (.serverFinish proof) dest

/-- `is_handshake_candidate`. -/
def isHandshakeCandidate (header : PacketHeader) (headerLen datagramLen : Nat) : Bool :=
  header.flags.isLongHeader && decide (headerLen < datagramLen)

namespace GtpEndpoint

/-! ## 3. The server's side of the handshake -/

/-- The lifetime of pending handshakes and of accepted finishes. -/
def handshakeLifetime : Duration := Duration.fromSecs 3

/-- The body of `register_connection`: the map entry of the id is replaced. -/
def registerConnection (ep : GtpEndpoint) (cid : ConnectionId) (conn : GtpConnection) :
    Nat × GtpEndpoint :=
  (ep.arena.length,
    { ep with
      arena := ep.arena ++ [⟨conn, [], true⟩]
      connections := ep.connections.insert cid ep.arena.length })

/-- The end of a `HandshakeFinish`: the connection is registered, unless its id is taken. -/
def acceptConnection (ep : GtpEndpoint) (cid : ConnectionId) (conn : GtpConnection) : GtpEndpoint :=
  if cid ∈ ep.connections then ep else (ep.registerConnection cid conn).2

variable [KeyExchange]

/-- The RX loop on a `ClientHello`.  The secret and the nonce are what `generate` draws, should it
be called. -/
def onClientHello (ep : GtpEndpoint) (cid : ConnectionId) (src : SocketAddr)
    (clientPublicKey clientNonce : Bytes 32) (version : UInt32) (now : MonotonicTime)
    (secret nonce : Bytes 32) : GtpEndpoint × List Outgoing :=
  if version ≠ protocolVersion then (ep, [])
  else
    let (allowed, limiter) := ep.helloRateLimiter.allow src.ip now (Duration.fromSecs 1) 20
    let ep := { ep with helloRateLimiter := limiter }
    if !allowed then (ep, [])
    else
      let psh := ep.pendingServerHandshakes.filter fun _ entry =>
        decide (now - entry.started ≤ handshakeLifetime)
      let fresh := EphemeralKeyPair.generate secret nonce
      -- a genuine retransmit carries the same client material
      let stored := (psh[cid]?).filter fun entry =>
        decide (entry.clientPk = clientPublicKey ∧ entry.clientNonce = clientNonce)
      let (pair, psh) := match stored with
        | some entry => (entry.pair, psh)
        | none => (fresh, psh.insert cid ⟨fresh, clientPublicKey, clientNonce, src, now⟩)
      let staticPk := match ep.staticIdentity with
        | some identity => identity.publicKey
        | none => List.Vector.replicate 32 0
      ({ ep with pendingServerHandshakes := psh },
        sendPacket 256 cid (.serverHello pair.publicKey pair.nonce
          (ep.statelessTokens.generateCookie src now) cid staticPk) src)

/-- The transcript of a pending handshake, as the server has it. -/
def serverTranscript (pending : PendingServerHandshake) (cid : ConnectionId) :
    HandshakeTranscript :=
  { clientPk := pending.clientPk
    serverPk := pending.pair.publicKey
    clientNonce := pending.clientNonce
    serverNonce := pending.pair.nonce
    connectionId := cid
    version := protocolVersion }

/-- The session secret of a pending handshake, as the server computes it. -/
def serverSecret (ep : GtpEndpoint) (pending : PendingServerHandshake) :
    Option HandshakeSharedSecret :=
  match ep.staticIdentity with
  | some identity => identity.completeServerSession pending.pair pending.clientPk
  | none => pending.pair.computeSharedSecret pending.clientPk

variable [CryptoSuite]

omit [KeyExchange] in
/-- The directional keys of a confirmed handshake. -/
def sessionKeys (c : Confirmation) : DirectionalKeys :=
  deriveDirectionalHandshakeSessionKeys c.1 c.2.clientNonce c.2.serverNonce c.2.connectionId

/-- The RX loop on a `HandshakeFinish`, up to its look at the map of connections: the connection
that it has instantiated, if the handshake is confirmed.  By then the confirmation is out, and in
the cache. -/
def confirmFinish (ep : GtpEndpoint) (cid : ConnectionId) (src : SocketAddr)
    (cookieEcho clientProof : Bytes 32) (now : MonotonicTime) :
    Option GtpConnection × GtpEndpoint × List Outgoing :=
  if !ep.statelessTokens.verifyCookie src cookieEcho now then (none, ep, [])
  else
    let ep := { ep with
      acceptedFinishes := ep.acceptedFinishes.filter fun _ entry =>
        decide (now - entry.2.2 ≤ handshakeLifetime) }
    match ep.acceptedFinishes[cid]? with
    | some (proof, dest, _) => (none, ep, sendServerFinish cid proof dest)
    | none =>
      match ep.pendingServerHandshakes[cid]? with
      | none => (none, ep, [])
      | some pending =>
        let ep := { ep with pendingServerHandshakes := ep.pendingServerHandshakes.erase cid }
        match ep.serverSecret pending with
        | none => (none, ep, [])
        | some shared =>
          let transcript := serverTranscript pending cid
          if !verifyClientProof shared transcript clientProof then (none, ep, [])
          else
            let serverProof := computeServerProof shared transcript
            let ep := { ep with
              acceptedFinishes := ep.acceptedFinishes.insert cid (serverProof, src, now) }
            let conn := GtpConnection.newWithDirectionalKeys cid src
              (sessionKeys (shared, transcript)) false true .competitiveFps
            (some conn, ep, sendServerFinish cid serverProof src)

/-- The RX loop on a `HandshakeFinish`, with nothing of another task between its look at the map of
connections and the insertion. -/
def onHandshakeFinish (ep : GtpEndpoint) (cid : ConnectionId) (src : SocketAddr)
    (cookieEcho clientProof : Bytes 32) (now : MonotonicTime) : GtpEndpoint × List Outgoing :=
  let (conn, ep, sent) := ep.confirmFinish cid src cookieEcho clientProof now
  match conn with
  | none => (ep, sent)
  | some conn => (ep.acceptConnection cid conn, sent)

/-! ## 4. The client's side of the RX loop -/

omit [KeyExchange] [CryptoSuite] in
/-- A value sent on the channel of a call. -/
def notify (ep : GtpEndpoint) (id : Nat) (f : ConnectCall → ConnectCall) : GtpEndpoint :=
  { ep with calls := ep.calls.modify id f }

omit [KeyExchange] [CryptoSuite] in
/-- The RX loop on a `ServerHello`. -/
def onServerHello (ep : GtpEndpoint) (assignedCid : ConnectionId) (info : ServerHelloInfo) :
    GtpEndpoint :=
  match ep.pendingClientHandshakes[assignedCid]? with
  | none => ep
  | some id =>
    { ep with pendingClientHandshakes := ep.pendingClientHandshakes.erase assignedCid }.notify id
      fun call => { call with hello := some info }

omit [KeyExchange] [CryptoSuite] in
/-- The RX loop on a `ServerFinish`. -/
def onServerFinish (ep : GtpEndpoint) (cid : ConnectionId) (serverProof : Bytes 32) : GtpEndpoint :=
  match ep.pendingServerFinishes[cid]? with
  | none => ep
  | some id =>
    { ep with pendingServerFinishes := ep.pendingServerFinishes.erase cid }.notify id
      fun call => { call with proof := some serverProof }

/-! ## 5. Data -/

omit [KeyExchange] [CryptoSuite] in
/-- The close that the RX loop asks for when the application cannot take a message, with the
messages that go undelivered. -/
def closeUndelivered (s : SharedConnection) (undelivered : Nat) (code : UInt16) (reason : String) :
    SharedConnection :=
  let conn := { s.conn with
    cold.totalDroppedFrames := s.conn.cold.totalDroppedFrames + undelivered }
  { s with
    conn := if conn.hot.state = .established then (conn.gracefulClose code reason).2 else conn }

omit [KeyExchange] [CryptoSuite] in
/-- One round of the `try_send` loop, with `behind` more messages in the datagram: whether the
connection is to be evicted. -/
def trySend (msg : ReceivedMessage) (behind : Nat) (s : SharedConnection) :
    Bool × SharedConnection :=
  if !s.open' then (true, closeUndelivered s (behind + 1) 9 "application handle dropped")
  else if s.queue.length < 1024 then (false, { s with queue := s.queue ++ [msg] })
  else
    match msg.class' with
    | .unreliable | .unreliableSequenced .. =>
      (false, { s with conn.cold.totalDroppedFrames := s.conn.cold.totalDroppedFrames + 1 })
    | .reliableUnordered | .reliableOrdered .. =>
      (true, closeUndelivered s (behind + 1) 8 "receive queue overflow")

omit [KeyExchange] [CryptoSuite] in
/-- The `try_send` loop over the messages of a datagram: whether the connection is to be evicted. -/
def deliver : List ReceivedMessage → SharedConnection → Bool × SharedConnection
  | [], s => (false, s)
  | msg :: rest, s =>
    let (evict, s) := trySend msg rest.length s
    if evict then (true, s) else deliver rest s

omit [KeyExchange] in
/-- The RX loop on everything that is not a handshake: routed by the connection id, with nothing of
another task between the `try_send` of its messages and the removal of an evicted connection. -/
def onData (ep : GtpEndpoint) (cid : ConnectionId) (src : SocketAddr) (datagram : List UInt8)
    (now : MonotonicTime) : GtpEndpoint :=
  match ep.connections[cid]? with
  | none => ep
  | some handle =>
    match ep.arena[handle]? with
    | none => ep
    | some s =>
      let (res, conn) := s.conn.handleIncomingDatagramWithEcn src datagram now 0
      let s := { s with conn }
      let (evict, s) := match res with
        | .ok msgs => deliver msgs s
        | .error _ => (false, s)
      let ep := { ep with arena := ep.arena.set handle s }
      if evict || decide (s.conn.hot.state = .closed) then
        { ep with connections := ep.connections.erase cid }
      else ep

/-- The RX loop on a datagram. -/
def onDatagram (ep : GtpEndpoint) (src : SocketAddr) (datagram : List UInt8) (now : MonotonicTime)
    (secret nonce : Bytes 32) : GtpEndpoint × List Outgoing :=
  match PacketHeader.decode datagram with
  | .error _ => (ep, [])
  | .ok (header, headerLen) =>
    let cid := header.connectionId
    let payload := datagram.drop headerLen
    if isHandshakeCandidate header headerLen datagram.length then
      -- a frame of one of the four types that does not decode is dropped
      match payload.head?, Frame.decode payload with
      | some 0x0B, .ok (.clientHello clientPublicKey clientNonce version, _) =>
        ep.onClientHello cid src clientPublicKey clientNonce version now secret nonce
      | some 0x0C, .ok (.serverHello serverPk serverNonce cookie assignedCid staticPk, _) =>
        (ep.onServerHello assignedCid ⟨serverPk, serverNonce, cookie, staticPk⟩, [])
      | some 0x0D, .ok (.handshakeFinish cookieEcho clientProof, _) =>
        ep.onHandshakeFinish cid src cookieEcho clientProof now
      | some 0x0E, .ok (.serverFinish serverProof, _) => (ep.onServerFinish cid serverProof, [])
      | some 0x0B, _ | some 0x0C, _ | some 0x0D, _ | some 0x0E, _ => (ep, [])
      | _, _ => (ep.onData cid src datagram now, [])
    else (ep.onData cid src datagram now, [])

/-! ## 6. `connect` -/

/-- `connect` up to its first wait: the waiter is registered before the datagram is built. -/
def connect (ep : GtpEndpoint) (cid : ConnectionId) (peerAddr : SocketAddr)
    (secret nonce : Bytes 32) : GtpEndpoint :=
  let pair := EphemeralKeyPair.generate secret nonce
  let stage := match handshakePacket 128 cid 0
      (.clientHello pair.publicKey pair.nonce protocolVersion) with
    | .ok hello => .sendHello hello
    | .error e => .returned (.error e)
  { ep with
    pendingClientHandshakes := ep.pendingClientHandshakes.insert cid ep.calls.length
    calls := ep.calls ++ [⟨cid, peerAddr, pair, none, none, none, stage⟩] }

omit [CryptoSuite] in
/-- The session secret as the client computes it: with a pinned identity the static key on the wire
must be that identity. -/
def clientSecret (ep : GtpEndpoint) (pair : EphemeralKeyPair) (hello : ServerHelloInfo) :
    Result HandshakeSharedSecret :=
  match ep.trustedServerStatic with
  | some pinned =>
    if hello.serverStaticPk ≠ pinned then
      .error (.handshakeFailed "server identity mismatch (pinned static key not on the wire)")
    else
      match pair.computeSharedSecretWithStatic hello.serverPk pinned with
      | some shared => .ok shared
      | none => .error (.handshakeFailed "non-contributory server key")
  | none =>
    match pair.computeSharedSecret hello.serverPk with
    | some shared => .ok shared
    | none => .error (.handshakeFailed "non-contributory server key")

omit [KeyExchange] [CryptoSuite] in
/-- The transcript as the client has it. -/
def clientTranscript (call : ConnectCall) (hello : ServerHelloInfo) : HandshakeTranscript :=
  { clientPk := call.pair.publicKey
    serverPk := hello.serverPk
    clientNonce := call.pair.nonce
    serverNonce := hello.serverNonce
    connectionId := call.cid
    version := protocolVersion }

/-- Keys, transcript and `HandshakeFinish` of a call that was answered. -/
def clientSession (ep : GtpEndpoint) (call : ConnectCall) (hello : ServerHelloInfo) :
    Result Session := do
  let shared ← ep.clientSecret call.pair hello
  let transcript := clientTranscript call hello
  let finish ← handshakePacket 128 call.cid 1
    (.handshakeFinish hello.statelessCookie (computeClientProof shared transcript))
  return ⟨shared, transcript, sessionKeys (shared, transcript), finish⟩

omit [KeyExchange] [CryptoSuite] in
/-- A call moves on. -/
def setStage (ep : GtpEndpoint) (id : Nat) (stage : Stage) : GtpEndpoint :=
  ep.notify id fun call => { call with stage }

omit [KeyExchange] [CryptoSuite] in
/-- The application's end of the channel goes away with the handle. -/
def dropHandle (ep : GtpEndpoint) (handle : Nat) : GtpEndpoint :=
  { ep with arena := ep.arena.modify handle fun s => { s with open' := false } }

/-- The next step of a call.  `failure` says that what the stage waits for does not come: the send
reports this error, or the timer fires. -/
def advance (ep : GtpEndpoint) (id : Nat) (call : ConnectCall) (failure : Option String) :
    GtpEndpoint × List Outgoing :=
  let cid := call.cid
  match call.stage with
  | .sendHello hello =>
    match failure with
    | some e => (ep.setStage id (.abandon (.io e)), [])
    | none => (ep.setStage id (.awaitHello hello 0), [(call.peerAddr, hello)])
  | .awaitHello hello attempts =>
    match call.hello with
    | some info => (ep.setStage id (.greeted info), [])
    | none =>
      if ep.pendingClientHandshakes[cid]? ≠ some id then
        (ep.setStage id (.abandon (.handshakeFailed "Internal channel dropped")), [])
      else if failure.isNone then (ep, [])
      else if 8 ≤ attempts + 1 then (ep.setStage id (.abandon .handshakeTimeout), [])
      else (ep.setStage id (.awaitHello hello (attempts + 1)), [(call.peerAddr, hello)])
  | .abandon e =>
    ({ ep with pendingClientHandshakes := ep.pendingClientHandshakes.erase cid }.setStage id
      (.returned (.error e)), [])
  | .greeted info =>
    match ep.clientSession call info with
    | .error e => (ep.setStage id (.returned (.error e)), [])
    | .ok session =>
      ({ ep with pendingServerFinishes := ep.pendingServerFinishes.insert cid id }.setStage id
        (.sendFinish session), [])
  | .sendFinish session =>
    (ep.setStage id (.register session), [(call.peerAddr, session.finish)])
  | .register session =>
    let conn := GtpConnection.newWithDirectionalKeys cid call.peerAddr session.keys true true
      .competitiveFps
    let (handle, ep) := ep.registerConnection cid conn
    (ep.notify id fun call =>
      { call with asyncConn := some handle, stage := .awaitFinish session handle 0 }, [])
  | .awaitFinish session handle rounds =>
    match call.proof with
    | some proof =>
      if verifyServerProof session.shared session.transcript proof then
        (ep.setStage id (.conclude handle true), [])
      else
        (ep.setStage id (.retract handle
          (.handshakeFailed "server proof mismatch (transcript tamper or wrong peer)")), [])
    | none =>
      if ep.pendingServerFinishes[cid]? ≠ some id then (ep.setStage id (.conclude handle false), [])
      else if failure.isNone then (ep, [])
      else
        let stage := if 8 ≤ rounds + 1 then .conclude handle false
          else .awaitFinish session handle (rounds + 1)
        (ep.setStage id stage, [(call.peerAddr, session.finish)])
  | .retract handle e =>
    (({ ep with pendingServerFinishes := ep.pendingServerFinishes.erase cid }.dropHandle
      handle).setStage id (.returned (.error e)), [])
  | .conclude handle confirmed =>
    let ep := { ep with pendingServerFinishes := ep.pendingServerFinishes.erase cid }
    if confirmed then
      ({ ep with
        arena := ep.arena.modify handle fun s => { s with conn := s.conn.sendPing 0x00C0FFEE }
        }.setStage id (.returned (.ok handle)), [])
    else ((ep.dropHandle handle).setStage id (.returned (.error .handshakeTimeout)), [])
  | .returned _ => (ep, [])

/-! ## 7. Runs -/

/-- What happens to an endpoint. -/
inductive Event where
  /-- A datagram arrives. -/
  | receive (src : SocketAddr) (datagram : List UInt8) (now : MonotonicTime)
      (secret nonce : Bytes 32)
  /-- The application calls `connect` with `secure = true`. -/
  | connect (cid : ConnectionId) (peerAddr : SocketAddr) (secret nonce : Bytes 32)
  /-- A call of `connect` goes on. -/
  | poll (id : Nat) (failure : Option String)
  /-- The application calls `connect_with_directional_keys`. -/
  | adopt (cid : ConnectionId) (peerAddr : SocketAddr) (keys : DirectionalKeys)
      (asClient preValidated : Bool)
  /-- The TX task or the application uses a connection. -/
  | engine (handle : Nat) (op : GtpConnection.Op)
  /-- The application takes a message. -/
  | recv (handle : Nat)
  /-- The application drops its handle. -/
  | drop (handle : Nat)

/-- One event: the endpoint afterwards, and the datagrams it sent. -/
def handle (ep : GtpEndpoint) : Event → GtpEndpoint × List Outgoing
  | .receive src datagram now secret nonce => ep.onDatagram src datagram now secret nonce
  | .connect cid peerAddr secret nonce => (ep.connect cid peerAddr secret nonce, [])
  | .poll id failure =>
    match ep.calls[id]? with
    | some call => ep.advance id call failure
    | none => (ep, [])
  | .adopt cid peerAddr keys asClient preValidated =>
    ((ep.registerConnection cid (GtpConnection.newWithDirectionalKeys cid peerAddr keys asClient
      preValidated .competitiveFps)).2, [])
  | .engine handle op =>
    match ep.arena[handle]? with
    | some s =>
      ({ ep with arena := ep.arena.set handle { s with conn := s.conn.step op } },
        (s.conn.datagramOf op).toList)
    | none => (ep, [])
  | .recv handle =>
    ({ ep with arena := ep.arena.modify handle fun s => { s with queue := s.queue.drop 1 } }, [])
  | .drop handle => (ep.dropHandle handle, [])

/-- The endpoint after one event. -/
def step (ep : GtpEndpoint) (e : Event) : GtpEndpoint := (ep.handle e).1

/-- The endpoint after a sequence of events. -/
def run (ep : GtpEndpoint) (events : List Event) : GtpEndpoint := events.foldl step ep

omit [KeyExchange] [CryptoSuite] in
/-- `bind_inner`, and `set_trusted_server_static` before the endpoint is used. -/
def bind (tokenSecret : Bytes 32) (identity : Option StaticIdentity)
    (pinned : Option (Bytes 32)) : GtpEndpoint where
  arena := []
  connections := ∅
  statelessTokens := ⟨tokenSecret⟩
  pendingClientHandshakes := ∅
  pendingServerHandshakes := ∅
  pendingServerFinishes := ∅
  acceptedFinishes := ∅
  staticIdentity := identity
  trustedServerStatic := pinned
  helloRateLimiter := .default
  calls := []

/-- Reached from a fresh endpoint by some sequence of events. -/
def Reachable (ep : GtpEndpoint) : Prop :=
  ∃ tokenSecret identity pinned events, ep = (bind tokenSecret identity pinned).run events

end GtpEndpoint

end Gtp
