/-
# Agreement of the handshake

One server endpoint, any number of clients that call `connect`, and a network that keeps every
datagram it was given: a datagram may be delivered late, more than once, or never.

The client is confirmed by a proof of the server, and a proof is only ever sent for a handshake that
the server completed (`Vouched`).  With ideal primitives the client's secret and transcript are then
the server's, and so are the keys.  What is left is that the server REGISTERS what it completes, and
this it does not do when the id is taken: the proof has been sent before the map is looked at.

So agreement holds in every run in which no `HandshakeFinish` completes a handshake for an id that
is registered (`connect_agrees`).

* `World.step` is one move: the server or a client handles an event, and what it sends stays on the
  network.
* `Agrees` is the invariant: about each stage of a call (`StageOk`), and about the datagrams on the
  network (`FromClient`, `FromServer`).  `Grows` is what the server keeps.
* `receive_serverOk`, `receive_clientOk` and `advance_clientOk` are its steps, one for each party
  and kind of event; `advance_clientOk` has a lemma for each stage.
* `connect_disagrees_two` is a run in which the id is taken, without any collision.

The primitives are ideal on the inputs that occur in the run and nowhere else.  The converse is left
out: the server may hold a connection for a client that never hears of it.
-/
import Gtp.Runtime.Steps
import Gtp.Lib.Runs

namespace Gtp

/-! ## 1. Server, clients and network -/

/-- A datagram on the network. -/
structure Packet where
  src : SocketAddr
  dest : SocketAddr
  datagram : List UInt8

structure World where
  serverAddr : SocketAddr
  server : GtpEndpoint
  clients : List (SocketAddr × GtpEndpoint)
  wire : List Packet

namespace World

open GtpEndpoint (sessionKeys)

inductive Move where
  /-- A client calls `connect`. -/
  | connect (client : Nat) (cid : ConnectionId) (secret nonce : Bytes 32)
  /-- A call of a client goes on. -/
  | poll (client id : Nat) (failure : Option String)
  /-- A datagram reaches the server. -/
  | toServer (packet : Nat) (now : MonotonicTime) (secret nonce : Bytes 32)
  /-- A datagram reaches a client. -/
  | toClient (client packet : Nat) (now : MonotonicTime) (secret nonce : Bytes 32)

/-- Datagrams on their way. -/
def send (src : SocketAddr) (out : List Outgoing) : List Packet :=
  out.map fun o => ⟨src, o.1, o.2⟩

section

variable [KeyExchange] [CryptoSuite]

/-- A client handles an event. -/
def atClient (w : World) (client : Nat) (e : GtpEndpoint.Event) : World :=
  match w.clients[client]? with
  | none => w
  | some (addr, ep) =>
    { w with
      clients := w.clients.set client (addr, (ep.handle e).1)
      wire := w.wire ++ send addr (ep.handle e).2 }

/-- The world after one move.  A datagram stays on the network when it is delivered. -/
def step (w : World) : Move → World
  | .connect client cid secret nonce => w.atClient client (.connect cid w.serverAddr secret nonce)
  | .poll client id failure => w.atClient client (.poll id failure)
  | .toServer packet now secret nonce =>
    match w.wire[packet]? with
    | none => w
    | some p =>
      if p.dest = w.serverAddr then
        { w with
          server := (w.server.handle (.receive p.src p.datagram now secret nonce)).1
          wire := w.wire ++
            send w.serverAddr (w.server.handle (.receive p.src p.datagram now secret nonce)).2 }
      else w
  | .toClient client packet now secret nonce =>
    match w.wire[packet]?, w.clients[client]? with
    | some p, some (addr, _) =>
      if p.dest = addr then w.atClient client (.receive p.src p.datagram now secret nonce) else w
    | _, _ => w

/-- The world after a sequence of moves. -/
def run (w : World) (moves : List Move) : World := moves.foldl step w

/-- A server and clients before anything has happened.  Their addresses are different. -/
structure Setup where
  serverAddr : SocketAddr
  tokenSecret : Bytes 32
  identity : Option StaticIdentity
  clients : List (SocketAddr × Bytes 32 × Option (Bytes 32))
  apart : ∀ c ∈ clients, c.1 ≠ serverAddr

omit [KeyExchange] [CryptoSuite] in
/-- The world they start in. -/
def Setup.start (s : Setup) : World where
  serverAddr := s.serverAddr
  server := .bind s.tokenSecret s.identity none
  clients := s.clients.map fun c => (c.1, .bind c.2.1 none c.2.2)
  wire := []

/-! ## 2. Handshakes that are completed and proofs that are checked -/

omit [KeyExchange] [CryptoSuite] in
/-- The `HandshakeFinish` in a datagram. -/
def finishOf (datagram : List UInt8) : Option (ConnectionId × Bytes 32 × Bytes 32) :=
  match PacketHeader.decode datagram with
  | .error _ => none
  | .ok (header, headerLen) =>
    match Frame.decode (datagram.drop headerLen) with
    | .ok (.handshakeFinish cookie proof, _) => some (header.connectionId, cookie, proof)
    | _ => none

/-- The handshake that the server completes in a move. -/
def completed (w : World) : Move → Option Confirmation
  | .toServer packet now _ _ => do
    let p ← w.wire[packet]?
    let (cid, cookie, proof) ← finishOf p.datagram
    if p.dest = w.serverAddr then w.server.accepted? cid p.src cookie proof now else none
  | _ => none

omit [KeyExchange] [CryptoSuite] in
/-- The secret and transcript that a client checks a proof against in a move. -/
def checked (w : World) : Move → Option Confirmation
  | .poll client id _ => do
    let (_, ep) ← w.clients[client]?
    let call ← ep.calls[id]?
    match call.stage with
    | .awaitFinish session _ _ => some (session.shared, session.transcript)
    | _ => none
  | _ => none

/-- All inputs of the server's proofs in a run. -/
def used (w : World) (moves : List Move) : List Confirmation :=
  (Runs.outputs step completed w moves).filterMap id ++
    (Runs.outputs step checked w moves).filterMap id

/-- A handshake is completed only for an id that is free. -/
def Free (w : World) (m : Move) : Prop :=
  ∀ conf, w.completed m = some conf → conf.2.connectionId ∉ w.server.connections

instance (w : World) (m : Move) : Decidable (Free w m) :=
  match h : w.completed m with
  | none => isTrue fun conf hconf => by rw [h] at hconf; cases hconf
  | some conf =>
    decidable_of_iff (conf.2.connectionId ∉ w.server.connections)
      ⟨fun hfree _ hconf => (Option.some.inj (h.symm.trans hconf)) ▸ hfree,
        fun hfree => hfree conf h⟩

/-! ## 3. Keys of a connection -/

omit [KeyExchange] [CryptoSuite] in
/-- The connection `handle` seals and opens with these keys. -/
def Holds (asClient : Bool) (keys : DirectionalKeys) (arena : List SharedConnection)
    (handle : Nat) : Prop :=
  ∃ s, arena[handle]? = some s ∧
    ((s.conn.hot.txKey, s.conn.hot.txIv), (s.conn.hot.rxKey, s.conn.hot.rxIv)) =
      keys.forRole asClient

omit [KeyExchange] [CryptoSuite] in
theorem Holds.append {asClient : Bool} {keys : DirectionalKeys} {arena : List SharedConnection}
    {handle : Nat} (h : Holds asClient keys arena handle) (more : List SharedConnection) :
    Holds asClient keys (arena ++ more) handle := by
  obtain ⟨s, hs, hkeys⟩ := h
  have hlt := (List.getElem?_eq_some_iff.mp hs).1
  refine ⟨s, ?_, hkeys⟩
  rw [List.getElem?_append_left hlt]
  exact hs

omit [KeyExchange] [CryptoSuite] in
theorem Holds.modify {asClient : Bool} {keys : DirectionalKeys} {arena : List SharedConnection}
    {handle : Nat} (h : Holds asClient keys arena handle) (i : Nat)
    (f : SharedConnection → SharedConnection)
    (hf : ∀ s, (f s).conn.hot.toSessionKeys = s.conn.hot.toSessionKeys) :
    Holds asClient keys (arena.modify i f) handle := by
  obtain ⟨s, hs, hkeys⟩ := h
  by_cases hi : i = handle
  · subst hi
    refine ⟨f s, ?_, ?_⟩
    · rw [List.getElem?_modify_eq, hs]
      rfl
    · rw [hf]
      exact hkeys
  · refine ⟨s, ?_, hkeys⟩
    rw [List.getElem?_modify_ne _ _ hi]
    exact hs

omit [KeyExchange] [CryptoSuite] in
theorem holds_new (cid : ConnectionId) (addr : SocketAddr) (keys : DirectionalKeys)
    (asClient : Bool) (arena : List SharedConnection) :
    Holds asClient keys (arena ++ [⟨GtpConnection.newWithDirectionalKeys cid addr keys asClient true
      .competitiveFps, [], true⟩]) arena.length := by
  refine ⟨_, List.getElem?_concat_length .., ?_⟩
  cases asClient <;> rfl

/-! ## 4. The invariant -/

/-- The server has completed this handshake, and holds its connection. -/
def Confirmed (used : List Confirmation) (server : GtpEndpoint) (conf : Confirmation) : Prop :=
  conf ∈ used ∧ ∃ handle, server.connections[conf.2.connectionId]? = some handle ∧
    Holds false (sessionKeys conf) server.arena handle

/-- A proof of a handshake that the server has completed. -/
def Vouched (used : List Confirmation) (server : GtpEndpoint) (proof : Bytes 32) : Prop :=
  ∃ conf, Confirmed used server conf ∧ proof = computeServerProof conf.1 conf.2

omit [KeyExchange] [CryptoSuite] in
/-- The datagrams that a client sends. -/
def FromClient (datagram : List UInt8) : Prop :=
  IsHandshake datagram ∧ ∃ cid frame, Carries datagram cid frame ∧
    ((∃ pk nonce version, frame = .clientHello pk nonce version) ∨
      ∃ cookie proof, frame = .handshakeFinish cookie proof)

/-- The datagrams that the server sends. -/
def FromServer (used : List Confirmation) (server : GtpEndpoint) (datagram : List UInt8) : Prop :=
  IsHandshake datagram ∧ ∃ cid frame, Carries datagram cid frame ∧
    ((∃ pk nonce cookie assigned static, frame = .serverHello pk nonce cookie assigned static) ∨
      ∃ proof, frame = .serverFinish proof ∧ Vouched used server proof)

omit [KeyExchange] in
/-- What `connect` has computed belongs together. -/
structure SessionOk (cid : ConnectionId) (s : Session) : Prop where
  keys : s.keys = sessionKeys (s.shared, s.transcript)
  cid : s.transcript.connectionId = cid
  finish : FromClient s.finish

/-- What is known of a call in each stage. -/
def StageOk (used : List Confirmation) (server : GtpEndpoint) (arena : List SharedConnection)
    (cid : ConnectionId) : Stage → Prop
  | .sendHello hello => FromClient hello
  | .awaitHello hello _ => FromClient hello
  | .sendFinish session => SessionOk cid session
  | .register session => SessionOk cid session
  | .awaitFinish session handle _ => SessionOk cid session ∧ Holds true session.keys arena handle
  | .conclude handle true => ∃ conf, Confirmed used server conf ∧ conf.2.connectionId = cid ∧
      Holds true (sessionKeys conf) arena handle
  | .returned (.ok handle) => ∃ conf, Confirmed used server conf ∧ conf.2.connectionId = cid ∧
      Holds true (sessionKeys conf) arena handle
  | _ => True

/-- What is known of a call. -/
structure CallOk (used : List Confirmation) (serverAddr : SocketAddr) (server : GtpEndpoint)
    (arena : List SharedConnection) (call : ConnectCall) : Prop where
  peerAddr : call.peerAddr = serverAddr
  proof : ∀ proof, call.proof = some proof → Vouched used server proof
  stage : StageOk used server arena call.cid call.stage

/-- What is known of the calls of a client. -/
def ClientOk (used : List Confirmation) (serverAddr : SocketAddr) (server ep : GtpEndpoint) : Prop :=
  ∀ (id : Nat) (call : ConnectCall), ep.calls[id]? = some call →
    CallOk used serverAddr server ep.arena call

/-- **The invariant.** -/
structure Agrees (used : List Confirmation) (w : World) : Prop where
  cache : ∀ (cid : ConnectionId) (v : Bytes 32 × SocketAddr × MonotonicTime),
    w.server.acceptedFinishes[cid]? = some v → Vouched used w.server v.1
  wire : ∀ p ∈ w.wire, (p.dest = w.serverAddr ∧ FromClient p.datagram) ∨
    FromServer used w.server p.datagram
  clients : ∀ c ∈ w.clients, c.1 ≠ w.serverAddr ∧ ClientOk used w.serverAddr w.server c.2

/-! ## 5. What the server keeps -/

omit [KeyExchange] [CryptoSuite] in
/-- The server keeps every connection, under the id it was registered for. -/
structure Grows (server server' : GtpEndpoint) : Prop where
  connections : ∀ (cid : ConnectionId) (handle : Nat), server.connections[cid]? = some handle →
    server'.connections[cid]? = some handle
  arena : ∃ more, server'.arena = server.arena ++ more

omit [KeyExchange] [CryptoSuite] in
theorem Grows.of_eq {server server' : GtpEndpoint}
    (hconnections : server'.connections = server.connections)
    (harena : server'.arena = server.arena) : Grows server server' := by
  refine ⟨fun cid handle h => ?_, [], ?_⟩
  · rw [hconnections]
    exact h
  · rw [harena, List.append_nil]

section Growing

variable {used : List Confirmation} {server server' : GtpEndpoint}

omit [KeyExchange] in
theorem Grows.confirmed (h : Grows server server') {conf : Confirmation}
    (hconf : Confirmed used server conf) : Confirmed used server' conf := by
  obtain ⟨hused, handle, hmap, hholds⟩ := hconf
  obtain ⟨more, harena⟩ := h.arena
  refine ⟨hused, handle, h.connections _ _ hmap, ?_⟩
  rw [harena]
  exact hholds.append more

theorem Grows.vouched (h : Grows server server') {proof : Bytes 32}
    (hproof : Vouched used server proof) : Vouched used server' proof := by
  obtain ⟨conf, hconf, heq⟩ := hproof
  exact ⟨conf, h.confirmed hconf, heq⟩

theorem Grows.fromServer (h : Grows server server') {datagram : List UInt8}
    (hd : FromServer used server datagram) : FromServer used server' datagram := by
  obtain ⟨hhandshake, cid, frame, hcarries, hframe⟩ := hd
  refine ⟨hhandshake, cid, frame, hcarries, hframe.imp_right ?_⟩
  rintro ⟨proof, hproof, hvouched⟩
  exact ⟨proof, hproof, h.vouched hvouched⟩

omit [KeyExchange] in
theorem Grows.stageOk (h : Grows server server') {arena : List SharedConnection}
    {cid : ConnectionId} {stage : Stage} (hs : StageOk used server arena cid stage) :
    StageOk used server' arena cid stage := by
  have hmono : ∀ handle, (∃ conf, Confirmed used server conf ∧ conf.2.connectionId = cid ∧
      Holds true (sessionKeys conf) arena handle) → ∃ conf, Confirmed used server' conf ∧
      conf.2.connectionId = cid ∧ Holds true (sessionKeys conf) arena handle := by
    rintro handle ⟨conf, hconf, hrest⟩
    exact ⟨conf, h.confirmed hconf, hrest⟩
  cases stage with
  | conclude handle confirmed =>
    cases confirmed with
    | true => exact hmono handle hs
    | false => trivial
  | returned result =>
    cases result with
    | ok handle => exact hmono handle hs
    | error e => trivial
  | sendHello => exact hs
  | awaitHello => exact hs
  | abandon => trivial
  | greeted => trivial
  | sendFinish => exact hs
  | register => exact hs
  | awaitFinish => exact hs
  | retract => trivial

theorem Grows.clientOk (h : Grows server server') {serverAddr : SocketAddr} {ep : GtpEndpoint}
    (hep : ClientOk used serverAddr server ep) : ClientOk used serverAddr server' ep := by
  intro id call hcall
  obtain ⟨hpeer, hproof, hstage⟩ := hep id call hcall
  exact ⟨hpeer, fun proof hp => h.vouched (hproof proof hp), h.stageOk hstage⟩

end Growing

omit [KeyExchange] [CryptoSuite] in
theorem finishOf_eq {datagram : List UInt8} {cid : ConnectionId} {cookie proof : Bytes 32}
    (h : Carries datagram cid (.handshakeFinish cookie proof)) :
    finishOf datagram = some (cid, cookie, proof) := by
  obtain ⟨header, headerLen, n, hheader, hcid, hframe⟩ := h
  unfold finishOf
  rw [hheader]
  dsimp only
  rw [hframe]
  dsimp only
  rw [hcid]

theorem sendServerFinish_fromServer {used : List Confirmation} {server : GtpEndpoint}
    {cid : ConnectionId} {proof : Bytes 32} {dest : SocketAddr} {o : Outgoing}
    (h : o ∈ sendServerFinish cid proof dest) (hproof : Vouched used server proof) :
    FromServer used server o.2 := by
  have hsize : minLongHeaderLen + (Frame.serverFinish proof).needed ≤ 128 :=
    (by decide : minLongHeaderLen + (1 + 32) ≤ 128)
  have htype : (Frame.serverFinish proof).frameType ∈ [(0x0B : UInt8), 0x0C, 0x0D, 0x0E] :=
    (by decide : (0x0E : UInt8) ∈ [(0x0B : UInt8), 0x0C, 0x0D, 0x0E])
  exact ⟨sendPacket_isHandshake htype hsize rfl h, cid, _, sendPacket_carries rfl hsize rfl h,
    Or.inr ⟨proof, rfl, hproof⟩⟩

theorem sendServerHello_fromServer {used : List Confirmation} {server : GtpEndpoint}
    {cid assigned : ConnectionId} {pk nonce cookie static : Bytes 32} {dest : SocketAddr}
    {o : Outgoing}
    (h : o ∈ sendPacket 256 cid (.serverHello pk nonce cookie assigned static) dest) :
    FromServer used server o.2 := by
  have hsize : minLongHeaderLen + (Frame.serverHello pk nonce cookie assigned static).needed ≤ 256 :=
    (by decide : minLongHeaderLen + (1 + 32 + 32 + 32 + 8 + 32) ≤ 256)
  have htype : (Frame.serverHello pk nonce cookie assigned static).frameType ∈
      [(0x0B : UInt8), 0x0C, 0x0D, 0x0E] :=
    (by decide : (0x0C : UInt8) ∈ [(0x0B : UInt8), 0x0C, 0x0D, 0x0E])
  exact ⟨sendPacket_isHandshake htype hsize rfl h, cid, _, sendPacket_carries rfl hsize rfl h,
    Or.inl ⟨_, _, _, _, _, rfl⟩⟩

/-- What the server has after a datagram. -/
structure ServerOk (used : List Confirmation) (server : GtpEndpoint)
    (r : GtpEndpoint × List Outgoing) : Prop where
  grows : Grows server r.1
  cache : ∀ (cid : ConnectionId) (v : Bytes 32 × SocketAddr × MonotonicTime),
    r.1.acceptedFinishes[cid]? = some v → Vouched used r.1 v.1
  out : ∀ o ∈ r.2, FromServer used r.1 o.2

/-- A `HandshakeFinish` that completes a handshake only for a free id. -/
theorem onHandshakeFinish_serverOk {used : List Confirmation} {server : GtpEndpoint}
    (hcache : ∀ (cid : ConnectionId) (v : Bytes 32 × SocketAddr × MonotonicTime),
      server.acceptedFinishes[cid]? = some v → Vouched used server v.1)
    (cid : ConnectionId) (src : SocketAddr) (cookie proof : Bytes 32) (now : MonotonicTime)
    (hconf : ∀ conf, server.accepted? cid src cookie proof now = some conf →
      conf ∈ used ∧ conf.2.connectionId ∉ server.connections) :
    ServerOk used server (server.onHandshakeFinish cid src cookie proof now) := by
  have h := server.onHandshakeFinish_finished cid src cookie proof now
  generalize server.onHandshakeFinish cid src cookie proof now = r at h ⊢
  generalize server.accepted? cid src cookie proof now = conf at h hconf
  have hgrows : Grows server r.1 := by
    rcases h.connections with ⟨hmap, harena⟩ | ⟨c, -, hfree, hmap, harena⟩
    · exact .of_eq hmap harena
    · refine ⟨fun i handle hi => ?_, _, harena⟩
      rw [hmap, Maps.getElem?_insert]
      split
      · rename_i heq
        subst heq
        exact absurd (Maps.mem_iff.mpr ⟨handle, hi⟩) hfree
      · exact hi
  have hdone : ∀ c, conf = some c → Confirmed used r.1 c := by
    intro c hc
    obtain ⟨hused, hfree⟩ := hconf c hc
    obtain ⟨hcid, hmem⟩ := h.answered c hc
    rw [hcid] at hfree
    rcases h.connections with ⟨hmap, -⟩ | ⟨c', hc', -, hmap, harena⟩
    · rw [hmap] at hmem
      exact absurd hmem hfree
    · rw [hc] at hc'
      cases hc'
      refine ⟨hused, server.arena.length, ?_, ?_⟩
      · rw [hmap, hcid, Maps.getElem?_insert, if_pos rfl]
      · rw [harena]
        exact holds_new cid src (sessionKeys c) false server.arena
  refine ⟨hgrows, fun i v hv => ?_, fun o ho => ?_⟩
  · rcases h.cache i v hv with hold | ⟨c, hc, hproof⟩
    · exact hgrows.vouched (hcache i v hold)
    · exact ⟨c, hdone c hc, hproof⟩
  · obtain ⟨p, dest, hsend, ⟨v, hv, hp⟩ | ⟨c, hc, hp⟩⟩ := h.out o ho
    · rw [← hp] at hsend
      exact sendServerFinish_fromServer hsend (hgrows.vouched (hcache cid v hv))
    · exact sendServerFinish_fromServer hsend ⟨c, hdone c hc, hp⟩

/-- **The server on a datagram.** -/
theorem receive_serverOk {used : List Confirmation} {server : GtpEndpoint}
    (hcache : ∀ (cid : ConnectionId) (v : Bytes 32 × SocketAddr × MonotonicTime),
      server.acceptedFinishes[cid]? = some v → Vouched used server v.1)
    (src : SocketAddr) {datagram : List UInt8} (now : MonotonicTime) (secret nonce : Bytes 32)
    (hdatagram : IsHandshake datagram)
    (hconf : ∀ cid cookie proof conf, finishOf datagram = some (cid, cookie, proof) →
      server.accepted? cid src cookie proof now = some conf →
      conf ∈ used ∧ conf.2.connectionId ∉ server.connections) :
    ServerOk used server (server.onDatagram src datagram now secret nonce) := by
  have hsame : ∀ ep : GtpEndpoint, ep.connections = server.connections → ep.arena = server.arena →
      ep.acceptedFinishes = server.acceptedFinishes → ServerOk used server (ep, []) := by
    intro ep hmap harena hfinishes
    refine ⟨.of_eq hmap harena, fun i v hv => ?_, fun o ho => absurd ho List.not_mem_nil⟩
    rw [hfinishes] at hv
    exact (Grows.of_eq hmap harena).vouched (hcache i v hv)
  have h := server.onDatagram_received src datagram now secret nonce
  generalize server.onDatagram src datagram now secret nonce = r at h ⊢
  cases h with
  | dropped => exact hsame server rfl rfl rfl
  | clientHello =>
    rename_i cid pk clientNonce version _
    obtain ⟨limiter, pending, heq, hout⟩ :=
      server.onClientHello_spec cid src pk clientNonce version now secret nonce
    generalize server.onClientHello cid src pk clientNonce version now secret nonce = r at heq hout ⊢
    refine ⟨?_, ?_, fun o ho => ?_⟩
    · rw [heq]
      exact .of_eq rfl rfl
    · rw [heq]
      exact (hsame _ rfl rfl rfl).cache
    · obtain ⟨_, _, _, _, hsend⟩ := hout o ho
      exact sendServerHello_fromServer hsend
  | serverHello =>
    refine hsame _ ?_ ?_ ?_ <;> (unfold GtpEndpoint.onServerHello; split <;> rfl)
  | handshakeFinish hcarries =>
    exact onHandshakeFinish_serverOk hcache _ src _ _ now
      fun conf hc => hconf _ _ _ conf (finishOf_eq hcarries) hc
  | serverFinish =>
    refine hsame _ ?_ ?_ ?_ <;> (unfold GtpEndpoint.onServerFinish; split <;> rfl)
  | data hnot => exact absurd hdatagram hnot

/-! ## 6. What a client keeps -/

section Client

variable {used : List Confirmation} {serverAddr : SocketAddr} {server : GtpEndpoint}

omit [KeyExchange] in
theorem StageOk.arena {arena arena' : List SharedConnection} {cid : ConnectionId} {stage : Stage}
    (h : StageOk used server arena cid stage)
    (hkeep : ∀ keys handle, Holds true keys arena handle → Holds true keys arena' handle) :
    StageOk used server arena' cid stage := by
  have hmono : ∀ handle, (∃ conf, Confirmed used server conf ∧ conf.2.connectionId = cid ∧
      Holds true (sessionKeys conf) arena handle) → ∃ conf, Confirmed used server conf ∧
      conf.2.connectionId = cid ∧ Holds true (sessionKeys conf) arena' handle := by
    rintro handle ⟨conf, hconf, hcid, hholds⟩
    exact ⟨conf, hconf, hcid, hkeep _ _ hholds⟩
  cases stage with
  | conclude handle confirmed =>
    cases confirmed with
    | true => exact hmono handle h
    | false => trivial
  | returned result =>
    cases result with
    | ok handle => exact hmono handle h
    | error e => trivial
  | awaitFinish session handle rounds => exact ⟨h.1, hkeep _ _ h.2⟩
  | sendHello => exact h
  | awaitHello => exact h
  | abandon => trivial
  | greeted => trivial
  | sendFinish => exact h
  | register => exact h
  | retract => trivial

/-- One call changes, and every connection keeps its keys. -/
theorem ClientOk.modify {ep ep' : GtpEndpoint} (h : ClientOk used serverAddr server ep) {id : Nat}
    {f : ConnectCall → ConnectCall} (hcalls : ep'.calls = ep.calls.modify id f)
    (hkeep : ∀ keys handle, Holds true keys ep.arena handle → Holds true keys ep'.arena handle)
    (hf : ∀ call, ep.calls[id]? = some call → CallOk used serverAddr server ep'.arena (f call)) :
    ClientOk used serverAddr server ep' := by
  intro i call hcall
  rw [hcalls] at hcall
  by_cases hi : id = i
  · subst hi
    rw [List.getElem?_modify_eq] at hcall
    obtain ⟨call', hcall', rfl⟩ := Option.map_eq_some_iff.mp hcall
    exact hf call' hcall'
  · rw [List.getElem?_modify_ne _ _ hi] at hcall
    obtain ⟨hpeer, hproof, hstage⟩ := h i call hcall
    exact ⟨hpeer, hproof, hstage.arena hkeep⟩

/-- A call moves on to a stage of which everything is known. -/
theorem ClientOk.setStage {ep ep' : GtpEndpoint} (h : ClientOk used serverAddr server ep) {id : Nat}
    {call : ConnectCall} (hcall : ep.calls[id]? = some call) {stage : Stage}
    (hcalls : ep'.calls = ep.calls)
    (hkeep : ∀ keys handle, Holds true keys ep.arena handle → Holds true keys ep'.arena handle)
    (hstage : StageOk used server ep'.arena call.cid stage) :
    ClientOk used serverAddr server (ep'.setStage id stage) := by
  have hmodify : (ep'.setStage id stage).calls =
      ep.calls.modify id fun call => { call with stage } := by
    rw [← hcalls]
    rfl
  refine h.modify hmodify hkeep ?_
  intro call' hcall'
  rw [hcall] at hcall'
  cases hcall'
  obtain ⟨hpeer, hproof, -⟩ := h id call hcall
  exact ⟨hpeer, hproof, hstage⟩

/-- **A client on a datagram of the server.** -/
theorem receive_clientOk {ep : GtpEndpoint} (h : ClientOk used serverAddr server ep)
    (src : SocketAddr) {datagram : List UInt8} (now : MonotonicTime) (secret nonce : Bytes 32)
    (hdatagram : FromServer used server datagram) :
    ClientOk used serverAddr server (ep.onDatagram src datagram now secret nonce).1 ∧
      (ep.onDatagram src datagram now secret nonce).2 = [] := by
  obtain ⟨hhandshake, cid, frame, hcarries, hframe⟩ := hdatagram
  have hr := ep.onDatagram_received src datagram now secret nonce
  generalize ep.onDatagram src datagram now secret nonce = r at hr ⊢
  cases hr with
  | dropped => exact ⟨h, rfl⟩
  | clientHello hc =>
    obtain ⟨-, rfl⟩ := hcarries.unique hc
    rcases hframe with ⟨_, _, _, _, _, heq⟩ | ⟨_, heq, -⟩
    · cases heq
    · cases heq
  | serverHello hc =>
    refine ⟨?_, rfl⟩
    unfold GtpEndpoint.onServerHello
    split
    · exact h
    · refine h.modify rfl (fun _ _ hh => hh) ?_
      intro call hcall
      obtain ⟨hpeer, hproof, hstage⟩ := h _ call hcall
      exact ⟨hpeer, hproof, hstage⟩
  | handshakeFinish hc =>
    obtain ⟨-, rfl⟩ := hcarries.unique hc
    rcases hframe with ⟨_, _, _, _, _, heq⟩ | ⟨_, heq, -⟩
    · cases heq
    · cases heq
  | serverFinish hc =>
    refine ⟨?_, rfl⟩
    obtain ⟨-, rfl⟩ := hcarries.unique hc
    rcases hframe with ⟨_, _, _, _, _, heq⟩ | ⟨proof, heq, hvouched⟩
    · cases heq
    · cases heq
      unfold GtpEndpoint.onServerFinish
      split
      · exact h
      · refine h.modify rfl (fun _ _ hh => hh) ?_
        intro call hcall
        obtain ⟨hpeer, -, hstage⟩ := h _ call hcall
        refine ⟨hpeer, ?_, hstage⟩
        intro p hp
        cases hp
        exact hvouched
  | data hnot => exact absurd hhandshake hnot

omit [KeyExchange] [CryptoSuite] in
theorem handshakePacket_fromClient {size : Nat} {frame : Frame} {cid : ConnectionId}
    {packetNumber : PacketNumber} {datagram : List UInt8}
    (hframe : (∃ pk nonce version, frame = .clientHello pk nonce version) ∨
      ∃ cookie proof, frame = .handshakeFinish cookie proof)
    (hsize : minLongHeaderLen + frame.needed ≤ size)
    (h : handshakePacket size cid packetNumber frame = .ok datagram) : FromClient datagram := by
  rcases hframe with ⟨pk, nonce, version, rfl⟩ | ⟨cookie, proof, rfl⟩
  · have htype : (Frame.clientHello pk nonce version).frameType ∈
        [(0x0B : UInt8), 0x0C, 0x0D, 0x0E] :=
      (by decide : (0x0B : UInt8) ∈ [(0x0B : UInt8), 0x0C, 0x0D, 0x0E])
    exact ⟨handshakePacket_isHandshake htype hsize rfl h, cid, _,
      handshakePacket_carries rfl hsize rfl h, Or.inl ⟨pk, nonce, version, rfl⟩⟩
  · have htype : (Frame.handshakeFinish cookie proof).frameType ∈
        [(0x0B : UInt8), 0x0C, 0x0D, 0x0E] :=
      (by decide : (0x0D : UInt8) ∈ [(0x0B : UInt8), 0x0C, 0x0D, 0x0E])
    exact ⟨handshakePacket_isHandshake htype hsize rfl h, cid, _,
      handshakePacket_carries rfl hsize rfl h, Or.inr ⟨cookie, proof, rfl⟩⟩

theorem connect_clientOk {ep : GtpEndpoint} (h : ClientOk used serverAddr server ep)
    (cid : ConnectionId) (secret nonce : Bytes 32) :
    ClientOk used serverAddr server (ep.connect cid serverAddr secret nonce) := by
  intro id call hcall
  unfold GtpEndpoint.connect at hcall ⊢
  dsimp only at hcall ⊢
  rw [List.getElem?_append] at hcall
  split at hcall
  · exact h id call hcall
  · rename_i hid
    rw [List.getElem?_singleton] at hcall
    split at hcall
    case isFalse => cases hcall
    cases hcall
    refine ⟨rfl, fun p hp => (by cases hp), ?_⟩
    split
    · rename_i hello hpacket
      have hsize : ∀ (pk nonce : Bytes 32) (version : UInt32),
          minLongHeaderLen + (Frame.clientHello pk nonce version).needed ≤ 128 :=
        fun _ _ _ => (by decide : minLongHeaderLen + (1 + 32 + 32 + 4) ≤ 128)
      exact handshakePacket_fromClient (Or.inl ⟨_, _, _, rfl⟩) (hsize _ _ _) hpacket
    · trivial

/-- The session that a client computes belongs together. -/
theorem clientSession_sessionOk {ep : GtpEndpoint} {call : ConnectCall} {info : ServerHelloInfo}
    {session : Session} (h : ep.clientSession call info = .ok session) :
    SessionOk call.cid session := by
  cases hsecret : ep.clientSecret call.pair info with
  | error e =>
    unfold GtpEndpoint.clientSession at h
    rw [hsecret] at h
    cases h
  | ok shared =>
    obtain ⟨finish, hsession, hpacket⟩ := GtpEndpoint.clientSession_ok hsecret
    rw [hsession] at h
    cases h
    have hsize : ∀ cookie proof : Bytes 32,
        minLongHeaderLen + (Frame.handshakeFinish cookie proof).needed ≤ 128 :=
      fun _ _ => (by decide : minLongHeaderLen + (1 + 32 + 32) ≤ 128)
    exact ⟨rfl, rfl, handshakePacket_fromClient (Or.inr ⟨_, _, rfl⟩) (hsize _ _) hpacket⟩

/-- What is known of a client after a step of a call, and of what it has sent. -/
def ProceedsOk (used : List Confirmation) (serverAddr : SocketAddr) (server : GtpEndpoint)
    (r : GtpEndpoint × List Outgoing) : Prop :=
  ClientOk used serverAddr server r.1 ∧ ∀ o ∈ r.2, o.1 = serverAddr ∧ FromClient o.2

section Advance

variable {ep : GtpEndpoint} {id : Nat} {call : ConnectCall} {failure : Option String}

theorem ProceedsOk.silent {ep' : GtpEndpoint} (h : ClientOk used serverAddr server ep') :
    ProceedsOk used serverAddr server (ep', []) :=
  ⟨h, fun _ ho => absurd ho List.not_mem_nil⟩

/-- A step to another stage that sends the datagram of the stage once more, or for the first
time. -/
theorem ProceedsOk.sends (h : ClientOk used serverAddr server ep) (hcall : ep.calls[id]? = some call)
    {stage : Stage} (hstage : StageOk used server ep.arena call.cid stage) {datagram : List UInt8}
    (hd : FromClient datagram) :
    ProceedsOk used serverAddr server (ep.setStage id stage, [(call.peerAddr, datagram)]) := by
  refine ⟨h.setStage hcall rfl (fun _ _ hh => hh) hstage, fun o ho => ?_⟩
  rw [List.mem_singleton.mp ho]
  exact ⟨(h id call hcall).peerAddr, hd⟩

theorem advance_awaitHello (h : ClientOk used serverAddr server ep)
    (hcall : ep.calls[id]? = some call) {hello : List UInt8} {attempts : Nat}
    (heq : call.stage = .awaitHello hello attempts) :
    ProceedsOk used serverAddr server (ep.advance id call failure) := by
  have hstage := (h id call hcall).stage
  rw [heq] at hstage
  have hmove : ∀ stage, StageOk used server ep.arena call.cid stage →
      ClientOk used serverAddr server (ep.setStage id stage) :=
    fun stage hs => h.setStage hcall rfl (fun _ _ hh => hh) hs
  rw [GtpEndpoint.advance, heq]
  dsimp only
  split
  · exact .silent (hmove _ trivial)
  · split
    · exact .silent (hmove _ trivial)
    · split
      · exact .silent h
      · split
        · exact .silent (hmove _ trivial)
        · refine .sends h hcall ?_ hstage
          exact hstage

/-- Waiting for the `ServerFinish`.  Its proof is checked against a secret and a transcript that are
in `used`, so with ideal primitives they are those of the server. -/
theorem advance_awaitFinish (h : ClientOk used serverAddr server ep) (hideal : Ideal used)
    (hcall : ep.calls[id]? = some call) {session : Session} {handle rounds : Nat}
    (heq : call.stage = .awaitFinish session handle rounds)
    (hused : (session.shared, session.transcript) ∈ used) :
    ProceedsOk used serverAddr server (ep.advance id call failure) := by
  obtain ⟨-, hproof, hstage⟩ := h id call hcall
  rw [heq] at hstage
  have hmove : ∀ stage, StageOk used server ep.arena call.cid stage →
      ClientOk used serverAddr server (ep.setStage id stage) :=
    fun stage hs => h.setStage hcall rfl (fun _ _ hh => hh) hs
  rw [GtpEndpoint.advance, heq]
  dsimp only
  split
  · rename_i proof hp
    split
    · rename_i hverify
      obtain ⟨conf, hconf, hvouched⟩ := hproof proof hp
      have hequal : computeServerProof session.shared session.transcript =
          computeServerProof conf.1 conf.2 :=
        (of_decide_eq_true hverify).trans hvouched
      have hsame := hideal.serverProof_inj hused hconf.1 hequal
      refine .silent (hmove _ ⟨conf, hconf, ?_, ?_⟩)
      · rw [← hsame]
        exact hstage.1.cid
      · rw [← hsame, ← hstage.1.keys]
        exact hstage.2
    · exact .silent (hmove _ trivial)
  · split
    · exact .silent (hmove _ trivial)
    · split
      · exact .silent h
      · refine .sends h hcall ?_ hstage.1.finish
        split
        · trivial
        · exact hstage

/-- The end of the handshake: a confirmed connection stays, any other one is dropped. -/
theorem advance_conclude (h : ClientOk used serverAddr server ep)
    (hcall : ep.calls[id]? = some call) {handle : Nat} {confirmed : Bool}
    (heq : call.stage = .conclude handle confirmed) :
    ProceedsOk used serverAddr server (ep.advance id call failure) := by
  have hstage := (h id call hcall).stage
  rw [heq] at hstage
  rw [GtpEndpoint.advance, heq]
  dsimp only
  split
  · rename_i hconfirmed
    subst hconfirmed
    have hkept : ∀ keys i, Holds true keys ep.arena i → Holds true keys (ep.arena.modify handle
        fun s => { s with conn := s.conn.sendPing 0x00C0FFEE }) i :=
      fun keys i hh => hh.modify _ _ fun _ => rfl
    obtain ⟨conf, hconf, hcid, hholds⟩ := hstage
    exact .silent (h.setStage hcall rfl hkept ⟨conf, hconf, hcid, hkept _ _ hholds⟩)
  · exact .silent (h.setStage hcall rfl (fun keys i hh => hh.modify _ _ fun _ => rfl) trivial)

/-- **A step of a call.** -/
theorem advance_clientOk (h : ClientOk used serverAddr server ep)
    (hideal : Ideal used) (hcall : ep.calls[id]? = some call)
    (hchecked : ∀ session handle rounds, call.stage = .awaitFinish session handle rounds →
      (session.shared, session.transcript) ∈ used) :
    ProceedsOk used serverAddr server (ep.advance id call failure) := by
  obtain ⟨hpeer, hproof, hstage⟩ := h id call hcall
  have hmove : ∀ stage, StageOk used server ep.arena call.cid stage →
      ClientOk used serverAddr server (ep.setStage id stage) :=
    fun stage hs => h.setStage hcall rfl (fun _ _ hh => hh) hs
  cases heq : call.stage with
  | awaitHello hello attempts => exact advance_awaitHello h hcall heq
  | awaitFinish session handle rounds =>
    exact advance_awaitFinish h hideal hcall heq (hchecked session handle rounds heq)
  | conclude handle confirmed => exact advance_conclude h hcall heq
  | sendHello hello =>
    rw [heq] at hstage
    rw [GtpEndpoint.advance, heq]
    dsimp only
    split
    · exact .silent (hmove _ trivial)
    · refine .sends h hcall ?_ hstage
      exact hstage
  | abandon e =>
    rw [GtpEndpoint.advance, heq]
    exact .silent (h.setStage hcall rfl (fun _ _ hh => hh) trivial)
  | greeted info =>
    rw [GtpEndpoint.advance, heq]
    dsimp only
    split
    · exact .silent (hmove _ trivial)
    · rename_i session hsession
      exact .silent (h.setStage hcall rfl (fun _ _ hh => hh) (clientSession_sessionOk hsession))
  | sendFinish session =>
    rw [heq] at hstage
    rw [GtpEndpoint.advance, heq]
    refine .sends h hcall ?_ hstage.finish
    exact hstage
  | register session =>
    rw [heq] at hstage
    rw [GtpEndpoint.advance, heq]
    refine .silent (h.modify rfl (fun keys handle hh => hh.append _) ?_)
    intro call' hcall'
    rw [hcall] at hcall'
    cases hcall'
    exact ⟨hpeer, hproof, hstage, holds_new call.cid call.peerAddr session.keys true ep.arena⟩
  | retract handle e =>
    rw [GtpEndpoint.advance, heq]
    exact .silent (h.setStage hcall rfl (fun keys i hh => hh.modify _ _ fun _ => rfl) trivial)
  | returned result =>
    rw [GtpEndpoint.advance, heq]
    exact .silent h

end Advance

end Client

/-! ## 7. Runs -/

theorem Agrees.atClient {used : List Confirmation} {w : World} (h : Agrees used w) (client : Nat)
    (e : GtpEndpoint.Event)
    (hclient : ∀ addr ep, w.clients[client]? = some (addr, ep) →
      ClientOk used w.serverAddr w.server (ep.handle e).1 ∧
        ∀ o ∈ (ep.handle e).2, o.1 = w.serverAddr ∧ FromClient o.2) :
    Agrees used (w.atClient client e) := by
  unfold World.atClient
  split
  · exact h
  · rename_i addr ep hget
    obtain ⟨hok, hout⟩ := hclient addr ep hget
    refine ⟨h.cache, fun p hp => ?_, fun c hc => ?_⟩
    · rcases List.mem_append.mp hp with hp | hp
      · exact h.wire p hp
      · obtain ⟨o, ho, rfl⟩ := List.mem_map.mp hp
        exact Or.inl (hout o ho)
    · rcases List.mem_or_eq_of_mem_set hc with hc | rfl
      · exact h.clients c hc
      · exact ⟨(h.clients _ (List.mem_of_getElem? hget)).1, hok⟩

/-- **One move.** -/
theorem Agrees.step {used : List Confirmation} {w : World} (h : Agrees used w)
    (hideal : Ideal used) {m : Move} (hfree : Free w m)
    (hcompleted : ∀ conf, w.completed m = some conf → conf ∈ used)
    (hchecked : ∀ conf, w.checked m = some conf → conf ∈ used) : Agrees used (w.step m) := by
  cases m with
  | connect client cid secret nonce =>
    refine h.atClient client _ fun addr ep hget => ⟨?_, fun o ho => absurd ho List.not_mem_nil⟩
    exact connect_clientOk (h.clients _ (List.mem_of_getElem? hget)).2 cid secret nonce
  | poll client id failure =>
    refine h.atClient client _ fun addr ep hget => ?_
    have hep := (h.clients _ (List.mem_of_getElem? hget)).2
    unfold GtpEndpoint.handle
    dsimp only
    split
    · rename_i call hcall
      refine advance_clientOk hep hideal hcall fun session handle rounds hstage => ?_
      refine hchecked _ ?_
      simp only [checked, hget, hcall, hstage, bind, Option.bind]
    · exact ⟨hep, fun o ho => absurd ho List.not_mem_nil⟩
  | toServer packet now secret nonce =>
    unfold World.step
    dsimp only
    cases hget : w.wire[packet]? with
    | none => exact h
    | some p =>
      dsimp only
      split
      · rename_i hdest
        have hhandshake : IsHandshake p.datagram := by
          rcases h.wire p (List.mem_of_getElem? hget) with ⟨-, hp⟩ | hp
          · exact hp.1
          · exact hp.1
        have hserver : ServerOk used w.server
            (w.server.handle (.receive p.src p.datagram now secret nonce)) := by
          refine receive_serverOk h.cache p.src now secret nonce hhandshake ?_
          intro cid cookie proof conf hfinish hconf
          have hdone : w.completed (.toServer packet now secret nonce) = some conf := by
            simp only [completed, hget, hfinish, bind, Option.bind, if_pos hdest, hconf]
          exact ⟨hcompleted conf hdone, hfree conf hdone⟩
        refine ⟨hserver.cache, fun q hq => ?_, fun c hc => ?_⟩
        · rcases List.mem_append.mp hq with hq | hq
          · exact (h.wire q hq).imp_right hserver.grows.fromServer
          · obtain ⟨o, ho, rfl⟩ := List.mem_map.mp hq
            exact Or.inr (hserver.out o ho)
        · obtain ⟨hapart, hclient⟩ := h.clients c hc
          exact ⟨hapart, hserver.grows.clientOk hclient⟩
      · exact h
  | toClient client packet now secret nonce =>
    unfold World.step
    dsimp only
    split
    · rename_i p addr ep hget hclient
      split
      · rename_i hdest
        obtain ⟨hapart, hep⟩ := h.clients _ (List.mem_of_getElem? hclient)
        refine h.atClient client _ fun addr' ep' hget' => ?_
        rw [hclient] at hget'
        cases hget'
        rcases h.wire p (List.mem_of_getElem? hget) with ⟨hp, -⟩ | hp
        · exact absurd (hdest.symm.trans hp) hapart
        · obtain ⟨hok, hnil⟩ := receive_clientOk hep p.src now secret nonce hp
          refine ⟨hok, fun o ho => ?_⟩
          change o ∈ (ep.onDatagram p.src p.datagram now secret nonce).2 at ho
          rw [hnil] at ho
          cases ho
      · exact h
    · exact h

theorem start_agrees (used : List Confirmation) (s : Setup) : Agrees used s.start := by
  refine ⟨fun cid v h => ?_, fun p hp => absurd hp List.not_mem_nil, fun c hc => ?_⟩
  · change (∅ : Std.ExtTreeMap ConnectionId (Bytes 32 × SocketAddr × MonotonicTime)
      compare)[cid]? = some v at h
    rw [Std.ExtTreeMap.getElem?_empty] at h
    cases h
  · obtain ⟨c, hmem, rfl⟩ := List.mem_map.mp hc
    refine ⟨s.apart c hmem, fun id call hcall => ?_⟩
    change ([] : List ConnectCall)[id]? = some call at hcall
    rw [List.getElem?_nil] at hcall
    cases hcall

/-- **A run** in which handshakes are completed for free ids only. -/
theorem run_agrees (s : Setup) (moves : List Move) (hfree : Runs.Along step Free s.start moves)
    (hideal : Ideal (used s.start moves)) : Agrees (used s.start moves) (s.start.run moves) := by
  have hruns : Runs.Along step (fun w m => Free w m ∧
      (∀ conf, w.completed m = some conf → conf ∈ used s.start moves) ∧
      ∀ conf, w.checked m = some conf → conf ∈ used s.start moves) s.start moves := by
    refine Runs.along_iff.mpr fun before m after hmoves => ⟨Runs.along_iff.mp hfree _ _ _ hmoves, ?_⟩
    refine ⟨fun conf hconf => ?_, fun conf hconf => ?_⟩
    · have hmem : some conf ∈ Runs.outputs step completed s.start moves := by
        rw [← hconf]
        exact Runs.mem_outputs hmoves
      exact List.mem_append_left _ (List.mem_filterMap.mpr ⟨some conf, hmem, rfl⟩)
    · have hmem : some conf ∈ Runs.outputs step checked s.start moves := by
        rw [← hconf]
        exact Runs.mem_outputs hmoves
      exact List.mem_append_right _ (List.mem_filterMap.mpr ⟨some conf, hmem, rfl⟩)
  exact hruns.preserves_always (fun w m hm hw => hw.step hideal hm.1 hm.2.1 hm.2.2)
    (start_agrees _ s)

/-- **Agreement.**  In every run in which the server completes handshakes only for ids that are not
registered, and with ideal primitives: when a call of `connect` has returned `Ok`, the server's map
holds for its id a connection that opens with the key the client seals with, and seals with the key
the client opens with. -/
theorem connect_agrees (s : Setup) (moves : List Move) (hfree : Runs.Along step Free s.start moves)
    (hideal : Ideal (used s.start moves)) {addr : SocketAddr} {ep : GtpEndpoint}
    (hclient : (addr, ep) ∈ (s.start.run moves).clients) {id handle : Nat} {call : ConnectCall}
    (hcall : ep.calls[id]? = some call) (hok : call.stage = .returned (.ok handle)) :
    ∃ ours theirs serverHandle, ep.arena[handle]? = some ours ∧
      (s.start.run moves).server.connections[call.cid]? = some serverHandle ∧
      (s.start.run moves).server.arena[serverHandle]? = some theirs ∧
      theirs.conn.hot.rxKey = ours.conn.hot.txKey ∧ theirs.conn.hot.txKey = ours.conn.hot.rxKey ∧
      theirs.conn.hot.rxIv = ours.conn.hot.txIv ∧ theirs.conn.hot.txIv = ours.conn.hot.rxIv := by
  have hagrees := run_agrees s moves hfree hideal
  have hstage := ((hagrees.clients _ hclient).2 id call hcall).stage
  rw [hok] at hstage
  obtain ⟨conf, ⟨-, serverHandle, hmap, theirs, htheirs, hserver⟩, hcid, ours, hours, hkeys⟩ := hstage
  rw [hcid] at hmap
  refine ⟨ours, theirs, serverHandle, hours, hmap, htheirs, ?_⟩
  obtain ⟨htx, hrx⟩ := Prod.mk.inj hkeys
  obtain ⟨htx', hrx'⟩ := Prod.mk.inj hserver
  obtain ⟨htxKey, htxIv⟩ := Prod.mk.inj htx
  obtain ⟨hrxKey, hrxIv⟩ := Prod.mk.inj hrx
  obtain ⟨htxKey', htxIv'⟩ := Prod.mk.inj htx'
  obtain ⟨hrxKey', hrxIv'⟩ := Prod.mk.inj hrx'
  exact ⟨hrxKey'.trans htxKey.symm, htxKey'.trans hrxKey.symm, hrxIv'.trans htxIv.symm,
    htxIv'.trans hrxIv.symm⟩

end

/-! ## 8. Two clients -/

namespace Sample

attribute [local instance] labelSuite additiveExchange

/-- A key or a nonce of one byte. -/
def key (b : UInt8) : Bytes 32 := List.Vector.replicate 32 b

/-- A server and two clients. -/
def setup : Setup where
  serverAddr := ⟨1, 4433⟩
  tokenSecret := key 9
  identity := none
  clients := [(⟨2, 5000⟩, key 8, none), (⟨3, 5000⟩, key 7, none)]
  apart := by decide

/-- A handshake without loss, whose first datagram is the one with number `first`. -/
def handshake (client first : Nat) (cid : ConnectionId) (now : MonotonicTime) (c s : UInt8) :
    List Move :=
  [.connect client cid (key c) (key (c + 1)), .poll client 0 none,
    .toServer first now (key s) (key (s + 1)),
    .toClient client (first + 1) now (key 0) (key 0)] ++
  List.replicate 4 (.poll client 0 none) ++
  [.toServer (first + 2) now (key s) (key (s + 1)),
    .toClient client (first + 3) now (key 0) (key 0)] ++
  List.replicate 2 (.poll client 0 none)

/-- The first client connects under the id 7. -/
def one : List Move := handshake 0 0 7 1000 1 3

/-- Four seconds later the second client connects under the same id. -/
def two : List Move := one ++ handshake 1 4 7 4000000 11 13

/-- The theorem at the handshake of the first client. -/
theorem connect_agrees_one : ∃ addr ep call ours theirs serverHandle,
    (addr, ep) ∈ (setup.start.run one).clients ∧ ep.calls[0]? = some call ∧
      call.stage = .returned (.ok 0) ∧ ep.arena[0]? = some ours ∧
      (setup.start.run one).server.connections[call.cid]? = some serverHandle ∧
      (setup.start.run one).server.arena[serverHandle]? = some theirs ∧
      theirs.conn.hot.rxKey = ours.conn.hot.txKey ∧ theirs.conn.hot.txKey = ours.conn.hot.rxKey := by
  obtain ⟨hfree, hideal, hreturned⟩ : Runs.Along step Free setup.start one ∧
      Ideal (used setup.start one) ∧
      (((setup.start.run one).clients[0]?.bind fun c => c.2.calls[0]?).map
        ConnectCall.stage) = some (.returned (.ok 0)) := by decide +kernel
  obtain ⟨call, hcall, hok⟩ := Option.map_eq_some_iff.mp hreturned
  obtain ⟨⟨addr, ep⟩, hget, hcall⟩ := Option.bind_eq_some_iff.mp hcall
  have hmem := List.mem_of_getElem? hget
  obtain ⟨ours, theirs, serverHandle, hours, hmap, htheirs, hrx, htx, -⟩ :=
    connect_agrees setup one hfree hideal hmem hcall hok
  exact ⟨addr, ep, call, ours, theirs, serverHandle, hmem, hcall, hok, hours, hmap, htheirs, hrx, htx⟩

/-- **The id is taken.** The second client's call returns `Ok`, and the server's map still holds the
connection of the first: its keys are not the client's.  No two inputs of the run collide. -/
theorem connect_disagrees_two : Ideal (used setup.start two) ∧
    (((setup.start.run two).clients[1]?.bind fun c => c.2.calls[0]?).map fun call =>
      (call.cid, call.stage)) = some (7, .returned (.ok 0)) ∧
    ((setup.start.run two).server.connections[(7 : ConnectionId)]?).isSome ∧
    (((setup.start.run two).server.connections[(7 : ConnectionId)]?.bind fun handle =>
      (setup.start.run two).server.arena[handle]?).map fun s => s.conn.hot.rxKey) ≠
      (((setup.start.run two).clients[1]?.bind fun c => c.2.arena[0]?).map fun s =>
        s.conn.hot.txKey) := by
  decide +kernel

end Sample

end World

end Gtp
