/-
# From the engine to the application

Between the engine and its application is a channel of 1024 messages that the one RX task fills and
must not wait for.  A full channel costs an unreliable message, and it costs a reliable message the
connection: it is closed and taken out of the map, so that no later message can follow the one that
is missing.

`Balance` compares what the engine returned on the datagrams that were routed to a connection with
what its application took and what is still in the channel.  It holds of every connection in every
run of an endpoint (`run_balanced`).

* `deliver_delivered` is the `try_send` loop of one datagram: all went into the channel, or what did
  not was unreliable, or the connection is on its way out.
* `Rearranged` lists what an event that feeds no connection can do to the connections; it is said
  once, and every invariant of a connection of the endpoint is proved from it.
* `slow_consumer` says what the application sees: the engine's messages in their order, with gaps.

The entry of a connection that is given up is removed in the step that decided it.  What is in
between in the source, and what a registration there may do, is in `Gtp.Runtime.Sections`; no
datagram is routed to the connection by it.  That the peer learns of the close is left out.
-/
import Gtp.Core.Fragments
import Gtp.Core.Lifecycle
import Gtp.Runtime.Steps

namespace Gtp

/-- A message that is delivered or ends the connection. -/
def ReceivedMessage.isReliable (m : ReceivedMessage) : Bool := m.class'.isReliable

abbrev reliable (msgs : List ReceivedMessage) : List ReceivedMessage :=
  msgs.filter ReceivedMessage.isReliable

theorem reliable_append (msgs msgs' : List ReceivedMessage) :
    reliable (msgs ++ msgs') = reliable msgs ++ reliable msgs' :=
  List.filter_append msgs msgs'

theorem reliable_cons (msg : ReceivedMessage) (msgs : List ReceivedMessage) :
    reliable (msg :: msgs) = reliable [msg] ++ reliable msgs :=
  reliable_append [msg] msgs

namespace GtpConnection

/-- The connection is on its way out, or gone. -/
def Left (c : GtpConnection) : Prop := c.hot.state = .draining ∨ c.hot.state = .closed

def Begun (c : GtpConnection) : Prop := c.hot.state = .established ∨ c.Left

variable [CryptoSuite]

theorem Left.run {c : GtpConnection} (h : c.Left) (ops : List Op) : (c.run ops).Left :=
  run_left h ops

theorem Begun.run {c : GtpConnection} (h : c.Begun) (ops : List Op) : (c.run ops).Begun := by
  rcases h with h | h
  · have hwalk := c.run_walk ops
    rw [h] at hwalk
    by_cases hlog : stateChanges (c.emitted ops) = []
    · left
      rw [hlog] at hwalk
      generalize (c.run ops).hot.state = t at hwalk ⊢
      cases hwalk
      rfl
    · right
      exact hwalk.entered (P := fun s => s = .draining ∨ s = .closed)
        (fun s t hnext hs => hnext.of_left hs) (fun u hu => hu.of_established) hlog
  · exact Or.inr (h.run ops)

end GtpConnection

namespace GtpEndpoint

/-! ## 1. One datagram -/

/-- The messages `msgs` went from the engine of `s` into the channel of `s'`, or were given up: all
the reliable ones are there, or the connection is to be evicted and on its way out. -/
structure Delivered (msgs : List ReceivedMessage) (s : SharedConnection) (evict : Bool)
    (s' : SharedConnection) : Prop where
  queue : ∃ given, s'.queue = s.queue ++ given ∧ given.Sublist msgs ∧
    reliable given <+: reliable msgs ∧ (evict = false → reliable given = reliable msgs)
  length : s'.queue.length ≤ 1024
  evicted : evict = true → s'.conn.Left
  begun : s'.conn.Begun

/-- `graceful_close` is called where it is allowed. -/
theorem closeUndelivered_left {s : SharedConnection} (h : s.conn.Begun) (undelivered : Nat)
    (code : UInt16) (reason : String) :
    (closeUndelivered s undelivered code reason).conn.Left ∧
      (closeUndelivered s undelivered code reason).queue = s.queue := by
  refine ⟨?_, rfl⟩
  unfold closeUndelivered
  dsimp only
  split
  · rename_i hest
    left
    unfold GtpConnection.gracefulClose GtpConnection.changeState
    simp [GtpConnection.queueControl, hest, ConnectionState.transitionTo, GtpConnection.pushEvent_hot]
  · rename_i hest
    exact h.resolve_left hest

/-- A connection that gives up on its application keeps what is in the channel. -/
theorem Delivered.giveUp {msgs : List ReceivedMessage} {s : SharedConnection}
    (hlen : s.queue.length ≤ 1024) (hbegun : s.conn.Begun) (undelivered : Nat) (code : UInt16)
    (reason : String) : Delivered msgs s true (closeUndelivered s undelivered code reason) := by
  obtain ⟨hleft, hqueue⟩ := closeUndelivered_left hbegun undelivered code reason
  refine ⟨⟨[], ?_, List.nil_sublist _, List.nil_prefix, nofun⟩, ?_, fun _ => hleft,
    Or.inr hleft⟩
  · rw [hqueue, List.append_nil]
  · rw [hqueue]
    exact hlen

/-- What one round of the `try_send` loop can do. -/
inductive Tried (msg : ReceivedMessage) (s : SharedConnection) : Bool × SharedConnection → Prop
  | gaveUp (undelivered : Nat) (code : UInt16) (reason : String) :
    Tried msg s (true, closeUndelivered s undelivered code reason)
  | queued (hroom : s.queue.length < 1024) :
    Tried msg s (false, { s with queue := s.queue ++ [msg] })
  | skipped (hmsg : msg.isReliable = false) :
    Tried msg s (false, { s with
      conn.cold.totalDroppedFrames := s.conn.cold.totalDroppedFrames + 1 })

theorem trySend_tried (msg : ReceivedMessage) (behind : Nat) (s : SharedConnection) :
    Tried msg s (trySend msg behind s) := by
  unfold trySend
  split
  · exact .gaveUp _ _ _
  · split
    · rename_i hroom
      exact .queued hroom
    · -- the channel is full: the class of the message decides
      cases hclass : msg.class' with
      | unreliable =>
        exact .skipped (by simp [ReceivedMessage.isReliable, hclass, MessageClass.isReliable])
      | unreliableSequenced =>
        exact .skipped (by simp [ReceivedMessage.isReliable, hclass, MessageClass.isReliable])
      | reliableUnordered => exact .gaveUp _ _ _
      | reliableOrdered => exact .gaveUp _ _ _

/-- **The `try_send` loop.** -/
theorem deliver_delivered (msgs : List ReceivedMessage) {s : SharedConnection}
    (hlen : s.queue.length ≤ 1024) (hbegun : s.conn.Begun) :
    Delivered msgs s (deliver msgs s).1 (deliver msgs s).2 := by
  induction msgs generalizing s with
  | nil =>
    exact ⟨⟨[], (List.append_nil _).symm, List.Sublist.refl _, List.prefix_rfl, fun _ => rfl⟩, hlen,
      nofun, hbegun⟩
  | cons msg rest ih =>
    have htried := trySend_tried msg rest.length s
    unfold deliver
    generalize trySend msg rest.length s = r at htried
    cases htried with
    | gaveUp undelivered code reason => exact .giveUp hlen hbegun _ _ _
    | queued hroom =>
      -- the message goes into the channel
      have hnext := ih (s := { s with queue := s.queue ++ [msg] })
        (by simpa using Nat.le_of_lt_succ (Nat.succ_lt_succ hroom)) hbegun
      obtain ⟨given, hqueue, hsub, hpre, heq⟩ := hnext.queue
      refine ⟨⟨msg :: given, ?_, hsub.cons_cons msg, ?_, fun hevict => ?_⟩, hnext.length,
        hnext.evicted, hnext.begun⟩
      · refine hqueue.trans ?_
        rw [List.append_assoc]
        rfl
      · rw [reliable_cons msg given, reliable_cons msg rest]
        exact (List.prefix_append_right_inj _).mpr hpre
      · rw [reliable_cons msg given, reliable_cons msg rest, heq hevict]
    | skipped hmsg =>
      have hnext := ih (s := { s with
        conn.cold.totalDroppedFrames := s.conn.cold.totalDroppedFrames + 1 }) hlen hbegun
      obtain ⟨given, hqueue, hsub, hpre, heq⟩ := hnext.queue
      have hrest : reliable (msg :: rest) = reliable rest := by
        simp [hmsg]
      refine ⟨⟨given, hqueue, hsub.cons msg, ?_, ?_⟩, hnext.length, hnext.evicted, hnext.begun⟩
      · rw [hrest]
        exact hpre
      · rw [hrest]
        exact heq

/-! ## 2. Routes -/

/-- The connection id by which the RX loop routes a datagram, unless one of the handshake branches
takes it. -/
def routeOf (datagram : List UInt8) : Option ConnectionId :=
  match PacketHeader.decode datagram with
  | .error _ => none
  | .ok (header, headerLen) =>
    if isHandshakeCandidate header headerLen datagram.length &&
        [some (0x0B : UInt8), some 0x0C, some 0x0D, some 0x0E].contains
          (datagram.drop headerLen).head? then none
    else some header.connectionId

/-- Every connection has one id at most. -/
structure Routed (ep : GtpEndpoint) : Prop where
  lt : ∀ (cid : ConnectionId) (k : Nat), ep.connections[cid]? = some k → k < ep.arena.length
  unique : ∀ (cid cid' : ConnectionId) (k : Nat), ep.connections[cid]? = some k →
    ep.connections[cid']? = some k → cid = cid'

/-- No datagram reaches the connection. -/
def Evicted (ep : GtpEndpoint) (k : Nat) : Prop :=
  ∀ cid : ConnectionId, ep.connections[cid]? ≠ some k

variable [CryptoSuite]

/-- What an event that feeds no connection can do to the connections: it may register one under an
id that it `claims`, or use one that it `touches`; `calls` are the calls that it makes on each. -/
inductive Rearranged (ep : GtpEndpoint) (claims : ConnectionId → Prop) (touches : Nat → Prop)
    (calls : Nat → List GtpConnection.Op) (ep' : GtpEndpoint) : Prop where
  | same (hcalls : ∀ k < ep.arena.length, calls k = []) (harena : ep'.arena = ep.arena)
      (hmap : ep'.connections = ep.connections)
  | registered (setup : GtpConnection.Setup) (hcid : claims setup.cid)
      (hcalls : ∀ k < ep.arena.length, calls k = [])
      (harena : ep'.arena = ep.arena ++ [⟨setup.start, [], true⟩])
      (hmap : ep'.connections = ep.connections.insert setup.cid ep.arena.length)
  | used (k : Nat) (hk : touches k) (hcalls : ∀ j, j ≠ k → calls j = [])
      (open' : SharedConnection → Bool)
      (harena : ep'.arena = ep.arena.modify k fun s =>
        { s with conn := s.conn.run (calls k), open' := open' s })
      (hmap : ep'.connections = ep.connections)

/-- The ids that an event may bind. -/
def claims (ep : GtpEndpoint) : Event → ConnectionId → Prop
  | .receive .., cid => cid ∉ ep.connections
  | .poll id _, cid => ∃ call session, ep.calls[id]? = some call ∧
      call.stage = .register session ∧ call.cid = cid
  | .adopt c .., cid => c = cid
  | _, _ => False

/-- The connections that an event uses. -/
def touches (ep : GtpEndpoint) : Event → Nat → Prop
  | .poll id _, k => ∃ call, ep.calls[id]? = some call ∧
      ((∃ e, call.stage = .retract k e) ∨ ∃ confirmed, call.stage = .conclude k confirmed)
  | .engine handle _, k => handle = k
  | .recv handle, k => handle = k
  | .drop handle, k => handle = k
  | _, _ => False

/-- The calls that an event makes on a connection, other than for a datagram that is routed to
it. -/
def callsOn (ep : GtpEndpoint) : Event → Nat → List GtpConnection.Op
  | .poll id _, k =>
    match ep.calls[id]? with
    | some call => if call.stage = .conclude k true then [.sendPing 0x00C0FFEE] else []
    | none => []
  | .engine handle op, k => if handle = k then [op] else []
  | _, _ => []

variable [KeyExchange]

/-- **A step of `connect`.** -/
theorem advance_rearranged (ep : GtpEndpoint) (id : Nat) {call : ConnectCall}
    (hcall : ep.calls[id]? = some call) (failure : Option String) :
    Rearranged ep (ep.claims (.poll id failure)) (ep.touches (.poll id failure))
      (ep.callsOn (.poll id failure)) (ep.advance id call failure).1 := by
  have hcalls : ∀ k, call.stage ≠ .conclude k true → ep.callsOn (.poll id failure) k = [] := by
    intro k hstage
    simp [callsOn, hcall, hstage]
  have hmove : (∀ k, call.stage ≠ .conclude k true) → ∀ ep' : GtpEndpoint,
      ep'.arena = ep.arena → ep'.connections = ep.connections →
      Rearranged ep (ep.claims (.poll id failure)) (ep.touches (.poll id failure))
        (ep.callsOn (.poll id failure)) ep' := fun hstage ep' harena hmap =>
    .same (fun k _ => hcalls k (hstage k)) harena hmap
  unfold advance
  dsimp only
  cases hstage : call.stage with
  | sendHello hello =>
    rw [hstage] at hmove
    dsimp only
    split
    · exact hmove nofun _ rfl rfl
    · exact hmove nofun _ rfl rfl
  | awaitHello hello attempts =>
    rw [hstage] at hmove
    dsimp only
    split
    · exact hmove nofun _ rfl rfl
    · split
      · exact hmove nofun _ rfl rfl
      · split
        · exact hmove nofun _ rfl rfl
        · split
          · exact hmove nofun _ rfl rfl
          · exact hmove nofun _ rfl rfl
  | abandon e =>
    rw [hstage] at hmove
    exact hmove nofun _ rfl rfl
  | greeted info =>
    rw [hstage] at hmove
    dsimp only
    split
    · exact hmove nofun _ rfl rfl
    · exact hmove nofun _ rfl rfl
  | sendFinish session =>
    rw [hstage] at hmove
    exact hmove nofun _ rfl rfl
  | register session =>
    rw [hstage] at hcalls
    exact .registered ⟨call.cid, call.peerAddr, session.keys, true, true, .default, .competitiveFps⟩
      ⟨call, session, hcall, hstage, rfl⟩ (fun k _ => hcalls k nofun) rfl rfl
  | awaitFinish session handle rounds =>
    rw [hstage] at hmove
    dsimp only
    split
    · split
      · exact hmove nofun _ rfl rfl
      · exact hmove nofun _ rfl rfl
    · split
      · exact hmove nofun _ rfl rfl
      · split
        · exact hmove nofun _ rfl rfl
        · exact hmove nofun _ rfl rfl
  | retract handle e =>
    rw [hstage] at hcalls
    refine .used handle ⟨call, hcall, Or.inl ⟨e, hstage⟩⟩ (fun k _ => hcalls k nofun)
      (fun _ => false) ?_ rfl
    rw [hcalls handle nofun]
    rfl
  | conclude handle confirmed =>
    have htouch : ep.touches (.poll id failure) handle :=
      ⟨call, hcall, Or.inr ⟨confirmed, hstage⟩⟩
    have hother : ∀ k, k ≠ handle → ep.callsOn (.poll id failure) k = [] := by
      intro k hne
      refine hcalls k ?_
      rw [hstage]
      rintro ⟨⟩
      exact hne rfl
    cases confirmed with
    | true =>
      have hping : ep.callsOn (.poll id failure) handle = [.sendPing 0x00C0FFEE] := by
        simp [callsOn, hcall, hstage]
      refine .used handle htouch hother SharedConnection.open' ?_ rfl
      rw [hping]
      rfl
    | false =>
      refine .used handle htouch hother (fun _ => false) ?_ rfl
      rw [hcalls handle (by rw [hstage]; nofun)]
      rfl
  | returned result =>
    rw [hstage] at hmove
    exact hmove nofun _ rfl rfl

/-- **Any datagram that is routed.** -/
theorem onDatagram_routed (ep : GtpEndpoint) (src : SocketAddr) {datagram : List UInt8}
    {cid : ConnectionId} (h : routeOf datagram = some cid) (now : MonotonicTime)
    (secret nonce : Bytes 32) :
    ep.onDatagram src datagram now secret nonce = (ep.onData cid src datagram now, []) := by
  unfold routeOf at h
  split at h
  · cases h
  · rename_i header headerLen hheader
    split at h
    · cases h
    · rename_i hplain
      obtain rfl := Option.some.inj h
      unfold onDatagram
      rw [hheader]
      dsimp only
      split
      · rename_i hcandidate
        rw [hcandidate, Bool.true_and] at hplain
        split
        · rename_i hhead _
          simp [hhead] at hplain
        · rename_i hhead _
          simp [hhead] at hplain
        · rename_i hhead _
          simp [hhead] at hplain
        · rename_i hhead _
          simp [hhead] at hplain
        · rename_i hhead _
          simp [hhead] at hplain
        · rename_i hhead _
          simp [hhead] at hplain
        · rename_i hhead _
          simp [hhead] at hplain
        · rename_i hhead _
          simp [hhead] at hplain
        · rfl
      · rfl

theorem onDatagram_data (ep : GtpEndpoint) (src : SocketAddr) {datagram : List UInt8}
    {cid : ConnectionId} (h : routeOf datagram = some cid) (now : MonotonicTime)
    (secret nonce : Bytes 32) :
    (ep.onDatagram src datagram now secret nonce).1 = ep.onData cid src datagram now :=
  congrArg Prod.fst (ep.onDatagram_routed src h now secret nonce)

/-- **A datagram of the handshake** touches no connection, but it may register one. -/
theorem onDatagram_rearranged (ep : GtpEndpoint) (src : SocketAddr) {datagram : List UInt8}
    (h : routeOf datagram = none) (now : MonotonicTime) (secret nonce : Bytes 32) :
    Rearranged ep (ep.claims (.receive src datagram now secret nonce))
      (ep.touches (.receive src datagram now secret nonce))
      (ep.callsOn (.receive src datagram now secret nonce))
      (ep.onDatagram src datagram now secret nonce).1 := by
  cases hdecode : PacketHeader.decode datagram with
  | error e =>
    unfold onDatagram
    rw [hdecode]
    exact .same (fun _ _ => rfl) rfl rfl
  | ok decoded =>
    obtain ⟨header, headerLen⟩ := decoded
    have hhandshake : IsHandshake datagram := by
      unfold routeOf at h
      rw [hdecode] at h
      dsimp only at h
      split at h
      · rename_i htype
        obtain ⟨hcandidate, htype⟩ := Bool.and_eq_true_iff.mp htype
        refine ⟨header, headerLen, hdecode, hcandidate, ?_⟩
        have hmem : (datagram.drop headerLen).head? ∈
            [(0x0B : UInt8), 0x0C, 0x0D, 0x0E].map some := List.contains_iff_mem.mp htype
        obtain ⟨b, hb, hhead⟩ := List.mem_map.mp hmem
        exact ⟨b, hb, hhead.symm⟩
      · cases h
    have hreceived := ep.onDatagram_received src datagram now secret nonce
    generalize ep.onDatagram src datagram now secret nonce = r at hreceived ⊢
    cases hreceived with
    | dropped => exact .same (fun _ _ => rfl) rfl rfl
    | @clientHello cid pk clientNonce version hcarries =>
      obtain ⟨limiter, pending, heq, -⟩ :=
        ep.onClientHello_spec cid src pk clientNonce version now secret nonce
      rw [heq]
      exact .same (fun _ _ => rfl) rfl rfl
    | serverHello hcarries =>
      unfold onServerHello
      split <;> exact .same (fun _ _ => rfl) rfl rfl
    | @handshakeFinish cid cookie proof hcarries =>
      rcases (ep.onHandshakeFinish_finished cid src cookie proof now).connections with
        ⟨hmap, harena⟩ | ⟨c, -, hcid, hmap, harena⟩
      · exact .same (fun _ _ => rfl) harena hmap
      · exact .registered ⟨cid, src, sessionKeys c, false, true, .default, .competitiveFps⟩ hcid
          (fun _ _ => rfl) harena hmap
    | serverFinish hcarries =>
      unfold onServerFinish
      split <;> exact .same (fun _ _ => rfl) rfl rfl
    | data hdata => exact absurd hhandshake hdata

/-! ## 3. Every event -/

/-- What the RX loop does with a connection that a datagram is routed to. -/
def feed (s : SharedConnection) (src : SocketAddr) (datagram : List UInt8) (now : MonotonicTime) :
    Bool × SharedConnection :=
  let (res, conn) := s.conn.handleIncomingDatagramWithEcn src datagram now 0
  let s := { s with conn }
  match res with
  | .ok msgs => deliver msgs s
  | .error _ => (false, s)

/-- What the engine of a connection returns on the datagram of an event. -/
def returnedTo (ep : GtpEndpoint) (k : Nat) : Event → List ReceivedMessage
  | .receive src datagram now _ _ =>
    match routeOf datagram, ep.arena[k]? with
    | some cid, some s =>
      if ep.connections[cid]? = some k then s.conn.messagesOf (.handleIncoming src datagram now 0)
      else []
    | _, _ => []
  | _ => []

/-- What the application takes from the channel of a connection. -/
def takenFrom (ep : GtpEndpoint) (k : Nat) : Event → List ReceivedMessage
  | .recv handle =>
    if handle = k then
      match ep.arena[k]? with
      | some s => s.queue.take 1
      | none => []
    else []
  | _ => []

/-- What the engine of a connection returns in a run. -/
def returned (ep : GtpEndpoint) (k : Nat) : List Event → List ReceivedMessage
  | [] => []
  | e :: events => ep.returnedTo k e ++ (ep.step e).returned k events

/-- What the application takes in a run. -/
def taken (ep : GtpEndpoint) (k : Nat) : List Event → List ReceivedMessage
  | [] => []
  | e :: events => ep.takenFrom k e ++ (ep.step e).taken k events

omit [KeyExchange] in
/-- **One datagram**, from the engine into the channel. -/
theorem feed_delivered {s : SharedConnection} (hlen : s.queue.length ≤ 1024)
    (hbegun : s.conn.Begun) (src : SocketAddr) (datagram : List UInt8) (now : MonotonicTime) :
    Delivered (s.conn.messagesOf (.handleIncoming src datagram now 0))
      { s with conn := s.conn.step (.handleIncoming src datagram now 0) }
      (feed s src datagram now).1 (feed s src datagram now).2 := by
  have hstep : (s.conn.step (.handleIncoming src datagram now 0)).Begun :=
    hbegun.run [.handleIncoming src datagram now 0]
  unfold feed GtpConnection.messagesOf
  dsimp only [GtpConnection.step] at hstep ⊢
  generalize s.conn.handleIncomingDatagramWithEcn src datagram now 0 = handled at hstep ⊢
  obtain ⟨res, conn⟩ := handled
  cases res with
  | ok msgs => exact deliver_delivered msgs hlen hstep
  | error e =>
    exact ⟨⟨[], (List.append_nil _).symm, List.Sublist.refl _, List.prefix_rfl, fun _ => rfl⟩, hlen,
      nofun, hstep⟩

omit [KeyExchange] in
/-- A datagram that is routed to the connection `k`. -/
theorem onData_eq {ep : GtpEndpoint} {cid : ConnectionId} {k : Nat} {s : SharedConnection}
    (hroute : ep.connections[cid]? = some k) (hs : ep.arena[k]? = some s) (src : SocketAddr)
    (datagram : List UInt8) (now : MonotonicTime) :
    (ep.onData cid src datagram now).arena = ep.arena.set k (feed s src datagram now).2 ∧
      (ep.onData cid src datagram now).connections =
        if (feed s src datagram now).1 ||
            decide ((feed s src datagram now).2.conn.hot.state = .closed) then
          ep.connections.erase cid
        else ep.connections := by
  unfold onData feed
  rw [hroute]
  dsimp only
  rw [hs]
  dsimp only
  generalize s.conn.handleIncomingDatagramWithEcn src datagram now 0 = handled
  obtain ⟨res, conn⟩ := handled
  cases res with
  | ok msgs =>
    dsimp only
    refine ⟨?_, apply_ite GtpEndpoint.connections _ _ _⟩
    split <;> rfl
  | error e =>
    dsimp only
    refine ⟨?_, apply_ite GtpEndpoint.connections _ _ _⟩
    split <;> rfl

/-! ## 4. The balance -/

/-- The connection `k` is `s`; its engine has returned `returned`, its application has taken
`taken`. -/
structure Balance (ep : GtpEndpoint) (k : Nat) (returned taken : List ReceivedMessage)
    (s : SharedConnection) : Prop where
  sublist : (taken ++ s.queue).Sublist returned
  length : s.queue.length ≤ 1024
  begun : s.conn.Begun
  front : reliable (taken ++ s.queue) <+: reliable returned
  whole : reliable (taken ++ s.queue) = reliable returned ∨ ep.Evicted k ∧ s.conn.Left

/-- A connection that does not exist yet has neither returned nor lost anything. -/
def Balanced (ep : GtpEndpoint) (k : Nat) (returned taken : List ReceivedMessage) : Prop :=
  match ep.arena[k]? with
  | some s => Balance ep k returned taken s
  | none => returned = [] ∧ taken = []

omit [KeyExchange] [CryptoSuite] in
/-- Erasing routes and adding routes to other connections bring none back. -/
theorem Evicted.mono {ep ep' : GtpEndpoint} {k : Nat} (h : ep.Evicted k)
    (hmap : ∀ cid : ConnectionId, ep'.connections[cid]? = some k → ep.connections[cid]? = some k) :
    ep'.Evicted k :=
  fun cid hcid => h cid (hmap cid hcid)

omit [KeyExchange] [CryptoSuite] in
theorem Balance.mono {ep ep' : GtpEndpoint} {k : Nat} {returned taken : List ReceivedMessage}
    {s s' : SharedConnection} (h : Balance ep k returned taken s) (hqueue : s'.queue = s.queue)
    (hbegun : s'.conn.Begun) (hleft : s.conn.Left → s'.conn.Left)
    (hmap : ∀ cid : ConnectionId, ep'.connections[cid]? = some k → ep.connections[cid]? = some k) :
    Balance ep' k returned taken s' := by
  refine ⟨?_, ?_, hbegun, ?_, ?_⟩
  · rw [hqueue]
    exact h.sublist
  · rw [hqueue]
    exact h.length
  · rw [hqueue]
    exact h.front
  · rw [hqueue]
    exact h.whole.imp_right fun ⟨hevicted, hs⟩ => ⟨hevicted.mono hmap, hleft hs⟩

omit [KeyExchange] in
theorem Rearranged.routed {ep ep' : GtpEndpoint} {claims : ConnectionId → Prop}
    {touches : Nat → Prop} {calls : Nat → List GtpConnection.Op}
    (h : Rearranged ep claims touches calls ep') (hrouted : Routed ep) :
    Routed ep' := by
  cases h with
  | same hcalls harena hmap =>
    refine ⟨fun cid k hk => ?_, fun cid cid' k hk hk' => ?_⟩
    · rw [harena]
      exact hrouted.lt cid k (by rw [← hmap]; exact hk)
    · rw [hmap] at hk hk'
      exact hrouted.unique cid cid' k hk hk'
  | registered setup hcid hcalls harena hmap =>
    refine ⟨fun c k hk => ?_, fun c c' k hk hk' => ?_⟩
    · rw [harena, List.length_append]
      rw [hmap, Maps.getElem?_insert] at hk
      split at hk
      · obtain rfl := Option.some.inj hk
        exact Nat.lt_succ_self _
      · exact Nat.lt_succ_of_lt (hrouted.lt c k hk)
    · rw [hmap, Maps.getElem?_insert] at hk hk'
      split at hk
      · rename_i hc
        obtain rfl := Option.some.inj hk
        split at hk'
        · rename_i hc'
          rw [← hc, ← hc']
        · exact absurd (hrouted.lt c' _ hk') (Nat.lt_irrefl _)
      · split at hk'
        · obtain rfl := Option.some.inj hk'
          exact absurd (hrouted.lt c _ hk) (Nat.lt_irrefl _)
        · exact hrouted.unique c c' k hk hk'
  | used j hj hcalls open' harena hmap =>
    refine ⟨fun cid k hk => ?_, fun cid cid' k hk hk' => ?_⟩
    · rw [harena, List.length_modify]
      exact hrouted.lt cid k (by rw [← hmap]; exact hk)
    · rw [hmap] at hk hk'
      exact hrouted.unique cid cid' k hk hk'

omit [KeyExchange] in
theorem Rearranged.balanced {ep ep' : GtpEndpoint} {claims : ConnectionId → Prop}
    {touches : Nat → Prop} {calls : Nat → List GtpConnection.Op}
    (h : Rearranged ep claims touches calls ep') {k : Nat}
    {returned taken : List ReceivedMessage} (hb : Balanced ep k returned taken) :
    Balanced ep' k returned taken := by
  unfold Balanced at hb ⊢
  cases h with
  | same hcalls harena hmap =>
    rw [harena]
    cases hs : ep.arena[k]? with
    | none =>
      rw [hs] at hb
      exact hb
    | some s =>
      rw [hs] at hb
      exact hb.mono rfl hb.begun id fun cid hcid => by rw [← hmap]; exact hcid
  | registered setup hcid hcalls harena hmap =>
    rw [harena]
    cases hs : ep.arena[k]? with
    | some s =>
      rw [hs] at hb
      have hlt : k < ep.arena.length := (List.getElem?_eq_some_iff.mp hs).1
      rw [List.getElem?_append_left hlt, hs]
      refine hb.mono rfl hb.begun id fun c hc => ?_
      rw [hmap, Maps.getElem?_insert] at hc
      split at hc
      · obtain rfl := Option.some.inj hc
        exact absurd hlt (Nat.lt_irrefl _)
      · exact hc
    | none =>
      rw [hs] at hb
      obtain ⟨rfl, rfl⟩ := hb
      by_cases hk : k = ep.arena.length
      · rw [hk, List.getElem?_concat_length]
        exact ⟨List.Sublist.refl _, Nat.zero_le _, Or.inl rfl, List.prefix_rfl, Or.inl rfl⟩
      · have hle : ep.arena.length ≤ k := List.getElem?_eq_none_iff.mp hs
        rw [List.getElem?_eq_none (by rw [List.length_append, List.length_singleton]; omega)]
        exact ⟨rfl, rfl⟩
  | used j hj hcalls open' harena hmap =>
    rw [harena]
    have hsame : ∀ cid : ConnectionId, ep'.connections[cid]? = some k →
        ep.connections[cid]? = some k := fun cid hcid => by rw [← hmap]; exact hcid
    cases hs : ep.arena[k]? with
    | none =>
      rw [hs] at hb
      rw [List.getElem?_modify, hs]
      exact hb
    | some s =>
      rw [hs] at hb
      by_cases hj : j = k
      · rw [hj, List.getElem?_modify_eq, hs]
        exact hb.mono rfl (hb.begun.run _) (fun hleft => hleft.run _) hsame
      · rw [List.getElem?_modify_ne _ _ hj, hs]
        exact hb.mono rfl hb.begun id hsame

/-! ## 5. Steps and runs -/

omit [KeyExchange] in
/-- A datagram that is routed to the connection itself. -/
theorem Balance.feed {ep ep' : GtpEndpoint} {k : Nat} {returned taken : List ReceivedMessage}
    {s : SharedConnection} (hb : Balance ep k returned taken s) {cid : ConnectionId}
    (hroute : ep.connections[cid]? = some k) (src : SocketAddr) (datagram : List UInt8)
    (now : MonotonicTime)
    (hevicted : (GtpEndpoint.feed s src datagram now).1 = true → ep'.Evicted k) :
    Balance ep' k (returned ++ s.conn.messagesOf (.handleIncoming src datagram now 0)) taken
      (GtpEndpoint.feed s src datagram now).2 := by
  have hwhole : reliable (taken ++ s.queue) = reliable returned :=
    hb.whole.resolve_right fun h => h.1 cid hroute
  have hfed := feed_delivered hb.length hb.begun src datagram now
  obtain ⟨given, hqueue, hsub, hpre, heq⟩ := hfed.queue
  have hsplit : taken ++ (GtpEndpoint.feed s src datagram now).2.queue =
      (taken ++ s.queue) ++ given := by
    rw [hqueue, List.append_assoc]
  refine ⟨?_, hfed.length, hfed.begun, ?_, ?_⟩
  · rw [hsplit]
    exact hb.sublist.append hsub
  · rw [hsplit, reliable_append (taken ++ s.queue), reliable_append returned, hwhole]
    exact (List.prefix_append_right_inj _).mpr hpre
  · cases hevict : (GtpEndpoint.feed s src datagram now).1 with
    | false =>
      left
      rw [hsplit, reliable_append (taken ++ s.queue), reliable_append returned, hwhole]
      exact congrArg _ (heq hevict)
    | true => exact Or.inr ⟨hevicted hevict, hfed.evicted hevict⟩

omit [KeyExchange] in
/-- A connection that the datagram is not routed to returns nothing on it. -/
theorem returnedTo_elsewhere {ep : GtpEndpoint} {k : Nat} {datagram : List UInt8}
    {cid : ConnectionId} (hroute : routeOf datagram = some cid)
    (h : ep.connections[cid]? ≠ some k) (src : SocketAddr) (now : MonotonicTime)
    (secret nonce : Bytes 32) :
    ep.returnedTo k (.receive src datagram now secret nonce) = [] := by
  unfold returnedTo
  dsimp only
  rw [hroute]
  split
  · rename_i hcid _
    obtain rfl := Option.some.inj hcid
    exact if_neg h
  · rfl

omit [KeyExchange] in
theorem returnedTo_routed {ep : GtpEndpoint} {k : Nat} {s : SharedConnection}
    {datagram : List UInt8} {cid : ConnectionId} (hroute : routeOf datagram = some cid)
    (h : ep.connections[cid]? = some k) (hs : ep.arena[k]? = some s) (src : SocketAddr)
    (now : MonotonicTime) (secret nonce : Bytes 32) :
    ep.returnedTo k (.receive src datagram now secret nonce) =
      s.conn.messagesOf (.handleIncoming src datagram now 0) := by
  unfold returnedTo
  dsimp only
  rw [hroute, hs]
  exact if_pos h

omit [KeyExchange] in
/-- A datagram of the handshake is returned to nobody. -/
theorem returnedTo_handshake (ep : GtpEndpoint) (k : Nat) {datagram : List UInt8}
    (hroute : routeOf datagram = none) (src : SocketAddr) (now : MonotonicTime)
    (secret nonce : Bytes 32) : ep.returnedTo k (.receive src datagram now secret nonce) = [] := by
  unfold returnedTo
  dsimp only
  rw [hroute]

omit [KeyExchange] in
/-- **A routed datagram.** -/
theorem onData_balanced {ep : GtpEndpoint} (hrouted : Routed ep) {k : Nat}
    {returned taken : List ReceivedMessage} (hb : Balanced ep k returned taken)
    (src : SocketAddr) {datagram : List UInt8} {cid : ConnectionId}
    (hroute : routeOf datagram = some cid) (now : MonotonicTime) (secret nonce : Bytes 32) :
    Routed (ep.onData cid src datagram now) ∧ Balanced (ep.onData cid src datagram now) k
      (returned ++ ep.returnedTo k (.receive src datagram now secret nonce)) taken := by
  cases hj : ep.connections[cid]? with
  | none =>
    have hsame : ep.onData cid src datagram now = ep := by
      unfold onData
      rw [hj]
    have hnil := returnedTo_elsewhere (k := k) hroute (by rw [hj]; nofun) src now secret nonce
    rw [hsame, hnil, List.append_nil]
    exact ⟨hrouted, hb⟩
  | some j =>
    have hlt := hrouted.lt cid j hj
    obtain ⟨s, hs⟩ : ∃ s, ep.arena[j]? = some s := ⟨_, List.getElem?_eq_getElem hlt⟩
    obtain ⟨harena, hmap⟩ := onData_eq hj hs src datagram now
    have hback : ∀ {c : ConnectionId} {i : Nat},
        (ep.onData cid src datagram now).connections[c]? = some i →
        ep.connections[c]? = some i := by
      intro c i hi
      rw [hmap] at hi
      split at hi
      · rw [Maps.getElem?_erase] at hi
        split at hi
        · cases hi
        · exact hi
      · exact hi
    refine ⟨⟨fun c i hi => ?_, fun c c' i hi hi' => hrouted.unique c c' i (hback hi) (hback hi')⟩,
      ?_⟩
    · rw [harena, List.length_set]
      exact hrouted.lt c i (hback hi)
    unfold Balanced at hb ⊢
    rw [harena]
    by_cases hjk : j = k
    · subst hjk
      rw [hs] at hb
      rw [List.getElem?_set_self hlt]
      rw [returnedTo_routed hroute hj hs src now secret nonce]
      refine hb.feed hj src datagram now fun hevict c hc => ?_
      rw [hmap, hevict, Bool.true_or, if_pos rfl, Maps.getElem?_erase] at hc
      split at hc
      · cases hc
      · rename_i hne
        exact hne (hrouted.unique cid c j hj hc)
    · have hother : ep.connections[cid]? ≠ some k := fun h => hjk (Option.some.inj (hj ▸ h))
      rw [returnedTo_elsewhere hroute hother src now secret nonce, List.append_nil, List.getElem?_set_ne hjk]
      cases hk : ep.arena[k]? with
      | none =>
        rw [hk] at hb
        exact hb
      | some s' =>
        rw [hk] at hb
        exact hb.mono rfl hb.begun id fun c hc => hback hc

/-- **Every event** that is neither a routed datagram nor takes a message. -/
theorem step_rearranged (ep : GtpEndpoint) {e : Event}
    (hreceive : ∀ src datagram now secret nonce, e = .receive src datagram now secret nonce →
      routeOf datagram = none) (hrecv : ∀ handle, e ≠ .recv handle) :
    Rearranged ep (ep.claims e) (ep.touches e) (ep.callsOn e) (ep.step e) := by
  cases e with
  | receive src datagram now secret nonce =>
    exact ep.onDatagram_rearranged src (hreceive _ _ _ _ _ rfl) now secret nonce
  | connect cid peerAddr secret nonce => exact .same (fun _ _ => rfl) rfl rfl
  | poll id failure =>
    unfold step handle
    dsimp only
    split
    · rename_i call hcall
      exact ep.advance_rearranged id hcall failure
    · rename_i hcall
      refine .same (fun k _ => ?_) rfl rfl
      rw [callsOn, hcall]
  | adopt cid peerAddr keys asClient preValidated =>
    exact .registered ⟨cid, peerAddr, keys, asClient, preValidated, .default, .competitiveFps⟩ rfl
      (fun _ _ => rfl) rfl rfl
  | engine handle op =>
    unfold step GtpEndpoint.handle
    dsimp only
    split
    · rename_i s hs
      refine .used handle rfl (fun k hne => if_neg hne.symm) SharedConnection.open' ?_ rfl
      rw [callsOn, if_pos rfl, List.modify_eq_set_getElem?, hs]
      rfl
    · rename_i hnone
      refine .same (fun k hk => if_neg ?_) rfl rfl
      rintro rfl
      exact absurd hk (Nat.not_lt.mpr (List.getElem?_eq_none_iff.mp hnone))
  | recv handle => exact absurd rfl (hrecv handle)
  | drop handle => exact .used handle rfl (fun _ _ => rfl) (fun _ => false) rfl rfl

/-- **Every event.** -/
theorem step_balanced {ep : GtpEndpoint} (hrouted : Routed ep) {k : Nat}
    {returned taken : List ReceivedMessage} (hb : Balanced ep k returned taken) (e : Event) :
    Routed (ep.step e) ∧
      Balanced (ep.step e) k (returned ++ ep.returnedTo k e) (taken ++ ep.takenFrom k e) := by
  -- an event that feeds no connection and takes from none
  have hplain : Rearranged ep (ep.claims e) (ep.touches e) (ep.callsOn e) (ep.step e) →
      Routed (ep.step e) ∧ Balanced (ep.step e) k (returned ++ []) (taken ++ []) := by
    intro h
    rw [List.append_nil, List.append_nil]
    exact ⟨h.routed hrouted, h.balanced hb⟩
  cases e with
  | receive src datagram now secret nonce =>
    cases hroute : routeOf datagram with
    | none =>
      rw [ep.returnedTo_handshake k hroute src now secret nonce]
      exact hplain (ep.onDatagram_rearranged src hroute now secret nonce)
    | some cid =>
      change Routed (ep.onDatagram src datagram now secret nonce).1 ∧
        Balanced (ep.onDatagram src datagram now secret nonce).1 k _ (taken ++ [])
      rw [ep.onDatagram_data src hroute, List.append_nil]
      exact onData_balanced hrouted hb src hroute now secret nonce
  | recv handle =>
    -- what is taken moves from the channel to the application
    rw [show ep.returnedTo k (.recv handle) = [] from rfl, List.append_nil]
    have harena : (ep.step (.recv handle)).arena = ep.arena.modify handle fun s =>
        { s with queue := s.queue.drop 1 } := rfl
    refine ⟨⟨fun cid j hj => ?_, hrouted.unique⟩, ?_⟩
    · rw [harena, List.length_modify]
      exact hrouted.lt cid j hj
    unfold Balanced takenFrom at *
    rw [harena]
    by_cases hk : handle = k
    · subst hk
      rw [List.getElem?_modify_eq]
      dsimp only
      rw [if_pos rfl]
      cases hs : ep.arena[handle]? with
      | none =>
        rw [hs] at hb
        obtain ⟨rfl, rfl⟩ := hb
        exact ⟨rfl, rfl⟩
      | some s =>
        rw [hs] at hb
        have hsame : taken ++ s.queue.take 1 ++ s.queue.drop 1 = taken ++ s.queue := by
          rw [List.append_assoc, List.take_append_drop]
        refine ⟨?_, ?_, hb.begun, ?_, ?_⟩
        · rw [hsame]
          exact hb.sublist
        · exact (List.drop_sublist 1 s.queue).length_le.trans hb.length
        · rw [hsame]
          exact hb.front
        · rw [hsame]
          exact hb.whole
    · rw [List.getElem?_modify_ne _ _ hk]
      dsimp only
      rw [if_neg hk, List.append_nil]
      cases hs : ep.arena[k]? with
      | none =>
        rw [hs] at hb
        exact hb
      | some s =>
        rw [hs] at hb
        exact hb.mono rfl hb.begun id fun c hc => hc
  | _ => exact hplain (ep.step_rearranged nofun nofun)

theorem run_balanced {ep : GtpEndpoint} (hrouted : Routed ep) {k : Nat}
    {returned taken : List ReceivedMessage} (hb : Balanced ep k returned taken)
    (events : List Event) :
    Balanced (ep.run events) k (returned ++ ep.returned k events) (taken ++ ep.taken k events) := by
  induction events generalizing ep returned taken with
  | nil =>
    rw [GtpEndpoint.returned, GtpEndpoint.taken, List.append_nil, List.append_nil]
    exact hb
  | cons e events ih =>
    obtain ⟨hrouted', hb'⟩ := step_balanced hrouted hb e
    rw [GtpEndpoint.returned, GtpEndpoint.taken, ← List.append_assoc, ← List.append_assoc]
    exact ih hrouted' hb'

/-- **A slow consumer.**  Take any run of an endpoint, and any of its connections.  What its
application took, followed by what is still in the channel, is what the engine returned, in that
order, with gaps where the channel was full; and the channel holds at most 1024 messages.  The gaps
are unreliable messages, unless the connection was evicted: then no datagram reaches it and it is
closed or closing, and what its application gets of the reliable messages ends where the first one
was lost. -/
theorem slow_consumer (tokenSecret : Bytes 32) (identity : Option StaticIdentity)
    (pinned : Option (Bytes 32)) (events : List Event) (k : Nat) (s : SharedConnection)
    (hs : ((bind tokenSecret identity pinned).run events).arena[k]? = some s) :
    ((bind tokenSecret identity pinned).taken k events ++ s.queue).Sublist
        ((bind tokenSecret identity pinned).returned k events) ∧
      s.queue.length ≤ 1024 ∧
      reliable ((bind tokenSecret identity pinned).taken k events ++ s.queue) <+:
        reliable ((bind tokenSecret identity pinned).returned k events) ∧
      (reliable ((bind tokenSecret identity pinned).taken k events ++ s.queue) =
          reliable ((bind tokenSecret identity pinned).returned k events) ∨
        ((bind tokenSecret identity pinned).run events).Evicted k ∧ s.conn.Left) := by
  have hrouted : Routed (bind tokenSecret identity pinned) := by
    refine ⟨fun cid j hj => ?_, fun cid cid' j hj => ?_⟩
    all_goals
      change (∅ : Std.ExtTreeMap ConnectionId Nat compare)[cid]? = some j at hj
      rw [Std.ExtTreeMap.getElem?_empty] at hj
      cases hj
  have hstart : Balanced (bind tokenSecret identity pinned) k [] [] := ⟨rfl, rfl⟩
  have hb := run_balanced hrouted hstart events
  unfold Balanced at hb
  rw [hs, List.nil_append, List.nil_append] at hb
  exact ⟨hb.sublist, hb.length, hb.front, hb.whole⟩

end GtpEndpoint

/-! ## 6. An application that goes away -/

namespace GtpEndpoint

attribute [local instance] keyTagSuite additiveExchange

/-- Three messages of a group, each in a datagram of its own. -/
def threeDatagrams : List (List UInt8) :=
  (GtpConnection.newWithDirectionalKeys 7 ⟨1, 4433⟩ Net.sampleSession.keys true true
    .competitiveFps).handedOut
    [.sendReliableOrdered 1 [1] .p1Input none 10, .produce 10 (List.replicate 200 0),
      .sendReliableOrdered 1 [2] .p1Input none 10, .produce 10 (List.replicate 200 0),
      .sendReliableOrdered 1 [3] .p1Input none 10, .produce 10 (List.replicate 200 0)]

/-- The server's application takes the first message and is gone before the third arrives. -/
def goneAfterTwo : List Event :=
  .adopt 7 ⟨2, 5000⟩ Net.sampleSession.keys false true ::
    (threeDatagrams.take 2).map
      (.receive ⟨2, 5000⟩ · 40 (List.Vector.replicate 32 0) (List.Vector.replicate 32 0)) ++
    [.recv 0, .drop 0] ++
    (threeDatagrams.drop 2).map
      (.receive ⟨2, 5000⟩ · 50 (List.Vector.replicate 32 0) (List.Vector.replicate 32 0))

/-- The endpoint that it runs on. -/
def quietServer : GtpEndpoint := bind (List.Vector.replicate 32 9) none none

/-- The theorem at this run. -/
theorem slow_consumer_gone : ∃ s, (quietServer.run goneAfterTwo).arena[0]? = some s ∧
    (quietServer.taken 0 goneAfterTwo ++ s.queue).map ReceivedMessage.payload = [[1], [2]] ∧
    (quietServer.returned 0 goneAfterTwo).map ReceivedMessage.payload = [[1], [2], [3]] ∧
    (quietServer.run goneAfterTwo).Evicted 0 ∧ s.conn.Left := by
  obtain ⟨hsome, hreturned⟩ : ((quietServer.run goneAfterTwo).arena[0]?.map fun s =>
        (quietServer.taken 0 goneAfterTwo ++ s.queue).map ReceivedMessage.payload) =
          some [[1], [2]] ∧
      (reliable (quietServer.returned 0 goneAfterTwo)).map ReceivedMessage.payload =
        [[1], [2], [3]] := by
    decide +kernel
  obtain ⟨s, hs, htaken⟩ := Option.map_eq_some_iff.mp hsome
  obtain ⟨-, -, -, hwhole⟩ := slow_consumer _ _ _ goneAfterTwo 0 s hs
  refine ⟨s, hs, htaken, by decide +kernel, hwhole.resolve_left fun heq => ?_⟩
  have hsub : ((reliable (quietServer.taken 0 goneAfterTwo ++ s.queue)).map
      ReceivedMessage.payload).Sublist [[1], [2]] := by
    rw [← htaken]
    exact List.filter_sublist.map _
  have hthree : (reliable (quietServer.taken 0 goneAfterTwo ++ s.queue)).map
      ReceivedMessage.payload = [[1], [2], [3]] := (congrArg _ heq).trans hreturned
  rw [hthree] at hsub
  exact absurd hsub.length_le (by decide)

end GtpEndpoint

end Gtp
