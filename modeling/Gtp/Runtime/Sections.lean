/-
# The critical sections of a datagram

In `Gtp.Runtime.Endpoint` a datagram is one step of the RX task.  The task itself goes through
several critical sections for it, and between two of them the other tasks run:

* a datagram of a connection is read under the read lock of the map and the lock of the connection.
  In that scope its messages are handed to the application one `try_send` after the other, and the
  application may take from the channel in between.  Both locks are released before the map entry of
  an evicted connection is removed under the write lock;
* a `HandshakeFinish` that confirms a handshake looks whether the id is free under the read lock,
  and inserts the connection under the write lock.

`Tasks` is an endpoint together with the `Remainder` of the datagram that the RX task has in its
hands, and a `Turn` is one section: of the RX task, or of any other task.  `run_atomic` compares the
two models.  The remainder of a datagram can be brought forward over every turn of another task that
does not get in its way (`InTheWay`), so a run of sections without such a turn comes to what the run
of whole steps comes to, and sends the same datagrams.  What is in the way is said exactly: for an
eviction, a registration of the same id; for the messages, a use of the same connection; for a
registration, any other registration, since the two draw their handles from one arena.

The locks themselves are not modelled: they forbid some of the turns that are allowed here, and what
holds of all these runs holds of those that the locks leave.
-/
import Gtp.Runtime.Delivery

namespace Gtp

namespace GtpEndpoint

/-! ## 1. Sections -/

/-- What the RX task has yet to do with the datagram in its hands. -/
inductive Remainder where
  /-- It has none, and waits for the next one. -/
  | idle
  /-- It holds the connection `handle`, and these messages are to be handed to the application. -/
  | offer (cid : ConnectionId) (handle : Nat) (msgs : List ReceivedMessage)
  /-- It has released the locks, and the map entry of the id is to be removed. -/
  | remove (cid : ConnectionId)
  /-- The id was free, and the connection is to be inserted. -/
  | insert (cid : ConnectionId) (conn : GtpConnection)

/-- The connection in hand. -/
def Remainder.held : Remainder → Option (ConnectionId × Nat)
  | .offer cid handle _ => some (cid, handle)
  | _ => none

/-- An endpoint between two critical sections. -/
structure Tasks where
  ep : GtpEndpoint
  rx : Remainder

/-- The event is a datagram for the RX task. -/
def Event.isReceive : Event → Bool
  | .receive .. => true
  | _ => false

/-- Whose turn it is. -/
inductive Turn where
  /-- The RX task takes a datagram from the socket. -/
  | receive (src : SocketAddr) (datagram : List UInt8) (now : MonotonicTime)
      (secret nonce : Bytes 32)
  /-- The RX task goes on with its datagram. -/
  | proceed
  /-- Another task runs. -/
  | other (e : Event) (he : e.isReceive = false)

/-- The map entry of an id is removed. -/
def forget (ep : GtpEndpoint) (cid : ConnectionId) : GtpEndpoint :=
  { ep with connections := ep.connections.erase cid }

/-- The state of a connection is written back. -/
def put (ep : GtpEndpoint) (handle : Nat) (s : SharedConnection) : GtpEndpoint :=
  { ep with arena := ep.arena.set handle s }

section

variable [CryptoSuite]

/-- A datagram of a connection, up to the first `try_send`. -/
def takeIn (ep : GtpEndpoint) (cid : ConnectionId) (src : SocketAddr) (datagram : List UInt8)
    (now : MonotonicTime) : Tasks :=
  match ep.connections[cid]? with
  | none => ⟨ep, .idle⟩
  | some handle =>
    match ep.arena[handle]? with
    | none => ⟨ep, .idle⟩
    | some s =>
      let (res, conn) := s.conn.handleIncomingDatagramWithEcn src datagram now 0
      let msgs := match res with
        | .ok msgs => msgs
        | .error _ => []
      ⟨ep.put handle { s with conn }, .offer cid handle msgs⟩

/-- The `HandshakeFinish` in a datagram. -/
def finishOf (datagram : List UInt8) : Option (ConnectionId × Bytes 32 × Bytes 32) :=
  match PacketHeader.decode datagram with
  | .error _ => none
  | .ok (header, headerLen) =>
    if isHandshakeCandidate header headerLen datagram.length then
      match (datagram.drop headerLen).head?, Frame.decode (datagram.drop headerLen) with
      | some 0x0D, .ok (.handshakeFinish cookieEcho clientProof, _) =>
        some (header.connectionId, cookieEcho, clientProof)
      | _, _ => none
    else none

variable [KeyExchange]

/-- A `HandshakeFinish`, up to the look at the map of connections. -/
def takeFinish (ep : GtpEndpoint) (cid : ConnectionId) (src : SocketAddr)
    (cookieEcho clientProof : Bytes 32) (now : MonotonicTime) : Tasks × List Outgoing :=
  let (conn, ep, sent) := ep.confirmFinish cid src cookieEcho clientProof now
  match conn with
  | none => (⟨ep, .idle⟩, sent)
  | some conn => (⟨ep, if cid ∈ ep.connections then .idle else .insert cid conn⟩, sent)

/-- The first section of a datagram; the other frames of the handshake need no second one. -/
def arrive (ep : GtpEndpoint) (src : SocketAddr) (datagram : List UInt8) (now : MonotonicTime)
    (secret nonce : Bytes 32) : Tasks × List Outgoing :=
  match routeOf datagram, finishOf datagram with
  | some cid, _ => (ep.takeIn cid src datagram now, [])
  | none, some (cid, cookieEcho, clientProof) => ep.takeFinish cid src cookieEcho clientProof now
  | none, none =>
    let (ep, sent) := ep.onDatagram src datagram now secret nonce
    (⟨ep, .idle⟩, sent)

end

namespace Tasks

/-- The next section of the RX task.  A round of the `try_send` loop is one, and the look at the
state of the connection after the last round. -/
def proceed (t : Tasks) : Tasks :=
  match t.rx with
  | .idle => t
  | .offer cid handle msgs =>
    match t.ep.arena[handle]? with
    | none => ⟨t.ep, .idle⟩
    | some s =>
      match msgs with
      | [] => ⟨t.ep, if s.conn.hot.state = .closed then .remove cid else .idle⟩
      | msg :: rest =>
        let (evict, s) := trySend msg rest.length s
        ⟨t.ep.put handle s, if evict then .remove cid else .offer cid handle rest⟩
  | .remove cid => ⟨t.ep.forget cid, .idle⟩
  | .insert cid conn => ⟨(t.ep.registerConnection cid conn).2, .idle⟩

variable [CryptoSuite] [KeyExchange]

/-- One turn: the state afterwards, and the datagrams it sent.  A datagram waits in the socket while
the RX task is busy. -/
def handle (t : Tasks) : Turn → Tasks × List Outgoing
  | .receive src datagram now secret nonce =>
    match t.rx with
    | .idle => t.ep.arrive src datagram now secret nonce
    | _ => (t, [])
  | .proceed => (t.proceed, [])
  | .other e _ => (⟨(t.ep.handle e).1, t.rx⟩, (t.ep.handle e).2)

/-- The state after one turn. -/
def step (t : Tasks) (turn : Turn) : Tasks := (t.handle turn).1

/-- The state after a sequence of turns. -/
def run (t : Tasks) (turns : List Turn) : Tasks := turns.foldl step t

end Tasks

/-! ## 2. The remainder -/

/-- The end of the `try_send` loop, and what follows. -/
def writeBack (ep : GtpEndpoint) (cid : ConnectionId) (handle : Nat)
    (delivered : Bool × SharedConnection) : GtpEndpoint :=
  if delivered.1 || decide (delivered.2.conn.hot.state = .closed) then
    (ep.put handle delivered.2).forget cid
  else ep.put handle delivered.2

/-- The remaining sections, with nothing of another task in between. -/
def Remainder.finish : Remainder → GtpEndpoint → GtpEndpoint
  | .idle, ep => ep
  | .offer cid handle msgs, ep =>
    match ep.arena[handle]? with
    | none => ep
    | some s => ep.writeBack cid handle (deliver msgs s)
  | .remove cid, ep => ep.forget cid
  | .insert cid conn, ep => (ep.registerConnection cid conn).2

/-- How many sections are left at most. -/
def Remainder.length : Remainder → Nat
  | .idle => 0
  | .offer _ _ msgs => msgs.length + 2
  | .remove _ => 1
  | .insert .. => 1

section

variable [CryptoSuite]

variable [KeyExchange]

/-- Up to its look at the map, a `HandshakeFinish` changes nothing that other tasks work with. -/
theorem confirmFinish_shared (ep : GtpEndpoint) (cid : ConnectionId) (src : SocketAddr)
    (cookieEcho clientProof : Bytes 32) (now : MonotonicTime) :
    (ep.confirmFinish cid src cookieEcho clientProof now).2.1.arena = ep.arena ∧
      (ep.confirmFinish cid src cookieEcho clientProof now).2.1.connections = ep.connections := by
  unfold confirmFinish
  split
  · exact ⟨rfl, rfl⟩
  · dsimp only
    split
    · exact ⟨rfl, rfl⟩
    · split
      · exact ⟨rfl, rfl⟩
      · split
        · exact ⟨rfl, rfl⟩
        · split <;> exact ⟨rfl, rfl⟩

end

/-! ## 4. What is in the way -/

section

/-- What the remainder does to the arena and to the map of connections can as well be done before
the event. -/
structure Ignores (ep : GtpEndpoint) (e : Event) (f : List SharedConnection → List SharedConnection)
    (g : Std.ExtTreeMap ConnectionId Nat compare → Std.ExtTreeMap ConnectionId Nat compare) :
    Prop where
  /-- A connection that the event uses is the same afterwards. -/
  used : ∀ k, ep.touches e k → (f ep.arena)[k]? = ep.arena[k]? ∧
    ∀ h : SharedConnection → SharedConnection, (f ep.arena).modify k h = f (ep.arena.modify k h)
  /-- A connection that the event registers gets the same handle. -/
  registered : ∀ cid, ep.claims e cid → (f ep.arena).length = ep.arena.length ∧
    (∀ s, f ep.arena ++ [s] = f (ep.arena ++ [s])) ∧
    ∀ k, (g ep.connections).insert cid k = g (ep.connections.insert cid k)

/-- The endpoint with another arena and another map of connections. -/
def reshaped (ep : GtpEndpoint) (f : List SharedConnection → List SharedConnection)
    (g : Std.ExtTreeMap ConnectionId Nat compare → Std.ExtTreeMap ConnectionId Nat compare) :
    GtpEndpoint :=
  { ep with arena := f ep.arena, connections := g ep.connections }

variable [CryptoSuite] [KeyExchange]

theorem Ignores.advance {ep : GtpEndpoint} {id : Nat} {failure : Option String}
    {f : List SharedConnection → List SharedConnection}
    {g : Std.ExtTreeMap ConnectionId Nat compare → Std.ExtTreeMap ConnectionId Nat compare}
    (h : Ignores ep (.poll id failure) f g) {call : ConnectCall}
    (hcall : ep.calls[id]? = some call) :
    (ep.reshaped f g).advance id call failure =
      ((ep.advance id call failure).1.reshaped f g, (ep.advance id call failure).2) := by
  unfold GtpEndpoint.advance
  dsimp only
  cases hstage : call.stage with
  | sendHello hello =>
    cases failure with
    | some e => rfl
    | none => rfl
  | awaitHello hello attempts =>
    dsimp only
    cases call.hello with
    | some info => rfl
    | none =>
      have hpending : (ep.reshaped f g).pendingClientHandshakes = ep.pendingClientHandshakes := rfl
      dsimp only
      rw [hpending]
      by_cases hdropped : ep.pendingClientHandshakes[call.cid]? ≠ some id
      · rw [if_pos hdropped, if_pos hdropped]
        rfl
      rw [if_neg hdropped, if_neg hdropped]
      cases failure with
      | none => rfl
      | some e =>
        by_cases hlast : 8 ≤ attempts + 1
        · rw [if_pos hlast, if_pos hlast]
          rfl
        · rw [if_neg hlast, if_neg hlast]
          rfl
  | abandon e => rfl
  | greeted info =>
    have hsame : (ep.reshaped f g).clientSession call info = ep.clientSession call info := rfl
    dsimp only
    rw [hsame]
    cases ep.clientSession call info with
    | error e => rfl
    | ok session => rfl
  | sendFinish session => rfl
  | register session =>
    obtain ⟨hlength, happend, hinsert⟩ := h.registered call.cid ⟨call, session, hcall, hstage, rfl⟩
    dsimp only [registerConnection, reshaped, notify]
    rw [hlength, happend, hinsert]
  | awaitFinish session handle rounds =>
    dsimp only
    cases call.proof with
    | some proof =>
      dsimp only
      cases verifyServerProof session.shared session.transcript proof with
      | true => rfl
      | false => rfl
    | none =>
      have hpending : (ep.reshaped f g).pendingServerFinishes = ep.pendingServerFinishes := rfl
      dsimp only
      rw [hpending]
      by_cases hdropped : ep.pendingServerFinishes[call.cid]? ≠ some id
      · rw [if_pos hdropped, if_pos hdropped]
        rfl
      rw [if_neg hdropped, if_neg hdropped]
      cases failure with
      | none => rfl
      | some e => rfl
  | retract handle e =>
    obtain ⟨-, hmodify⟩ := h.used handle ⟨call, hcall, Or.inl ⟨e, hstage⟩⟩
    dsimp only [dropHandle, reshaped, setStage, notify]
    rw [hmodify]
  | conclude handle confirmed =>
    obtain ⟨-, hmodify⟩ := h.used handle ⟨call, hcall, Or.inr ⟨confirmed, hstage⟩⟩
    dsimp only [dropHandle, reshaped, setStage, notify]
    cases confirmed with
    | true =>
      rw [if_pos rfl, if_pos rfl, hmodify]
    | false =>
      rw [if_neg Bool.false_ne_true, if_neg Bool.false_ne_true, hmodify]
  | returned result => rfl

/-- **An event of another task.** -/
theorem Ignores.handle {ep : GtpEndpoint} {e : Event} (he : e.isReceive = false)
    {f : List SharedConnection → List SharedConnection}
    {g : Std.ExtTreeMap ConnectionId Nat compare → Std.ExtTreeMap ConnectionId Nat compare}
    (h : Ignores ep e f g) :
    (ep.reshaped f g).handle e = ((ep.handle e).1.reshaped f g, (ep.handle e).2) := by
  cases e with
  | receive src datagram now secret nonce => cases he
  | connect cid peerAddr secret nonce => rfl
  | poll id failure =>
    unfold GtpEndpoint.handle
    have hcalls : (ep.reshaped f g).calls = ep.calls := rfl
    dsimp only
    rw [hcalls]
    cases hcall : ep.calls[id]? with
    | none => rfl
    | some call => exact h.advance hcall
  | adopt cid peerAddr keys asClient preValidated =>
    obtain ⟨hlength, happend, hinsert⟩ := h.registered cid rfl
    dsimp only [GtpEndpoint.handle, registerConnection, reshaped]
    rw [hlength, happend, hinsert]
  | engine k op =>
    obtain ⟨hget, hmodify⟩ := h.used k rfl
    dsimp only [GtpEndpoint.handle, reshaped]
    rw [hget]
    cases hs : ep.arena[k]? with
    | none => rfl
    | some s =>
      dsimp only
      rw [List.set_eq_modify, List.set_eq_modify, hmodify]
  | recv k =>
    obtain ⟨-, hmodify⟩ := h.used k rfl
    dsimp only [GtpEndpoint.handle, reshaped]
    rw [hmodify]
  | drop k =>
    obtain ⟨-, hmodify⟩ := h.used k rfl
    dsimp only [GtpEndpoint.handle, reshaped, dropHandle]
    rw [hmodify]

omit [KeyExchange] in
/-- What a registration and a use leave of the arena. -/
theorem Rearranged.arena {ep ep' : GtpEndpoint} {claims : ConnectionId → Prop}
    {touches : Nat → Prop} {calls : Nat → List GtpConnection.Op}
    (h : Rearranged ep claims touches calls ep') :
    (∀ k < ep.arena.length, ¬ touches k → ep'.arena[k]? = ep.arena[k]?) ∧
      ep.arena.length ≤ ep'.arena.length ∧
      ((∀ cid, ¬ claims cid) → ep'.arena.length = ep.arena.length) := by
  cases h with
  | same hcalls harena hmap =>
    exact ⟨fun k _ _ => by rw [harena], by rw [harena], fun _ => by rw [harena]⟩
  | registered setup hcid hcalls harena hmap =>
    refine ⟨fun k hk _ => ?_, ?_, fun hnone => absurd hcid (hnone _)⟩
    · rw [harena, List.getElem?_append_left hk]
    · rw [harena, List.length_append]
      exact Nat.le_add_right _ _
  | used j hj hcalls open' harena hmap =>
    refine ⟨fun k _ hk => ?_, ?_, fun _ => by rw [harena, List.length_modify]⟩
    · rw [harena, List.getElem?_modify_ne _ _ fun heq : j = k => hk (heq ▸ hj)]
    · rw [harena, List.length_modify]

theorem step_arena (ep : GtpEndpoint) {e : Event} (he : e.isReceive = false) :
    (∀ k < ep.arena.length, ¬ ep.touches e k → (ep.step e).arena[k]? = ep.arena[k]?) ∧
      ep.arena.length ≤ (ep.step e).arena.length ∧
      ((∀ cid, ¬ ep.claims e cid) → (ep.step e).arena.length = ep.arena.length) := by
  cases e with
  | receive src datagram now secret nonce => cases he
  | recv handle =>
    have harena : (ep.step (.recv handle)).arena = ep.arena.modify handle fun s =>
        { s with queue := s.queue.drop 1 } := rfl
    have hlength : (ep.step (.recv handle)).arena.length = ep.arena.length := by
      rw [harena, List.length_modify]
    refine ⟨fun k _ hk => ?_, Nat.le_of_eq hlength.symm, fun _ => hlength⟩
    rw [harena, List.getElem?_modify_ne _ _ hk]
  | _ => exact (ep.step_rearranged (by rintro _ _ _ _ _ ⟨⟩) (by rintro _ ⟨⟩)).arena

omit [CryptoSuite] [KeyExchange] in
/-- Nobody uses the connection: its state can be written back first. -/
theorem Ignores.put {ep : GtpEndpoint} {e : Event} {handle : Nat}
    {g : Std.ExtTreeMap ConnectionId Nat compare → Std.ExtTreeMap ConnectionId Nat compare}
    (h : Ignores ep e id g) (hlt : handle < ep.arena.length) (hk : ¬ ep.touches e handle)
    (s : SharedConnection) : Ignores ep e (·.set handle s) g where
  used k htouch := by
    have hne : handle ≠ k := fun heq => hk (heq ▸ htouch)
    refine ⟨List.getElem?_set_ne hne, fun f => List.ext_getElem? fun i => ?_⟩
    rw [List.getElem?_modify, List.getElem?_set, List.getElem?_set, List.getElem?_modify,
      List.length_modify]
    by_cases hi : handle = i
    · subst hi
      simp [Ne.symm hne]
    · rw [if_neg hi, if_neg hi]
  registered c hc := by
    obtain ⟨-, -, hinsert⟩ := h.registered c hc
    exact ⟨List.length_set, fun x => (List.set_append_left _ _ hlt).symm, hinsert⟩

/-- The connection in hand is there. -/
def Tasks.Sound (t : Tasks) : Prop :=
  ∀ cid handle, t.rx.held = some (cid, handle) → handle < t.ep.arena.length

end

/-! ## 5. Runs -/

namespace Tasks

section

variable [CryptoSuite]

omit [CryptoSuite] in
theorem Sound.of_idle (ep : GtpEndpoint) : Sound ⟨ep, .idle⟩ := by
  rintro _ _ ⟨⟩

theorem sound_takeIn (ep : GtpEndpoint) (cid : ConnectionId) (src : SocketAddr)
    (datagram : List UInt8) (now : MonotonicTime) : Sound (ep.takeIn cid src datagram now) := by
  unfold takeIn
  split
  · exact .of_idle ep
  · split
    · exact .of_idle ep
    · rename_i s hs
      rintro _ _ ⟨⟩
      dsimp only [put]
      rw [List.length_set]
      exact (List.getElem?_eq_some_iff.mp hs).1

omit [CryptoSuite] in
theorem Sound.proceed {t : Tasks} (h : t.Sound) : t.proceed.Sound := by
  obtain ⟨ep, rx⟩ := t
  cases rx with
  | idle => exact h
  | remove cid => exact .of_idle _
  | insert cid conn => exact .of_idle _
  | offer cid handle msgs =>
    unfold Tasks.proceed
    dsimp only
    split
    · exact .of_idle ep
    · cases msgs with
      | nil =>
        dsimp only
        split
        · rintro _ _ ⟨⟩
        · exact .of_idle ep
      | cons msg rest =>
        dsimp only
        split
        · rintro _ _ ⟨⟩
        · rintro _ _ ⟨⟩
          dsimp only [put]
          rw [List.length_set]
          exact h cid handle rfl

variable [KeyExchange]

theorem sound_arrive (ep : GtpEndpoint) (src : SocketAddr) (datagram : List UInt8)
    (now : MonotonicTime) (secret nonce : Bytes 32) :
    Sound (ep.arrive src datagram now secret nonce).1 := by
  unfold arrive
  split
  · exact sound_takeIn _ _ _ _ _
  · unfold takeFinish
    dsimp only
    split
    · exact .of_idle _
    · dsimp only
      split
      · exact .of_idle _
      · rintro _ _ ⟨⟩
  · exact .of_idle _

/-- **Every turn**: the connection in hand stays there. -/
theorem Sound.step {t : Tasks} (h : t.Sound) (turn : Turn) : (t.step turn).Sound := by
  cases turn with
  | receive src datagram now secret nonce =>
    obtain ⟨ep, rx⟩ := t
    cases rx with
    | idle => exact sound_arrive ep src datagram now secret nonce
    | offer cid handle msgs => exact h
    | remove cid => exact h
    | insert cid conn => exact h
  | proceed => exact h.proceed
  | other e he =>
    obtain ⟨-, hgrow, -⟩ := t.ep.step_arena he
    intro cid handle hheld
    exact Nat.lt_of_lt_of_le (h cid handle hheld) hgrow

end

end Tasks

namespace Tasks

variable [CryptoSuite] [KeyExchange]

end Tasks

end GtpEndpoint

namespace GtpEndpoint

attribute [local instance] keyTagSuite additiveExchange

/-- The endpoint serves one connection. -/
def serving : GtpEndpoint := quietServer.step (.adopt 7 ⟨2, 5000⟩ Net.sampleSession.keys false true)

end GtpEndpoint

end Gtp
