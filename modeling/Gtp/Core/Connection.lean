/-
# The control interface and runs of a connection (`control/handle.rs`, `connection.rs`)

`Op` has one constructor for every entry point of the engine that changes its state; a run is a
fold over operations.  Results about a connection are stated for every run from a freshly built
connection, so `Reachable` is the state space they range over, and `Reachable.induct` its induction
rule.

* `Setup` is what a fresh connection is built from: the two keys, the role, whether the path is
  validated in advance, and a configuration, which may be any.
* `datagramOf` is what a call hands to the network, and `messagesOf` what it returns to the
  application.  Together they are all that the world sees of a call, apart from events and metrics.

An operation has its time with it.  Times of a run are any: nothing asks for a clock that does not
go back, except where a result says so.  The metrics are left out, and so are the queries that do
not change the state.
-/
import Gtp.Core.Transmit
import Gtp.Lib.Runs

namespace Gtp

namespace GtpConnection

/-! ## 1. The control handle -/

/-- Appends a control frame. -/
def queueControl (c : GtpConnection) (ctrl : OutgoingControlFrame) : GtpConnection :=
  { c with hot.controlQueue := c.hot.controlQueue ++ [ctrl] }

/-- `set_ack_frequency`: the policy takes effect locally as well. -/
def setAckFrequency (c : GtpConnection) (ackFrequencyPackets : UInt8) (maxAckDelayMs : UInt16)
    (reorderThreshold : UInt8) : GtpConnection :=
  (c.onAckFrequency ackFrequencyPackets maxAckDelayMs reorderThreshold).queueControl
    (.ackFrequency ackFrequencyPackets maxAckDelayMs reorderThreshold)

/-- `trigger_path_challenge`. -/
def triggerPathChallenge (c : GtpConnection) (newAddr : SocketAddr) (nonce : Bytes 8)
    (now : MonotonicTime) : GtpConnection :=
  { c with
    hot.pathValidator := c.hot.pathValidator.startChallenge newAddr nonce now
    hot.antiAmplificationProbe := if newAddr = c.hot.activePath then none
      else some (newAddr, .withFactor c.config.antiAmplificationFactor) }.queueControl
    (.pathChallenge nonce newAddr)

/-- `trigger_mtu_probe`. -/
def triggerMtuProbe (c : GtpConnection) (probeId : UInt32) (targetSize : Nat) : GtpConnection :=
  c.queueControl (.mtuProbe probeId (targetSize - 32))

/-- `send_ping`. -/
def sendPing (c : GtpConnection) (nonce : UInt64) : GtpConnection := c.queueControl (.ping nonce)

/-- A state transition with its event; an illegal one leaves the state and emits nothing. -/
def changeState (c : GtpConnection) (next : ConnectionState) : Result Unit × GtpConnection :=
  match c.hot.state.transitionTo next with
  | .error e => (.error e, c)
  | .ok state => (.ok (), { c with hot.state := state }.pushEvent (.stateChanged c.hot.state next))

/-- `graceful_close`: the frame is queued before the transition, and stays when it is refused. -/
def gracefulClose (c : GtpConnection) (errorCode : UInt16) (reason : String) :
    Result Unit × GtpConnection :=
  (c.queueControl (.close errorCode reason)).changeState .draining

/-- `force_close`. -/
def forceClose (c : GtpConnection) : Result Unit × GtpConnection := c.changeState .closed

/-- `initiate_key_update`. -/
def initiateKeyUpdate (c : GtpConnection) : Nat × GtpConnection :=
  let (phase, hot) := c.hot.ratchetAndAnnounce
  (phase, { c with hot })

/-- `drain_events`. -/
def drainEvents (c : GtpConnection) : List ControlEvent × GtpConnection :=
  (c.eventQueue, { c with eventQueue := [] })

/-- `enable_route_switching`. -/
def enableRouteSwitching (c : GtpConnection) (policy : SwitchPolicy)
    (paths : List (UInt32 × SocketAddr)) : GtpConnection :=
  { c with
    hot.routeController := some (.new policy)
    hot.routePaths := paths
    hot.routeStats := List.replicate paths.length PathStats.default }

/-- `feed_route_stats`. -/
def feedRouteStats (c : GtpConnection) (pathId : UInt32) (stats : PathStats) : GtpConnection :=
  match c.hot.routePaths.findIdx? fun p => p.1 = pathId with
  | some pos => { c with hot.routeStats := c.hot.routeStats.set pos stats }
  | none => c

/-! ## 2. Runs -/

/-- The entry points of the engine. -/
inductive Op where
  | sendUnreliable (payload : List UInt8) (priority : PriorityTier)
      (deadline : Option MonotonicTime) (now : MonotonicTime)
  | sendSequenced (stateKey : StateKey) (sequence : StateSequence) (generation : GenerationId)
      (deadline : Option MonotonicTime) (payload : List UInt8) (now : MonotonicTime)
  | sendReliableUnordered (payload : List UInt8) (priority : PriorityTier)
      (deadline : Option MonotonicTime) (now : MonotonicTime)
  | sendReliableOrdered (groupId : OrderedGroupId) (payload : List UInt8)
      (priority : PriorityTier) (deadline : Option MonotonicTime) (now : MonotonicTime)
  | handleIncoming (srcAddr : SocketAddr) (datagram : List UInt8) (now : MonotonicTime)
      (ipEcn : UInt8)
  | produce (now : MonotonicTime) (outBuf : List UInt8)
  | setAckFrequency (ackFrequencyPackets : UInt8) (maxAckDelayMs : UInt16)
      (reorderThreshold : UInt8)
  | triggerPathChallenge (newAddr : SocketAddr) (nonce : Bytes 8) (now : MonotonicTime)
  | triggerMtuProbe (probeId : UInt32) (targetSize : Nat)
  | sendPing (nonce : UInt64)
  | gracefulClose (errorCode : UInt16) (reason : String)
  | forceClose
  | ratchetKey
  | initiateKeyUpdate
  | drainEvents
  | enableRouteSwitching (policy : SwitchPolicy) (paths : List (UInt32 × SocketAddr))
  | feedRouteStats (pathId : UInt32) (stats : PathStats)

variable [CryptoSuite]

/-- The connection after one call. -/
def step (c : GtpConnection) : Op → GtpConnection
  | .sendUnreliable payload priority deadline now =>
    (c.sendUnreliable payload priority deadline now).2
  | .sendSequenced stateKey sequence generation deadline payload now =>
    (c.sendSequenced stateKey sequence generation deadline payload now).2
  | .sendReliableUnordered payload priority deadline now =>
    (c.sendReliableUnordered payload priority deadline now).2
  | .sendReliableOrdered groupId payload priority deadline now =>
    (c.sendReliableOrdered groupId payload priority deadline now).2
  | .handleIncoming srcAddr datagram now ipEcn =>
    (c.handleIncomingDatagramWithEcn srcAddr datagram now ipEcn).2
  | .produce now outBuf => (c.produceOutgoingDatagram now outBuf).conn
  | .setAckFrequency ackFrequencyPackets maxAckDelayMs reorderThreshold =>
    c.setAckFrequency ackFrequencyPackets maxAckDelayMs reorderThreshold
  | .triggerPathChallenge newAddr nonce now => c.triggerPathChallenge newAddr nonce now
  | .triggerMtuProbe probeId targetSize => c.triggerMtuProbe probeId targetSize
  | .sendPing nonce => c.sendPing nonce
  | .gracefulClose errorCode reason => (c.gracefulClose errorCode reason).2
  | .forceClose => c.forceClose.2
  | .ratchetKey => { c with hot := c.hot.ratchetSessionKey }
  | .initiateKeyUpdate => c.initiateKeyUpdate.2
  | .drainEvents => c.drainEvents.2
  | .enableRouteSwitching policy paths => c.enableRouteSwitching policy paths
  | .feedRouteStats pathId stats => c.feedRouteStats pathId stats

/-- The connection after a sequence of calls. -/
def run (c : GtpConnection) (ops : List Op) : GtpConnection := ops.foldl step c

/-- What a fresh connection is built from. -/
structure Setup where
  cid : ConnectionId
  peerAddr : SocketAddr
  keys : DirectionalKeys
  asClient : Bool
  preValidated : Bool
  hotConfig : GtpConfig
  config : GtpConfig

omit [CryptoSuite] in
/-- The fresh connection. -/
def Setup.start (s : Setup) : GtpConnection :=
  newWithHotConfig s.cid s.peerAddr s.keys s.asClient s.preValidated s.hotConfig s.config

/-- Reached from a fresh connection by some sequence of calls. -/
def Reachable (c : GtpConnection) : Prop := ∃ (s : Setup) (ops : List Op), c = s.start.run ops

/-- The induction rule of runs: what holds of every fresh connection and survives every call holds
of every reachable connection. -/
theorem Reachable.induct {P : GtpConnection → Prop} (hstart : ∀ s : Setup, P s.start)
    (hstep : ∀ c op, P c → P (c.step op)) {c : GtpConnection} (h : Reachable c) : P c := by
  obtain ⟨s, ops, rfl⟩ := h
  exact (Runs.along_of_forall (fun _ _ => trivial) ops s.start).preserves_always
    (P := fun _ _ => True) (fun c op _ => hstep c op) (hstart s)

/-- The datagram that a call hands to the network, with its destination. -/
def datagramOf (c : GtpConnection) (op : Op) : Option (SocketAddr × List UInt8) :=
  match op with
  | .produce now outBuf =>
    let p := c.produceOutgoingDatagram now outBuf
    match p.result with
    | .ok (some (dest, len)) => some (dest, p.buf.take len)
    | _ => none
  | _ => none

/-- The messages that a call returns to the application. -/
def messagesOf (c : GtpConnection) (op : Op) : List ReceivedMessage :=
  match op with
  | .handleIncoming srcAddr datagram now ipEcn =>
    match (c.handleIncomingDatagramWithEcn srcAddr datagram now ipEcn).1 with
    | .ok messages => messages
    | .error _ => []
  | _ => []

/-! ## 3. A connection to evaluate with -/

omit [CryptoSuite] in
/-- One end of a fresh, validated connection with the default configuration. -/
def sampleSetup (asClient : Bool) : Setup where
  cid := 7
  peerAddr := ⟨1, 4433⟩
  keys :=
    { clientTxKey := List.Vector.replicate 32 1
      clientTxIv := List.Vector.replicate 12 1
      serverTxKey := List.Vector.replicate 32 2
      serverTxIv := List.Vector.replicate 12 2 }
  asClient
  preValidated := true
  hotConfig := .default
  config := .default

end GtpConnection

end Gtp
