/-
# Connection state (`gtp-core/src/state.rs`, `control/config.rs`, `control/events.rs`)

The engine's record, in the source's two halves: `ConnectionHot` for the protocol, `ConnectionCold`
for the counters.  Two groups of fields that move together are parents of `ConnectionHot`: the key
material, which only a ratchet and the grace tick touch, and the receive-side delivery state, which
only the dispatch of a received frame touches.  So a statement that a call leaves one of the groups
alone is an equation.

* A control frame waits as an `OutgoingControlFrame`; `build_control_frame` makes the frame of it
  when it leaves.  One that is aimed at an address other than the active path is `directed`, and
  claims a datagram for itself.
* The ratchet is refused while the grace window of the last one is open, and it may be deferred to
  the end of the next datagram (`pendingRatchet`).
* Events go to a queue with a bound, and some go past it.

Fields that no modelled function reads are left out, of the configuration above all, and so are the
wiping of keys and `next_send_time`.  The counters of `ConnectionCold` are `u64` in the source and
do not come to their end.
-/
import Gtp.Core.Delivery
import Gtp.Recovery.AckTracker
import Gtp.Cc
import Gtp.Path
import Gtp.Crypto
import Gtp.Route

namespace Gtp

/-! ## 1. Control frames -/

/-- `OutgoingControlFrame`. -/
inductive OutgoingControlFrame where
  | ping (nonce : UInt64)
  | pathChallenge (data : Bytes 8) (dest : SocketAddr)
  | pathResponse (data : Bytes 8) (dest : SocketAddr)
  | mtuProbe (probeId : UInt32) (paddingLen : Nat)
  | ackFrequency (ackFrequencyPackets : UInt8) (maxAckDelayMs : UInt16) (reorderThreshold : UInt8)
  | close (errorCode : UInt16) (reason : String)
  | keyUpdate (nextPhase : Nat)
  deriving DecidableEq

namespace OutgoingControlFrame

/-- The address a control frame is aimed at, when it names one. -/
def dest? : OutgoingControlFrame → Option SocketAddr
  | pathChallenge _ dest => some dest
  | pathResponse _ dest => some dest
  | _ => none

/-- Aimed at an address other than the active path. -/
def directed (ctrl : OutgoingControlFrame) (activePath : SocketAddr) : Bool :=
  match ctrl.dest? with
  | some dest => decide (dest ≠ activePath)
  | none => false

def isPathResponse : OutgoingControlFrame → Bool
  | pathResponse .. => true
  | _ => false

def isClose : OutgoingControlFrame → Bool
  | close .. => true
  | _ => false

/-- `build_control_frame`. -/
def buildControlFrame : OutgoingControlFrame → Frame
  | ping nonce => .ping nonce
  | pathChallenge data _ => .pathChallenge data
  | pathResponse data _ => .pathResponse data
  | mtuProbe probeId paddingLen => .mtuProbe probeId paddingLen
  | ackFrequency ackFrequencyPackets maxAckDelayMs reorderThreshold =>
    .ackFrequency ackFrequencyPackets maxAckDelayMs reorderThreshold
  | close errorCode reason => .close errorCode reason
  | keyUpdate nextPhase => .keyUpdate (UInt64.ofNat nextPhase) (List.Vector.replicate 32 0)

end OutgoingControlFrame

/-! ## 2. Configuration and events -/

/-- `GtpConfig`: the fields that the engine reads. -/
structure GtpConfig where
  minMtu : Nat
  ackFrequencyPackets : UInt8
  maxAckDelay : Duration
  ackReorderThreshold : UInt8
  initialCwndPackets : Nat
  minCwndPackets : Nat
  smss : Nat
  cubicBeta : Float
  cubicC : Float
  pacingGain : Float
  maxPacingBurstBytes : Nat
  maxQueueBytesPerTier : Fin 5 → Nat
  ptoMaxDuration : Duration
  owdSampleInterval : Duration
  eventQueueCapacity : Nat
  antiAmplificationFactor : Nat

namespace GtpConfig

/-- `GtpConfig::competitive_fps`. -/
def competitiveFps : GtpConfig where
  minMtu := 1200
  ackFrequencyPackets := 1
  maxAckDelay := Duration.fromMillis 5
  ackReorderThreshold := 1
  initialCwndPackets := 20
  minCwndPackets := 4
  smss := 1200
  cubicBeta := 0.75
  cubicC := 0.4
  pacingGain := 1.25
  maxPacingBurstBytes := 24000
  maxQueueBytesPerTier
    | 0 => 128 * 1024
    | 1 => 512 * 1024
    | 2 => 1024 * 1024
    | 3 => 512 * 1024
    | 4 => 256 * 1024
  ptoMaxDuration := Duration.fromMillis 500
  owdSampleInterval := Duration.fromMillis 100
  eventQueueCapacity := 1024
  antiAmplificationFactor := 3

/-- `GtpConfig::default`. -/
def default : GtpConfig := competitiveFps

end GtpConfig

/-- `ControlEvent`: the variants that the engine emits. -/
inductive ControlEvent where
  | stateChanged (oldState newState : ConnectionState)
  | backpressureChanged (oldLevel newLevel : BackpressureLevel) (effectiveQueueBytes : Nat)
  | pathMigrated (oldAddr newAddr : SocketAddr)
  | packetLossDetected (lostCount lostBytes : Nat)
  | retransmissionTriggered (messageId : MessageId) (fragmentId : FragmentId)
  | ptoTriggered (ptoCount inflightBytes : Nat)
  | owdSample (owdVarUs jitterUs : UInt32) (epoch : UInt8)
  | routeHeld (pathId : UInt32) (reason : String)
  | routeSwitched (fromPath toPath : UInt32) (reason : String)
  | routeReverted (fromPath toPath : UInt32)
  deriving DecidableEq, Repr

/-! ## 3. The record -/

/-- The session keys of both directions, with the retained receive key of the phase before.

The phase counter is a `u64` in the source and a natural number here: it cannot come to its end,
because every ratchet but the first waits for 256 authenticated datagrams, and the replay window
lets each of the 2^64 packet numbers in at most once. -/
structure SessionKeys where
  txProtector : Protector
  rxProtector : Protector
  rxProtectorPrev : Option Protector
  rxPrevGracePackets : Nat
  txKey : Bytes 32
  rxKey : Bytes 32
  txIv : Bytes 12
  rxIv : Bytes 12
  keyPhase : Bool
  keyPhaseCounter : Nat
  deriving DecidableEq

/-- `ConnectionHot`. -/
structure ConnectionHot extends SessionKeys, DeliveryState where
  connectionId : ConnectionId
  nextPacketNumber : PacketNumber
  state : ConnectionState
  activePath : SocketAddr
  lossDetector : LossDetector
  ackTracker : AckTracker
  cc : CubicCongestionController
  pacing : PacingEngine
  scheduler : GameScheduler
  replayWindow : ReplayWindow
  controlQueue : List OutgoingControlFrame
  closeFrameSent : Bool
  antiAmplification : AntiAmplificationLimiter
  antiAmplificationProbe : Option (SocketAddr × AntiAmplificationLimiter)
  pathValidator : PathValidator
  owd : OwdEstimator
  lastOwdEmit : MonotonicTime
  lastRxTime : Option MonotonicTime
  nextMessageId : MessageId
  nextOrderSeqs : Std.ExtTreeMap OrderedGroupId UInt32 compare
  packetsSinceRatchet : Nat
  pendingRatchet : Bool
  routeController : Option SwitchController
  routePaths : List (UInt32 × SocketAddr)
  routeStats : List PathStats

/-- `ConnectionCold`. -/
structure ConnectionCold where
  totalRxPackets : Nat
  totalTxPackets : Nat
  totalRxBytes : Nat
  totalTxBytes : Nat
  totalStaleDrops : Nat
  totalRetransmissions : Nat
  totalCorruptedPackets : Nat
  totalDroppedFrames : Nat
  totalDuplicateDrops : Nat
  totalDroppedEvents : Nat
  totalFragmentDrops : Nat
  deriving DecidableEq, Repr

/-- `ConnectionCold::default()`. -/
def ConnectionCold.default : ConnectionCold := ⟨0, 0, 0, 0, 0, 0, 0, 0, 0, 0, 0⟩

/-- `ConnectionHot::build_with_config`. -/
def ConnectionHot.buildWithConfig (cid : ConnectionId) (peerAddr : SocketAddr)
    (txProtector rxProtector : Protector) (rxProtectorPrev : Option Protector)
    (txKey rxKey : Bytes 32) (txIv rxIv : Bytes 12) (keyPhase preValidated : Bool)
    (config : GtpConfig) : ConnectionHot where
  txProtector
  rxProtector
  rxProtectorPrev
  rxPrevGracePackets := 0
  txKey
  rxKey
  txIv
  rxIv
  keyPhase
  keyPhaseCounter := 0
  orderedGroups := ∅
  groupGens := ∅
  genCounter := 0
  rxStateTable := .new
  reassembler := .new
  deliveredIndex := .new 4096
  connectionId := cid
  nextPacketNumber := 1
  state := .established
  activePath := peerAddr
  lossDetector := .default
  ackTracker := .withPolicy config.ackFrequencyPackets config.maxAckDelay
  cc := .withConfig
    { smss := config.smss
      initialCwndPackets := config.initialCwndPackets
      minCwndPackets := config.minCwndPackets
      beta := config.cubicBeta
      c := config.cubicC
      pacingGain := config.pacingGain }
  pacing := .new config.maxPacingBurstBytes
  scheduler := .withPerTierByteCaps config.maxQueueBytesPerTier
  replayWindow := .new
  controlQueue := []
  closeFrameSent := false
  antiAmplification :=
    let antiAmp := AntiAmplificationLimiter.withFactor config.antiAmplificationFactor
    if preValidated then antiAmp.markValidated else antiAmp
  antiAmplificationProbe := none
  pathValidator := .new
  owd := .default
  lastOwdEmit := 0
  lastRxTime := none
  nextMessageId := 1
  nextOrderSeqs := ∅
  packetsSinceRatchet := 0
  pendingRatchet := false
  routeController := none
  routePaths := []
  routeStats := []

/-! ## 4. Key ratchet -/

/-- `RX_PREV_KEY_GRACE_PACKETS`. -/
def rxPrevKeyGracePackets : Nat := 256

namespace SessionKeys

/-- The previous receive key is still retained and its grace window is open. -/
def graceOpen (k : SessionKeys) : Bool :=
  k.rxProtectorPrev.isSome && decide (0 < k.rxPrevGracePackets)

/-- The keys of the next phase, both directions in lockstep. -/
def advance [CryptoSuite] (k : SessionKeys) (cid : ConnectionId) : SessionKeys :=
  let nextPhase := k.keyPhaseCounter + 1
  let newTx := ratchetKey k.txKey cid nextPhase
  let newRx := ratchetKey k.rxKey cid nextPhase
  { txProtector := .newForCid newTx.1 newTx.2 cid
    rxProtector := .newForCid newRx.1 newRx.2 cid
    rxProtectorPrev := some k.rxProtector
    rxPrevGracePackets := rxPrevKeyGracePackets
    txKey := newTx.1
    rxKey := newRx.1
    txIv := newTx.2
    rxIv := newRx.2
    keyPhase := !k.keyPhase
    keyPhaseCounter := nextPhase }

/-- `tick_rx_key_grace`. -/
def tickRxKeyGrace (k : SessionKeys) : SessionKeys :=
  if k.rxProtectorPrev.isNone then k
  else
    let left := k.rxPrevGracePackets - 1
    { k with
      rxPrevGracePackets := left
      rxProtectorPrev := if left = 0 then none else k.rxProtectorPrev }

end SessionKeys

namespace ConnectionHot

variable [CryptoSuite]

/-- `ratchet_session_key`: refused while the grace window of the last ratchet is open. -/
def ratchetSessionKey (h : ConnectionHot) : ConnectionHot :=
  if h.graceOpen then h
  else { h with toSessionKeys := h.advance h.connectionId, packetsSinceRatchet := 0 }

omit [CryptoSuite] in
/-- `ratchet_and_announce`: the announced phase, 0 when refused. -/
def ratchetAndAnnounce (h : ConnectionHot) : Nat × ConnectionHot :=
  if h.graceOpen then (0, h)
  else
    let nextPhase := h.keyPhaseCounter + 1
    (nextPhase,
      { h with
        controlQueue := h.controlQueue ++ [.keyUpdate nextPhase]
        pendingRatchet := true })

/-- `flush_pending_ratchet`. -/
def flushPendingRatchet (h : ConnectionHot) : ConnectionHot :=
  if h.pendingRatchet then { h with pendingRatchet := false }.ratchetSessionKey else h

/-- `on_key_update`. -/
def onKeyUpdate (h : ConnectionHot) (announcedPhase : UInt64) : ConnectionHot :=
  if h.keyPhaseCounter < announcedPhase.toNat then h.ratchetSessionKey else h

end ConnectionHot

/-! ## 5. The connection -/

/-- `NetworkFeedback`. -/
structure NetworkFeedback where
  rtt : Duration
  smoothedRtt : Duration
  minRtt : Option Duration
  cwndBytes : Nat
  inflightBytes : Nat
  pacingRateBps : Nat
  backpressure : BackpressureLevel
  effectiveQueueBytes : Nat
  deriving DecidableEq, Repr

/-- `GtpConnection`. -/
structure GtpConnection where
  hot : ConnectionHot
  cold : ConnectionCold
  config : GtpConfig
  eventQueue : List ControlEvent
  lastBackpressure : BackpressureLevel

namespace GtpConnection

/-- A connection around a freshly built hot state: the amplification factor of the
connection-level configuration is authoritative. -/
def ofHot (hot : ConnectionHot) (config : GtpConfig) : GtpConnection where
  hot := { hot with
    antiAmplification := hot.antiAmplification.setFactor config.antiAmplificationFactor }
  cold := .default
  config
  eventQueue := []
  lastBackpressure := .low

/-- A connection from directional handshake keys, with the hot state tuned by `hotConfig`. -/
def newWithHotConfig (cid : ConnectionId) (peerAddr : SocketAddr) (keys : DirectionalKeys)
    (asClient preValidated : Bool) (hotConfig config : GtpConfig) : GtpConnection :=
  let ((txKey, txIv), (rxKey, rxIv)) := keys.forRole asClient
  ofHot (.buildWithConfig cid peerAddr (.newForCid txKey txIv cid) (.newForCid rxKey rxIv cid) none
    txKey rxKey txIv rxIv false preValidated hotConfig) config

/-- `GtpConnection::new_with_directional_keys`. -/
def newWithDirectionalKeys (cid : ConnectionId) (peerAddr : SocketAddr) (keys : DirectionalKeys)
    (asClient preValidated : Bool) (config : GtpConfig) : GtpConnection :=
  newWithHotConfig cid peerAddr keys asClient preValidated .default config

/-- `push_event`: bounded, the oldest event is shed. -/
def pushEvent (c : GtpConnection) (event : ControlEvent) : GtpConnection :=
  let capacity := c.config.eventQueueCapacity
  let full := decide (capacity ≤ c.eventQueue.length)
  { c with
    eventQueue := if capacity = 0 then c.eventQueue
      else (if full then c.eventQueue.drop 1 else c.eventQueue) ++ [event]
    cold := if capacity = 0 ∨ full then
        { c.cold with totalDroppedEvents := c.cold.totalDroppedEvents + 1 }
      else c.cold }

/-- `event_queue.push`, past the bound: what the retransmission and route events use. -/
def pushEventUnbounded (c : GtpConnection) (event : ControlEvent) : GtpConnection :=
  { c with eventQueue := c.eventQueue ++ [event] }

/-- `GtpConnection::feedback`. -/
def feedback (c : GtpConnection) (now : MonotonicTime) : NetworkFeedback :=
  let rtt := c.hot.lossDetector.rttStats
  let effQueue := c.hot.scheduler.effectiveQueueBytes now
  { rtt := rtt.latestRtt
    smoothedRtt := rtt.smoothedRtt
    minRtt := rtt.minRttSample
    cwndBytes := c.hot.cc.cwnd
    inflightBytes := c.hot.lossDetector.inflightBytes
    pacingRateBps := c.hot.cc.pacingRate
    backpressure :=
      calculateBackpressure effQueue c.hot.cc.cwnd rtt.smoothedRtt rtt.minRttSample
    effectiveQueueBytes := effQueue }

end GtpConnection

end Gtp
