/-
# The simulated fabric (`gtp-sim`)

`SimulatedFabric` joins two endpoints by several links.  Each direction of a link has a profile of
its own and a random stream of its own, a script changes the profiles at given times, and every
outcome of `transmit` is written to `event_log`.

* `f64` is `Float`, as in `Gtp.Cc`; nothing that is proved depends on a draw, only on how many draws
  an outcome takes.
* Integer sums wrap as they do in a release build, and a build with overflow checks stops where they
  would.
* Indexing a `Vec` out of its bounds panics, so `tickScript` and `transmit` return an `Option`.
* A `BinaryHeap` is kept as the list of its packets: which of two packets of one `deliver_at` a heap
  pops first is not specified, and nothing below depends on it.

A call carries the index of its link, and a run stops at an index that names none.  The presets of
profiles are values of one record, of which `lan` is here; the drivers that call a fabric in a loop
are left out.
-/
import Gtp.Cc
import Mathlib.Data.List.Sort

namespace Gtp

/-! ## 1. Random streams -/

/-- `next_random_f64`: one XorShift64 step, the draw and the new state. -/
def nextRandomF64 (state : UInt64) : Float × UInt64 :=
  let x := state
  let x := x ^^^ (x <<< 13)
  let x := x ^^^ (x >>> 7)
  let x := x ^^^ (x <<< 17)
  (x.toFloat / (0xFFFFFFFFFFFFFFFF : UInt64).toFloat, x)

/-- `splitmix64`: the seed of one stream. -/
def splitmix64 (seed : UInt64) : UInt64 :=
  let z := seed + 0x9E3779B97F4A7C15
  let z := (z ^^^ (z >>> 30)) * 0xBF58476D1CE4E5B9
  let z := (z ^^^ (z >>> 27)) * 0x94D049BB133111EB
  z ^^^ (z >>> 31)

/-! ## 2. Profiles and links (`impairments.rs`) -/

/-- `NetworkProfile`. -/
structure NetworkProfile where
  oneWayDelay : Duration
  jitter : Duration
  lossRate : Float
  duplicateRate : Float
  reorderRate : Float
  bandwidthBytesPerSec : Nat

/-- `NetworkProfile::lan`, the default profile. -/
def NetworkProfile.lan : NetworkProfile where
  oneWayDelay := Duration.fromMillis 1
  jitter := 200
  lossRate := 0.0
  duplicateRate := 0.0
  reorderRate := 0.0
  bandwidthBytesPerSec := 100000000

/-- `FabricDirection`. -/
inductive FabricDirection where
  | forward
  | reverse
  deriving DecidableEq, Repr

/-- `ImpairDirection`: the scope of a scripted impairment. -/
inductive ImpairDirection where
  | forward
  | reverse
  | both
  deriving DecidableEq, Repr

def ImpairDirection.covers : ImpairDirection → FabricDirection → Bool
  | forward, d => d = .forward
  | reverse, d => d = .reverse
  | both, _ => true

/-- `ProfileDelta`. -/
structure ProfileDelta where
  oneWayDelayAdd : Duration
  jitterAdd : Duration
  lossRateAdd : Float

/-- `ProfileDelta::apply`: delays saturate, the loss rate is clamped. -/
def ProfileDelta.apply (delta : ProfileDelta) (profile : NetworkProfile) : NetworkProfile :=
  { profile with
    oneWayDelay := satAdd profile.oneWayDelay delta.oneWayDelayAdd
    jitter := satAdd profile.jitter delta.jitterAdd
    lossRate := floatClamp (profile.lossRate + delta.lossRateAdd) 0.0 1.0 }

/-- `ScriptedImpairment`. -/
structure ScriptedImpairment where
  «at» : MonotonicTime
  link : Nat
  direction : ImpairDirection
  delta : ProfileDelta

/-- `SimulatedPacket`. -/
structure SimulatedPacket where
  deliverAt : MonotonicTime
  src : SocketAddr
  dest : SocketAddr
  data : List UInt8
  deriving DecidableEq, Repr

/-- `SimulatedLink`. -/
structure SimulatedLink where
  fwd : NetworkProfile
  rev : NetworkProfile
  queue : List SimulatedPacket
  rngFwd : UInt64
  rngRev : UInt64

namespace SimulatedLink

/-- The profile of a direction. -/
def profile (l : SimulatedLink) : FabricDirection → NetworkProfile
  | .forward => l.fwd
  | .reverse => l.rev

/-- The stream of a direction. -/
def rng (l : SimulatedLink) : FabricDirection → UInt64
  | .forward => l.rngFwd
  | .reverse => l.rngRev

def setRng (l : SimulatedLink) (d : FabricDirection) (x : UInt64) : SimulatedLink :=
  match d with
  | .forward => { l with rngFwd := x }
  | .reverse => { l with rngRev := x }

/-- The `match` of `tick_script`: a delta on the directions it is meant for. -/
def impair (l : SimulatedLink) (entry : ScriptedImpairment) : SimulatedLink :=
  match entry.direction with
  | .forward => { l with fwd := entry.delta.apply l.fwd }
  | .reverse => { l with rev := entry.delta.apply l.rev }
  | .both => { l with fwd := entry.delta.apply l.fwd, rev := entry.delta.apply l.rev }

@[simp] theorem profile_impair (l : SimulatedLink) (entry : ScriptedImpairment)
    (d : FabricDirection) :
    (l.impair entry).profile d =
      if entry.direction.covers d then entry.delta.apply (l.profile d) else l.profile d := by
  cases hd : entry.direction <;> cases d <;> simp [impair, profile, ImpairDirection.covers, hd]

@[simp] theorem rng_impair (l : SimulatedLink) (entry : ScriptedImpairment)
    (d : FabricDirection) : (l.impair entry).rng d = l.rng d := by
  cases hd : entry.direction <;> cases d <;> simp [impair, rng, hd]

end SimulatedLink

/-- `FabricEvent`. -/
inductive FabricEvent where
  | delivered (link : Nat) (direction : FabricDirection) (deliverAtUs len : Nat)
  | dropped (link : Nat) (direction : FabricDirection) (len : Nat)
  deriving DecidableEq, Repr

/-- The event is one of link `link` in direction `direction`. -/
def FabricEvent.isOf (link : Nat) (direction : FabricDirection) : FabricEvent → Bool
  | delivered l d _ _ => l = link ∧ d = direction
  | dropped l d _ => l = link ∧ d = direction

/-! ## 3. The fabric (`fabric.rs`) -/

/-- `SimulatedFabric`. -/
structure SimulatedFabric where
  links : List SimulatedLink
  script : List ScriptedImpairment
  scriptCursor : Nat
  masterSeed : UInt64
  eventLog : List FabricEvent

/-- `TxOutcome`. -/
inductive TxOutcome where
  | dropped
  | delivered (deliverAt : MonotonicTime) (duplicate : Bool)
  deriving DecidableEq, Repr

/-- The stream seed of direction `d` of link `i`. -/
def streamSeed (masterSeed : UInt64) (i : Nat) : FabricDirection → UInt64
  | .forward => splitmix64 (masterSeed ^^^ splitmix64 (UInt64.ofNat i * 2))
  | .reverse => splitmix64 (masterSeed ^^^ splitmix64 (UInt64.ofNat i * 2 + 1))

/-- The block of `transmit` under the link borrow: the outcome and the stream it leaves.  A drop
takes one draw, a delivery four. -/
def txOutcome (profile : NetworkProfile) (rng : UInt64) (len : Nat) (now : MonotonicTime) :
    TxOutcome × UInt64 :=
  let (loss, rng) := nextRandomF64 rng
  if loss < profile.lossRate then
    (.dropped, rng)
  else
    let (draw, rng) := nextRandomF64 rng
    let jitterFactor := draw * 2.0 - 1.0
    let jitterMicros := (profile.jitter.toFloat * jitterFactor).toInt64
    let baseDelayMicros := (UInt64.ofNat profile.oneWayDelay).toInt64
    let effectiveDelay := (max (baseDelayMicros + jitterMicros) 100).toUInt64.toNat
    let serializationMicros :=
      floatToNat (len.toFloat / profile.bandwidthBytesPerSec.toFloat * 1000000.0)
    let deliverAt := satAdd now (wrapAdd effectiveDelay serializationMicros)
    let (reorder, rng) := nextRandomF64 rng
    let deliverAt :=
      if reorder < profile.reorderRate then satAdd deliverAt (Duration.fromMillis 15)
      else deliverAt
    let (copy, rng) := nextRandomF64 rng
    (.delivered deliverAt (decide (copy < profile.duplicateRate)), rng)

/-- The event an outcome leaves in the log. -/
def TxOutcome.event (outcome : TxOutcome) (link : Nat) (direction : FabricDirection) (len : Nat) :
    FabricEvent :=
  match outcome with
  | .dropped => .dropped link direction len
  | .delivered deliverAt _ => .delivered link direction deliverAt len

/-- The packets an outcome puts on the link's queue. -/
def TxOutcome.packets (outcome : TxOutcome) (src dest : SocketAddr) (data : List UInt8) :
    List SimulatedPacket :=
  match outcome with
  | .dropped => []
  | .delivered deliverAt duplicate =>
    ⟨deliverAt, src, dest, data⟩ :: (if duplicate then [⟨satAdd deliverAt 500, src, dest, data⟩]
      else [])

theorem isOf_event (outcome : TxOutcome) (link l : Nat) (direction d : FabricDirection)
    (len : Nat) :
    (outcome.event link direction len).isOf l d = decide (link = l ∧ direction = d) := by
  cases outcome <;> rfl

namespace SimulatedFabric

/-- `SimulatedFabric::new`. -/
def new (masterSeed : UInt64) (linkProfiles : List (NetworkProfile × NetworkProfile)) :
    SimulatedFabric where
  links := linkProfiles.mapIdx fun i p =>
    { fwd := p.1, rev := p.2, queue := [],
      rngFwd := streamSeed masterSeed i .forward, rngRev := streamSeed masterSeed i .reverse }
  script := []
  scriptCursor := 0
  masterSeed := masterSeed
  eventLog := []

/-- `SimulatedFabric::with_script`: a stable sort by time. -/
def withScript (f : SimulatedFabric) (script : List ScriptedImpairment) : SimulatedFabric :=
  { f with script := script.insertionSort fun a b => a.at ≤ b.at, scriptCursor := 0 }

/-- The loop of `tick_script` over the entries from the cursor on. -/
def tickEntries (now : MonotonicTime) :
    List ScriptedImpairment → SimulatedFabric → Option SimulatedFabric
  | [], f => some f
  | entry :: rest, f =>
    if entry.at ≤ now then do
      let link ← f.links[entry.link]?
      tickEntries now rest
        { f with links := f.links.set entry.link (link.impair entry)
                 scriptCursor := f.scriptCursor + 1 }
    else
      some f

/-- `SimulatedFabric::tick_script`. -/
def tickScript (f : SimulatedFabric) (now : MonotonicTime) : Option SimulatedFabric :=
  tickEntries now (f.script.drop f.scriptCursor) f

/-- `SimulatedFabric::transmit`. -/
def transmit (f : SimulatedFabric) (link : Nat) (direction : FabricDirection)
    (src dest : SocketAddr) (data : List UInt8) (now : MonotonicTime) :
    Option SimulatedFabric := do
  let l ← f.links[link]?
  let (outcome, rng) := txOutcome (l.profile direction) (l.rng direction) data.length now
  let l := l.setRng direction rng
  some { f with
    links := f.links.set link { l with queue := l.queue ++ outcome.packets src dest data }
    eventLog := f.eventLog ++ [outcome.event link direction data.length] }

/-- `SimulatedFabric::drain_ready`: the packets due by `now`, by delivery time. -/
def drainReady (f : SimulatedFabric) (now : MonotonicTime) :
    List SimulatedPacket × SimulatedFabric :=
  ((f.links.flatMap fun l => l.queue.filter (·.deliverAt ≤ now)).insertionSort
      fun a b => a.deliverAt ≤ b.deliverAt,
    { f with links := f.links.map fun l =>
        { l with queue := l.queue.filter fun p => ¬ p.deliverAt ≤ now } })

end SimulatedFabric

/-! ## 4. Runs -/

/-- A call on the fabric. -/
inductive FabricCall where
  | tickScript (now : MonotonicTime)
  | transmit (link : Nat) (direction : FabricDirection) (src dest : SocketAddr)
      (data : List UInt8) (now : MonotonicTime)
  | drainReady (now : MonotonicTime)
  deriving DecidableEq, Repr

namespace SimulatedFabric

/-- One call. -/
def call (f : SimulatedFabric) : FabricCall → Option SimulatedFabric
  | .tickScript now => f.tickScript now
  | .transmit link direction src dest data now => f.transmit link direction src dest data now
  | .drainReady now => some (f.drainReady now).2

/-- The calls one after the other; `none` is a panic on the way. -/
def run (f : SimulatedFabric) (calls : List FabricCall) : Option SimulatedFabric :=
  calls.foldlM call f

/-- The events of one direction of one link, in the order of the log. -/
def eventsOf (f : SimulatedFabric) (link : Nat) (direction : FabricDirection) :
    List FabricEvent :=
  f.eventLog.filter (·.isOf link direction)

end SimulatedFabric
end Gtp
