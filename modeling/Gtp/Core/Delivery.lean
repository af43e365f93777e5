/-
# Delivery of received frames (the frame dispatch of `gtp-core/src/connection.rs`, `state.rs`)

What a received `Data`, `ReliableData` or `Retx` frame does to the delivery state: reassembly
first, then the duplicate index for unordered messages or the group's reorder buffer for ordered
ones.

* The index holds the last 4096 ids, first in first out; a message that it no longer knows is
  delivered again.
* At most 256 groups are tracked.  The one whose last access is oldest is evicted for a new one,
  with all that it buffers.
* Sequenced state goes through the freshness table; a plain unreliable message bypasses it.

The dispatch loop of the connection wraps this: it counts what was dropped and collects what was
delivered, so a frame's fate is a value here, its `Disposition`.  No call of the delivery state ever
fails; what is refused is dropped, under the counter of its kind.  `orderedGroupMut` finds the group
that it has just made, so the `expect` of the source has no counterpart that could panic.
-/
import Gtp.Core.Fragment
import Gtp.Scheduler
import Gtp.Wire.Frame
import Mathlib.Data.Finset.Insert
import Mathlib.Data.Finset.Erase

namespace Gtp

/-! ## 1. The index of delivered messages -/

/-- `DeliveredIndex`: the ids delivered last, first-in first-out. -/
structure DeliveredIndex where
  seen : Finset MessageId
  order : List MessageId
  capacity : Nat

namespace DeliveredIndex

/-- `DeliveredIndex::new`. -/
def new (capacity : Nat) : DeliveredIndex := ⟨∅, [], max capacity 16⟩

/-- The loop that forgets the oldest ids above the capacity. -/
def trim (capacity : Nat) (seen : Finset MessageId) :
    List MessageId → Finset MessageId × List MessageId
  | [] => (seen, [])
  | old :: rest =>
    if capacity < (old :: rest).length then trim capacity (seen.erase old) rest
    else (seen, old :: rest)

/-- `insert_if_new`: whether the key is new, and the index afterwards. -/
def insertIfNew (d : DeliveredIndex) (key : MessageId) : Bool × DeliveredIndex :=
  if key ∈ d.seen then (false, d)
  else
    let (seen, order) := trim d.capacity (insert key d.seen) (d.order ++ [key])
    (true, { d with seen, order })

end DeliveredIndex

/-! ## 2. Delivery state -/

/-- `ReceivedMessage`. -/
structure ReceivedMessage where
  class' : MessageClass
  payload : List UInt8
  deriving DecidableEq, Repr

/-- What decides how a received frame is delivered. -/
structure DeliveryState where
  orderedGroups : Std.ExtTreeMap OrderedGroupId OrderedGroupReceiver compare
  groupGens : Std.ExtTreeMap OrderedGroupId Nat compare
  genCounter : Nat
  rxStateTable : StateTable
  reassembler : MessageReassembler
  deliveredIndex : DeliveredIndex

/-! ## 3. Ordered groups -/

def maxOrderedGroups : Nat := 256

namespace DeliveryState

/-- The group with the smallest access generation. -/
def leastRecentlyUsed (gens : Std.ExtTreeMap OrderedGroupId Nat compare) :
    Option OrderedGroupId :=
  (gens.toList.foldl (fun best e =>
    match best with
    | none => some e
    | some b => if e.2 < b.2 then some e else some b) none).map Prod.fst

/-- The loop of `ordered_group_mut` that evicts while the map is full; every turn removes a
group. -/
def evictGroups (d : DeliveryState) : Nat → DeliveryState
  | 0 => d
  | fuel + 1 =>
    if maxOrderedGroups ≤ d.orderedGroups.size then
      match leastRecentlyUsed d.groupGens with
      | none => d
      | some lru =>
        evictGroups { d with
          orderedGroups := d.orderedGroups.erase lru
          groupGens := d.groupGens.erase lru } fuel
    else d

/-- `ConnectionHot::ordered_group_mut`: the state in which `groupId` is tracked and freshly
touched. -/
def orderedGroupMut (d : DeliveryState) (groupId : OrderedGroupId) : DeliveryState :=
  if groupId ∈ d.groupGens then
    { d with
      genCounter := d.genCounter + 1
      groupGens := d.groupGens.insert groupId (d.genCounter + 1) }
  else
    let d := d.evictGroups d.orderedGroups.size
    { d with
      genCounter := d.genCounter + 1
      groupGens := d.groupGens.insert groupId (d.genCounter + 1)
      orderedGroups := d.orderedGroups.insert groupId (.new groupId) }

end DeliveryState

/-! ## 4. Dispatch -/

/-- What became of a received frame: handed to the application (with everything that it
released), kept for later, or dropped, each kind of drop with its own counter. -/
inductive Disposition where
  | delivered (messages : List ReceivedMessage)
  | stored
  | staleDrop
  | duplicateDrop
  | fragmentDrop
  | frameDrop
  deriving DecidableEq, Repr

/-- The messages that a disposition hands to the application. -/
def Disposition.messages : Disposition → List ReceivedMessage
  | delivered messages => messages
  | _ => []

namespace DeliveryState

/-- Unordered delivery: at most once per message id that the index remembers (ORD-4). -/
def deliverUnordered (d : DeliveryState) (messageId : MessageId) (payload : List UInt8) :
    Disposition × DeliveryState :=
  match d.deliveredIndex.insertIfNew messageId with
  | (true, deliveredIndex) =>
    (.delivered [⟨.reliableUnordered, payload⟩], { d with deliveredIndex })
  | (false, _) => (.duplicateDrop, d)

/-- Ordered delivery: whatever the group's cursor releases, each payload under its own number. -/
def deliverOrdered (d : DeliveryState) (groupId : OrderedGroupId) (orderSeq : UInt32)
    (payload : List UInt8) : Disposition × DeliveryState :=
  let d := d.orderedGroupMut groupId
  match d.orderedGroups[groupId]? with
  | none => (.stored, d) -- unreachable: the group was just touched
  | some group =>
    let (res, group) := group.onIncoming orderSeq payload
    let d := { d with orderedGroups := d.orderedGroups.insert groupId group }
    match res with
    | .ok ready =>
      (.delivered (ready.map fun e => ⟨.reliableOrdered groupId e.1, e.2⟩), d)
    | .error _ => (.frameDrop, d)

/-- A complete reliable message: group 0 is the unordered one. -/
def deliverReliable (d : DeliveryState) (messageId : MessageId) (groupId : OrderedGroupId)
    (orderSeq : UInt32) (payload : List UInt8) : Disposition × DeliveryState :=
  if groupId = 0 then d.deliverUnordered messageId payload
  else d.deliverOrdered groupId orderSeq payload

/-- The `ReliableData` arm of the dispatch. -/
def onReliableData (d : DeliveryState) (messageId : MessageId) (fragmentId : FragmentId)
    (totalFragments : UInt16) (groupId : OrderedGroupId) (orderSeq : UInt32)
    (payload : List UInt8) (now : MonotonicTime) : Disposition × DeliveryState :=
  if 1 < totalFragments then
    let (outcome, reassembler) :=
      d.reassembler.push messageId fragmentId totalFragments payload now
    let d := { d with reassembler }
    match outcome with
    | .delivered full => d.deliverReliable messageId groupId orderSeq full
    | .stored => (.stored, d)
    | .dropped => (.fragmentDrop, d)
  else d.deliverReliable messageId groupId orderSeq payload

/-- The `Data` arm: late sequenced state is dropped; a plain unreliable send travels with default
key, sequence and generation and bypasses the freshness table (SEM-2). -/
def onData (d : DeliveryState) (messageId : MessageId) (stateKey : StateKey)
    (sequence : StateSequence) (generation : GenerationId) (payload : List UInt8) :
    Disposition × DeliveryState :=
  let isPlainUnreliable := stateKey = StateKey.default ∧ sequence = 0 ∧ generation = 0
  let message : ReceivedMessage := ⟨.unreliableSequenced stateKey sequence generation, payload⟩
  if isPlainUnreliable then (.delivered [message], d)
  else if !d.rxStateTable.shouldAdmit stateKey generation sequence then (.staleDrop, d)
  else
    (.delivered [message],
      { d with rxStateTable := (d.rxStateTable.update stateKey generation sequence messageId).1 })

/-- The arms of the dispatch that deliver; every other frame leaves the delivery state alone. -/
def onFrame (d : DeliveryState) (frame : Frame) (now : MonotonicTime) :
    Disposition × DeliveryState :=
  match frame with
  | .data messageId stateKey sequence generation _ payload =>
    d.onData messageId stateKey sequence generation payload
  | .reliableData messageId fragmentId totalFragments groupId orderSeq payload =>
    d.onReliableData messageId fragmentId totalFragments groupId orderSeq payload now
  | .retx messageId _ _ payload => d.deliverUnordered messageId payload
  | _ => (.stored, d)

end DeliveryState

end Gtp
