/-
# Fragment reassembly (`gtp-core/src/fragment.rs`)

The receiver half of fragmentation.  An incomplete message is an entry with one slot per fragment;
only fragment 0 opens an entry, and three bounds guard the memory: 64 entries, 4 MiB of buffered
bytes, and a time to live of five seconds.

* `push` sweeps first, so an entry past its time to live is gone before the fragment is looked at.
* A fragment of a message that has an entry goes into its slot, unless the number of fragments that
  it names is another one (`pushInto`).
* A fragment of any other message is refused unless it is fragment 0 (`pushNew`), which may evict
  the oldest entry.

What the caller does with a refusal is not decided here: the dispatch counts it, and acknowledges
the packet all the same.

A hash map is an `ExtTreeMap` here: nothing in the source depends on its iteration order.  Its
insertion order is a list of its own, as in the source.
-/
import Gtp.Types
import Std.Data.ExtTreeMap.Lemmas

namespace Gtp

/-! ## 1. Splitting -/

/-- `message_fragment_count`: how many fragments a payload of `len` bytes makes. -/
def messageFragmentCount (len budget : Nat) : Result Nat :=
  let budget := max budget 1
  let total := (len + budget - 1) / budget
  if total = 0 ∨ 65535 < total then .error (.payloadTooLarge (budget * 65535)) else .ok total

/-! ## 2. The reassembler -/

def maxReassemblyMessages : Nat := 64
def maxReassemblyBytes : Nat := 4 * 1024 * 1024
def reassemblyTtl : Duration := Duration.fromSecs 5

/-- `PushOutcome`: the payload is complete, the fragment is stored (or was there), or refused. -/
inductive PushOutcome where
  | delivered (full : List UInt8)
  | stored
  | dropped
  deriving DecidableEq, Repr

/-- `Partial`: an incomplete message. -/
structure Partial where
  total : UInt16
  parts : List (Option (List UInt8))
  received : Nat
  bytes : Nat
  lastTouch : MonotonicTime
  deriving DecidableEq, Repr

namespace Partial

/-- Whether slot `idx` is filled. -/
def has (e : Partial) (idx : Nat) : Bool := (e.parts[idx]?.join).isSome

/-- The entry with `payload` in slot `idx`. -/
def fill (e : Partial) (idx : Nat) (payload : List UInt8) : Partial :=
  { e with
    parts := e.parts.set idx (some payload)
    bytes := e.bytes + payload.length
    received := e.received + 1 }

/-- The payload of a complete entry: `parts.into_iter().flat_map(expect)`. -/
def full (e : Partial) : List UInt8 := e.parts.flatMap fun slot => slot.getD []

/-- Past its time to live. -/
def stale (e : Partial) (now : MonotonicTime) : Bool := decide (reassemblyTtl < now - e.lastTouch)

end Partial

/-- `MessageReassembler`. -/
structure MessageReassembler where
  entries : Std.ExtTreeMap MessageId Partial compare
  order : List MessageId
  totalBytes : Nat

namespace MessageReassembler

/-- `MessageReassembler::new`. -/
def new : MessageReassembler := ⟨∅, [], 0⟩

def remove (r : MessageReassembler) (id : MessageId) : MessageReassembler :=
  { entries := r.entries.erase id
    order := r.order.filter fun x => x ≠ id
    totalBytes := match r.entries[id]? with
      | some e => r.totalBytes - e.bytes
      | none => r.totalBytes }

/-- `sweep`. -/
def sweep (r : MessageReassembler) (now : MonotonicTime) : MessageReassembler :=
  let stale := (r.entries.toList.filter fun e => e.2.stale now).map Prod.fst
  stale.foldl remove r

/-- The loop that evicts the oldest incomplete message while the map is full; every turn takes one
id off the order. -/
def makeRoom (r : MessageReassembler) : List MessageId → MessageReassembler
  | [] => { r with order := [] }
  | oldest :: rest =>
    if maxReassemblyMessages ≤ r.entries.size then
      makeRoom
        { entries := r.entries.erase oldest
          order := rest
          totalBytes := match r.entries[oldest]? with
            | some e => r.totalBytes - e.bytes
            | none => r.totalBytes } rest
    else { r with order := oldest :: rest }

/-- `push` into an entry that exists. -/
def pushInto (r : MessageReassembler) (messageId : MessageId) (entry : Partial) (idx : Nat)
    (totalFragments : UInt16) (payload : List UInt8) (now : MonotonicTime) :
    PushOutcome × MessageReassembler :=
  if entry.total ≠ totalFragments then (.dropped, r)
  else
    let entry := { entry with lastTouch := now }
    let r := { r with entries := r.entries.insert messageId entry }
    if entry.has idx then (.stored, r)
    else if maxReassemblyBytes < entry.bytes + payload.length ∨
        maxReassemblyBytes < r.totalBytes + payload.length then (.dropped, r)
    else
      let entry := entry.fill idx payload
      let r := { r with
        entries := r.entries.insert messageId entry
        totalBytes := r.totalBytes + payload.length }
      if entry.received = entry.total.toNat then (.delivered entry.full, r.remove messageId)
      else (.stored, r)

/-- `push` of the first fragment of a new message: only fragment 0 may open an entry. -/
def pushNew (r : MessageReassembler) (messageId : MessageId) (idx : Nat) (totalFragments : UInt16)
    (payload : List UInt8) (now : MonotonicTime) : PushOutcome × MessageReassembler :=
  if idx ≠ 0 then (.dropped, r)
  else if maxReassemblyBytes < payload.length then (.dropped, r)
  else
    let r := r.makeRoom r.order
    if maxReassemblyBytes < r.totalBytes + payload.length then (.dropped, r)
    else
      let entry : Partial :=
        { total := totalFragments
          parts := (List.replicate totalFragments.toNat none).set 0 (some payload)
          received := 1
          bytes := payload.length
          lastTouch := now }
      let r :=
        { entries := r.entries.insert messageId entry
          order := r.order ++ [messageId]
          totalBytes := r.totalBytes + payload.length }
      if totalFragments = 1 then (.delivered entry.full, r.remove messageId) else (.stored, r)

/-- `MessageReassembler::push`. -/
def push (r : MessageReassembler) (messageId : MessageId) (fragmentId : FragmentId)
    (totalFragments : UInt16) (payload : List UInt8) (now : MonotonicTime) :
    PushOutcome × MessageReassembler :=
  if totalFragments = 0 then (.dropped, r)
  else if totalFragments ≤ fragmentId then (.dropped, r)
  else
    let r := r.sweep now
    match r.entries[messageId]? with
    | some entry => r.pushInto messageId entry fragmentId.toNat totalFragments payload now
    | none => r.pushNew messageId fragmentId.toNat totalFragments payload now

end MessageReassembler

end Gtp
