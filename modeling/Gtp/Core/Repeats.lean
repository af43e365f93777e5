/-
# What the receiver forgets

The receiver knows the messages it has delivered by a bounded memory, and a sender sends a message
again when its acknowledgement is late.  If so many other messages arrive in between that the
receiver has forgotten the first delivery, the copy is delivered once more.

The run that shows it is too long to be evaluated: the sender's part is a burst (`Waits.packets`),
and on the receiver's side only the frames that arrive count (`Waits.heard`).

* `wideSetup` has a congestion window that is never the limit, and the copy comes from the probe
  timeout, ten seconds after the message was sent.
* `unorderedLog_again` is the memory: an id is taken for a new one after as many others as the index
  holds.
* `unordered_twice` puts them together: one message comes out twice, and no datagram was repeated.

The same sender serves for ordered messages in `Gtp.Core.Turns`.  Nothing here depends on how the
acknowledgement was lost: the receiver of these runs has sent none.
-/
import Gtp.Core.Burst
import Gtp.Core.Dedup

namespace Gtp

/-! ## 1. Unordered messages of one fragment -/

namespace DeliveryState

/-- The frame of a message of one fragment. -/
def wholeFrame (e : MessageId × List UInt8) : Frame := .reliableData e.1 0 1 0 0 e.2

/-- A message whose id is not remembered is delivered. -/
theorem unorderedOf_whole {d : DeliveryState} {e : MessageId × List UInt8}
    (hnew : e.1 ∉ d.deliveredIndex.seen) (now : MonotonicTime) :
    d.unorderedOf ⟨wholeFrame e, now⟩ = [e] ∧
      (d.after ⟨wholeFrame e, now⟩).deliveredIndex = (d.deliveredIndex.insertIfNew e.1).2 := by
  have hins : (d.deliveredIndex.insertIfNew e.1).1 = true := by
    rw [DeliveredIndex.insertIfNew, if_neg hnew]
  have hframe : d.onFrame (wholeFrame e) now = (.delivered [⟨.reliableUnordered, e.2⟩],
      { d with deliveredIndex := (d.deliveredIndex.insertIfNew e.1).2 }) := by
    have hone : ¬ (1 : UInt16) < 1 := by decide
    rw [wholeFrame, onFrame, onReliableData, if_neg hone, deliverReliable, if_pos rfl,
      deliverUnordered]
    generalize d.deliveredIndex.insertIfNew e.1 = inserted at hins ⊢
    obtain ⟨new, idx⟩ := inserted
    obtain rfl : new = true := hins
    rfl
  refine ⟨?_, ?_⟩
  · rw [unorderedOf, fate, hframe]
    rfl
  · rw [after, hframe]

/-- **New ids are all delivered**, and remembered. -/
theorem unorderedLog_new {d : DeliveryState} {history : List MessageId}
    (hidx : d.deliveredIndex.Remembers history) (now : MonotonicTime)
    (es : List (MessageId × List UInt8)) (hnew : (es.map Prod.fst).Nodup)
    (hout : ∀ e ∈ es, e.1 ∉ history) :
    d.unorderedLog (arriving now (es.map wholeFrame)) = es ∧
      ((arriving now (es.map wholeFrame)).foldl after d).deliveredIndex.Remembers
        (history ++ es.map Prod.fst) ∧
      ((arriving now (es.map wholeFrame)).foldl after d).deliveredIndex.capacity =
        d.deliveredIndex.capacity := by
  induction es generalizing d history with
  | nil => exact ⟨rfl, (List.append_nil history).symm ▸ hidx, rfl⟩
  | cons e es ih =>
    have hfresh : e.1 ∉ d.deliveredIndex.seen := by
      rw [hidx.seen, List.mem_toFinset, hidx.order]
      exact fun hmem => hout e List.mem_cons_self (List.mem_of_mem_drop hmem)
    obtain ⟨hof, hidx'⟩ := unorderedOf_whole hfresh now
    obtain ⟨hrem, hcap⟩ := hidx.inserted hfresh
    rw [← hidx'] at hrem hcap
    rw [List.map_cons, List.nodup_cons] at hnew
    obtain ⟨hlog, hrem', hcap'⟩ := ih hrem hnew.2 (by
      intro e' he' hmem
      rcases List.mem_append.mp hmem with hmem | hmem
      · exact hout e' (List.mem_cons_of_mem _ he') hmem
      · exact hnew.1 (List.mem_map.mpr ⟨e', he', List.mem_singleton.mp hmem⟩))
    refine ⟨?_, ?_, hcap'.trans hcap⟩
    · rw [List.map_cons, arriving, List.map_cons, unorderedLog, hof]
      exact congrArg (e :: ·) hlog
    · rw [List.append_assoc] at hrem'
      exact hrem'

theorem unorderedLog_append (d : DeliveryState) (as bs : List Arrival) :
    d.unorderedLog (as ++ bs) = d.unorderedLog as ++ (as.foldl after d).unorderedLog bs := by
  induction as generalizing d with
  | nil => rfl
  | cons a as ih => rw [List.cons_append, unorderedLog, unorderedLog, ih, List.append_assoc]; rfl

/-- **A message is delivered again** after as many others as the index holds. -/
theorem unorderedLog_again {d : DeliveryState} (hidx : d.deliveredIndex.Remembers [])
    (now : MonotonicTime) (e : MessageId × List UInt8) (es : List (MessageId × List UInt8))
    (hnew : ((e :: es).map Prod.fst).Nodup) (hmany : es.length = d.deliveredIndex.capacity) :
    d.unorderedLog (arriving now ((e :: es ++ [e]).map wholeFrame)) = e :: es ++ [e] := by
  obtain ⟨hlog, hrem, hcap⟩ := unorderedLog_new hidx now (e :: es) hnew fun e he => List.not_mem_nil
  generalize hd : (arriving now ((e :: es).map wholeFrame)).foldl after d = d' at hrem hcap
  have hforgotten : e.1 ∉ d'.deliveredIndex.seen := by
    have hlast : (e.1 :: es.map Prod.fst).rtake d'.deliveredIndex.capacity = es.map Prod.fst := by
      rw [List.rtake, hcap, List.length_cons, List.length_map, hmany, Nat.add_sub_cancel_left,
        List.drop_one, List.tail_cons]
    rw [hrem.seen, List.mem_toFinset, hrem.order, List.nil_append, List.map_cons, hlast]
    exact (List.nodup_cons.mp hnew).1
  have hsplit : arriving now ((e :: es ++ [e]).map wholeFrame) =
      arriving now ((e :: es).map wholeFrame) ++ [⟨wholeFrame e, now⟩] := by
    rw [List.map_append, arriving, List.map_append]
    rfl
  rw [hsplit, unorderedLog_append, hlog, hd, unorderedLog, unorderedLog,
    (unorderedOf_whole hforgotten now).1, List.append_nil]

end DeliveryState

namespace GtpConnection

theorem letterFrames_unordered (id : MessageId)
    (seqs : Std.ExtTreeMap OrderedGroupId UInt32 compare) (b : UInt8) (n : Nat) :
    letterFrames id seqs (List.replicate n (none, b)) =
      ((List.range n).map fun i => (id + UInt64.ofNat i, [b])).map DeliveryState.wholeFrame := by
  induction n generalizing id with
  | zero => rfl
  | succ n ih =>
    have hshift : ∀ i, id + 1 + UInt64.ofNat i = id + UInt64.ofNat (i + 1) := by
      intro i
      rw [UInt64.ofNat_add, UInt64.add_assoc, UInt64.add_comm 1]
      rfl
    have hzero : id + UInt64.ofNat 0 = id := UInt64.add_zero id
    rw [List.replicate_succ, letterFrames, ih, List.range_succ_eq_map]
    simp only [List.map_cons, List.map_map, hshift, hzero]
    rfl

/-! ## 2. A copy behind a burst -/

namespace Again

attribute [local instance] keyTagSuite

/-- A wide window, so that the sender need not wait for acknowledgements. -/
def wide : GtpConfig :=
  { GtpConfig.default with initialCwndPackets := 2 ^ 32, maxPacingBurstBytes := 2 ^ 40 }

/-- One end of a fresh connection with that window. -/
def wideSetup (asClient : Bool) : Setup := { sampleSetup asClient with hotConfig := wide }

def buf : List UInt8 := List.replicate 100 0

/-- Ten seconds later: the probe timeout has fired. -/
def late : MonotonicTime := 10000000

/-- The message is on its way. -/
def opened (first : Letter) : GtpConnection := (wideSetup true).start.run (burst 1 buf [first])

/-- Its copy waits in tier 3. -/
def parked (first : Letter) : GtpConnection := (opened first).prepare late

/-- The calls of the sender: a message, the timeout, the other messages, and the copy. -/
def calls (first : Letter) (others : List Letter) : List Op :=
  burst 1 buf [first] ++ ([.produce late []] ++ (burst late buf others ++ [.produce late buf]))

/-- The calls of the receiver: every datagram, in order and once. -/
def received (first : Letter) (others : List Letter) : List Op :=
  ((wideSetup true).start.handedOut (calls first others)).map (.handleIncoming ⟨1, 4433⟩ · late 0)

def sentFrames (first : Letter) (others : List Letter) : List Frame :=
  letterFrames 1 ∅ [first] ++ letterFrames 2 (parked first).hot.nextOrderSeqs others ++
    letterFrames 1 ∅ [first]

theorem start_steady : Steady 1 (899900 + 100 * 1) (wideSetup true).start where
  state := by decide +kernel
  controls := by decide +kernel
  ack := by decide +kernel
  window := by decide +kernel
  tokens rate := by
    have hnew : (wideSetup true).start.hot.pacing.lastUpdateTime = 0 := rfl
    rw [PacingEngine.updateTokens, if_pos hnew]
    decide +kernel
  timer := by decide +kernel
  timeout := by decide +kernel
  validated := by decide +kernel
  binding := by decide +kernel
  pending := by decide +kernel

theorem start_idle : Idle (wideSetup true).start.hot.scheduler 1 where
  empty := by decide +kernel
  fresh := by
    unfold GameScheduler.Fresh
    decide +kernel
  room := ⟨by decide +kernel, by decide +kernel, by decide +kernel⟩

/-- The copy is all that waits, and the sender may send. -/
structure Waits (first : Letter) (copy : SchedulableItem) (c : GtpConnection) : Prop where
  steady : Steady late (100 * 2 ^ 32 + 100) c
  idle : Idle c.hot.scheduler late
  popNext : (c.hot.scheduler.popNext 76 late).1 = some copy
  payload : 0 < c.maxMessagePayload
  frame : letterFrames 1 ∅ [first] = [itemFrame copy]
  small : (itemFrame copy).needed = 22 ∧ (itemFrame copy).oversize = false
  keys : c.hot.txProtector = (wideSetup true).start.hot.txProtector
  connectionId : c.hot.connectionId = 7
  nextPacketNumber : c.hot.nextPacketNumber = 2
  nextMessageId : c.hot.nextMessageId = 2

/-- **The copy leaves last**: the first message, all others, and the first message once more. -/
theorem Waits.packets {first : Letter} {copy : SchedulableItem}
    (h : Waits first copy (parked first)) (others : List Letter) (hfew : others.length ≤ 2 ^ 32) :
    Packets (wideSetup true).start.hot.txProtector 7 1 ((sentFrames first others).map ([·]))
      ((wideSetup true).start.handedOut (calls first others)) := by
  have hsuite : ∀ key nonce aad pt, (CryptoSuite.encrypt key nonce aad pt).isSome :=
    fun _ _ _ _ => rfl
  have hbuf : buf.length = 100 := rfl
  -- the message
  obtain ⟨hfirst, hopen, -, -, -, -⟩ := burst_packets hsuite (by decide) start_idle hbuf [first] rfl
    (by decide +kernel) start_steady (show 1 + 1 < 2 ^ 64 by decide)
  -- the timeout
  obtain ⟨hpark, hnone⟩ := produce_nil (c := opened first) hopen.state late
  -- the others
  have hnext : (parked first).hot.nextPacketNumber.toNat = 2 := by rw [h.nextPacketNumber]; rfl
  obtain ⟨hothers, hsteady, hsched, hkeys, hcid, hpn⟩ := burst_packets hsuite (by decide) h.idle
    hbuf others (c := parked first) (k := 100) rfl h.payload (Steady.mono h.steady (by omega))
    (by omega)
  -- the copy
  generalize hlast : (parked first).run (burst late buf others) = c at hsteady hsched hkeys hcid hpn
  have hpop : c.hot.scheduler.popNext (buf.length - 24) late = (some copy,
      (c.hot.scheduler.popNext 76 late).2) := by
    rw [hbuf]
    exact Prod.ext (by rw [hsched]; exact h.popNext) rfl
  obtain ⟨dest, dg, hout, ⟨hd, hseal, hsendable, hcid', hnum⟩, -⟩ := Steady.sendsOne (k := 0) hsuite
    (by decide) hsteady (by rw [hsched]; exact h.idle.fresh) hpop (by rw [h.small.1]; decide)
    (by decide) (by rw [h.small.1]; decide) (by decide) h.small.2
  rw [hkeys] at hseal
  rw [hcid] at hcid'
  have hcopy : Packets (wideSetup true).start.hot.txProtector 7 (2 + others.length)
      [[itemFrame copy]] [dg] := by
    refine .cons ?_ hsendable (hcid'.trans h.connectionId) ?_ .nil
    · rw [← h.keys]
      exact hseal
    · rw [hnum, hpn, hnext]
  rw [h.keys, h.connectionId, hnext, h.nextMessageId] at hothers
  have hhanded : (wideSetup true).start.handedOut (calls first others) =
      (wideSetup true).start.handedOut (burst 1 buf [first]) ++
        ((parked first).handedOut (burst late buf others) ++ [dg]) := by
    have hfinal : c.handedOut [.produce late buf] = [dg] := by
      rw [handedOut, handedOut, hout]
      rfl
    have hmid : (opened first).handedOut [.produce late []] = [] := by
      rw [handedOut, handedOut, hnone]
      rfl
    have hrun : (opened first).run [.produce late []] = parked first := hpark
    rw [calls, handedOut_append, handedOut_append, handedOut_append]
    change _ ++ ((opened first).handedOut _ ++ (((opened first).run _).handedOut _ ++
      (((opened first).run _).run _).handedOut _)) = _
    rw [hmid, hrun, hlast, hfinal, List.nil_append]
  have hcount : ((letterFrames 2 (parked first).hot.nextOrderSeqs others).map ([·])).length =
      others.length := by
    rw [List.length_map, length_letterFrames]
  rw [hhanded, sentFrames, List.append_assoc, List.map_append, List.map_append]
  refine hfirst.append ?_
  rw [List.length_map, length_letterFrames, h.frame]
  exact hothers.append (by rw [hcount]; exact hcopy)

theorem receiver_listens :
    Listening (wideSetup true).start.hot.txProtector 7 1 (wideSetup false).start where
  state := by decide +kernel
  connectionId := rfl
  protector := rfl
  noPrev := rfl
  largest := by decide

/-- **What arrives at the other end** is the message, all others, and the message again. -/
theorem Waits.heard {first : Letter} {copy : SchedulableItem}
    (h : Waits first copy (parked first)) (others : List Letter) (hfew : others.length ≤ 2 ^ 32) :
    (wideSetup false).start.arrivals (received first others) =
        arriving late (sentFrames first others) ∧
      (wideSetup false).start.returned (received first others) =
        (wideSetup false).start.hot.toDeliveryState.handedOver
          (arriving late (sentFrames first others)) := by
  refine (h.packets others hfew).heard_each keyTagSuite_roundTrips (fun f hf => ?_) receiver_listens
    ⟨1, 4433⟩ late
  refine isMessage_of_isReliable ?_
  rcases List.mem_append.mp hf with hf | hf
  · rcases List.mem_append.mp hf with hf | hf <;> exact isReliable_letterFrames _ _ _ _ hf
  · exact isReliable_letterFrames _ _ _ _ hf

/-! ## 3. An unordered message -/

/-- A message that is sent unordered. -/
def note : Letter := (none, 1)

def noteCopy : SchedulableItem := retransmissionItem ⟨1, 0, 1, 0, 0, 1, [1]⟩ late

theorem note_waits : Waits note noteCopy (parked note) where
  steady :=
    { state := by decide +kernel
      controls := by decide +kernel
      ack := by decide +kernel
      window := by decide +kernel
      tokens := fun rate => Nat.le_trans (by decide +kernel)
        (tokens_prepare (c := opened note) (by decide) (by decide +kernel) rate)
      timer := by decide +kernel
      timeout := by decide +kernel
      validated := by decide +kernel
      binding := by decide +kernel
      pending := by decide +kernel }
  idle := ⟨by decide +kernel, by unfold GameScheduler.Fresh; decide +kernel,
    ⟨by decide +kernel, by decide +kernel, by decide +kernel⟩⟩
  popNext := by decide +kernel
  payload := by decide +kernel
  frame := rfl
  small := ⟨rfl, rfl⟩
  keys := by decide +kernel
  connectionId := by decide +kernel
  nextPacketNumber := by decide +kernel
  nextMessageId := by decide +kernel

/-- The ids that a sender gives to `n` messages after the first. -/
theorem nodup_ids {n : Nat} (hn : n ≤ 4096) :
    (((1, [1]) :: ((List.range n).map fun i =>
      ((2 : MessageId) + UInt64.ofNat i, [(0 : UInt8)]))).map Prod.fst).Nodup := by
  have hid : ∀ i < n, ((2 : MessageId) + UInt64.ofNat i).toNat = 2 + i := by
    intro i hi
    have hlt : i < 2 ^ 64 - 2 := by omega
    have hsmall : (UInt64.ofNat i).toNat = i := UInt64.toNat_ofNat_of_lt' (show i < 2 ^ 64 by omega)
    rw [UInt64.toNat_add, hsmall, show (2 : UInt64).toNat = 2 from rfl]
    exact Nat.mod_eq_of_lt (by omega)
  rw [List.map_cons, List.map_map, List.nodup_cons]
  refine ⟨?_, ?_⟩
  · intro hmem
    obtain ⟨i, hi, heq⟩ := List.mem_map.mp hmem
    have hnat := congrArg UInt64.toNat heq
    rw [Function.comp_apply, hid i (List.mem_range.mp hi)] at hnat
    have hone : UInt64.toNat ((1 : MessageId), [(1 : UInt8)]).1 = 1 := rfl
    omega
  · refine List.Nodup.map_on ?_ List.nodup_range
    intro i hi j hj heq
    have hnat := congrArg UInt64.toNat heq
    rw [Function.comp_apply, Function.comp_apply, hid i (List.mem_range.mp hi),
      hid j (List.mem_range.mp hj)] at hnat
    omega

/-- The message, `n` others, and the message again. -/
def entries (n : Nat) : List (MessageId × List UInt8) :=
  (1, [1]) :: ((List.range n).map fun i => (2 + UInt64.ofNat i, [0])) ++ [(1, [1])]

/-- **The log of the receiver** when the others are as many as its index holds. -/
theorem note_log {n : Nat} (hn : n = 4096) :
    (wideSetup false).start.unorderedLog (received note (List.replicate n (none, 0))) = entries n ∧
      ((wideSetup false).start.returned (received note (List.replicate n (none, 0)))).filter
        (·.isUnordered) = (entries n).map fun e => ⟨.reliableUnordered, e.2⟩ := by
  obtain ⟨harr, hret⟩ := note_waits.heard (List.replicate n (none, 0)) (by
    rw [List.length_replicate]
    omega)
  have hframes : sentFrames note (List.replicate n (none, 0)) =
      (entries n).map DeliveryState.wholeFrame := by
    rw [sentFrames, letterFrames_unordered, entries, List.map_append, List.map_cons]
    rfl
  have hlog : (wideSetup false).start.unorderedLog (received note (List.replicate n (none, 0))) =
      entries n := by
    rw [unorderedLog, harr, hframes]
    refine DeliveryState.unorderedLog_again (DeliveredIndex.remembers_new 4096) late _ _
      (nodup_ids (by omega)) ?_
    rw [List.length_map, List.length_range, hn]
    rfl
  refine ⟨hlog, ?_⟩
  rw [hret, DeliveryState.unorderedLog_payloads (wideSetup false).start_consistent, ← harr]
  exact congrArg _ hlog

/-- **Delivered twice**: the sender sends 4097 messages, the receiver gets every datagram once and
in order, and returns the first message again at the end. -/
theorem unordered_twice :
    let ops := received note (List.replicate 4096 (none, 0))
    let log := (wideSetup false).start.unorderedLog ops
    ((wideSetup false).start.returned ops).filter (·.isUnordered) =
        log.map (fun e => ⟨.reliableUnordered, e.2⟩) ∧
      (∃ ys, log = (1, [1]) :: ys ++ [(1, [1])]) ∧ ¬ (log.map Prod.fst).Nodup := by
  intro ops log
  obtain ⟨hlog, hret⟩ := note_log (n := 4096) rfl
  refine ⟨hret.trans (congrArg _ hlog.symm), ⟨_, hlog⟩, ?_⟩
  have hids : ∀ n, ¬ ((entries n).map Prod.fst).Nodup := by
    intro n hnodup
    rw [entries, List.map_append, List.map_cons, List.cons_append, List.nodup_cons] at hnodup
    exact hnodup.1 (List.mem_append_right _ List.mem_cons_self)
  intro hnodup
  rw [show log = _ from hlog] at hnodup
  exact hids 4096 hnodup

end Again

end GtpConnection

end Gtp
