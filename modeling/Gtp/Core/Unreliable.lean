/-
# Unreliable messages leave once

A call that sends and returns `Ok` has taken up one message; `acceptedMessages` lists those of a run
the way the peer is to see them.  An unreliable one waits in a queue until it is dropped there or
leaves with a datagram, and nothing sends it again.  With the channel of `secure_channel` behind it,
the other end returns each unreliable message at most as often as it was sent.

The network drops, repeats and reorders the datagrams that the sender has handed out, and cannot
make one up.  The count is of messages as the wire shows them: a plain unreliable message has no key
and no sequence number there, so two of them with the same payload count as the same message.

* `GameScheduler.states` are the unreliable messages that wait, as a multiset; each operation of the
  scheduler has one inequality about it.
* `step_states` is one call at the sender: what it puts on the wire waited or was accepted.
* `states_fate` is one frame at the receiver: it hands over no unreliable message but its own.
* `states_subperm` is the two together over a session.

Reliable messages are not counted here.  A copy of one that the receiver has forgotten is delivered
again (`unordered_twice`, `ordered_twice`).
-/
import Gtp.Core.Channel
import Gtp.Lib.Buckets

namespace Gtp

open Frame PacketBuilder Buckets

/-! ## 1. Unreliable messages -/

/-- An unreliable message, sequenced or plain. -/
def ReceivedMessage.isState (m : ReceivedMessage) : Bool :=
  match m.class' with
  | .unreliableSequenced .. => true
  | _ => false

def stateOf : Frame → Option ReceivedMessage
  | .data _ key seq gen _ payload => some ⟨.unreliableSequenced key seq gen, payload⟩
  | _ => none

def statesIn (fs : List Frame) : List ReceivedMessage := fs.filterMap stateOf

theorem statesIn_received (fs : List Frame) : (statesIn (received fs)).Sublist (statesIn fs) := by
  induction fs with
  | nil => exact List.Sublist.refl _
  | cons f fs ih =>
    have hrest : ∀ g : Frame, stateOf g = stateOf f →
        (statesIn (g :: received fs)).Sublist (statesIn (f :: fs)) := by
      intro g hg
      rw [statesIn, statesIn, List.filterMap_cons, List.filterMap_cons, hg]
      split
      · exact ih
      · exact ih.cons_cons _
    cases f with
    | mtuProbe id pad => exact List.nil_sublist _
    | _ => exact hrest _ rfl

/-- The unreliable message that an item is. -/
def itemState (item : SchedulableItem) : Option ReceivedMessage :=
  stateOf (GtpConnection.itemFrame item)

theorem itemState_of_isReliable {item : SchedulableItem} (h : item.class'.isReliable = true) :
    itemState item = none := by
  unfold itemState GtpConnection.itemFrame
  cases hclass : item.class' with
  | unreliable => rw [hclass] at h; cases h
  | unreliableSequenced => rw [hclass] at h; cases h
  | reliableUnordered => rfl
  | reliableOrdered => rfl

theorem isReliable_retransmissionItem (r : RetransmissionRecord) (now : MonotonicTime) :
    (GtpConnection.retransmissionItem r now).class'.isReliable = true := by
  unfold GtpConnection.retransmissionItem
  dsimp only
  split <;> rfl

/-- Only the items of a draft make unreliable messages. -/
theorem statesIn_draft {c : GtpConnection} {b : PacketBuilder} {header : PacketHeader}
    {now : MonotonicTime} {d : GtpConnection.Draft} {c2 : GtpConnection}
    (hass : GtpConnection.Assembled c b header now d c2) :
    (statesIn d.frames : Multiset ReceivedMessage) = worth itemState d.popped := by
  have hack : statesIn d.ack.toList = [] := by
    rw [statesIn, List.filterMap_eq_nil_iff]
    intro f hf
    rw [Option.mem_toList, hass.ack] at hf
    obtain ⟨l, dl, r, n, e0, e1, ce, rfl⟩ := GtpConnection.appendAck_isAck hf
    rfl
  have hctrl : statesIn (d.drained.map fun ctrl => ctrl.buildControlFrame) = [] := by
    rw [statesIn, List.filterMap_eq_nil_iff]
    intro f hf
    obtain ⟨ctrl, -, rfl⟩ := List.mem_map.mp hf
    cases ctrl <;> rfl
  have hitems : statesIn (d.popped.map GtpConnection.itemFrame) = d.popped.filterMap itemState :=
    List.filterMap_map
  have hframes : statesIn d.frames = statesIn d.ack.toList ++
      statesIn (d.drained.map fun ctrl => ctrl.buildControlFrame) ++
      statesIn (d.popped.map GtpConnection.itemFrame) := by
    rw [GtpConnection.Draft.frames, statesIn, List.filterMap_append, List.filterMap_append]
    rfl
  rw [hframes, hack, hctrl, hitems]
  rfl

/-! ## 2. In the queues -/

namespace GameScheduler

/-- The unreliable messages that wait. -/
def states (s : GameScheduler) : Multiset ReceivedMessage := gathered itemState s.queues

theorem SameQueues.states {s s' : GameScheduler} (h : SameQueues s s') : s'.states = s.states := by
  rw [GameScheduler.states, GameScheduler.states, h.queues]

theorem states_place {s : GameScheduler} {item : SchedulableItem} {q : List SchedulableItem}
    (h : q.Perm (item :: s.queues item.priority.idx)) :
    (s.place item q).states = s.states + worth itemState [item] := gathered_put itemState h

theorem states_evictSuperseded (s : GameScheduler) (tier : Fin 5) (id : MessageId) :
    (s.evictSuperseded tier id).states ≤ s.states := by
  refine gathered_le itemState fun t => ?_
  rw [evictSuperseded]
  dsimp only
  by_cases ht : t = tier
  · subst ht
    rw [Function.update_self]
    exact List.filter_sublist
  · rw [Function.update_of_ne ht]

theorem states_pruneStale (s : GameScheduler) (now : MonotonicTime) :
    (s.pruneStale now).1.states ≤ s.states :=
  gathered_le itemState fun _ => List.filter_sublist

/-- **An item that comes in** adds its message at most, and nothing when it is refused. -/
theorem states_enqueue (s : GameScheduler) (item : SchedulableItem) (now : MonotonicTime) :
    (s.enqueue item now).2.states ≤ s.states + worth itemState [item] ∧
      ∀ e, (s.enqueue item now).1 = .error e → (s.enqueue item now).2.states = s.states := by
  have hplace : ∀ s' : GameScheduler, s'.states ≤ s.states →
      (s'.place item (s'.queues item.priority.idx ++ [item])).states ≤
        s.states + worth itemState [item] := by
    intro s' hs'
    rw [states_place (List.perm_append_singleton _ _)]
    exact add_le_add hs' le_rfl
  refine ⟨?_, fun e he => by rw [enqueue_error he]⟩
  unfold enqueue
  dsimp only
  split
  · exact le_self_add
  · split
    · split
      · exact le_self_add
      · split
        · exact hplace _ (states_evictSuperseded { s with stateTable := _ } _ _)
        · exact hplace _ le_rfl
    · exact hplace s le_rfl

/-- What is given back without a refusal waits again. -/
theorem states_giveBack (now : MonotonicTime) (items : List SchedulableItem) {s s' : GameScheduler}
    (h : giveBack now items s = (s', 0)) : s'.states = s.states + worth itemState items := by
  induction items generalizing s' with
  | nil =>
    obtain ⟨rfl, -⟩ := Prod.mk.inj h
    exact (add_zero s.states).symm
  | cons item rest ih =>
    rw [giveBack] at h
    rcases hrest : giveBack now rest s with ⟨s1, refused⟩
    rw [hrest] at h
    dsimp only at h
    unfold requeue at h
    cases hadm : s1.checkAdmission item now with
    | error e =>
      rw [hadm] at h
      cases (Prod.mk.inj h).2
    | ok u =>
      rw [hadm] at h
      obtain ⟨rfl, rfl⟩ := Prod.mk.inj h
      rw [states_place (List.Perm.refl _), ih hrest, worth_cons itemState item rest]
      abel

end GameScheduler

namespace GameScheduler

/-- What sending again and pruning keep. -/
structure Resent (P : GameScheduler → Prop) : Prop where
  enqueue : ∀ s r at' now, P s → P (s.enqueue (GtpConnection.retransmissionItem r at') now).2
  pruneStale : ∀ s now, P s → P (s.pruneStale now).1

theorem resent_states (m : Multiset ReceivedMessage) : Resent fun s => s.states ≤ m where
  enqueue s r at' now h := by
    have hle := (s.states_enqueue (GtpConnection.retransmissionItem r at') now).1
    have hnone : worth itemState [GtpConnection.retransmissionItem r at'] = 0 := by
      refine worth_eq_zero itemState fun item hitem => ?_
      rw [List.mem_singleton.mp hitem]
      exact itemState_of_isReliable (isReliable_retransmissionItem r at')
    rw [hnone, add_zero] at hle
    exact hle.trans h
  pruneStale s now h := (s.states_pruneStale now).trans h

end GameScheduler

/-! ## 3. Calls at the sender -/

namespace GtpConnection

section Resent

variable {P : GameScheduler → Prop} (hP : GameScheduler.Resent P)

include hP

theorem retransmitAll_keeps (now : MonotonicTime) (rs : List RetransmissionRecord)
    {c : GtpConnection} (h : P c.hot.scheduler) :
    P (rs.foldl (retransmit now) c).hot.scheduler := by
  induction rs generalizing c with
  | nil => exact h
  | cons r rs ih => exact ih (hP.enqueue _ _ _ _ h)

theorem onAckFrame_keeps {c : GtpConnection} (h : P c.hot.scheduler) (l : PacketNumber)
    (d : UInt32) (r : AckRanges) (n : UInt8) (now : MonotonicTime) :
    P (c.onAckFrame l d r n now).hot.scheduler := by
  unfold onAckFrame
  rcases c.hot.lossDetector.onAckReceived l d r.toList n.toNat now with ⟨ld, ackEv, lossEv, x⟩
  dsimp only
  refine retransmitAll_keeps hP now _ ?_
  split
  · exact h
  · exact h

theorem prepare_keeps {c : GtpConnection} (h : P c.hot.scheduler) (now : MonotonicTime) :
    P (c.prepare now).hot.scheduler := by
  refine hP.pruneStale _ now ?_
  unfold checkPto
  dsimp only
  split
  · exact retransmitAll_keeps hP now _ h
  · exact h

variable [CryptoSuite]

theorem dispatch_keeps (src : SocketAddr) (now : MonotonicTime) {s : Dispatch}
    (h : P s.conn.hot.scheduler) (f : Frame) : P (dispatch src now s f).conn.hot.scheduler := by
  cases f with
  | ack l d r n e0 e1 ce => exact onAckFrame_keeps hP h l d r n now
  | data id key seq gen dl p =>
    simp only [dispatch, countDrop_hot]
    exact h
  | reliableData id fid n g q p =>
    simp only [dispatch, countDrop_hot]
    exact h
  | retx id fid t p =>
    simp only [dispatch, countDrop_hot]
    exact h
  | pathChallenge token =>
    unfold dispatch
    dsimp only
    split
    · exact h
    · exact h
  | pathResponse token =>
    obtain ⟨path, amp, probe, pv, ld, owd, hresp⟩ := s.conn.onPathResponse_spec src token now
    simp only [dispatch, hresp]
    exact h
  | keyUpdate p proof =>
    obtain ⟨keys, n, hframe⟩ := s.conn.hot.onKeyUpdate_frame p
    simp only [dispatch, hframe]
    exact h
  | _ => exact h

theorem handle_keeps {c : GtpConnection} (h : P c.hot.scheduler) (src : SocketAddr)
    (dg : List UInt8) (now : MonotonicTime) (ecn : UInt8) :
    P (c.handleIncomingDatagramWithEcn src dg now ecn).2.hot.scheduler := by
  have hall : ∀ (items : List (Result Frame)) (s : Dispatch), P s.conn.hot.scheduler →
      P (dispatchAll src now s items).conn.hot.scheduler := by
    intro items
    induction items with
    | nil => exact fun s h => h
    | cons item items ih =>
      intro s h
      cases item with
      | error e => exact h
      | ok f => exact ih _ (dispatch_keeps hP src now h f)
  by_cases hopen : ∃ hd pt, c.Opens dg hd pt
  · obtain ⟨hd, pt, hopen⟩ := hopen
    rw [hopen.handle src now ecn]
    obtain ⟨amp, probe, rx, owd, emit, hauth⟩ := onAuthenticated_spec { c with
      cold.totalRxPackets := c.cold.totalRxPackets + 1
      cold.totalRxBytes := c.cold.totalRxBytes + dg.length } hd src dg.length now
    generalize onAuthenticated { c with
      cold.totalRxPackets := c.cold.totalRxPackets + 1
      cold.totalRxBytes := c.cold.totalRxBytes + dg.length } hd src dg.length now = c1 at hauth ⊢
    have hone : P c1.hot.scheduler := by
      rw [hauth]
      exact h
    have hdone := hall (FrameIterator.collect pt) ⟨c1, [], false, none, 0⟩ hone
    unfold receiveFrames
    dsimp only
    split
    · exact hdone
    · exact hdone
  · have hnone : ∀ hd pt, ¬ c.Opens dg hd pt := fun hd pt h => hopen ⟨hd, pt, h⟩
    rw [(handle_unopened hnone src now ecn).1]
    exact h

end Resent

/-- The message of a reliable send, as the peer sees it: group 0 is unordered. -/
def reliableMessage (g : OrderedGroupId) (q : UInt32) (payload : List UInt8) : ReceivedMessage :=
  if g = 0 then ⟨.reliableUnordered, payload⟩ else ⟨.reliableOrdered g q, payload⟩

/-- The message of a call that sends and returns `Ok`, as the wire shows it: a plain unreliable one
has the default key, and one of group 0 is unordered. -/
def acceptedMessage (c : GtpConnection) : Op → Option ReceivedMessage
  | .sendUnreliable payload priority deadline now =>
    match (c.sendUnreliable payload priority deadline now).1 with
    | .ok _ => some ⟨.unreliableSequenced StateKey.default 0 0, payload⟩
    | .error _ => none
  | .sendSequenced stateKey sequence generation deadline payload now =>
    match (c.sendSequenced stateKey sequence generation deadline payload now).1 with
    | .ok _ => some ⟨.unreliableSequenced stateKey sequence generation, payload⟩
    | .error _ => none
  | .sendReliableUnordered payload priority deadline now =>
    match (c.sendReliableUnordered payload priority deadline now).1 with
    | some (.ok _) => some (reliableMessage 0 0 payload)
    | _ => none
  | .sendReliableOrdered groupId payload priority deadline now =>
    match (c.sendReliableOrdered groupId payload priority deadline now).1 with
    | some (.ok _) =>
      some (reliableMessage groupId ((c.hot.nextOrderSeqs[groupId]?).getD 0) payload)
    | _ => none
  | _ => none

/-- The unreliable message of a call that returns `Ok`. -/
def acceptedState (c : GtpConnection) (op : Op) : Multiset ReceivedMessage :=
  ((c.acceptedMessage op).toList.filter ReceivedMessage.isState : List ReceivedMessage)

/-- A single send adds its message, when it returns `Ok`. -/
theorem sendSingle_states (c : GtpConnection) (class' : MessageClass) (payload : List UInt8)
    (priority : PriorityTier) (deadline : Option MonotonicTime) (now : MonotonicTime)
    {m : ReceivedMessage} (hm : ∀ item : SchedulableItem, item.class' = class' →
      item.payload = payload → itemState item = some m) :
    (c.sendSingle class' payload priority deadline now).2.hot.scheduler.states ≤
      c.hot.scheduler.states + (match (c.sendSingle class' payload priority deadline now).1 with
        | .ok _ => {m}
        | .error _ => 0) := by
  unfold sendSingle
  split
  · exact le_self_add
  · dsimp only [enqueueItem]
    generalize hitem : (
      { messageId := c.hot.nextMessageId
        class'
        priority
        createdAt := now
        deadline
        supersedable := true
        payload
        fragmentId := 0
        totalFragments := 1 } : SchedulableItem) = item
    obtain ⟨hle, herr⟩ := c.hot.scheduler.states_enqueue item now
    have hone : worth itemState [item] = {m} := by
      have hstate : itemState item = some m := by
        subst hitem
        exact hm _ rfl rfl
      rw [worth, List.filterMap_cons_some hstate]
      rfl
    rw [hone] at hle
    generalize c.hot.scheduler.enqueue item now = r at hle herr ⊢
    obtain ⟨res, s⟩ := r
    cases res with
    | ok u => exact hle
    | error e => exact (herr e rfl).le.trans le_self_add

theorem enqueueFragments_states (c : GtpConnection) (msgId : MessageId) {class' : MessageClass}
    (hclass : class'.isReliable = true) (payload : List UInt8) (priority : PriorityTier)
    (deadline : Option MonotonicTime) (total : Nat) (now : MonotonicTime) :
    (c.enqueueFragments msgId class' payload priority deadline total now).2.hot.scheduler.states ≤
      c.hot.scheduler.states := by
  have hall : ∀ (items : List SchedulableItem), (∀ item ∈ items, itemState item = none) →
      ∀ c : GtpConnection, (enqueueAll now c items).2.hot.scheduler.states ≤
        c.hot.scheduler.states := by
    intro items
    induction items with
    | nil => exact fun _ c => le_rfl
    | cons item rest ih =>
      intro hitems c
      have hle := (c.hot.scheduler.states_enqueue item now).1
      have hnone : worth itemState [item] = 0 := worth_eq_zero itemState fun x hx =>
        hitems x (List.mem_singleton.mp hx ▸ List.mem_cons_self)
      rw [hnone, add_zero] at hle
      rw [enqueueAll, enqueueItem]
      generalize c.hot.scheduler.enqueue item now = r at hle ⊢
      obtain ⟨res, s⟩ := r
      cases res with
      | error e => exact hle
      | ok u =>
        exact (ih (fun x hx => hitems x (List.mem_cons_of_mem _ hx))
          { c with hot.scheduler := s }).trans hle
  unfold enqueueFragments
  split
  · exact le_rfl
  · refine hall _ ?_ c
    intro item hitem
    obtain ⟨e, -, rfl⟩ := List.mem_map.mp hitem
    exact itemState_of_isReliable hclass

/-- **The draft** takes out of the queues what it carries. -/
theorem assemble_states {c : GtpConnection} (h : c.hot.scheduler.Counted) {now : MonotonicTime}
    (hlive : c.hot.scheduler.Fresh now) {b : PacketBuilder} {header : PacketHeader}
    (hb : b.Carries header []) :
    (c.assemble b now).2.hot.scheduler.states +
        (statesIn (c.assemble b now).1.frames : Multiset ReceivedMessage) =
      c.hot.scheduler.states := by
  obtain ⟨-, hpopped, hsched, -⟩ := c.assemble_planned hb now
  obtain ⟨items, s', s'', hplan, hgive, hsame⟩ := planned_restores h hlive b.remainingCapacity
  rw [hplan] at hpopped hsched
  rw [statesIn_draft (c.assemble_spec hb now), hpopped, hsched, ← hsame.states]
  exact (GameScheduler.states_giveBack now items hgive).symm

variable [CryptoSuite]

/-- The unreliable messages that a call puts on the wire. -/
def sentStates (c : GtpConnection) (op : Op) : Multiset ReceivedMessage :=
  (statesIn ((c.sealedIn op).toList.flatMap Sheet.frames) : List ReceivedMessage)

/-- What a call seals is its draft, which leaves with it. -/
theorem sealedIn_produce {c : GtpConnection} {now : MonotonicTime} {outBuf : List UInt8} {s : Sheet}
    (h : c.sealedIn (.produce now outBuf) = some s) :
    ∃ b len, b.Carries (nextHeader (c.prepare now).hot now) [] ∧
      s.frames = ((c.prepare now).assemble b now).1.frames ∧
      (c.produceOutgoingDatagram now outBuf).conn =
        ((c.prepare now).assemble b now).2.commit ((c.prepare now).assemble b now).1 len now := by
  rw [sealedIn, datagramOf] at h
  split at h
  · rename_i e hout
    split at hout
    · rename_i dest len hsome
      obtain ⟨b, hb, -, d, c2, hdc, -, -, -, hconn⟩ := produce_some hsome
      obtain ⟨hcar, -, -⟩ := new_nextHeader hb
      rw [draft?, hb] at h
      obtain rfl := Option.some.inj h
      refine ⟨b, len, hcar, rfl, ?_⟩
      rw [hconn, hdc]
    · cases hout
  · cases h

/-- **`produce_outgoing_datagram`**: what it puts on the wire waited. -/
theorem produce_states {c : GtpConnection} (hcount : c.hot.scheduler.Counted)
    (now : MonotonicTime) (outBuf : List UInt8) :
    (c.produceOutgoingDatagram now outBuf).conn.hot.scheduler.states +
      c.sentStates (.produce now outBuf) ≤ c.hot.scheduler.states := by
  have hprep : (c.prepare now).hot.scheduler.states ≤ c.hot.scheduler.states :=
    prepare_keeps (GameScheduler.resent_states _) le_rfl now
  have hcount' : (c.prepare now).hot.scheduler.Counted :=
    prepare_scheduler GameScheduler.closed_counted.toStable hcount now
  have hlive : (c.prepare now).hot.scheduler.Fresh now := GameScheduler.fresh_pruneStale _ now
  -- a datagram takes its items with it
  have hcommit : ∀ (b : PacketBuilder) (len : Nat),
      b.Carries (nextHeader (c.prepare now).hot now) [] →
      (((c.prepare now).assemble b now).2.commit ((c.prepare now).assemble b now).1 len
        now).hot.scheduler.states + (statesIn ((c.prepare now).assemble b now).1.frames :
          Multiset ReceivedMessage) ≤ c.hot.scheduler.states := by
    intro b len hb
    obtain ⟨keys, n, pending, controller, path, closed, heq⟩ :=
      ((c.prepare now).assemble b now).2.commit_frame ((c.prepare now).assemble b now).1 len now
    rw [heq]
    exact (assemble_states hcount' hlive hb).le.trans hprep
  cases hs : c.sealedIn (.produce now outBuf) with
  | some s =>
    obtain ⟨b, len, hb, hframes, hconn⟩ := sealedIn_produce hs
    rw [sentStates, hs, Option.toList_some, List.flatMap_singleton, hframes, hconn]
    exact hcommit b len hb
  | none =>
    have hback : ∀ b, PacketBuilder.new outBuf (nextHeader (c.prepare now).hot now) = .ok b →
        (((c.prepare now).assemble b now).2.putBack ((c.prepare now).assemble b now).1
          now).hot.scheduler.states ≤ c.hot.scheduler.states := by
      intro b hb
      obtain ⟨s, hput, hsame⟩ := assemble_putBack hcount' hlive (new_nextHeader hb).1
      rw [hput]
      exact hsame.states.le.trans hprep
    rw [sentStates, hs]
    refine (add_zero _).le.trans ?_
    have hexit := c.produce_exit now outBuf
    generalize c.produceOutgoingDatagram now outBuf = r at hexit ⊢
    cases hexit with
    | closed => exact le_rfl
    | drained => exact le_rfl
    | idle => exact hprep
    | short => exact hprep
    | refused hb => exact hback _ hb
    | limited hb => exact hback _ hb
    | sent hb => exact le_self_add.trans (hcommit _ _ (new_nextHeader hb).1)

/-- **One call**: what it puts on the wire waited or was accepted. -/
theorem step_states {c : GtpConnection} (hcount : c.hot.scheduler.Counted) (op : Op) :
    (c.step op).hot.scheduler.states + c.sentStates op ≤
      c.hot.scheduler.states + c.acceptedState op := by
  have hsame : (c.step op).hot.scheduler.states ≤ c.hot.scheduler.states → c.sentStates op = 0 →
      (c.step op).hot.scheduler.states + c.sentStates op ≤
        c.hot.scheduler.states + c.acceptedState op := by
    intro hle hnone
    rw [hnone, add_zero]
    exact hle.trans le_self_add
  cases op with
  | sendUnreliable payload priority deadline now =>
    have hle := c.sendSingle_states .unreliable payload priority deadline now
      (m := ⟨.unreliableSequenced StateKey.default 0 0, payload⟩) (by
        intro item hclass hpay
        rw [itemState, itemFrame, hclass, hpay]
        rfl)
    refine (add_zero _).le.trans (hle.trans ?_)
    rw [acceptedState, acceptedMessage, sendUnreliable]
    cases (c.sendSingle .unreliable payload priority deadline now).1 <;> exact le_rfl
  | sendSequenced stateKey sequence generation deadline payload now =>
    have hle := c.sendSingle_states (.unreliableSequenced stateKey sequence generation) payload
      .p2WorldState deadline now
      (m := ⟨.unreliableSequenced stateKey sequence generation, payload⟩) (by
        intro item hclass hpay
        rw [itemState, itemFrame, hclass, hpay]
        rfl)
    refine (add_zero _).le.trans (hle.trans ?_)
    rw [acceptedState, acceptedMessage, sendSequenced]
    cases (c.sendSingle (.unreliableSequenced stateKey sequence generation) payload .p2WorldState
      deadline now).1 <;> exact le_rfl
  | sendReliableUnordered payload priority deadline now =>
    refine hsame ?_ rfl
    rw [step, sendReliableUnordered]
    dsimp only
    split
    · exact le_rfl
    · exact enqueueFragments_states _ _ rfl _ _ _ _ _
  | sendReliableOrdered groupId payload priority deadline now =>
    refine hsame ?_ rfl
    rw [step, sendReliableOrdered]
    dsimp only
    split
    · exact le_rfl
    · exact enqueueFragments_states _ _ rfl _ _ _ _ _
  | handleIncoming src dg now ecn =>
    exact hsame (handle_keeps (GameScheduler.resent_states _) le_rfl src dg now ecn) rfl
  | produce now outBuf => exact (produce_states hcount now outBuf).trans le_self_add
  | gracefulClose code reason =>
    obtain ⟨state, hstate⟩ := (c.queueControl (.close code reason)).changeState_frame .draining
    refine hsame ?_ rfl
    rw [step, gracefulClose, hstate]
    exact le_rfl
  | forceClose =>
    obtain ⟨state, hstate⟩ := c.changeState_frame .closed
    refine hsame ?_ rfl
    rw [step, forceClose, hstate]
  | ratchetKey =>
    obtain ⟨keys, n, hframe⟩ := c.hot.ratchetSessionKey_frame
    refine hsame ?_ rfl
    simp only [step, hframe, le_rfl]
  | initiateKeyUpdate =>
    obtain ⟨queue, pending, hframe⟩ := c.hot.ratchetAndAnnounce_frame
    refine hsame ?_ rfl
    simp only [step, initiateKeyUpdate, hframe, le_rfl]
  | feedRouteStats id stats =>
    refine hsame ?_ rfl
    rw [step, feedRouteStats]
    split <;> exact le_rfl
  | _ => exact hsame le_rfl rfl

/-- The messages that a run has taken up, oldest first. -/
def acceptedMessages (c : GtpConnection) : List Op → List ReceivedMessage
  | [] => []
  | op :: ops => (c.acceptedMessage op).toList ++ (c.step op).acceptedMessages ops

/-- **A run** puts no more on the wire than it took up. -/
theorem run_states (ops : List Op) {c : GtpConnection} (hcount : c.hot.scheduler.Counted) :
    (c.run ops).hot.scheduler.states +
        (statesIn ((c.sealedSheets ops).flatMap Sheet.frames) : Multiset ReceivedMessage) ≤
      c.hot.scheduler.states +
        ((c.acceptedMessages ops).filter ReceivedMessage.isState : List ReceivedMessage) := by
  induction ops generalizing c with
  | nil => exact le_rfl
  | cons op ops ih =>
    have hstep := step_states hcount op
    have hrest := ih (step_scheduler GameScheduler.closed_counted hcount op)
    rw [sealedSheets, List.flatMap_append, statesIn, List.filterMap_append, ← Multiset.coe_add,
      acceptedMessages, List.filter_append, ← Multiset.coe_add]
    rw [sentStates, acceptedState] at hstep
    calc _ = (((c.step op).run ops).hot.scheduler.states +
          (statesIn (((c.step op).sealedSheets ops).flatMap Sheet.frames) :
            Multiset ReceivedMessage)) +
          (statesIn ((c.sealedIn op).toList.flatMap Sheet.frames) : Multiset ReceivedMessage) := by
            rw [add_assoc, add_comm (statesIn _ : Multiset ReceivedMessage)]
            rfl
      _ ≤ ((c.step op).hot.scheduler.states +
          (((c.step op).acceptedMessages ops).filter ReceivedMessage.isState :
            List ReceivedMessage)) +
          (statesIn ((c.sealedIn op).toList.flatMap Sheet.frames) : Multiset ReceivedMessage) :=
            add_le_add hrest le_rfl
      _ = ((c.step op).hot.scheduler.states +
          (statesIn ((c.sealedIn op).toList.flatMap Sheet.frames) : Multiset ReceivedMessage)) +
          (((c.step op).acceptedMessages ops).filter ReceivedMessage.isState :
            List ReceivedMessage) := add_right_comm _ _ _
      _ ≤ _ := by
            rw [← add_assoc]
            exact add_le_add hstep le_rfl

end GtpConnection

/-! ## 4. Unreliable messages at the receiver -/

namespace DeliveryState

/-- A frame hands over no unreliable message but its own. -/
theorem states_fate (d : DeliveryState) (a : Arrival) :
    ((d.fate a).messages.filter ReceivedMessage.isState).Sublist (statesIn [a.frame]) := by
  have hreliable : ∀ (d : DeliveryState) id g q payload,
      (d.deliverReliable id g q payload).1.messages.filter ReceivedMessage.isState = [] := by
    intro d id g q payload
    rw [List.filter_eq_nil_iff]
    intro m hm
    unfold deliverReliable at hm
    split at hm
    · unfold deliverUnordered at hm
      split at hm
      · rw [List.mem_singleton.mp hm]
        exact Bool.false_ne_true
      · cases hm
    · unfold deliverOrdered at hm
      dsimp only at hm
      split at hm
      · cases hm
      · split at hm
        · obtain ⟨e, -, rfl⟩ := List.mem_map.mp hm
          exact Bool.false_ne_true
        · cases hm
  obtain ⟨frame, now⟩ := a
  cases frame with
  | data id key seq gen dl payload =>
    have hone : (statesIn [.data id key seq gen dl payload]) =
        [⟨.unreliableSequenced key seq gen, payload⟩] := rfl
    rw [hone]
    simp only [fate, onFrame, onData]
    split
    · exact List.Sublist.refl _
    · split
      · exact List.nil_sublist _
      · exact List.Sublist.refl _
  | reliableData id fid n g q payload =>
    simp only [fate, onFrame, onReliableData]
    split
    · split
      · rw [hreliable]
        exact List.nil_sublist _
      · exact List.nil_sublist _
      · exact List.nil_sublist _
    · rw [hreliable]
      exact List.nil_sublist _
  | retx id fid t payload =>
    have hunordered := hreliable d id 0 0 payload
    rw [deliverReliable, if_pos rfl] at hunordered
    simp only [fate, onFrame, hunordered]
    exact List.nil_sublist _
  | _ => exact List.nil_sublist _

theorem states_handedOver (d : DeliveryState) (as : List Arrival) :
    ((d.handedOver as).filter ReceivedMessage.isState).Sublist
      (statesIn (as.map Arrival.frame)) := by
  induction as generalizing d with
  | nil => exact List.Sublist.refl _
  | cons a as ih =>
    have hsplit : statesIn ((a :: as).map Arrival.frame) =
        statesIn [a.frame] ++ statesIn (as.map Arrival.frame) := List.filterMap_append (l := [a.frame])
    rw [handedOver, List.filter_append, hsplit]
    exact (d.states_fate a).append (ih (d.after a))

end DeliveryState

namespace GtpConnection

variable [CryptoSuite]

/-- The frames that arrive over a run are those of the sheets that it opens. -/
theorem arrivals_sheets (c : GtpConnection) (ops : List Op) :
    (c.arrivals ops).map Arrival.frame = (c.openedSheets ops).flatMap Sheet.frames := by
  induction ops generalizing c with
  | nil => rfl
  | cons op ops ih =>
    have hone : (c.arrivalsOf op).map Arrival.frame =
        (c.openedIn op).toList.flatMap Sheet.frames := by
      cases op with
      | handleIncoming src dg now ecn =>
        rw [arrivalsOf, arriving, List.map_map]
        by_cases hopen : ∃ hd pt, c.Opens dg hd pt
        · obtain ⟨hd, pt, hopen⟩ := hopen
          rw [hopen.openedFrames, hopen.openedIn, Option.toList_some, List.flatMap_singleton]
          exact List.map_id _
        · rw [openedFrames_of_not_opens fun hd pt h => hopen ⟨hd, pt, h⟩,
            openedIn_of_not_opens fun hd pt h => hopen ⟨hd, pt, h⟩]
          rfl
      | _ => rfl
    rw [arrivals, openedSheets, List.map_append, List.flatMap_append, hone, ih]

/-- What a run returns comes out of the sheets that it opens. -/
theorem states_returned (c : GtpConnection) (ops : List Op) :
    ((c.returned ops).filter ReceivedMessage.isState).Sublist
      (statesIn ((c.openedSheets ops).flatMap Sheet.frames)) := by
  rw [← arrivals_sheets]
  exact ((c.returned_isInitial ops).sublist.filter _).trans
    (c.hot.toDeliveryState.states_handedOver (c.arrivals ops))

omit [CryptoSuite] in
theorem statesIn_subperm {xs ys : List Sheet} (h : xs.Subperm (ys.map Sheet.read)) :
    (statesIn (xs.flatMap Sheet.frames)).Subperm (statesIn (ys.flatMap Sheet.frames)) := by
  obtain ⟨zs, hperm, hsub⟩ := h
  have hread : ∀ ys : List Sheet, (statesIn ((ys.map Sheet.read).flatMap Sheet.frames)).Sublist
      (statesIn (ys.flatMap Sheet.frames)) := by
    intro ys
    induction ys with
    | nil => exact List.Sublist.refl _
    | cons y ys ih =>
      rw [List.map_cons, List.flatMap_cons, List.flatMap_cons, statesIn, statesIn,
        List.filterMap_append, List.filterMap_append]
      exact (statesIn_received y.frames).append ih
  have hfirst : (statesIn (xs.flatMap Sheet.frames)).Perm (statesIn (zs.flatMap Sheet.frames)) :=
    (hperm.symm.flatMap_right _).filterMap _
  have hsecond : (statesIn (zs.flatMap Sheet.frames)).Sublist
      (statesIn ((ys.map Sheet.read).flatMap Sheet.frames)) := (hsub.flatMap _).filterMap _
  exact hfirst.subperm.trans (hsecond.trans (hread ys)).subperm

/-- One direction of a session: the datagrams that the end `!x` gets were handed out by the end
`x`. -/
theorem states_subperm (hround : CryptoSuite.RoundTrips) (s : Net.Session) (x : Bool)
    (hsep : Net.PhasesSeparate (s.base x) s.cid) (sends receives : List Op)
    (hsends : sends.length < 2 ^ 64) (hreceives : receives.length < 2 ^ 64)
    (hwire : ∀ src dg now ecn, .handleIncoming src dg now ecn ∈ receives →
      dg ∈ (s.setup x).start.handedOut sends) :
    (((s.setup (!x)).start.returned receives).filter ReceivedMessage.isState).Subperm
      (((s.setup x).start.acceptedMessages sends).filter ReceivedMessage.isState) := by
  have hchannel := opened_subperm_sealed hround s x hsep sends receives hsends hreceives hwire
  have hcounted : (s.setup x).start.hot.scheduler.Counted :=
    Reachable.counted ⟨s.setup x, [], rfl⟩
  have hempty : (s.setup x).start.hot.scheduler.states = 0 := by
    rw [GameScheduler.states, gathered]
    exact Finset.sum_eq_zero fun t _ => rfl
  have hrun := run_states sends hcounted
  rw [hempty, zero_add] at hrun
  have hsent : (statesIn (((s.setup x).start.sealedSheets sends).flatMap Sheet.frames)).Subperm
      (((s.setup x).start.acceptedMessages sends).filter ReceivedMessage.isState) :=
    Multiset.coe_le.mp (le_add_self.trans hrun)
  exact ((states_returned _ receives).subperm.trans (statesIn_subperm hchannel)).trans hsent

/-- **At most once, and only what was sent.** Let one end of a session make any calls, and let the
other end make any calls and get any of the datagrams that the first one hands out, over a network
that drops, repeats and reorders these and makes up none.  Then the unreliable messages that it
returns are, up to order, some of those that were sent with `Ok`: none is made up, and none is
returned more often than it was sent. -/
theorem unreliable_at_most_once (hround : CryptoSuite.RoundTrips) (s : Net.Session) (x : Bool)
    (hsep : Net.PhasesSeparate (s.base x) s.cid) (sends receives : List Op)
    (hsends : sends.length < 2 ^ 64) (hreceives : receives.length < 2 ^ 64)
    (hwire : ∀ src dg now ecn, .handleIncoming src dg now ecn ∈ receives →
      dg ∈ (s.setup x).start.handedOut sends) (m : ReceivedMessage) (hm : m.isState = true) :
    ((s.setup (!x)).start.returned receives).count m ≤
      ((s.setup x).start.acceptedMessages sends).count m := by
  have hsub := (states_subperm hround s x hsep sends receives hsends hreceives hwire).count_le m
  rw [List.count_filter hm, List.count_filter hm] at hsub
  exact hsub

end GtpConnection

/-! ## 5. On a concrete session -/

namespace GtpConnection

attribute [local instance] keyTagSuite

/-- A plain message and a state, each in a datagram of its own. -/
def shotAndMove : List Op :=
  [.sendUnreliable [1] .p1Input none 10, .produce 10 (List.replicate 200 0),
    .sendSequenced ⟨1, 2⟩ 3 4 none [2] 10, .produce 10 (List.replicate 200 0)]

/-- Each datagram arrives twice. -/
def doubled : List Op :=
  (((Net.sampleSession.setup true).start.handedOut shotAndMove).flatMap fun dg => [dg, dg]).map
    (.handleIncoming ⟨1, 4433⟩ · 30 0)

/-- The theorem at a session where every datagram is repeated. -/
theorem unreliable_at_most_once_doubled :
    ((Net.sampleSession.setup false).start.returned doubled).map ReceivedMessage.payload =
        [[1], [2]] ∧
      ((Net.sampleSession.setup false).start.returned doubled).count
          ⟨.unreliableSequenced StateKey.default 0 0, [1]⟩ ≤
        ((Net.sampleSession.setup true).start.acceptedMessages shotAndMove).count
          ⟨.unreliableSequenced StateKey.default 0 0, [1]⟩ := by
  refine ⟨by decide +kernel, unreliable_at_most_once keyTagSuite_roundTrips Net.sampleSession true
    (Net.sampleSession_separates true) shotAndMove doubled (by decide) (by decide +kernel) ?_ _ rfl⟩
  intro src dg now ecn hmem
  obtain ⟨dg', hdg', heq⟩ := List.mem_map.mp hmem
  obtain ⟨rfl, rfl, rfl, rfl⟩ := Op.handleIncoming.inj heq
  obtain ⟨dg'', hdg'', hpair⟩ := List.mem_flatMap.mp hdg'
  have heq' : dg' = dg'' := by simpa using hpair
  exact heq' ▸ hdg''

end GtpConnection

end Gtp
