/-
# A run as a sequence of arriving frames

Only the frames of authenticated datagrams touch the delivery state, one by one, in the order of
their datagrams.  So for everything about delivery a run of the connection is the list of the
frames that arrived, each with the time of its call.

* The delivery state at the end is a fold over that list (`run_delivery`).
* The messages returned over the run are an initial part of what the frames handed over
  (`returned_isInitial`), all of it unless a close frame cut the run off.
* A frame either completes a reliable message, and is then dispatched as that message
  (`onFrame_of_completes`), or touches the reassembler and the freshness table at most
  (`onFrame_of_not_completes`).  Everything about reliable delivery goes by these two cases.

The results that build on this -- order, duplicates, retention, consumption -- are about lists of
arrivals, and the connection appears in them through `arrivals` alone.  Which frames arrive is up to
the peer and the network; nothing here asks that they were ever sent.
-/
import Gtp.Core.Steps

namespace Gtp

/-! ## 1. Arrivals -/

/-- A frame that the dispatch gets to, with the time of the call. -/
structure Arrival where
  frame : Frame
  now : MonotonicTime

def arriving (now : MonotonicTime) (frames : List Frame) : List Arrival :=
  frames.map fun frame => ⟨frame, now⟩

namespace DeliveryState

/-- What becomes of the frame. -/
def fate (d : DeliveryState) (a : Arrival) : Disposition := (d.onFrame a.frame a.now).1

/-- The delivery state afterwards. -/
def after (d : DeliveryState) (a : Arrival) : DeliveryState := (d.onFrame a.frame a.now).2

def handedOver (d : DeliveryState) : List Arrival → List ReceivedMessage
  | [] => []
  | a :: as => (d.fate a).messages ++ (d.after a).handedOver as

theorem handedOver_append (d : DeliveryState) (as bs : List Arrival) :
    d.handedOver (as ++ bs) = d.handedOver as ++ (as.foldl after d).handedOver bs := by
  induction as generalizing d with
  | nil => rfl
  | cons a as ih => rw [List.cons_append, handedOver, handedOver, ih, List.append_assoc]; rfl

theorem onFrames_eq (now : MonotonicTime) (frames : List Frame) (d : DeliveryState) :
    (d.onFrames now frames).2 = (arriving now frames).foldl after d ∧
      deliveredBy (d.onFrames now frames).1 = d.handedOver (arriving now frames) := by
  induction frames generalizing d with
  | nil => exact ⟨rfl, rfl⟩
  | cons frame frames ih =>
    obtain ⟨hstate, hmessages⟩ := ih (d.after ⟨frame, now⟩)
    exact ⟨hstate, congrArg ((d.fate ⟨frame, now⟩).messages ++ ·) hmessages⟩

/-- A reliable message that has all its fragments. -/
structure Whole where
  messageId : MessageId
  groupId : OrderedGroupId
  orderSeq : UInt32
  payload : List UInt8

/-- The reassembler after the frame. -/
def reassembled (d : DeliveryState) (a : Arrival) : MessageReassembler :=
  match a.frame with
  | .reliableData messageId fragmentId totalFragments _ _ payload =>
    if 1 < totalFragments then
      (d.reassembler.push messageId fragmentId totalFragments payload a.now).2
    else d.reassembler
  | _ => d.reassembler

/-- The message that the frame completes. -/
def completes (d : DeliveryState) (a : Arrival) : Option Whole :=
  match a.frame with
  | .reliableData messageId fragmentId totalFragments groupId orderSeq payload =>
    if 1 < totalFragments then
      match (d.reassembler.push messageId fragmentId totalFragments payload a.now).1 with
      | .delivered full => some ⟨messageId, groupId, orderSeq, full⟩
      | _ => none
    else some ⟨messageId, groupId, orderSeq, payload⟩
  | .retx messageId _ _ payload => some ⟨messageId, 0, 0, payload⟩
  | _ => none

theorem completes_eq_some {d : DeliveryState} {a : Arrival} {w : Whole}
    (h : d.completes a = some w) :
    (∃ fid n p, a.frame = .reliableData w.messageId fid n w.groupId w.orderSeq p ∧
      ((1 < n ∧ (d.reassembler.push w.messageId fid n p a.now).1 = .delivered w.payload) ∨
        (¬ 1 < n ∧ w.payload = p))) ∨
    (∃ fid t, a.frame = .retx w.messageId fid t w.payload ∧ w.groupId = 0) := by
  obtain ⟨frame, now⟩ := a
  cases frame with
  | reliableData id fid n g q p =>
    simp only [completes] at h
    split at h
    · rename_i hn
      split at h
      · rename_i full hfull
        obtain rfl := Option.some.inj h
        exact Or.inl ⟨fid, n, p, rfl, Or.inl ⟨hn, hfull⟩⟩
      · cases h
    · rename_i hn
      obtain rfl := Option.some.inj h
      exact Or.inl ⟨fid, n, p, rfl, Or.inr ⟨hn, rfl⟩⟩
  | retx id fid t p =>
    obtain rfl := Option.some.inj h
    exact Or.inr ⟨fid, t, rfl, rfl⟩
  | _ => cases h

/-- The delivery state once the frame has been through the reassembler. -/
def collected (d : DeliveryState) (a : Arrival) : DeliveryState :=
  { d with reassembler := d.reassembled a }

/-- The dispatch of a message that is complete. -/
def deliverWhole (d : DeliveryState) (w : Whole) : Disposition × DeliveryState :=
  d.deliverReliable w.messageId w.groupId w.orderSeq w.payload

/-- **A frame that completes a message** is dispatched as that message. -/
theorem onFrame_of_completes {d : DeliveryState} {a : Arrival} {w : Whole}
    (h : d.completes a = some w) : d.onFrame a.frame a.now = (d.collected a).deliverWhole w := by
  obtain ⟨frame, now⟩ := a
  cases frame with
  | reliableData id fid n g q p =>
    simp only [completes] at h
    simp only [collected, reassembled, onFrame, onReliableData, deliverWhole]
    split at h
    · rename_i hn
      rw [if_pos hn, if_pos hn]
      split at h
      · rename_i full hfull
        obtain rfl := Option.some.inj h
        rw [hfull]
      · cases h
    · rename_i hn
      obtain rfl := Option.some.inj h
      rw [if_neg hn, if_neg hn]
  | retx id fid t p =>
    obtain rfl := Option.some.inj h
    rw [deliverWhole, deliverReliable, if_pos rfl]
    rfl
  | _ => cases h

/-- **Any other frame** touches the reassembler and the freshness table at most, and hands over
sequenced state at most. -/
theorem onFrame_of_not_completes {d : DeliveryState} {a : Arrival} (h : d.completes a = none) :
    (∃ table, d.after a = { d.collected a with rxStateTable := table }) ∧
      ∀ m ∈ (d.fate a).messages, ∃ key seq gen, m.class' = .unreliableSequenced key seq gen := by
  obtain ⟨frame, now⟩ := a
  cases frame with
  | reliableData id fid n g q p =>
    simp only [completes] at h
    simp only [fate, after, collected, reassembled, onFrame, onReliableData]
    split at h
    · rename_i hn
      rw [if_pos hn, if_pos hn]
      split at h
      · cases h
      · rename_i hout
        cases hpush : (d.reassembler.push id fid n p now).1 with
        | delivered full => exact absurd hpush (hout full)
        | stored => exact ⟨⟨d.rxStateTable, rfl⟩, fun m hm => by cases hm⟩
        | dropped => exact ⟨⟨d.rxStateTable, rfl⟩, fun m hm => by cases hm⟩
    · cases h
  | data id key seq gen dl p =>
    simp only [fate, after, collected, reassembled, onFrame, onData]
    split
    · exact ⟨⟨d.rxStateTable, rfl⟩, fun m hm => ⟨key, seq, gen, by rw [List.mem_singleton.mp hm]⟩⟩
    · split
      · exact ⟨⟨d.rxStateTable, rfl⟩, fun m hm => by cases hm⟩
      · exact ⟨⟨_, rfl⟩, fun m hm => ⟨key, seq, gen, by rw [List.mem_singleton.mp hm]⟩⟩
  | retx id fid t p => cases h
  | _ => exact ⟨⟨d.rxStateTable, rfl⟩, fun m hm => by cases hm⟩

end DeliveryState

/-! ## 2. Runs -/

namespace GtpConnection

variable [CryptoSuite]

/-- The frames of the datagram that the dispatch gets to; none when it does not open. -/
def openedFrames (c : GtpConnection) (datagram : List UInt8) : List Frame :=
  if c.hot.state = .closed then []
  else
    match c.hot.admitHeader datagram with
    | .error _ => []
    | .ok (header, headerConsumed) =>
      match c.hot.openDatagram header (datagram.take headerConsumed)
          (datagram.drop headerConsumed) with
      | .error _ => []
      | .ok payload => readable (FrameIterator.collect payload)

/-- The frames that arrive with a call. -/
def arrivalsOf (c : GtpConnection) : Op → List Arrival
  | .handleIncoming _ datagram now _ => arriving now (c.openedFrames datagram)
  | _ => []

/-- The frames that arrive over a run. -/
def arrivals (c : GtpConnection) : List Op → List Arrival
  | [] => []
  | op :: ops => c.arrivalsOf op ++ (c.step op).arrivals ops

/-- The messages that the calls of a run return. -/
def returned (c : GtpConnection) : List Op → List ReceivedMessage
  | [] => []
  | op :: ops => c.messagesOf op ++ (c.step op).returned ops

theorem Opens.openedFrames {c : GtpConnection} {dg : List UInt8} {hd : PacketHeader}
    {pt : List UInt8} (h : c.Opens dg hd pt) :
    c.openedFrames dg = readable (FrameIterator.collect pt) := by
  obtain ⟨hopen, n, hadm, hpt⟩ := h
  unfold GtpConnection.openedFrames
  rw [if_neg hopen, hadm]
  dsimp only
  rw [hpt]

theorem openedFrames_of_not_opens {c : GtpConnection} {dg : List UInt8}
    (h : ∀ hd pt, ¬ c.Opens dg hd pt) : c.openedFrames dg = [] := by
  unfold openedFrames
  split
  · rfl
  · rename_i hopen
    split
    · rfl
    · rename_i hd n hadm
      split
      · rfl
      · rename_i pt hpt
        exact absurd ⟨hopen, n, hadm, hpt⟩ (h hd pt)

/-- **One call** changes the delivery state by the frames that arrive with it. -/
theorem step_delivery (c : GtpConnection) (op : Op) :
    (c.step op).hot.toDeliveryState =
      (c.arrivalsOf op).foldl DeliveryState.after c.hot.toDeliveryState := by
  have hmoves := c.step_moves op
  generalize c.step op = c' at hmoves
  cases hmoves with
  | quiet ctrls hquiet hctrls hlink hdel hwin =>
    cases op with
    | handleIncoming => cases hquiet
    | _ => exact hdel
  | ignored hopen hhot =>
    rw [hhot, arrivalsOf, openedFrames_of_not_opens hopen]
    rfl
  | received hopen hrec =>
    rw [hrec.delivery, arrivalsOf, hopen.openedFrames]
    exact (DeliveryState.onFrames_eq _ _ _).1
  | silent hnone hlink hdel hwin => exact hdel
  | transmitted hsome htrans => exact htrans.delivery
  | ratcheted hlink hdel hwin => exact hdel
  | announced hlink hdel hwin => exact hdel

/-- **A run** changes it by the frames that arrive over the run. -/
theorem run_delivery (c : GtpConnection) (ops : List Op) :
    (c.run ops).hot.toDeliveryState =
      (c.arrivals ops).foldl DeliveryState.after c.hot.toDeliveryState := by
  induction ops generalizing c with
  | nil => rfl
  | cons op ops ih =>
    rw [arrivals, List.foldl_append, ← step_delivery]
    exact ih (c.step op)

/-- What the call returns: everything that its frames hand over, or nothing when a close frame is
among them. -/
theorem messagesOf_handleIncoming (c : GtpConnection) (src : SocketAddr) (dg : List UInt8)
    (now : MonotonicTime) (ecn : UInt8) :
    c.messagesOf (.handleIncoming src dg now ecn) =
      if (c.openedFrames dg).any isClose then []
      else c.hot.toDeliveryState.handedOver (arriving now (c.openedFrames dg)) := by
  by_cases hopen : ∃ hd pt, c.Opens dg hd pt
  · obtain ⟨hd, pt, hop⟩ := hopen
    rw [(handle_opened hop src now ecn).2, hop.openedFrames, (DeliveryState.onFrames_eq _ _ _).2]
  · have hnone : ∀ hd pt, ¬ c.Opens dg hd pt := fun hd pt h => hopen ⟨hd, pt, h⟩
    rw [(handle_unopened hnone src now ecn).2, openedFrames_of_not_opens hnone]
    rfl

/-- A call returns what its frames hand over, or nothing when a close frame is among them. -/
theorem messagesOf_eq (c : GtpConnection) (op : Op) :
    c.messagesOf op = c.hot.toDeliveryState.handedOver (c.arrivalsOf op) ∨
      (c.messagesOf op = [] ∧ (c.step op).hot.state = .closed) := by
  cases op with
  | handleIncoming src dg now ecn =>
    by_cases hopen : ∃ hd pt, c.Opens dg hd pt
    · obtain ⟨hd, pt, hopen⟩ := hopen
      obtain ⟨hrec, hmsgs⟩ := handle_opened hopen src now ecn
      rw [hmsgs, arrivalsOf, hopen.openedFrames]
      cases hclose : (readable (FrameIterator.collect pt)).any isClose with
      | true => exact Or.inr ⟨rfl, hrec.closes hclose⟩
      | false => exact Or.inl (DeliveryState.onFrames_eq _ _ _).2
    · have hnone : ∀ hd pt, ¬ c.Opens dg hd pt := fun hd pt h => hopen ⟨hd, pt, h⟩
      left
      rw [(handle_unopened hnone src now ecn).2, arrivalsOf, openedFrames_of_not_opens hnone]
      rfl
  | _ => exact Or.inl rfl

/-! ## 3. Closed connections -/

theorem step_closed {c : GtpConnection} (h : c.hot.state = .closed) (op : Op) :
    (c.step op).hot.state = .closed := by
  cases op with
  | sendUnreliable payload priority deadline now =>
    obtain ⟨s, id, hs⟩ := c.sendSingle_frame .unreliable payload priority deadline now
    rw [step, sendUnreliable, hs]
    exact h
  | sendSequenced key seq gen deadline payload now =>
    obtain ⟨s, id, hs⟩ := c.sendSingle_frame (.unreliableSequenced key seq gen) payload
      .p2WorldState deadline now
    rw [step, sendSequenced, hs]
    exact h
  | sendReliableUnordered payload priority deadline now =>
    obtain ⟨s, id, hs⟩ := c.sendReliableUnordered_frame payload priority deadline now
    rw [step, hs]
    exact h
  | sendReliableOrdered g payload priority deadline now =>
    obtain ⟨s, id, seqs, hs⟩ := c.sendReliableOrdered_frame g payload priority deadline now
    rw [step, hs]
    exact h
  | handleIncoming src dg now ecn =>
    rw [step, handleIncomingDatagramWithEcn, if_pos h]
    exact h
  | produce now outBuf =>
    rw [step, produceOutgoingDatagram, if_pos h]
    exact h
  | gracefulClose code reason =>
    have hrefused : c.hot.state.transitionTo .draining = .error
        (.protocolViolation "Illegal state transition") := by
      rw [h]
      rfl
    simp only [step, gracefulClose, changeState, queueControl, hrefused]
    exact h
  | forceClose =>
    have hrefused : c.hot.state.transitionTo .closed = .error
        (.protocolViolation "Illegal state transition") := by
      rw [h]
      rfl
    simp only [step, forceClose, changeState, hrefused]
    exact h
  | ratchetKey =>
    obtain ⟨keys, n, hframe⟩ := c.hot.ratchetSessionKey_frame
    rw [step, hframe]
    exact h
  | initiateKeyUpdate =>
    obtain ⟨queue, pending, hframe⟩ := c.hot.ratchetAndAnnounce_frame
    simp only [step, initiateKeyUpdate, hframe]
    exact h
  | feedRouteStats id stats =>
    rw [step, feedRouteStats]
    split <;> exact h
  | _ => exact h

theorem returned_closed {c : GtpConnection} (h : c.hot.state = .closed) (ops : List Op) :
    c.returned ops = [] := by
  induction ops generalizing c with
  | nil => rfl
  | cons op ops ih =>
    have hnone : c.messagesOf op = [] := by
      cases op with
      | handleIncoming src dg now ecn =>
        exact (handle_unopened (fun hd pt hopen => hopen.1 h) src now ecn).2
      | _ => rfl
    rw [returned, hnone, ih (step_closed h op)]
    rfl

/-- **What a run returns** is an initial part of what its frames hand over. -/
theorem returned_isInitial (c : GtpConnection) (ops : List Op) :
    c.returned ops <+: c.hot.toDeliveryState.handedOver (c.arrivals ops) := by
  induction ops generalizing c with
  | nil => exact List.nil_prefix
  | cons op ops ih =>
    rw [returned, arrivals, DeliveryState.handedOver_append, ← step_delivery]
    rcases c.messagesOf_eq op with heq | ⟨hnil, hclosed⟩
    · rw [heq]
      exact List.prefix_append_right_inj _ |>.mpr (ih (c.step op))
    · rw [hnil, returned_closed hclosed]
      exact List.nil_prefix

end GtpConnection

end Gtp
