/-
# What a sender has posted

A reliable message is taken up once, under an id and, on a group, an order sequence number of its
own, and from then on it exists as pieces: queued in the scheduler, recorded with a datagram in
flight, queued again as copies.  `Posting` is the message as it was taken up, with the number of
pieces that the scheduler accepted.  The log of a run lists its postings, and `Accounted` says that
everything that waits is a piece of one of them, and how they are numbered.  So every reliable frame
that the sender puts into a datagram is a piece of a posting (`handedOut_genuine`).

* `Traced` is about what waits, and `Resends` what a call other than a send may do to it: drop it,
  and queue a copy of what is recorded.
* `enqueueFragments_posting` is the fragment loop, which is where a posting is made.
* `Accounted.step` is one call: it posts one message, or none.
* `sentOn_eq` reads the log as the application does: what it sent on a group with `Ok` are the
  postings of the group that were accepted in full.

A message that the scheduler accepted in part is a posting too.  The call returned an error, but its
pieces leave, and the receiver collects them in vain.
-/
import Gtp.Core.Ledger
import Gtp.Core.Burst
import Gtp.Core.Peers

namespace Gtp

open Frame PacketBuilder

/-! ## 1. Postings -/

/-- A reliable message that a call has taken up: its pieces, and how many of them the scheduler
accepted. -/
structure Posting where
  messageId : MessageId
  groupId : OrderedGroupId
  orderSeq : UInt32
  pieces : List (List UInt8)
  taken : Nat

namespace Posting

def total (p : Posting) : UInt16 := UInt16.ofNat p.pieces.length

/-- Every piece was accepted. -/
def complete (p : Posting) : Bool := decide (p.taken = p.pieces.length)

/-- The message, if all of it was accepted. -/
def whole (p : Posting) : Option (List UInt8) :=
  if p.complete then some p.pieces.flatten else none

/-- The piece `k` is one that was accepted. -/
def Offers (p : Posting) (k : Nat) (piece : List UInt8) : Prop :=
  k < p.taken ∧ p.pieces[k]? = some piece

/-- The number of pieces fits the frame. -/
structure WellFormed (p : Posting) : Prop where
  pieces : p.pieces.length ≤ 65535
  taken : p.taken ≤ p.pieces.length

end Posting

/-- The postings of a group. -/
def onGroup (log : List Posting) (g : OrderedGroupId) : List Posting :=
  log.filter fun p => p.groupId = g

theorem onGroup_append (log log' : List Posting) (g : OrderedGroupId) :
    onGroup (log ++ log') g = onGroup log g ++ onGroup log' g := List.filter_append ..

theorem onGroup_singleton (p : Posting) (g : OrderedGroupId) :
    onGroup [p] g = if p.groupId = g then [p] else [] := by
  rw [onGroup, List.filter_singleton]
  by_cases hg : p.groupId = g <;> simp [hg]

/-- A frame of a posting.  A message of group 0 is unordered, and its copies carry no number. -/
def Posted (log : List Posting) (id : MessageId) (fid : FragmentId) (n : UInt16)
    (g : OrderedGroupId) (q : UInt32) (piece : List UInt8) : Prop :=
  ∃ p ∈ log, p.messageId = id ∧ n = p.total ∧ g = p.groupId ∧ (g ≠ 0 → q = p.orderSeq) ∧
    p.Offers fid.toNat piece

/-- The frame is of a posting, if it is a reliable one. -/
def Genuine (log : List Posting) (f : Frame) : Prop :=
  ∀ id fid n g q piece, f = .reliableData id fid n g q piece → Posted log id fid n g q piece

theorem Posted.mono {log log' : List Posting} {id : MessageId} {fid : FragmentId} {n : UInt16}
    {g : OrderedGroupId} {q : UInt32} {piece : List UInt8} (h : Posted log id fid n g q piece)
    (hsub : log ⊆ log') : Posted log' id fid n g q piece := by
  obtain ⟨p, hp, hrest⟩ := h
  exact ⟨p, hsub hp, hrest⟩

theorem Genuine.mono {log log' : List Posting} {f : Frame} (h : Genuine log f) (hsub : log ⊆ log') :
    Genuine log' f := fun id fid n g q piece hf => (h id fid n g q piece hf).mono hsub

namespace GtpConnection

variable [CryptoSuite]

/-! ## 2. What waits to be sent -/

def RecordPosted (log : List Posting) (r : RetransmissionRecord) : Prop :=
  Posted log r.messageId r.fragmentId r.totalFragments r.groupId r.orderSeq r.payload

/-- Everything that waits, in the queues or for an acknowledgement, is of a posting. -/
structure Traced (log : List Posting) (c : GtpConnection) : Prop where
  items : ∀ x, c.hot.scheduler.Has x → Genuine log (itemFrame x)
  records : ∀ r, c.hot.lossDetector.Holds r → RecordPosted log r

omit [CryptoSuite] in
theorem RecordPosted.copy {log : List Posting} {r : RetransmissionRecord} (h : RecordPosted log r)
    (now : MonotonicTime) : Genuine log (itemFrame (retransmissionItem r now)) := by
  intro id fid n g q piece hframe
  obtain ⟨p, hp, hid, hn, hg, hq, hoffers⟩ := h
  unfold itemFrame retransmissionItem at hframe
  dsimp only at hframe
  by_cases hzero : r.groupId = 0
  · rw [if_pos hzero] at hframe
    obtain ⟨rfl, rfl, rfl, rfl, rfl, rfl⟩ := Frame.reliableData.inj hframe
    exact ⟨p, hp, hid, hn, by rw [← hg, hzero], fun hne => absurd rfl hne, hoffers⟩
  · rw [if_neg hzero] at hframe
    obtain ⟨rfl, rfl, rfl, rfl, rfl, rfl⟩ := Frame.reliableData.inj hframe
    exact ⟨p, hp, hid, hn, hg, hq, hoffers⟩

omit [CryptoSuite] in
theorem recordPosted {log : List Posting} {x : SchedulableItem} (h : Genuine log (itemFrame x))
    {r : RetransmissionRecord} (hr : retransmissionRecord x = some r) : RecordPosted log r := by
  unfold retransmissionRecord at hr
  unfold itemFrame at h
  dsimp only at hr
  split at hr
  · rename_i hclass
    obtain rfl := Option.some.inj hr
    rw [hclass] at h
    exact h _ _ _ _ _ _ rfl
  · rename_i g q hclass
    obtain rfl := Option.some.inj hr
    rw [hclass] at h
    exact h _ _ _ _ _ _ rfl
  · cases hr

omit [CryptoSuite] in
/-- What a call other than a send may do to what waits: drop it, and queue a copy of what is
recorded. -/
structure Resends (now : MonotonicTime) (c c' : GtpConnection) : Prop where
  items : ∀ x, c'.hot.scheduler.Has x → c.hot.scheduler.Has x ∨
    ∃ r, c.hot.lossDetector.Holds r ∧ x = retransmissionItem r now
  records : ∀ r, c'.hot.lossDetector.Holds r → c.hot.lossDetector.Holds r
  nextMessageId : c'.hot.nextMessageId = c.hot.nextMessageId
  nextOrderSeqs : c'.hot.nextOrderSeqs = c.hot.nextOrderSeqs

omit [CryptoSuite] in
theorem Resends.of_same {now : MonotonicTime} {c c' : GtpConnection}
    (hs : c'.hot.scheduler = c.hot.scheduler) (hl : c'.hot.lossDetector = c.hot.lossDetector)
    (hid : c'.hot.nextMessageId = c.hot.nextMessageId)
    (hseq : c'.hot.nextOrderSeqs = c.hot.nextOrderSeqs) : Resends now c c' :=
  ⟨fun _ hx => Or.inl (hs ▸ hx), fun _ hr => hl ▸ hr, hid, hseq⟩

omit [CryptoSuite] in
theorem Resends.trans {now : MonotonicTime} {c c' c'' : GtpConnection} (h : Resends now c c')
    (h' : Resends now c' c'') : Resends now c c'' := by
  refine ⟨fun x hx => ?_, fun r hr => h.records r (h'.records r hr),
    h'.nextMessageId.trans h.nextMessageId, h'.nextOrderSeqs.trans h.nextOrderSeqs⟩
  rcases h'.items x hx with hx | ⟨r, hr, rfl⟩
  · exact h.items x hx
  · exact Or.inr ⟨r, h.records r hr, rfl⟩

omit [CryptoSuite] in
theorem Resends.traced {now : MonotonicTime} {c c' : GtpConnection} (h : Resends now c c')
    {log : List Posting} (ht : Traced log c) : Traced log c' := by
  refine ⟨fun x hx => ?_, fun r hr => ht.records r (h.records r hr)⟩
  rcases h.items x hx with hx | ⟨r, hr, rfl⟩
  · exact ht.items x hx
  · exact (ht.records r hr).copy now

omit [CryptoSuite] in
theorem onAckFrame_resends (c : GtpConnection) (l : PacketNumber) (d : UInt32) (r : AckRanges)
    (n : UInt8) (now : MonotonicTime) : Resends now c (c.onAckFrame l d r n now) := by
  have hspec := c.hot.lossDetector.onAckReceived_spec l d r.toList n.toNat now
  dsimp only at hspec
  unfold onAckFrame
  generalize c.hot.lossDetector.onAckReceived l d r.toList n.toNat now = out at hspec ⊢
  obtain ⟨ld, ackEv, lossEv, rate⟩ := out
  obtain ⟨hshrink, -, -, hlost⟩ := hspec
  dsimp only at hshrink hlost ⊢
  generalize hc1 : (if lossEv.lostPackets.isEmpty = true then _ else _ : GtpConnection) = c1
  have hone : c1.hot.scheduler = c.hot.scheduler ∧ c1.hot.lossDetector = ld ∧
      c1.hot.nextMessageId = c.hot.nextMessageId ∧ c1.hot.nextOrderSeqs = c.hot.nextOrderSeqs := by
    rw [← hc1]
    split <;> exact ⟨rfl, rfl, rfl, rfl⟩
  obtain ⟨s, cold, ev, hall, hs⟩ := retransmitAll_spec now lossEv.retransmittable c1
  rw [hall]
  refine ⟨fun x hx => ?_, fun rec hrec => ?_, hone.2.2.1, hone.2.2.2⟩
  · rcases hs x hx with hx | ⟨rec, hrec, rfl⟩
    · exact Or.inl (hone.1 ▸ hx)
    · exact Or.inr ⟨rec, hlost rec hrec, rfl⟩
  · dsimp only at hrec
    rw [hone.2.1] at hrec
    exact hshrink.holds hrec

theorem dispatch_resends (src : SocketAddr) (now : MonotonicTime) (s : Dispatch) (f : Frame) :
    Resends now s.conn (dispatch src now s f).conn := by
  have hdel : ∀ disposition delivery, Resends now s.conn
      ({ s.conn with hot.toDeliveryState := delivery }.countDrop disposition) := by
    intro disposition delivery
    have hhot := countDrop_hot { s.conn with hot.toDeliveryState := delivery } disposition
    exact .of_same (by rw [hhot]) (by rw [hhot]) (by rw [hhot]) (by rw [hhot])
  unfold dispatch
  dsimp only
  cases f with
  | ack l d r n e0 e1 ce => exact onAckFrame_resends _ _ _ _ _ _
  | data id key seq gen dl p => exact hdel _ _
  | reliableData id fid n g q p => exact hdel _ _
  | retx id fid t p => exact hdel _ _
  | pathChallenge data =>
    dsimp only
    split <;> exact .of_same rfl rfl rfl rfl
  | pathResponse data =>
    dsimp only [onPathResponse]
    rcases s.conn.hot.pathValidator.validateResponse src data now with ⟨valid, pv⟩
    dsimp only
    split
    · exact ⟨fun _ hx => Or.inl hx, fun _ hr => hr, rfl, rfl⟩
    · exact .of_same rfl rfl rfl rfl
  | keyUpdate phase proof =>
    obtain ⟨keys, n, hkey⟩ := s.conn.hot.onKeyUpdate_frame phase
    dsimp only
    rw [hkey]
    exact .of_same rfl rfl rfl rfl
  | ackFrequency n ms t => exact .of_same rfl rfl rfl rfl
  | close code reason => exact .of_same rfl rfl rfl rfl
  | _ => exact .of_same rfl rfl rfl rfl

theorem dispatchAll_resends (src : SocketAddr) (now : MonotonicTime) (items : List (Result Frame))
    (s : Dispatch) : Resends now s.conn (dispatchAll src now s items).conn := by
  induction items generalizing s with
  | nil => exact .of_same rfl rfl rfl rfl
  | cons item rest ih =>
    cases item with
    | error e => exact .of_same rfl rfl rfl rfl
    | ok f => exact (dispatch_resends src now s f).trans (ih (dispatch src now s f))

/-- **An incoming datagram**, whatever it is. -/
theorem handle_resends (c : GtpConnection) (src : SocketAddr) (dg : List UInt8)
    (now : MonotonicTime) (ecn : UInt8) :
    Resends now c (c.handleIncomingDatagramWithEcn src dg now ecn).2 := by
  by_cases hopen : ∃ hd pt, c.Opens dg hd pt
  · obtain ⟨hd, pt, hopen⟩ := hopen
    rw [hopen.handle src now ecn]
    obtain ⟨amp, probe, rx, owd, emit, hauth⟩ := onAuthenticated_spec { c with
      cold.totalRxPackets := c.cold.totalRxPackets + 1
      cold.totalRxBytes := c.cold.totalRxBytes + dg.length } hd src dg.length now
    generalize onAuthenticated { c with
      cold.totalRxPackets := c.cold.totalRxPackets + 1
      cold.totalRxBytes := c.cold.totalRxBytes + dg.length } hd src dg.length now = c1 at hauth ⊢
    have hone : Resends now c c1 := by
      exact .of_same (by rw [hauth]) (by rw [hauth]) (by rw [hauth]) (by rw [hauth])
    have hall := dispatchAll_resends src now (FrameIterator.collect pt) ⟨c1, [], false, none, 0⟩
    unfold receiveFrames
    generalize dispatchAll src now ⟨c1, [], false, none, 0⟩ (FrameIterator.collect pt) = s
      at hall ⊢
    refine (hone.trans hall).trans ?_
    dsimp only
    split <;> exact .of_same rfl rfl rfl rfl
  · have hhot := (handle_unopened (fun hd pt h => hopen ⟨hd, pt, h⟩) src now ecn).1
    exact .of_same (by rw [hhot]) (by rw [hhot]) (by rw [hhot]) (by rw [hhot])

omit [CryptoSuite] in
theorem prepare_resends (c : GtpConnection) (now : MonotonicTime) :
    Resends now c (c.prepare now) := by
  obtain ⟨ld, cc, s, pv, pac, cold, ev, hprep, hshrink, -, hs⟩ := c.prepare_spec now
  rw [hprep]
  exact ⟨hs, fun r hr => hshrink.holds hr, rfl, rfl⟩

/-- **A call that hands out a datagram**: its items waited, and are recorded. -/
theorem produce_traced {log : List Posting} {c : GtpConnection} (h : Traced log c)
    (now : MonotonicTime) (outBuf : List UInt8) :
    Traced log (c.produceOutgoingDatagram now outBuf).conn ∧
      (c.produceOutgoingDatagram now outBuf).conn.hot.nextMessageId = c.hot.nextMessageId ∧
      (c.produceOutgoingDatagram now outBuf).conn.hot.nextOrderSeqs = c.hot.nextOrderSeqs := by
  by_cases hsome : ∃ dest len,
      (c.produceOutgoingDatagram now outBuf).result = .ok (some (dest, len))
  · obtain ⟨dest, len, hsome⟩ := hsome
    obtain ⟨b, hb, -, d, c2, hdc, -, -, -, hconn⟩ := produce_some hsome
    obtain ⟨hcar, -, -⟩ := new_nextHeader hb
    have hass := (c.prepare now).assemble_spec hcar now
    rw [hdc] at hass
    dsimp only at hass
    have hprep := c.prepare_resends now
    have hprepared := hprep.traced h
    obtain ⟨keys, n, pending, controller, path, closed, hcommit⟩ := commit_frame c2 d len now
    rw [hconn]
    refine ⟨⟨fun x hx => ?_, fun r hr => ?_⟩, ?_, ?_⟩
    · rw [hcommit] at hx
      exact hprepared.items x (hass.has x hx)
    · rw [hcommit] at hr
      rcases LossDetector.holds_onPacketSent hr with hr | hr
      · rw [hass.conn] at hr
        exact hprepared.records r hr
      · obtain ⟨x, hx, hrec⟩ := List.mem_filterMap.mp hr
        exact recordPosted (hprepared.items x (hass.popped x hx)) hrec
    · rw [hcommit, hass.conn]
      exact hprep.nextMessageId
    · rw [hcommit, hass.conn]
      exact hprep.nextOrderSeqs
  · have hnone : ∀ dest len, (c.produceOutgoingDatagram now outBuf).result ≠
        .ok (some (dest, len)) := fun dest len heq => hsome ⟨dest, len, heq⟩
    obtain ⟨st, ld, cc, s, pv, pac, cold, ev, hconn, hshrink, hs⟩ := produce_none hnone
    have hres : Resends now c (c.produceOutgoingDatagram now outBuf).conn := by
      rw [hconn]
      exact ⟨hs, fun r hr => hshrink.holds hr, rfl, rfl⟩
    exact ⟨hres.traced h, hres.nextMessageId, hres.nextOrderSeqs⟩

omit [CryptoSuite] in
theorem genuine_frames {log : List Posting} {c : GtpConnection} {b : PacketBuilder}
    {header : PacketHeader} {now : MonotonicTime} {d : Draft} {c2 : GtpConnection}
    (hass : Assembled c b header now d c2)
    (hitems : ∀ x, c.hot.scheduler.Has x → Genuine log (itemFrame x)) :
    ∀ f ∈ d.frames, Genuine log f := by
  intro f hf
  rcases List.mem_append.mp hf with hf | hf
  · rcases List.mem_append.mp hf with hf | hf
    · have hack := Option.mem_toList.mp hf
      rw [hass.ack] at hack
      obtain ⟨l, dl, r, n, e0, e1, ce, rfl⟩ := appendAck_isAck hack
      intro id fid n g q piece heq
      cases heq
    · obtain ⟨ctrl, -, rfl⟩ := List.mem_map.mp hf
      intro id fid n g q piece heq
      cases ctrl <;> cases heq
  · obtain ⟨x, hx, rfl⟩ := List.mem_map.mp hf
    exact hitems x (hass.popped x hx)

/-- **The frames of a datagram** that is handed out are of postings. -/
theorem produce_genuine {log : List Posting} {c : GtpConnection} (h : Traced log c)
    {now : MonotonicTime} {outBuf : List UInt8} {dest : SocketAddr} {dg : List UInt8}
    (hout : c.datagramOf (.produce now outBuf) = some (dest, dg)) :
    ∃ hd fs, Sealed c.hot.txProtector hd (payloadOf fs) dg ∧ (∀ f ∈ fs, Sendable f) ∧
      hd.connectionId = c.hot.connectionId ∧ ∀ f ∈ fs, Genuine log f := by
  rw [datagramOf] at hout
  split at hout
  · rename_i dest' len hsome
    obtain ⟨rfl, rfl⟩ := Prod.mk.inj (Option.some.inj hout)
    obtain ⟨b, hb, -, d, c2, hdc, hseal, -, -, -⟩ := produce_some hsome
    obtain ⟨hcar, -, -⟩ := new_nextHeader hb
    have hass := (c.prepare now).assemble_spec hcar now
    rw [hdc] at hass
    dsimp only at hass
    obtain ⟨ld, cc, s, pv, pac, cold, ev, hprep, -⟩ := c.prepare_spec now
    have hcid : (nextHeader (c.prepare now).hot now).connectionId = c2.hot.connectionId := by
      rw [hass.conn]
      rfl
    have hpn : (nextHeader (c.prepare now).hot now).packetNumber = c2.hot.nextPacketNumber := by
      rw [hass.conn]
      rfl
    obtain ⟨hd, halike, hsealed, -⟩ := sealDraft_spec hass.carries hcid hpn hseal
    have hkeys : c2.hot.txProtector = c.hot.txProtector := by rw [hass.conn, hprep]
    refine ⟨hd, d.frames, hkeys ▸ hsealed, hass.carries.sendable, ?_,
      genuine_frames hass ((c.prepare_resends now).traced h).items⟩
    rw [halike.connectionId, hprep]
    rfl
  · cases hout

/-! ## 3. Sends -/

omit [CryptoSuite] in
/-- How many of the items the scheduler takes before it refuses one. -/
def accepted (now : MonotonicTime) : GameScheduler → List SchedulableItem → Nat
  | _, [] => 0
  | s, item :: rest =>
    match s.enqueue item now with
    | (.ok (), s) => accepted now s rest + 1
    | (.error _, _) => 0

omit [CryptoSuite] in
theorem enqueueAll_accepted (now : MonotonicTime) (items : List SchedulableItem)
    (c : GtpConnection) :
    accepted now c.hot.scheduler items ≤ items.length ∧
      ((enqueueAll now c items).1 = .ok () ↔
        accepted now c.hot.scheduler items = items.length) ∧
      ∀ x, (enqueueAll now c items).2.hot.scheduler.Has x → c.hot.scheduler.Has x ∨
        ∃ k < accepted now c.hot.scheduler items, items[k]? = some x := by
  induction items generalizing c with
  | nil => exact ⟨Nat.le_refl 0, by simp [enqueueAll, accepted], fun x hx => Or.inl hx⟩
  | cons item rest ih =>
    rw [enqueueAll, enqueueItem, accepted]
    have hhas : ∀ x, (c.hot.scheduler.enqueue item now).2.Has x →
        c.hot.scheduler.Has x ∨ x = item := fun x hx => GameScheduler.enqueue_has hx
    have herr := @GameScheduler.enqueue_error c.hot.scheduler item now
    generalize c.hot.scheduler.enqueue item now = r at hhas herr ⊢
    obtain ⟨res, s⟩ := r
    cases res with
    | error e =>
      have hsame : s = c.hot.scheduler := herr rfl
      refine ⟨Nat.zero_le _, by simp, fun x hx => Or.inl ?_⟩
      rw [← hsame]
      exact hx
    | ok u =>
      obtain ⟨hle, hok, hin⟩ := ih { c with hot.scheduler := s }
      refine ⟨Nat.succ_le_succ hle, ?_, fun x hx => ?_⟩
      · dsimp only
        rw [hok, List.length_cons]
        exact (Nat.succ_inj).symm
      · rcases hin x hx with hx | ⟨k, hk, hget⟩
        · rcases hhas x hx with hx | rfl
          · exact Or.inl hx
          · exact Or.inr ⟨0, Nat.succ_pos _, rfl⟩
        · exact Or.inr ⟨k + 1, Nat.succ_lt_succ hk, hget⟩

omit [CryptoSuite] in
/-- The posting of a reliable send, unless its length is refused.  Where `chunks(0)` panics, no
piece of the message is accepted. -/
def posting (c : GtpConnection) (class' : MessageClass) (groupId : OrderedGroupId)
    (orderSeq : UInt32) (payload : List UInt8) (priority : PriorityTier)
    (deadline : Option MonotonicTime) (now : MonotonicTime) : Option Posting :=
  match messageFragmentCount payload.length c.maxMessagePayload with
  | .error _ => none
  | .ok _ => some
    { messageId := c.hot.nextMessageId
      groupId
      orderSeq
      pieces := (chunks c.maxMessagePayload payload).getD [payload]
      taken := accepted now c.hot.scheduler (c.offered class' payload priority deadline now) }

omit [CryptoSuite] in
/-- What a call posts. -/
def postingOf (c : GtpConnection) : Op → Option Posting
  | .sendReliableUnordered payload priority deadline now =>
    c.posting .reliableUnordered 0 0 payload priority deadline now
  | .sendReliableOrdered groupId payload priority deadline now =>
    c.posting (.reliableOrdered groupId ((c.hot.nextOrderSeqs[groupId]?).getD 0)) groupId
      ((c.hot.nextOrderSeqs[groupId]?).getD 0) payload priority deadline now
  | _ => none

/-- The postings of a run, oldest first. -/
def postings (c : GtpConnection) : List Op → List Posting
  | [] => []
  | op :: ops => (c.postingOf op).toList ++ (c.step op).postings ops

omit [CryptoSuite] in
/-- The class of an item and the group and number that its frame carries. -/
def Labels (class' : MessageClass) (g : OrderedGroupId) (q : UInt32) : Prop :=
  (class' = .reliableUnordered ∧ g = 0) ∨ class' = .reliableOrdered g q

omit [CryptoSuite] in
theorem messageFragmentCount_le {len budget total : Nat}
    (h : messageFragmentCount len budget = .ok total) : total ≤ 65535 := by
  unfold messageFragmentCount at h
  dsimp only at h
  split at h
  · cases h
  · rename_i hsome
    rw [← Except.ok.inj h]
    exact Nat.not_lt.mp fun hlt => hsome (Or.inr hlt)

omit [CryptoSuite] in
/-- The item of an accepted piece makes a frame of the posting. -/
theorem fragmentItems_genuine {p : Posting} (hwf : p.WellFormed) {class' : MessageClass}
    (hlabel : Labels class' p.groupId p.orderSeq) {priority : PriorityTier}
    {deadline : Option MonotonicTime} {now : MonotonicTime} {k : Nat} (hk : k < p.taken)
    {x : SchedulableItem} (hx : (fragmentItems p.messageId class' priority deadline
      p.pieces.length now p.pieces)[k]? = some x) : Genuine [p] (itemFrame x) := by
  rw [fragmentItems, List.getElem?_map, List.getElem?_zipIdx, Option.map_map,
    Option.map_eq_some_iff] at hx
  obtain ⟨piece, hpiece, rfl⟩ := hx
  have hidx : (UInt16.ofNat (0 + k)).toNat = k := by
    have hpieces := hwf.pieces
    have htaken := hwf.taken
    rw [Nat.zero_add]
    exact UInt16.toNat_ofNat_of_lt' (show k < 2 ^ 16 by omega)
  intro id fid n g q piece' hframe
  unfold itemFrame at hframe
  dsimp only [Function.comp] at hframe
  rcases hlabel with ⟨rfl, hg⟩ | rfl
  · obtain ⟨rfl, rfl, rfl, rfl, rfl, rfl⟩ := Frame.reliableData.inj hframe
    exact ⟨p, List.mem_singleton_self p, rfl, rfl, hg.symm, fun hne => absurd rfl hne,
      by rw [hidx]; exact ⟨hk, hpiece⟩⟩
  · obtain ⟨rfl, rfl, rfl, rfl, rfl, rfl⟩ := Frame.reliableData.inj hframe
    exact ⟨p, List.mem_singleton_self p, rfl, rfl, rfl, fun _ => rfl,
      by rw [hidx]; exact ⟨hk, hpiece⟩⟩

omit [CryptoSuite] in
/-- **The fragment loop**: the message is its posting, the call returns its id exactly when every
piece was accepted, and what it adds to the queues are accepted pieces. -/
theorem enqueueFragments_posting {c : GtpConnection} (c1 : GtpConnection) {class' : MessageClass}
    {g : OrderedGroupId} {q : UInt32} (hlabel : Labels class' g q) (payload : List UInt8)
    (priority : PriorityTier) (deadline : Option MonotonicTime) (now : MonotonicTime) {total : Nat}
    (htotal : messageFragmentCount payload.length c.maxMessagePayload = .ok total)
    (hsched : c1.hot.scheduler = c.hot.scheduler) (hconfig : c1.config = c.config) :
    ∃ p, c.posting class' g q payload priority deadline now = some p ∧
      p.messageId = c.hot.nextMessageId ∧ p.groupId = g ∧ p.orderSeq = q ∧ p.WellFormed ∧
      p.pieces.flatten = payload ∧
      ((∃ id, (c1.enqueueFragments c.hot.nextMessageId class' payload priority deadline total
        now).1 = some (.ok id)) ↔ p.complete = true) ∧
      ∀ x, (c1.enqueueFragments c.hot.nextMessageId class' payload priority deadline total
          now).2.hot.scheduler.Has x → c.hot.scheduler.Has x ∨ Genuine [p] (itemFrame x) := by
  have hmax : c1.maxMessagePayload = c.maxMessagePayload := by
    rw [maxMessagePayload, maxMessagePayload, hconfig]
  unfold posting offered enqueueFragments
  rw [hmax, htotal]
  cases hchunks : chunks c.maxMessagePayload payload with
  | none =>
    refine ⟨_, rfl, rfl, rfl, rfl, ⟨?_, ?_⟩, ?_, ?_, fun x hx => Or.inl ?_⟩
    · exact Nat.le_of_ble_eq_true rfl
    · exact Nat.zero_le _
    · exact List.append_nil payload
    · exact iff_of_false (by simp) (by simp [Posting.complete, accepted])
    · rw [← hsched]
      exact hx
  | some pieces =>
    obtain ⟨hpos, hpieces⟩ : 0 < c.maxMessagePayload ∧
        pieces = chunksFrom c.maxMessagePayload payload.length payload := by
      unfold chunks at hchunks
      split at hchunks
      · cases hchunks
      · rename_i hne
        exact ⟨Nat.pos_of_ne_zero hne, (Option.some.inj hchunks).symm⟩
    obtain ⟨hcount, -⟩ := messageFragmentCount_ok hpos htotal
    have hlen : pieces.length = total := by
      rw [hpieces, length_chunksFrom hpos (Nat.le_refl _), hcount]
    have hsmall : total ≤ 65535 := messageFragmentCount_le htotal
    dsimp only [Option.getD_some]
    have hitems : (fragmentItems c.hot.nextMessageId class' priority deadline total now
        pieces).length = pieces.length := by
      rw [fragmentItems, List.length_map, List.length_zipIdx]
    obtain ⟨hle, hok, hin⟩ := enqueueAll_accepted now
      (fragmentItems c.hot.nextMessageId class' priority deadline total now pieces) c1
    rw [hsched, hitems] at hle hok
    rw [hsched] at hin
    have hwf : Posting.WellFormed ⟨c.hot.nextMessageId, g, q, pieces, accepted now c.hot.scheduler
        (fragmentItems c.hot.nextMessageId class' priority deadline total now pieces)⟩ :=
      ⟨hlen.trans_le hsmall, hle⟩
    refine ⟨_, rfl, rfl, rfl, rfl, hwf, ?_, ?_, fun x hx => ?_⟩
    · rw [hpieces]
      exact flatten_chunksFrom hpos (Nat.le_refl _)
    · rw [Posting.complete, decide_eq_true_eq, ← hok]
      cases (enqueueAll now c1 (fragmentItems c.hot.nextMessageId class' priority deadline total
        now pieces)).1 with
      | ok u => exact iff_of_true ⟨_, rfl⟩ rfl
      | error e => exact iff_of_false (by simp [Except.map]) (by simp)
    · refine (hin x hx).imp_right ?_
      rintro ⟨k, hk, hget⟩
      rw [← hlen] at hget
      exact fragmentItems_genuine hwf hlabel hk hget

/-! ## 4. The log of a run -/

omit [CryptoSuite] in
/-- The log of a connection: what waits is of it, its ids are used once and lie below the next one,
and on every group the postings are numbered in their order. -/
structure Accounted (log : List Posting) (c : GtpConnection) : Prop where
  traced : Traced log c
  ids : ∀ p ∈ log, p.messageId.toNat < c.hot.nextMessageId.toNat
  nodup : (log.map Posting.messageId).Nodup
  wellFormed : ∀ p ∈ log, p.WellFormed
  seqs : ∀ g, g ≠ 0 → ∀ j p, (onGroup log g)[j]? = some p → p.orderSeq = UInt32.ofNat j
  next : ∀ g, g ≠ 0 →
    (c.hot.nextOrderSeqs[g]?).getD 0 = UInt32.ofNat (onGroup log g).length

omit [CryptoSuite] in
theorem Accounted.keep {log : List Posting} {c c' : GtpConnection} (h : Accounted log c)
    (ht : Traced log c') (hid : c.hot.nextMessageId.toNat ≤ c'.hot.nextMessageId.toNat)
    (hseqs : c'.hot.nextOrderSeqs = c.hot.nextOrderSeqs) : Accounted log c' where
  traced := ht
  ids := fun p hp => Nat.lt_of_lt_of_le (h.ids p hp) hid
  nodup := h.nodup
  wellFormed := h.wellFormed
  seqs := h.seqs
  next := by
    rw [hseqs]
    exact h.next

omit [CryptoSuite] in
/-- A call that posts a message under the next id and, on a group, the next number. -/
theorem Accounted.post {log : List Posting} {c c' : GtpConnection} (h : Accounted log c)
    {p : Posting} (hwf : p.WellFormed) (hid : p.messageId = c.hot.nextMessageId)
    (hid' : c'.hot.nextMessageId.toNat = c.hot.nextMessageId.toNat + 1)
    (hseq : p.groupId ≠ 0 → p.orderSeq = (c.hot.nextOrderSeqs[p.groupId]?).getD 0)
    (hseqs : ∀ g, g ≠ 0 → (c'.hot.nextOrderSeqs[g]?).getD 0 =
      if p.groupId = g then (c.hot.nextOrderSeqs[g]?).getD 0 + 1
      else (c.hot.nextOrderSeqs[g]?).getD 0)
    (hitems : ∀ x, c'.hot.scheduler.Has x → c.hot.scheduler.Has x ∨ Genuine [p] (itemFrame x))
    (hrecords : c'.hot.lossDetector = c.hot.lossDetector) : Accounted (log ++ [p]) c' := by
  have hnew : p ∈ log ++ [p] := List.mem_append_right _ (List.mem_singleton_self p)
  have hold : log ⊆ log ++ [p] := List.subset_append_left _ _
  refine ⟨⟨fun x hx => ?_, fun r hr => ?_⟩, fun p' hp' => ?_, ?_, fun p' hp' => ?_,
    fun g hg j p' hp' => ?_, fun g hg => ?_⟩
  · rcases hitems x hx with hx | hx
    · exact (h.traced.items x hx).mono hold
    · exact hx.mono (List.subset_append_right _ _)
  · rw [hrecords] at hr
    exact (h.traced.records r hr).mono hold
  · rw [hid']
    rcases List.mem_append.mp hp' with hp' | hp'
    · exact Nat.lt_succ_of_lt (h.ids p' hp')
    · rw [List.mem_singleton.mp hp', hid]
      exact Nat.lt_succ_self _
  · rw [List.map_append, List.map_singleton]
    refine List.nodup_append'.mpr ⟨h.nodup, List.nodup_singleton _, ?_⟩
    rw [List.disjoint_singleton]
    intro hmem
    obtain ⟨p', hp', heq⟩ := List.mem_map.mp hmem
    have hlt := h.ids p' hp'
    rw [heq, hid] at hlt
    exact Nat.lt_irrefl _ hlt
  · rcases List.mem_append.mp hp' with hp' | hp'
    · exact h.wellFormed p' hp'
    · exact List.mem_singleton.mp hp' ▸ hwf
  · rw [onGroup_append, onGroup_singleton] at hp'
    rcases Nat.lt_or_ge j (onGroup log g).length with hj | hj
    · rw [List.getElem?_append_left hj] at hp'
      exact h.seqs g hg j p' hp'
    · -- the new posting has the number that is next on its group
      rw [List.getElem?_append_right hj] at hp'
      split at hp'
      · rename_i hgroup
        rw [List.getElem?_singleton] at hp'
        split at hp'
        · obtain rfl := Option.some.inj hp'
          rw [hseq (hgroup ▸ hg), hgroup, h.next g hg, show j = (onGroup log g).length by omega]
        · cases hp'
      · cases hp'
  · rw [hseqs g hg, onGroup_append, onGroup_singleton, h.next g hg]
    split
    · rw [List.length_append, List.length_singleton, UInt32.ofNat_add]
      rfl
    · rw [List.append_nil]

omit [CryptoSuite] in
theorem toNat_nextMessageId {id : MessageId} (h : id.toNat + 1 < 2 ^ 64) :
    (id + 1).toNat = id.toNat + 1 := by
  rw [UInt64.toNat_add]
  exact Nat.mod_eq_of_lt h

omit [CryptoSuite] in
theorem sendSingle_accounted {log : List Posting} {c : GtpConnection} (h : Accounted log c)
    (hid : c.hot.nextMessageId.toNat + 1 < 2 ^ 64) {class' : MessageClass}
    (hclass : class'.isReliable = false) (payload : List UInt8) (priority : PriorityTier)
    (deadline : Option MonotonicTime) (now : MonotonicTime) :
    Accounted log (c.sendSingle class' payload priority deadline now).2 ∧
      (c.sendSingle class' payload priority deadline now).2.hot.nextMessageId.toNat ≤
        c.hot.nextMessageId.toNat + 1 := by
  unfold sendSingle
  split
  · exact ⟨h, Nat.le_succ _⟩
  · have hnext : (c.hot.nextMessageId + 1).toNat = c.hot.nextMessageId.toNat + 1 :=
      toNat_nextMessageId hid
    refine ⟨h.keep ⟨fun x hx => ?_, h.traced.records⟩ ?_ rfl, hnext.le⟩
    · rcases GameScheduler.enqueue_has hx with hx | rfl
      · exact h.traced.items x hx
      · intro id fid n g q piece hframe
        unfold itemFrame at hframe
        cases class' with
        | reliableUnordered => cases hclass
        | reliableOrdered => cases hclass
        | _ => cases hframe
    · exact (Nat.le_succ _).trans hnext.ge

omit [CryptoSuite] in
/-- The fragment loop of a reliable send posts one message. -/
theorem enqueueFragments_accounted {log : List Posting} {c : GtpConnection}
    (h : Accounted log c) (c1 : GtpConnection) (hid : c.hot.nextMessageId.toNat + 1 < 2 ^ 64)
    (hsched : c1.hot.scheduler = c.hot.scheduler) (hconfig : c1.config = c.config)
    (hrecords : c1.hot.lossDetector = c.hot.lossDetector)
    (hid1 : c1.hot.nextMessageId = c.hot.nextMessageId + 1) {class' : MessageClass}
    {g : OrderedGroupId} {q : UInt32} (hlabel : Labels class' g q)
    (hseq : g ≠ 0 → q = (c.hot.nextOrderSeqs[g]?).getD 0)
    (hseqs : ∀ g', g' ≠ 0 → (c1.hot.nextOrderSeqs[g']?).getD 0 =
      if g = g' then (c.hot.nextOrderSeqs[g']?).getD 0 + 1 else (c.hot.nextOrderSeqs[g']?).getD 0)
    (payload : List UInt8) (priority : PriorityTier) (deadline : Option MonotonicTime)
    (now : MonotonicTime) {total : Nat}
    (htotal : messageFragmentCount payload.length c.maxMessagePayload = .ok total) :
    Accounted (log ++ (c.posting class' g q payload priority deadline now).toList)
        (c1.enqueueFragments c.hot.nextMessageId class' payload priority deadline total now).2 ∧
      (c1.enqueueFragments c.hot.nextMessageId class' payload priority deadline total
        now).2.hot.nextMessageId.toNat ≤ c.hot.nextMessageId.toNat + 1 := by
  obtain ⟨p, hp, hpid, hpg, hpq, hwf, -, -, hitems⟩ := enqueueFragments_posting c1 hlabel payload
    priority deadline now htotal hsched hconfig
  obtain ⟨s, hframe⟩ := c1.enqueueFragments_frame c.hot.nextMessageId class' payload priority
    deadline total now
  rw [hframe] at hitems ⊢
  have hnext : c1.hot.nextMessageId.toNat = c.hot.nextMessageId.toNat + 1 := by
    rw [hid1, toNat_nextMessageId hid]
  rw [hp, Option.toList_some]
  refine ⟨h.post hwf hpid hnext ?_ ?_ hitems hrecords, hnext.le⟩
  · rw [hpg, hpq]
    exact hseq
  · rw [hpg]
    exact hseqs

/-- **One call.** -/
theorem Accounted.step {log : List Posting} {c : GtpConnection} (h : Accounted log c)
    (hid : c.hot.nextMessageId.toNat + 1 < 2 ^ 64) (op : Op) :
    Accounted (log ++ (c.postingOf op).toList) (c.step op) ∧
      (c.step op).hot.nextMessageId.toNat ≤ c.hot.nextMessageId.toNat + 1 := by
  have hnext : (c.hot.nextMessageId + 1).toNat = c.hot.nextMessageId.toNat + 1 :=
    toNat_nextMessageId hid
  have hnone : c.postingOf op = none → Accounted log (c.step op) ∧
      (c.step op).hot.nextMessageId.toNat ≤ c.hot.nextMessageId.toNat + 1 →
      Accounted (log ++ (c.postingOf op).toList) (c.step op) ∧
        (c.step op).hot.nextMessageId.toNat ≤ c.hot.nextMessageId.toNat + 1 := by
    intro hnone
    rw [hnone, Option.toList_none, List.append_nil]
    exact id
  -- the calls that neither send nor produce
  have hquiet : ∀ now, Resends now c (c.step op) → c.postingOf op = none →
      Accounted (log ++ (c.postingOf op).toList) (c.step op) ∧
        (c.step op).hot.nextMessageId.toNat ≤ c.hot.nextMessageId.toNat + 1 := by
    intro now hres hpost
    refine hnone hpost ⟨h.keep (hres.traced h.traced) ?_ hres.nextOrderSeqs, ?_⟩
    · rw [hres.nextMessageId]
    · rw [hres.nextMessageId]
      exact Nat.le_succ _
  cases op with
  | sendUnreliable payload priority deadline now =>
    exact hnone rfl (sendSingle_accounted h hid rfl payload priority deadline now)
  | sendSequenced stateKey sequence generation deadline payload now =>
    exact hnone rfl (sendSingle_accounted h hid rfl payload .p2WorldState deadline now)
  | sendReliableUnordered payload priority deadline now =>
    rw [GtpConnection.step, sendReliableUnordered]
    dsimp only
    split
    · rename_i e herr
      have hrefused : messageFragmentCount payload.length c.maxMessagePayload = .error e := herr
      have hpost : c.postingOf (.sendReliableUnordered payload priority deadline now) = none := by
        simp only [postingOf, posting, hrefused]
      rw [hpost, Option.toList_none, List.append_nil]
      exact ⟨h.keep ⟨h.traced.items, h.traced.records⟩ ((Nat.le_succ _).trans hnext.ge) rfl,
        hnext.le⟩
    · rename_i total htotal
      refine enqueueFragments_accounted h { c with hot.nextMessageId := c.hot.nextMessageId + 1 }
        hid rfl rfl rfl rfl (Or.inl ⟨rfl, rfl⟩) (fun hne => absurd rfl hne) (fun g' hg' => ?_)
        payload priority deadline now htotal
      rw [if_neg (Ne.symm hg')]
  | sendReliableOrdered groupId payload priority deadline now =>
    rw [GtpConnection.step, sendReliableOrdered]
    split
    · rename_i e hrefused
      have hpost : c.postingOf (.sendReliableOrdered groupId payload priority deadline now) =
          none := by
        simp only [postingOf, posting, hrefused]
      rw [hpost, Option.toList_none, List.append_nil]
      exact ⟨h, Nat.le_succ _⟩
    · rename_i total htotal
      refine enqueueFragments_accounted h { c with
        hot.nextOrderSeqs := c.hot.nextOrderSeqs.insert groupId
          ((c.hot.nextOrderSeqs[groupId]?).getD 0 + 1)
        hot.nextMessageId := c.hot.nextMessageId + 1 } hid rfl rfl rfl rfl (Or.inr rfl)
        (fun _ => rfl) (fun g' hg' => ?_) payload priority deadline now htotal
      dsimp only
      rw [Maps.getElem?_insert]
      split
      · rename_i heq
        rw [heq]
        rfl
      · rfl
  | handleIncoming src dg now ecn => exact hquiet now (handle_resends c src dg now ecn) rfl
  | produce now outBuf =>
    obtain ⟨htraced, hids, hseqs⟩ := produce_traced h.traced now outBuf
    refine hnone rfl ⟨h.keep htraced ?_ hseqs, ?_⟩
    · exact congrArg UInt64.toNat hids.symm |>.le
    · rw [GtpConnection.step, hids]
      exact Nat.le_succ _
  | gracefulClose code reason =>
    obtain ⟨state, hhot⟩ := changeState_frame (c.queueControl (.close code reason)) .draining
    refine hquiet 0 (.of_same ?_ ?_ ?_ ?_) rfl <;>
      (rw [GtpConnection.step, gracefulClose, hhot]; rfl)
  | forceClose =>
    obtain ⟨state, hhot⟩ := changeState_frame c .closed
    refine hquiet 0 (.of_same ?_ ?_ ?_ ?_) rfl <;> rw [GtpConnection.step, forceClose, hhot]
  | ratchetKey =>
    obtain ⟨keys, n, hframe⟩ := c.hot.ratchetSessionKey_frame
    refine hquiet 0 (.of_same ?_ ?_ ?_ ?_) rfl <;> rw [GtpConnection.step, hframe]
  | initiateKeyUpdate =>
    obtain ⟨queue, pending, hframe⟩ := c.hot.ratchetAndAnnounce_frame
    refine hquiet 0 (.of_same ?_ ?_ ?_ ?_) rfl <;>
      simp only [GtpConnection.step, initiateKeyUpdate, hframe]
  | feedRouteStats pathId stats =>
    refine hquiet 0 ?_ rfl
    rw [GtpConnection.step, feedRouteStats]
    split <;> exact .of_same rfl rfl rfl rfl
  | _ => exact hquiet 0 (.of_same rfl rfl rfl rfl) rfl

/-- **Every run.** -/
theorem Accounted.run {log : List Posting} (ops : List Op) {c : GtpConnection}
    (h : Accounted log c) (hlen : c.hot.nextMessageId.toNat + ops.length < 2 ^ 64) :
    Accounted (log ++ c.postings ops) (c.run ops) := by
  induction ops generalizing c log with
  | nil =>
    rw [postings, List.append_nil]
    exact h
  | cons op ops ih =>
    rw [List.length_cons] at hlen
    obtain ⟨hstep, hid⟩ := h.step (by omega) op
    rw [postings, ← List.append_assoc]
    exact ih hstep (by omega)

omit [CryptoSuite] in
theorem Setup.start_accounted (s : Setup) : Accounted [] s.start where
  traced := by
    refine ⟨?_, ?_⟩
    · rintro x ⟨t, ht⟩
      cases ht
    · rintro r ⟨pn, rec, hget, -⟩
      exact absurd hget (by simp [Setup.start, newWithHotConfig, ofHot,
        ConnectionHot.buildWithConfig, LossDetector.default])
  ids := fun p hp => by cases hp
  nodup := List.nodup_nil
  wellFormed := fun p hp => by cases hp
  seqs := fun g _ j p hp => by cases hp
  next := fun g _ => by
    simp [Setup.start, newWithHotConfig, ofHot, ConnectionHot.buildWithConfig, onGroup]

/-! ## 5. The calls and the log -/

omit [CryptoSuite] in
/-- The group of an ordered send. -/
def Op.orderedGroup : Op → Option OrderedGroupId
  | .sendReliableOrdered groupId .. => some groupId
  | _ => none

omit [CryptoSuite] in
/-- The payload of a call that sends on the group and returns `Ok`. -/
def acceptedOn (g : OrderedGroupId) (c : GtpConnection) : Op → Option (List UInt8)
  | .sendReliableOrdered groupId payload priority deadline now =>
    match (c.sendReliableOrdered groupId payload priority deadline now).1 with
    | some (.ok _) => if groupId = g then some payload else none
    | _ => none
  | _ => none

/-- The payloads that a run sends on the group, oldest first. -/
def sentOn (g : OrderedGroupId) (c : GtpConnection) : List Op → List (List UInt8)
  | [] => []
  | op :: ops => (c.acceptedOn g op).toList ++ sentOn g (c.step op) ops

omit [CryptoSuite] in
theorem postingOf_group {c : GtpConnection} {op : Op} {p : Posting} (h : c.postingOf op = some p)
    (hg : p.groupId ≠ 0) : op.orderedGroup = some p.groupId := by
  cases op with
  | sendReliableUnordered payload priority deadline now =>
    rw [postingOf, posting] at h
    split at h
    · cases h
    · obtain rfl := Option.some.inj h
      exact absurd rfl hg
  | sendReliableOrdered groupId payload priority deadline now =>
    rw [postingOf, posting] at h
    split at h
    · cases h
    · obtain rfl := Option.some.inj h
      rfl
  | _ => cases h

omit [CryptoSuite] in
theorem count_orderedGroup_cons (g : OrderedGroupId) (op : Op) (ops : List Op) :
    ((op :: ops).filterMap Op.orderedGroup).count g =
      op.orderedGroup.toList.count g + (ops.filterMap Op.orderedGroup).count g := by
  rw [List.filterMap_cons, ← List.count_append]
  cases op.orderedGroup <;> rfl

/-- There are no more postings on a group than calls. -/
theorem count_postings {g : OrderedGroupId} (hg : g ≠ 0) (ops : List Op) (c : GtpConnection) :
    ((c.postings ops).map Posting.groupId).count g ≤ (ops.filterMap Op.orderedGroup).count g := by
  induction ops generalizing c with
  | nil => exact Nat.le_refl _
  | cons op ops ih =>
    have hone : ((c.postingOf op).toList.map Posting.groupId).count g ≤
        op.orderedGroup.toList.count g := by
      cases hp : c.postingOf op with
      | none => exact Nat.zero_le _
      | some p =>
        rw [Option.toList_some, List.map_singleton]
        by_cases hpg : p.groupId = g
        · rw [postingOf_group hp (hpg ▸ hg)]
          exact Nat.le_refl _
        · rw [List.count_eq_zero_of_not_mem]
          · exact Nat.zero_le _
          · rw [List.mem_singleton]
            exact fun heq => hpg heq.symm
    have hrest := ih (c.step op)
    rw [postings, List.map_append, List.count_append, count_orderedGroup_cons]
    exact Nat.add_le_add hone hrest

/-- There are no more messages on a group than calls. -/
theorem length_sentOn_le (g : OrderedGroupId) (ops : List Op) (c : GtpConnection) :
    (sentOn g c ops).length ≤ (ops.filterMap Op.orderedGroup).count g := by
  induction ops generalizing c with
  | nil => exact Nat.le_refl 0
  | cons op ops ih =>
    have hone : (c.acceptedOn g op).toList.length ≤ op.orderedGroup.toList.count g := by
      cases op with
      | sendReliableOrdered groupId payload priority deadline now =>
        rw [acceptedOn]
        split
        · split
          · rename_i heq
            rw [heq, Op.orderedGroup, Option.toList_some, Option.toList_some,
              List.count_singleton_self, List.length_singleton]
          · exact Nat.zero_le _
        · exact Nat.zero_le _
      | _ => exact Nat.zero_le _
    rw [sentOn, List.length_append, count_orderedGroup_cons]
    exact Nat.add_le_add hone (ih (c.step op))

omit [CryptoSuite] in
/-- A call returns `Ok` exactly when its message was accepted in full. -/
theorem acceptedOn_eq {g : OrderedGroupId} (hg : g ≠ 0) (c : GtpConnection) (op : Op) :
    (c.acceptedOn g op).toList = (onGroup (c.postingOf op).toList g).filterMap Posting.whole := by
  cases op with
  | sendReliableUnordered payload priority deadline now =>
    cases hp : c.postingOf (.sendReliableUnordered payload priority deadline now) with
    | none => rfl
    | some p =>
      rw [Option.toList_some, onGroup_singleton, if_neg]
      · rfl
      · intro hpg
        cases postingOf_group hp (hpg ▸ hg)
  | sendReliableOrdered groupId payload priority deadline now =>
    cases htotal : messageFragmentCount payload.length c.maxMessagePayload with
    | error e =>
      simp only [acceptedOn, sendReliableOrdered, postingOf, posting, htotal]
      rfl
    | ok total =>
      obtain ⟨p, hp, -, hpg, -, -, hflat, hok, -⟩ := enqueueFragments_posting (c := c) { c with
        hot.nextOrderSeqs := c.hot.nextOrderSeqs.insert groupId
          ((c.hot.nextOrderSeqs[groupId]?).getD 0 + 1)
        hot.nextMessageId := c.hot.nextMessageId + 1 }
        (Or.inr rfl : Labels (.reliableOrdered groupId ((c.hot.nextOrderSeqs[groupId]?).getD 0))
          groupId _) payload priority deadline now htotal rfl rfl
      rw [postingOf, hp, Option.toList_some, onGroup_singleton, hpg, acceptedOn,
        sendReliableOrdered, htotal]
      dsimp only
      generalize (enqueueFragments _ _ _ payload priority deadline total now).1 = res at hok ⊢
      have hwhole : p.whole = if p.complete then some payload else none := by
        rw [Posting.whole, hflat]
      split
      · rename_i id
        have hcomplete : p.complete = true := hok.mp ⟨id, rfl⟩
        rw [hcomplete] at hwhole
        split
        · rw [List.filterMap_cons_some (hwhole.trans (if_pos rfl))]
          rfl
        · rfl
      · rename_i hno
        have hcomplete : p.complete = false := by
          rw [← Bool.not_eq_true, ← hok]
          rintro ⟨id, rfl⟩
          exact hno id rfl
        rw [hcomplete] at hwhole
        split
        · rw [List.filterMap_cons_none (hwhole.trans (if_neg Bool.false_ne_true))]
          rfl
        · rfl
  | _ => rfl

/-- **What a run sends on a group** are its postings that were accepted in full. -/
theorem sentOn_eq {g : OrderedGroupId} (hg : g ≠ 0) (ops : List Op) (c : GtpConnection) :
    sentOn g c ops = (onGroup (c.postings ops) g).filterMap Posting.whole := by
  induction ops generalizing c with
  | nil => rfl
  | cons op ops ih =>
    rw [sentOn, postings, onGroup_append, List.filterMap_append, acceptedOn_eq hg, ih]

/-! ## 6. The wire -/

theorem step_counter (c : GtpConnection) (op : Op) :
    (c.step op).hot.keyPhaseCounter ≤ c.hot.keyPhaseCounter + 1 := by
  have hratchet : ∀ k : SessionKeys, ∀ cid,
      (k.ratchet cid).keyPhaseCounter ≤ k.keyPhaseCounter + 1 := by
    intro k cid
    unfold SessionKeys.ratchet
    split
    · exact Nat.le_succ _
    · exact Nat.le_refl _
  have hlinked : ∀ {l : Link}, (c.step op).hot.link = l →
      l.keys.keyPhaseCounter ≤ c.hot.keyPhaseCounter + 1 →
      (c.step op).hot.keyPhaseCounter ≤ c.hot.keyPhaseCounter + 1 := by
    rintro l rfl h
    exact h
  cases c.step_moves op with
  | quiet ctrls _ _ hlink => exact hlinked hlink (Nat.le_succ _)
  | ignored _ hhot => exact hlinked (congrArg ConnectionHot.link hhot) (Nat.le_succ _)
  | @received src dg now ecn hd pt c' hopen hrec =>
    obtain ⟨answers, -, hlink⟩ := hrec.link
    refine hlinked hlink ?_
    dsimp only
    by_cases hrat : c.Ratchets dg
    · rw [received_keys_ratchets hopen hrat, Net.tick_advance]
      exact Nat.le_refl _
    · rw [received_keys hopen hrat, tickRxKeyGrace_counter]
      exact Nat.le_succ _
  | silent _ hlink => exact hlinked hlink (Nat.le_succ _)
  | transmitted _ htrans =>
    obtain ⟨queue, -, hlink⟩ := htrans.rest
    refine hlinked hlink ?_
    dsimp only
    split
    · exact hratchet _ _
    · exact Nat.le_succ _
  | ratcheted hlink => exact hlinked hlink (hratchet _ _)
  | announced hlink =>
    split at hlink
    · exact hlinked hlink (Nat.le_succ _)
    · exact hlinked hlink (Nat.le_succ _)

/-- The datagram was sealed by the sender in a phase below `bound`, and its reliable frames are of
postings. -/
def Authored (base : Bytes 32 × Bytes 12) (cid : ConnectionId) (log : List Posting) (bound : Nat)
    (dg : List UInt8) : Prop :=
  ∃ phase hd fs, phase < bound ∧ Sealed (protectorAt base cid phase) hd (payloadOf fs) dg ∧
    hd.connectionId = cid ∧ (∀ f ∈ fs, Sendable f) ∧ ∀ f ∈ fs, Genuine log f

theorem Authored.mono {base : Bytes 32 × Bytes 12} {cid : ConnectionId} {log log' : List Posting}
    {bound bound' : Nat} {dg : List UInt8} (h : Authored base cid log bound dg) (hlog : log ⊆ log')
    (hbound : bound ≤ bound') : Authored base cid log' bound' dg := by
  obtain ⟨phase, hd, fs, hphase, hseal, hcid, hsendable, hgen⟩ := h
  exact ⟨phase, hd, fs, Nat.lt_of_lt_of_le hphase hbound, hseal, hcid, hsendable,
    fun f hf => (hgen f hf).mono hlog⟩

/-- **The datagrams of a run** carry pieces of its postings. -/
theorem handedOut_authored {tx rx : Bytes 32 × Bytes 12} {cid : ConnectionId} {log : List Posting}
    (ops : List Op) {c : GtpConnection} (hkeys : Keyed tx rx cid c) (h : Accounted log c)
    (hlen : c.hot.nextMessageId.toNat + ops.length < 2 ^ 64) :
    ∀ dg ∈ c.handedOut ops, Authored tx cid (log ++ c.postings ops)
      (c.hot.keyPhaseCounter + ops.length) dg := by
  induction ops generalizing c log with
  | nil =>
    intro dg hdg
    cases hdg
  | cons op ops ih =>
    intro dg hdg
    rw [List.length_cons] at hlen
    obtain ⟨hstep, hid⟩ := h.step (by omega) op
    have hcounter := c.step_counter op
    rw [handedOut] at hdg
    rcases List.mem_append.mp hdg with hdg | hdg
    · obtain ⟨⟨dest, dg'⟩, hout, rfl⟩ := List.mem_map.mp hdg
      rw [Option.mem_toList] at hout
      obtain ⟨now, outBuf, rfl⟩ : ∃ now outBuf, op = .produce now outBuf := by
        cases op with
        | produce now outBuf => exact ⟨now, outBuf, rfl⟩
        | _ => cases hout
      obtain ⟨hd, fs, hseal, hsendable, hcid, hgen⟩ := produce_genuine h.traced hout
      rw [hkeys.2.txProtector] at hseal
      have hauth : Authored tx cid log (c.hot.keyPhaseCounter + 1) dg' :=
        ⟨c.hot.keyPhaseCounter, hd, fs, Nat.lt_succ_self _, hseal, hcid.trans hkeys.1, hsendable,
          hgen⟩
      exact hauth.mono (List.subset_append_left _ _) (by rw [List.length_cons]; omega)
    · have hrest := ih (hkeys.step op) hstep (by omega) dg hdg
      rw [postings, ← List.append_assoc]
      exact hrest.mono (List.Subset.refl _) (by rw [List.length_cons]; omega)

end GtpConnection

end Gtp
