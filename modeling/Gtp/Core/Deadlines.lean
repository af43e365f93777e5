/-
# Deadlines

A message may be sent with a deadline.  Over any run, a datagram that is sealed at a time carries no
message whose deadline has passed by then: each of its message frames is of a call that is still in
time, or repeats a reliable fragment that an earlier datagram has carried
(`nothing_stale_leaves`).  The repetition has no deadline, since `retransmission_item` sets none.

* `offers` lists the items that a call offers to the scheduler, each with the deadline of its call.
* `Dated` is the invariant: whatever waits was offered by a call or repeats what was carried, and
  what is recorded was carried.
* `message_of_sealedIn` is where the time comes in: `pop_next` drops an item that has expired, so
  that one which is sealed was in time when the datagram was.

A message that is dropped in time for its deadline is not missed here: whether anything leaves is
the subject of `Gtp.Core.TxLoop`.  The deadline counts at the sender only; how long a datagram is on
its way is not compared with it.
-/
import Gtp.Core.Ledger
import Gtp.Core.Lifecycle

namespace Gtp

open Frame PacketBuilder

namespace GtpConnection

/-! ## 1. What a call offers -/

/-- A call that sends is still in time. -/
def Op.InTime (now : MonotonicTime) : Op → Prop
  | .sendUnreliable _ _ deadline _ => ∀ dl, deadline = some dl → now < dl
  | .sendSequenced _ _ _ deadline _ _ => ∀ dl, deadline = some dl → now < dl
  | .sendReliableUnordered _ _ deadline _ => ∀ dl, deadline = some dl → now < dl
  | .sendReliableOrdered _ _ _ deadline _ => ∀ dl, deadline = some dl → now < dl
  | _ => True

/-- The item of a send that is not split. -/
def singleItem (c : GtpConnection) (class' : MessageClass) (payload : List UInt8)
    (priority : PriorityTier) (deadline : Option MonotonicTime) (now : MonotonicTime) :
    SchedulableItem :=
  { messageId := c.hot.nextMessageId
    class'
    priority
    createdAt := now
    deadline
    supersedable := true
    payload
    fragmentId := 0
    totalFragments := 1 }

/-- The items that a call offers to the scheduler. -/
def offers (c : GtpConnection) : Op → List SchedulableItem
  | .sendUnreliable payload priority deadline now =>
    [c.singleItem .unreliable payload priority deadline now]
  | .sendSequenced stateKey sequence generation deadline payload now =>
    [c.singleItem (.unreliableSequenced stateKey sequence generation) payload .p2WorldState deadline
      now]
  | .sendReliableUnordered payload priority deadline now =>
    c.offered .reliableUnordered payload priority deadline now
  | .sendReliableOrdered groupId payload priority deadline now =>
    c.offered (.reliableOrdered groupId ((c.hot.nextOrderSeqs[groupId]?).getD 0)) payload priority
      deadline now
  | _ => []

theorem deadline_of_mem_offered {c : GtpConnection} {class' : MessageClass} {payload : List UInt8}
    {priority : PriorityTier} {deadline : Option MonotonicTime} {now : MonotonicTime}
    {x : SchedulableItem} (hx : x ∈ c.offered class' payload priority deadline now) :
    x.deadline = deadline := by
  unfold offered at hx
  split at hx
  · obtain ⟨⟨piece, idx⟩, -, rfl⟩ := List.mem_map.mp hx
    rfl
  · cases hx

theorem lt_of_not_isExpired {x : SchedulableItem} {now : MonotonicTime}
    (h : x.isExpired now = false) : ∀ dl, x.deadline = some dl → now < dl := by
  intro dl hdl
  unfold SchedulableItem.isExpired at h
  rw [hdl] at h
  exact Nat.lt_of_not_le (of_decide_eq_false h)

theorem inTime_of_mem_offers {c : GtpConnection} {op : Op} {x : SchedulableItem}
    (hx : x ∈ c.offers op) {now : MonotonicTime} (hlive : x.isExpired now = false) :
    op.InTime now := by
  have hlt := lt_of_not_isExpired hlive
  cases op with
  | sendUnreliable payload priority deadline at' =>
    obtain rfl := List.mem_singleton.mp hx
    exact hlt
  | sendSequenced stateKey sequence generation deadline payload at' =>
    obtain rfl := List.mem_singleton.mp hx
    exact hlt
  | sendReliableUnordered payload priority deadline at' =>
    rw [deadline_of_mem_offered hx] at hlt
    exact hlt
  | sendReliableOrdered groupId payload priority deadline at' =>
    rw [deadline_of_mem_offered hx] at hlt
    exact hlt
  | _ => cases hx

variable [CryptoSuite]

/-- The items that a run offers. -/
def offersOf (c : GtpConnection) : List Op → List SchedulableItem
  | [] => []
  | op :: ops => c.offers op ++ (c.step op).offersOf ops

theorem mem_offersOf {ops : List Op} {c : GtpConnection} {x : SchedulableItem}
    (h : x ∈ c.offersOf ops) :
    ∃ before op after, ops = before ++ op :: after ∧ x ∈ (c.run before).offers op := by
  induction ops generalizing c with
  | nil => cases h
  | cons op ops ih =>
    rcases List.mem_append.mp h with h | h
    · exact ⟨[], op, ops, rfl, h⟩
    · obtain ⟨before, op', after, rfl, hx⟩ := ih h
      exact ⟨op :: before, op', after, rfl, hx⟩

/-! ## 2. Repetitions -/

omit [CryptoSuite] in
/-- The fragment in a frame, without its place in the group: a repetition of the group 0 has
none. -/
def fragmentIn : Frame → Option (MessageId × FragmentId × UInt16 × OrderedGroupId × List UInt8)
  | .reliableData id fid n g _ payload => some (id, fid, n, g, payload)
  | _ => none

/-- The frame repeats a fragment of the list. -/
def Repeats (frames : List Frame) (f : Frame) : Prop :=
  isReliable f = true ∧ ∃ f' ∈ frames, fragmentIn f' = fragmentIn f

omit [CryptoSuite] in
theorem Repeats.mono {frames frames' : List Frame} {f : Frame} (h : Repeats frames f)
    (hsub : frames ⊆ frames') : Repeats frames' f := by
  obtain ⟨hf, f', hf', heq⟩ := h
  exact ⟨hf, f', hsub hf', heq⟩

omit [CryptoSuite] in
theorem copy_repeats {frames : List Frame} {x : SchedulableItem} (hx : itemFrame x ∈ frames)
    {r : RetransmissionRecord} (hr : retransmissionRecord x = some r) (now : MonotonicTime) :
    Repeats frames (itemFrame (retransmissionItem r now)) := by
  have hreliable : isReliable (itemFrame (retransmissionItem r now)) = true := by
    unfold itemFrame retransmissionItem
    dsimp only
    by_cases hzero : r.groupId = 0
    · rw [if_pos hzero]
      rfl
    · rw [if_neg hzero]
      rfl
  refine ⟨hreliable, itemFrame x, hx, ?_⟩
  unfold retransmissionRecord at hr
  unfold itemFrame retransmissionItem
  dsimp only at hr ⊢
  split at hr
  · rename_i hclass
    obtain rfl := Option.some.inj hr
    rw [hclass, if_pos rfl]
  · rename_i g q hclass
    obtain rfl := Option.some.inj hr
    rw [hclass]
    dsimp only
    by_cases hzero : g = 0
    · rw [if_pos hzero, hzero]
      rfl
    · rw [if_neg hzero]
  · cases hr

/-! ## 3. What waits -/

/-- Whatever waits was offered by a call or repeats what was carried, and what is recorded was
carried. -/
structure Dated (items : List SchedulableItem) (frames : List Frame) (c : GtpConnection) :
    Prop where
  queued : ∀ x, c.hot.scheduler.Has x → x ∈ items ∨ Repeats frames (itemFrame x)
  recorded : ∀ r, c.hot.lossDetector.Holds r → ∀ now,
    Repeats frames (itemFrame (retransmissionItem r now))

variable {items : List SchedulableItem} {frames : List Frame} {c c' : GtpConnection}

omit [CryptoSuite] in
theorem Dated.mono (h : Dated items frames c) {items' : List SchedulableItem}
    {frames' : List Frame} (hitems : items ⊆ items') (hframes : frames ⊆ frames') :
    Dated items' frames' c := by
  refine ⟨fun x hx => ?_, fun r hr now => (h.recorded r hr now).mono hframes⟩
  rcases h.queued x hx with hx | hx
  · exact Or.inl (hitems hx)
  · exact Or.inr (hx.mono hframes)

omit [CryptoSuite] in
theorem Resends.dated {now : MonotonicTime} (h : Resends now c c') (hd : Dated items frames c) :
    Dated items frames c' := by
  refine ⟨fun x hx => ?_, fun r hr => hd.recorded r (h.records r hr)⟩
  rcases h.items x hx with hx | ⟨r, hr, rfl⟩
  · exact hd.queued x hx
  · exact Or.inr (hd.recorded r hr now)

omit [CryptoSuite] in
theorem Dated.offer (h : Dated items frames c) {more : List SchedulableItem}
    (hitems : ∀ x, c'.hot.scheduler.Has x → c.hot.scheduler.Has x ∨ x ∈ more)
    (hrecords : c'.hot.lossDetector = c.hot.lossDetector) : Dated (items ++ more) frames c' := by
  refine ⟨fun x hx => ?_, fun r hr => h.recorded r (hrecords ▸ hr)⟩
  rcases hitems x hx with hx | hx
  · exact (h.queued x hx).imp_left (List.mem_append_left more)
  · exact Or.inl (List.mem_append_right items hx)

omit [CryptoSuite] in
theorem sendSingle_dated (h : Dated items frames c) (class' : MessageClass)
    (payload : List UInt8) (priority : PriorityTier) (deadline : Option MonotonicTime)
    (now : MonotonicTime) :
    Dated (items ++ [c.singleItem class' payload priority deadline now]) frames
      (c.sendSingle class' payload priority deadline now).2 := by
  unfold sendSingle
  split
  · exact h.mono (List.subset_append_left _ _) (List.Subset.refl _)
  · refine h.offer (fun x hx => ?_) rfl
    rcases GameScheduler.enqueue_has hx with hx | rfl
    · exact Or.inl hx
    · exact Or.inr (List.mem_singleton_self _)

omit [CryptoSuite] in
/-- The fragment loop, on the connection that has counted the message. -/
theorem enqueueFragments_dated (h : Dated items frames c) (c1 : GtpConnection)
    (hscheduler : c1.hot.scheduler = c.hot.scheduler)
    (hdetector : c1.hot.lossDetector = c.hot.lossDetector)
    (hbudget : c1.maxMessagePayload = c.maxMessagePayload) {class' : MessageClass}
    {payload : List UInt8} {priority : PriorityTier} {deadline : Option MonotonicTime} {total : Nat}
    {now : MonotonicTime}
    (htotal : messageFragmentCount payload.length c.maxMessagePayload = .ok total) :
    Dated (items ++ c.offered class' payload priority deadline now) frames
      (c1.enqueueFragments c.hot.nextMessageId class' payload priority deadline total now).2 := by
  have hsame : Dated items frames c1 :=
    ⟨fun x hx => h.queued x (hscheduler ▸ hx), fun r hr => h.recorded r (hdetector ▸ hr)⟩
  unfold enqueueFragments offered
  rw [htotal, hbudget]
  cases hchunks : chunks c.maxMessagePayload payload with
  | none => exact hsame.mono (List.subset_append_left _ _) (List.Subset.refl _)
  | some pieces =>
    dsimp only
    obtain ⟨s, hframe⟩ := enqueueAll_frame now
      (fragmentItems c.hot.nextMessageId class' priority deadline total now pieces) c1
    refine hsame.offer (fun x hx => ?_) (by rw [hframe])
    rcases (enqueueAll_accepted now _ c1).2.2 x hx with hx | ⟨k, -, hk⟩
    · exact Or.inl hx
    · exact Or.inr (List.mem_of_getElem? hk)

/-- A message that is sealed waited, and was in time. -/
theorem message_of_sealedIn (h : Dated items frames c) {now : MonotonicTime} {outBuf : List UInt8}
    {sheet : Sheet} (hs : c.sealedIn (.produce now outBuf) = some sheet) {f : Frame}
    (hf : f ∈ sheet.frames) (hmessage : isMessage f = true) :
    (∃ x ∈ items, x.isExpired now = false ∧ itemFrame x = f) ∨ Repeats frames f := by
  obtain ⟨b, len, hcar, hframes, -⟩ := sealedIn_produce hs
  have hass := (c.prepare now).assemble_spec hcar now
  rw [hframes] at hf
  obtain ⟨x, hx, rfl⟩ := item_of_message hass hf hmessage
  have hwaits := hass.popped x hx
  rcases ((c.prepare_resends now).dated h).queued x hwaits with hitem | hcopy
  · -- `prune_stale` comes last in what is done before
    obtain ⟨t, ht⟩ := hwaits
    exact Or.inl ⟨x, hitem, GameScheduler.fresh_pruneStale _ now t x ht, rfl⟩
  · exact Or.inr hcopy

/-- **`produce_outgoing_datagram`**: what it records is in the datagram. -/
theorem produce_dated (h : Dated items frames c) (now : MonotonicTime) (outBuf : List UInt8) :
    Dated items
      (frames ++ (c.sealedIn (.produce now outBuf)).toList.flatMap Sheet.frames)
      (c.produceOutgoingDatagram now outBuf).conn := by
  cases hs : c.sealedIn (.produce now outBuf) with
  | some sheet =>
    obtain ⟨b, len, hcar, hframes, hconn⟩ := sealedIn_produce hs
    have hass := (c.prepare now).assemble_spec hcar now
    have hprepared := (c.prepare_resends now).dated h
    obtain ⟨keys, n, pending, controller, path, closed, hcommit⟩ :=
      ((c.prepare now).assemble b now).2.commit_frame ((c.prepare now).assemble b now).1 len now
    rw [Option.toList_some, List.flatMap_singleton, hconn]
    refine ⟨fun x hx => ?_, fun r hr again => ?_⟩
    · rw [hcommit] at hx
      exact (hprepared.queued x (hass.has x hx)).imp_right
        fun hx => hx.mono (List.subset_append_left _ _)
    · rw [hcommit] at hr
      rcases LossDetector.holds_onPacketSent hr with hr | hr
      · rw [hass.conn] at hr
        exact (hprepared.recorded r hr again).mono (List.subset_append_left _ _)
      · obtain ⟨x, hx, hrecord⟩ := List.mem_filterMap.mp hr
        refine copy_repeats (List.mem_append_right _ ?_) hrecord again
        rw [hframes]
        exact List.mem_append_right _ (List.mem_map_of_mem hx)
  | none =>
    obtain ⟨st, ld, cc, s, pv, pac, cold, ev, hconn, hshrink, hwaits⟩ :=
      produce_none (unsent_of_sealedIn hs)
    have hresends : Resends now c (c.produceOutgoingDatagram now outBuf).conn := by
      rw [hconn]
      exact ⟨hwaits, fun r hr => hshrink.holds hr, rfl, rfl⟩
    rw [Option.toList_none, List.flatMap_nil, List.append_nil]
    exact hresends.dated h

/-! ## 4. Every run -/

/-- **One call.** -/
theorem Dated.step (h : Dated items frames c) (op : Op) :
    Dated (items ++ c.offers op) (frames ++ (c.sealedIn op).toList.flatMap Sheet.frames)
      (c.step op) := by
  have hquiet : ∀ now, Resends now c (c.step op) → c.offers op = [] → c.sealedIn op = none →
      Dated (items ++ c.offers op) (frames ++ (c.sealedIn op).toList.flatMap Sheet.frames)
        (c.step op) := by
    intro now hresends hoffers hsealed
    rw [hoffers, hsealed, Option.toList_none, List.flatMap_nil, List.append_nil, List.append_nil]
    exact hresends.dated h
  have hsend : c.sealedIn op = none → Dated (items ++ c.offers op) frames (c.step op) →
      Dated (items ++ c.offers op) (frames ++ (c.sealedIn op).toList.flatMap Sheet.frames)
        (c.step op) := by
    intro hsealed
    rw [hsealed, Option.toList_none, List.flatMap_nil, List.append_nil]
    exact id
  cases op with
  | sendUnreliable payload priority deadline now =>
    exact hsend rfl (sendSingle_dated h .unreliable payload priority deadline now)
  | sendSequenced stateKey sequence generation deadline payload now =>
    exact hsend rfl (sendSingle_dated h (.unreliableSequenced stateKey sequence generation) payload
      .p2WorldState deadline now)
  | sendReliableUnordered payload priority deadline now =>
    refine hsend rfl ?_
    rw [GtpConnection.step, sendReliableUnordered]
    dsimp only
    split
    · exact ⟨(h.mono (List.subset_append_left _ _) (List.Subset.refl _)).queued, h.recorded⟩
    · rename_i total htotal
      exact enqueueFragments_dated h { c with hot.nextMessageId := c.hot.nextMessageId + 1 } rfl rfl
        rfl htotal
  | sendReliableOrdered groupId payload priority deadline now =>
    refine hsend rfl ?_
    rw [GtpConnection.step, sendReliableOrdered]
    split
    · exact h.mono (List.subset_append_left _ _) (List.Subset.refl _)
    · rename_i total htotal
      exact enqueueFragments_dated h { c with
        hot.nextOrderSeqs := c.hot.nextOrderSeqs.insert groupId
          ((c.hot.nextOrderSeqs[groupId]?).getD 0 + 1)
        hot.nextMessageId := c.hot.nextMessageId + 1 } rfl rfl rfl htotal
  | handleIncoming src dg now ecn => exact hquiet now (handle_resends c src dg now ecn) rfl rfl
  | produce now outBuf =>
    have hnil : c.offers (.produce now outBuf) = [] := rfl
    rw [hnil, List.append_nil]
    exact produce_dated h now outBuf
  | gracefulClose code reason =>
    obtain ⟨state, hhot⟩ := changeState_frame (c.queueControl (.close code reason)) .draining
    refine hquiet 0 (.of_same ?_ ?_ ?_ ?_) rfl rfl <;>
      (rw [GtpConnection.step, gracefulClose, hhot]; rfl)
  | forceClose =>
    obtain ⟨state, hhot⟩ := changeState_frame c .closed
    refine hquiet 0 (.of_same ?_ ?_ ?_ ?_) rfl rfl <;> rw [GtpConnection.step, forceClose, hhot]
  | ratchetKey =>
    obtain ⟨keys, n, hframe⟩ := c.hot.ratchetSessionKey_frame
    refine hquiet 0 (.of_same ?_ ?_ ?_ ?_) rfl rfl <;> rw [GtpConnection.step, hframe]
  | initiateKeyUpdate =>
    obtain ⟨queue, pending, hframe⟩ := c.hot.ratchetAndAnnounce_frame
    refine hquiet 0 (.of_same ?_ ?_ ?_ ?_) rfl rfl <;>
      simp only [GtpConnection.step, initiateKeyUpdate, hframe]
  | feedRouteStats pathId stats =>
    refine hquiet 0 ?_ rfl rfl
    rw [GtpConnection.step, feedRouteStats]
    split <;> exact .of_same rfl rfl rfl rfl
  | _ => exact hquiet 0 (.of_same rfl rfl rfl rfl) rfl rfl

/-- **A run.** -/
theorem Dated.run (h : Dated items frames c) (ops : List Op) :
    Dated (items ++ c.offersOf ops) (frames ++ (c.sealedSheets ops).flatMap Sheet.frames)
      (c.run ops) := by
  induction ops generalizing c items frames with
  | nil =>
    rw [offersOf, sealedSheets, List.flatMap_nil, List.append_nil, List.append_nil]
    exact h
  | cons op ops ih =>
    rw [offersOf, sealedSheets, List.flatMap_append, ← List.append_assoc, ← List.append_assoc]
    exact ih (h.step op)

omit [CryptoSuite] in
theorem Setup.start_dated (s : Setup) : Dated [] [] s.start := by
  refine ⟨?_, ?_⟩
  · rintro x ⟨t, ht⟩
    cases ht
  · rintro r ⟨pn, record, hget, -⟩
    have hnone : s.start.hot.lossDetector.sentPackets[pn]? = none := Std.ExtTreeMap.getElem?_empty
    cases hnone.symm.trans hget

/-- **Nothing stale leaves.**  Take any run of a connection, and a datagram that is sealed at `now`
after it.  Every message frame in it is of an earlier call whose deadline has not passed, or repeats
a reliable fragment that an earlier datagram of the run has carried. -/
theorem nothing_stale_leaves (s : Setup) (ops : List Op) (now : MonotonicTime)
    (outBuf : List UInt8) {sheet : Sheet}
    (hs : (s.start.run ops).sealedIn (.produce now outBuf) = some sheet) :
    ∀ f ∈ sheet.frames, isMessage f = true →
      (∃ before op after x, ops = before ++ op :: after ∧ op.InTime now ∧
        x ∈ (s.start.run before).offers op ∧ itemFrame x = f) ∨
      Repeats ((s.start.sealedSheets ops).flatMap Sheet.frames) f := by
  intro f hf hmessage
  have hdated := s.start_dated.run ops
  rw [List.nil_append, List.nil_append] at hdated
  refine (message_of_sealedIn hdated hs hf hmessage).imp_left ?_
  rintro ⟨x, hx, hlive, hframe⟩
  obtain ⟨before, op, after, hops, hoffered⟩ := mem_offersOf hx
  exact ⟨before, op, after, x, hops, inTime_of_mem_offers hoffered hlive, hoffered, hframe⟩

end GtpConnection

/-! ## 5. On a concrete connection -/

namespace GtpConnection

attribute [local instance] keyTagSuite

/-- Two messages, the first of which is late for a datagram at 30. -/
def oneLate : List Op :=
  [.sendUnreliable [1] .p1Input (some 20) 10, .sendUnreliable [2] .p1Input (some 40) 10]

/-- The theorem at a datagram that carries the second message only. -/
theorem nothing_stale_leaves_oneLate : ∃ sheet,
    ((Net.sampleSession.setup true).start.run oneLate).sealedIn
        (.produce 30 (List.replicate 200 0)) = some sheet ∧
      sheet.frames.filter isMessage = [.data 2 StateKey.default 0 0 0 [2]] ∧
      ∀ f ∈ sheet.frames, isMessage f = true →
        (∃ before op after x, oneLate = before ++ op :: after ∧ op.InTime 30 ∧
          x ∈ ((Net.sampleSession.setup true).start.run before).offers op ∧ itemFrame x = f) ∨
        Repeats (((Net.sampleSession.setup true).start.sealedSheets oneLate).flatMap Sheet.frames)
          f := by
  have hmessages : (((Net.sampleSession.setup true).start.run oneLate).sealedIn
      (.produce 30 (List.replicate 200 0))).map (fun sheet => sheet.frames.filter isMessage) =
        some [.data 2 StateKey.default 0 0 0 [2]] := by decide +kernel
  obtain ⟨sheet, hsheet, hmessages⟩ := Option.map_eq_some_iff.mp hmessages
  exact ⟨sheet, hsheet, hmessages, nothing_stale_leaves (Net.sampleSession.setup true) oneLate 30
    (List.replicate 200 0) hsheet⟩

end GtpConnection

end Gtp
