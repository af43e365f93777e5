/-
# No message is made up

Over one direction of a session whatever the other end returns is a message that a call took up, as
the wire shows it, with its numbers and its payload (`delivered_was_sent`).  The wire does not show
everything: it has one frame for sequenced and plain unreliable messages, and reliable messages of
group 0 are unordered there.  So a plain one comes out as a sequenced one with the default key, and
what was sent to group 0 as an unordered one (`acceptedMessage`).

For unreliable messages this is part of `states_subperm`.  A reliable one comes out of the
reassembler and the reorder buffers, so that what these hold is traced to the postings of the
sender: a slot to an accepted piece, a buffered message to a posting that was accepted in full.  No
bound on the groups is needed: a group that was evicted loses what it held, but comes back with
nothing that was not sent.

* `Sourced` is the invariant of the receiver; `Sourced.completes` is the step where pieces become a
  message, and `Incoming.origin` the one where a message leaves the buffer of its group.
* `arrivals_tell` connects it with the sender: a frame that arrives is of the sender's log.

The network brings datagrams of the sender and no others, and the keys of its phases are separate.
How often a message is returned is left out: see `unreliable_at_most_once`, `unordered_twice` and
`ordered_delivery`.
-/
import Gtp.Core.Unreliable

namespace Gtp

open Frame

/-! ## 1. Reliable messages at the sender -/

namespace Posting

/-- The message of a posting, as the peer sees it. -/
def message (p : Posting) : ReceivedMessage :=
  GtpConnection.reliableMessage p.groupId p.orderSeq p.pieces.flatten

end Posting

namespace GtpConnection

/-- A posting that was accepted in full is the message of a call that returned `Ok`. -/
theorem acceptedMessage_of_complete {c : GtpConnection} {op : Op} {p : Posting}
    (hp : c.postingOf op = some p) (hcomplete : p.complete = true) :
    c.acceptedMessage op = some p.message := by
  cases op with
  | sendReliableUnordered payload priority deadline now =>
    cases htotal : messageFragmentCount payload.length c.maxMessagePayload with
    | error e =>
      simp only [postingOf, posting, htotal] at hp
      cases hp
    | ok total =>
      obtain ⟨p', hp', -, hgroup, hseq, -, hflat, hok, -⟩ := enqueueFragments_posting (c := c)
        { c with hot.nextMessageId := c.hot.nextMessageId + 1 }
        (Or.inl ⟨rfl, rfl⟩ : Labels .reliableUnordered 0 0) payload priority deadline now htotal
        rfl rfl
      obtain rfl := Option.some.inj (hp.symm.trans hp')
      obtain ⟨id, hid⟩ := hok.mpr hcomplete
      have hmax : ({ c with hot.nextMessageId := c.hot.nextMessageId + 1 } :
          GtpConnection).maxMessagePayload = c.maxMessagePayload := rfl
      rw [acceptedMessage, sendReliableUnordered]
      dsimp only
      rw [hmax, htotal]
      dsimp only
      rw [hid, Posting.message, hgroup, hseq, hflat]
  | sendReliableOrdered groupId payload priority deadline now =>
    cases htotal : messageFragmentCount payload.length c.maxMessagePayload with
    | error e =>
      simp only [postingOf, posting, htotal] at hp
      cases hp
    | ok total =>
      obtain ⟨p', hp', -, hgroup, hseq, -, hflat, hok, -⟩ := enqueueFragments_posting (c := c) { c with
        hot.nextOrderSeqs := c.hot.nextOrderSeqs.insert groupId
          ((c.hot.nextOrderSeqs[groupId]?).getD 0 + 1)
        hot.nextMessageId := c.hot.nextMessageId + 1 }
        (Or.inr rfl : Labels (.reliableOrdered groupId ((c.hot.nextOrderSeqs[groupId]?).getD 0))
          groupId _) payload priority deadline now htotal rfl rfl
      obtain rfl := Option.some.inj (hp.symm.trans hp')
      obtain ⟨id, hid⟩ := hok.mpr hcomplete
      rw [acceptedMessage, sendReliableOrdered, htotal]
      dsimp only
      rw [hid, Posting.message, hgroup, hseq, hflat]
  | _ => cases hp

variable [CryptoSuite]

/-- **The postings of a run** that were accepted in full are messages that it took up. -/
theorem message_mem_acceptedMessages (ops : List Op) (c : GtpConnection) {p : Posting}
    (hp : p ∈ c.postings ops) (hcomplete : p.complete = true) :
    p.message ∈ c.acceptedMessages ops := by
  induction ops generalizing c with
  | nil => cases hp
  | cons op ops ih =>
    rw [acceptedMessages]
    rcases List.mem_append.mp hp with hp | hp
    · rw [acceptedMessage_of_complete (Option.mem_toList.mp hp) hcomplete]
      exact List.mem_append_left _ (List.mem_singleton_self _)
    · exact List.mem_append_right _ (ih (c.step op) hp)

end GtpConnection

/-! ## 2. One group -/

namespace OrderedGroupReceiver

theorem drain_origin {q : UInt32} {m : List UInt8} (fuel : Nat) {g : OrderedGroupReceiver} :
    ((drain g fuel).1.Holds q m → g.Holds q m) ∧ ((q, m) ∈ (drain g fuel).2 → g.Holds q m) := by
  induction fuel generalizing g with
  | zero => exact ⟨id, fun h => by cases h⟩
  | succ fuel ih =>
    rw [drain]
    split
    · exact ⟨id, fun h => by cases h⟩
    · rename_i first hnext
      dsimp only
      obtain ⟨hheld, hout⟩ := @ih { g with
        reorderBuffer := g.reorderBuffer.erase g.nextExpected
        currentBufferBytes := g.currentBufferBytes - first.length
        nextExpected := g.nextExpected + 1 }
      have hback : Holds { g with
          reorderBuffer := g.reorderBuffer.erase g.nextExpected
          currentBufferBytes := g.currentBufferBytes - first.length
          nextExpected := g.nextExpected + 1 } q m → g.Holds q m := by
        intro h
        rw [Holds, Maps.getElem?_erase] at h
        split at h
        · cases h
        · exact h
      refine ⟨fun h => hback (hheld h), fun h => ?_⟩
      rcases List.mem_cons.mp h with heq | h
      · obtain ⟨rfl, rfl⟩ := Prod.mk.inj heq
        exact hnext
      · exact hback (hout h)

/-- **A message that comes in**: what is held or handed over afterwards was held, or is the
message. -/
theorem Incoming.origin {g g' : OrderedGroupReceiver} {q : UInt32} {m : List UInt8}
    {res : Result (List (UInt32 × List UInt8))} (h : Incoming g q m res g') :
    (∀ q' m', g'.Holds q' m' → g.Holds q' m' ∨ (q' = q ∧ m' = m)) ∧
      ∀ e ∈ readyOf res, g.Holds e.1 e.2 ∨ e = (q, m) := by
  cases h with
  | stale => exact ⟨fun _ _ h => Or.inl h, fun e he => by cases he⟩
  | full => exact ⟨fun _ _ h => Or.inl h, fun e he => by cases he⟩
  | repeated => exact ⟨fun _ _ h => Or.inl h, fun e he => by cases he⟩
  | next hnext =>
    have hdrain : ∀ q' m', _ := fun q' m' =>
      @drain_origin q' m' g.reorderBuffer.size { g with nextExpected := q + 1 }
    refine ⟨fun q' m' h => Or.inl ((hdrain q' m').1 h), fun e he => ?_⟩
    rcases List.mem_cons.mp he with rfl | he
    · exact Or.inr rfl
    · exact Or.inl ((hdrain e.1 e.2).2 he)
  | buffered hahead hne hout =>
    refine ⟨fun q' m' h => ?_, fun e he => by cases he⟩
    rw [Holds, Maps.getElem?_insert] at h
    split at h
    · rename_i hq
      exact Or.inr ⟨hq.symm, (Option.some.inj h).symm⟩
    · exact Or.inl h

end OrderedGroupReceiver

/-! ## 3. The receiver -/

/-- The message with number `q` of group `g` was accepted in full. -/
def Wholly (log : List Posting) (g : OrderedGroupId) (q : UInt32) (payload : List UInt8) : Prop :=
  ∃ p ∈ log, p.complete = true ∧ p.message = ⟨.reliableOrdered g q, payload⟩

/-- What arrives is of the log: a reliable frame is of a posting, and there is no `Retx` frame,
which the engine never writes. -/
structure Tells (log : List Posting) (f : Frame) : Prop where
  genuine : Genuine log f
  retx : ∀ id fid t payload, f ≠ .retx id fid t payload

/-- What the receiver relies on of the log. -/
structure Postings (log : List Posting) : Prop where
  ids : (log.map Posting.messageId).Nodup
  wellFormed : ∀ p ∈ log, p.WellFormed

namespace DeliveryState

/-- Everything that waits at the receiver was sent. -/
structure Sourced (log : List Posting) (d : DeliveryState) : Prop where
  consistent : d.Consistent
  collects : d.reassembler.Collects log
  buffered : ∀ g q payload, d.HoldsMessage g q payload → Wholly log g q payload

variable {log : List Posting} {d : DeliveryState}

theorem offers_lt {p : Posting} (hwf : p.WellFormed) {n : UInt16} {fid : FragmentId}
    {piece : List UInt8} (hn : n = p.total) (h : p.Offers fid.toNat piece) :
    n.toNat = p.pieces.length ∧ fid.toNat < n.toNat := by
  have hlen : n.toNat = p.pieces.length := by
    rw [hn, Posting.total]
    exact UInt16.toNat_ofNat_of_lt' (Nat.lt_succ_of_le hwf.pieces)
  refine ⟨hlen, ?_⟩
  rw [hlen]
  exact Nat.lt_of_lt_of_le h.1 hwf.taken

/-- **A message that is complete** is a posting that was accepted in full. -/
theorem Sourced.completes (hlog : Postings log) (h : Sourced log d) {a : Arrival}
    (htold : Tells log a.frame) {w : Whole} (hw : d.completes a = some w) :
    ∃ p ∈ log, p.complete = true ∧
      p.message = GtpConnection.reliableMessage w.groupId w.orderSeq w.payload := by
  rcases completes_eq_some hw with ⟨fid, n, piece, hframe, hcase⟩ | ⟨fid, t, hframe, -⟩
  · obtain ⟨p, hp, hid, hn, hgroup, hseq, hoffers⟩ := htold.genuine _ _ _ _ _ _ hframe
    have hwf := hlog.wellFormed p hp
    obtain ⟨hlen, hfid⟩ := offers_lt hwf hn hoffers
    have hwhole : p.complete = true ∧ w.payload = p.pieces.flatten := by
      rcases hcase with ⟨hmany, hfull⟩ | ⟨hone, hpay⟩
      · have hpush := MessageReassembler.push_pushed d.reassembler w.messageId hfid hmany piece a.now
        rw [hfull] at hpush
        exact hpush.whole hlog.ids (h.consistent.reassembler.sweep _) hfid (h.collects.sweep _) hp
          hwf hid hn hoffers
      · -- a message in one piece
        have hshort : n.toNat ≤ 1 := Nat.not_lt.mp fun hlt => hone (UInt16.lt_iff_toNat_lt.mpr hlt)
        have hsingle : p.pieces.length = 1 := by omega
        obtain ⟨only, hpieces⟩ := List.length_eq_one_iff.mp hsingle
        obtain ⟨hlt, hpiece⟩ := hoffers
        have htaken := hwf.taken
        rw [hpieces, show fid.toNat = 0 by omega] at hpiece
        refine ⟨?_, ?_⟩
        · rw [Posting.complete, decide_eq_true_eq]
          omega
        · rw [hpay, hpieces, ← Option.some.inj hpiece]
          exact (List.append_nil only).symm
    refine ⟨p, hp, hwhole.1, ?_⟩
    rw [Posting.message, hwhole.2, ← hgroup, GtpConnection.reliableMessage,
      GtpConnection.reliableMessage]
    by_cases hzero : w.groupId = 0
    · rw [if_pos hzero, if_pos hzero]
    · rw [if_neg hzero, if_neg hzero, hseq hzero]
  · exact absurd hframe (htold.retx _ _ _ _)

/-- The reassembler goes on collecting pieces of postings. -/
theorem Sourced.reassembled (hlog : Postings log) (h : Sourced log d) {a : Arrival}
    (htold : Tells log a.frame) : (d.reassembled a).Collects log := by
  unfold DeliveryState.reassembled
  split
  · rename_i id fid n g q piece hframe
    split
    · rename_i hmany
      obtain ⟨p, hp, hid, hn, -, -, hoffers⟩ := htold.genuine _ _ _ _ _ _ hframe
      obtain ⟨-, hfid⟩ := offers_lt (hlog.wellFormed p hp) hn hoffers
      have hpush := MessageReassembler.push_pushed d.reassembler id hfid hmany piece a.now
      exact hpush.collects hlog.ids (h.consistent.reassembler.sweep _) (h.collects.sweep _) hp hid hn
        hoffers
    · exact h.collects
  · exact h.collects

theorem Touched.origin {d d' : DeliveryState} {g g' : OrderedGroupId} {q : UInt32}
    {payload : List UInt8} (h : Touched d g d') (hheld : d'.HoldsMessage g' q payload) :
    d.HoldsMessage g' q payload := by
  have hfresh : ∀ grp : OrderedGroupReceiver, some (OrderedGroupReceiver.new g) = some grp →
      ¬ grp.Holds q payload := by
    rintro grp hgrp hm
    obtain rfl := Option.some.inj hgrp
    have hnone : ((OrderedGroupReceiver.new g).reorderBuffer)[q]? = none :=
      Std.ExtTreeMap.getElem?_empty
    cases hnone.symm.trans hm
  obtain ⟨grp, hgrp, hm⟩ := hheld
  cases h with
  | tracked h => exact ⟨grp, hgrp, hm⟩
  | opened h hroom =>
    rw [Maps.getElem?_insert] at hgrp
    split at hgrp
    · exact absurd hm (hfresh grp hgrp)
    · exact ⟨grp, hgrp, hm⟩
  | evicting h hfull hlru =>
    rw [Maps.getElem?_insert] at hgrp
    split at hgrp
    · exact absurd hm (hfresh grp hgrp)
    · rw [Maps.getElem?_erase] at hgrp
      split at hgrp
      · cases hgrp
      · exact ⟨grp, hgrp, hm⟩

/-- **One frame** of the log hands over messages of the log, and leaves what waits of the log. -/
theorem Sourced.after (hlog : Postings log) (h : Sourced log d) {a : Arrival}
    (htold : Tells log a.frame) :
    Sourced log (d.after a) ∧ ∀ m ∈ (d.fate a).messages, m.isState = false →
      ∃ p ∈ log, p.complete = true ∧ p.message = m := by
  have hcons := h.consistent.after a
  have hcol : (d.after a).reassembler.Collects log := by
    rw [after_reassembler h.consistent.groups]
    exact h.reassembled hlog htold
  have hstay : (d.after a).orderedGroups = d.orderedGroups → Sourced log (d.after a) := by
    intro hgroups
    refine ⟨hcons, hcol, fun g q payload hheld => h.buffered g q payload ?_⟩
    obtain ⟨grp, hgrp, hm⟩ := hheld
    exact ⟨grp, hgroups ▸ hgrp, hm⟩
  cases hw : d.completes a with
  | none =>
    obtain ⟨⟨table, hafter⟩, hmsgs⟩ := onFrame_of_not_completes hw
    refine ⟨hstay (by rw [hafter]; rfl), fun m hm hstate => ?_⟩
    obtain ⟨key, seq, gen, hclass⟩ := hmsgs m hm
    rw [ReceivedMessage.isState, hclass] at hstate
    cases hstate
  | some w =>
    obtain ⟨p, hp, hcomplete, hmessage⟩ := h.completes hlog htold hw
    have hcolg : (d.collected a).GroupsConsistent :=
      ⟨h.consistent.groups.gens, h.consistent.groups.bound⟩
    have hfate : d.fate a = _ := congrArg Prod.fst (onFrame_of_completes hw)
    have hafter : d.after a = _ := congrArg Prod.snd (onFrame_of_completes hw)
    rcases deliverWhole_cases hcolg w with ⟨-, -, heq⟩ | ⟨hzero, -, heq⟩ | ⟨hw0, heq, -⟩
    · rw [heq] at hfate hafter
      refine ⟨hstay (by rw [hafter]; rfl), fun m hm => ?_⟩
      rw [hfate] at hm
      cases hm
    · rw [heq] at hfate hafter
      refine ⟨hstay (by rw [hafter]; rfl), fun m hm _ => ⟨p, hp, hcomplete, ?_⟩⟩
      rw [hfate] at hm
      rw [List.mem_singleton.mp hm, hmessage, GtpConnection.reliableMessage, if_pos hzero]
    · -- the message goes to its group
      rw [GtpConnection.reliableMessage, if_neg hw0] at hmessage
      obtain ⟨d1, res, grp', htouch, hin, hspec⟩ :=
        deliverOrdered_spec hcolg w.groupId w.orderSeq w.payload
      rw [heq, hspec] at hfate hafter
      obtain ⟨hheld, hready⟩ := hin.origin
      have hgroup : ∀ q payload, ((d.collected a).groupAt w.groupId).Holds q payload →
          Wholly log w.groupId q payload := fun q payload hm =>
        h.buffered w.groupId q payload (htouch.origin ⟨_, htouch.group, hm⟩)
      refine ⟨⟨hcons, hcol, ?_⟩, fun m hm _ => ?_⟩
      · rintro g q payload ⟨grp, hgrp, hm⟩
        rw [hafter] at hgrp
        dsimp only at hgrp
        rw [Maps.getElem?_insert] at hgrp
        split at hgrp
        · rename_i hg
          obtain rfl := Option.some.inj hgrp
          subst hg
          rcases hheld q payload hm with hm | ⟨rfl, rfl⟩
          · exact hgroup q payload hm
          · exact ⟨p, hp, hcomplete, hmessage⟩
        · exact h.buffered g q payload (htouch.origin ⟨grp, hgrp, hm⟩)
      · rw [hfate] at hm
        cases res with
        | error e => cases hm
        | ok ready =>
          obtain ⟨e, he, rfl⟩ := List.mem_map.mp hm
          rcases hready e he with hm | rfl
          · exact hgroup e.1 e.2 hm
          · exact ⟨p, hp, hcomplete, hmessage⟩

/-- **All frames.** -/
theorem Sourced.handedOver (hlog : Postings log) (as : List Arrival)
    (htold : ∀ a ∈ as, Tells log a.frame) (h : Sourced log d) :
    ∀ m ∈ d.handedOver as, m.isState = false → ∃ p ∈ log, p.complete = true ∧ p.message = m := by
  induction as generalizing d with
  | nil =>
    intro m hm
    cases hm
  | cons a as ih =>
    obtain ⟨hafter, hfate⟩ := h.after hlog (htold a List.mem_cons_self)
    intro m hm hstate
    rcases List.mem_append.mp hm with hm | hm
    · exact hfate m hm hstate
    · exact ih (fun b hb => htold b (List.mem_cons_of_mem _ hb)) hafter m hm hstate

end DeliveryState

/-! ## 4. What arrives -/

theorem retx_of_received {fs : List Frame} {id : MessageId} {fid : FragmentId} {t : TransmissionId}
    {payload : List UInt8} (h : .retx id fid t payload ∈ received fs) :
    .retx id fid t payload ∈ fs := by
  induction fs with
  | nil => exact h
  | cons f fs ih =>
    cases f with
    | mtuProbe id pad => cases List.mem_singleton.mp h
    | _ =>
      rcases List.mem_cons.mp h with h | h
      · first
          | exact h ▸ List.mem_cons_self
          | cases h
      · exact List.mem_cons_of_mem _ (ih h)

namespace GtpConnection

variable [CryptoSuite]

omit [CryptoSuite] in
theorem retx_not_mem_frames {c : GtpConnection} {b : PacketBuilder} {header : PacketHeader}
    {now : MonotonicTime} {d : Draft} {c2 : GtpConnection} (hass : Assembled c b header now d c2)
    {id : MessageId} {fid : FragmentId} {t : TransmissionId} {payload : List UInt8} :
    .retx id fid t payload ∉ d.frames := by
  intro hf
  rcases List.mem_append.mp hf with hf | hf
  · rcases List.mem_append.mp hf with hf | hf
    · rw [Option.mem_toList, hass.ack] at hf
      obtain ⟨l, dl, r, n, e0, e1, ce, heq⟩ := appendAck_isAck hf
      cases heq
    · obtain ⟨ctrl, -, heq⟩ := List.mem_map.mp hf
      cases ctrl <;> cases heq
  · obtain ⟨item, -, heq⟩ := List.mem_map.mp hf
    unfold itemFrame at heq
    split at heq <;> cases heq

theorem retx_not_mem_sealedSheets (ops : List Op) {c : GtpConnection} {s : Sheet}
    (hs : s ∈ c.sealedSheets ops) {id : MessageId} {fid : FragmentId} {t : TransmissionId}
    {payload : List UInt8} : .retx id fid t payload ∉ s.frames := by
  induction ops generalizing c with
  | nil => cases hs
  | cons op ops ih =>
    rcases List.mem_append.mp hs with hs | hs
    · cases op with
      | produce now outBuf =>
        obtain ⟨b, len, hb, hframes, -⟩ := sealedIn_produce (Option.mem_toList.mp hs)
        rw [hframes]
        exact retx_not_mem_frames ((c.prepare now).assemble_spec hb now)
      | _ => cases hs
    · exact ih hs

/-- Over one direction of a session every frame that arrives is of the sender's log. -/
theorem arrivals_tell (hround : CryptoSuite.RoundTrips) (s : Net.Session) (x : Bool)
    (hsep : Net.PhasesSeparate (s.base x) s.cid) (sends receives : List Op)
    (hsends : sends.length < 2 ^ 64 - 1) (hreceives : receives.length < 2 ^ 64)
    (hwire : ∀ src dg now ecn, .handleIncoming src dg now ecn ∈ receives →
      dg ∈ (s.setup x).start.handedOut sends) :
    ∀ a ∈ (s.setup (!x)).start.arrivals receives, Tells ((s.setup x).start.postings sends)
      a.frame := by
  have hbase : (s.keys.forRole (!x)).2 = s.base x := by cases x <;> rfl
  have hkeys : Keyed (s.keys.forRole (!x)).1 (s.base x) s.cid (s.setup (!x)).start := by
    rw [← hbase]
    exact (s.setup (!x)).start_keyed
  have hphase : ∀ y, (s.setup y).start.hot.keyPhaseCounter = 0 := fun y => rfl
  have hone : (s.setup x).start.hot.nextMessageId.toNat = 1 := rfl
  have hauthored := handedOut_authored sends (s.setup x).start_keyed (s.setup x).start_accounted
    (by omega)
  rw [List.nil_append, hphase, Nat.zero_add] at hauthored
  have hgen := arrivals_genuine hround hsep (by omega : sends.length ≤ 2 ^ 64) receives
    (fun src dg now ecn hmem => hauthored dg (hwire src dg now ecn hmem)) hkeys
    (by rw [hphase]; omega)
  have hchannel := opened_subperm_sealed hround s x hsep sends receives (by omega) hreceives hwire
  intro a ha
  refine ⟨hgen a ha, fun id fid t payload heq => ?_⟩
  have hframe : a.frame ∈ ((s.setup (!x)).start.openedSheets receives).flatMap Sheet.frames := by
    rw [← arrivals_sheets]
    exact List.mem_map_of_mem ha
  obtain ⟨sheet, hsheet, hf⟩ := List.mem_flatMap.mp hframe
  obtain ⟨sent, hsent, rfl⟩ := List.mem_map.mp (hchannel.subset hsheet)
  rw [heq] at hf
  exact retx_not_mem_sealedSheets sends hsent (retx_of_received hf)

/-! ## 5. Every session -/

omit [CryptoSuite] in
theorem Setup.start_sourced (s : Setup) (log : List Posting) :
    s.start.hot.toDeliveryState.Sourced log where
  consistent := s.start_consistent
  collects := by
    intro id e he
    have hnone : s.start.hot.reassembler.entries[id]? = none := Std.ExtTreeMap.getElem?_empty
    cases hnone.symm.trans he
  buffered := by
    rintro g q payload ⟨grp, hgrp, -⟩
    have hnone : s.start.hot.orderedGroups[g]? = none := Std.ExtTreeMap.getElem?_empty
    cases hnone.symm.trans hgrp

theorem reliable_was_sent (hround : CryptoSuite.RoundTrips) (s : Net.Session) (x : Bool)
    (hsep : Net.PhasesSeparate (s.base x) s.cid) (sends receives : List Op)
    (hsends : sends.length < 2 ^ 64 - 1) (hreceives : receives.length < 2 ^ 64)
    (hwire : ∀ src dg now ecn, .handleIncoming src dg now ecn ∈ receives →
      dg ∈ (s.setup x).start.handedOut sends) {m : ReceivedMessage}
    (hm : m ∈ (s.setup (!x)).start.returned receives) (hstate : m.isState = false) :
    m ∈ (s.setup x).start.acceptedMessages sends := by
  have hone : (s.setup x).start.hot.nextMessageId.toNat = 1 := rfl
  have hsent := Accounted.run sends (s.setup x).start_accounted (by omega)
  rw [List.nil_append] at hsent
  have hlog : Postings ((s.setup x).start.postings sends) := ⟨hsent.nodup, hsent.wellFormed⟩
  have htold := arrivals_tell hround s x hsep sends receives hsends hreceives hwire
  have hhanded := (returned_isInitial _ receives).subset hm
  obtain ⟨p, hp, hcomplete, rfl⟩ := ((s.setup (!x)).start_sourced _).handedOver hlog _ htold m
    hhanded hstate
  exact message_mem_acceptedMessages sends _ hp hcomplete

/-- **No message is made up.**  Let one end of a session make any calls, and let the other end make
any calls and get any of the datagrams that the first one hands out, each as often as the network
likes and in any order, and no others.  Then every message that it returns is one that a call which
returned `Ok` has sent, as the wire shows it: with its payload and its numbers, under the class that
its frame has -- a plain unreliable message comes as a sequenced one with the default key, and one
of group 0 as an unordered one. -/
theorem delivered_was_sent (hround : CryptoSuite.RoundTrips) (s : Net.Session) (x : Bool)
    (hsep : Net.PhasesSeparate (s.base x) s.cid) (sends receives : List Op)
    (hsends : sends.length < 2 ^ 64 - 1) (hreceives : receives.length < 2 ^ 64)
    (hwire : ∀ src dg now ecn, .handleIncoming src dg now ecn ∈ receives →
      dg ∈ (s.setup x).start.handedOut sends) :
    ∀ m ∈ (s.setup (!x)).start.returned receives,
      m ∈ (s.setup x).start.acceptedMessages sends := by
  intro m hm
  cases hstate : m.isState with
  | true =>
    have hsub := states_subperm hround s x hsep sends receives (by omega) hreceives hwire
    have hmem := hsub.subset (List.mem_filter.mpr ⟨hm, hstate⟩)
    exact (List.mem_filter.mp hmem).1
  | false => exact reliable_was_sent hround s x hsep sends receives hsends hreceives hwire hm hstate

end GtpConnection

/-! ## 6. On a concrete session -/

namespace GtpConnection

attribute [local instance] keyTagSuite

/-- The theorem at a session where the datagrams overtake each other. -/
theorem delivered_was_sent_swapped :
    ((Net.sampleSession.setup false).start.returned swapped).map ReceivedMessage.payload =
        [[1], [2]] ∧
      (Net.sampleSession.setup false).start.returned swapped ⊆
        (Net.sampleSession.setup true).start.acceptedMessages twoMoves := by
  refine ⟨by decide +kernel, delivered_was_sent keyTagSuite_roundTrips Net.sampleSession true
    (Net.sampleSession_separates true) twoMoves swapped (by decide) (by decide +kernel) ?_⟩
  intro src dg now ecn hmem
  obtain ⟨dg', hdg', heq⟩ := List.mem_map.mp hmem
  obtain ⟨rfl, rfl, rfl, rfl⟩ := Op.handleIncoming.inj heq
  exact List.mem_reverse.mp hdg'

end GtpConnection

end Gtp
