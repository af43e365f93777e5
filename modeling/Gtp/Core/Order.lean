/-
# Ordered groups, end to end

A message of a group is numbered by the sender, cut into pieces, carried in datagrams that may be
lost, reordered, repeated and sent again, put together by the receiver, and handed over when all
messages of the group before it have been.  `ordered_delivery` says what comes out: the messages
that a receiver returns on a group are, in order, the first ones that were sent on it, each once.

* `Follows` is one group: what it has handed over are the messages before its cursor, and what it
  holds are messages ahead of it.
* `Collects` is the reassembler: what it collects are pieces of postings, so that a message which
  completes is a posting that was accepted in full (`Pushed.whole`).
* `Tracks` puts the two together, and `Tracks.after` is one frame of a posting.
* `arrivals_genuine` connects it with the sender: what arrives is of the sender's postings.

The receiver keeps the cursors of 256 groups.  A group beyond them takes the place of the one that
was touched longest ago, whose cursor starts over (`ordered_twice`), so that the theorem is about
sessions with at most as many groups.

That a message arrives at all is left out: a prefix of what was sent may be the empty one.
-/
import Gtp.Core.Postings
import Gtp.Core.Retention
import Gtp.Core.Repeats

namespace Gtp

open Frame

/-! ## 1. One group -/

theorem toNat_ofNat_u32 {n : Nat} (h : n < 2 ^ 32) : (UInt32.ofNat n).toNat = n :=
  UInt32.toNat_ofNat_of_lt' h

namespace OrderedGroupReceiver

/-- The group has handed over the messages before `k`, and what it holds are messages before `n`:
`msg j` is the message with number `j`. -/
structure Follows (g : OrderedGroupReceiver) (msg : Nat → Option (List UInt8)) (n k : Nat) :
    Prop where
  cursor : g.nextExpected = UInt32.ofNat k
  bound : k ≤ n
  buffered : ∀ q m, g.Holds q m → ∃ j < n, q = UInt32.ofNat j ∧ msg j = some m

theorem drain_follows {msg : Nat → Option (List UInt8)} {n : Nat} (hn : n < 2 ^ 32) (fuel : Nat)
    {g : OrderedGroupReceiver} {k : Nat} (h : g.Follows msg n k) :
    ∃ k', k ≤ k' ∧ (drain g fuel).1.Follows msg n k' ∧
      (drain g fuel).2.map (fun e => some e.2) = (List.range' k (k' - k)).map msg := by
  induction fuel generalizing g k with
  | zero => exact ⟨k, Nat.le_refl k, h, by simp [drain]⟩
  | succ fuel ih =>
    rw [drain]
    split
    · exact ⟨k, Nat.le_refl k, h, by simp⟩
    · rename_i m hm
      obtain ⟨j, hjn, hq, hmsg⟩ := h.buffered _ _ hm
      have hjk : j = k := by
        have heq := congrArg UInt32.toNat (hq.symm.trans h.cursor)
        have hk := h.bound
        rwa [toNat_ofNat_u32 (by omega), toNat_ofNat_u32 (by omega)] at heq
      subst hjk
      have hnext : Follows { g with
          reorderBuffer := g.reorderBuffer.erase g.nextExpected
          currentBufferBytes := g.currentBufferBytes - m.length
          nextExpected := g.nextExpected + 1 } msg n (j + 1) := by
        refine ⟨?_, hjn, ?_⟩
        · rw [h.cursor, UInt32.ofNat_add]
          rfl
        · intro q m' hheld
          rw [Holds, Maps.getElem?_erase] at hheld
          split at hheld
          · cases hheld
          · exact h.buffered q m' hheld
      obtain ⟨k', hle, hfol, hout⟩ := ih hnext
      refine ⟨k', by omega, hfol, ?_⟩
      dsimp only
      rw [List.map_cons, hout, show k' - j = (k' - (j + 1)) + 1 by omega, List.range'_succ,
        List.map_cons, hmsg]

/-- What a group hands over. -/
def readyOf : Result (List (UInt32 × List UInt8)) → List (UInt32 × List UInt8)
  | .ok ready => ready
  | .error _ => []

/-- **A message that comes in** moves the cursor over what it hands over. -/
theorem Incoming.follows {msg : Nat → Option (List UInt8)} {n : Nat} (hn : n < 2 ^ 32)
    {g g' : OrderedGroupReceiver} {k j : Nat} (h : g.Follows msg n k) (hj : j < n) {m : List UInt8}
    (hmsg : msg j = some m) {res : Result (List (UInt32 × List UInt8))}
    (hin : g.Incoming (UInt32.ofNat j) m res g') :
    ∃ k', k ≤ k' ∧ g'.Follows msg n k' ∧
      (readyOf res).map (fun e => some e.2) = (List.range' k (k' - k)).map msg := by
  have hstay : ∃ k', k ≤ k' ∧ g.Follows msg n k' ∧
      ([] : List (UInt32 × List UInt8)).map (fun e => some e.2) =
        (List.range' k (k' - k)).map msg := ⟨k, Nat.le_refl k, h, by simp⟩
  cases hin with
  | stale => exact hstay
  | full => exact hstay
  | repeated => exact hstay
  | next hnext =>
    have hjk : j = k := by
      have heq := congrArg UInt32.toNat (hnext.trans h.cursor)
      have hk := h.bound
      rwa [toNat_ofNat_u32 (by omega), toNat_ofNat_u32 (by omega)] at heq
    subst hjk
    have hnext' : Follows { g with nextExpected := UInt32.ofNat j + 1 } msg n (j + 1) := by
      refine ⟨?_, hj, ?_⟩
      · rw [UInt32.ofNat_add]
        rfl
      · exact h.buffered
    obtain ⟨k', hle, hfol, hout⟩ := drain_follows hn g.reorderBuffer.size hnext'
    refine ⟨k', by omega, hfol, ?_⟩
    rw [readyOf, List.map_cons, hout, show k' - j = (k' - (j + 1)) + 1 by omega, List.range'_succ,
      List.map_cons, hmsg]
  | buffered hahead hne hout =>
    refine ⟨k, Nat.le_refl k, ⟨h.cursor, h.bound, ?_⟩, by simp [readyOf]⟩
    intro q m' hheld
    rw [Holds, Maps.getElem?_insert] at hheld
    split at hheld
    · rename_i hq
      obtain rfl := Option.some.inj hheld
      exact ⟨j, hj, hq.symm, hmsg⟩
    · exact h.buffered q m' hheld

end OrderedGroupReceiver

/-! ## 2. Reassembly -/

namespace MessageReassembler

/-- What is collected comes from the postings. -/
def Collects (r : MessageReassembler) (log : List Posting) : Prop :=
  ∀ (id : MessageId) e, r.entries[id]? = some e → ∃ p ∈ log, p.messageId = id ∧ e.total = p.total ∧
    ∀ k piece, e.Holds k piece → p.Offers k piece

section Pushing

variable {r r' : MessageReassembler} {id : MessageId} {idx : Nat} {n : UInt16} {p : List UInt8}
  {now : MonotonicTime} {out : PushOutcome}

theorem Collects.sub {log : List Posting} (h : r.Collects log)
    (hsub : ∀ (id : MessageId) e, r'.entries[id]? = some e → r.entries[id]? = some e) :
    r'.Collects log := fun id e he => h id e (hsub id e he)

theorem Collects.remove {log : List Posting} (h : r.Collects log) (id : MessageId) :
    (r.remove id).Collects log := by
  refine h.sub fun id' e he => ?_
  rw [MessageReassembler.remove, Maps.getElem?_erase] at he
  split at he
  · cases he
  · exact he

/-- A new piece of a posting whose message is collected, or is opened. -/
theorem Collects.insert {log : List Posting} (h : r.Collects log) {e : Partial}
    {order : List MessageId} {bytes : Nat} (he : ∃ p ∈ log, p.messageId = id ∧ e.total = p.total ∧
      ∀ k piece, e.Holds k piece → p.Offers k piece) :
    Collects ⟨r.entries.insert id e, order, bytes⟩ log := by
  intro id' e' he'
  dsimp only at he'
  rw [Maps.getElem?_insert] at he'
  split at he'
  · rename_i hid
    obtain rfl := Option.some.inj he'
    exact hid ▸ he
  · exact h id' e' he'

end Pushing

theorem holds_fill {e : Partial} {idx k : Nat} {p piece : List UInt8}
    (h : (e.fill idx p).Holds k piece) : e.Holds k piece ∨ (k = idx ∧ piece = p) := by
  rw [Partial.Holds, Partial.fill, List.getElem?_set] at h
  split at h
  · rename_i hk
    split at h
    · exact Or.inr ⟨hk.symm, (Option.some.inj (Option.some.inj h)).symm⟩
    · cases h
  · exact Or.inl h

theorem holds_opening {n : UInt16} {k : Nat} {p piece : List UInt8} {now : MonotonicTime}
    (h : (opening n p now).Holds k piece) : k = 0 ∧ piece = p := by
  rw [Partial.Holds, opening, List.getElem?_set] at h
  split at h
  · rename_i hk
    split at h
    · exact ⟨hk.symm, (Option.some.inj (Option.some.inj h)).symm⟩
    · cases h
  · rw [List.getElem?_replicate] at h
    split at h <;> cases h

/-- **A piece of a posting** goes where the other pieces of it are. -/
theorem Pushed.collects {log : List Posting} (hids : (log.map Posting.messageId).Nodup)
    {r r' : MessageReassembler} {id : MessageId} {idx : Nat} {n : UInt16} {piece : List UInt8}
    {now : MonotonicTime} {out : PushOutcome} (h : Pushed r id idx n piece now out r')
    (hr : r.Consistent) (hcol : r.Collects log) {p : Posting} (hp : p ∈ log)
    (hid : p.messageId = id) (hn : n = p.total) (hoffers : p.Offers idx piece) :
    r'.Collects log := by
  have hsame : ∀ p' ∈ log, p'.messageId = id → p' = p := fun p' hp' hid' =>
    List.inj_on_of_nodup_map hids hp' hp (hid'.trans hid.symm)
  have htouch : ∀ e, r.entries[id]? = some e → ∃ p ∈ log, p.messageId = id ∧
      ({ e with lastTouch := now } : Partial).total = p.total ∧
      ∀ k piece, Partial.Holds { e with lastTouch := now } k piece → p.Offers k piece :=
    fun e he => hcol id e he
  have hfill : ∀ e, r.entries[id]? = some e → ∃ p ∈ log, p.messageId = id ∧
      (Partial.fill { e with lastTouch := now } idx piece).total = p.total ∧
      ∀ k q, (Partial.fill { e with lastTouch := now } idx piece).Holds k q → p.Offers k q := by
    intro e he
    obtain ⟨p', hp', hid', htotal, hslots⟩ := hcol id e he
    obtain rfl := hsame p' hp' hid'
    refine ⟨p', hp', hid', htotal, fun k q hheld => ?_⟩
    rcases holds_fill hheld with hold | ⟨rfl, rfl⟩
    · exact hslots k q hold
    · exact hoffers
  have hroom : (r.makeRoom r.order).Collects log := by
    rcases makeRoom_eq hr with ⟨-, heq⟩ | ⟨oldest, -, -, heq⟩
    · rw [heq]
      exact hcol
    · rw [heq]
      exact hcol.remove oldest
  cases h with
  | mismatched => exact hcol
  | duplicate he => exact hcol.insert (htouch _ he)
  | overflow he => exact hcol.insert (htouch _ he)
  | stored he => exact hcol.insert (hfill _ he)
  | completed he => exact (hcol.insert (hfill _ he)).remove id
  | orphan => exact hcol
  | tooLong => exact hcol
  | noSpace => exact hroom
  | opened he hidx =>
    refine hroom.insert ⟨p, hp, hid, hn, fun k q hheld => ?_⟩
    obtain ⟨rfl, rfl⟩ := holds_opening hheld
    rw [← hidx]
    exact hoffers

theorem Collects.sweep {log : List Posting} {r : MessageReassembler} (h : r.Collects log)
    (now : MonotonicTime) : (r.sweep now).Collects log := by
  refine h.sub fun id e he => ?_
  rw [getElem?_sweep] at he
  exact Option.filter_eq_some_iff.mp he |>.1

/-- **A message that completes** is the message of its posting, and all of it was accepted. -/
theorem Pushed.whole {log : List Posting} (hids : (log.map Posting.messageId).Nodup)
    {r r' : MessageReassembler} {id : MessageId} {idx : Nat} {n : UInt16} {piece full : List UInt8}
    {now : MonotonicTime} (h : Pushed r id idx n piece now (.delivered full) r')
    (hr : r.Consistent) (hidx : idx < n.toNat) (hcol : r.Collects log) {p : Posting} (hp : p ∈ log)
    (hwf : p.WellFormed) (hid : p.messageId = id) (hn : n = p.total)
    (hoffers : p.Offers idx piece) :
    p.complete = true ∧ full = p.pieces.flatten := by
  cases h with
  | @completed e he htotal hempty hfull =>
    obtain ⟨p', hp', hid', htotal', hslots⟩ := hcol id e he
    obtain rfl := List.inj_on_of_nodup_map hids hp' hp (hid'.trans hid.symm)
    have hlen : n.toNat = p'.pieces.length := by
      rw [hn, Posting.total]
      exact UInt16.toNat_ofNat_of_lt' (Nat.lt_succ_of_le hwf.pieces)
    have hv := (hr.valid _ _ he).touch now
    have hvf := hv.fill (htotal ▸ hidx) hempty piece
    generalize hfilled : Partial.fill { e with lastTouch := now } idx piece = f at hvf
    have hftotal : f.total = n := by rw [← hfilled]; exact htotal
    have hfreceived : f.received = f.total.toNat := by
      rw [hftotal, ← hfull, ← hfilled]
      rfl
    have hall := hvf.filled hfreceived
    have hslots' : ∀ k q, f.Holds k q → p'.Offers k q := by
      intro k q hheld
      rw [← hfilled] at hheld
      rcases holds_fill hheld with hold | ⟨rfl, rfl⟩
      · exact hslots k q hold
      · exact hoffers
    have hslots : f.parts.length = p'.pieces.length := by rw [hvf.slots, hftotal, hlen]
    -- every slot is filled with the piece of the posting
    have hslot : ∀ k, k < p'.pieces.length →
        k < p'.taken ∧ f.parts[k]? = (p'.pieces[k]?).map some := by
      intro k hk
      have hget : f.parts[k]? = some f.parts[k] := List.getElem?_eq_getElem (by omega)
      obtain ⟨q, hq⟩ := Option.isSome_iff_exists.mp (hall _ (List.mem_of_getElem? hget))
      obtain ⟨hlt, hpiece⟩ := hslots' k q (by rw [Partial.Holds, hget, hq])
      exact ⟨hlt, by rw [hget, hq, hpiece]; rfl⟩
    refine ⟨?_, ?_⟩
    · rw [Posting.complete, decide_eq_true_eq]
      refine Nat.le_antisymm hwf.taken (Nat.le_of_not_lt fun hlt => ?_)
      exact absurd (hslot p'.taken hlt).1 (Nat.lt_irrefl _)
    · rw [Partial.full, List.flatMap_def]
      refine congrArg List.flatten (List.ext_getElem? fun k => ?_)
      rw [List.getElem?_map]
      rcases Nat.lt_or_ge k p'.pieces.length with hk | hk
      · rw [(hslot k hk).2]
        cases p'.pieces[k]? <;> rfl
      · rw [List.getElem?_eq_none (by omega), List.getElem?_eq_none hk]
        rfl

end MessageReassembler

/-! ## 3. Delivery -/

/-- The message with number `j` of a group: there, and accepted in full. -/
def numbered (log : List Posting) (g : OrderedGroupId) (j : Nat) : Option (List UInt8) :=
  ((onGroup log g)[j]?).bind Posting.whole

/-- What the receiver relies on: message ids are used once, and the numbers of a group are those of
its postings. -/
structure Ledgered (log : List Posting) (g : OrderedGroupId) : Prop where
  ids : (log.map Posting.messageId).Nodup
  wellFormed : ∀ p ∈ log, p.WellFormed
  seqs : ∀ j p, (onGroup log g)[j]? = some p → p.orderSeq = UInt32.ofNat j
  few : (onGroup log g).length < 2 ^ 32
  groups : ((log.map Posting.groupId).toFinset.erase 0).card ≤ maxOrderedGroups

def payloadsOn (g : OrderedGroupId) (messages : List ReceivedMessage) : List (List UInt8) :=
  messages.filterMap fun m =>
    match m.class' with
    | .reliableOrdered g' _ => if g' = g then some m.payload else none
    | _ => none

namespace DeliveryState

/-- The delivery state after the first `k` messages of `g` have been handed over. -/
structure Tracks (log : List Posting) (g : OrderedGroupId) (k : Nat) (d : DeliveryState) :
    Prop where
  consistent : d.Consistent
  collects : d.reassembler.Collects log
  groups : ∀ g' ∈ d.orderedGroups, g' ∈ (log.map Posting.groupId).toFinset.erase 0
  cursor : (d.groupAt g).Follows (numbered log g) (onGroup log g).length k

variable {log : List Posting} {g : OrderedGroupId} {k : Nat} {d : DeliveryState}

/-- **A complete message is a posting**, accepted in full. -/
theorem completes_posted (hlog : Ledgered log g) (h : Tracks log g k d) {a : Arrival}
    (hgen : Genuine log a.frame) {w : Whole} (hw : d.completes a = some w) (hw0 : w.groupId ≠ 0) :
    ∃ p ∈ log, p.groupId = w.groupId ∧ p.orderSeq = w.orderSeq ∧ p.complete = true ∧
      w.payload = p.pieces.flatten := by
  rcases completes_eq_some hw with ⟨fid, n, piece, hframe, hcase⟩ | ⟨-, -, -, hzero⟩
  · obtain ⟨p, hp, hid, hn, hgrp, hseq, hoffers⟩ := hgen _ _ _ _ _ _ hframe
    have hwf := hlog.wellFormed p hp
    have hlen : n.toNat = p.pieces.length := by
      rw [hn, Posting.total]
      exact UInt16.toNat_ofNat_of_lt' (Nat.lt_succ_of_le hwf.pieces)
    rcases hcase with ⟨hmany, hfull⟩ | ⟨hone, hpay⟩
    · have hfid : fid.toNat < n.toNat := by
        have htaken := hwf.taken
        have hlt := hoffers.1
        omega
      have hpush := MessageReassembler.push_pushed d.reassembler w.messageId hfid hmany piece a.now
      rw [hfull] at hpush
      obtain ⟨hcomplete, hpay⟩ := hpush.whole hlog.ids (h.consistent.reassembler.sweep _) hfid
        (h.collects.sweep _) hp hwf hid hn hoffers
      exact ⟨p, hp, hgrp.symm, (hseq hw0).symm, hcomplete, hpay⟩
    · -- a message in one piece
      obtain ⟨hlt, hpiece⟩ := hoffers
      have htaken := hwf.taken
      have hshort : n.toNat ≤ 1 := Nat.not_lt.mp fun hlt => hone (UInt16.lt_iff_toNat_lt.mpr hlt)
      have hsingle : p.pieces.length = 1 := by omega
      obtain ⟨only, hpieces⟩ := List.length_eq_one_iff.mp hsingle
      have hzero : fid.toNat = 0 := by omega
      rw [hpieces, hzero] at hpiece
      refine ⟨p, hp, hgrp.symm, (hseq hw0).symm, ?_, ?_⟩
      · rw [Posting.complete, decide_eq_true_eq]
        omega
      · rw [hpay, hpieces, ← Option.some.inj hpiece]
        exact (List.append_nil only).symm
  · exact absurd hzero hw0

/-- The reassembler goes on collecting pieces of postings. -/
theorem Tracks.reassembled (hlog : Ledgered log g) (h : Tracks log g k d) {a : Arrival}
    (hgen : Genuine log a.frame) : (d.reassembled a).Collects log := by
  unfold DeliveryState.reassembled
  split
  · rename_i id fid n g' q piece hframe
    split
    · rename_i hmany
      obtain ⟨p, hp, hid, hn, -, -, hoffers⟩ := hgen _ _ _ _ _ _ hframe
      have hwf := hlog.wellFormed p hp
      have hfid : fid.toNat < n.toNat := by
        have hlen : n.toNat = p.pieces.length := by
          rw [hn, Posting.total]
          exact UInt16.toNat_ofNat_of_lt' (Nat.lt_succ_of_le hwf.pieces)
        have htaken := hwf.taken
        have hlt := hoffers.1
        omega
      have hpush := MessageReassembler.push_pushed d.reassembler id hfid hmany piece a.now
      exact hpush.collects hlog.ids (h.consistent.reassembler.sweep _) (h.collects.sweep _) hp hid hn
        hoffers
    · exact h.collects
  · exact h.collects

theorem Tracks.room (hlog : Ledgered log g) (h : Tracks log g k d) {g' : OrderedGroupId}
    (hused : g' ∈ (log.map Posting.groupId).toFinset.erase 0) (hnew : g' ∉ d.orderedGroups) :
    d.orderedGroups.size < maxOrderedGroups := by
  have hnodup : d.orderedGroups.keys.Nodup := Std.ExtTreeMap.nodup_keys
  have hsub : insert g' d.orderedGroups.keys.toFinset ⊆
      (log.map Posting.groupId).toFinset.erase 0 := by
    intro x hx
    rcases Finset.mem_insert.mp hx with rfl | hx
    · exact hused
    · exact h.groups x (Std.ExtTreeMap.mem_keys.mp (List.mem_toFinset.mp hx))
  have hout : g' ∉ d.orderedGroups.keys.toFinset := by
    rw [List.mem_toFinset, Std.ExtTreeMap.mem_keys]
    exact hnew
  have hcard := Finset.card_le_card hsub
  rw [Finset.card_insert_of_notMem hout, List.toFinset_card_of_nodup hnodup,
    Std.ExtTreeMap.length_keys] at hcard
  exact Nat.lt_of_lt_of_le hcard hlog.groups

theorem payloadsOn_labelled (g g' : OrderedGroupId) (ready : List (UInt32 × List UInt8)) :
    payloadsOn g (labelled g' ready) = if g' = g then ready.map Prod.snd else [] := by
  unfold payloadsOn labelled
  rw [List.filterMap_map]
  split
  · rename_i heq
    induction ready with
    | nil => rfl
    | cons e ready ih => simp [heq]
  · rename_i hne
    rw [List.filterMap_eq_nil_iff]
    intro e he
    simp [hne]

/-- A touch that evicts nothing leaves the other groups as they were. -/
theorem Touched.others {d d' : DeliveryState} {g g' : OrderedGroupId} (h : Touched d g d')
    (hroom : g ∉ d.orderedGroups → d.orderedGroups.size < maxOrderedGroups) (hne : g ≠ g') :
    d'.orderedGroups[g']? = d.orderedGroups[g']? := by
  cases h with
  | tracked h => rfl
  | opened h hlt => rw [Maps.getElem?_insert, if_neg hne]
  | evicting h hfull hlru => exact absurd (hroom h) (by rw [hfull]; exact Nat.lt_irrefl _)

/-- **One frame** of a posting hands over the next messages of the group, or none. -/
theorem Tracks.after (hlog : Ledgered log g) (h : Tracks log g k d) {a : Arrival}
    (hgen : Genuine log a.frame) :
    ∃ k', k ≤ k' ∧ Tracks log g k' (d.after a) ∧
      (payloadsOn g (d.fate a).messages).map some =
        (List.range' k (k' - k)).map (numbered log g) := by
  have hcons := h.consistent.after a
  have hcol : (d.after a).reassembler.Collects log := by
    rw [after_reassembler h.consistent.groups]
    exact h.reassembled hlog hgen
  -- a frame that leaves the groups alone and hands over nothing of a group
  have hstay : (d.after a).orderedGroups = d.orderedGroups →
      payloadsOn g (d.fate a).messages = [] → ∃ k', k ≤ k' ∧ Tracks log g k' (d.after a) ∧
      (payloadsOn g (d.fate a).messages).map some =
        (List.range' k (k' - k)).map (numbered log g) := by
    intro hgroups hnone
    refine ⟨k, Nat.le_refl k, ⟨hcons, hcol, ?_, ?_⟩, by rw [hnone]; simp⟩
    · rw [hgroups]
      exact h.groups
    · rw [groupAt, hgroups]
      exact h.cursor
  cases hw : d.completes a with
  | none =>
    obtain ⟨⟨table, hafter⟩, hmsgs⟩ := onFrame_of_not_completes hw
    refine hstay (by rw [hafter]; rfl) ?_
    rw [payloadsOn, List.filterMap_eq_nil_iff]
    intro m hm
    obtain ⟨key, seq, gen, hclass⟩ := hmsgs m hm
    rw [hclass]
  | some w =>
    have hcolg : (d.collected a).GroupsConsistent :=
      ⟨h.consistent.groups.gens, h.consistent.groups.bound⟩
    have hfate : d.fate a = _ := congrArg Prod.fst (onFrame_of_completes hw)
    have hafter : d.after a = _ := congrArg Prod.snd (onFrame_of_completes hw)
    rcases deliverWhole_cases hcolg w with ⟨-, -, heq⟩ | ⟨-, -, heq⟩ | ⟨hw0, heq, -⟩
    · rw [heq] at hfate hafter
      exact hstay (by rw [hafter]; rfl) (by rw [hfate]; rfl)
    · rw [heq] at hfate hafter
      exact hstay (by rw [hafter]; rfl) (by rw [hfate]; rfl)
    · obtain ⟨p, hp, hpg, hpq, hcomplete, hpay⟩ := completes_posted hlog h hgen hw hw0
      obtain ⟨d1, res, grp', htouch, hin, hspec⟩ :=
        deliverOrdered_spec hcolg w.groupId w.orderSeq w.payload
      rw [heq, hspec] at hfate hafter
      have hused : w.groupId ∈ (log.map Posting.groupId).toFinset.erase 0 := by
        rw [Finset.mem_erase, List.mem_toFinset]
        exact ⟨hw0, hpg ▸ List.mem_map_of_mem hp⟩
      have hothers : ∀ g', w.groupId ≠ g' →
          (d.after a).orderedGroups[g']? = d.orderedGroups[g']? := by
        intro g' hne
        rw [hafter]
        dsimp only
        rw [Maps.getElem?_insert, if_neg hne, htouch.others (h.room hlog hused) hne]
        rfl
      have htouched : (d.after a).orderedGroups[w.groupId]? = some grp' := by
        rw [hafter]
        exact Std.ExtTreeMap.getElem?_insert_self
      have hgroups : ∀ g' ∈ (d.after a).orderedGroups,
          g' ∈ (log.map Posting.groupId).toFinset.erase 0 := by
        intro g' hg'
        by_cases hne : w.groupId = g'
        · exact hne ▸ hused
        · rw [Maps.mem_iff, hothers g' hne, ← Maps.mem_iff] at hg'
          exact h.groups g' hg'
      have hmsgs : payloadsOn g (d.fate a).messages =
          if w.groupId = g then (OrderedGroupReceiver.readyOf res).map Prod.snd else [] := by
        rw [hfate, ← payloadsOn_labelled]
        cases res <;> rfl
      by_cases hsame : w.groupId = g
      · -- the message is one of the group
        have hmem : p ∈ onGroup log g :=
          List.mem_filter.mpr ⟨hp, by rw [hpg, hsame]; exact decide_eq_true rfl⟩
        obtain ⟨j, hj, hget⟩ := List.getElem_of_mem hmem
        have hjth : (onGroup log g)[j]? = some p := by
          rw [List.getElem?_eq_getElem hj, hget]
        have hmsg : numbered log g j = some w.payload := by
          rw [numbered, hjth, Option.bind_some, Posting.whole, if_pos hcomplete, hpay]
        rw [← hpq, hlog.seqs j p hjth, hsame] at hin
        obtain ⟨k', hle, hfol, hout⟩ := hin.follows hlog.few h.cursor hj hmsg
        refine ⟨k', hle, ⟨hcons, hcol, hgroups, ?_⟩, ?_⟩
        · rw [groupAt, ← hsame, htouched]
          rw [← hsame] at hfol
          exact hfol
        · rw [hmsgs, if_pos hsame, List.map_map]
          exact hout
      · refine ⟨k, Nat.le_refl k, ⟨hcons, hcol, hgroups, ?_⟩, ?_⟩
        · rw [groupAt, hothers g hsame]
          exact h.cursor
        · rw [hmsgs, if_neg hsame]
          simp

/-- **All frames**: what is handed over on the group are its messages in order, from the cursor
on. -/
theorem Tracks.handedOver (hlog : Ledgered log g) (as : List Arrival)
    (hgen : ∀ a ∈ as, Genuine log a.frame) {k : Nat} {d : DeliveryState} (h : Tracks log g k d) :
    ∃ k', k ≤ k' ∧ k' ≤ (onGroup log g).length ∧
      (payloadsOn g (d.handedOver as)).map some =
        (List.range' k (k' - k)).map (numbered log g) := by
  induction as generalizing k d with
  | nil => exact ⟨k, Nat.le_refl k, h.cursor.bound, by simp [DeliveryState.handedOver, payloadsOn]⟩
  | cons a as ih =>
    obtain ⟨k1, hle1, h1, hout1⟩ := h.after hlog (hgen a List.mem_cons_self)
    obtain ⟨k2, hle2, hbound, hout2⟩ := ih (fun a ha => hgen a (List.mem_cons_of_mem _ ha)) h1
    refine ⟨k2, by omega, hbound, ?_⟩
    have hsplit : List.range' k (k2 - k) = List.range' k (k1 - k) ++ List.range' k1 (k2 - k1) := by
      rw [show k2 - k = (k1 - k) + (k2 - k1) by omega, ← List.range'_append_1,
        show k + (k1 - k) = k1 by omega]
    rw [DeliveryState.handedOver, payloadsOn, List.filterMap_append, List.map_append, hsplit,
      List.map_append, ← hout1, ← hout2]
    rfl

end DeliveryState

/-! ## 4. What arrives -/

theorem genuine_received {log : List Posting} {fs : List Frame} (h : ∀ f ∈ fs, Genuine log f) :
    ∀ f ∈ received fs, Genuine log f := by
  intro f hf id fid n g q piece heq
  subst heq
  induction fs with
  | nil => cases hf
  | cons f fs ih =>
    have hrest := ih fun f hf => h f (List.mem_cons_of_mem _ hf)
    cases f with
    | mtuProbe id pad => cases List.mem_singleton.mp hf
    | reliableData =>
      rcases List.mem_cons.mp hf with heq | hf
      · exact h _ List.mem_cons_self _ _ _ _ _ _ heq.symm
      · exact hrest hf
    | _ =>
      rcases List.mem_cons.mp hf with heq | hf
      · cases heq
      · exact hrest hf

namespace GtpConnection

variable [CryptoSuite]

/-- **What opens at the receiver** is what the sender sealed. -/
theorem Opens.genuine (hround : CryptoSuite.RoundTrips) {base tx : Bytes 32 × Bytes 12}
    {cid : ConnectionId} (hsep : Net.PhasesSeparate base cid) {log : List Posting} {bound : Nat}
    (hbound : bound ≤ 2 ^ 64) {c : GtpConnection} (hkeys : Keyed tx base cid c)
    (hcounter : c.hot.keyPhaseCounter < 2 ^ 64) {dg : List UInt8}
    (hdg : Authored base cid log bound dg) {hd : PacketHeader} {pt : List UInt8}
    (hopen : c.Opens dg hd pt) : ∀ f ∈ readable (FrameIterator.collect pt), Genuine log f := by
  obtain ⟨phase, hd', fs, hphase, hseal, hcid, hsendable, hgen⟩ := hdg
  obtain ⟨-, m, hadm, hdec⟩ := hopen
  obtain ⟨hheader, -, -⟩ := ConnectionHot.admitHeader_ok hadm
  rw [hseal.decode] at hheader
  obtain ⟨rfl, rfl⟩ := Prod.mk.inj (Except.ok.inj hheader)
  obtain ⟨p, hp, hpay⟩ := ConnectionHot.openDatagram_ok hdec
  obtain ⟨j, hj, rfl⟩ : ∃ j, j < 2 ^ 64 ∧ p = protectorAt base cid j := by
    rcases hp with rfl | hp
    · exact ⟨_, hcounter, hkeys.2.rxProtector⟩
    · obtain ⟨j, hj, rfl⟩ := hkeys.2.previous p hp
      exact ⟨j, by omega, rfl⟩
  obtain ⟨-, rfl⟩ := Net.sealed_opens hround hsep (Nat.lt_of_lt_of_le hphase hbound) hj hseal hcid
    hpay
  rw [Net.readable_collect hsendable]
  exact genuine_received hgen

/-- **All frames that arrive** are of postings. -/
theorem arrivals_genuine (hround : CryptoSuite.RoundTrips) {base tx : Bytes 32 × Bytes 12}
    {cid : ConnectionId} (hsep : Net.PhasesSeparate base cid) {log : List Posting} {bound : Nat}
    (hbound : bound ≤ 2 ^ 64) (ops : List Op)
    (hops : ∀ src dg now ecn, .handleIncoming src dg now ecn ∈ ops → Authored base cid log bound dg)
    {c : GtpConnection} (hkeys : Keyed tx base cid c)
    (hcounter : c.hot.keyPhaseCounter + ops.length < 2 ^ 64) :
    ∀ a ∈ c.arrivals ops, Genuine log a.frame := by
  induction ops generalizing c with
  | nil =>
    intro a ha
    cases ha
  | cons op ops ih =>
    intro a ha
    rw [List.length_cons] at hcounter
    have hstep := c.step_counter op
    rw [arrivals] at ha
    rcases List.mem_append.mp ha with ha | ha
    · cases op with
      | handleIncoming src dg now ecn =>
        obtain ⟨f, hf, rfl⟩ := List.mem_map.mp ha
        by_cases hopen : ∃ hd pt, c.Opens dg hd pt
        · obtain ⟨hd, pt, hopen⟩ := hopen
          rw [hopen.openedFrames] at hf
          exact hopen.genuine hround hsep hbound hkeys (by omega)
            (hops src dg now ecn List.mem_cons_self) f hf
        · rw [openedFrames_of_not_opens fun hd pt h => hopen ⟨hd, pt, h⟩] at hf
          cases hf
      | _ => cases ha
    · exact ih (fun src dg now ecn hmem => hops src dg now ecn (List.mem_cons_of_mem _ hmem))
        (hkeys.step op) (by omega) a ha

end GtpConnection

/-! ## 5. Every session -/

/-- No message is handed over on group 0: what is sent on it is delivered unordered. -/
theorem DeliveryState.payloadsOn_zero {d : DeliveryState} (h : d.Consistent) (as : List Arrival) :
    payloadsOn 0 (d.handedOver as) = [] := by
  induction as generalizing d with
  | nil => rfl
  | cons a as ih =>
    have hone : payloadsOn 0 (d.fate a).messages = [] := by
      cases hw : d.completes a with
      | none =>
        obtain ⟨-, hmsgs⟩ := onFrame_of_not_completes hw
        rw [payloadsOn, List.filterMap_eq_nil_iff]
        intro m hm
        obtain ⟨key, seq, gen, hclass⟩ := hmsgs m hm
        rw [hclass]
      | some w =>
        have hcolg : (d.collected a).GroupsConsistent := ⟨h.groups.gens, h.groups.bound⟩
        have hfate : d.fate a = _ := congrArg Prod.fst (onFrame_of_completes hw)
        rcases deliverWhole_cases hcolg w with ⟨-, -, heq⟩ | ⟨-, -, heq⟩ | ⟨hw0, heq, -⟩
        · rw [hfate, heq]
          rfl
        · rw [hfate, heq]
          rfl
        · obtain ⟨d1, res, grp', -, -, hspec⟩ :=
            deliverOrdered_spec hcolg w.groupId w.orderSeq w.payload
          rw [hfate, heq, hspec]
          cases res with
          | ok ready => exact (payloadsOn_labelled 0 w.groupId ready).trans (if_neg hw0)
          | error e => rfl
    rw [DeliveryState.handedOver, payloadsOn, List.filterMap_append]
    exact congrArg₂ (· ++ ·) hone (ih (h.after a))

/-- The first `k` messages, when all of them are there, are the first of those that are there. -/
theorem initial_of_numbered {ps : List Posting} {out : List (List UInt8)} {k : Nat}
    (h : out.map some = (List.range k).map fun j => (ps[j]?).bind Posting.whole) :
    out <+: ps.filterMap Posting.whole := by
  induction ps generalizing out k with
  | nil =>
    cases k with
    | zero =>
      rw [List.map_eq_nil_iff.mp h]
      exact List.nil_prefix
    | succ k =>
      rw [List.range_succ_eq_map, List.map_cons] at h
      cases out with
      | nil => cases h
      | cons m out => cases (List.cons.inj h).1
  | cons p ps ih =>
    cases k with
    | zero =>
      rw [List.map_eq_nil_iff.mp h]
      exact List.nil_prefix
    | succ k =>
      rw [List.range_succ_eq_map, List.map_cons, List.map_map] at h
      cases out with
      | nil => cases h
      | cons m out =>
        obtain ⟨hm, hrest⟩ := List.cons.inj h
        rw [List.filterMap_cons_some (show p.whole = some m from hm.symm)]
        exact List.cons_prefix_cons.mpr ⟨rfl, ih hrest⟩

namespace GtpConnection

variable [CryptoSuite]

/-- The log of a run that uses few groups, and sends few messages on this one. -/
theorem Accounted.ledgered {c c' : GtpConnection} {ops : List Op}
    (h : Accounted (c.postings ops) c')
    (hgroups : ((ops.filterMap Op.orderedGroup).toFinset.erase 0).card ≤ maxOrderedGroups)
    {g : OrderedGroupId} (hg : g ≠ 0) (hfew : (ops.filterMap Op.orderedGroup).count g < 2 ^ 32) :
    Ledgered (c.postings ops) g where
  ids := h.nodup
  wellFormed := h.wellFormed
  seqs := h.seqs g hg
  few := by
    have hcount := count_postings hg ops c
    rw [List.count_eq_countP, List.countP_map, List.countP_eq_length_filter] at hcount
    exact Nat.lt_of_le_of_lt hcount hfew
  groups := by
    refine (Finset.card_le_card fun g' hg' => ?_).trans hgroups
    obtain ⟨hne, hmem⟩ := Finset.mem_erase.mp hg'
    have hpos := List.count_pos_iff.mpr (List.mem_toFinset.mp hmem)
    have hcount := count_postings hne ops c
    exact Finset.mem_erase.mpr ⟨hne, List.mem_toFinset.mpr (List.count_pos_iff.mp
      (Nat.lt_of_lt_of_le hpos hcount))⟩

omit [CryptoSuite] in
theorem Setup.start_tracks (s : Setup) (log : List Posting) (g : OrderedGroupId) :
    s.start.hot.toDeliveryState.Tracks log g 0 where
  consistent := s.start_consistent
  collects := by
    intro id e he
    have hnone : s.start.hot.reassembler.entries[id]? = none := Std.ExtTreeMap.getElem?_empty
    rw [hnone] at he
    cases he
  groups := by
    intro g' hg'
    exact absurd hg' Std.ExtTreeMap.not_mem_empty
  cursor := by
    refine ⟨rfl, Nat.zero_le _, ?_⟩
    intro q m hm
    have hnone : ((s.start.hot.toDeliveryState.groupAt g).reorderBuffer)[q]? = none := by
      rw [DeliveryState.groupAt]
      exact Std.ExtTreeMap.getElem?_empty
    cases hnone.symm.trans hm

/-- **Ordered delivery.**  Let one end of a session make any calls, and let the other end make any
calls and get any of the datagrams that the first one hands out, each as often as it likes and in
any order.  Then on every group the messages that the other end returns are, in order, the first of
those that the first end sent, provided that the sender uses at most 256 groups, and fewer than 2^32
messages are sent on the group. -/
theorem ordered_delivery (hround : CryptoSuite.RoundTrips) (s : Net.Session) (x : Bool)
    (hsep : Net.PhasesSeparate (s.base x) s.cid) (sends receives : List Op)
    (hsends : sends.length < 2 ^ 64 - 1) (hreceives : receives.length < 2 ^ 64)
    (hwire : ∀ src dg now ecn, .handleIncoming src dg now ecn ∈ receives →
      dg ∈ (s.setup x).start.handedOut sends)
    (hgroups : ((sends.filterMap Op.orderedGroup).toFinset.erase 0).card ≤ maxOrderedGroups)
    (g : OrderedGroupId) (hfew : (sends.filterMap Op.orderedGroup).count g < 2 ^ 32) :
    payloadsOn g ((s.setup (!x)).start.returned receives) <+:
      sentOn g (s.setup x).start sends := by
  have hstart := (s.setup (!x)).start_consistent
  have hout : payloadsOn g ((s.setup (!x)).start.returned receives) <+:
      payloadsOn g ((s.setup (!x)).start.hot.toDeliveryState.handedOver
        ((s.setup (!x)).start.arrivals receives)) :=
    (returned_isInitial _ receives).filterMap _
  refine hout.trans ?_
  by_cases hg : g = 0
  · rw [hg, DeliveryState.payloadsOn_zero hstart]
    exact List.nil_prefix
  rw [sentOn_eq hg]
  -- the sender: the log of its calls
  have hbase : (s.keys.forRole (!x)).2 = s.base x := by cases x <;> rfl
  have hone : (s.setup x).start.hot.nextMessageId.toNat = 1 := rfl
  have hsent := Accounted.run sends (s.setup x).start_accounted (by omega)
  have hauthored := handedOut_authored sends (s.setup x).start_keyed (s.setup x).start_accounted
    (by omega)
  rw [List.nil_append] at hsent hauthored
  have hphase : (s.setup x).start.hot.keyPhaseCounter = 0 := rfl
  rw [hphase, Nat.zero_add] at hauthored
  have hlog := hsent.ledgered hgroups hg hfew
  -- the receiver: every frame that arrives is of the log
  have hkeys : Keyed (s.keys.forRole (!x)).1 (s.base x) s.cid (s.setup (!x)).start := by
    rw [← hbase]
    exact (s.setup (!x)).start_keyed
  have hgen := arrivals_genuine hround hsep (by omega : sends.length ≤ 2 ^ 64) receives
    (fun src dg now ecn hmem => hauthored dg (hwire src dg now ecn hmem)) hkeys
    (by rw [show (s.setup (!x)).start.hot.keyPhaseCounter = 0 from rfl]; omega)
  obtain ⟨k, -, -, hhanded⟩ := DeliveryState.Tracks.handedOver hlog _ hgen
    ((s.setup (!x)).start_tracks _ g)
  rw [Nat.sub_zero, ← List.range_eq_range'] at hhanded
  exact initial_of_numbered hhanded

end GtpConnection

/-! ## 6. On a concrete session -/

namespace GtpConnection

attribute [local instance] keyTagSuite

/-- Two messages on group 1, each in a datagram of its own. -/
def twoMoves : List Op :=
  [.sendReliableOrdered 1 [1] .p1Input none 10, .produce 10 (List.replicate 200 0),
    .sendReliableOrdered 1 [2] .p1Input none 10, .produce 10 (List.replicate 200 0)]

/-- The second datagram arrives first. -/
def swapped : List Op :=
  (((Net.sampleSession.setup true).start.handedOut twoMoves).reverse).map
    (.handleIncoming ⟨1, 4433⟩ · 30 0)

/-- The theorem at a session where the datagrams overtake each other. -/
theorem ordered_delivery_swapped :
    payloadsOn 1 ((Net.sampleSession.setup false).start.returned swapped) = [[1], [2]] ∧
      payloadsOn 1 ((Net.sampleSession.setup false).start.returned swapped) <+:
        sentOn 1 (Net.sampleSession.setup true).start twoMoves := by
  refine ⟨by decide +kernel, ordered_delivery keyTagSuite_roundTrips Net.sampleSession true
    (Net.sampleSession_separates true) twoMoves swapped (by decide +kernel) (by decide +kernel) ?_
    (by decide +kernel) 1 (by decide +kernel)⟩
  intro src dg now ecn hmem
  obtain ⟨dg', hdg', heq⟩ := List.mem_map.mp hmem
  obtain ⟨rfl, rfl, rfl, rfl⟩ := Op.handleIncoming.inj heq
  exact List.mem_reverse.mp hdg'

end GtpConnection

end Gtp
