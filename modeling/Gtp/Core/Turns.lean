/-
# Where ordered delivery ends

The cursor of a group is a number of 32 bits, and the receiver keeps the cursors of 256 groups.
When a copy of the first message of a group has waited while 2^32 - 1 more messages of the group
were delivered, the cursor has come round to its number; when it has waited while 256 other groups
were opened, the cursor starts over.  Either way the copy is delivered as the next message.

* `Expects` is a group that holds nothing and waits for a number; `Expects.delivers` is the message
  with that number, `Expects.turns` any number of them.
* `Aging` is a group that is the oldest one of the table; `Aging.others` is 256 groups after it, and
  then it is forgotten.
* `turn_again` is the copy at the end of either run, and the sender is that of `Gtp.Core.Repeats`.

Both runs are conforming ones: each datagram arrives once and in the order in which it was sent, and
the copy is there because no acknowledgement was.  They are too long to be evaluated, one of them
with 2^32 datagrams.
-/
import Gtp.Core.Order

namespace Gtp

/-! ## 1. The next message -/

theorem payloadsOn_append (g : OrderedGroupId) (ms ms' : List ReceivedMessage) :
    payloadsOn g (ms ++ ms') = payloadsOn g ms ++ payloadsOn g ms' := List.filterMap_append ..

namespace DeliveryState

/-- A message of one fragment needs no reassembly. -/
theorem onFrame_ordered {g : OrderedGroupId} (hg : g ≠ 0) (d : DeliveryState) (id : MessageId)
    (q : UInt32) (m : List UInt8) (now : MonotonicTime) :
    d.onFrame (.reliableData id 0 1 g q m) now = d.deliverOrdered g q m := by
  have hone : ¬ (1 : UInt16) < 1 := by decide
  rw [onFrame, onReliableData, if_neg hone, deliverReliable, if_neg hg]

/-- The group waits for `q`, and holds nothing. -/
structure Expects (d : DeliveryState) (g : OrderedGroupId) (q : UInt32) : Prop where
  next : (d.groupAt g).nextExpected = q
  buffer : (d.groupAt g).reorderBuffer = ∅

/-- A group that is not in the table expects its first message. -/
theorem expects_of_not_mem {d : DeliveryState} {g : OrderedGroupId} (h : g ∉ d.orderedGroups) :
    d.Expects g 0 := by
  have hnew : d.groupAt g = .new g := by
    rw [groupAt, Maps.not_mem_iff.mp h]
    rfl
  exact ⟨by rw [hnew]; rfl, by rw [hnew]; rfl⟩

/-- **The next message** is handed over at once. -/
theorem Expects.delivers {d : DeliveryState} {g : OrderedGroupId} {q : UInt32} (h : d.Expects g q)
    (hd : d.GroupsConsistent) (m : List UInt8) :
    payloadsOn g (d.deliverOrdered g q m).1.messages = [m] ∧
      (d.deliverOrdered g q m).2.Expects g (q + 1) := by
  have hstale : OrderedGroupReceiver.seqIsStale q q = false := by
    simp [OrderedGroupReceiver.seqIsStale]
  have hin : (d.groupAt g).onIncoming q m =
      (.ok [(q, m)], { d.groupAt g with nextExpected := q + 1 }) := by
    rw [OrderedGroupReceiver.onIncoming, h.next, if_neg (by rw [hstale]; exact Bool.false_ne_true),
      if_pos rfl]
    have hsize : (d.groupAt g).reorderBuffer.size = 0 := by
      rw [h.buffer]
      exact Std.ExtTreeMap.size_empty
    rw [hsize]
    rfl
  have hdeliver : d.deliverOrdered g q m = (.delivered [⟨.reliableOrdered g q, m⟩],
      { d.orderedGroupMut g with
        orderedGroups := (d.orderedGroupMut g).orderedGroups.insert g
          { d.groupAt g with nextExpected := q + 1 } }) := by
    rw [deliverOrdered, (orderedGroupMut_touched hd g).group]
    dsimp only
    rw [hin]
    rfl
  rw [hdeliver]
  refine ⟨?_, ?_, ?_⟩
  · simp [Disposition.messages, payloadsOn]
  · rw [groupAt]
    dsimp only
    rw [Std.ExtTreeMap.getElem?_insert_self]
    rfl
  · rw [groupAt]
    dsimp only
    rw [Std.ExtTreeMap.getElem?_insert_self]
    exact h.buffer

/-- A frame with the next message. -/
theorem Expects.handsOver {d : DeliveryState} {g : OrderedGroupId} {q : UInt32} (h : d.Expects g q)
    (hd : d.GroupsConsistent) (hg : g ≠ 0) (id : MessageId) (m : List UInt8) (now : MonotonicTime) :
    payloadsOn g (d.handedOver [⟨.reliableData id 0 1 g q m, now⟩]) = [m] := by
  rw [DeliveryState.handedOver, DeliveryState.handedOver, List.append_nil, fate,
    onFrame_ordered hg]
  exact (h.delivers hd m).1

/-! ## 2. A cursor that comes round -/

open GtpConnection in
/-- **Messages in their turn** are all handed over, and move the cursor by as many. -/
theorem Expects.turns {g : OrderedGroupId} (hg : g ≠ 0) (b : UInt8) (now : MonotonicTime) (n : Nat)
    {d : DeliveryState} (hd : d.Consistent) (id : MessageId)
    {seqs : Std.ExtTreeMap OrderedGroupId UInt32 compare} (h : d.Expects g ((seqs[g]?).getD 0)) :
    let as := arriving now (letterFrames id seqs (List.replicate n (some g, b)))
    payloadsOn g (d.handedOver as) = List.replicate n [b] ∧ (as.foldl after d).Consistent ∧
      (as.foldl after d).Expects g ((seqs[g]?).getD 0 + UInt32.ofNat n) := by
  induction n generalizing d id seqs with
  | zero =>
    refine ⟨rfl, hd, ?_⟩
    rw [show UInt32.ofNat 0 = 0 from rfl, UInt32.add_zero]
    exact h
  | succ n ih =>
    have hframe := onFrame_ordered hg d id ((seqs[g]?).getD 0) [b] now
    obtain ⟨hout, hnext⟩ := h.delivers hd.groups [b]
    rw [← hframe] at hout hnext
    have hseqs : ((seqs.insert g ((seqs[g]?).getD 0 + 1))[g]?).getD 0 = (seqs[g]?).getD 0 + 1 := by
      rw [Std.ExtTreeMap.getElem?_insert_self]
      rfl
    rw [← hseqs] at hnext
    obtain ⟨hrest, hcons, hlast⟩ := ih
      (hd.after ⟨.reliableData id 0 1 g ((seqs[g]?).getD 0) [b], now⟩) (id + 1) hnext
    dsimp only
    rw [List.replicate_succ, letterFrames, arriving, List.map_cons]
    refine ⟨?_, hcons, ?_⟩
    · rw [DeliveryState.handedOver, payloadsOn_append]
      exact (congrArg₂ (· ++ ·) hout hrest)
    · rw [hseqs, UInt32.add_assoc, UInt32.add_comm 1, ← UInt32.ofNat_one,
        ← UInt32.ofNat_add] at hlast
      exact hlast

/-! ## 3. A group that is forgotten -/

/-- The group that was touched before all others. -/
def Oldest (gens : Std.ExtTreeMap OrderedGroupId Nat compare) (g : OrderedGroupId) (bound : Nat) :
    Prop :=
  ∃ t ≤ bound, gens[g]? = some t ∧ ∀ g' v, g' ≠ g → gens[g']? = some v → t < v

theorem Oldest.leastRecentlyUsed {gens : Std.ExtTreeMap OrderedGroupId Nat compare}
    {g : OrderedGroupId} {bound : Nat} (h : Oldest gens g bound) {lru : OrderedGroupId}
    (hlru : leastRecentlyUsed gens = some lru) : lru = g := by
  obtain ⟨t, -, hg, hothers⟩ := h
  obtain ⟨v, hv, hle⟩ := leastRecentlyUsed_oldest hlru
  by_contra hne
  exact Nat.lt_irrefl _ (Nat.lt_of_lt_of_le (hothers lru v hne hv) (hle g t hg))

theorem Oldest.insert {gens : Std.ExtTreeMap OrderedGroupId Nat compare} {g g' : OrderedGroupId}
    {bound : Nat} (h : Oldest gens g bound) (hne : g' ≠ g) :
    Oldest (gens.insert g' (bound + 1)) g (bound + 1) := by
  obtain ⟨t, ht, hg, hothers⟩ := h
  refine ⟨t, Nat.le_succ_of_le ht, ?_, fun x v hx hv => ?_⟩
  · rw [Maps.getElem?_insert, if_neg hne]
    exact hg
  · rw [Maps.getElem?_insert] at hv
    split at hv
    · rw [← Option.some.inj hv]
      exact Nat.lt_succ_of_le ht
    · exact hothers x v hx hv

/-- The group is the oldest one of the table, and these have come later. -/
structure Aging (d : DeliveryState) (g : OrderedGroupId) (later : List OrderedGroupId) : Prop where
  consistent : d.Consistent
  size : d.orderedGroups.size = later.length + 1
  members : ∀ g', g' ∈ d.orderedGroups → g' = g ∨ g' ∈ later
  oldest : Oldest d.groupGens g d.genCounter

section Touching

variable {d : DeliveryState} {g g' : OrderedGroupId} {later : List OrderedGroupId}

theorem payloadsOn_others (hd : d.GroupsConsistent) (hne : g' ≠ g) (q : UInt32) (m : List UInt8) :
    payloadsOn g (d.deliverOrdered g' q m).1.messages = [] := by
  obtain ⟨d1, res, grp, -, -, hspec⟩ := deliverOrdered_spec hd g' q m
  rw [hspec]
  cases res with
  | ok ready => exact (payloadsOn_labelled g g' ready).trans (if_neg hne)
  | error e => rfl

theorem aging_first (hd : d.Consistent) (hgroups : d.orderedGroups = ∅) (hgens : d.groupGens = ∅)
    (q : UInt32) (m : List UInt8) (hcons : (d.deliverOrdered g q m).2.Consistent) :
    Aging (d.deliverOrdered g q m).2 g [] := by
  have hout : g ∉ d.orderedGroups := by
    rw [hgroups]
    exact Std.ExtTreeMap.not_mem_empty
  obtain ⟨d1, res, grp, htouch, -, hspec⟩ := deliverOrdered_spec hd.groups g q m
  have hmem := htouch.mem
  rw [hspec] at hcons ⊢
  cases htouch with
  | tracked hin => exact absurd hin hout
  | evicting _ hfull _ =>
    rw [hgroups] at hfull
    exact absurd hfull (by decide)
  | opened _ _ =>
    refine ⟨hcons, ?_, fun x hx => ?_, d.genCounter + 1, Nat.le_refl _, ?_, fun x v hx hv => ?_⟩
    · dsimp only at hmem ⊢
      rw [Maps.size_insert_of_mem hmem, Std.ExtTreeMap.size_insert,
        if_neg fun hc => hout (Std.ExtTreeMap.mem_iff_contains.mpr hc), hgroups]
      rfl
    · dsimp only at hx
      rw [Maps.mem_insert, Maps.mem_insert, hgroups] at hx
      rcases hx with rfl | rfl | hx
      · exact Or.inl rfl
      · exact Or.inl rfl
      · exact absurd hx Std.ExtTreeMap.not_mem_empty
    · exact Std.ExtTreeMap.getElem?_insert_self
    · dsimp only at hv
      rw [Maps.getElem?_insert, if_neg (Ne.symm hx), hgens] at hv
      cases Std.ExtTreeMap.getElem?_empty.symm.trans hv

/-- **One more group** makes the others older. -/
theorem Aging.touched (h : Aging d g later) (hnew : g' ∉ g :: later)
    (hroom : later.length + 1 < maxOrderedGroups) (q : UInt32) (m : List UInt8)
    (hcons : (d.deliverOrdered g' q m).2.Consistent) :
    Aging (d.deliverOrdered g' q m).2 g (later ++ [g']) := by
  have hout : g' ∉ d.orderedGroups := fun hmem =>
    hnew (List.mem_cons.mpr (h.members g' hmem))
  obtain ⟨d1, res, grp, htouch, -, hspec⟩ := deliverOrdered_spec h.consistent.groups g' q m
  have hmem := htouch.mem
  rw [hspec] at hcons ⊢
  cases htouch with
  | tracked hin => exact absurd hin hout
  | evicting _ hfull _ => exact absurd (h.size.symm.trans hfull) (Nat.ne_of_lt hroom)
  | opened _ _ =>
    refine ⟨hcons, ?_, fun x hx => ?_, ?_⟩
    · dsimp only at hmem ⊢
      rw [Maps.size_insert_of_mem hmem, Std.ExtTreeMap.size_insert,
        if_neg fun hc => hout (Std.ExtTreeMap.mem_iff_contains.mpr hc), h.size, List.length_append,
        List.length_singleton]
    · dsimp only at hx
      rw [Maps.mem_insert, Maps.mem_insert] at hx
      rcases hx with rfl | rfl | hx
      · exact Or.inr (List.mem_append_right _ (List.mem_singleton_self _))
      · exact Or.inr (List.mem_append_right _ (List.mem_singleton_self _))
      · exact (h.members x hx).imp_right (List.mem_append_left _)
    · exact h.oldest.insert fun heq => hnew (heq ▸ List.mem_cons_self)

/-- **One group too many** makes the receiver forget the oldest. -/
theorem Aging.forgotten (h : Aging d g later) (hnew : g' ∉ g :: later)
    (hfull : later.length + 1 = maxOrderedGroups) (q : UInt32) (m : List UInt8) :
    g ∉ (d.deliverOrdered g' q m).2.orderedGroups := by
  have hout : g' ∉ d.orderedGroups := fun hmem =>
    hnew (List.mem_cons.mpr (h.members g' hmem))
  have hne : g' ≠ g := fun heq => hnew (heq ▸ List.mem_cons_self)
  obtain ⟨d1, res, grp, htouch, -, hspec⟩ := deliverOrdered_spec h.consistent.groups g' q m
  rw [hspec]
  cases htouch with
  | tracked hin => exact absurd hin hout
  | opened _ hroom => exact absurd (h.size.trans hfull) (Nat.ne_of_lt hroom)
  | evicting _ _ hlru =>
    rw [h.oldest.leastRecentlyUsed hlru]
    dsimp only
    rw [Maps.mem_insert, Maps.mem_insert, Maps.mem_erase]
    rintro (heq | heq | ⟨hself, -⟩)
    · exact hne heq
    · exact hne heq
    · exact hself rfl

end Touching

open GtpConnection in
/-- **256 others**: the group is forgotten, and expects its first message. -/
theorem Aging.others {g : OrderedGroupId} (b : UInt8) (now : MonotonicTime)
    (gs : List OrderedGroupId) {later : List OrderedGroupId} {d : DeliveryState}
    (h : Aging d g later) (hnew : (g :: later ++ gs).Nodup) (hzero : 0 ∉ gs)
    (hmany : later.length + gs.length = maxOrderedGroups) (id : MessageId)
    (seqs : Std.ExtTreeMap OrderedGroupId UInt32 compare) :
    let as := arriving now (letterFrames id seqs (gs.map fun g' => (some g', b)))
    payloadsOn g (d.handedOver as) = [] ∧ (as.foldl after d).Consistent ∧
      (as.foldl after d).Expects g 0 := by
  induction gs generalizing later d id seqs with
  | nil =>
    have hbound := h.consistent.groups.bound
    rw [h.size] at hbound
    exact absurd hbound (by rw [List.length_nil] at hmany; omega)
  | cons x gs ih =>
    dsimp only
    have hx : x ∉ g :: later := by
      intro hmem
      exact (List.nodup_append'.mp hnew).2.2 hmem List.mem_cons_self
    have hx0 : x ≠ 0 := fun heq => hzero (heq ▸ List.mem_cons_self)
    have hne : x ≠ g := fun heq => hx (heq ▸ List.mem_cons_self)
    have hframe := onFrame_ordered hx0 d id ((seqs[x]?).getD 0) [b] now
    have hcons := h.consistent.after ⟨.reliableData id 0 1 x ((seqs[x]?).getD 0) [b], now⟩
    have hout := payloadsOn_others h.consistent.groups hne ((seqs[x]?).getD 0) [b]
    rw [List.map_cons, letterFrames, arriving, List.map_cons, DeliveryState.handedOver,
      payloadsOn_append, List.foldl_cons, fate, hframe, hout, List.nil_append]
    rw [after, hframe] at hcons ⊢
    rw [List.length_cons] at hmany
    by_cases hroom : later.length + 1 < maxOrderedGroups
    · refine ih (h.touched hx hroom _ _ hcons) ?_ (fun h0 => hzero (List.mem_cons_of_mem _ h0)) ?_
        _ _
      · rw [← List.cons_append, List.append_assoc]
        exact hnew
      · rw [List.length_append, List.length_singleton]
        omega
    · -- the last one
      have hnil : gs = [] := List.eq_nil_of_length_eq_zero (by omega)
      subst hnil
      rw [List.length_nil] at hmany
      exact ⟨rfl, hcons, expects_of_not_mem (h.forgotten hx hmany _ _)⟩

end DeliveryState

/-! ## 4. On a concrete session -/

namespace GtpConnection

namespace Again

attribute [local instance] keyTagSuite

/-- Two ends with a wide window. -/
def wideSession : Net.Session where
  cid := 7
  keys := (sampleSetup true).keys
  peerAddr _ := ⟨1, 4433⟩
  preValidated _ := true
  hotConfig _ := wide
  config _ := .default

/-- A message that is sent on group 1. -/
def turn : Letter := (some 1, 1)

/-- The copy of it. -/
def turnCopy : SchedulableItem := retransmissionItem ⟨1, 0, 1, 1, 0, 1, [1]⟩ late

theorem turn_waits : Waits turn turnCopy (parked turn) where
  steady :=
    { state := by decide +kernel
      controls := by decide +kernel
      ack := by decide +kernel
      window := by decide +kernel
      tokens := fun rate => Nat.le_trans (by decide +kernel)
        (tokens_prepare (c := opened turn) (by decide) (by decide +kernel) rate)
      timer := by decide +kernel
      timeout := by decide +kernel
      validated := by decide +kernel
      binding := by decide +kernel
      pending := by decide +kernel }
  idle := ⟨by decide +kernel, by unfold GameScheduler.Fresh; decide +kernel,
    ⟨by decide +kernel, by decide +kernel, by decide +kernel⟩⟩
  popNext := by decide +kernel
  payload := by decide +kernel
  frame := rfl
  small := ⟨rfl, rfl⟩
  keys := by decide +kernel
  connectionId := by decide +kernel
  nextPacketNumber := by decide +kernel
  nextMessageId := by decide +kernel

/-- The receiver with the first message behind it. -/
def started : DeliveryState :=
  (wideSetup false).start.hot.toDeliveryState.after ⟨.reliableData 1 0 1 1 0 [1], late⟩

theorem start_expects : (wideSetup false).start.hot.toDeliveryState.Expects 1 0 :=
  DeliveryState.expects_of_not_mem Std.ExtTreeMap.not_mem_empty

theorem started_eq : started =
    ((wideSetup false).start.hot.toDeliveryState.deliverOrdered 1 0 [1]).2 := by
  rw [started, DeliveryState.after, DeliveryState.onFrame_ordered (by decide)]

theorem started_consistent : started.Consistent := (wideSetup false).start_consistent.after _

/-- **The message comes out again** when, behind the others, the receiver expects it again. -/
theorem turn_again {others : List Letter} (hfew : others.length ≤ 2 ^ 32) {out : List (List UInt8)}
    (hothers : let as := arriving late (letterFrames 2 (parked turn).hot.nextOrderSeqs others)
      payloadsOn 1 (started.handedOver as) = out ∧
        (as.foldl DeliveryState.after started).Consistent ∧
        (as.foldl DeliveryState.after started).Expects 1 0) :
    payloadsOn 1 ((wideSession.setup false).start.returned (received turn others)) =
      [1] :: out ++ [[1]] := by
  obtain ⟨hout, hcons, hexp⟩ := hothers
  have hret : (wideSession.setup false).start.returned (received turn others) = _ :=
    (turn_waits.heard others hfew).2
  have hone : letterFrames 1 ∅ [turn] = [.reliableData 1 0 1 1 0 [1]] := rfl
  have hg : (1 : OrderedGroupId) ≠ 0 := by decide
  have hfirst := start_expects.handsOver (wideSetup false).start_consistent.groups hg 1 [1] late
  have hlast := hexp.handsOver hcons.groups hg 1 [1] late
  rw [hret, sentFrames, hone, arriving, List.map_append, List.map_append,
    DeliveryState.handedOver_append, DeliveryState.handedOver_append, List.foldl_append,
    payloadsOn_append, payloadsOn_append]
  exact congrArg₂ (· ++ ·) (congrArg₂ (· ++ ·) hfirst hout) hlast

/-- The cursor comes round. -/
theorem turn_lap {n : Nat} (hn : n = 2 ^ 32 - 1) :
    payloadsOn 1 ((wideSession.setup false).start.returned
        (received turn (List.replicate n (some 1, 0)))) =
      [1] :: List.replicate n [0] ++ [[1]] := by
  refine turn_again (by rw [List.length_replicate]; omega) ?_
  have hnext : ((parked turn).hot.nextOrderSeqs[(1 : OrderedGroupId)]?).getD 0 = 1 := by
    decide +kernel
  have hexp : started.Expects 1
      (((parked turn).hot.nextOrderSeqs[(1 : OrderedGroupId)]?).getD 0) := by
    rw [hnext, started_eq]
    exact (start_expects.delivers (wideSetup false).start_consistent.groups [1]).2
  obtain ⟨hout, hcons, hlast⟩ := hexp.turns (by decide) 0 late n started_consistent 2
  have hround : (1 : UInt32) + UInt32.ofNat n = 0 := by
    rw [hn]
    decide
  rw [hnext, hround] at hlast
  exact ⟨hout, hcons, hlast⟩

/-- The cursor is forgotten. -/
theorem turn_forgotten {gs : List OrderedGroupId} (hnew : (1 :: gs).Nodup) (hzero : 0 ∉ gs)
    (hmany : gs.length = maxOrderedGroups) :
    payloadsOn 1 ((wideSession.setup false).start.returned
        (received turn (gs.map fun g => (some g, 0)))) = [[1], [1]] := by
  have hfew : (gs.map fun g => ((some g, 0) : Letter)).length ≤ 2 ^ 32 := by
    rw [List.length_map, hmany]
    decide
  have haging : started.Aging 1 [] := by
    have hcons := started_consistent
    rw [started_eq] at hcons ⊢
    exact DeliveryState.aging_first (wideSetup false).start_consistent rfl rfl 0 [1] hcons
  have hagain := turn_again hfew
    (haging.others 0 late gs hnew hzero ((Nat.zero_add _).trans hmany) 2 _)
  exact hagain

theorem orderedGroup_burst (now : MonotonicTime) (outBuf : List UInt8) (letters : List Letter) :
    (burst now outBuf letters).filterMap Op.orderedGroup = letters.filterMap Prod.fst := by
  induction letters with
  | nil => rfl
  | cons letter rest ih =>
    obtain ⟨_ | g, b⟩ := letter
    · exact ih
    · exact congrArg (g :: ·) ih

theorem orderedGroup_calls (others : List Letter) :
    (calls turn others).filterMap Op.orderedGroup = 1 :: others.filterMap Prod.fst := by
  rw [calls, List.filterMap_append, List.filterMap_append, List.filterMap_append,
    orderedGroup_burst, orderedGroup_burst]
  exact congrArg (1 :: ·) (List.append_nil _)

/-- The receiver gets what the sender hands out, and what it returns on group 1 are not the first of
the messages that were sent on it. -/
def Misdelivered (others : List Letter) : Prop :=
  (∀ src dg now ecn, .handleIncoming src dg now ecn ∈ received turn others →
    dg ∈ (wideSession.setup true).start.handedOut (calls turn others)) ∧
  ¬ payloadsOn 1 ((wideSession.setup false).start.returned (received turn others)) <+:
    sentOn 1 (wideSession.setup true).start (calls turn others)

theorem misdelivered_of_lt {others : List Letter}
    (h : (others.filterMap Prod.fst).count 1 + 1 <
      (payloadsOn 1 ((wideSession.setup false).start.returned (received turn others))).length) :
    Misdelivered others := by
  refine ⟨fun src dg now ecn hmem => ?_, fun hinit => ?_⟩
  · obtain ⟨dg', hdg', heq⟩ := List.mem_map.mp hmem
    obtain ⟨rfl, rfl, rfl, rfl⟩ := Op.handleIncoming.inj heq
    exact hdg'
  · have hlen := hinit.length_le
    have hsent := length_sentOn_le 1 (calls turn others) (wideSession.setup true).start
    rw [orderedGroup_calls, List.count_cons_self] at hsent
    omega

/-- A round of the cursor. -/
theorem misdelivered_lap {n : Nat} (hn : n = 2 ^ 32 - 1) :
    Misdelivered (List.replicate n (some 1, 0)) ∧
      ∀ g ∈ (calls turn (List.replicate n (some 1, 0))).filterMap Op.orderedGroup, g = 1 := by
  have hgroups : (List.replicate n ((some 1, 0) : Letter)).filterMap Prod.fst =
      List.replicate n 1 := by
    rw [List.filterMap_replicate]
  refine ⟨misdelivered_of_lt ?_, fun g hg => ?_⟩
  · rw [turn_lap hn, hgroups, List.count_replicate_self, List.length_append, List.length_cons,
      List.length_replicate, List.length_singleton]
    omega
  · rw [orderedGroup_calls, hgroups] at hg
    rcases List.mem_cons.mp hg with rfl | hg
    · rfl
    · exact List.eq_of_mem_replicate hg

def otherGroups : List OrderedGroupId := (List.range 256).map fun i => UInt16.ofNat (i + 2)

theorem toNat_otherGroup {i : Nat} (hi : i ∈ List.range 256) :
    (UInt16.ofNat (i + 2)).toNat = i + 2 := by
  have hlt := List.mem_range.mp hi
  exact UInt16.toNat_ofNat_of_lt' (show i + 2 < 2 ^ 16 by omega)

/-- The groups differ from each other, and from 0 and 1. -/
theorem otherGroups_new : (1 :: otherGroups).Nodup ∧ 0 ∉ otherGroups := by
  have hne : ∀ g ∈ otherGroups, 2 ≤ g.toNat := by
    intro g hg
    obtain ⟨i, hi, rfl⟩ := List.mem_map.mp hg
    rw [toNat_otherGroup hi]
    exact Nat.le_add_left 2 i
  refine ⟨List.nodup_cons.mpr ⟨?_, ?_⟩, ?_⟩
  · intro hmem
    exact absurd (hne 1 hmem) (by decide)
  · refine List.Nodup.map_on ?_ List.nodup_range
    intro i hi j hj heq
    have hnat := congrArg UInt16.toNat heq
    rw [toNat_otherGroup hi, toNat_otherGroup hj] at hnat
    omega
  · intro hmem
    exact absurd (hne 0 hmem) (by decide)

theorem length_otherGroups : otherGroups.length = 256 := by
  rw [otherGroups, List.length_map, List.length_range]

def strangers : List Letter := otherGroups.map fun g => (some g, 0)

/-- **Delivered twice.**  The sender sends one message on group 1 and one on each of 256 other
groups, the receiver gets every datagram once and in order, and returns the first message again at
the end.  Nor does it help to keep to one group: behind 2^32 - 1 more messages on it, the copy of
the first one is returned as the next. -/
theorem ordered_twice :
    (((calls turn strangers).filterMap Op.orderedGroup).count 1 = 1 ∧
      payloadsOn 1 ((wideSession.setup false).start.returned (received turn strangers)) =
        [[1], [1]] ∧ Misdelivered strangers) ∧
    Misdelivered (List.replicate (2 ^ 32 - 1) (some 1, 0)) ∧
      ∀ g ∈ (calls turn (List.replicate (2 ^ 32 - 1) (some 1, 0))).filterMap Op.orderedGroup,
        g = 1 := by
  have hgroups : strangers.filterMap Prod.fst = otherGroups := by
    rw [strangers, List.filterMap_map]
    exact List.filterMap_some
  have hcount : otherGroups.count 1 = 0 :=
    List.count_eq_zero_of_not_mem (List.nodup_cons.mp otherGroups_new.1).1
  have hout : payloadsOn 1 ((wideSession.setup false).start.returned (received turn strangers)) =
      [[1], [1]] := turn_forgotten otherGroups_new.1 otherGroups_new.2 length_otherGroups
  refine ⟨⟨?_, hout, misdelivered_of_lt ?_⟩, misdelivered_lap rfl⟩
  · rw [orderedGroup_calls, hgroups, List.count_cons_self, hcount]
  · rw [hout, hgroups, hcount]
    decide

end Again

end GtpConnection

end Gtp
