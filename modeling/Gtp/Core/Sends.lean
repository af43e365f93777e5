/-
# When a failed send leaves no trace

A send of a single datagram is all or nothing: the scheduler refuses the one item, or takes it.  A
reliable message is handed over fragment by fragment, and the first refusal ends the call with the
earlier fragments queued; an ordered one has consumed its sequence number before the first fragment
is offered.  `failed_send_atomic_iff` says for each of the four sends exactly when an error leaves
the scheduler and the sequence numbers as they were.

All fragments of a message go to one tier and expire together, so that the loop is decided by three
numbers: the deadline, the bytes and the items (`Admits`).

* `enqueueAll_ok_iff`: the loop succeeds exactly when the message fits as a whole.
* `enqueueAll_scheduler_eq_iff`: it leaves the scheduler as it was exactly when it refuses the first
  fragment.
* `fragmentItems_cons`: the first fragment is as large as the room allows, so that its admission can
  be read off the length of the payload.

The counter of message ids is not among what has to stay: a failed send may use an id up, and an id
has no meaning beyond being new.
-/
import Gtp.Core.Fragments
import Gtp.Core.Steps

namespace Gtp

/-! ## 1. Chunks -/

theorem length_chunksFrom {size : Nat} (hsize : 0 < size) {fuel : Nat} {bytes : List UInt8}
    (hfuel : bytes.length ≤ fuel) :
    (chunksFrom size fuel bytes).length = (bytes.length + size - 1) / size := by
  induction fuel generalizing bytes with
  | zero =>
    have hnil : bytes = [] := List.eq_nil_of_length_eq_zero (Nat.le_zero.mp hfuel)
    rw [hnil]
    simp only [chunksFrom, List.length_nil, Nat.zero_add]
    exact (Nat.div_eq_of_lt (Nat.sub_lt hsize Nat.one_pos)).symm
  | succ fuel ih =>
    rw [chunksFrom]
    split
    · rename_i hnil
      rw [List.isEmpty_iff.mp hnil]
      simp only [List.length_nil, Nat.zero_add]
      exact (Nat.div_eq_of_lt (Nat.sub_lt hsize Nat.one_pos)).symm
    · rename_i hne
      have hpos : 0 < bytes.length := by
        rw [List.length_pos_iff]
        simpa using hne
      have hrest : (chunksFrom size fuel (bytes.drop size)).length =
          ((bytes.drop size).length + size - 1) / size := ih (by rw [List.length_drop]; omega)
      have hsum : bytes.length + size - 1 = bytes.length - 1 + size := by omega
      rw [List.length_cons, hrest, List.length_drop, hsum, Nat.add_div_right _ hsize]
      rcases Nat.le_total size bytes.length with hle | hle
      · rw [show bytes.length - size + size - 1 = bytes.length - 1 by omega]
      · rw [Nat.sub_eq_zero_of_le hle, Nat.zero_add,
          Nat.div_eq_of_lt (Nat.sub_lt hsize Nat.one_pos), Nat.div_eq_of_lt (by omega)]

theorem flatten_chunksFrom {size : Nat} (hsize : 0 < size) {fuel : Nat} {bytes : List UInt8}
    (hfuel : bytes.length ≤ fuel) : (chunksFrom size fuel bytes).flatten = bytes := by
  induction fuel generalizing bytes with
  | zero => rw [List.eq_nil_of_length_eq_zero (Nat.le_zero.mp hfuel)]; rfl
  | succ fuel ih =>
    rw [chunksFrom]
    split
    · rename_i hnil
      rw [List.isEmpty_iff.mp hnil]
      rfl
    · rename_i hne
      have hpos : 0 < bytes.length := by
        rw [List.length_pos_iff]
        simpa using hne
      rw [List.flatten_cons, ih (by rw [List.length_drop]; omega), List.take_append_drop]

/-! ## 2. What the scheduler admits -/

namespace GameScheduler

/-- The tests of `enqueue`, for some bytes in some items of one tier. -/
structure Admits (s : GameScheduler) (tier : Fin 5) (deadline : Option MonotonicTime)
    (now : MonotonicTime) (bytes items : Nat) : Prop where
  live : ∀ dl ∈ deadline, now < dl
  bytes : s.queueBytes tier + bytes ≤ s.maxQueueBytesPerTier tier
  items : s.queueItems tier + items ≤ s.maxQueueItemsPerTier

theorem checkAdmission_ok_iff (s : GameScheduler) (item : SchedulableItem) (now : MonotonicTime) :
    s.checkAdmission item now = .ok () ↔
      s.Admits item.priority.idx item.deadline now item.sizeBytes 1 := by
  have hlive : item.isExpired now = false ↔ ∀ dl ∈ item.deadline, now < dl := by
    unfold SchedulableItem.isExpired
    cases item.deadline with
    | none => simp
    | some dl => simp
  unfold checkAdmission
  dsimp only
  constructor
  · intro h
    split at h
    · cases h
    · rename_i hexp
      split at h
      · cases h
      · rename_i hbytes
        split at h
        · cases h
        · rename_i hitems
          exact ⟨hlive.mp (Bool.eq_false_iff.mpr hexp), Nat.not_lt.mp hbytes, Nat.not_lt.mp hitems⟩
  · rintro ⟨hl, hbytes, hitems⟩
    rw [hlive.mpr hl, if_neg Bool.false_ne_true, if_neg (Nat.not_lt.mpr hbytes),
      if_neg (Nat.not_lt.mpr hitems)]

/-- An item of a reliable message is queued behind its tier, or refused. -/
theorem enqueue_fragment (s : GameScheduler) {item : SchedulableItem} (now : MonotonicTime)
    (hclass : ∀ key sequence generation,
      item.class' ≠ .unreliableSequenced key sequence generation) :
    (s.Admits item.priority.idx item.deadline now item.sizeBytes 1 ∧ s.enqueue item now =
      (.ok (), s.place item (s.queues item.priority.idx ++ [item]))) ∨
    (¬ s.Admits item.priority.idx item.deadline now item.sizeBytes 1 ∧
      ∃ e, s.enqueue item now = (.error e, s)) := by
  rw [← checkAdmission_ok_iff]
  unfold enqueue
  cases hcheck : s.checkAdmission item now with
  | error e => exact Or.inr ⟨by simp, e, rfl⟩
  | ok u =>
    refine Or.inl ⟨rfl, ?_⟩
    dsimp only
    split
    · rename_i key sequence generation hsequenced
      exact absurd hsequenced (hclass _ _ _)
    · rfl

/-- A fragment that was placed leaves that much less room. -/
theorem admits_place (s : GameScheduler) (item : SchedulableItem) (q : List SchedulableItem)
    (deadline : Option MonotonicTime) (now : MonotonicTime) (bytes items : Nat) :
    (s.place item q).Admits item.priority.idx deadline now bytes items ↔
      s.Admits item.priority.idx deadline now (item.sizeBytes + bytes) (items + 1) := by
  have hbytes : (s.place item q).queueBytes item.priority.idx =
      s.queueBytes item.priority.idx + item.sizeBytes := Function.update_self ..
  have hitems : (s.place item q).queueItems item.priority.idx =
      s.queueItems item.priority.idx + 1 := Function.update_self ..
  constructor
  · rintro ⟨hl, hb, hi⟩
    rw [hbytes, Nat.add_assoc] at hb
    rw [hitems, Nat.add_right_comm] at hi
    exact ⟨hl, hb, hi⟩
  · rintro ⟨hl, hb, hi⟩
    refine ⟨hl, ?_, ?_⟩
    · rw [hbytes, Nat.add_assoc]
      exact hb
    · rw [hitems, Nat.add_right_comm]
      exact hi

theorem Admits.mono {s : GameScheduler} {tier : Fin 5} {deadline : Option MonotonicTime}
    {now : MonotonicTime} {bytes bytes' items items' : Nat}
    (h : s.Admits tier deadline now bytes items) (hbytes : bytes' ≤ bytes)
    (hitems : items' ≤ items) : s.Admits tier deadline now bytes' items' :=
  ⟨h.live, (Nat.add_le_add_left hbytes _).trans h.bytes,
    (Nat.add_le_add_left hitems _).trans h.items⟩

end GameScheduler

/-! ## 3. The fragment loop -/

namespace GtpConnection

/-- Items of one reliable message. -/
structure OneMessage (items : List SchedulableItem) (tier : Fin 5)
    (deadline : Option MonotonicTime) : Prop where
  class' : ∀ item ∈ items, ∀ key sequence generation,
    item.class' ≠ .unreliableSequenced key sequence generation
  tier : ∀ item ∈ items, item.priority.idx = tier
  deadline : ∀ item ∈ items, item.deadline = deadline

theorem OneMessage.tail {item : SchedulableItem} {rest : List SchedulableItem} {tier : Fin 5}
    {deadline : Option MonotonicTime} (h : OneMessage (item :: rest) tier deadline) :
    OneMessage rest tier deadline :=
  ⟨fun x hx => h.class' x (List.mem_cons_of_mem _ hx),
    fun x hx => h.tier x (List.mem_cons_of_mem _ hx),
    fun x hx => h.deadline x (List.mem_cons_of_mem _ hx)⟩

def bytesOf (items : List SchedulableItem) : Nat := (items.map SchedulableItem.sizeBytes).sum

/-- The scheduler counts no item out in the loop. -/
theorem enqueueAll_queueItems (now : MonotonicTime) {items : List SchedulableItem} {tier : Fin 5}
    {deadline : Option MonotonicTime} (h : OneMessage items tier deadline) (c : GtpConnection) :
    c.hot.scheduler.queueItems tier ≤
      (enqueueAll now c items).2.hot.scheduler.queueItems tier := by
  induction items generalizing c with
  | nil => exact Nat.le_refl _
  | cons item rest ih =>
    have htier := h.tier item List.mem_cons_self
    rw [enqueueAll, enqueueItem]
    rcases c.hot.scheduler.enqueue_fragment now (h.class' item List.mem_cons_self) with
      ⟨-, henq⟩ | ⟨-, e, henq⟩
    · rw [henq]
      refine Nat.le_trans ?_ (ih h.tail _)
      dsimp only [GameScheduler.place]
      rw [htier, Function.update_self]
      exact Nat.le_succ _
    · rw [henq]

/-- **The fragment loop** succeeds exactly when the message fits as a whole. -/
theorem enqueueAll_ok_iff (now : MonotonicTime) {items : List SchedulableItem} {tier : Fin 5}
    {deadline : Option MonotonicTime} (h : OneMessage items tier deadline) (hne : items ≠ [])
    (c : GtpConnection) :
    (enqueueAll now c items).1 = .ok () ↔
      c.hot.scheduler.Admits tier deadline now (bytesOf items) items.length := by
  induction items generalizing c with
  | nil => exact absurd rfl hne
  | cons item rest ih =>
    have htier := h.tier item List.mem_cons_self
    have hdeadline := h.deadline item List.mem_cons_self
    have hbytes : bytesOf (item :: rest) = item.sizeBytes + bytesOf rest := rfl
    rw [enqueueAll, enqueueItem, hbytes, List.length_cons]
    rcases c.hot.scheduler.enqueue_fragment now (h.class' item List.mem_cons_self) with
      ⟨hroom, henq⟩ | ⟨hrefuse, e, henq⟩
    · rw [henq]
      dsimp only
      cases rest with
      | nil =>
        rw [htier, hdeadline] at hroom
        exact iff_of_true rfl hroom
      | cons next rest =>
        rw [ih h.tail (List.cons_ne_nil _ _), ← htier]
        exact c.hot.scheduler.admits_place item _ deadline now _ _
    · rw [henq, htier, hdeadline] at *
      refine iff_of_false (by simp) fun hall => hrefuse ?_
      exact hall.mono (Nat.le_add_right _ _) (Nat.le_add_left _ _)

/-- The loop leaves the scheduler as it was exactly when it refuses the first fragment. -/
theorem enqueueAll_scheduler_eq_iff (now : MonotonicTime) {item : SchedulableItem}
    {rest : List SchedulableItem} {tier : Fin 5} {deadline : Option MonotonicTime}
    (h : OneMessage (item :: rest) tier deadline) (c : GtpConnection) :
    (enqueueAll now c (item :: rest)).2.hot.scheduler = c.hot.scheduler ↔
      ¬ c.hot.scheduler.Admits tier deadline now item.sizeBytes 1 := by
  have htier := h.tier item List.mem_cons_self
  have hdeadline := h.deadline item List.mem_cons_self
  rw [enqueueAll, enqueueItem]
  rcases c.hot.scheduler.enqueue_fragment now (h.class' item List.mem_cons_self) with
    ⟨hroom, henq⟩ | ⟨hrefuse, e, henq⟩
  · rw [henq]
    dsimp only
    rw [htier, hdeadline] at hroom
    refine iff_of_false ?_ (not_not.mpr hroom)
    intro heq
    have hcount := enqueueAll_queueItems now h.tail { c with
      hot.scheduler := c.hot.scheduler.place item (c.hot.scheduler.queues item.priority.idx ++ [item]) }
    rw [heq] at hcount
    dsimp only [GameScheduler.place] at hcount
    rw [htier, Function.update_self] at hcount
    omega
  · rw [henq]
    rw [htier, hdeadline] at hrefuse
    exact iff_of_true rfl hrefuse

/-! ## 4. The fragments of a message -/

/-- The number of fragments, where there is any payload room. -/
theorem messageFragmentCount_ok {len budget total : Nat} (hbudget : 0 < budget)
    (h : messageFragmentCount len budget = .ok total) :
    total = (len + budget - 1) / budget ∧ 0 < len := by
  unfold messageFragmentCount at h
  dsimp only at h
  rw [Nat.max_eq_left hbudget] at h
  split at h
  · cases h
  · rename_i hsome
    refine ⟨(Except.ok.inj h).symm, Nat.pos_of_ne_zero ?_⟩
    rintro rfl
    rw [Nat.zero_add] at hsome
    exact hsome (Or.inl (Nat.div_eq_of_lt (Nat.sub_lt hbudget Nat.one_pos)))

theorem oneMessage_fragmentItems (msgId : MessageId) {class' : MessageClass}
    (hclass : ∀ key sequence generation, class' ≠ .unreliableSequenced key sequence generation)
    (priority : PriorityTier) (deadline : Option MonotonicTime) (total : Nat)
    (now : MonotonicTime) (pieces : List (List UInt8)) :
    OneMessage (fragmentItems msgId class' priority deadline total now pieces) priority.idx
      deadline := by
  constructor
  · intro item hitem
    obtain ⟨p, -, rfl⟩ := List.mem_map.mp hitem
    exact hclass
  · intro item hitem
    obtain ⟨p, -, rfl⟩ := List.mem_map.mp hitem
    rfl
  · intro item hitem
    obtain ⟨p, -, rfl⟩ := List.mem_map.mp hitem
    rfl

theorem bytesOf_fragmentItems (msgId : MessageId) (class' : MessageClass)
    (priority : PriorityTier) (deadline : Option MonotonicTime) (total : Nat)
    (now : MonotonicTime) (pieces : List (List UInt8)) :
    bytesOf (fragmentItems msgId class' priority deadline total now pieces) =
      pieces.flatten.length := by
  have hsizes : ∀ k, (pieces.zipIdx k).map (fun p => p.1.length) = pieces.map List.length := by
    intro k
    calc (pieces.zipIdx k).map (fun p => p.1.length)
        = ((pieces.zipIdx k).map Prod.fst).map List.length := (List.map_map ..).symm
      _ = pieces.map List.length := by rw [List.zipIdx_map_fst]
  rw [bytesOf, fragmentItems, List.map_map, List.length_flatten, ← hsizes 0]
  rfl

/-- The first fragment is as large as the room allows. -/
theorem fragmentItems_cons (msgId : MessageId) (class' : MessageClass) (priority : PriorityTier)
    (deadline : Option MonotonicTime) (total : Nat) (now : MonotonicTime) (size : Nat)
    {payload : List UInt8} (hne : 0 < payload.length) :
    ∃ item rest, fragmentItems msgId class' priority deadline total now
      (chunksFrom size payload.length payload) = item :: rest ∧
      item.sizeBytes = min size payload.length := by
  obtain ⟨n, hn⟩ := Nat.exists_eq_add_of_lt hne
  have hcons : chunksFrom size payload.length payload =
      payload.take size :: chunksFrom size n (payload.drop size) := by
    rw [hn, Nat.zero_add, chunksFrom, if_neg]
    rw [List.isEmpty_iff, ← List.length_eq_zero_iff]
    exact Nat.pos_iff_ne_zero.mp hne
  rw [hcons]
  exact ⟨_, _, rfl, List.length_take⟩

/-! ## 5. A failed send -/

/-- The scheduler and the order sequence numbers are the same. -/
def Untouched (c c' : GtpConnection) : Prop :=
  c'.hot.scheduler = c.hot.scheduler ∧ c'.hot.nextOrderSeqs = c.hot.nextOrderSeqs

/-- The scheduler has room for the first fragment of the message. -/
def AdmitsFirst (c : GtpConnection) (payload : List UInt8) (priority : PriorityTier)
    (deadline : Option MonotonicTime) (now : MonotonicTime) : Prop :=
  c.hot.scheduler.Admits priority.idx deadline now (min c.maxMessagePayload payload.length) 1

/-- The scheduler has room for the message, in as many fragments as it takes.  A message whose
length is refused takes none. -/
def AdmitsMessage (c : GtpConnection) (payload : List UInt8) (priority : PriorityTier)
    (deadline : Option MonotonicTime) (now : MonotonicTime) : Prop :=
  ∀ total, messageFragmentCount payload.length c.maxMessagePayload = .ok total →
    0 < c.maxMessagePayload →
    c.hot.scheduler.Admits priority.idx deadline now payload.length total

/-- A single item is refused before the scheduler is touched. -/
theorem sendSingle_error (c : GtpConnection) (class' : MessageClass) (payload : List UInt8)
    (priority : PriorityTier) (deadline : Option MonotonicTime) (now : MonotonicTime)
    {e : TransportError}
    (h : (c.sendSingle class' payload priority deadline now).1 = .error e) :
    c.Untouched (c.sendSingle class' payload priority deadline now).2 := by
  unfold sendSingle at h ⊢
  split
  · exact ⟨rfl, rfl⟩
  · rename_i hfits
    rw [if_neg hfits] at h
    dsimp only [enqueueItem] at h ⊢
    refine ⟨?_, rfl⟩
    generalize hitem : SchedulableItem.mk _ _ _ _ _ _ _ _ _ = item at h ⊢
    cases hres : (c.hot.scheduler.enqueue item now).1 with
    | ok u =>
      rw [hres] at h
      cases h
    | error e' => exact GameScheduler.enqueue_error hres

/-- **The fragment loop**: it fails exactly when the message is not admitted as a whole, and it
leaves the scheduler as it was exactly when it refuses the first fragment. -/
theorem enqueueFragments_spec (c : GtpConnection) (msgId : MessageId) (class' : MessageClass)
    (hclass : ∀ key sequence generation, class' ≠ .unreliableSequenced key sequence generation)
    (payload : List UInt8) (priority : PriorityTier) (deadline : Option MonotonicTime)
    (now : MonotonicTime) {total : Nat}
    (htotal : messageFragmentCount payload.length c.maxMessagePayload = .ok total) :
    let sent := c.enqueueFragments msgId class' payload priority deadline total now
    ((∃ e, sent.1 = some (.error e)) ↔ ¬ c.AdmitsMessage payload priority deadline now) ∧
    (0 < c.maxMessagePayload → (sent.2.hot.scheduler = c.hot.scheduler ↔
      ¬ c.AdmitsFirst payload priority deadline now)) := by
  dsimp only
  unfold enqueueFragments chunks
  by_cases hmax : c.maxMessagePayload = 0
  · rw [if_pos hmax]
    refine ⟨iff_of_false (by simp) (not_not.mpr ?_), fun hpos => absurd hmax hpos.ne'⟩
    intro _ _ hpos
    exact absurd hmax hpos.ne'
  · rw [if_neg hmax]
    have hpos := Nat.pos_of_ne_zero hmax
    obtain ⟨hcount, hlen⟩ := messageFragmentCount_ok hpos htotal
    dsimp only
    have hone := oneMessage_fragmentItems msgId hclass priority deadline total now
      (chunksFrom c.maxMessagePayload payload.length payload)
    have hbytes := bytesOf_fragmentItems msgId class' priority deadline total now
      (chunksFrom c.maxMessagePayload payload.length payload)
    have hitems : (fragmentItems msgId class' priority deadline total now
        (chunksFrom c.maxMessagePayload payload.length payload)).length = total := by
      rw [fragmentItems, List.length_map, List.length_zipIdx,
        length_chunksFrom hpos (Nat.le_refl _), hcount]
    obtain ⟨item, rest, hcons, hsize⟩ := fragmentItems_cons msgId class' priority deadline total now
      c.maxMessagePayload hlen
    rw [flatten_chunksFrom hpos (Nat.le_refl _)] at hbytes
    rw [hcons] at hone hbytes hitems ⊢
    have hok := enqueueAll_ok_iff now hone (List.cons_ne_nil _ _) c
    have hsame := enqueueAll_scheduler_eq_iff now hone c
    rw [hbytes, hitems] at hok
    rw [hsize] at hsame
    refine ⟨?_, fun _ => hsame⟩
    have hwhole : c.AdmitsMessage payload priority deadline now ↔
        c.hot.scheduler.Admits priority.idx deadline now payload.length total := by
      constructor
      · intro h
        exact h total htotal hpos
      · intro h total' htotal' _
        obtain rfl := Except.ok.inj (htotal.symm.trans htotal')
        exact h
    rw [hwhole, ← hok]
    cases (enqueueAll now c (item :: rest)).1 with
    | ok u => exact iff_of_false (by simp [Except.map]) (by simp)
    | error e => exact iff_of_true ⟨e, rfl⟩ (by simp)

/-- A consumed sequence number is seen in the map. -/
theorem nextOrderSeqs_insert_ne (seqs : Std.ExtTreeMap OrderedGroupId UInt32 compare)
    (groupId : OrderedGroupId) :
    seqs.insert groupId ((seqs[groupId]?).getD 0 + 1) ≠ seqs := by
  intro h
  have hget : (seqs.insert groupId ((seqs[groupId]?).getD 0 + 1))[groupId]? =
      some ((seqs[groupId]?).getD 0 + 1) := Std.ExtTreeMap.getElem?_insert_self
  rw [h] at hget
  have hsucc : (seqs[groupId]?).getD 0 = (seqs[groupId]?).getD 0 + 1 := by
    conv_lhs => rw [hget]
    rfl
  generalize (seqs[groupId]?).getD 0 = n at hsucc
  have hnat := congrArg UInt32.toNat hsucc
  rw [UInt32.toNat_add] at hnat
  have hlt := n.toNat_lt
  have hone : (1 : UInt32).toNat = 1 := rfl
  omega

/-- An error after the first fragment was taken leaves that fragment. -/
theorem sendReliableUnordered_atomic_iff (c : GtpConnection) (payload : List UInt8)
    (priority : PriorityTier) (deadline : Option MonotonicTime) (now : MonotonicTime) :
    (∀ e, (c.sendReliableUnordered payload priority deadline now).1 = some (.error e) →
      c.Untouched (c.sendReliableUnordered payload priority deadline now).2) ↔
        (c.AdmitsFirst payload priority deadline now →
          c.AdmitsMessage payload priority deadline now) := by
  unfold sendReliableUnordered
  dsimp only
  set c1 : GtpConnection := { c with hot.nextMessageId := c.hot.nextMessageId + 1 } with hc1
  cases htotal : messageFragmentCount payload.length c1.maxMessagePayload with
  | error e' =>
    refine iff_of_true (fun e _ => ⟨rfl, rfl⟩) fun _ total hok => ?_
    exact absurd (htotal.symm.trans hok) (by simp)
  | ok total =>
    dsimp only
    obtain ⟨hfail, hsame⟩ := c1.enqueueFragments_spec c.hot.nextMessageId
      .reliableUnordered (by simp) payload priority deadline now htotal
    obtain ⟨s, hframe⟩ := enqueueFragments_frame c1 c.hot.nextMessageId .reliableUnordered payload
      priority deadline total now
    constructor
    · intro hatomic hfirst
      by_contra hwhole
      obtain ⟨e, he⟩ := hfail.mpr hwhole
      have hpos : 0 < c1.maxMessagePayload := by
        by_contra hzero
        exact hwhole fun _ _ hpos => absurd hpos hzero
      exact (hsame hpos).mp (hatomic e he).1 hfirst
    · intro hcond e he
      have hwhole := hfail.mp ⟨e, he⟩
      have hpos : 0 < c1.maxMessagePayload := by
        by_contra hzero
        exact hwhole fun _ _ hpos => absurd hpos hzero
      refine ⟨(hsame hpos).mpr fun hfirst => hwhole (hcond hfirst), ?_⟩
      rw [hframe]

/-- The sequence number is gone whatever becomes of the fragments. -/
theorem sendReliableOrdered_atomic_iff (c : GtpConnection) (groupId : OrderedGroupId)
    (payload : List UInt8) (priority : PriorityTier) (deadline : Option MonotonicTime)
    (now : MonotonicTime) :
    (∀ e, (c.sendReliableOrdered groupId payload priority deadline now).1 = some (.error e) →
      c.Untouched (c.sendReliableOrdered groupId payload priority deadline now).2) ↔
        c.AdmitsMessage payload priority deadline now := by
  unfold sendReliableOrdered
  dsimp only
  cases htotal : messageFragmentCount payload.length c.maxMessagePayload with
  | error e' =>
    refine iff_of_true (fun e _ => ⟨rfl, rfl⟩) fun total hok => ?_
    exact absurd (htotal.symm.trans hok) (by simp)
  | ok total =>
    dsimp only
    generalize hseq : (c.hot.nextOrderSeqs[groupId]?).getD 0 = orderSeq
    set c1 : GtpConnection := { c with
      hot.nextOrderSeqs := c.hot.nextOrderSeqs.insert groupId (orderSeq + 1)
      hot.nextMessageId := c.hot.nextMessageId + 1 } with hc1
    obtain ⟨hfail, -⟩ := c1.enqueueFragments_spec c.hot.nextMessageId
      (.reliableOrdered groupId orderSeq) (by simp) payload priority deadline now htotal
    obtain ⟨s, hframe⟩ := enqueueFragments_frame c1 c.hot.nextMessageId
      (.reliableOrdered groupId orderSeq) payload priority deadline total now
    constructor
    · intro hatomic
      by_contra hwhole
      obtain ⟨e, he⟩ := hfail.mpr hwhole
      have hseqs := (hatomic e he).2
      rw [hframe, hc1, ← hseq] at hseqs
      exact nextOrderSeqs_insert_ne _ _ hseqs
    · intro hwhole e he
      exact absurd hwhole (hfail.mp ⟨e, he⟩)

/-- **When a failed send is atomic.**  An error of `send_unreliable` or `send_sequenced` leaves no
trace.  An error of `send_reliable_unordered` does so unless the first fragment was admitted and
the message as a whole was not; an error of `send_reliable_ordered` only when it was the length
that was refused. -/
theorem failed_send_atomic_iff (c : GtpConnection) (payload : List UInt8)
    (priority : PriorityTier) (deadline : Option MonotonicTime) (now : MonotonicTime) :
    (∀ e, (c.sendUnreliable payload priority deadline now).1 = .error e →
      c.Untouched (c.sendUnreliable payload priority deadline now).2) ∧
    (∀ stateKey sequence generation e,
      (c.sendSequenced stateKey sequence generation deadline payload now).1 = .error e →
      c.Untouched (c.sendSequenced stateKey sequence generation deadline payload now).2) ∧
    ((∀ e, (c.sendReliableUnordered payload priority deadline now).1 = some (.error e) →
      c.Untouched (c.sendReliableUnordered payload priority deadline now).2) ↔
        (c.AdmitsFirst payload priority deadline now →
          c.AdmitsMessage payload priority deadline now)) ∧
    (∀ groupId, (∀ e,
      (c.sendReliableOrdered groupId payload priority deadline now).1 = some (.error e) →
      c.Untouched (c.sendReliableOrdered groupId payload priority deadline now).2) ↔
        c.AdmitsMessage payload priority deadline now) := by
  refine ⟨fun e h => sendSingle_error c _ _ _ _ _ h,
    fun _ _ _ e h => sendSingle_error c _ _ _ _ _ h,
    c.sendReliableUnordered_atomic_iff payload priority deadline now,
    fun groupId => c.sendReliableOrdered_atomic_iff groupId payload priority deadline now⟩

/-- A fresh connection whose tiers hold 1200 bytes each. -/
def smallQueues : GtpConnection :=
  { sampleSetup true with
    hotConfig := { GtpConfig.default with maxQueueBytesPerTier := fun _ => 1200 } }.start

/-- An ordered send past its deadline consumes sequence number 0 of its group, and a message of two
fragments leaves the first one queued. -/
theorem failed_sends_leave_traces :
    ((sampleSetup true).start.sendReliableOrdered 1 [1] .p1Input (some 0) 0).1 =
      some (.error .messageExpired) ∧
    ¬ (sampleSetup true).start.Untouched
      ((sampleSetup true).start.sendReliableOrdered 1 [1] .p1Input (some 0) 0).2 ∧
    (smallQueues.sendReliableUnordered (List.replicate 2000 0) .p1Input none 0).1 =
      some (.error (.resourceLimitExceeded "Scheduler queue tier capacity reached")) ∧
    ¬ smallQueues.Untouched
      (smallQueues.sendReliableUnordered (List.replicate 2000 0) .p1Input none 0).2 := by
  refine ⟨rfl, ?_, by decide +kernel, ?_⟩
  · rintro ⟨-, hseqs⟩
    exact nextOrderSeqs_insert_ne _ _ hseqs
  · rintro ⟨hsched, -⟩
    have hcount : (smallQueues.sendReliableUnordered (List.replicate 2000 0) .p1Input none
        0).2.hot.scheduler.queueItems 1 = 1 := by decide +kernel
    rw [hsched] at hcount
    exact absurd hcount (by decide)

end GtpConnection

end Gtp
