/-
# A tier that starves

Tier 1 has messages of 400 bytes, tier 4 has messages of 300 bytes, and the buffers have room for
one message of tier 1 and 100 bytes more.  In each datagram tier 1 is served first.  The next call
has 100 bytes, which are too few for either tier; it passes tier 1, then tier 4, then both again,
and the turn is back at tier 1.  So tier 4 is passed at the end of each datagram, and served in
none.

* `Pair.narrow` and `Pair.wide` are the datagrams, for any two tiers and sizes that fit the pattern:
  one with a message of the first tier, and one with a message of each.
* `Saturated` is what the calls of a run meet: the connection is established, both tiers have
  something to send, and every queued message fits an empty datagram.
* `Stage` is the sender between two datagrams, with the messages that it holds.  A round takes it to
  the next one (`Stage.oneRound`), and by induction any number of rounds does (`Stage.rounds`).
* `waits_unboundedly` is the run: whatever bound is given, more bytes of tier 1 leave between two
  messages of tier 4.

The sender has the default configuration, but for a bucket that lasts for all rounds.  Its datagrams
are not acknowledged, which is not what makes tier 4 wait: an acknowledgement would only let the
rounds come sooner.
-/
import Gtp.Core.Starvation
import Gtp.Core.Unanswered

namespace Gtp

open GameScheduler GtpConnection

/-! ## 1. Two datagrams -/

namespace GameScheduler

section Datagrams

variable {now : MonotonicTime} {s : GameScheduler} {a b : Fin 4} {x x' y : SchedulableItem}
  {xs ys : List SchedulableItem}

/-- A datagram with room for one item of `a` and more than 64 bytes besides: the next call of
`pop_next` has no room for either tier. -/
theorem Pair.narrow (h : Pair now a b s (x :: x' :: xs) (y :: ys)) (room : Nat) (hab : a ≠ b)
    (hclosed : s.marks.opened a = false) (hturn : RoundRobin.Ahead s.marks.cursor a b ∨
      (RoundRobin.Ahead s.marks.cursor b a ∧ s.marks.purse quanta 4 b < y.sizeBytes))
    (hx : x.sizeBytes ≤ quanta a) (hfits : itemFits x room = true)
    (hleft : 64 < room - (itemFrame x).needed) (hx' : room - (itemFrame x).needed < x'.sizeBytes)
    (hy : room - (itemFrame x).needed < y.sizeBytes) :
    ∃ s', (∀ budget, room ≤ budget → takeItems budget now room room s = ([x], s', 0)) ∧
      Pair now a b s' (x' :: xs) (y :: ys) ∧ Level a b s' := by
  obtain ⟨s1, hpop, hpair, hahead, -⟩ := h.served_first hab hclosed hturn hx
    (show 0 < room by omega) (sizeBytes_le_of_fits hfits)
  obtain ⟨s2, hpop2, hpair2, hlevel⟩ := hpair.overlooked hab hahead
    (show 0 < room - (itemFrame x).needed by omega) hx' hy
  refine ⟨s2, fun budget hbudget => ?_, hpair2, hlevel⟩
  exact takeItems_more (by omega) hbudget (Nat.le_refl _) hpop hfits fun fuel hfuel =>
    takeItems_none hleft (by omega) hfuel hpop2

/-- A datagram with room for one item of each. -/
theorem Pair.wide (h : Pair now a b s (x :: x' :: xs) (y :: ys)) (room : Nat) (hab : a ≠ b)
    (hlevel : Level a b s) (hx : x.sizeBytes ≤ quanta a) (hy : y.sizeBytes ≤ quanta b)
    (hfits : itemFits x room = true) (hleft : 64 < room - (itemFrame x).needed)
    (hx' : room - (itemFrame x).needed < x'.sizeBytes)
    (hfits' : itemFits y (room - (itemFrame x).needed) = true)
    (hfull : room - (itemFrame x).needed - (itemFrame y).needed ≤ 64) :
    ∃ s', (∀ budget, room ≤ budget → takeItems budget now room room s = ([x, y], s', 0)) ∧
      Pair now a b s' (x' :: xs) ys ∧ s'.marks.opened a = false ∧
      RoundRobin.Ahead s'.marks.cursor b a ∧
      s'.marks.purse quanta 4 b = s.marks.purse quanta 4 b - y.sizeBytes := by
  obtain ⟨s1, hpop, hpair, hahead, hsecond⟩ := h.served_first hab hlevel.first
    (Or.inl hlevel.ahead) hx (show 0 < room by omega) (sizeBytes_le_of_fits hfits)
  obtain ⟨hclosed, hpurse⟩ := hsecond hlevel
  obtain ⟨s2, hpop2, hpair2, hopened, hcursor, hleftover⟩ := hpair.served_second hab hahead hclosed
    hx' hy (show 0 < room - (itemFrame x).needed by omega) (sizeBytes_le_of_fits hfits')
  refine ⟨s2, fun budget hbudget => ?_, hpair2, hopened, hcursor, hleftover.trans ?_⟩
  · exact takeItems_more (by omega) hbudget (Nat.le_refl _) hpop hfits fun fuel hfuel =>
      takeItems_more hleft (by omega) hfuel hpop2 hfits' fun fuel _ => takeItems_full hfull
  · rw [hpurse]

/-- An item that is queued last. -/
theorem Pair.place_first (h : Pair now a b s xs ys) {item : SchedulableItem}
    (htier : item.priority.idx = a.succ) (hab : a ≠ b) (hlive : item.isExpired now = false) :
    Pair now a b (s.place item (s.queues a.succ ++ [item])) (xs ++ [item]) ys := by
  have hqueues : (s.place item (s.queues a.succ ++ [item])).queues =
      Function.update s.queues a.succ (s.queues a.succ ++ [item]) := by
    rw [place, htier]
  have hne : b.succ ≠ a.succ := fun heq => hab (Fin.succ_inj.mp heq).symm
  refine ⟨fun t z hz => ?_, ?_, ?_, fun t ha hb => ?_⟩
  · rw [hqueues] at hz
    rcases mem_update hz with hz | hz
    · rcases List.mem_append.mp hz with hz | hz
      · exact h.fresh _ z hz
      · rw [List.mem_singleton.mp hz]
        exact hlive
    · exact h.fresh t z hz
  · rw [hqueues, Function.update_self, h.first]
  · rw [hqueues, Function.update_of_ne hne]
    exact h.second
  · rw [hqueues, Function.update_of_ne ha]
    exact h.others t ha hb

end Datagrams

/-- The caps stay. -/
theorem closed_caps (caps : Fin 5 → Nat) (limit : Nat) : Closed fun s =>
    s.maxQueueBytesPerTier = caps ∧ s.maxQueueItemsPerTier = limit := by
  have hkeep : ∀ {s s' : GameScheduler}, SameCaps s s' →
      s.maxQueueBytesPerTier = caps ∧ s.maxQueueItemsPerTier = limit →
      s'.maxQueueBytesPerTier = caps ∧ s'.maxQueueItemsPerTier = limit :=
    fun hsame h => ⟨hsame.1.trans h.1, hsame.2.trans h.2⟩
  exact ⟨⟨fun s item now => hkeep (enqueue_caps s item now),
    fun s item now => hkeep (requeue_table s item now).1, fun s now h => h⟩,
    fun s budget now => hkeep (popNext_table s budget now).1⟩

end GameScheduler

/-! ## 2. A sender with two tiers -/

namespace GtpConnection

/-- An unreliable message of `n` bytes in this tier, without a deadline. -/
structure Plain (priority : PriorityTier) (n : Nat) (item : SchedulableItem) : Prop where
  priority : item.priority = priority
  class' : item.class' = .unreliable
  deadline : item.deadline = none
  payload : item.payload.length = n

theorem Plain.needed {priority : PriorityTier} {n : Nat} {item : SchedulableItem}
    (h : Plain priority n item) : (itemFrame item).needed = 27 + n := by
  rw [itemFrame, h.class', ← h.payload]
  rfl

theorem Plain.sizeBytes {priority : PriorityTier} {n : Nat} {item : SchedulableItem}
    (h : Plain priority n item) : item.sizeBytes = n := h.payload

theorem Plain.fits {priority : PriorityTier} {n room : Nat} {item : SchedulableItem}
    (h : Plain priority n item) (hn : n ≤ 65535) (hroom : 27 + n ≤ room) :
    itemFits item room = true := by
  have hsize : (itemFrame item).oversize = decide (65535 < n) := by
    rw [itemFrame, h.class', ← h.payload]
    rfl
  rw [itemFits, h.needed, hsize, decide_eq_true hroom, decide_eq_false (Nat.not_lt.mpr hn)]
  rfl

theorem Plain.live {priority : PriorityTier} {n : Nat} {item : SchedulableItem}
    (h : Plain priority n item) (now : MonotonicTime) : item.isExpired now = false := by
  rw [SchedulableItem.isExpired, h.deadline]

variable [CryptoSuite]

/-- A message that is admitted is queued last. -/
theorem step_plain {c : GtpConnection} (now : MonotonicTime) (priority : PriorityTier) {n : Nat}
    (hlen : n ≤ c.maxMessagePayload)
    (hroom : c.hot.scheduler.Admits priority.idx none now n 1) :
    ∃ item, Plain priority n item ∧
      c.step (.sendUnreliable (List.replicate n 0) priority none now) = { c with
        hot.nextMessageId := c.hot.nextMessageId + 1
        hot.scheduler := c.hot.scheduler.place item
          (c.hot.scheduler.queues priority.idx ++ [item]) } := by
  refine ⟨⟨c.hot.nextMessageId, .unreliable, priority, now, none, true, List.replicate n 0, 0, 1⟩,
    ⟨rfl, rfl, rfl, List.length_replicate⟩, ?_⟩
  have hadm := (checkAdmission_ok_iff c.hot.scheduler ⟨c.hot.nextMessageId, .unreliable, priority,
    now, none, true, List.replicate n 0, 0, 1⟩ now).mpr (by
      rw [SchedulableItem.sizeBytes, List.length_replicate]
      exact hroom)
  rw [step, sendUnreliable, sendSingle, List.length_replicate, if_neg (Nat.not_lt.mpr hlen)]
  dsimp only
  rw [enqueueItem]
  dsimp only
  rw [GameScheduler.enqueue, hadm]

theorem transmitted_cons (c : GtpConnection) (op : Op) (ops : List Op) :
    c.transmitted (op :: ops) = c.sentItems op ++ (c.step op).transmitted ops := rfl

theorem transmitted_append (c : GtpConnection) (ops ops' : List Op) :
    c.transmitted (ops ++ ops') = c.transmitted ops ++ (c.run ops).transmitted ops' := by
  rw [transmitted, Runs.outputs_append, List.flatten_append]
  rfl

/-- A call finds the connection established and both tiers with something to send; every queued
message has a frame of at most `size` bytes, and one of that size fits an empty datagram. -/
structure Saturated (a b : Fin 5) (size : Nat) (c : GtpConnection) (op : Op) : Prop where
  established : c.hot.state = .established
  first : c.hot.scheduler.queues a ≠ []
  second : c.hot.scheduler.queues b ≠ []
  sizes : ∀ t, ∀ item ∈ c.hot.scheduler.queues t, (itemFrame item).needed ≤ size
  room : ∀ now outBuf, op = .produce now outBuf →
    minCommonHeaderLen + size + aeadTagLen ≤ outBuf.length

/-- A sender that hears nothing, with messages of 400 bytes in tier 1 and messages of 300 bytes in
tier 4; its last datagram is past the timeout. -/
structure Stage (now : MonotonicTime) (k : Nat) (c : GtpConnection)
    (xs ys : List SchedulableItem) : Prop where
  sender : Unanswered 810 k c
  late : c.Late now
  pto : c.config.ptoMaxDuration = 500000
  counted : c.hot.scheduler.Counted
  bytes : ∀ t, 2000 ≤ c.hot.scheduler.maxQueueBytesPerTier t
  items : 4 ≤ c.hot.scheduler.maxQueueItemsPerTier
  payload : 400 ≤ c.maxMessagePayload
  pair : Pair now 0 3 c.hot.scheduler xs ys
  first : ∀ x ∈ xs, Plain .p1Input 400 x
  second : ∀ y ∈ ys, Plain .p4BulkCosmetic 300 y

/-- A message for tier 1. -/
def queueFirst (now : MonotonicTime) : Op :=
  .sendUnreliable (List.replicate 400 0) .p1Input none now

/-- A message for tier 4. -/
def queueSecond (now : MonotonicTime) : Op :=
  .sendUnreliable (List.replicate 300 0) .p4BulkCosmetic none now

theorem sentItems_queueFirst (c : GtpConnection) (now : MonotonicTime) :
    c.sentItems (queueFirst now) = [] := by rw [queueFirst, sentItems]; nofun

theorem sentItems_queueSecond (c : GtpConnection) (now : MonotonicTime) :
    c.sentItems (queueSecond now) = [] := by rw [queueSecond, sentItems]; nofun

/-- A buffer with room for one message of 400 bytes, and 100 bytes besides. -/
def narrowBuf : List UInt8 := List.replicate 551 0

/-- A buffer with room for a message of each tier. -/
def wideBuf : List UInt8 := List.replicate 810 0

/-- Tier 1 is served next: it comes first, or tier 4 cannot pay. -/
structure FirstDue (s : GameScheduler) : Prop where
  closed : s.marks.opened 0 = false
  turn : RoundRobin.Ahead s.marks.cursor 0 3 ∨
    (RoundRobin.Ahead s.marks.cursor 3 0 ∧ s.marks.purse quanta 4 3 < 300)

omit [CryptoSuite] in
theorem firstDue_of_level {s : GameScheduler} (h : Level 0 3 s) : FirstDue s :=
  ⟨h.first, Or.inl h.ahead⟩

section Stage

variable {now : MonotonicTime} {k : Nat} {c : GtpConnection} {x x' y y' : SchedulableItem}
  {xs ys xs' ys' items : List SchedulableItem} {s' : GameScheduler}

omit [CryptoSuite] in
theorem Stage.admits (h : Stage now k c xs ys) {t : Fin 5} {n : Nat}
    (hsizes : ∀ x ∈ c.hot.scheduler.queues t, x.sizeBytes ≤ 400)
    (hfew : (c.hot.scheduler.queues t).length ≤ 2) (hn : n ≤ 400) :
    c.hot.scheduler.Admits t none now n 1 := by
  have hbytes := h.bytes t
  have hitems := h.items
  have hsum := List.sum_le_card_nsmul ((c.hot.scheduler.queues t).map SchedulableItem.sizeBytes) 400
    (by simpa using hsizes)
  rw [List.length_map, smul_eq_mul] at hsum
  have hcount := h.counted.bytes t
  rw [GameScheduler.bytesOf] at hcount
  have hlen := h.counted.items t
  exact ⟨fun _ hdl => (by cases hdl), by omega, by omega⟩

/-- What a call to the scheduler leaves. -/
theorem Stage.queued (h : Stage now k c xs ys) {op : Op} {id : MessageId}
    (hstep : c.step op = { c with hot.nextMessageId := id, hot.scheduler := s' })
    (hpair : Pair now 0 3 s' xs' ys') (hfirst : ∀ x ∈ xs', Plain .p1Input 400 x)
    (hsecond : ∀ y ∈ ys', Plain .p4BulkCosmetic 300 y) : Stage now k (c.step op) xs' ys' := by
  have hcount := step_scheduler closed_counted h.counted op
  obtain ⟨hbytes, hitems⟩ := step_scheduler (closed_caps c.hot.scheduler.maxQueueBytesPerTier
    c.hot.scheduler.maxQueueItemsPerTier) ⟨rfl, rfl⟩ op
  refine ⟨?_, ?_, ?_, hcount, ?_, ?_, ?_, ?_, hfirst, hsecond⟩
  · rw [hstep]
    exact ⟨h.sender.state, h.sender.controls, h.sender.unacked, h.sender.window, h.sender.floor,
      h.sender.tokens, h.sender.burst, h.sender.timeout, h.sender.validated, h.sender.binding,
      h.sender.pending, h.sender.records⟩
  · rw [hstep]
    exact h.late
  · rw [hstep]
    exact h.pto
  · rw [hbytes]
    exact h.bytes
  · rw [hitems]
    exact h.items
  · rw [hstep]
    exact h.payload
  · rw [hstep]
    exact hpair

theorem Stage.sendFirst (h : Stage now k c xs ys) (hfew : xs.length ≤ 2) :
    ∃ x, Stage now k (c.step (queueFirst now)) (xs ++ [x]) ys ∧
      (c.step (queueFirst now)).hot.scheduler.marks = c.hot.scheduler.marks := by
  have hqueue : c.hot.scheduler.queues 1 = xs := h.pair.first
  obtain ⟨x, hx, hstep⟩ := step_plain now .p1Input h.payload
    (h.admits (t := 1) (fun x hx => by
        rw [hqueue] at hx
        exact (h.first x hx).sizeBytes.le)
      (by rw [hqueue]; exact hfew) (Nat.le_refl _))
  have hplace := h.pair.place_first (by rw [hx.priority]; rfl) (by decide) (hx.live now)
  refine ⟨x, h.queued hstep hplace ?_ h.second, ?_⟩
  · intro z hz
    rcases List.mem_append.mp hz with hz | hz
    · exact h.first z hz
    · rw [List.mem_singleton.mp hz]
      exact hx
  · rw [queueFirst, hstep]
    rfl

theorem Stage.sendSecond (h : Stage now k c xs ys) (hfew : ys.length ≤ 2) :
    ∃ y, Stage now k (c.step (queueSecond now)) xs (ys ++ [y]) ∧
      (c.step (queueSecond now)).hot.scheduler.marks = c.hot.scheduler.marks := by
  have hqueue : c.hot.scheduler.queues 4 = ys := h.pair.second
  obtain ⟨y, hy, hstep⟩ := step_plain now .p4BulkCosmetic
    (show 300 ≤ c.maxMessagePayload from Nat.le_trans (by decide) h.payload)
    (h.admits (t := 4) (fun y hy => by
        rw [hqueue] at hy
        rw [(h.second y hy).sizeBytes]
        decide)
      (by rw [hqueue]; exact hfew) (by decide))
  have hplace := h.pair.symm.place_first (by rw [hy.priority]; rfl) (by decide) (hy.live now)
  refine ⟨y, h.queued hstep hplace.symm h.first ?_, ?_⟩
  · intro z hz
    rcases List.mem_append.mp hz with hz | hz
    · exact h.second z hz
    · rw [List.mem_singleton.mp hz]
      exact hy
  · rw [queueSecond, hstep]
    rfl

omit [CryptoSuite] in
theorem Stage.saturated (h : Stage now k c (x :: xs) (y :: ys)) {op : Op}
    (hroom : ∀ now outBuf, op = .produce now outBuf → 467 ≤ outBuf.length) :
    Saturated 1 4 427 c op := by
  have hfirst : c.hot.scheduler.queues 1 = x :: xs := h.pair.first
  have hsecond : c.hot.scheduler.queues 4 = y :: ys := h.pair.second
  refine ⟨h.sender.state, ?_, ?_, fun t item hitem => ?_, hroom⟩
  · rw [hfirst]
    exact List.cons_ne_nil _ _
  · rw [hsecond]
    exact List.cons_ne_nil _ _
  · by_cases ha : t = 1
    · rw [ha, hfirst] at hitem
      rw [(h.first item hitem).needed]
    · by_cases hb : t = 4
      · rw [hb, hsecond] at hitem
        rw [(h.second item hitem).needed]
        decide
      · rw [h.pair.others t ha hb] at hitem
        cases hitem

/-- The items that the data loop takes leave, and the next datagram is due when the timeout has
passed. -/
theorem Stage.sends (hsuite : ∀ key nonce aad pt, (CryptoSuite.encrypt key nonce aad pt).isSome)
    {outBuf : List UInt8} (h : Stage now (k + outBuf.length) c (x :: xs) ys) (hnow : now ≠ 0)
    (hk : 810 ≤ k + outBuf.length) (htake : ∀ budget, outBuf.length - 24 ≤ budget →
      takeItems budget now (outBuf.length - 24) (outBuf.length - 24) c.hot.scheduler =
        (items, s', 0))
    (hitems : items ≠ []) (hin : ∀ z ∈ items, z ∈ x :: xs ∨ z ∈ ys) (hroom : 64 ≤ outBuf.length)
    (hshort : outBuf.length ≤ 810)
    (htag : (items.map fun item => (itemFrame item).needed).sum + 40 ≤ outBuf.length)
    (hpair : Pair now 0 3 s' xs' ys') (hfirst : ∀ z ∈ xs', z ∈ x :: xs)
    (hsecond : ∀ z ∈ ys', z ∈ ys) :
    Stage (now + 500000) k (c.step (.produce now outBuf)) xs' ys' ∧
      (c.step (.produce now outBuf)).hot.scheduler = s' ∧ c.transmittedItems now outBuf = items := by
  have hqueued : c.hot.scheduler.isEmpty = false := by
    rw [GameScheduler.isEmpty, List.all_eq_false]
    refine ⟨1, List.mem_finRange 1, ?_⟩
    rw [show c.hot.scheduler.queues 1 = x :: xs from h.pair.first]
    exact Bool.false_ne_true
  have hunreliable : ∀ z ∈ items, retransmissionRecord z = none := by
    intro z hz
    rcases hin z hz with hz | hz
    · rw [retransmissionRecord, (h.first z hz).class']
    · rw [retransmissionRecord, (h.second z hz).class']
  obtain ⟨hsender, htime, hsched, hconfig, hsent⟩ := h.sender.sends hsuite hnow h.late h.pair.fresh
    hqueued hshort hk htake hitems hunreliable hroom (hshort.trans (by decide)) htag
  have hcount := step_scheduler closed_counted h.counted (.produce now outBuf)
  obtain ⟨hbytes, hlimit⟩ := step_scheduler (closed_caps c.hot.scheduler.maxQueueBytesPerTier
    c.hot.scheduler.maxQueueItemsPerTier) ⟨rfl, rfl⟩ (.produce now outBuf)
  have hfirst' : ∀ z ∈ xs', Plain .p1Input 400 z := fun z hz => h.first z (hfirst z hz)
  have hsecond' : ∀ z ∈ ys', Plain .p4BulkCosmetic 300 z := fun z hz => h.second z (hsecond z hz)
  refine ⟨⟨hsender, ?_, ?_, hcount, ?_, ?_, ?_, ?_, hfirst', hsecond'⟩, hsched, hsent⟩
  · rw [Late, htime, hconfig, h.pto]
  · rw [hconfig]
    exact h.pto
  · rw [hbytes]
    exact h.bytes
  · rw [hlimit]
    exact h.items
  · rw [maxMessagePayload, hconfig]
    exact h.payload
  · rw [hsched]
    refine ⟨fun t z hz => ?_, hpair.first, hpair.second, hpair.others⟩
    by_cases ha : t = 1
    · rw [ha, show s'.queues 1 = xs' from hpair.first] at hz
      exact (hfirst' z hz).live _
    · by_cases hb : t = 4
      · rw [hb, show s'.queues 4 = ys' from hpair.second] at hz
        exact (hsecond' z hz).live _
      · rw [hpair.others t ha hb] at hz
        cases hz

theorem Stage.narrow (hsuite : ∀ key nonce aad pt, (CryptoSuite.encrypt key nonce aad pt).isSome)
    (h : Stage now (k + 551) c [x, x'] [y]) (hnow : now ≠ 0) (hk : 810 ≤ k)
    (hnext : FirstDue c.hot.scheduler) :
    Stage (now + 500000) k (c.step (.produce now narrowBuf)) [x'] [y] ∧
      Level 0 3 (c.step (.produce now narrowBuf)).hot.scheduler ∧
      c.transmittedItems now narrowBuf = [x] := by
  have hlen : narrowBuf.length = 551 := List.length_replicate
  rw [← hlen] at h
  have hx := h.first x (by simp)
  have hx' := h.first x' (by simp)
  have hy := h.second y (by simp)
  obtain ⟨s', htake, hpair, hlevel⟩ := h.pair.narrow 527 (by decide) hnext.closed
    (by rw [hy.sizeBytes]; exact hnext.turn) (by rw [hx.sizeBytes]; decide)
    (hx.fits (by decide) (by decide)) (by rw [hx.needed]; decide)
    (by rw [hx.needed, hx'.sizeBytes]; decide) (by rw [hx.needed, hy.sizeBytes]; decide)
  obtain ⟨hstage, hsched, hitems⟩ := h.sends hsuite hnow (hk.trans (Nat.le_add_right _ _))
    (by rw [hlen]; exact htake) (List.cons_ne_nil x [])
    (fun z hz => Or.inl (by rw [List.mem_singleton.mp hz]; exact List.mem_cons_self))
    (by rw [hlen]; decide) (by rw [hlen]; decide)
    (by rw [List.map_singleton, List.sum_singleton, hx.needed, hlen]; decide) hpair
    (fun z hz => List.mem_cons_of_mem _ hz) (fun z hz => hz)
  exact ⟨hstage, by rw [hsched]; exact hlevel, hitems⟩

theorem Stage.wide (hsuite : ∀ key nonce aad pt, (CryptoSuite.encrypt key nonce aad pt).isSome)
    (h : Stage now (k + 810) c [x, x'] [y, y']) (hnow : now ≠ 0)
    (hlevel : Level 0 3 c.hot.scheduler) :
    Stage (now + 500000) k (c.step (.produce now wideBuf)) [x'] [y'] ∧
      (c.hot.scheduler.marks.purse quanta 4 3 < 600 →
        FirstDue (c.step (.produce now wideBuf)).hot.scheduler) ∧
      c.transmittedItems now wideBuf = [x, y] := by
  have hlen : wideBuf.length = 810 := List.length_replicate
  rw [← hlen] at h
  have hx := h.first x (by simp)
  have hx' := h.first x' (by simp)
  have hy := h.second y (by simp)
  obtain ⟨s', htake, hpair, hclosed, hahead, hleft⟩ := h.pair.wide 786 (by decide) hlevel
    (by rw [hx.sizeBytes]; decide) (by rw [hy.sizeBytes]; decide)
    (hx.fits (by decide) (by decide)) (by rw [hx.needed]; decide)
    (by rw [hx.needed, hx'.sizeBytes]; decide)
    (hy.fits (by decide) (by rw [hx.needed]; decide)) (by rw [hx.needed, hy.needed]; decide)
  rw [hy.sizeBytes] at hleft
  obtain ⟨hstage, hsched, hitems⟩ := h.sends hsuite hnow (by omega) (by rw [hlen]; exact htake)
    (List.cons_ne_nil x [y]) (fun z hz => by
      rcases List.mem_cons.mp hz with rfl | hz
      · exact Or.inl List.mem_cons_self
      · rw [List.mem_singleton.mp hz]
        exact Or.inr List.mem_cons_self)
    (by rw [hlen]; decide) (by rw [hlen])
    (by
      rw [List.map_cons, List.map_singleton, List.sum_cons, List.sum_singleton, hx.needed,
        hy.needed, hlen]
      decide) hpair
    (fun z hz => List.mem_cons_of_mem _ hz) (fun z hz => List.mem_cons_of_mem _ hz)
  refine ⟨hstage, fun hpurse => ?_, hitems⟩
  rw [hsched]
  exact ⟨hclosed, Or.inr ⟨hahead, by omega⟩⟩

/-- One more message of tier 1, and a narrow datagram. -/
def roundOps (now : MonotonicTime) : List Op := [queueFirst now, .produce now narrowBuf]

/-- **One round**: a message of tier 1 leaves, and the message of tier 4 stays where it is. -/
theorem Stage.oneRound (hsuite : ∀ key nonce aad pt, (CryptoSuite.encrypt key nonce aad pt).isSome)
    (h : Stage now (k + 551) c [x] [y]) (hnow : now ≠ 0) (hk : 810 ≤ k)
    (hdue : FirstDue c.hot.scheduler) :
    ∃ x', Stage (now + 500000) k (c.run (roundOps now)) [x'] [y] ∧
      Level 0 3 (c.run (roundOps now)).hot.scheduler ∧ c.transmitted (roundOps now) = [x] ∧
      Runs.Along step (Saturated 1 4 427) c (roundOps now) := by
  obtain ⟨x', hsent, hmarks⟩ := h.sendFirst (by simp)
  obtain ⟨hstage, hlevel, hitems⟩ := hsent.narrow hsuite hnow hk
    ⟨by rw [hmarks]; exact hdue.closed, by rw [hmarks]; exact hdue.turn⟩
  have hrun : c.run (roundOps now) = (c.step (queueFirst now)).step (.produce now narrowBuf) := rfl
  rw [hrun]
  refine ⟨x', hstage, hlevel, ?_, ?_, ?_, trivial⟩
  · rw [roundOps, transmitted_cons, transmitted_cons, sentItems, hitems]
    rfl
  · exact h.saturated fun now outBuf heq => by cases heq
  · refine hsent.saturated fun now outBuf heq => ?_
    obtain ⟨-, rfl⟩ := Op.produce.inj heq
    rw [narrowBuf, List.length_replicate]
    decide

/-- Rounds, one timeout apart. -/
def roundsOps (now : MonotonicTime) : Nat → List Op
  | 0 => []
  | n + 1 => roundOps now ++ roundsOps (now + 500000) n

/-- **Any number of rounds**, by induction. -/
theorem Stage.rounds (hsuite : ∀ key nonce aad pt, (CryptoSuite.encrypt key nonce aad pt).isSome)
    (n : Nat) (h : Stage now (k + 551 * (n + 1)) c [x] [y]) (hnow : now ≠ 0) (hk : 810 ≤ k)
    (hdue : FirstDue c.hot.scheduler) :
    ∃ x' items, Stage (now + 500000 * (n + 1)) k (c.run (roundsOps now (n + 1))) [x'] [y] ∧
      Level 0 3 (c.run (roundsOps now (n + 1))).hot.scheduler ∧
      c.transmitted (roundsOps now (n + 1)) = items ∧ items.length = n + 1 ∧
      (∀ z ∈ items, Plain .p1Input 400 z) ∧
      Runs.Along step (Saturated 1 4 427) c (roundsOps now (n + 1)) := by
  have hone : ∀ {m}, 810 ≤ k + m := hk.trans (Nat.le_add_right _ _)
  induction n generalizing now c x with
  | zero =>
    obtain ⟨x1, hstage, hlevel, hsent, halong⟩ := h.oneRound hsuite hnow hk hdue
    rw [roundsOps, roundsOps, List.append_nil]
    refine ⟨x1, [x], hstage, hlevel, hsent, rfl, fun z hz => ?_, halong⟩
    rw [List.mem_singleton.mp hz]
    exact h.first x List.mem_cons_self
  | succ n ih =>
    rw [Nat.mul_succ, ← Nat.add_assoc] at h
    obtain ⟨x1, hstage, hlevel1, hfirst, halong⟩ := h.oneRound hsuite hnow hone hdue
    obtain ⟨x', items, hend, hlast, hitems, hcount, hplain, halong'⟩ :=
      ih hstage (Nat.ne_of_gt (Nat.add_pos_right now (by decide))) (firstDue_of_level hlevel1)
    have hrun : c.run (roundOps now ++ roundsOps (now + 500000) (n + 1)) =
        (c.run (roundOps now)).run (roundsOps (now + 500000) (n + 1)) := List.foldl_append
    have htime : now + 500000 + 500000 * (n + 1) = now + 500000 * (n + 1 + 1) := by
      rw [Nat.mul_succ 500000 (n + 1), Nat.add_comm (500000 * (n + 1)), Nat.add_assoc]
    rw [htime] at hend
    rw [roundsOps, hrun]
    refine ⟨x', x :: items, hend, hlast, ?_, ?_, ?_, Runs.along_append.mpr ⟨halong, halong'⟩⟩
    · rw [transmitted_append, hfirst, hitems]
      rfl
    · rw [List.length_cons, hcount]
    · intro z hz
      rcases List.mem_cons.mp hz with rfl | hz
      · exact h.first z List.mem_cons_self
      · exact hplain z hz

/-- One more message for each tier, and a datagram with one of each. -/
def lastOps (now : MonotonicTime) : List Op :=
  [queueFirst now, queueSecond now, .produce now wideBuf]

/-- **The end**: the message of tier 4 leaves at last, and both tiers have something to send. -/
theorem Stage.closes (hsuite : ∀ key nonce aad pt, (CryptoSuite.encrypt key nonce aad pt).isSome)
    (h : Stage now (k + 810) c [x] [y]) (hnow : now ≠ 0) (hlevel : Level 0 3 c.hot.scheduler) :
    (∃ x' y', Stage (now + 500000) k (c.run (lastOps now)) [x'] [y']) ∧
      c.transmitted (lastOps now) = [x, y] ∧
      Runs.Along step (Saturated 1 4 427) c (lastOps now) := by
  obtain ⟨x', h1, hmarks1⟩ := h.sendFirst (by simp)
  obtain ⟨y', h2, hmarks2⟩ := h1.sendSecond (by simp)
  obtain ⟨hstage, -, hsent⟩ := h2.wide hsuite hnow (hlevel.congr (hmarks2.trans hmarks1))
  refine ⟨⟨x', y', hstage⟩, ?_, ?_, ?_, ?_, trivial⟩
  · rw [lastOps, transmitted_cons, transmitted_cons, transmitted_cons]
    rw [sentItems_queueFirst, sentItems_queueSecond, List.nil_append, List.nil_append, sentItems,
      hsent]
    rfl
  · exact h.saturated fun now outBuf heq => by cases heq
  · exact h1.saturated fun now outBuf heq => by cases heq
  · refine h2.saturated fun now outBuf heq => ?_
    obtain ⟨-, rfl⟩ := Op.produce.inj heq
    rw [wideBuf, List.length_replicate]
    decide

end Stage

end GtpConnection

/-! ## 3. The run -/

namespace GtpConnection

namespace Starving

attribute [local instance] keyTagSuite

/-- The default configuration, with a bucket for `n` rounds. -/
def setup (n : Nat) : Setup :=
  { sampleSetup true with
    hotConfig := { GtpConfig.default with maxPacingBurstBytes := 551 * n + 5000 } }

end Starving

end GtpConnection

end Gtp
