/-
# What the data loop can draw

`produce_outgoing_datagram` fills a datagram turn after turn: it asks the scheduler for an item of
at most the send budget and at most the room left, and appends its frame.  Two numbers are not
lowered on the way.  The budget is compared with each item alone, so that every item is within it
and all of them together need not be; and the room counts the 16 bytes behind the frames that the
seal needs for its tag, so that a datagram can be filled too far to be sealed.

Both are settled by what the loop can draw from the tiers that it finds:

* `Finds` says what these are, in terms of the state before the call: the unexpired items of each
  tier, and behind those of tier 3 copies of what a due probe timeout takes out of the records;
* `Draws` says which items may be drawn off their fronts, one at a time, with tier 0 first;
* `BudgetCovers` and `TagFits` ask that whatever may be drawn is within the budget, and leaves the
  tag its room.  Under them a call is within its budget (`datagram_within_budget`), and does not
  fail (`tag_room`).

**The residual.**  Among tiers 1 to 4 the deficit round robin picks one of the drawings, by deficits
and a pointer that no condition here mentions; so a state in which only some of the drawings go too
far is outside the conditions, whichever of them is picked.  What tier 0 gives is certain
(`strictPart`), and both theorems say that the call goes too far when that part alone does.
-/
import Gtp.Core.Contents
import Gtp.Tiers
import Mathlib.Algebra.BigOperators.Group.Finset.Piecewise
import Mathlib.Algebra.Order.BigOperators.Group.Finset

namespace Gtp

open GameScheduler

namespace GtpConnection

/-! ## 1. Drawing items -/

/-- The bytes of the frames that carry the items. -/
def frameBytes (items : List SchedulableItem) : Nat :=
  (items.map fun item => (itemFrame item).needed).sum

/-- The items may be drawn off the fronts of the queues, in this order, into `room` bytes: while
more than 64 bytes are left, each within the budget and with a frame that fits, and from a tier
other than the first only when the item in front there is too large. -/
inductive Draws (budget : Nat) :
    Nat → (Fin 5 → List SchedulableItem) → List SchedulableItem → Prop
  | nil {room queues} : Draws budget room queues []
  | cons {room queues tier item rest items} (hq : queues tier = item :: rest) (hroom : 64 < room)
      (hpos : 0 < budget) (hbudget : item.sizeBytes ≤ min budget room)
      (hfits : itemFits item room = true)
      (hstrict : tier ≠ 0 → ∀ first ∈ (queues 0).head?, min budget room < first.sizeBytes)
      (hrest : Draws budget (room - (itemFrame item).needed) (Function.update queues tier rest)
        items) :
      Draws budget room queues (item :: items)

/-- The front part of the first tier that is drawn for certain. -/
def strictPart (budget : Nat) : Nat → List SchedulableItem → List SchedulableItem
  | _, [] => []
  | room, item :: rest =>
    if 64 < room ∧ 0 < budget ∧ item.sizeBytes ≤ min budget room ∧ itemFits item room = true then
      item :: strictPart budget (room - (itemFrame item).needed) rest
    else []

theorem sizeBytes_le_needed (item : SchedulableItem) :
    item.sizeBytes ≤ (itemFrame item).needed := by
  rw [SchedulableItem.sizeBytes, itemFrame]
  split <;> exact Nat.le_add_left _ _

theorem bytesOf_le_frameBytes (items : List SchedulableItem) :
    GameScheduler.bytesOf items ≤ frameBytes items := by
  induction items with
  | nil => exact Nat.le_refl 0
  | cons item rest ih => exact Nat.add_le_add (sizeBytes_le_needed item) ih

theorem frameBytes_append (items items' : List SchedulableItem) :
    frameBytes (items ++ items') = frameBytes items + frameBytes items' := by
  rw [frameBytes, List.map_append, List.sum_append]
  rfl

theorem frameBytes_le_of_isPrefix {items items' : List SchedulableItem} (h : items <+: items') :
    frameBytes items ≤ frameBytes items' := by
  obtain ⟨rest, rfl⟩ := h
  rw [frameBytes_append]
  exact Nat.le_add_right _ _

theorem bytesOf_le_of_isPrefix {items items' : List SchedulableItem} (h : items <+: items') :
    GameScheduler.bytesOf items ≤ GameScheduler.bytesOf items' := by
  obtain ⟨rest, rfl⟩ := h
  rw [GameScheduler.bytesOf, GameScheduler.bytesOf, List.map_append, List.sum_append]
  exact Nat.le_add_right _ _

theorem itemFits_needed {item : SchedulableItem} {room : Nat} (h : itemFits item room = true) :
    (itemFrame item).needed ≤ room := by
  rw [itemFits, Bool.and_eq_true, decide_eq_true_eq] at h
  exact h.1

theorem Draws.fits {budget room : Nat} {queues : Fin 5 → List SchedulableItem}
    {items : List SchedulableItem} (h : Draws budget room queues items) :
    frameBytes items ≤ room := by
  induction h with
  | nil => exact Nat.zero_le _
  | @cons room queues tier item rest items hq hroom hpos hbudget hfits hstrict hrest ih =>
    have hneeded := itemFits_needed hfits
    rw [frameBytes, List.map_cons, List.sum_cons]
    rw [frameBytes] at ih
    omega

/-- From the first tier alone nothing but its strict part may be drawn. -/
theorem Draws.strict {budget room : Nat} {queues : Fin 5 → List SchedulableItem}
    {items : List SchedulableItem} (h : Draws budget room queues items)
    (honly : ∀ t, t ≠ 0 → queues t = []) : items <+: strictPart budget room (queues 0) := by
  induction h with
  | nil => exact List.nil_prefix
  | @cons room queues tier item rest items hq hroom hpos hbudget hfits hstrict hrest ih =>
    have htier : tier = 0 := by
      by_contra hne
      rw [honly tier hne] at hq
      cases hq
    subst htier
    have hbehind : ∀ t, t ≠ 0 → Function.update queues 0 rest t = [] := by
      intro t ht
      rw [Function.update_of_ne ht]
      exact honly t ht
    have htail := ih hbehind
    rw [Function.update_self] at htail
    rw [hq, strictPart, if_pos ⟨hroom, hpos, hbudget, hfits⟩]
    exact (List.prefix_cons_inj item).mpr htail

/-- The first tier is served first. -/
theorem popNext_of_strict {s : GameScheduler} {now : MonotonicTime} (h : s.Fresh now)
    {item : SchedulableItem} {rest : List SchedulableItem} (hq : s.queues 0 = item :: rest)
    {budget : Nat} (hpos : 0 < budget) (hsize : item.sizeBytes ≤ budget) :
    s.popNext budget now = (some item, s.pull 0 item rest) := by
  have hserve := serveTier_fresh h 0 fun item => decide (item.sizeBytes ≤ budget)
  rw [hq] at hserve
  dsimp only at hserve
  rw [if_pos (decide_eq_true hsize)] at hserve
  have hidx : PriorityTier.p0Control.idx = 0 := rfl
  rw [popNext, if_neg (Nat.ne_of_gt hpos)]
  dsimp only
  rw [hidx, hq, hserve]

/-- **The data loop draws** off the queues that it finds. -/
theorem takeItems_draws (budget : Nat) (now : MonotonicTime) (fuel room : Nat) {s : GameScheduler}
    (hlive : s.Fresh now) :
    Draws budget room s.queues (takeItems budget now fuel room s).1 := by
  induction fuel generalizing room s with
  | zero => exact .nil
  | succ fuel ih =>
    -- one item, off the front of its tier, and what the loop takes behind it
    have hturn : ∀ {tier item rest s'}, s.queues tier = item :: rest →
        SameQueues (s.pull tier item rest) s' → 64 < room → 0 < min budget room →
        item.sizeBytes ≤ min budget room →
        (tier ≠ 0 → ∀ first ∈ (s.queues 0).head?, min budget room < first.sizeBytes) →
        itemFits item room = true →
        Draws budget room s.queues
          (item :: (takeItems budget now fuel (room - (itemFrame item).needed) s').1) := by
      intro tier item rest s' hq hsame hroom hpos hbudget hstrict hfits
      have hrest := ih (room - (itemFrame item).needed) ((hlive.pull hq).same hsame)
      rw [hsame.queues] at hrest
      exact .cons hq hroom (Nat.lt_min.mp hpos).1 hbudget hfits hstrict hrest
    rw [takeItems]
    split
    · rename_i hroom
      by_cases hfirst : ∃ item rest, s.queues 0 = item :: rest ∧ 0 < min budget room ∧
          item.sizeBytes ≤ min budget room
      · obtain ⟨item, rest, hq, hpos, hsize⟩ := hfirst
        rw [popNext_of_strict hlive hq hpos hsize]
        dsimp only
        split
        · rename_i hfits
          exact hturn hq (.refl _) hroom hpos hsize (fun hne => absurd rfl hne) hfits
        · rcases (s.pull 0 item rest).requeue item now with ⟨res, s2⟩
          cases res <;> exact .nil
      · have hpops := popNext_pops hlive (min budget room)
        have hspec := (popNext_spec s (min budget room) now).2
        have hzero : min budget room = 0 → (s.popNext (min budget room) now).1 = none := by
          intro hzero
          rw [popNext, if_pos hzero]
        generalize s.popNext (min budget room) now = r at hpops hspec hzero ⊢
        cases hpops with
        | nothing hsame => exact .nil
        | @front tier item rest s1 hq hsame =>
          have hpos : 0 < min budget room := by
            refine Nat.pos_of_ne_zero fun h0 => ?_
            cases hzero h0
          dsimp only at hspec ⊢
          split
          · rename_i hfits
            refine hturn hq hsame hroom hpos (hspec item rfl).2.1 (fun _ first hmem => ?_) hfits
            obtain ⟨behind, hq0⟩ := List.head?_eq_some_iff.mp (Option.mem_def.mp hmem)
            exact Nat.lt_of_not_le fun hle => hfirst ⟨first, behind, hq0, hpos, hle⟩
          · rcases s1.requeue item now with ⟨res, s2⟩
            cases res <;> exact .nil
    · exact .nil

/-- **The data loop takes the strict part**, and whatever else behind it. -/
theorem strictPart_isPrefix (budget : Nat) (now : MonotonicTime) {fuel room : Nat}
    (hfuel : room ≤ fuel) {s : GameScheduler} (hlive : s.Fresh now) :
    strictPart budget room (s.queues 0) <+: (takeItems budget now fuel room s).1 := by
  induction fuel generalizing room s with
  | zero =>
    cases s.queues 0 with
    | nil => exact List.nil_prefix
    | cons item rest =>
      rw [strictPart, if_neg fun hand => by omega]
      exact List.nil_prefix
  | succ fuel ih =>
    cases hq : s.queues 0 with
    | nil => exact List.nil_prefix
    | cons item rest =>
      rw [strictPart]
      split
      · rename_i hgo
        obtain ⟨hroom, hpos, hsize, hfits⟩ := hgo
        have hmin : 0 < min budget room := Nat.lt_min.mpr ⟨hpos, by omega⟩
        have hneeded := PacketBuilder.needed_pos (itemFrame item)
        rw [takeItems, if_pos hroom, popNext_of_strict hlive hq hmin hsize]
        dsimp only
        rw [if_pos hfits]
        have hrest := @ih (room - (itemFrame item).needed) (by omega) _ (hlive.pull hq)
        have hpulled : (s.pull 0 item rest).queues 0 = rest := by
          change Function.update (s.discard 0 item).queues 0 rest 0 = rest
          rw [Function.update_self]
        rw [hpulled] at hrest
        exact (List.prefix_cons_inj item).mpr hrest
      · exact List.nil_prefix

/-! ## 2. The tiers that a call finds -/

/-- The probe timeout is due. -/
def timeoutDue (c : GtpConnection) (now : MonotonicTime) : Prop :=
  0 < c.hot.lossDetector.inflightBytes ∧
    c.hot.lossDetector.ptoDurationWithBackoff c.config.ptoMaxDuration ≤
      now - c.hot.lossDetector.timeOfLastAckElicitingPacket

instance (c : GtpConnection) (now : MonotonicTime) : Decidable (c.timeoutDue now) :=
  inferInstanceAs (Decidable (_ ∧ _))

/-- The copies of what a due timeout takes out of the records. -/
def timeoutCopies (c : GtpConnection) (now : MonotonicTime) : List SchedulableItem :=
  if c.timeoutDue now then
    c.hot.lossDetector.onTimeout.2.retransmittable.map (retransmissionItem · now)
  else []

/-- The tiers that a call may find: what is queued and has not expired, and in tier 3 those copies
that were admitted. -/
def Finds (c : GtpConnection) (now : MonotonicTime) (tiers : Fin 5 → List SchedulableItem) : Prop :=
  ∃ copies : List SchedulableItem, copies.Sublist (c.timeoutCopies now) ∧ ∀ t, tiers t =
    (c.hot.scheduler.queues t ++
      if t = PriorityTier.p3ReliableGameplay.idx then copies else []).filter fun i =>
        !i.isExpired now

/-- A copy goes to the end of tier 3, or is refused. -/
theorem enqueue_copy (s : GameScheduler) (r : RetransmissionRecord) (now : MonotonicTime) :
    ∃ copies : List SchedulableItem, copies.Sublist [retransmissionItem r now] ∧
      ∀ t, (s.enqueue (retransmissionItem r now) now).2.queues t =
        s.queues t ++ if t = 3 then copies else [] := by
  have hidx : (retransmissionItem r now).priority.idx = 3 := rfl
  have hplaced : ∀ t, (s.place (retransmissionItem r now)
      (s.queues 3 ++ [retransmissionItem r now])).queues t =
        s.queues t ++ if t = 3 then [retransmissionItem r now] else [] := by
    intro t
    change Function.update s.queues 3 (s.queues 3 ++ [retransmissionItem r now]) t = _
    by_cases ht : t = 3
    · subst ht
      rw [Function.update_self, if_pos rfl]
    · rw [Function.update_of_ne ht, if_neg ht, List.append_nil]
  unfold enqueue
  dsimp only
  rw [hidx]
  split
  · refine ⟨[], List.nil_sublist _, fun t => ?_⟩
    rw [ite_self, List.append_nil]
  · split
    · rename_i hclass
      rw [retransmissionItem] at hclass
      dsimp only at hclass
      split at hclass <;> cases hclass
    · exact ⟨_, List.Sublist.refl _, hplaced⟩

theorem retransmitAll_queues (now : MonotonicTime) (rs : List RetransmissionRecord)
    (c : GtpConnection) :
    ∃ copies : List SchedulableItem, copies.Sublist (rs.map (retransmissionItem · now)) ∧
      ∀ t, (rs.foldl (retransmit now) c).hot.scheduler.queues t =
        c.hot.scheduler.queues t ++ if t = 3 then copies else [] := by
  induction rs generalizing c with
  | nil =>
    refine ⟨[], List.nil_sublist _, fun t => ?_⟩
    rw [ite_self, List.append_nil]
    rfl
  | cons r rs ih =>
    obtain ⟨first, hfirst, hone⟩ := enqueue_copy c.hot.scheduler r now
    obtain ⟨copies, hcopies, hrest⟩ := ih (retransmit now c r)
    refine ⟨first ++ copies, hfirst.append hcopies, fun t => ?_⟩
    rw [List.foldl_cons, hrest]
    have hqueues : (retransmit now c r).hot.scheduler.queues t =
        c.hot.scheduler.queues t ++ if t = 3 then first else [] := hone t
    rw [hqueues, List.append_assoc]
    split
    · rfl
    · rfl

/-- **What the call finds** before it drafts a datagram. -/
theorem prepare_finds (c : GtpConnection) (now : MonotonicTime) :
    c.Finds now (c.prepare now).hot.scheduler.queues := by
  have hpto : ∃ copies : List SchedulableItem, copies.Sublist (c.timeoutCopies now) ∧
      ∀ t, (c.checkPto now).hot.scheduler.queues t = c.hot.scheduler.queues t ++
        if t = PriorityTier.p3ReliableGameplay.idx then copies else [] := by
    unfold checkPto
    dsimp only
    split
    · rename_i hdue
      rw [timeoutCopies, if_pos (show c.timeoutDue now from hdue)]
      exact retransmitAll_queues now _ _
    · refine ⟨[], List.nil_sublist _, fun t => ?_⟩
      rw [ite_self, List.append_nil]
  obtain ⟨copies, hcopies, hqueues⟩ := hpto
  refine ⟨copies, hcopies, fun t => ?_⟩
  rw [← hqueues]
  rfl

theorem prepare_fresh (c : GtpConnection) (now : MonotonicTime) :
    (c.prepare now).hot.scheduler.Fresh now :=
  fresh_pruneStale _ now

/-- Of the first tier it finds what has not expired. -/
theorem prepare_strict (c : GtpConnection) (now : MonotonicTime) :
    (c.prepare now).hot.scheduler.queues 0 =
      (c.hot.scheduler.queues 0).filter fun i => !i.isExpired now := by
  obtain ⟨copies, -, hqueues⟩ := c.prepare_finds now
  rw [hqueues, if_neg (by decide), List.append_nil]

/-- What comes before the items does not depend on what the timeout and the pruning do. -/
theorem prepare_plan (c : GtpConnection) (room : Nat) (now : MonotonicTime) :
    (c.prepare now).ackBytes room now = c.ackBytes room now ∧
      (c.prepare now).plannedControls room now = c.plannedControls room now ∧
      (c.prepare now).dataRoom room now = c.dataRoom room now ∧
      (c.prepare now).takesData room now = c.takesData room now := by
  obtain ⟨ld, cc, s, pv, pac, cold, ev, hprep, -⟩ := c.prepare_spec now
  rw [hprep]
  exact ⟨rfl, rfl, rfl, rfl⟩

/-- The items may join a datagram of `room` bytes. -/
def MayJoin (c : GtpConnection) (room : Nat) (now : MonotonicTime) (items : List SchedulableItem) :
    Prop :=
  items = [] ∨ (c.takesData room now = true ∧ ∃ tiers, c.Finds now tiers ∧
    Draws (c.prepare now).sendBudget (c.dataRoom room now) tiers items)

/-- The items that join for certain, when the call drafts a datagram. -/
def mustJoin (c : GtpConnection) (room : Nat) (now : MonotonicTime) : List SchedulableItem :=
  if c.takesData room now = true then
    strictPart (c.prepare now).sendBudget (c.dataRoom room now)
      ((c.hot.scheduler.queues PriorityTier.p0Control.idx).filter fun i => !i.isExpired now)
  else []

/-- **The items of a draft** may join, and those that must are among them. -/
theorem plannedItems_joins (c : GtpConnection) (room : Nat) (now : MonotonicTime) :
    c.MayJoin room now ((c.prepare now).plannedItems room now).1 ∧
      c.mustJoin room now <+: ((c.prepare now).plannedItems room now).1 := by
  obtain ⟨-, -, hroom, htakes⟩ := c.prepare_plan room now
  rw [plannedItems, mustJoin, htakes, hroom]
  split
  · rename_i hdata
    have hdraws := takeItems_draws (c.prepare now).sendBudget now (c.dataRoom room now)
      (c.dataRoom room now) (c.prepare_fresh now)
    have hprefix := strictPart_isPrefix (c.prepare now).sendBudget now
      (Nat.le_refl (c.dataRoom room now)) (c.prepare_fresh now)
    rw [prepare_strict] at hprefix
    exact ⟨Or.inr ⟨hdata, _, c.prepare_finds now, hdraws⟩, hprefix⟩
  · exact ⟨Or.inl rfl, List.nil_prefix⟩

/-- Only the first tier holds items, and no timeout brings any back. -/
structure OnlyStrict (c : GtpConnection) (now : MonotonicTime) : Prop where
  empty : ∀ t, t ≠ PriorityTier.p0Control.idx → c.hot.scheduler.queues t = []
  noCopies : c.timeoutCopies now = []

theorem MayJoin.of_onlyStrict {c : GtpConnection} {room : Nat} {now : MonotonicTime}
    {items : List SchedulableItem} (h : c.MayJoin room now items) (honly : c.OnlyStrict now) :
    items <+: c.mustJoin room now := by
  rcases h with rfl | ⟨hdata, tiers, ⟨copies, hcopies, htiers⟩, hdraws⟩
  · exact List.nil_prefix
  · rw [honly.noCopies, List.sublist_nil] at hcopies
    subst hcopies
    have hempty : ∀ t, t ≠ 0 → tiers t = [] := by
      intro t ht
      rw [htiers, honly.empty t ht, ite_self]
      rfl
    have hprefix := hdraws.strict hempty
    rw [htiers 0, ite_self, List.append_nil] at hprefix
    rw [mustJoin, if_pos hdata]
    exact hprefix

/-! ## 3. Everything at once -/

/-- Drawn items are off the queues. -/
theorem Draws.frameBytes_le {budget room : Nat} {queues : Fin 5 → List SchedulableItem}
    {items : List SchedulableItem} (h : Draws budget room queues items) :
    frameBytes items ≤ ∑ t, frameBytes (queues t) := by
  induction h with
  | nil => exact Nat.zero_le _
  | @cons room queues tier item rest items hq hroom hpos hbudget hfits hstrict hrest ih =>
    have hother : ∀ t ∈ Finset.univ.erase tier,
        frameBytes (Function.update queues tier rest t) = frameBytes (queues t) := by
      intro t ht
      rw [Function.update_of_ne (Finset.ne_of_mem_erase ht)]
    have hown : frameBytes (queues tier) = (itemFrame item).needed + frameBytes rest := by
      rw [hq]
      rfl
    rw [← Finset.add_sum_erase Finset.univ _ (Finset.mem_univ tier), Finset.sum_congr rfl hother,
      Function.update_self] at ih
    rw [← Finset.add_sum_erase Finset.univ _ (Finset.mem_univ tier), hown]
    rw [frameBytes, List.map_cons, List.sum_cons, Nat.add_assoc]
    exact Nat.add_le_add_left ih _

theorem frameBytes_sublist {items items' : List SchedulableItem} (h : items.Sublist items') :
    frameBytes items ≤ frameBytes items' :=
  (h.map _).sum_le_sum fun _ _ => Nat.zero_le _

/-- What may join is queued, or a copy of what the timeout takes out of the records. -/
theorem MayJoin.frameBytes_le {c : GtpConnection} {room : Nat} {now : MonotonicTime}
    {items : List SchedulableItem} (h : c.MayJoin room now items) :
    frameBytes items ≤
      ∑ t, frameBytes (c.hot.scheduler.queues t) + frameBytes (c.timeoutCopies now) := by
  rcases h with rfl | ⟨-, tiers, ⟨copies, hcopies, htiers⟩, hdraws⟩
  · exact Nat.zero_le _
  · refine hdraws.frameBytes_le.trans ?_
    have htier : ∀ t, frameBytes (tiers t) ≤ frameBytes (c.hot.scheduler.queues t) +
        (if t = 3 then frameBytes copies else 0) := by
      intro t
      have hfilter : frameBytes (tiers t) ≤
          frameBytes (c.hot.scheduler.queues t ++ if t = 3 then copies else []) := by
        rw [htiers]
        exact frameBytes_sublist List.filter_sublist
      rw [frameBytes_append] at hfilter
      by_cases ht : t = 3
      · rw [if_pos ht] at hfilter ⊢
        exact hfilter
      · rw [if_neg ht] at hfilter ⊢
        exact hfilter
    calc ∑ t, frameBytes (tiers t)
        ≤ ∑ t, (frameBytes (c.hot.scheduler.queues t) + if t = 3 then frameBytes copies else 0) :=
          Finset.sum_le_sum fun t _ => htier t
      _ = ∑ t, frameBytes (c.hot.scheduler.queues t) + frameBytes copies := by
          rw [Finset.sum_add_distrib, Finset.sum_ite_eq' Finset.univ 3, if_pos (Finset.mem_univ _)]
      _ ≤ _ := Nat.add_le_add_left (frameBytes_sublist hcopies) _

/-! ## 4. The send budget -/

/-- **The budget covers the datagram.**  When the call drafts a datagram of `room` bytes, whatever
may join it is together within the budget. -/
def BudgetCovers (c : GtpConnection) (room : Nat) (now : MonotonicTime) : Prop :=
  c.builds now → ∀ items, c.MayJoin room now items →
    GameScheduler.bytesOf items ≤ (c.prepare now).sendBudget

/-- A budget as large as the room covers whatever is queued. -/
theorem budgetCovers_of_room {c : GtpConnection} {room : Nat} {now : MonotonicTime}
    (h : room ≤ (c.prepare now).sendBudget) : c.BudgetCovers room now := by
  rintro - items (rfl | ⟨-, tiers, -, hdraws⟩)
  · exact Nat.zero_le _
  · have hroom : c.dataRoom room now ≤ room := (Nat.sub_le _ _).trans (Nat.sub_le _ _)
    exact (bytesOf_le_frameBytes items).trans (hdraws.fits.trans (hroom.trans h))

variable [CryptoSuite]

/-- The items that a call transmits: those of its draft, when it hands out a datagram. -/
def transmittedItems (c : GtpConnection) (now : MonotonicTime) (outBuf : List UInt8) :
    List SchedulableItem :=
  match (c.produceOutgoingDatagram now outBuf).result,
      PacketBuilder.new outBuf (nextHeader (c.prepare now).hot now) with
  | .ok (some _), .ok builder => ((c.prepare now).assemble builder now).1.popped
  | _, _ => []

/-- What is transmitted are the items of the draft. -/
theorem transmittedItems_eq (c : GtpConnection) {now : MonotonicTime} {outBuf : List UInt8}
    {dest : SocketAddr} {len : Nat}
    (h : (c.produceOutgoingDatagram now outBuf).result = .ok (some (dest, len))) :
    c.builds now ∧ c.transmittedItems now outBuf =
      ((c.prepare now).plannedItems (outBuf.length - minCommonHeaderLen) now).1 := by
  obtain ⟨b, hb, -⟩ := produce_some h
  obtain ⟨hcar, -, hcap⟩ := new_nextHeader hb
  refine ⟨?_, ?_⟩
  · by_contra hnot
    rw [produce_of_not_builds hnot] at h
    cases h
  · have hroom : b.remainingCapacity = outBuf.length - minCommonHeaderLen := hcap
    rw [transmittedItems, h, hb, ← hroom]
    exact ((c.prepare now).assemble_planned hcar now).2.1

/-- **Within the budget.**  After every run of a fresh connection, a call whose budget covers the
datagram transmits items of at most the budget; a datagram is over the budget when the items that
must join it are; and where only the first tier holds items the two come to the same. -/
theorem datagram_within_budget (s : Setup) (ops : List Op) (now : MonotonicTime)
    (outBuf : List UInt8) :
    let c := s.start.run ops
    let room := outBuf.length - minCommonHeaderLen
    (c.BudgetCovers room now →
      GameScheduler.bytesOf (c.transmittedItems now outBuf) ≤ (c.prepare now).sendBudget) ∧
    ((∃ dest len, (c.produceOutgoingDatagram now outBuf).result = .ok (some (dest, len))) →
      (c.prepare now).sendBudget < GameScheduler.bytesOf (c.mustJoin room now) →
      (c.prepare now).sendBudget < GameScheduler.bytesOf (c.transmittedItems now outBuf)) ∧
    ((∃ dest len, (c.produceOutgoingDatagram now outBuf).result = .ok (some (dest, len))) →
      c.OnlyStrict now →
      (GameScheduler.bytesOf (c.transmittedItems now outBuf) ≤ (c.prepare now).sendBudget ↔
        c.BudgetCovers room now)) := by
  intro c room
  have hwithin : c.BudgetCovers room now →
      GameScheduler.bytesOf (c.transmittedItems now outBuf) ≤ (c.prepare now).sendBudget := by
    intro hcovers
    by_cases hsent : ∃ dest len, (c.produceOutgoingDatagram now outBuf).result =
        .ok (some (dest, len))
    · obtain ⟨dest, len, hsent⟩ := hsent
      obtain ⟨hbuilds, hitems⟩ := c.transmittedItems_eq hsent
      rw [hitems]
      exact hcovers hbuilds _ (c.plannedItems_joins room now).1
    · have hnone : c.transmittedItems now outBuf = [] := by
        rw [transmittedItems]
        split
        · rename_i hres hb
          exact absurd ⟨_, _, hres⟩ hsent
        · rfl
      rw [hnone]
      exact Nat.zero_le _
  have hmust : (∃ dest len, (c.produceOutgoingDatagram now outBuf).result =
      .ok (some (dest, len))) → GameScheduler.bytesOf (c.mustJoin room now) ≤
        GameScheduler.bytesOf (c.transmittedItems now outBuf) := by
    rintro ⟨dest, len, hsent⟩
    obtain ⟨-, hitems⟩ := c.transmittedItems_eq hsent
    rw [hitems]
    exact bytesOf_le_of_isPrefix (c.plannedItems_joins room now).2
  refine ⟨hwithin, fun hsent hover => hover.trans_le (hmust hsent), fun hsent honly => ?_⟩
  refine ⟨fun hle _ items hjoin => ?_, hwithin⟩
  exact ((bytesOf_le_of_isPrefix (hjoin.of_onlyStrict honly)).trans (hmust hsent)).trans hle

end GtpConnection

/-! ## 5. Over the budget -/

namespace GtpConnection

attribute [local instance] keyTagSuite

/-- Nineteen full datagrams at one time, then two items. -/
def twoQueued : List Op :=
  (List.replicate 19 [Op.sendUnreliable (List.replicate 1133 0) .p3ReliableGameplay none 1,
    .produce 1 (List.replicate 1500 0)]).flatten ++
  List.replicate 2 (.sendUnreliable (List.replicate 650 0) .p3ReliableGameplay none 1)

/-- **Both leave**: the budget has 1200 bytes left, and the next datagram carries 1300. -/
theorem two_items_over_budget :
    let c := (sampleSetup true).start.run twoQueued
    Reachable c ∧ (c.prepare 1).sendBudget = 1200 ∧
      ¬ GameScheduler.bytesOf (c.transmittedItems 1 (List.replicate 1500 0)) ≤
        (c.prepare 1).sendBudget := by
  have heval : (((sampleSetup true).start.run twoQueued).prepare 1).sendBudget = 1200 ∧
      GameScheduler.bytesOf (((sampleSetup true).start.run twoQueued).transmittedItems 1
        (List.replicate 1500 0)) = 1300 := by decide +kernel
  refine ⟨⟨_, _, rfl⟩, heval.1, ?_⟩
  rw [heval.1, heval.2]
  decide

/-- The theorem at a fresh connection, whose budget is larger than any buffer of the send loop. -/
theorem datagram_within_budget_fresh :
    GameScheduler.bytesOf (((sampleSetup true).start.run
      [.sendUnreliable [1, 2, 3] .p3ReliableGameplay none 1]).transmittedItems 1
        (List.replicate 1500 0)) ≤ 24000 := by
  have hbudget : (((sampleSetup true).start.run
      [.sendUnreliable [1, 2, 3] .p3ReliableGameplay none 1]).prepare 1).sendBudget = 24000 := by
    decide +kernel
  have hle := (datagram_within_budget (sampleSetup true)
    [.sendUnreliable [1, 2, 3] .p3ReliableGameplay none 1] 1 (List.replicate 1500 0)).1
    (budgetCovers_of_room (by rw [hbudget, List.length_replicate]; decide))
  rw [hbudget] at hle
  exact hle

end GtpConnection

/-! ## 6. Room for the tag -/

namespace GtpConnection

/-- The bytes behind the header in the buffer of the send loop. -/
def txRoom : Nat := txBufferLen - minCommonHeaderLen

/-- **The tag has room.**  When the call drafts a datagram, the ACK, the control frames that fit and
whatever may join them leave 16 bytes. -/
def TagFits (c : GtpConnection) (now : MonotonicTime) : Prop :=
  c.builds now → ∀ items, c.MayJoin txRoom now items →
    c.ackBytes txRoom now + controlBytes (c.plannedControls txRoom now) + frameBytes items +
      aeadTagLen ≤ txRoom

/-- It has when everything that is queued fits at once. -/
theorem tagFits_of_total {c : GtpConnection} {now : MonotonicTime}
    (h : c.ackBytes txRoom now + controlBytes (c.plannedControls txRoom now) +
      (∑ t, frameBytes (c.hot.scheduler.queues t) + frameBytes (c.timeoutCopies now)) +
        aeadTagLen ≤ txRoom) : c.TagFits now := by
  intro _ items hjoin
  have hle := hjoin.frameBytes_le
  omega

variable [CryptoSuite]

/-- **Room for the tag.** In every reachable state a call with the runtime's buffer returns no error
when the tag has room whatever joins the datagram; when a call that drafts a datagram returns none,
the frames that come before the items, and the items that must join, have left the tag its room; and
where only the first tier holds items the two come to the same. -/
theorem tag_room (hsuite : ∀ key nonce aad pt, pt.length ≤ 65535 →
      (CryptoSuite.encrypt key nonce aad pt).isSome) {c : GtpConnection} (hc : Reachable c)
    (now : MonotonicTime) {outBuf : List UInt8} (hlen : outBuf.length = txBufferLen) :
    (c.TagFits now → ∀ e, (c.produceOutgoingDatagram now outBuf).result ≠ .error e) ∧
    ((∀ e, (c.produceOutgoingDatagram now outBuf).result ≠ .error e) → c.builds now →
      c.ackBytes txRoom now + controlBytes (c.plannedControls txRoom now) +
        frameBytes (c.mustJoin txRoom now) + aeadTagLen ≤ txRoom) ∧
    (c.OnlyStrict now → ((∀ e, (c.produceOutgoingDatagram now outBuf).result ≠ .error e) ↔
      c.TagFits now)) := by
  obtain ⟨hack, hctrls, -, -⟩ := c.prepare_plan txRoom now
  obtain ⟨hmay, hmust⟩ := c.plannedItems_joins txRoom now
  have hbytes : (c.prepare now).plannedBytes txRoom now = c.ackBytes txRoom now +
      controlBytes (c.plannedControls txRoom now) +
        frameBytes ((c.prepare now).plannedItems txRoom now).1 := by
    rw [plannedBytes, hack, hctrls]
    rfl
  have htag : minCommonHeaderLen ≤ txBufferLen := by decide
  have hroom : txRoom = txBufferLen - minCommonHeaderLen := rfl
  have hiff := produce_ok_iff hsuite hc now hlen
  rw [show txBufferLen - minCommonHeaderLen = txRoom from rfl, hbytes] at hiff
  have hfits : c.TagFits now → ∀ e, (c.produceOutgoingDatagram now outBuf).result ≠ .error e := by
    refine fun hfits => hiff.mpr fun hbuilds => ?_
    have hle := hfits hbuilds _ hmay
    omega
  have hleft : (∀ e, (c.produceOutgoingDatagram now outBuf).result ≠ .error e) → c.builds now →
      c.ackBytes txRoom now + controlBytes (c.plannedControls txRoom now) +
        frameBytes (c.mustJoin txRoom now) + aeadTagLen ≤ txRoom := by
    intro hok hbuilds
    have hle := hiff.mp hok hbuilds
    have hprefix := frameBytes_le_of_isPrefix hmust
    omega
  refine ⟨hfits, hleft, fun honly => ⟨fun hok hbuilds items hjoin => ?_, hfits⟩⟩
  have hle := hleft hok hbuilds
  have hprefix := frameBytes_le_of_isPrefix (hjoin.of_onlyStrict honly)
  omega

end GtpConnection

/-! ## 7. No room for the tag -/

namespace GtpConnection

attribute [local instance] keyTagSuite

/-- A message and a ping. -/
def pingAndMessage : GtpConnection :=
  (sampleSetup true).start.run
    [.sendPing 5, .sendReliableUnordered (List.replicate 1133 0) .p1Input none 0]

/-- The theorem at a connection with both to send, which fit at once. -/
theorem tag_room_pingAndMessage :
    (pingAndMessage.hot.scheduler.queues 1).length = 1 ∧
      ∀ e, (pingAndMessage.produceOutgoingDatagram 10 (List.replicate 1500 0)).result ≠
        .error e := by
  have hreach : Reachable pingAndMessage := ⟨_, _, rfl⟩
  refine ⟨by decide +kernel, (tag_room (fun _ _ _ _ _ => rfl) hreach 10
    List.length_replicate).1 (tagFits_of_total ?_)⟩
  decide +kernel

/-- Two messages whose frames fill the buffer up to its last 6 bytes. -/
def crowdedConnection : GtpConnection :=
  (sampleSetup true).start.run
    [.sendReliableUnordered (List.replicate 1133 0) .p0Control none 0,
      .sendReliableUnordered (List.replicate 295 0) .p0Control none 0]

/-- **No room for the tag.**  Both messages go into the datagram, and sealing fails. -/
theorem crowded_produce_fails :
    Reachable crowdedConnection ∧
      (crowdedConnection.produceOutgoingDatagram 0 (List.replicate 1500 0)).result =
        .error .bufferTooShort :=
  ⟨⟨_, _, rfl⟩, by decide +kernel⟩

end GtpConnection

end Gtp
