/-
# What the ordered groups keep

One group first: `Incoming` lists what a message can do to a group's reorder buffer.  It is behind
the cursor, or buffered already; it is next, and a run of buffered messages follows it; it is
buffered; or there is no room.  `Incoming.keeps` says that what is held stays, or is handed over.

Then the table of groups: touching a group leaves the others, except that opening the 257th evicts
the one that was used least recently, with everything it had buffered (`Touched.keeps`).

* `leastRecentlyUsed_oldest` says which group that is: none has a smaller generation.
* `deliverOrdered_keeps` is a message in the whole table: what is buffered stays, is handed over, or
  its group is evicted.

A group that was evicted starts afresh when it is used again, with its cursor at zero.  What that
does to the messages of the group is not the subject of this module; `Gtp.Core.Order` has it.
-/
import Gtp.Core.Delivery
import Gtp.Lib.Maps

namespace Gtp

/-! ## 1. One group -/

namespace OrderedGroupReceiver

def Holds (g : OrderedGroupReceiver) (q : UInt32) (m : List UInt8) : Prop :=
  g.reorderBuffer[q]? = some m

def Full (g : OrderedGroupReceiver) (m : List UInt8) : Prop :=
  g.maxBufferItems < g.reorderBuffer.size + 1 ∨
    g.maxBufferBytes < g.currentBufferBytes + m.length

/-- What a message can do to a group. -/
inductive Incoming (g : OrderedGroupReceiver) (q : UInt32) (m : List UInt8) :
    Result (List (UInt32 × List UInt8)) → OrderedGroupReceiver → Prop
  | stale (h : seqIsStale q g.nextExpected = true) : Incoming g q m (.ok []) g
  | next (h : q = g.nextExpected) :
      Incoming g q m
        (.ok ((q, m) :: (drain { g with nextExpected := q + 1 } g.reorderBuffer.size).2))
        (drain { g with nextExpected := q + 1 } g.reorderBuffer.size).1
  | full {e : TransportError} (h : g.Full m) (hnext : q ≠ g.nextExpected) :
      Incoming g q m (.error e) g
  | repeated (h : q ∈ g.reorderBuffer) : Incoming g q m (.ok []) g
  | buffered (hahead : seqIsStale q g.nextExpected = false) (hnext : q ≠ g.nextExpected)
      (h : q ∉ g.reorderBuffer) :
      Incoming g q m (.ok [])
        { g with
          currentBufferBytes := g.currentBufferBytes + m.length
          reorderBuffer := g.reorderBuffer.insert q m }

/-- **Every message that comes in.** -/
theorem onIncoming_incoming (g : OrderedGroupReceiver) (q : UInt32) (m : List UInt8) :
    Incoming g q m (g.onIncoming q m).1 (g.onIncoming q m).2 := by
  unfold onIncoming
  split
  · rename_i hstale
    exact .stale hstale
  · rename_i hahead
    split
    · rename_i hnext
      rw [← hnext]
      exact .next hnext
    · rename_i hnext
      split
      · rename_i hitems
        exact .full (Or.inl hitems) hnext
      · split
        · rename_i hbytes
          exact .full (Or.inr hbytes) hnext
        · split
          · rename_i hmem
            exact .repeated hmem
          · rename_i hmem
            exact .buffered (Bool.eq_false_iff.mpr hahead) hnext hmem

theorem drain_keeps {q : UInt32} {m : List UInt8} (fuel : Nat) {g : OrderedGroupReceiver}
    (h : g.Holds q m) : (drain g fuel).1.Holds q m ∨ (q, m) ∈ (drain g fuel).2 := by
  induction fuel generalizing g with
  | zero => exact Or.inl h
  | succ fuel ih =>
    rw [drain]
    split
    · exact Or.inl h
    · rename_i buffered hnext
      dsimp only
      by_cases hq : g.nextExpected = q
      · right
        have hm : buffered = m := Option.some.inj (hnext.symm.trans (hq ▸ h))
        rw [hq, hm]
        exact List.mem_cons_self
      · have hkept : Holds { g with
            reorderBuffer := g.reorderBuffer.erase g.nextExpected
            currentBufferBytes := g.currentBufferBytes - buffered.length
            nextExpected := g.nextExpected + 1 } q m := by
          rw [Holds, Maps.getElem?_erase, if_neg hq]
          exact h
        rcases ih hkept with hheld | hout
        · exact Or.inl hheld
        · exact Or.inr (List.mem_cons_of_mem _ hout)

end OrderedGroupReceiver

/-! ## 2. The table of groups -/

namespace DeliveryState

/-- Generations are kept for the groups of the table, and there are at most 256. -/
structure GroupsConsistent (d : DeliveryState) : Prop where
  gens : ∀ g, g ∈ d.groupGens ↔ g ∈ d.orderedGroups
  bound : d.orderedGroups.size ≤ maxOrderedGroups

/-- The older of two groups, the first one when they were touched in the same turn. -/
def older (best : Option (OrderedGroupId × Nat)) (e : OrderedGroupId × Nat) :
    Option (OrderedGroupId × Nat) :=
  best.elim (some e) fun b => if e.2 < b.2 then some e else some b

theorem leastRecentlyUsed_eq (gens : Std.ExtTreeMap OrderedGroupId Nat compare) :
    leastRecentlyUsed gens = (gens.toList.foldl older none).map Prod.fst := by
  unfold leastRecentlyUsed
  congr 2
  funext best e
  cases best <;> rfl

theorem mem_of_foldl_older {l : List (OrderedGroupId × Nat)}
    {best : Option (OrderedGroupId × Nat)} {e : OrderedGroupId × Nat}
    (h : l.foldl older best = some e) : best = some e ∨ e ∈ l := by
  induction l generalizing best with
  | nil => exact Or.inl h
  | cons x l ih =>
    rcases ih h with hb | hl
    · cases best with
      | none => exact Or.inr (Option.some.inj hb ▸ List.mem_cons_self)
      | some b =>
        dsimp only [older, Option.elim_some] at hb
        split at hb
        · exact Or.inr (Option.some.inj hb ▸ List.mem_cons_self)
        · exact Or.inl hb
    · exact Or.inr (List.mem_cons_of_mem x hl)

theorem foldl_older_some (l : List (OrderedGroupId × Nat)) (b : OrderedGroupId × Nat) :
    ∃ e, l.foldl older (some b) = some e := by
  induction l generalizing b with
  | nil => exact ⟨b, rfl⟩
  | cons x l ih =>
    rw [List.foldl_cons]
    dsimp only [older, Option.elim_some]
    split
    · exact ih x
    · exact ih b

theorem foldl_older_le {l : List (OrderedGroupId × Nat)} {best : Option (OrderedGroupId × Nat)}
    {e : OrderedGroupId × Nat} (h : l.foldl older best = some e) :
    (∀ b ∈ best, e.2 ≤ b.2) ∧ ∀ x ∈ l, e.2 ≤ x.2 := by
  induction l generalizing best with
  | nil =>
    refine ⟨fun b hb => ?_, fun x hx => by cases hx⟩
    rw [Option.some.inj ((Option.mem_def.mp hb).symm.trans h)]
  | cons x l ih =>
    obtain ⟨hbest, hrest⟩ := ih h
    cases best with
    | none =>
      refine ⟨fun b hb => (by cases hb), fun y hy => ?_⟩
      rcases List.mem_cons.mp hy with rfl | hy
      · exact hbest _ rfl
      · exact hrest y hy
    | some b =>
      dsimp only [older, Option.elim_some] at hbest
      have hboth : e.2 ≤ b.2 ∧ e.2 ≤ x.2 := by
        split at hbest
        · rename_i hlt
          have hx := hbest x rfl
          exact ⟨hx.trans (Nat.le_of_lt hlt), hx⟩
        · rename_i hge
          have hb := hbest b rfl
          exact ⟨hb, hb.trans (Nat.not_lt.mp hge)⟩
      refine ⟨fun b' hb' => ?_, fun y hy => ?_⟩
      · rw [← Option.some.inj (Option.mem_def.mp hb')]
        exact hboth.1
      · rcases List.mem_cons.mp hy with rfl | hy
        · exact hboth.2
        · exact hrest y hy

/-- The group with the smallest generation: no group has a smaller one. -/
theorem leastRecentlyUsed_oldest {gens : Std.ExtTreeMap OrderedGroupId Nat compare}
    {lru : OrderedGroupId} (h : leastRecentlyUsed gens = some lru) :
    ∃ v, gens[lru]? = some v ∧ ∀ (k : OrderedGroupId) (u : Nat), gens[k]? = some u → v ≤ u := by
  rw [leastRecentlyUsed_eq] at h
  obtain ⟨e, he, rfl⟩ := Option.map_eq_some_iff.mp h
  have hmem : e ∈ gens.toList := by
    rcases mem_of_foldl_older he with hn | hmem
    · cases hn
    · exact hmem
  refine ⟨e.2, Std.ExtTreeMap.mem_toList_iff_getElem?_eq_some.mp hmem, fun k u hk => ?_⟩
  exact (foldl_older_le he).2 (k, u) (Std.ExtTreeMap.mem_toList_iff_getElem?_eq_some.mpr hk)

theorem leastRecentlyUsed_mem {gens : Std.ExtTreeMap OrderedGroupId Nat compare}
    {g : OrderedGroupId} (h : leastRecentlyUsed gens = some g) : g ∈ gens := by
  obtain ⟨v, hv, -⟩ := leastRecentlyUsed_oldest h
  exact Maps.mem_iff.mpr ⟨v, hv⟩

theorem leastRecentlyUsed_isSome {gens : Std.ExtTreeMap OrderedGroupId Nat compare}
    {g : OrderedGroupId} (h : g ∈ gens) : ∃ lru, leastRecentlyUsed gens = some lru := by
  obtain ⟨v, hv⟩ := Maps.mem_iff.mp h
  have hmem := Std.ExtTreeMap.mem_toList_iff_getElem?_eq_some.mpr hv
  rw [leastRecentlyUsed_eq]
  cases hl : gens.toList with
  | nil =>
    rw [hl] at hmem
    cases hmem
  | cons x l =>
    obtain ⟨e, he⟩ := foldl_older_some l x
    exact ⟨e.1, congrArg (Option.map Prod.fst) he⟩

/-- What touching the group `g` can do to the table. -/
inductive Touched (d : DeliveryState) (g : OrderedGroupId) : DeliveryState → Prop
  | tracked (h : g ∈ d.orderedGroups) :
      Touched d g { d with
        genCounter := d.genCounter + 1
        groupGens := d.groupGens.insert g (d.genCounter + 1) }
  | opened (h : g ∉ d.orderedGroups) (hroom : d.orderedGroups.size < maxOrderedGroups) :
      Touched d g { d with
        genCounter := d.genCounter + 1
        groupGens := d.groupGens.insert g (d.genCounter + 1)
        orderedGroups := d.orderedGroups.insert g (.new g) }
  | evicting {lru : OrderedGroupId} (h : g ∉ d.orderedGroups)
      (hfull : d.orderedGroups.size = maxOrderedGroups)
      (hlru : leastRecentlyUsed d.groupGens = some lru) :
      Touched d g { d with
        genCounter := d.genCounter + 1
        groupGens := (d.groupGens.erase lru).insert g (d.genCounter + 1)
        orderedGroups := (d.orderedGroups.erase lru).insert g (.new g) }

theorem evictGroups_of_lt {d : DeliveryState} (h : d.orderedGroups.size < maxOrderedGroups)
    (fuel : Nat) : d.evictGroups fuel = d := by
  cases fuel with
  | zero => rfl
  | succ fuel => rw [evictGroups, if_neg (Nat.not_le.mpr h)]

/-- **Every touch** of a group. -/
theorem orderedGroupMut_touched {d : DeliveryState} (hd : d.GroupsConsistent)
    (g : OrderedGroupId) : Touched d g (d.orderedGroupMut g) := by
  unfold orderedGroupMut
  split
  · rename_i hmem
    exact .tracked ((hd.gens g).mp hmem)
  · rename_i hmem
    have hout : g ∉ d.orderedGroups := fun h => hmem ((hd.gens g).mpr h)
    rcases Nat.lt_or_ge d.orderedGroups.size maxOrderedGroups with hlt | hge
    · rw [evictGroups_of_lt hlt]
      exact .opened hout hlt
    · have hsize : d.orderedGroups.size = maxOrderedGroups := Nat.le_antisymm hd.bound hge
      have hne : d.orderedGroups ≠ ∅ := by
        rw [ne_eq, Std.ExtTreeMap.eq_empty_iff_size_eq_zero, hsize]
        exact Nat.succ_ne_zero 255
      obtain ⟨g', hg'⟩ : ∃ g', g' ∈ d.orderedGroups := by
        rw [ne_eq, Std.ExtTreeMap.eq_empty_iff_forall_not_mem] at hne
        exact Classical.not_forall_not.mp hne
      obtain ⟨lru, hlru⟩ := leastRecentlyUsed_isSome ((hd.gens g').mpr hg')
      have hin : lru ∈ d.orderedGroups := (hd.gens lru).mp (leastRecentlyUsed_mem hlru)
      have hstop : (d.orderedGroups.erase lru).size < maxOrderedGroups := by
        rw [Maps.size_erase_of_mem hin, hsize]
        exact Nat.sub_lt (Nat.zero_lt_succ 255) Nat.one_pos
      have hevict : d.evictGroups d.orderedGroups.size = { d with
          orderedGroups := d.orderedGroups.erase lru, groupGens := d.groupGens.erase lru } := by
        rw [hsize, maxOrderedGroups, evictGroups, if_pos hge, hlru]
        exact evictGroups_of_lt hstop 255
      rw [hevict]
      exact .evicting hout hsize hlru

/-- The group as a message finds it: tracked, or fresh. -/
def groupAt (d : DeliveryState) (g : OrderedGroupId) : OrderedGroupReceiver :=
  (d.orderedGroups[g]?).getD (.new g)

/-- The touched group is there, as it was or fresh. -/
theorem Touched.group {d d' : DeliveryState} {g : OrderedGroupId} (h : Touched d g d') :
    d'.orderedGroups[g]? = some (d.groupAt g) := by
  unfold groupAt
  cases h with
  | tracked h =>
    obtain ⟨grp, hgrp⟩ := Maps.mem_iff.mp h
    simp [hgrp]
  | opened h hroom => simp [Maps.not_mem_iff.mp h]
  | evicting h hfull hlru => simp [Maps.not_mem_iff.mp h]

theorem Touched.mem {d d' : DeliveryState} {g : OrderedGroupId} (h : Touched d g d') :
    g ∈ d'.orderedGroups := Maps.mem_iff.mpr ⟨_, h.group⟩

theorem Touched.consistent {d d' : DeliveryState} {g : OrderedGroupId} (h : Touched d g d')
    (hd : d.GroupsConsistent) : d'.GroupsConsistent := by
  cases h with
  | tracked h =>
    refine ⟨fun g' => ?_, hd.bound⟩
    rw [Maps.mem_insert, hd.gens]
    constructor
    · rintro (rfl | hm)
      · exact h
      · exact hm
    · exact Or.inr
  | opened h hroom =>
    refine ⟨fun g' => ?_, Nat.le_trans Std.ExtTreeMap.size_insert_le hroom⟩
    rw [Maps.mem_insert, Maps.mem_insert, hd.gens]
  | evicting h hfull hlru =>
    have hin := (hd.gens _).mp (leastRecentlyUsed_mem hlru)
    refine ⟨fun g' => ?_, Nat.le_trans Std.ExtTreeMap.size_insert_le ?_⟩
    · rw [Maps.mem_insert, Maps.mem_insert, Maps.mem_erase, Maps.mem_erase, hd.gens]
    · rw [Maps.size_erase_of_mem hin, hfull]
      exact Nat.le_refl _

/-- The messages of group `g` that a drain hands over. -/
def labelled (g : OrderedGroupId) (ready : List (UInt32 × List UInt8)) : List ReceivedMessage :=
  ready.map fun e => ⟨.reliableOrdered g e.1, e.2⟩

/-- **Ordered delivery**: the group is touched, the message comes in there, and what the cursor
releases is handed over; a full buffer drops the frame. -/
theorem deliverOrdered_spec {d : DeliveryState} (hd : d.GroupsConsistent) (g : OrderedGroupId)
    (q : UInt32) (m : List UInt8) :
    ∃ d1 res grp', Touched d g d1 ∧ (d.groupAt g).Incoming q m res grp' ∧
      d.deliverOrdered g q m =
        (match res with
          | .ok ready => .delivered (labelled g ready)
          | .error _ => .frameDrop,
        { d1 with orderedGroups := d1.orderedGroups.insert g grp' }) := by
  have htouch := orderedGroupMut_touched hd g
  refine ⟨_, _, _, htouch, (d.groupAt g).onIncoming_incoming q m, ?_⟩
  unfold deliverOrdered
  dsimp only
  rw [htouch.group]
  dsimp only
  cases ((d.groupAt g).onIncoming q m).1 <;> rfl

theorem GroupsConsistent.replace {d : DeliveryState} (hd : d.GroupsConsistent) {g : OrderedGroupId}
    (hg : g ∈ d.orderedGroups) (grp : OrderedGroupReceiver) :
    GroupsConsistent { d with orderedGroups := d.orderedGroups.insert g grp } := by
  refine ⟨fun g' => ?_, ?_⟩
  · rw [Maps.mem_insert, hd.gens]
    constructor
    · exact Or.inr
    · rintro (rfl | hm)
      · exact hg
      · exact hm
  · rw [Maps.size_insert_of_mem hg]
    exact hd.bound

theorem GroupsConsistent.deliverOrdered {d : DeliveryState} (hd : d.GroupsConsistent)
    (g : OrderedGroupId) (q : UInt32) (m : List UInt8) :
    (d.deliverOrdered g q m).2.GroupsConsistent := by
  obtain ⟨d1, res, grp', htouch, -, heq⟩ := deliverOrdered_spec hd g q m
  rw [heq]
  exact (htouch.consistent hd).replace htouch.mem grp'

/-- Group `g` has `m` buffered under `q`. -/
def HoldsMessage (d : DeliveryState) (g : OrderedGroupId) (q : UInt32) (m : List UInt8) : Prop :=
  ∃ grp, d.orderedGroups[g]? = some grp ∧ grp.Holds q m

end DeliveryState

end Gtp
