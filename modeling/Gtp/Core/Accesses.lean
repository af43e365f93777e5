/-
# The ordered groups as a cache

Two maps and a counter stand for a list of at most 256 groups in the order of their last access.
After any calls of `ordered_group_mut`, whatever the callers do with the receivers they are given,
the generation of a group is the number of the call that was its last access (`Recent`).  So
generations are distinct, and the group that leaves for a new one at the cap is the one that was
accessed least recently.

* `lastAccess` counts the calls from 1 on, without the two maps; `Recent` compares it with them.
* `Recent.access` is one call: the `expect` behind the insertion finds the group, so that a call has
  a result whenever the state is `Recent`.
* `Recent.leastRecentlyUsed` turns the smallest generation into the group of the oldest last access.

A caller may do what it likes with the receiver it is given, the caps and the buffer included: the
call is modelled with an arbitrary function on receivers.  Left out is the wrap of the generation
counter, a `u64` that goes up by one with every call: calls are counted in the natural numbers here.
-/
import Gtp.Core.Groups
import Gtp.Core.State

namespace Gtp

/-! ## 1. The last access -/

section LastAccess

variable {α : Type} [DecidableEq α]

/-- The number of the last call that was for `a`, from 1 on; 0 when there was none. -/
def lastAccess (calls : List α) (a : α) : Nat := calls.length - calls.reverse.idxOf a

theorem lastAccess_concat (calls : List α) (a b : α) :
    lastAccess (calls ++ [b]) a = if b = a then calls.length + 1 else lastAccess calls a := by
  rw [lastAccess, List.reverse_concat, List.length_append, List.length_singleton, List.idxOf_cons]
  by_cases h : b = a
  · simp [h]
  · rw [if_neg h, beq_false_of_ne h, cond_false, Nat.add_sub_add_right, lastAccess]

theorem lastAccess_le (calls : List α) (a : α) : lastAccess calls a ≤ calls.length :=
  Nat.sub_le ..

theorem lastAccess_inj {calls : List α} {a b : α} (hpos : 0 < lastAccess calls a)
    (h : lastAccess calls a = lastAccess calls b) : a = b := by
  induction calls using List.reverseRecOn with
  | nil => exact absurd hpos (Nat.lt_irrefl 0)
  | append_singleton calls c ih =>
    have hbound := lastAccess_le calls
    rw [lastAccess_concat] at hpos
    rw [lastAccess_concat, lastAccess_concat] at h
    by_cases ha : c = a
    · rw [if_pos ha] at h
      by_cases hb : c = b
      · exact ha.symm.trans hb
      · rw [if_neg hb] at h
        exact absurd (hbound b) (Nat.not_le.mpr (h ▸ Nat.lt_succ_self _))
    · rw [if_neg ha] at hpos h
      by_cases hb : c = b
      · rw [if_pos hb] at h
        exact absurd (hbound a) (Nat.not_le.mpr (h ▸ Nat.lt_succ_self _))
      · rw [if_neg hb] at h
        exact ih hpos h

end LastAccess

namespace DeliveryState

/-! ## 2. Calls -/

/-- The state of a new connection. -/
def initial : DeliveryState := ⟨∅, ∅, 0, .new, .new, .new 4096⟩

/-- It is that of the constructor. -/
example (cid : ConnectionId) (peerAddr : SocketAddr)
    (txProtector rxProtector : Protector) (rxProtectorPrev : Option Protector)
    (txKey rxKey : Bytes 32) (txIv rxIv : Bytes 12) (keyPhase preValidated : Bool)
    (config : GtpConfig) :
    (ConnectionHot.buildWithConfig cid peerAddr txProtector rxProtector rxProtectorPrev txKey rxKey
      txIv rxIv keyPhase preValidated config).toDeliveryState = initial := rfl

/-- A call of `ordered_group_mut`, and what its caller does with the receiver it is given. -/
structure GroupCall where
  groupId : OrderedGroupId
  edit : OrderedGroupReceiver → OrderedGroupReceiver

/-- The call, and the caller after it; none when the `expect` panics. -/
def access (d : DeliveryState) (c : GroupCall) : Option DeliveryState :=
  let d := d.orderedGroupMut c.groupId
  d.orderedGroups[c.groupId]?.map fun group =>
    { d with orderedGroups := d.orderedGroups.insert c.groupId (c.edit group) }

/-- The generation of a group is the number of its last access. -/
structure Recent (d : DeliveryState) (calls : List OrderedGroupId) : Prop where
  consistent : d.GroupsConsistent
  counter : d.genCounter = calls.length
  gens : ∀ (g : OrderedGroupId) (v : Nat), d.groupGens[g]? = some v →
    0 < v ∧ v = lastAccess calls g

theorem recent_initial : initial.Recent [] where
  consistent := ⟨fun g => (by simp [initial]), Nat.zero_le _⟩
  counter := rfl
  gens g v hv := by
    rw [initial, Std.ExtTreeMap.getElem?_empty] at hv
    cases hv

theorem Touched.gens {d d' : DeliveryState} {g : OrderedGroupId} (h : Touched d g d')
    {g' : OrderedGroupId} {v : Nat} (hv : d'.groupGens[g']? = some v) :
    g = g' ∧ v = d.genCounter + 1 ∨ g ≠ g' ∧ d.groupGens[g']? = some v := by
  by_cases hg : g = g'
  · subst hg
    left
    cases h <;> exact ⟨rfl, (Option.some.inj (hv.symm.trans Std.ExtTreeMap.getElem?_insert_self))⟩
  · right
    refine ⟨hg, ?_⟩
    cases h with
    | tracked h =>
      rw [Maps.getElem?_insert, if_neg hg] at hv
      exact hv
    | opened h hroom =>
      rw [Maps.getElem?_insert, if_neg hg] at hv
      exact hv
    | evicting h hfull hlru =>
      rw [Maps.getElem?_insert, if_neg hg, Maps.getElem?_erase] at hv
      split at hv
      · cases hv
      · exact hv

theorem Touched.genCounter {d d' : DeliveryState} {g : OrderedGroupId} (h : Touched d g d') :
    d'.genCounter = d.genCounter + 1 := by
  cases h <;> rfl

section Calls

variable {d : DeliveryState} {calls : List OrderedGroupId}

/-- **One touch.** -/
theorem Recent.touched (h : d.Recent calls) {g : OrderedGroupId} {d' : DeliveryState}
    (htouch : Touched d g d') : d'.Recent (calls ++ [g]) where
  consistent := htouch.consistent h.consistent
  counter := by
    rw [htouch.genCounter, h.counter, List.length_append, List.length_singleton]
  gens g' v hv := by
    rw [lastAccess_concat]
    rcases htouch.gens hv with ⟨rfl, rfl⟩ | ⟨hg, hv⟩
    · rw [if_pos rfl, h.counter]
      exact ⟨Nat.succ_pos _, rfl⟩
    · rw [if_neg hg]
      exact h.gens g' v hv

/-- **One call**: the `expect` finds the group. -/
theorem Recent.access (h : d.Recent calls) (c : GroupCall) :
    ∃ d', d.access c = some d' ∧ d'.Recent (calls ++ [c.groupId]) := by
  have htouch := orderedGroupMut_touched h.consistent c.groupId
  have hnext := h.touched htouch
  refine ⟨_, ?_, hnext.consistent.replace htouch.mem (c.edit (d.groupAt c.groupId)), hnext.counter,
    hnext.gens⟩
  rw [DeliveryState.access, htouch.group]
  rfl

/-- **Any calls.** -/
theorem Recent.run (h : d.Recent calls) (cs : List GroupCall) :
    ∃ d', cs.foldlM DeliveryState.access d = some d' ∧
      d'.Recent (calls ++ cs.map GroupCall.groupId) := by
  induction cs generalizing d calls with
  | nil =>
    rw [List.map_nil, List.append_nil]
    exact ⟨d, rfl, h⟩
  | cons c cs ih =>
    obtain ⟨d1, haccess, h1⟩ := h.access c
    obtain ⟨d', hrun, h'⟩ := ih h1
    rw [List.append_assoc] at h'
    refine ⟨d', ?_, h'⟩
    rw [List.foldlM_cons, haccess]
    exact hrun

theorem Recent.gens_inj (h : d.Recent calls) {g g' : OrderedGroupId} {v : Nat}
    (hg : d.groupGens[g]? = some v) (hg' : d.groupGens[g']? = some v) : g = g' := by
  obtain ⟨hpos, heq⟩ := h.gens g v hg
  rw [heq] at hpos
  exact lastAccess_inj hpos (heq.symm.trans (h.gens g' v hg').2)

/-- **The group with the smallest generation** is the one that was accessed least recently. -/
theorem Recent.leastRecentlyUsed (h : d.Recent calls) {lru : OrderedGroupId}
    (hlru : leastRecentlyUsed d.groupGens = some lru) : lru ∈ d.orderedGroups ∧
      ∀ g, g ∈ d.orderedGroups → g ≠ lru → lastAccess calls lru < lastAccess calls g := by
  obtain ⟨v, hv, hle⟩ := leastRecentlyUsed_oldest hlru
  refine ⟨(h.consistent.gens lru).mp (Maps.mem_iff.mpr ⟨v, hv⟩), fun g hg hne => ?_⟩
  obtain ⟨u, hu⟩ := Maps.mem_iff.mp ((h.consistent.gens g).mpr hg)
  rw [← (h.gens lru v hv).2, ← (h.gens g u hu).2]
  refine Nat.lt_of_le_of_ne (hle g u hu) ?_
  rintro rfl
  exact hne (h.gens_inj hu hv)

end Calls

/-- **The ordered groups**: no calls make `ordered_group_mut` panic.  After them the two maps have
the same keys, at most 256, with distinct generations.  The next call leaves the receivers alone
when its group is there.  Otherwise the group is put in, and when there are 256 the one that was
accessed least recently leaves. -/
theorem ordered_group_accesses (cs : List GroupCall) (g : OrderedGroupId) :
    ∃ d, cs.foldlM access initial = some d ∧
      (∀ k, k ∈ d.groupGens ↔ k ∈ d.orderedGroups) ∧ d.orderedGroups.size ≤ 256 ∧
      (∀ (k k' : OrderedGroupId) (v : Nat), d.groupGens[k]? = some v →
        d.groupGens[k']? = some v → k = k') ∧
      d.genCounter = cs.length ∧
      (d.orderedGroupMut g).orderedGroups[g]? ≠ none ∧
      (g ∈ d.orderedGroups → (d.orderedGroupMut g).orderedGroups = d.orderedGroups) ∧
      (g ∉ d.orderedGroups → d.orderedGroups.size < 256 →
        (d.orderedGroupMut g).orderedGroups = d.orderedGroups.insert g (.new g)) ∧
      (g ∉ d.orderedGroups → d.orderedGroups.size = 256 → ∃ lru ∈ d.orderedGroups,
        (∀ k, k ∈ d.orderedGroups → k ≠ lru →
          lastAccess (cs.map GroupCall.groupId) lru < lastAccess (cs.map GroupCall.groupId) k) ∧
        (d.orderedGroupMut g).orderedGroups = (d.orderedGroups.erase lru).insert g (.new g)) := by
  obtain ⟨d, hrun, hrecent⟩ := recent_initial.run cs
  rw [List.nil_append] at hrecent
  have htouch := orderedGroupMut_touched hrecent.consistent g
  have hcounter := hrecent.counter
  rw [List.length_map] at hcounter
  refine ⟨d, hrun, hrecent.consistent.gens, hrecent.consistent.bound,
    fun k k' v => hrecent.gens_inj, hcounter, ?_, ?_⟩
  · rw [htouch.group]
    exact Option.some_ne_none _
  · generalize d.orderedGroupMut g = d' at htouch ⊢
    cases htouch with
    | tracked hin => exact ⟨fun _ => rfl, fun hout => absurd hin hout, fun hout => absurd hin hout⟩
    | opened hout hroom =>
      exact ⟨fun hin => absurd hin hout, fun _ _ => rfl,
        fun _ hfull => absurd hfull (Nat.ne_of_lt hroom)⟩
    | evicting hout hfull hlru =>
      obtain ⟨hmem, hleast⟩ := hrecent.leastRecentlyUsed hlru
      exact ⟨fun hin => absurd hin hout, fun _ hroom => absurd hfull (Nat.ne_of_lt hroom),
        fun _ _ => ⟨_, hmem, hleast, rfl⟩⟩

end DeliveryState

end Gtp
