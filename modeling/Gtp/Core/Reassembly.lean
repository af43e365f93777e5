/-
# What the reassembler keeps

`push` sweeps first and then acts on one message; `Pushed` lists what it can do there, and every
fact about reassembly is a case analysis on it.  A fragment that is stored stays in its slot until
the message completes, its time to live runs out, or it is the oldest of 64 incomplete messages
when another one opens (`push_keeps`).

* `Valid` is what an entry is (one slot per fragment, and a counter of the filled ones),
  `Consistent` what the table is (the order lists its messages, each once, and there are at most
  64).
* `Pushed.refused` says by which bound a fragment was refused, `Pushed.held` where it is otherwise,
  and `Pushed.completes` of what a complete message is made.

A message in one piece never gets here: its frame is complete by itself.  The bytes are counted in
`Gtp.Core.Reassembler`, which also shows that the counter is exact.
-/
import Gtp.Core.Fragment
import Gtp.Lib.Maps
import Mathlib.Data.List.Nodup

namespace Gtp

/-! ## 1. Entries -/

/-- `full` is made of `n` pieces, and `p` is the one at `idx`. -/
def Contains (idx n : Nat) (p full : List UInt8) : Prop :=
  ∃ pieces : List (List UInt8), pieces.length = n ∧ pieces[idx]? = some p ∧ full = pieces.flatten

namespace Partial

/-- One slot per fragment, and `received` counts the filled ones. -/
structure Valid (e : Partial) : Prop where
  slots : e.parts.length = e.total.toNat
  received : e.received = e.parts.countP Option.isSome

/-- Slot `idx` holds `p`. -/
def Holds (e : Partial) (idx : Nat) (p : List UInt8) : Prop := e.parts[idx]? = some (some p)

theorem has_iff {e : Partial} {idx : Nat} : e.has idx = true ↔ ∃ p, e.Holds idx p := by
  unfold has Holds
  cases e.parts[idx]? with
  | none => simp
  | some slot => cases slot <;> simp

theorem Valid.touch {e : Partial} (h : e.Valid) (now : MonotonicTime) :
    Valid { e with lastTouch := now } := ⟨h.slots, h.received⟩

/-- An empty slot that is filled counts once. -/
theorem Valid.fill {e : Partial} (h : e.Valid) {idx : Nat} (hidx : idx < e.total.toNat)
    (hempty : e.has idx = false) (p : List UInt8) : (e.fill idx p).Valid := by
  have hlt : idx < e.parts.length := h.slots.symm ▸ hidx
  have hslot : (e.parts[idx]).isSome = false := by
    simpa [has, List.getElem?_eq_getElem hlt] using hempty
  refine ⟨by rw [Partial.fill, List.length_set]; exact h.slots, ?_⟩
  simp only [Partial.fill, List.countP_set hlt, hslot, h.received]
  simp

theorem holds_fill_self {e : Partial} {idx : Nat} (hidx : idx < e.parts.length)
    (p : List UInt8) : (e.fill idx p).Holds idx p := by
  rw [Holds, fill, List.getElem?_set_self hidx]

theorem Holds.fill {e : Partial} {idx idx' : Nat} {p : List UInt8} (h : e.Holds idx p)
    (hempty : e.has idx' = false) (p' : List UInt8) : (e.fill idx' p').Holds idx p := by
  have hne : idx' ≠ idx := by
    rintro rfl
    rw [has_iff.mpr ⟨p, h⟩] at hempty
    cases hempty
  rw [Holds, Partial.fill, List.getElem?_set_ne hne]
  exact h

theorem Valid.filled {e : Partial} (h : e.Valid) (hfull : e.received = e.total.toNat) :
    ∀ slot ∈ e.parts, slot.isSome = true := by
  refine List.countP_eq_length.mp ?_
  rw [← h.received, hfull, h.slots]

theorem Valid.contains_full {e : Partial} (h : e.Valid) {idx : Nat} {p : List UInt8}
    (hp : e.Holds idx p) : Contains idx e.total.toNat p e.full := by
  refine ⟨e.parts.map fun slot => slot.getD [], ?_, ?_, rfl⟩
  · rw [List.length_map, h.slots]
  · rw [List.getElem?_map, hp]
    rfl

end Partial

namespace MessageReassembler

/-! ## 2. Consistency -/

/-- The order lists the incomplete messages, each once, and there are at most 64. -/
structure Consistent (r : MessageReassembler) : Prop where
  nodup : r.order.Nodup
  mem : ∀ id, id ∈ r.order ↔ id ∈ r.entries
  bound : r.entries.size ≤ maxReassemblyMessages
  valid : ∀ (id : MessageId) e, r.entries[id]? = some e → e.Valid

theorem consistent_new : Consistent .new where
  nodup := List.nodup_nil
  mem id := by
    rw [Maps.mem_iff]
    simp [new]
  bound := Nat.zero_le _
  valid id e h := by simp [new] at h

/-- An entry that is there may be replaced by a valid one. -/
theorem Consistent.put {r : MessageReassembler} (h : r.Consistent) {id : MessageId} {e e' : Partial}
    (he : r.entries[id]? = some e) (he' : e'.Valid) (bytes : Nat) :
    Consistent { r with entries := r.entries.insert id e', totalBytes := bytes } := by
  have hmem : id ∈ r.entries := Maps.mem_iff.mpr ⟨e, he⟩
  refine ⟨h.nodup, fun id' => ?_, ?_, fun id' e'' h'' => ?_⟩
  · rw [Maps.mem_insert, h.mem]
    constructor
    · exact Or.inr
    · rintro (rfl | hm)
      · exact hmem
      · exact hm
  · rw [Maps.size_insert_of_mem hmem]
    exact h.bound
  · dsimp only at h''
    rw [Maps.getElem?_insert] at h''
    split at h''
    · exact Option.some.inj h'' ▸ he'
    · exact h.valid id' e'' h''

theorem Consistent.remove {r : MessageReassembler} (h : r.Consistent) (id : MessageId) :
    (r.remove id).Consistent := by
  refine ⟨h.nodup.filter _, fun id' => ?_, ?_, fun id' e he => ?_⟩
  · simp only [MessageReassembler.remove, List.mem_filter, Maps.mem_erase, h.mem, decide_eq_true_eq]
    exact ⟨fun hm => ⟨hm.2.symm, hm.1⟩, fun hm => ⟨hm.2, hm.1.symm⟩⟩
  · exact Nat.le_trans Std.ExtTreeMap.size_erase_le h.bound
  · rw [MessageReassembler.remove, Maps.getElem?_erase] at he
    split at he
    · cases he
    · exact h.valid id' e he

theorem foldl_remove_consistent {r : MessageReassembler} (h : r.Consistent) (ids : List MessageId) :
    (ids.foldl remove r).Consistent := by
  induction ids generalizing r with
  | nil => exact h
  | cons id ids ih => exact ih (h.remove id)

theorem Consistent.sweep {r : MessageReassembler} (h : r.Consistent) (now : MonotonicTime) :
    (r.sweep now).Consistent := foldl_remove_consistent h _

theorem entries_foldl_remove (ids : List MessageId) (r : MessageReassembler) :
    (ids.foldl remove r).entries = ids.foldl (fun m id => m.erase id) r.entries := by
  induction ids generalizing r with
  | nil => rfl
  | cons k ids ih => rw [List.foldl_cons, ih, remove, List.foldl_cons]

/-- **The sweep** takes out what is past its time to live, and nothing else. -/
theorem getElem?_sweep (r : MessageReassembler) (now : MonotonicTime) (id : MessageId) :
    (r.sweep now).entries[id]? = (r.entries[id]?).filter fun e => !e.stale now := by
  have hmem : id ∈ (r.entries.toList.filter fun e => e.2.stale now).map Prod.fst ↔
      ∃ e, r.entries[id]? = some e ∧ e.stale now = true := by
    simp [Std.ExtTreeMap.mem_toList_iff_getElem?_eq_some]
  rw [sweep, entries_foldl_remove, Maps.getElem?_foldl_erase]
  split
  · rename_i hin
    obtain ⟨e, he, hst⟩ := hmem.mp hin
    rw [he, Option.filter_some, hst]
    rfl
  · rename_i hout
    cases he : r.entries[id]? with
    | none => rfl
    | some e =>
      have hst : e.stale now = false := by
        rw [Bool.eq_false_iff]
        exact fun hst => hout (hmem.mpr ⟨e, he, hst⟩)
      rw [Option.filter_some, hst]
      rfl

/-- **Making room** takes the oldest incomplete message out, when there are 64. -/
theorem makeRoom_eq {r : MessageReassembler} (h : r.Consistent) :
    (r.entries.size < maxReassemblyMessages ∧ r.makeRoom r.order = r) ∨
      ∃ oldest, r.entries.size = maxReassemblyMessages ∧ r.order.head? = some oldest ∧
        r.makeRoom r.order = r.remove oldest := by
  obtain ⟨entries, order, totalBytes⟩ := r
  have hnodup := h.nodup
  have hbound := h.bound
  dsimp only at hnodup hbound ⊢
  cases order with
  | nil =>
    have hempty : entries = ∅ := by
      rw [Std.ExtTreeMap.eq_empty_iff_forall_not_mem]
      intro id hid
      cases (h.mem id).mpr hid
    left
    rw [hempty]
    exact ⟨Nat.zero_lt_succ 63, rfl⟩
  | cons oldest rest =>
    have hin : oldest ∈ entries := (h.mem oldest).mp List.mem_cons_self
    have hfilter : (oldest :: rest).filter (fun x => decide (x ≠ oldest)) = rest := by
      rw [List.filter_cons_of_neg (by simp), List.filter_eq_self]
      intro x hx
      exact decide_eq_true fun he => (List.nodup_cons.mp hnodup).1 (he ▸ hx)
    rcases Nat.lt_or_ge entries.size maxReassemblyMessages with hlt | hge
    · left
      exact ⟨hlt, by rw [makeRoom, if_neg (Nat.not_le.mpr hlt)]⟩
    · right
      refine ⟨oldest, Nat.le_antisymm hbound hge, rfl, ?_⟩
      rw [makeRoom, if_pos hge, remove, hfilter]
      have hsize : ¬ maxReassemblyMessages ≤ (entries.erase oldest).size := by
        rw [Maps.size_erase_of_mem hin]
        have hpos : 0 < maxReassemblyMessages := Nat.zero_lt_succ 63
        omega
      -- the second turn of the loop stops
      cases rest with
      | nil => rfl
      | cons next rest => rw [makeRoom, if_neg hsize]

/-! ## 3. One fragment -/

def opening (n : UInt16) (p : List UInt8) (now : MonotonicTime) : Partial where
  total := n
  parts := (List.replicate n.toNat none).set 0 (some p)
  received := 1
  bytes := p.length
  lastTouch := now

/-- What `push` can do to a swept reassembler `r`, with fragment `idx` of `n` of the message `id`.
-/
inductive Pushed (r : MessageReassembler) (id : MessageId) (idx : Nat) (n : UInt16)
    (p : List UInt8) (now : MonotonicTime) : PushOutcome → MessageReassembler → Prop
  | mismatched {e : Partial} (he : r.entries[id]? = some e) (hn : e.total ≠ n) :
      Pushed r id idx n p now .dropped r
  | duplicate {e : Partial} (he : r.entries[id]? = some e) (hn : e.total = n)
      (hhas : e.has idx = true) :
      Pushed r id idx n p now .stored
        { r with entries := r.entries.insert id { e with lastTouch := now } }
  | overflow {e : Partial} (he : r.entries[id]? = some e) (hn : e.total = n)
      (hcap : maxReassemblyBytes < e.bytes + p.length ∨
        maxReassemblyBytes < r.totalBytes + p.length) :
      Pushed r id idx n p now .dropped
        { r with entries := r.entries.insert id { e with lastTouch := now } }
  | stored {e : Partial} (he : r.entries[id]? = some e) (hn : e.total = n)
      (hempty : e.has idx = false) :
      Pushed r id idx n p now .stored
        { r with
          entries := r.entries.insert id ({ e with lastTouch := now }.fill idx p)
          totalBytes := r.totalBytes + p.length }
  | completed {e : Partial} (he : r.entries[id]? = some e) (hn : e.total = n)
      (hempty : e.has idx = false) (hfull : e.received + 1 = n.toNat) :
      Pushed r id idx n p now (.delivered ({ e with lastTouch := now }.fill idx p).full)
        (MessageReassembler.remove { r with
          entries := r.entries.insert id ({ e with lastTouch := now }.fill idx p)
          totalBytes := r.totalBytes + p.length } id)
  | orphan (he : r.entries[id]? = none) (hidx : idx ≠ 0) : Pushed r id idx n p now .dropped r
  | tooLong (he : r.entries[id]? = none) (hcap : maxReassemblyBytes < p.length) :
      Pushed r id idx n p now .dropped r
  | noSpace (he : r.entries[id]? = none) (hidx : idx = 0)
      (hcap : maxReassemblyBytes < (r.makeRoom r.order).totalBytes + p.length) :
      Pushed r id idx n p now .dropped (r.makeRoom r.order)
  | opened (he : r.entries[id]? = none) (hidx : idx = 0) :
      Pushed r id idx n p now .stored
        { entries := (r.makeRoom r.order).entries.insert id (opening n p now)
          order := (r.makeRoom r.order).order ++ [id]
          totalBytes := (r.makeRoom r.order).totalBytes + p.length }

/-- **Every push** of a fragment of a message that is in more than one piece. -/
theorem push_pushed (r : MessageReassembler) (id : MessageId) {fid : FragmentId} {n : UInt16}
    (hfid : fid < n) (hn : 1 < n) (p : List UInt8) (now : MonotonicTime) :
    Pushed (r.sweep now) id fid.toNat n p now (r.push id fid n p now).1
      (r.push id fid n p now).2 := by
  have h0 : n ≠ 0 := by
    rintro rfl
    exact absurd hn (by decide)
  have h1 : n ≠ 1 := by
    rintro rfl
    exact absurd hn (by decide)
  rw [push, if_neg h0, if_neg (UInt16.not_le.mpr hfid)]
  dsimp only
  generalize r.sweep now = r
  cases he : r.entries[id]? with
  | some e =>
    dsimp only [pushInto]
    by_cases htotal : e.total = n
    · rw [if_neg (not_not.mpr htotal)]
      cases hhas : e.has fid.toNat with
      | true =>
        rw [if_pos (show Partial.has { e with lastTouch := now } fid.toNat = true from hhas)]
        exact .duplicate he htotal hhas
      | false =>
        rw [if_neg (show ¬ Partial.has { e with lastTouch := now } fid.toNat = true by
          rw [Bool.not_eq_true]; exact hhas)]
        split
        · rename_i hcap
          exact .overflow he htotal hcap
        · rw [Maps.insert_insert]
          split
          · rename_i hfull
            exact .completed he htotal hhas (htotal ▸ hfull)
          · exact .stored he htotal hhas
    · rw [if_pos htotal]
      exact .mismatched he htotal
  | none =>
    dsimp only [pushNew]
    split
    · rename_i hidx
      exact .orphan he hidx
    · rename_i hidx
      split
      · rename_i hcap
        exact .tooLong he hcap
      · split
        · rename_i hcap
          exact .noSpace he (not_not.mp hidx) hcap
        · exact .opened he (not_not.mp hidx)

/-- An index beyond the message is refused before anything else. -/
theorem push_of_le (r : MessageReassembler) (id : MessageId) {fid : FragmentId} {n : UInt16}
    (hfid : n ≤ fid) (p : List UInt8) (now : MonotonicTime) :
    r.push id fid n p now = (.dropped, r) := by
  rw [push, if_pos hfid, ite_self]

theorem valid_opening {n : UInt16} (hn : 0 < n.toNat) (p : List UInt8) (now : MonotonicTime) :
    (opening n p now).Valid := by
  have hlt : 0 < (List.replicate n.toNat (none : Option (List UInt8))).length := by
    rwa [List.length_replicate]
  refine ⟨by simp [opening], ?_⟩
  simp [opening, List.countP_set hlt, List.countP_replicate]

theorem Pushed.consistent {r r' : MessageReassembler} {id : MessageId} {idx : Nat} {n : UInt16}
    {p : List UInt8} {now : MonotonicTime} {out : PushOutcome}
    (h : Pushed r id idx n p now out r') (hr : r.Consistent) (hidx : idx < n.toNat) :
    r'.Consistent := by
  have hroom : (r.makeRoom r.order).Consistent ∧
      (r.makeRoom r.order).entries.size < maxReassemblyMessages ∧
      (r.entries[id]? = none → (r.makeRoom r.order).entries[id]? = none) := by
    rcases makeRoom_eq hr with ⟨hlt, heq⟩ | ⟨oldest, hsize, hhead, heq⟩
    · rw [heq]
      exact ⟨hr, hlt, fun he => he⟩
    · rw [heq]
      have hin : oldest ∈ r.entries := (hr.mem oldest).mp (List.mem_of_head? hhead)
      refine ⟨hr.remove oldest, ?_, fun he => ?_⟩
      · rw [remove, Maps.size_erase_of_mem hin, hsize]
        exact Nat.sub_lt (Nat.zero_lt_succ 63) Nat.one_pos
      · rw [remove, Maps.getElem?_erase, he, ite_self]
  cases h with
  | mismatched he htotal => exact hr
  | duplicate he htotal hhas => exact hr.put he ((hr.valid _ _ he).touch now) r.totalBytes
  | overflow he htotal hcap => exact hr.put he ((hr.valid _ _ he).touch now) r.totalBytes
  | stored he htotal hempty =>
    exact hr.put he (((hr.valid _ _ he).touch now).fill (htotal ▸ hidx) hempty p) _
  | completed he htotal hempty hfull =>
    exact (hr.put he (((hr.valid _ _ he).touch now).fill (htotal ▸ hidx) hempty p) _).remove id
  | orphan he hne => exact hr
  | tooLong he hcap => exact hr
  | noSpace he hzero hcap => exact hroom.1
  | opened he hzero =>
    obtain ⟨hc, hlt, hnone⟩ := hroom
    have hfresh : id ∉ (r.makeRoom r.order).entries := Maps.not_mem_iff.mpr (hnone he)
    refine ⟨?_, fun id' => ?_, ?_, fun id' e h' => ?_⟩
    · refine List.nodup_append.mpr ⟨hc.nodup, List.nodup_singleton id, ?_⟩
      intro x hx y hy hxy
      rw [hxy, List.mem_singleton.mp hy] at hx
      exact hfresh ((hc.mem id).mp hx)
    · simp only [List.mem_append, List.mem_singleton, Maps.mem_insert, hc.mem]
      constructor
      · rintro (hm | rfl)
        · exact Or.inr hm
        · exact Or.inl rfl
      · rintro (rfl | hm)
        · exact Or.inr rfl
        · exact Or.inl hm
    · exact Nat.le_trans Std.ExtTreeMap.size_insert_le hlt
    · dsimp only at h'
      rw [Maps.getElem?_insert] at h'
      split at h'
      · exact Option.some.inj h' ▸ valid_opening (Nat.zero_lt_of_lt hidx) p now
      · exact hc.valid id' e h'

/-! ## 4. What becomes of a fragment -/

/-- Slot `idx` of the message `id` holds `p`. -/
def Holds (r : MessageReassembler) (id : MessageId) (idx : Nat) (p : List UInt8) : Prop :=
  ∃ e, r.entries[id]? = some e ∧ e.Holds idx p

/-- The bounds that refuse a fragment: the message has another number of fragments, the bytes do not
fit, or the message has not been opened by its fragment 0. -/
def Refuses (r : MessageReassembler) (id : MessageId) (idx : Nat) (n : UInt16) (p : List UInt8) :
    Prop :=
  (∃ e, r.entries[id]? = some e ∧ (e.total ≠ n ∨ maxReassemblyBytes < e.bytes + p.length ∨
    maxReassemblyBytes < r.totalBytes + p.length)) ∨
  (r.entries[id]? = none ∧ (idx ≠ 0 ∨
    maxReassemblyBytes < (r.makeRoom r.order).totalBytes + p.length))

section Fate

variable {r r' : MessageReassembler} {id : MessageId} {idx : Nat} {n : UInt16} {p : List UInt8}
  {now : MonotonicTime} {out : PushOutcome}

/-- A fragment that is refused is refused by a bound. -/
theorem Pushed.refused (h : Pushed r id idx n p now .dropped r') : r.Refuses id idx n p := by
  cases h with
  | mismatched he htotal => exact Or.inl ⟨_, he, Or.inl htotal⟩
  | overflow he htotal hcap => exact Or.inl ⟨_, he, Or.inr hcap⟩
  | orphan he hne => exact Or.inr ⟨he, Or.inl hne⟩
  | tooLong he hcap => exact Or.inr ⟨he, Or.inr (Nat.lt_add_left _ hcap)⟩
  | noSpace he hzero hcap => exact Or.inr ⟨he, Or.inr hcap⟩

/-- A fragment that is stored is in its slot, unless the slot was taken. -/
theorem Pushed.held (h : Pushed r id idx n p now .stored r') (hr : r.Consistent)
    (hidx : idx < n.toNat) : r'.Holds id idx p ∨ ∃ p', r.Holds id idx p' := by
  cases h with
  | duplicate he htotal hhas =>
    obtain ⟨p', hp'⟩ := Partial.has_iff.mp hhas
    exact Or.inr ⟨p', _, he, hp'⟩
  | stored he htotal hempty =>
    have hlt := (hr.valid _ _ he).slots.symm ▸ htotal ▸ hidx
    exact Or.inl ⟨_, Std.ExtTreeMap.getElem?_insert_self, Partial.holds_fill_self hlt p⟩
  | opened he hzero =>
    refine Or.inl ⟨_, Std.ExtTreeMap.getElem?_insert_self, ?_⟩
    rw [Partial.Holds, opening, hzero, List.getElem?_set_self]
    rw [List.length_replicate]
    exact hzero ▸ hidx

/-- A message that completes is made of its fragments: the one that completes it, and each that was
held. -/
theorem Pushed.completes {full : List UInt8} (h : Pushed r id idx n p now (.delivered full) r')
    (hr : r.Consistent) (hidx : idx < n.toNat) :
    Contains idx n.toNat p full ∧ ∀ k p', r.Holds id k p' → Contains k n.toNat p' full := by
  cases h with
  | @completed e he htotal hempty hfull =>
    have hv := (hr.valid _ _ he).touch now
    have hlt : idx < e.parts.length := (hr.valid _ _ he).slots.symm ▸ htotal ▸ hidx
    have hvf := hv.fill (htotal ▸ hidx) hempty p
    refine ⟨htotal ▸ hvf.contains_full (Partial.holds_fill_self hlt p), ?_⟩
    rintro k p' ⟨e', he', hp'⟩
    obtain rfl := Option.some.inj (he.symm.trans he')
    have hkept : Partial.Holds { e with lastTouch := now } k p' := hp'
    exact htotal ▸ hvf.contains_full (hkept.fill hempty p)

theorem Holds.remove {id' : MessageId} {idx' : Nat} {p' : List UInt8} (h : r.Holds id' idx' p')
    (hne : id ≠ id') : (r.remove id).Holds id' idx' p' := by
  obtain ⟨e, he, hp⟩ := h
  exact ⟨e, by rw [MessageReassembler.remove, Maps.getElem?_erase, if_neg hne, he], hp⟩

theorem Holds.makeRoom {id' : MessageId} {idx' : Nat} {p' : List UInt8} (h : r.Holds id' idx' p')
    (hr : r.Consistent) : (r.makeRoom r.order).Holds id' idx' p' ∨
      (r.entries.size = maxReassemblyMessages ∧ r.order.head? = some id') := by
  rcases makeRoom_eq hr with ⟨-, heq⟩ | ⟨oldest, hsize, hhead, heq⟩
  · left
    rw [heq]
    exact h
  · by_cases hid : oldest = id'
    · exact Or.inr ⟨hsize, hid ▸ hhead⟩
    · left
      rw [heq]
      exact h.remove hid

end Fate

/-! ## 5. Sweep and push together -/

theorem Consistent.push {r : MessageReassembler} (hr : r.Consistent) (id : MessageId)
    (fid : FragmentId) {n : UInt16} (hn : 1 < n) (p : List UInt8) (now : MonotonicTime) :
    (r.push id fid n p now).2.Consistent := by
  rcases UInt16.lt_or_le fid n with hfid | hfid
  · exact (push_pushed r id hfid hn p now).consistent (hr.sweep now) hfid
  · rw [push_of_le r id hfid]
    exact hr

/-- What the sweep takes out is past its time to live. -/
theorem Holds.sweep {r : MessageReassembler} {id : MessageId} {idx : Nat} {p : List UInt8}
    (h : r.Holds id idx p) (now : MonotonicTime) :
    (r.sweep now).Holds id idx p ∨ ∃ e, r.entries[id]? = some e ∧ e.stale now = true := by
  obtain ⟨e, he, hp⟩ := h
  cases hst : e.stale now with
  | true => exact Or.inr ⟨e, he, hst⟩
  | false =>
    refine Or.inl ⟨e, ?_, hp⟩
    rw [getElem?_sweep, he, Option.filter_some, hst]
    rfl

end MessageReassembler

end Gtp
