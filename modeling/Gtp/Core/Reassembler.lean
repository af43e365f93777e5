/-
# The reassembler over whole runs

`MessageReassembler` keeps five quantities in step by hand: the map of entries, their order, the
total of buffered bytes, and in each entry the count of filled slots and the count of its bytes.
`Sound` says that they agree.  It survives every push with any arguments (`Sound.push`), and where
it holds the two `expect` calls of a completion succeed and no subtraction saturates: a push that
would fail there, `pushChecked`, is the push.

* `Exact` is the part of the invariant about one entry; an entry that is kept is never full, since
  the push that fills it takes it out.
* `Pushes` lists the outcomes of a push that is not refused for its index, with what each does to
  the entries; every later module argues from it, and not from the code.
* `representation_invariant` is the result over runs.

Times may go backwards between pushes: the sweep compares them by a saturating difference, and no
part of the invariant is about time.
-/
import Gtp.Core.Reassembly
import Mathlib.Algebra.BigOperators.Group.List.Basic

namespace Gtp

/-! ## 1. Entries -/

namespace Partial

/-- The bytes in the filled slots. -/
def slotBytes (parts : List (Option (List UInt8))) : Nat :=
  (parts.map fun slot => (slot.getD []).length).sum

/-- One slot per fragment; `received` counts the filled ones and `bytes` what is in them; at least
one is filled, and at least one is not. -/
structure Exact (e : Partial) : Prop where
  valid : e.Valid
  bytes : e.bytes = slotBytes e.parts
  begun : 0 < e.received
  incomplete : e.received < e.total.toNat

theorem Exact.touch {e : Partial} (h : e.Exact) (now : MonotonicTime) :
    Exact { e with lastTouch := now } :=
  ⟨h.valid.touch now, h.bytes, h.begun, h.incomplete⟩

/-- Filling an empty slot adds its bytes. -/
theorem slotBytes_set {parts : List (Option (List UInt8))} {idx : Nat} (hidx : idx < parts.length)
    (hempty : parts[idx]?.join = none) (p : List UInt8) :
    slotBytes (parts.set idx (some p)) = slotBytes parts + p.length := by
  induction parts generalizing idx with
  | nil => cases hidx
  | cons slot rest ih =>
    cases idx with
    | zero =>
      obtain rfl : slot = none := hempty
      simp [slotBytes, Nat.add_comm]
    | succ idx =>
      have hrest := ih (Nat.lt_of_succ_lt_succ hidx) hempty
      simp only [slotBytes, List.set_cons_succ, List.map_cons, List.sum_cons] at hrest ⊢
      rw [hrest, Nat.add_assoc]

theorem bytes_fill {e : Partial} (h : e.Exact) {idx : Nat} (hidx : idx < e.total.toNat)
    (hempty : e.has idx = false) (p : List UInt8) :
    (e.fill idx p).bytes = slotBytes (e.fill idx p).parts := by
  have hnone : e.parts[idx]?.join = none := by
    simpa [has] using hempty
  rw [fill, slotBytes_set (h.valid.slots.symm ▸ hidx) hnone, h.bytes]

theorem Exact.fill {e : Partial} (h : e.Exact) {idx : Nat} (hidx : idx < e.total.toNat)
    (hempty : e.has idx = false) (p : List UInt8) (hmore : e.received + 1 ≠ e.total.toNat) :
    (e.fill idx p).Exact where
  valid := h.valid.fill hidx hempty p
  bytes := bytes_fill h hidx hempty p
  begun := Nat.succ_pos _
  incomplete := by
    have hlt := h.incomplete
    change e.received + 1 < e.total.toNat
    omega

end Partial

namespace MessageReassembler

/-! ## 2. The invariant -/

/-- **The representation invariant.**  The order holds each key of the entries exactly once and
nothing else, there are at most 64 entries, the total is the sum of their bytes and within the cap,
and each entry is exact. -/
structure Sound (r : MessageReassembler) : Prop where
  nodup : r.order.Nodup
  mem : ∀ id, id ∈ r.order ↔ id ∈ r.entries
  bound : r.entries.size ≤ maxReassemblyMessages
  total : r.totalBytes = Maps.total Partial.bytes r.entries
  cap : r.totalBytes ≤ maxReassemblyBytes
  entry : ∀ (id : MessageId) e, r.entries[id]? = some e → e.Exact

theorem Sound.consistent {r : MessageReassembler} (h : r.Sound) : r.Consistent :=
  ⟨h.nodup, h.mem, h.bound, fun id e he => (h.entry id e he).valid⟩

theorem sound_new : Sound .new where
  nodup := consistent_new.nodup
  mem := consistent_new.mem
  bound := consistent_new.bound
  total := (Maps.total_empty _).symm
  cap := Nat.zero_le _
  entry id e h := by simp [new] at h

theorem Sound.bytes_le {r : MessageReassembler} (h : r.Sound) {id : MessageId} {e : Partial}
    (he : r.entries[id]? = some e) : e.bytes ≤ r.totalBytes := by
  rw [h.total]
  exact Maps.le_total he Partial.bytes

/-- An entry that is there may be replaced by an exact one, if the total follows. -/
theorem Sound.put {r : MessageReassembler} (h : r.Sound) {id : MessageId} {e e' : Partial}
    (he : r.entries[id]? = some e) (he' : e'.Exact) {bytes : Nat}
    (htotal : bytes + e.bytes = r.totalBytes + e'.bytes) (hcap : bytes ≤ maxReassemblyBytes) :
    Sound { r with entries := r.entries.insert id e', totalBytes := bytes } := by
  have hc := h.consistent.put he he'.valid bytes
  refine ⟨hc.nodup, hc.mem, hc.bound, ?_, hcap, fun id' e'' h'' => ?_⟩
  · have hreplace := Maps.total_replace he Partial.bytes e'
    rw [← h.total] at hreplace
    dsimp only
    omega
  · dsimp only at h''
    rw [Maps.getElem?_insert] at h''
    split at h''
    · exact Option.some.inj h'' ▸ he'
    · exact h.entry id' e'' h''

/-- The total without an entry. -/
theorem Sound.remove_totalBytes {r : MessageReassembler} (h : r.Sound) {id : MessageId}
    {e : Partial} (he : r.entries[id]? = some e) : (r.remove id).totalBytes + e.bytes = r.totalBytes := by
  rw [remove, he]
  exact Nat.sub_add_cancel (h.bytes_le he)

theorem remove_absent {r : MessageReassembler} (h : r.Sound) {id : MessageId}
    (he : r.entries[id]? = none) : r.remove id = r := by
  obtain ⟨entries, order, totalBytes⟩ := r
  have hout : id ∉ entries := Maps.not_mem_iff.mpr he
  have herase : entries.erase id = entries := (Maps.erase_eq_self_iff entries id).mpr hout
  have horder : order.filter (fun x => decide (x ≠ id)) = order := by
    refine List.filter_eq_self.mpr fun x hx => decide_eq_true fun heq => hout ?_
    rw [← heq]
    exact (h.mem x).mp hx
  dsimp only at he
  simp only [remove, herase, horder, he]

theorem Sound.remove {r : MessageReassembler} (h : r.Sound) (id : MessageId) :
    (r.remove id).Sound := by
  cases he : r.entries[id]? with
  | none =>
    rw [remove_absent h he]
    exact h
  | some e =>
    have hc := h.consistent.remove id
    have htotal := h.remove_totalBytes he
    refine ⟨hc.nodup, hc.mem, hc.bound, ?_, ?_, fun id' e' he' => ?_⟩
    · have herase := Maps.total_erase he Partial.bytes
      rw [← h.total] at herase
      change (r.remove id).totalBytes = Maps.total Partial.bytes (r.entries.erase id)
      omega
    · have hcap := h.cap
      omega
    · rw [MessageReassembler.remove, Maps.getElem?_erase] at he'
      split at he'
      · cases he'
      · exact h.entry id' e' he'

theorem foldl_remove_sound {r : MessageReassembler} (h : r.Sound) (ids : List MessageId) :
    (ids.foldl MessageReassembler.remove r).Sound := by
  induction ids generalizing r with
  | nil => exact h
  | cons id ids ih => exact ih (h.remove id)

theorem Sound.sweep {r : MessageReassembler} (h : r.Sound) (now : MonotonicTime) :
    (r.sweep now).Sound := foldl_remove_sound h _

/-- Making room leaves room, and does not bring a message back. -/
theorem Sound.makeRoom {r : MessageReassembler} (h : r.Sound) :
    (r.makeRoom r.order).Sound ∧ (r.makeRoom r.order).entries.size < maxReassemblyMessages ∧
      ∀ id : MessageId, r.entries[id]? = none → (r.makeRoom r.order).entries[id]? = none := by
  rcases makeRoom_eq h.consistent with ⟨hlt, heq⟩ | ⟨oldest, hsize, hhead, heq⟩
  · rw [heq]
    exact ⟨h, hlt, fun _ he => he⟩
  · rw [heq]
    have hin : oldest ∈ r.entries := (h.mem oldest).mp (List.mem_of_head? hhead)
    refine ⟨h.remove oldest, ?_, fun id he => ?_⟩
    · rw [MessageReassembler.remove, Maps.size_erase_of_mem hin, hsize]
      exact Nat.sub_lt (Nat.zero_lt_succ 63) Nat.one_pos
    · rw [MessageReassembler.remove, Maps.getElem?_erase, he, ite_self]

/-! ## 3. One push -/

/-- The entry `e` of the message `id` is touched. -/
def touch (r : MessageReassembler) (id : MessageId) (e : Partial) (now : MonotonicTime) :
    MessageReassembler :=
  { r with entries := r.entries.insert id { e with lastTouch := now } }

/-- The entry `e` of the message `id` takes the fragment `idx`. -/
def accept (r : MessageReassembler) (id : MessageId) (e : Partial) (idx : Nat) (p : List UInt8)
    (now : MonotonicTime) : MessageReassembler :=
  { r with
    entries := r.entries.insert id ({ e with lastTouch := now }.fill idx p)
    totalBytes := r.totalBytes + p.length }

/-- The message `id` is opened, where there is room. -/
def openEntry (r : MessageReassembler) (id : MessageId) (n : UInt16) (p : List UInt8)
    (now : MonotonicTime) : MessageReassembler :=
  { entries := (r.makeRoom r.order).entries.insert id (opening n p now)
    order := (r.makeRoom r.order).order ++ [id]
    totalBytes := (r.makeRoom r.order).totalBytes + p.length }

/-- What `push` can do to a swept reassembler `r` with fragment `idx` of `n`, for any `n`. -/
inductive Pushes (r : MessageReassembler) (id : MessageId) (idx : Nat) (n : UInt16)
    (p : List UInt8) (now : MonotonicTime) : PushOutcome → MessageReassembler → Prop
  | mismatched {e : Partial} (he : r.entries[id]? = some e) (hn : e.total ≠ n) :
      Pushes r id idx n p now .dropped r
  | duplicate {e : Partial} (he : r.entries[id]? = some e) (hn : e.total = n)
      (hhas : e.has idx = true) : Pushes r id idx n p now .stored (r.touch id e now)
  | overflow {e : Partial} (he : r.entries[id]? = some e) (hn : e.total = n)
      (hempty : e.has idx = false) (hcap : maxReassemblyBytes < e.bytes + p.length ∨
        maxReassemblyBytes < r.totalBytes + p.length) :
      Pushes r id idx n p now .dropped (r.touch id e now)
  | stored {e : Partial} (he : r.entries[id]? = some e) (hn : e.total = n)
      (hempty : e.has idx = false) (hroom : r.totalBytes + p.length ≤ maxReassemblyBytes)
      (hmore : e.received + 1 ≠ n.toNat) :
      Pushes r id idx n p now .stored (r.accept id e idx p now)
  | completed {e : Partial} (he : r.entries[id]? = some e) (hn : e.total = n)
      (hempty : e.has idx = false) (hroom : r.totalBytes + p.length ≤ maxReassemblyBytes)
      (hfull : e.received + 1 = n.toNat) :
      Pushes r id idx n p now (.delivered ({ e with lastTouch := now }.fill idx p).full)
        ((r.accept id e idx p now).remove id)
  | orphan (he : r.entries[id]? = none) (hidx : idx ≠ 0) : Pushes r id idx n p now .dropped r
  | tooLong (he : r.entries[id]? = none) (hidx : idx = 0)
      (hcap : maxReassemblyBytes < p.length) : Pushes r id idx n p now .dropped r
  | noSpace (he : r.entries[id]? = none) (hidx : idx = 0) (hlen : p.length ≤ maxReassemblyBytes)
      (hcap : maxReassemblyBytes < (r.makeRoom r.order).totalBytes + p.length) :
      Pushes r id idx n p now .dropped (r.makeRoom r.order)
  | opened (he : r.entries[id]? = none) (hidx : idx = 0)
      (hroom : (r.makeRoom r.order).totalBytes + p.length ≤ maxReassemblyBytes) (hn : n ≠ 1) :
      Pushes r id idx n p now .stored (r.openEntry id n p now)
  | whole (he : r.entries[id]? = none) (hidx : idx = 0)
      (hroom : (r.makeRoom r.order).totalBytes + p.length ≤ maxReassemblyBytes) (hn : n = 1) :
      Pushes r id idx n p now (.delivered (opening n p now).full)
        ((r.openEntry id n p now).remove id)

/-- **Every push** that is not refused for its index. -/
theorem push_pushes (r : MessageReassembler) (id : MessageId) {fid : FragmentId} {n : UInt16}
    (hfid : fid < n) (p : List UInt8) (now : MonotonicTime) :
    Pushes (r.sweep now) id fid.toNat n p now (r.push id fid n p now).1
      (r.push id fid n p now).2 := by
  have h0 : n ≠ 0 := by
    rintro rfl
    exact absurd hfid (UInt16.not_lt.mpr UInt16.zero_le)
  rw [push, if_neg h0, if_neg (UInt16.not_le.mpr hfid)]
  dsimp only
  generalize r.sweep now = r
  cases he : r.entries[id]? with
  | some e =>
    dsimp only [pushInto]
    by_cases htotal : e.total = n
    · rw [if_neg (not_not.mpr htotal)]
      cases hhas : e.has fid.toNat with
      | true =>
        rw [if_pos (show Partial.has { e with lastTouch := now } fid.toNat = true from hhas)]
        exact .duplicate he htotal hhas
      | false =>
        rw [if_neg (show ¬ Partial.has { e with lastTouch := now } fid.toNat = true by
          rw [Bool.not_eq_true]; exact hhas)]
        split
        · rename_i hcap
          exact .overflow he htotal hhas hcap
        · rename_i hcap
          have hroom : r.totalBytes + p.length ≤ maxReassemblyBytes :=
            Nat.not_lt.mp fun hlt => hcap (Or.inr hlt)
          rw [Maps.insert_insert]
          split
          · rename_i hfull
            exact .completed he htotal hhas hroom (htotal ▸ hfull)
          · rename_i hmore
            exact .stored he htotal hhas hroom (htotal ▸ hmore)
    · rw [if_pos htotal]
      exact .mismatched he htotal
  | none =>
    dsimp only [pushNew]
    split
    · rename_i hidx
      exact .orphan he hidx
    · rename_i hidx
      have hzero := not_not.mp hidx
      split
      · rename_i hcap
        exact .tooLong he hzero hcap
      · rename_i hlen
        split
        · rename_i hcap
          exact .noSpace he hzero (Nat.not_lt.mp hlen) hcap
        · rename_i hcap
          split
          · rename_i hone
            exact .whole he hzero (Nat.not_lt.mp hcap) hone
          · rename_i hone
            exact .opened he hzero (Nat.not_lt.mp hcap) hone

/-- An index that is not below the total is refused before anything else; so is the total 0. -/
theorem push_refused (r : MessageReassembler) (id : MessageId) {fid : FragmentId} {n : UInt16}
    (hfid : ¬ fid < n) (p : List UInt8) (now : MonotonicTime) :
    r.push id fid n p now = (.dropped, r) := push_of_le r id (UInt16.not_lt.mp hfid) p now

/-- An entry that was just written is taken out again. -/
theorem remove_insert (entries : Std.ExtTreeMap MessageId Partial compare) (order : List MessageId)
    (totalBytes : Nat) (id : MessageId) (e : Partial) :
    MessageReassembler.remove ⟨entries.insert id e, order, totalBytes⟩ id =
      ⟨entries.erase id, order.filter fun x => x ≠ id, totalBytes - e.bytes⟩ := by
  have herase : (entries.insert id e).erase id = entries.erase id := by
    apply Std.ExtTreeMap.ext_getElem?
    intro a
    rw [Maps.getElem?_erase, Maps.getElem?_erase, Maps.getElem?_insert]
    split <;> rfl
  simp only [remove, herase, Std.ExtTreeMap.getElem?_insert_self]

/-- The message that completes leaves as if it had been taken out before. -/
theorem accept_remove {r : MessageReassembler} {id : MessageId} {e : Partial}
    (he : r.entries[id]? = some e) (idx : Nat) (p : List UInt8) (now : MonotonicTime) :
    (r.accept id e idx p now).remove id = r.remove id := by
  have hbytes : r.totalBytes + p.length - (e.bytes + p.length) = r.totalBytes - e.bytes :=
    Nat.add_sub_add_right _ _ _
  rw [accept, remove_insert, remove, he]
  exact congrArg _ hbytes

/-- A message in one piece passes through. -/
theorem openEntry_remove {r : MessageReassembler} (h : r.Sound) {id : MessageId}
    (he : r.entries[id]? = none) (n : UInt16) (p : List UInt8) (now : MonotonicTime) :
    (r.openEntry id n p now).remove id = r.makeRoom r.order := by
  obtain ⟨hroom, -, hnone⟩ := h.makeRoom
  have hgone := hnone id he
  rw [openEntry, remove_insert]
  generalize r.makeRoom r.order = m at hroom hgone ⊢
  have hsame := remove_absent hroom hgone
  have hbytes : m.totalBytes + p.length - (opening n p now).bytes = m.totalBytes :=
    Nat.add_sub_cancel _ _
  rw [hbytes]
  rw [remove, hgone] at hsame
  have horder : (m.order ++ [id]).filter (fun x => decide (x ≠ id)) =
      m.order.filter fun x => decide (x ≠ id) := by
    simp
  rw [horder]
  exact hsame

theorem exact_opening {n : UInt16} (hn : 1 < n.toNat) (p : List UInt8) (now : MonotonicTime) :
    (opening n p now).Exact where
  valid := valid_opening (Nat.zero_lt_of_lt hn) p now
  bytes := by
    have hlt : 0 < (List.replicate n.toNat (none : Option (List UInt8))).length := by
      rw [List.length_replicate]
      exact Nat.zero_lt_of_lt hn
    have hnone : (List.replicate n.toNat (none : Option (List UInt8)))[0]?.join = none := by
      cases n.toNat <;> rfl
    have hempty : Partial.slotBytes (List.replicate n.toNat none) = 0 := by
      simp [Partial.slotBytes]
    change p.length = Partial.slotBytes ((List.replicate n.toNat none).set 0 (some p))
    rw [Partial.slotBytes_set hlt hnone, hempty, Nat.zero_add]
  begun := Nat.one_pos
  incomplete := hn

theorem Sound.openEntry {r : MessageReassembler} (h : r.Sound) {id : MessageId}
    (he : r.entries[id]? = none) {n : UInt16} (hn : 1 < n.toNat) {p : List UInt8}
    (hroom : (r.makeRoom r.order).totalBytes + p.length ≤ maxReassemblyBytes)
    (now : MonotonicTime) : (r.openEntry id n p now).Sound := by
  obtain ⟨hm, hlt, hnone⟩ := h.makeRoom
  unfold MessageReassembler.openEntry
  have hfresh : id ∉ (r.makeRoom r.order).entries := Maps.not_mem_iff.mpr (hnone id he)
  generalize r.makeRoom r.order = m at hm hlt hfresh hroom ⊢
  refine ⟨?_, fun id' => ?_, ?_, ?_, hroom, fun id' e h' => ?_⟩
  · refine List.nodup_append.mpr ⟨hm.nodup, List.nodup_singleton id, ?_⟩
    intro x hx y hy hxy
    rw [hxy, List.mem_singleton.mp hy] at hx
    exact hfresh ((hm.mem id).mp hx)
  · simp only [List.mem_append, List.mem_singleton, Maps.mem_insert, hm.mem]
    constructor
    · rintro (hin | rfl)
      · exact Or.inr hin
      · exact Or.inl rfl
    · rintro (rfl | hin)
      · exact Or.inr rfl
      · exact Or.inl hin
  · exact Nat.le_trans Std.ExtTreeMap.size_insert_le hlt
  · rw [Maps.total_insert hfresh, hm.total]
    exact Nat.add_comm _ _
  · dsimp only at h'
    rw [Maps.getElem?_insert] at h'
    split at h'
    · exact Option.some.inj h' ▸ exact_opening hn p now
    · exact hm.entry id' e h'

/-- **The step.**  One case per outcome; where the message completes, the entry is as good as taken
out before it was filled. -/
theorem Pushes.sound {r r' : MessageReassembler} {id : MessageId} {idx : Nat} {n : UInt16}
    {p : List UInt8} {now : MonotonicTime} {out : PushOutcome}
    (h : Pushes r id idx n p now out r') (hr : r.Sound) (hidx : idx < n.toNat) : r'.Sound := by
  have htouch : ∀ e, r.entries[id]? = some e → (r.touch id e now).Sound := fun e he =>
    hr.put he ((hr.entry id e he).touch now) rfl hr.cap
  cases h with
  | mismatched he hn => exact hr
  | @duplicate e he hn hhas => exact htouch e he
  | @overflow e he hn hempty hcap => exact htouch e he
  | @stored e he hn hempty hroom hmore =>
    have hexact := (hr.entry id e he).touch now
    refine hr.put he (hexact.fill (hn ▸ hidx) hempty p (hn ▸ hmore)) ?_ hroom
    change r.totalBytes + p.length + e.bytes = r.totalBytes + (e.bytes + p.length)
    omega
  | completed he hn hempty hroom hfull =>
    rw [accept_remove he]
    exact hr.remove id
  | orphan he hne => exact hr
  | tooLong he hzero hcap => exact hr
  | noSpace he hzero hlen hcap => exact hr.makeRoom.1
  | opened he hzero hroom hn =>
    refine hr.openEntry he ?_ hroom now
    have hne : n.toNat ≠ 1 := fun heq => hn (UInt16.toNat_inj.mp heq)
    omega
  | whole he hzero hroom hn =>
    rw [openEntry_remove hr he]
    exact hr.makeRoom.1

theorem Sound.push {r : MessageReassembler} (h : r.Sound) (id : MessageId) (fid : FragmentId)
    (n : UInt16) (p : List UInt8) (now : MonotonicTime) : (r.push id fid n p now).2.Sound := by
  by_cases hfid : fid < n
  · exact (push_pushes r id hfid p now).sound (h.sweep now) hfid
  · rw [push_refused r id hfid]
    exact h

/-! ## 4. Nothing fails

The source has an `expect` where it takes a complete entry out of the map, one for each slot of it,
and a saturating subtraction wherever an entry leaves.  `pushChecked` is `push` with these made
visible: it has no result where an `expect` would panic or a subtraction would saturate. -/

/-- An entry that is swept or evicted. -/
def removeChecked (r : MessageReassembler) (id : MessageId) : Option MessageReassembler :=
  match r.entries[id]? with
  | some e => if e.bytes ≤ r.totalBytes then some (r.remove id) else none
  | none => some (r.remove id)

/-- `sweep`, checked. -/
def sweepChecked (r : MessageReassembler) (now : MonotonicTime) : Option MessageReassembler :=
  ((r.entries.toList.filter fun e => e.2.stale now).map Prod.fst).foldlM removeChecked r

/-- The eviction loop, checked. -/
def makeRoomChecked (r : MessageReassembler) : List MessageId → Option MessageReassembler
  | [] => some { r with order := [] }
  | oldest :: rest =>
    if maxReassemblyMessages ≤ r.entries.size then
      match r.entries[oldest]? with
      | some e =>
        if e.bytes ≤ r.totalBytes then
          makeRoomChecked
            ⟨r.entries.erase oldest, rest, r.totalBytes - e.bytes⟩ rest
        else none
      | none => makeRoomChecked ⟨r.entries.erase oldest, rest, r.totalBytes⟩ rest
    else some { r with order := oldest :: rest }

/-- A completion: `remove(..).expect`, the subtraction, and an `expect` for every slot. -/
def completeChecked (r : MessageReassembler) (id : MessageId) :
    Option (PushOutcome × MessageReassembler) :=
  match r.entries[id]? with
  | none => none
  | some e =>
    if e.bytes ≤ r.totalBytes then
      (e.parts.mapM fun slot => slot).map fun pieces => (.delivered pieces.flatten, r.remove id)
    else none

/-- `push` into an entry that exists, checked. -/
def pushIntoChecked (r : MessageReassembler) (messageId : MessageId) (entry : Partial) (idx : Nat)
    (totalFragments : UInt16) (payload : List UInt8) (now : MonotonicTime) :
    Option (PushOutcome × MessageReassembler) :=
  if entry.total ≠ totalFragments then some (.dropped, r)
  else
    let entry := { entry with lastTouch := now }
    let r := { r with entries := r.entries.insert messageId entry }
    if entry.has idx then some (.stored, r)
    else if maxReassemblyBytes < entry.bytes + payload.length ∨
        maxReassemblyBytes < r.totalBytes + payload.length then some (.dropped, r)
    else
      let entry := entry.fill idx payload
      let r := { r with
        entries := r.entries.insert messageId entry
        totalBytes := r.totalBytes + payload.length }
      if entry.received = entry.total.toNat then r.completeChecked messageId else some (.stored, r)

/-- `push` of the first fragment of a new message, checked. -/
def pushNewChecked (r : MessageReassembler) (messageId : MessageId) (idx : Nat)
    (totalFragments : UInt16) (payload : List UInt8) (now : MonotonicTime) :
    Option (PushOutcome × MessageReassembler) :=
  if idx ≠ 0 then some (.dropped, r)
  else if maxReassemblyBytes < payload.length then some (.dropped, r)
  else (r.makeRoomChecked r.order).bind fun r =>
    if maxReassemblyBytes < r.totalBytes + payload.length then some (.dropped, r)
    else
      let r : MessageReassembler :=
        { entries := r.entries.insert messageId (opening totalFragments payload now)
          order := r.order ++ [messageId]
          totalBytes := r.totalBytes + payload.length }
      if totalFragments = 1 then r.completeChecked messageId else some (.stored, r)

/-- `push`, checked. -/
def pushChecked (r : MessageReassembler) (messageId : MessageId) (fragmentId : FragmentId)
    (totalFragments : UInt16) (payload : List UInt8) (now : MonotonicTime) :
    Option (PushOutcome × MessageReassembler) :=
  if totalFragments = 0 then some (.dropped, r)
  else if totalFragments ≤ fragmentId then some (.dropped, r)
  else (r.sweepChecked now).bind fun r =>
    match r.entries[messageId]? with
    | some entry => r.pushIntoChecked messageId entry fragmentId.toNat totalFragments payload now
    | none => r.pushNewChecked messageId fragmentId.toNat totalFragments payload now

theorem removeChecked_eq {r : MessageReassembler} (h : r.Sound) (id : MessageId) :
    r.removeChecked id = some (r.remove id) := by
  unfold removeChecked
  cases he : r.entries[id]? with
  | none => rfl
  | some e => exact if_pos (h.bytes_le he)

theorem sweepChecked_eq {r : MessageReassembler} (h : r.Sound) (now : MonotonicTime) :
    r.sweepChecked now = some (r.sweep now) := by
  unfold sweepChecked sweep
  dsimp only
  generalize (r.entries.toList.filter fun e => e.2.stale now).map Prod.fst = ids
  induction ids generalizing r with
  | nil => rfl
  | cons id ids ih =>
    rw [List.foldlM_cons, removeChecked_eq h]
    exact ih (h.remove id)

/-- The first turn takes an entry out that is part of the total, and the second one stops. -/
theorem makeRoomChecked_eq {r : MessageReassembler} (h : r.Sound) :
    r.makeRoomChecked r.order = some (r.makeRoom r.order) := by
  obtain ⟨-, hlt, -⟩ := h.makeRoom
  have hmem := h.mem
  cases horder : r.order with
  | nil => rfl
  | cons oldest rest =>
    rw [makeRoomChecked, makeRoom]
    split
    · have hin : oldest ∈ r.entries := (hmem oldest).mp (by rw [horder]; exact List.mem_cons_self)
      obtain ⟨e, he⟩ := Maps.mem_iff.mp hin
      have hsize : ¬ maxReassemblyMessages ≤ (r.entries.erase oldest).size := by
        rw [Maps.size_erase_of_mem hin]
        have hbound := h.bound
        have hpos : 0 < maxReassemblyMessages := Nat.zero_lt_succ 63
        omega
      simp only [he, if_pos (h.bytes_le he)]
      cases rest with
      | nil => rfl
      | cons next rest => rw [makeRoomChecked, makeRoom, if_neg hsize, if_neg hsize]
    · rfl

/-- A complete entry: every `expect` finds its slot filled. -/
theorem completeChecked_eq {r : MessageReassembler} {id : MessageId} {e : Partial}
    (he : r.entries[id]? = some e) (hbytes : e.bytes ≤ r.totalBytes)
    (hfull : ∀ slot ∈ e.parts, slot.isSome = true) :
    r.completeChecked id = some (.delivered e.full, r.remove id) := by
  have hpieces : (e.parts.mapM fun slot => slot) = some (e.parts.map fun slot => slot.getD []) := by
    generalize e.parts = parts at hfull
    induction parts with
    | nil => rfl
    | cons slot rest ih =>
      obtain ⟨piece, rfl⟩ := Option.isSome_iff_exists.mp (hfull slot List.mem_cons_self)
      have hrest := ih fun s hs => hfull s (List.mem_cons_of_mem _ hs)
      simp [List.mapM_cons, hrest]
  unfold completeChecked
  simp only [he, if_pos hbytes, hpieces]
  rfl

/-- **Nothing fails.**  In a sound reassembler every `expect` succeeds and no subtraction
saturates, whatever comes in. -/
theorem pushChecked_eq {r : MessageReassembler} (h : r.Sound) (id : MessageId) (fid : FragmentId)
    (n : UInt16) (p : List UInt8) (now : MonotonicTime) :
    r.pushChecked id fid n p now = some (r.push id fid n p now) := by
  unfold pushChecked push
  split
  · rfl
  · split
    · rfl
    · rename_i h0 hfid
      rw [sweepChecked_eq h, Option.bind_some]
      have hs := h.sweep now
      have hidx : fid.toNat < n.toNat := UInt16.not_le.mp hfid
      dsimp only
      generalize r.sweep now = r at hs ⊢
      cases he : r.entries[id]? with
      | some e =>
        have hexact := (hs.entry id e he).touch now
        dsimp only [pushIntoChecked, pushInto]
        split
        · rfl
        · rename_i htotal
          split
          · rfl
          · rename_i hhas
            split
            · rfl
            · split
              · rename_i hfull
                have hvalid := hexact.valid.fill (not_not.mp htotal ▸ hidx)
                  (Bool.eq_false_iff.mpr hhas) p
                refine completeChecked_eq Std.ExtTreeMap.getElem?_insert_self ?_
                  (hvalid.filled hfull)
                have hle := hs.bytes_le he
                change e.bytes + p.length ≤ r.totalBytes + p.length
                omega
              · rfl
      | none =>
        dsimp only [pushNewChecked, pushNew]
        split
        · rfl
        · split
          · rfl
          · rw [makeRoomChecked_eq hs, Option.bind_some]
            split
            · rfl
            · split
              · rename_i hone
                refine completeChecked_eq Std.ExtTreeMap.getElem?_insert_self ?_ ?_
                · exact Nat.le_add_left _ _
                · subst hone
                  intro slot hslot
                  rw [List.mem_singleton.mp hslot]
                  rfl
              · rfl

/-- The arguments of a `push`. -/
structure Push where
  messageId : MessageId
  fragmentId : FragmentId
  totalFragments : UInt16
  payload : List UInt8
  now : MonotonicTime
  deriving DecidableEq, Repr

/-- The call itself. -/
def feed (r : MessageReassembler) (f : Push) : PushOutcome × MessageReassembler :=
  r.push f.messageId f.fragmentId f.totalFragments f.payload f.now

/-- The reassembler after a sequence of pushes. -/
def run (r : MessageReassembler) (fs : List Push) : MessageReassembler :=
  fs.foldl (fun r f => (r.feed f).2) r

theorem Sound.run {r : MessageReassembler} (h : r.Sound) (fs : List Push) : (r.run fs).Sound := by
  induction fs generalizing r with
  | nil => exact h
  | cons f fs ih =>
    exact ih (h.push f.messageId f.fragmentId f.totalFragments f.payload f.now)

/-- **The representation invariant over runs.** After any pushes, with any arguments and times, the
five quantities agree, and the next push, whatever it is, meets no failing `expect` and no
subtraction that saturates.  Nothing is assumed of the sender.  Which message is delivered, and
when, is another matter (`delivered_iff_complete`). -/
theorem representation_invariant (fs : List Push) :
    (run .new fs).Sound ∧ ∀ f : Push, (run .new fs).pushChecked f.messageId f.fragmentId
      f.totalFragments f.payload f.now = some ((run .new fs).feed f) := by
  have hsound := sound_new.run fs
  exact ⟨hsound, fun f => pushChecked_eq hsound _ _ _ _ _⟩

end MessageReassembler

end Gtp
