/-
# A message completes with its last index

The history of a message is the list of pushes since its entry was opened.  `firstPayload` reads off
it what came first for each index, and `Mirrors` says that the slots of the entry are just that.  So
the entry is complete, by its counter, when every index has come, whatever the order, and what is
delivered then is the first payload of every index, in index order (`delivered_iff_complete`).

* `EntryMirrors.complete_iff`: the counter of filled slots, which the code compares, decides whether
  every index has come.
* `Mirrors.feed` is one push while the message is incomplete, of its own fragments or of others.
* `mirrors_history` is the induction, on the pushes from the last one backwards.

Pushes of other messages, duplicates, indices out of range and other totals leave the mirror alone;
what would not, an eviction, a sweep or a refusal for bytes, is excluded by `Keeps`.  Both `Opens`
and `Keeps` are decidable, so that they can be checked on a concrete history (`interleaved`).

What becomes of a message that is opened a second time, after it was delivered or evicted, is left
out: the history begins with the push that opens the entry.
-/
import Gtp.Core.Reassembler
import Gtp.Lib.Runs
import Mathlib.Data.List.Induction

namespace Gtp

namespace MessageReassembler

/-! ## 1. Histories -/

/-- The push carries a fragment of the message `id` in `n` pieces. -/
def Push.belongs (f : Push) (id : MessageId) (n : UInt16) : Bool :=
  decide (f.messageId = id) && decide (f.totalFragments = n) && decide (f.fragmentId < n)

/-- What came first for the index. -/
def firstPayload (id : MessageId) (n : UInt16) (fs : List Push) (idx : Nat) :
    Option (List UInt8) :=
  (fs.find? fun f => f.belongs id n && decide (f.fragmentId.toNat = idx)).map Push.payload

/-- Every index has come. -/
def Complete (id : MessageId) (n : UInt16) (fs : List Push) : Prop :=
  ∀ idx < n.toNat, (firstPayload id n fs idx).isSome = true

/-- The first payloads in the order of their indices. -/
def message (id : MessageId) (n : UInt16) (fs : List Push) : List UInt8 :=
  (List.range n.toNat).flatMap fun idx => (firstPayload id n fs idx).getD []

/-- The push opens the entry of its message: fragment 0, no entry, and the bytes fit. -/
def Opens (r : MessageReassembler) (f : Push) : Prop :=
  let s := r.sweep f.now
  f.fragmentId = 0 ∧ f.totalFragments ≠ 0 ∧ s.entries[f.messageId]? = none ∧
    (s.makeRoom s.order).totalBytes + f.payload.length ≤ maxReassemblyBytes

/-- The push leaves the open entry of `id` in its place: it does not sweep it, does not evict it to
make room for another message, and is not refused bytes for it. -/
def Keeps (id : MessageId) (n : UInt16) (r : MessageReassembler) (f : Push) : Prop :=
  let s := r.sweep f.now
  f.fragmentId < f.totalFragments →
    id ∈ s.entries ∧
    (s.entries[f.messageId]? = none → f.fragmentId = 0 → f.payload.length ≤ maxReassemblyBytes →
      id ∈ (s.makeRoom s.order).entries) ∧
    (f.belongs id n = true → ∀ e ∈ s.entries[id]?, e.has f.fragmentId.toNat = false →
      s.totalBytes + f.payload.length ≤ maxReassemblyBytes)

instance (id : MessageId) (n : UInt16) (fs : List Push) : Decidable (Complete id n fs) :=
  inferInstanceAs (Decidable (∀ idx < n.toNat, (firstPayload id n fs idx).isSome = true))

instance (r : MessageReassembler) (f : Push) : Decidable (Opens r f) :=
  inferInstanceAs (Decidable (_ ∧ _ ∧ _ ∧ _))

instance (id : MessageId) (n : UInt16) (r : MessageReassembler) (f : Push) :
    Decidable (Keeps id n r f) :=
  inferInstanceAs (Decidable (_ → _ ∧ (_ → _ → _ → _) ∧ (_ → ∀ e ∈ _, _ → _)))

section History

variable {id : MessageId} {n : UInt16} {fs : List Push} {f : Push}

theorem belongs_iff : f.belongs id n = true ↔
    f.messageId = id ∧ f.totalFragments = n ∧ f.fragmentId < n := by
  simp [Push.belongs, and_assoc]

/-- A push that does not belong to the message makes no difference. -/
theorem firstPayload_other (h : f.belongs id n = false) (idx : Nat) :
    firstPayload id n (fs ++ [f]) idx = firstPayload id n fs idx := by
  simp [firstPayload, List.find?_append, h]

/-- A fragment of the message counts at its own index, when it is the first there. -/
theorem firstPayload_belongs (h : f.belongs id n = true) (idx : Nat) :
    firstPayload id n (fs ++ [f]) idx = (firstPayload id n fs idx).or
      (if f.fragmentId.toNat = idx then some f.payload else none) := by
  simp only [firstPayload, List.find?_append, Option.map_or]
  congr 1
  by_cases hidx : f.fragmentId.toNat = idx
  · simp [h, hidx]
  · simp [hidx]

theorem not_complete_of_other (h : f.belongs id n = false) (hfs : ¬ Complete id n fs) :
    ¬ Complete id n (fs ++ [f]) := by
  intro hall
  refine hfs fun idx hidx => ?_
  have hsome := hall idx hidx
  rwa [firstPayload_other h] at hsome

end History

/-! ## 2. The mirror -/

/-- The slots of the entry `e` are what came first for each index. -/
structure EntryMirrors (e : Partial) (id : MessageId) (n : UInt16) (fs : List Push) : Prop where
  total : e.total = n
  parts : e.parts = (List.range n.toNat).map (firstPayload id n fs)

/-- The message `id` has an entry that mirrors its history. -/
def Mirrors (r : MessageReassembler) (id : MessageId) (n : UInt16) (fs : List Push) : Prop :=
  ∃ e, r.entries[id]? = some e ∧ EntryMirrors e id n fs

section Mirror

variable {id : MessageId} {n : UInt16} {fs : List Push} {f : Push} {e : Partial}

theorem EntryMirrors.has (h : EntryMirrors e id n fs) {idx : Nat} (hidx : idx < n.toNat) :
    e.has idx = (firstPayload id n fs idx).isSome := by
  rw [Partial.has, h.parts, List.getElem?_map, List.getElem?_range hidx]
  rfl

theorem EntryMirrors.full (h : EntryMirrors e id n fs) : e.full = message id n fs := by
  rw [Partial.full, h.parts, List.flatMap_map]
  rfl

/-- The counter decides completeness. -/
theorem EntryMirrors.complete_iff (h : EntryMirrors e id n fs) (hv : e.Valid) :
    Complete id n fs ↔ e.received = n.toNat := by
  have hlen : e.parts.length = n.toNat := by
    rw [h.parts, List.length_map, List.length_range]
  rw [hv.received, ← hlen, List.countP_eq_length, h.parts]
  simp [Complete]

theorem EntryMirrors.fill (h : EntryMirrors e id n fs) (hf : f.belongs id n = true)
    (hempty : e.has f.fragmentId.toNat = false) (now : MonotonicTime) :
    EntryMirrors ({ e with lastTouch := now }.fill f.fragmentId.toNat f.payload) id n
      (fs ++ [f]) := by
  obtain ⟨-, -, hlt⟩ := belongs_iff.mp hf
  have hidx : f.fragmentId.toNat < n.toNat := hlt
  have hnone : firstPayload id n fs f.fragmentId.toNat = none := by
    rw [h.has hidx] at hempty
    simpa using hempty
  refine ⟨h.total, ?_⟩
  change e.parts.set f.fragmentId.toNat (some f.payload) = _
  rw [h.parts]
  apply List.ext_getElem?
  intro idx
  rw [List.getElem?_set, List.getElem?_map, List.getElem?_map, List.length_map, List.length_range]
  split
  · rename_i heq
    subst heq
    rw [List.getElem?_range hidx, Option.map_some, firstPayload_belongs hf, hnone, if_pos rfl]
    rfl
  · rename_i hne
    by_cases hin : idx < n.toNat
    · rw [List.getElem?_range hin, Option.map_some, Option.map_some, firstPayload_belongs hf,
        if_neg hne, Option.or_none]
    · rw [List.getElem?_eq_none (by simpa using hin)]
      rfl

/-- What does not change a first payload does not change the mirror. -/
theorem EntryMirrors.same (h : EntryMirrors e id n fs) {fs' : List Push}
    (hsame : ∀ idx, firstPayload id n fs' idx = firstPayload id n fs idx) (now : MonotonicTime) :
    EntryMirrors { e with lastTouch := now } id n fs' :=
  ⟨h.total, h.parts.trans (List.map_congr_left fun idx _ => (hsame idx).symm)⟩

end Mirror

theorem entryMirrors_opening {f : Push} (hidx : f.fragmentId = 0) (hn : f.totalFragments ≠ 0) :
    EntryMirrors (opening f.totalFragments f.payload f.now) f.messageId f.totalFragments [f] := by
  have hpos : 0 < f.totalFragments.toNat := by
    refine Nat.pos_of_ne_zero fun hzero => hn ?_
    exact UInt16.toNat_inj.mp hzero
  have hf : f.belongs f.messageId f.totalFragments = true :=
    belongs_iff.mpr ⟨rfl, rfl, by rw [hidx]; exact hpos⟩
  have hfresh : EntryMirrors ⟨f.totalFragments, List.replicate f.totalFragments.toNat none, 0, 0, 0⟩
      f.messageId f.totalFragments [] := by
    refine ⟨rfl, ?_⟩
    change List.replicate f.totalFragments.toNat none =
      (List.range f.totalFragments.toNat).map fun _ => none
    rw [List.map_const', List.length_range]
  have hempty : Partial.has ⟨f.totalFragments, List.replicate f.totalFragments.toNat none, 0, 0, 0⟩
      f.fragmentId.toNat = false := by
    rw [hfresh.has (by rw [hidx]; exact hpos)]
    rfl
  have hfill := hfresh.fill hf hempty f.now
  refine ⟨rfl, ?_⟩
  have hparts := hfill.parts
  rw [hidx] at hparts
  exact hparts

/-! ## 3. One push -/

/-- Making room does not touch an entry that it leaves. -/
theorem getElem?_makeRoom {r : MessageReassembler} (h : r.Sound) {id : MessageId}
    (hin : id ∈ (r.makeRoom r.order).entries) :
    (r.makeRoom r.order).entries[id]? = r.entries[id]? := by
  rcases makeRoom_eq h.consistent with ⟨-, heq⟩ | ⟨oldest, -, -, heq⟩
  · rw [heq]
  · rw [heq, MessageReassembler.remove] at hin ⊢
    have hne := (Maps.mem_erase _ _ _).mp hin
    rw [Maps.getElem?_erase, if_neg hne.1]

/-- A push leaves the entries of other messages, if it does not evict them. -/
theorem Pushes.other {r r' : MessageReassembler} {id id' : MessageId} {idx : Nat} {n : UInt16}
    {p : List UInt8} {now : MonotonicTime} {out : PushOutcome}
    (h : Pushes r id idx n p now out r') (hr : r.Sound) (hne : id ≠ id')
    (hkept : r.entries[id]? = none → idx = 0 → p.length ≤ maxReassemblyBytes →
      id' ∈ (r.makeRoom r.order).entries) :
    r'.entries[id']? = r.entries[id']? := by
  cases h with
  | mismatched he hn => rfl
  | duplicate he hn hhas => rw [MessageReassembler.touch, Maps.getElem?_insert, if_neg hne]
  | overflow he hn hempty hcap => rw [MessageReassembler.touch, Maps.getElem?_insert, if_neg hne]
  | stored he hn hempty hroom hmore => rw [accept, Maps.getElem?_insert, if_neg hne]
  | completed he hn hempty hroom hfull =>
    rw [accept_remove he, MessageReassembler.remove, Maps.getElem?_erase, if_neg hne]
  | orphan he hzero => rfl
  | tooLong he hzero hcap => rfl
  | noSpace he hzero hlen hcap => exact getElem?_makeRoom hr (hkept he hzero hlen)
  | opened he hzero hroom hn =>
    rw [openEntry, Maps.getElem?_insert, if_neg hne]
    exact getElem?_makeRoom hr (hkept he hzero (by omega))
  | whole he hzero hroom hn =>
    rw [openEntry_remove hr he]
    exact getElem?_makeRoom hr (hkept he hzero (by omega))

/-- A push into the entry of an incomplete message: it is stored or ignored, and the message goes on
being incomplete, or it is the last one missing. -/
theorem Pushes.into {r r' : MessageReassembler} {f : Push} {out : PushOutcome}
    (h : Pushes r f.messageId f.fragmentId.toNat f.totalFragments f.payload f.now out r')
    (hr : r.Sound) (hfid : f.fragmentId < f.totalFragments) {e : Partial} {n : UInt16}
    {fs : List Push} (he : r.entries[f.messageId]? = some e)
    (hmirror : EntryMirrors e f.messageId n fs) (hfs : ¬ Complete f.messageId n fs)
    (hbytes : f.belongs f.messageId n = true → e.has f.fragmentId.toNat = false →
      r.totalBytes + f.payload.length ≤ maxReassemblyBytes) :
    (¬ Complete f.messageId n (fs ++ [f]) ∧ r'.Mirrors f.messageId n (fs ++ [f]) ∧
      ∀ full, out ≠ .delivered full) ∨
    (Complete f.messageId n (fs ++ [f]) ∧
      out = .delivered (message f.messageId n (fs ++ [f]))) := by
  have hexact := hr.entry _ e he
  -- the total agrees: the push belongs to the message
  have hbelongs : e.total = f.totalFragments → f.belongs f.messageId n = true := fun htotal =>
    belongs_iff.mpr ⟨rfl, htotal.symm.trans hmirror.total, htotal.symm.trans hmirror.total ▸ hfid⟩
  cases h with
  | @mismatched e' he' hn =>
    obtain rfl := Option.some.inj (he.symm.trans he')
    have hother : f.belongs f.messageId n = false := by
      rw [Bool.eq_false_iff, ne_eq, belongs_iff]
      exact fun hb => hn (hmirror.total.trans hb.2.1.symm)
    refine Or.inl ⟨not_complete_of_other hother hfs, ⟨e, he, ?_⟩, fun full hfull => by cases hfull⟩
    exact hmirror.same (fun idx => firstPayload_other hother idx) e.lastTouch
  | @duplicate e' he' hn hhas =>
    obtain rfl := Option.some.inj (he.symm.trans he')
    have hb := hbelongs hn
    have hsame : ∀ idx, firstPayload f.messageId n (fs ++ [f]) idx =
        firstPayload f.messageId n fs idx := by
      intro idx
      rw [firstPayload_belongs hb]
      split
      · rename_i hidx
        have hlt : f.fragmentId.toNat < n.toNat := (belongs_iff.mp hb).2.2
        rw [hmirror.has hlt, hidx] at hhas
        obtain ⟨p, hp⟩ := Option.isSome_iff_exists.mp hhas
        rw [hp]
        rfl
      · exact Option.or_none
    exact Or.inl ⟨fun hall => hfs fun idx hidx => hsame idx ▸ hall idx hidx,
      ⟨_, Std.ExtTreeMap.getElem?_insert_self, hmirror.same hsame f.now⟩,
      fun full hfull => by cases hfull⟩
  | @overflow e' he' hn hempty hcap =>
    obtain rfl := Option.some.inj (he.symm.trans he')
    have hfits := hbytes (hbelongs hn) hempty
    have hle := hr.bytes_le he
    omega
  | @stored e' he' hn hempty hroom hmore =>
    obtain rfl := Option.some.inj (he.symm.trans he')
    have hfill := hmirror.fill (hbelongs hn) hempty f.now
    have hvalid := (hexact.valid.touch f.now).fill (hn ▸ hfid) hempty f.payload
    refine Or.inl ⟨fun hall => hmore ?_, ⟨_, Std.ExtTreeMap.getElem?_insert_self, hfill⟩,
      fun full hfull => by cases hfull⟩
    have hcount := (hfill.complete_iff hvalid).mp hall
    rw [hn.symm.trans hmirror.total]
    exact hcount
  | @completed e' he' hn hempty hroom hfull =>
    obtain rfl := Option.some.inj (he.symm.trans he')
    have hfill := hmirror.fill (hbelongs hn) hempty f.now
    have hvalid := (hexact.valid.touch f.now).fill (hn ▸ hfid) hempty f.payload
    refine Or.inr ⟨(hfill.complete_iff hvalid).mpr ?_, congrArg _ hfill.full⟩
    rw [← hn.symm.trans hmirror.total]
    exact hfull
  | orphan he' hne => cases he.symm.trans he'
  | tooLong he' hzero hcap => cases he.symm.trans he'
  | noSpace he' hzero hlen hcap => cases he.symm.trans he'
  | opened he' hzero hroom hn => cases he.symm.trans he'
  | whole he' hzero hroom hn => cases he.symm.trans he'

/-- The step of an incomplete message: it goes on being mirrored, or this push delivers it. -/
def Advances (r : MessageReassembler) (id : MessageId) (n : UInt16) (fs : List Push) (f : Push) :
    Prop :=
  (¬ Complete id n (fs ++ [f]) ∧ (r.feed f).2.Mirrors id n (fs ++ [f]) ∧
    (f.messageId = id → ∀ full, (r.feed f).1 ≠ .delivered full)) ∨
  (Complete id n (fs ++ [f]) ∧ f.messageId = id ∧
    (r.feed f).1 = .delivered (message id n (fs ++ [f])))

/-- **The step.** -/
theorem Mirrors.feed {r : MessageReassembler} (hr : r.Sound) {id : MessageId} {n : UInt16}
    {fs : List Push} (h : r.Mirrors id n fs) (hfs : ¬ Complete id n fs) {f : Push}
    (hkeeps : Keeps id n r f) : Advances r id n fs f := by
  by_cases hfid : f.fragmentId < f.totalFragments
  · obtain ⟨hin, hroom, hbytes⟩ := hkeeps hfid
    have hs := hr.sweep f.now
    -- the sweep left the entry as it was
    obtain ⟨e, he, hmirror⟩ := h
    have hswept : (r.sweep f.now).entries[id]? = some e := by
      obtain ⟨e', he'⟩ := Maps.mem_iff.mp hin
      have hback := he'
      rw [getElem?_sweep, Option.filter_eq_some_iff] at hback
      obtain rfl := Option.some.inj (he.symm.trans hback.1)
      exact he'
    have hpush := push_pushes r f.messageId hfid f.payload f.now
    unfold Advances MessageReassembler.feed
    generalize r.push f.messageId f.fragmentId f.totalFragments f.payload f.now = out at hpush ⊢
    obtain ⟨res, r'⟩ := out
    dsimp only at hpush ⊢
    by_cases hid : f.messageId = id
    · subst hid
      rcases hpush.into hs hfid hswept hmirror hfs fun hb hempty => hbytes hb e hswept hempty with
        ⟨hmore, hmirror', hnot⟩ | ⟨hall, hres⟩
      · exact Or.inl ⟨hmore, hmirror', fun _ => hnot⟩
      · exact Or.inr ⟨hall, rfl, hres⟩
    · have hother : f.belongs id n = false := by
        rw [Bool.eq_false_iff, ne_eq, belongs_iff]
        exact fun hb => hid hb.1
      refine Or.inl ⟨not_complete_of_other hother hfs, ⟨e, ?_, ?_⟩, fun heq => absurd heq hid⟩
      · rw [hpush.other hs hid fun hnone hzero => hroom hnone (UInt16.toNat_inj.mp hzero), hswept]
      · exact hmirror.same (fun idx => firstPayload_other hother idx) e.lastTouch
  · have hother : f.belongs id n = false := by
      rw [Bool.eq_false_iff, ne_eq, belongs_iff]
      rintro ⟨-, htotal, hlt⟩
      exact hfid (htotal ▸ hlt)
    obtain ⟨e, he, hmirror⟩ := h
    unfold Advances MessageReassembler.feed
    rw [push_refused r f.messageId hfid]
    refine Or.inl ⟨not_complete_of_other hother hfs, ⟨e, he, ?_⟩,
      fun _ full hfull => by cases hfull⟩
    exact hmirror.same (fun idx => firstPayload_other hother idx) e.lastTouch

theorem Opens.feed {r : MessageReassembler} {f : Push} (h : Opens r f) :
    Advances r f.messageId f.totalFragments [] f := by
  obtain ⟨hidx, hn, hnone, hroom⟩ := h
  have hpos : 0 < f.totalFragments.toNat :=
    Nat.pos_of_ne_zero fun hzero => hn (UInt16.toNat_inj.mp hzero)
  have hfid : f.fragmentId < f.totalFragments := by
    rw [hidx]
    exact hpos
  have hmirror := entryMirrors_opening hidx hn
  have hcount := hmirror.complete_iff (valid_opening hpos f.payload f.now)
  have hpush := push_pushes r f.messageId hfid f.payload f.now
  unfold Advances MessageReassembler.feed
  generalize r.push f.messageId f.fragmentId f.totalFragments f.payload f.now = out at hpush ⊢
  obtain ⟨res, r'⟩ := out
  dsimp only at hpush ⊢
  cases hpush with
  | mismatched he htotal => cases hnone.symm.trans he
  | duplicate he htotal hhas => cases hnone.symm.trans he
  | overflow he htotal hempty hcap => cases hnone.symm.trans he
  | stored he htotal hempty hfits hmore => cases hnone.symm.trans he
  | completed he htotal hempty hfits hfull => cases hnone.symm.trans he
  | orphan he hne =>
    rw [hidx] at hne
    exact absurd rfl hne
  | tooLong he hzero hcap => omega
  | noSpace he hzero hlen hcap => omega
  | opened he hzero hfits hone =>
    refine Or.inl ⟨fun hall => hone ?_, ⟨_, Std.ExtTreeMap.getElem?_insert_self, hmirror⟩,
      fun _ full hfull => by cases hfull⟩
    exact UInt16.toNat_inj.mp (hcount.mp hall).symm
  | whole he hzero hfits hone =>
    refine Or.inr ⟨hcount.mpr ?_, rfl, congrArg _ hmirror.full⟩
    rw [hone]
    rfl

/-! ## 4. The whole history -/

theorem run_append (r : MessageReassembler) (fs fs' : List Push) :
    r.run (fs ++ fs') = (r.run fs).run fs' := List.foldl_append ..

/-- As long as the message is incomplete, its entry mirrors its history.  By induction on the
pushes, the last one first. -/
theorem mirrors_history {r : MessageReassembler} (hr : r.Sound) {f₀ : Push} (hopens : Opens r f₀)
    (fs : List Push)
    (hkept : ∀ pre f post, fs = pre ++ f :: post →
      ¬ Complete f₀.messageId f₀.totalFragments (f₀ :: pre) →
      Keeps f₀.messageId f₀.totalFragments (r.run (f₀ :: pre)) f)
    (hfs : ¬ Complete f₀.messageId f₀.totalFragments (f₀ :: fs)) :
    (r.run (f₀ :: fs)).Mirrors f₀.messageId f₀.totalFragments (f₀ :: fs) := by
  induction fs using List.reverseRecOn with
  | nil =>
    rcases hopens.feed with ⟨-, hmirror, -⟩ | ⟨hall, -⟩
    · exact hmirror
    · exact absurd hall hfs
  | append_singleton fs f ih =>
    have hsound : (r.run (f₀ :: fs)).Sound := hr.run _
    have hpre : ¬ Complete f₀.messageId f₀.totalFragments (f₀ :: fs) := by
      intro hall
      refine hfs fun idx hidx => ?_
      obtain ⟨p, hp⟩ := Option.isSome_iff_exists.mp (hall idx hidx)
      rw [← List.cons_append]
      cases hb : f.belongs f₀.messageId f₀.totalFragments with
      | true =>
        rw [firstPayload_belongs hb, hp]
        rfl
      | false =>
        rw [firstPayload_other hb, hp]
        rfl
    have hmirror := ih (fun pre g post hsplit hpre => hkept pre g (post ++ [f])
      (by rw [hsplit, List.append_assoc, List.cons_append]) hpre) hpre
    have hstep := hmirror.feed hsound hpre (hkept fs f [] rfl hpre)
    rw [← List.cons_append, run_append]
    rcases hstep with ⟨-, hmirror', -⟩ | ⟨hall, -⟩
    · exact hmirror'
    · exact absurd hall hfs

/-- **Delivery with the last index.**  A message is opened by its fragment 0, after any pushes, and
its entry is neither swept, nor evicted, nor refused bytes while it is incomplete.  Then, whatever
else comes in between, a push into the entry delivers when with it every index has come for the
first time, and no push before does; and it delivers the first payload of every index, in index
order. -/
theorem delivered_iff_complete (before : List Push) (f₀ : Push)
    (hopens : Opens (run .new before) f₀) (fs : List Push)
    (hkept : ∀ pre f post, fs = pre ++ f :: post →
      ¬ Complete f₀.messageId f₀.totalFragments (f₀ :: pre) →
      Keeps f₀.messageId f₀.totalFragments (run .new (before ++ f₀ :: pre)) f)
    (pre : List Push) (f : Push) (post : List Push) (hsplit : f₀ :: fs = pre ++ f :: post)
    (hpre : ¬ Complete f₀.messageId f₀.totalFragments pre) (hid : f.messageId = f₀.messageId) :
    (Complete f₀.messageId f₀.totalFragments (pre ++ [f]) →
      ((run .new (before ++ pre)).feed f).1 =
        .delivered (message f₀.messageId f₀.totalFragments (pre ++ [f]))) ∧
    (¬ Complete f₀.messageId f₀.totalFragments (pre ++ [f]) →
      ∀ full, ((run .new (before ++ pre)).feed f).1 ≠ .delivered full) := by
  have hadvances : Advances (run .new (before ++ pre)) f₀.messageId f₀.totalFragments pre f := by
    have hr := sound_new.run before
    simp only [run_append] at hkept ⊢
    generalize run .new before = r at hopens hkept hr ⊢
    cases pre with
    | nil =>
      obtain ⟨rfl, -⟩ := List.cons.inj hsplit
      exact hopens.feed
    | cons g pre =>
      obtain ⟨rfl, htail⟩ := List.cons.inj hsplit
      have hmirror := mirrors_history hr hopens pre (fun pre' g post' hsplit' => hkept pre' g
        (post' ++ f :: post) (by rw [htail, hsplit']; exact List.append_assoc ..)) hpre
      exact hmirror.feed (hr.run _) hpre (hkept pre f post htail hpre)
  rcases hadvances with ⟨hmore, -, hnot⟩ | ⟨hall, -, hres⟩
  · exact ⟨fun hall => absurd hall hmore, fun _ => hnot hid⟩
  · exact ⟨fun _ => hres, fun hmore => absurd hall hmore⟩

/-- A message in three pieces, opened by its first; then its last piece, a duplicate, another
message, a piece with another total, and the piece that was missing. -/
def interleaved : List Push :=
  [⟨7, 2, 3, [3], 5⟩, ⟨7, 0, 3, [9, 9], 6⟩, ⟨8, 0, 2, [5], 6⟩, ⟨7, 1, 4, [6], 7⟩, ⟨7, 1, 3, [2], 7⟩]

/-- The theorem at the last push of `interleaved`. -/
theorem delivered_interleaved :
    ((run .new (⟨7, 0, 3, [1], 5⟩ :: interleaved.take 4)).feed ⟨7, 1, 3, [2], 7⟩).1 =
      .delivered [1, 2, 3] := by
  have hkept : Runs.Along (fun pre f => pre ++ [f]) (fun pre f =>
      ¬ Complete 7 3 (⟨7, 0, 3, [1], 5⟩ :: pre) →
        Keeps 7 3 (run .new ([] ++ ⟨7, 0, 3, [1], 5⟩ :: pre)) f) [] interleaved := by
    decide +kernel
  have hsplits := Runs.along_iff.mp hkept
  have hfold : ∀ pre : List Push, pre.foldl (fun pre f => pre ++ [f]) [] = pre := fun pre => by
    have hgen : ∀ acc : List Push, pre.foldl (fun pre f => pre ++ [f]) acc = acc ++ pre := by
      induction pre with
      | nil => exact fun acc => (List.append_nil acc).symm
      | cons f pre ih => exact fun acc => (ih _).trans (List.append_assoc ..)
    exact hgen []
  have hdelivered := (delivered_iff_complete [] ⟨7, 0, 3, [1], 5⟩ (by decide +kernel) interleaved
    (fun pre f post hsplit hpre => by
      have hone := hsplits pre f post hsplit
      rw [hfold] at hone
      exact hone hpre)
    (⟨7, 0, 3, [1], 5⟩ :: interleaved.take 4) ⟨7, 1, 3, [2], 7⟩ [] rfl (by decide +kernel) rfl).1
    (by decide +kernel)
  refine hdelivered.trans ?_
  decide +kernel

end MessageReassembler

end Gtp
