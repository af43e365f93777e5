/-
# Splitting a message into fragments

`message_fragment_count` says how many fragments a reliable message makes, and the sends cut the
payload with `payload.chunks(max)`.  The two agree where there is room for a payload byte at all:
the fragments are as many as counted, none is empty, their indices fit the 16 bits of a
`FragmentId`, each fits the smallest datagram, and together they are the payload.

A `min_mtu` that header, tag and overhead use up leaves no room.  The count then takes a budget of
one byte, the cut does not: `chunks(0)` panics.  `split_exact_iff` has the exact condition.

* `SplitExact` collects what a reader expects of a split; `FitsAlone` is the part about the MTU,
  with the header, the frame and the tag counted as the builder writes them.
* `needed_reliable`: a fragment needs 21 bytes beside its payload, six fewer than are set aside.
* `messageFragmentCount_zero` is the case without room, and `tinyMtu_panics` a connection in it.

An empty payload is refused by the count, and so is one that would make more than 65535 fragments;
without room these are the payloads beyond 65535 bytes.  No cut is asked for then, which is why the
condition names them beside the room.
-/
import Gtp.Core.Sends

namespace Gtp

/-! ## 1. Chunks -/

theorem mem_chunksFrom {size : Nat} (hsize : 0 < size) {fuel : Nat} {bytes p : List UInt8}
    (h : p ∈ chunksFrom size fuel bytes) : p ≠ [] ∧ p.length ≤ size := by
  induction fuel generalizing bytes with
  | zero => cases h
  | succ fuel ih =>
    rw [chunksFrom] at h
    split at h
    · cases h
    · rename_i hne
      rcases List.mem_cons.mp h with rfl | h
      · refine ⟨?_, List.length_take_le _ _⟩
        intro htake
        rcases List.take_eq_nil_iff.mp htake with hzero | hnil
        · exact absurd hzero (Nat.ne_of_gt hsize)
        · rw [hnil] at hne
          exact hne rfl
      · exact ih h

theorem messageFragmentCount_le {len budget n : Nat} (h : messageFragmentCount len budget = .ok n) :
    n ≤ 65535 := by
  unfold messageFragmentCount at h
  dsimp only at h
  split at h
  · cases h
  · obtain rfl := Except.ok.inj h
    omega

/-- Without a budget every byte is counted as a fragment. -/
theorem messageFragmentCount_zero (len : Nat) :
    (∃ n, messageFragmentCount len 0 = .ok n) ↔ 0 < len ∧ len ≤ 65535 := by
  unfold messageFragmentCount
  simp only [Nat.max_eq_right (Nat.zero_le 1), Nat.add_sub_cancel, Nat.div_one]
  by_cases hrange : len = 0 ∨ 65535 < len
  · simp only [if_pos hrange, reduceCtorEq, exists_false, false_iff]
    omega
  · simp only [if_neg hrange, Except.ok.injEq, exists_eq', true_iff]
    omega

/-- The indices of pieces count from zero, as long as they fit. -/
theorem fragmentIds (msgId : MessageId) (class' : MessageClass) (priority : PriorityTier)
    (deadline : Option MonotonicTime) (total : Nat) (now : MonotonicTime)
    {pieces : List (List UInt8)} (h : pieces.length ≤ 65535) :
    (GtpConnection.fragmentItems msgId class' priority deadline total now pieces).map
      (·.fragmentId.toNat) = List.range pieces.length := by
  rw [GtpConnection.fragmentItems, List.map_map]
  calc pieces.zipIdx.map _ = pieces.zipIdx.map Prod.snd := by
        apply List.map_congr_left
        intro p hp
        have hlt : p.2 < 65536 := by
          have hidx := (List.mem_zipIdx' hp).1
          omega
        exact UInt16.toNat_ofNat_of_lt' hlt
    _ = List.range pieces.length := by rw [List.zipIdx_map_snd, List.range_eq_range']

namespace GtpConnection

/-! ## 2. The split -/

/-- The class of a reliable message: unordered, or with its group and order sequence number. -/
def reliableClass : Option (OrderedGroupId × UInt32) → MessageClass
  | none => .reliableUnordered
  | some (groupId, orderSeq) => .reliableOrdered groupId orderSeq

/-- The item's datagram of its own is within the smallest MTU: header, frame and tag. -/
def FitsAlone (c : GtpConnection) (item : SchedulableItem) : Prop :=
  minCommonHeaderLen + (itemFrame item).needed + aeadTagLen ≤ c.config.minMtu

/-- The payload is cut as it was counted: `n` fragments, none empty, numbered from zero, each fit
for a datagram of its own, and together the payload. -/
structure SplitExact (c : GtpConnection) (payload : List UInt8) (n : Nat) : Prop where
  split : ∃ pieces, chunks c.maxMessagePayload payload = some pieces ∧ pieces.length = n ∧
    (∀ p ∈ pieces, p ≠ []) ∧ pieces.flatten = payload ∧
    ∀ msgId group priority deadline now,
      (fragmentItems msgId (reliableClass group) priority deadline n now pieces).map
        (·.fragmentId.toNat) = List.range n ∧
      ∀ item ∈ fragmentItems msgId (reliableClass group) priority deadline n now pieces,
        c.FitsAlone item

/-- A fragment needs 21 bytes beside its payload, six fewer than the overhead that is set aside. -/
theorem needed_reliable (item : SchedulableItem) (group : Option (OrderedGroupId × UInt32))
    (h : item.class' = reliableClass group) :
    (itemFrame item).needed = 21 + item.payload.length := by
  unfold itemFrame
  rw [h]
  cases group <;> rfl

theorem splitExact_of_room {c : GtpConnection} (hroom : 0 < c.maxMessagePayload)
    {payload : List UInt8} {n : Nat}
    (hn : messageFragmentCount payload.length c.maxMessagePayload = .ok n) :
    c.SplitExact payload n := by
  have hcount := (messageFragmentCount_ok hroom hn).1
  have hlen := length_chunksFrom hroom (Nat.le_refl payload.length)
  rw [← hcount] at hlen
  have hmax : n ≤ 65535 := messageFragmentCount_le hn
  refine ⟨_, if_neg (Nat.ne_of_gt hroom), hlen, fun p hp => (mem_chunksFrom hroom hp).1,
    flatten_chunksFrom hroom (Nat.le_refl _), ?_⟩
  intro msgId group priority deadline now
  refine ⟨?_, ?_⟩
  · rw [fragmentIds _ _ _ _ _ _ (by rw [hlen]; exact hmax), hlen]
  · intro item hitem
    obtain ⟨⟨p, idx⟩, hp, rfl⟩ := List.mem_map.mp hitem
    have hsize := (mem_chunksFrom hroom (List.fst_mem_of_mem_zipIdx hp)).2
    unfold FitsAlone
    rw [needed_reliable _ group rfl]
    unfold maxMessagePayload at hsize hroom
    have hoverhead : maxMessageFrameOverhead = 27 := rfl
    dsimp only at hsize ⊢
    omega

theorem not_splitExact {c : GtpConnection} (h : c.maxMessagePayload = 0) (payload : List UInt8)
    (n : Nat) : ¬ c.SplitExact payload n := by
  rintro ⟨pieces, hpieces, -⟩
  rw [chunks, if_pos h] at hpieces
  cases hpieces

/-- **When the cut is as counted.**  For every connection and payload: wherever a number of
fragments is counted, the cut succeeds and gives that many fragments, none empty, numbered from
zero, each fit for the smallest datagram and together the payload, if and only if the minimum MTU
leaves room for a payload byte, or the payload is one that is never counted, empty or longer than
65535 bytes. -/
theorem split_exact_iff (c : GtpConnection) (payload : List UInt8) :
    (∀ n, messageFragmentCount payload.length c.maxMessagePayload = .ok n →
      c.SplitExact payload n) ↔
      67 < c.config.minMtu ∨ payload.length = 0 ∨ 65535 < payload.length := by
  have hroom : 0 < c.maxMessagePayload ↔ 67 < c.config.minMtu := Nat.sub_pos_iff_lt
  constructor
  · intro h
    by_contra hcondition
    have hzero : c.maxMessagePayload = 0 := by omega
    have hcounted : 0 < payload.length ∧ payload.length ≤ 65535 := by omega
    obtain ⟨n, hn⟩ := (messageFragmentCount_zero payload.length).mpr hcounted
    rw [hzero] at h
    exact not_splitExact hzero payload n (h n hn)
  · intro hcondition n hn
    by_cases hzero : c.maxMessagePayload = 0
    · rw [hzero] at hn
      have hcounted := (messageFragmentCount_zero payload.length).mp ⟨n, hn⟩
      omega
    · exact splitExact_of_room (Nat.pos_of_ne_zero hzero) hn

/-- A fresh connection whose minimum MTU is used up by header, tag and overhead. -/
def tinyMtu : GtpConnection :=
  { (sampleSetup true).start with config := { GtpConfig.default with minMtu := 67 } }

/-- **A cut that panics.**  One byte is counted as one fragment, and the send does not return. -/
theorem tinyMtu_panics :
    messageFragmentCount ([1] : List UInt8).length tinyMtu.maxMessagePayload = .ok 1 ∧
      ¬ tinyMtu.SplitExact [1] 1 ∧
      (tinyMtu.sendReliableUnordered [1] .p1Input none 0).1 = none :=
  ⟨rfl, not_splitExact rfl _ _, rfl⟩

end GtpConnection

end Gtp
