/-
# A refused fragment

Most refusals of `push` come before anything has changed but the sweep.  One does not: a new message
finds all 64 places taken, the oldest one is evicted for it, and only then the byte cap is checked.
`refused_unharmed_iff` says that this is the only refusal that costs another message its fragments.

* `Unharmed` is what a refused push should leave: what had not expired is there with the same
  fragments, and the total changed by nothing or by what had expired.
* `EvictsInVain` reads the bad case off the state before the push, after its sweep: the fragment
  opens a message, all places are taken, and the oldest entry does not free enough bytes.
* `refused_evicts` is a run that gets there.

A push that is not refused may evict as well: that is what the order of the entries is for.  Whether
the message that was evicted had been acknowledged to its sender is not a question for this module;
see `Gtp.Core.Keeping`.
-/
import Gtp.Core.Reassembler

namespace Gtp

namespace MessageReassembler

/-! ## 1. When others are harmed -/

/-- The bytes of the entries that are past their time to live. -/
def expiredBytes (r : MessageReassembler) (now : MonotonicTime) : Nat :=
  ((r.entries.toList.filter fun e => e.2.stale now).map fun e => e.2.bytes).sum

/-- From `r` to `r'` no message was harmed: what had not expired is there with the same fragments,
and the total changed by nothing, or by what had expired. -/
def Unharmed (r r' : MessageReassembler) (now : MonotonicTime) : Prop :=
  (∀ (id : MessageId) e, r.entries[id]? = some e → e.stale now = false →
    ∃ e', r'.entries[id]? = some e' ∧ e'.total = e.total ∧ e'.parts = e.parts) ∧
  (r'.totalBytes = r.totalBytes ∨ r'.totalBytes + r.expiredBytes now = r.totalBytes)

/-- The push would open a message, all 64 places are taken by messages that have not expired, and
the payload does not fit the byte cap even without the bytes of the oldest of them. -/
def EvictsInVain (r : MessageReassembler) (f : Push) : Prop :=
  let s := r.sweep f.now
  f.fragmentId = 0 ∧ f.totalFragments ≠ 0 ∧ s.entries[f.messageId]? = none ∧
    f.payload.length ≤ maxReassemblyBytes ∧ s.entries.size = maxReassemblyMessages ∧
    ∃ oldest e, s.order.head? = some oldest ∧ s.entries[oldest]? = some e ∧
      maxReassemblyBytes + e.bytes < s.totalBytes + f.payload.length

/-- The sweep lowers the total by what had expired. -/
theorem sweep_totalBytes {r : MessageReassembler} (h : r.Sound) (now : MonotonicTime) :
    (r.sweep now).totalBytes + r.expiredBytes now = r.totalBytes := by
  have hentries : (r.sweep now).entries = r.entries.filter fun _ e => !e.stale now := by
    apply Std.ExtTreeMap.ext_getElem?
    intro id
    rw [getElem?_sweep, Std.ExtTreeMap.getElem?_filter']
  rw [(h.sweep now).total, hentries, h.total, Maps.total, Maps.total, expiredBytes,
    Std.ExtTreeMap.toList_filter]
  generalize r.entries.toList = l
  induction l with
  | nil => rfl
  | cons x l ih =>
    cases hst : x.2.stale now with
    | true =>
      simp only [List.filter_cons, hst, Bool.not_true, Bool.false_eq_true, if_false, if_true,
        List.map_cons, List.sum_cons] at ih ⊢
      omega
    | false =>
      simp only [List.filter_cons, hst, Bool.not_false, Bool.false_eq_true, if_false, if_true,
        List.map_cons, List.sum_cons] at ih ⊢
      omega

theorem unharmed_sweep {r : MessageReassembler} (h : r.Sound) (now : MonotonicTime) :
    Unharmed r (r.sweep now) now := by
  refine ⟨fun id e he hlive => ⟨e, ?_, rfl, rfl⟩, Or.inr (sweep_totalBytes h now)⟩
  rw [getElem?_sweep, he, Option.filter_some, hlive]
  rfl

/-- Touching an entry afterwards makes no difference. -/
theorem Unharmed.touch {r r' : MessageReassembler} {now : MonotonicTime} (h : Unharmed r r' now)
    {id : MessageId} {e : Partial} (he : r'.entries[id]? = some e) :
    Unharmed r (r'.touch id e now) now := by
  refine ⟨fun id' e' he' hlive => ?_, h.2⟩
  obtain ⟨e'', hkept, htotal, hparts⟩ := h.1 id' e' he' hlive
  rw [MessageReassembler.touch, Maps.getElem?_insert]
  split
  · rename_i hid
    subst hid
    obtain rfl := Option.some.inj (he.symm.trans hkept)
    exact ⟨_, rfl, htotal, hparts⟩
  · exact ⟨e'', hkept, htotal, hparts⟩

/-- The oldest of 64 messages is lost when room is made. -/
theorem harmed_makeRoom {r : MessageReassembler} (h : r.Sound) {now : MonotonicTime}
    (hfull : (r.sweep now).entries.size = maxReassemblyMessages) :
    ¬ Unharmed r ((r.sweep now).makeRoom (r.sweep now).order) now := by
  have hs := h.sweep now
  rcases makeRoom_eq hs.consistent with ⟨hlt, -⟩ | ⟨oldest, -, hhead, heq⟩
  · omega
  · intro hunharmed
    obtain ⟨e, he⟩ := Maps.mem_iff.mp ((hs.mem oldest).mp (List.mem_of_head? hhead))
    rw [getElem?_sweep, Option.filter_eq_some_iff] at he
    obtain ⟨e', he', -⟩ := hunharmed.1 oldest e he.1 (by simpa using he.2)
    rw [heq, MessageReassembler.remove, Maps.getElem?_erase, if_pos rfl] at he'
    cases he'

/-- **When a refused fragment harms no other message.** In every reachable state, for every push
that is refused: exactly when it did not evict a message in vain.  What has expired is taken out by
the sweep of the push, refused or not, and does not count as harm; a push that is accepted may evict
the oldest message, and is not the subject. -/
theorem refused_unharmed_iff (fs : List Push) (f : Push)
    (hdropped : ((run .new fs).feed f).1 = .dropped) :
    Unharmed (run .new fs) ((run .new fs).feed f).2 f.now ↔ ¬ EvictsInVain (run .new fs) f := by
  have h := sound_new.run fs
  generalize run .new fs = r at h hdropped ⊢
  have hs := h.sweep f.now
  have hswept := unharmed_sweep h f.now
  unfold feed at hdropped ⊢
  by_cases hfid : f.fragmentId < f.totalFragments
  · have hpush := push_pushes r f.messageId hfid f.payload f.now
    have hn : f.totalFragments ≠ 0 := by
      intro hzero
      rw [hzero] at hfid
      exact absurd hfid (UInt16.not_lt.mpr UInt16.zero_le)
    rw [hdropped] at hpush
    generalize (r.push f.messageId f.fragmentId f.totalFragments f.payload f.now).2 = r' at hpush ⊢
    cases hpush with
    | mismatched he htotal =>
      refine ⟨fun _ hvain => ?_, fun _ => hswept⟩
      rw [hvain.2.2.1] at he
      cases he
    | overflow he htotal hempty hcap =>
      refine ⟨fun _ hvain => ?_, fun _ => hswept.touch he⟩
      rw [hvain.2.2.1] at he
      cases he
    | orphan he hne =>
      refine ⟨fun _ hvain => hne ?_, fun _ => hswept⟩
      rw [hvain.1]
      rfl
    | tooLong he hzero hcap =>
      exact ⟨fun _ hvain => absurd hcap (Nat.not_lt.mpr hvain.2.2.2.1), fun _ => hswept⟩
    | noSpace he hzero hlen hcap =>
      have hfid0 : f.fragmentId = 0 := UInt16.toNat_inj.mp hzero
      constructor
      · intro hunharmed hvain
        exact harmed_makeRoom h hvain.2.2.2.2.1 hunharmed
      · intro hvain
        rcases makeRoom_eq hs.consistent with ⟨-, heq⟩ | ⟨oldest, hsize, hhead, heq⟩
        · rw [heq]
          exact hswept
        · obtain ⟨e, hin⟩ := Maps.mem_iff.mp ((hs.mem oldest).mp (List.mem_of_head? hhead))
          have htotal := hs.remove_totalBytes hin
          rw [heq] at hcap
          exact absurd ⟨hfid0, hn, he, hlen, hsize, oldest, e, hhead, hin, by omega⟩ hvain
  · rw [push_refused r f.messageId hfid]
    refine ⟨fun _ hvain => hfid ?_, fun _ => ⟨fun id e he _ => ⟨e, he, rfl, rfl⟩, Or.inl rfl⟩⟩
    rw [hvain.1]
    exact UInt16.pos_iff_ne_zero.mpr hvain.2.1

/-- The theorem at a fragment without its head, beside a message that is open. -/
theorem refused_unharmed_orphan :
    ((run .new [⟨1, 0, 2, [7, 8], 0⟩]).feed ⟨5, 1, 2, [9], 0⟩).1 = .dropped ∧
      Unharmed (run .new [⟨1, 0, 2, [7, 8], 0⟩])
        ((run .new [⟨1, 0, 2, [7, 8], 0⟩]).feed ⟨5, 1, 2, [9], 0⟩).2 0 := by
  have hdropped : ((run .new [⟨1, 0, 2, [7, 8], 0⟩]).feed ⟨5, 1, 2, [9], 0⟩).1 = .dropped := by
    decide +kernel
  refine ⟨hdropped, (refused_unharmed_iff _ _ hdropped).mpr ?_⟩
  rintro ⟨hzero, -⟩
  exact absurd hzero (by decide)

/-! ## 2. 64 messages that fill the buffer -/

/-- Fragment 0 of 2, at time 0. -/
def head (id : Nat) (payload : List UInt8) : Push := ⟨UInt64.ofNat id, 0, 2, payload, 0⟩

/-- The messages `0 .. n - 1` have been opened at time 0, with `bytes` bytes, none of them in the
first. -/
structure Opened (n bytes : Nat) (r : MessageReassembler) : Prop where
  sound : r.Sound
  size : r.entries.size = n
  total : r.totalBytes = bytes
  ids : ∀ id : MessageId, id ∈ r.entries → id.toNat < n
  touched : ∀ (id : MessageId) e, r.entries[id]? = some e → e.lastTouch = 0
  light : ∀ oldest, r.order.head? = some oldest → ∃ e, r.entries[oldest]? = some e ∧ e.bytes = 0

theorem Opened.sweep {n bytes : Nat} {r : MessageReassembler} (h : Opened n bytes r) :
    r.sweep 0 = r := by
  have hnone : (r.entries.toList.filter fun e => e.2.stale 0) = [] := by
    refine List.filter_eq_nil_iff.mpr fun e he => ?_
    have htouch := h.touched e.1 e.2 (Std.ExtTreeMap.mem_toList_iff_getElem?_eq_some.mp he)
    rw [Partial.stale, htouch]
    decide
  rw [MessageReassembler.sweep, hnone]
  rfl

theorem Opened.fresh {n bytes : Nat} {r : MessageReassembler} (h : Opened n bytes r)
    (hn : n < 2 ^ 64) : r.entries[UInt64.ofNat n]? = none := by
  refine Maps.not_mem_iff.mp fun hin => ?_
  have hlt := h.ids _ hin
  rw [UInt64.toNat_ofNat_of_lt' hn] at hlt
  omega

theorem Opened.feed {n bytes : Nat} {r : MessageReassembler} (h : Opened n bytes r)
    (hn : n < maxReassemblyMessages) {p : List UInt8} (hp : n = 0 → p = [])
    (hroom : bytes + p.length ≤ maxReassemblyBytes) :
    Opened (n + 1) (bytes + p.length) (r.feed (head n p)).2 := by
  have hbig : n < 2 ^ 64 := hn.trans (by decide)
  have hfresh := h.fresh hbig
  have hspace : r.makeRoom r.order = r := by
    rcases makeRoom_eq h.sound.consistent with ⟨-, heq⟩ | ⟨oldest, hsize, -, -⟩
    · exact heq
    · have hsame := h.size
      omega
  have hfeed : r.feed (head n p) = (.stored, r.openEntry (UInt64.ofNat n) 2 p 0) := by
    have htotal := h.total
    dsimp only [MessageReassembler.feed, head]
    rw [push, if_neg (by decide), if_neg (by decide)]
    dsimp only
    rw [h.sweep, hfresh]
    dsimp only [pushNew]
    rw [if_neg (by decide), if_neg (by omega), hspace, if_neg (by omega), if_neg (by decide)]
    rw [openEntry, hspace]
    rfl
  have hsound := h.sound.openEntry hfresh (n := 2) (by decide) (p := p)
    (by rw [hspace, h.total]; exact hroom) 0
  rw [hfeed]
  rw [openEntry, hspace] at hsound ⊢
  refine ⟨hsound, ?_, ?_, fun id hid => ?_, fun id e he => ?_, fun oldest hhead => ?_⟩
  · rw [Std.ExtTreeMap.size_insert, if_neg, h.size]
    rw [← Std.ExtTreeMap.mem_iff_contains]
    exact Maps.not_mem_iff.mpr hfresh
  · exact congrArg (· + p.length) h.total
  · rcases (Maps.mem_insert _ _ _ _).mp hid with rfl | hid
    · rw [UInt64.toNat_ofNat_of_lt' hbig]
      exact Nat.lt_succ_self n
    · exact (h.ids id hid).trans (Nat.lt_succ_self n)
  · dsimp only at he
    rw [Maps.getElem?_insert] at he
    split at he
    · obtain rfl := Option.some.inj he
      rfl
    · exact h.touched id e he
  · dsimp only at hhead ⊢
    rw [Maps.getElem?_insert]
    cases horder : r.order with
    | nil =>
      -- the first message: there was none before
      have hempty : r.entries.size = 0 := by
        rw [← Std.ExtTreeMap.eq_empty_iff_size_eq_zero,
          Std.ExtTreeMap.eq_empty_iff_forall_not_mem]
        intro id hid
        have hin := (h.sound.mem id).mpr hid
        rw [horder] at hin
        cases hin
      rw [horder] at hhead
      rw [if_pos (Option.some.inj hhead), hp (h.size.symm.trans hempty)]
      exact ⟨_, rfl, rfl⟩
    | cons first rest =>
      rw [horder] at hhead
      obtain ⟨e, he, hlight⟩ := h.light oldest (by rw [horder]; exact hhead)
      rw [if_neg]
      · exact ⟨e, he, hlight⟩
      · rintro rfl
        rw [hfresh] at he
        cases he

theorem opened_heads {n : Nat} (hn : n ≤ maxReassemblyMessages) :
    Opened n 0 (run .new ((List.range n).map fun id => head id [])) := by
  induction n with
  | zero =>
    exact ⟨sound_new, rfl, rfl, fun id hid => absurd hid Std.ExtTreeMap.not_mem_empty,
      fun id e he => by simp [run, new] at he, fun oldest hhead => by cases hhead⟩
  | succ n ih =>
    have hstep := (ih (by omega)).feed (p := []) (by omega) (fun _ => rfl) (Nat.zero_le _)
    rw [List.range_succ, List.map_append, run, List.foldl_append]
    exact hstep

/-- 63 messages without a byte, and one with the payload `p`. -/
def crowded (p : List UInt8) : List Push :=
  (List.range 63).map (fun id => head id []) ++ [head 63 p]

/-- When `p` takes all the buffer, one more byte evicts message 0 and is refused. -/
theorem crowded_evicts {p : List UInt8} (hp : p.length = maxReassemblyBytes) :
    ((run .new (crowded p)).feed (head 64 [0])).1 = .dropped ∧
      ¬ Unharmed (run .new (crowded p)) ((run .new (crowded p)).feed (head 64 [0])).2 0 := by
  have hopened : Opened 64 maxReassemblyBytes (run .new (crowded p)) := by
    have hheads := (opened_heads (n := 63) (by decide)).feed (p := p) (by decide)
      (fun h => absurd h (by decide)) (by omega)
    rw [hp, Nat.zero_add] at hheads
    rw [crowded, run, List.foldl_append]
    exact hheads
  generalize run .new (crowded p) = r at hopened ⊢
  have hfresh := hopened.fresh (by decide)
  have hsweep := hopened.sweep
  have hcap : maxReassemblyBytes < (r.makeRoom r.order).totalBytes + [(0 : UInt8)].length := by
    rcases makeRoom_eq hopened.sound.consistent with ⟨hlt, -⟩ | ⟨oldest, -, hhead, heq⟩
    · rw [hopened.size] at hlt
      exact absurd hlt (by decide)
    · obtain ⟨e, he, hlight⟩ := hopened.light oldest hhead
      have hleft := hopened.sound.remove_totalBytes he
      have htotal := hopened.total
      rw [heq, List.length_singleton]
      omega
  have hfeed : r.feed (head 64 [0]) = (.dropped, r.makeRoom r.order) := by
    dsimp only [MessageReassembler.feed, head]
    rw [push, if_neg (by decide), if_neg (by decide)]
    dsimp only
    rw [hsweep, hfresh]
    dsimp only [pushNew]
    rw [if_neg (by decide), if_neg (by decide), if_pos hcap]
  rw [hfeed]
  have hharmed := @harmed_makeRoom r hopened.sound 0 (by rw [hsweep, hopened.size]; rfl)
  rw [hsweep] at hharmed
  exact ⟨rfl, hharmed⟩

/-- **A refused fragment that evicts.**  63 messages without a byte, one that takes the whole
buffer, and a 65th of one byte: message 0 is evicted for it, and then it is refused. -/
theorem refused_evicts :
    ((run .new (crowded (List.replicate maxReassemblyBytes 0))).feed (head 64 [0])).1 = .dropped ∧
      ¬ Unharmed (run .new (crowded (List.replicate maxReassemblyBytes 0)))
        ((run .new (crowded (List.replicate maxReassemblyBytes 0))).feed (head 64 [0])).2 0 :=
  crowded_evicts List.length_replicate

end MessageReassembler

end Gtp
