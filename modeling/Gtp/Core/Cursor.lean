/-
# One ordered group, over any sequence of calls

The numbers of a group are counted modulo `2 ^ 32`, and its buffer is ordered by the plain number.
What makes the two agree is that the buffer holds numbers strictly ahead of the cursor and less than
half the space away (`Ordered`): there a number stands for one position of the stream, the number of
payloads released so far plus the distance from the cursor.

Along with it goes what the calls so far say about each position: the payload that is released or
buffered there is that of the first call since the number came to lie ahead of the cursor that was
not refused (`First`), and a position that is neither has seen refusals only (`Unheard`).

* `onIncoming_arrives` lists what one call can do, `drain_drained` what the loop behind it does.
* `Streams` is the invariant over calls, `Streams.snoc` one call more.
* `ordered_group_stream` is what a reader of the group wants to know, for every start of the cursor.

A number comes round after `2 ^ 32` releases, and is another position then: `First` and `Unheard`
begin to count when less than half the space is left to the position.  That a late call for an old
number is stale until then is part of the same statement.
-/
import Gtp.Core.Groups
import Mathlib.Data.List.Induction

namespace Gtp

/-! ## 1. Distances on the circle -/

/-- A position less than a lap ahead is told by the distance. -/
theorem toNat_sub_position (start : UInt32) {d i : Nat} (hle : d ≤ i) (hlt : i < d + 2 ^ 32) :
    ((start + UInt32.ofNat i) - (start + UInt32.ofNat d)).toNat = i - d := by
  simp only [UInt32.toNat_sub, UInt32.toNat_add, UInt32.toNat_ofNat']
  omega

theorem add_toNat_sub (k n : UInt32) : n + UInt32.ofNat (k - n).toNat = k := by
  apply UInt32.toNat_inj.mp
  have hk := k.toNat_lt
  have hn := n.toNat_lt
  simp only [UInt32.toNat_sub, UInt32.toNat_add, UInt32.toNat_ofNat']
  omega

theorem toNat_sub_pos {k n : UInt32} (h : k ≠ n) : 0 < (k - n).toNat := by
  refine Nat.pos_of_ne_zero fun hzero => h ?_
  have hk := add_toNat_sub k n
  rw [hzero] at hk
  exact hk.symm.trans (UInt32.add_zero n)

theorem toNat_sub_succ {k n : UInt32} (h : 0 < (k - n).toNat) :
    (k - (n + 1)).toNat = (k - n).toNat - 1 := by
  have hk := k.toNat_lt
  have hn := n.toNat_lt
  simp only [UInt32.toNat_sub, UInt32.toNat_add, UInt32.toNat_one] at h ⊢
  omega

theorem add_ofNat_succ (n : UInt32) (i : Nat) :
    n + UInt32.ofNat (i + 1) = n + 1 + UInt32.ofNat i := by
  rw [UInt32.ofNat_add, UInt32.add_comm (UInt32.ofNat i), ← UInt32.add_assoc]
  rfl

namespace OrderedGroupReceiver

theorem seqIsStale_iff {q n : UInt32} : seqIsStale q n = true ↔ 2 ^ 31 ≤ (q - n).toNat := by
  unfold seqIsStale
  rw [Bool.and_eq_true, decide_eq_true_eq, decide_eq_true_eq, UInt32.le_iff_toNat_le]
  constructor
  · exact fun h => h.1
  · intro h
    refine ⟨h, fun hzero => ?_⟩
    rw [hzero] at h
    exact absurd h (by decide)

/-! ## 2. The buffer -/

/-- **The invariant of a group.**  What is buffered is strictly ahead of the cursor, less than half
the space away; the counter is exact; both caps hold. -/
structure Ordered (g : OrderedGroupReceiver) : Prop where
  ahead : ∀ k m, g.reorderBuffer[k]? = some m →
    0 < (k - g.nextExpected).toNat ∧ (k - g.nextExpected).toNat < 2 ^ 31
  bytes : g.currentBufferBytes = Maps.total List.length g.reorderBuffer
  byteCap : g.currentBufferBytes ≤ g.maxBufferBytes
  itemCap : g.reorderBuffer.size ≤ g.maxBufferItems

/-- What the drain leaves of a group: a run of consecutive numbers from the cursor on is handed
over, and the cursor stands at a number that is not buffered. -/
structure Drained (g g' : OrderedGroupReceiver) (ready : List (UInt32 × List UInt8)) : Prop where
  next : g'.nextExpected = g.nextExpected + UInt32.ofNat ready.length
  handed : ∀ i k m, ready[i]? = some (k, m) →
    k = g.nextExpected + UInt32.ofNat i ∧ g.reorderBuffer[k]? = some m
  sub : ∀ k m, g'.reorderBuffer[k]? = some m → g.reorderBuffer[k]? = some m ∧
    ready.length + (k - g'.nextExpected).toNat = (k - g.nextExpected).toNat
  stops : g'.reorderBuffer[g'.nextExpected]? = none
  maxBytes : g'.maxBufferBytes = g.maxBufferBytes
  maxItems : g'.maxBufferItems = g.maxBufferItems
  count : g'.reorderBuffer.size + ready.length = g.reorderBuffer.size
  bytes : g.currentBufferBytes = Maps.total List.length g.reorderBuffer →
    g'.currentBufferBytes = Maps.total List.length g'.reorderBuffer ∧
      g'.currentBufferBytes ≤ g.currentBufferBytes

theorem drained_nil {g : OrderedGroupReceiver} (h : g.reorderBuffer[g.nextExpected]? = none) :
    Drained g g [] where
  next := (UInt32.add_zero _).symm
  handed i k m hm := by cases hm
  sub k m hm := ⟨hm, Nat.zero_add _⟩
  stops := h
  maxBytes := rfl
  maxItems := rfl
  count := rfl
  bytes hexact := ⟨hexact, Nat.le_refl _⟩

/-- **The drain loop**, with a turn for every entry. -/
theorem drain_drained (fuel : Nat) {g : OrderedGroupReceiver}
    (hfuel : g.reorderBuffer.size ≤ fuel) :
    Drained g (drain g fuel).1 (drain g fuel).2 := by
  induction fuel generalizing g with
  | zero =>
    refine drained_nil ?_
    have hempty := Std.ExtTreeMap.eq_empty_iff_size_eq_zero.mpr (Nat.le_zero.mp hfuel)
    rw [hempty]
    exact Std.ExtTreeMap.getElem?_empty
  | succ fuel ih =>
    rw [drain]
    split
    · rename_i hnone
      exact drained_nil hnone
    · rename_i buffered hsome
      dsimp only
      generalize hg' : ({ g with
        reorderBuffer := g.reorderBuffer.erase g.nextExpected
        currentBufferBytes := g.currentBufferBytes - buffered.length
        nextExpected := g.nextExpected + 1 } : OrderedGroupReceiver) = g'
      have hbuf : g'.reorderBuffer = g.reorderBuffer.erase g.nextExpected := by rw [← hg']
      have hnext : g'.nextExpected = g.nextExpected + 1 := by rw [← hg']
      have hcount : g'.currentBufferBytes = g.currentBufferBytes - buffered.length := by rw [← hg']
      have hin : g.nextExpected ∈ g.reorderBuffer := Maps.mem_iff.mpr ⟨buffered, hsome⟩
      have hsize : g'.reorderBuffer.size = g.reorderBuffer.size - 1 := by
        rw [hbuf, Maps.size_erase_of_mem hin]
      have hback : ∀ k m, g'.reorderBuffer[k]? = some m →
          g.nextExpected ≠ k ∧ g.reorderBuffer[k]? = some m := by
        intro k m h
        rw [hbuf, Maps.getElem?_erase] at h
        split at h
        · cases h
        · rename_i hne
          exact ⟨hne, h⟩
      obtain ⟨hn, hready, hsub, hstops, hmb, hmi, hsz, hbytes⟩ := ih (g := g') (by omega)
      refine ⟨?_, fun i k m h => ?_, fun k m h => ?_, hstops, ?_, ?_, ?_, fun hexact => ?_⟩
      · rw [hn, hnext, List.length_cons, add_ofNat_succ]
      · cases i with
        | zero =>
          obtain ⟨rfl, rfl⟩ := Prod.mk.inj (Option.some.inj h)
          exact ⟨(UInt32.add_zero _).symm, hsome⟩
        | succ i =>
          obtain ⟨hk, hm⟩ := hready i k m h
          exact ⟨by rw [hk, hnext, add_ofNat_succ], (hback k m hm).2⟩
      · obtain ⟨hm, hdist⟩ := hsub k m h
        obtain ⟨hne, hm⟩ := hback k m hm
        rw [hnext, toNat_sub_succ (toNat_sub_pos hne.symm)] at hdist
        have hpos := toNat_sub_pos hne.symm
        exact ⟨hm, by rw [List.length_cons]; omega⟩
      · rw [hmb, ← hg']
      · rw [hmi, ← hg']
      · have hone : 0 < g.reorderBuffer.size := by
          refine Nat.pos_of_ne_zero fun hzero => ?_
          rw [Std.ExtTreeMap.eq_empty_iff_size_eq_zero.mpr hzero] at hin
          exact Std.ExtTreeMap.not_mem_empty hin
        rw [List.length_cons]
        omega
      · have herase := Maps.total_erase hsome List.length
        obtain ⟨hexact', hle⟩ := hbytes (by rw [hcount, hbuf]; omega)
        exact ⟨hexact', by omega⟩

/-- What a call can do, with the distance of its number from the cursor. -/
inductive Arrives (g : OrderedGroupReceiver) (q : UInt32) (m : List UInt8) :
    Result (List (UInt32 × List UInt8)) → OrderedGroupReceiver → Prop
  | behind (h : 2 ^ 31 ≤ (q - g.nextExpected).toNat) : Arrives g q m (.ok []) g
  | next {g' : OrderedGroupReceiver} {ready : List (UInt32 × List UInt8)} (h : q = g.nextExpected)
      (hdrain : Drained { g with nextExpected := q + 1 } g' ready)
      (hkeeps : ∀ k p, g.Holds k p → g'.Holds k p ∨ (k, p) ∈ ready) :
      Arrives g q m (.ok ((q, m) :: ready)) g'
  | refused {e : TransportError} : Arrives g q m (.error e) g
  | repeated (h : q ∈ g.reorderBuffer) : Arrives g q m (.ok []) g
  | buffered (hne : q ≠ g.nextExpected) (hlt : (q - g.nextExpected).toNat < 2 ^ 31)
      (hitems : g.reorderBuffer.size + 1 ≤ g.maxBufferItems)
      (hbytes : g.currentBufferBytes + m.length ≤ g.maxBufferBytes) (hout : q ∉ g.reorderBuffer) :
      Arrives g q m (.ok [])
        { g with
          currentBufferBytes := g.currentBufferBytes + m.length
          reorderBuffer := g.reorderBuffer.insert q m }

/-- **Every call.** -/
theorem onIncoming_arrives (g : OrderedGroupReceiver) (q : UInt32) (m : List UInt8) :
    Arrives g q m (g.onIncoming q m).1 (g.onIncoming q m).2 := by
  unfold onIncoming
  split
  · rename_i hstale
    exact .behind (seqIsStale_iff.mp hstale)
  · rename_i hahead
    rw [seqIsStale_iff, Nat.not_le] at hahead
    split
    · rename_i hnext
      rw [← hnext]
      exact .next hnext (drain_drained _ (Nat.le_refl g.reorderBuffer.size))
        fun k p hheld => drain_keeps _ hheld
    · rename_i hnext
      split
      · exact .refused
      · rename_i hitems
        split
        · exact .refused
        · rename_i hbytes
          split
          · rename_i hin
            exact .repeated hin
          · rename_i hout
            exact .buffered hnext hahead (Nat.not_lt.mp hitems) (Nat.not_lt.mp hbytes) hout

theorem Ordered.arrives {g g' : OrderedGroupReceiver} {q : UInt32} {m : List UInt8}
    {res : Result (List (UInt32 × List UInt8))} (h : g.Ordered) (hin : Arrives g q m res g') :
    g'.Ordered := by
  cases hin with
  | behind hbehind => exact h
  | next hnext hdrain hkeeps =>
    obtain ⟨hbytes, hle⟩ := hdrain.bytes h.bytes
    refine ⟨fun k p hp => ?_, hbytes, ?_, ?_⟩
    · obtain ⟨hp', hdist⟩ := hdrain.sub k p hp
      obtain ⟨hpos, hlt⟩ := h.ahead k p hp'
      have hne : k ≠ g'.nextExpected := by
        rintro rfl
        rw [hdrain.stops] at hp
        cases hp
      dsimp only at hdist
      rw [hnext, toNat_sub_succ hpos] at hdist
      exact ⟨toNat_sub_pos hne, by omega⟩
    · rw [hdrain.maxBytes]
      exact hle.trans h.byteCap
    · rw [hdrain.maxItems]
      have hcount := hdrain.count
      exact (Nat.le_add_right _ _).trans (hcount.le.trans h.itemCap)
  | refused => exact h
  | repeated hmem => exact h
  | buffered hne hlt hitems hbytes hout =>
    refine ⟨fun k p hp => ?_, ?_, hbytes, Nat.le_trans Std.ExtTreeMap.size_insert_le hitems⟩
    · dsimp only at hp
      rw [Maps.getElem?_insert] at hp
      split at hp
      · rename_i hk
        exact hk ▸ ⟨toNat_sub_pos hne, hlt⟩
      · exact h.ahead k p hp
    · rw [Maps.total_insert hout, h.bytes]
      exact Nat.add_comm _ _

/-! ## 3. Calls -/

/-- A call of `on_incoming`. -/
abbrev Call := UInt32 × List UInt8

/-- `OrderedGroupReceiver::new`, with the cursor at `start`. -/
def startingAt (groupId : OrderedGroupId) (start : UInt32) : OrderedGroupReceiver :=
  { new groupId with nextExpected := start }

/-- The group after a sequence of calls. -/
def after (g : OrderedGroupReceiver) (calls : List Call) : OrderedGroupReceiver :=
  calls.foldl (fun g c => (g.onIncoming c.1 c.2).2) g

/-- The list a call returns. -/
def returned (g : OrderedGroupReceiver) (c : Call) : List (UInt32 × List UInt8) :=
  match (g.onIncoming c.1 c.2).1 with
  | .ok ready => ready
  | .error _ => []

/-- The concatenation of all returned lists. -/
def released : OrderedGroupReceiver → List Call → List (UInt32 × List UInt8)
  | _, [] => []
  | g, c :: calls => g.returned c ++ released (g.onIncoming c.1 c.2).2 calls

/-- The call returns an error. -/
def Refuses (g : OrderedGroupReceiver) (c : Call) : Prop := ∃ e, (g.onIncoming c.1 c.2).1 = .error e

/-- Every call for the number at position `i`, since it came to lie ahead of the cursor, was
refused.  The number lies ahead from when less than half the space is left to it. -/
def Unheard (g : OrderedGroupReceiver) (calls : List Call) (i : Nat) : Prop :=
  ∀ before m rest, calls = before ++ (g.nextExpected + UInt32.ofNat i, m) :: rest →
    i < (released g before).length + 2 ^ 31 →
    (g.after before).Refuses (g.nextExpected + UInt32.ofNat i, m)

/-- `m` is the payload of the first call for the number at position `i`, since it came to lie ahead
of the cursor, that was not refused. -/
def First (g : OrderedGroupReceiver) (calls : List Call) (i : Nat) (m : List UInt8) : Prop :=
  ∃ before rest, calls = before ++ (g.nextExpected + UInt32.ofNat i, m) :: rest ∧
    (released g before).length ≤ i ∧ i < (released g before).length + 2 ^ 31 ∧
    ¬ (g.after before).Refuses (g.nextExpected + UInt32.ofNat i, m) ∧ Unheard g before i

theorem after_append (g : OrderedGroupReceiver) (calls calls' : List Call) :
    g.after (calls ++ calls') = (g.after calls).after calls' := List.foldl_append ..

theorem released_append (g : OrderedGroupReceiver) (calls calls' : List Call) :
    released g (calls ++ calls') = released g calls ++ released (g.after calls) calls' := by
  induction calls generalizing g with
  | nil => rfl
  | cons c calls ih =>
    rw [List.cons_append, released, released, ih, List.append_assoc]
    rfl

theorem released_snoc (g : OrderedGroupReceiver) (calls : List Call) (c : Call) :
    released g (calls ++ [c]) = released g calls ++ (g.after calls).returned c := by
  rw [released_append]
  exact congrArg _ (List.append_nil _)

section Position

variable {g : OrderedGroupReceiver} {calls : List Call} {c : Call} {i : Nat} {m : List UInt8}

theorem First.snoc (h : First g calls i m) (c : Call) : First g (calls ++ [c]) i m := by
  obtain ⟨before, rest, rfl, hfacts⟩ := h
  exact ⟨before, rest ++ [c], by rw [List.append_assoc]; rfl, hfacts⟩

/-- One call more, which is refused or not about this position. -/
theorem Unheard.snoc (h : Unheard g calls i)
    (hc : c.1 = g.nextExpected + UInt32.ofNat i → i < (released g calls).length + 2 ^ 31 →
      (g.after calls).Refuses c) : Unheard g (calls ++ [c]) i := by
  intro before m rest hsplit hlt
  rcases List.eq_nil_or_concat rest with rfl | ⟨rest', last, rfl⟩
  · obtain ⟨rfl, hlast⟩ := List.append_inj' hsplit rfl
    obtain rfl := List.head_eq_of_cons_eq hlast
    exact hc rfl hlt
  · rw [List.concat_eq_append, ← List.cons_append, ← List.append_assoc] at hsplit
    exact h before m rest' (List.append_inj' hsplit rfl).1 hlt

theorem Unheard.first (h : Unheard g calls i) (hle : (released g calls).length ≤ i)
    (hlt : i < (released g calls).length + 2 ^ 31)
    (hm : ¬ (g.after calls).Refuses (g.nextExpected + UInt32.ofNat i, m)) :
    First g (calls ++ [(g.nextExpected + UInt32.ofNat i, m)]) i m :=
  ⟨calls, [], rfl, hle, hlt, hm, h⟩

end Position

/-! ## 4. The stream -/

/-- **The invariant of a sequence of calls.**  The cursor is as many numbers on as were released;
what was released is consecutive and first heard; what is buffered is first heard at its position;
the other positions ahead are unheard. -/
structure Streams (g : OrderedGroupReceiver) (calls : List Call) : Prop where
  ordered : (g.after calls).Ordered
  caps : (g.after calls).maxBufferItems = 1024 ∧ (g.after calls).maxBufferBytes = 256 * 1024
  cursor : (g.after calls).nextExpected =
    g.nextExpected + UInt32.ofNat (released g calls).length
  stream : ∀ i k m, (released g calls)[i]? = some (k, m) →
    k = g.nextExpected + UInt32.ofNat i ∧ First g calls i m
  buffered : ∀ k m, (g.after calls).reorderBuffer[k]? = some m →
    First g calls ((released g calls).length + (k - (g.after calls).nextExpected).toNat) m
  unheard : ∀ i, (released g calls).length ≤ i → (i < (released g calls).length + 2 ^ 31 →
    (g.after calls).reorderBuffer[g.nextExpected + UInt32.ofNat i]? = none) → Unheard g calls i

theorem streams_nil (groupId : OrderedGroupId) (start : UInt32) :
    Streams (startingAt groupId start) [] where
  ordered :=
    ⟨fun k m h => by simp [after, startingAt, new] at h, (Maps.total_empty _).symm, Nat.zero_le _,
      Nat.zero_le _⟩
  caps := ⟨rfl, rfl⟩
  cursor := (UInt32.add_zero _).symm
  stream i k m h := by cases h
  buffered k m h := by simp [after, startingAt, new] at h
  unheard i _ _ before m rest h := by
    cases before with
    | nil => cases h
    | cons b before => cases h

theorem Streams.quiet {g : OrderedGroupReceiver} {calls : List Call} (h : Streams g calls)
    {c : Call} (hafter : g.after (calls ++ [c]) = g.after calls)
    (hreleased : released g (calls ++ [c]) = released g calls)
    (hunheard : ∀ i, (released g calls).length ≤ i → i < (released g calls).length + 2 ^ 31 →
      (g.after calls).reorderBuffer[g.nextExpected + UInt32.ofNat i]? = none →
      c.1 = g.nextExpected + UInt32.ofNat i → (g.after calls).Refuses c) :
    Streams g (calls ++ [c]) := by
  refine ⟨?_, ?_, ?_, fun i k m hm => ?_, fun k m hm => ?_, fun i hle hnone => ?_⟩
  · exact hafter ▸ h.ordered
  · exact hafter ▸ h.caps
  · rw [hafter, hreleased]
    exact h.cursor
  · rw [hreleased] at hm
    exact ⟨(h.stream i k m hm).1, (h.stream i k m hm).2.snoc c⟩
  · rw [hafter] at hm ⊢
    rw [hreleased]
    exact (h.buffered k m hm).snoc c
  · rw [hreleased] at hle hnone
    rw [hafter] at hnone
    exact (h.unheard i hle hnone).snoc fun hc hlt => hunheard i hle hlt (hnone hlt) hc

theorem Streams.distance {g : OrderedGroupReceiver} {calls : List Call} (h : Streams g calls)
    {i : Nat} (hle : (released g calls).length ≤ i) (hlt : i < (released g calls).length + 2 ^ 31) :
    (g.nextExpected + UInt32.ofNat i - (g.after calls).nextExpected).toNat =
      i - (released g calls).length := by
  rw [h.cursor]
  exact toNat_sub_position _ hle (by omega)

/-- The number of a call is at its distance from the cursor. -/
theorem Streams.position {g : OrderedGroupReceiver} {calls : List Call} (h : Streams g calls)
    (q : UInt32) : q = g.nextExpected + UInt32.ofNat
      ((released g calls).length + (q - (g.after calls).nextExpected).toNat) := by
  have hq := add_toNat_sub q (g.after calls).nextExpected
  rw [UInt32.ofNat_add, ← UInt32.add_assoc, ← h.cursor]
  exact hq.symm

/-- A call for the next number, and the drain behind it. -/
theorem Streams.drains {g g' : OrderedGroupReceiver} {calls : List Call} (h : Streams g calls)
    {m : List UInt8} {ready : List (UInt32 × List UInt8)}
    (hin : Arrives (g.after calls) (g.after calls).nextExpected m
      (.ok (((g.after calls).nextExpected, m) :: ready)) g')
    (hdrain : Drained
      { g.after calls with nextExpected := (g.after calls).nextExpected + 1 } g' ready)
    (hkeeps : ∀ k p, (g.after calls).Holds k p → g'.Holds k p ∨ (k, p) ∈ ready)
    (hafter : g.after (calls ++ [((g.after calls).nextExpected, m)]) = g')
    (hreleased : released g (calls ++ [((g.after calls).nextExpected, m)]) =
      released g calls ++ ((g.after calls).nextExpected, m) :: ready)
    (hok : ¬ (g.after calls).Refuses ((g.after calls).nextExpected, m)) :
    Streams g (calls ++ [((g.after calls).nextExpected, m)]) := by
  have hitems : ready.length < 2 ^ 31 := by
    have hcount := hdrain.count
    have hcap := h.ordered.itemCap
    have hlimit := h.caps.1
    dsimp only at hcount
    omega
  have hcursor := h.cursor
  have hlength : (released g (calls ++ [((g.after calls).nextExpected, m)])).length =
      (released g calls).length + (ready.length + 1) := by
    rw [hreleased, List.length_append, List.length_cons]
  -- the number behind the cursor by `j + 1`
  have hplace : ∀ j, (g.after calls).nextExpected + 1 + UInt32.ofNat j =
      g.nextExpected + UInt32.ofNat ((released g calls).length + (j + 1)) := by
    intro j
    rw [← add_ofNat_succ, UInt32.ofNat_add (released g calls).length, ← UInt32.add_assoc, ← hcursor]
  have hfirst :
      First g (calls ++ [((g.after calls).nextExpected, m)]) (released g calls).length m := by
    have hnone : (g.after calls).reorderBuffer[(g.after calls).nextExpected]? = none := by
      cases hget : (g.after calls).reorderBuffer[(g.after calls).nextExpected]? with
      | none => rfl
      | some p =>
        have hpos := (h.ordered.ahead _ p hget).1
        rw [UInt32.sub_self] at hpos
        exact absurd hpos (by decide)
    rw [hcursor] at hok hnone ⊢
    exact (h.unheard _ (Nat.le_refl _) fun _ => hnone).first (Nat.le_refl _) (by omega) hok
  refine ⟨?_, ?_, ?_, fun i k p hp => ?_, fun k p hp => ?_, fun i hle hnone => ?_⟩
  · rw [hafter]
    exact h.ordered.arrives hin
  · rw [hafter, hdrain.maxItems, hdrain.maxBytes]
    exact h.caps
  · rw [hafter, hdrain.next, hlength]
    exact hplace ready.length
  · -- released before, now, or out of the buffer
    rw [hreleased] at hp
    rcases Nat.lt_trichotomy i (released g calls).length with hlt | rfl | hgt
    · rw [List.getElem?_append_left hlt] at hp
      exact ⟨(h.stream i k p hp).1, (h.stream i k p hp).2.snoc _⟩
    · rw [List.getElem?_append_right (Nat.le_refl _), Nat.sub_self] at hp
      obtain ⟨rfl, rfl⟩ := Prod.mk.inj (Option.some.inj hp)
      exact ⟨hcursor, hfirst⟩
    · obtain ⟨j, rfl⟩ : ∃ j, i = (released g calls).length + (j + 1) :=
        ⟨i - (released g calls).length - 1, by omega⟩
      rw [List.getElem?_append_right (by omega), Nat.add_sub_cancel_left,
        List.getElem?_cons_succ] at hp
      have hj : j < ready.length := (List.getElem?_eq_some_iff.mp hp).1
      obtain ⟨hk, hheld⟩ := hdrain.handed j k p hp
      have hk' := hk.trans (hplace j)
      refine ⟨hk', ?_⟩
      have hbuffered := h.buffered k p hheld
      rw [hk', h.distance (by omega) (by omega)] at hbuffered
      rw [show (released g calls).length + ((released g calls).length + (j + 1) -
        (released g calls).length) = (released g calls).length + (j + 1) by omega] at hbuffered
      exact hbuffered.snoc _
  · rw [hafter] at hp ⊢
    obtain ⟨hheld, hdist⟩ := hdrain.sub k p hp
    have hpos := (h.ordered.ahead k p hheld).1
    dsimp only at hdist
    rw [toNat_sub_succ hpos] at hdist
    have hbuffered := (h.buffered k p hheld).snoc ((g.after calls).nextExpected, m)
    rw [hlength, show (released g calls).length + (ready.length + 1) + (k - g'.nextExpected).toNat =
      (released g calls).length + (k - (g.after calls).nextExpected).toNat by omega]
    exact hbuffered
  · rw [hlength] at hle hnone
    rw [hafter] at hnone
    refine (h.unheard i (by omega) fun hlt => ?_).snoc fun hc hlt => ?_
    · -- had it been buffered, it would have been drained
      cases hget : (g.after calls).reorderBuffer[g.nextExpected + UInt32.ofNat i]? with
      | none => rfl
      | some p =>
        rcases hkeeps _ p hget with hheld | hmem
        · have hgone := hnone (by omega)
          rw [hheld] at hgone
          cases hgone
        · obtain ⟨j, hj, hget'⟩ := List.getElem_of_mem hmem
          have hplaced := (hdrain.handed j _ p (by rw [List.getElem?_eq_getElem hj, hget'])).1
          have hsame := h.distance (by omega) hlt
          rw [hplaced.trans (hplace j), h.distance (by omega) (by omega)] at hsame
          omega
    · have hsame := h.distance (by omega) hlt
      rw [← hc, UInt32.sub_self] at hsame
      have hzero : (0 : UInt32).toNat = 0 := rfl
      omega

/-- **One call more.** -/
theorem Streams.snoc {g : OrderedGroupReceiver} {calls : List Call} (h : Streams g calls)
    (c : Call) : Streams g (calls ++ [c]) := by
  obtain ⟨q, m⟩ := c
  have hafter : g.after (calls ++ [(q, m)]) = ((g.after calls).onIncoming q m).2 :=
    after_append g calls [(q, m)]
  have hreleased := released_snoc g calls (q, m)
  have hin := (g.after calls).onIncoming_arrives q m
  have hrefuses : ∀ ready, ((g.after calls).onIncoming q m).1 = .ok ready →
      ¬ (g.after calls).Refuses (q, m) := by
    rintro ready hok ⟨e, herr⟩
    rw [hok] at herr
    cases herr
  have herror : ∀ e, ((g.after calls).onIncoming q m).1 = .error e →
      (g.after calls).Refuses (q, m) := fun e herr => ⟨e, herr⟩
  unfold returned at hreleased
  dsimp only at hreleased
  generalize (g.after calls).onIncoming q m = out at hafter hreleased hin hrefuses herror
  obtain ⟨res, g'⟩ := out
  dsimp only at hafter hreleased hin hrefuses herror
  have horder := h.ordered.arrives hin
  cases hin with
  | behind hbehind =>
    refine h.quiet hafter (hreleased.trans (List.append_nil _)) fun i hle hlt _ hc => ?_
    have hdist := h.distance hle hlt
    dsimp only at hc
    rw [← hc] at hdist
    omega
  | next hnext hdrain hkeeps =>
    subst hnext
    exact h.drains (.next rfl hdrain hkeeps) hdrain hkeeps hafter hreleased (hrefuses _ rfl)
  | refused =>
    exact h.quiet hafter (hreleased.trans (List.append_nil _)) fun i _ _ _ _ => herror _ rfl
  | repeated hmem =>
    refine h.quiet hafter (hreleased.trans (List.append_nil _)) fun i _ _ hnone hc => ?_
    dsimp only at hc
    rw [← hc] at hnone
    exact absurd hmem (Maps.not_mem_iff.mpr hnone)
  | buffered hne hlt hitems hbytes hout =>
    have hrel := hreleased.trans (List.append_nil _)
    have hplace := h.position q
    have hnone := Maps.not_mem_iff.mp hout
    generalize hi :
      (released g calls).length + (q - (g.after calls).nextExpected).toNat = i at hplace
    have hunheard := h.unheard i (by omega) fun _ => by rw [← hplace]; exact hnone
    have hfirst : First g (calls ++ [(q, m)]) i m := by
      have hok := hrefuses _ rfl
      rw [hplace] at hok ⊢
      exact hunheard.first (by omega) (by omega) hok
    refine ⟨?_, ?_, ?_, fun j k p hp => ?_, fun k p hp => ?_, fun j hle hfree => ?_⟩
    · rw [hafter]
      exact horder
    · rw [hafter]
      exact h.caps
    · rw [hafter, hrel]
      exact h.cursor
    · rw [hrel] at hp
      exact ⟨(h.stream j k p hp).1, (h.stream j k p hp).2.snoc _⟩
    · rw [hafter] at hp ⊢
      rw [hrel]
      dsimp only at hp ⊢
      rw [Maps.getElem?_insert] at hp
      split at hp
      · rename_i hk
        obtain rfl := Option.some.inj hp
        rw [← hk, hi]
        exact hfirst
      · exact (h.buffered k p hp).snoc _
    · rw [hrel] at hle hfree
      rw [hafter] at hfree
      dsimp only at hfree
      refine (h.unheard j hle fun hlt => ?_).snoc fun hc hlt => ?_
      · have hget := hfree hlt
        rw [Maps.getElem?_insert] at hget
        split at hget
        · cases hget
        · exact hget
      · have hget := hfree hlt
        dsimp only at hc
        rw [Maps.getElem?_insert, if_pos hc] at hget
        cases hget

theorem streams (groupId : OrderedGroupId) (start : UInt32) (calls : List Call) :
    Streams (startingAt groupId start) calls := by
  induction calls using List.reverseRecOn with
  | nil => exact streams_nil groupId start
  | append_singleton calls c ih => exact ih.snoc c

theorem refused_unchanged {g : OrderedGroupReceiver} {c : Call} (h : g.Refuses c) :
    (g.onIncoming c.1 c.2).2 = g := by
  obtain ⟨e, herr⟩ := h
  have hin := g.onIncoming_arrives c.1 c.2
  rw [herr] at hin
  generalize (g.onIncoming c.1 c.2).2 = g' at hin ⊢
  cases hin with
  | refused => rfl

/-- **One ordered group.**  For every start of the cursor and every sequence of calls: what is
returned carries the numbers from the start on, one after the other modulo `2 ^ 32`, each with the
payload of the first call that was not refused since the number came to lie ahead of the cursor;
what is buffered is ahead of the cursor, by less than half the space; the counter of bytes is exact
and both caps hold; and a call that returns an error leaves the group unchanged. -/
theorem ordered_group_stream (groupId : OrderedGroupId) (start : UInt32) (calls : List Call) :
    let g := startingAt groupId start
    let g' := g.after calls
    (released g calls).map Prod.fst =
        (List.range (released g calls).length).map (fun i => start + UInt32.ofNat i) ∧
      (∀ i k m, (released g calls)[i]? = some (k, m) → First g calls i m) ∧
      (∀ k m, g'.reorderBuffer[k]? = some m →
        0 < (k - g'.nextExpected).toNat ∧ (k - g'.nextExpected).toNat < 2 ^ 31) ∧
      g'.currentBufferBytes = Maps.total List.length g'.reorderBuffer ∧
      g'.currentBufferBytes ≤ 256 * 1024 ∧ g'.reorderBuffer.size ≤ 1024 ∧
      ∀ c, g'.Refuses c → (g'.onIncoming c.1 c.2).2 = g' := by
  have h := streams groupId start calls
  have hbytes := h.ordered.byteCap
  have hitems := h.ordered.itemCap
  rw [h.caps.2] at hbytes
  rw [h.caps.1] at hitems
  refine ⟨?_, fun i k m hm => (h.stream i k m hm).2, h.ordered.ahead, h.ordered.bytes, hbytes,
    hitems, fun c hc => refused_unchanged hc⟩
  apply List.ext_getElem?
  intro i
  rw [List.getElem?_map, List.getElem?_map]
  by_cases hi : i < (released (startingAt groupId start) calls).length
  · have hget := List.getElem?_eq_getElem hi
    rw [hget, List.getElem?_range hi]
    exact congrArg some (h.stream i _ _ hget).1
  · rw [List.getElem?_eq_none (Nat.not_lt.mp hi), List.getElem?_eq_none (by simpa using hi)]
    rfl

end OrderedGroupReceiver

end Gtp
