/-
# What the freshness table forgets

The freshness table of the receiver and the state table of the sender are bounded alike: a key is
forgotten when 4096 others have been taken in after it, and an update of it is new to both ends
then, whatever its sequence.  So an application that comes back to a key after that many others gets
an old update through (`stale_again`).

The run is too long to be evaluated.  The sender's part is a feed of updates, each in a datagram of
its own (`updates_packets`), and at both ends the tables go through the same states.

* `Vacant` is what the sender looks at between two updates, as `Steady` is in `Gtp.Core.Burst`.
* `handedOver_updateFrames`: updates that the table admits are all handed over by the receiver, in
  any number.
* `crowd` is the feed, `crowd_admitted` the one step where the full table forgets its first key.

The second part of `stale_again` is another gap: an update whose key, generation and sequence are
all zero is handed over whatever the table has of the key, since a plain message looks like it.

What is said of an update that is newer, or of a key that is not forgotten, is in
`Gtp.Core.Freshness`.
-/
import Gtp.Core.Freshness
import Gtp.Core.Repeats

namespace Gtp

open Frame
open Feed (Stamp Newer keyAt)
open StateTable (Refresh)

/-! ## 1. The sender -/

namespace GameScheduler

/-- An item alone in tier 2 that costs nothing is handed out. -/
theorem popNext_alone {s : GameScheduler} {item : SchedulableItem} {now : MonotonicTime}
    (hothers : ∀ t ≠ 2, s.queues t = []) (hitem : s.queues 2 = [item])
    (hlive : item.isExpired now = false) (htier : item.priority.idx = 2)
    (hsize : item.sizeBytes = 0) {budget : Nat} (hpos : budget ≠ 0) :
    (s.popNext budget now).1 = some item ∧ ∀ t, (s.popNext budget now).2.queues t = [] := by
  have htiers : ∀ t, ∀ x ∈ s.queues t, x.priority.idx = t := by
    intro t x hx
    by_cases ht : t = 2
    · subst ht
      rw [hitem, List.mem_singleton] at hx
      rw [hx, htier]
    · rw [hothers t ht] at hx
      cases hx
  have hfront : ∀ s1 : GameScheduler, s1.queues = s.queues →
      ∀ {idx : Fin 4}, s1.Busy idx → live now (s1.queues idx.succ) = [item] := by
    intro s1 hs1 idx hbusy
    have hidx : idx.succ = 2 := by
      by_contra hne
      rw [Busy, hs1, hothers _ hne] at hbusy
      exact hbusy rfl
    rw [hs1, hidx, hitem]
    exact List.dropWhile_cons_of_neg (by simp [hlive])
  have htook := popNext_took s budget now htiers
  have htakes := popNext_takes s budget now
  have hout : (s.popNext budget now).1 = some item := by
    generalize s.popNext budget now = out at htakes
    cases htakes with
    | broke hzero => exact absurd hzero hpos
    | strict hfirst hfits hmarks hq =>
      rw [hothers 0 (by decide)] at hfirst
      cases hfirst
    | @rounds s1 out hbig hmarks hq hrounds =>
      have hs1 : s1.queues = s.queues := by
        rw [hq, hothers 0 (by decide)]
        exact (congrArg (Function.update s.queues 0) (hothers 0 (by decide)).symm).trans
          (Function.update_eq_self ..)
      cases hrounds with
      | idle hidle hq' =>
        refine absurd ?_ (hidle 1)
        rw [Busy, hs1]
        change s.queues 2 ≠ []
        rw [hitem]
        exact List.cons_ne_nil _ _
      | served hvisit =>
        cases hvisit with
        | served hfirst hfits hturn hq' =>
          rw [hfront s1 hs1 hturn.visited] at hfirst
          rw [(List.cons.inj hfirst).1]
      | passed hvisit hrest =>
        cases hvisit with
        | passed hdear hturn hq' =>
          have hlt := hdear item [] (hfront s1 hs1 hturn.visited) (by omega)
          omega
  refine ⟨hout, fun t => ?_⟩
  by_cases ht : t = 2
  · subst ht
    have hlast := htook.front item hout
    rw [htier, hitem] at hlast
    have hlen := hlast.length_le
    rw [List.length_cons, List.length_singleton] at hlen
    exact List.length_eq_zero_iff.mp (by omega)
  · exact List.suffix_nil.mp (hothers t ht ▸ htook.suffix t)

/-- Nothing is queued, and something may be. -/
structure Vacant (s : GameScheduler) : Prop where
  counted : s.Counted
  empty : ∀ t, s.queues t = []
  room : 0 < s.maxQueueItemsPerTier

end GameScheduler

namespace GtpConnection

variable [CryptoSuite]

omit [CryptoSuite] in
/-- The call that sends the update, without a payload. -/
def sendUpdate (now : MonotonicTime) (u : Refresh) : Op := .sendSequenced u.1 u.2 0 none [] now

omit [CryptoSuite] in
/-- Each update, and a datagram after it. -/
def updates (now : MonotonicTime) (outBuf : List UInt8) (us : List Refresh) : List Op :=
  us.flatMap fun u => [sendUpdate now u, .produce now outBuf]

omit [CryptoSuite] in
/-- The frames of the updates, with the ids from `id` on. -/
def updateFrames : MessageId → List Refresh → List Frame
  | _, [] => []
  | id, u :: us => .data id u.1 u.2 0 0 [] :: updateFrames (id + 1) us

omit [CryptoSuite] in
theorem isMessage_updateFrames (id : MessageId) (us : List Refresh) :
    ∀ f ∈ updateFrames id us, isMessage f = true := by
  induction us generalizing id with
  | nil => simp [updateFrames]
  | cons u us ih => exact List.forall_mem_cons.mpr ⟨rfl, ih _⟩

/-- **The call that sends an update** puts one item into tier 2. -/
theorem step_sendUpdate {c : GtpConnection} (h : c.hot.scheduler.Vacant) {u : Refresh}
    (hadmitted : c.hot.scheduler.stateTable.shouldAdmit u.1 0 u.2 = true) (now : MonotonicTime) :
    ∃ s item, c.step (sendUpdate now u) = { c with
        hot.nextMessageId := c.hot.nextMessageId + 1
        hot.scheduler := s } ∧
      s.Counted ∧ 0 < s.maxQueueItemsPerTier ∧
      s.stateTable = (c.hot.scheduler.stateTable.update u.1 0 u.2 c.hot.nextMessageId).1 ∧
      (∀ t ≠ 2, s.queues t = []) ∧ s.queues 2 = [item] ∧ item.isExpired now = false ∧
      item.priority.idx = 2 ∧ item.sizeBytes = 0 ∧
      itemFrame item = .data c.hot.nextMessageId u.1 u.2 0 0 [] := by
  have hroom : (c.hot.scheduler.queues 2).length < c.hot.scheduler.maxQueueItemsPerTier := by
    rw [h.empty]
    exact h.room
  have hlive : ∀ dl ∈ (none : Option MonotonicTime), now < dl := fun dl hdl => by cases hdl
  obtain ⟨htable, hqueues⟩ := Feed.send_empty (w := ⟨c, []⟩) h.counted hroom hlive hadmitted
  obtain ⟨hcounted, hcap⟩ := Feed.step_send_counted (w := ⟨c, []⟩) h.counted u.1 u.2 0 none [] now
  have hleft : ∀ superseded, GameScheduler.withoutSuperseded superseded [] = [] := by
    intro superseded
    cases superseded <;> rfl
  have hstep : c.step (sendUpdate now u) = { c with
      hot.nextMessageId := c.hot.nextMessageId + 1
      hot.scheduler :=
        (Feed.step ⟨c, []⟩ (.send u.1 u.2 0 none [] now)).scheduler } := by
    have hfits : ¬ c.maxMessagePayload < ([] : List UInt8).length := Nat.not_lt_zero _
    rw [Feed.step_send_scheduler, if_neg hfits, sendUpdate, step, sendSequenced, sendSingle,
      if_neg hfits]
    rfl
  refine ⟨_, Feed.itemOf ⟨c, []⟩ u.1 u.2 0 none [] now, hstep, hcounted, ?_, htable,
    fun t ht => ?_, ?_, rfl, rfl, rfl, rfl⟩
  · rw [hcap]
    exact h.room
  · rw [hqueues, Function.update_of_ne ht]
    exact h.empty t
  · have hempty : Feed.scheduler ⟨c, []⟩ = c.hot.scheduler := rfl
    rw [hqueues, Function.update_self, hempty, h.empty, hleft]
    rfl

/-- **A feed of updates**: they leave one by one. -/
theorem updates_packets (hsuite : ∀ key nonce aad pt, (CryptoSuite.encrypt key nonce aad pt).isSome)
    {now : MonotonicTime} (hnow : now ≠ 0) {outBuf : List UInt8} (hbuf : outBuf.length = 100)
    (us : List Refresh) {c : GtpConnection} (hvacant : c.hot.scheduler.Vacant)
    (hadmits : c.hot.scheduler.stateTable.AdmitsAll c.hot.nextMessageId us)
    (h : Steady now (100 * us.length) c)
    (hpn : c.hot.nextPacketNumber.toNat + us.length < 2 ^ 64) :
    Packets c.hot.txProtector c.hot.connectionId c.hot.nextPacketNumber.toNat
      ((updateFrames c.hot.nextMessageId us).map ([·])) (c.handedOut (updates now outBuf us)) := by
  induction us generalizing c with
  | nil => exact .nil
  | cons u us ih =>
    obtain ⟨s, item, hstep, hcounted, hroom, htable, hothers, hitem, hlive, htier, hsize, hframe⟩ :=
      step_sendUpdate hvacant hadmits.1 now
    have hfresh : s.Fresh now := by
      intro t x hx
      by_cases ht : t = 2
      · subst ht
        rw [hitem, List.mem_singleton] at hx
        rw [hx, hlive]
      · rw [hothers t ht] at hx
        cases hx
    obtain ⟨hpop, hdrained⟩ := GameScheduler.popNext_alone hothers hitem hlive htier hsize
      (show 76 ≠ 0 by decide)
    have hsame := GameScheduler.popNext_table s 76 now
    have hcounted' := hcounted.popNext 76 now
    have hneeded : (itemFrame item).needed = 27 := by rw [hframe]; rfl
    rw [List.length_cons] at h hpn
    obtain ⟨dg, c2, hturn⟩ := Steady.turned hsuite hnow hbuf (k := 100 * us.length) h (by omega) rfl
      hstep hfresh (Prod.ext hpop rfl) (by omega) (by omega) (by rw [hframe]; rfl)
    have hid2 : c2.hot.nextMessageId = c.hot.nextMessageId + 1 := by
      rw [hturn.nextMessageId, hstep]
    have htable2 : c2.hot.scheduler.stateTable =
        (c.hot.scheduler.stateTable.update u.1 0 u.2 c.hot.nextMessageId).1 := by
      rw [hturn.scheduler, hsame.2, htable]
    have hvacant2 : c2.hot.scheduler.Vacant := by
      rw [hturn.scheduler]
      exact ⟨hcounted', hdrained, by rw [hsame.1.2]; exact hroom⟩
    have hrest := ih hvacant2 (by rw [htable2, hid2]; exact hadmits.2) hturn.steady
      (by rw [hturn.nextPacketNumber]; omega)
    rw [hturn.nextPacketNumber, hid2, hturn.keys, hturn.connectionId] at hrest
    have hops : updates now outBuf (u :: us) =
        sendUpdate now u :: .produce now outBuf :: updates now outBuf us := rfl
    rw [hops, hturn.handedOut, updateFrames, List.map_cons, ← hframe]
    exact hturn.packets hrest

end GtpConnection

/-! ## 2. The receiver -/

namespace DeliveryState

def updateMessage (u : Refresh) : ReceivedMessage := ⟨.unreliableSequenced u.1 u.2 0, []⟩

/-- Updates that the table admits are all handed over. -/
theorem handedOver_updateFrames {d : DeliveryState} {id : MessageId} {us : List Refresh}
    (h : d.rxStateTable.AdmitsAll id us) (hsequenced : ∀ u ∈ us, u.2 ≠ 0) (now : MonotonicTime) :
    d.handedOver (arriving now (GtpConnection.updateFrames id us)) = us.map updateMessage := by
  induction us generalizing d id with
  | nil => rfl
  | cons u us ih =>
    have hplain : ¬ (u.1 = StateKey.default ∧ u.2 = 0 ∧ (0 : GenerationId) = 0) :=
      fun hzero => hsequenced u List.mem_cons_self hzero.2.1
    have hframe : d.onFrame (.data id u.1 u.2 0 0 []) now = (.delivered [updateMessage u],
        { d with rxStateTable := (d.rxStateTable.update u.1 0 u.2 id).1 }) := by
      rw [onFrame, onData, if_neg hplain, h.1]
      rfl
    have hfate : d.fate ⟨.data id u.1 u.2 0 0 [], now⟩ = .delivered [updateMessage u] := by
      rw [fate, hframe]
    have hafter : d.after ⟨.data id u.1 u.2 0 0 [], now⟩ =
        { d with rxStateTable := (d.rxStateTable.update u.1 0 u.2 id).1 } := by
      rw [after, hframe]
    have hrest := @ih (d.after ⟨.data id u.1 u.2 0 0 [], now⟩) (id + 1)
      (by rw [hafter]; exact h.2) fun u hu => hsequenced u (List.mem_cons_of_mem _ hu)
    rw [GtpConnection.updateFrames, arriving, List.map_cons, handedOver, hfate, List.map_cons]
    exact congrArg (updateMessage u :: ·) hrest

end DeliveryState

/-! ## 3. Updates that are not newer -/

/-- The message as an update of the key, zeros included. -/
def ReceivedMessage.stampOf (key : StateKey) (m : ReceivedMessage) : Option Stamp :=
  match m.class' with
  | .unreliableSequenced k seq gen => if k = key then some (gen, seq) else none
  | _ => none

/-- The updates of the key among the messages. -/
def stampsOf (key : StateKey) (messages : List ReceivedMessage) : List Stamp :=
  messages.filterMap (·.stampOf key)

namespace GtpConnection.Again

attribute [local instance] keyTagSuite

def feed (us : List Refresh) : List (List UInt8) :=
  (wideSetup true).start.handedOut (updates 1 buf us)

/-- The messages that the other end returns for the datagrams. -/
def heard (dgs : List (List UInt8)) : List ReceivedMessage :=
  (wideSetup false).start.returned (dgs.map (.handleIncoming ⟨1, 4433⟩ · 1 0))

/-- An update of the first key, one of each of `n` other keys, and the first update again. -/
def crowd (n : Nat) : List Refresh :=
  (keyAt 0, 1) :: ((List.range n).map fun i => (keyAt (i + 1), 1)) ++ [(keyAt 0, 1)]

/-- The table admits the first update again when it has been full. -/
theorem crowd_admitted {n : Nat} (hn : n = 4095) (id : MessageId) :
    StateTable.new.AdmitsAll id (crowd (n + 1)) := by
  have hkey : ∀ i < n + 2, (keyAt i).toU48 = i := fun i hi => Feed.toU48_keyAt (by omega)
  have hkeys : (((keyAt 0, 1) :: ((List.range (n + 1)).map fun i =>
      ((keyAt (i + 1), 1) : Refresh))).map fun u => u.1.toU48) = List.range (n + 2) := by
    rw [@List.range_succ_eq_map (n + 1), List.map_cons, List.map_map]
    refine congrArg₂ List.cons (hkey 0 (by omega)) (List.map_congr_left fun i hi => ?_)
    rw [List.mem_range] at hi
    exact hkey (i + 1) (by omega)
  have hlast : (List.range (n + 1)).map (fun i => ((keyAt (i + 1), 1) : Refresh)) =
      ((List.range n).map fun i => (keyAt (i + 1), 1)) ++ [(keyAt (n + 1), 1)] := by
    rw [List.range_succ, List.map_append]
    rfl
  rw [hlast] at hkeys
  rw [crowd, hlast]
  refine StateTable.admitsAll_again StateTable.ordered_new rfl id ?_ ?_
  · rw [List.length_map, List.length_range, hn]
    rfl
  · rw [hkeys]
    exact List.nodup_range

/-- **What the other end returns**: every update, the first one twice. -/
theorem heard_crowd {n : Nat} (hn : n = 4095) :
    heard (feed (crowd (n + 1))) = (crowd (n + 1)).map DeliveryState.updateMessage := by
  have hlen : (crowd (n + 1)).length = 4098 := by
    simp [crowd, hn]
  have hbuf : buf.length = 100 := rfl
  have hpackets := updates_packets (fun _ _ _ _ => rfl) (by decide) hbuf (crowd (n + 1))
    (c := (wideSetup true).start) ⟨GameScheduler.counted_new _, fun _ => rfl, by decide⟩
    (crowd_admitted hn _) (start_steady.mono (by omega)) (by rw [hlen]; decide)
  obtain ⟨-, hret⟩ := hpackets.heard_each keyTagSuite_roundTrips (isMessage_updateFrames _ _)
    receiver_listens ⟨1, 4433⟩ 1
  refine hret.trans (DeliveryState.handedOver_updateFrames (crowd_admitted hn _) ?_ 1)
  intro u hu
  have hone : u.2 = 1 := by
    simp only [crowd, List.cons_append, List.mem_cons, List.mem_append, List.mem_map,
      List.not_mem_nil, or_false] at hu
    rcases hu with rfl | ⟨i, -, rfl⟩ | rfl <;> rfl
  rw [hone]
  decide

/-- The updates of the first key. -/
theorem stampsOf_crowd {n : Nat} (hn : n < 65535) :
    stampsOf (keyAt 0) ((crowd n).map DeliveryState.updateMessage) = [(0, 1), (0, 1)] := by
  have hothers : ((List.range n).map fun i =>
      DeliveryState.updateMessage (keyAt (i + 1), 1)).filterMap (·.stampOf (keyAt 0)) = [] := by
    rw [List.filterMap_eq_nil_iff]
    intro m hm
    obtain ⟨i, hi, rfl⟩ := List.mem_map.mp hm
    rw [List.mem_range] at hi
    have hne : keyAt (i + 1) ≠ keyAt 0 := by
      intro heq
      have hnat := congrArg StateKey.toU48 heq
      rw [Feed.toU48_keyAt (by omega), Feed.toU48_keyAt (by omega)] at hnat
      omega
    exact if_neg hne
  have hfirst : ReceivedMessage.stampOf (keyAt 0) (DeliveryState.updateMessage (keyAt 0, 1)) =
      some (0, 1) := by decide
  rw [stampsOf, crowd, List.map_append, List.map_cons, List.map_map, List.cons_append,
    List.filterMap_cons_some hfirst, List.filterMap_append]
  refine congrArg ((0, 1) :: ·) ?_
  refine (congrArg (· ++ _) hothers).trans ?_
  rw [List.nil_append, List.map_singleton, List.filterMap_cons_some hfirst]
  rfl

/-- The datagrams of two updates of one key, as they are sent. -/
def refreshed : List Op :=
  (feed [(keyAt 0, 1), (keyAt 0, 2)]).map (.handleIncoming ⟨1, 4433⟩ · 1 0)

/-- `update_newer_or_forgotten` at two updates of one key: the table has not forgotten the key, so
the second one is newer. -/
theorem update_newer_or_forgotten_refreshed : ∃ a b old new,
    (wideSetup false).start.arrivals refreshed = [a, b] ∧
      (keyAt 0, old) ∈ (deliveryAfter (wideSetup false) []).updatesOf a ∧
      (keyAt 0, new) ∈ (deliveryAfter (wideSetup false) [a]).updatesOf b ∧ Newer old new := by
  have hlength : ((wideSetup false).start.arrivals refreshed).length = 2 := by decide +kernel
  obtain ⟨a, b, harrivals⟩ := List.length_eq_two.mp hlength
  have hfirst : ((wideSetup false).start.arrivals refreshed).head?.map
      (fun a => (deliveryAfter (wideSetup false) []).updatesOf a) = some [(keyAt 0, 0, 1)] := by
    decide +kernel
  have hsecond : ((wideSetup false).start.arrivals refreshed).getLast?.map
      (fun b => (deliveryAfter (wideSetup false)
        ((wideSetup false).start.arrivals refreshed).dropLast).updatesOf b) =
        some [(keyAt 0, 0, 2)] := by
    decide +kernel
  have hkept : ((deliveryAfter (wideSetup false)
      ((wideSetup false).start.arrivals refreshed).dropLast).rxStateTable.entries[
        (keyAt 0).toU48]?).isSome = true := by
    decide +kernel
  rw [harrivals] at hfirst hsecond hkept
  have hfirst' : (deliveryAfter (wideSetup false) []).updatesOf a = [(keyAt 0, 0, 1)] :=
    Option.some.inj hfirst
  have hsecond' : (deliveryAfter (wideSetup false) [a]).updatesOf b = [(keyAt 0, 0, 2)] :=
    Option.some.inj hsecond
  have ha : (keyAt 0, 0, 1) ∈ (deliveryAfter (wideSetup false) []).updatesOf a := by
    rw [hfirst']
    exact List.mem_singleton_self _
  have hb : (keyAt 0, 0, 2) ∈ (deliveryAfter (wideSetup false) [a]).updatesOf b := by
    rw [hsecond']
    exact List.mem_singleton_self _
  refine ⟨a, b, _, _, harrivals, ha, hb, ?_⟩
  rcases (update_newer_or_forgotten (wideSetup false) refreshed).2 [] a [] b [] (keyAt 0) (0, 1)
    (0, 2) harrivals ha trivial hb with hnewer | ⟨hgone, -⟩
  · exact hnewer
  · have hlost := hkept.symm.trans (congrArg Option.isSome hgone)
    cases hlost

/-- An update of zeros and a newer one, the datagrams in the other order. -/
def swapped : List (List UInt8) := (feed [(keyAt 0, 0), (keyAt 0, 1)]).reverse

/-- **Updates that are not newer.**  The sender sends an update of each of 4097 keys and then the
first update again; the other end gets every datagram once and in order, and returns the first
update twice.  And an update of zeros is returned after a newer one. -/
theorem stale_again :
    ¬ (stampsOf (keyAt 0) (heard (feed (crowd 4096)))).IsChain Newer ∧
      ¬ (stampsOf (keyAt 0) (heard swapped)).IsChain Newer := by
  constructor
  · rw [heard_crowd rfl, stampsOf_crowd (by decide)]
    decide
  · have hlate : stampsOf (keyAt 0) (heard swapped) = [(0, 1), (0, 0)] := by decide +kernel
    rw [hlate]
    decide

end GtpConnection.Again

end Gtp
