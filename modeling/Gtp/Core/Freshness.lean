/-
# Freshness at the receiver

The receiver drops late state: an update is handed over when it is newer than the one that the
freshness table has of its key.  The table is bounded to 4096 keys, and what it has forgotten it
cannot compare with.  So in every run, whatever arrives and in whatever order, an update is newer
than the one of its key that was handed over before it, or the table has forgotten the key in
between, and that takes more than 4096 keys (`update_newer_or_forgotten`).

* `updatesOf_cases` is what a frame does to the table: nothing, or it hands over one update that the
  table admits, and the table has it then.
* `Informed` counts: after updates of some keys the table has no others, and all of them as long as
  they fit.
* `Holds` follows one key from an update of it to the next.

"Newer" is the order of serial numbers, which is not transitive: two updates are compared when no
update of the key lies between them, and nothing is said of others.

An update whose key, generation and sequence are all zero is not compared with anything: it looks
like a plain unreliable message, which is written with these values.  So it is left out here
(`update?`).
-/
import Gtp.Core.Consumed
import Gtp.Core.Supersession

namespace Gtp

/-! ## 1. Updates that are handed over -/

open Feed (Stamp Newer)

/-- The key that the message updates, and to what; a plain message has zeros there. -/
def ReceivedMessage.update? (m : ReceivedMessage) : Option (StateKey × Stamp) :=
  match m.class' with
  | .unreliableSequenced key seq gen =>
    if key = StateKey.default ∧ seq = 0 ∧ gen = 0 then none else some (key, gen, seq)
  | _ => none

namespace DeliveryState

/-- The updates that the frame hands over: one at most. -/
def updatesOf (d : DeliveryState) (a : Arrival) : List (StateKey × Stamp) :=
  (d.fate a).messages.filterMap ReceivedMessage.update?

/-- The keys whose updates the frames hand over. -/
def updatedKeys (d : DeliveryState) (as : List Arrival) : Finset StateKey :=
  (((d.handedOver as).filterMap ReceivedMessage.update?).map Prod.fst).toFinset

theorem updatedKeys_append (d : DeliveryState) (as bs : List Arrival) :
    d.updatedKeys (as ++ bs) = d.updatedKeys as ∪ (as.foldl after d).updatedKeys bs := by
  unfold updatedKeys
  rw [handedOver_append, List.filterMap_append, List.map_append, List.toFinset_append]

theorem updatedKeys_cons (d : DeliveryState) (a : Arrival) (as : List Arrival) :
    d.updatedKeys (a :: as) =
      ((d.updatesOf a).map Prod.fst).toFinset ∪ (d.after a).updatedKeys as := by
  unfold updatedKeys updatesOf
  rw [handedOver, List.filterMap_append, List.map_append, List.toFinset_append]

/-- A reliable message neither is an update nor touches the table. -/
theorem deliverReliable_updates (d : DeliveryState) (id : MessageId) (g : OrderedGroupId)
    (q : UInt32) (p : List UInt8) :
    (d.deliverReliable id g q p).1.messages.filterMap ReceivedMessage.update? = [] ∧
      (d.deliverReliable id g q p).2.rxStateTable = d.rxStateTable := by
  unfold deliverReliable
  split
  · unfold deliverUnordered
    split <;> exact ⟨rfl, rfl⟩
  · obtain ⟨groups, gens, n, hframe⟩ := d.deliverOrdered_frame g q p
    refine ⟨?_, by rw [hframe]⟩
    unfold deliverOrdered
    dsimp only
    split
    · rfl
    · split
      · rw [Disposition.messages, List.filterMap_map]
        exact List.filterMap_eq_nil_iff.mpr fun e _ => rfl
      · rfl

/-- **What a frame does to the table**: nothing, or it hands over an update that the table admits,
and the table has it then. -/
theorem updatesOf_cases (d : DeliveryState) (a : Arrival) :
    (d.updatesOf a = [] ∧ (d.after a).rxStateTable = d.rxStateTable) ∨
      ∃ id key gen seq, d.updatesOf a = [(key, gen, seq)] ∧
        d.rxStateTable.shouldAdmit key gen seq = true ∧
        (d.after a).rxStateTable = (d.rxStateTable.update key gen seq id).1 := by
  obtain ⟨frame, now⟩ := a
  unfold updatesOf fate after
  cases frame with
  | data id key seq gen dl p =>
    simp only [onFrame, onData]
    split
    · rename_i hplain
      refine Or.inl ⟨?_, rfl⟩
      simp [Disposition.messages, ReceivedMessage.update?, hplain]
    · rename_i hsequenced
      split
      · exact Or.inl ⟨rfl, rfl⟩
      · rename_i hadmitted
        refine Or.inr ⟨id, key, gen, seq, ?_, by simpa using hadmitted, rfl⟩
        simp [Disposition.messages, ReceivedMessage.update?, hsequenced]
  | reliableData id fid n g q p =>
    left
    simp only [onFrame, onReliableData]
    split
    · split
      · exact deliverReliable_updates _ id g q _
      · exact ⟨rfl, rfl⟩
      · exact ⟨rfl, rfl⟩
    · exact d.deliverReliable_updates id g q p
  | retx id fid t p => exact Or.inl (d.deliverReliable_updates id 0 0 p)
  | _ => exact Or.inl ⟨rfl, rfl⟩

/-! ## 2. What the table knows -/

/-- **The table after updates of these keys.**  It has no other keys, and all of them as long as
they fit. -/
structure Informed (keys : Finset StateKey) (d : DeliveryState) : Prop where
  ordered : d.rxStateTable.Ordered
  capacity : d.rxStateTable.capacity = 4096
  known : ∀ k ∈ d.rxStateTable.order, ∃ key ∈ keys, key.toU48 = k
  kept : keys.card ≤ 4096 → ∀ key ∈ keys, d.rxStateTable.entries[key.toU48]? ≠ none

section Informed

variable {keys : Finset StateKey} {d : DeliveryState}

theorem Informed.length_le (h : Informed keys d) : d.rxStateTable.order.length ≤ keys.card := by
  have hsub : d.rxStateTable.order.toFinset ⊆ keys.image StateKey.toU48 := by
    intro k hk
    obtain ⟨key, hkey, rfl⟩ := h.known k (List.mem_toFinset.mp hk)
    exact Finset.mem_image_of_mem _ hkey
  calc d.rxStateTable.order.length = d.rxStateTable.order.toFinset.card :=
        (List.toFinset_card_of_nodup h.ordered.nodup).symm
    _ ≤ (keys.image StateKey.toU48).card := Finset.card_le_card hsub
    _ ≤ keys.card := Finset.card_image_le

/-- While the keys fit, the entries of other keys stay. -/
theorem Informed.others (h : Informed keys d) {key : StateKey} {gen : GenerationId}
    {seq : StateSequence} (hadmitted : d.rxStateTable.shouldAdmit key gen seq = true)
    (hfew : (insert key keys).card ≤ 4096) (id : MessageId) {k : Nat} (hk : k ≠ key.toU48) :
    (d.rxStateTable.update key gen seq id).1.entries[k]? = d.rxStateTable.entries[k]? := by
  cases hcurr : d.rxStateTable.entries[key.toU48]? with
  | some curr =>
    rw [StateTable.shouldAdmit, hcurr] at hadmitted
    exact (h.ordered.update_newer hcurr hadmitted id).2.2.2 k hk
  | none =>
    -- the key is new, so there is room for it
    have hnew : key ∉ keys := by
      intro hmem
      rw [Finset.insert_eq_of_mem hmem] at hfew
      exact h.kept hfew key hmem hcurr
    have hroom : d.rxStateTable.order.length < d.rxStateTable.capacity := by
      have hlen := h.length_le
      rw [Finset.card_insert_of_notMem hnew] at hfew
      rw [h.capacity]
      omega
    rw [StateTable.update_room hcurr hroom]
    exact (Maps.getElem?_insert ..).trans (if_neg (Ne.symm hk))

theorem Informed.update (h : Informed keys d) {d' : DeliveryState} {key : StateKey}
    {gen : GenerationId} {seq : StateSequence} {id : MessageId}
    (hadmitted : d.rxStateTable.shouldAdmit key gen seq = true)
    (htable : d'.rxStateTable = (d.rxStateTable.update key gen seq id).1) :
    Informed (insert key keys) d' := by
  obtain ⟨hordered, hentry, hothers⟩ := h.ordered.update_admitted hadmitted id
  refine ⟨htable ▸ hordered, ?_, fun k hk => ?_, fun hfew key' hkey' => ?_⟩
  · rw [htable, StateTable.update_capacity, h.capacity]
  · rw [htable] at hk
    by_cases hsame : k = key.toU48
    · exact ⟨key, Finset.mem_insert_self _ _, hsame.symm⟩
    · have hsome := (hordered.keys k).mp hk
      have hold : d.rxStateTable.entries[k]? ≠ none := by
        rw [← (hothers k hsame).resolve_right hsome]
        exact hsome
      obtain ⟨key', hkey', heq⟩ := h.known k ((h.ordered.keys k).mpr hold)
      exact ⟨key', Finset.mem_insert_of_mem hkey', heq⟩
  · rw [htable]
    by_cases hsame : key' = key
    · rw [hsame, hentry]
      exact Option.some_ne_none _
    · have hne : key'.toU48 ≠ key.toU48 := fun heq => hsame (StateKey.toU48_inj heq)
      rw [h.others hadmitted hfew id hne]
      exact h.kept ((Finset.card_le_card (Finset.subset_insert _ _)).trans hfew) key'
        (Finset.mem_of_mem_insert_of_ne hkey' hsame)

theorem Informed.after (h : Informed keys d) (a : Arrival) :
    Informed (keys ∪ ((d.updatesOf a).map Prod.fst).toFinset) (d.after a) := by
  rcases d.updatesOf_cases a with ⟨hnone, hsame⟩ | ⟨id, key, gen, seq, hone, hadmitted, htable⟩
  · rw [hnone, List.map_nil, List.toFinset_nil, Finset.union_empty]
    exact ⟨hsame ▸ h.ordered, hsame ▸ h.capacity, hsame ▸ h.known, hsame ▸ h.kept⟩
  · have hkeys : keys ∪ ([(key, gen, seq)].map Prod.fst).toFinset = insert key keys := by
      rw [Finset.union_comm]
      rfl
    rw [hone, hkeys]
    exact h.update hadmitted htable

theorem Informed.run (h : Informed keys d) (as : List Arrival) :
    Informed (keys ∪ d.updatedKeys as) (as.foldl DeliveryState.after d) := by
  induction as generalizing keys d with
  | nil =>
    rw [show d.updatedKeys [] = ∅ from rfl, Finset.union_empty]
    exact h
  | cons a as ih =>
    rw [updatedKeys_cons, ← Finset.union_assoc]
    exact ih (h.after a)

end Informed

/-! ## 3. An update after an update -/

section Between

variable {d : DeliveryState} {key : StateKey} {old : Stamp}

/-- Of the key the table has this update, or nothing. -/
def Holds (key : StateKey) (old : Stamp) (d : DeliveryState) : Prop :=
  d.rxStateTable.Ordered ∧ ∀ e, d.rxStateTable.entries[key.toU48]? = some e → (e.1, e.2.1) = old

theorem holds_of_updatesOf {a : Arrival} (hd : d.rxStateTable.Ordered)
    (h : (key, old) ∈ d.updatesOf a) : Holds key old (d.after a) := by
  rcases d.updatesOf_cases a with ⟨hnone, -⟩ | ⟨id, key', gen, seq, hone, hadmitted, htable⟩
  · rw [hnone] at h
    cases h
  · rw [hone, List.mem_singleton] at h
    obtain ⟨rfl, rfl⟩ := Prod.mk.inj h
    obtain ⟨hordered, hentry, -⟩ := hd.update_admitted hadmitted id
    rw [← htable] at hordered hentry
    refine ⟨hordered, fun e he => ?_⟩
    obtain rfl := Option.some.inj (hentry.symm.trans he)
    rfl

/-- Frames without an update of the key do not change that. -/
theorem Holds.after (h : Holds key old d) {a : Arrival}
    (hother : ∀ u ∈ d.updatesOf a, u.1 ≠ key) : Holds key old (d.after a) := by
  rcases d.updatesOf_cases a with ⟨-, hsame⟩ | ⟨id, key', gen, seq, hone, hadmitted, htable⟩
  · unfold Holds
    rw [hsame]
    exact h
  · obtain ⟨hordered, -, hothers⟩ := h.1.update_admitted hadmitted id
    rw [← htable] at hordered hothers
    have hne : key' ≠ key := hother (key', gen, seq) (by rw [hone]; exact List.mem_singleton_self _)
    refine ⟨hordered, fun e he => ?_⟩
    rcases hothers key.toU48 fun heq => hne (StateKey.toU48_inj heq.symm) with hkept | hgone
    · exact h.2 e (hkept.symm.trans he)
    · rw [hgone] at he
      cases he

/-- The next update of the key is newer, if the table still has the key. -/
theorem Holds.newer (h : Holds key old d) {b : Arrival} {new : Stamp}
    (hb : (key, new) ∈ d.updatesOf b) :
    Newer old new ∨ d.rxStateTable.entries[key.toU48]? = none := by
  rcases d.updatesOf_cases b with ⟨hnone, -⟩ | ⟨id, key', gen, seq, hone, hadmitted, -⟩
  · rw [hnone] at hb
    cases hb
  · rw [hone, List.mem_singleton] at hb
    obtain ⟨rfl, rfl⟩ := Prod.mk.inj hb
    cases hcurr : d.rxStateTable.entries[key.toU48]? with
    | none => exact Or.inr rfl
    | some curr =>
      rw [StateTable.shouldAdmit, hcurr] at hadmitted
      obtain rfl := h.2 curr hcurr
      exact Or.inl hadmitted

end Between

end DeliveryState

namespace GtpConnection

variable [CryptoSuite]

omit [CryptoSuite] in
/-- The delivery state after the frames. -/
def deliveryAfter (s : Setup) (as : List Arrival) : DeliveryState :=
  as.foldl DeliveryState.after s.start.hot.toDeliveryState

omit [CryptoSuite] in
theorem informed_start (s : Setup) :
    DeliveryState.Informed ∅ s.start.hot.toDeliveryState :=
  ⟨StateTable.ordered_new, rfl, fun k hk => (by cases hk), fun _ key hkey => (by cases hkey)⟩

/-- **Freshness.**  In every run of a connection, with any datagrams in any order: of two updates of
one key that arriving frames hand over, with no update of the key between them, the later one is
newer, or else the table has forgotten the key when it arrives, and updates of more than 4096 keys
have been handed over before.  The calls return an initial part of what the frames hand over. -/
theorem update_newer_or_forgotten (s : Setup) (ops : List Op) :
    s.start.returned ops <+: s.start.hot.toDeliveryState.handedOver (s.start.arrivals ops) ∧
      ∀ before a between b after key old new,
        s.start.arrivals ops = before ++ a :: (between ++ b :: after) →
        (key, old) ∈ (deliveryAfter s before).updatesOf a →
        Runs.Along DeliveryState.after (fun d e => ∀ u ∈ d.updatesOf e, u.1 ≠ key)
          (deliveryAfter s (before ++ [a])) between →
        (key, new) ∈ (deliveryAfter s (before ++ a :: between)).updatesOf b →
        Newer old new ∨
          (deliveryAfter s (before ++ a :: between)).rxStateTable.entries[key.toU48]? = none ∧
            4096 < (s.start.hot.toDeliveryState.updatedKeys (before ++ a :: between)).card := by
  refine ⟨s.start.returned_isInitial ops, ?_⟩
  intro before a between b after key old new hsplit ha hbetween hb
  have hstate : deliveryAfter s (before ++ a :: between) =
      between.foldl DeliveryState.after (deliveryAfter s (before ++ [a])) := by
    unfold deliveryAfter
    rw [← List.foldl_append, List.append_assoc]
    rfl
  have hinformed : ∀ as, DeliveryState.Informed
      (s.start.hot.toDeliveryState.updatedKeys as) (deliveryAfter s as) := by
    intro as
    have hrun := (informed_start s).run as
    rw [Finset.empty_union] at hrun
    exact hrun
  -- the table has the first update, and keeps or forgets it
  have hfirst : DeliveryState.Holds key old (deliveryAfter s (before ++ [a])) := by
    unfold deliveryAfter
    rw [List.foldl_append]
    exact DeliveryState.holds_of_updatesOf (hinformed before).ordered ha
  have hheld := hbetween.preserves_always (Q := DeliveryState.Holds key old)
    (fun d e hother hd => hd.after hother) hfirst
  rw [← hstate] at hheld
  rcases hheld.newer hb with hnewer | hgone
  · exact Or.inl hnewer
  · refine Or.inr ⟨hgone, Nat.not_le.mp fun hfew => ?_⟩
    have hmem : key ∈ s.start.hot.toDeliveryState.updatedKeys (before ++ a :: between) := by
      rw [DeliveryState.updatedKeys_append, DeliveryState.updatedKeys_cons]
      refine Finset.mem_union_right _ (Finset.mem_union_left _ (List.mem_toFinset.mpr ?_))
      exact List.mem_map_of_mem (f := Prod.fst) ha
    exact (hinformed _).kept hfew key hmem hgone

end GtpConnection

end Gtp
