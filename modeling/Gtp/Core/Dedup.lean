/-
# Unordered messages, once among 4096

The index of delivered messages is first-in first-out: after every delivery it holds the last 4096
ids that were delivered unordered, and a message is delivered only when its id is not among them.
So between two deliveries of one message id there are at least 4096 other unordered deliveries,
over runs of any length and whatever arrives.

* `Remembers` ties the index to the history; `Remembers.inserted` is a new id, `Remembers.spacing`
  what an id that is not remembered says about the history.
* `unorderedOf_cases` is one frame, `unorderedLog_spacing` the list of all frames.
* `unordered_once_among_4096` is the connection: what it returns is an initial part of the log.

An id that comes again behind 4096 others is delivered again; that is the bound that the index has,
and not more than the statement says.  Message ids are the peer's: two different messages under one
id are one message here.
-/
import Gtp.Core.Retention
import Mathlib.Data.Finset.Basic
import Mathlib.Data.List.DropRight

namespace Gtp

/-! ## 1. The index -/

namespace DeliveredIndex

/-- The index holds the last `capacity` ids of `history`, each once. -/
structure Remembers (d : DeliveredIndex) (history : List MessageId) : Prop where
  order : d.order = history.rtake d.capacity
  seen : d.seen = d.order.toFinset
  nodup : d.order.Nodup

theorem remembers_new (capacity : Nat) : (new capacity).Remembers [] where
  order := (List.rtake_nil _).symm
  seen := rfl
  nodup := List.nodup_nil

/-- Forgetting the oldest ids leaves the newest, in both representations. -/
theorem trim_eq (capacity : Nat) (order : List MessageId) (h : order.Nodup) :
    trim capacity order.toFinset order =
      ((order.rtake capacity).toFinset, order.rtake capacity) := by
  induction order with
  | nil => simp [trim]
  | cons old rest ih =>
    obtain ⟨hfresh, hrest⟩ := List.nodup_cons.mp h
    rw [trim]
    split
    · rename_i hlong
      have hlt : capacity ≤ rest.length := Nat.lt_succ_iff.mp hlong
      have herase : (old :: rest).toFinset.erase old = rest.toFinset := by
        rw [List.toFinset_cons, Finset.erase_insert]
        rwa [List.mem_toFinset]
      have hdrop : (old :: rest).rtake capacity = rest.rtake capacity := by
        rw [List.rtake, List.rtake, List.length_cons, Nat.succ_sub hlt, List.drop_succ_cons]
      rw [herase, ih hrest, hdrop]
    · rename_i hshort
      have hall : (old :: rest).rtake capacity = old :: rest := by
        rw [List.rtake, Nat.sub_eq_zero_of_le (Nat.not_lt.mp hshort), List.drop_zero]
      rw [hall]

/-- Keeping the last `k` of a list that was cut to its last `k` before. -/
theorem rtake_rtake_append (k : Nat) (history : List MessageId) (id : MessageId) :
    (history.rtake k ++ [id]).rtake k = (history ++ [id]).rtake k := by
  cases k with
  | zero => simp
  | succ k =>
    rw [List.rtake_concat_succ, List.rtake_concat_succ, List.rtake, List.rtake, List.rtake,
      List.drop_drop, List.length_drop]
    congr 2
    omega

/-- **A new id** joins the index, which goes on to hold the last ones. -/
theorem Remembers.inserted {d : DeliveredIndex} {history : List MessageId}
    (h : d.Remembers history) {id : MessageId} (hnew : id ∉ d.seen) :
    (d.insertIfNew id).2.Remembers (history ++ [id]) ∧
      (d.insertIfNew id).2.capacity = d.capacity := by
  have hout : id ∉ d.order := by
    rwa [h.seen, List.mem_toFinset] at hnew
  have hnodup : (d.order ++ [id]).Nodup :=
    List.nodup_append.mpr ⟨h.nodup, List.nodup_singleton id, fun x hx y hy hxy =>
      hout (List.mem_singleton.mp hy ▸ hxy ▸ hx)⟩
  have hseen : insert id d.seen = (d.order ++ [id]).toFinset := by
    rw [h.seen]
    ext x
    simp [or_comm]
  have hins : (d.insertIfNew id).2 = { d with
      seen := ((d.order ++ [id]).rtake d.capacity).toFinset
      order := (d.order ++ [id]).rtake d.capacity } := by
    rw [insertIfNew, if_neg hnew, hseen, trim_eq _ _ hnodup]
  rw [hins]
  refine ⟨⟨?_, rfl, ?_⟩, rfl⟩
  · dsimp only
    rw [h.order, rtake_rtake_append]
  · exact hnodup.sublist (List.drop_sublist _ _)

/-- An id that is not remembered was delivered `capacity` deliveries ago, or never. -/
theorem Remembers.spacing {d : DeliveredIndex} {xs ys : List MessageId} {id : MessageId}
    (h : d.Remembers (xs ++ id :: ys)) (hnew : id ∉ d.seen) : d.capacity ≤ ys.length := by
  rw [h.seen, List.mem_toFinset, h.order] at hnew
  refine Nat.le_of_not_lt fun hlt => hnew ?_
  rw [List.rtake, List.drop_append_of_le_length]
  · exact List.mem_append_right _ List.mem_cons_self
  · rw [List.length_append, List.length_cons]
    omega

end DeliveredIndex

/-! ## 2. The log of unordered deliveries -/

/-- The message that a reliable frame belongs to. -/
def reliableId : Frame → Option MessageId
  | .reliableData messageId _ _ _ _ _ => some messageId
  | .retx messageId _ _ _ => some messageId
  | _ => none

def ReceivedMessage.isUnordered (m : ReceivedMessage) : Bool := m.class' = .reliableUnordered

namespace DeliveryState

/-- The unordered messages that the frame hands over, with the message id they stem from. -/
def unorderedOf (d : DeliveryState) (a : Arrival) : List (MessageId × List UInt8) :=
  match reliableId a.frame with
  | some id => ((d.fate a).messages.filter (·.isUnordered)).map fun m => (id, m.payload)
  | none => []

/-- The unordered messages that the frames hand over, in order. -/
def unorderedLog (d : DeliveryState) : List Arrival → List (MessageId × List UInt8)
  | [] => []
  | a :: as => d.unorderedOf a ++ (d.after a).unorderedLog as

theorem labelled_filter (g : OrderedGroupId) (ready : List (UInt32 × List UInt8)) :
    (labelled g ready).filter (·.isUnordered) = [] := by
  rw [List.filter_eq_nil_iff]
  intro m hm
  obtain ⟨e, -, rfl⟩ := List.mem_map.mp hm
  simp [ReceivedMessage.isUnordered]

/-- **One frame** hands over an unordered message whose id is not remembered, and it is from then
on; or none, and the index stays. -/
theorem unorderedOf_cases {d : DeliveryState} (h : d.Consistent) (a : Arrival) :
    (d.unorderedOf a = [] ∧ (d.fate a).messages.filter (·.isUnordered) = [] ∧
      (d.after a).deliveredIndex = d.deliveredIndex) ∨
    ∃ id p, d.unorderedOf a = [(id, p)] ∧
      (d.fate a).messages.filter (·.isUnordered) = [⟨.reliableUnordered, p⟩] ∧
      id ∉ d.deliveredIndex.seen ∧
      (d.after a).deliveredIndex = (d.deliveredIndex.insertIfNew id).2 := by
  have hnil : (d.fate a).messages.filter (·.isUnordered) = [] → d.unorderedOf a = [] := by
    intro hf
    rw [unorderedOf]
    split
    · rw [hf]
      rfl
    · rfl
  have hcol : (d.collected a).GroupsConsistent := ⟨h.groups.gens, h.groups.bound⟩
  cases hw : d.completes a with
  | none =>
    obtain ⟨⟨table, hafter⟩, hmsgs⟩ := onFrame_of_not_completes hw
    have hf : (d.fate a).messages.filter (·.isUnordered) = [] := by
      rw [List.filter_eq_nil_iff]
      intro m hm
      obtain ⟨key, seq, gen, hclass⟩ := hmsgs m hm
      simp [ReceivedMessage.isUnordered, hclass]
    exact Or.inl ⟨hnil hf, hf, by rw [hafter]; rfl⟩
  | some w =>
    have hfate : d.fate a = _ := congrArg Prod.fst (onFrame_of_completes hw)
    have hafter : d.after a = _ := congrArg Prod.snd (onFrame_of_completes hw)
    rcases deliverWhole_cases hcol w with ⟨-, -, heq⟩ | ⟨-, hnew, heq⟩ | ⟨-, heq, groups, gens, n, hst⟩
    · rw [heq] at hfate hafter
      have hf : (d.fate a).messages.filter (·.isUnordered) = [] := by rw [hfate]; rfl
      exact Or.inl ⟨hnil hf, hf, by rw [hafter]; rfl⟩
    · rw [heq] at hfate hafter
      have hf : (d.fate a).messages.filter (·.isUnordered) =
          [⟨.reliableUnordered, w.payload⟩] := by rw [hfate]; rfl
      have hid : reliableId a.frame = some w.messageId := by
        rcases completes_eq_some hw with ⟨fid, k, p, hframe, -⟩ | ⟨fid, t, hframe, -⟩ <;>
          rw [hframe] <;> rfl
      refine Or.inr ⟨w.messageId, w.payload, ?_, hf, hnew, ?_⟩
      · rw [unorderedOf, hid, hf]
        rfl
      · rw [hafter]
        rfl
    · obtain ⟨d1, res, grp', htouch, -, hspec⟩ :=
        deliverOrdered_spec hcol w.groupId w.orderSeq w.payload
      have hf : (d.fate a).messages.filter (·.isUnordered) = [] := by
        rw [hfate, heq, hspec]
        cases res with
        | ok ready => exact labelled_filter w.groupId ready
        | error e => rfl
      refine Or.inl ⟨hnil hf, hf, ?_⟩
      rw [hafter, hst]
      rfl

/-- The log has the payloads of the unordered messages that are handed over. -/
theorem unorderedLog_payloads {d : DeliveryState} (h : d.Consistent) (as : List Arrival) :
    (d.handedOver as).filter (·.isUnordered) =
      (d.unorderedLog as).map fun e => ⟨.reliableUnordered, e.2⟩ := by
  induction as generalizing d with
  | nil => rfl
  | cons a as ih =>
    rw [handedOver, unorderedLog, List.filter_append, List.map_append, ih (h.after a)]
    rcases unorderedOf_cases h a with ⟨hof, hf, -⟩ | ⟨id, p, hof, hf, -⟩ <;> rw [hof, hf] <;> rfl

/-- **The run lemma**: the index remembers the log, and the log repeats no id within `capacity`
deliveries. -/
theorem unorderedLog_spacing {d : DeliveryState} (h : d.Consistent) {history : List MessageId}
    (hidx : d.deliveredIndex.Remembers history) (as : List Arrival) {xs ys zs : List MessageId}
    {id : MessageId}
    (hsplit : history ++ (d.unorderedLog as).map Prod.fst = xs ++ id :: (ys ++ id :: zs))
    (hold : history.length ≤ xs.length + ys.length + 1) :
    d.deliveredIndex.capacity ≤ ys.length := by
  induction as generalizing d history with
  | nil =>
    have hlen := congrArg List.length hsplit
    simp [unorderedLog] at hlen
    omega
  | cons a as ih =>
    rcases unorderedOf_cases h a with ⟨hof, -, hsame⟩ | ⟨id', p, hof, -, hnew, hnext⟩
    · rw [unorderedLog, hof, List.nil_append] at hsplit
      rw [← hsame] at hidx ⊢
      exact ih (h.after a) hidx hsplit hold
    · rw [unorderedLog, hof] at hsplit
      by_cases hlast : history.length = xs.length + ys.length + 1
      · -- this delivery is the second one of `id`
        have hcut : history ++ id' :: (((d.after a).unorderedLog as).map Prod.fst) =
            (xs ++ id :: ys) ++ id :: zs := by
          simpa using hsplit
        obtain ⟨hhist, htail⟩ := List.append_inj hcut (by simp; omega)
        rw [List.cons.inj htail |>.1] at hnew
        rw [hhist] at hidx
        exact hidx.spacing hnew
      · obtain ⟨hidx', hcap⟩ := hidx.inserted hnew
        rw [← hnext] at hidx' hcap
        rw [← hcap]
        refine ih (h.after a) hidx' ?_ ?_
        · simpa using hsplit
        · rw [List.length_append, List.length_singleton]
          omega

end DeliveryState

/-! ## 3. Every run -/

namespace GtpConnection

variable [CryptoSuite]

/-- The unordered messages handed over in a run, with the message id they stem from. -/
def unorderedLog (c : GtpConnection) (ops : List Op) : List (MessageId × List UInt8) :=
  c.hot.toDeliveryState.unorderedLog (c.arrivals ops)

/-- **At most once among 4096.** Over every run, whatever arrives, the unordered messages returned
are an initial part of the log, and between two entries of one message id in the log there are at
least 4096 others.  Ordered messages have their cursor, and unreliable ones neither. -/
theorem unordered_once_among_4096 (s : Setup) (ops : List Op) :
    (s.start.returned ops).filter (·.isUnordered) <+:
        ((s.start.unorderedLog ops).map fun e => (⟨.reliableUnordered, e.2⟩ : ReceivedMessage)) ∧
      ∀ xs ys zs id, (s.start.unorderedLog ops).map Prod.fst = xs ++ id :: (ys ++ id :: zs) →
        4096 ≤ ys.length := by
  refine ⟨?_, fun xs ys zs id hsplit => ?_⟩
  · rw [unorderedLog, ← DeliveryState.unorderedLog_payloads s.start_consistent]
    exact (returned_isInitial s.start ops).filter _
  · exact DeliveryState.unorderedLog_spacing s.start_consistent
      (DeliveredIndex.remembers_new 4096) _ hsplit (Nat.zero_le _)

end GtpConnection

end Gtp
