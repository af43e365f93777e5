/-
# The state table

Per state key the newest generation and sequence, and the id of the message that carried it.  The
keys are also kept in the order of their insertion, and the two agree (`Ordered`): a new key is put
last, and when there are too many the first ones are forgotten.  A key that is updated keeps its
place.

* `evict_spec` is the eviction loop, `Ordered.update_admitted` an update.
* The three things an update can do with a key -- replace, take in, take in and forget another one
  -- have a lemma each (`update_known`, `update_room`, `update_full`).
* `Ordered.fill` and `admitsAll_again`: distinct keys fill the table, and one key too many makes it
  forget the first, which it then admits again with whatever sequence.

A state key is compared by both its parts, which is what the order of its 48 bits does
(`StateKey.toU48_inj`).  Any updates whatever are the subject of `Gtp.StateRuns`.
-/
import Gtp.Scheduler
import Gtp.Lib.Maps

namespace Gtp

theorem StateKey.toU48_inj {k k' : StateKey} (h : k.toU48 = k'.toU48) : k = k' := by
  rw [← k.fromU48_toU48, h, k'.fromU48_toU48]

namespace StateTable

/-! ## 1. Order and entries -/

/-- The insertion order lists the keys of the entries, each once. -/
structure Ordered (t : StateTable) : Prop where
  nodup : t.order.Nodup
  keys : ∀ k : Nat, k ∈ t.order ↔ t.entries[k]? ≠ none
  room : 0 < t.capacity

theorem ordered_new : new.Ordered :=
  ⟨List.nodup_nil, fun k => (by simp [new]), by decide⟩

/-- The eviction loop drops the oldest keys, as many as are too many. -/
theorem evict_spec (capacity : Nat) (order : List Nat)
    (entries : Std.ExtTreeMap Nat (GenerationId × StateSequence × MessageId) compare) :
    ∃ dropped, order = dropped ++ (evict capacity entries order).2 ∧
      (evict capacity entries order).2.length ≤ capacity ∧
      (dropped = [] ∨ (evict capacity entries order).2.length = capacity) ∧
      (evict capacity entries order).1 = dropped.foldl (fun m k => m.erase k) entries := by
  induction order generalizing entries with
  | nil => exact ⟨[], rfl, Nat.zero_le _, Or.inl rfl, rfl⟩
  | cons oldest rest ih =>
    rw [evict]
    split
    · rename_i hover
      obtain ⟨dropped, hsplit, hlen, hfull, hentries⟩ := ih (entries.erase oldest)
      refine ⟨oldest :: dropped, congrArg (oldest :: ·) hsplit, hlen, Or.inr ?_, hentries⟩
      rcases hfull with rfl | hfull
      · have hrest := congrArg List.length hsplit
        rw [List.nil_append] at hrest
        rw [List.length_cons] at hover
        omega
      · exact hfull
    · rename_i hfits
      exact ⟨[], rfl, Nat.not_lt.mp hfits, Or.inl rfl, rfl⟩

/-! ## 2. Updates -/

section Update

variable {t : StateTable} {key : StateKey}

/-- A key that is not in the table is taken in; others may be forgotten for it. -/
theorem Ordered.update_fresh (h : t.Ordered) (hnone : t.entries[key.toU48]? = none)
    (gen : GenerationId) (seq : StateSequence) (id : MessageId) :
    (t.update key gen seq id).2 = none ∧ (t.update key gen seq id).1.Ordered ∧
      (t.update key gen seq id).1.entries[key.toU48]? = some (gen, seq, id) ∧
      ∀ k : Nat, k ≠ key.toU48 → (t.update key gen seq id).1.entries[k]? = t.entries[k]? ∨
        (t.update key gen seq id).1.entries[k]? = none := by
  have hnew : key.toU48 ∉ t.order := fun hmem => (h.keys _).mp hmem hnone
  have hnodup : (t.order ++ [key.toU48]).Nodup := by
    rw [List.nodup_append_comm]
    exact List.nodup_cons.mpr ⟨hnew, h.nodup⟩
  obtain ⟨dropped, hsplit, -, hfull, hentries⟩ := evict_spec t.capacity (t.order ++ [key.toU48])
    (t.entries.insert key.toU48 (gen, seq, id))
  unfold update
  rw [hnone]
  dsimp only
  generalize evict t.capacity (t.entries.insert key.toU48 (gen, seq, id))
    (t.order ++ [key.toU48]) = out at hsplit hfull hentries ⊢
  have hget : ∀ k : Nat, out.1[k]? = if k ∈ dropped then none
      else (t.entries.insert key.toU48 (gen, seq, id))[k]? := fun k => by
    rw [hentries, Maps.getElem?_foldl_erase]
  -- the key that is taken in is the last one, so it stays
  have hlast : key.toU48 ∈ out.2 := by
    have hkept : out.2 ≠ [] := by
      rintro hempty
      rcases hfull with rfl | hfull
      · rw [hempty] at hsplit
        simp at hsplit
      · have hroom := h.room
        rw [hempty, List.length_nil] at hfull
        omega
    have hend := congrArg List.getLast? hsplit
    rw [List.getLast?_append_of_ne_nil _ hkept, List.getLast?_concat] at hend
    exact List.mem_of_getLast? hend.symm
  have hdisjoint : ∀ k, k ∈ out.2 → k ∉ dropped := by
    intro k hk hdropped
    rw [hsplit] at hnodup
    exact List.disjoint_of_nodup_append hnodup hdropped hk
  refine ⟨rfl, ⟨?_, fun k => ?_, h.room⟩, ?_, fun k hk => ?_⟩
  · rw [hsplit] at hnodup
    exact hnodup.of_append_right
  · constructor
    · intro hk
      have hmem : k ∈ t.order ++ [key.toU48] := by
        rw [hsplit]
        exact List.mem_append_right _ hk
      rw [hget, if_neg (hdisjoint k hk), Maps.getElem?_insert]
      split
      · exact Option.some_ne_none _
      · rename_i hne
        rcases List.mem_append.mp hmem with hmem | hmem
        · exact (h.keys k).mp hmem
        · exact absurd (List.mem_singleton.mp hmem).symm hne
    · intro hk
      rw [hget] at hk
      split at hk
      · exact absurd rfl hk
      · rename_i hkept
        have hmem : k ∈ t.order ++ [key.toU48] := by
          rw [Maps.getElem?_insert] at hk
          split at hk
          · rename_i heq
            exact List.mem_append_right _ (List.mem_singleton.mpr heq.symm)
          · exact List.mem_append_left _ ((h.keys k).mpr hk)
        rw [hsplit] at hmem
        exact (List.mem_append.mp hmem).resolve_left hkept
  · rw [hget, if_neg (hdisjoint _ hlast), Maps.getElem?_insert, if_pos rfl]
  · rw [hget]
    split
    · exact Or.inr rfl
    · rw [Maps.getElem?_insert, if_neg (Ne.symm hk)]
      exact Or.inl rfl

/-- A key in the table keeps its place. -/
theorem update_known {curr : GenerationId × StateSequence × MessageId}
    (hcurr : t.entries[key.toU48]? = some curr) {gen : GenerationId} {seq : StateSequence}
    (hnewer : isNewer gen seq curr = true) (id : MessageId) : t.update key gen seq id =
      ({ t with entries := t.entries.insert key.toU48 (gen, seq, id) }, some curr.2.2) := by
  unfold update
  rw [hcurr]
  dsimp only
  rw [if_pos hnewer]

/-- A newer update of a key in the table names the message it supersedes. -/
theorem Ordered.update_newer (h : t.Ordered) {curr : GenerationId × StateSequence × MessageId}
    (hcurr : t.entries[key.toU48]? = some curr) {gen : GenerationId} {seq : StateSequence}
    (hnewer : isNewer gen seq curr = true) (id : MessageId) :
    (t.update key gen seq id).2 = some curr.2.2 ∧ (t.update key gen seq id).1.Ordered ∧
      (t.update key gen seq id).1.entries[key.toU48]? = some (gen, seq, id) ∧
      ∀ k : Nat, k ≠ key.toU48 → (t.update key gen seq id).1.entries[k]? = t.entries[k]? := by
  have hget : ∀ k : Nat, (t.entries.insert key.toU48 (gen, seq, id))[k]? =
      if key.toU48 = k then some (gen, seq, id) else t.entries[k]? := fun k =>
    Maps.getElem?_insert ..
  rw [update_known hcurr hnewer]
  refine ⟨rfl, ⟨h.nodup, fun k => ?_, h.room⟩, ?_, fun k hk => ?_⟩
  · rw [h.keys k, hget k]
    split
    · rename_i heq
      rw [← heq, hcurr]
      simp
    · rfl
  · rw [hget, if_pos rfl]
  · rw [hget, if_neg (Ne.symm hk)]

/-- While there is room, a new key is put last. -/
theorem update_room (hnone : t.entries[key.toU48]? = none) (hroom : t.order.length < t.capacity)
    (gen : GenerationId) (seq : StateSequence) (id : MessageId) :
    t.update key gen seq id = ({ t with
      entries := t.entries.insert key.toU48 (gen, seq, id)
      order := t.order ++ [key.toU48] }, none) := by
  have hlast : ∀ (order : List Nat) entries, order.length ≤ t.capacity →
      evict t.capacity entries order = (entries, order) := by
    intro order entries hle
    cases order with
    | nil => rfl
    | cons oldest rest => rw [evict, if_neg (Nat.not_lt.mpr hle)]
  unfold update
  rw [hnone]
  dsimp only
  rw [hlast]
  rw [List.length_append]
  exact hroom

/-- When the table is full, the oldest key is forgotten. -/
theorem update_full {oldest : Nat} {rest : List Nat} (hnone : t.entries[key.toU48]? = none)
    (horder : t.order = oldest :: rest) (hfull : t.order.length = t.capacity) (gen : GenerationId)
    (seq : StateSequence) (id : MessageId) :
    t.update key gen seq id = ({ t with
      entries := (t.entries.insert key.toU48 (gen, seq, id)).erase oldest
      order := rest ++ [key.toU48] }, none) := by
  rw [horder, List.length_cons] at hfull
  unfold update
  rw [hnone, horder]
  dsimp only
  rw [List.cons_append, evict, if_pos (by simp; omega)]
  cases hrest : rest ++ [key.toU48] with
  | nil => rfl
  | cons second others =>
    rw [evict, if_neg]
    rw [← hrest, List.length_append, List.length_singleton, hfull]
    exact Nat.lt_irrefl _

theorem update_capacity (t : StateTable) (key : StateKey) (gen : GenerationId)
    (seq : StateSequence) (id : MessageId) :
    (t.update key gen seq id).1.capacity = t.capacity := by
  unfold update
  split
  · split <;> rfl
  · rfl

/-- **An update that is admitted** is what the table has of its key then, and the entries of other
keys stay or are forgotten. -/
theorem Ordered.update_admitted (h : t.Ordered) {gen : GenerationId} {seq : StateSequence}
    (hadmitted : t.shouldAdmit key gen seq = true) (id : MessageId) :
    (t.update key gen seq id).1.Ordered ∧
      (t.update key gen seq id).1.entries[key.toU48]? = some (gen, seq, id) ∧
      ∀ k : Nat, k ≠ key.toU48 → (t.update key gen seq id).1.entries[k]? = t.entries[k]? ∨
        (t.update key gen seq id).1.entries[k]? = none := by
  cases hcurr : t.entries[key.toU48]? with
  | none => exact (h.update_fresh hcurr gen seq id).2
  | some curr =>
    rw [shouldAdmit, hcurr] at hadmitted
    obtain ⟨-, hordered, hentry, hothers⟩ := h.update_newer hcurr hadmitted id
    exact ⟨hordered, hentry, fun k hk => Or.inl (hothers k hk)⟩

end Update

/-! ## 3. Updates one after the other -/

/-- A key and a sequence; the generation is 0. -/
abbrev Refresh := StateKey × StateSequence

theorem shouldAdmit_unknown {t : StateTable} {key : StateKey} (h : t.entries[key.toU48]? = none)
    (gen : GenerationId) (seq : StateSequence) : t.shouldAdmit key gen seq = true := by
  unfold shouldAdmit
  rw [h]

/-- The table after the updates, whose messages have the ids from `id` on. -/
def refresh : StateTable → MessageId → List Refresh → StateTable
  | t, _, [] => t
  | t, id, u :: us => refresh (t.update u.1 0 u.2 id).1 (id + 1) us

/-- It admits each of them. -/
def AdmitsAll : StateTable → MessageId → List Refresh → Prop
  | _, _, [] => True
  | t, id, u :: us =>
    t.shouldAdmit u.1 0 u.2 = true ∧ AdmitsAll (t.update u.1 0 u.2 id).1 (id + 1) us

theorem admitsAll_append {t : StateTable} {id : MessageId} {us vs : List Refresh}
    (h : t.AdmitsAll id us) (h' : ∀ id', (t.refresh id us).AdmitsAll id' vs) :
    t.AdmitsAll id (us ++ vs) := by
  induction us generalizing t id with
  | nil => exact h' id
  | cons u us ih => exact ⟨h.1, ih h.2 h'⟩

/-- **Distinct keys fill the table** in their order, while there is room. -/
theorem Ordered.fill {t : StateTable} (h : t.Ordered) (id : MessageId) (us : List Refresh)
    (hnodup : (t.order ++ us.map fun u => u.1.toU48).Nodup)
    (hroom : t.order.length + us.length ≤ t.capacity) :
    t.AdmitsAll id us ∧ (t.refresh id us).Ordered ∧
      (t.refresh id us).capacity = t.capacity ∧
      (t.refresh id us).order = t.order ++ us.map fun u => u.1.toU48 := by
  induction us generalizing t id with
  | nil => exact ⟨trivial, h, rfl, (List.append_nil _).symm⟩
  | cons u us ih =>
    have hnone : t.entries[u.1.toU48]? = none := by
      by_contra hsome
      exact List.disjoint_of_nodup_append hnodup ((h.keys _).mpr hsome) List.mem_cons_self
    rw [List.length_cons] at hroom
    have hupdate := update_room hnone (by omega) 0 u.2 id
    have horder : (t.update u.1 0 u.2 id).1.order = t.order ++ [u.1.toU48] := by rw [hupdate]
    obtain ⟨-, hordered, -⟩ := h.update_fresh hnone 0 u.2 id
    obtain ⟨hadmits, hordered', hcapacity, horder'⟩ := ih hordered (id + 1)
      (by
        rw [horder, List.append_assoc]
        exact hnodup)
      (by
        rw [horder, update_capacity, List.length_append, List.length_singleton]
        omega)
    rw [update_capacity] at hcapacity
    rw [horder, List.append_assoc] at horder'
    exact ⟨⟨shouldAdmit_unknown hnone 0 u.2, hadmits⟩, hordered', hcapacity, horder'⟩

/-- **One key too many**: the table forgets the first one, and admits it again. -/
theorem admitsAll_again {t : StateTable} (h : t.Ordered) (hempty : t.order = []) (id : MessageId)
    {u v : Refresh} {us : List Refresh} (hfull : us.length + 1 = t.capacity)
    (hnodup : ((u :: (us ++ [v])).map fun u => u.1.toU48).Nodup) :
    t.AdmitsAll id (u :: (us ++ [v]) ++ [u]) := by
  have hsplit : u :: (us ++ [v]) ++ [u] = (u :: us) ++ [v, u] := by simp
  have hkeys : (t.order ++ (u :: us).map fun u => u.1.toU48).Nodup := by
    rw [hempty, List.nil_append]
    rw [← List.cons_append, List.map_append] at hnodup
    exact hnodup.of_append_left
  obtain ⟨hadmits, hordered, hcapacity, horder⟩ := h.fill id (u :: us) hkeys (by
    rw [hempty, List.length_nil, List.length_cons]
    omega)
  rw [hempty, List.nil_append] at horder
  rw [hsplit]
  refine admitsAll_append hadmits fun id' => ?_
  generalize t.refresh id (u :: us) = t' at hordered hcapacity horder
  -- the last key is new, and the first one leaves for it
  have hnone : t'.entries[v.1.toU48]? = none := by
    by_contra hsome
    have hmem := (hordered.keys _).mpr hsome
    rw [horder] at hmem
    rw [← List.cons_append, List.map_append] at hnodup
    exact List.disjoint_of_nodup_append hnodup hmem List.mem_cons_self
  have hlen : t'.order.length = t'.capacity := by
    rw [horder, hcapacity, List.length_map, List.length_cons, hfull]
  have hupdate := update_full hnone horder hlen 0 v.2 id'
  obtain ⟨-, hordered', -⟩ := hordered.update_fresh hnone 0 v.2 id'
  have hforgotten : (t'.update v.1 0 v.2 id').1.entries[u.1.toU48]? = none := by
    by_contra hsome
    have hmem := (hordered'.keys _).mpr hsome
    rw [hupdate] at hmem
    rw [List.map_cons, List.nodup_cons, List.map_append] at hnodup
    exact hnodup.1 hmem
  exact ⟨shouldAdmit_unknown hnone 0 v.2, shouldAdmit_unknown hforgotten 0 u.2, trivial⟩

end StateTable

end Gtp
