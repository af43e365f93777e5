/-
# A fabric delivers what it accepted, once, and on time

A transmit puts no packet on its link's queue, one, or one and a copy.  `sent` is what a run puts
there and `drained` is what `drain_ready` gives back.

* `call_conserves` is one call: what a queue held, with what the call puts there, is what it gives
  back, with what the queue holds then.  The two lists agree up to order.
* `run_conserves` is a run: what has not been drained is still on a queue.
* `mem_sentBy` and `mem_drainedBy` are about one packet: it is the datagram of a transmit, due
  later, and it is handed out when it is due.

`fabric_delivers` puts them together: after `drain_ready(now)` nothing that was due by `now` is
left. Packets may overtake each other, as the profile's jitter has it; a dropped packet is in the
log and nowhere else.
-/
import Gtp.Sim.Independence

namespace Gtp

namespace SimulatedFabric

/-! ## 1. What goes in and what comes out -/

/-- The packets on the queues. -/
def inFlight (f : SimulatedFabric) : List SimulatedPacket := f.links.flatMap (·.queue)

/-- What a call puts on a queue. -/
def sentBy (f : SimulatedFabric) : FabricCall → List SimulatedPacket
  | .transmit link direction src dest data now =>
    (f.links[link]?).elim [] fun l =>
      (txOutcome (l.profile direction) (l.rng direction) data.length now).1.packets src dest data
  | _ => []

/-- What a call gives back. -/
def drainedBy (f : SimulatedFabric) : FabricCall → List SimulatedPacket
  | .drainReady now => (f.drainReady now).1
  | _ => []

/-- What the calls put on the queues, up to one that panics. -/
def sent (f : SimulatedFabric) : List FabricCall → List SimulatedPacket
  | [] => []
  | c :: calls => f.sentBy c ++ (f.call c).elim [] fun f' => f'.sent calls

/-- What the calls give back, up to one that panics. -/
def drained (f : SimulatedFabric) : List FabricCall → List SimulatedPacket
  | [] => []
  | c :: calls => f.drainedBy c ++ (f.call c).elim [] fun f' => f'.drained calls

/-! ## 2. One call -/

variable {f f' : SimulatedFabric}

/-- A link whose queue has grown takes the place of another. -/
theorem flatMap_set_perm {links : List SimulatedLink} {k : Nat} {old new : SimulatedLink}
    {packets : List SimulatedPacket} (hold : links[k]? = some old)
    (hnew : new.queue = old.queue ++ packets) :
    ((links.set k new).flatMap (·.queue)).Perm (links.flatMap (·.queue) ++ packets) := by
  induction links generalizing k with
  | nil => cases hold
  | cons l links ih =>
    cases k with
    | zero =>
      obtain rfl := Option.some.inj hold
      rw [List.set_cons_zero, List.flatMap_cons, List.flatMap_cons, hnew, List.append_assoc,
        List.append_assoc]
      exact List.Perm.append_left _ List.perm_append_comm
    | succ k =>
      rw [List.set_cons_succ, List.flatMap_cons, List.flatMap_cons, List.append_assoc]
      exact List.Perm.append_left _ (ih hold)

theorem inFlight_tickEntries {now : MonotonicTime} {entries : List ScriptedImpairment}
    (h : tickEntries now entries f = some f') : f'.inFlight.Perm f.inFlight := by
  induction entries generalizing f with
  | nil =>
    cases h
    exact .refl _
  | cons entry rest ih =>
    rw [tickEntries] at h
    split at h
    · obtain ⟨l, hl, hrest⟩ := Option.bind_eq_some_iff.mp h
      have hqueue : (l.impair entry).queue = l.queue ++ [] := by
        rw [List.append_nil]
        unfold SimulatedLink.impair
        split <;> rfl
      have hset := flatMap_set_perm hl hqueue
      rw [List.append_nil] at hset
      exact (ih hrest).trans hset
    · cases h
      exact .refl _

/-- What is drained and what stays were on the queues. -/
theorem drainReady_perm (f : SimulatedFabric) (now : MonotonicTime) :
    ((f.drainReady now).1 ++ (f.drainReady now).2.inFlight).Perm f.inFlight := by
  have hsplit : ∀ links : List SimulatedLink,
      ((links.flatMap fun l => l.queue.filter (·.deliverAt ≤ now)) ++
        (links.flatMap fun l => l.queue.filter fun p => ¬ p.deliverAt ≤ now)).Perm
      (links.flatMap (·.queue)) := by
    intro links
    induction links with
    | nil => exact .refl _
    | cons l links ih =>
      have hone := List.filter_append_perm (fun p : SimulatedPacket => decide (p.deliverAt ≤ now))
        l.queue
      have hnot : (fun p : SimulatedPacket => decide ¬ p.deliverAt ≤ now) =
          fun p => !decide (p.deliverAt ≤ now) := by
        funext p
        exact decide_not
      rw [hnot] at ih ⊢
      simp only [List.flatMap_cons]
      refine List.Perm.trans ?_ (hone.append ih)
      rw [List.append_assoc, List.append_assoc]
      refine List.Perm.append_left _ ?_
      rw [← List.append_assoc, ← List.append_assoc]
      exact List.Perm.append_right _ List.perm_append_comm
  unfold drainReady inFlight
  dsimp only
  rw [List.flatMap_map]
  exact (List.Perm.append_right _ (List.perm_insertionSort ..)).trans (hsplit f.links)

/-- **One call.** -/
theorem call_conserves {c : FabricCall} (h : f.call c = some f') :
    (f.drainedBy c ++ f'.inFlight).Perm (f.inFlight ++ f.sentBy c) := by
  cases c with
  | tickScript now =>
    change ([] ++ f'.inFlight).Perm (f.inFlight ++ [])
    rw [List.nil_append, List.append_nil]
    exact inFlight_tickEntries h
  | transmit l d src dest data now =>
    obtain ⟨old, outcome, hold, rfl, rfl⟩ := transmit_eq_some h
    have hsent : f.sentBy (.transmit l d src dest data now) =
        (txOutcome (old.profile d) (old.rng d) data.length now).1.packets src dest data := by
      simp [sentBy, hold]
    rw [hsent]
    refine flatMap_set_perm hold ?_
    cases d <;> rfl
  | drainReady now =>
    obtain rfl := Option.some.inj h
    change ((f.drainReady now).1 ++ (f.drainReady now).2.inFlight).Perm (f.inFlight ++ [])
    rw [List.append_nil]
    exact f.drainReady_perm now

/-- What a transmit puts on a queue is its datagram, due later. -/
theorem mem_sentBy {c : FabricCall} {p : SimulatedPacket} (h : p ∈ f.sentBy c) :
    ∃ link direction now, c = .transmit link direction p.src p.dest p.data now ∧
      min now u64Max ≤ p.deliverAt := by
  have hlater : ∀ a b : Nat, min a u64Max ≤ satAdd a b := by
    intro a b
    unfold satAdd
    omega
  cases c with
  | tickScript now => cases h
  | drainReady now => cases h
  | transmit l d src dest data now =>
    unfold sentBy at h
    dsimp only at h
    cases hl : f.links[l]? with
    | none =>
      rw [hl] at h
      cases h
    | some link =>
      rw [hl] at h
      have hdue : ∀ deliverAt duplicate,
          (txOutcome (link.profile d) (link.rng d) data.length now).1 =
            .delivered deliverAt duplicate → min now u64Max ≤ deliverAt := by
        intro deliverAt duplicate hout
        unfold txOutcome at hout
        dsimp only at hout
        split at hout
        · cases hout
        · obtain ⟨rfl, -⟩ := TxOutcome.delivered.inj hout
          split
          · exact (le_min (hlater _ _) (min_le_right _ _)).trans (hlater _ _)
          · exact hlater _ _
      dsimp only [Option.elim_some] at h
      generalize (txOutcome (link.profile d) (link.rng d) data.length now).1 = outcome at h hdue
      cases outcome with
      | dropped => cases h
      | delivered deliverAt duplicate =>
        have hat := hdue deliverAt duplicate rfl
        unfold TxOutcome.packets at h
        dsimp only at h
        rcases List.mem_cons.mp h with rfl | hcopy
        · exact ⟨l, d, now, rfl, hat⟩
        · split at hcopy
          · rw [List.mem_singleton.mp hcopy]
            exact ⟨l, d, now, rfl, (le_min hat (min_le_right _ _)).trans (hlater _ _)⟩
          · cases hcopy

theorem mem_drainedBy {c : FabricCall} {p : SimulatedPacket} (h : p ∈ f.drainedBy c) :
    ∃ now, c = .drainReady now ∧ p.deliverAt ≤ now := by
  cases c with
  | tickScript now => cases h
  | transmit l d src dest data now => cases h
  | drainReady now =>
    refine ⟨now, rfl, ?_⟩
    change p ∈ (f.drainReady now).1 at h
    unfold drainReady at h
    dsimp only at h
    rw [List.mem_insertionSort, List.mem_flatMap] at h
    obtain ⟨l, -, hp⟩ := h
    exact of_decide_eq_true (List.mem_filter.mp hp).2

theorem inFlight_drainReady {now : MonotonicTime} {p : SimulatedPacket}
    (h : p ∈ (f.drainReady now).2.inFlight) : ¬ p.deliverAt ≤ now := by
  unfold drainReady inFlight at h
  dsimp only at h
  rw [List.flatMap_map, List.mem_flatMap] at h
  obtain ⟨l, -, hp⟩ := h
  exact of_decide_eq_true (List.mem_filter.mp hp).2

/-! ## 3. Runs -/

/-- **Conservation.**  What was drained, with what is still on the queues, is what was on them at
first, with what was sent. -/
theorem run_conserves {calls : List FabricCall} (h : f.run calls = some f') :
    (f.drained calls ++ f'.inFlight).Perm (f.inFlight ++ f.sent calls) := by
  induction calls generalizing f with
  | nil =>
    cases h
    rw [drained, sent, List.nil_append, List.append_nil]
  | cons c calls ih =>
    rw [run, List.foldlM_cons] at h
    obtain ⟨f₁, hcall, hrest⟩ := Option.bind_eq_some_iff.mp h
    have hone := call_conserves hcall
    have hlater := ih hrest
    rw [drained, sent, hcall, Option.elim_some, Option.elim_some, List.append_assoc]
    have hfirst : (f.drainedBy c ++ (f₁.drained calls ++ f'.inFlight)).Perm
        (f.drainedBy c ++ (f₁.inFlight ++ f₁.sent calls)) := hlater.append_left _
    have hsecond : (f.drainedBy c ++ f₁.inFlight ++ f₁.sent calls).Perm
        (f.inFlight ++ f.sentBy c ++ f₁.sent calls) := hone.append_right _
    rw [List.append_assoc, List.append_assoc] at hsecond
    exact hfirst.trans hsecond

theorem mem_sent {calls : List FabricCall} {p : SimulatedPacket} (h : p ∈ f.sent calls) :
    ∃ link direction now, .transmit link direction p.src p.dest p.data now ∈ calls ∧
      min now u64Max ≤ p.deliverAt := by
  induction calls generalizing f with
  | nil => cases h
  | cons c calls ih =>
    rw [sent] at h
    rcases List.mem_append.mp h with hone | hrest
    · obtain ⟨link, direction, now, rfl, hat⟩ := mem_sentBy hone
      exact ⟨link, direction, now, List.mem_cons_self, hat⟩
    · cases hcall : f.call c with
      | none =>
        rw [hcall] at hrest
        cases hrest
      | some f₁ =>
        rw [hcall] at hrest
        obtain ⟨link, direction, now, hmem, hat⟩ := ih hrest
        exact ⟨link, direction, now, List.mem_cons_of_mem _ hmem, hat⟩

theorem mem_drained {calls : List FabricCall} {p : SimulatedPacket} (h : p ∈ f.drained calls) :
    ∃ now, .drainReady now ∈ calls ∧ p.deliverAt ≤ now := by
  induction calls generalizing f with
  | nil => cases h
  | cons c calls ih =>
    rw [drained] at h
    rcases List.mem_append.mp h with hone | hrest
    · obtain ⟨now, rfl, hat⟩ := mem_drainedBy hone
      exact ⟨now, List.mem_cons_self, hat⟩
    · cases hcall : f.call c with
      | none =>
        rw [hcall] at hrest
        cases hrest
      | some f₁ =>
        rw [hcall] at hrest
        obtain ⟨now, hmem, hat⟩ := ih hrest
        exact ⟨now, List.mem_cons_of_mem _ hmem, hat⟩

theorem drained_append {calls : List FabricCall} (h : f.run calls = some f') (c : FabricCall) :
    f.drained (calls ++ [c]) = f.drained calls ++ f'.drainedBy c := by
  induction calls generalizing f with
  | nil =>
    cases h
    rw [List.nil_append, drained, drained, List.nil_append]
    cases f'.call c <;> simp [drained]
  | cons first calls ih =>
    rw [run, List.foldlM_cons] at h
    obtain ⟨f₁, hcall, hrest⟩ := Option.bind_eq_some_iff.mp h
    rw [List.cons_append, drained, drained, hcall, Option.elim_some, Option.elim_some, ih hrest,
      List.append_assoc]

/-- **A fabric delivers what it accepted.** Take any calls on a new fabric whose indices name links.
They return, and what they drained, with what is still on the queues, is what they sent, up to
order. After `drain_ready(now)` every packet that is due by `now` has been handed out as often as it
was put on a queue.  None is handed out before it is due, and each is the datagram of a transmit and
due no earlier than that.  Which packets are dropped, copied or late is up to the random streams. -/
theorem fabric_delivers (masterSeed : UInt64) (profiles : List (NetworkProfile × NetworkProfile))
    (script : List ScriptedImpairment) (calls : List FabricCall) (now : MonotonicTime)
    (h : InBounds ((new masterSeed profiles).withScript script) calls) :
    ∃ f', ((new masterSeed profiles).withScript script).run calls = some f' ∧
      (((new masterSeed profiles).withScript script).drained calls ++ f'.inFlight).Perm
        (((new masterSeed profiles).withScript script).sent calls) ∧
      (∀ p : SimulatedPacket, p.deliverAt ≤ now →
        (((new masterSeed profiles).withScript script).drained
          (calls ++ [.drainReady now])).count p =
        (((new masterSeed profiles).withScript script).sent calls).count p) ∧
      (∀ p ∈ ((new masterSeed profiles).withScript script).drained calls,
        ∃ t, .drainReady t ∈ calls ∧ p.deliverAt ≤ t) ∧
      ∀ p ∈ ((new masterSeed profiles).withScript script).sent calls,
        ∃ link direction t, .transmit link direction p.src p.dest p.data t ∈ calls ∧
          min t u64Max ≤ p.deliverAt := by
  obtain ⟨f', hrun⟩ := run_isSome _ calls h
  obtain ⟨f, hf⟩ : ∃ f, f = (new masterSeed profiles).withScript script := ⟨_, rfl⟩
  have hempty : f.inFlight = [] := by
    rw [hf]
    refine List.flatMap_eq_nil_iff.mpr ?_
    intro l hl
    obtain ⟨i, hi, rfl⟩ := List.mem_mapIdx.mp hl
    rfl
  rw [← hf] at hrun ⊢
  have hconserves := run_conserves hrun
  rw [hempty, List.nil_append] at hconserves
  refine ⟨f', hrun, hconserves, ?_, fun p hp => mem_drained hp, fun p hp => mem_sent hp⟩
  intro p hdue
  have hlast := f'.drainReady_perm now
  have hnone : (f'.drainReady now).2.inFlight.count p = 0 :=
    List.count_eq_zero.mpr fun hmem => inFlight_drainReady hmem hdue
  have hall := (List.perm_iff_count.mp hconserves) p
  have hready := (List.perm_iff_count.mp hlast) p
  rw [List.count_append] at hall hready
  rw [drained_append hrun, List.count_append]
  change (f.drained calls).count p + ((f'.drainReady now).1).count p = _
  omega

/-- The theorem at a fabric of one link, with a packet each way and a drain in between. -/
theorem fabric_delivers_lan : ∃ f',
    ((new 7 [(.lan, .lan)]).withScript []).run
        [.transmit 0 .forward ⟨1, 1⟩ ⟨2, 2⟩ [1] 5, .drainReady 2000,
          .transmit 0 .reverse ⟨2, 2⟩ ⟨1, 1⟩ [2] 2000] = some f' ∧
      (((new 7 [(.lan, .lan)]).withScript []).drained
          [.transmit 0 .forward ⟨1, 1⟩ ⟨2, 2⟩ [1] 5, .drainReady 2000,
            .transmit 0 .reverse ⟨2, 2⟩ ⟨1, 1⟩ [2] 2000] ++ f'.inFlight).Perm
        (((new 7 [(.lan, .lan)]).withScript []).sent
          [.transmit 0 .forward ⟨1, 1⟩ ⟨2, 2⟩ [1] 5, .drainReady 2000,
            .transmit 0 .reverse ⟨2, 2⟩ ⟨1, 1⟩ [2] 2000]) := by
  obtain ⟨f', hrun, hconserves, -⟩ := fabric_delivers 7 [(.lan, .lan)] []
    [.transmit 0 .forward ⟨1, 1⟩ ⟨2, 2⟩ [1] 5, .drainReady 2000,
      .transmit 0 .reverse ⟨2, 2⟩ ⟨1, 1⟩ [2] 2000] 4000
    (by simp [InBounds, callInBounds, withScript, new])
  exact ⟨f', hrun, hconserves⟩

end SimulatedFabric

end Gtp
