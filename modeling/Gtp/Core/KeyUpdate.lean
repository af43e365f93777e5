/-
# Announced key updates

`ratchet_and_announce` queues a `KeyUpdate` and defers the ratchet, so that the announcement leaves
under the key that the peer still holds.  The two are coupled by a flag only: the ratchet fires
after whatever datagram is accepted next, whether or not the announcement is in it.

* `Coupled` says when they stay together -- the datagram that fires the ratchet takes every queued
  announcement along, and nothing else ratchets while one is queued.
* The invariant is `NextPhaseQueued`: every queued announcement names the next phase.
  `NextPhaseQueued.step` is one call.
* In a run of such calls every announcement leaves in the phase before the one it names
  (`announced_under_old_key`).

`announcement_behind_challenge` is a run outside the condition: a directed challenge ahead of the
announcement claims the datagram, the ratchet fires behind it, and the announcement leaves under the
key that it announces.  Whether a peer can open such an announcement is not the subject here; what
the two ends of a session make of announcements is in `Gtp.Core.Peers`.
-/
import Gtp.Core.KeyChain

namespace Gtp

open Frame

namespace GtpConnection

variable [CryptoSuite]

/-! ## 1. Statement -/

/-- The call transmits the announcement of phase `p`: it is among the control frames of the
datagram, which is sealed with the current key. -/
def Announces (c : GtpConnection) (now : MonotonicTime) (outBuf : List UInt8) (p : Nat) : Prop :=
  ∃ dest dg d hd, c.datagramOf (.produce now outBuf) = some (dest, dg) ∧
    Transmitted c now outBuf.length d hd dg (c.step (.produce now outBuf)) ∧
    .keyUpdate p ∈ d.drained

/-- Whatever call transmits an announcement now, it is sealed in the phase before the one
announced. -/
def OldKeyHeld (c : GtpConnection) : Prop :=
  ∀ now outBuf p, c.Announces now outBuf p → c.hot.keyPhaseCounter + 1 = p

omit [CryptoSuite] in
/-- An announcement waits in the control queue. -/
def Announcing (c : GtpConnection) : Prop := ∃ p, .keyUpdate p ∈ c.hot.controlQueue

/-- The datagram would make the connection ratchet: it opens, announces a newer phase, and the
grace window is closed once the datagram itself has been counted. -/
def Ratchets (c : GtpConnection) (datagram : List UInt8) : Prop :=
  c.hot.tickRxKeyGrace.graceOpen = false ∧
    ∃ hd pt, c.Opens datagram hd pt ∧ ∃ q proof,
      .keyUpdate q proof ∈ readable (FrameIterator.collect pt) ∧ c.hot.keyPhaseCounter < q.toNat

/-- The announcement and its ratchet stay together: a call that fires the deferred ratchet drains
every queued announcement, and nothing else ratchets while one is queued. -/
def Coupled (c : GtpConnection) : Op → Prop
  | .produce now outBuf => c.hot.pendingRatchet = true → c.hot.graceOpen = false →
      ∀ rest, c.hot.controlQueue = c.drainable now outBuf.length ++ rest →
        ∀ p, .keyUpdate p ∉ rest
  | .handleIncoming _ datagram _ _ => c.Announcing → ¬ c.Ratchets datagram
  | .ratchetKey => c.Announcing → c.hot.graceOpen = true
  | _ => True

/-! ## 2. The invariant -/

omit [CryptoSuite] in
/-- Every queued announcement names the next phase. -/
def NextPhaseQueued (c : GtpConnection) : Prop :=
  ∀ p, .keyUpdate p ∈ c.hot.controlQueue → c.hot.keyPhaseCounter + 1 = p

theorem NextPhaseQueued.oldKeyHeld {c : GtpConnection} (h : c.NextPhaseQueued) : c.OldKeyHeld := by
  rintro now outBuf p ⟨dest, dg, d, hd, -, htrans, hp⟩
  obtain ⟨queue, hqueue, -⟩ := htrans.rest
  exact h p (by rw [hqueue]; exact List.mem_append_left _ hp)

omit [CryptoSuite] in
/-- The invariant reads the link only. -/
theorem NextPhaseQueued.of_link {c : GtpConnection} {l : Link} (hlink : c.hot.link = l)
    (h : ∀ p, .keyUpdate p ∈ l.controlQueue → l.keys.keyPhaseCounter + 1 = p) :
    c.NextPhaseQueued := by
  subst hlink
  exact h

/-- Frames that announce nothing newer leave the counter alone, and so does everything while the
grace window is open. -/
theorem onFrames_counter (cid : ConnectionId) (fs : List Frame) (k : SessionKeys)
    (h : k.graceOpen = true ∨ ∀ q proof, .keyUpdate q proof ∈ fs → q.toNat ≤ k.keyPhaseCounter) :
    fs.foldl (SessionKeys.onFrame cid) k = k := by
  induction fs with
  | nil => rfl
  | cons f fs ih =>
    have hf : SessionKeys.onFrame cid k f = k := by
      cases f with
      | keyUpdate q proof =>
        show k.follow cid q = k
        unfold SessionKeys.follow SessionKeys.ratchet
        split
        · rename_i hlt
          rcases h with h | h
          · rw [if_pos h]
          · exact absurd (h q proof List.mem_cons_self) (Nat.not_le.mpr hlt)
        · rfl
      | _ => rfl
    rw [List.foldl_cons, hf]
    exact ih (h.imp id fun h q proof hm => h q proof (List.mem_cons_of_mem _ hm))

omit [CryptoSuite] in
theorem tickRxKeyGrace_counter (k : SessionKeys) :
    k.tickRxKeyGrace.keyPhaseCounter = k.keyPhaseCounter := by
  unfold SessionKeys.tickRxKeyGrace
  split <;> rfl

/-- A datagram that does not ratchet counts down the grace window and nothing else. -/
theorem received_keys {c : GtpConnection} {dg : List UInt8} {hd : PacketHeader} {pt : List UInt8}
    (hopen : c.Opens dg hd pt) (h : ¬ c.Ratchets dg) :
    (readable (FrameIterator.collect pt)).foldl (SessionKeys.onFrame c.hot.connectionId)
      c.hot.tickRxKeyGrace = c.hot.tickRxKeyGrace := by
  refine onFrames_counter _ _ _ ?_
  by_cases hgrace : c.hot.tickRxKeyGrace.graceOpen = true
  · exact Or.inl hgrace
  · refine Or.inr fun q proof hq => ?_
    rw [tickRxKeyGrace_counter]
    by_contra hlt
    exact h ⟨Bool.eq_false_iff.mpr hgrace, hd, pt, hopen, q, proof, hq, Nat.not_le.mp hlt⟩

/-- A datagram that ratchets does so once: behind the first announcement the window is open. -/
theorem received_keys_ratchets {c : GtpConnection} {dg : List UInt8} {hd : PacketHeader}
    {pt : List UInt8} (hopen : c.Opens dg hd pt) (h : c.Ratchets dg) :
    (readable (FrameIterator.collect pt)).foldl (SessionKeys.onFrame c.hot.connectionId)
      c.hot.tickRxKeyGrace = c.hot.tickRxKeyGrace.advance c.hot.connectionId := by
  obtain ⟨hgrace, hd', pt', hopen', q, proof, hq, hlt⟩ := h
  obtain ⟨rfl, rfl⟩ := hopen.inj hopen'
  rw [← tickRxKeyGrace_counter] at hlt
  generalize c.hot.tickRxKeyGrace = k at hgrace hlt ⊢
  generalize readable (FrameIterator.collect pt) = fs at hq ⊢
  induction fs with
  | nil => cases hq
  | cons f fs ih =>
    by_cases hf : SessionKeys.onFrame c.hot.connectionId k f = k
    · rw [List.foldl_cons, hf]
      refine ih ((List.mem_cons.mp hq).resolve_left ?_)
      rintro rfl
      have hnext := congrArg SessionKeys.keyPhaseCounter hf
      simp only [SessionKeys.onFrame, SessionKeys.follow, SessionKeys.ratchet, if_pos hlt, hgrace,
        Bool.false_eq_true, if_false] at hnext
      exact absurd hnext (Nat.succ_ne_self _)
    · have hadv : SessionKeys.onFrame c.hot.connectionId k f = k.advance c.hot.connectionId := by
        cases f with
        | keyUpdate q' proof' =>
          simp only [SessionKeys.onFrame, SessionKeys.follow, SessionKeys.ratchet, hgrace,
            Bool.false_eq_true, if_false] at hf ⊢
          split at hf
          · rw [if_pos ‹_›]
          · exact absurd rfl hf
        | _ => exact absurd rfl hf
      rw [List.foldl_cons, hadv]
      exact onFrames_counter _ _ _ (Or.inl rfl)

/-- **One call.** -/
theorem NextPhaseQueued.step (c : GtpConnection) (op : Op) (hop : c.Coupled op)
    (h : c.NextPhaseQueued) : (c.step op).NextPhaseQueued := by
  cases c.step_moves op with
  | quiet ctrls _ hctrls hlink =>
    refine .of_link hlink fun p hp => ?_
    rcases List.mem_append.mp hp with hp | hp
    · exact h p hp
    · cases hctrls _ hp
  | ignored _ hhot => exact .of_link (congrArg ConnectionHot.link hhot) h
  | received hopen hrec =>
    obtain ⟨answers, hans, hlink⟩ := hrec.link
    refine .of_link hlink fun p hp => ?_
    rcases List.mem_append.mp hp with hp | hp
    · rw [received_keys hopen (hop ⟨p, hp⟩), tickRxKeyGrace_counter]
      exact h p hp
    · cases hans _ hp
  | silent _ hlink => exact .of_link hlink h
  | transmitted _ htrans =>
    obtain ⟨queue, hqueue, hlink⟩ := htrans.rest
    refine .of_link hlink fun p hp => ?_
    dsimp only at hp ⊢
    have hold := h p (by rw [hqueue]; exact List.mem_append_right _ hp)
    -- a ratchet fires here only when nothing was left behind in the queue
    cases hpend : c.hot.pendingRatchet with
    | false => exact hold
    | true =>
      cases hgrace : c.hot.graceOpen with
      | false => exact absurd hp (hop hpend hgrace queue (by rw [← htrans.drained]; exact hqueue) p)
      | true =>
        rw [if_pos rfl, SessionKeys.ratchet, if_pos hgrace]
        exact hold
  | ratcheted hlink =>
    refine .of_link hlink fun p hp => ?_
    dsimp only at hp ⊢
    rw [SessionKeys.ratchet, if_pos (hop ⟨p, hp⟩)]
    exact h p hp
  | announced hlink =>
    split at hlink
    · exact .of_link hlink h
    · refine .of_link hlink fun p hp => ?_
      rcases List.mem_append.mp hp with hp | hp
      · exact h p hp
      · rw [OutgoingControlFrame.keyUpdate.inj (List.mem_singleton.mp hp)]
        rfl

/-- **Announcements leave under the old key** in every state of a run whose calls keep the
announcement and its ratchet together: whatever call transmits one next, the datagram is sealed in
the phase before the one it announces.  That the announcement arrives, or is transmitted at all, is
not said. -/
theorem announced_under_old_key (s : Setup) (ops : List Op)
    (hops : Runs.Along step Coupled s.start ops) : (s.start.run ops).OldKeyHeld :=
  (hops.preserves_always NextPhaseQueued.step fun _ hp => by cases hp).oldKeyHeld

end GtpConnection

/-! ## 3. On concrete connections -/

namespace GtpConnection

attribute [local instance] keyTagSuite

/-- An announcement is queued. -/
def announceOnly : List Op := [.sendPing 1, .initiateKeyUpdate]

/-- It leaves, and the deferred ratchet fires behind it. -/
def announceAndSend : List Op := announceOnly ++ [.produce 10 (List.replicate 200 0)]

/-- The theorem before and behind the datagram that takes the announcement along: this datagram
fires the ratchet, and leaves nothing in the queue. -/
theorem announced_under_old_key_announceAndSend :
    ((sampleSetup true).start.run announceOnly).hot.pendingRatchet = true ∧
      .keyUpdate 1 ∈ ((sampleSetup true).start.run announceOnly).drainable 10 200 ∧
      ((sampleSetup true).start.run announceOnly).OldKeyHeld ∧
      ((sampleSetup true).start.run announceAndSend).hot.keyPhaseCounter = 1 ∧
      ((sampleSetup true).start.run announceAndSend).OldKeyHeld := by
  have hdrained : ((sampleSetup true).start.run announceOnly).hot.controlQueue =
      ((sampleSetup true).start.run announceOnly).drainable 10
        (List.replicate 200 (0 : UInt8)).length := by decide +kernel
  have hcoupled : Runs.Along step Coupled (sampleSetup true).start announceAndSend := by
    refine Runs.along_append.mpr ⟨⟨trivial, trivial, trivial⟩, fun _ _ rest hrest p hp => ?_, trivial⟩
    have hnil : rest = [] := List.append_right_eq_self.mp (hrest.symm.trans hdrained)
    rw [hnil] at hp
    cases hp
  exact ⟨by decide +kernel, by decide +kernel,
    announced_under_old_key (sampleSetup true) announceOnly ⟨trivial, trivial, trivial⟩,
    by decide +kernel, announced_under_old_key (sampleSetup true) announceAndSend hcoupled⟩

/-- A challenge to another address is queued ahead of the announcement; one datagram has left. -/
def challengeAhead : List Op :=
  [.triggerPathChallenge ⟨2, 4433⟩ (List.Vector.replicate 8 9) 5, .initiateKeyUpdate,
    .produce 10 (List.replicate 200 0)]

/-- **Under the new key.**  The challenge takes the first datagram for itself, the ratchet fires
behind it, and the announcement of phase 1 leaves in phase 1. -/
theorem announcement_behind_challenge :
    Reachable ((sampleSetup true).start.run challengeAhead) ∧
      ¬ ((sampleSetup true).start.run challengeAhead).OldKeyHeld := by
  refine ⟨⟨_, _, rfl⟩, fun hheld => ?_⟩
  have hres : (((sampleSetup true).start.run challengeAhead).produceOutgoingDatagram 10
      (List.replicate 200 0)).result = .ok (some (⟨1, 4433⟩, 81)) := by decide +kernel
  have hdrain : .keyUpdate 1 ∈
      ((sampleSetup true).start.run challengeAhead).drainable 10 (List.replicate 200 0).length := by
    decide +kernel
  have hphase : ((sampleSetup true).start.run challengeAhead).hot.keyPhaseCounter = 1 := by
    decide +kernel
  obtain ⟨d, hd, htrans⟩ := produce_transmitted hres
  have hold := hheld 10 (List.replicate 200 0) 1 ⟨_, _, d, hd, by rw [datagramOf, hres], htrans,
    by rw [htrans.drained]; exact hdrain⟩
  rw [hphase] at hold
  cases hold

end GtpConnection

end Gtp
