/-
# Connections do not disturb each other

All connections of an endpoint share its socket, its RX task and its maps.  Only three things reach
one of them: a datagram that it authenticates, a call that its application or its `connect` makes,
and a registration under its connection id.  Everything else is `Foreign` to it: the traffic of the
other connections, any handshake (also one for its own id, since a server does not replace a
connection that is there), and whatever an attacker sends without the keys.

The turns are those of `Gtp.Runtime.Sections`: the tasks run section by section, in any order.  So
the RX task may be in the middle of a datagram when the connection is looked at, and the removal or
the insertion of a map entry that it decided on earlier is still to come.  `Remainder.Spares` says
that this is not the entry of the connection.  Nothing else is asked: that the RX task comes to no
such decision about this connection in the course of the run is a part of the invariant.

What is left out: that the task of the connection is scheduled at all, and that the RX task does not
spend its time on other connections.
-/
import Gtp.Runtime.Sections

namespace Gtp

namespace GtpEndpoint

/-- What the RX task has yet to do leaves the connection `k`, bound to `cid`, alone. -/
def Remainder.Spares (cid : ConnectionId) (k : Nat) : Remainder → Prop
  | .idle => True
  | .offer c handle msgs => if handle = k then msgs = [] else c ≠ cid
  | .remove c => c ≠ cid
  | .insert c _ => c ≠ cid

/-- The connection `k` is bound to `cid`, is not closed, and is for its engine and its application
the connection `s`. -/
structure Serves (cid : ConnectionId) (k : Nat) (s : SharedConnection) (ep : GtpEndpoint) :
    Prop where
  bound : ep.connections[cid]? = some k
  opened : s.conn.hot.state ≠ .closed
  same : ∃ s', ep.arena[k]? = some s' ∧ s'.conn.hot = s.conn.hot ∧ s'.queue = s.queue ∧
    s'.open' = s.open'

variable [CryptoSuite]

/-- The turn does not concern the connection `k`, which is bound to `cid`. -/
def Foreign (cid : ConnectionId) (k : Nat) (t : Tasks) : Turn → Prop
  | .receive _ datagram _ _ _ => ∀ (c : ConnectionId) (s : SharedConnection),
    routeOf datagram = some c → t.ep.connections[c]? = some k → t.ep.arena[k]? = some s →
      ∀ header payload, ¬ s.conn.Opens datagram header payload
  | .proceed => True
  | .other e _ => ¬ t.ep.claims e cid ∧ ¬ t.ep.touches e k

omit [CryptoSuite] in
theorem Serves.put {cid : ConnectionId} {k : Nat} {s : SharedConnection} {ep : GtpEndpoint}
    (h : Serves cid k s ep) {j : Nat} (hjk : j ≠ k) (s' : SharedConnection) :
    Serves cid k s (ep.put j s') := by
  obtain ⟨s'', hs'', hsame⟩ := h.same
  refine ⟨h.bound, h.opened, s'', ?_, hsame⟩
  rw [GtpEndpoint.put, List.getElem?_set_ne hjk, hs'']

omit [CryptoSuite] in
theorem Serves.forget {cid c : ConnectionId} {k : Nat} {s : SharedConnection} {ep : GtpEndpoint}
    (h : Serves cid k s ep) (hne : c ≠ cid) : Serves cid k s (ep.forget c) := by
  refine ⟨?_, h.opened, h.same⟩
  rw [GtpEndpoint.forget, Maps.getElem?_erase, if_neg hne, h.bound]

omit [CryptoSuite] in
theorem Serves.register {cid c : ConnectionId} {k : Nat} {s : SharedConnection} {ep : GtpEndpoint}
    (h : Serves cid k s ep) (hne : c ≠ cid) (conn : GtpConnection) :
    Serves cid k s (ep.registerConnection c conn).2 := by
  obtain ⟨s', hs', hsame⟩ := h.same
  refine ⟨?_, h.opened, s', ?_, hsame⟩
  · rw [registerConnection, Maps.getElem?_insert, if_neg hne, h.bound]
  · rw [registerConnection, List.getElem?_append_left (List.getElem?_eq_some_iff.mp hs').1, hs']

/-- A registration of another id, a use of another connection. -/
theorem Serves.rearranged {cid : ConnectionId} {k : Nat} {s : SharedConnection}
    {ep ep' : GtpEndpoint} {claims : ConnectionId → Prop} {touches : Nat → Prop}
    {calls : Nat → List GtpConnection.Op} (h : Serves cid k s ep) (hclaims : ¬ claims cid)
    (htouches : ¬ touches k) (hre : Rearranged ep claims touches calls ep') :
    Serves cid k s ep' := by
  obtain ⟨s', hs', hsame⟩ := h.same
  have hlt : k < ep.arena.length := (List.getElem?_eq_some_iff.mp hs').1
  refine ⟨?_, h.opened, s', (hre.arena.1 k hlt htouches).trans hs', hsame⟩
  cases hre with
  | same hcalls harena hmap => rw [hmap, h.bound]
  | registered setup hcid hcalls harena hmap =>
    rw [hmap, Maps.getElem?_insert, if_neg fun heq : setup.cid = cid => hclaims (heq ▸ hcid),
      h.bound]
  | used j hj hcalls open' harena hmap => rw [hmap, h.bound]

/-- **A routed datagram**: of another connection, or one that does not open. -/
theorem Serves.takeIn {cid : ConnectionId} {k : Nat} {s : SharedConnection} {ep : GtpEndpoint}
    (h : Serves cid k s ep) (src : SocketAddr) (datagram : List UInt8) (now : MonotonicTime)
    {c : ConnectionId} (hforged : ∀ s', ep.connections[c]? = some k → ep.arena[k]? = some s' →
      ∀ header payload, ¬ s'.conn.Opens datagram header payload) :
    Serves cid k s (ep.takeIn c src datagram now).ep ∧
      (ep.takeIn c src datagram now).rx.Spares cid k := by
  unfold GtpEndpoint.takeIn
  cases hj : ep.connections[c]? with
  | none => exact ⟨h, trivial⟩
  | some j =>
    dsimp only
    cases hsj : ep.arena[j]? with
    | none => exact ⟨h, trivial⟩
    | some t =>
      dsimp only
      by_cases hjk : j = k
      · subst hjk
        -- it is counted, and that is all
        obtain ⟨hhot, hmsgs⟩ := GtpConnection.handle_unopened (hforged t hj hsj) src now 0
        obtain ⟨s', hs', hhot', hqueue, hdrop⟩ := h.same
        obtain rfl := Option.some.inj (hsj.symm.trans hs')
        refine ⟨⟨h.bound, h.opened, _, List.getElem?_set_self (List.getElem?_eq_some_iff.mp hsj).1,
          hhot.trans hhot', hqueue, hdrop⟩, ?_⟩
        unfold GtpConnection.messagesOf at hmsgs
        dsimp only [Remainder.Spares] at hmsgs ⊢
        rw [if_pos rfl]
        exact hmsgs
      · have hne : c ≠ cid := by
          rintro rfl
          exact hjk (Option.some.inj (hj.symm.trans h.bound))
        refine ⟨h.put hjk _, ?_⟩
        dsimp only [Remainder.Spares]
        rw [if_neg hjk]
        exact hne

variable [KeyExchange]

/-- **A datagram arrives.** -/
theorem Serves.arrive {cid : ConnectionId} {k : Nat} {s : SharedConnection} {ep : GtpEndpoint}
    (h : Serves cid k s ep) (src : SocketAddr) (datagram : List UInt8) (now : MonotonicTime)
    (secret nonce : Bytes 32)
    (hforeign : Foreign cid k ⟨ep, .idle⟩ (.receive src datagram now secret nonce)) :
    Serves cid k s (ep.arrive src datagram now secret nonce).1.ep ∧
      (ep.arrive src datagram now secret nonce).1.rx.Spares cid k := by
  have hmem : cid ∈ ep.connections := Maps.mem_iff.mpr ⟨k, h.bound⟩
  unfold GtpEndpoint.arrive
  cases hroute : routeOf datagram with
  | some c =>
    exact h.takeIn src datagram now fun s' hc hs' => hforeign c s' hroute hc hs'
  | none =>
    cases finishOf datagram with
    | some finish =>
      obtain ⟨c, cookieEcho, clientProof⟩ := finish
      obtain ⟨harena, hmap⟩ := ep.confirmFinish_shared c src cookieEcho clientProof now
      dsimp only [takeFinish]
      generalize ep.confirmFinish c src cookieEcho clientProof now = confirmed at harena hmap ⊢
      obtain ⟨conn, ep', sent⟩ := confirmed
      have hserves : Serves cid k s ep' := by
        refine ⟨?_, h.opened, ?_⟩
        · rw [hmap, h.bound]
        · rw [harena]
          exact h.same
      cases conn with
      | none => exact ⟨hserves, trivial⟩
      | some conn =>
        refine ⟨hserves, ?_⟩
        dsimp only
        split
        · trivial
        · rename_i hfree
          rintro rfl
          exact hfree (hmap ▸ hmem)
    | none =>
      have hre := ep.onDatagram_rearranged src hroute now secret nonce
      exact ⟨h.rearranged (not_not_intro hmem) id hre, trivial⟩

omit [CryptoSuite] [KeyExchange] in
/-- **A later section.** -/
theorem Serves.proceed {cid : ConnectionId} {k : Nat} {s : SharedConnection} {t : Tasks}
    (h : Serves cid k s t.ep) (hrx : t.rx.Spares cid k) :
    Serves cid k s t.proceed.ep ∧ t.proceed.rx.Spares cid k := by
  obtain ⟨ep, rx⟩ := t
  cases rx with
  | idle => exact ⟨h, trivial⟩
  | remove c => exact ⟨h.forget hrx, trivial⟩
  | insert c conn => exact ⟨h.register hrx conn, trivial⟩
  | offer c handle msgs =>
    unfold Tasks.proceed
    dsimp only
    cases hs : ep.arena[handle]? with
    | none => exact ⟨h, trivial⟩
    | some t =>
      dsimp only [Remainder.Spares] at hrx
      by_cases hk : handle = k
      · subst hk
        rw [if_pos rfl] at hrx
        subst hrx
        obtain ⟨s', hs', hhot, -⟩ := h.same
        obtain rfl := Option.some.inj (hs.symm.trans hs')
        dsimp only
        rw [hhot, if_neg h.opened]
        exact ⟨h, trivial⟩
      · rw [if_neg hk] at hrx
        cases msgs with
        | nil =>
          dsimp only
          split
          · exact ⟨h, hrx⟩
          · exact ⟨h, trivial⟩
        | cons msg rest =>
          refine ⟨h.put hk _, ?_⟩
          dsimp only
          split
          · exact hrx
          · dsimp only [Remainder.Spares]
            rw [if_neg hk]
            exact hrx

/-- **Any turn** that does not concern the connection. -/
theorem Serves.step {cid : ConnectionId} {k : Nat} {s : SharedConnection} {t : Tasks} {turn : Turn}
    (h : Serves cid k s t.ep) (hrx : t.rx.Spares cid k) (hturn : Foreign cid k t turn) :
    Serves cid k s (t.step turn).ep ∧ (t.step turn).rx.Spares cid k := by
  cases turn with
  | receive src datagram now secret nonce =>
    obtain ⟨ep, rx⟩ := t
    cases rx with
    | idle => exact h.arrive src datagram now secret nonce hturn
    | offer c handle msgs => exact ⟨h, hrx⟩
    | remove c => exact ⟨h, hrx⟩
    | insert c conn => exact ⟨h, hrx⟩
  | proceed => exact h.proceed hrx
  | other e he =>
    refine ⟨?_, hrx⟩
    cases e with
    | receive src datagram now secret nonce => cases he
    | recv handle =>
      obtain ⟨s', hs', hsame⟩ := h.same
      have hne : handle ≠ k := hturn.2
      refine ⟨h.bound, h.opened, s', ?_, hsame⟩
      exact (List.getElem?_modify_ne _ _ hne).trans hs'
    | _ =>
      exact h.rearranged hturn.1 hturn.2
        (t.ep.step_rearranged (by rintro _ _ _ _ _ ⟨⟩) (by rintro _ ⟨⟩))

/-- **Isolation.**  Take any endpoint between two critical sections, and any of its connections that
is bound to an id and not closed, while the RX task is not about to remove or to insert the entry of
this id, nor has messages for this connection in its hands.  Then whatever turns of all the tasks
follow that do not concern the connection -- the datagrams, the calls and the application of other
connections, any part of any handshake, and whatever an attacker sends to the connection itself
without its keys --, it is still bound to its id, its engine is in the state it was in, and its
channel holds what it held. -/
theorem isolation {t : Tasks} {cid : ConnectionId} {k : Nat} {s : SharedConnection}
    (hroute : t.ep.connections[cid]? = some k) (hs : t.ep.arena[k]? = some s)
    (hopen : s.conn.hot.state ≠ .closed) (hrx : t.rx.Spares cid k) (turns : List Turn)
    (hforeign : Runs.Along Tasks.step (Foreign cid k) t turns) :
    (t.run turns).ep.connections[cid]? = some k ∧
      ∃ s', (t.run turns).ep.arena[k]? = some s' ∧ s'.conn.hot = s.conn.hot ∧
        s'.queue = s.queue ∧ s'.open' = s.open' := by
  have hserves : Serves cid k s t.ep := ⟨hroute, hopen, s, hs, rfl, rfl, rfl⟩
  have hrun := hforeign.preserves_always
    (Q := fun t : Tasks => Serves cid k s t.ep ∧ t.rx.Spares cid k)
    (fun t turn hturn h => h.1.step h.2 hturn) ⟨hserves, hrx⟩
  exact ⟨hrun.1.bound, hrun.1.same⟩

end GtpEndpoint

namespace GtpEndpoint

attribute [local instance] keyTagSuite additiveExchange

/-- A datagram of the peer, tampered with. -/
def tampered : List UInt8 := (threeDatagrams.headD []).dropLast ++ [0xFF]

/-- The tampered datagram, and the traffic of another connection, which begins while the RX task is
busy with it. -/
def disturbance : List Turn :=
  [.receive ⟨3, 6000⟩ tampered 40 (List.Vector.replicate 32 0) (List.Vector.replicate 32 0),
    .other (.adopt 8 ⟨4, 7000⟩ Net.sampleSession.keys false true) rfl, .proceed,
    .other (.recv 1) rfl]

/-- The connection that is served. -/
def served : SharedConnection :=
  ⟨GtpConnection.newWithDirectionalKeys 7 ⟨2, 5000⟩ Net.sampleSession.keys false true
    .competitiveFps, [], true⟩

/-- The theorem at this run: the packet is counted, and that is all. -/
theorem isolation_disturbance :
    routeOf tampered = some 7 ∧
      (((Tasks.mk serving .idle).run disturbance).ep.arena[0]?.map fun s =>
        s.conn.cold.totalRxPackets) = some 1 ∧
      ((Tasks.mk serving .idle).run disturbance).ep.connections[(7 : ConnectionId)]? = some 0 ∧
      ∃ s', ((Tasks.mk serving .idle).run disturbance).ep.arena[0]? = some s' ∧
        s'.conn.hot = served.conn.hot ∧ s'.queue = [] ∧ s'.open' = true := by
  have hclosed : served.conn.openedIn (.handleIncoming ⟨3, 6000⟩ tampered 40 0) = none := by
    decide +kernel
  refine ⟨by decide +kernel, by decide +kernel, isolation (t := ⟨serving, .idle⟩) (s := served)
    (by decide +kernel) rfl (by decide) trivial disturbance
    ⟨?_, ⟨?_, id⟩, trivial, ⟨id, ?_⟩, trivial⟩⟩
  · intro c s hroute hc hs header payload hopen
    obtain rfl : served = s := Option.some.inj hs
    rw [hopen.openedIn] at hclosed
    cases hclosed
  · exact show (8 : ConnectionId) ≠ 7 by decide
  · exact Nat.one_ne_zero

end GtpEndpoint

end Gtp
