/-
# The engines behind an endpoint

What is proved of sessions is proved of an engine and a list of calls.  A connection of an endpoint
is such an engine: whatever happens to the endpoint, the connection is in the state that a list of
calls leads to, up to the counters that the runtime keeps there (`run_leads`).  The RX loop, a call
of `connect`, the TX task and the application make these calls, and what the connection returns,
hands out and takes up is what they give.

* `Yield` is what calls return, hand out and take up; `Leads` is the relation between two states
  that carries it, and the number of calls.
* `deliver_leads`: while it fills the channel the RX loop asks the engine to close at most, which
  returns nothing and takes nothing up.
* `step_leads` is one event, two calls at most; `run_leads` is any run.

The counters are why this is a relation and not an equation: the runtime counts what it could not
deliver into the state of the engine, and `Gtp.Core.Counters` says that no call sees it.

The count of calls is there for the bounds on 64-bit counters, which are bounds on calls.
-/
import Gtp.Core.Counters
import Gtp.Core.Forged
import Gtp.Runtime.Delivery

namespace Gtp

/-! ## 1. Calls that lead from one state to another -/

namespace GtpConnection

variable [CryptoSuite]

theorem returned_append (c : GtpConnection) (ops ops' : List Op) :
    c.returned (ops ++ ops') = c.returned ops ++ (c.run ops).returned ops' := by
  induction ops generalizing c with
  | nil => rfl
  | cons op ops ih =>
    rw [List.cons_append, returned, returned, ih, List.append_assoc]
    rfl

theorem acceptedMessages_append (c : GtpConnection) (ops ops' : List Op) :
    c.acceptedMessages (ops ++ ops') =
      c.acceptedMessages ops ++ (c.run ops).acceptedMessages ops' := by
  induction ops generalizing c with
  | nil => rfl
  | cons op ops ih =>
    rw [List.cons_append, acceptedMessages, acceptedMessages, ih, List.append_assoc]
    rfl

/-- What calls return, hand out and take up. -/
structure Yield where
  messages : List ReceivedMessage
  datagrams : List (List UInt8)
  accepted : List ReceivedMessage

namespace Yield

omit [CryptoSuite]

/-- Nothing. -/
def none : Yield := ⟨[], [], []⟩

/-- One after the other. -/
def append (y y' : Yield) : Yield :=
  ⟨y.messages ++ y'.messages, y.datagrams ++ y'.datagrams, y.accepted ++ y'.accepted⟩

@[simp] theorem append_none (y : Yield) : y.append none = y := by
  simp [append, none]

@[simp] theorem none_append (y : Yield) : none.append y = y := by
  simp [append, none]

end Yield

/-- What a run yields. -/
def yielded (c : GtpConnection) (ops : List Op) : Yield :=
  ⟨c.returned ops, c.handedOut ops, c.acceptedMessages ops⟩

/-- What a call yields. -/
def yieldOf (c : GtpConnection) (op : Op) : Yield :=
  ⟨c.messagesOf op, (c.datagramOf op).toList.map Prod.snd, (c.acceptedMessage op).toList⟩

theorem yielded_append (c : GtpConnection) (ops ops' : List Op) :
    c.yielded (ops ++ ops') = (c.yielded ops).append ((c.run ops).yielded ops') := by
  rw [yielded, returned_append, handedOut_append, acceptedMessages_append]
  rfl

theorem yielded_singleton (c : GtpConnection) (op : Op) : c.yielded [op] = c.yieldOf op := by
  simp [yielded, yieldOf, returned, handedOut, acceptedMessages]

/-- From the connection `s` to `s'`, up to the counters, by at most `n` calls that yield `y`.  The
datagrams that arrive in them are all in `W`. -/
def Leads (W : List UInt8 → Prop) (n : Nat) (s s' : GtpConnection) (y : Yield) : Prop :=
  ∀ c, Recounted c s → ∃ ops, Recounted (c.run ops) s' ∧ c.yielded ops = y ∧ ops.length ≤ n ∧
    ∀ src dg now ecn, .handleIncoming src dg now ecn ∈ ops → W dg

variable {W : List UInt8 → Prop} {n n' : Nat} {s s' s'' : GtpConnection} {y y' : Yield}

theorem Leads.refl (W : List UInt8 → Prop) (s : GtpConnection) : Leads W 0 s s .none :=
  fun c h => ⟨[], h, rfl, Nat.le_refl 0, fun _ _ _ _ hop => by cases hop⟩

theorem Leads.trans (h : Leads W n s s' y) (h' : Leads W n' s' s'' y') :
    Leads W (n + n') s s'' (y.append y') := by
  intro c hc
  obtain ⟨ops, hconn, hy, hlen, hin⟩ := h c hc
  obtain ⟨ops', hconn', hy', hlen', hin'⟩ := h' _ hconn
  refine ⟨ops ++ ops', ?_, ?_, ?_, fun src dg now ecn hop => ?_⟩
  · rw [run_append]
    exact hconn'
  · rw [yielded_append, hy, hy']
  · rw [List.length_append]
    exact Nat.add_le_add hlen hlen'
  · rcases List.mem_append.mp hop with hop | hop
    · exact hin src dg now ecn hop
    · exact hin' src dg now ecn hop

theorem Leads.mono (h : Leads W n s s' y) (hn : n ≤ n') : Leads W n' s s' y := by
  intro c hc
  obtain ⟨ops, hconn, hy, hlen, hin⟩ := h c hc
  exact ⟨ops, hconn, hy, hlen.trans hn, hin⟩

theorem Leads.recount (h : Leads W n s s' y) (h' : Recounted s' s'') : Leads W n s s'' y := by
  intro c hc
  obtain ⟨ops, hconn, hrest⟩ := h c hc
  exact ⟨ops, hconn.trans h', hrest⟩

theorem step_unopened {dg : List UInt8} (h : ∀ hd pt, ¬ s.Opens dg hd pt) (src : SocketAddr)
    (now : MonotonicTime) (ecn : UInt8) :
    Recounted s (s.step (.handleIncoming src dg now ecn)) := by
  change Recounted s (s.handleIncomingDatagramWithEcn src dg now ecn).2
  by_cases hclosed : s.hot.state = .closed
  · rw [handleIncomingDatagramWithEcn, if_pos hclosed]
    exact .refl s
  · rw [handleIncoming_of_open hclosed]
    cases hadm : s.hot.admitHeader dg with
    | error e => exact ⟨_, rfl⟩
    | ok admitted =>
      dsimp only
      cases hopen : s.hot.openDatagram admitted.1 (dg.take admitted.2) (dg.drop admitted.2) with
      | error e => exact ⟨_, rfl⟩
      | ok payload => exact absurd ⟨hclosed, _, hadm, hopen⟩ (h admitted.1 payload)

/-- **One call.**  A datagram that arrives and does not open need not be counted as one. -/
theorem leads_step (s : GtpConnection) (op : Op)
    (hW : ∀ src dg now ecn, op = .handleIncoming src dg now ecn →
      ∀ hd pt, s.Opens dg hd pt → W dg) :
    Leads W 1 s (s.step op) (s.yieldOf op) := by
  have hcall : (∀ src dg now ecn, op = .handleIncoming src dg now ecn → W dg) →
      Leads W 1 s (s.step op) (s.yieldOf op) := by
    intro hin c hc
    refine ⟨[op], hc.step op, ?_, Nat.le_refl 1, fun src dg now ecn hop => ?_⟩
    · rw [yielded_singleton, yieldOf, yieldOf, hc.messagesOf, hc.datagramOf, hc.acceptedMessage]
    · exact hin src dg now ecn (List.mem_singleton.mp hop).symm
  cases op with
  | handleIncoming src dg now ecn =>
    by_cases hopen : ∃ hd pt, s.Opens dg hd pt
    · obtain ⟨hd, pt, hopen⟩ := hopen
      refine hcall ?_
      rintro _ _ _ _ ⟨⟩
      exact hW src dg now ecn rfl hd pt hopen
    · have hnone : ∀ hd pt, ¬ s.Opens dg hd pt := fun hd pt h => hopen ⟨hd, pt, h⟩
      have hyield : s.yieldOf (.handleIncoming src dg now ecn) = .none := by
        rw [yieldOf, (handle_unopened hnone src now ecn).2]
        rfl
      rw [hyield]
      exact ((Leads.refl W s).recount (step_unopened hnone src now ecn)).mono (Nat.zero_le 1)
  | _ => exact hcall (by rintro _ _ _ _ ⟨⟩)

end GtpConnection

namespace GtpEndpoint

open GtpConnection (Recounted Leads Yield yieldOf)

/-! ## 2. What happens to a connection -/

variable [CryptoSuite]

/-- The event brings the datagram to the connection. -/
def Brings (ep : GtpEndpoint) (k : Nat) (datagram : List UInt8) : Event → Prop
  | .receive _ dg _ _ _ =>
    dg = datagram ∧ ∃ cid, routeOf dg = some cid ∧ ep.connections[cid]? = some k
  | .engine handle (.handleIncoming _ dg _ _) => handle = k ∧ dg = datagram
  | _ => False

/-- Whatever the event brings to the connection and the connection opens is in `W`. -/
def OpensOnly (W : List UInt8 → Prop) (k : Nat) (ep : GtpEndpoint) (e : Event) : Prop :=
  ∀ datagram s, ep.Brings k datagram e → ep.arena[k]? = some s →
    ∀ header payload, s.conn.Opens datagram header payload → W datagram

/-- What the calls on a connection give that the TX task and the application make. -/
def asked {α : Type} (f : GtpConnection → GtpConnection.Op → List α) (ep : GtpEndpoint) (k : Nat) :
    Event → List α
  | .engine handle op =>
    match ep.arena[handle]? with
    | some s => if handle = k then f s.conn op else []
    | none => []
  | _ => []

/-- The datagrams that the TX task of a connection hands to the socket in an event. -/
def handedOutIn (ep : GtpEndpoint) (k : Nat) (e : Event) : List (List UInt8) :=
  ep.asked (fun c op => (c.datagramOf op).toList.map Prod.snd) k e

/-- The messages that the application of a connection sends with `Ok` in an event. -/
def acceptedIn (ep : GtpEndpoint) (k : Nat) (e : Event) : List ReceivedMessage :=
  ep.asked (fun c op => (c.acceptedMessage op).toList) k e

section Runs

variable [KeyExchange]

/-- The datagrams that the TX task of a connection hands to the socket in a run. -/
def handedOut (ep : GtpEndpoint) (k : Nat) : List Event → List (List UInt8)
  | [] => []
  | e :: events => ep.handedOutIn k e ++ (ep.step e).handedOut k events

/-- The messages that the application of a connection sends with `Ok` in a run. -/
def accepted (ep : GtpEndpoint) (k : Nat) : List Event → List ReceivedMessage
  | [] => []
  | e :: events => ep.acceptedIn k e ++ (ep.step e).accepted k events

end Runs

/-! ## 3. The channel of the application -/

/-- A connection whose counters the runtime has moved. -/
theorem leads_counted {W : List UInt8 → Prop} {n : Nat} {c c' : GtpConnection} {y : Yield}
    {s : GtpConnection} (hcount : Recounted s c) (h : Leads W n c c' y) : Leads W n s c' y :=
  fun c hc => h c (hc.trans hcount)

/-- The engine is asked to close, where that is allowed. -/
theorem closeUndelivered_leads (W : List UInt8 → Prop) (s : SharedConnection) (undelivered : Nat)
    (code : UInt16) (reason : String) :
    Leads W 1 s.conn (closeUndelivered s undelivered code reason).conn .none := by
  have hcount : Recounted s.conn { s.conn with
    cold.totalDroppedFrames := s.conn.cold.totalDroppedFrames + undelivered } := ⟨_, rfl⟩
  unfold closeUndelivered
  dsimp only
  split
  · exact leads_counted hcount (GtpConnection.leads_step _ (.gracefulClose code reason)
      (by rintro _ _ _ _ ⟨⟩))
  · exact ((Leads.refl W s.conn).recount hcount).mono (Nat.zero_le 1)

/-- **The `try_send` loop** asks the engine to close at most. -/
theorem deliver_leads (W : List UInt8 → Prop) (msgs : List ReceivedMessage)
    (s : SharedConnection) : Leads W 1 s.conn (deliver msgs s).2.conn .none := by
  induction msgs generalizing s with
  | nil => exact (Leads.refl W s.conn).mono (Nat.zero_le 1)
  | cons msg rest ih =>
    have htried := trySend_tried msg rest.length s
    unfold deliver
    generalize trySend msg rest.length s = r at htried
    cases htried with
    | gaveUp undelivered code reason => exact closeUndelivered_leads W s _ _ _
    | queued hroom => exact ih { s with queue := s.queue ++ [msg] }
    | skipped hmsg =>
      have hcount : Recounted s.conn { s.conn with
        cold.totalDroppedFrames := s.conn.cold.totalDroppedFrames + 1 } := ⟨_, rfl⟩
      exact leads_counted hcount (ih { s with
        conn.cold.totalDroppedFrames := s.conn.cold.totalDroppedFrames + 1 })

/-- **A datagram that is routed to the connection.** -/
theorem feed_leads {W : List UInt8 → Prop} (s : SharedConnection) (src : SocketAddr)
    (datagram : List UInt8) (now : MonotonicTime)
    (hW : ∀ header payload, s.conn.Opens datagram header payload → W datagram) :
    Leads W 2 s.conn (feed s src datagram now).2.conn
      (yieldOf s.conn (.handleIncoming src datagram now 0)) := by
  have hstep := GtpConnection.leads_step (W := W) s.conn (.handleIncoming src datagram now 0) (by
    rintro _ _ _ _ ⟨⟩
    exact hW)
  have hconn : s.conn.step (.handleIncoming src datagram now 0) =
      (s.conn.handleIncomingDatagramWithEcn src datagram now 0).2 := rfl
  rw [hconn] at hstep
  unfold feed
  dsimp only
  split
  · rename_i msgs hres
    have hgiven := hstep.trans (deliver_leads W msgs { s with
      conn := (s.conn.handleIncomingDatagramWithEcn src datagram now 0).2 })
    rw [Yield.append_none] at hgiven
    exact hgiven
  · exact hstep.mono (Nat.le_succ 1)

/-! ## 4. Every event -/

variable [KeyExchange]

/-- What the connection yields in an event, and the messages that an application gets out of the
engine past the RX loop. -/
structure Yields (ep : GtpEndpoint) (k : Nat) (e : Event) (y : Yield) : Prop where
  messages : (ep.returnedTo k e).Sublist y.messages
  datagrams : y.datagrams = ep.handedOutIn k e
  accepted : y.accepted = ep.acceptedIn k e

omit [KeyExchange] in
/-- An event that asks nothing of the connection and brings it nothing. -/
theorem yields_none {ep : GtpEndpoint} {k : Nat} {e : Event} (hreturned : ep.returnedTo k e = [])
    (hasked : ∀ (α : Type) (f : GtpConnection → GtpConnection.Op → List α), ep.asked f k e = []) :
    ep.Yields k e .none := by
  refine ⟨?_, (hasked _ _).symm, (hasked _ _).symm⟩
  rw [hreturned]
  exact List.Sublist.refl _

omit [KeyExchange] in
/-- What a rearrangement does to a connection that is there. -/
theorem Rearranged.conn {ep ep' : GtpEndpoint} {claims : ConnectionId → Prop}
    {touches : Nat → Prop} {calls : Nat → List GtpConnection.Op}
    (h : Rearranged ep claims touches calls ep') {k : Nat} {s : SharedConnection}
    (hs : ep.arena[k]? = some s) :
    ∃ s', ep'.arena[k]? = some s' ∧ s'.conn = s.conn.run (calls k) ∧ s'.queue = s.queue := by
  have hlt : k < ep.arena.length := (List.getElem?_eq_some_iff.mp hs).1
  cases h with
  | same hcalls harena hmap =>
    refine ⟨s, harena ▸ hs, ?_, rfl⟩
    rw [hcalls k hlt]
    rfl
  | registered setup hcid hcalls harena hmap =>
    refine ⟨s, ?_, ?_, rfl⟩
    · rw [harena, List.getElem?_append_left hlt, hs]
    · rw [hcalls k hlt]
      rfl
  | used j hj hcalls open' harena hmap =>
    by_cases hjk : j = k
    · subst hjk
      refine ⟨{ s with conn := s.conn.run (calls j), open' := open' s }, ?_, rfl, rfl⟩
      rw [harena, List.getElem?_modify_eq, hs]
      rfl
    · refine ⟨s, ?_, ?_, rfl⟩
      · rw [harena, List.getElem?_modify_ne _ _ hjk, hs]
      · rw [hcalls k (Ne.symm hjk)]
        rfl

omit [CryptoSuite] [KeyExchange] in
/-- A step of `connect` pings its connection at most. -/
theorem callsOn_poll (ep : GtpEndpoint) (id : Nat) (failure : Option String) (k : Nat) :
    ep.callsOn (.poll id failure) k = [] ∨
      ep.callsOn (.poll id failure) k = [.sendPing 0x00C0FFEE] := by
  unfold callsOn
  dsimp only
  split
  · split
    · exact Or.inr rfl
    · exact Or.inl rfl
  · exact Or.inl rfl

omit [KeyExchange] in
/-- A datagram that is routed, to this connection or to another one. -/
theorem onData_leads {W : List UInt8 → Prop} {ep : GtpEndpoint} {k : Nat} {s : SharedConnection}
    (hs : ep.arena[k]? = some s) {cid : ConnectionId} {datagram : List UInt8}
    (hroute : routeOf datagram = some cid) (src : SocketAddr) (now : MonotonicTime)
    (secret nonce : Bytes 32) (hW : OpensOnly W k ep (.receive src datagram now secret nonce)) :
    ∃ s' y, (ep.onData cid src datagram now).arena[k]? = some s' ∧ Leads W 2 s.conn s'.conn y ∧
      ep.Yields k (.receive src datagram now secret nonce) y := by
  have hlt : k < ep.arena.length := (List.getElem?_eq_some_iff.mp hs).1
  have hother : ep.connections[cid]? ≠ some k →
      (ep.onData cid src datagram now).arena[k]? = some s →
      ∃ s' y, (ep.onData cid src datagram now).arena[k]? = some s' ∧ Leads W 2 s.conn s'.conn y ∧
        ep.Yields k (.receive src datagram now secret nonce) y := fun hne hsame =>
    ⟨s, .none, hsame, (Leads.refl W s.conn).mono (Nat.zero_le 2),
      yields_none (returnedTo_elsewhere hroute hne src now secret nonce) fun _ _ => rfl⟩
  cases hj : ep.connections[cid]? with
  | none =>
    refine hother (by rw [hj]; nofun) ?_
    unfold onData
    rw [hj]
    exact hs
  | some j =>
    by_cases hjk : j = k
    · subst hjk
      refine ⟨(feed s src datagram now).2, yieldOf s.conn (.handleIncoming src datagram now 0), ?_,
        feed_leads s src datagram now (hW datagram s ⟨rfl, cid, hroute, hj⟩ hs), ?_, rfl, rfl⟩
      · rw [(onData_eq hj hs src datagram now).1, List.getElem?_set_self hlt]
      · rw [returnedTo_routed hroute hj hs src now secret nonce]
        exact List.Sublist.refl _
    · refine hother (by rw [hj]; exact fun heq => hjk (Option.some.inj heq)) ?_
      cases hsj : ep.arena[j]? with
      | none =>
        unfold onData
        rw [hj]
        dsimp only
        rw [hsj]
        exact hs
      | some t =>
        rw [(onData_eq hj hsj src datagram now).1, List.getElem?_set_ne hjk, hs]

/-- **One event** is two calls at most. -/
theorem step_leads {W : List UInt8 → Prop} {ep : GtpEndpoint} {k : Nat} {e : Event}
    (hW : OpensOnly W k ep e) {s : SharedConnection} (hs : ep.arena[k]? = some s) :
    ∃ s' y, (ep.step e).arena[k]? = some s' ∧ Leads W 2 s.conn s'.conn y ∧ ep.Yields k e y := by
  have hplain : Rearranged ep (ep.claims e) (ep.touches e) (ep.callsOn e) (ep.step e) →
      (∀ (α : Type) (f : GtpConnection → GtpConnection.Op → List α), ep.asked f k e = []) →
      ep.returnedTo k e = [] →
      (ep.callsOn e k = [] ∨ ep.callsOn e k = [.sendPing 0x00C0FFEE]) →
      ∃ s' y, (ep.step e).arena[k]? = some s' ∧ Leads W 2 s.conn s'.conn y ∧ ep.Yields k e y := by
    intro hre hasked hreturned hcalls
    obtain ⟨s', hs', hconn, -⟩ := hre.conn hs
    refine ⟨s', .none, hs', ?_, yields_none hreturned hasked⟩
    rw [hconn]
    rcases hcalls with hcalls | hcalls
    · rw [hcalls]
      exact (Leads.refl W s.conn).mono (Nat.zero_le 2)
    · rw [hcalls]
      exact (GtpConnection.leads_step s.conn (.sendPing 0x00C0FFEE)
        (by rintro _ _ _ _ ⟨⟩)).mono (Nat.le_succ 1)
  cases e with
  | receive src datagram now secret nonce =>
    cases hroute : routeOf datagram with
    | none =>
      exact hplain (ep.onDatagram_rearranged src hroute now secret nonce) (fun _ _ => rfl)
        (ep.returnedTo_handshake k hroute src now secret nonce) (Or.inl rfl)
    | some cid =>
      have hstep : ep.step (.receive src datagram now secret nonce) =
          ep.onData cid src datagram now := ep.onDatagram_data src hroute now secret nonce
      rw [hstep]
      exact onData_leads hs hroute src now secret nonce hW
  | poll id failure =>
    exact hplain (ep.step_rearranged (by rintro _ _ _ _ _ ⟨⟩) (by rintro _ ⟨⟩)) (fun _ _ => rfl)
      rfl (ep.callsOn_poll id failure k)
  | engine handle op =>
    by_cases hk : handle = k
    · -- the call itself
      subst hk
      have hre := ep.step_rearranged (e := .engine handle op) (by rintro _ _ _ _ _ ⟨⟩)
        (by rintro _ ⟨⟩)
      obtain ⟨s', hs', hconn, -⟩ := hre.conn hs
      rw [callsOn, if_pos rfl] at hconn
      have hlead := GtpConnection.leads_step (W := W) s.conn op (by
        rintro src dg now ecn rfl
        exact hW dg s ⟨rfl, rfl⟩ hs)
      refine ⟨s', yieldOf s.conn op, hs', ?_, List.nil_sublist _, ?_, ?_⟩
      · rw [hconn]
        exact hlead.mono (Nat.le_succ 1)
      · simp only [handedOutIn, asked, hs, if_pos, yieldOf]
      · simp only [acceptedIn, asked, hs, if_pos, yieldOf]
    · refine hplain (ep.step_rearranged (by rintro _ _ _ _ _ ⟨⟩) (by rintro _ ⟨⟩)) (fun α f => ?_)
        rfl (Or.inl (if_neg hk))
      unfold asked
      dsimp only
      split
      · exact if_neg hk
      · rfl
  | recv handle =>
    have harena : (ep.step (.recv handle)).arena = ep.arena.modify handle fun s =>
        { s with queue := s.queue.drop 1 } := rfl
    rw [harena]
    by_cases hk : handle = k
    · subst hk
      rw [List.getElem?_modify_eq, hs]
      exact ⟨_, .none, rfl, (Leads.refl W s.conn).mono (Nat.zero_le 2),
        yields_none rfl fun _ _ => rfl⟩
    · rw [List.getElem?_modify_ne _ _ hk, hs]
      exact ⟨s, .none, rfl, (Leads.refl W s.conn).mono (Nat.zero_le 2),
        yields_none rfl fun _ _ => rfl⟩
  | _ =>
    exact hplain (ep.step_rearranged (by rintro _ _ _ _ _ ⟨⟩) (by rintro _ ⟨⟩)) (fun _ _ => rfl) rfl
      (Or.inl rfl)

/-- **Any run of an endpoint** leads each of its connections from its state to a state by calls of
its engine, at most two for an event.  What these calls hand out and take up is what the TX task and
the application asked for, and the RX loop gets no more messages than they return. -/
theorem run_leads {W : List UInt8 → Prop} {ep : GtpEndpoint} {k : Nat} {s : SharedConnection}
    (hs : ep.arena[k]? = some s) (events : List Event)
    (hW : Runs.Along step (OpensOnly W k) ep events) :
    ∃ s' y, (ep.run events).arena[k]? = some s' ∧ Leads W (2 * events.length) s.conn s'.conn y ∧
      (ep.returned k events).Sublist y.messages ∧ y.datagrams = ep.handedOut k events ∧
      y.accepted = ep.accepted k events := by
  induction events generalizing ep s with
  | nil => exact ⟨s, .none, hs, Leads.refl W s.conn, List.Sublist.refl _, rfl, rfl⟩
  | cons e events ih =>
    obtain ⟨s₁, y₁, hs₁, hlead₁, hyield⟩ := step_leads hW.1 hs
    obtain ⟨s', y, hs', hlead, hreturned, hout, haccepted⟩ := ih hs₁ hW.2
    refine ⟨s', y₁.append y, hs', ?_, ?_, ?_, ?_⟩
    · rw [List.length_cons, Nat.mul_succ, Nat.add_comm]
      exact hlead₁.trans hlead
    · exact hyield.messages.append hreturned
    · rw [handedOut, Yield.append, hyield.datagrams, hout]
    · rw [accepted, Yield.append, hyield.accepted, haccepted]

end GtpEndpoint

end Gtp
