/-
# From the handshake to the application

Two endpoints shake hands over a network that loses, repeats and reorders.  When `connect` returns
`Ok`, the connections at its two ends are the fresh ends of ONE session (`connect_session`): the
handshake has registered them with the same id and keys, and made no call on them but a ping.  From
there on each is an engine that its endpoint makes calls on (`run_leads`).  So what is proved of
sessions holds of the applications of the two endpoints, whatever else these endpoints do: what one
takes from its channel was sent by the other (`applications_connected`).

This rests on what agreement rests on.  During the handshake a `HandshakeFinish` completes only for
an id that has no connection at the server (`World.Free`): otherwise the server keeps the connection
that is there, and the client, whose `connect` returns `Ok` all the same, holds one that nobody
answers.  The primitives are ideal on the inputs that occur, the key phases of the session have
different keys, and no counter of 64 bits wraps.  What is left out: that anything arrives.
-/
import Gtp.Core.Integrity
import Gtp.Runtime.Agreement
import Gtp.Runtime.Engines

namespace Gtp

/-! ## 1. A connection that has only been pinged -/

namespace GtpConnection

/-- The call that `connect` makes when it is confirmed. -/
abbrev confirmPing : Op := .sendPing 0x00C0FFEE

variable [CryptoSuite]

/-- The connection is fresh but for at most `n` pings. -/
def Pinged (n : Nat) (c : GtpConnection) : Prop :=
  ∃ (setup : Setup) (m : Nat), m ≤ n ∧ c = setup.start.run (List.replicate m confirmPing)

theorem yielded_pings (m : Nat) (c : GtpConnection) :
    c.yielded (List.replicate m confirmPing) = .none := by
  induction m generalizing c with
  | zero => rfl
  | succ m ih =>
    have hsplit : List.replicate (m + 1) confirmPing =
        [confirmPing] ++ List.replicate m confirmPing := rfl
    rw [hsplit, yielded_append, yielded_singleton, ih]
    rfl

theorem run_pings (m : Nat) (c : GtpConnection) :
    (c.run (List.replicate m confirmPing)).hot.connectionId = c.hot.connectionId ∧
      (c.run (List.replicate m confirmPing)).hot.toSessionKeys = c.hot.toSessionKeys ∧
      (c.run (List.replicate m confirmPing)).hot.state = c.hot.state := by
  induction m generalizing c with
  | zero => exact ⟨rfl, rfl, rfl⟩
  | succ m ih => exact ih (c.step confirmPing)

theorem Pinged.step {n : Nat} {c : GtpConnection} (h : Pinged n c) :
    Pinged (n + 1) (c.run [confirmPing]) := by
  obtain ⟨setup, m, hm, rfl⟩ := h
  refine ⟨setup, m + 1, Nat.succ_le_succ hm, ?_⟩
  rw [← run_append, List.replicate_succ']

theorem Pinged.mono {n : Nat} {c : GtpConnection} (h : Pinged n c) : Pinged (n + 1) c := by
  obtain ⟨setup, m, hm, rfl⟩ := h
  exact ⟨setup, m, Nat.le_succ_of_le hm, rfl⟩

omit [CryptoSuite] in
/-- A fresh connection depends on the keys of its own role only. -/
theorem Setup.start_eq {setup : Setup} {keys : DirectionalKeys} {asClient : Bool}
    (h : setup.keys.forRole setup.asClient = keys.forRole asClient) :
    setup.start = (⟨setup.cid, setup.peerAddr, keys, asClient, setup.preValidated, setup.hotConfig,
      setup.config⟩ : Setup).start := by
  unfold Setup.start newWithHotConfig
  rw [h]

end GtpConnection

/-! ## 2. An endpoint that only shakes hands -/

/-- The connection that a call works on. -/
def Stage.handle? : Stage → Option Nat
  | .awaitFinish _ handle _ => some handle
  | .retract handle _ => some handle
  | .conclude handle _ => some handle
  | .returned (.ok handle) => some handle
  | _ => none

namespace GtpEndpoint

open GtpConnection (Pinged confirmPing)

/-- The connection `k` has the id `cid`. -/
def Serving (ep : GtpEndpoint) (cid : ConnectionId) (k : Nat) : Prop :=
  ∃ s, ep.arena[k]? = some s ∧ s.conn.hot.connectionId = cid

variable [CryptoSuite] [KeyExchange]

/-- After `n` events of handshakes: the connections are fresh but for pings, and a route or a call
leads to a connection of its id. -/
structure Connecting (n : Nat) (ep : GtpEndpoint) : Prop where
  fresh : ∀ (k : Nat) (s : SharedConnection), ep.arena[k]? = some s →
    s.queue = [] ∧ Pinged n s.conn
  routed : Routed ep
  routes : ∀ (cid : ConnectionId) (k : Nat), ep.connections[cid]? = some k → ep.Serving cid k
  calls : ∀ (id : Nat) (call : ConnectCall) (k : Nat), ep.calls[id]? = some call →
    call.stage.handle? = some k → ep.Serving call.cid k

/-- The event is part of a handshake. -/
def Shakes : Event → Prop
  | .receive _ datagram _ _ _ => routeOf datagram = none
  | .connect .. => True
  | .poll .. => True
  | _ => False

theorem Shakes.rearranged {e : Event} (he : Shakes e) (ep : GtpEndpoint) :
    Rearranged ep (ep.claims e) (ep.touches e) (ep.callsOn e) (ep.step e) := by
  refine ep.step_rearranged ?_ ?_
  · rintro src datagram now secret nonce rfl
    exact he
  · rintro handle rfl
    exact he

omit [CryptoSuite] [KeyExchange] in
theorem Shakes.callsOn {e : Event} (he : Shakes e) (ep : GtpEndpoint) (k : Nat) :
    ep.callsOn e k = [] ∨ ep.callsOn e k = [confirmPing] := by
  cases e with
  | poll id failure => exact ep.callsOn_poll id failure k
  | engine handle op => cases he
  | _ => exact Or.inl rfl

omit [KeyExchange] in
theorem Rearranged.origin {ep ep' : GtpEndpoint} {claims : ConnectionId → Prop}
    {touches : Nat → Prop} {calls : Nat → List GtpConnection.Op}
    (h : Rearranged ep claims touches calls ep') {k : Nat} {s' : SharedConnection}
    (hs' : ep'.arena[k]? = some s') :
    (∃ s, ep.arena[k]? = some s ∧ s'.conn = s.conn.run (calls k) ∧ s'.queue = s.queue) ∨
      ∃ setup : GtpConnection.Setup, s' = ⟨setup.start, [], true⟩ := by
  cases hs : ep.arena[k]? with
  | some s =>
    obtain ⟨s'', hs'', hconn, hqueue⟩ := h.conn hs
    obtain rfl := Option.some.inj (hs''.symm.trans hs')
    exact Or.inl ⟨s, rfl, hconn, hqueue⟩
  | none =>
    right
    have hge := List.getElem?_eq_none_iff.mp hs
    cases h with
    | same hcalls harena hmap =>
      rw [harena, hs] at hs'
      cases hs'
    | registered setup hcid hcalls harena hmap =>
      rw [harena, List.getElem?_append_right hge, List.getElem?_singleton] at hs'
      split at hs'
      · exact ⟨setup, (Option.some.inj hs').symm⟩
      · cases hs'
    | used j hj hcalls open' harena hmap =>
      rw [harena, List.getElem?_modify, hs] at hs'
      cases hs'

theorem Serving.step {ep : GtpEndpoint} {cid : ConnectionId} {k : Nat} (h : ep.Serving cid k)
    {e : Event} (he : Shakes e) : (ep.step e).Serving cid k := by
  obtain ⟨s, hs, hcid⟩ := h
  obtain ⟨s', hs', hconn, -⟩ := (he.rearranged ep).conn hs
  refine ⟨s', hs', ?_⟩
  rw [hconn, ← hcid]
  rcases he.callsOn ep k with hcalls | hcalls
  · rw [hcalls]
    rfl
  · rw [hcalls]
    rfl

/-- **A step of `connect`** goes on with its connection, or registers it. -/
theorem advance_stage (ep : GtpEndpoint) (id : Nat) (call : ConnectCall)
    (failure : Option String) :
    ∃ f, (ep.advance id call failure).1.calls = ep.calls.modify id f ∧
      (f call).cid = call.cid ∧ ∀ k, (f call).stage.handle? = some k →
        call.stage.handle? = some k ∨ (ep.advance id call failure).1.Serving call.cid k := by
  have hmove : ∀ (stage : Stage) (ep' : GtpEndpoint), ep'.calls = ep.calls →
      (∀ k, stage.handle? = some k → call.stage.handle? = some k) →
      ∃ f, (ep'.setStage id stage).calls = ep.calls.modify id f ∧ (f call).cid = call.cid ∧
        ∀ k, (f call).stage.handle? = some k →
          call.stage.handle? = some k ∨ (ep'.setStage id stage).Serving call.cid k := by
    intro stage ep' hcalls hstage
    refine ⟨fun call => { call with stage }, ?_, rfl, fun k hk => Or.inl (hstage k hk)⟩
    rw [← hcalls]
    rfl
  have hstay : ∃ f, ep.calls = ep.calls.modify id f ∧ (f call).cid = call.cid ∧
      ∀ k, (f call).stage.handle? = some k →
        call.stage.handle? = some k ∨ ep.Serving call.cid k :=
    ⟨fun call => call, (List.modify_id id ep.calls).symm, rfl, fun k hk => Or.inl hk⟩
  unfold advance
  dsimp only
  cases hstage : call.stage with
  | sendHello hello =>
    rw [hstage] at hmove
    dsimp only
    split
    · exact hmove _ ep rfl nofun
    · exact hmove _ ep rfl nofun
  | awaitHello hello attempts =>
    rw [hstage] at hmove hstay
    dsimp only
    split
    · exact hmove _ ep rfl nofun
    · split
      · exact hmove _ ep rfl nofun
      · split
        · exact hstay
        · split
          · exact hmove _ ep rfl nofun
          · exact hmove _ ep rfl nofun
  | abandon e =>
    rw [hstage] at hmove
    exact hmove _ _ rfl nofun
  | greeted info =>
    rw [hstage] at hmove
    dsimp only
    split
    · exact hmove _ ep rfl nofun
    · exact hmove _ _ rfl nofun
  | sendFinish session =>
    rw [hstage] at hmove
    exact hmove _ ep rfl nofun
  | register session =>
    refine ⟨_, rfl, rfl, fun k hk => Or.inr ?_⟩
    obtain rfl := Option.some.inj hk
    exact ⟨_, List.getElem?_concat_length, rfl⟩
  | awaitFinish session handle rounds =>
    rw [hstage] at hmove hstay
    dsimp only
    split
    · split
      · exact hmove _ ep rfl fun k hk => hk
      · exact hmove _ ep rfl fun k hk => hk
    · split
      · exact hmove _ ep rfl fun k hk => hk
      · split
        · exact hstay
        · refine hmove _ ep rfl fun k hk => ?_
          split at hk
          · exact hk
          · exact hk
  | retract handle e =>
    rw [hstage] at hmove
    exact hmove _ _ rfl nofun
  | conclude handle confirmed =>
    rw [hstage] at hmove
    cases confirmed with
    | true => exact hmove _ _ rfl fun k hk => hk
    | false => exact hmove _ _ rfl nofun
  | returned result =>
    rw [hstage] at hstay
    exact hstay

theorem Shakes.calls {ep : GtpEndpoint} {e : Event} (he : Shakes e) {id k : Nat}
    {call : ConnectCall} (hcall : (ep.step e).calls[id]? = some call)
    (hk : call.stage.handle? = some k) :
    (∃ call₀, ep.calls[id]? = some call₀ ∧ call₀.cid = call.cid ∧
      call₀.stage.handle? = some k) ∨ (ep.step e).Serving call.cid k := by
  have hnotify : ∀ (i : Nat) (f : ConnectCall → ConnectCall),
      (∀ c, (f c).cid = c.cid ∧ (f c).stage = c.stage) →
      (ep.calls.modify i f)[id]? = some call →
      ∃ call₀, ep.calls[id]? = some call₀ ∧ call₀.cid = call.cid ∧
        call₀.stage.handle? = some k := by
    intro i f hf hget
    rw [List.getElem?_modify] at hget
    obtain ⟨call₀, hcall₀, rfl⟩ := Option.map_eq_some_iff.mp hget
    refine ⟨call₀, hcall₀, ?_, ?_⟩
    · split
      · exact (hf call₀).1.symm
      · rfl
    · split at hk
      · rw [← (hf call₀).2]
        exact hk
      · exact hk
  cases e with
  | receive src datagram now secret nonce =>
    left
    have hstep : ep.step (.receive src datagram now secret nonce) =
        (ep.onDatagram src datagram now secret nonce).1 := rfl
    rw [hstep] at hcall
    rcases ep.onDatagram_clientSide src datagram now secret nonce with hsame | ⟨cid, info, hsame⟩ |
      ⟨cid, proof, -, hsame⟩
    · rw [(Prod.mk.inj hsame).1] at hcall
      exact ⟨call, hcall, rfl, hk⟩
    · rw [hsame] at hcall
      unfold onServerHello at hcall
      split at hcall
      · exact ⟨call, hcall, rfl, hk⟩
      · exact hnotify _ (fun call => { call with hello := some info }) (fun _ => ⟨rfl, rfl⟩) hcall
    · rw [hsame] at hcall
      unfold onServerFinish at hcall
      split at hcall
      · exact ⟨call, hcall, rfl, hk⟩
      · exact hnotify _ (fun call => { call with proof := some proof }) (fun _ => ⟨rfl, rfl⟩) hcall
  | connect cid peerAddr secret nonce =>
    left
    change (ep.calls ++ [_])[id]? = some call at hcall
    rw [List.getElem?_append] at hcall
    split at hcall
    · exact ⟨call, hcall, rfl, hk⟩
    · rw [List.getElem?_singleton] at hcall
      split at hcall
      · obtain rfl := Option.some.inj hcall
        dsimp only at hk
        split at hk
        · cases hk
        · cases hk
      · cases hcall
  | poll i failure =>
    unfold GtpEndpoint.step handle at hcall ⊢
    dsimp only at hcall ⊢
    cases hi : ep.calls[i]? with
    | none =>
      rw [hi] at hcall
      exact Or.inl ⟨call, hcall, rfl, hk⟩
    | some c =>
      rw [hi] at hcall
      dsimp only at hcall ⊢
      obtain ⟨f, hf, hcid, hstage⟩ := ep.advance_stage i c failure
      rw [hf, List.getElem?_modify] at hcall
      obtain ⟨call₀, hcall₀, rfl⟩ := Option.map_eq_some_iff.mp hcall
      by_cases hid : i = id
      · subst hid
        obtain rfl := Option.some.inj (hi.symm.trans hcall₀)
        rw [if_pos rfl] at hk ⊢
        rw [hcid]
        exact (hstage k hk).imp_left fun hk' => ⟨c, hi, rfl, hk'⟩
      · rw [if_neg hid] at hk ⊢
        exact Or.inl ⟨call₀, hcall₀, rfl, hk⟩
  | _ => cases he

/-- **An event of a handshake.** -/
theorem Connecting.step {n : Nat} {ep : GtpEndpoint} (h : Connecting n ep) {e : Event}
    (he : Shakes e) : Connecting (n + 1) (ep.step e) := by
  have hre := he.rearranged ep
  refine ⟨fun k s' hs' => ?_, hre.routed h.routed, fun cid k hk => ?_, fun id call k hcall hk => ?_⟩
  · rcases hre.origin hs' with ⟨s, hs, hconn, hqueue⟩ | ⟨setup, rfl⟩
    · obtain ⟨hempty, hpinged⟩ := h.fresh k s hs
      refine ⟨hqueue.trans hempty, ?_⟩
      rw [hconn]
      rcases he.callsOn ep k with hcalls | hcalls
      · rw [hcalls]
        exact hpinged.mono
      · rw [hcalls]
        exact hpinged.step
    · exact ⟨rfl, setup, 0, Nat.zero_le _, rfl⟩
  · cases hre with
    | same hcalls harena hmap => exact (h.routes cid k (hmap ▸ hk)).step he
    | registered setup hcid hcalls harena hmap =>
      rw [hmap, Maps.getElem?_insert] at hk
      split at hk
      · rename_i heq
        obtain rfl := Option.some.inj hk
        refine ⟨⟨setup.start, [], true⟩, ?_, heq⟩
        rw [harena]
        exact List.getElem?_concat_length
      · exact (h.routes cid k hk).step he
    | used j hj hcalls open' harena hmap => exact (h.routes cid k (hmap ▸ hk)).step he
  · rcases he.calls hcall hk with ⟨call₀, hcall₀, hcid, hk₀⟩ | hserving
    · rw [← hcid]
      exact (h.calls id call₀ k hcall₀ hk₀).step he
    · exact hserving

omit [KeyExchange] in
theorem Connecting.mono {n : Nat} {ep : GtpEndpoint} (h : Connecting n ep) :
    Connecting (n + 1) ep :=
  ⟨fun k s hs => ⟨(h.fresh k s hs).1, (h.fresh k s hs).2.mono⟩, h.routed, h.routes, h.calls⟩

omit [KeyExchange] in
theorem bind_connecting (tokenSecret : Bytes 32) (identity : Option StaticIdentity)
    (pinned : Option (Bytes 32)) : Connecting 0 (bind tokenSecret identity pinned) := by
  have hnone : ∀ (cid : ConnectionId) (k : Nat),
      (bind tokenSecret identity pinned).connections[cid]? ≠ some k := by
    intro cid k hk
    have hempty : (bind tokenSecret identity pinned).connections[cid]? = none :=
      Std.ExtTreeMap.getElem?_empty
    cases hempty.symm.trans hk
  refine ⟨fun k s hs => ?_, ⟨fun cid k hk => absurd hk (hnone cid k),
    fun cid cid' k hk => absurd hk (hnone cid k)⟩, fun cid k hk => absurd hk (hnone cid k),
    fun id call k hcall => ?_⟩
  · change ([] : List SharedConnection)[k]? = some s at hs
    cases hs
  · change ([] : List ConnectCall)[id]? = some call at hcall
    cases hcall

omit [CryptoSuite] [KeyExchange] in
/-- A datagram of the handshake is routed to no connection. -/
theorem routeOf_of_isHandshake {datagram : List UInt8} (h : IsHandshake datagram) :
    routeOf datagram = none := by
  obtain ⟨header, headerLen, hdecode, hcandidate, b, hb, hhead⟩ := h
  unfold routeOf
  rw [hdecode]
  dsimp only
  rw [hcandidate, hhead, Bool.true_and, if_pos]
  exact List.contains_iff_mem.mpr (List.mem_map_of_mem (f := some) hb)

end GtpEndpoint

/-! ## 3. The two ends of a handshake -/

theorem Ideal.mono [CryptoSuite] [KeyExchange] {used used' : List Confirmation} (h : Ideal used)
    (hsub : used' ⊆ used) : Ideal used' :=
  ⟨fun p hp q hq => h.hkdf p (hsub hp) q (hsub hq), fun p hp q hq => h.hmac p (hsub hp) q (hsub hq)⟩

namespace World

open GtpConnection (Pinged confirmPing)
open GtpEndpoint (Connecting sessionKeys)

variable [KeyExchange] [CryptoSuite]

theorem atClient_connecting {n : Nat} {w : World} (hserver : Connecting n w.server)
    (hclients : ∀ c ∈ w.clients, Connecting n c.2) (client : Nat) {e : GtpEndpoint.Event}
    (he : GtpEndpoint.Shakes e) :
    Connecting (n + 1) (w.atClient client e).server ∧
      ∀ c ∈ (w.atClient client e).clients, Connecting (n + 1) c.2 := by
  unfold atClient
  split
  · exact ⟨hserver.mono, fun c hc => (hclients c hc).mono⟩
  · rename_i addr ep hget
    refine ⟨hserver.mono, fun c hc => ?_⟩
    rcases List.mem_or_eq_of_mem_set hc with hc | rfl
    · exact (hclients c hc).mono
    · exact (hclients _ (List.mem_of_getElem? hget)).step he

/-- **A move**, with nothing but handshakes on the network. -/
theorem step_connecting {n : Nat} {w : World} (hwire : ∀ p ∈ w.wire, IsHandshake p.datagram)
    (hserver : Connecting n w.server) (hclients : ∀ c ∈ w.clients, Connecting n c.2) (m : Move) :
    Connecting (n + 1) (w.step m).server ∧ ∀ c ∈ (w.step m).clients, Connecting (n + 1) c.2 := by
  have hstay : Connecting (n + 1) w.server ∧ ∀ c ∈ w.clients, Connecting (n + 1) c.2 :=
    ⟨hserver.mono, fun c hc => (hclients c hc).mono⟩
  cases m with
  | connect client cid secret nonce => exact atClient_connecting hserver hclients client trivial
  | poll client id failure => exact atClient_connecting hserver hclients client trivial
  | toServer packet now secret nonce =>
    unfold World.step
    dsimp only
    split
    · exact hstay
    · rename_i p hp
      split
      · have hshakes : GtpEndpoint.Shakes (.receive p.src p.datagram now secret nonce) :=
          GtpEndpoint.routeOf_of_isHandshake (hwire p (List.mem_of_getElem? hp))
        exact ⟨hserver.step hshakes, hstay.2⟩
      · exact hstay
  | toClient client packet now secret nonce =>
    unfold World.step
    dsimp only
    split
    · rename_i p addr ep hp hget
      split
      · exact atClient_connecting hserver hclients client
          (GtpEndpoint.routeOf_of_isHandshake (hwire p (List.mem_of_getElem? hp)))
      · exact hstay
    · exact hstay

theorem used_subset (w : World) (before after : List Move) :
    used w before ⊆ used w (before ++ after) := by
  unfold used
  rw [Runs.outputs_append, Runs.outputs_append, List.filterMap_append, List.filterMap_append]
  intro conf hconf
  rcases List.mem_append.mp hconf with hconf | hconf
  · exact List.mem_append_left _ (List.mem_append_left _ hconf)
  · exact List.mem_append_right _ (List.mem_append_left _ hconf)

/-- The endpoints of a run have done nothing but shake hands. -/
theorem run_connecting (s : Setup) (moves : List Move) (hfree : Runs.Along step Free s.start moves)
    (hideal : Ideal (used s.start moves)) :
    Connecting moves.length (s.start.run moves).server ∧
      ∀ c ∈ (s.start.run moves).clients, Connecting moves.length c.2 := by
  have hwires : Runs.Along step (fun w _ => ∀ p ∈ w.wire, IsHandshake p.datagram) s.start
      moves := by
    refine Runs.along_iff.mpr fun before m after hmoves p hp => ?_
    rw [hmoves] at hfree hideal
    have hagrees := run_agrees s before (Runs.along_append.mp hfree).1
      (hideal.mono (used_subset s.start before _))
    rcases hagrees.wire p hp with ⟨-, hclient⟩ | hserver
    · exact hclient.1
    · exact hserver.1
  have hstart : Connecting 0 s.start.server ∧ ∀ c ∈ s.start.clients, Connecting 0 c.2 := by
    refine ⟨GtpEndpoint.bind_connecting _ _ _, fun c hc => ?_⟩
    obtain ⟨client, -, rfl⟩ := List.mem_map.mp hc
    exact GtpEndpoint.bind_connecting _ _ _
  have hrun := hwires.preserves
    (Q := fun n w => Connecting n w.server ∧ ∀ c ∈ w.clients, Connecting n c.2)
    (fun n w m _ hw hc => step_connecting hw hc.1 hc.2 m) (Nat.le_refl (0 + moves.length)) hstart
  rw [Nat.zero_add] at hrun
  exact hrun

omit [KeyExchange] in
/-- A connection that has only been pinged is a fresh one with the keys that it holds. -/
theorem pinged_setup {n : Nat} {c : GtpConnection} (h : Pinged n c) {keys : DirectionalKeys}
    {asClient : Bool} (hkeys : ((c.hot.txKey, c.hot.txIv), (c.hot.rxKey, c.hot.rxIv)) =
      keys.forRole asClient) :
    ∃ (setup : GtpConnection.Setup) (m : Nat), m ≤ n ∧ setup.cid = c.hot.connectionId ∧
      setup.keys = keys ∧ setup.asClient = asClient ∧
      c = setup.start.run (List.replicate m confirmPing) := by
  obtain ⟨setup, m, hm, rfl⟩ := h
  obtain ⟨hcid, hsession, -⟩ := GtpConnection.run_pings m setup.start
  have hown : setup.keys.forRole setup.asClient = keys.forRole asClient := by
    rw [← hkeys, hsession]
    rfl
  rw [GtpConnection.Setup.start_eq hown] at hcid ⊢
  exact ⟨⟨setup.cid, setup.peerAddr, keys, asClient, setup.preValidated, setup.hotConfig,
    setup.config⟩, m, hm, hcid.symm, rfl, rfl, rfl⟩

/-- **The two ends of a handshake.**  When a call of `connect` has returned `Ok`, its connection and
the one that the server has registered are the fresh ends of one session, but for pings. -/
theorem connect_session (s : Setup) (moves : List Move)
    (hfree : Runs.Along step Free s.start moves) (hideal : Ideal (used s.start moves))
    {addr : SocketAddr} {ep : GtpEndpoint} (hclient : (addr, ep) ∈ (s.start.run moves).clients)
    {id handle : Nat} {call : ConnectCall} (hcall : ep.calls[id]? = some call)
    (hok : call.stage = .returned (.ok handle)) :
    ∃ (net : Net.Session) (serverHandle : Nat) (ours theirs : SharedConnection) (m m' : Nat),
      net.cid = call.cid ∧ ep.arena[handle]? = some ours ∧
      (s.start.run moves).server.connections[call.cid]? = some serverHandle ∧
      (s.start.run moves).server.arena[serverHandle]? = some theirs ∧
      ours.queue = [] ∧ theirs.queue = [] ∧ m ≤ moves.length ∧ m' ≤ moves.length ∧
      ours.conn = (net.setup true).start.run (List.replicate m confirmPing) ∧
      theirs.conn = (net.setup false).start.run (List.replicate m' confirmPing) := by
  have hstage := (((run_agrees s moves hfree hideal).clients _ hclient).2 id call hcall).stage
  obtain ⟨hserver, hclients⟩ := run_connecting s moves hfree hideal
  have hep := hclients _ hclient
  rw [hok] at hstage
  obtain ⟨conf, ⟨-, serverHandle, hmap, theirs, htheirs, htheirKeys⟩, hcid, ours, hours,
    hourKeys⟩ := hstage
  rw [hcid] at hmap
  -- both connections have the id of the call
  obtain ⟨ours', hours', hourCid⟩ := hep.calls id call handle hcall (by rw [hok]; rfl)
  obtain rfl := Option.some.inj (hours.symm.trans hours')
  obtain ⟨theirs', htheirs', htheirCid⟩ := hserver.routes call.cid serverHandle hmap
  obtain rfl := Option.some.inj (htheirs.symm.trans htheirs')
  obtain ⟨hourQueue, hourPings⟩ := hep.fresh handle ours hours
  obtain ⟨htheirQueue, htheirPings⟩ := hserver.fresh serverHandle theirs htheirs
  obtain ⟨a, m, hm, hacid, hakeys, harole, hourConn⟩ := pinged_setup hourPings hourKeys
  obtain ⟨b, m', hm', hbcid, hbkeys, hbrole, htheirConn⟩ := pinged_setup htheirPings htheirKeys
  refine ⟨⟨call.cid, sessionKeys conf, fun x => bif x then a.peerAddr else b.peerAddr,
    fun x => bif x then a.preValidated else b.preValidated,
    fun x => bif x then a.hotConfig else b.hotConfig,
    fun x => bif x then a.config else b.config⟩, serverHandle, ours, theirs, m, m', rfl, hours,
    hmap, htheirs, hourQueue, htheirQueue, hm, hm', ?_, ?_⟩
  · rw [hourConn]
    cases a
    subst hakeys harole
    rw [Net.Session.setup, ← hourCid, ← hacid]
    rfl
  · rw [htheirConn]
    cases b
    subst hbkeys hbrole
    rw [Net.Session.setup, ← htheirCid, ← hbcid]
    rfl

end World

/-! ## 4. One direction -/

/-- What one application takes was sent by the other: nothing is made up, and no unreliable message
is taken more often than it was sent. -/
structure CameFrom (taken accepted : List ReceivedMessage) : Prop where
  sent : taken ⊆ accepted
  once : (taken.filter ReceivedMessage.isState).Subperm
    (accepted.filter ReceivedMessage.isState)

namespace GtpEndpoint

open GtpConnection (confirmPing Yield)

variable [CryptoSuite] [KeyExchange]

/-- What is taken from the channel was returned by the engine. -/
theorem taken_sublist {ep : GtpEndpoint} {k : Nat} {s : SharedConnection}
    (hs : ep.arena[k]? = some s) (hempty : s.queue = []) (hbegun : s.conn.Begun)
    (hrouted : Routed ep) (events : List Event) :
    (ep.taken k events).Sublist (ep.returned k events) := by
  have hstart : Balanced ep k [] [] := by
    unfold Balanced
    rw [hs]
    refine ⟨?_, ?_, hbegun, ?_, Or.inl ?_⟩
    · rw [hempty]
      exact List.Sublist.refl _
    · rw [hempty]
      exact Nat.zero_le _
    · rw [hempty]
      exact List.prefix_rfl
    · rw [hempty]
      rfl
  have hb := run_balanced hrouted hstart events
  rw [List.nil_append, List.nil_append] at hb
  unfold Balanced at hb
  split at hb
  · exact (List.sublist_append_left _ _).trans hb.sublist
  · rw [hb.1, hb.2]

/-- **One direction.**  Two connections are the ends of a session, but for pings.  If one opens
nothing but what the TX task of the other hands out, its application takes nothing but what the
application of the other sends. -/
theorem direction_cameFrom (hround : CryptoSuite.RoundTrips) (net : Net.Session) (x : Bool)
    (hsep : Net.PhasesSeparate (net.base x) net.cid) {sender receiver : GtpEndpoint}
    {i j m m' : Nat} {s r : SharedConnection} (hs : sender.arena[i]? = some s)
    (hr : receiver.arena[j]? = some r)
    (hsconn : s.conn = (net.setup x).start.run (List.replicate m confirmPing))
    (hrconn : r.conn = (net.setup (!x)).start.run (List.replicate m' confirmPing))
    (hempty : r.queue = []) (hrouted : Routed receiver) (sends receives : List Event)
    (hsends : m + 2 * sends.length < 2 ^ 64 - 1)
    (hreceives : m' + 2 * receives.length < 2 ^ 64 - 1)
    (hwire : Runs.Along step (OpensOnly (· ∈ sender.handedOut i sends) j) receiver receives) :
    CameFrom (receiver.taken j receives) (sender.accepted i sends) := by
  have hall : Runs.Along step (OpensOnly (fun _ => True) i) sender sends :=
    Runs.along_of_forall (fun _ _ _ _ _ _ _ _ _ => trivial) sends sender
  obtain ⟨_, sent, -, hleads, -, hout, haccepted⟩ := run_leads hs sends hall
  obtain ⟨_, got, -, hleadr, hreturned, -, -⟩ := run_leads hr receives hwire
  obtain ⟨ops, -, hsent, hops, -⟩ := hleads s.conn (.refl _)
  obtain ⟨ops', -, hgot, hops', hin⟩ := hleadr r.conn (.refl _)
  -- the calls of both ends from the beginning of the session
  have hsent' : (net.setup x).start.yielded (List.replicate m confirmPing ++ ops) = sent := by
    rw [GtpConnection.yielded_append, GtpConnection.yielded_pings, Yield.none_append, ← hsconn,
      hsent]
  have hgot' : (net.setup (!x)).start.yielded (List.replicate m' confirmPing ++ ops') = got := by
    rw [GtpConnection.yielded_append, GtpConnection.yielded_pings, Yield.none_append, ← hrconn,
      hgot]
  have hlen : (List.replicate m confirmPing ++ ops).length < 2 ^ 64 - 1 := by
    rw [List.length_append, List.length_replicate]
    omega
  have hlen' : (List.replicate m' confirmPing ++ ops').length < 2 ^ 64 - 1 := by
    rw [List.length_append, List.length_replicate]
    omega
  have hdatagrams : ∀ src dg now ecn,
      .handleIncoming src dg now ecn ∈ List.replicate m' confirmPing ++ ops' →
      dg ∈ (net.setup x).start.handedOut (List.replicate m confirmPing ++ ops) := by
    intro src dg now ecn hop
    rcases List.mem_append.mp hop with hop | hop
    · cases List.eq_of_mem_replicate hop
    · have hdg := hin src dg now ecn hop
      rw [← hout, ← hsent'] at hdg
      exact hdg
  have hbegun : r.conn.Begun := by
    rw [hrconn]
    exact GtpConnection.Begun.run (Or.inl rfl) _
  have htaken := (taken_sublist hr hempty hbegun hrouted receives).trans hreturned
  rw [← hgot'] at htaken
  rw [← haccepted, ← hsent']
  have hstates := GtpConnection.states_subperm hround net x hsep _ _ (by omega) (by omega)
    hdatagrams
  refine ⟨fun msg hmsg => ?_, (htaken.filter _).subperm.trans hstates⟩
  cases hstate : msg.isState with
  | true =>
    have hmem := hstates.subset (List.mem_filter.mpr ⟨htaken.subset hmsg, hstate⟩)
    exact (List.mem_filter.mp hmem).1
  | false =>
    exact GtpConnection.reliable_was_sent hround net x hsep _ _ hlen (by omega) hdatagrams
      (htaken.subset hmsg) hstate

end GtpEndpoint

/-! ## 5. Both directions -/

namespace World

open GtpConnection (confirmPing)
open GtpEndpoint (OpensOnly)

variable [KeyExchange] [CryptoSuite]

/-- **From the handshake to the application.**  Let a call of `connect` return `Ok` on a network
that loses, repeats and reorders, where handshakes are completed only for ids that are free
(`hfree`), the primitives are ideal on what occurs (`hideal`) and the phases of the connection have
separate keys (`hsepTx`, `hsepRx`).  And let the two endpoints do whatever they like from there on,
as long as no counter wraps: other connections, other handshakes, closing, going away.  While the
server's connection opens nothing but what the TX task of the client's has handed out, the
application behind it takes nothing but what the client's application sent with `Ok`, as the wire
shows it, and no unreliable message more often than it was sent; and the same holds the other
way. -/
theorem applications_connected (hround : CryptoSuite.RoundTrips) (s : Setup) (moves : List Move)
    (hfree : Runs.Along step Free s.start moves) (hideal : Ideal (used s.start moves))
    {addr : SocketAddr} {ep : GtpEndpoint} (hclient : (addr, ep) ∈ (s.start.run moves).clients)
    {id handle : Nat} {call : ConnectCall} (hcall : ep.calls[id]? = some call)
    (hok : call.stage = .returned (.ok handle)) {ours : SharedConnection}
    (hours : ep.arena[handle]? = some ours)
    (hsepTx : Net.PhasesSeparate (ours.conn.hot.txKey, ours.conn.hot.txIv) call.cid)
    (hsepRx : Net.PhasesSeparate (ours.conn.hot.rxKey, ours.conn.hot.rxIv) call.cid)
    (clientEvents serverEvents : List GtpEndpoint.Event)
    (hclientEvents : moves.length + 2 * clientEvents.length < 2 ^ 64 - 1)
    (hserverEvents : moves.length + 2 * serverEvents.length < 2 ^ 64 - 1) :
    ∃ serverHandle, (s.start.run moves).server.connections[call.cid]? = some serverHandle ∧
      (Runs.Along GtpEndpoint.step
          (OpensOnly (· ∈ ep.handedOut handle clientEvents) serverHandle)
          (s.start.run moves).server serverEvents →
        CameFrom ((s.start.run moves).server.taken serverHandle serverEvents)
          (ep.accepted handle clientEvents)) ∧
      (Runs.Along GtpEndpoint.step
          (OpensOnly (· ∈ (s.start.run moves).server.handedOut serverHandle serverEvents) handle)
          ep clientEvents →
        CameFrom (ep.taken handle clientEvents)
          ((s.start.run moves).server.accepted serverHandle serverEvents)) := by
  obtain ⟨hserver, hclients⟩ := run_connecting s moves hfree hideal
  obtain ⟨net, serverHandle, ours', theirs, m, m', hcid, hours', hmap, htheirs, hourQueue,
    htheirQueue, hm, hm', hourConn, htheirConn⟩ :=
    connect_session s moves hfree hideal hclient hcall hok
  obtain rfl := Option.some.inj (hours.symm.trans hours')
  -- the keys of the connection are those that the session begins with
  have hkeys : ours.conn.hot.toSessionKeys = (net.setup true).start.hot.toSessionKeys := by
    rw [hourConn]
    exact (GtpConnection.run_pings m _).2.1
  have htx : (ours.conn.hot.txKey, ours.conn.hot.txIv) = net.base true := by
    rw [hkeys]
    rfl
  have hrx : (ours.conn.hot.rxKey, ours.conn.hot.rxIv) = net.base false := by
    rw [hkeys]
    rfl
  rw [htx, ← hcid] at hsepTx
  rw [hrx, ← hcid] at hsepRx
  refine ⟨serverHandle, hmap, fun hwire => ?_, fun hwire => ?_⟩
  · exact GtpEndpoint.direction_cameFrom hround net true hsepTx hours htheirs hourConn htheirConn
      htheirQueue hserver.routed clientEvents serverEvents (by omega) (by omega) hwire
  · exact GtpEndpoint.direction_cameFrom hround net false hsepRx htheirs hours htheirConn hourConn
      hourQueue (hclients _ hclient).routed serverEvents clientEvents (by omega) (by omega) hwire

end World

/-! ## 6. On a concrete handshake -/

/-- A suite whose traffic keys begin with their labels, and whose later keys are told apart by their
phases. -/
@[reducible] def chainSuite : CryptoSuite :=
  { keyTagSuite with
    expand := fun salt ikm info n =>
      if salt = label "GTP_V1_1_KEY_RATCHET_SALT" then keyTagExpand ikm info n
      else fit n (info.take 1 ++ ikm.take 7) }

theorem chainSuite_roundTrips : @CryptoSuite.RoundTrips chainSuite := keyTagSuite_roundTrips

/-- Its key chains are those of `keyTagSuite`. -/
theorem chainSuite_separates {base : Bytes 32 × Bytes 12} (cid : ConnectionId)
    (hbase : (base.1.toList.drop 8).take 8 = BigEndian.toBe 8 0) :
    @Net.PhasesSeparate chainSuite base cid := by
  have hchain : ∀ phase, @keyChain chainSuite base cid phase =
      @keyChain keyTagSuite base cid phase := by
    intro phase
    induction phase with
    | zero => rfl
    | succ phase ih =>
      have hratchet : ∀ key, @ratchetKey chainSuite key cid (phase + 1) =
          @ratchetKey keyTagSuite key cid (phase + 1) := by
        intro key
        unfold ratchetKey
        simp [CryptoSuite.expand]
      change @ratchetKey chainSuite (@keyChain chainSuite base cid phase).1 cid (phase + 1) =
        @ratchetKey keyTagSuite (@keyChain keyTagSuite base cid phase).1 cid (phase + 1)
      rw [ih, hratchet]
  intro i j hi hj hij pn aad pt ct tag henc
  have hprotector : ∀ phase, @protectorAt chainSuite base cid phase =
      @protectorAt keyTagSuite base cid phase := by
    intro phase
    unfold protectorAt
    rw [hchain]
  rw [hchain, hprotector] at henc ⊢
  exact Net.keyTagSuite_separates cid hbase i j hi hj hij pn aad pt ct tag henc

namespace World.Sample

open GtpEndpoint (OpensOnly)

attribute [local instance] chainSuite additiveExchange

/-- The client's application sends a message, and its TX task a datagram. -/
def posts : List GtpEndpoint.Event :=
  [.engine 0 (.sendReliableOrdered 1 [42] .p1Input none 2000),
    .engine 0 (.produce 2000 (List.replicate 200 0))]

/-- The server gets what was handed out, and its application takes a message. -/
def fetches (client : GtpEndpoint) : List GtpEndpoint.Event :=
  (client.handedOut 0 posts).map (.receive ⟨2, 5000⟩ · 3000 (key 0) (key 0)) ++ [.recv 0]

/-- The theorem at the handshake of the first client and a message that it sends. -/
theorem applications_connected_one : ∃ addr ep, (addr, ep) ∈ (setup.start.run one).clients ∧
    ((setup.start.run one).server.taken 0 (fetches ep)).map ReceivedMessage.payload = [[42]] ∧
    CameFrom ((setup.start.run one).server.taken 0 (fetches ep)) (ep.accepted 0 posts) := by
  obtain ⟨hfree, hideal, hreturned, hkeys, htaken, hserver⟩ :
      Runs.Along step Free setup.start one ∧ Ideal (used setup.start one) ∧
      ((setup.start.run one).clients[0]?.bind fun c => c.2.calls[0]?.map fun call =>
        (call.cid, call.stage)) = some (7, .returned (.ok 0)) ∧
      ((setup.start.run one).clients[0]?.bind fun c => c.2.arena[0]?.map fun s =>
        ((s.conn.hot.txKey.toList.drop 8).take 8, (s.conn.hot.rxKey.toList.drop 8).take 8)) =
          some (BigEndian.toBe 8 0, BigEndian.toBe 8 0) ∧
      ((setup.start.run one).clients[0]?.map fun c =>
        (((setup.start.run one).server.taken 0 (fetches c.2)).map ReceivedMessage.payload,
          (fetches c.2).length)) = some ([[42]], 2) ∧
      (setup.start.run one).server.connections[(7 : ConnectionId)]? = some 0 := by
    decide +kernel
  obtain ⟨⟨addr, ep⟩, hget, hreturned⟩ := Option.bind_eq_some_iff.mp hreturned
  obtain ⟨call, hcall, hvalues⟩ := Option.map_eq_some_iff.mp hreturned
  obtain ⟨hcid, hok⟩ := Prod.mk.inj hvalues
  rw [hget] at hkeys htaken
  obtain ⟨ours, hours, hvalues⟩ := Option.map_eq_some_iff.mp hkeys
  obtain ⟨htx, hrx⟩ := Prod.mk.inj hvalues
  obtain ⟨hpayloads, hlength⟩ := Prod.mk.inj (Option.some.inj htaken)
  have hmem := List.mem_of_getElem? hget
  obtain ⟨serverHandle, hmap, hforth, -⟩ := applications_connected chainSuite_roundTrips setup one
    hfree hideal hmem hcall hok hours (chainSuite_separates call.cid htx)
    (chainSuite_separates call.cid hrx) posts (fetches ep) (by decide)
    (by rw [hlength]; decide)
  rw [hcid, hserver] at hmap
  obtain rfl := Option.some.inj hmap
  refine ⟨addr, ep, hmem, hpayloads, hforth (Runs.along_iff.mpr ?_)⟩
  intro before e after hevents datagram s hbrings _ _ _ _
  have he : e ∈ fetches ep := hevents ▸ List.mem_append_right before List.mem_cons_self
  rcases List.mem_append.mp he with he | he
  · obtain ⟨dg, hdg, rfl⟩ := List.mem_map.mp he
    exact hbrings.1 ▸ hdg
  · obtain rfl := List.mem_singleton.mp he
    cases hbrings

end World.Sample

end Gtp
