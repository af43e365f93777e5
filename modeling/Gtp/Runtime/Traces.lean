/-
# What a failed `connect` leaves behind

A call of `connect` that returns an error should leave the three maps of the endpoint as if it had
not been made.  It does so as long as it fails before it is answered: every waiter it registered is
removed, whatever else happens at the endpoint (`Early`).  Once it has taken a `ServerHello` that
passes the pin and gives a contributory key, it registers its connection under the id, in place of
the one that was there, and no error exit takes it back (`Late`).

* `Beside` is what everything else at the endpoint can do to a call: hand it a value.
* `Early.beside` and `Early.poll` keep an unanswered call unanswered, `Takes.late` is the step that
  takes the answer, and `Late.beside` and `Late.poll` keep the connection in the map.
* `Known`: every waiter was registered by a call that has been made, so that a new call finds none
  of its own.
* `failed_connect_traceless_iff` puts the two together, and `failed_connect_replaces` is a run in
  which the confirmation does not come.

Others may touch the map entry of the id while the call runs; the equivalence is about runs in which
nobody does (`Undisturbed`), the other half about all runs.  The waiters of two calls under one id
replace each other in the map, and the theorem covers this too: the number of the call tells them
apart.
-/
import Gtp.Runtime.Steps
import Gtp.Lib.Runs

namespace Gtp

namespace GtpEndpoint

section

variable [KeyExchange] [CryptoSuite]

/-! ## 1. What happens beside a call -/

/-- What an event that is no step of the call `k` can do to it: hand it a value. -/
structure Beside (k : Nat) (ep ep' : GtpEndpoint) : Prop where
  call : ∀ call, ep.calls[k]? = some call → ∃ hello proof,
    ep'.calls[k]? = some { call with hello, proof } ∧ (hello = call.hello ∨
      ∃ cid, ep.pendingClientHandshakes[cid]? = some k ∧
        ep'.pendingClientHandshakes = ep.pendingClientHandshakes.erase cid)
  client : ∀ cid : ConnectionId, ep'.pendingClientHandshakes[cid]? = some k →
    ep.pendingClientHandshakes[cid]? = some k
  finishes : ∀ cid : ConnectionId, ep'.pendingServerFinishes[cid]? = some k →
    ep.pendingServerFinishes[cid]? = some k
  pinned : ep'.trustedServerStatic = ep.trustedServerStatic

omit [KeyExchange] [CryptoSuite] in
theorem Beside.of_clientSide {k : Nat} {ep ep' : GtpEndpoint}
    (h : ep'.clientSide = ep.clientSide) : Beside k ep ep' := by
  obtain ⟨hcalls, h⟩ := Prod.mk.inj h
  obtain ⟨hclient, h⟩ := Prod.mk.inj h
  obtain ⟨hfinishes, hpinned⟩ := Prod.mk.inj h
  refine ⟨fun call hcall => ⟨call.hello, call.proof, ?_, Or.inl rfl⟩, ?_, ?_, hpinned⟩
  · rw [hcalls]
    exact hcall
  · intro cid h
    rw [hclient] at h
    exact h
  · intro cid h
    rw [hfinishes] at h
    exact h

omit [KeyExchange] [CryptoSuite] in
theorem getElem?_of_erase {m : Std.ExtTreeMap ConnectionId Nat compare} {cid c : ConnectionId}
    {v : Nat} (h : (m.erase cid)[c]? = some v) : cid ≠ c ∧ m[c]? = some v := by
  rw [Maps.getElem?_erase] at h
  split at h
  · cases h
  · rename_i hne
    exact ⟨hne, h⟩

omit [KeyExchange] [CryptoSuite] in
theorem onServerHello_beside (ep : GtpEndpoint) (k : Nat) (cid : ConnectionId)
    (info : ServerHelloInfo) : Beside k ep (ep.onServerHello cid info) := by
  unfold onServerHello
  split
  · exact .of_clientSide rfl
  · rename_i id hid
    refine ⟨fun call hcall => ?_, fun c h => (getElem?_of_erase h).2, fun c h => h, rfl⟩
    by_cases hk : id = k
    · subst hk
      refine ⟨some info, call.proof, ?_, Or.inr ⟨cid, hid, rfl⟩⟩
      change (ep.calls.modify id _)[id]? = _
      rw [List.getElem?_modify_eq, hcall]
      rfl
    · refine ⟨call.hello, call.proof, ?_, Or.inl rfl⟩
      change (ep.calls.modify id _)[k]? = _
      rw [List.getElem?_modify_ne _ _ hk]
      exact hcall

omit [KeyExchange] [CryptoSuite] in
theorem onServerFinish_beside (ep : GtpEndpoint) (k : Nat) (cid : ConnectionId)
    (proof : Bytes 32) : Beside k ep (ep.onServerFinish cid proof) := by
  unfold onServerFinish
  split
  · exact .of_clientSide rfl
  · rename_i id hid
    refine ⟨fun call hcall => ?_, fun c h => h, fun c h => (getElem?_of_erase h).2, rfl⟩
    by_cases hk : id = k
    · subst hk
      refine ⟨call.hello, some proof, ?_, Or.inl rfl⟩
      change (ep.calls.modify id _)[id]? = _
      rw [List.getElem?_modify_eq, hcall]
      rfl
    · refine ⟨call.hello, call.proof, ?_, Or.inl rfl⟩
      change (ep.calls.modify id _)[k]? = _
      rw [List.getElem?_modify_ne _ _ hk]
      exact hcall

omit [KeyExchange] [CryptoSuite] in
theorem Advanced.beside {ep ep' : GtpEndpoint} {id k : Nat} (h : Advanced ep id ep')
    (hk : id ≠ k) : Beside k ep ep' := by
  obtain ⟨f, hcalls, -⟩ := h.calls
  refine ⟨fun call hcall => ⟨call.hello, call.proof, ?_, Or.inl rfl⟩, ?_, ?_, h.pinned⟩
  · rw [hcalls, List.getElem?_modify_ne _ _ hk]
    exact hcall
  · intro c hc
    rcases h.client with heq | ⟨cid, heq⟩
    · rw [heq] at hc
      exact hc
    · rw [heq] at hc
      exact (getElem?_of_erase hc).2
  · intro c hc
    rcases h.finishes with heq | ⟨cid, heq⟩ | ⟨cid, heq⟩
    · rw [heq] at hc
      exact hc
    · rw [heq] at hc
      exact (getElem?_of_erase hc).2
    · rw [heq, Maps.getElem?_insert] at hc
      split at hc
      · exact absurd (Option.some.inj hc) hk
      · exact hc

/-- **Everything else that happens at the endpoint** leaves a call where it stands. -/
theorem step_beside {ep : GtpEndpoint} {k : Nat} {e : Event} (hk : k < ep.calls.length)
    (he : ∀ failure, e ≠ .poll k failure) : Beside k ep (ep.step e) := by
  cases e with
  | receive src datagram now secret nonce =>
    change Beside k ep (ep.onDatagram src datagram now secret nonce).1
    rcases ep.onDatagram_clientSide src datagram now secret nonce with h | ⟨cid, info, h⟩ |
      ⟨cid, proof, -, h⟩
    · exact .of_clientSide h
    · rw [h]
      exact onServerHello_beside ep k cid info
    · rw [h]
      exact onServerFinish_beside ep k cid proof
  | connect cid peerAddr secret nonce =>
    refine ⟨fun call hcall => ⟨call.hello, call.proof, ?_, Or.inl rfl⟩, ?_, fun c h => h, rfl⟩
    · change (ep.calls ++ [_])[k]? = _
      rw [List.getElem?_append_left hk]
      exact hcall
    · intro c hc
      change (ep.pendingClientHandshakes.insert cid ep.calls.length)[c]? = some k at hc
      rw [Maps.getElem?_insert] at hc
      split at hc
      · exact absurd (Option.some.inj hc) (Nat.ne_of_gt hk)
      · exact hc
  | poll id failure =>
    have hid : id ≠ k := by
      intro h
      exact he failure (by rw [h])
    change Beside k ep (ep.handle (.poll id failure)).1
    unfold handle
    dsimp only
    split
    · exact (ep.advance_advanced id _ failure).beside hid
    · exact .of_clientSide rfl
  | adopt cid peerAddr keys asClient preValidated => exact .of_clientSide rfl
  | engine handle op =>
    change Beside k ep (ep.handle (.engine handle op)).1
    unfold GtpEndpoint.handle
    dsimp only
    split
    · exact .of_clientSide rfl
    · exact .of_clientSide rfl
  | recv handle => exact .of_clientSide rfl
  | drop handle => exact .of_clientSide rfl

/-! ## 2. Before the call is answered -/

omit [KeyExchange] [CryptoSuite] in
/-- The stages in which the waiter for `ServerHello` may be registered. -/
def Waits : Stage → Prop
  | .sendHello _ => True
  | .awaitHello _ _ => True
  | .abandon _ => True
  | _ => False

omit [CryptoSuite] in
/-- The stages of a call that no acceptable `ServerHello` has reached. -/
def Unanswered (ep : GtpEndpoint) (call : ConnectCall) : Prop :=
  Waits call.stage ∨ (∃ info e, call.stage = .greeted info ∧ ep.clientSecret call.pair info = .error e) ∨
    ∃ e, call.stage = .returned (.error e)

omit [CryptoSuite] in
/-- The call `k` for `cid` has not been answered: of its entries there is at most the waiter. -/
structure Early (k : Nat) (cid : ConnectionId) (ep : GtpEndpoint) : Prop where
  call : ∃ call, ep.calls[k]? = some call ∧ call.cid = cid ∧ call.asyncConn = none ∧
    Unanswered ep call ∧
    ∀ c : ConnectionId, ep.pendingClientHandshakes[c]? = some k →
      c = cid ∧ call.hello = none ∧ Waits call.stage
  finishes : ∀ c : ConnectionId, ep.pendingServerFinishes[c]? ≠ some k

omit [CryptoSuite] in
theorem Unanswered.congr {ep ep' : GtpEndpoint} {call call' : ConnectCall} (h : Unanswered ep call)
    (hstage : call'.stage = call.stage) (hpair : call'.pair = call.pair)
    (hpinned : ep'.trustedServerStatic = ep.trustedServerStatic) : Unanswered ep' call' := by
  have hsecret : ∀ info, ep'.clientSecret call'.pair info = ep.clientSecret call.pair info := by
    intro info
    unfold clientSecret
    rw [hpinned, hpair]
  unfold Unanswered
  rw [hstage]
  simp only [hsecret]
  exact h

omit [CryptoSuite] in
theorem Early.beside {k : Nat} {cid : ConnectionId} {ep ep' : GtpEndpoint} (h : Early k cid ep)
    (hb : Beside k ep ep') : Early k cid ep' := by
  obtain ⟨call, hcall, hcid, hasync, hstage, hwaiter⟩ := h.call
  obtain ⟨hello, proof, hcall', hhello⟩ := hb.call call hcall
  refine ⟨⟨_, hcall', hcid, hasync, hstage.congr rfl rfl hb.pinned, ?_⟩, ?_⟩
  · intro c hc
    obtain ⟨rfl, hnone, hwaits⟩ := hwaiter c (hb.client c hc)
    refine ⟨rfl, ?_, hwaits⟩
    rcases hhello with heq | ⟨c', hc', herase⟩
    · exact heq.trans hnone
    · -- the waiter was taken out of the map when the value was handed over
      have heq := (hwaiter c' hc').1
      rw [herase, heq] at hc
      exact absurd rfl (getElem?_of_erase hc).1
  · intro c hc
    exact h.finishes c (hb.finishes c hc)

/-- The call takes a `ServerHello` that passes the pin and gives a contributory key. -/
def Takes (k : Nat) (ep : GtpEndpoint) (e : Event) : Prop :=
  ∃ failure call hello attempts info shared, e = .poll k failure ∧ ep.calls[k]? = some call ∧
    call.stage = .awaitHello hello attempts ∧ call.hello = some info ∧
    ep.clientSecret call.pair info = .ok shared

theorem step_poll {ep : GtpEndpoint} {k : Nat} {call : ConnectCall} (h : ep.calls[k]? = some call)
    (failure : Option String) : ep.step (.poll k failure) = (ep.advance k call failure).1 := by
  unfold step handle
  dsimp only
  rw [h]

omit [KeyExchange] [CryptoSuite] in
theorem calls_setStage {ep : GtpEndpoint} {k : Nat} {call : ConnectCall}
    (h : ep.calls[k]? = some call) (stage : Stage) :
    (ep.setStage k stage).calls[k]? = some { call with stage } := by
  change (ep.calls.modify k _)[k]? = _
  rw [List.getElem?_modify_eq, h]
  rfl

omit [CryptoSuite] in
/-- The call moves on to another stage without an answer. -/
theorem Early.setStage {k : Nat} {cid : ConnectionId} {ep : GtpEndpoint} {call : ConnectCall}
    (h : Early k cid ep) (hcall : ep.calls[k]? = some call) {stage : Stage}
    (hstage : Unanswered ep { call with stage })
    (hwaits : call.hello = none → Waits call.stage → Waits stage) :
    Early k cid (ep.setStage k stage) := by
  obtain ⟨call', hcall', hcid, hasync, -, hwaiter⟩ := h.call
  rw [hcall] at hcall'
  cases hcall'
  refine ⟨⟨_, calls_setStage hcall stage, hcid, hasync, ?_, ?_⟩, h.finishes⟩
  · exact hstage.congr rfl rfl rfl
  · intro c hc
    obtain ⟨heq, hnone, hw⟩ := hwaiter c hc
    exact ⟨heq, hnone, hwaits hnone hw⟩

/-- **A step of the call itself** before it is answered: nothing is registered. -/
theorem Early.poll {k : Nat} {cid : ConnectionId} {ep : GtpEndpoint} (h : Early k cid ep)
    (failure : Option String) (hnot : ¬ Takes k ep (.poll k failure)) :
    Early k cid (ep.step (.poll k failure)) ∧
      (ep.step (.poll k failure)).connections = ep.connections := by
  obtain ⟨call, hcall, hcid, hasync, hun, hwaiter⟩ := h.call
  rw [step_poll hcall]
  have hmove : ∀ stage, Waits stage → (call.hello = none → Waits call.stage → Waits stage) →
      Early k cid (ep.setStage k stage) ∧ (ep.setStage k stage).connections = ep.connections :=
    fun stage hw hwaits => ⟨h.setStage hcall (Or.inl hw) hwaits, rfl⟩
  rcases hun with hw | ⟨info, e, hstage, hsecret⟩ | ⟨e, hstage⟩
  · cases hstage : call.stage with
    | sendHello hello =>
      unfold advance
      rw [hstage]
      dsimp only
      split
      · exact hmove _ trivial fun _ _ => trivial
      · exact hmove _ trivial fun _ _ => trivial
    | awaitHello hello attempts =>
      unfold advance
      rw [hstage]
      dsimp only
      split
      · rename_i info hinfo
        refine ⟨h.setStage hcall (Or.inr (Or.inl ?_)) ?_, rfl⟩
        · cases hsecret : ep.clientSecret call.pair info with
          | error e => exact ⟨info, e, rfl, hsecret⟩
          | ok shared =>
            exact absurd ⟨failure, call, hello, attempts, info, shared, rfl, hcall, hstage, hinfo,
              hsecret⟩ hnot
        · intro hnone
          rw [hinfo] at hnone
          cases hnone
      · split
        · exact hmove _ trivial fun _ _ => trivial
        · split
          · exact ⟨h, rfl⟩
          · split
            · exact hmove _ trivial fun _ _ => trivial
            · exact hmove _ trivial fun _ _ => trivial
    | abandon e =>
      unfold advance
      rw [hstage]
      refine ⟨⟨⟨_, calls_setStage hcall _, hcid, hasync, Or.inr (Or.inr ⟨e, rfl⟩), ?_⟩, h.finishes⟩,
        rfl⟩
      intro c hc
      obtain ⟨hne, hc⟩ := getElem?_of_erase hc
      exact absurd (hcid.trans (hwaiter c hc).1.symm) hne
    | greeted => rw [hstage] at hw; cases hw
    | sendFinish => rw [hstage] at hw; cases hw
    | register => rw [hstage] at hw; cases hw
    | awaitFinish => rw [hstage] at hw; cases hw
    | retract => rw [hstage] at hw; cases hw
    | conclude => rw [hstage] at hw; cases hw
    | returned => rw [hstage] at hw; cases hw
  · unfold advance
    rw [hstage]
    dsimp only
    have hsession : ep.clientSession call info = .error e := by
      unfold clientSession
      rw [hsecret]
      rfl
    rw [hsession]
    refine ⟨h.setStage hcall (Or.inr (Or.inr ⟨e, rfl⟩)) ?_, rfl⟩
    intro _ hw
    rw [hstage] at hw
    cases hw
  · unfold advance
    rw [hstage]
    exact ⟨h, rfl⟩

/-! ## 3. After the call is answered -/

omit [KeyExchange] [CryptoSuite] in
/-- The stages after `register_connection`. -/
def Confirms : Stage → Prop
  | .awaitFinish _ _ _ => True
  | .retract _ _ => True
  | .conclude _ _ => True
  | .returned _ => True
  | _ => False

/-- The call `k` for `cid` is going to register its connection, or has, and it is there. -/
def Late (k : Nat) (cid : ConnectionId) (ep : GtpEndpoint) : Prop :=
  ∃ call, ep.calls[k]? = some call ∧ call.cid = cid ∧
    ((∃ info session, call.stage = .greeted info ∧ ep.clientSession call info = .ok session) ∨
      (∃ session, call.stage = .sendFinish session) ∨ (∃ session, call.stage = .register session) ∨
      ∃ handle, call.asyncConn = some handle ∧ ep.connections[cid]? = some handle ∧
        Confirms call.stage)

omit [CryptoSuite] in
theorem clientSecret_congr {ep ep' : GtpEndpoint} (h : ep'.trustedServerStatic = ep.trustedServerStatic)
    (pair : EphemeralKeyPair) (info : ServerHelloInfo) :
    ep'.clientSecret pair info = ep.clientSecret pair info := by
  unfold clientSecret
  rw [h]

theorem clientSession_congr {ep ep' : GtpEndpoint} {call call' : ConnectCall}
    (hpinned : ep'.trustedServerStatic = ep.trustedServerStatic) (hpair : call'.pair = call.pair)
    (hcid : call'.cid = call.cid) (info : ServerHelloInfo) :
    ep'.clientSession call' info = ep.clientSession call info := by
  unfold clientSession clientTranscript
  rw [clientSecret_congr hpinned, hpair, hcid]

theorem Takes.late {k : Nat} {cid : ConnectionId} {ep : GtpEndpoint} {e : Event}
    (h : Takes k ep e) (hcid : ∀ call, ep.calls[k]? = some call → call.cid = cid) :
    Late k cid (ep.step e) := by
  obtain ⟨failure, call, hello, attempts, info, shared, rfl, hcall, hstage, hinfo, hsecret⟩ := h
  rw [step_poll hcall]
  unfold advance
  rw [hstage]
  dsimp only
  rw [hinfo]
  refine ⟨_, calls_setStage hcall _, hcid call hcall, Or.inl ⟨info, ?_⟩⟩
  obtain ⟨finish, hsession, -⟩ := clientSession_ok hsecret
  exact ⟨_, rfl, (clientSession_congr rfl rfl rfl info).trans hsession⟩

/-- What others do, as long as they leave the map entry of the id alone. -/
theorem Late.beside {k : Nat} {cid : ConnectionId} {ep ep' : GtpEndpoint} (h : Late k cid ep)
    (hb : Beside k ep ep') (hkept : ep'.connections[cid]? = ep.connections[cid]?) :
    Late k cid ep' := by
  obtain ⟨call, hcall, hcid, hstage⟩ := h
  obtain ⟨hello, proof, hcall', -⟩ := hb.call call hcall
  refine ⟨_, hcall', hcid, ?_⟩
  rcases hstage with ⟨info, session, hstage, hsession⟩ | hstage | hstage | ⟨handle, hasync, hconn,
    hstage⟩
  · exact Or.inl ⟨info, session, hstage,
      (clientSession_congr hb.pinned rfl rfl info).trans hsession⟩
  · exact Or.inr (Or.inl hstage)
  · exact Or.inr (Or.inr (Or.inl hstage))
  · exact Or.inr (Or.inr (Or.inr ⟨handle, hasync, hkept.trans hconn, hstage⟩))

/-- A step of the call itself: the connection is registered and stays. -/
theorem Late.poll {k : Nat} {cid : ConnectionId} {ep : GtpEndpoint} (h : Late k cid ep)
    (failure : Option String) : Late k cid (ep.step (.poll k failure)) := by
  obtain ⟨call, hcall, hcid, hstage⟩ := h
  rw [step_poll hcall]
  rcases hstage with ⟨info, session, hstage, hsession⟩ | ⟨session, hstage⟩ | ⟨session, hstage⟩ |
    ⟨handle, hasync, hconn, hstage⟩
  · unfold advance
    rw [hstage]
    dsimp only
    rw [hsession]
    exact ⟨_, calls_setStage hcall _, hcid, Or.inr (Or.inl ⟨session, rfl⟩)⟩
  · unfold advance
    rw [hstage]
    exact ⟨_, calls_setStage hcall _, hcid, Or.inr (Or.inr (Or.inl ⟨session, rfl⟩))⟩
  · unfold advance
    rw [hstage]
    refine ⟨{ call with asyncConn := some ep.arena.length,
                        stage := .awaitFinish session ep.arena.length 0 }, ?_, hcid,
      Or.inr (Or.inr (Or.inr ⟨ep.arena.length, rfl, ?_, trivial⟩))⟩
    · change (ep.calls.modify k _)[k]? = _
      rw [List.getElem?_modify_eq, hcall]
      rfl
    · change (ep.connections.insert call.cid ep.arena.length)[cid]? = _
      rw [Maps.getElem?_insert, if_pos hcid]
  · have hmove : ∀ (ep' : GtpEndpoint) (stage : Stage), ep'.calls = ep.calls →
        ep'.connections = ep.connections →
        Confirms stage → Late k cid (ep'.setStage k stage) := by
      intro ep' stage hcalls hconns hconfirms
      rw [← hcalls] at hcall
      rw [← hconns] at hconn
      exact ⟨_, calls_setStage hcall stage, hcid,
        Or.inr (Or.inr (Or.inr ⟨handle, hasync, hconn, hconfirms⟩))⟩
    have hsame : Late k cid ep :=
      ⟨call, hcall, hcid, Or.inr (Or.inr (Or.inr ⟨handle, hasync, hconn, hstage⟩))⟩
    cases hnow : call.stage with
    | awaitFinish session h' rounds =>
      unfold advance
      rw [hnow]
      dsimp only
      split
      · split
        · exact hmove ep _ rfl rfl trivial
        · exact hmove ep _ rfl rfl trivial
      · split
        · exact hmove ep _ rfl rfl trivial
        · split
          · exact hsame
          · split
            · exact hmove ep _ rfl rfl trivial
            · exact hmove ep _ rfl rfl trivial
    | retract h' e =>
      unfold advance
      rw [hnow]
      exact hmove _ _ rfl rfl trivial
    | conclude h' confirmed =>
      unfold advance
      rw [hnow]
      dsimp only
      split
      · exact hmove _ _ rfl rfl trivial
      · exact hmove _ _ rfl rfl trivial
    | returned result =>
      unfold advance
      rw [hnow]
      exact hsame
    | sendHello => rw [hnow] at hstage; cases hstage
    | awaitHello => rw [hnow] at hstage; cases hstage
    | abandon => rw [hnow] at hstage; cases hstage
    | greeted => rw [hnow] at hstage; cases hstage
    | sendFinish => rw [hnow] at hstage; cases hstage
    | register => rw [hnow] at hstage; cases hstage

/-! ## 4. Waiters belong to calls -/

omit [KeyExchange] [CryptoSuite] in
/-- Every waiter was registered by a call that has been made. -/
structure Known (ep : GtpEndpoint) : Prop where
  client : ∀ (c : ConnectionId) (id : Nat), ep.pendingClientHandshakes[c]? = some id →
    id < ep.calls.length
  finishes : ∀ (c : ConnectionId) (id : Nat), ep.pendingServerFinishes[c]? = some id →
    id < ep.calls.length

omit [KeyExchange] [CryptoSuite] in
theorem Known.of_clientSide {ep ep' : GtpEndpoint} (h : Known ep)
    (heq : ep'.clientSide = ep.clientSide) : Known ep' := by
  obtain ⟨hcalls, heq⟩ := Prod.mk.inj heq
  obtain ⟨hclient, heq⟩ := Prod.mk.inj heq
  obtain ⟨hfinishes, -⟩ := Prod.mk.inj heq
  refine ⟨fun c id hc => ?_, fun c id hc => ?_⟩
  · rw [hclient] at hc
    rw [hcalls]
    exact h.client c id hc
  · rw [hfinishes] at hc
    rw [hcalls]
    exact h.finishes c id hc

omit [KeyExchange] [CryptoSuite] in
theorem Known.advanced {ep ep' : GtpEndpoint} {id : Nat} (h : Known ep) (ha : Advanced ep id ep')
    (hid : id < ep.calls.length) : Known ep' := by
  obtain ⟨f, hcalls, -⟩ := ha.calls
  have hlen : ep'.calls.length = ep.calls.length := by rw [hcalls, List.length_modify]
  refine ⟨fun c i hc => ?_, fun c i hc => ?_⟩
  · rw [hlen]
    rcases ha.client with heq | ⟨cid, heq⟩
    · rw [heq] at hc
      exact h.client c i hc
    · rw [heq] at hc
      exact h.client c i (getElem?_of_erase hc).2
  · rw [hlen]
    rcases ha.finishes with heq | ⟨cid, heq⟩ | ⟨cid, heq⟩
    · rw [heq] at hc
      exact h.finishes c i hc
    · rw [heq] at hc
      exact h.finishes c i (getElem?_of_erase hc).2
    · rw [heq, Maps.getElem?_insert] at hc
      split at hc
      · rw [← Option.some.inj hc]
        exact hid
      · exact h.finishes c i hc

omit [KeyExchange] [CryptoSuite] in
theorem length_notify (ep : GtpEndpoint) (id : Nat) (f : ConnectCall → ConnectCall) :
    (ep.notify id f).calls.length = ep.calls.length := List.length_modify ..

theorem step_known {ep : GtpEndpoint} (h : Known ep) (e : Event) : Known (ep.step e) := by
  cases e with
  | receive src datagram now secret nonce =>
    change Known (ep.onDatagram src datagram now secret nonce).1
    rcases ep.onDatagram_clientSide src datagram now secret nonce with heq | ⟨cid, info, heq⟩ |
      ⟨cid, proof, -, heq⟩
    · exact h.of_clientSide heq
    · rw [heq]
      unfold onServerHello
      split
      · exact h
      · refine ⟨fun c id hc => ?_, fun c id hc => ?_⟩
        · rw [length_notify]
          exact h.client c id (getElem?_of_erase hc).2
        · rw [length_notify]
          exact h.finishes c id hc
    · rw [heq]
      unfold onServerFinish
      split
      · exact h
      · refine ⟨fun c id hc => ?_, fun c id hc => ?_⟩
        · rw [length_notify]
          exact h.client c id hc
        · rw [length_notify]
          exact h.finishes c id (getElem?_of_erase hc).2
  | connect cid peerAddr secret nonce =>
    have hlen : (ep.step (.connect cid peerAddr secret nonce)).calls.length =
        ep.calls.length + 1 := List.length_append ..
    refine ⟨fun c id hc => ?_, fun c id hc => ?_⟩
    · change (ep.pendingClientHandshakes.insert cid ep.calls.length)[c]? = some id at hc
      rw [hlen]
      rw [Maps.getElem?_insert] at hc
      split at hc
      · rw [← Option.some.inj hc]
        exact Nat.lt_succ_self _
      · exact Nat.lt_succ_of_lt (h.client c id hc)
    · rw [hlen]
      exact Nat.lt_succ_of_lt (h.finishes c id hc)
  | poll id failure =>
    change Known (ep.handle (.poll id failure)).1
    unfold handle
    dsimp only
    split
    · rename_i call hcall
      exact h.advanced (ep.advance_advanced id call failure)
        (List.getElem?_eq_some_iff.mp hcall).1
    · exact h
  | adopt cid peerAddr keys asClient preValidated => exact h.of_clientSide rfl
  | engine handle op =>
    change Known (ep.handle (.engine handle op)).1
    unfold GtpEndpoint.handle
    dsimp only
    split
    · exact h.of_clientSide rfl
    · exact h
  | recv handle => exact h.of_clientSide rfl
  | drop handle => exact h.of_clientSide rfl

theorem Reachable.known {ep : GtpEndpoint} (h : Reachable ep) : Known ep := by
  obtain ⟨tokenSecret, identity, pinned, events, rfl⟩ := h
  have hruns : Runs.Along step (fun _ _ => True) (bind tokenSecret identity pinned) events :=
    Runs.along_of_forall (fun _ _ => trivial) events _
  refine hruns.preserves_always (Q := Known) (fun ep e _ hep => step_known hep e) ⟨?_, ?_⟩
  · intro c id hc
    change (∅ : Std.ExtTreeMap ConnectionId Nat compare)[c]? = some id at hc
    rw [Std.ExtTreeMap.getElem?_empty] at hc
    cases hc
  · intro c id hc
    change (∅ : Std.ExtTreeMap ConnectionId Nat compare)[c]? = some id at hc
    rw [Std.ExtTreeMap.getElem?_empty] at hc
    cases hc

/-! ## 5. Runs -/

/-- Somewhere in the run, the call takes an acceptable `ServerHello`. -/
def Answered (k : Nat) (ep : GtpEndpoint) (events : List Event) : Prop :=
  ∃ before e after, events = before ++ e :: after ∧ Takes k (ep.run before) e

/-- Nobody but the call `k` touches the map entry of `cid`: no datagram closes that connection, and
no other call registers one under the id. -/
def Undisturbed (k : Nat) (cid : ConnectionId) (ep : GtpEndpoint) (events : List Event) : Prop :=
  Runs.Along step (fun ep e => (∀ failure, e ≠ .poll k failure) →
    (ep.step e).connections[cid]? = ep.connections[cid]?) ep events

omit [KeyExchange] [CryptoSuite] in
/-- The maps hold no entry of the call. -/
structure NoEntry (k : Nat) (call : ConnectCall) (ep : GtpEndpoint) : Prop where
  client : ∀ c : ConnectionId, ep.pendingClientHandshakes[c]? ≠ some k
  finishes : ∀ c : ConnectionId, ep.pendingServerFinishes[c]? ≠ some k
  connections : ∀ (c : ConnectionId) (handle : Nat), ep.connections[c]? = some handle →
    call.asyncConn ≠ some handle

omit [KeyExchange] [CryptoSuite] in
/-- The maps hold no entry of the call, and what was registered for the id before it still is. -/
def Traceless (k : Nat) (call : ConnectCall) (cid : ConnectionId) (ep ep' : GtpEndpoint) : Prop :=
  NoEntry k call ep' ∧
    ∀ handle, ep.connections[cid]? = some handle → ep'.connections[cid]? = some handle

omit [CryptoSuite] in
theorem connect_early {ep : GtpEndpoint} (h : Known ep) (cid : ConnectionId)
    (peerAddr : SocketAddr) (secret nonce : Bytes 32) :
    Early ep.calls.length cid (ep.connect cid peerAddr secret nonce) := by
  obtain ⟨frame, hframe⟩ : ∃ frame, frame = Frame.clientHello
      (EphemeralKeyPair.generate secret nonce).publicKey (EphemeralKeyPair.generate secret nonce).nonce
      protocolVersion := ⟨_, rfl⟩
  have hsize : minLongHeaderLen + frame.needed ≤ 128 := by
    rw [hframe]
    exact (by decide : minLongHeaderLen + (1 + 32 + 32 + 4) ≤ 128)
  have hpacket := handshakePacket_eq cid 0 hsize (by rw [hframe]; rfl)
  unfold connect
  dsimp only
  rw [← hframe, hpacket]
  refine ⟨⟨_, List.getElem?_concat_length .., rfl, rfl, Or.inl trivial, ?_⟩, ?_⟩
  · intro c hc
    change (ep.pendingClientHandshakes.insert cid ep.calls.length)[c]? = some ep.calls.length at hc
    rw [Maps.getElem?_insert] at hc
    split at hc
    · rename_i heq
      exact ⟨heq.symm, rfl, trivial⟩
    · exact absurd (h.client c _ hc) (Nat.lt_irrefl _)
  · intro c hc
    exact absurd (h.finishes c _ hc) (Nat.lt_irrefl _)

omit [CryptoSuite] in
theorem Early.lt {k : Nat} {cid : ConnectionId} {ep : GtpEndpoint} (h : Early k cid ep) :
    k < ep.calls.length := by
  obtain ⟨call, hcall, -⟩ := h.call
  exact (List.getElem?_eq_some_iff.mp hcall).1

theorem Early.step {k : Nat} {cid : ConnectionId} {ep : GtpEndpoint} (h : Early k cid ep)
    {e : Event} (hnot : ¬ Takes k ep e) : Early k cid (ep.step e) := by
  by_cases he : ∃ failure, e = .poll k failure
  · obtain ⟨failure, rfl⟩ := he
    exact (h.poll failure hnot).1
  · exact h.beside (step_beside h.lt fun failure heq => he ⟨failure, heq⟩)

/-- **A run without an answer** leaves the call unanswered. -/
theorem Early.run {k : Nat} {cid : ConnectionId} {ep : GtpEndpoint} (h : Early k cid ep)
    {events : List Event} (hnot : ¬ Answered k ep events) : Early k cid (ep.run events) := by
  have hruns : Runs.Along GtpEndpoint.step (fun ep e => ¬ Takes k ep e) ep events :=
    Runs.along_iff.mpr fun before e after heq htakes => hnot ⟨before, e, after, heq, htakes⟩
  exact hruns.preserves_always (fun ep e hnot hep => hep.step hnot) h

/-- An unanswered call does not touch the connections. -/
theorem Early.kept {k : Nat} {cid : ConnectionId} {ep : GtpEndpoint} (h : Early k cid ep)
    {events : List Event} (hnot : ¬ Answered k ep events) (hund : Undisturbed k cid ep events) :
    (ep.run events).connections[cid]? = ep.connections[cid]? := by
  have hruns : Runs.Along GtpEndpoint.step (fun ep e => ¬ Takes k ep e ∧ ((∀ failure, e ≠ .poll k failure) →
      (ep.step e).connections[cid]? = ep.connections[cid]?)) ep events :=
    Runs.along_iff.mpr fun before e after heq =>
      ⟨fun htakes => hnot ⟨before, e, after, heq, htakes⟩, Runs.along_iff.mp hund before e after heq⟩
  have hend := hruns.preserves_always
    (Q := fun ep' => Early k cid ep' ∧ ep'.connections[cid]? = ep.connections[cid]?) ?_ ⟨h, rfl⟩
  · exact hend.2
  · rintro ep' e ⟨hnot, hothers⟩ ⟨hearly, hsame⟩
    refine ⟨hearly.step hnot, ?_⟩
    by_cases he : ∃ failure, e = .poll k failure
    · obtain ⟨failure, rfl⟩ := he
      rw [(hearly.poll failure hnot).2]
      exact hsame
    · exact (hothers fun failure heq => he ⟨failure, heq⟩).trans hsame

theorem step_cid {k : Nat} {ep : GtpEndpoint} {call : ConnectCall} (hcall : ep.calls[k]? = some call)
    (e : Event) : ∃ call', (ep.step e).calls[k]? = some call' ∧ call'.cid = call.cid := by
  by_cases he : ∃ failure, e = .poll k failure
  · obtain ⟨failure, rfl⟩ := he
    rw [step_poll hcall]
    obtain ⟨f, hcalls, hcid⟩ := (ep.advance_advanced k call failure).calls
    refine ⟨f call, ?_, hcid call⟩
    rw [hcalls, List.getElem?_modify_eq, hcall]
    rfl
  · have hlt := (List.getElem?_eq_some_iff.mp hcall).1
    obtain ⟨hello, proof, hcall', -⟩ :=
      (step_beside hlt fun failure heq => he ⟨failure, heq⟩).call call hcall
    exact ⟨_, hcall', rfl⟩

theorem run_cid {k : Nat} {ep : GtpEndpoint} {call : ConnectCall} (hcall : ep.calls[k]? = some call)
    (events : List Event) : ∃ call', (ep.run events).calls[k]? = some call' ∧
      call'.cid = call.cid := by
  have hruns : Runs.Along step (fun _ _ => True) ep events :=
    Runs.along_of_forall (fun _ _ => trivial) events ep
  refine hruns.preserves_always
    (Q := fun ep' => ∃ call', ep'.calls[k]? = some call' ∧ call'.cid = call.cid) ?_ ⟨call, hcall, rfl⟩
  rintro ep' e - ⟨call', hcall', hcid⟩
  obtain ⟨call'', hcall'', hcid'⟩ := step_cid hcall' e
  exact ⟨call'', hcall'', hcid'.trans hcid⟩

theorem Late.lt {k : Nat} {cid : ConnectionId} {ep : GtpEndpoint} (h : Late k cid ep) :
    k < ep.calls.length := by
  obtain ⟨call, hcall, -⟩ := h
  exact (List.getElem?_eq_some_iff.mp hcall).1

/-- **A run with the answer** ends with the call's connection in the map. -/
theorem Answered.late {k : Nat} {cid : ConnectionId} {ep : GtpEndpoint} {call : ConnectCall}
    (hcall : ep.calls[k]? = some call) (hcid : call.cid = cid) {events : List Event}
    (h : Answered k ep events) (hund : Undisturbed k cid ep events) :
    Late k cid (ep.run events) := by
  obtain ⟨before, e, after, rfl, htakes⟩ := h
  obtain ⟨call', hcall', hcid'⟩ := run_cid hcall before
  have hlate : Late k cid ((ep.run before).step e) := by
    refine htakes.late fun call'' hcall'' => ?_
    rw [hcall'] at hcall''
    cases hcall''
    exact hcid'.trans hcid
  have hruns : ep.run (before ++ e :: after) = ((ep.run before).step e).run after := by
    unfold run
    rw [List.foldl_append]
    rfl
  rw [hruns]
  refine (Runs.along_append.mp hund).2.2.preserves_always ?_ hlate
  intro ep' e' hothers hep
  by_cases he : ∃ failure, e' = .poll k failure
  · obtain ⟨failure, rfl⟩ := he
    exact hep.poll failure
  · have hne : ∀ failure, e' ≠ .poll k failure := fun failure heq => he ⟨failure, heq⟩
    exact hep.beside (step_beside hep.lt hne) (hothers hne)

/-- **A failed `connect`.** Whatever happens at the endpoint while the call runs: when it returns an
error and was not answered, the maps hold no entry of it.  If nobody else touches the map entry of
the id, then it leaves no trace at all exactly when it was not answered. -/
theorem failed_connect_traceless_iff {ep : GtpEndpoint} (hep : Reachable ep) (cid : ConnectionId)
    (peerAddr : SocketAddr) (secret nonce : Bytes 32) (events : List Event) {call : ConnectCall}
    {error : TransportError}
    (hcall : ((ep.connect cid peerAddr secret nonce).run events).calls[ep.calls.length]? = some call)
    (hfailed : call.stage = .returned (.error error)) :
    (¬ Answered ep.calls.length (ep.connect cid peerAddr secret nonce) events →
      NoEntry ep.calls.length call ((ep.connect cid peerAddr secret nonce).run events)) ∧
    (Undisturbed ep.calls.length cid (ep.connect cid peerAddr secret nonce) events →
      (Traceless ep.calls.length call cid ep ((ep.connect cid peerAddr secret nonce).run events) ↔
        ¬ Answered ep.calls.length (ep.connect cid peerAddr secret nonce) events)) := by
  have hearly := connect_early hep.known cid peerAddr secret nonce
  have hconn : (ep.connect cid peerAddr secret nonce).connections = ep.connections := rfl
  generalize ep.connect cid peerAddr secret nonce = start at hearly hcall hconn ⊢
  generalize ep.calls.length = k at hearly hcall ⊢
  have hnone : ¬ Answered k start events → NoEntry k call (start.run events) := by
    intro hnot
    have hend := hearly.run hnot
    obtain ⟨call', hcall', -, hasync, -, hwaiter⟩ := hend.call
    rw [hcall] at hcall'
    cases hcall'
    refine ⟨fun c hc => ?_, hend.finishes, fun c handle _ hasync' => ?_⟩
    · have hwaits := (hwaiter c hc).2.2
      rw [hfailed] at hwaits
      cases hwaits
    · rw [hasync] at hasync'
      cases hasync'
  refine ⟨hnone, fun hund => ⟨fun htraceless hanswered => ?_, fun hnot => ⟨hnone hnot, ?_⟩⟩⟩
  · obtain ⟨first, hfirst, hcid, -⟩ := hearly.call
    obtain ⟨call', hcall', -, hstage⟩ := Answered.late hfirst hcid hanswered hund
    rw [hcall] at hcall'
    cases hcall'
    rw [hfailed] at hstage
    rcases hstage with ⟨info, session, hstage, -⟩ | ⟨session, hstage⟩ | ⟨session, hstage⟩ |
      ⟨handle, hasync, hmap, -⟩
    · cases hstage
    · cases hstage
    · cases hstage
    · exact htraceless.1.connections cid handle hmap hasync
  · intro handle hhandle
    rw [hearly.kept hnot hund, hconn]
    exact hhandle

end

/-! ## 6. On a concrete endpoint -/

namespace Sample

attribute [local instance] labelSuite additiveExchange

/-- A key or a nonce of one byte. -/
def key (b : UInt8) : Bytes 32 := List.Vector.replicate 32 b

/-- A client endpoint. -/
def client : GtpEndpoint := bind (key 8) none none

/-- The endpoint while it has a connection under the id 7. -/
def connected : GtpEndpoint :=
  client.step (.adopt 7 ⟨3, 4433⟩ ⟨key 1, List.Vector.replicate 12 1, key 2,
    List.Vector.replicate 12 2⟩ true true)

theorem reachable_connected : Reachable connected := ⟨_, _, _, [_], rfl⟩

/-- The call is not answered: eight timers fire. -/
def silence : List Event := .poll 0 none :: List.replicate 9 (.poll 0 (some ""))

/-- The call that gave up. -/
def timedOut : ConnectCall :=
  ⟨7, ⟨1, 4433⟩, ⟨key 1, key 1, key 2⟩, none, none, none, .returned (.error .handshakeTimeout)⟩

/-- The theorem at a call that is not answered. -/
theorem failed_connect_silence :
    ((connected.connect 7 ⟨1, 4433⟩ (key 1) (key 2)).run silence).calls[0]? = some timedOut ∧
      (¬ Answered 0 (connected.connect 7 ⟨1, 4433⟩ (key 1) (key 2)) silence →
        NoEntry 0 timedOut ((connected.connect 7 ⟨1, 4433⟩ (key 1) (key 2)).run silence)) := by
  have hcall : ((connected.connect 7 ⟨1, 4433⟩ (key 1) (key 2)).run silence).calls[0]? =
      some timedOut := by decide +kernel
  exact ⟨hcall, (failed_connect_traceless_iff reachable_connected 7 ⟨1, 4433⟩ (key 1) (key 2)
    silence hcall rfl).1⟩

/-- A server answers, and then says nothing more. -/
def halfAnswer : List Event :=
  [.poll 0 none,
    .receive ⟨1, 4433⟩ ((handshakePacket 256 7 0 (.serverHello (key 3) (key 4) (key 5) 7
      (key 0))).toOption.getD []) 10 (key 0) (key 0)] ++
    List.replicate 4 (.poll 0 none) ++ List.replicate 9 (.poll 0 (some ""))

/-- **The confirmation does not come.**  The call returns an error, and its connection stands in the
map in the place of the one that was registered before. -/
theorem failed_connect_replaces :
    (((connected.connect 7 ⟨1, 4433⟩ (key 1) (key 2)).run halfAnswer).calls[0]?.map fun call =>
        (call.stage, call.asyncConn)) = some (.returned (.error .handshakeTimeout), some 1) ∧
      connected.connections[(7 : ConnectionId)]? = some 0 ∧
      ((connected.connect 7 ⟨1, 4433⟩ (key 1) (key 2)).run halfAnswer).connections[
        (7 : ConnectionId)]? = some 1 := by
  decide +kernel

end Sample

end GtpEndpoint

end Gtp
